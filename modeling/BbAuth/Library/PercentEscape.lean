import Mathlib.Data.List.Basic

namespace Library.PercentEscape

section

variable {α : Type} [DecidableEq α] (mark : α) (digit : α → Option Nat) (char : Nat → α)

-- What an escaped text denotes, if every mark in it starts an escape of two
-- digits.
def unescape : List α → Option (List α)
  | c :: h :: l :: rest =>
    if c = mark then
      match digit h,digit l with
      | some high,some low => (unescape rest).map (char (16 * high + low) :: ·)
      | _,_ => none
    else (unescape (h :: l :: rest)).map (c :: ·)
  | [c,d] => if c = mark ∨ d = mark then none else some [c,d]
  | [c] => if c = mark then none else some [c]
  | [] => some []

variable {mark digit char}

theorem unescape_cons (plain : c ≠ mark) (rest : List α) :
    unescape mark digit char (c :: rest) = (unescape mark digit char rest).map (c :: ·) := by
  match rest with
  | [] => simp [unescape,plain]
  | [d] =>
    by_cases marked : d = mark
    · simp [unescape,marked]
    · simp [unescape,plain,marked]
  | h :: l :: rest => rw [unescape,if_neg plain]

theorem unescape_stray (stray : digit d = none) (rest : List α) :
    unescape mark digit char (mark :: d :: rest) = none := by
  match rest with
  | [] => simp [unescape]
  | l :: rest => simp [unescape,stray]

theorem unescape_plain {s : List α} (plain : ∀ c ∈ s, c ≠ mark) : unescape mark digit char s = some s := by
  induction s with
  | nil => rfl
  | cons c rest ih =>
    rw [unescape_cons (plain c List.mem_cons_self),ih (fun d later => plain d (List.mem_cons_of_mem c later))]
    rfl

end

end Library.PercentEscape
