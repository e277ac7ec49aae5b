import Mathlib.Data.List.Basic

namespace Library

namespace Decimal

-- A number in decimal digits, as UTF-16 code units.
def digits (value : Nat) : List UInt16 := value.repr.toList.map (fun c => UInt16.ofNat c.toNat)

theorem digit_code {digit : Char} (bounds : 48 ≤ digit.toNat ∧ digit.toNat ≤ 57) : (UInt16.ofNat digit.toNat).toNat = digit.toNat :=
  UInt16.toNat_ofNat_of_lt' (Nat.lt_of_le_of_lt bounds.2 (by decide))

theorem mem_repr (value : Nat) : ∀ digit ∈ value.repr.toList, 48 ≤ digit.toNat ∧ digit.toNat ≤ 57 := by
  intro digit listed
  rw [Nat.toList_repr] at listed
  exact Char.isDigit_iff_toNat.mp (Nat.isDigit_of_mem_toDigits (by decide) (by decide) listed)

theorem digits_unsigned (value : Nat) : 0x2D ∉ digits value := by
  intro present
  obtain ⟨digit,listed,same⟩ := List.mem_map.mp present
  have bounds := mem_repr value digit listed
  have code := congrArg UInt16.toNat same
  rw [digit_code bounds] at code
  change digit.toNat = 45 at code
  omega

theorem digits_inj (same : digits m = digits n) : m = n := by
  have read (value : Nat) : (digits value).map (fun c => Char.ofNat c.toNat) = value.repr.toList := by
    unfold digits
    rw [List.map_map]
    refine (List.map_congr_left (fun digit listed => ?_)).trans (List.map_id _)
    change Char.ofNat (UInt16.ofNat digit.toNat).toNat = digit
    rw [digit_code (mem_repr value digit listed),Char.ofNat_toNat]
  have numerals := congrArg (List.map (fun c : UInt16 => Char.ofNat c.toNat)) same
  rw [read,read,Nat.toList_repr,Nat.toList_repr] at numerals
  rw [← Nat.ofDigitChars_ten_toDigits (n := m),numerals,Nat.ofDigitChars_ten_toDigits]

def signed : Int → List UInt16
  | .ofNat value => digits value
  | .negSucc value => 0x2D :: digits (value + 1)

theorem signed_inj {a b : Int} (same : signed a = signed b) : a = b := by
  cases a with
  | ofNat m =>
    cases b with
    | ofNat n => rw [digits_inj same]
    | negSucc n =>
      have hyphen : digits m = 0x2D :: digits (n + 1) := same
      exact absurd (hyphen ▸ List.mem_cons_self) (digits_unsigned m)
  | negSucc m =>
    cases b with
    | ofNat n =>
      have hyphen : digits n = 0x2D :: digits (m + 1) := same.symm
      exact absurd (hyphen ▸ List.mem_cons_self) (digits_unsigned n)
    | negSucc n =>
      have numerals := digits_inj (List.tail_eq_of_cons_eq same)
      rw [Nat.succ.inj numerals]

-- A list splits in one way at the first of its separators, and at the last.
theorem split_front {a b s t : List α} {x : α} (left : x ∉ a) (right : x ∉ b) (same : a ++ x :: s = b ++ x :: t) :
    a = b ∧ s = t := by
  induction a generalizing b with
  | nil =>
    cases b with
    | nil => exact ⟨rfl,List.tail_eq_of_cons_eq same⟩
    | cons first rest =>
      obtain ⟨rfl,_⟩ := List.cons.inj same
      exact absurd List.mem_cons_self right
  | cons first rest ih =>
    cases b with
    | nil =>
      obtain ⟨rfl,_⟩ := List.cons.inj same
      exact absurd List.mem_cons_self left
    | cons other more =>
      obtain ⟨rfl,tails⟩ := List.cons.inj same
      obtain ⟨rfl,equal⟩ := ih (fun present => left (List.mem_cons_of_mem _ present))
        (fun present => right (List.mem_cons_of_mem _ present)) tails
      exact ⟨rfl,equal⟩

theorem split_back {a b s t : List α} {x : α} (left : x ∉ s) (right : x ∉ t) (same : a ++ x :: s = b ++ x :: t) :
    a = b ∧ s = t := by
  have mirrored := congrArg List.reverse same
  simp only [List.reverse_append,List.reverse_cons,List.append_assoc,List.singleton_append] at mirrored
  obtain ⟨ends,starts⟩ := split_front (List.mem_reverse.not.mpr left) (List.mem_reverse.not.mpr right) mirrored
  exact ⟨List.reverse_injective starts,List.reverse_injective ends⟩

end Decimal

end Library
