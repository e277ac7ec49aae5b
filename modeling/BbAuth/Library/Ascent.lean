import Mathlib.Data.List.Basic

namespace Library

namespace Ascent

variable {α : Type} (parent : α → Option α) (trusted : α → Bool)

-- The element is found so many steps above the start, and it and all before it
-- are trusted.
inductive Above (start : α) : Nat → α → Prop where
  | start (safe : trusted start = true) : Above start 0 start
  | up (below : Above start n a) (link : parent a = some b) (safe : trusted b = true) : Above start (n + 1) b

-- The first of the trusted elements, counted round again in a cycle.
def ascent : Nat → α → List α
  | 0,_ => []
  | n + 1,a =>
    if trusted a then
      a :: match parent a with
        | none => []
        | some b => ascent n b
    else []

-- What is chosen of the elements at their places: the nearest that matches, or
-- the last to fall back on, or the start.
structure Chosen (place : Nat → α → Prop) (suits spare : α → Prop) (start chosen : α) : Prop where
  origin : chosen = start ∨ ∃ n, place n chosen
  nearest : ∀ n a, place n a → suits a →
    ∃ m, m ≤ n ∧ place m chosen ∧ suits chosen ∧ ∀ k b, place k b → k < m → ¬suits b
  last : (∀ n a, place n a → ¬suits a) → ∀ n a, place n a → spare a →
    ∃ m, n ≤ m ∧ place m chosen ∧ spare chosen ∧ ∀ k b, place k b → m < k → ¬spare b
  unplaced : (∀ n a, place n a → ¬suits a) → (∀ n a, place n a → ¬spare a) → chosen = start

def choose (suits spare : α → Bool) (start : α) (elements : List α) : α :=
  match elements.find? suits with
  | some a => a
  | none => (elements.filter spare).getLast?.getD start

variable {parent : α → Option α} {trusted suits spare : α → Bool} {start a b : α} {elements : List α}

theorem ascent_distrusted (n : Nat) (distrusted : trusted a = false) : ascent parent trusted n a = [] := by
  cases n with
  | zero => rfl
  | succ n =>
    unfold ascent
    rw [distrusted]
    rfl

theorem Above.bottom (above : Above parent trusted start n a) : trusted start = true := by
  induction above with
  | start safe => exact safe
  | up below link safe ih => exact ih

theorem above_succ : Above parent trusted start (n + 1) b ↔
    trusted start = true ∧ ∃ a, parent start = some a ∧ Above parent trusted a n b := by
  constructor
  · intro above
    induction n generalizing b with
    | zero =>
      obtain _ | ⟨below,link,safe⟩ := above
      cases below with
      | start bottom => exact ⟨bottom,b,link,.start safe⟩
    | succ n ih =>
      obtain _ | ⟨below,link,safe⟩ := above
      obtain ⟨bottom,a,first,rest⟩ := ih below
      exact ⟨bottom,a,first,.up rest link safe⟩
  · intro ⟨bottom,a,first,above⟩
    induction above with
    | start safe => exact .up (.start bottom) first safe
    | up below link safe ih => exact .up ih link safe

theorem mem_ascent : (ascent parent trusted n start)[k]? = some b ↔ k < n ∧ Above parent trusted start k b := by
  induction n generalizing start k with
  | zero =>
    constructor
    · intro found
      cases found
    · intro ⟨within,_⟩
      exact absurd within (Nat.not_lt_zero k)
  | succ n ih =>
    cases safe : trusted start with
    | false =>
      rw [ascent_distrusted (n + 1) safe]
      constructor
      · intro found
        cases found
      · intro ⟨_,above⟩
        rw [above.bottom] at safe
        cases safe
    | true =>
      unfold ascent
      rw [if_pos safe]
      cases k with
      | zero =>
        rw [List.getElem?_cons_zero,Option.some_inj]
        constructor
        · intro same
          exact ⟨Nat.succ_pos n,same ▸ .start safe⟩
        · intro ⟨_,above⟩
          cases above with
          | start _ => rfl
      | succ k =>
        rw [List.getElem?_cons_succ,above_succ]
        cases link : parent start with
        | none =>
          constructor
          · intro found
            cases found
          · intro ⟨_,_,a,first,_⟩
            cases first
        | some a =>
          simp only [ih,Nat.succ_lt_succ_iff,Option.some.injEq,exists_eq_left',safe,true_and]

theorem ascent_fixed (link : parent a = some a) (n : Nat) : ∀ b ∈ ascent parent trusted n a, b = a := by
  induction n with
  | zero => exact List.forall_mem_nil _
  | succ n ih =>
    unfold ascent
    rw [link]
    split
    · exact List.forall_mem_cons.mpr ⟨rfl,ih⟩
    · exact List.forall_mem_nil _

theorem choose_cons (suits spare : α → Bool) (start a : α) (rest : List α) : choose suits spare start (a :: rest) =
    if suits a then a else choose suits spare (if spare a then a else start) rest := by
  unfold choose
  rw [List.find?_cons]
  cases fits : suits a with
  | true => rfl
  | false =>
    cases found : rest.find? suits with
    | some b => rfl
    | none =>
      cases spared : spare a with
      | false =>
        rw [List.filter_cons_of_neg (Bool.eq_false_iff.mp spared)]
        rfl
      | true =>
        rw [List.filter_cons_of_pos spared,List.getLast?_cons]
        rfl

theorem placed_cons {Holds : Nat → α → Prop} {rest : List α} :
    (∀ k b, (a :: rest)[k]? = some b → Holds k b) ↔ Holds 0 a ∧ ∀ k b, rest[k]? = some b → Holds (k + 1) b := by
  constructor
  · intro placed
    exact ⟨placed 0 a rfl,fun k b at_place => placed (k + 1) b at_place⟩
  · intro ⟨first,others⟩ k b at_place
    cases k with
    | zero =>
      cases at_place
      exact first
    | succ k => exact others k b at_place

theorem chosen_first (start : α) (rest : List α) (fits : suits a = true) :
    Chosen (fun n b => (a :: rest)[n]? = some b) (fun b => suits b = true) (fun b => spare b = true) start a where
  origin := .inr ⟨0,rfl⟩
  nearest := fun n _ _ _ => ⟨0,Nat.zero_le n,rfl,fits,fun _ _ _ sooner => absurd sooner (Nat.not_lt_zero _)⟩
  last := fun absent => absurd fits (absent 0 a rfl)
  unplaced := fun absent => absurd fits (absent 0 a rfl)

theorem chosen_cons {rest : List α} (fits : ¬suits a = true)
    (chosen : Chosen (fun n b => rest[n]? = some b) (fun b => suits b = true) (fun b => spare b = true) (if spare a = true then a else start) c) :
    Chosen (fun n b => (a :: rest)[n]? = some b) (fun b => suits b = true) (fun b => spare b = true) start c := by
  constructor
  · rcases chosen.origin with same | ⟨n,at_place⟩
    · split at same
      · exact .inr ⟨0,congrArg some same.symm⟩
      · exact .inl same
    · exact .inr ⟨n + 1,at_place⟩
  · refine placed_cons.mpr ⟨fun suited => absurd suited fits,?_⟩
    intro n b at_place suited
    obtain ⟨m,before,found,matched,earlier⟩ := chosen.nearest n b at_place suited
    refine ⟨m + 1,Nat.succ_le_succ before,found,matched,placed_cons.mpr ⟨fun _ => fits,?_⟩⟩
    exact fun k d other sooner => earlier k d other (Nat.lt_of_succ_lt_succ sooner)
  · intro absent
    obtain ⟨_,behind⟩ := placed_cons.mp absent
    have further (n : Nat) (b : α) (at_place : rest[n]? = some b) (spared : spare b = true) :
        ∃ m, n + 1 ≤ m ∧ (a :: rest)[m]? = some c ∧ spare c = true ∧ ∀ k d, (a :: rest)[k]? = some d → m < k → ¬spare d = true := by
      obtain ⟨m,after,found,kept,later⟩ := chosen.last behind n b at_place spared
      refine ⟨m + 1,Nat.succ_le_succ after,found,kept,placed_cons.mpr ⟨fun beyond => absurd beyond (Nat.not_lt_zero _),?_⟩⟩
      exact fun k d other beyond => later k d other (Nat.lt_of_succ_lt_succ beyond)
    refine placed_cons.mpr ⟨?_,further⟩
    intro spared
    by_cases more : ∃ (n : Nat) (b : α), rest[n]? = some b ∧ spare b = true
    · obtain ⟨n,b,at_place,other⟩ := more
      obtain ⟨m,_,rest_of_it⟩ := further n b at_place other
      exact ⟨m,Nat.zero_le m,rest_of_it⟩
    · have lone : ∀ (n : Nat) (b : α), rest[n]? = some b → ¬spare b = true := fun n b at_place other => more ⟨n,b,at_place,other⟩
      have same := chosen.unplaced behind lone
      rw [if_pos spared] at same
      subst same
      refine ⟨0,Nat.le_refl 0,rfl,spared,placed_cons.mpr ⟨fun beyond => absurd beyond (Nat.lt_irrefl 0),?_⟩⟩
      exact fun k d other _ => lone k d other
  · intro absent unspared
    obtain ⟨_,behind⟩ := placed_cons.mp absent
    obtain ⟨first,lone⟩ := placed_cons.mp unspared
    have same := chosen.unplaced behind lone
    rwa [if_neg first] at same

theorem choose_chosen (suits spare : α → Bool) (start : α) (elements : List α) :
    Chosen (fun n a => elements[n]? = some a) (fun a => suits a = true) (fun a => spare a = true) start (choose suits spare start elements) := by
  induction elements generalizing start with
  | nil => exact ⟨.inl rfl,nofun,nofun,fun _ _ => rfl⟩
  | cons a rest ih =>
    rw [choose_cons]
    by_cases fits : suits a = true
    · rw [if_pos fits]
      exact chosen_first start rest fits
    · rw [if_neg fits]
      exact chosen_cons fits (ih _)

theorem Chosen.congr {place other : Nat → α → Prop} {suits spare : α → Prop} (chosen : Chosen place suits spare start a)
    (same : ∀ n b, place n b ↔ other n b) : Chosen other suits spare start a := by
  have equal : place = other := funext fun n => funext fun b => propext (same n b)
  rwa [equal] at chosen

end Ascent

end Library
