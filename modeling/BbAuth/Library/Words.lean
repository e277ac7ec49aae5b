import Mathlib.Data.List.DropRight
import Mathlib.Data.List.TakeWhile

namespace Library

namespace Words

variable {α : Type} {space : α → Bool}

-- The longest pieces that have no spaces in them.
def words (space : α → Bool) (xs : List α) : List (List α) := (xs.splitOnP space).filter (fun word => !word.isEmpty)

def strip (space : α → Bool) (xs : List α) : List α := (xs.dropWhile space).rdropWhile space

-- Neither end is a space.
structure Bare (space : α → Bool) (xs : List α) : Prop where
  front : ∀ x ∈ xs.head?, space x = false
  back : ∀ x ∈ xs.getLast?, space x = false

theorem splitOnP_free (xs : List α) : ∀ piece ∈ xs.splitOnP space, ∀ x ∈ piece, space x = false := by
  induction xs with
  | nil =>
    intro piece present
    rw [List.splitOnP_nil,List.mem_singleton] at present
    rw [present]
    exact List.forall_mem_nil _
  | cons x rest ih =>
    rw [List.splitOnP_cons_eq_if_modifyHead]
    cases here : space x with
    | true => exact List.forall_mem_cons.mpr ⟨List.forall_mem_nil _,ih⟩
    | false =>
      obtain ⟨first,others,pieces⟩ := List.exists_cons_of_ne_nil (List.splitOnP_ne_nil space rest)
      rw [pieces] at ih ⊢
      obtain ⟨begun,later⟩ := List.forall_mem_cons.mp ih
      exact List.forall_mem_cons.mpr ⟨List.forall_mem_cons.mpr ⟨here,begun⟩,later⟩

theorem mem_words (present : word ∈ words space xs) : word ≠ [] ∧ ∀ x ∈ word, space x = false := by
  obtain ⟨piece,filled⟩ := List.mem_filter.mp present
  refine ⟨?_,splitOnP_free xs word piece⟩
  rintro rfl
  cases filled

theorem words_cons (blank : space x = true) (xs : List α) : words space (x :: xs) = words space xs := by
  unfold words
  rw [List.splitOnP_cons_eq_if_modifyHead,if_pos blank]
  rfl

theorem words_concat (blank : space x = true) (xs : List α) : words space (xs ++ [x]) = words space xs := by
  unfold words
  rw [List.splitOnP_append_cons xs [] blank,List.filter_append,List.splitOnP_nil]
  exact List.append_nil _

theorem words_append (blank : space x = true) (xs ys : List α) : words space (xs ++ x :: ys) = words space xs ++ words space ys := by
  unfold words
  rw [List.splitOnP_append_cons xs ys blank,List.filter_append]

theorem words_word (filled : word ≠ []) (free : ∀ x ∈ word, space x = false) : words space word = [word] := by
  unfold words
  rw [List.splitOnP_eq_singleton free]
  exact List.filter_cons_of_pos (by rwa [Bool.not_eq_true',List.isEmpty_eq_false_iff])

theorem words_intercalate (blank : space x = true) (each : ∀ word ∈ pieces, word ≠ [] ∧ ∀ y ∈ word, space y = false) :
    words space ([x].intercalate pieces) = pieces := by
  induction pieces with
  | nil => rfl
  | cons word rest ih =>
    obtain ⟨⟨filled,free⟩,others⟩ := List.forall_mem_cons.mp each
    have later := ih others
    cases rest with
    | nil =>
      rw [List.intercalate_singleton]
      exact words_word filled free
    | cons next rest =>
      rw [List.intercalate_cons_cons,List.append_assoc,List.singleton_append,words_append blank,words_word filled free,later]
      rfl

-- Spaces that come of other elements are spaces of the list before.
theorem splitOnP_map (change : α → α) (xs : List α) :
    (xs.map change).splitOnP space = (xs.splitOnP (fun x => space (change x))).map (List.map change) := by
  induction xs with
  | nil => rfl
  | cons x rest ih =>
    rw [List.map_cons,List.splitOnP_cons_eq_if_modifyHead,List.splitOnP_cons_eq_if_modifyHead,ih]
    cases space (change x) with
    | true => rfl
    | false =>
      obtain ⟨first,others,pieces⟩ := List.exists_cons_of_ne_nil (List.splitOnP_ne_nil (fun x => space (change x)) rest)
      rw [pieces]
      rfl

theorem words_map {change : α → α} (same : ∀ x, space (change x) = false → change x = x) (xs : List α) :
    words space (xs.map change) = words (fun x => space (change x)) xs := by
  unfold words
  rw [splitOnP_map]
  have unchanged : ∀ piece ∈ xs.splitOnP (fun x => space (change x)), piece.map change = id piece := by
    intro piece present
    have free := splitOnP_free xs piece present
    rw [List.map_congr_left (fun x inside => same x (free x inside))]
    exact List.map_id' piece
  rw [List.map_congr_left unchanged,List.map_id]

-- Each space stays in its place, and no other comes up.
structure Keeps (space : α → Bool) (rewrite : List α → List α) : Prop where
  kept : ∀ x, space x = true → ∀ before after, rewrite (before ++ x :: after) = rewrite before ++ x :: rewrite after
  apart : ∀ xs, (∀ x ∈ xs, space x = false) → ∀ x ∈ rewrite xs, space x = false

theorem Keeps.splitOnP {rewrite : List α → List α} (keeps : Keeps space rewrite) (xs : List α) :
    (rewrite xs).splitOnP space = (xs.splitOnP space).map rewrite := by
  cases found : xs.find? space with
  | none =>
    have free : ∀ x ∈ xs, space x = false := fun x present => Bool.eq_false_iff.mpr (List.find?_eq_none.mp found x present)
    rw [List.splitOnP_eq_singleton free,List.splitOnP_eq_singleton (keeps.apart xs free)]
    rfl
  | some x =>
    have blank := List.find?_some found
    obtain ⟨before,after,whole⟩ := List.append_of_mem (List.mem_of_find?_eq_some found)
    have shorter : before.length < xs.length ∧ after.length < xs.length := by
      rw [whole,List.length_append,List.length_cons]
      omega
    rw [whole,keeps.kept x blank,List.splitOnP_append_cons _ _ blank,List.splitOnP_append_cons _ _ blank,List.map_append,
      keeps.splitOnP before,keeps.splitOnP after]
termination_by xs.length

theorem Keeps.intercalate {rewrite : List α → List α} (keeps : Keeps space rewrite) (blank : space x = true) (filled : pieces ≠ []) :
    rewrite ([x].intercalate pieces) = [x].intercalate (pieces.map rewrite) := by
  induction pieces with
  | nil => exact absurd rfl filled
  | cons word rest ih =>
    cases rest with
    | nil => rw [List.intercalate_singleton,List.map_singleton,List.intercalate_singleton]
    | cons next rest =>
      rw [List.intercalate_cons_cons,List.append_assoc,List.singleton_append,keeps.kept x blank,ih (List.cons_ne_nil next rest)]
      simp only [List.map_cons,List.intercalate_cons_cons,List.append_assoc,List.singleton_append]

theorem bare_nil : Bare space [] := ⟨nofun,nofun⟩

theorem bare_word (free : ∀ x ∈ word, space x = false) : Bare space word :=
  ⟨fun x first => free x (List.mem_of_head? first),fun x last => free x (List.mem_of_getLast? last)⟩

theorem Bare.around (first : Bare space xs) (second : Bare space ys) (begun : xs ≠ []) (ended : ys ≠ []) (between : List α) :
    Bare space (xs ++ between ++ ys) := by
  constructor
  · rw [List.append_assoc,List.head?_append_of_ne_nil _ begun]
    exact first.front
  · rw [List.getLast?_append_of_ne_nil _ ended]
    exact second.back

theorem Bare.behind {front rest : List α} (bare : Bare space rest) (visible : ∀ x ∈ front, space x = false)
    (filled : front ≠ []) : Bare space (front ++ rest) := by
  cases rest with
  | nil =>
    rw [List.append_nil]
    exact bare_word visible
  | cons x more =>
    have joined := (bare_word visible).around bare filled (List.cons_ne_nil x more) []
    rwa [List.append_nil] at joined

theorem bare_intercalate (separator : List α) (bare : ∀ word ∈ pieces, word ≠ [] ∧ Bare space word) :
    Bare space (separator.intercalate pieces) := by
  induction pieces with
  | nil => exact bare_nil
  | cons word rest ih =>
    obtain ⟨⟨filled,here⟩,others⟩ := List.forall_mem_cons.mp bare
    have later := ih others
    cases rest with
    | nil =>
      rw [List.intercalate_singleton]
      exact here
    | cons next rest =>
      have more : separator.intercalate (next :: rest) ≠ [] := by
        intro nothing
        have first := (others next List.mem_cons_self).1
        cases rest with
        | nil => exact first (by rwa [List.intercalate_singleton] at nothing)
        | cons further rest =>
          rw [List.intercalate_cons_cons,List.append_assoc] at nothing
          exact first (List.append_eq_nil_iff.mp nothing).1
      rw [List.intercalate_cons_cons]
      exact here.around later filled more separator

theorem mem_intercalate {separator : List α} {pieces : List (List α)} (present : x ∈ separator.intercalate pieces) : x ∈ separator ∨ ∃ piece ∈ pieces, x ∈ piece := by
  induction pieces with
  | nil => cases present
  | cons word rest ih =>
    cases rest with
    | nil =>
      rw [List.intercalate_singleton] at present
      exact .inr ⟨word,List.mem_cons_self,present⟩
    | cons next rest =>
      rw [List.intercalate_cons_cons] at present
      rcases List.mem_append.mp present with front | later
      · rcases List.mem_append.mp front with here | between
        · exact .inr ⟨word,List.mem_cons_self,here⟩
        · exact .inl between
      · rcases ih later with between | ⟨piece,listed,inside⟩
        · exact .inl between
        · exact .inr ⟨piece,List.mem_cons_of_mem word listed,inside⟩

theorem dropWhile_bare {xs : List α} (front : ∀ x ∈ xs.head?, space x = false) : xs.dropWhile space = xs := by
  cases xs with
  | nil => rfl
  | cons x rest => exact List.dropWhile_cons_of_neg (Bool.eq_false_iff.mp (front x rfl))

theorem rdropWhile_bare {xs : List α} (back : ∀ x ∈ xs.getLast?, space x = false) : xs.rdropWhile space = xs := by
  rw [List.rdropWhile_eq_self_iff]
  intro filled
  exact Bool.eq_false_iff.mp (back _ (List.getLast?_eq_some_getLast filled))

theorem strip_bare (bare : Bare space xs) : strip space xs = xs := by
  unfold strip
  rw [dropWhile_bare bare.front,rdropWhile_bare bare.back]

theorem strip_front {xs : List α} (front : ∀ x ∈ xs.head?, space x = false) :
    ∃ gone, xs = strip space xs ++ gone ∧ ∀ x ∈ gone, space x = true := by
  refine ⟨xs.rtakeWhile space,?_,fun x => List.mem_rtakeWhile_imp⟩
  unfold strip
  rw [dropWhile_bare front,List.rdropWhile_append_rtakeWhile]

theorem bare_strip (xs : List α) : Bare space (strip space xs) := by
  constructor
  · intro x first
    obtain ⟨rest,whole⟩ := List.rdropWhile_prefix space (xs.dropWhile space)
    have front := List.head?_dropWhile_not space xs
    have begun : (xs.dropWhile space).head? = some x := by
      rw [← whole,List.head?_append_of_ne_nil]
      · exact first
      · intro nothing
        have first : (strip space xs).head? = some x := first
        unfold strip at first
        rw [nothing] at first
        cases first
    rw [begun] at front
    exact front
  · intro x last
    have filled : strip space xs ≠ [] := by
      rintro nothing
      rw [nothing] at last
      cases last
    have ended := List.rdropWhile_last_not space _ filled
    rw [List.getLast?_eq_some_getLast filled] at last
    cases last
    exact Bool.eq_false_iff.mpr ended

theorem strip_between (xs : List α) : ∃ before after, xs = before ++ strip space xs ++ after ∧
    (∀ x ∈ before, space x = true) ∧ ∀ x ∈ after, space x = true := by
  refine ⟨xs.takeWhile space,(xs.dropWhile space).rtakeWhile space,?_,fun x => List.mem_takeWhile_imp,fun x => List.mem_rtakeWhile_imp⟩
  unfold strip
  rw [List.append_assoc,List.rdropWhile_append_rtakeWhile,List.takeWhile_append_dropWhile]

theorem strip_subset (xs : List α) : ∀ x ∈ strip space xs, x ∈ xs := by
  intro x present
  obtain ⟨before,after,whole,_⟩ : ∃ before after, xs = before ++ strip space xs ++ after ∧ _ := strip_between xs
  rw [whole]
  exact List.mem_append_left after (List.mem_append_right before present)

theorem strip_eq_nil : strip space xs = [] ↔ ∀ x ∈ xs, space x = true := by
  unfold strip
  rw [List.rdropWhile_eq_nil_iff]
  constructor
  · intro spaces
    have front := List.head?_dropWhile_not space xs
    apply List.dropWhile_eq_nil_iff.mp
    cases left : xs.dropWhile space with
    | nil => rfl
    | cons x rest =>
      rw [left] at front spaces
      exact nomatch front.symm.trans (spaces x List.mem_cons_self)
  · intro spaces
    rw [List.dropWhile_eq_nil_iff.mpr spaces]
    exact List.forall_mem_nil _

end Words

end Library
