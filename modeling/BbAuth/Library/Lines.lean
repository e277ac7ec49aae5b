import Mathlib.Data.List.Basic

namespace Library

namespace Lines

variable {α : Type} [DecidableEq α]

-- The lines a mark ends, without it, and what follows the last of them.
def carve (mark : α) : List α → List (List α) × List α
  | [] => ([],[])
  | x :: rest =>
    if x = mark then ([] :: (carve mark rest).1,(carve mark rest).2)
    else
      match (carve mark rest).1 with
      | [] => ([],x :: (carve mark rest).2)
      | line :: more => ((x :: line) :: more,(carve mark rest).2)

-- All lines, each with the mark that ends it, and last the one that has none.
def lines (mark : α) (xs : List α) : List (List α) :=
  (carve mark xs).1.map (· ++ [mark]) ++ [(carve mark xs).2]

variable {mark : α}

theorem carve_mark (rest : List α) : carve mark (mark :: rest) = ([] :: (carve mark rest).1,(carve mark rest).2) := by
  simp only [carve,if_true]

theorem carve_other (differs : x ≠ mark) (lone : (carve mark rest).1 = []) :
    carve mark (x :: rest) = ([],x :: (carve mark rest).2) := by
  simp only [carve,if_neg differs,lone]

theorem carve_longer (differs : x ≠ mark) (first : (carve mark rest).1 = line :: more) :
    carve mark (x :: rest) = ((x :: line) :: more,(carve mark rest).2) := by
  simp only [carve,if_neg differs,first]

theorem carve_append (xs ys : List α) : carve mark (xs ++ ys) =
    ((carve mark xs).1 ++ (carve mark ((carve mark xs).2 ++ ys)).1,(carve mark ((carve mark xs).2 ++ ys)).2) := by
  induction xs with
  | nil => rfl
  | cons x rest ih =>
    rw [List.cons_append]
    by_cases same : x = mark
    · subst same
      simp only [carve_mark,ih,List.cons_append]
    · cases first : (carve mark rest).1 with
      | nil =>
        have reread : carve mark (rest ++ ys) = carve mark ((carve mark rest).2 ++ ys) := by
          rw [ih,first]
          rfl
        rw [carve_other same first]
        simp only [List.nil_append,List.cons_append,carve,if_neg same,reread]
      | cons line more =>
        have begun : (carve mark (rest ++ ys)).1 =
            line :: (more ++ (carve mark ((carve mark rest).2 ++ ys)).1) := by
          rw [ih,first]
          rfl
        rw [carve_longer same begun,carve_longer same first,ih]
        rfl

theorem carve_plain (plain : mark ∉ xs) : carve mark xs = ([],xs) := by
  induction xs with
  | nil => rfl
  | cons x rest ih =>
    have differs : x ≠ mark := fun same => plain (same ▸ List.mem_cons_self)
    have later := ih (fun present => plain (List.mem_cons_of_mem x present))
    rw [carve_other differs (congrArg Prod.fst later),later]

theorem carve_line (plain : mark ∉ line) (rest : List α) :
    carve mark (line ++ mark :: rest) = (line :: (carve mark rest).1,(carve mark rest).2) := by
  induction line with
  | nil => exact carve_mark rest
  | cons x line ih =>
    have differs : x ≠ mark := fun same => plain (same ▸ List.mem_cons_self)
    have later := ih (fun present => plain (List.mem_cons_of_mem x present))
    rw [List.cons_append,carve_longer differs (congrArg Prod.fst later),later]

theorem idxOf_behind {front : List α} (free : mark ∉ front) (rest : List α) :
    (front ++ mark :: rest).idxOf? mark = some front.length := by
  rw [List.idxOf?_eq_some_iff]
  refine ⟨by simp,by simp,?_⟩
  intro place earlier
  rw [List.getElem_append_left earlier]
  exact fun same => free (same ▸ List.getElem_mem earlier)

theorem carve_found (found : xs.idxOf? mark = some idx) : carve mark xs =
    (xs.take idx :: (carve mark (xs.drop (idx + 1))).1,(carve mark (xs.drop (idx + 1))).2) := by
  obtain ⟨within,reads,earlier⟩ := List.idxOf?_eq_some_iff.mp found
  have plain : mark ∉ xs.take idx := by
    intro present
    obtain ⟨place,bound,at_place⟩ := List.mem_take_iff_getElem.mp present
    exact earlier place (by omega) at_place
  have split : xs = xs.take idx ++ mark :: xs.drop (idx + 1) := by
    rw [← reads,List.getElem_cons_drop,List.take_append_drop]
  have carved := carve_line plain (xs.drop (idx + 1))
  rwa [← split] at carved

theorem carve_front (plain : mark ∉ front) (xs : List α) : carve mark (front ++ xs) =
    match (carve mark xs).1 with
    | [] => ([],front ++ (carve mark xs).2)
    | line :: more => ((front ++ line) :: more,(carve mark xs).2) := by
  induction front with
  | nil =>
    cases carved : carve mark xs with
    | mk first last =>
      rw [List.nil_append,carved]
      cases first with
      | nil => rfl
      | cons line more => rfl
  | cons x front ih =>
    have differs : x ≠ mark := fun same => plain (same ▸ List.mem_cons_self)
    have later := ih (fun present => plain (List.mem_cons_of_mem x present))
    rw [List.cons_append]
    cases first : (carve mark xs).1 with
    | nil =>
      rw [first] at later
      rw [carve_other differs (congrArg Prod.fst later),later]
      rfl
    | cons line more =>
      rw [first] at later
      rw [carve_longer differs (congrArg Prod.fst later),later]
      rfl

theorem carve_free (xs : List α) : (∀ line ∈ (carve mark xs).1, mark ∉ line) ∧ mark ∉ (carve mark xs).2 := by
  induction xs with
  | nil => exact ⟨fun _ absent => absurd absent List.not_mem_nil,List.not_mem_nil⟩
  | cons x rest ih =>
    obtain ⟨free,last⟩ := ih
    by_cases same : x = mark
    · subst same
      rw [carve_mark]
      exact ⟨List.forall_mem_cons.mpr ⟨List.not_mem_nil,free⟩,last⟩
    · cases first : (carve mark rest).1 with
      | nil =>
        rw [carve_other same first]
        exact ⟨fun _ absent => absurd absent List.not_mem_nil,List.not_mem_cons_of_ne_of_not_mem (Ne.symm same) last⟩
      | cons line more =>
        rw [first] at free
        obtain ⟨here,others⟩ := List.forall_mem_cons.mp free
        rw [carve_longer same first]
        exact ⟨List.forall_mem_cons.mpr ⟨List.not_mem_cons_of_ne_of_not_mem (Ne.symm same) here,others⟩,last⟩

theorem lines_flatten (mark : α) (xs : List α) : (lines mark xs).flatten = xs := by
  induction xs with
  | nil => rfl
  | cons x rest ih =>
    unfold lines at ih ⊢
    by_cases same : x = mark
    · subst same
      rw [carve_mark,List.map_cons,List.cons_append,List.flatten_cons,ih]
      rfl
    · cases first : (carve mark rest).1 with
      | nil =>
        rw [first] at ih
        rw [carve_other same first]
        simpa using ih
      | cons line more =>
        rw [first] at ih
        rw [carve_longer same first]
        simpa using ih

theorem carve_rest_length (xs : List α) : (carve mark xs).2.length ≤ xs.length := by
  have whole := congrArg List.length (lines_flatten mark xs)
  simp only [lines,List.flatten_append,List.length_append,List.flatten_singleton] at whole
  omega

-- Of a prefix no other lines are carved, and what is left of it grows with it.
theorem carve_prefix (mark : α) (xs ys : List α) {line : List α} (carved : carve mark (xs ++ ys) = (first,line)) :
    (carve mark xs).1 <+: first ∧ xs.length ≤ (first.map (· ++ [mark])).flatten.length + (carve mark xs).2.length := by
  rw [carve_append] at carved
  have firsts : (carve mark xs).1 ++ (carve mark ((carve mark xs).2 ++ ys)).1 = first := congrArg Prod.fst carved
  have whole := congrArg List.length (lines_flatten mark xs)
  simp only [lines,List.flatten_append,List.length_append,List.flatten_singleton] at whole
  refine ⟨⟨_,firsts⟩,?_⟩
  rw [← firsts,List.map_append,List.flatten_append,List.length_append]
  omega

theorem carve_ended {before : List (List α)} (ended : ∀ line ∈ before, ∃ body, mark ∉ body ∧ line = body ++ [mark]) (rest : List α) :
    carve mark (before.flatten ++ rest) = (before.map List.dropLast ++ (carve mark rest).1,(carve mark rest).2) := by
  induction before with
  | nil => rfl
  | cons line before ih =>
    obtain ⟨⟨body,free,rfl⟩,others⟩ := List.forall_mem_cons.mp ended
    have joined : (((body ++ [mark]) :: before).flatten ++ rest) = body ++ mark :: (before.flatten ++ rest) := by
      simp only [List.flatten_cons,List.append_assoc,List.cons_append,List.nil_append]
    rw [joined,carve_line free,ih others,List.map_cons,List.dropLast_concat]
    rfl

theorem lines_before (split : lines mark xs = before ++ line :: after) :
    ∀ line ∈ before, ∃ body, mark ∉ body ∧ line = body ++ [mark] := by
  intro other present
  have among : other ∈ (lines mark xs).dropLast := by
    rw [split,List.dropLast_append_of_ne_nil (List.cons_ne_nil line after)]
    exact List.mem_append_left _ present
  rw [lines,List.dropLast_concat] at among
  obtain ⟨body,carved,rfl⟩ := List.mem_map.mp among
  exact ⟨body,(carve_free xs).1 body carved,rfl⟩

theorem lines_free (present : line ∈ lines mark xs) : mark ∉ line.dropLast := by
  rcases List.mem_append.mp present with ended | last
  · obtain ⟨body,carved,rfl⟩ := List.mem_map.mp ended
    rw [List.dropLast_concat]
    exact (carve_free xs).1 body carved
  · rw [List.mem_singleton.mp last]
    exact fun inside => (carve_free xs).2 (List.dropLast_subset _ inside)

-- The lines of a text file, whose last line need not be ended.
def records (mark : α) (xs : List α) : List (List α) :=
  (carve mark xs).1 ++ if (carve mark xs).2.isEmpty then [] else [(carve mark xs).2]

theorem records_free (xs : List α) : ∀ line ∈ records mark xs, mark ∉ line := by
  intro line present
  rcases List.mem_append.mp present with ended | last
  · exact (carve_free xs).1 line ended
  · split at last
    · cases last
    · rw [List.mem_singleton.mp last]
      exact (carve_free xs).2

theorem mem_of_records (listed : line ∈ records mark xs) (inside : x ∈ line) : x ∈ xs := by
  rw [← lines_flatten mark xs]
  unfold lines
  rw [List.flatten_append,List.flatten_singleton]
  rcases List.mem_append.mp listed with ended | last
  · have longer : line ++ [mark] ∈ (carve mark xs).1.map (· ++ [mark]) := List.mem_map.mpr ⟨line,ended,rfl⟩
    exact List.mem_append_left _ (List.mem_flatten.mpr ⟨_,longer,List.mem_append_left _ inside⟩)
  · split at last
    · cases last
    · rw [List.mem_singleton.mp last] at inside
      exact List.mem_append_right _ inside

theorem records_line (plain : mark ∉ line) (rest : List α) : records mark (line ++ mark :: rest) = line :: records mark rest := by
  unfold records
  rw [carve_line plain]
  rfl

theorem records_printed (free : ∀ line ∈ printed, mark ∉ line) : records mark (printed.flatMap (· ++ [mark])) = printed := by
  induction printed with
  | nil => rfl
  | cons line rest ih =>
    obtain ⟨plain,others⟩ := List.forall_mem_cons.mp free
    rw [List.flatMap_cons,List.append_assoc,List.singleton_append,records_line plain,ih others]

-- A mark that is put behind a text ends its last line, or an empty one.
theorem records_append (xs ys : List α) : records mark (xs ++ mark :: ys) =
    records mark xs ++ (if (carve mark xs).2.isEmpty then [[]] else []) ++ records mark ys := by
  have carved : carve mark (xs ++ mark :: ys) = ((carve mark xs).1 ++ (carve mark xs).2 :: (carve mark ys).1,(carve mark ys).2) := by
    rw [carve_append,carve_line (carve_free xs).2]
  unfold records
  rw [carved]
  simp only
  cases last : (carve mark xs).2 with
  | nil => simp only [List.isEmpty_nil,if_true,List.append_nil,List.append_assoc,List.nil_append,List.cons_append]
  | cons x rest => simp only [List.isEmpty_cons,Bool.false_eq_true,if_false,List.append_nil,List.append_assoc,List.nil_append,List.cons_append]

end Lines

end Library
