import BbAuth.Library.Runs

namespace Library

-- A change to one entry of a keyed store, or to all of them.
inductive Write (κ α : Type) where
  | set (key : κ) (value : α)
  | clear

variable {κ α State Input : Type} [DecidableEq κ]

-- What a write makes of the entry under a key.
def Write.apply (key : κ) (default current : α) : Write κ α → α
  | .set other value => if other = key then value else current
  | .clear => default

-- The entry under a key after some writes, the last of which wins.
def lastWrite (key : κ) (default : α) (writes : List (Write κ α)) : α := writes.foldl (Write.apply key default) default

theorem lastWrite_append (key : κ) (default : α) (first second : List (Write κ α)) :
    lastWrite key default (first ++ second) = second.foldl (Write.apply key default) (lastWrite key default first) :=
  List.foldl_append

theorem lastWrite_cases (key : κ) (default : α) (writes : List (Write κ α)) :
    lastWrite key default writes = default ∨ .set key (lastWrite key default writes) ∈ writes := by
  induction writes using List.reverseRecOn with
  | nil => exact .inl rfl
  | append_singleton before write ih =>
    have kept : lastWrite key default before = default ∨ .set key (lastWrite key default before) ∈ before ++ [write] :=
      ih.imp id (List.mem_append_left _)
    rw [lastWrite_append]
    cases write with
    | clear => exact .inl rfl
    | set other value =>
      simp only [List.foldl_cons,List.foldl_nil,Write.apply]
      split
      · next same =>
        subst same
        exact .inr (List.mem_append_right before List.mem_cons_self)
      · exact kept

-- What a machine keeps under a key, if every input of it writes.
theorem Machine.run_lastWrite (m : Machine State Input) (read : State → α) (writes : Input → List (Write κ α))
    {key : κ} {default : α} (start : read m.initial = default)
    (follows : ∀ s input, read (m.step s input) = (writes input).foldl (Write.apply key default) (read s))
    (inputs : List Input) : read (m.run inputs) = lastWrite key default (inputs.flatMap writes) := by
  induction inputs using List.reverseRecOn with
  | nil => exact start
  | append_singleton before input ih =>
    have stepped : m.run (before ++ [input]) = m.step (m.run before) input := m.runFrom_append _ _ _
    rw [stepped,follows,ih,List.flatMap_append,lastWrite_append,List.flatMap_singleton]

end Library
