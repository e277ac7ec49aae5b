import Mathlib.Data.List.Induction

namespace Library

theorem split_last {before early late : List α} (split : before ++ [last] = early ++ entry :: late) :
    (late = [] ∧ before = early ∧ last = entry) ∨
      ∃ between, late = between ++ [last] ∧ before = early ++ entry :: between := by
  rcases List.eq_nil_or_concat late with none | ⟨between,final,more⟩
  · subst none
    obtain ⟨same,equal⟩ := List.append_singleton_inj.mp split
    exact .inl ⟨rfl,same,equal⟩
  · subst more
    rw [List.concat_eq_append,← List.cons_append,← List.append_assoc] at split
    obtain ⟨same,equal⟩ := List.append_singleton_inj.mp split
    exact .inr ⟨between,by rw [List.concat_eq_append,equal],same⟩


-- A deterministic machine in an environment that chooses every input. Which
-- inputs the environment may choose in a state is said by `enabled`.
structure Machine (State Input : Type) where
  initial : State
  enabled : State → Input → Prop
  step : State → Input → State

namespace Machine

variable {State Input : Type} (m : Machine State Input)

def runFrom (s : State) (inputs : List Input) : State := inputs.foldl m.step s

def run (inputs : List Input) : State := m.runFrom m.initial inputs

-- `check` holds of every step that a list of inputs takes, each with the state
-- the step starts in.
def EveryFrom (check : State → Input → Prop) : State → List Input → Prop
  | _,[] => True
  | s,input :: rest => check s input ∧ EveryFrom check (m.step s input) rest

def Every (check : State → Input → Prop) (inputs : List Input) : Prop :=
  m.EveryFrom check m.initial inputs

def Admits (inputs : List Input) : Prop := m.Every m.enabled inputs

-- `valid` holds of every state that a list of inputs visits, the first included.
def AlwaysFrom (valid : State → Prop) : State → List Input → Prop
  | s,[] => valid s
  | s,input :: rest => valid s ∧ AlwaysFrom valid (m.step s input) rest

def Always (valid : State → Prop) (inputs : List Input) : Prop :=
  m.AlwaysFrom valid m.initial inputs

inductive Reached : State → Prop where
  | initial : Reached m.initial
  | step : Reached s → m.enabled s input → Reached (m.step s input)

instance decidableEveryFrom (check : State → Input → Prop) [∀ s input, Decidable (check s input)] :
    (s : State) → (inputs : List Input) → Decidable (m.EveryFrom check s inputs)
  | _,[] => isTrue trivial
  | s,input :: rest =>
    have := decidableEveryFrom check (m.step s input) rest
    inferInstanceAs (Decidable (check s input ∧ m.EveryFrom check (m.step s input) rest))

instance (check : State → Input → Prop) [∀ s input, Decidable (check s input)] (inputs : List Input) :
    Decidable (m.Every check inputs) := decidableEveryFrom m check m.initial inputs

variable {m}

theorem Reached.invariant {P : State → Prop} (start : P m.initial)
    (kept : ∀ s input, m.Reached s → P s → m.enabled s input → P (m.step s input))
    (path : m.Reached s) : P s := by
  induction path with
  | initial => exact start
  | step prior allowed ih => exact kept _ _ prior ih allowed

theorem Reached.runFrom (path : m.Reached s) (admitted : m.EveryFrom m.enabled s inputs) :
    m.Reached (m.runFrom s inputs) := by
  induction inputs generalizing s with
  | nil => exact path
  | cons input rest ih => exact ih (.step path admitted.1) admitted.2

theorem Admits.reached (admitted : m.Admits inputs) : m.Reached (m.run inputs) := Reached.initial.runFrom admitted

theorem runFrom_append (s : State) (first second : List Input) :
    m.runFrom s (first ++ second) = m.runFrom (m.runFrom s first) second := List.foldl_append

theorem everyFrom_append {check : State → Input → Prop} (s : State) (first second : List Input) :
    m.EveryFrom check s (first ++ second) ↔
      m.EveryFrom check s first ∧ m.EveryFrom check (m.runFrom s first) second := by
  induction first generalizing s with
  | nil => exact ⟨fun every => ⟨trivial,every⟩,And.right⟩
  | cons input rest ih =>
    have later := ih (m.step s input)
    exact ⟨fun ⟨now,every⟩ => ⟨⟨now,(later.mp every).1⟩,(later.mp every).2⟩,
      fun ⟨⟨now,before⟩,after⟩ => ⟨now,later.mpr ⟨before,after⟩⟩⟩

theorem runFrom_invariant {P : State → Prop} {check : State → Input → Prop}
    (kept : ∀ s input, m.Reached s → m.enabled s input → check s input → P s → P (m.step s input))
    (path : m.Reached s) (admitted : m.EveryFrom m.enabled s inputs) (every : ∀ s, ∀ input ∈ inputs, check s input)
    (start : P s) : P (m.runFrom s inputs) := by
  induction inputs generalizing s with
  | nil => exact start
  | cons input rest ih =>
    exact ih (.step path admitted.1) admitted.2 (fun s other present => every s other (List.mem_cons_of_mem _ present))
      (kept s input path admitted.1 (every s input List.mem_cons_self) start)

theorem EveryFrom.imp {check other : State → Input → Prop} (path : m.Reached s)
    (implies : ∀ s input, m.Reached s → m.enabled s input → check s input → other s input)
    (admitted : m.EveryFrom m.enabled s inputs) (every : m.EveryFrom check s inputs) :
    m.EveryFrom other s inputs := by
  induction inputs generalizing s with
  | nil => trivial
  | cons input rest ih =>
    exact ⟨implies _ _ path admitted.1 every.1,ih (.step path admitted.1) admitted.2 every.2⟩

-- What a step sets and others keep holds at the end of a run exactly when some
-- step set it and all later ones kept it.
theorem since_iff (holds : State → Prop) {sets keeps : State → Input → Prop}
    (settles : ∀ s input, m.Reached s → m.enabled s input →
      (holds (m.step s input) ↔ sets s input ∨ holds s ∧ keeps s input))
    (path : m.Reached s) (admitted : m.EveryFrom m.enabled s inputs) (start : ¬holds s) :
    holds (m.runFrom s inputs) ↔ ∃ early input late, inputs = early ++ input :: late ∧
      sets (m.runFrom s early) input ∧ m.EveryFrom keeps (m.runFrom s (early ++ [input])) late := by
  induction inputs using List.reverseRecOn with
  | nil =>
    constructor
    · intro held
      exact absurd held start
    · intro found
      obtain ⟨early,input,late,split,_⟩ := found
      exact absurd split (List.append_ne_nil_of_right_ne_nil early (List.cons_ne_nil input late)).symm
  | append_singleton before last ih =>
    obtain ⟨earlier,now,_⟩ := (everyFrom_append s before [last]).mp admitted
    have step : m.runFrom s (before ++ [last]) = m.step (m.runFrom s before) last := runFrom_append s before [last]
    rw [step,settles _ last (path.runFrom earlier) now,ih earlier]
    constructor
    · intro found
      rcases found with set | ⟨⟨early,input,late,split,set,kept⟩,keeps⟩
      · exact ⟨before,last,[],rfl,set,trivial⟩
      · refine ⟨early,input,late ++ [last],by rw [split,List.append_assoc]; rfl,set,?_⟩
        refine (everyFrom_append _ late [last]).mpr ⟨kept,?_,trivial⟩
        rw [← runFrom_append,List.append_assoc,List.singleton_append,← split]
        exact keeps
    · intro found
      obtain ⟨early,input,late,split,set,kept⟩ := found
      rcases split_last split with ⟨_,same,equal⟩ | ⟨between,more,same⟩
      · rw [same,equal]
        exact .inl set
      · rw [more] at kept
        obtain ⟨held,keeps,_⟩ := (everyFrom_append _ between [last]).mp kept
        rw [← runFrom_append,List.append_assoc,List.singleton_append,← same] at keeps
        exact .inr ⟨⟨early,input,between,same,set,held⟩,keeps⟩

-- What did not hold at the start of a run and holds at its end was brought about by
-- one of its steps.
theorem brought_about (holds : State → Prop) (admitted : m.EveryFrom m.enabled s inputs) (start : ¬holds s)
    (ends : holds (m.runFrom s inputs)) :
    ∃ early input late, inputs = early ++ input :: late ∧ m.enabled (m.runFrom s early) input ∧
      ¬holds (m.runFrom s early) ∧ holds (m.step (m.runFrom s early) input) := by
  induction inputs generalizing s with
  | nil => exact absurd ends start
  | cons input rest ih =>
    by_cases now : holds (m.step s input)
    · exact ⟨[],input,rest,rfl,admitted.1,start,now⟩
    · obtain ⟨early,later,late,split,allowed,before,after⟩ := ih admitted.2 now ends
      exact ⟨input :: early,later,late,congrArg (List.cons input) split,allowed,before,after⟩

theorem EveryFrom.of_all {check : State → Input → Prop} (all : ∀ s input, check s input) : m.EveryFrom check s inputs := by
  induction inputs generalizing s with
  | nil => trivial
  | cons input rest ih => exact ⟨all s input,ih⟩

theorem every_iff {check other : State → Input → Prop}
    (agree : ∀ s input, m.Reached s → m.enabled s input → (check s input ↔ other s input))
    (admitted : m.Admits inputs) : m.Every check inputs ↔ m.Every other inputs :=
  ⟨fun every => EveryFrom.imp .initial (fun s input path allowed => (agree s input path allowed).mp) admitted every,
    fun every => EveryFrom.imp .initial (fun s input path allowed => (agree s input path allowed).mpr) admitted every⟩

theorem AlwaysFrom.start {valid : State → Prop} (always : m.AlwaysFrom valid s inputs) : valid s := by
  cases inputs with
  | nil => exact always
  | cons input rest => exact always.1

theorem AlwaysFrom.finish {valid : State → Prop} (always : m.AlwaysFrom valid s inputs) : valid (m.runFrom s inputs) := by
  induction inputs generalizing s with
  | nil => exact always
  | cons input rest ih => exact ih always.2

theorem AlwaysFrom.every {valid : State → Prop} {check : State → Input → Prop}
    (implies : ∀ s input, valid s → check s input) (always : m.AlwaysFrom valid s inputs) : m.EveryFrom check s inputs := by
  induction inputs generalizing s with
  | nil => trivial
  | cons input rest ih => exact ⟨implies s input always.1,ih always.2⟩

-- What holds of a state and is kept by the steps that meet a condition holds
-- throughout a run of such steps, with all that follows from it.
theorem AlwaysFrom.of_kept {P valid : State → Prop} {check : State → Input → Prop}
    (kept : ∀ s input, P s → m.enabled s input → check s input → P (m.step s input)) (implies : ∀ s, P s → valid s)
    (admitted : m.EveryFrom m.enabled s inputs) (every : m.EveryFrom check s inputs) (start : P s) :
    m.AlwaysFrom valid s inputs := by
  induction inputs generalizing s with
  | nil => exact implies s start
  | cons input rest ih =>
    exact ⟨implies s start,ih admitted.2 every.2 (kept s input start admitted.1 every.1)⟩

-- Where a valid state stays valid exactly over the steps that meet a condition,
-- a run is valid throughout exactly when all its steps meet the condition. What
-- is carried has to hold only as long as the run is valid.
theorem carried_iff {P valid : State → Prop} {check : State → Input → Prop}
    (agree : ∀ s input, P s → valid s → m.enabled s input →
      P (m.step s input) ∧ (valid (m.step s input) ↔ check s input))
    (begun : P s) (start : valid s) (admitted : m.EveryFrom m.enabled s inputs) :
    m.AlwaysFrom valid s inputs ↔ m.EveryFrom check s inputs := by
  induction inputs generalizing s with
  | nil => exact ⟨fun _ => trivial,fun _ => start⟩
  | cons input rest ih =>
    obtain ⟨on,now⟩ := agree s input begun start admitted.1
    constructor
    · rintro ⟨_,later⟩
      have next := AlwaysFrom.start later
      exact ⟨now.mp next,(ih on next admitted.2).mp later⟩
    · rintro ⟨met,later⟩
      have next := now.mpr met
      exact ⟨start,(ih on next admitted.2).mpr later⟩

theorem always_iff {valid : State → Prop} {check : State → Input → Prop}
    (agree : ∀ s input, m.Reached s → valid s → m.enabled s input → (valid (m.step s input) ↔ check s input))
    (start : valid m.initial) (admitted : m.Admits inputs) :
    m.Always valid inputs ↔ m.Every check inputs :=
  carried_iff (fun s input path valid allowed => ⟨path.step allowed,agree s input path valid allowed⟩)
    .initial start admitted

-- The same for a property of steps that each step needs of the state it starts in
-- and, where it holds, provides for the next one.
theorem carried_every_iff {P : State → Prop} {check other : State → Input → Prop}
    (agree : ∀ s input, P s → m.enabled s input → (check s input ↔ other s input))
    (kept : ∀ s input, P s → m.enabled s input → check s input → P (m.step s input))
    (start : P s) (admitted : m.EveryFrom m.enabled s inputs) :
    m.EveryFrom check s inputs ↔ m.EveryFrom other s inputs := by
  induction inputs generalizing s with
  | nil => exact Iff.rfl
  | cons input rest ih =>
    have now := agree s input start admitted.1
    constructor
    · rintro ⟨checked,later⟩
      exact ⟨now.mp checked,(ih (kept s input start admitted.1 checked) admitted.2).mp later⟩
    · rintro ⟨met,later⟩
      have checked := now.mpr met
      exact ⟨checked,(ih (kept s input start admitted.1 checked) admitted.2).mpr later⟩

end Machine

end Library
