import BbAuth.Library.Runs

namespace Library

-- A view of the states of a machine that its steps respect: what a step makes of a
-- viewed state and a viewed input is the view of what it makes of the originals.
structure Symmetry (m : Machine State Input) where
  state : State → State
  input : Input → Input
  initial : state m.initial = m.initial
  enabled : ∀ s i, m.enabled (state s) (input i) ↔ m.enabled s i
  step : ∀ s i, state (m.step s i) = m.step (state s) (input i)

namespace Symmetry

variable {State Input : Type} {m : Machine State Input}

theorem runFrom (view : Symmetry m) (s : State) (inputs : List Input) :
    view.state (m.runFrom s inputs) = m.runFrom (view.state s) (inputs.map view.input) := by
  induction inputs generalizing s with
  | nil => rfl
  | cons input rest ih =>
    have later := ih (m.step s input)
    rw [view.step] at later
    exact later

theorem run (view : Symmetry m) (inputs : List Input) :
    view.state (m.run inputs) = m.run (inputs.map view.input) := by
  have runs := view.runFrom m.initial inputs
  rw [view.initial] at runs
  exact runs

theorem everyFrom (view : Symmetry m) (s : State) (inputs : List Input) :
    m.EveryFrom m.enabled (view.state s) (inputs.map view.input) ↔ m.EveryFrom m.enabled s inputs := by
  induction inputs generalizing s with
  | nil => exact Iff.rfl
  | cons input rest ih =>
    have later := ih (m.step s input)
    rw [view.step] at later
    exact and_congr (view.enabled s input) later

theorem admits (view : Symmetry m) (inputs : List Input) :
    m.Admits (inputs.map view.input) ↔ m.Admits inputs := by
  have every := view.everyFrom m.initial inputs
  rw [view.initial] at every
  exact every

-- Runs on inputs that look alike end in states that look alike, and are admitted
-- together.
theorem alike (view : Symmetry m) {inputs others : List Input} (same : inputs.map view.input = others.map view.input) :
    view.state (m.run inputs) = view.state (m.run others) ∧ (m.Admits inputs ↔ m.Admits others) := by
  constructor
  · rw [view.run,view.run,same]
  · rw [← view.admits inputs,← view.admits others,same]

end Symmetry

end Library
