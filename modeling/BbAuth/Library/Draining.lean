import BbAuth.Library.Runs

namespace Library

-- Inputs of one kind that each lower a load, and of which one is possible as long as
-- some load is left.
structure Draining (m : Machine State Input) (drains : Input → Prop) (load : State → Nat) : Prop where
  lowers : ∀ s input, m.Reached s → m.enabled s input → drains input → load (m.step s input) < load s
  possible : ∀ s, m.Reached s → 0 < load s → ∃ input, drains input ∧ m.enabled s input

namespace Draining

variable {m : Machine State Input} {drains : Input → Prop} {load : State → Nat} {s : State} {inputs : List Input}

theorem bounded (draining : Draining m drains load) (path : m.Reached s) (admitted : m.EveryFrom m.enabled s inputs)
    (all : ∀ input ∈ inputs, drains input) : inputs.length + load (m.runFrom s inputs) ≤ load s := by
  induction inputs generalizing s with
  | nil => exact Nat.le_of_eq (Nat.zero_add _)
  | cons input rest ih =>
    have lower := draining.lowers s input path admitted.1 (all input List.mem_cons_self)
    have later := ih (path.step admitted.1) admitted.2 (fun other present => all other (List.mem_cons_of_mem _ present))
    have stepped : m.runFrom s (input :: rest) = m.runFrom (m.step s input) rest := rfl
    rw [stepped,List.length_cons]
    omega

-- Only where no load is left is no further draining possible.
theorem drained_iff (draining : Draining m drains load) (path : m.Reached s) :
    load s = 0 ↔ ∀ input, drains input → ¬m.enabled s input := by
  constructor
  · intro none input kind allowed
    have lower := draining.lowers s input path allowed kind
    omega
  · intro stuck
    by_contra left
    obtain ⟨input,kind,allowed⟩ := draining.possible s path (Nat.pos_of_ne_zero left)
    exact stuck input kind allowed

theorem completes (draining : Draining m drains load) (path : m.Reached s) :
    ∃ inputs, m.EveryFrom m.enabled s inputs ∧ (∀ input ∈ inputs, drains input) ∧ load (m.runFrom s inputs) = 0 := by
  induction left : load s using Nat.strongRecOn generalizing s with
  | ind amount ih =>
    subst left
    rcases Nat.eq_zero_or_pos (load s) with none | some
    · exact ⟨[],trivial,nofun,none⟩
    · obtain ⟨input,kind,allowed⟩ := draining.possible s path some
      have lower := draining.lowers s input path allowed kind
      obtain ⟨rest,admitted,all,drained⟩ := ih _ lower (path.step allowed) rfl
      exact ⟨input :: rest,⟨allowed,admitted⟩,List.forall_mem_cons.mpr ⟨kind,all⟩,drained⟩

end Draining

end Library
