import BbAuth.Library.Runs

namespace Library

-- A history, the latest entry first, that grew by entries of a kind.
def Grown (may : α → Prop) (older newer : List α) : Prop :=
  ∃ new, newer = new ++ older ∧ ∀ entry ∈ new, may entry

namespace Grown

variable {may other : α → Prop} {older middle newer : List α}

theorem same (equal : newer = older) : Grown may older newer := ⟨[],equal,List.forall_mem_nil _⟩

theorem one (older : List α) (allowed : may entry) : Grown may older (entry :: older) :=
  ⟨[entry],rfl,List.forall_mem_singleton.mpr allowed⟩

theorem trans (first : Grown may older middle) (second : Grown may middle newer) : Grown may older newer := by
  obtain ⟨before,reached,early⟩ := first
  obtain ⟨after,ends,late⟩ := second
  refine ⟨after ++ before,?_,?_⟩
  · rw [ends,reached,List.append_assoc]
  · intro entry present
    rcases List.mem_append.mp present with later | earlier
    · exact late entry later
    · exact early entry earlier

theorem imp (grown : Grown may older newer) (implies : ∀ entry, may entry → other entry) : Grown other older newer := by
  obtain ⟨new,same,all⟩ := grown
  exact ⟨new,same,fun entry present => implies entry (all entry present)⟩

theorem since (grown : Grown may older newer) (split : newer = later ++ entry :: (earlier ++ older)) : may entry := by
  obtain ⟨new,same,all⟩ := grown
  have lengthened : (later ++ entry :: earlier) ++ older = new ++ older := by
    rw [← same,split,List.append_assoc,List.cons_append]
  apply all entry
  rw [← List.append_cancel_right lengthened]
  exact List.mem_append_right later List.mem_cons_self

theorem read (grown : Grown may older newer) (read : List α → β)
    (skips : ∀ entry rest, may entry → read (entry :: rest) = read rest) : read newer = read older := by
  obtain ⟨new,same,all⟩ := grown
  rw [same]
  clear same
  induction new with
  | nil => rfl
  | cons entry rest ih =>
    have later := ih (fun other present => all other (List.mem_cons_of_mem _ present))
    exact (skips entry _ (all entry List.mem_cons_self)).trans later

theorem filterMap (grown : Grown may older newer) (f : α → Option β)
    (silent : ∀ entry, may entry → f entry = none) : newer.filterMap f = older.filterMap f :=
  grown.read (fun history => history.filterMap f) (fun entry _ allowed => List.filterMap_cons_none (silent entry allowed))

end Grown

theorem mem_log_iff (step : σ → ι → σ) (log : σ → List α) (added : σ → ι → List α)
    (grows : ∀ s input, log (step s input) = log s ++ added s input) (start : σ) (inputs : List ι) (entry : α) :
    entry ∈ log (inputs.foldl step start) ↔
      entry ∈ log start ∨ ∃ before input after, inputs = before ++ input :: after ∧ entry ∈ added (before.foldl step start) input := by
  induction inputs using List.reverseRecOn with
  | nil =>
    constructor
    · exact .inl
    · intro found
      rcases found with old | ⟨before,input,after,split,_⟩
      · exact old
      · exact absurd split (List.append_ne_nil_of_right_ne_nil before (List.cons_ne_nil input after)).symm
  | append_singleton earlier last ih =>
    rw [List.foldl_append,List.foldl_cons,List.foldl_nil,grows,List.mem_append,ih]
    constructor
    · intro found
      rcases found with (old | ⟨before,input,after,split,wrote⟩) | now
      · exact .inl old
      · exact .inr ⟨before,input,after ++ [last],by rw [split,List.append_assoc]; rfl,wrote⟩
      · exact .inr ⟨earlier,last,[],rfl,now⟩
    · intro found
      rcases found with old | ⟨before,input,after,split,wrote⟩
      · exact .inl (.inl old)
      · rcases split_last split with ⟨_,same,equal⟩ | ⟨between,_,same⟩
        · rw [same,equal]
          exact .inr wrote
        · exact .inl (.inr ⟨before,input,between,same,wrote⟩)

end Library
