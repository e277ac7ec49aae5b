import BbAuth.Library.Table

namespace Library

-- How announcements tell of a store: each concerns one key, and says what becomes
-- of what was known of it.
structure Telling (Event Key Value : Type) where
  key : Event → Key
  becomes : Event → Option Value → Option Value

namespace Telling

variable {Event Key Value Entry : Type} [DecidableEq Key] (t : Telling Event Key Value)

def hear (known : Key → Option Value) (event : Event) : Key → Option Value :=
  fun key => if key = t.key event then t.becomes event (known key) else known key

-- What is known after a list of announcements, the oldest first.
def listen (known : Key → Option Value) (events : List Event) : Key → Option Value := events.foldl t.hear known

theorem listen_append (known : Key → Option Value) (first second : List Event) :
    t.listen known (first ++ second) = t.listen (t.listen known first) second := List.foldl_append

theorem listen_of (known : Key → Option Value) (events : List Event) (key : Key)
    (about : ∀ event ∈ events, t.key event = key) :
    t.listen known events key = events.foldl (fun value event => t.becomes event value) (known key) := by
  induction events generalizing known with
  | nil => rfl
  | cons event rest ih =>
    have now : t.hear known event key = t.becomes event (known key) := if_pos (about event List.mem_cons_self).symm
    have later := ih (t.hear known event) (fun other present => about other (List.mem_cons_of_mem _ present))
    rw [now] at later
    exact later

theorem listen_other (known : Key → Option Value) (events : List Event) (key : Key)
    (besides : ∀ event ∈ events, t.key event ≠ key) : t.listen known events key = known key := by
  induction events generalizing known with
  | nil => rfl
  | cons event rest ih =>
    have now : t.hear known event key = known key := if_neg (Ne.symm (besides event List.mem_cons_self))
    exact (ih (t.hear known event) (fun other present => besides other (List.mem_cons_of_mem _ present))).trans now

-- Telling a table entry by entry, where nothing is known of its keys, makes all of
-- it known. What is known of other keys stays.
theorem listen_table (known : Key → Option Value) (table : Table Key Entry) (tell : Entry → List Event)
    (value : Entry → Value) (about : ∀ key entry, table.find key = some entry → ∀ event ∈ tell entry, t.key event = key)
    (tells : ∀ entry before, (tell entry).foldl (fun value event => t.becomes event value) before = some (value entry))
    (key : Key) :
    t.listen known (table.toList.flatMap (fun entry => tell entry.2)) key =
      match table.find key with
      | some entry => some (value entry)
      | none => known key := by
  have once := Table.nodup_toList table
  have listed : ∀ entry ∈ table.toList, ∀ event ∈ tell entry.2, t.key event = entry.1 := by
    intro entry present
    exact about entry.1 entry.2 ((Table.mem_toList table entry.1 entry.2).mp present)
  cases found : table.find key with
  | none =>
    apply listen_other
    intro event present same
    obtain ⟨entry,stored,told⟩ := List.mem_flatMap.mp present
    have held := (Table.mem_toList table entry.1 entry.2).mp stored
    rw [← listed entry stored event told,same,found] at held
    cases held
  | some entry =>
    obtain ⟨before,after,split⟩ := List.append_of_mem ((Table.mem_toList table key entry).mpr found)
    rw [split] at once listed ⊢
    rw [List.map_append,List.map_cons] at once
    have apart := List.nodup_append.mp once
    have absent : key ∉ after.map Prod.fst := (List.nodup_cons.mp apart.2.1).1
    have others (entries : List (Key × Entry)) (new : key ∉ entries.map Prod.fst)
        (part : ∀ entry ∈ entries, ∀ event ∈ tell entry.2, t.key event = entry.1) :
        ∀ event ∈ entries.flatMap (fun entry => tell entry.2), t.key event ≠ key := by
      intro event present same
      obtain ⟨other,stored,told⟩ := List.mem_flatMap.mp present
      apply new
      rw [← same,part other stored event told]
      exact List.mem_map_of_mem stored
    rw [List.flatMap_append,List.flatMap_cons,listen_append,listen_append,listen_other,listen_of,tells]
    · exact listed (key,entry) (List.mem_append_right before List.mem_cons_self)
    · exact others after absent
        (fun other stored => listed other (List.mem_append_right before (List.mem_cons_of_mem _ stored)))

-- What holds of all that an announcement can make of a key holds of all that is
-- known in the end.
theorem listen_keeps {P : Key → Value → Prop} (known : Key → Option Value) (events : List Event)
    (start : ∀ key value, known key = some value → P key value)
    (kept : ∀ event ∈ events, ∀ before value, (∀ old, before = some old → P (t.key event) old) →
      t.becomes event before = some value → P (t.key event) value) :
    ∀ key value, t.listen known events key = some value → P key value := by
  induction events generalizing known with
  | nil => exact start
  | cons event rest ih =>
    refine ih (t.hear known event) ?_ (fun other present => kept other (List.mem_cons_of_mem _ present))
    intro key value heard
    unfold hear at heard
    split at heard
    · next same =>
      subst same
      exact kept event List.mem_cons_self _ value (fun old before => start _ old before) heard
    · exact start key value heard

end Telling

end Library
