import Mathlib.Data.List.AList
import Mathlib.Data.Fintype.EquivFin

namespace Library

-- A finite keyed table. Mathlib's association list carries the proof that no
-- key is listed twice; its entry order stands for an unspecified iteration order.
abbrev Table (κ α : Type) : Type := AList (fun _ : κ => α)

namespace Table

variable {κ α : Type}

def empty : Table κ α := (∅ : AList (fun _ : κ => α))

def toList (table : Table κ α) : List (κ × α) := table.entries.map (fun entry => (entry.1,entry.2))

def keys (table : Table κ α) : List κ := AList.keys table

def isEmpty (table : Table κ α) : Bool := table.entries.isEmpty

def size (table : Table κ α) : Nat := table.entries.length

def filter (table : Table κ α) (keep : κ → α → Bool) : Table κ α :=
  ⟨table.entries.filter (fun entry => keep entry.1 entry.2),
    List.NodupKeys.sublist List.filter_sublist table.nodupKeys⟩

theorem nodup_toList (table : Table κ α) : (table.toList.map Prod.fst).Nodup := by
  have keys : table.toList.map Prod.fst = table.keys := List.map_map
  rw [keys]
  exact AList.keys_nodup table

theorem size_keys (table : Table κ α) : table.size = table.keys.length := List.length_map _ |>.symm

variable [DecidableEq κ]

def find (table : Table κ α) (key : κ) : Option α := AList.lookup key table

def contains (table : Table κ α) (key : κ) : Bool := (table.find key).isSome

def insert (table : Table κ α) (key : κ) (value : α) : Table κ α := AList.insert key value table

def remove (table : Table κ α) (key : κ) : Table κ α := AList.erase key table

@[simp] theorem find_empty (key : κ) : (empty : Table κ α).find key = none := rfl

theorem find_insert (table : Table κ α) (key other : κ) (value : α) :
    (table.insert key value).find other = if other = key then some value else table.find other := by
  by_cases equal : other = key
  · subst other; simp [find,insert]
  · simp [find,insert,equal]

theorem find_remove (table : Table κ α) (key other : κ) :
    (table.remove key).find other = if other = key then none else table.find other := by
  by_cases equal : other = key
  · subst other; simp [find,remove]
  · simp [find,remove,equal]

@[simp] theorem find_insert_self (table : Table κ α) (key : κ) (value : α) :
    (table.insert key value).find key = some value := by simp [find_insert]

@[simp] theorem find_remove_self (table : Table κ α) (key : κ) :
    (table.remove key).find key = none := by simp [find_remove]

theorem find_insert_other (table : Table κ α) (value : α) (different : other ≠ key) :
    (table.insert key value).find other = table.find other := by simp [find_insert,different]

theorem mem_toList (table : Table κ α) (key : κ) (value : α) :
    (key,value) ∈ table.toList ↔ table.find key = some value := by
  have entry : (⟨key,value⟩ : Sigma fun _ : κ => α) ∈ table.entries ↔ table.find key = some value :=
    (AList.mem_lookup_iff (s := table)).symm
  rw [← entry]
  simp only [toList,List.mem_map,Prod.mk.injEq]
  constructor
  · rintro ⟨⟨k,v⟩,present,rfl,rfl⟩; exact present
  · intro present; exact ⟨_,present,rfl,rfl⟩

theorem mem_keys (table : Table κ α) (key : κ) :
    key ∈ table.keys ↔ table.contains key = true := by
  simp only [keys,contains,find]
  rw [← AList.mem_keys]
  exact (AList.lookup_isSome (s := table)).symm

theorem contains_iff (table : Table κ α) (key : κ) :
    table.contains key = true ↔ ∃ value, table.find key = some value := Option.isSome_iff_exists

theorem contains_insert (table : Table κ α) (key other : κ) (value : α) :
    (table.insert key value).contains other = true ↔ other = key ∨ table.contains other = true := by
  unfold contains
  rw [find_insert]
  by_cases same : other = key
  · simp [same]
  · simp [same]

theorem contains_remove (table : Table κ α) (key other : κ) :
    (table.remove key).contains other = true ↔ other ≠ key ∧ table.contains other = true := by
  unfold contains
  rw [find_remove]
  by_cases same : other = key
  · simp [same]
  · simp [same]

theorem isEmpty_iff (table : Table κ α) :
    table.isEmpty = true ↔ ∀ key, table.find key = none := by
  simp only [isEmpty,List.isEmpty_iff]
  constructor
  · intro nothing key
    cases found : table.find key with
    | none => rfl
    | some value =>
      have present := (mem_toList table key value).mpr found
      simp [toList,nothing] at present
  · intro absent
    apply List.eq_nil_iff_forall_not_mem.mpr
    rintro ⟨key,value⟩ present
    have found := (mem_toList table key value).mp (List.mem_map.mpr ⟨_,present,rfl⟩)
    rw [absent key] at found
    cases found

theorem exists_absent [Infinite κ] (table : Table κ α) : ∃ key, table.find key = none := by
  obtain ⟨key,absent⟩ := Infinite.exists_notMem_finset table.keys.toFinset
  refine ⟨key,Option.not_isSome_iff_eq_none.mp ?_⟩
  intro held
  exact absent (List.mem_toFinset.mpr ((mem_keys table key).mpr held))

theorem remove_absent (table : Table κ α) (absent : table.contains key = false) : table.remove key = table := by
  apply AList.ext
  apply List.kerase_of_notMem_keys
  intro present
  have held := (mem_keys table key).mp present
  rw [absent] at held
  cases held

theorem size_le {table other : Table κ α} (within : ∀ key, table.contains key = true → other.contains key = true) :
    table.size ≤ other.size := by
  rw [size_keys,size_keys]
  refine (List.subperm_of_subset (AList.keys_nodup table) ?_).length_le
  intro key listed
  exact (mem_keys other key).mpr (within key ((mem_keys table key).mp listed))

theorem size_lt {table other : Table κ α} (within : ∀ key, table.contains key = true → other.contains key = true)
    (held : other.contains key = true) (lacking : table.contains key = false) : table.size < other.size := by
  rw [size_keys,size_keys]
  have fresh : key ∉ table.keys := fun listed => Bool.eq_false_iff.mp lacking ((mem_keys table key).mp listed)
  have more : (key :: table.keys).length ≤ other.keys.length := by
    refine (List.subperm_of_subset (List.nodup_cons.mpr ⟨fresh,AList.keys_nodup table⟩) ?_).length_le
    intro listed present
    rcases List.mem_cons.mp present with same | old
    · rw [same]
      exact (mem_keys other key).mpr held
    · exact (mem_keys other listed).mpr (within listed ((mem_keys table listed).mp old))
  exact more

theorem size_pos (table : Table κ α) : 0 < table.size ↔ ∃ key, table.contains key = true := by
  rw [size_keys,List.length_pos_iff_exists_mem]
  simp only [mem_keys]

theorem find_filter (table : Table κ α) (keep : κ → α → Bool) (key : κ) (value : α) :
    (table.filter keep).find key = some value ↔ table.find key = some value ∧ keep key value = true := by
  rw [← mem_toList,← mem_toList]
  simp only [toList,filter,List.mem_map,List.mem_filter,Prod.mk.injEq]
  constructor
  · rintro ⟨⟨k,v⟩,⟨present,kept⟩,rfl,rfl⟩
    exact ⟨⟨_,present,rfl,rfl⟩,kept⟩
  · rintro ⟨⟨⟨k,v⟩,present,rfl,rfl⟩,kept⟩
    exact ⟨_,⟨present,kept⟩,rfl,rfl⟩

end Table

end Library
