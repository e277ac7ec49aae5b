import BbAuth.ProviderAuthority
import Mathlib.Data.List.MinMax
import Mathlib.Data.Prod.Lex

open Library
namespace BbAuth

def UIProvider.standing (provider : UIProvider) : Int ×ₗ Int := toLex (provider.priority,provider.lastHeartbeatMs)

-- The order of the standings, taken from that of the integers and from no other.
instance standingOrder : LinearOrder (Int ×ₗ Int) := @Prod.Lex.instLinearOrder Int Int Int.instLinearOrder Int.instLinearOrder

instance standingPreorder : Preorder (Int ×ₗ Int) := standingOrder.toPartialOrder.toPreorder

instance standingDecidableLT : DecidableLT (Int ×ₗ Int) := standingOrder.toDecidableLT

theorem standing_lt_iff (provider other : UIProvider) : provider.standing < other.standing ↔
    other.priority > provider.priority ∨
      (other.priority = provider.priority ∧ other.lastHeartbeatMs > provider.lastHeartbeatMs) := by
  unfold UIProvider.standing
  rw [Prod.Lex.toLex_lt_toLex]
  apply or_congr Iff.rfl
  exact and_congr eq_comm Iff.rfl

-- The local variables of recomputeActiveProvider, with the entries that it has
-- passed and not erased. The priority starts at the least int.
structure Scan where
  kept : List (Socket × UIProvider) := []
  bestSocket : Option Socket := none
  bestPriority : Int := -2147483648
  bestHeartbeat : Int := 0

namespace Scan

variable (nowMs : Int) (isConnected : Socket → Bool)

-- One turn of the loop. No key of the table is null.
def turn (scan : Scan) (entry : Socket × UIProvider) : Scan :=
  let (socket,provider) := entry
  let socketInvalid := !isConnected socket
  let stale := decide (elapsedMs nowMs provider.lastHeartbeatMs > ProviderRegistry.providerHeartbeatTimeoutMs)
  if socketInvalid || stale then scan
  else
    let scan := {scan with kept:=scan.kept ++ [entry]}
    if scan.bestSocket.isNone || decide (provider.priority > scan.bestPriority) ||
        (decide (provider.priority = scan.bestPriority) && decide (provider.lastHeartbeatMs > scan.bestHeartbeat)) then
      {scan with bestSocket:=some socket,bestPriority:=provider.priority,bestHeartbeat:=provider.lastHeartbeatMs}
    else scan

-- The entries come in the order in which the hash table is iterated.
def through (order : List (Socket × UIProvider)) : Scan := order.foldl (turn nowMs isConnected) {}

def survives (entry : Socket × UIProvider) : Bool :=
  isConnected entry.1 && decide (elapsedMs nowMs entry.2.lastHeartbeatMs ≤ 15000)

-- The best entry so far is the first of the greatest ones.
structure Leads (scan : Scan) : Prop where
  nobody : scan.kept.argmax (fun entry => entry.2.standing) = none → scan.bestSocket = none
  somebody : ∀ entry, scan.kept.argmax (fun entry => entry.2.standing) = some entry →
    scan.bestSocket = some entry.1 ∧ scan.bestPriority = entry.2.priority ∧ scan.bestHeartbeat = entry.2.lastHeartbeatMs

variable {nowMs isConnected}

theorem turn_erased (scan : Scan) (entry : Socket × UIProvider) (gone : survives nowMs isConnected entry = false) :
    turn nowMs isConnected scan entry = scan := by
  have condition : (!isConnected entry.1 ||
      decide (elapsedMs nowMs entry.2.lastHeartbeatMs > ProviderRegistry.providerHeartbeatTimeoutMs)) = true := by
    unfold survives at gone
    unfold ProviderRegistry.providerHeartbeatTimeoutMs
    cases connected : isConnected entry.1 with
    | false => rfl
    | true =>
      rw [connected,Bool.true_and,decide_eq_false_iff_not,Int.not_le] at gone
      exact decide_eq_true gone
  exact if_pos condition

theorem turn_kept (scan : Scan) (entry : Socket × UIProvider) (stays : survives nowMs isConnected entry = true)
    (leads : Leads scan) : (turn nowMs isConnected scan entry).kept = scan.kept ++ [entry] ∧
      Leads (turn nowMs isConnected scan entry) := by
  obtain ⟨connected,recent⟩ := Bool.and_eq_true_iff.mp stays
  have passed : (!isConnected entry.1 ||
      decide (elapsedMs nowMs entry.2.lastHeartbeatMs > ProviderRegistry.providerHeartbeatTimeoutMs)) = false := by
    rw [connected,Bool.not_true,Bool.false_or,decide_eq_false_iff_not]
    exact Int.not_lt.mpr (of_decide_eq_true recent)
  have best := List.argmax_concat (fun entry : Socket × UIProvider => entry.2.standing) entry scan.kept
  unfold turn
  simp only [passed,Bool.false_eq_true,if_false]
  cases before : scan.kept.argmax (fun entry => entry.2.standing) with
  | none =>
    rw [before] at best
    have first : scan.bestSocket.isNone = true := Option.isNone_iff_eq_none.mpr (leads.nobody before)
    simp only [first,Bool.true_or,if_true]
    refine ⟨trivial,fun nobody => ?_,fun leader elected => ?_⟩
    · cases best.symm.trans nobody
    · cases best.symm.trans elected
      exact ⟨rfl,rfl,rfl⟩
  | some leader =>
    rw [before] at best
    obtain ⟨socket,priority,heartbeat⟩ := leads.somebody leader before
    have compares : (scan.bestSocket.isNone || decide (entry.2.priority > scan.bestPriority) ||
        (decide (entry.2.priority = scan.bestPriority) && decide (entry.2.lastHeartbeatMs > scan.bestHeartbeat))) =
        decide (leader.2.standing < entry.2.standing) := by
      rw [socket,priority,heartbeat,Option.isNone_some,Bool.false_or,← Bool.decide_and,← Bool.decide_or]
      exact decide_eq_decide.mpr (standing_lt_iff leader.2 entry.2).symm
    simp only [compares]
    by_cases beaten : leader.2.standing < entry.2.standing
    · simp only [beaten,if_true] at best
      simp only [beaten,decide_true,if_true]
      refine ⟨trivial,fun nobody => ?_,fun other elected => ?_⟩
      · cases best.symm.trans nobody
      · cases best.symm.trans elected
        exact ⟨rfl,rfl,rfl⟩
    · simp only [beaten,if_false] at best
      simp only [beaten,decide_false,Bool.false_eq_true,if_false]
      refine ⟨trivial,fun nobody => ?_,fun other elected => ?_⟩
      · cases best.symm.trans nobody
      · cases best.symm.trans elected
        exact ⟨socket,priority,heartbeat⟩

variable (nowMs isConnected)

theorem through_kept (order : List (Socket × UIProvider)) :
    (through nowMs isConnected order).kept = order.filter (survives nowMs isConnected) ∧ Leads (through nowMs isConnected order) := by
  induction order using List.reverseRecOn with
  | nil => exact ⟨rfl,fun _ => rfl,nofun⟩
  | append_singleton before entry ih =>
    obtain ⟨kept,leads⟩ := ih
    have turned : through nowMs isConnected (before ++ [entry]) = turn nowMs isConnected (through nowMs isConnected before) entry :=
      List.foldl_append
    rw [turned,List.filter_append]
    cases stays : survives nowMs isConnected entry with
    | false =>
      rw [turn_erased _ _ stays,kept]
      exact ⟨by simp [stays],leads⟩
    | true =>
      obtain ⟨more,leads⟩ := turn_kept _ entry stays leads
      rw [more,kept]
      exact ⟨by simp [stays],leads⟩

theorem through_elected (order : List (Socket × UIProvider)) :
    (through nowMs isConnected order).bestSocket =
      ((order.filter (survives nowMs isConnected)).argmax (fun entry => entry.2.standing)).map Prod.fst := by
  obtain ⟨kept,leads⟩ := through_kept nowMs isConnected order
  rw [← kept]
  cases elected : (through nowMs isConnected order).kept.argmax (fun entry => entry.2.standing) with
  | none => exact leads.nobody elected
  | some entry => exact (leads.somebody entry elected).1

end Scan

namespace ProviderRegistry

variable {nowMs : Int} {isConnected : Socket → Bool}

def settle (activeProvider bestSocket : Option Socket) : Bool × Option Socket :=
  if activeProvider = bestSocket then (false,activeProvider) else (true,bestSocket)

theorem settle_active (activeProvider bestSocket : Option Socket) : (settle activeProvider bestSocket).2 = bestSocket := by
  unfold settle
  split
  · next same => exact same
  · rfl

theorem settle_changed (activeProvider bestSocket : Option Socket) :
    (settle activeProvider bestSocket).1 = true ↔ bestSocket ≠ activeProvider := by
  unfold settle
  split
  · next same => exact ⟨nofun,fun other => absurd same.symm other⟩
  · next other => exact ⟨fun _ => Ne.symm other,fun _ => rfl⟩

def recomputed (registry : ProviderRegistry) (order : List (Socket × UIProvider)) (nowMs : Int) (isConnected : Socket → Bool) :
    Bool × List (Socket × UIProvider) × Option Socket :=
  let scan := Scan.through nowMs isConnected order
  let (changed,activeProvider) := settle registry.activeProvider scan.bestSocket
  (changed,scan.kept,activeProvider)

theorem better_argmax (entries : List (Socket × UIProvider)) :
    entries.foldl better none = entries.argmax (fun entry => entry.2.standing) := by
  unfold List.argmax
  congr 1
  funext best entry
  cases best with
  | none => rfl
  | some leader =>
    obtain ⟨socket,leader⟩ := leader
    unfold better List.argAux
    simp only [standing_lt_iff]

-- The daemon's registry iterates its table in some order.
theorem recompute_recomputed (registry : ProviderRegistry) (nowMs : Int) (isConnected : Socket → Bool) :
    let outcome := registry.recomputeActiveProvider nowMs isConnected
    registry.recomputed registry.uiProviders.toList nowMs isConnected =
      (outcome.1,outcome.2.uiProviders.toList,outcome.2.activeProvider) := by
  have kept := (Scan.through_kept nowMs isConnected registry.uiProviders.toList).1
  have best := Scan.through_elected nowMs isConnected registry.uiProviders.toList
  have survivors : (registry.uiProviders.filter (fun socket provider =>
      isConnected socket && !decide (elapsedMs nowMs provider.lastHeartbeatMs > providerHeartbeatTimeoutMs))).toList =
      registry.uiProviders.toList.filter (Scan.survives nowMs isConnected) := by
    unfold Table.filter Table.toList
    rw [List.filter_map]
    congr 1
    apply List.filter_congr
    intro entry _
    change (isConnected entry.1 && !decide (elapsedMs nowMs entry.2.lastHeartbeatMs > 15000)) =
      (isConnected entry.1 && decide (elapsedMs nowMs entry.2.lastHeartbeatMs ≤ 15000))
    rw [← decide_not,decide_eq_decide.mpr Int.not_lt]
  rw [← survivors] at kept best
  rw [← better_argmax] at best
  unfold recomputed recomputeActiveProvider settle
  simp only [kept,best]
  split
  · rfl
  · rfl

-- What the election owes to a table and an order of its entries. The age of a
-- heartbeat is the real one unless the difference leaves the range of a qint64.
structure Elects (registry : ProviderRegistry) (nowMs : Int) (isConnected : Socket → Bool)
    (order : List (Socket × UIProvider)) : Prop where
  kept : ∀ socket provider, (socket,provider) ∈ (registry.recomputed order nowMs isConnected).2.1 ↔
    registry.uiProviders.find socket = some provider ∧ isConnected socket = true ∧
      elapsedMs nowMs provider.lastHeartbeatMs ≤ 15000
  aged : ∀ provider : UIProvider, -9223372036854775808 ≤ nowMs - provider.lastHeartbeatMs →
    nowMs - provider.lastHeartbeatMs < 9223372036854775808 →
      elapsedMs nowMs provider.lastHeartbeatMs = nowMs - provider.lastHeartbeatMs
  nobody : (registry.recomputed order nowMs isConnected).2.2 = none ↔ (registry.recomputed order nowMs isConnected).2.1 = []
  best : ∀ socket, (registry.recomputed order nowMs isConnected).2.2 = some socket →
    ∃ provider, (socket,provider) ∈ (registry.recomputed order nowMs isConnected).2.1 ∧
      ∀ entry ∈ (registry.recomputed order nowMs isConnected).2.1, entry.2.standing ≤ provider.standing
  stable : ∀ other : List (Socket × UIProvider), other.Perm order →
    (registry.recomputed other nowMs isConnected).2.2 = (registry.recomputed order nowMs isConnected).2.2 ∨
    ∃ first ∈ (registry.recomputed order nowMs isConnected).2.1,
      ∃ second ∈ (registry.recomputed order nowMs isConnected).2.1,
        first ≠ second ∧ first.2.standing = second.2.standing
  changed : (registry.recomputed order nowMs isConnected).1 = true ↔
    (registry.recomputed order nowMs isConnected).2.2 ≠ registry.activeProvider

theorem recomputed_kept (registry : ProviderRegistry) (order : List (Socket × UIProvider)) :
    (registry.recomputed order nowMs isConnected).2.1 = order.filter (Scan.survives nowMs isConnected) :=
  (Scan.through_kept nowMs isConnected order).1

theorem recomputed_active (registry : ProviderRegistry) (order : List (Socket × UIProvider)) :
    (registry.recomputed order nowMs isConnected).2.2 =
      ((order.filter (Scan.survives nowMs isConnected)).argmax (fun entry => entry.2.standing)).map Prod.fst := by
  unfold recomputed
  simp only
  rw [settle_active,Scan.through_elected]

theorem recomputed_stable (registry : ProviderRegistry) {order other : List (Socket × UIProvider)} (same : other.Perm order) :
    (registry.recomputed other nowMs isConnected).2.2 = (registry.recomputed order nowMs isConnected).2.2 ∨
    ∃ first ∈ (registry.recomputed order nowMs isConnected).2.1,
      ∃ second ∈ (registry.recomputed order nowMs isConnected).2.1,
        first ≠ second ∧ first.2.standing = second.2.standing := by
  have left := same.filter (Scan.survives nowMs isConnected)
  rw [recomputed_active,recomputed_active,recomputed_kept]
  revert left
  generalize order.filter (Scan.survives nowMs isConnected) = kept
  generalize other.filter (Scan.survives nowMs isConnected) = again
  intro left
  cases first : kept.argmax (fun entry => entry.2.standing) with
  | none =>
    rw [List.argmax_eq_none] at first
    subst first
    rw [List.perm_nil.mp left]
    exact .inl rfl
  | some winner =>
    have listed := List.argmax_mem first
    cases second : again.argmax (fun entry => entry.2.standing) with
    | none =>
      rw [List.argmax_eq_none] at second
      subst second
      rw [List.nil_perm.mp left] at listed
      cases listed
    | some rival =>
      have present := left.mem_iff.mp (List.argmax_mem second)
      by_cases equal : rival = winner
      · exact .inl (by rw [equal])
      · refine .inr ⟨rival,present,winner,listed,equal,?_⟩
        apply le_antisymm
        · exact List.le_of_mem_argmax (f := fun entry : Socket × UIProvider => entry.2.standing) present first
        · exact List.le_of_mem_argmax (f := fun entry : Socket × UIProvider => entry.2.standing) (left.mem_iff.mpr listed) second

-- Any table, any clock, any order of iteration.
theorem recomputed_elects (registry : ProviderRegistry) (nowMs : Int) (isConnected : Socket → Bool)
    (order : List (Socket × UIProvider)) (listed : order.Perm registry.uiProviders.toList) :
    Elects registry nowMs isConnected order := by
  refine ⟨?_,fun provider => elapsedMs_eq nowMs provider.lastHeartbeatMs,?_,?_,
    fun other same => recomputed_stable registry same,?_⟩
  · intro socket provider
    rw [recomputed_kept,List.mem_filter,listed.mem_iff,Table.mem_toList]
    unfold Scan.survives
    rw [Bool.and_eq_true_iff,decide_eq_true_iff]
  · rw [recomputed_active,recomputed_kept,Option.map_eq_none_iff,List.argmax_eq_none]
  · intro socket active
    rw [recomputed_active] at active
    rw [recomputed_kept]
    obtain ⟨winner,elected,same⟩ := Option.map_eq_some_iff.mp active
    subst same
    refine ⟨winner.2,List.argmax_mem elected,?_⟩
    intro entry present
    exact List.le_of_mem_argmax (f := fun entry : Socket × UIProvider => entry.2.standing) present elected
  · unfold recomputed
    simp only
    rw [settle_changed,settle_active]

-- Of the two providers the first has been silent for too long.
theorem recomputed_elects_reversed :
    let registry : ProviderRegistry :=
      {uiProviders:=(Table.empty.insert 1 {priority:=10}).insert 2 {priority:=20,lastHeartbeatMs:=5}}
    Elects registry 15001 (fun _ => true) registry.uiProviders.toList.reverse ∧
      (registry.recomputed registry.uiProviders.toList.reverse 15001 (fun _ => true)).2.2 = some 2 :=
  ⟨recomputed_elects _ 15001 (fun _ => true) _ (List.reverse_perm _),rfl⟩

-- The oldest heartbeat there can be looks recent to the greatest clock reading: the
-- difference wraps around.
theorem recomputed_kept_wrapped : ¬∀ (registry : ProviderRegistry) (nowMs : Int) (isConnected : Socket → Bool)
    (order : List (Socket × UIProvider)), order.Perm registry.uiProviders.toList →
    ∀ socket provider, (socket,provider) ∈ (registry.recomputed order nowMs isConnected).2.1 →
      nowMs - provider.lastHeartbeatMs ≤ 15000 := by
  intro recent
  let registry : ProviderRegistry := {uiProviders:=Table.empty.insert 1 {priority:=10,lastHeartbeatMs:=-1}}
  have kept := recent registry 9223372036854775807 (fun _ => true) registry.uiProviders.toList (List.Perm.refl _)
    1 {priority:=10,lastHeartbeatMs:=-1} (by decide)
  exact absurd kept (by decide)

end ProviderRegistry

end BbAuth
