import BbAuth.Deeds

open Library
namespace BbAuth

namespace ProviderRegistry

-- Somebody is active exactly when somebody is registered, and is registered.
structure Settled (registry : ProviderRegistry) : Prop where
  vacant : registry.activeProvider = none ↔ registry.uiProviders.isEmpty = true
  held : ∀ socket, registry.activeProvider = some socket → registry.contains socket = true

theorem better_some (best : Option (Socket × UIProvider)) (entry : Socket × UIProvider) :
    better best entry = some entry ∨ better best entry = best ∧ best.isSome = true := by
  cases best with
  | none => exact .inl rfl
  | some leader =>
    simp only [better]
    split
    · exact .inl rfl
    · exact .inr ⟨rfl,rfl⟩

theorem elected_mem (entries : List (Socket × UIProvider)) (best : Option (Socket × UIProvider))
    (elected : entries.foldl better best = some winner) : best = some winner ∨ winner ∈ entries := by
  induction entries generalizing best with
  | nil => exact .inl elected
  | cons entry rest ih =>
    rcases ih (better best entry) elected with first | later
    · rcases better_some best entry with taken | ⟨kept,_⟩
      · cases taken.symm.trans first
        exact .inr List.mem_cons_self
      · exact .inl (kept.symm.trans first)
    · exact .inr (List.mem_cons_of_mem _ later)

theorem elected_none (entries : List (Socket × UIProvider)) (best : Option (Socket × UIProvider))
    (elected : entries.foldl better best = none) : best = none ∧ entries = [] := by
  induction entries generalizing best with
  | nil => exact ⟨elected,rfl⟩
  | cons entry rest ih =>
    have nobody := (ih (better best entry) elected).1
    rcases better_some best entry with taken | ⟨kept,somebody⟩
    · cases taken.symm.trans nobody
    · rw [← kept,nobody] at somebody
      cases somebody

theorem recompute_settled (registry : ProviderRegistry) (nowMs : Int) (isConnected : Socket → Bool) :
    Settled (registry.recomputeActiveProvider nowMs isConnected).2 := by
  unfold recomputeActiveProvider
  generalize registry.uiProviders.filter (fun socket provider =>
    isConnected socket && !decide (elapsedMs nowMs provider.lastHeartbeatMs > providerHeartbeatTimeoutMs)) = survivors
  have settled : Settled ⟨survivors,(survivors.toList.foldl better none).map Prod.fst⟩ := by
    refine ⟨?_,?_⟩
    · rw [Option.map_eq_none_iff]
      constructor
      · intro nobody
        have nothing := (elected_none _ _ nobody).2
        apply (Table.isEmpty_iff survivors).mpr
        intro socket
        cases found : survivors.find socket with
        | none => rfl
        | some provider =>
          have listed := (Table.mem_toList survivors socket provider).mpr found
          rw [nothing] at listed
          cases listed
      · intro empty
        have nothing : survivors.toList = [] := by
          apply List.eq_nil_iff_forall_not_mem.mpr
          rintro ⟨socket,provider⟩ listed
          have found := (Table.mem_toList survivors socket provider).mp listed
          rw [(Table.isEmpty_iff survivors).mp empty socket] at found
          cases found
        rw [nothing]
        rfl
    · intro socket active
      obtain ⟨⟨leader,provider⟩,elected,same⟩ := Option.map_eq_some_iff.mp active
      cases same
      rcases elected_mem _ _ elected with first | listed
      · cases first
      · exact Option.isSome_of_eq_some ((Table.mem_toList survivors leader provider).mp listed)
  simp only
  split
  · next same => exact same ▸ settled
  · exact settled

theorem recompute_spec {registry elected : ProviderRegistry}
    (outcome : registry.recomputeActiveProvider nowMs isConnected = (changed,elected)) :
    elected.Settled ∧
    (∀ socket provider, elected.uiProviders.find socket = some provider ↔
      registry.uiProviders.find socket = some provider ∧
        (isConnected socket && !decide (elapsedMs nowMs provider.lastHeartbeatMs > providerHeartbeatTimeoutMs)) = true) ∧
    (changed = false ↔ elected.activeProvider = registry.activeProvider) := by
  have settled := recompute_settled registry nowMs isConnected
  rw [outcome] at settled
  refine ⟨settled,?_⟩
  unfold recomputeActiveProvider at outcome
  simp only at outcome
  split at outcome
  · next same =>
    cases outcome
    exact ⟨fun _ _ => Table.find_filter _ _ _ _,by simp⟩
  · next other =>
    cases outcome
    refine ⟨fun _ _ => Table.find_filter _ _ _ _,?_⟩
    constructor
    · intro unchanged
      cases unchanged
    · intro same
      exact absurd same.symm other

theorem elected_nobody_iff (registry : ProviderRegistry) (nowMs : Int) (isConnected : Socket → Bool) :
    (registry.recomputeActiveProvider nowMs isConnected).2.activeProvider = none ↔
      ∀ socket provider, registry.uiProviders.find socket = some provider → isConnected socket = true →
        elapsedMs nowMs provider.lastHeartbeatMs > providerHeartbeatTimeoutMs := by
  cases outcome : registry.recomputeActiveProvider nowMs isConnected with
  | mk changed elected =>
  obtain ⟨settled,left,_⟩ := recompute_spec outcome
  rw [settled.vacant,Table.isEmpty_iff]
  constructor
  · intro empty socket provider found connected
    by_contra recent
    have kept := (left socket provider).mpr ⟨found,by rw [connected,decide_eq_false recent]; rfl⟩
    rw [empty socket] at kept
    cases kept
  · intro stale socket
    apply Option.eq_none_iff_forall_ne_some.mpr
    intro provider found
    obtain ⟨listed,kept⟩ := (left socket provider).mp found
    obtain ⟨connected,recent⟩ := Bool.and_eq_true_iff.mp kept
    rw [decide_eq_true (stale socket provider listed connected)] at recent
    cases recent

theorem renewed_nobody_iff (registry : ProviderRegistry) (provider : UIProvider) (nowMs : Int) (isConnected : Socket → Bool) :
    (({registry with uiProviders:=registry.uiProviders.insert socket provider} : ProviderRegistry).recomputeActiveProvider
      nowMs isConnected).2.activeProvider = none ↔
      (isConnected socket = true → elapsedMs nowMs provider.lastHeartbeatMs > providerHeartbeatTimeoutMs) ∧
      ∀ other entry, other ≠ socket → registry.uiProviders.find other = some entry → isConnected other = true →
        elapsedMs nowMs entry.lastHeartbeatMs > providerHeartbeatTimeoutMs := by
  rw [elected_nobody_iff]
  constructor
  · intro stale
    refine ⟨stale socket provider (Table.find_insert_self _ _ _),?_⟩
    intro other entry apart found
    exact stale other entry ((Table.find_insert_other _ _ apart).trans found)
  · intro stale other entry found
    obtain ⟨own,others⟩ := stale
    rw [Table.find_insert] at found
    split at found
    · next same =>
      cases found
      rw [same]
      exact own
    · next apart => exact others other entry apart found

theorem recompute_contains (registry : ProviderRegistry) (nowMs : Int) (isConnected : Socket → Bool)
    (still : (registry.recomputeActiveProvider nowMs isConnected).2.contains socket = true) :
    registry.contains socket = true := by
  obtain ⟨provider,found⟩ := (Table.contains_iff _ _).mp still
  unfold recomputeActiveProvider at found
  simp only at found
  split at found
  · exact Option.isSome_of_eq_some ((Table.find_filter _ _ _ _).mp found).1
  · exact Option.isSome_of_eq_some ((Table.find_filter _ _ _ _).mp found).1

theorem unregister_contains (registry : ProviderRegistry) (socket : Socket) :
    (registry.unregisterProvider socket).2.contains socket = false := by
  simp [unregisterProvider,contains,Table.contains]

theorem unregister_settled (settled : Settled registry) (absent : (registry.unregisterProvider socket).1 = false) :
    Settled (registry.unregisterProvider socket).2 := by
  have missing : registry.uiProviders.find socket = none := Option.not_isSome_iff_eq_none.mp (Bool.eq_false_iff.mp absent)
  have same : ∀ other, (registry.uiProviders.remove socket).find other = registry.uiProviders.find other := by
    intro other
    rw [Table.find_remove]
    split
    · next equal => rw [equal,missing]
    · rfl
  have empty : (registry.uiProviders.remove socket).isEmpty = registry.uiProviders.isEmpty := by
    rw [Bool.eq_iff_iff,Table.isEmpty_iff,Table.isEmpty_iff]
    simp only [same]
  refine ⟨?_,?_⟩
  · simp only [unregisterProvider]
    rw [empty]
    exact settled.vacant
  · intro other active
    simp only [unregisterProvider,contains,Table.contains,same]
    exact settled.held other active

theorem isAuthorized_iff (settled : Settled registry) (someone : registry.uiProviders.isEmpty = false) (socket : Socket) :
    registry.isAuthorized socket = true ↔ registry.activeProvider = some socket := by
  unfold isAuthorized
  rw [someone]
  constructor
  · intro authorized
    simp only [Bool.false_eq_true,if_false] at authorized
    split at authorized
    · cases authorized
    · exact (of_decide_eq_true authorized).symm
  · intro active
    simp [settled.held socket active,active]

end ProviderRegistry

open ProviderRegistry (Settled)

namespace Daemon

def Settled (d : Daemon) : Prop := d.providerRegistry.Settled

theorem front_registry {d e : Daemon} (same : e.front = {d.front with deliveries}) :
    e.providerRegistry = d.providerRegistry := congrArg Front.providerRegistry same

theorem registry_sendJson (d : Daemon) (socket : Socket) (message : Message) :
    (d.sendJson socket message).providerRegistry = d.providerRegistry := front_registry (sendJson_front d _ _)

theorem registry_sendAll (d : Daemon) (messages : List (Socket × Message)) :
    (d.sendAll messages).providerRegistry = d.providerRegistry := front_registry (sendAll_front d _)

theorem registry_emitSessionEvent (d : Daemon) (event : SessionEvent) :
    (d.emitSessionEvent event).providerRegistry = d.providerRegistry := by
  unfold emitSessionEvent
  simp only [registry_sendAll]
  rfl

theorem registry_ensureFallbackUiRunning (d : Daemon) (reason : QString) :
    (d.ensureFallbackUiRunning reason).providerRegistry = d.providerRegistry :=
  congrArg Front.providerRegistry (front_ensureFallbackUiRunning d reason)

theorem registry_refreshActiveProvider (d : Daemon) :
    d.refreshActiveProvider.providerRegistry =
      (d.providerRegistry.recomputeActiveProvider d.nowMs.1 d.isConnected).2 := by
  unfold refreshActiveProvider emitProviderStatus
  simp only
  split
  · rw [registry_sendAll]; rfl
  · rfl

def Reelected (registry later : ProviderRegistry) : Prop :=
  later = registry ∨ ∃ nowMs isConnected, later = (registry.recomputeActiveProvider nowMs isConnected).2

theorem refresh_reelected (d : Daemon) : Reelected d.providerRegistry d.refreshActiveProvider.providerRegistry :=
  .inr ⟨_,_,registry_refreshActiveProvider d⟩

theorem closeSession_reelected (d : Daemon) (id : QString) (result : Result) :
    Reelected d.providerRegistry (d.closeSession id result).providerRegistry := by
  unfold closeSession
  split
  · exact .inl rfl
  · simp only [registry_emitSessionEvent]
    split
    · exact refresh_reelected _
    · exact .inl rfl

theorem onSessionComplete_reelected (d : Daemon) (id : QString) (success : Bool) :
    Reelected d.providerRegistry (d.onSessionComplete id success).providerRegistry := by
  unfold onSessionComplete
  split
  · exact .inl rfl
  · next event store closed =>
    have emitted : ((d.withSessionStore store).emitSessionEvent event).providerRegistry = d.providerRegistry :=
      registry_emitSessionEvent _ _
    simp only
    split
    · exact emitted ▸ refresh_reelected _
    · exact .inl emitted

theorem deed_reelected (deed : Deed d e) : Reelected d.providerRegistry e.providerRegistry := by
  cases deed with
  | quiet same => exact .inl (congrArg Front.providerRegistry same)
  | created id source ctx =>
    unfold createSession
    simp only
    split
    · rw [registry_ensureFallbackUiRunning,registry_emitSessionEvent]; exact .inl rfl
    · rw [registry_emitSessionEvent]; exact .inl rfl
  | updated id change alike =>
    unfold emitUpdated
    split
    · exact .inl rfl
    · rw [registry_emitSessionEvent]; exact .inl rfl
  | counted id curRetry maxRetries =>
    unfold updateSessionPinentryRetry
    split <;> exact .inl rfl
  | closed id result => exact closeSession_reelected d id result
  | completed id success => exact onSessionComplete_reelected d id success

structure Without (socket : Socket) (registry : ProviderRegistry) : Prop where
  settled : registry.Settled
  absent : registry.contains socket = false

theorem without_inactive (without : Without socket registry) : registry.activeProvider ≠ some socket := by
  intro active
  have present := without.settled.held socket active
  rw [without.absent] at present
  cases present

theorem reelected_settled (reelected : Reelected registry later) (settled : registry.Settled) : later.Settled := by
  rcases reelected with rfl | ⟨nowMs,isConnected,rfl⟩
  · exact settled
  · exact ProviderRegistry.recompute_settled _ _ _

theorem reelected_without (reelected : Reelected registry later) (without : Without socket registry) :
    Without socket later := by
  refine ⟨reelected_settled reelected without.settled,Bool.eq_false_iff.mpr ?_⟩
  intro present
  have before : registry.contains socket = true := by
    rcases reelected with rfl | ⟨nowMs,isConnected,rfl⟩
    · exact present
    · exact ProviderRegistry.recompute_contains _ _ _ present
  rw [without.absent] at before
  cases before

theorem deeds_settled (deeds : Deeds d e) (settled : d.Settled) : e.Settled :=
  deeds.invariant (P := Settled) (fun _ _ deed settled => reelected_settled (deed_reelected deed) settled) settled

theorem deeds_without (deeds : Deeds d e) (without : Without socket d.providerRegistry) :
    Without socket e.providerRegistry :=
  deeds.invariant (P := fun e => Without socket e.providerRegistry)
    (fun _ _ deed without => reelected_without (deed_reelected deed) without) without

theorem refresh_settled (d : Daemon) : d.refreshActiveProvider.Settled := by
  unfold Settled
  rw [registry_refreshActiveProvider]
  exact ProviderRegistry.recompute_settled _ _ _

theorem same_settled {d e : Daemon} (same : e.providerRegistry = d.providerRegistry) (settled : d.Settled) :
    e.Settled := by
  unfold Settled
  rwa [same]

end Daemon

namespace Agent

open Daemon (Served deeds_settled deeds_without same_settled refresh_settled)

theorem settled_sendJson (d : Daemon) (socket : Socket) (message : Message) (settled : d.Settled) :
    (d.sendJson socket message).Settled := same_settled (Daemon.registry_sendJson d _ _) settled

theorem served_settled (served : Served d socket e) (settled : d.Settled) : e.Settled := by
  cases served with
  | quietly deeds => exact settled_sendJson _ _ _ (deeds_settled deeds settled)
  | keyring deeds asked gone answer | pinentry deeds asked gone answer =>
    exact settled_sendJson _ _ _ (settled_sendJson _ _ _ (deeds_settled deeds settled))

theorem settled_ensureFallbackUiRunning (d : Daemon) (reason : QString) (settled : d.Settled) :
    (d.ensureFallbackUiRunning reason).Settled := same_settled (Daemon.registry_ensureFallbackUiRunning d _) settled

theorem settled_handleSubscribe (d : Daemon) (socket : Socket) (settled : d.Settled) :
    (handleSubscribe d socket).Settled := by
  unfold handleSubscribe
  apply settled_sendJson
  split <;> split
  · exact same_settled (Daemon.registry_sendAll d _) settled
  · exact settled
  · exact same_settled (Daemon.registry_sendAll _ _) settled
  · exact settled

theorem settled_handleNext (d : Daemon) (socket : Socket) (settled : d.Settled) : (handleNext d socket).Settled := by
  unfold handleNext
  split
  · exact settled
  · exact settled_sendJson _ _ _ settled

theorem settled_handleUIRegister (d : Daemon) (socket : Socket) (msg : QJsonObject) :
    (handleUIRegister d socket msg).Settled := by
  have elected (e : Daemon) : e.recomputeActiveProvider.2.Settled := ProviderRegistry.recompute_settled _ _ _
  unfold handleUIRegister
  simp only
  split
  · unfold Daemon.emitProviderStatus
    exact same_settled (Daemon.registry_sendAll _ _) (settled_sendJson _ _ _ (elected _))
  · exact settled_sendJson _ _ _ (elected _)

theorem settled_handleUIHeartbeat (d : Daemon) (socket : Socket) (settled : d.Settled) :
    (handleUIHeartbeat d socket).Settled := by
  unfold handleUIHeartbeat
  split
  · exact settled_sendJson d _ _ settled
  · exact settled_sendJson _ _ _ (refresh_settled _)

theorem settled_handleUIUnregister (d : Daemon) (socket : Socket) (settled : d.Settled) :
    (handleUIUnregister d socket).Settled := by
  unfold handleUIUnregister
  split
  · exact settled_sendJson d _ _ settled
  · next registry removed =>
    have replied := settled_sendJson _ socket (.ok none) (refresh_settled (d.withProviderRegistry registry))
    simp only
    split
    · exact settled_ensureFallbackUiRunning _ _ replied
    · exact replied

theorem settled_talk (talk : Talk d socket e) (settled : d.Settled) : e.Settled := by
  cases talk with
  | refused message foreign => exact settled_sendJson d _ _ settled
  | served served => exact served_settled served settled
  | asked deeds => exact deeds_settled deeds settled
  | pinged => exact settled_sendJson d _ _ settled
  | subscribed => exact settled_handleSubscribe d socket settled
  | waited => exact settled_handleNext d socket settled
  | registered msg => exact settled_handleUIRegister d socket msg
  | beat known => exact settled_handleUIHeartbeat d socket settled
  | unregistered known => exact settled_handleUIUnregister d socket settled

theorem settled_pruneStaleProviders (d : Daemon) : (pruneStaleProviders d).Settled := by
  unfold pruneStaleProviders
  simp only
  split
  · exact settled_ensureFallbackUiRunning _ _ (refresh_settled d)
  · exact refresh_settled d

-- A socket that left is not registered any more, so that its deletion does not
-- touch the active provider.
theorem without_forgetProvider (d : Daemon) (socket : Socket) (settled : d.Settled) :
    Daemon.Without socket (forgetProvider d socket).providerRegistry := by
  have absent := ProviderRegistry.unregister_contains d.providerRegistry socket
  unfold forgetProvider
  simp only [Daemon.withEventQueue]
  split
  · refine ⟨refresh_settled _,Bool.eq_false_iff.mpr ?_⟩
    intro present
    rw [Daemon.registry_refreshActiveProvider] at present
    exact Bool.false_ne_true (absent.symm.trans (ProviderRegistry.recompute_contains _ _ _ present))
  · next kept => exact ⟨ProviderRegistry.unregister_settled settled (Bool.eq_false_iff.mpr kept),absent⟩

theorem without_onClientDisconnected (d : Daemon) (socket : Socket) (settled : d.Settled) :
    Daemon.Without socket (onClientDisconnected d socket).providerRegistry :=
  deeds_without (deeds_onClientDisconnected d socket) (without_forgetProvider d socket settled)

end Agent

namespace Daemon

theorem settled_setSocketState (d : Daemon) (socket : Socket) (state : LocalSocketState) (settled : d.Settled) :
    (d.setSocketState socket state).Settled := by
  unfold setSocketState
  split <;> exact settled

theorem registry_deleteSocket (d : Daemon) (without : Without socket d.providerRegistry) :
    (d.deleteSocket socket).providerRegistry = d.providerRegistry := by
  unfold deleteSocket
  simp only [if_neg (without_inactive without)]

theorem settled_deleteSocket (d : Daemon) (without : Without socket d.providerRegistry) :
    (d.deleteSocket socket).Settled := same_settled (registry_deleteSocket d without) without.settled

theorem settled_disconnect (d : Daemon) (socket : Socket) (settled : d.Settled) : (d.disconnect socket).Settled :=
  settled_deleteSocket _ (Agent.without_onClientDisconnected _ socket (settled_setSocketState d socket _ settled))

theorem step_settled (d : Daemon) (input : Input) (settled : d.Settled) : (daemon.step d input).Settled := by
  have fresh : ({d with env:=input.env} : Daemon).Settled := settled
  unfold daemon step handle
  simp only
  split
  · exact settled
  · exact settled_setSocketState _ _ _ fresh
  · exact Agent.settled_talk (Agent.talk_handleMessage _ _ _ _) fresh
  · exact settled_disconnect _ _ fresh
  · exact deeds_settled (PolkitListener.deeds_initiateAuthentication _ _ _ _ _ _ _) fresh
  · exact deeds_settled (PolkitListener.strides_deeds (PolkitListener.strides_signal _ _ _)) fresh
  · exact deeds_settled (PolkitListener.strides_deeds (PolkitListener.strides_cancelAuthentication _)) fresh
  · exact deeds_settled (PinentryManager.deeds_timeout _ _) fresh
  · exact Agent.settled_pruneStaleProviders _

theorem reached_settled (path : daemon.Reached d) : d.Settled := by
  apply path.invariant (P := Settled)
  · exact ⟨by decide +kernel,nofun⟩
  · intro d input _ settled _
    exact step_settled d input settled

-- In every run, nobody is active exactly when nobody is registered. Otherwise
-- exactly one socket may respond and cancel, the active one, and it is registered.
theorem one_provider_authorized (inputs : List Input) (admitted : daemon.Admits inputs) :
    let registry := (daemon.run inputs).providerRegistry
    (registry.activeProvider = none ↔ registry.uiProviders.isEmpty = true) ∧
    (∀ socket, registry.activeProvider = some socket → registry.contains socket = true) ∧
    (registry.uiProviders.isEmpty = false →
      ∃ socket, registry.contains socket = true ∧
        ∀ other, (daemon.run inputs).isAuthorizedProviderSocket other = true ↔ other = socket) := by
  have settled := reached_settled (Machine.Admits.reached admitted)
  refine ⟨settled.vacant,settled.held,?_⟩
  intro someone
  cases active : (daemon.run inputs).providerRegistry.activeProvider with
  | none =>
    rw [settled.vacant.mp active] at someone
    cases someone
  | some socket =>
    refine ⟨socket,settled.held socket active,fun other => ?_⟩
    rw [isAuthorizedProviderSocket,ProviderRegistry.isAuthorized_iff settled someone,active,Option.some.injEq]
    exact eq_comm

def twoProviders : List Input :=
  [.quiet (.connected 7),
   .quiet (.connected 8),
   .say 0 "ui.register" [("kind","fallback")],
   .say 1 "ui.register" [("kind","quickshell")]]

theorem twoProviders_one_authorized :
    ∃ socket, (daemon.run twoProviders).providerRegistry.contains socket = true ∧
      ∀ other, (daemon.run twoProviders).isAuthorizedProviderSocket other = true ↔ other = socket :=
  (one_provider_authorized twoProviders (by decide +kernel)).2.2 (by decide +kernel)

end Daemon

end BbAuth
