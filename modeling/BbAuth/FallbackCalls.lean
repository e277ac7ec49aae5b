import BbAuth.Hearing

open Library
namespace BbAuth

namespace Daemon

variable {d m e : Daemon} {socket : Socket} {id : QString} {session : Session}

-- Some session is open while nobody shows it.
def Bereft (d : Daemon) : Prop := d.sessionStore.isEmpty = false ∧ d.hasActiveProvider = false

def CallsFallback (d e : Daemon) : Prop :=
  ∃ new, e.trace = new ++ d.trace ∧ ∃ reason, .fallbackRequested reason ∈ new

-- From one daemon to a later one, no session was left alone without a call.
structure Covered (d e : Daemon) : Prop where
  grown : Grown (fun _ => True) d.trace e.trace
  called : e.Bereft → d.Bereft ∨ d.CallsFallback e

theorem CallsFallback.later (calls : d.CallsFallback m) (grown : Grown (fun _ => True) m.trace e.trace) :
    d.CallsFallback e := by
  obtain ⟨old,before,reason,present⟩ := calls
  obtain ⟨new,after,_⟩ := grown
  refine ⟨new ++ old,?_,reason,List.mem_append_right _ present⟩
  rw [after,before,List.append_assoc]

theorem CallsFallback.earlier (grown : Grown (fun _ => True) d.trace m.trace) (calls : m.CallsFallback e) :
    d.CallsFallback e := by
  obtain ⟨old,before,_⟩ := grown
  obtain ⟨new,after,reason,present⟩ := calls
  refine ⟨new ++ old,?_,reason,List.mem_append_left _ present⟩
  rw [after,before,List.append_assoc]

theorem Covered.trans (first : Covered d m) (second : Covered m e) : Covered d e := by
  refine ⟨first.grown.trans second.grown,fun bereft => ?_⟩
  rcases second.called bereft with before | calls
  · rcases first.called before with start | earlier
    · exact .inl start
    · exact .inr (earlier.later second.grown)
  · exact .inr (calls.earlier first.grown)

theorem covered_kept (grown : Grown (fun _ => True) d.trace e.trace) (registry : e.providerRegistry = d.providerRegistry)
    (store : d.sessionStore.isEmpty = true → e.sessionStore.isEmpty = true) : Covered d e := by
  refine ⟨grown,fun bereft => .inl ⟨?_,?_⟩⟩
  · apply Bool.eq_false_iff.mpr
    intro nothing
    exact Bool.false_ne_true (bereft.1.symm.trans (store nothing))
  · unfold hasActiveProvider
    rw [← registry]
    exact bereft.2

theorem grown_told {older newer : List Effect} (told : Grown Effect.told older newer) : Grown (fun _ => True) older newer :=
  told.imp (fun _ _ => trivial)

theorem covered_sendJson (d : Daemon) (socket : Socket) (message : Message) : Covered d (d.sendJson socket message) :=
  covered_kept (grown_told (told_sendJson d socket message)) (registry_sendJson d socket message)
    (fun nothing => (congrArg Table.isEmpty (store_sendJson d socket message)).trans nothing)

theorem covered_sendAll (d : Daemon) (messages : List (Socket × Message)) : Covered d (d.sendAll messages) :=
  covered_kept (grown_told (told_sendAll d messages)) (registry_sendAll d messages)
    (fun nothing => (congrArg Table.isEmpty (store_sendAll d messages)).trans nothing)

theorem grown_emitSessionEvent (d : Daemon) (event : SessionEvent) :
    Grown (fun _ => True) d.trace (d.emitSessionEvent event).trace := by
  have logged : Grown (fun _ => True) d.trace (.emitted event :: d.trace) := .one d.trace trivial
  exact logged.trans (grown_told (told_emitSessionEvent d event))

theorem store_emitSessionEvent (d : Daemon) (event : SessionEvent) :
    (d.emitSessionEvent event).sessionStore = d.sessionStore := by
  unfold emitSessionEvent
  simp only [store_sendAll]
  rfl

theorem covered_emitSessionEvent (d : Daemon) (event : SessionEvent) : Covered d (d.emitSessionEvent event) :=
  covered_kept (grown_emitSessionEvent d event) (registry_emitSessionEvent d event)
    (fun nothing => (congrArg Table.isEmpty (store_emitSessionEvent d event)).trans nothing)

theorem calls_ensureFallbackUiRunning (d : Daemon) (reason : QString) : d.CallsFallback (d.ensureFallbackUiRunning reason) := by
  have called : d.CallsFallback (d.log (.fallbackRequested reason)) := ⟨[_],rfl,reason,List.mem_singleton.mpr rfl⟩
  unfold ensureFallbackUiRunning
  simp only
  split
  · exact called
  split
  · exact called
  split
  · exact called
  split
  · exact called
  split
  · exact called.later (.one _ trivial)
  · exact called

theorem CallsFallback.grown (calls : d.CallsFallback e) : Grown (fun _ => True) d.trace e.trace := by
  obtain ⟨new,same,_⟩ := calls
  exact ⟨new,same,fun _ _ => trivial⟩

theorem checked (d : Daemon) (reason : QString) :
    let e := if !d.hasActiveProvider && !d.sessionStore.isEmpty then d.ensureFallbackUiRunning reason else d
    Grown (fun _ => True) d.trace e.trace ∧ (e.Bereft → d.CallsFallback e) := by
  intro e
  have calls := calls_ensureFallbackUiRunning d reason
  cases alone : !d.hasActiveProvider && !d.sessionStore.isEmpty with
  | true =>
    have asked : e = d.ensureFallbackUiRunning reason := if_pos alone
    rw [asked]
    exact ⟨calls.grown,fun _ => calls⟩
  | false =>
    have kept : e = d := if_neg (Bool.eq_false_iff.mp alone)
    rw [kept]
    refine ⟨.same rfl,fun bereft => ?_⟩
    rw [bereft.1,bereft.2] at alone
    cases alone

theorem covered_checked (grown : Grown (fun _ => True) d.trace m.trace) (reason : QString) :
    Covered d (if !m.hasActiveProvider && !m.sessionStore.isEmpty then m.ensureFallbackUiRunning reason else m) := by
  obtain ⟨later,called⟩ := checked m reason
  exact ⟨grown.trans later,fun bereft => .inr ((called bereft).earlier grown)⟩

theorem covered_createSession (d : Daemon) (id : QString) (source : Source) (ctx : Context) :
    Covered d (d.createSession id source ctx) := by
  unfold createSession
  simp only
  have grown := grown_emitSessionEvent (d.withSessionStore (d.sessionStore.createSession id source ctx).2)
    (d.sessionStore.createSession id source ctx).1
  split
  · have calls := (calls_ensureFallbackUiRunning (Daemon.emitSessionEvent _ _) (text "session-created")).earlier grown
    exact ⟨calls.grown,fun _ => .inr calls⟩
  · next someone =>
    refine ⟨grown,fun bereft => ?_⟩
    rw [bereft.2] at someone
    exact absurd rfl someone

theorem found_nonempty {store : SessionStore} (found : store.find id = some session) : store.isEmpty ≠ true := by
  intro nothing
  rw [(Table.isEmpty_iff store).mp nothing id] at found
  cases found

theorem covered_told (d : Daemon) (store : SessionStore) (event : SessionEvent) (found : d.sessionStore.find id = some session) :
    Covered d ((d.withSessionStore store).emitSessionEvent event) :=
  covered_kept (grown_emitSessionEvent _ event) (registry_emitSessionEvent _ event)
    (fun nothing => absurd nothing (found_nonempty found))

theorem store_refreshActiveProvider (d : Daemon) : d.refreshActiveProvider.sessionStore = d.sessionStore := by
  unfold refreshActiveProvider emitProviderStatus
  simp only
  split
  · rw [store_sendAll]; rfl
  · rfl

theorem covered_idle (d : Daemon) (nothing : d.sessionStore.isEmpty = true) : Covered d d.refreshActiveProvider := by
  refine ⟨grown_told (told_refreshActiveProvider d),fun bereft => ?_⟩
  have sessions := bereft.1
  rw [store_refreshActiveProvider,nothing] at sessions
  cases sessions

theorem covered_closeSession (d : Daemon) (id : QString) (result : Result) : Covered d (d.closeSession id result) := by
  unfold closeSession SessionStore.closeSession
  cases found : d.sessionStore.find id with
  | none => exact covered_kept (.same rfl) rfl (fun nothing => nothing)
  | some session =>
    have removed : Covered d (d.withSessionStore (d.sessionStore.remove id)) :=
      covered_kept (.same rfl) rfl (fun nothing => absurd nothing (found_nonempty found))
    simp only
    apply Covered.trans _ (covered_emitSessionEvent _ _)
    split
    · next nothing => exact removed.trans (covered_idle _ nothing)
    · exact removed

theorem covered_onSessionComplete (d : Daemon) (id : QString) (success : Bool) : Covered d (d.onSessionComplete id success) := by
  unfold onSessionComplete SessionStore.closeSession
  cases found : d.sessionStore.find id with
  | none => exact covered_kept (.same rfl) rfl (fun nothing => nothing)
  | some session =>
    generalize (if success then Result.success else .cancelled) = result
    have emitted := covered_told d (d.sessionStore.remove id) (session.close result).toClosedEvent found
    simp only
    split
    · next nothing => exact emitted.trans (covered_idle _ nothing)
    · exact emitted

theorem covered_deed (deed : Deed d e) : Covered d e := by
  cases deed with
  | quiet same aside =>
    apply covered_kept (aside.imp (fun _ _ => trivial)) (congrArg Front.providerRegistry same)
    intro nothing
    exact (congrArg (fun front => front.sessionStore.isEmpty) same).trans nothing
  | created id source ctx => exact covered_createSession d id source ctx
  | updated id change alike =>
    unfold emitUpdated SessionStore.updateWith
    cases found : d.sessionStore.find id with
    | none => exact covered_kept (.same rfl) rfl (fun nothing => nothing)
    | some session => exact covered_told d _ _ found
  | counted id curRetry maxRetries =>
    unfold updateSessionPinentryRetry SessionStore.updatePinentryRetry
    cases found : d.sessionStore.find id with
    | none => exact covered_kept (.same rfl) rfl (fun nothing => nothing)
    | some session =>
      have before (store : SessionStore) : Covered d (d.withSessionStore store) :=
        covered_kept (.same rfl) rfl (fun nothing => absurd nothing (found_nonempty found))
      simp only
      split
      · exact covered_kept (.same rfl) rfl (fun nothing => nothing)
      · exact before _
  | closed id result => exact covered_closeSession d id result
  | completed id success => exact covered_onSessionComplete d id success

theorem covered_deeds (deeds : Deeds d e) : Covered d e := by
  induction deeds with
  | refl => exact covered_kept (.same rfl) rfl (fun nothing => nothing)
  | tail _ deed ih => exact ih.trans (covered_deed deed)

theorem covered_sent (covered : Covered d m) (socket : Socket) (message : Message) :
    Covered d (m.sendJson socket message) := covered.trans (covered_sendJson m socket message)

theorem covered_quiet (d : Daemon) : Covered d d := covered_kept (.same rfl) rfl (fun nothing => nothing)

end Daemon

namespace Agent

open Daemon (Covered covered_sent covered_deeds covered_kept covered_quiet covered_checked covered_sendJson
  covered_sendAll grown_told told_refreshActiveProvider told_sendJson)

theorem covered_handleSubscribe (d : Daemon) (socket : Socket) : Covered d (handleSubscribe d socket) := by
  have listed : Covered d {d with subscribers:=d.subscribers ++ [socket]} :=
    covered_kept (.same rfl) rfl (fun nothing => nothing)
  unfold handleSubscribe
  apply covered_sent
  split <;> split
  · exact covered_sendAll d _
  · exact covered_quiet d
  · exact listed.trans (covered_sendAll _ _)
  · exact listed

theorem covered_handleNext (d : Daemon) (socket : Socket) : Covered d (handleNext d socket) := by
  have queued (queue : EventQueue SessionEvent) : Covered d (d.withEventQueue queue) :=
    covered_kept (.same rfl) rfl (fun nothing => nothing)
  unfold handleNext
  split
  · exact queued _
  · exact covered_sent (queued _) _ _

theorem covered_handleUIUnregister (d : Daemon) (socket : Socket) : Covered d (handleUIUnregister d socket) := by
  unfold handleUIUnregister
  split
  · exact covered_sendJson d _ _
  · next registry removed =>
    have elected : Grown (fun _ => True) d.trace (d.withProviderRegistry registry).refreshActiveProvider.trace :=
      grown_told (told_refreshActiveProvider (d.withProviderRegistry registry))
    exact covered_checked (elected.trans (grown_told (told_sendJson _ socket (.ok none)))) _

theorem covered_dispatch (d : Daemon) (socket : Socket) (handler : Handler) (msg : QJsonObject)
    (other : handler ≠ .uiRegister ∧ handler ≠ .uiHeartbeat) : Covered d (dispatch d socket handler msg) := by
  cases serving : handler.serving with
  | true =>
    obtain ⟨m,messages,deeds,same⟩ := dispatch_obliged d socket handler msg serving
    rw [same]
    exact (covered_deeds deeds).trans (covered_sendAll m messages)
  | false =>
    cases handler with
    | subscribe => exact covered_handleSubscribe d socket
    | next => exact covered_handleNext d socket
    | uiRegister => exact absurd rfl other.1
    | uiHeartbeat => exact absurd rfl other.2
    | uiUnregister => exact covered_handleUIUnregister d socket
    | ping | keyringRequest | pinentryRequest | pinentryResult | respond | cancel => cases serving

theorem grown_forgetProvider (d : Daemon) (socket : Socket) :
    Grown (fun _ => True) d.trace (forgetProvider d socket).trace := by
  unfold forgetProvider
  simp only
  split
  · exact grown_told (told_refreshActiveProvider (Daemon.withProviderRegistry _ _))
  · exact .same rfl

theorem covered_onClientDisconnected (d : Daemon) (socket : Socket) : Covered d (onClientDisconnected d socket) := by
  have keyring := covered_deeds (KeyringManager.deeds_cleanupForSocket (forgetProvider d socket) socket)
  have pinentry := covered_deeds (PinentryManager.deeds_cleanupForSocket
    (KeyringManager.cleanupForSocket (forgetProvider d socket) socket) socket)
  exact covered_checked (((grown_forgetProvider d socket).trans keyring.grown).trans pinentry.grown) _

theorem covered_pruneStaleProviders (d : Daemon) : Covered d (pruneStaleProviders d) :=
  covered_checked (grown_told (told_refreshActiveProvider d)) _

end Agent

namespace Daemon

-- The socket that is deleted was not active any more.
theorem covered_deleteSocket (d : Daemon) (without : Without socket d.providerRegistry) : Covered d (d.deleteSocket socket) :=
  covered_kept (.same rfl) (registry_deleteSocket d without) (fun nothing => nothing)

theorem covered_setSocketState (d : Daemon) (socket : Socket) (state : LocalSocketState) :
    Covered d (d.setSocketState socket state) := by
  unfold setSocketState
  split
  · exact covered_quiet d
  · exact covered_kept (.same rfl) rfl (fun nothing => nothing)

theorem covered_disconnect (d : Daemon) (socket : Socket) (settled : d.Settled) : Covered d (d.disconnect socket) := by
  have without := Agent.without_onClientDisconnected _ socket (settled_setSocketState d socket .unconnected settled)
  exact ((covered_setSocketState d socket _).trans (Agent.covered_onClientDisconnected _ socket)).trans
    (covered_deleteSocket _ without)

def renewer (d : Daemon) : Event → Option Socket
  | .message socket type _ =>
    match Agent.handlers.lookup type with
    | some .uiRegister => some socket
    | some .uiHeartbeat => if d.providerRegistry.contains socket then some socket else none
    | _ => none
  | _ => none

-- Between the two readings of the clock the new heartbeat got too old, and all
-- the others of providers that can be reached.
def Expires (d : Daemon) (socket : Socket) : Prop :=
  (d.isConnected socket = true →
    elapsedMs (d.env.clock (d.clockReads + 1)) (d.env.clock d.clockReads) > ProviderRegistry.providerHeartbeatTimeoutMs) ∧
  ∀ entry ∈ d.providerRegistry.uiProviders.toList, entry.1 ≠ socket → d.isConnected entry.1 = true →
    elapsedMs (d.env.clock (d.clockReads + 1)) entry.2.lastHeartbeatMs > ProviderRegistry.providerHeartbeatTimeoutMs

instance (d : Daemon) (socket : Socket) : Decidable (d.Expires socket) := inferInstanceAs (Decidable (_ ∧ _))

-- Neither of these handlers looks whether its election left a session alone.
structure Renews (d : Daemon) (socket : Socket) (e : Daemon) : Prop where
  told : Grown Effect.told d.trace e.trace
  store : e.sessionStore = d.sessionStore
  nobody : e.providerRegistry.activeProvider = none ↔ d.Expires socket

theorem expires_iff (d : Daemon) (socket : Socket) (provider : UIProvider) (beat : provider.lastHeartbeatMs = d.nowMs.1) :
    (({d.providerRegistry with uiProviders:=d.providerRegistry.uiProviders.insert socket provider} :
      ProviderRegistry).recomputeActiveProvider d.nowMs.2.nowMs.1 d.isConnected).2.activeProvider = none ↔
      d.Expires socket := by
  rw [ProviderRegistry.renewed_nobody_iff,beat]
  apply and_congr Iff.rfl
  constructor
  · rintro stale ⟨other,entry⟩ listed apart connected
    exact stale other entry apart ((Table.mem_toList _ _ _).mp listed) connected
  · intro stale other entry apart found connected
    exact stale (other,entry) ((Table.mem_toList _ _ _).mpr found) apart connected

theorem renews_handleUIRegister (d : Daemon) (socket : Socket) (msg : QJsonObject) :
    Renews d socket (Agent.handleUIRegister d socket msg) := by
  cases registered : d.providerRegistry.registerProvider socket msg d.env.uuid d.nowMs.1 with
  | mk provider joined =>
  cases outcome : joined.recomputeActiveProvider d.nowMs.2.nowMs.1 d.isConnected with
  | mk changed elected =>
  have nobody : elected.activeProvider = none ↔ d.Expires socket := by
    have inserted : joined = {d.providerRegistry with uiProviders:=d.providerRegistry.uiProviders.insert socket provider} := by
      cases registered
      rfl
    have beat : provider.lastHeartbeatMs = d.nowMs.1 := by
      cases registered
      rfl
    rw [← expires_iff d socket provider beat,← inserted,outcome]
  have answered := told_sendJson (d.nowMs.2.nowMs.2.withProviderRegistry elected) socket
    (.uiRegistered provider.id (decide (some socket = elected.activeProvider)) provider.priority)
  rw [Agent.handleUIRegister_elects d socket msg registered outcome]
  simp only
  split
  · refine ⟨answered.trans (told_sendAll _ _),?_,?_⟩
    · unfold emitProviderStatus
      rw [store_sendAll,store_sendJson]
      rfl
    · unfold emitProviderStatus
      rw [registry_sendAll,registry_sendJson]
      exact nobody
  · refine ⟨answered,?_,?_⟩
    · rw [store_sendJson]
      rfl
    · rw [registry_sendJson]
      exact nobody

theorem renews_handleUIHeartbeat (d : Daemon) (socket : Socket) (known : d.providerRegistry.contains socket = true) :
    Renews d socket (Agent.handleUIHeartbeat d socket) := by
  obtain ⟨old,before⟩ := (Table.contains_iff _ _).mp known
  have beat : d.providerRegistry.heartbeat socket d.nowMs.1 =
      some {d.providerRegistry with
        uiProviders:=d.providerRegistry.uiProviders.insert socket {old with lastHeartbeatMs:=d.nowMs.1}} := by
    simp only [ProviderRegistry.heartbeat,before]
  unfold Agent.handleUIHeartbeat
  simp only [known,Bool.not_true,Bool.false_eq_true,if_false]
  rw [show d.nowMs.2.providerRegistry.heartbeat socket d.nowMs.1 = _ from beat,Option.getD_some]
  refine ⟨(told_refreshActiveProvider (d.nowMs.2.withProviderRegistry _)).trans (told_sendJson _ _ _),?_,?_⟩
  · rw [store_sendJson,store_refreshActiveProvider]
    rfl
  · rw [registry_sendJson,registry_refreshActiveProvider]
    exact expires_iff d socket _ rfl

theorem hasActiveProvider_iff {d : Daemon} (settled : d.Settled) :
    d.hasActiveProvider = false ↔ d.providerRegistry.activeProvider = none := by
  unfold hasActiveProvider ProviderRegistry.hasActiveProvider
  cases active : d.providerRegistry.activeProvider with
  | none => exact ⟨fun _ => rfl,fun _ => rfl⟩
  | some socket =>
    have held := settled.held socket active
    simp only [held]
    exact ⟨nofun,nofun⟩

-- Where nobody is active, nobody is registered whom an election could find.
theorem prune_calls (d : Daemon) (settled : d.Settled) (bereft : d.Bereft) : d.CallsFallback (Agent.pruneStaleProviders d) := by
  have nobody := (hasActiveProvider_iff settled).mp bereft.2
  have elected : d.refreshActiveProvider.hasActiveProvider = false := by
    rw [hasActiveProvider_iff (refresh_settled d),registry_refreshActiveProvider,ProviderRegistry.elected_nobody_iff]
    intro socket provider found
    rw [(Table.isEmpty_iff _).mp (settled.vacant.mp nobody) socket] at found
    cases found
  have alone : d.refreshActiveProvider.sessionStore.isEmpty = false := by
    rw [store_refreshActiveProvider]
    exact bereft.1
  unfold Agent.pruneStaleProviders
  simp only [elected,alone,Bool.not_false,Bool.and_self,if_true]
  exact (calls_ensureFallbackUiRunning _ _).earlier (grown_told (told_refreshActiveProvider d))

-- A session that a step leaves alone was alone before, or the fallback program
-- was asked for; and a prune tick asks for it again.
def Minds (d : Daemon) (input : Input) : Prop :=
  ((daemon.step d input).Bereft → d.Bereft ∨ d.CallsFallback (daemon.step d input)) ∧
  (input.event = .maintenance → d.Bereft → d.CallsFallback (daemon.step d input))

-- While a session is shown, a registration or a heartbeat is handled that is too
-- old by the time of the election.
def Lapses (d : Daemon) (input : Input) : Prop :=
  ∃ socket ∈ d.renewer input.event, d.sessionStore.isEmpty = false ∧ d.hasActiveProvider = true ∧
    ({d with env:=input.env} : Daemon).Expires socket

instance (d : Daemon) (input : Input) : Decidable (d.Lapses input) :=
  inferInstanceAs (Decidable (∃ socket ∈ d.renewer input.event, _ ∧ _ ∧ _))

theorem step_renews (d : Daemon) (input : Input) (found : d.renewer input.event = some socket) :
    Renews {d with env:=input.env} socket (daemon.step d input) := by
  obtain ⟨env,event⟩ := input
  cases event with
  | message speaker type msg =>
    simp only [renewer] at found
    unfold daemon step handle Agent.handleMessage
    simp only
    split at found
    · next registers =>
      cases found
      simp only [registers]
      exact renews_handleUIRegister _ _ _
    · next beats =>
      split at found
      · next known =>
        cases found
        simp only [beats]
        exact renews_handleUIHeartbeat _ _ known
      · cases found
    · cases found
  | connected | socketState | disconnected | initiateAuthentication | polkitSignal | cancelAuthentication | timeout
  | maintenance => cases found

theorem step_covered (d : Daemon) (input : Input) (settled : d.Settled) (other : d.renewer input.event = none) :
    Covered {d with env:=input.env} (daemon.step d input) := by
  obtain ⟨env,event⟩ := input
  have fresh : ({d with env} : Daemon).Settled := settled
  cases event with
  | connected peerPid => exact covered_kept (.same rfl) rfl (fun nothing => nothing)
  | socketState speaker state => exact covered_setSocketState _ speaker state
  | message speaker type msg =>
    change Covered _ (Agent.handleMessage {d with env} speaker type msg)
    unfold Agent.handleMessage
    simp only [renewer] at other
    split
    · exact covered_sendJson _ _ _
    · next handler named =>
      rw [named] at other
      by_cases beats : handler = .uiHeartbeat
      · subst beats
        simp only at other
        split at other
        · cases other
        · next unknown =>
          have refused : Agent.handleUIHeartbeat {d with env} speaker =
              Agent.sendError {d with env} speaker "Provider not registered" := by
            simp [Agent.handleUIHeartbeat,unknown]
          rw [Agent.dispatch,refused]
          exact covered_sendJson _ _ _
      · apply Agent.covered_dispatch
        refine ⟨?_,beats⟩
        intro registers
        subst registers
        cases other
  | disconnected speaker => exact covered_disconnect _ speaker fresh
  | initiateAuthentication actionId message iconName details cookie identities =>
    exact covered_deeds (PolkitListener.deeds_initiateAuthentication _ _ _ _ _ _ _)
  | polkitSignal session signal => exact covered_deeds (PolkitListener.strides_deeds (PolkitListener.strides_signal _ _ _))
  | cancelAuthentication => exact covered_deeds (PolkitListener.strides_deeds (PolkitListener.strides_cancelAuthentication _))
  | timeout timer => exact covered_deeds (PinentryManager.deeds_timeout _ timer)
  | maintenance => exact Agent.covered_pruneStaleProviders _

theorem step_minds_iff (d : Daemon) (input : Input) (settled : d.Settled) : d.Minds input ↔ ¬d.Lapses input := by
  have again : input.event = .maintenance → d.Bereft → d.CallsFallback (daemon.step d input) := by
    intro prunes bereft
    have pruned : daemon.step d input = Agent.pruneStaleProviders {d with env:=input.env} := by
      change ({d with env:=input.env} : Daemon).handle input.event = _
      rw [prunes]
      rfl
    rw [pruned]
    exact prune_calls {d with env:=input.env} settled bereft
  cases found : d.renewer input.event with
  | none =>
    have covered := step_covered d input settled found
    constructor
    · rintro _ ⟨socket,renews,_⟩
      rw [found] at renews
      cases renews
    · exact fun _ => ⟨covered.called,again⟩
  | some socket =>
    obtain ⟨told,store,nobody⟩ := step_renews d input found
    have alone : (daemon.step d input).hasActiveProvider = false ↔ ({d with env:=input.env} : Daemon).Expires socket :=
      (hasActiveProvider_iff (step_settled d input settled)).trans nobody
    have uncalled : ¬d.CallsFallback (daemon.step d input) := by
      rintro ⟨new,same,reason,present⟩
      obtain ⟨listed,all,silent⟩ := told
      have equal := List.append_cancel_right (same.symm.trans all)
      rw [equal] at present
      cases silent _ present
    constructor
    · rintro ⟨minds,_⟩ ⟨other,renews,sessions,someone,expires⟩
      cases found.symm.trans renews
      have bereft : (daemon.step d input).Bereft := ⟨store ▸ sessions,alone.mpr expires⟩
      rcases minds bereft with before | calls
      · exact Bool.false_ne_true (before.2.symm.trans someone)
      · exact uncalled calls
    · intro lives
      refine ⟨?_,again⟩
      rintro ⟨sessions,left⟩
      have before : d.sessionStore.isEmpty = false := store ▸ sessions
      cases someone : d.hasActiveProvider with
      | false => exact .inl ⟨before,someone⟩
      | true => exact absurd ⟨socket,found,before,someone,alone.mp left⟩ lives

-- In every run, losing the user interface always triggers the fallback exactly
-- when no registration and no heartbeat lapses in its own handler.
theorem fallback_asked_iff (inputs : List Input) (admitted : daemon.Admits inputs) :
    daemon.Every Minds inputs ↔ daemon.Every (fun d input => ¬d.Lapses input) inputs :=
  Machine.every_iff (fun d input path _ => step_minds_iff d input (reached_settled path)) admitted

-- The only provider leaves while a session is open, and the next tick finds it
-- still alone.
def onlyProviderLeaves : List Input :=
  [.quiet (.connected 7),
   .quiet (.connected 8),
   .say 0 "ui.register" [("kind","quickshell")],
   .say 1 "keyring_request" [("cookie","k")],
   .quiet (.disconnected 0),
   .quiet .maintenance]

theorem onlyProviderLeaves_asked :
    (daemon.run onlyProviderLeaves).Bereft ∧ daemon.Every Minds onlyProviderLeaves := by
  have admitted : daemon.Admits onlyProviderLeaves := by decide +kernel
  have steady : daemon.Every (fun d input => ¬d.Lapses input) onlyProviderLeaves := by decide +kernel
  exact ⟨⟨by decide +kernel,by decide +kernel⟩,(fallback_asked_iff onlyProviderLeaves admitted).mpr steady⟩

-- The clock is set ahead by twenty seconds in the middle of a heartbeat of the
-- only provider.
def providerShows : List Input :=
  [.quiet (.connected 7),
   .quiet (.connected 8),
   .say 0 "ui.register" [("kind","quickshell")],
   .say 1 "keyring_request" [("cookie","k")]]

def lateBeat : Input :=
  ⟨{Env.quiet with clock := fun reading => if reading ≤ 2 then 0 else 20000},
    .message 0 (text "ui.heartbeat") (.ofList [])⟩

theorem lateBeat_unasked :
    daemon.Admits (providerShows ++ [lateBeat]) ∧ ¬daemon.Every Minds (providerShows ++ [lateBeat]) := by
  have shown : daemon.Admits providerShows := by decide +kernel
  refine ⟨by decide +kernel,?_⟩
  intro every
  obtain ⟨_,minds,_⟩ := (Machine.everyFrom_append _ providerShows [lateBeat]).mp every
  have lapses : (daemon.run providerShows).Lapses lateBeat := by decide +kernel
  exact (step_minds_iff _ lateBeat (reached_settled shown.reached)).mp minds lapses

end Daemon

end BbAuth
