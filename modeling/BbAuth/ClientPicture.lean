import BbAuth.ClientMirror
import BbAuth.Replays

open Library
namespace BbAuth

variable {socket speaker : Socket} {uuid : QString} {d e : Daemon}

open Daemon (Follows follows_same follows_turns follows_reply follows_refresh follows_fallback deeds_follows served_follows
  eventless_sendAll eventless_refresh)

namespace Agent

theorem follows_reelect (d : Daemon) (registry : ProviderRegistry)
    (renewed : View.Renewed socket uuid d.providerRegistry registry) :
    Follows socket d (d.withProviderRegistry registry).refreshActiveProvider :=
  follows_turns (fun listens => turns_reelect d registry listens renewed)
    (eventless_refresh (d.withProviderRegistry registry))

theorem follows_nowMs (d : Daemon) : Follows socket d d.nowMs.2 :=
  follows_same (fun listens => ⟨rfl,listens.connected,listens.patient,listens.once,listens.ids⟩) (.same rfl)

theorem follows_handleSubscribe (d : Daemon) (other : speaker ≠ socket) : Follows socket d (handleSubscribe d speaker) := by
  apply follows_same (fun listens => turns_handleSubscribe d listens other)
  have replied (e : Daemon) (message : Message) : Grown (Effect.eventless socket) e.trace (e.sendJson speaker message).trace :=
    eventless_sendAll e [(speaker,message)] (fun one present => by cases List.mem_singleton.mp present; exact .inl other)
  have replayed (e : Daemon) (sessions : List (QString × Session)) :
      Grown (Effect.eventless socket) e.trace (e.sendAll (sessions.flatMap (fun entry =>
        [(speaker,Message.event entry.2.toCreatedEvent),(speaker,Message.event entry.2.toUpdatedEvent)]))).trace := by
    apply eventless_sendAll
    intro message present
    obtain ⟨entry,_,listed⟩ := List.mem_flatMap.mp present
    rcases List.mem_pair.mp listed with rfl | rfl
    · exact .inl other
    · exact .inl other
  unfold handleSubscribe
  simp only
  cases d.subscribers.contains speaker with
  | true =>
    simp only [if_true]
    split
    · exact (replayed d _).trans (replied _ _)
    · exact replied d _
  | false =>
    simp only [Bool.false_eq_true,if_false]
    split
    · exact (replayed ({d with subscribers:=d.subscribers ++ [speaker]} : Daemon) _).trans (replied _ _)
    · exact replied ({d with subscribers:=d.subscribers ++ [speaker]} : Daemon) _

theorem follows_handleNext (d : Daemon) (other : speaker ≠ socket) : Follows socket d (handleNext d speaker) := by
  apply follows_same (fun listens => turns_handleNext d listens other)
  unfold handleNext
  split
  · exact .same rfl
  · exact eventless_sendAll (d.withEventQueue _) [(speaker,_)]
      (fun message present => by cases List.mem_singleton.mp present; exact .inl other)

theorem follows_handleUIRegister (d : Daemon) (msg : QJsonObject) (other : speaker ≠ socket) :
    Follows socket d (handleUIRegister d speaker msg) := by
  apply follows_turns (fun listens => turns_handleUIRegister d msg listens other)
  have replied (e : Daemon) (message : Message) (same : e.trace = d.trace) (plain : message.session = none) :
      Grown (Effect.eventless socket) d.trace (e.sendJson speaker message).trace := by
    rw [← same]
    exact eventless_sendAll e [(speaker,message)] (fun one present => .inr (List.mem_singleton.mp present ▸ plain))
  have stated (e : Daemon) : Grown (Effect.eventless socket) e.trace e.emitProviderStatus.trace := by
    apply eventless_sendAll
    intro message present
    obtain ⟨_,_,rfl⟩ := List.mem_map.mp present
    exact .inr rfl
  unfold handleUIRegister
  simp only
  split
  · apply Grown.trans _ (stated _)
    exact replied _ _ rfl rfl
  · exact replied _ _ rfl rfl

theorem follows_handleUIHeartbeat (d : Daemon) (speaker : Socket) : Follows socket d (handleUIHeartbeat d speaker) := by
  unfold handleUIHeartbeat
  cases known : d.providerRegistry.contains speaker with
  | false => exact follows_reply d speaker _ rfl rfl
  | true =>
    obtain ⟨old,before⟩ := (Table.contains_iff _ _).mp known
    have beat : d.nowMs.2.providerRegistry.heartbeat speaker d.nowMs.1 =
        some {d.providerRegistry with
          uiProviders:=d.providerRegistry.uiProviders.insert speaker {old with lastHeartbeatMs:=d.nowMs.1}} := by
      have found : d.nowMs.2.providerRegistry.uiProviders.find speaker = some old := before
      simp only [ProviderRegistry.heartbeat,found]
      rfl
    simp only [Bool.not_true,Bool.false_eq_true,if_false]
    rw [beat]
    exact (follows_nowMs d).trans <| (follows_reelect d.nowMs.2 _ (heartbeat_renewed [] beat)).trans
      (follows_reply _ speaker _ rfl rfl)

theorem follows_unless (d : Daemon) (reason : QString) :
    Follows socket d (if !d.hasActiveProvider && !d.sessionStore.isEmpty then d.ensureFallbackUiRunning reason else d) := by
  split
  · exact follows_fallback d reason
  · exact .refl d

theorem follows_handleUIUnregister (d : Daemon) (speaker : Socket) : Follows socket d (handleUIUnregister d speaker) := by
  unfold handleUIUnregister
  cases unregistered : d.providerRegistry.unregisterProvider speaker with
  | mk known registry =>
    cases known with
    | false => exact follows_reply d speaker _ rfl rfl
    | true =>
      have renewed : View.Renewed socket [] d.providerRegistry (d.providerRegistry.unregisterProvider speaker).2 :=
        unregister_renewed d.providerRegistry [] speaker
      rw [unregistered] at renewed
      exact (follows_reelect d registry renewed).trans <| (follows_reply _ speaker _ rfl rfl).trans (follows_unless _ _)

theorem follows_handlePinentryResult (d : Daemon) (speaker : Socket) (msg : QJsonObject) :
    Follows socket d (handlePinentryResult d speaker msg) := by
  rcases handlePinentryResult_cases d speaker msg with ⟨message,_,refused⟩ | served
  · rw [refused]
    exact follows_reply d speaker _ rfl rfl
  · exact served_follows served

theorem follows_handleRespond (d : Daemon) (speaker : Socket) (msg : QJsonObject) :
    Follows socket d (handleRespond d speaker msg) := by
  rcases handleRespond_cases d speaker msg with ⟨_,refused⟩ | ⟨_,⟨message,_,refused⟩ | served⟩
  · rw [refused]
    exact follows_reply d speaker _ rfl rfl
  · rw [refused]
    exact follows_reply d speaker _ rfl rfl
  · exact served_follows served

theorem follows_handleCancel (d : Daemon) (speaker : Socket) (msg : QJsonObject) :
    Follows socket d (handleCancel d speaker msg) := by
  rcases handleCancel_cases d speaker msg with ⟨_,refused⟩ | ⟨_,⟨message,_,refused⟩ | served⟩
  · rw [refused]
    exact follows_reply d speaker _ rfl rfl
  · rw [refused]
    exact follows_reply d speaker _ rfl rfl
  · exact served_follows served

-- The messages with which a subscriber would change what it is sent.
def Handler.restless : Handler → Bool
  | .subscribe | .next | .uiRegister => true
  | _ => false

theorem follows_dispatch (d : Daemon) (handler : Handler) (msg : QJsonObject)
    (calm : speaker = socket → handler.restless = false) : Follows socket d (dispatch d speaker handler msg) := by
  have foreign (restless : handler.restless = true) : speaker ≠ socket := by
    intro same
    rw [calm same] at restless
    cases restless
  cases handler with
  | ping => exact follows_reply d speaker _ rfl rfl
  | subscribe => exact follows_handleSubscribe d (foreign rfl)
  | next => exact follows_handleNext d (foreign rfl)
  | keyringRequest => exact deeds_follows (KeyringManager.deeds_handleRequest d msg speaker _)
  | pinentryRequest => exact deeds_follows (PinentryManager.deeds_handleRequest d msg speaker _)
  | pinentryResult => exact follows_handlePinentryResult d speaker msg
  | uiRegister => exact follows_handleUIRegister d msg (foreign rfl)
  | uiHeartbeat => exact follows_handleUIHeartbeat d speaker
  | uiUnregister => exact follows_handleUIUnregister d speaker
  | respond => exact follows_handleRespond d speaker msg
  | cancel => exact follows_handleCancel d speaker msg

theorem follows_forgetProvider (d : Daemon) (other : speaker ≠ socket) : Follows socket d (forgetProvider d speaker) := by
  apply follows_turns (fun listens => turns_forgetProvider d [] listens other)
  unfold forgetProvider
  simp only
  split
  · exact eventless_refresh (({d with subscribers:=d.subscribers.erase speaker} : Daemon).withProviderRegistry _)
  · exact .same rfl

end Agent

-- The input is no message with which the subscriber would change what it is sent,
-- and does not end its connection.
def Event.calm (event : Event) (socket : Socket) : Prop :=
  match event with
  | .message speaker type _ => speaker = socket → ((Agent.handlers.lookup type).map Agent.Handler.restless).getD false = false
  | .disconnected speaker | .socketState speaker _ => speaker ≠ socket
  | .connected _ | .initiateAuthentication .. | .polkitSignal .. | .cancelAuthentication | .timeout _ | .maintenance => True

instance decidableCalm (event : Event) (socket : Socket) : Decidable (event.calm socket) :=
  match event with
  | .message .. => inferInstanceAs (Decidable (_ → _))
  | .disconnected _ | .socketState .. => inferInstanceAs (Decidable (_ ≠ _))
  | .connected _ | .initiateAuthentication .. | .polkitSignal .. | .cancelAuthentication | .timeout _ | .maintenance =>
    isTrue trivial

namespace Daemon

theorem follows_setSocketState (d : Daemon) (state : LocalSocketState) (other : speaker ≠ socket) :
    Follows socket d (d.setSocketState speaker state) := by
  apply follows_same (fun listens => listens_setSocketState d state listens other)
  unfold setSocketState
  split <;> exact .same rfl

theorem follows_disconnect (d : Daemon) (settled : d.Settled) (other : speaker ≠ socket) :
    Follows socket d (d.disconnect speaker) := by
  have without := Agent.without_onClientDisconnected (d.setSocketState speaker .unconnected) speaker
    (settled_setSocketState d speaker _ settled)
  have cleaned : Follows socket d (Agent.onClientDisconnected (d.setSocketState speaker .unconnected) speaker) :=
    (follows_setSocketState d .unconnected other).trans <| (Agent.follows_forgetProvider _ other).trans
      (deeds_follows (Agent.deeds_onClientDisconnected _ speaker))
  unfold disconnect
  generalize Agent.onClientDisconnected (d.setSocketState speaker .unconnected) speaker = e at *
  refine cleaned.trans (follows_same (fun listens => ⟨?_,?_,listens.patient,listens.once,listens.ids⟩) (.same rfl))
  · unfold view
    rw [registry_deleteSocket e without]
    rfl
  · unfold isConnected deleteSocket
    simp only [Table.find_remove,if_neg (Ne.symm other)]
    exact listens.connected

theorem handle_follows (d : Daemon) (event : Event) (settled : d.Settled) (calm : event.calm socket) :
    Follows socket d (d.handle event) := by
  cases event with
  | connected peerPid => exact follows_same (turns_connect d peerPid) (.same rfl)
  | socketState speaker state => exact follows_setSocketState d state calm
  | message speaker type msg =>
    change Follows socket d (Agent.handleMessage d speaker type msg)
    unfold Agent.handleMessage
    split
    · exact follows_reply d speaker _ rfl rfl
    · next handler found =>
      apply Agent.follows_dispatch d handler msg
      intro same
      have quiet := calm same
      rw [found] at quiet
      exact quiet
  | disconnected speaker => exact follows_disconnect d settled calm
  | initiateAuthentication actionId message iconName details cookie identities =>
    exact deeds_follows (PolkitListener.deeds_initiateAuthentication d _ _ _ _ _ _)
  | polkitSignal session signal => exact deeds_follows (PolkitListener.strides_deeds (PolkitListener.strides_signal d _ _))
  | cancelAuthentication => exact deeds_follows (PolkitListener.strides_deeds (PolkitListener.strides_cancelAuthentication d))
  | timeout timer => exact deeds_follows (PinentryManager.deeds_timeout d timer)
  | maintenance => exact (follows_refresh d).trans (Agent.follows_unless _ _)

theorem step_follows (settled : d.Settled) (calm : input.event.calm socket) : Follows socket d (daemon.step d input) := by
  have arranged : Follows socket d {d with env:=input.env} :=
    follows_same (fun listens => ⟨rfl,listens.connected,listens.patient,listens.once,listens.ids⟩) (.same rfl)
  exact arranged.trans (handle_follows _ input.event settled calm)

theorem runFrom_follows (path : daemon.Reached d) (admitted : daemon.EveryFrom daemon.enabled d inputs)
    (calm : ∀ input ∈ inputs, input.event.calm socket) : Follows socket d (daemon.runFrom d inputs) := by
  have kept (m : Daemon) (input : Input) (prior : daemon.Reached m) (_ : daemon.enabled m input)
      (calm : input.event.calm socket) (before : Follows socket d m) : Follows socket d (daemon.step m input) :=
    before.trans (step_follows (reached_settled prior) calm)
  exact Machine.runFrom_invariant kept path admitted (fun _ => calm) (.refl d)

-- The session events that the socket was sent after the state d, and up to e.
def heardSince (d e : Daemon) (socket : Socket) : List SessionEvent :=
  (e.view socket).events.drop (d.view socket).events.length

theorem replay_events (entries : List (QString × Session)) :
    (replay entries).filterMap Message.session =
      entries.flatMap (fun entry => [entry.2.toCreatedEvent,entry.2.toUpdatedEvent]) := by
  induction entries with
  | nil => rfl
  | cons entry rest ih =>
    unfold replay at ih ⊢
    rw [List.flatMap_cons,List.filterMap_append,ih]
    rfl

theorem replay_pictured (pictured : Core.Pictured d.core) :
    sessionTelling.listen (fun _ => none)
        (d.sessionStore.toList.flatMap (fun entry => [entry.2.toCreatedEvent,entry.2.toUpdatedEvent])) =
      d.sessionStore.shown := by
  funext id
  rw [Telling.listen_table sessionTelling (fun _ => none) d.sessionStore
    (fun session => [session.toCreatedEvent,session.toUpdatedEvent]) Session.shown]
  · unfold SessionStore.shown
    cases d.sessionStore.find id <;> rfl
  · intro key session found event present
    have named := pictured.ids key session found
    rcases List.mem_pair.mp present with rfl | rfl
    · exact named
    · exact named
  · exact Session.replayed_shown

theorem subscribed_faced (settled : d.Settled) (listens : d.Listens socket)
    (faced : d.hasActiveProvider = true → d.providerRegistry.activeProvider = some socket) :
    (Agent.handleSubscribe d socket).Hears socket ∧
    ((Agent.handleSubscribe d socket).view socket).faces socket = true ∧
    ((Agent.handleSubscribe d socket).view socket).statuses = (d.view socket).statuses ∧
    ((Agent.handleSubscribe d socket).view socket).events = (d.view socket).events ++
      d.sessionStore.toList.flatMap (fun entry => [entry.2.toCreatedEvent,entry.2.toUpdatedEvent]) := by
  obtain ⟨viewed,after⟩ := Agent.subscribed_view d listens
  have shown : (!d.providerRegistry.contains socket || (d.providerRegistry.contains socket &&
      decide (some socket = d.providerRegistry.activeProvider))) = true := by
    have may : d.canReceiveInteractiveEvents socket = true := (may_iff settled).mpr (.inl faced)
    unfold canReceiveInteractiveEvents at may
    cases registered : d.providerRegistry.contains socket with
    | true =>
      rw [registered] at may
      exact may
    | false => rfl
  have held : ({d.view socket with subscribed:=true,heard:=[]} : View).Held := settled.held
  rw [show (d.view socket).registry = d.providerRegistry from rfl,if_pos shown] at viewed
  rw [viewed]
  refine ⟨⟨after,?_,?_⟩,?_,?_,?_⟩
  · rw [viewed]
  · rw [viewed]
    exact held
  · exact View.faces_alone rfl faced
  · unfold View.statuses
    rw [List.countP_append,List.countP_append]
    have plain : (replay d.sessionStore.toList).countP Message.isStatus = 0 := by
      apply List.countP_eq_zero.mpr
      intro message present
      obtain ⟨entry,_,listed⟩ := List.mem_flatMap.mp present
      rcases List.mem_pair.mp listed with rfl | rfl
      · exact Bool.false_ne_true
      · exact Bool.false_ne_true
    rw [plain]
    rfl
  · unfold View.events
    rw [List.filterMap_append,List.filterMap_append,replay_events]
    exact congrArg _ (List.append_nil _)

-- A client that subscribes while no other provider is active, and is told of no
-- change of the provider since, can tell from the events it was sent, in any run,
-- which sessions the daemon has open and all that may be shown of them.
theorem subscriber_knows_sessions (path : daemon.Reached d) (connected : d.isConnected socket = true)
    (patient : socket ∉ d.eventQueue.nextWaiters)
    (faced : d.hasActiveProvider = true → d.providerRegistry.activeProvider = some socket)
    (env : Env) (msg : QJsonObject) (inputs : List Input)
    (admitted : daemon.EveryFrom daemon.enabled d (⟨env,.message socket (text "subscribe") msg⟩ :: inputs))
    (calm : ∀ input ∈ inputs, input.event.calm socket)
    (ended : daemon.runFrom d (⟨env,.message socket (text "subscribe") msg⟩ :: inputs) = e)
    (undisturbed : (e.view socket).statuses = (d.view socket).statuses) (id : QString) :
    sessionTelling.listen (fun _ => none) (heardSince d e socket) id = (e.getSession id).map Session.shown := by
  let input : Input := ⟨env,.message socket (text "subscribe") msg⟩
  have found : Agent.handlers.lookup (text "subscribe") = some .subscribe := by decide +kernel
  have stepped : daemon.step d input = Agent.handleSubscribe {d with env} socket := by
    change Agent.handleMessage {d with env} socket (text "subscribe") msg = _
    unfold Agent.handleMessage
    rw [found]
    rfl
  have settled : ({d with env} : Daemon).Settled := reached_settled (d := d) path
  have pictured := reached_pictured path
  have listens : ({d with env} : Daemon).Listens socket := ⟨connected,patient,(reached_known path).once,pictured.ids⟩
  obtain ⟨hears,faces,statuses,replayed⟩ := subscribed_faced settled listens faced
  rw [← stepped] at hears faces statuses replayed
  obtain ⟨_,relay⟩ := runFrom_follows (path.step admitted.1) admitted.2 calm hears
  rw [show daemon.runFrom (daemon.step d input) inputs = e from ended] at relay
  obtain ⟨_,events,emitted,heard⟩ := relay.follows (undisturbed.trans statuses.symm)
  have quiet : (daemon.step d input).emissions = d.emissions := by
    rw [← emissions_core,← emissions_core,stepped,Agent.core_handleSubscribe]
    rfl
  have since : heardSince d e socket =
      d.sessionStore.toList.flatMap (fun entry => [entry.2.toCreatedEvent,entry.2.toUpdatedEvent]) ++ events := by
    unfold heardSince
    rw [heard,faces,if_pos rfl,replayed,List.append_assoc]
    exact List.drop_left
  have before : sessionTelling.listen (fun _ => none) d.emissions = d.sessionStore.shown := by
    rw [← emissions_core]
    exact pictured.told
  have told : sessionTelling.listen (fun _ => none) e.emissions = e.sessionStore.shown := by
    have reached : daemon.Reached e := ended ▸ path.runFrom admitted
    rw [← emissions_core]
    exact (reached_pictured reached).told
  rw [since,Telling.listen_append,replay_pictured pictured,← before,← Telling.listen_append,← quiet,← emitted,told]
  rfl

-- A user interface comes when a prompt is open, answers it, and sees another one.
def lateSubscriber : List Input :=
  [.quiet (.connected 7),
   .quiet (.connected 8),
   .say 1 "pinentry_request" [("cookie","p"),("prompt","PIN")]]

def afterSubscription : List Input :=
  [.say 0 "session.respond" [("id","p"),("response","1234")],
   .say 1 "pinentry_result" [("id","p"),("result","retry")],
   .say 1 "keyring_request" [("cookie","k"),("title","Unlock")]]

theorem lateSubscriber_knows :
    let d := daemon.run lateSubscriber
    let e := daemon.runFrom d (.say 0 "subscribe" [] :: afterSubscription)
    sessionTelling.listen (fun _ => none) (heardSince d e 0) (text "p") = (e.getSession (text "p")).map Session.shown :=
  subscriber_knows_sessions (Machine.Admits.reached (by decide +kernel)) (by decide +kernel) (by decide +kernel)
    (by decide +kernel) .quiet _ afterSubscription (by decide +kernel) (by decide +kernel) rfl (by decide +kernel) (text "p")

end Daemon

end BbAuth
