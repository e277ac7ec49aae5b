import BbAuth.PolkitStrides
import BbAuth.Simulation

open Library
namespace BbAuth

-- What an input does to the requests and sessions, once the handlers have found
-- out whom it concerns. `idle` stands for inputs that are refused or only routed,
-- `polkit` for signals and cancellations, which open no session.
inductive Action where
  | idle
  | connect (peerPid : Pid)
  | socketState (socket : Socket) (state : LocalSocketState)
  | disconnect (socket : Socket)
  | keyringRequest (request : KeyringRequest) (actor : ActorInfo)
  | keyringConclude (cookie : QString) (result : Result) (answer : Answer)
  | pinentryRequest (request : PinentryRequest) (actor : ActorInfo)
  | pinentryRespond (cookie response : QString)
  | pinentryCancel (cookie : QString)
  | pinentryOutcome (cookie : QString) (outcome : PinentryManager.Outcome) (error : QString)
  | timeout (timer : Timer)
  | submit (cookie response : QString)
  | initiate (cookie : QString)
  | polkit
  deriving DecidableEq, Repr

namespace Daemon

def keyringAction (d : Daemon) (env : Env) (socket : Socket) (msg : QJsonObject) : Action :=
  let peerPid := d.getPeerPid socket
  .keyringRequest (KeyringManager.parseKeyringRequest msg (env.effectiveCookie msg) socket peerPid)
    (env.resolveActorForPid peerPid)

def pinentryAction (d : Daemon) (env : Env) (socket : Socket) (msg : QJsonObject) : Action :=
  let peerPid := d.getPeerPid socket
  .pinentryRequest {PinentryManager.parsePinentryRequest msg socket peerPid with cookie:=env.effectiveCookie msg}
    (env.resolveActorForPid peerPid)

def resultAction (d : Daemon) (socket : Socket) (msg : QJsonObject) : Action :=
  let cookie := (msg.value (text "id")).toString
  if cookie.isEmpty then .idle
  else if !PinentryManager.validateResultOwner d.pinentryManager cookie (d.getPeerPid socket) then .idle
  else if !PinentryManager.hasPinentrySession d cookie then .idle
  else
    match PinentryManager.parseOutcome (toLower (msg.value (text "result")).toString) with
    | none => .idle
    | some outcome => .pinentryOutcome cookie outcome (msg.value (text "error")).toString

def respondAction (d : Daemon) (socket : Socket) (msg : QJsonObject) : Action :=
  let cookie := (msg.value (text "id")).toString
  let response := (msg.value (text "response")).toString
  if !d.isAuthorizedProviderSocket socket then .idle
  else if KeyringManager.hasPendingRequest d.keyringManager cookie then .keyringConclude cookie .success (.ok response)
  else if PinentryManager.hasPendingInput d.pinentryManager cookie then .pinentryRespond cookie response
  else if PinentryManager.hasRequest d cookie then .idle
  else
    match d.getSession cookie with
    | none => .idle
    | some session => if session.source ≠ .polkit then .idle else .submit cookie response

def cancelAction (d : Daemon) (socket : Socket) (msg : QJsonObject) : Action :=
  let cookie := (msg.value (text "id")).toString
  if !d.isAuthorizedProviderSocket socket then .idle
  else if KeyringManager.hasPendingRequest d.keyringManager cookie then .keyringConclude cookie .cancelled .cancelled
  else if PinentryManager.hasRequest d cookie then .pinentryCancel cookie
  else
    match d.getSession cookie with
    | none => .idle
    | some session => if session.source ≠ .polkit then .idle else .polkit

def action (d : Daemon) (input : Input) : Action :=
  match input.kind with
  | .connected peerPid => .connect peerPid
  | .socketState socket state => .socketState socket state
  | .disconnected socket => .disconnect socket
  | .keyringRequest socket msg => d.keyringAction input.env socket msg
  | .pinentryRequest socket msg => d.pinentryAction input.env socket msg
  | .pinentryResult socket msg => d.resultAction socket msg
  | .respond socket msg => d.respondAction socket msg
  | .cancel socket msg => d.cancelAction socket msg
  | .routing => .idle
  | .initiateAuthentication _ _ _ _ cookie identities =>
    if d.listener.cookieToState.contains cookie ∨ identities = [] then .polkit else .initiate cookie
  | .polkitSignal .. | .cancelAuthentication => .polkit
  | .timeout timer => .timeout timer

end Daemon

namespace Core

-- The ways in which the listener touches the core while it runs.
inductive Move : Core → Core → Prop where
  | listener (listener : PolkitListener) : Move c (c.withListener listener)
  | logged (effect : PolkitEffect) : Move c (c.log (.polkit effect))
  | updated (id : QString) (change : Session → Session)
      (alike : ∀ s, (change s).id = s.id ∧ (change s).source = s.source ∧ (change s).context = s.context) :
      Move c (c.updateSession id change)
  | closed (id : QString) (result : Result) : Move c (c.closeSession id result)

def Moves : Core → Core → Prop := Relation.ReflTransGen Move

theorem Moves.trans (first : Moves c m) (second : Moves m e) : Moves c e := Relation.ReflTransGen.trans first second

theorem Moves.one (move : Move c e) : Moves c e := Relation.ReflTransGen.single move

theorem Moves.invariant {P : Core → Prop} (kept : ∀ c e, Move c e → P c → P e)
    (moves : Moves c e) (start : P c) : P e := by
  induction moves with
  | refl => exact start
  | tail _ move ih => exact kept _ _ move ih

-- Everything an enabled input can do to the core, with what the handlers have
-- checked on the way.
inductive Acts : Core → Action → Core → Prop where
  | idle : Acts c .idle c
  | connect : Acts c (.connect peerPid) (c.connect peerPid)
  | socketState (known : c.sockets.contains socket = true) (later : state ≠ .connected) :
      Acts c (.socketState socket state) (c.setSocketState socket state)
  | disconnect (known : c.sockets.contains socket = true) : Acts c (.disconnect socket) (c.disconnect socket)
  | keyringRequest (known : c.sockets.find request.socket = some info) (peer : info.peerPid = request.peerPid)
      (named : request.cookie ≠ []) : Acts c (.keyringRequest request actor) (c.keyringRequest request actor)
  | keyringConclude (pending : c.keyringManager.pendingRequests.find cookie = some request)
      (plain : result = .success ∧ (∃ response, reply = .ok response) ∨ result = .cancelled ∧ reply = .cancelled) :
      Acts c (.keyringConclude cookie result reply) (c.keyringConclude cookie result reply)
  | pinentryRequest (known : c.sockets.find request.socket = some info) (peer : info.peerPid = request.peerPid)
      (named : request.cookie ≠ []) : Acts c (.pinentryRequest request actor) (c.pinentryRequest request actor)
  | pinentryRespond (free : c.keyringManager.pendingRequests.find cookie = none)
      (pending : c.pinentryManager.pendingRequests.find cookie = some request) :
      Acts c (.pinentryRespond cookie response) (c.pinentryRespond cookie response)
  | pinentryCancel : Acts c (.pinentryCancel cookie) (c.pinentryCancel cookie)
  | pinentryOutcome (known : c.hasPinentrySession cookie = true) :
      Acts c (.pinentryOutcome cookie outcome error) (c.applyOutcome cookie outcome error)
  | timeout (running : c.pinentryManager.timers.find timer = some cookie) :
      Acts c (.timeout timer) (c.timeout timer)
  | submit (found : c.sessionStore.find cookie = some session) (source : session.source = .polkit)
      (moves : (c.log (.submitted cookie response)).Moves e) : Acts c (.submit cookie response) e
  | initiate (before : c.Moves m) (same : m.sessionStore = c.sessionStore)
      (after : (m.createSession cookie .polkit ctx).Moves e) : Acts c (.initiate cookie) e
  | polkit (moves : c.Moves e) : Acts c .polkit e

end Core

namespace PolkitListener

theorem stride_move (stride : Stride d e) : d.core.Moves e.core := by
  cases stride with
  | listener listener => exact .one (.listener listener)
  | logged effect =>
    rw [logPolkit,Daemon.core_log]
    exact .one (.logged effect)
  | updated id change alike =>
    rw [Daemon.core_emitUpdated]
    exact .one (.updated id change alike)
  | completed cookie success =>
    rw [Daemon.core_onSessionComplete]
    exact .one (.closed cookie _)

theorem strides_moves (strides : Strides d e) : d.core.Moves e.core :=
  strides.invariant (P := fun e => d.core.Moves e.core) (fun _ _ stride moves => moves.trans (stride_move stride)) .refl

theorem acts_initiateAuthentication (d : Daemon) (actionId message iconName : QString)
    (details : List (QString × QString)) (cookie : QString) (identities : List QString) :
    Core.Acts d.core (if d.listener.cookieToState.contains cookie ∨ identities = [] then .polkit else .initiate cookie)
      (initiateAuthentication d actionId message iconName details cookie identities).core := by
  rcases strides_initiateAuthentication d actionId message iconName details cookie identities with
    ⟨refused,strides⟩ | ⟨accepted,prepared,user,before,same,after⟩
  · rw [if_pos refused]
    exact .polkit (strides_moves strides)
  · rw [if_neg accepted]
    have moves := strides_moves after
    obtain ⟨ctx,created⟩ : ∃ ctx, (prepared.onPolkitRequest cookie message actionId user details).core =
        prepared.core.createSession cookie .polkit ctx := ⟨_,Daemon.core_createSession _ _ _ _⟩
    rw [created] at moves
    exact .initiate (strides_moves before) same moves

theorem moves_submitPassword (d : Daemon) (cookie pass : QString) :
    (d.core.log (.submitted cookie pass)).Moves (submitPassword d cookie pass).core := by
  have logged : (d.log (.submitted cookie pass)).core = d.core.log (.submitted cookie pass) := by
    rw [Daemon.core_log]; rfl
  rw [← logged]
  exact strides_moves (strides_submitPassword d cookie pass)

end PolkitListener

namespace Agent

theorem acts_sendError (d : Daemon) (socket : Socket) (message : String) :
    Core.Acts d.core .idle (sendError d socket message).core := by
  rw [core_sendError]
  exact .idle

theorem acts_handleRespond (d : Daemon) (socket : Socket) (msg : QJsonObject) :
    Core.Acts d.core (d.respondAction socket msg) (handleRespond d socket msg).core := by
  unfold handleRespond Daemon.respondAction
  simp only
  generalize (msg.value (text "id")).toString = cookie
  generalize (msg.value (text "response")).toString = response
  split
  · exact acts_sendError d socket _
  split
  · next held =>
    obtain ⟨request,found⟩ := (Table.contains_iff _ _).mp held
    rw [core_respondKeyring]
    exact .keyringConclude found (.inl ⟨rfl,response,rfl⟩)
  split
  · next free held =>
    obtain ⟨request,found⟩ := (Table.contains_iff _ _).mp held
    rw [core_respondPinentry d socket cookie response held]
    exact .pinentryRespond (Option.not_isSome_iff_eq_none.mp free) found
  split
  · exact acts_sendError d socket _
  cases found : d.getSession cookie with
  | none => exact acts_sendError d socket _
  | some session =>
    simp only
    split
    · exact acts_sendError d socket _
    · next source =>
      rw [core_acknowledged]
      exact .submit found (not_not.mp source) (PolkitListener.moves_submitPassword d cookie response)

theorem acts_handleCancel (d : Daemon) (socket : Socket) (msg : QJsonObject) :
    Core.Acts d.core (d.cancelAction socket msg) (handleCancel d socket msg).core := by
  unfold handleCancel Daemon.cancelAction
  simp only
  generalize (msg.value (text "id")).toString = cookie
  split
  · exact acts_sendError d socket _
  split
  · next held =>
    obtain ⟨request,found⟩ := (Table.contains_iff _ _).mp held
    rw [core_cancelKeyring]
    exact .keyringConclude found (.inr ⟨rfl,rfl⟩)
  split
  · next known =>
    rw [core_cancelPinentry d socket cookie known]
    exact .pinentryCancel
  cases d.getSession cookie with
  | none => exact acts_sendError d socket _
  | some session =>
    simp only
    split
    · exact acts_sendError d socket _
    · rw [core_acknowledged]
      exact .polkit (PolkitListener.strides_moves (PolkitListener.strides_cancelPending d cookie))

theorem acts_handlePinentryResult (d : Daemon) (socket : Socket) (msg : QJsonObject) :
    Core.Acts d.core (d.resultAction socket msg) (handlePinentryResult d socket msg).core := by
  have refused (message : QString) : Core.Acts d.core .idle (d.sendJson socket (.error message)).core := by
    rw [Daemon.core_sendJson d socket _ rfl]
    exact .idle
  unfold handlePinentryResult PinentryManager.handleResult Daemon.resultAction
  simp only
  generalize (msg.value (text "id")).toString = cookie
  split
  · exact refused _
  split
  · exact refused _
  split
  · exact refused _
  next known =>
  cases PinentryManager.parseOutcome (toLower (msg.value (text "result")).toString) with
  | none => exact refused _
  | some outcome =>
    simp only
    rw [core_acknowledged,PinentryManager.core_applyOutcome]
    refine .pinentryOutcome ?_
    simpa [PinentryManager.core_hasPinentrySession] using known

theorem effectiveCookie_ne (env : Env) (msg : QJsonObject) : env.effectiveCookie msg ≠ [] := by
  unfold Env.effectiveCookie
  simp only
  split
  · exact env.uuid_nonempty
  · next named => exact fun empty => named (List.isEmpty_iff.mpr empty)

theorem acts_handleKeyringRequest (d : Daemon) (socket : Socket) (msg : QJsonObject)
    (known : d.sockets.contains socket = true) :
    Core.Acts d.core (d.keyringAction d.env socket msg) (handleKeyringRequest d socket msg).core := by
  obtain ⟨info,found⟩ := (Table.contains_iff _ _).mp known
  rw [handleKeyringRequest,KeyringManager.core_handleRequest]
  refine .keyringRequest found ?_ (effectiveCookie_ne d.env msg)
  simp [Daemon.getPeerPid,found,KeyringManager.parseKeyringRequest]

theorem acts_handlePinentryRequest (d : Daemon) (socket : Socket) (msg : QJsonObject)
    (known : d.sockets.contains socket = true) :
    Core.Acts d.core (d.pinentryAction d.env socket msg) (handlePinentryRequest d socket msg).core := by
  obtain ⟨info,found⟩ := (Table.contains_iff _ _).mp known
  rw [handlePinentryRequest,PinentryManager.core_handleRequest]
  refine .pinentryRequest found ?_ (effectiveCookie_ne d.env msg)
  simp [Daemon.getPeerPid,found,PinentryManager.parsePinentryRequest]

end Agent

namespace Daemon

theorem acts_routed {d e : Daemon} (same : e.core = d.core) : Core.Acts d.core .idle e.core := by
  rw [same]
  exact .idle

theorem acts_message (d : Daemon) (socket : Socket) (type : QString) (msg : QJsonObject)
    (known : d.sockets.contains socket = true) :
    Core.Acts d.core (d.action ⟨d.env,.message socket type msg⟩) (Agent.handleMessage d socket type msg).core := by
  simp only [action,Input.kind,Agent.handleMessage]
  cases Agent.handlers.lookup type with
  | none => exact Agent.acts_sendError d socket _
  | some handler =>
    cases handler with
    | keyringRequest => exact Agent.acts_handleKeyringRequest d socket msg known
    | pinentryRequest => exact Agent.acts_handlePinentryRequest d socket msg known
    | pinentryResult => exact Agent.acts_handlePinentryResult d socket msg
    | respond => exact Agent.acts_handleRespond d socket msg
    | cancel => exact Agent.acts_handleCancel d socket msg
    | ping => exact acts_routed (Agent.core_handlePing d socket)
    | subscribe => exact acts_routed (Agent.core_handleSubscribe d socket)
    | next => exact acts_routed (Agent.core_handleNext d socket)
    | uiRegister => exact acts_routed (Agent.core_handleUIRegister d socket msg)
    | uiHeartbeat => exact acts_routed (Agent.core_handleUIHeartbeat d socket)
    | uiUnregister => exact acts_routed (Agent.core_handleUIUnregister d socket)

theorem acts_handle (d : Daemon) (event : Event) (allowed : d.allows event) :
    Core.Acts d.core (d.action ⟨d.env,event⟩) (d.handle event).core := by
  cases event with
  | connected peerPid => exact .connect
  | socketState socket state =>
    obtain ⟨known,later⟩ := allowed
    rw [handle,core_setSocketState]
    exact .socketState known later
  | message socket type msg => exact acts_message d socket type msg allowed
  | disconnected socket =>
    rw [handle,core_disconnect]
    exact .disconnect allowed
  | initiateAuthentication actionId message iconName details cookie identities =>
    exact PolkitListener.acts_initiateAuthentication d actionId message iconName details cookie identities
  | polkitSignal session signal => exact .polkit (PolkitListener.strides_moves (PolkitListener.strides_signal d session signal))
  | cancelAuthentication => exact .polkit (PolkitListener.strides_moves (PolkitListener.strides_cancelAuthentication d))
  | timeout timer =>
    obtain ⟨cookie,running⟩ := (Table.contains_iff _ _).mp allowed
    rw [handle,PinentryManager.core_timeout]
    exact .timeout running
  | maintenance => exact acts_routed (Agent.core_pruneStaleProviders d)

theorem acts_step (d : Daemon) (input : Input) (allowed : daemon.enabled d input) :
    Core.Acts d.core (d.action input) (daemon.step d input).core :=
  acts_handle {d with env:=input.env} input.event allowed

end Daemon

end BbAuth
