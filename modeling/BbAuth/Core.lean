import BbAuth.Agent

open Library
namespace BbAuth

def Message.answers : Message → Option (RequestKind × QString)
  | .response kind id _ => some (kind,id)
  | _ => none

-- Deliveries to user interfaces and to whoever asks, and attempts to start the
-- fallback program.
def Effect.routine : Effect → Bool
  | .sent _ message => message.answers.isNone
  | .fallbackRequested _ | .fallbackLaunched => true
  | _ => false

-- The daemon without its routing: requests and sessions, and the history of
-- what happened to them, whoever is watching.
structure Core where
  keyringManager : KeyringManager
  pinentryManager : PinentryManager
  listener : PolkitListener
  sessionStore : SessionStore
  sockets : Table Socket LocalSocket
  nextSocket : Socket
  history : List Effect

def Daemon.core (d : Daemon) : Core :=
  ⟨d.keyringManager,d.pinentryManager,d.listener,d.sessionStore,d.sockets,d.nextSocket,
    d.trace.filter (fun effect => !effect.routine)⟩

theorem routine_cases {effect : Effect} (routine : effect.routine = true) :
    (∃ socket message, effect = .sent socket message ∧ message.answers = none) ∨
    (∃ reason, effect = .fallbackRequested reason) ∨ effect = .fallbackLaunched := by
  cases effect with
  | sent socket message => exact .inl ⟨socket,message,rfl,Option.isNone_iff_eq_none.mp routine⟩
  | fallbackRequested reason => exact .inr (.inl ⟨reason,rfl⟩)
  | fallbackLaunched => exact .inr (.inr rfl)
  | requested | emitted | submitted | polkit => cases routine

-- A reading of a trace that passes over the routine effects reads the same of
-- what the core keeps.
theorem unrouted_read (read : List Effect → β)
    (skips : ∀ effect rest, effect.routine = true → read (effect :: rest) = read rest)
    (follows : ∀ effect rest other, read rest = read other → read (effect :: rest) = read (effect :: other))
    (trace : List Effect) : read (trace.filter (fun effect => !effect.routine)) = read trace := by
  induction trace with
  | nil => rfl
  | cons effect rest ih =>
    cases routine : effect.routine with
    | true =>
      rw [List.filter_cons_of_neg (by simp [routine]),skips effect rest routine]
      exact ih
    | false =>
      rw [List.filter_cons_of_pos (by simp [routine])]
      exact follows effect _ rest ih

theorem unrouted_filterMap (f : Effect → Option α) (silent : ∀ effect, effect.routine = true → f effect = none)
    (trace : List Effect) : (trace.filter (fun effect => !effect.routine)).filterMap f = trace.filterMap f := by
  refine unrouted_read _ (fun effect rest routine => ?_) (fun effect rest other same => ?_) trace
  · exact List.filterMap_cons_none (silent effect routine)
  · rw [List.filterMap_cons,List.filterMap_cons,same]

theorem Daemon.core_keyringManager (d : Daemon) : d.core.keyringManager = d.keyringManager := rfl
theorem Daemon.core_pinentryManager (d : Daemon) : d.core.pinentryManager = d.pinentryManager := rfl
theorem Daemon.core_sockets (d : Daemon) : d.core.sockets = d.sockets := rfl

namespace Core

def log (c : Core) (effect : Effect) : Core := {c with history:=effect :: c.history}

def isConnected (c : Core) (socket : Socket) : Bool :=
  match c.sockets.find socket with
  | none => false
  | some info => decide (info.state = .connected)

def answer (c : Core) (socket : Socket) (kind : RequestKind) (id : QString) (answer : Answer) : Core :=
  if c.isConnected socket then c.log (.sent socket (.response kind id answer)) else c

def withSessions (c : Core) (sessionStore : SessionStore) : Core := {c with sessionStore}
def withPinentry (c : Core) (pinentryManager : PinentryManager) : Core := {c with pinentryManager}
def withKeyring (c : Core) (pendingRequests : Table QString KeyringRequest) : Core :=
  {c with keyringManager:={pendingRequests}}
def withListener (c : Core) (listener : PolkitListener) : Core := {c with listener}

def createSession (c : Core) (id : QString) (source : Source) (ctx : Context) : Core :=
  let session : Session := {id,source,context:=ctx}
  (c.withSessions (c.sessionStore.insert id session)).log (.emitted session.toCreatedEvent)

def updateSession (c : Core) (id : QString) (change : Session → Session) : Core :=
  match c.sessionStore.find id with
  | none => c
  | some session =>
    (c.withSessions (c.sessionStore.insert id (change session))).log (.emitted (change session).toUpdatedEvent)

def closeSession (c : Core) (id : QString) (result : Result) : Core :=
  match c.sessionStore.find id with
  | none => c
  | some session =>
    (c.withSessions (c.sessionStore.remove id)).log (.emitted (session.close result).toClosedEvent)

def keyringRequest (c : Core) (request : KeyringRequest) (actor : ActorInfo) : Core :=
  let c := c.log (.requested .keyring request.socket request.peerPid request.cookie)
  let c := c.withKeyring (c.keyringManager.pendingRequests.insert request.cookie request)
  let c := c.createSession request.cookie .keyring (KeyringManager.contextOf request actor)
  c.updateSession request.cookie (·.setPrompt request.message false true)

-- The entry goes before its session is closed and its requester is answered.
def keyringConclude (c : Core) (cookie : QString) (result : Result) (answer : Answer) : Core :=
  match c.keyringManager.pendingRequests.find cookie with
  | none => c
  | some request =>
    let c := c.withKeyring (c.keyringManager.pendingRequests.remove cookie)
    (c.closeSession cookie result).answer request.socket .keyring cookie answer

def keyringForget (c : Core) (entry : QString × KeyringRequest) : Core :=
  (c.withKeyring (c.keyringManager.pendingRequests.remove entry.1)).closeSession entry.2.cookie .cancelled

def keyringDisconnect (c : Core) (socket : Socket) : Core :=
  (c.keyringManager.pendingRequests.toList.filter (fun entry => entry.2.socket = socket)).foldl keyringForget c

def hasPinentrySession (c : Core) (cookie : QString) : Bool :=
  match c.sessionStore.find cookie with
  | none => false
  | some session => decide (session.source = .pinentry)

def endPinentrySession (c : Core) (cookie : QString) (result : Result) (error : QString) : Core :=
  if c.hasPinentrySession cookie then
    let c := if error.isEmpty then c else c.updateSession cookie (·.setError error)
    c.closeSession cookie result
  else c

def closeFlow (c : Core) (cookie : QString) (result : Result) (error : QString) : Core :=
  let c := c.endPinentrySession cookie result error
  c.withPinentry (PinentryManager.forgetFlow c.pinentryManager cookie)

def reportRetry (c : Core) (request : PinentryRequest) : Core :=
  if PinentryManager.isAwaitingOutcome c.pinentryManager request.cookie then
    let c := c.withPinentry (PinentryManager.cleanupAwaiting c.pinentryManager request.cookie)
    let retryError := if request.error.isEmpty then text "Authentication failed" else request.error
    c.updateSession request.cookie (·.setError retryError)
  else c

-- The counters are stored without an event.
def setPinentryRetry (c : Core) (id : QString) (curRetry maxRetries : Int) : Core :=
  match c.sessionStore.updatePinentryRetry id curRetry maxRetries with
  | none => c
  | some store => c.withSessions store

def present (c : Core) (request : PinentryRequest) (actor : ActorInfo) (retry : Int × Int)
    (sessionExists : Bool) : Core :=
  let c :=
    if !sessionExists then c.createSession request.cookie .pinentry (PinentryManager.contextOf request actor retry)
    else c.setPinentryRetry request.cookie retry.1 retry.2
  c.updateSession request.cookie (·.setPrompt request.prompt false false)

def reportRequestError (c : Core) (request : PinentryRequest) : Core :=
  let reported := c.pinentryManager.retryReported.contains request.cookie
  let retryReported :=
    if reported then c.pinentryManager.retryReported.remove request.cookie else c.pinentryManager.retryReported
  let c := c.withPinentry {c.pinentryManager with retryReported}
  if !request.error.isEmpty && !reported then c.updateSession request.cookie (·.setError request.error) else c

def pinentryRequest (c : Core) (request : PinentryRequest) (actor : ActorInfo) : Core :=
  let c := c.log (.requested .pinentry request.socket request.peerPid request.cookie)
  if PinentryManager.ownedByOther c.pinentryManager request.cookie request.peerPid then c
  else
    let (retry,manager) := PinentryManager.enterFlow c.pinentryManager request
    let c := c.withPinentry manager
    let sessionExists := (c.sessionStore.find request.cookie).isSome
    let c := c.reportRetry request
    let c := c.withPinentry (PinentryManager.recordPending c.pinentryManager request)
    (c.present request actor retry sessionExists).reportRequestError request

def pinentryRespond (c : Core) (cookie response : QString) : Core :=
  match c.pinentryManager.pendingRequests.find cookie with
  | none => c
  | some request =>
    let c := c.withPinentry (PinentryManager.awaitOutcome c.pinentryManager request cookie)
    c.answer request.socket .pinentry cookie (if request.confirmOnly then .confirmed else .ok response)

def pinentryCancel (c : Core) (cookie : QString) : Core :=
  let pending := c.pinentryManager.pendingRequests.find cookie
  let c := c.closeFlow cookie .cancelled []
  match pending with
  | none => c
  | some request => c.answer request.socket .pinentry cookie .cancelled

def applyOutcome (c : Core) (cookie : QString) (outcome : PinentryManager.Outcome) (error : QString) : Core :=
  let reason := if error.isEmpty then text "Authentication failed" else error
  match outcome with
  | .success => c.closeFlow cookie .success []
  | .retry =>
    let manager := PinentryManager.cleanupAwaiting c.pinentryManager cookie
    let manager := {manager with retryReported:=manager.retryReported.insert cookie ()}
    (c.withPinentry manager).updateSession cookie (·.setError reason)
  | .cancelled => c.closeFlow cookie .cancelled []
  | .error => c.closeFlow cookie .error reason

def timeout (c : Core) (timer : Timer) : Core :=
  match c.pinentryManager.timers.find timer with
  | none => c
  | some cookie =>
    let c := c.withPinentry {c.pinentryManager with timers:=c.pinentryManager.timers.remove timer}
    c.closeFlow cookie .error (text "Pinentry did not report terminal result")

def pinentryForget (c : Core) (cookie : QString) : Core :=
  c.closeFlow cookie .cancelled (text "Pinentry disconnected")

def pinentryDisconnect (c : Core) (socket : Socket) : Core :=
  let entries := c.pinentryManager.pendingRequests.toList.filter (fun entry => entry.2.socket = socket)
  (entries.map Prod.fst).foldl pinentryForget c

def connect (c : Core) (peerPid : Pid) : Core :=
  {c with sockets:=c.sockets.insert c.nextSocket ⟨.connected,peerPid⟩,nextSocket:=c.nextSocket + 1}

def setSocketState (c : Core) (socket : Socket) (state : LocalSocketState) : Core :=
  match c.sockets.find socket with
  | none => c
  | some info => {c with sockets:=c.sockets.insert socket {info with state}}

def deleteSocket (c : Core) (socket : Socket) : Core := {c with sockets:=c.sockets.remove socket}

def disconnect (c : Core) (socket : Socket) : Core :=
  let c := c.setSocketState socket .unconnected
  ((c.keyringDisconnect socket).pinentryDisconnect socket).deleteSocket socket

end Core

namespace Daemon

@[simp] theorem core_withKeyringManager (d : Daemon) (m : KeyringManager) :
    (d.withKeyringManager m).core = d.core.withKeyring m.pendingRequests := rfl
@[simp] theorem core_withPinentryManager (d : Daemon) (m : PinentryManager) :
    (d.withPinentryManager m).core = d.core.withPinentry m := rfl
@[simp] theorem core_withListener (d : Daemon) (l : PolkitListener) :
    (d.withListener l).core = d.core.withListener l := rfl
@[simp] theorem core_withSessionStore (d : Daemon) (store : SessionStore) :
    (d.withSessionStore store).core = d.core.withSessions store := rfl
@[simp] theorem core_withProviderRegistry (d : Daemon) (registry : ProviderRegistry) :
    (d.withProviderRegistry registry).core = d.core := rfl
@[simp] theorem core_withEventQueue (d : Daemon) (queue : EventQueue SessionEvent) :
    (d.withEventQueue queue).core = d.core := rfl

@[simp] theorem core_isConnected (d : Daemon) (socket : Socket) : d.core.isConnected socket = d.isConnected socket := rfl

theorem core_log (d : Daemon) (effect : Effect) :
    (d.log effect).core = if effect.routine then d.core else d.core.log effect := by
  cases kind : effect.routine <;> simp [core,log,Core.log,kind]

theorem core_sendJson (d : Daemon) (socket : Socket) (message : Message) (other : message.answers = none) :
    (d.sendJson socket message).core = d.core := by
  unfold sendJson
  split
  · simp [core_log,Effect.routine,other]
  · rfl

@[simp] theorem core_answer (d : Daemon) (socket : Socket) (kind : RequestKind) (id : QString) (answer : Answer) :
    (d.sendJson socket (.response kind id answer)).core = d.core.answer socket kind id answer := by
  unfold sendJson Core.answer
  rw [core_isConnected]
  split
  · simp [core_log,Effect.routine,Message.answers]
  · rfl

theorem core_sendAll (d : Daemon) (messages : List (Socket × Message))
    (other : ∀ message ∈ messages, message.2.answers = none) : (d.sendAll messages).core = d.core := by
  induction messages generalizing d with
  | nil => rfl
  | cons message rest ih =>
    have later := ih (d.sendJson message.1 message.2) (fun m present => other m (List.mem_cons_of_mem _ present))
    exact later.trans (core_sendJson d _ _ (other message List.mem_cons_self))

@[simp] theorem core_emitProviderStatus (d : Daemon) : d.emitProviderStatus.core = d.core := by
  apply core_sendAll
  intro message present
  obtain ⟨socket,_,rfl⟩ := List.mem_map.mp present
  rfl

@[simp] theorem core_refreshActiveProvider (d : Daemon) : d.refreshActiveProvider.core = d.core := by
  unfold refreshActiveProvider
  simp only
  split
  · exact core_emitProviderStatus _
  · rfl

@[simp] theorem core_emitSessionEvent (d : Daemon) (event : SessionEvent) :
    (d.emitSessionEvent event).core = d.core.log (.emitted event) := by
  unfold emitSessionEvent
  refine (core_sendAll _ _ ?_).trans ?_
  · intro message present
    obtain ⟨delivery,_,rfl⟩ := List.mem_map.mp present
    rfl
  · simp [core_log,Effect.routine]

@[simp] theorem core_ensureFallbackUiRunning (d : Daemon) (reason : QString) :
    (d.ensureFallbackUiRunning reason).core = d.core := by
  have logged : (d.log (.fallbackRequested reason)).core = d.core := by simp [core_log,Effect.routine]
  unfold ensureFallbackUiRunning
  simp only
  repeat' split
  all_goals exact logged

@[simp] theorem core_createSession (d : Daemon) (id : QString) (source : Source) (ctx : Context) :
    (d.createSession id source ctx).core = d.core.createSession id source ctx := by
  unfold createSession
  simp only
  split
  · rw [core_ensureFallbackUiRunning,core_emitSessionEvent]; rfl
  · rw [core_emitSessionEvent]; rfl

theorem core_emitUpdated (d : Daemon) (id : QString) (change : Session → Session) :
    (d.emitUpdated (d.sessionStore.updateWith change id)).core = d.core.updateSession id change := by
  change _ = match d.sessionStore.find id with | none => _ | some session => _
  unfold SessionStore.updateWith
  cases d.sessionStore.find id with
  | none => rfl
  | some session => exact core_emitSessionEvent _ _

@[simp] theorem core_updateSessionPrompt (d : Daemon) (id prompt : QString) (echo clearError : Bool) :
    (d.updateSessionPrompt id prompt echo clearError).core =
      d.core.updateSession id (·.setPrompt prompt echo clearError) := core_emitUpdated d id _

@[simp] theorem core_updateSessionError (d : Daemon) (id error : QString) :
    (d.updateSessionError id error).core = d.core.updateSession id (·.setError error) := core_emitUpdated d id _

@[simp] theorem core_onSessionRequest (d : Daemon) (id prompt : QString) (echo : Bool) :
    (d.onSessionRequest id prompt echo).core = d.core.updateSession id (·.setPrompt prompt echo true) :=
  core_emitUpdated d id _

@[simp] theorem core_onSessionRetry (d : Daemon) (id error : QString) :
    (d.onSessionRetry id error).core = d.core.updateSession id (·.setError error) := core_emitUpdated d id _

@[simp] theorem core_onSessionInfo (d : Daemon) (id info : QString) :
    (d.onSessionInfo id info).core = d.core.updateSession id (·.setInfo info) := core_emitUpdated d id _

@[simp] theorem core_updateSessionPinentryRetry (d : Daemon) (id : QString) (curRetry maxRetries : Int) :
    (d.updateSessionPinentryRetry id curRetry maxRetries).core = d.core.setPinentryRetry id curRetry maxRetries := by
  change _ = match d.sessionStore.updatePinentryRetry id curRetry maxRetries with | none => _ | some store => _
  unfold updateSessionPinentryRetry
  cases d.sessionStore.updatePinentryRetry id curRetry maxRetries <;> rfl

@[simp] theorem core_closeSession (d : Daemon) (id : QString) (result : Result) :
    (d.closeSession id result).core = d.core.closeSession id result := by
  change _ = match d.sessionStore.find id with | none => _ | some session => _
  unfold closeSession SessionStore.closeSession
  cases d.sessionStore.find id with
  | none => rfl
  | some session =>
    simp only
    split
    · rw [core_emitSessionEvent,core_refreshActiveProvider]; rfl
    · rw [core_emitSessionEvent]; rfl

@[simp] theorem core_onSessionComplete (d : Daemon) (id : QString) (success : Bool) :
    (d.onSessionComplete id success).core = d.core.closeSession id (if success then .success else .cancelled) := by
  change _ = match d.sessionStore.find id with | none => _ | some session => _
  unfold onSessionComplete SessionStore.closeSession
  generalize (if success then Result.success else .cancelled) = result
  cases d.sessionStore.find id with
  | none => rfl
  | some session =>
    simp only
    split
    · rw [core_refreshActiveProvider,core_emitSessionEvent]; rfl
    · rw [core_emitSessionEvent]; rfl

end Daemon

end BbAuth
