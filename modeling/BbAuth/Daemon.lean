import BbAuth.Routing

open Library
namespace BbAuth

structure KeyringRequest where
  cookie : QString
  socket : Socket
  peerPid : Pid
  title : QString
  message : QString
  choice : QString
  flags : Int
  deriving DecidableEq, Repr

structure PinentryRequest where
  cookie : QString
  socket : Socket
  peerPid : Pid
  prompt : QString
  description : QString
  error : QString
  keyinfo : QString
  repeated : Bool
  confirmOnly : Bool
  deriving DecidableEq, Repr

structure PinentryRetryInfo where
  keyinfo : QString := []
  curRetry : Int := 0
  maxRetries : Int := 0
  deriving DecidableEq, Repr

structure KeyringManager where
  pendingRequests : Table QString KeyringRequest := .empty

abbrev Timer := Nat

structure AwaitingOutcome where
  request : PinentryRequest
  timer : Timer
  deriving DecidableEq, Repr

-- `timers` holds the running QTimer objects with the cookie their timeout
-- captures. Stopping a timer or its single shot removes it.
structure PinentryManager where
  pendingRequests : Table QString PinentryRequest := .empty
  awaitingOutcome : Table QString AwaitingOutcome := .empty
  retryInfo : Table QString PinentryRetryInfo := .empty
  flowOwners : Table QString Pid := .empty
  flowKeyinfos : Table QString QString := .empty
  retryReported : Table QString Unit := .empty
  timers : Table Timer QString := .empty
  nextTimer : Timer := 0

abbrev AsyncResult := Nat
abbrev StateRef := Nat

-- A PolkitQt1::Agent::Session object with what its constructor was given.
structure PolkitSession where
  ref : Nat
  user : QString
  cookie : QString
  result : AsyncResult
  deriving DecidableEq, Repr

inductive PolkitSignal where
  | request (request : QString) (echo : Bool)
  | completed (gainedAuthorization : Bool)
  | showError (text : QString)
  | showInfo (text : QString)
  deriving DecidableEq, Repr

-- CPolkitListener::SessionState.
structure SessionState where
  inProgress : Bool := false
  cancelled : Bool := false
  gainedAuth : Bool := false
  cookie : QString
  message : QString
  iconName : QString
  actionId : QString
  prompt : QString := []
  errorText : QString := []
  echoOn : Bool := false
  requestSent : Bool := false
  details : List (QString × QString)
  result : AsyncResult
  selectedUser : QString
  session : Option PolkitSession := none
  retryCount : Nat := 0
  deriving DecidableEq, Repr

def maxAuthRetries : Nat := 3

-- The heap of SessionState objects is `states`; a pointer that is no key of it
-- was deleted. The counters name the next object to be allocated, an
-- AsyncResult being allocated by the caller of initiateAuthentication.
structure PolkitListener where
  cookieToState : Table QString StateRef := .empty
  sessionToState : Table Nat StateRef := .empty
  states : Table StateRef SessionState := .empty
  nextState : StateRef := 0
  nextSession : Nat := 0
  nextResult : AsyncResult := 0

inductive PolkitEffect where
  | created (session : PolkitSession)
  | initiated (session : PolkitSession)
  | signalled (session : Nat) (signal : PolkitSignal)
  | responded (session : PolkitSession) (response : QString)
  | cancelled (session : PolkitSession)
  | resultError (result : AsyncResult) (text : QString)
  | resultCompleted (result : AsyncResult)
  | completed (gainedAuthorization : Bool)
  | useAfterFree (state : StateRef)
  deriving DecidableEq, Repr

-- What a handler does that can be seen from outside the daemon, and the calls
-- between its parts that the properties below speak of.
inductive Effect where
  | requested (kind : RequestKind) (socket : Socket) (peerPid : Pid) (cookie : QString)
  | sent (socket : Socket) (message : Message)
  | emitted (event : SessionEvent)
  | submitted (cookie pass : QString)
  | fallbackRequested (reason : QString)
  | fallbackLaunched
  | polkit (effect : PolkitEffect)
  deriving DecidableEq, Repr

inductive LocalSocketState where
  | connected
  | closing
  | unconnected
  deriving DecidableEq, Repr

structure LocalSocket where
  state : LocalSocketState
  peerPid : Pid
  deriving DecidableEq, Repr

-- What RequestContextHelper finds out from /proc and the desktop files.
structure ActorInfo where
  displayName : QString := []
  iconName : QString := []
  fallbackLetter : QString := []
  fallbackKey : QString := []
  deriving DecidableEq, Repr

-- What the surroundings answer while one input is handled: the readings of the
-- clock, a generated UUID, the process table, the fallback program's fate, and
-- whether Session::cancel() emits completed(false) before it returns.
structure Env where
  clock : Nat → Int
  uuid : QString
  uuid_nonempty : uuid ≠ []
  readActor : Pid → Option ActorInfo
  subjectPid : List (QString × QString) → Option Pid
  fallbackRunning : Bool
  fallbackExecutable : Bool
  fallbackStarts : Bool
  cancelCompletes : Bool

-- The id a request is handled under: the client's, or a new UUID.
def Env.effectiveCookie (env : Env) (msg : QJsonObject) : QString :=
  let cookie := (msg.value (text "cookie")).toString
  if cookie.isEmpty then env.uuid else cookie

-- RequestContextHelper for a peer: an unreadable process leaves all fields empty.
def Env.resolveActorForPid (env : Env) (peerPid : Pid) : ActorInfo := (env.readActor peerPid).getD {}

def Env.quiet : Env where
  clock := fun _ => 0
  uuid := text "00000000-0000-4000-8000-000000000000"
  uuid_nonempty := by decide
  readActor := fun _ => none
  subjectPid := fun _ => none
  fallbackRunning := true
  fallbackExecutable := true
  fallbackStarts := true
  cancelCompletes := false

-- The members of CAgent.
structure CAgent where
  keyringManager : KeyringManager := {}
  pinentryManager : PinentryManager := {}
  listener : PolkitListener := {}
  providerRegistry : ProviderRegistry := {}
  eventQueue : EventQueue SessionEvent := {}
  sessionStore : SessionStore := .empty
  subscribers : List Socket := []
  lastFallbackLaunchMs : Int := 0

-- The agent together with the sockets it can reach, the answers of its
-- surroundings and the effects so far, the latest first.
structure Daemon extends CAgent where
  sockets : Table Socket LocalSocket := .empty
  nextSocket : Socket := 0
  clockReads : Nat := 0
  env : Env := Env.quiet
  trace : List Effect := []

namespace Daemon

def initial : Daemon := {}

def withKeyringManager (d : Daemon) (keyringManager : KeyringManager) : Daemon := {d with keyringManager}
def withPinentryManager (d : Daemon) (pinentryManager : PinentryManager) : Daemon := {d with pinentryManager}
def withListener (d : Daemon) (listener : PolkitListener) : Daemon := {d with listener}
def withSessionStore (d : Daemon) (sessionStore : SessionStore) : Daemon := {d with sessionStore}
def withProviderRegistry (d : Daemon) (providerRegistry : ProviderRegistry) : Daemon := {d with providerRegistry}
def withEventQueue (d : Daemon) (eventQueue : EventQueue SessionEvent) : Daemon := {d with eventQueue}

def log (d : Daemon) (effect : Effect) : Daemon := {d with trace:=effect :: d.trace}

def isConnected (d : Daemon) (socket : Socket) : Bool :=
  match d.sockets.find socket with
  | none => false
  | some info => decide (info.state = .connected)

def isValid (d : Daemon) (socket : Socket) : Bool :=
  match d.sockets.find socket with
  | none => false
  | some info => decide (info.state ≠ .unconnected)

def getPeerPid (d : Daemon) (socket : Socket) : Pid :=
  match d.sockets.find socket with
  | none => -1
  | some info => info.peerPid

def sendJson (d : Daemon) (socket : Socket) (message : Message) : Daemon :=
  if d.isConnected socket then d.log (.sent socket message) else d

def sendAll (d : Daemon) (messages : List (Socket × Message)) : Daemon :=
  messages.foldl (fun d message => d.sendJson message.1 message.2) d

def nowMs (d : Daemon) : Int × Daemon := (d.env.clock d.clockReads,{d with clockReads:=d.clockReads + 1})

def hasActiveProvider (d : Daemon) : Bool := d.providerRegistry.hasActiveProvider

def isAuthorizedProviderSocket (d : Daemon) (socket : Socket) : Bool := d.providerRegistry.isAuthorized socket

def providerJson (provider : UIProvider) : ProviderJson := ⟨provider.id,provider.name,provider.kind,provider.priority⟩

def emitProviderStatus (d : Daemon) : Daemon :=
  let status := Message.uiActive d.hasActiveProvider (d.providerRegistry.activeProviderInfo.map providerJson)
  let sent := d.providerRegistry.sockets.filter d.isValid
  let others := d.subscribers.filter (fun socket => d.isValid socket && !sent.contains socket)
  d.sendAll ((sent ++ others).map (fun socket => (socket,status)))

def recomputeActiveProvider (d : Daemon) : Bool × Daemon :=
  let (nowMs,d) := d.nowMs
  let (changed,registry) := d.providerRegistry.recomputeActiveProvider nowMs d.isConnected
  (changed,d.withProviderRegistry registry)

-- `if (recomputeActiveProvider()) emitProviderStatus();`
def refreshActiveProvider (d : Daemon) : Daemon :=
  let (changed,d) := d.recomputeActiveProvider
  if changed then d.emitProviderStatus else d

def emitSessionEvent (d : Daemon) (event : SessionEvent) : Daemon :=
  let d := d.log (.emitted event)
  let (sent,queue) :=
    EventRouter.route SessionEvent.type d.providerRegistry d.eventQueue event d.subscribers d.isValid
  let messages := sent.map (fun delivery => (delivery.1,Message.event delivery.2))
  (d.withEventQueue queue).sendAll messages

def fallbackLaunchCooldownMs : Int := 5000

def ensureFallbackUiRunning (d : Daemon) (reason : QString) : Daemon :=
  let d := d.log (.fallbackRequested reason)
  if d.hasActiveProvider then d
  else if d.env.fallbackRunning then d
  else
    let (nowMs,d) := d.nowMs
    if nowMs - d.lastFallbackLaunchMs < fallbackLaunchCooldownMs then d
    else if !d.env.fallbackExecutable then d
    else if d.env.fallbackStarts then {d.log .fallbackLaunched with lastFallbackLaunchMs:=nowMs}
    else d

def getSession (d : Daemon) (id : QString) : Option Session := d.sessionStore.getSession id

def createSession (d : Daemon) (id : QString) (source : Source) (ctx : Context) : Daemon :=
  let (createdEvent,store) := d.sessionStore.createSession id source ctx
  let d := (d.withSessionStore store).emitSessionEvent createdEvent
  if !d.hasActiveProvider then d.ensureFallbackUiRunning (text "session-created") else d

-- The agent's updates store the changed session and emit its session.updated,
-- or do nothing when the store has no such session.
def emitUpdated (d : Daemon) (updated : Option (SessionEvent × SessionStore)) : Daemon :=
  match updated with
  | none => d
  | some (event,store) => (d.withSessionStore store).emitSessionEvent event

def updateSessionPrompt (d : Daemon) (id prompt : QString) (echo clearError : Bool) : Daemon :=
  d.emitUpdated (d.sessionStore.updatePrompt id prompt echo clearError)

def updateSessionError (d : Daemon) (id error : QString) : Daemon :=
  d.emitUpdated (d.sessionStore.updateError id error)

def updateSessionPinentryRetry (d : Daemon) (id : QString) (curRetry maxRetries : Int) : Daemon :=
  match d.sessionStore.updatePinentryRetry id curRetry maxRetries with
  | none => d
  | some store => d.withSessionStore store

-- No caller asks for the deferred form, which returns the event unsent.
def closeSession (d : Daemon) (id : QString) (result : Result) : Daemon :=
  match d.sessionStore.closeSession id result with
  | none => d
  | some (event,store) =>
    let d := d.withSessionStore store
    let d := if d.sessionStore.isEmpty then d.refreshActiveProvider else d
    d.emitSessionEvent event

def onSessionRequest (d : Daemon) (cookie prompt : QString) (echo : Bool) : Daemon :=
  d.emitUpdated (d.sessionStore.updatePrompt cookie prompt echo true)

-- Unlike closeSession, this one emits before it elects a provider.
def onSessionComplete (d : Daemon) (cookie : QString) (success : Bool) : Daemon :=
  match d.sessionStore.closeSession cookie (if success then .success else .cancelled) with
  | none => d
  | some (event,store) =>
    let d := (d.withSessionStore store).emitSessionEvent event
    if d.sessionStore.isEmpty then d.refreshActiveProvider else d

def onSessionRetry (d : Daemon) (cookie error : QString) : Daemon :=
  d.emitUpdated (d.sessionStore.updateError cookie error)

def onSessionInfo (d : Daemon) (cookie info : QString) : Daemon :=
  d.emitUpdated (d.sessionStore.updateInfo cookie info)

def requestorOf (actor : ActorInfo) (pid : Pid) : Requestor :=
  ⟨actor.displayName,actor.iconName,actor.fallbackLetter,actor.fallbackKey,pid⟩

def onPolkitRequest (d : Daemon) (cookie message actionId user : QString) (details : List (QString × QString)) :
    Daemon :=
  let requestor : Requestor :=
    match d.env.subjectPid details with
    | none => {}
    | some pid =>
      match d.env.readActor pid with
      | none => {}
      | some actor => requestorOf actor pid
  let requestor :=
    if requestor.name.isEmpty then
      {requestor with name:=text "Unknown",fallbackLetter:=text "?",fallbackKey:=text "unknown"}
    else requestor
  d.createSession cookie .polkit {message,actionId,user,requestor}

end Daemon

end BbAuth
