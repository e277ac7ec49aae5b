import BbAuth.KeyringManager
import BbAuth.PinentryManager
import BbAuth.PolkitListener
import BbAuth.Library.Runs

open Library
namespace BbAuth.Agent

def sendError (d : Daemon) (socket : Socket) (message : String) : Daemon :=
  d.sendJson socket (.error (text message))

def handlePing (d : Daemon) (socket : Socket) : Daemon :=
  d.sendJson socket (.pong (d.providerRegistry.activeProviderInfo.map Daemon.providerJson))

def handleNext (d : Daemon) (socket : Socket) : Daemon :=
  match d.eventQueue.takeNext with
  | (none,queue) => d.withEventQueue (queue.subscribeNext socket)
  | (some event,queue) => (d.withEventQueue queue).sendJson socket (.event event)

def handleSubscribe (d : Daemon) (socket : Socket) : Daemon :=
  let d := if d.subscribers.contains socket then d else {d with subscribers:=d.subscribers ++ [socket]}
  let isRegisteredProvider := d.providerRegistry.contains socket
  let isActiveProvider := isRegisteredProvider && decide (some socket = d.providerRegistry.activeProvider)
  let canReceiveInteractiveEvents := !isRegisteredProvider || isActiveProvider
  let replay := d.sessionStore.toList.flatMap (fun entry =>
    [(socket,Message.event entry.2.toCreatedEvent),(socket,Message.event entry.2.toUpdatedEvent)])
  let d := if canReceiveInteractiveEvents then d.sendAll replay else d
  let sessionCount := if canReceiveInteractiveEvents then d.sessionStore.size else 0
  d.sendJson socket (.subscribed sessionCount (if isRegisteredProvider then some isActiveProvider else none))

def handleKeyringRequest (d : Daemon) (socket : Socket) (msg : QJsonObject) : Daemon :=
  KeyringManager.handleRequest d msg socket (d.getPeerPid socket)

def handlePinentryRequest (d : Daemon) (socket : Socket) (msg : QJsonObject) : Daemon :=
  PinentryManager.handleRequest d msg socket (d.getPeerPid socket)

def handlePinentryResult (d : Daemon) (socket : Socket) (msg : QJsonObject) : Daemon :=
  let (result,d) := PinentryManager.handleResult d msg (d.getPeerPid socket)
  d.sendJson socket result

def handleUIRegister (d : Daemon) (socket : Socket) (msg : QJsonObject) : Daemon :=
  let (nowMs,d) := d.nowMs
  let (provider,registry) := d.providerRegistry.registerProvider socket msg d.env.uuid nowMs
  let (activeProviderChanged,d) := (d.withProviderRegistry registry).recomputeActiveProvider
  let nowActive := decide (some socket = d.providerRegistry.activeProvider)
  let d := d.sendJson socket (.uiRegistered provider.id nowActive provider.priority)
  if activeProviderChanged || nowActive then d.emitProviderStatus else d

def handleUIHeartbeat (d : Daemon) (socket : Socket) : Daemon :=
  if !d.providerRegistry.contains socket then sendError d socket "Provider not registered"
  else
    let (nowMs,d) := d.nowMs
    let registry := (d.providerRegistry.heartbeat socket nowMs).getD d.providerRegistry
    let d := (d.withProviderRegistry registry).refreshActiveProvider
    d.sendJson socket (.ok (some (decide (some socket = d.providerRegistry.activeProvider))))

def handleUIUnregister (d : Daemon) (socket : Socket) : Daemon :=
  match d.providerRegistry.unregisterProvider socket with
  | (false,_) => sendError d socket "Provider not registered"
  | (true,registry) =>
    let d := (d.withProviderRegistry registry).refreshActiveProvider
    let d := d.sendJson socket (.ok none)
    if !d.hasActiveProvider && !d.sessionStore.isEmpty then
      d.ensureFallbackUiRunning (text "provider-unregistered")
    else d

def replyTo (d : Daemon) (origSocket : Option Socket) (reply : Message) : Daemon :=
  match origSocket with
  | none => d
  | some socket => d.sendJson socket reply

def isError : Message → Bool
  | .error _ => true
  | _ => false

def errorText : Message → QString
  | .error message => message
  | _ => []

def respondKeyring (d : Daemon) (socket : Socket) (cookie response : QString) : Daemon :=
  let origSocket := KeyringManager.getSocketForRequest d.keyringManager cookie
  let (reply,d) := KeyringManager.handleResponse d cookie response
  (replyTo d origSocket reply).sendJson socket (.ok none)

def respondPinentry (d : Daemon) (socket : Socket) (cookie response : QString) : Daemon :=
  let origSocket := PinentryManager.getSocketForPendingInput d.pinentryManager cookie
  let (reply,d) := PinentryManager.handleResponse d cookie response
  match origSocket with
  | none =>
    let message := errorText reply
    d.sendJson socket (.error (if message.isEmpty then text "Invalid pinentry session state" else message))
  | some origSocket =>
    if isError reply then
      let message := errorText reply
      d.sendJson socket (.error (if message.isEmpty then text "Invalid pinentry session state" else message))
    else (d.sendJson origSocket reply).sendJson socket (.ok none)

def handleRespond (d : Daemon) (socket : Socket) (msg : QJsonObject) : Daemon :=
  let cookie := (msg.value (text "id")).toString
  let response := (msg.value (text "response")).toString
  if !d.isAuthorizedProviderSocket socket then sendError d socket "Not active UI provider"
  else if KeyringManager.hasPendingRequest d.keyringManager cookie then respondKeyring d socket cookie response
  else if PinentryManager.hasPendingInput d.pinentryManager cookie then respondPinentry d socket cookie response
  else if PinentryManager.hasRequest d cookie then sendError d socket "Session is not accepting input"
  else
    match d.getSession cookie with
    | none => sendError d socket "Unknown session"
    | some session =>
      if session.source ≠ .polkit then sendError d socket "Session is not awaiting direct response"
      else (PolkitListener.submitPassword d cookie response).sendJson socket (.ok none)

def cancelKeyring (d : Daemon) (socket : Socket) (cookie : QString) : Daemon :=
  let origSocket := KeyringManager.getSocketForRequest d.keyringManager cookie
  let (reply,d) := KeyringManager.handleCancel d cookie
  (replyTo d origSocket reply).sendJson socket (.ok none)

def cancelPinentry (d : Daemon) (socket : Socket) (cookie : QString) : Daemon :=
  let origSocket := PinentryManager.getSocketForPendingInput d.pinentryManager cookie
  let (reply,d) := PinentryManager.handleCancel d cookie
  if isError reply then d.sendJson socket reply
  else (replyTo d origSocket reply).sendJson socket (.ok none)

def handleCancel (d : Daemon) (socket : Socket) (msg : QJsonObject) : Daemon :=
  let cookie := (msg.value (text "id")).toString
  if !d.isAuthorizedProviderSocket socket then sendError d socket "Not active UI provider"
  else if KeyringManager.hasPendingRequest d.keyringManager cookie then cancelKeyring d socket cookie
  else if PinentryManager.hasRequest d cookie then cancelPinentry d socket cookie
  else
    match d.getSession cookie with
    | none => sendError d socket "Unknown session"
    | some session =>
      if session.source ≠ .polkit then sendError d socket "Session is not cancellable from this path"
      else (PolkitListener.cancelPending d cookie).sendJson socket (.ok none)

inductive Handler where
  | ping
  | subscribe
  | next
  | keyringRequest
  | pinentryRequest
  | pinentryResult
  | uiRegister
  | uiHeartbeat
  | uiUnregister
  | respond
  | cancel
  deriving DecidableEq, Repr

def handlers : List (QString × Handler) :=
  [(text "ping",.ping),
   (text "subscribe",.subscribe),
   (text "next",.next),
   (text "keyring_request",.keyringRequest),
   (text "pinentry_request",.pinentryRequest),
   (text "pinentry_result",.pinentryResult),
   (text "ui.register",.uiRegister),
   (text "ui.heartbeat",.uiHeartbeat),
   (text "ui.unregister",.uiUnregister),
   (text "session.respond",.respond),
   (text "session.cancel",.cancel)]

def dispatch (d : Daemon) (socket : Socket) (handler : Handler) (msg : QJsonObject) : Daemon :=
  match handler with
  | .ping => handlePing d socket
  | .subscribe => handleSubscribe d socket
  | .next => handleNext d socket
  | .keyringRequest => handleKeyringRequest d socket msg
  | .pinentryRequest => handlePinentryRequest d socket msg
  | .pinentryResult => handlePinentryResult d socket msg
  | .uiRegister => handleUIRegister d socket msg
  | .uiHeartbeat => handleUIHeartbeat d socket
  | .uiUnregister => handleUIUnregister d socket
  | .respond => handleRespond d socket msg
  | .cancel => handleCancel d socket msg

def handleMessage (d : Daemon) (socket : Socket) (type : QString) (msg : QJsonObject) : Daemon :=
  match handlers.lookup type with
  | none => sendError d socket "Unknown type"
  | some handler => dispatch d socket handler msg

def onClientDisconnected (d : Daemon) (socket : Socket) : Daemon :=
  let d := {d with subscribers:=d.subscribers.erase socket}
  let (removed,registry) := d.providerRegistry.removeSocket socket
  let d := d.withProviderRegistry registry
  let d := if removed then d.refreshActiveProvider else d
  let d := d.withEventQueue (d.eventQueue.removeWaiter socket)
  let d := KeyringManager.cleanupForSocket d socket
  let d := PinentryManager.cleanupForSocket d socket
  if !d.hasActiveProvider && !d.sessionStore.isEmpty then
    d.ensureFallbackUiRunning (text "provider-disconnected")
  else d

def pruneStaleProviders (d : Daemon) : Daemon :=
  let d := d.refreshActiveProvider
  if !d.hasActiveProvider && !d.sessionStore.isEmpty then
    d.ensureFallbackUiRunning (text "provider-prune")
  else d

end BbAuth.Agent

namespace BbAuth

-- What can happen to the daemon between two returns to its event loop.
inductive Event where
  | connected (peerPid : Pid)
  | socketState (socket : Socket) (state : LocalSocketState)
  | message (socket : Socket) (type : QString) (msg : QJsonObject)
  | disconnected (socket : Socket)
  | initiateAuthentication (actionId message iconName : QString) (details : List (QString × QString))
      (cookie : QString) (identities : List QString)
  | polkitSignal (session : Nat) (signal : PolkitSignal)
  | cancelAuthentication
  | timeout (timer : Timer)
  | maintenance

structure Input where
  env : Env
  event : Event

-- Inputs in quiet surroundings, for runs that are written out.
def Input.quiet (event : Event) : Input := ⟨.quiet,event⟩

def Input.say (socket : Socket) (type : String) (fields : List (String × String)) : Input :=
  .quiet (.message socket (text type) (.ofList (fields.map (fun field => (text field.1,.string (text field.2))))))

-- Messages by the handler they are dispatched to. The messages that only serve
-- user interfaces, and the maintenance tick, are of the kind `routing`.
inductive InputKind where
  | connected (peerPid : Pid)
  | socketState (socket : Socket) (state : LocalSocketState)
  | disconnected (socket : Socket)
  | keyringRequest (socket : Socket) (msg : QJsonObject)
  | pinentryRequest (socket : Socket) (msg : QJsonObject)
  | pinentryResult (socket : Socket) (msg : QJsonObject)
  | respond (socket : Socket) (msg : QJsonObject)
  | cancel (socket : Socket) (msg : QJsonObject)
  | routing
  | initiateAuthentication (actionId message iconName : QString) (details : List (QString × QString))
      (cookie : QString) (identities : List QString)
  | polkitSignal (session : Nat) (signal : PolkitSignal)
  | cancelAuthentication
  | timeout (timer : Timer)

def Input.kind (input : Input) : InputKind :=
  match input.event with
  | .connected peerPid => .connected peerPid
  | .socketState socket state => .socketState socket state
  | .disconnected socket => .disconnected socket
  | .message socket type msg =>
    match Agent.handlers.lookup type with
    | some .keyringRequest => .keyringRequest socket msg
    | some .pinentryRequest => .pinentryRequest socket msg
    | some .pinentryResult => .pinentryResult socket msg
    | some .respond => .respond socket msg
    | some .cancel => .cancel socket msg
    | _ => .routing
  | .initiateAuthentication actionId message iconName details cookie identities =>
    .initiateAuthentication actionId message iconName details cookie identities
  | .polkitSignal session signal => .polkitSignal session signal
  | .cancelAuthentication => .cancelAuthentication
  | .timeout timer => .timeout timer
  | .maintenance => .routing

namespace Daemon

def connect (d : Daemon) (peerPid : Pid) : Daemon :=
  {d with sockets:=d.sockets.insert d.nextSocket ⟨.connected,peerPid⟩,nextSocket:=d.nextSocket + 1}

def setSocketState (d : Daemon) (socket : Socket) (state : LocalSocketState) : Daemon :=
  match d.sockets.find socket with
  | none => d
  | some info => {d with sockets:=d.sockets.insert socket {info with state}}

-- deleteLater: the socket object goes, and a QPointer to it becomes null.
def deleteSocket (d : Daemon) (socket : Socket) : Daemon :=
  let activeProvider :=
    if d.providerRegistry.activeProvider = some socket then none else d.providerRegistry.activeProvider
  {d with sockets:=d.sockets.remove socket,providerRegistry:={d.providerRegistry with activeProvider}}

def disconnect (d : Daemon) (socket : Socket) : Daemon :=
  (Agent.onClientDisconnected (d.setSocketState socket .unconnected) socket).deleteSocket socket

def handle (d : Daemon) (event : Event) : Daemon :=
  match event with
  | .connected peerPid => d.connect peerPid
  | .socketState socket state => d.setSocketState socket state
  | .message socket type msg => Agent.handleMessage d socket type msg
  | .disconnected socket => d.disconnect socket
  | .initiateAuthentication actionId message iconName details cookie identities =>
    PolkitListener.initiateAuthentication d actionId message iconName details cookie identities
  | .polkitSignal session signal => PolkitListener.signal d session signal
  | .cancelAuthentication => PolkitListener.cancelAuthentication d
  | .timeout timer => PinentryManager.timeout d timer
  | .maintenance => Agent.pruneStaleProviders d

-- Messages and state changes come from sockets whose disconnect was not handled
-- yet, a socket never becomes connected again, signals come from Session objects
-- that were created, and only a running timer fires.
def allows (d : Daemon) : Event → Prop
  | .socketState socket state => d.sockets.contains socket = true ∧ state ≠ .connected
  | .message socket _ _ => d.sockets.contains socket = true
  | .disconnected socket => d.sockets.contains socket = true
  | .polkitSignal session _ => session < d.listener.nextSession
  | .timeout timer => d.pinentryManager.timers.contains timer = true
  | _ => True

instance (d : Daemon) : (event : Event) → Decidable (d.allows event)
  | .socketState .. => inferInstanceAs (Decidable (_ ∧ _))
  | .message .. | .disconnected _ | .timeout _ => inferInstanceAs (Decidable (_ = true))
  | .polkitSignal .. => inferInstanceAs (Decidable (_ < _))
  | .connected _ | .initiateAuthentication .. | .cancelAuthentication | .maintenance => isTrue trivial

def step (d : Daemon) (input : Input) : Daemon := {d with env:=input.env}.handle input.event

end Daemon

def daemon : Machine Daemon Input where
  initial := .initial
  enabled d input := d.allows input.event
  step := Daemon.step

instance (d : Daemon) (input : Input) : Decidable (daemon.enabled d input) :=
  inferInstanceAs (Decidable (d.allows input.event))

instance (inputs : List Input) : Decidable (daemon.Admits inputs) :=
  inferInstanceAs (Decidable (daemon.Every daemon.enabled inputs))

end BbAuth
