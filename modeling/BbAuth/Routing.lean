import BbAuth.Session

open Library
namespace BbAuth

-- A QLocalSocket*. Handles are never reused: the last reference to a socket is
-- dropped while its disconnect is handled.
abbrev Socket := Nat

structure UIProvider where
  id : QString := []
  name : QString := []
  kind : QString := []
  priority : Int := 0
  lastHeartbeatMs : Int := 0
  deriving DecidableEq, Repr

inductive RequestKind where
  | keyring
  | pinentry
  deriving DecidableEq, Repr

-- What a keyring_response or a pinentry_response says of its request.
inductive Answer where
  | ok (password : QString)
  | confirmed
  | cancelled
  deriving DecidableEq, Repr

structure ProviderJson where
  id : QString
  name : QString
  kind : QString
  priority : Int
  deriving DecidableEq, Repr

-- The JSON objects the daemon writes, one constructor for each value of type.
-- The constant version and capabilities of pong and the bootstrap state it
-- copies from a file are read by no modelled code and are left out.
inductive Message where
  | error (message : QString)
  | ok (active : Option Bool)
  | pong (provider : Option ProviderJson)
  | subscribed (sessionCount : Nat) (active : Option Bool)
  | uiRegistered (id : QString) (active : Bool) (priority : Int)
  | uiActive (active : Bool) (provider : Option ProviderJson)
  | response (kind : RequestKind) (id : QString) (answer : Answer)
  | event (event : SessionEvent)
  deriving DecidableEq, Repr

def Message.type : Message → QString
  | .error _ => text "error"
  | .ok _ => text "ok"
  | .pong _ => text "pong"
  | .subscribed .. => text "subscribed"
  | .uiRegistered .. => text "ui.registered"
  | .uiActive .. => text "ui.active"
  | .response .keyring .. => text "keyring_response"
  | .response .pinentry .. => text "pinentry_response"
  | .event e => e.type

-- The difference of two readings of the clock, in milliseconds, as a qint64 holds
-- it. The clock itself counts from the epoch and stays far from both ends.
def elapsedMs (nowMs earlierMs : Int) : Int := (nowMs - earlierMs).bmod 18446744073709551616

theorem elapsedMs_eq (nowMs earlierMs : Int) (above : -9223372036854775808 ≤ nowMs - earlierMs)
    (below : nowMs - earlierMs < 9223372036854775808) : elapsedMs nowMs earlierMs = nowMs - earlierMs :=
  Int.bmod_eq_of_le above below

structure ProviderRegistry where
  uiProviders : Table Socket UIProvider := .empty
  activeProvider : Option Socket := none

namespace ProviderRegistry

def providerHeartbeatTimeoutMs : Int := 15000

def contains (registry : ProviderRegistry) (socket : Socket) : Bool := registry.uiProviders.contains socket

def sockets (registry : ProviderRegistry) : List Socket := registry.uiProviders.keys

def registerProvider (registry : ProviderRegistry) (socket : Socket) (msg : QJsonObject)
    (uuid : QString) (nowMs : Int) : UIProvider × ProviderRegistry :=
  let provider := (registry.uiProviders.find socket).getD {}
  let id := if provider.id.isEmpty then uuid else provider.id
  let name := (msg.value (text "name")).toString
  let name := if name.isEmpty then text "unknown" else name
  let kind := (msg.value (text "kind")).toString
  let kind := if kind.isEmpty then name else kind
  let requestedPriority := (msg.value (text "priority")).toInt
  let priority :=
    if msg.contains (text "priority") then requestedPriority
    else if kind = text "quickshell" then 100
    else if kind = text "fallback" then 10
    else 50
  let provider : UIProvider := ⟨id,name,kind,priority,nowMs⟩
  (provider,{registry with uiProviders:=registry.uiProviders.insert socket provider})

def heartbeat (registry : ProviderRegistry) (socket : Socket) (nowMs : Int) : Option ProviderRegistry :=
  match registry.uiProviders.find socket with
  | none => none
  | some provider =>
    some {registry with uiProviders:=registry.uiProviders.insert socket {provider with lastHeartbeatMs:=nowMs}}

def unregisterProvider (registry : ProviderRegistry) (socket : Socket) : Bool × ProviderRegistry :=
  (registry.contains socket,{registry with uiProviders:=registry.uiProviders.remove socket})

def removeSocket (registry : ProviderRegistry) (socket : Socket) : Bool × ProviderRegistry :=
  registry.unregisterProvider socket

-- One turn of the election loop, for an entry that was not erased.
def better (best : Option (Socket × UIProvider)) (entry : Socket × UIProvider) : Option (Socket × UIProvider) :=
  match best with
  | none => some entry
  | some (_,leader) =>
    if entry.2.priority > leader.priority ∨
        (entry.2.priority = leader.priority ∧ entry.2.lastHeartbeatMs > leader.lastHeartbeatMs) then some entry
    else best

def recomputeActiveProvider (registry : ProviderRegistry) (nowMs : Int) (isConnected : Socket → Bool) :
    Bool × ProviderRegistry :=
  let survivors := registry.uiProviders.filter (fun socket provider =>
    isConnected socket && !decide (elapsedMs nowMs provider.lastHeartbeatMs > providerHeartbeatTimeoutMs))
  let bestSocket := (survivors.toList.foldl better none).map Prod.fst
  if registry.activeProvider = bestSocket then (false,{registry with uiProviders:=survivors})
  else (true,⟨survivors,bestSocket⟩)

def isAuthorized (registry : ProviderRegistry) (socket : Socket) : Bool :=
  if registry.uiProviders.isEmpty then true
  else if !registry.contains socket then false
  else decide (some socket = registry.activeProvider)

def hasActiveProvider (registry : ProviderRegistry) : Bool :=
  match registry.activeProvider with
  | none => false
  | some socket => registry.contains socket

def activeProviderInfo (registry : ProviderRegistry) : Option UIProvider :=
  if !registry.hasActiveProvider then none
  else registry.activeProvider.bind registry.uiProviders.find

end ProviderRegistry

-- Events are generic here: the daemon only routes session events, the router
-- also decides on others by their type.
structure EventQueue (Event : Type) where
  maxSize : Nat := 256
  eventQueue : List Event := []
  nextWaiters : List Socket := []

namespace EventQueue

variable {Event : Type}

def isEmpty (queue : EventQueue Event) : Bool := queue.eventQueue.isEmpty

def takeNext (queue : EventQueue Event) : Option Event × EventQueue Event :=
  match queue.eventQueue with
  | [] => (none,queue)
  | event :: rest => (some event,{queue with eventQueue:=rest})

def enqueue (queue : EventQueue Event) (event : Event) : EventQueue Event :=
  let kept := if queue.eventQueue.length ≥ queue.maxSize then queue.eventQueue.drop 1 else queue.eventQueue
  {queue with eventQueue:=kept ++ [event]}

def subscribeNext (queue : EventQueue Event) (socket : Socket) : EventQueue Event :=
  {queue with nextWaiters:=queue.nextWaiters ++ [socket]}

def removeWaiter (queue : EventQueue Event) (socket : Socket) : EventQueue Event :=
  {queue with nextWaiters:=queue.nextWaiters.filter (· ≠ socket)}

-- The sends of drainToWaiters in their order, and the waiters and events left.
def drain : List Socket → List Event → List (Socket × Event) × List Socket × List Event
  | socket :: waiters,event :: events =>
    let (sent,waiters,events) := drain waiters events
    ((socket,event) :: sent,waiters,events)
  | waiters,events => ([],waiters,events)

def drainToWaiters (queue : EventQueue Event) : List (Socket × Event) × EventQueue Event :=
  let (sent,waiters,events) := drain queue.nextWaiters queue.eventQueue
  (sent,{queue with nextWaiters:=waiters,eventQueue:=events})

end EventQueue

namespace EventRouter

variable {Event : Type}

def isSessionEventForProviderRouting (type : QString) : Bool := (text "session.").isPrefixOf type

-- The sends that route makes before it enqueues the event.
def direct (type : Event → QString) (registry : ProviderRegistry) (event : Event) (subscribers : List Socket)
    (isValid : Socket → Bool) : List (Socket × Event) :=
  if isSessionEventForProviderRouting (type event) && registry.hasActiveProvider then
    match registry.activeProvider with
    | none => []
    | some socket => if isValid socket then [(socket,event)] else []
  else (subscribers.filter isValid).map (fun socket => (socket,event))

def route (type : Event → QString) (registry : ProviderRegistry) (queue : EventQueue Event) (event : Event)
    (subscribers : List Socket) (isValid : Socket → Bool) : List (Socket × Event) × EventQueue Event :=
  let (sent,queue) := (queue.enqueue event).drainToWaiters
  (direct type registry event subscribers isValid ++ sent,queue)

end EventRouter

end BbAuth
