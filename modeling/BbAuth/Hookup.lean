import BbAuth.ClientWatch
import BbAuth.Newcomers

open Library
namespace BbAuth

def Message.givenId : Message → Option QString
  | .uiRegistered id .. => some id
  | _ => none

-- An id that QUuid::createUuid may return: no provider has it, and nobody was
-- ever given it.
def Daemon.Unissued (d : Daemon) (uuid : QString) : Prop :=
  (∀ entry ∈ d.providerRegistry.uiProviders.toList, entry.2.id ≠ uuid) ∧
  ∀ delivery ∈ d.front.deliveries, delivery.2.givenId ≠ some uuid

instance (d : Daemon) (uuid : QString) : Decidable (d.Unissued uuid) := inferInstanceAs (Decidable (_ ∧ _))

instance (event : Event) (socket : Socket) : Decidable (event.concerns socket) :=
  match event with
  | .message speaker _ _ | .disconnected speaker | .socketState speaker _ => inferInstanceAs (Decidable (speaker = socket))
  | .connected _ | .initiateAuthentication .. | .polkitSignal .. | .cancelAuthentication | .timeout _ | .maintenance =>
    isFalse id

-- A registration that ends before it began: between the two readings of its
-- clock its own heartbeat, and all that is left of the others', got too old. The
-- answer then says that the client is not active, and unless somebody was active
-- and the client subscribed, nothing tells it that nobody is.
def Daemon.Strands (d : Daemon) (socket : Socket) : Prop :=
  elapsedMs (d.env.clock (d.clockReads + 1)) (d.env.clock d.clockReads) > ProviderRegistry.providerHeartbeatTimeoutMs ∧
  (∀ entry ∈ d.providerRegistry.uiProviders.toList, entry.1 ≠ socket → d.isConnected entry.1 = true →
    elapsedMs (d.env.clock (d.clockReads + 1)) entry.2.lastHeartbeatMs > ProviderRegistry.providerHeartbeatTimeoutMs) ∧
  (d.providerRegistry.activeProvider = none ∨ d.subscribers.contains socket = false)

instance (d : Daemon) (socket : Socket) : Decidable (d.Strands socket) := inferInstanceAs (Decidable (_ ∧ _ ∧ _))

-- The daemon and one client, with what is on the way between them: the messages
-- to the client that were not delivered yet, and the client's outbox.
structure Hookup where
  daemon : Daemon
  watch : Watch
  delivered : Nat := 0
  handled : Nat := 0

inductive Move where
  | others (input : Input)
  | accept (env : Env)
  | deliver
  | watchdog
  | heartbeat
  | respond (id response : QString)
  | cancel (id : QString)

namespace Hookup

def incoming (s : Hookup) (socket : Socket) : List Message := (s.daemon.view socket).heard.drop s.delivered

def accept (s : Hookup) (socket : Socket) (env : Env) : Hookup :=
  match s.watch.outbox with
  | [] => s
  | json :: outbox =>
    {s with
      daemon:=s.daemon.step ⟨env,.message socket (json.value (text "type")).toString json⟩,
      watch:={s.watch with outbox},handled:=s.handled + 1}

def deliver (s : Hookup) (socket : Socket) : Hookup :=
  match s.incoming socket with
  | [] => s
  | message :: _ => {s with watch:=s.watch.deliver message,delivered:=s.delivered + 1}

def say (s : Hookup) (signals : List ClientSignal) : Hookup := {s with watch:=s.watch.emit signals}

def step (socket : Socket) (s : Hookup) (move : Move) : Hookup :=
  match move with
  | .others input => {s with daemon:=s.daemon.step input}
  | .accept env => s.accept socket env
  | .deliver => s.deliver socket
  | .watchdog => s.say s.watch.client.subscribeWatchdog
  | .heartbeat => s.say s.watch.client.heartbeatTimer
  | .respond id response => s.say (s.watch.client.sendResponse id response)
  | .cancel id => s.say (s.watch.client.sendCancel id)

-- The client stays connected, and between its first two messages, which it
-- writes together, the daemon does nothing else.
def enabled (socket : Socket) (s : Hookup) (move : Move) : Prop :=
  match move with
  | .others input =>
    s.daemon.allows input.event ∧ ¬input.event.concerns socket ∧ s.handled ≠ 1 ∧ s.daemon.Unissued input.env.uuid
  | .accept env => s.watch.outbox.isEmpty = false ∧ s.daemon.Unissued env.uuid
  | .deliver => (s.incoming socket).isEmpty = false
  | .watchdog | .heartbeat | .respond .. | .cancel _ => True

instance (socket : Socket) (s : Hookup) : (move : Move) → Decidable (s.enabled socket move)
  | .others _ => inferInstanceAs (Decidable (_ ∧ _ ∧ _ ∧ _))
  | .accept _ => inferInstanceAs (Decidable (_ ∧ _))
  | .deliver => inferInstanceAs (Decidable (_ = false))
  | .watchdog | .heartbeat | .respond .. | .cancel _ => isTrue trivial

def registers (json : QJsonObject) : Prop := (json.value (text "type")).toString = text "ui.register"

instance (json : QJsonObject) : Decidable (registers json) := inferInstanceAs (Decidable (_ = _))

def strands (socket : Socket) (s : Hookup) (move : Move) : Prop :=
  match move with
  | .accept env => (∃ json ∈ s.watch.outbox.head?, registers json) ∧ ({s.daemon with env} : Daemon).Strands socket
  | _ => False

instance (socket : Socket) (s : Hookup) : (move : Move) → Decidable (s.strands socket move)
  | .accept _ => inferInstanceAs (Decidable (_ ∧ _))
  | .others _ | .deliver | .watchdog | .heartbeat | .respond .. | .cancel _ => isFalse id

end Hookup

def hookup (d : Daemon) (env : Env) (peerPid : Pid) (c : FallbackClient) : Machine Hookup Move where
  initial := {daemon := d.step ⟨env,.connected peerPid⟩,watch := .joined c}
  enabled := Hookup.enabled d.nextSocket
  step := Hookup.step d.nextSocket

instance (d : Daemon) (env : Env) (peerPid : Pid) (c : FallbackClient) (s : Hookup) (move : Move) :
    Decidable ((hookup d env peerPid c).enabled s move) := inferInstanceAs (Decidable (s.enabled d.nextSocket move))

instance (d : Daemon) (env : Env) (peerPid : Pid) (c : FallbackClient) (moves : List Move) :
    Decidable ((hookup d env peerPid c).Admits moves) :=
  inferInstanceAs (Decidable (Machine.Every _ (hookup d env peerPid c).enabled moves))

end BbAuth
