import BbAuth.FallbackClient
import BbAuth.Hearing

open Library
namespace BbAuth

-- A connected client with the sessions it announced since it last became
-- active and did not report closed, and the messages it wrote that the daemon
-- did not handle yet.
structure Watch where
  client : FallbackClient
  shown : Set QString := ∅
  outbox : List QJsonObject := []

namespace Watch

variable {w : Watch} {id : QString} {message : Message} {messages : List Message}

def emitted (w : Watch) (signal : ClientSignal) : Watch :=
  match signal with
  | .wrote json => {w with outbox:=w.outbox ++ [json]}
  | .providerStateChanged true => {w with shown:=∅}
  | .sessionCreated event => {w with shown:=insert (event.value (text "id")).toString w.shown}
  | .sessionClosed event => {w with shown:=w.shown \ {(event.value (text "id")).toString}}
  | _ => w

def emit (w : Watch) (signals : List ClientSignal) : Watch := signals.foldl emitted w

def deliver (w : Watch) (message : Message) : Watch :=
  let (client,signals) := w.client.handleMessage message.json
  ({w with client} : Watch).emit signals

def deliverAll (w : Watch) (messages : List Message) : Watch := messages.foldl deliver w

def joined (c : FallbackClient) : Watch := ({client := c.onConnected.1} : Watch).emit c.onConnected.2

-- The belief of a client that is connected and registered. Only when it turns
-- true it forgets what it announced, and subscribes once more.
def believe (w : Watch) (active : Bool) : Watch where
  client := {w.client with providerActive:=active}
  shown := if active && !w.client.providerActive then ∅ else w.shown
  outbox := w.outbox ++ if active && !w.client.providerActive then [FallbackClient.subscribeJson] else []

theorem deliverAll_append (w : Watch) (first second : List Message) :
    w.deliverAll (first ++ second) = (w.deliverAll first).deliverAll second := List.foldl_append

theorem emit_append (w : Watch) (first second : List ClientSignal) :
    w.emit (first ++ second) = (w.emit first).emit second := List.foldl_append

theorem emit_client (w : Watch) (signals : List ClientSignal) : (w.emit signals).client = w.client := by
  induction signals generalizing w with
  | nil => rfl
  | cons signal rest ih =>
    refine (ih (w.emitted signal)).trans ?_
    cases signal with
    | providerStateChanged active => cases active <;> rfl
    | _ => rfl

theorem emit_outbox (w : Watch) (signals : List ClientSignal) (present : json ∈ (w.emit signals).outbox) :
    json ∈ w.outbox ∨ .wrote json ∈ signals := by
  induction signals generalizing w with
  | nil => exact .inl present
  | cons signal rest ih =>
    rcases ih (w.emitted signal) present with now | later
    · cases signal with
      | wrote written =>
        rcases List.mem_append.mp now with old | new
        · exact .inl old
        · rw [List.mem_singleton.mp new]
          exact .inr List.mem_cons_self
      | providerStateChanged active => cases active <;> exact .inl now
      | _ => exact .inl now
    · exact .inr (List.mem_cons_of_mem _ later)

theorem emit_note (w : Watch) (signals : List ClientSignal) (status : QString) :
    w.emit (signals ++ [.statusMessage status]) = w.emit signals := emit_append w signals _

theorem emit_changed (w : Watch) (active : Bool) (connected : w.client.connected = true)
    (registered : w.client.registered = true) :
    ({w with client:={w.client with providerActive:=active}} : Watch).emit (w.client.changeSignals active) =
      w.believe active := by
  unfold FallbackClient.changeSignals FallbackClient.subscribe FallbackClient.sendJson believe
  rw [connected,registered]
  cases active <;> cases known : w.client.providerActive <;> simp [emit,emitted]

theorem emit_frame (w : Watch) (signals : List ClientSignal) :
    ∃ more, ∀ outbox, ({w with outbox} : Watch).emit signals = {w.emit signals with outbox:=outbox ++ more} := by
  induction signals generalizing w with
  | nil => exact ⟨[],fun outbox => by rw [List.append_nil]; rfl⟩
  | cons signal rest ih =>
    obtain ⟨more,later⟩ := ih (w.emitted signal)
    have first : ∃ now, ∀ outbox, ({w with outbox} : Watch).emitted signal =
        {w.emitted signal with outbox:=outbox ++ now} := by
      cases signal with
      | wrote json => exact ⟨[json],fun _ => rfl⟩
      | providerStateChanged active =>
        cases active <;> exact ⟨[],fun outbox => by rw [List.append_nil]; rfl⟩
      | _ => exact ⟨[],fun outbox => by rw [List.append_nil]; rfl⟩
    obtain ⟨now,first⟩ := first
    refine ⟨now ++ more,fun outbox => ?_⟩
    change (({w with outbox} : Watch).emitted signal).emit rest = _
    rw [first,later,List.append_assoc]
    rfl

theorem deliver_frame (w : Watch) (message : Message) :
    ∃ more, ∀ outbox, ({w with outbox} : Watch).deliver message = {w.deliver message with outbox:=outbox ++ more} :=
  emit_frame {w with client:=(w.client.handleMessage message.json).1} (w.client.handleMessage message.json).2

theorem deliverAll_frame (w : Watch) (messages : List Message) :
    ∃ more, ∀ outbox, ({w with outbox} : Watch).deliverAll messages =
      {w.deliverAll messages with outbox:=outbox ++ more} := by
  induction messages generalizing w with
  | nil => exact ⟨[],fun outbox => by rw [List.append_nil]; rfl⟩
  | cons message rest ih =>
    obtain ⟨now,first⟩ := deliver_frame w message
    obtain ⟨more,later⟩ := ih (w.deliver message)
    refine ⟨now ++ more,fun outbox => ?_⟩
    change (({w with outbox} : Watch).deliver message).deliverAll rest = _
    rw [first,later,List.append_assoc]
    rfl

-- Messages that a client reads and does nothing about.
inductive Ignored : Message → Prop where
  | ok (active : Option Bool) : Ignored (.ok active)
  | response (kind : RequestKind) (id : QString) (answer : Answer) : Ignored (.response kind id answer)
  | error {text : QString} (other : text ≠ notActive) : Ignored (.error text)

theorem deliver_ignored (w : Watch) (ignored : Ignored message) : w.deliver message = w := by
  unfold deliver
  cases ignored with
  | ok active => rw [FallbackClient.handle_ok]; rfl
  | response kind id answer => rw [FallbackClient.handle_response]; rfl
  | error other => rw [FallbackClient.handle_error w.client other]; rfl

theorem deliverAll_ignored (w : Watch) (ignored : ∀ message ∈ messages, Ignored message) : w.deliverAll messages = w := by
  induction messages with
  | nil => rfl
  | cons message rest ih =>
    change (w.deliver message).deliverAll rest = w
    rw [deliver_ignored w (ignored message List.mem_cons_self)]
    exact ih (fun other present => ignored other (List.mem_cons_of_mem _ present))

-- A client that registered, and holds nothing back that it was told before.
structure Settled (w : Watch) : Prop where
  connected : w.client.connected = true
  registered : w.client.registered = true
  named : w.client.providerId ≠ []
  clear : w.client.clearPending = w.client

theorem settled_client {u : Watch} (same : u.client = w.client) (settled : Settled w) : Settled u :=
  ⟨same ▸ settled.connected,same ▸ settled.registered,same ▸ settled.named,same ▸ settled.clear⟩

theorem believe_settled (active : Bool) (settled : Settled w) : Settled (w.believe active) := by
  refine ⟨settled.connected,settled.registered,settled.named,?_⟩
  have cleared := settled.clear
  exact congrArg (fun c => ({c with providerActive:=active} : FallbackClient)) cleared

theorem deliver_vacant (settled : Settled w) : w.deliver (.uiActive false none) = w.believe true := by
  have clear : ({w.client with providerActive:=true} : FallbackClient).clearPending =
      {w.client with providerActive:=true} := (believe_settled true settled).clear
  unfold deliver
  rw [FallbackClient.handle_vacant w.client settled.registered,clear]
  exact emit_changed w true settled.connected settled.registered

theorem deliver_occupied (provider : ProviderJson) (settled : Settled w) :
    w.deliver (.uiActive true (some provider)) = w.believe (decide (provider.id = w.client.providerId)) := by
  unfold deliver
  rw [FallbackClient.handle_occupied w.client provider settled.registered settled.named]
  exact emit_changed w _ settled.connected settled.registered

theorem deliver_refused (settled : Settled w) : w.deliver (.error notActive) = w.believe false := by
  unfold deliver
  rw [notActive,FallbackClient.handle_refused w.client]
  simp only
  rw [emit_note]
  exact emit_changed w false settled.connected settled.registered

theorem deliver_subscribed (w : Watch) (count : Nat) :
    w.deliver (.subscribed count none) = {w with client:={w.client with subscribed:=true}} := by
  unfold deliver
  rw [FallbackClient.handle_subscribed]
  rfl

theorem deliver_subscribed_active (count : Nat) (active : Bool) (settled : Settled w) :
    w.deliver (.subscribed count (some active)) =
      ({w with client:={w.client with subscribed:=true}} : Watch).believe active := by
  unfold deliver
  rw [FallbackClient.handle_subscribed_active]
  exact emit_changed {w with client:={w.client with subscribed:=true}} active settled.connected settled.registered

theorem subscribed_settled (settled : Settled w) : Settled {w with client:={w.client with subscribed:=true}} :=
  ⟨settled.connected,settled.registered,settled.named,
    congrArg (fun c => ({c with subscribed:=true} : FallbackClient)) settled.clear⟩

def registeredAs (w : Watch) (id : QString) : Watch :=
  {w with client:={w.client with registered:=true,providerId:=id}.clearPending}

theorem registeredAs_settled (connected : w.client.connected = true) (named : id ≠ []) : Settled (w.registeredAs id) :=
  ⟨connected,rfl,named,rfl⟩

theorem deliver_registered (w : Watch) (id : QString) (active : Bool) (priority : Int) (connected : w.client.connected = true) :
    w.deliver (.uiRegistered id active priority) = (w.registeredAs id).believe active := by
  unfold deliver
  rw [FallbackClient.handle_registered]
  exact emit_changed (w.registeredAs id) active connected rfl

theorem deliver_event (event : SessionEvent) (active : w.client.providerActive = true) :
    w.deliver (.event event) = {w with shown:=event.enter w.shown} := by
  unfold deliver
  rw [FallbackClient.handle_event]
  unfold FallbackClient.onSession
  rw [active]
  cases event <;> rfl

theorem deliver_unheeded (event : SessionEvent) (inactive : w.client.providerActive = false)
    (registered : w.client.registered = true) : w.deliver (.event event) = w := by
  unfold deliver
  rw [FallbackClient.handle_event]
  unfold FallbackClient.onSession
  rw [inactive,registered]
  rfl

end Watch

end BbAuth
