import BbAuth.Hearing
import BbAuth.RequestTally

open Library
namespace BbAuth

-- What a message to a client is to a program that waits for the reply to what it
-- sent. News are the messages that no request asks for.
inductive Form where
  | pong
  | verdict
  | event
  | response (kind : RequestKind) (cookie : QString)
  | news
  deriving DecidableEq, Repr

def Message.form : Message → Form
  | .error _ | .ok _ => .verdict
  | .pong _ => .pong
  | .response kind id _ => .response kind id
  | .event _ => .event
  | .subscribed .. | .uiRegistered .. | .uiActive .. => .news

-- The form of the reply that a message calls for.
def Agent.Handler.call (handler : Agent.Handler) (env : Env) (msg : QJsonObject) : Form :=
  match handler with
  | .ping => .pong
  | .next => .event
  | .keyringRequest => .response .keyring (env.effectiveCookie msg)
  | .pinentryRequest => .response .pinentry (env.effectiveCookie msg)
  | .pinentryResult | .uiHeartbeat | .uiUnregister | .respond | .cancel => .verdict
  | .subscribe | .uiRegister => .news

def Agent.call (env : Env) (type : QString) (msg : QJsonObject) : Form :=
  match Agent.handlers.lookup type with
  | none => .verdict
  | some handler => handler.call env msg

def Input.call (socket : Socket) (input : Input) : Option Form :=
  match input.event with
  | .message speaker type msg => if speaker = socket then some (Agent.call input.env type msg) else none
  | _ => none

def Input.enlists (socket : Socket) (input : Input) : Prop := input.call socket = some .news

instance (socket : Socket) (input : Input) : Decidable (input.enlists socket) := inferInstanceAs (Decidable (_ = _))

def formsTo (socket : Socket) (deliveries : List (Socket × Message)) : List Form :=
  (heardBy socket deliveries).map Message.form

theorem formsTo_append (socket : Socket) (newer older : List (Socket × Message)) :
    formsTo socket (newer ++ older) = formsTo socket older ++ formsTo socket newer := by
  unfold formsTo
  rw [heardBy_append,List.map_append]

def payments (socket : Socket) (f : Form) (messages : List (Socket × Message)) : Nat :=
  messages.countP (fun message => message.1 = socket ∧ message.2.form = f)

theorem count_formsTo (socket : Socket) (f : Form) (deliveries : List (Socket × Message)) :
    (formsTo socket deliveries).count f = payments socket f deliveries := by
  unfold formsTo heardBy payments
  rw [List.map_reverse,List.count_reverse,List.map_map,List.count,List.countP_map,List.countP_filter]
  apply List.countP_congr
  intro message _
  simp [and_comm]

variable {socket speaker : Socket} {f : Form} {d e m : Daemon}

namespace Daemon

-- How many replies of a form a socket was sent or waits for in the event queue.
def due (d : Daemon) (socket : Socket) (f : Form) : Nat :=
  (formsTo socket d.front.deliveries).count f + if f = .event then d.eventQueue.nextWaiters.countP (· = socket) else 0

structure Apart (d : Daemon) (socket : Socket) : Prop where
  absent : d.providerRegistry.contains socket = false
  inactive : d.providerRegistry.activeProvider ≠ some socket
  silent : socket ∉ d.subscribers

-- On the way from d to e at most n more replies of the form became due.
def Pays (socket : Socket) (f : Form) (n : Nat) (d e : Daemon) : Prop :=
  d.Apart socket → e.Apart socket ∧ e.due socket f ≤ d.due socket f + n

theorem Pays.refl (d : Daemon) : Pays socket f 0 d d := fun apart => ⟨apart,Nat.le_refl _⟩

theorem Pays.trans (first : Pays socket f n d m) (second : Pays socket f k m e) : Pays socket f (n + k) d e := by
  intro apart
  obtain ⟨between,before⟩ := first apart
  obtain ⟨ends,after⟩ := second between
  exact ⟨ends,by omega⟩

theorem Pays.after (first : Pays socket f 0 d m) (second : Pays socket f n m e) : Pays socket f n d e := by
  have both := first.trans second
  rwa [Nat.zero_add] at both

theorem Pays.le (pays : Pays socket f n d e) (more : n ≤ k) : Pays socket f k d e := fun apart =>
  ⟨(pays apart).1,Nat.le_trans (pays apart).2 (Nat.add_le_add_left more _)⟩

theorem pays_front (same : e.front = d.front) : Pays socket f 0 d e := by
  intro apart
  have registry : e.providerRegistry = d.providerRegistry := congrArg Front.providerRegistry same
  have subscribers : e.subscribers = d.subscribers := congrArg Front.subscribers same
  have queue : e.eventQueue = d.eventQueue := congrArg Front.eventQueue same
  refine ⟨⟨registry ▸ apart.absent,registry ▸ apart.inactive,subscribers ▸ apart.silent⟩,?_⟩
  unfold due
  rw [same,queue]
  exact Nat.le_refl _

theorem pays_sendAll (d : Daemon) (messages : List (Socket × Message)) :
    Pays socket f (payments socket f messages) d (d.sendAll messages) := by
  intro apart
  have front := sendAll_front d messages
  refine ⟨⟨?_,?_,?_⟩,?_⟩
  · rw [registry_sendAll]
    exact apart.absent
  · rw [registry_sendAll]
    exact apart.inactive
  · rw [show (d.sendAll messages).subscribers = d.subscribers from congrArg Front.subscribers front]
    exact apart.silent
  · have delivered : (d.sendAll messages).front.deliveries =
        (messages.filter (fun message => d.isConnected message.1)).reverse ++ d.front.deliveries :=
      congrArg Front.deliveries front
    have told : payments socket f (messages.filter (fun message => d.isConnected message.1)).reverse ≤
        payments socket f messages := by
      unfold payments
      rw [List.countP_reverse]
      exact List.filter_sublist.countP_le
    unfold due
    rw [delivered,formsTo_append,List.count_append,count_formsTo socket f (List.reverse _),
      show (d.sendAll messages).eventQueue = d.eventQueue from congrArg Front.eventQueue front]
    omega

theorem pays_reply (d : Daemon) (speaker : Socket) (message : Message) :
    Pays socket f (if speaker = socket ∧ message.form = f then 1 else 0) d (d.sendJson speaker message) := by
  have sent : Pays socket f (payments socket f [(speaker,message)]) d (d.sendAll [(speaker,message)]) := pays_sendAll d _
  unfold payments at sent
  rw [List.countP_singleton] at sent
  simp only [decide_eq_true_eq] at sent
  exact sent

theorem direct_apart (apart : d.Apart socket) (event : SessionEvent) :
    ∀ sent ∈ EventRouter.direct SessionEvent.type d.providerRegistry event d.subscribers d.isValid, sent.1 ≠ socket := by
  intro sent present
  unfold EventRouter.direct at present
  split at present
  · split at present
    · cases present
    · next other leader =>
      split at present
      · cases List.mem_singleton.mp present
        intro same
        exact apart.inactive (leader.trans (congrArg some same))
      · cases present
  · obtain ⟨other,listed,rfl⟩ := List.mem_map.mp present
    intro same
    exact apart.silent (same ▸ (List.mem_filter.mp listed).1)

theorem drain_count {α : Type} (waiters : List Socket) (events : List α) (socket : Socket) :
    (EventQueue.drain waiters events).1.countP (fun sent => sent.1 = socket) +
      (EventQueue.drain waiters events).2.1.countP (· = socket) = waiters.countP (· = socket) := by
  induction waiters generalizing events with
  | nil => cases events <;> simp [EventQueue.drain]
  | cons waiter rest ih =>
    cases events with
    | nil => simp [EventQueue.drain]
    | cons event later =>
      simp only [EventQueue.drain,List.countP_cons]
      rw [← ih later,Nat.add_right_comm]

theorem payments_events (socket : Socket) (f : Form) (sends : List (Socket × SessionEvent)) :
    payments socket f (sends.map (fun sent => (sent.1,Message.event sent.2))) =
      if f = .event then sends.countP (fun sent => sent.1 = socket) else 0 := by
  unfold payments
  rw [List.countP_map]
  split
  · next same =>
    subst same
    apply List.countP_congr
    intro sent _
    simp [Message.form]
  · next other =>
    apply List.countP_eq_zero.mpr
    intro sent _ both
    exact other (of_decide_eq_true both).2.symm

theorem pays_emitSessionEvent (d : Daemon) (event : SessionEvent) : Pays socket f 0 d (d.emitSessionEvent event) := by
  intro apart
  let route := EventRouter.route SessionEvent.type d.providerRegistry d.eventQueue event d.subscribers d.isValid
  let logged := (d.log (.emitted event)).withEventQueue route.2
  let events := route.1.map (fun delivery => (delivery.1,Message.event delivery.2))
  have paid : Pays socket f (payments socket f events) logged (logged.sendAll events) := pays_sendAll logged events
  have sent := paid ⟨apart.absent,apart.inactive,apart.silent⟩
  refine ⟨sent.1,Nat.le_trans sent.2 ?_⟩
  have direct : (EventRouter.direct SessionEvent.type d.providerRegistry event d.subscribers d.isValid).countP
      (fun sent => sent.1 = socket) = 0 := by
    apply List.countP_eq_zero.mpr
    intro sent present same
    exact direct_apart apart event sent present (of_decide_eq_true same)
  have drained := drain_count d.eventQueue.nextWaiters (d.eventQueue.enqueue event).eventQueue socket
  have all : route.1.countP (fun sent => sent.1 = socket) =
      (EventQueue.drain d.eventQueue.nextWaiters (d.eventQueue.enqueue event).eventQueue).1.countP
        (fun sent => sent.1 = socket) := by
    have split : route.1 = _ ++ _ := rfl
    rw [split,List.countP_append,direct,Nat.zero_add]
    rfl
  have waiters : route.2.nextWaiters =
      (EventQueue.drain d.eventQueue.nextWaiters (d.eventQueue.enqueue event).eventQueue).2.1 := rfl
  rw [payments_events,all]
  unfold due
  rw [show logged.front.deliveries = d.front.deliveries from rfl,
    show logged.eventQueue.nextWaiters = route.2.nextWaiters from rfl,waiters]
  split
  · omega
  · omega

theorem pays_registry (d : Daemon) (registry : ProviderRegistry)
    (absent : d.providerRegistry.contains socket = false → registry.contains socket = false)
    (leader : registry.activeProvider = d.providerRegistry.activeProvider) :
    Pays socket f 0 d (d.withProviderRegistry registry) := fun apart =>
  ⟨⟨absent apart.absent,fun active => apart.inactive (leader.symm.trans active),apart.silent⟩,Nat.le_refl _⟩

theorem pays_recompute (d : Daemon) : Pays socket f 0 d d.recomputeActiveProvider.2 := by
  intro apart
  have settled := ProviderRegistry.recompute_settled d.providerRegistry d.nowMs.1 d.isConnected
  have absent : (d.providerRegistry.recomputeActiveProvider d.nowMs.1 d.isConnected).2.contains socket = false := by
    apply Bool.eq_false_iff.mpr
    intro present
    exact Bool.false_ne_true (apart.absent.symm.trans (ProviderRegistry.recompute_contains _ _ _ present))
  refine ⟨⟨absent,?_,apart.silent⟩,Nat.le_refl _⟩
  intro active
  exact Bool.false_ne_true (absent.symm.trans (settled.held socket active))

theorem pays_emitProviderStatus (d : Daemon) : Pays socket f 0 d d.emitProviderStatus := by
  intro apart
  unfold emitProviderStatus
  simp only
  apply (pays_sendAll d _).le _ apart
  apply Nat.le_of_eq
  apply List.countP_eq_zero.mpr
  intro message present both
  obtain ⟨other,listed,rfl⟩ := List.mem_map.mp present
  have same : other = socket := (of_decide_eq_true both).1
  subst same
  rcases List.mem_append.mp listed with registered | subscribed
  · have known := (Table.mem_keys _ _).mp (List.mem_filter.mp registered).1
    have absent := apart.absent
    unfold ProviderRegistry.contains at absent
    rw [known] at absent
    cases absent
  · exact apart.silent (List.mem_filter.mp subscribed).1

theorem pays_refresh (d : Daemon) : Pays socket f 0 d d.refreshActiveProvider := by
  unfold refreshActiveProvider
  simp only
  split
  · exact (pays_recompute d).after (pays_emitProviderStatus _)
  · exact pays_recompute d

theorem pays_withSessionStore (d : Daemon) (store : SessionStore) : Pays socket f 0 d (d.withSessionStore store) :=
  fun apart => ⟨⟨apart.absent,apart.inactive,apart.silent⟩,Nat.le_refl _⟩

theorem pays_stored (d : Daemon) (store : SessionStore) (event : SessionEvent) :
    Pays socket f 0 d ((d.withSessionStore store).emitSessionEvent event) :=
  (pays_withSessionStore d store).after (pays_emitSessionEvent _ event)

theorem pays_fallback (d : Daemon) (reason : QString) : Pays socket f 0 d (d.ensureFallbackUiRunning reason) :=
  pays_front (front_ensureFallbackUiRunning d reason)

theorem pays_closeSession (d : Daemon) (id : QString) (result : Result) : Pays socket f 0 d (d.closeSession id result) := by
  unfold closeSession
  split
  · exact .refl d
  · next event store closed =>
    simp only
    split
    · exact (pays_withSessionStore d store).after ((pays_refresh _).after (pays_emitSessionEvent _ _))
    · exact pays_stored d store event

theorem pays_onSessionComplete (d : Daemon) (id : QString) (success : Bool) :
    Pays socket f 0 d (d.onSessionComplete id success) := by
  unfold onSessionComplete
  split
  · exact .refl d
  · next event store closed =>
    simp only
    split
    · exact (pays_stored d store event).after (pays_refresh _)
    · exact pays_stored d store event

theorem deed_pays (deed : Deed d e) : Pays socket f 0 d e := by
  cases deed with
  | quiet same aside => exact pays_front same
  | created id source ctx =>
    unfold createSession
    simp only
    split
    · exact (pays_stored d _ _).after (pays_fallback _ _)
    · exact pays_stored d _ _
  | updated id change alike =>
    unfold emitUpdated
    split
    · exact .refl d
    · exact pays_stored d _ _
  | counted id curRetry maxRetries =>
    unfold updateSessionPinentryRetry
    split
    · exact .refl d
    · exact pays_withSessionStore d _
  | closed id result => exact pays_closeSession d id result
  | completed id success => exact pays_onSessionComplete d id success

theorem deeds_pay (deeds : Deeds d e) : Pays socket f 0 d e :=
  deeds.invariant (P := Pays socket f 0 d) (fun _ _ deed before => before.after (deed_pays deed)) (.refl d)

theorem served_pays (served : Served d speaker e) (other : ∀ kind cookie, f ≠ .response kind cookie) :
    Pays socket f (if speaker = socket ∧ f = .verdict then 1 else 0) d e := by
  have answered (m : Daemon) (requester : Socket) (kind : RequestKind) (cookie : QString) (answer : Answer) :
      Pays socket f 0 m (m.sendJson requester (.response kind cookie answer)) := by
    apply (pays_reply m requester _).le
    rw [if_neg (fun both => other kind cookie both.2.symm)]
  have acknowledged (m : Daemon) : Pays socket f (if speaker = socket ∧ f = .verdict then 1 else 0) m
      (m.sendJson speaker (.ok none)) := by
    apply (pays_reply m speaker (.ok none)).le
    simp only [Message.form,eq_comm (a := Form.verdict)]
    exact Nat.le_refl _
  cases served with
  | quietly deeds => exact (deeds_pay deeds).after (acknowledged _)
  | keyring deeds asked gone answer => exact (deeds_pay deeds).after ((answered _ _ _ _ _).after (acknowledged _))
  | pinentry deeds asked gone answer => exact (deeds_pay deeds).after ((answered _ _ _ _ _).after (acknowledged _))

end Daemon

end BbAuth
