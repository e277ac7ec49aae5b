import BbAuth.Deeds
import BbAuth.Library.Mailbox

open Library
namespace BbAuth

-- What the event queue serves: an event that is routed, a next request, and the
-- end of a connection.
inductive QueueUse (Event : Type) where
  | emitted (event : Event)
  | next (socket : Socket)
  | disconnected (socket : Socket)

namespace QueueUse

variable {Event : Type}

def event : QueueUse Event → Option Event
  | .emitted event => some event
  | _ => none

def request : QueueUse Event → Option Socket
  | .next socket => some socket
  | _ => none

def visit : QueueUse Event → Visit Event Socket
  | .emitted event => .post event
  | .next socket => .ask socket
  | .disconnected socket => .leave (fun waiter => waiter = socket)

end QueueUse

namespace EventQueue

variable {Event : Type} {maxSize : Nat}

-- The calls of route, handleNext and onClientDisconnected, with the events they
-- hand out.
def serve (queue : EventQueue Event) : QueueUse Event → List (Socket × Event) × EventQueue Event
  | .emitted event => (queue.enqueue event).drainToWaiters
  | .next socket =>
    match queue.takeNext with
    | (none,queue) => ([],queue.subscribeNext socket)
    | (some event,queue) => ([(socket,event)],queue)
  | .disconnected socket => ([],queue.removeWaiter socket)

structure Office (Event : Type) where
  queue : EventQueue Event
  handedOut : List (Socket × Event) := []

def Office.after (office : Office Event) (use : QueueUse Event) : Office Event :=
  let (sent,queue) := office.queue.serve use
  ⟨queue,office.handedOut ++ sent⟩

def office (maxSize : Nat) (uses : List (QueueUse Event)) : Office Event := uses.foldl Office.after {queue := {maxSize}}

-- The same history of a mailbox, in which events and requests are numbered.
def account (maxSize : Nat) (uses : List (QueueUse Event)) : Mailbox Event Socket :=
  Mailbox.run maxSize (uses.map QueueUse.visit)

structure Mirrors (maxSize : Nat) (s : Office Event) (m : Mailbox Event Socket) : Prop where
  size : s.queue.maxSize = maxSize
  events : s.queue.eventQueue = m.letters.map Prod.fst
  waiters : s.queue.nextWaiters = m.takers.map Prod.fst
  sent : s.handedOut = m.handed.map (fun hand => (hand.1.1,hand.2.1))

theorem drain_nobody (events : List Event) : drain [] events = ([],[],events) := by
  cases events <;> rfl

theorem drain_nothing (waiters : List Socket) : drain waiters ([] : List Event) = ([],waiters,[]) := by
  cases waiters <;> rfl

theorem mirrors_emitted {s : Office Event} {m : Mailbox Event Socket} (event : Event)
    (orderly : Mailbox.Orderly maxSize m) (mirrors : Mirrors maxSize s m) :
    Mirrors maxSize (s.after (.emitted event)) (m.post maxSize event) := by
  obtain ⟨⟨size,queue,waiters⟩,handedOut⟩ := s
  obtain ⟨rfl,events,waiting,sent⟩ := mirrors
  simp only at events waiting sent
  subst events waiting sent
  unfold Office.after serve drainToWaiters enqueue Mailbox.post
  simp only
  cases there : m.takers with
  | cons taker rest =>
    have nothing : m.letters = [] := orderly.apart.resolve_right (there ▸ List.cons_ne_nil taker rest)
    have kept : (if ([] : List Event).length ≥ size then ([] : List Event).drop 1 else []) = [] := by
      split <;> rfl
    simp only [nothing,List.map_nil,List.map_cons,kept,List.nil_append,drain,drain_nothing]
    exact ⟨rfl,rfl,rfl,by simp⟩
  | nil =>
    simp only [List.map_nil,drain_nobody,List.length_map,List.append_nil]
    split
    · next full =>
      rw [if_neg (Nat.not_lt.mpr full)]
      exact ⟨rfl,by simp,by simp,rfl⟩
    · next room =>
      rw [if_pos (Nat.lt_of_not_le room)]
      exact ⟨rfl,by simp,by simp,rfl⟩

theorem mirrors_next {s : Office Event} {m : Mailbox Event Socket} (socket : Socket)
    (mirrors : Mirrors maxSize s m) : Mirrors maxSize (s.after (.next socket)) (m.ask socket) := by
  obtain ⟨⟨size,queue,waiters⟩,handedOut⟩ := s
  obtain ⟨rfl,events,waiting,sent⟩ := mirrors
  simp only at events waiting sent
  subst events waiting sent
  unfold Office.after serve takeNext Mailbox.ask
  simp only
  cases there : m.letters with
  | cons letter rest => exact ⟨rfl,rfl,rfl,by simp⟩
  | nil => exact ⟨rfl,by simp [subscribeNext],by simp [subscribeNext],by simp⟩

theorem mirrors_disconnected {s : Office Event} {m : Mailbox Event Socket} (socket : Socket)
    (mirrors : Mirrors maxSize s m) :
    Mirrors maxSize (s.after (.disconnected socket)) (m.leave (fun waiter => waiter = socket)) := by
  obtain ⟨size,events,waiters,sent⟩ := mirrors
  refine ⟨size,events,?_,(List.append_nil _).trans sent⟩
  change s.queue.nextWaiters.filter _ = (m.takers.filter _).map Prod.fst
  rw [waiters,List.filter_map]
  congr 1
  apply List.filter_congr
  intro taker _
  simp

theorem mirrors_run (positive : 0 < maxSize) (uses : List (QueueUse Event)) :
    Mirrors maxSize (office maxSize uses) (account maxSize uses) := by
  induction uses using List.reverseRecOn with
  | nil => exact ⟨rfl,rfl,rfl,rfl⟩
  | append_singleton before use ih =>
    have orderly := Mailbox.run_orderly positive (before.map QueueUse.visit)
    unfold office account Mailbox.run
    rw [List.map_append,List.foldl_append,List.foldl_append]
    cases use with
    | emitted event => exact mirrors_emitted event orderly ih
    | next socket => exact mirrors_next socket ih
    | disconnected socket => exact mirrors_disconnected socket ih

theorem account_asked (maxSize : Nat) (uses : List (QueueUse Event)) :
    (account maxSize uses).posted = uses.filterMap QueueUse.event ∧
    (account maxSize uses).asked = uses.filterMap QueueUse.request := by
  induction uses using List.reverseRecOn with
  | nil => exact ⟨rfl,rfl⟩
  | append_singleton before use ih =>
    obtain ⟨posted,asked⟩ := ih
    have stepped : account maxSize (before ++ [use]) = (account maxSize before).visit maxSize use.visit := by
      unfold account Mailbox.run
      rw [List.map_append,List.foldl_append]
      rfl
    rw [stepped,List.filterMap_append,List.filterMap_append,← posted,← asked]
    cases use with
    | emitted event =>
      simp only [QueueUse.visit,Mailbox.visit,Mailbox.post]
      split
      · simp [QueueUse.event,QueueUse.request]
      · split <;> simp [QueueUse.event,QueueUse.request]
    | next socket =>
      simp only [QueueUse.visit,Mailbox.visit,Mailbox.ask]
      split <;> simp [QueueUse.event,QueueUse.request]
    | disconnected socket => simp [QueueUse.visit,Mailbox.visit,Mailbox.leave,QueueUse.event,QueueUse.request]

-- Neither lost, duplicated nor reordered. Every request and every event has its
-- number in the order of arrival, and `account` tells which event answered which
-- request.
structure Orderly (maxSize : Nat) (uses : List (QueueUse Event)) : Prop where
  apart : (office maxSize uses).queue.eventQueue = [] ∨ (office maxSize uses).queue.nextWaiters = []
  handedOut : (office maxSize uses).handedOut = (account maxSize uses).handed.map (fun hand => (hand.1.1,hand.2.1))
  queued : (office maxSize uses).queue.eventQueue = (account maxSize uses).letters.map Prod.fst
  waiting : (office maxSize uses).queue.nextWaiters = (account maxSize uses).takers.map Prod.fst
  events : (account maxSize uses).handed.map Prod.snd ++ (account maxSize uses).letters =
    (uses.filterMap QueueUse.event).zipIdx.filter (fun event => event.2 ∉ (account maxSize uses).dropped)
  dropped : ∀ number, number ∈ (account maxSize uses).dropped ↔
    ∃ before event after oldest rest, uses = before ++ .emitted event :: after ∧
      (office maxSize before).queue.eventQueue.length = maxSize ∧
      (account maxSize before).letters = oldest :: rest ∧ oldest.2 = number
  requests : (account maxSize uses).handed.map Prod.fst ++ (account maxSize uses).takers =
    (uses.filterMap QueueUse.request).zipIdx.filter (fun request => request.2 ∉ (account maxSize uses).gone)
  gone : ∀ number, number ∈ (account maxSize uses).gone ↔
    ∃ before socket after, uses = before ++ .disconnected socket :: after ∧ (socket,number) ∈ (account maxSize before).takers
  once : ((account maxSize uses).handed.map (fun hand => hand.1.2)).Pairwise (· < ·)
  departed : ∀ before socket after, uses = before ++ .disconnected socket :: after →
    ∃ later, (account maxSize uses).handed = (account maxSize before).handed ++ later ∧
      ∀ hand ∈ later, hand.1.1 = socket → (before.filterMap QueueUse.request).length ≤ hand.1.2

theorem account_dropped (positive : 0 < maxSize) (uses : List (QueueUse Event)) (number : Nat) :
    number ∈ (account maxSize uses).dropped ↔
    ∃ before event after oldest rest, uses = before ++ .emitted event :: after ∧
      (office maxSize before).queue.eventQueue.length = maxSize ∧
      (account maxSize before).letters = oldest :: rest ∧ oldest.2 = number := by
  have length (before : List (QueueUse Event)) :
      (office maxSize before).queue.eventQueue.length = (account maxSize before).letters.length := by
    rw [(mirrors_run positive before).events,List.length_map]
  have orderly (before : List (QueueUse Event)) : Mailbox.Orderly maxSize (account maxSize before) :=
    Mailbox.run_orderly positive (before.map QueueUse.visit)
  have known := Mailbox.dropped_iff maxSize (uses.map QueueUse.visit) number
  constructor
  · intro gone
    obtain ⟨before,letter,after,oldest,rest,split,nobody,full,there,same⟩ := known.mp gone
    obtain ⟨first,others,rfl,rfl,posts⟩ := List.map_eq_append_iff.mp split
    obtain ⟨use,later,rfl,post,rfl⟩ := List.map_eq_cons_iff.mp posts
    cases use with
    | emitted event =>
      refine ⟨first,event,later,oldest,rest,rfl,?_,there,same⟩
      rw [length first]
      exact Nat.le_antisymm (orderly first).bounded full
    | next socket => cases post
    | disconnected socket => cases post
  · intro found
    obtain ⟨before,event,after,oldest,rest,split,full,there,same⟩ := found
    rw [length before] at full
    refine known.mpr ⟨before.map QueueUse.visit,event,after.map QueueUse.visit,oldest,rest,?_,?_,Nat.le_of_eq full.symm,there,same⟩
    · rw [split,List.map_append]
      rfl
    · exact (orderly before).apart.resolve_left (there ▸ List.cons_ne_nil oldest rest)

theorem account_gone (uses : List (QueueUse Event)) (number : Nat) :
    number ∈ (account maxSize uses).gone ↔
    ∃ before socket after, uses = before ++ .disconnected socket :: after ∧
      (socket,number) ∈ (account maxSize before).takers := by
  have known := Mailbox.gone_iff maxSize (uses.map QueueUse.visit) number
  constructor
  · intro gone
    obtain ⟨before,goes,after,taker,there,split,leaves,same⟩ := known.mp gone
    obtain ⟨first,others,rfl,rfl,left⟩ := List.map_eq_append_iff.mp split
    obtain ⟨use,later,rfl,leave,rfl⟩ := List.map_eq_cons_iff.mp left
    cases use with
    | emitted event => cases leave
    | next socket => cases leave
    | disconnected socket =>
      cases leave
      have named : taker = (socket,number) := Prod.ext (of_decide_eq_true leaves) same
      exact ⟨first,socket,later,rfl,named ▸ there⟩
  · intro found
    obtain ⟨before,socket,after,split,there⟩ := found
    refine known.mpr ⟨before.map QueueUse.visit,fun waiter => waiter = socket,after.map QueueUse.visit,(socket,number),
      there,?_,decide_eq_true rfl,rfl⟩
    rw [split,List.map_append]
    rfl

-- After every interleaving of emitted events, next requests and disconnects.
theorem next_queue_orderly (maxSize : Nat) (positive : 0 < maxSize) (uses : List (QueueUse Event)) : Orderly maxSize uses := by
  have mirrors := mirrors_run positive uses
  have orderly := Mailbox.run_orderly positive (uses.map QueueUse.visit)
  obtain ⟨posted,asked⟩ := account_asked maxSize uses
  have ordered := orderly.takers.ordered
  refine ⟨?_,mirrors.sent,mirrors.events,mirrors.waiters,?_,account_dropped positive uses,?_,account_gone uses,?_,?_⟩
  · rcases orderly.apart with nothing | nobody
    · refine .inl ?_
      rw [mirrors.events]
      exact congrArg _ nothing
    · refine .inr ?_
      rw [mirrors.waiters]
      exact congrArg _ nobody
  · rw [← posted]
    exact orderly.letters.kept
  · rw [← asked]
    exact orderly.takers.kept
  · rw [List.map_append,List.map_map] at ordered
    exact (List.pairwise_append.mp ordered).1
  · intro before socket after split
    obtain ⟨later,same,unserved⟩ := Mailbox.left_unserved maxSize (before.map QueueUse.visit)
      (after.map QueueUse.visit) (fun waiter : Socket => decide (waiter = socket))
    refine ⟨later,?_,?_⟩
    · rw [split]
      unfold account
      rw [List.map_append]
      exact same
    · intro hand present leaves
      rw [← (account_asked maxSize before).2]
      exact unserved hand present (decide_eq_true leaves)

-- Two requests wait, one of them in vain, and four events find nobody else.
def oneLeavesFourCome : List (QueueUse Nat) :=
  [.next 7,.next 8,.disconnected 7,.emitted 1,.emitted 2,.emitted 3,.emitted 4,.next 9]

theorem oneLeavesFourCome_orderly :
    (office 2 oneLeavesFourCome).handedOut = [(8,1),(9,3)] ∧ (office 2 oneLeavesFourCome).queue.eventQueue = [4] ∧
    Orderly 2 oneLeavesFourCome :=
  ⟨rfl,rfl,next_queue_orderly 2 (by decide) oneLeavesFourCome⟩

def afterAll (queue : EventQueue Event) (uses : List (QueueUse Event)) : EventQueue Event :=
  uses.foldl (fun queue use => (queue.serve use).2) queue

theorem afterAll_append (queue : EventQueue Event) (first second : List (QueueUse Event)) :
    queue.afterAll (first ++ second) = (queue.afterAll first).afterAll second := List.foldl_append

theorem office_queue (uses : List (QueueUse Event)) :
    (office maxSize uses).queue = ({maxSize} : EventQueue Event).afterAll uses := by
  induction uses using List.reverseRecOn with
  | nil => rfl
  | append_singleton before use ih =>
    unfold office
    rw [List.foldl_append,afterAll_append,← ih]
    rfl

end EventQueue

namespace Daemon

-- What of a step the queue is given before any event of the step.
def queueUse : Event → List (QueueUse SessionEvent)
  | .message socket type _ => if Agent.handlers.lookup type = some .next then [.next socket] else []
  | .disconnected socket => [.disconnected socket]
  | _ => []

theorem queueUse_eventless (event : Event) (use : QueueUse SessionEvent) (present : use ∈ queueUse event) :
    use.event = none := by
  unfold queueUse at present
  split at present
  · split at present
    · cases List.mem_singleton.mp present
      rfl
    · cases present
  · cases List.mem_singleton.mp present
    rfl
  · cases present

-- The queue is given `uses`, and then exactly the events that are emitted.
def Feeds (uses : List (QueueUse SessionEvent)) (d e : Daemon) : Prop :=
  ∃ events : List SessionEvent, e.trace.filterMap Effect.emission = events.reverse ++ d.trace.filterMap Effect.emission ∧
    e.eventQueue = d.eventQueue.afterAll (uses ++ events.map .emitted)

variable {d m e : Daemon} {uses : List (QueueUse SessionEvent)}

theorem feeds_silent (queue : e.eventQueue = d.eventQueue) (silent : Grown (fun effect => effect.emission = none) d.trace e.trace) :
    Feeds [] d e := ⟨[],silent.filterMap Effect.emission (fun _ quiet => quiet),queue⟩

theorem Feeds.trans (first : Feeds uses d m) (second : Feeds [] m e) : Feeds uses d e := by
  obtain ⟨before,heard,queue⟩ := first
  obtain ⟨after,said,later⟩ := second
  refine ⟨before ++ after,?_,?_⟩
  · rw [said,heard,List.reverse_append,List.append_assoc]
  · rw [List.nil_append] at later
    rw [later,queue,List.map_append,← List.append_assoc]
    exact (EventQueue.afterAll_append _ _ _).symm

theorem told_unemitted {effect : Effect} (told : effect.told) : effect.emission = none := by
  cases effect with
  | sent socket message => rfl
  | requested | emitted | submitted | fallbackRequested | fallbackLaunched | polkit => cases told

theorem queue_sendAll (d : Daemon) (messages : List (Socket × Message)) : (d.sendAll messages).eventQueue = d.eventQueue :=
  congrArg Front.eventQueue (sendAll_front d messages)

theorem feeds_sendAll (d : Daemon) (messages : List (Socket × Message)) : Feeds [] d (d.sendAll messages) :=
  feeds_silent (queue_sendAll d messages) ((told_sendAll d messages).imp (fun _ => told_unemitted))

theorem feeds_sendJson (d : Daemon) (socket : Socket) (message : Message) : Feeds [] d (d.sendJson socket message) :=
  feeds_sendAll d [(socket,message)]

theorem queue_refreshActiveProvider (d : Daemon) : d.refreshActiveProvider.eventQueue = d.eventQueue := by
  unfold refreshActiveProvider
  simp only
  split
  · exact queue_sendAll d.recomputeActiveProvider.2 _
  · rfl

theorem feeds_refreshActiveProvider (d : Daemon) : Feeds [] d d.refreshActiveProvider :=
  feeds_silent (queue_refreshActiveProvider d) ((told_refreshActiveProvider d).imp (fun _ => told_unemitted))

theorem feeds_emitSessionEvent (d : Daemon) (event : SessionEvent) : Feeds [] d (d.emitSessionEvent event) := by
  have logged : (d.emitSessionEvent event).trace.filterMap Effect.emission = event :: d.trace.filterMap Effect.emission := by
    rw [((told_emitSessionEvent d event).imp (fun _ => told_unemitted)).filterMap Effect.emission (fun _ quiet => quiet)]
    rfl
  refine ⟨[event],logged,?_⟩
  unfold emitSessionEvent
  simp only
  rw [queue_sendAll]
  rfl

theorem feeds_deed (deed : Deed d e) : Feeds [] d e := by
  have stored (store : SessionStore) (event : SessionEvent) : Feeds [] d ((d.withSessionStore store).emitSessionEvent event) :=
    feeds_emitSessionEvent (d.withSessionStore store) event
  have nothing : Feeds [] d d := feeds_silent rfl (.same rfl)
  cases deed with
  | quiet same aside => exact feeds_silent (congrArg Front.eventQueue same) (aside.imp (fun _ quiet => quiet.2))
  | created id source ctx =>
    unfold createSession
    simp only
    split
    · exact (stored _ _).trans (feeds_silent
        (congrArg Front.eventQueue (front_ensureFallbackUiRunning _ _))
        ((aside_ensureFallbackUiRunning _ _).imp (fun _ quiet => quiet.2)))
    · exact stored _ _
  | updated id change alike =>
    unfold emitUpdated
    split
    · exact nothing
    · exact stored _ _
  | counted id curRetry maxRetries =>
    unfold updateSessionPinentryRetry
    split
    · exact nothing
    · exact feeds_silent rfl (.same rfl)
  | closed id result =>
    unfold closeSession
    split
    · exact nothing
    · next event store _ =>
      have removed : Feeds [] d (d.withSessionStore store) := feeds_silent rfl (.same rfl)
      simp only
      apply Feeds.trans _ (feeds_emitSessionEvent _ _)
      split
      · exact removed.trans (feeds_refreshActiveProvider _)
      · exact removed
  | completed id success =>
    unfold onSessionComplete
    split
    · exact nothing
    · simp only
      split
      · exact (stored _ _).trans (feeds_refreshActiveProvider _)
      · exact stored _ _

theorem feeds_deeds (deeds : Deeds d e) : Feeds [] d e := by
  induction deeds with
  | refl => exact feeds_silent rfl (.same rfl)
  | tail _ deed ih => exact ih.trans (feeds_deed deed)

end Daemon

namespace Agent

open Daemon (Feeds feeds_silent feeds_sendAll feeds_sendJson feeds_refreshActiveProvider feeds_deeds)

theorem feeds_obliged (obliged : Obliged d e) : Feeds [] d e := by
  obtain ⟨m,messages,deeds,same⟩ := obliged
  rw [same]
  exact (feeds_deeds deeds).trans (feeds_sendAll m messages)

theorem feeds_handleNext (d : Daemon) (socket : Socket) : Feeds [.next socket] d (handleNext d socket) := by
  have queued (queue : EventQueue SessionEvent) (served : (d.eventQueue.serve (.next socket)).2 = queue) :
      Feeds [.next socket] d (d.withEventQueue queue) := ⟨[],rfl,served.symm⟩
  unfold handleNext
  cases taken : d.eventQueue.takeNext with
  | mk event queue =>
    cases event with
    | none => exact queued _ (by simp only [EventQueue.serve,taken])
    | some event => exact (queued queue (by simp only [EventQueue.serve,taken])).trans (feeds_sendJson _ _ _)

theorem feeds_handleSubscribe (d : Daemon) (socket : Socket) : Feeds [] d (handleSubscribe d socket) := by
  have listed : Feeds [] d {d with subscribers:=d.subscribers ++ [socket]} := feeds_silent rfl (.same rfl)
  unfold handleSubscribe
  apply Feeds.trans _ (feeds_sendJson _ _ _)
  split <;> split
  · exact feeds_sendAll d _
  · exact feeds_silent rfl (.same rfl)
  · exact listed.trans (feeds_sendAll _ _)
  · exact listed

theorem feeds_handleUIRegister (d : Daemon) (socket : Socket) (msg : QJsonObject) : Feeds [] d (handleUIRegister d socket msg) := by
  have elected (registry : ProviderRegistry) :
      Feeds [] d (d.nowMs.2.withProviderRegistry registry).recomputeActiveProvider.2 := feeds_silent rfl (.same rfl)
  unfold handleUIRegister
  simp only
  split
  · exact ((elected _).trans (feeds_sendJson _ _ _)).trans (feeds_sendAll _ _)
  · exact (elected _).trans (feeds_sendJson _ _ _)

theorem feeds_handleUIHeartbeat (d : Daemon) (socket : Socket) : Feeds [] d (handleUIHeartbeat d socket) := by
  have beat (registry : ProviderRegistry) : Feeds [] d (d.nowMs.2.withProviderRegistry registry) := feeds_silent rfl (.same rfl)
  unfold handleUIHeartbeat
  split
  · exact feeds_sendJson d _ _
  · exact ((beat _).trans (feeds_refreshActiveProvider _)).trans (feeds_sendJson _ _ _)

theorem feeds_handleUIUnregister (d : Daemon) (socket : Socket) : Feeds [] d (handleUIUnregister d socket) := by
  have left (registry : ProviderRegistry) : Feeds [] d (d.withProviderRegistry registry) := feeds_silent rfl (.same rfl)
  unfold handleUIUnregister
  split
  · exact feeds_sendJson d _ _
  · next registry _ =>
    have replied := ((left registry).trans (feeds_refreshActiveProvider _)).trans (feeds_sendJson _ socket (.ok none))
    exact replied.trans (feeds_deeds (deeds_fallback _ _))

theorem feeds_dispatch (d : Daemon) (socket : Socket) (handler : Handler) (msg : QJsonObject) :
    Feeds (if handler = .next then [.next socket] else []) d (dispatch d socket handler msg) := by
  cases serving : handler.serving with
  | true =>
    have other : handler ≠ .next := by
      rintro rfl
      cases serving
    rw [if_neg other]
    exact feeds_obliged (dispatch_obliged d socket handler msg serving)
  | false =>
    cases handler with
    | subscribe => exact feeds_handleSubscribe d socket
    | next => exact feeds_handleNext d socket
    | uiRegister => exact feeds_handleUIRegister d socket msg
    | uiHeartbeat => exact feeds_handleUIHeartbeat d socket
    | uiUnregister => exact feeds_handleUIUnregister d socket
    | ping | keyringRequest | pinentryRequest | pinentryResult | respond | cancel => cases serving

theorem feeds_forgetProvider (d : Daemon) (socket : Socket) :
    Feeds [.disconnected socket] d (forgetProvider d socket) := by
  unfold forgetProvider
  simp only
  split
  · have elected := (Daemon.told_refreshActiveProvider (Daemon.withProviderRegistry {d with subscribers:=d.subscribers.erase socket}
      (d.providerRegistry.removeSocket socket).2)).imp (fun _ => Daemon.told_unemitted)
    refine ⟨[],elected.filterMap Effect.emission (fun _ quiet => quiet),?_⟩
    change EventQueue.removeWaiter (Daemon.refreshActiveProvider _).eventQueue socket = _
    rw [Daemon.queue_refreshActiveProvider]
    rfl
  · exact ⟨[],rfl,rfl⟩

end Agent

namespace Daemon

variable {d : Daemon}

theorem setSocketState_queue (d : Daemon) (socket : Socket) (state : LocalSocketState) :
    (d.setSocketState socket state).eventQueue = d.eventQueue ∧ (d.setSocketState socket state).trace = d.trace := by
  unfold setSocketState
  split
  · exact ⟨rfl,rfl⟩
  · exact ⟨rfl,rfl⟩

theorem feeds_disconnect (d : Daemon) (socket : Socket) : Feeds [.disconnected socket] d (d.disconnect socket) := by
  obtain ⟨queue,trace⟩ := setSocketState_queue d socket .unconnected
  have left := Agent.feeds_forgetProvider (d.setSocketState socket .unconnected) socket
  unfold Feeds at left
  rw [queue,trace] at left
  have closed := feeds_deeds (Agent.deeds_onClientDisconnected (d.setSocketState socket .unconnected) socket)
  have deleted (e : Daemon) : Feeds [] e (e.deleteSocket socket) := feeds_silent rfl (.same rfl)
  exact (Feeds.trans left closed).trans (deleted _)

theorem step_feeds (d : Daemon) (input : Input) : Feeds (queueUse input.event) d (daemon.step d input) := by
  change Feeds (queueUse input.event) {d with env:=input.env} (({d with env:=input.env} : Daemon).handle input.event)
  generalize ({d with env:=input.env} : Daemon) = d
  cases input.event with
  | connected peerPid => exact feeds_silent rfl (.same rfl)
  | socketState socket state =>
    obtain ⟨queue,trace⟩ := setSocketState_queue d socket state
    exact feeds_silent queue (.same trace)
  | message socket type msg =>
    change Feeds (if Agent.handlers.lookup type = some .next then [.next socket] else []) _ (Agent.handleMessage _ socket type msg)
    unfold Agent.handleMessage
    cases named : Agent.handlers.lookup type with
    | none => exact feeds_sendJson _ _ _
    | some handler =>
      simp only [Option.some.injEq]
      exact Agent.feeds_dispatch _ socket handler msg
  | disconnected socket => exact feeds_disconnect d socket
  | initiateAuthentication actionId message iconName details cookie identities =>
    exact feeds_deeds (PolkitListener.deeds_initiateAuthentication _ _ _ _ _ _ _)
  | polkitSignal session signal => exact feeds_deeds (PolkitListener.strides_deeds (PolkitListener.strides_signal _ _ _))
  | cancelAuthentication => exact feeds_deeds (PolkitListener.strides_deeds (PolkitListener.strides_cancelAuthentication _))
  | timeout timer => exact feeds_deeds (PinentryManager.deeds_timeout _ timer)
  | maintenance => exact (feeds_refreshActiveProvider _).trans (feeds_deeds (Agent.deeds_fallback _ _))

-- The daemon's queue is an office of 256 events that serves the next requests
-- and the disconnects the daemon was given, and the events it emitted.
theorem run_feeds (inputs : List Input) :
    ∃ uses, (daemon.run inputs).eventQueue = (EventQueue.office 256 uses).queue ∧
      uses.filterMap QueueUse.event = ((daemon.run inputs).trace.filterMap Effect.emission).reverse ∧
      uses.filter (fun use => use.event.isNone) = inputs.flatMap (fun input => queueUse input.event) := by
  induction inputs using List.reverseRecOn with
  | nil => exact ⟨[],rfl,rfl,rfl⟩
  | append_singleton before input ih =>
    obtain ⟨uses,queue,emitted,given⟩ := ih
    obtain ⟨events,heard,later⟩ := step_feeds (daemon.run before) input
    have stepped : daemon.run (before ++ [input]) = daemon.step (daemon.run before) input := Machine.runFrom_append _ _ _
    have asks := queueUse_eventless input.event
    have all : (events.map QueueUse.emitted).filterMap QueueUse.event = events := by
      rw [List.filterMap_map]
      exact List.filterMap_some
    have none : (events.map QueueUse.emitted).filter (fun use => use.event.isNone) = [] := by
      simp [List.filter_map,QueueUse.event]
    refine ⟨uses ++ (queueUse input.event ++ events.map .emitted),?_,?_,?_⟩
    · rw [stepped,later,queue,EventQueue.office_queue,EventQueue.office_queue,← EventQueue.afterAll_append]
    · rw [stepped,heard,List.reverse_append,List.reverse_reverse,← emitted,List.filterMap_append,List.filterMap_append,
        List.filterMap_eq_nil_iff.mpr asks,all,List.nil_append]
    · rw [List.filter_append,List.filter_append,none,List.append_nil,given,List.flatMap_append,List.flatMap_singleton,
        List.filter_eq_self.mpr (fun use present => Option.isNone_iff_eq_none.mpr (asks use present))]

end Daemon

end BbAuth
