import BbAuth.FallbackCalls
import BbAuth.RequestCalls
import BbAuth.SessionPicture

open Library
namespace BbAuth

variable {id : QString} {source : Source}

-- A session.created tells of a session that was opened, if with other counters.
def SessionEvent.announced (trace : List Effect) : SessionEvent → Prop
  | .created id source context =>
    ∃ first retry, .emitted (.created id source first) ∈ trace ∧ context = ContextJson.recount first retry
  | .updated .. | .closed .. => True

theorem SessionEvent.announced_mono {older newer : List Effect} (grown : ∀ event, .emitted event ∈ older → .emitted event ∈ newer)
    {event : SessionEvent} (told : event.announced older) : event.announced newer := by
  cases event with
  | created id source context =>
    obtain ⟨first,retry,present,same⟩ := told
    exact ⟨first,retry,grown _ present,same⟩
  | updated | closed => trivial

theorem SessionEvent.announced_emitted {trace : List Effect} {event : SessionEvent} (present : .emitted event ∈ trace) :
    event.announced trace := by
  cases event with
  | created id source context => exact ⟨context,none,present,rfl⟩
  | updated | closed => trivial

theorem ContextJson.recount_recount (json : ContextJson) (first second : Option (Int × Int)) :
    ∃ retry, (json.recount first).recount second = json.recount retry := by
  cases second with
  | none => exact ⟨first,rfl⟩
  | some second =>
    refine ⟨some second,?_⟩
    cases first <;> rfl

namespace Daemon

variable {backed : SessionEvent → Prop} {d e : Daemon} {event : SessionEvent}

theorem stored_announced (path : daemon.Reached d) (found : d.sessionStore.find id = some session) :
    session.toCreatedEvent.announced d.trace := by
  have pictured := reached_pictured path
  have ids : session.id = id := pictured.ids id session found
  have emitted : ∀ event ∈ d.core.emissions, .emitted event ∈ d.trace := by
    intro event present
    obtain ⟨effect,kept,emission⟩ := List.mem_filterMap.mp (List.mem_reverse.mp present)
    cases effect with
    | emitted event' =>
      cases emission
      exact List.mem_of_mem_filter kept
    | requested | sent | submitted | fallbackRequested | fallbackLaunched | polkit => cases emission
  have told : sessionTelling.listen (fun _ => none) d.core.emissions id = some session.shown := by
    rw [pictured.told]
    exact congrArg (Option.map Session.shown) found
  obtain ⟨first,retry,present,same⟩ := sessionTelling.listen_keeps
    (P := fun id shown => ∃ first retry, .created id shown.source first ∈ d.core.emissions ∧
      shown.context = ContextJson.recount first retry)
    (fun _ => none) d.core.emissions (fun _ _ => nofun) (by
      intro event present before shown known becomes
      cases event with
      | created id source context =>
        cases becomes
        exact ⟨context,none,present,rfl⟩
      | updated id prompt echo retry error info =>
        obtain ⟨old,held,rfl⟩ := Option.map_eq_some_iff.mp becomes
        obtain ⟨first,earlier,opened,same⟩ := known old held
        obtain ⟨counted,merged⟩ := first.recount_recount earlier retry
        exact ⟨first,counted,opened,by rw [← merged,← same]⟩
      | closed => cases becomes) id session.shown told
  subst ids
  exact ⟨first,retry,emitted _ present,same⟩

-- All that anybody was told or waits in the queue is backed.
structure Backed (backed : SessionEvent → Prop) (d : Daemon) : Prop where
  queued : ∀ event ∈ d.eventQueue.eventQueue, backed event
  sent : ∀ socket event, (socket,.event event) ∈ d.front.deliveries → backed event

def Backs (backed : SessionEvent → Prop) (d : Daemon) : Prop := ∀ event, .emitted event ∈ d.trace → backed event

theorem Backs.earlier (backs : Backs backed e) (grown : Grown (fun _ => True) d.trace e.trace) : Backs backed d := by
  obtain ⟨new,same,_⟩ := grown
  intro event present
  apply backs
  rw [same]
  exact List.mem_append_right _ present

theorem Backed.same (held : Backed backed d) (queue : e.eventQueue = d.eventQueue)
    (deliveries : e.front.deliveries = d.front.deliveries) : Backed backed e :=
  ⟨queue ▸ held.queued,deliveries ▸ held.sent⟩

theorem Backed.front (held : Backed backed d) (same : e.front = d.front) : Backed backed e :=
  held.same (congrArg Front.eventQueue same) (congrArg Front.deliveries same)

theorem backed_sendAll (held : Backed backed d) (messages : List (Socket × Message))
    (plain : ∀ socket event, (socket,.event event) ∈ messages → backed event) : Backed backed (d.sendAll messages) := by
  have front := sendAll_front d messages
  refine ⟨?_,?_⟩
  · rw [show (d.sendAll messages).eventQueue = d.eventQueue from congrArg Front.eventQueue front]
    exact held.queued
  · intro socket event present
    rw [front] at present
    rcases List.mem_append.mp present with new | old
    · exact plain socket event (List.mem_of_mem_filter (List.mem_reverse.mp new))
    · exact held.sent socket event old

theorem backed_sendJson (held : Backed backed d) (socket : Socket) (message : Message)
    (plain : ∀ event, message = .event event → backed event) : Backed backed (d.sendJson socket message) := by
  apply backed_sendAll held [(socket,message)]
  intro other event present
  cases List.mem_singleton.mp present
  exact plain event rfl

theorem backed_refreshActiveProvider (held : Backed backed d) : Backed backed d.refreshActiveProvider := by
  unfold refreshActiveProvider
  simp only
  split
  · refine backed_sendAll (d := d.recomputeActiveProvider.2) (held.same rfl rfl) _ ?_
    intro socket event present
    obtain ⟨_,_,same⟩ := List.mem_map.mp present
    cases same
  · exact held.same rfl rfl

theorem mem_drain {Event : Type} (waiters : List Socket) (events : List Event) :
    (∀ sent ∈ (EventQueue.drain waiters events).1, sent.2 ∈ events) ∧
      ∀ event ∈ (EventQueue.drain waiters events).2.2, event ∈ events := by
  induction waiters generalizing events with
  | nil => exact ⟨fun _ present => absurd present List.not_mem_nil,fun _ present => present⟩
  | cons socket rest ih =>
    cases events with
    | nil => exact ⟨fun _ present => absurd present List.not_mem_nil,fun _ present => present⟩
    | cons event events =>
      obtain ⟨sends,left⟩ := ih events
      refine ⟨?_,fun other present => List.mem_cons_of_mem _ (left other present)⟩
      intro sent present
      rcases List.mem_cons.mp present with now | later
      · rw [now]
        exact List.mem_cons_self
      · exact List.mem_cons_of_mem _ (sends sent later)

theorem direct_event {Event : Type} {type : Event → QString} {registry : ProviderRegistry} {event other : Event}
    {subscribers : List Socket} {isValid : Socket → Bool}
    (present : (socket,other) ∈ EventRouter.direct type registry event subscribers isValid) : other = event := by
  unfold EventRouter.direct at present
  split at present
  · split at present
    · cases present
    · split at present
      · exact congrArg Prod.snd (List.mem_singleton.mp present)
      · cases present
  · obtain ⟨_,_,same⟩ := List.mem_map.mp present
    exact (congrArg Prod.snd same).symm

theorem backed_emitSessionEvent (held : Backed backed d) (now : backed event) : Backed backed (d.emitSessionEvent event) := by
  have enqueued : ∀ other ∈ (d.eventQueue.enqueue event).eventQueue, backed other := by
    intro other present
    unfold EventQueue.enqueue at present
    rcases List.mem_append.mp present with old | new
    · apply held.queued
      split at old
      · exact List.mem_of_mem_drop old
      · exact old
    · rw [List.mem_singleton.mp new]
      exact now
  obtain ⟨sends,left⟩ := mem_drain d.eventQueue.nextWaiters (d.eventQueue.enqueue event).eventQueue
  unfold emitSessionEvent
  simp only
  apply backed_sendAll
  · refine ⟨fun other present => enqueued other (left other present),?_⟩
    exact held.sent
  · intro socket other present
    obtain ⟨⟨_,_⟩,routed,same⟩ := List.mem_map.mp present
    cases same
    rcases List.mem_append.mp routed with direct | drained
    · rw [direct_event direct]
      exact now
    · exact enqueued _ (sends _ drained)

theorem grown_emitted (d : Daemon) (event : SessionEvent) : .emitted event ∈ (d.emitSessionEvent event).trace := by
  obtain ⟨new,same,_⟩ := told_emitSessionEvent d event
  rw [same]
  exact List.mem_append_right _ List.mem_cons_self

theorem backed_emits (held : Backed backed d) (backs : Backs backed e)
    (grown : Grown (fun _ => True) (d.emitSessionEvent event).trace e.trace) : Backed backed (d.emitSessionEvent event) :=
  backed_emitSessionEvent held ((backs.earlier grown) event (grown_emitted d event))

theorem backed_deed (deed : Deed d e) (backs : Backs backed e) (held : Backed backed d) : Backed backed e := by
  have stored (store : SessionStore) : Backed backed (d.withSessionStore store) := held.same rfl rfl
  cases deed with
  | quiet same aside => exact held.front same
  | created id source ctx =>
    unfold createSession at backs ⊢
    simp only at backs ⊢
    split at backs
    · next alone =>
      rw [if_pos alone]
      have calls := calls_ensureFallbackUiRunning
        ((d.withSessionStore (d.sessionStore.createSession id source ctx).2).emitSessionEvent
          (d.sessionStore.createSession id source ctx).1) (text "session-created")
      exact (backed_emits (stored _) backs calls.grown).front (front_ensureFallbackUiRunning _ _)
    · next shown =>
      rw [if_neg shown]
      exact backed_emits (stored _) backs (.same rfl)
  | updated id change alike =>
    unfold emitUpdated at backs ⊢
    split at backs
    · exact held
    · exact backed_emits (stored _) backs (.same rfl)
  | counted id curRetry maxRetries =>
    unfold updateSessionPinentryRetry
    split
    · exact held
    · exact stored _
  | closed id result =>
    unfold closeSession at backs ⊢
    split at backs
    · exact held
    · simp only at backs ⊢
      refine backed_emits ?_ backs (.same rfl)
      split
      · exact backed_refreshActiveProvider (stored _)
      · exact stored _
  | completed id success =>
    unfold onSessionComplete at backs ⊢
    split at backs
    · exact held
    · simp only at backs ⊢
      split at backs
      · next empty =>
        rw [if_pos empty]
        exact backed_refreshActiveProvider (backed_emits (stored _) backs (grown_told (told_refreshActiveProvider _)))
      · next filled =>
        rw [if_neg filled]
        exact backed_emits (stored _) backs (.same rfl)

theorem grown_deeds (deeds : Deeds d e) : Grown (fun _ => True) d.trace e.trace := (covered_deeds deeds).grown

theorem backed_deeds (deeds : Deeds d e) (backs : Backs backed e) (held : Backed backed d) : Backed backed e := by
  induction deeds with
  | refl => exact held
  | tail before deed ih =>
    have last := grown_deeds (.one deed)
    exact backed_deed deed backs (ih (backs.earlier last))

end Daemon

namespace Agent

open Daemon (Backed Backs backed_sendAll backed_sendJson backed_refreshActiveProvider backed_deeds)

variable {backed : SessionEvent → Prop} {d e : Daemon}

theorem backed_handleNext (held : Backed backed d) (socket : Socket) : Backed backed (handleNext d socket) := by
  have waiting := held.queued
  cases queue : d.eventQueue.eventQueue with
  | nil =>
    have waits : handleNext d socket = d.withEventQueue (d.eventQueue.subscribeNext socket) := by
      simp only [handleNext,EventQueue.takeNext,queue]
    rw [waits]
    exact ⟨held.queued,held.sent⟩
  | cons event rest =>
    have given : handleNext d socket =
        (d.withEventQueue {d.eventQueue with eventQueue:=rest}).sendJson socket (.event event) := by
      simp only [handleNext,EventQueue.takeNext,queue]
    rw [queue] at waiting
    rw [given]
    apply backed_sendJson
    · exact ⟨fun other present => waiting other (List.mem_cons_of_mem _ present),held.sent⟩
    · intro other same
      cases same
      exact waiting event List.mem_cons_self

theorem backed_handleSubscribe (held : Backed backed d)
    (stored : ∀ id session, d.sessionStore.find id = some session →
      backed session.toCreatedEvent ∧ backed session.toUpdatedEvent) (socket : Socket) :
    Backed backed (handleSubscribe d socket) := by
  have listed : ∀ e : Daemon, e.sessionStore = d.sessionStore → Backed backed e →
      Backed backed (e.sendAll (e.sessionStore.toList.flatMap (fun entry =>
        [(socket,Message.event entry.2.toCreatedEvent),(socket,Message.event entry.2.toUpdatedEvent)]))) := by
    intro e same held
    apply backed_sendAll held
    intro other event present
    obtain ⟨entry,kept,told⟩ := List.mem_flatMap.mp present
    rw [same] at kept
    obtain ⟨created,updated⟩ := stored entry.1 entry.2 ((Table.mem_toList _ _ _).mp kept)
    rcases List.mem_cons.mp told with first | second
    · cases first
      exact created
    · cases List.mem_singleton.mp second
      exact updated
  unfold handleSubscribe
  apply backed_sendJson _ _ _ (fun _ => nofun)
  split <;> split
  · exact listed d rfl held
  · exact held
  · exact listed _ rfl (held.same rfl rfl)
  · exact held.same rfl rfl

theorem backed_handleUIRegister (held : Backed backed d) (socket : Socket) (msg : QJsonObject) :
    Backed backed (handleUIRegister d socket msg) := by
  have elected (registry : ProviderRegistry) :
      Backed backed (d.nowMs.2.withProviderRegistry registry).recomputeActiveProvider.2 := held.same rfl rfl
  unfold handleUIRegister
  simp only
  split
  · refine backed_sendAll (backed_sendJson (elected _) socket (.uiRegistered _ _ _) (fun _ => nofun)) _ ?_
    intro other event present
    obtain ⟨_,_,same⟩ := List.mem_map.mp present
    cases same
  · exact backed_sendJson (elected _) socket (.uiRegistered _ _ _) (fun _ => nofun)

theorem backed_handleUIHeartbeat (held : Backed backed d) (socket : Socket) : Backed backed (handleUIHeartbeat d socket) := by
  unfold handleUIHeartbeat
  split
  · exact backed_sendJson held socket (.error _) (fun _ => nofun)
  · apply backed_sendJson _ _ _ (fun _ => nofun)
    apply backed_refreshActiveProvider
    exact held.same rfl rfl

theorem backed_fallback (held : Backed backed d) (reason : QString) :
    Backed backed (if !d.hasActiveProvider && !d.sessionStore.isEmpty then d.ensureFallbackUiRunning reason else d) := by
  split
  · exact held.front (Daemon.front_ensureFallbackUiRunning d reason)
  · exact held

theorem backed_handleUIUnregister (held : Backed backed d) (socket : Socket) : Backed backed (handleUIUnregister d socket) := by
  unfold handleUIUnregister
  split
  · exact backed_sendJson held socket (.error _) (fun _ => nofun)
  · apply backed_fallback
    apply backed_sendJson _ _ _ (fun _ => nofun)
    apply backed_refreshActiveProvider
    exact held.same rfl rfl

theorem backed_forgetProvider (held : Backed backed d) (socket : Socket) : Backed backed (forgetProvider d socket) := by
  have without (e : Daemon) (held : Backed backed e) : Backed backed (e.withEventQueue (e.eventQueue.removeWaiter socket)) :=
    ⟨held.queued,held.sent⟩
  unfold forgetProvider
  apply without
  simp only
  split
  · apply backed_refreshActiveProvider
    exact held.same rfl rfl
  · exact held.same rfl rfl

theorem backed_served (served : Daemon.Served d socket e) (backs : Backs backed e) (held : Backed backed d) :
    Backed backed e := by
  have grown (m : Daemon) (messages : List (Socket × Message)) : Grown (fun _ => True) m.trace (m.sendAll messages).trace :=
    Daemon.grown_told (Daemon.told_sendAll m messages)
  cases served with
  | quietly deeds =>
    apply backed_sendJson _ _ _ (fun _ => nofun)
    exact backed_deeds deeds (backs.earlier (grown _ [(socket,.ok none)])) held
  | @keyring _ cookie request deeds asked gone answer =>
    apply backed_sendJson _ _ _ (fun _ => nofun)
    apply backed_sendJson _ _ _ (fun _ => nofun)
    exact backed_deeds deeds (backs.earlier (grown _ [(request.socket,.response .keyring cookie answer),(socket,.ok none)])) held
  | @pinentry _ cookie request deeds asked gone answer =>
    apply backed_sendJson _ _ _ (fun _ => nofun)
    apply backed_sendJson _ _ _ (fun _ => nofun)
    exact backed_deeds deeds (backs.earlier (grown _ [(request.socket,.response .pinentry cookie answer),(socket,.ok none)])) held

theorem backed_talk (talk : Talk d socket e) (backs : Backs backed e)
    (stored : ∀ id session, d.sessionStore.find id = some session →
      backed session.toCreatedEvent ∧ backed session.toUpdatedEvent) (held : Backed backed d) : Backed backed e := by
  cases talk with
  | refused message foreign => exact backed_sendJson held socket (.error _) (fun _ => nofun)
  | served served => exact backed_served served backs held
  | asked deeds => exact backed_deeds deeds backs held
  | pinged => exact backed_sendJson held socket _ (fun _ => nofun)
  | subscribed => exact backed_handleSubscribe held stored socket
  | waited => exact backed_handleNext held socket
  | registered msg => exact backed_handleUIRegister held socket msg
  | beat known => exact backed_handleUIHeartbeat held socket
  | unregistered known => exact backed_handleUIUnregister held socket

end Agent

namespace Daemon

variable {backed : SessionEvent → Prop} {d e : Daemon} {event : SessionEvent}

theorem backed_setSocketState (d : Daemon) (socket : Socket) (state : LocalSocketState) (held : Backed backed d) :
    Backed backed (d.setSocketState socket state) := by
  unfold setSocketState
  split
  · exact held
  · exact held.same rfl rfl

theorem backed_handle (d : Daemon) (event : Event) (backs : Backs backed (d.handle event))
    (stored : ∀ id session, d.sessionStore.find id = some session →
      backed session.toCreatedEvent ∧ backed session.toUpdatedEvent) (held : Backed backed d) :
    Backed backed (d.handle event) := by
  cases event with
  | connected peerPid => exact held.same rfl rfl
  | socketState socket state => exact backed_setSocketState d socket state held
  | message socket type msg => exact Agent.backed_talk (Agent.talk_handleMessage d socket type msg) backs stored held
  | disconnected socket =>
    have earlier (e : Daemon) (backs : Backs backed (e.deleteSocket socket)) : Backs backed e := backs
    have deleted (e : Daemon) (held : Backed backed e) : Backed backed (e.deleteSocket socket) := held.same rfl rfl
    have closed := Agent.backed_forgetProvider (backed_setSocketState d socket .unconnected held) socket
    apply deleted (Agent.onClientDisconnected (d.setSocketState socket .unconnected) socket)
    exact backed_deeds (Agent.deeds_onClientDisconnected _ socket) (earlier _ backs) closed
  | initiateAuthentication actionId message iconName details cookie identities =>
    exact backed_deeds (PolkitListener.deeds_initiateAuthentication _ _ _ _ _ _ _) backs held
  | polkitSignal session signal =>
    exact backed_deeds (PolkitListener.strides_deeds (PolkitListener.strides_signal _ _ _)) backs held
  | cancelAuthentication =>
    exact backed_deeds (PolkitListener.strides_deeds (PolkitListener.strides_cancelAuthentication _)) backs held
  | timeout timer => exact backed_deeds (PinentryManager.deeds_timeout _ timer) backs held
  | maintenance => exact Agent.backed_fallback (backed_refreshActiveProvider held) _

-- Whatever anybody is told of a session, live, late or again, goes back to the
-- event that opened it.
theorem reached_backed (path : daemon.Reached d) : Backed (·.announced d.trace) d := by
  induction path with
  | initial => exact ⟨fun _ present => absurd present List.not_mem_nil,fun _ _ present => absurd present List.not_mem_nil⟩
  | @step s input before allowed ih =>
    have kept : ∀ event, .emitted event ∈ s.trace → Effect.emitted event ∈ (daemon.step s input).trace :=
      fun event present => step_keeps allowed rfl present
    apply backed_handle {s with env:=input.env} input.event
    · exact fun event present => SessionEvent.announced_emitted present
    · intro id session found
      exact ⟨SessionEvent.announced_mono kept (stored_announced before found),trivial⟩
    · exact ⟨fun event present => SessionEvent.announced_mono kept (ih.queued event present),
        fun socket event present => SessionEvent.announced_mono kept (ih.sent socket event present)⟩

theorem sent_announced (path : daemon.Reached d) (told : .sent socket (.event (.created id source context)) ∈ d.trace) :
    ∃ first retry, .emitted (.created id source first) ∈ d.trace ∧ context = ContextJson.recount first retry :=
  (reached_backed path).sent socket _ (List.mem_filterMap.mpr ⟨_,told,rfl⟩)

-- Whatever the descriptions of the requests claim and whatever keyinfos they share, no
-- event tells of a negative attempt, or of none allowed: none that is emitted, and none
-- that anybody is sent, a late subscriber included.
theorem counters_sensible (path : daemon.Reached d) : (∀ event ∈ d.emissions, sensible event.counters) ∧
    ∀ socket event, .sent socket (.event event) ∈ d.trace → sensible event.counters := by
  have emitted (d : Daemon) (path : daemon.Reached d) : ∀ event ∈ d.emissions, sensible event.counters := by
    rw [← emissions_core]
    exact (reached_counted path).events
  have backs (d : Daemon) (path : daemon.Reached d) : Backs (fun event => sensible event.counters) d := by
    intro event present
    exact emitted d path event (List.mem_reverse.mpr (List.mem_filterMap.mpr ⟨_,present,rfl⟩))
  have backed : Backed (fun event => sensible event.counters) d := by
    induction path with
    | initial => exact ⟨fun _ present => absurd present List.not_mem_nil,fun _ _ present => absurd present List.not_mem_nil⟩
    | @step s input before allowed ih =>
      apply backed_handle {s with env:=input.env} input.event (backs _ (before.step allowed))
      · intro id session found
        have counted := (reached_counted before).sessions id session found
        exact ⟨session.counters_created ▸ counted,session.counters_updated ▸ counted⟩
      · exact ⟨ih.queued,ih.sent⟩
  refine ⟨emitted d path,?_⟩
  intro socket event told
  exact backed.sent socket event (List.mem_filterMap.mpr ⟨_,told,rfl⟩)

def askedWhileAway : List Input := askedTwiceOver ++ [.quiet (.connected 9),.say 2 "subscribe" []]

theorem askedTwiceOver_sensible :
    (daemon.run askedWhileAway).emissions.Forall (fun event => sensible event.counters) ∧
    (daemon.run askedWhileAway).trace.Forall (fun effect =>
      ∀ socket event, effect = .sent socket (.event event) → sensible event.counters) := by
  obtain ⟨emitted,sent⟩ := counters_sensible (Machine.Admits.reached (by decide +kernel : daemon.Admits askedWhileAway))
  refine ⟨List.forall_iff_forall_mem.mpr emitted,List.forall_iff_forall_mem.mpr ?_⟩
  intro effect present socket event same
  exact sent socket event (same ▸ present)

theorem step_grown (path : daemon.Reached d) (input : Input) :
    Grown (fun _ => True) d.trace (daemon.step d input).trace := by
  cases found : d.renewer input.event with
  | none => exact (step_covered d input (reached_settled path) found).grown
  | some socket => exact grown_told (step_renews d input found).told

end Daemon

end BbAuth
