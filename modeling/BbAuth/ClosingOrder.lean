import BbAuth.Election
import BbAuth.Hearing

open Library
namespace BbAuth

def Effect.notice : Effect → Option (Socket × SessionEvent)
  | .sent socket (.event event) => some (socket,event)
  | _ => none

namespace EventRouter

variable {Event : Type}

theorem direct_settled (type : Event → QString) (event : Event) (subscribers : List Socket) (isValid : Socket → Bool)
    (routed : isSessionEventForProviderRouting (type event) = true) (settled : registry.Settled) :
    direct type registry event subscribers isValid =
      match registry.activeProvider with
      | none => (subscribers.filter isValid).map (fun socket => (socket,event))
      | some socket => if isValid socket then [(socket,event)] else [] := by
  unfold direct
  rw [routed,Bool.true_and]
  cases active : registry.activeProvider with
  | none =>
    have nobody : registry.hasActiveProvider = false := by
      unfold ProviderRegistry.hasActiveProvider
      rw [active]
    rw [nobody]
    rfl
  | some socket =>
    have somebody : registry.hasActiveProvider = true := by
      unfold ProviderRegistry.hasActiveProvider
      rw [active]
      exact settled.held socket active
    rw [somebody]
    rfl

end EventRouter

theorem routing_session (event : SessionEvent) : EventRouter.isSessionEventForProviderRouting event.type = true := by
  cases event with
  | created | updated | closed => rfl

namespace Daemon

-- What others can tell of the daemon: its state and the messages it sent.
def outward (d : Daemon) : Daemon := {d with trace:=d.trace.filter (fun effect => effect.delivery.isSome)}

def reach (d : Daemon) (messages : List (Socket × Message)) : List (Socket × Message) :=
  messages.filter (fun message => d.isConnected message.1)

def withSent (d : Daemon) (messages : List (Socket × Message)) : Daemon :=
  {d with trace:=(messages.map (fun message => Effect.sent message.1 message.2)).reverse ++ d.trace}

theorem sendAll_reach (d : Daemon) (messages : List (Socket × Message)) : d.sendAll messages = d.withSent (d.reach messages) := by
  induction messages generalizing d with
  | nil => rfl
  | cons message rest ih =>
    have later : d.sendAll (message :: rest) = (d.sendJson message.1 message.2).sendAll rest := rfl
    rw [later,ih]
    unfold sendJson reach
    rw [List.filter_cons]
    split
    · unfold withSent log
      rw [List.map_cons,List.reverse_cons,List.append_assoc]
      rfl
    · rfl

def routes (d : Daemon) (registry : ProviderRegistry) (event : SessionEvent) : List (Socket × SessionEvent) :=
  (EventRouter.route SessionEvent.type registry d.eventQueue event d.subscribers d.isValid).1

def notices (d : Daemon) (registry : ProviderRegistry) (event : SessionEvent) : List (Socket × Message) :=
  d.reach ((d.routes registry event).map (fun delivery => (delivery.1,.event delivery.2)))

def election (d : Daemon) : Bool × ProviderRegistry := d.providerRegistry.recomputeActiveProvider d.nowMs.1 d.isConnected

def statuses (d : Daemon) : List (Socket × Message) :=
  if d.election.1 then
    let status := Message.uiActive d.election.2.hasActiveProvider (d.election.2.activeProviderInfo.map providerJson)
    let sent := d.election.2.sockets.filter d.isValid
    let others := d.subscribers.filter (fun socket => d.isValid socket && !sent.contains socket)
    d.reach ((sent ++ others).map (fun socket => (socket,status)))
  else []

theorem emit_outward (d : Daemon) (event : SessionEvent) :
    d.emitSessionEvent event =
      ((d.log (.emitted event)).withEventQueue (d.eventQueue.enqueue event).drainToWaiters.2).withSent
        (d.notices d.providerRegistry event) := by
  unfold emitSessionEvent
  exact sendAll_reach _ _

theorem refresh_outward (d : Daemon) :
    d.refreshActiveProvider = (d.nowMs.2.withProviderRegistry d.election.2).withSent d.statuses := by
  unfold refreshActiveProvider statuses
  change (if d.election.1 then _ else _) = _
  split
  · exact sendAll_reach _ _
  · rfl

-- The state that both ways leave. They differ in the order of the messages.
def shut (d : Daemon) (id : QString) (event : SessionEvent) (messages : List (Socket × Message)) : Daemon :=
  ((((d.nowMs.2.withSessionStore (d.sessionStore.remove id)).withProviderRegistry d.election.2).withEventQueue
    (d.eventQueue.enqueue event).drainToWaiters.2).outward).withSent messages

theorem outward_withSent (d : Daemon) (messages : List (Socket × Message)) :
    (d.withSent messages).outward = d.outward.withSent messages := by
  have kept : ∀ messages : List (Socket × Message),
      (messages.map (fun message => Effect.sent message.1 message.2)).reverse.filter (fun effect => effect.delivery.isSome) =
        (messages.map (fun message => Effect.sent message.1 message.2)).reverse := by
    intro messages
    apply List.filter_eq_self.mpr
    intro effect present
    obtain ⟨message,_,same⟩ := List.mem_map.mp (List.mem_reverse.mp present)
    rw [← same]
    rfl
  unfold outward withSent
  simp only [List.filter_append,kept]

theorem withSent_append (d : Daemon) (first later : List (Socket × Message)) :
    (d.withSent first).withSent later = d.withSent (first ++ later) := by
  unfold withSent
  simp only [List.map_append,List.reverse_append,List.append_assoc]

theorem outward_emitted (d : Daemon) (event : SessionEvent) (queue : EventQueue SessionEvent) :
    ((d.log (.emitted event)).withEventQueue queue).outward = (d.withEventQueue queue).outward := rfl

variable {d : Daemon} {id : QString} {session : Session}

theorem stored_closeSession (result : Result) (found : d.sessionStore.find id = some session) :
    d.sessionStore.closeSession id result = some ((session.close result).toClosedEvent,d.sessionStore.remove id) := by
  unfold SessionStore.closeSession
  rw [found]

theorem closeSession_last (result : Result) (found : d.sessionStore.find id = some session)
    (last : (d.sessionStore.remove id).isEmpty = true) :
    (d.closeSession id result).outward = d.shut id (session.close result).toClosedEvent
      (d.statuses ++ d.notices d.election.2 (session.close result).toClosedEvent) := by
  have empty : (d.withSessionStore (d.sessionStore.remove id)).sessionStore.isEmpty = true := last
  unfold closeSession
  rw [stored_closeSession result found]
  simp only
  rw [if_pos empty,emit_outward,refresh_outward,outward_withSent,outward_emitted]
  generalize (session.close result).toClosedEvent = event
  -- The election leaves the sockets, the queue and the subscribers alone.
  change ((((d.nowMs.2.withSessionStore (d.sessionStore.remove id)).withProviderRegistry d.election.2).withEventQueue
    (d.eventQueue.enqueue event).drainToWaiters.2).withSent d.statuses).outward.withSent (d.notices d.election.2 event) = _
  rw [outward_withSent,withSent_append]
  rfl

theorem onSessionComplete_last (success : Bool) (found : d.sessionStore.find id = some session)
    (last : (d.sessionStore.remove id).isEmpty = true) :
    let event := (session.close (if success then .success else .cancelled)).toClosedEvent
    (d.onSessionComplete id success).outward = d.shut id event (d.notices d.providerRegistry event ++ d.statuses) := by
  unfold onSessionComplete
  rw [stored_closeSession _ found]
  generalize (session.close (if success then .success else .cancelled)).toClosedEvent = event
  simp only
  have store : ((d.withSessionStore (d.sessionStore.remove id)).emitSessionEvent event).sessionStore.isEmpty = true := by
    rw [emit_outward]
    exact last
  rw [if_pos store,emit_outward,refresh_outward,outward_withSent]
  change (((((d.nowMs.2.withSessionStore (d.sessionStore.remove id)).withProviderRegistry d.election.2).log
    (.emitted event)).withEventQueue (d.eventQueue.enqueue event).drainToWaiters.2).withSent
      (d.notices d.providerRegistry event)).outward.withSent d.statuses = _
  rw [outward_withSent,withSent_append,outward_emitted]
  rfl

-- Where another session stays open, both only report the close.
theorem closeSession_others (result : Result) (found : d.sessionStore.find id = some session)
    (others : (d.sessionStore.remove id).isEmpty = false) : d.closeSession id result =
      (d.withSessionStore (d.sessionStore.remove id)).emitSessionEvent (session.close result).toClosedEvent := by
  have store : ¬((d.withSessionStore (d.sessionStore.remove id)).sessionStore.isEmpty = true) := Bool.eq_false_iff.mp others
  unfold closeSession
  rw [stored_closeSession result found]
  exact congrArg (fun d : Daemon => d.emitSessionEvent (session.close result).toClosedEvent) (if_neg store)

theorem onSessionComplete_others (success : Bool) (found : d.sessionStore.find id = some session)
    (others : (d.sessionStore.remove id).isEmpty = false) :
    d.onSessionComplete id success = d.closeSession id (if success then .success else .cancelled) := by
  rw [closeSession_others _ found others]
  unfold onSessionComplete
  rw [stored_closeSession _ found]
  apply if_neg
  rw [emit_outward]
  exact Bool.eq_false_iff.mp others

theorem withSent_inj {first second : List (Socket × Message)} (same : d.withSent first = d.withSent second) : first = second := by
  have traces := congrArg (fun d : Daemon => d.trace) same
  have sent := List.reverse_injective (List.append_cancel_right traces)
  apply List.map_injective_iff.mpr _ sent
  rintro ⟨socket,message⟩ ⟨other,said⟩ equal
  cases equal
  rfl

theorem swapped_iff {statuses before after : List (Socket × Message)} {p : Socket × Message → Prop}
    (apart : ∀ message ∈ statuses, p message) (first : ∀ message ∈ before, ¬p message) :
    statuses ++ after = before ++ statuses ↔ after = before ∧ (statuses = [] ∨ before = []) := by
  constructor
  · intro same
    cases statuses with
    | nil =>
      rw [List.nil_append,List.append_nil] at same
      exact ⟨same,.inl rfl⟩
    | cons status rest =>
      cases before with
      | nil =>
        rw [List.nil_append] at same
        exact ⟨List.append_right_eq_self.mp same,.inr rfl⟩
      | cons message others =>
        rw [List.cons_append,List.cons_append] at same
        cases (List.cons.inj same).1
        exact absurd (apart status List.mem_cons_self) (first status List.mem_cons_self)
  · rintro ⟨same,nothing | nothing⟩
    · rw [nothing,List.nil_append,List.append_nil,same]
    · rw [same,nothing,List.append_nil,List.nil_append]

theorem statuses_active : ∀ message ∈ d.statuses, ∃ active provider, message.2 = .uiActive active provider := by
  intro message present
  unfold statuses at present
  split at present
  · obtain ⟨socket,_,same⟩ := List.mem_map.mp (List.mem_filter.mp present).1
    rw [← same]
    exact ⟨_,_,rfl⟩
  · cases present

theorem notices_event (registry : ProviderRegistry) (event : SessionEvent) :
    ∀ message ∈ d.notices registry event, ¬∃ active provider, message.2 = .uiActive active provider := by
  intro message present
  obtain ⟨delivery,_,same⟩ := List.mem_map.mp (List.mem_filter.mp present).1
  rw [← same]
  rintro ⟨active,provider,other⟩
  cases other

theorem last_alike_iff (success : Bool) (found : d.sessionStore.find id = some session)
    (last : (d.sessionStore.remove id).isEmpty = true) :
    let result := if success then Result.success else .cancelled
    let event := (session.close result).toClosedEvent
    (d.closeSession id result).outward = (d.onSessionComplete id success).outward ↔
      d.notices d.election.2 event = d.notices d.providerRegistry event ∧
        (d.statuses = [] ∨ d.notices d.providerRegistry event = []) := by
  simp only
  rw [closeSession_last _ found last,onSessionComplete_last success found last]
  generalize (session.close (if success then Result.success else .cancelled)).toClosedEvent = event
  rw [← swapped_iff statuses_active (notices_event d.providerRegistry event)]
  exact ⟨withSent_inj,congrArg _⟩

def informed (d : Daemon) (registry : ProviderRegistry) : List Socket :=
  match registry.activeProvider with
  | none => d.subscribers.filter d.isConnected
  | some socket => if d.isConnected socket then [socket] else []

theorem reach_direct (event : SessionEvent) (settled : registry.Settled) :
    d.reach ((EventRouter.direct SessionEvent.type registry event d.subscribers d.isValid).map
      (fun delivery => (delivery.1,Message.event delivery.2))) =
        (d.informed registry).map (fun socket => (socket,.event event)) := by
  have connected (socket : Socket) : (d.isConnected socket && d.isValid socket) = d.isConnected socket := by
    cases open' : d.isConnected socket with
    | false => rfl
    | true => rw [isValid_connected open',Bool.true_and]
  rw [EventRouter.direct_settled _ _ _ _ (routing_session event) settled]
  unfold informed reach
  cases registry.activeProvider with
  | none =>
    simp only
    rw [List.map_map,List.filter_map,List.filter_filter]
    apply congrArg (List.map (fun socket => (socket,Message.event event)))
    apply List.filter_congr
    intro socket _
    exact connected socket
  | some socket =>
    simp only
    cases valid : d.isValid socket with
    | true =>
      cases open' : d.isConnected socket with
      | true => simp [open']
      | false => simp [open']
    | false =>
      have closed := connected socket
      rw [valid,Bool.and_false] at closed
      rw [← closed]
      rfl

theorem notices_informed (event : SessionEvent) (settled : registry.Settled) : d.notices registry event =
    (d.informed registry).map (fun socket => (socket,.event event)) ++
      d.reach (((d.eventQueue.enqueue event).drainToWaiters.1).map (fun delivery => (delivery.1,.event delivery.2))) := by
  rw [← reach_direct event settled]
  unfold notices routes EventRouter.route reach
  rw [← List.filter_append,← List.map_append]

theorem notices_same (event : SessionEvent) (settled : registry.Settled) (later : elected.Settled) :
    d.notices elected event = d.notices registry event ↔ d.informed elected = d.informed registry := by
  rw [notices_informed event settled,notices_informed event later,List.append_left_inj]
  constructor
  · apply List.map_injective_iff.mpr
    intro socket other same
    exact (Prod.mk.inj same).1
  · exact congrArg _

def foremost (d : Daemon) : Option Socket :=
  ((d.providerRegistry.uiProviders.toList.filter (Scan.survives d.nowMs.1 d.isConnected)).argmax
    (fun entry => entry.2.standing)).map Prod.fst

theorem election_foremost (d : Daemon) : d.election.2.activeProvider = d.foremost := by
  have elected := congrArg (fun outcome => outcome.2.2)
    (ProviderRegistry.recompute_recomputed d.providerRegistry d.nowMs.1 d.isConnected)
  exact elected.symm.trans (ProviderRegistry.recomputed_active d.providerRegistry d.providerRegistry.uiProviders.toList)

theorem statuses_nil_iff (d : Daemon) : d.statuses = [] ↔ d.foremost = d.providerRegistry.activeProvider ∨
    (d.foremost = none ∧ ∀ socket ∈ d.subscribers, d.isConnected socket = false) := by
  rw [← election_foremost]
  unfold statuses
  cases outcome : d.election with
  | mk changed elected =>
  obtain ⟨settled,left,unchanged⟩ := ProviderRegistry.recompute_spec outcome
  cases changed with
  | false => exact ⟨fun _ => .inl (unchanged.mp rfl),fun _ => rfl⟩
  | true =>
    have differs : elected.activeProvider ≠ d.providerRegistry.activeProvider := by
      intro same
      cases unchanged.mpr same
    have present (socket : Socket) : socket ∈ elected.sockets → d.isConnected socket = true := by
      intro listed
      obtain ⟨provider,found⟩ := (Table.contains_iff _ _).mp ((Table.mem_keys _ _).mp listed)
      exact (Bool.and_eq_true_iff.mp ((left socket provider).mp found).2).1
    have empty : elected.activeProvider = none → elected.sockets = [] := by
      intro nobody
      apply List.eq_nil_iff_forall_not_mem.mpr
      intro socket listed
      obtain ⟨provider,found⟩ := (Table.contains_iff _ _).mp ((Table.mem_keys _ _).mp listed)
      rw [(Table.isEmpty_iff _).mp (settled.vacant.mp nobody) socket] at found
      cases found
    simp only [if_true,differs,false_or]
    unfold reach
    rw [List.filter_eq_nil_iff,List.forall_mem_map]
    constructor
    · intro silent
      have nobody : elected.activeProvider = none := by
        apply Option.eq_none_iff_forall_ne_some.mpr
        intro socket active
        have listed := (Table.mem_keys elected.uiProviders socket).mpr (settled.held socket active)
        have connected := present socket listed
        exact silent socket (List.mem_append_left _ (List.mem_filter.mpr ⟨listed,isValid_connected connected⟩)) connected
      refine ⟨nobody,?_⟩
      intro socket subscribed
      apply Bool.eq_false_iff.mpr
      intro connected
      apply silent socket (List.mem_append_right _ (List.mem_filter.mpr ⟨subscribed,?_⟩)) connected
      rw [empty nobody,isValid_connected connected]
      rfl
    · rintro ⟨nobody,silent⟩ socket listed
      rw [empty nobody,List.filter_nil,List.nil_append,List.mem_filter] at listed
      exact Bool.eq_false_iff.mp (silent socket listed.1)

theorem informed_nil_iff (d : Daemon) (registry : ProviderRegistry) : d.informed registry = [] ↔
    match registry.activeProvider with
    | none => ∀ socket ∈ d.subscribers, d.isConnected socket = false
    | some socket => d.isConnected socket = false := by
  unfold informed
  cases registry.activeProvider with
  | none => simp [List.filter_eq_nil_iff]
  | some socket => simp

def noticed (d : Daemon) : List (Socket × SessionEvent) := d.trace.filterMap Effect.notice

-- The events that are sent on the way from `d` to `e` are those that the route
-- of `event` sends under the providers that `d` has.
def RoutedBefore (d e : Daemon) (event : SessionEvent) : Prop :=
  e.noticed = ((d.routes d.providerRegistry event).filter (fun delivery => d.isConnected delivery.1)).reverse ++ d.noticed

-- What closing an open session owes to its two ways.
structure ClosesAlike (d : Daemon) (id : QString) (session : Session) (success : Bool) : Prop where
  outward : (d.closeSession id (if success then .success else .cancelled)).outward = (d.onSessionComplete id success).outward
  routed : RoutedBefore d (d.closeSession id (if success then .success else .cancelled))
    (session.close (if success then .success else .cancelled)).toClosedEvent

-- Another session is open, or the active provider is still the best one, or
-- there is nobody left to be told.
def ClosesQuietly (d : Daemon) (id : QString) : Prop :=
  (∃ other, other ≠ id ∧ d.sessionStore.contains other = true) ∨
  d.foremost = d.providerRegistry.activeProvider ∨
  (d.foremost = none ∧ (∀ socket ∈ d.subscribers, d.isConnected socket = false) ∧
    ∀ socket, d.providerRegistry.activeProvider = some socket → d.isConnected socket = false)

theorem notice_delivered (effect : Effect) (given : Effect.notice effect = some delivery) : effect.delivery.isSome = true := by
  cases effect with
  | sent socket message => rfl
  | requested | emitted | submitted | fallbackRequested | fallbackLaunched | polkit => cases given

theorem noticed_outward (d : Daemon) : d.outward.noticed = d.noticed := by
  unfold noticed outward
  simp only
  induction d.trace with
  | nil => rfl
  | cons effect rest ih =>
    rw [List.filter_cons,List.filterMap_cons]
    cases delivered : effect.delivery.isSome with
    | true => rw [if_pos rfl,List.filterMap_cons,ih]
    | false =>
      have silent : Effect.notice effect = none := by
        apply Option.eq_none_iff_forall_ne_some.mpr
        intro delivery given
        rw [notice_delivered effect given] at delivered
        cases delivered
      rw [if_neg Bool.false_ne_true,silent,ih]

theorem noticed_withSent (d : Daemon) (messages : List (Socket × Message)) : (d.withSent messages).noticed =
    (messages.filterMap (fun message => Effect.notice (.sent message.1 message.2))).reverse ++ d.noticed := by
  unfold noticed withSent
  simp only
  rw [List.filterMap_append,List.filterMap_reverse,List.filterMap_map]
  rfl

theorem notice_notices (registry : ProviderRegistry) (event : SessionEvent) :
    (d.notices registry event).filterMap (fun message => Effect.notice (.sent message.1 message.2)) =
      (d.routes registry event).filter (fun delivery => d.isConnected delivery.1) := by
  unfold notices reach
  rw [List.filter_map,List.filterMap_map]
  exact List.filterMap_some

theorem notice_statuses : d.statuses.filterMap (fun message => Effect.notice (.sent message.1 message.2)) = [] := by
  apply List.filterMap_eq_nil_iff.mpr
  rintro message present
  obtain ⟨active,provider,same⟩ := statuses_active message present
  rw [same]
  rfl

theorem routed_emit (store : SessionStore) (event : SessionEvent) :
    RoutedBefore d ((d.withSessionStore store).emitSessionEvent event) event := by
  unfold RoutedBefore
  rw [emit_outward,noticed_withSent]
  congr 1
  apply congrArg List.reverse
  exact notice_notices d.providerRegistry event

theorem onSessionComplete_routed (success : Bool) (found : d.sessionStore.find id = some session) :
    RoutedBefore d (d.onSessionComplete id success) (session.close (if success then .success else .cancelled)).toClosedEvent := by
  cases last : (d.sessionStore.remove id).isEmpty with
  | false =>
    rw [onSessionComplete_others success found last,closeSession_others _ found last]
    exact routed_emit _ _
  | true =>
    unfold RoutedBefore
    rw [← noticed_outward,onSessionComplete_last success found last]
    unfold shut
    rw [noticed_withSent,List.filterMap_append,notice_statuses,notice_notices,List.append_nil,noticed_outward]
    rfl

theorem onlyOpen_iff (d : Daemon) (id : QString) :
    (d.sessionStore.remove id).isEmpty = false ↔ ∃ other, other ≠ id ∧ d.sessionStore.contains other = true := by
  rw [Bool.eq_false_iff,ne_eq,Table.isEmpty_iff,not_forall]
  apply exists_congr
  intro other
  rw [← ne_eq,← Option.isSome_iff_ne_none]
  change (d.sessionStore.remove id).contains other = true ↔ _
  exact Table.contains_remove d.sessionStore id other

theorem foremost_connected (best : d.foremost = some socket) : d.isConnected socket = true := by
  obtain ⟨entry,elected,same⟩ := Option.map_eq_some_iff.mp best
  subst same
  exact (Bool.and_eq_true_iff.mp (List.mem_filter.mp (List.argmax_mem elected)).2).1

theorem silent_iff (d : Daemon) : (d.informed d.election.2 = [] ∧ d.informed d.providerRegistry = []) ↔
    d.foremost = none ∧ (∀ socket ∈ d.subscribers, d.isConnected socket = false) ∧
      ∀ socket, d.providerRegistry.activeProvider = some socket → d.isConnected socket = false := by
  rw [informed_nil_iff,informed_nil_iff,election_foremost]
  cases best : d.foremost with
  | some socket =>
    constructor
    · rintro ⟨gone,_⟩
      cases gone.symm.trans (foremost_connected best)
    · rintro ⟨nobody,_⟩
      cases nobody
  | none =>
    cases d.providerRegistry.activeProvider with
    | none => simp
    | some active => simp

theorem closes_settled_iff (settled : d.Settled) (found : d.sessionStore.find id = some session) (success : Bool) :
    ClosesAlike d id session success ↔ ClosesQuietly d id := by
  have outward_iff : ClosesAlike d id session success ↔
      (d.closeSession id (if success then .success else .cancelled)).outward = (d.onSessionComplete id success).outward := by
    refine ⟨fun alike => alike.outward,fun same => ⟨same,?_⟩⟩
    have routed := onSessionComplete_routed success found
    unfold RoutedBefore at routed ⊢
    rwa [← noticed_outward,same,noticed_outward]
  rw [outward_iff]
  unfold ClosesQuietly
  rw [← onlyOpen_iff]
  cases last : (d.sessionStore.remove id).isEmpty with
  | false => exact ⟨fun _ => .inl rfl,fun _ => congrArg outward (onSessionComplete_others success found last).symm⟩
  | true =>
    have elected : d.election.2.Settled := ProviderRegistry.recompute_settled _ _ _
    have active := election_foremost d
    simp only [last_alike_iff success found last,Bool.true_eq_false,false_or]
    rw [notices_same _ settled elected,statuses_nil_iff,← silent_iff]
    constructor
    · rintro ⟨same,(kept | ⟨nobody,silent⟩) | quiet⟩
      · exact .inl kept
      · have later : d.informed d.election.2 = [] := by
          rw [informed_nil_iff,active,nobody]
          exact silent
        exact .inr ⟨later,same.symm.trans later⟩
      · rw [notices_informed _ settled,List.append_eq_nil_iff,List.map_eq_nil_iff] at quiet
        exact .inr ⟨same.trans quiet.1,quiet.1⟩
    · rintro (kept | ⟨later,before⟩)
      · refine ⟨?_,.inl (.inl kept)⟩
        unfold informed
        rw [active,kept]
      · refine ⟨later.trans before.symm,.inl (.inr ?_)⟩
        obtain ⟨nobody,silent,_⟩ := d.silent_iff.mp ⟨later,before⟩
        exact ⟨nobody,silent⟩

-- The surroundings answer anew while the next input is handled.
def under (d : Daemon) (env : Env) : Daemon := {d with env}

-- In every reached state, whatever the clock says when the session is closed.
theorem closes_alike_iff (path : daemon.Reached d) (env : Env) (found : d.sessionStore.find id = some session) (success : Bool) :
    ClosesAlike (d.under env) id session success ↔ ClosesQuietly (d.under env) id := by
  have settled : (d.under env).Settled := reached_settled (d := d) path
  exact closes_settled_iff settled found success

def sharedProvider : List Input :=
  [.quiet (.connected 7),
   .quiet (.connected 8),
   .say 0 "ui.register" [("kind","quickshell")],
   .say 1 "keyring_request" [("cookie","k")],
   .say 1 "keyring_request" [("cookie","m")]]

def twentySecondsLater : Env := {Env.quiet with clock := fun _ => 20000}

theorem sharedProvider_alike : ∃ session, (daemon.run sharedProvider).sessionStore.find (text "k") = some session ∧
    ClosesAlike ((daemon.run sharedProvider).under twentySecondsLater) (text "k") session true := by
  obtain ⟨session,found⟩ := Option.isSome_iff_exists.mp
    (show ((daemon.run sharedProvider).sessionStore.find (text "k")).isSome = true by decide +kernel)
  have path : daemon.Reached (daemon.run sharedProvider) := Machine.Admits.reached (by decide +kernel)
  exact ⟨session,found,(closes_alike_iff path twentySecondsLater found true).mpr (.inl ⟨text "m",by decide,by decide +kernel⟩)⟩

-- The only session is closed when the provider was silent for twenty seconds.
theorem silentProvider_apart : ∃ d session, daemon.Reached d ∧ d.sessionStore.find (text "k") = some session ∧
    ¬ClosesAlike (d.under twentySecondsLater) (text "k") session true := by
  have path : daemon.Reached (daemon.run (sharedProvider.take 4)) := Machine.Admits.reached (by decide +kernel)
  obtain ⟨session,found⟩ := Option.isSome_iff_exists.mp
    (show ((daemon.run (sharedProvider.take 4)).sessionStore.find (text "k")).isSome = true by decide +kernel)
  refine ⟨_,session,path,found,?_⟩
  have settled : ((daemon.run (sharedProvider.take 4)).under twentySecondsLater).Settled :=
    reached_settled (d := daemon.run (sharedProvider.take 4)) path
  rw [closes_settled_iff settled found true]
  rintro (other | kept | ⟨_,_,unheard⟩)
  · rw [← onlyOpen_iff] at other
    revert other
    decide +kernel
  · revert kept
    decide +kernel
  · have closed := unheard 0 (by decide +kernel)
    revert closed
    decide +kernel

end Daemon

end BbAuth
