import Mathlib.Data.Set.Insert
import BbAuth.ProviderAuthority

open Library
namespace BbAuth

def heardBy (socket : Socket) (deliveries : List (Socket × Message)) : List Message :=
  ((deliveries.filter (fun delivery => delivery.1 = socket)).map Prod.snd).reverse

theorem heardBy_append (socket : Socket) (newer older : List (Socket × Message)) :
    heardBy socket (newer ++ older) = heardBy socket older ++ heardBy socket newer := by
  simp [heardBy]

theorem filter_once {l : List Socket} (once : l.Nodup) (socket : Socket) :
    l.filter (fun x => x = socket) = if l.contains socket then [socket] else [] := by
  induction l with
  | nil => rfl
  | cons x rest ih =>
    obtain ⟨fresh,rest_once⟩ := List.nodup_cons.mp once
    rw [List.filter_cons,ih rest_once]
    by_cases same : x = socket
    · subst same
      simp [fresh]
    · simp [same,Ne.symm same]

def SessionEvent.enter (event : SessionEvent) (sessions : Set QString) : Set QString :=
  match event with
  | .created id .. => insert id sessions
  | .updated .. => sessions
  | .closed id .. => sessions \ {id}

def ProviderRegistry.status (registry : ProviderRegistry) : Message :=
  .uiActive registry.hasActiveProvider (registry.activeProviderInfo.map Daemon.providerJson)

-- What matters of the daemon to one client: who provides, whether the client
-- subscribed, which sessions are open, and what the client was told so far.
structure View where
  registry : ProviderRegistry
  subscribed : Bool
  sessions : Set QString
  heard : List Message

namespace View

-- Events of sessions go to the client directly.
def faces (v : View) (socket : Socket) : Bool :=
  if v.registry.hasActiveProvider then decide (v.registry.activeProvider = some socket) else v.subscribed

def hear (v : View) (told : Bool) (message : Message) : View :=
  {v with heard:=v.heard ++ if told then [message] else []}

theorem hear_untold (v : View) (message : Message) : v.hear false message = v := by simp [hear]

-- Between two elections the providers may be renewed, or leave, and another
-- socket may join under a new id.
structure Renewed (socket : Socket) (uuid : QString) (old new : ProviderRegistry) : Prop where
  leader : new.activeProvider = old.activeProvider
  known : ∀ other provider, new.uiProviders.find other = some provider →
    (∃ before, old.uiProviders.find other = some before ∧ before.id = provider.id) ∨
    other ≠ socket ∧ provider.id = uuid

theorem renewed_refl (socket : Socket) (uuid : QString) (registry : ProviderRegistry) :
    Renewed socket uuid registry registry := ⟨rfl,fun _ provider found => .inl ⟨provider,found,rfl⟩⟩

-- What others bring about in the view of a client.
inductive Turn (socket : Socket) (uuid : QString) : View → View → Prop where
  | emitted (event : SessionEvent) :
      Turn socket uuid v ({v with sessions:=event.enter v.sessions}.hear (v.faces socket) (.event event))
  | elected (renewed : Renewed socket uuid v.registry candidates) (nowMs : Int) (isConnected : Socket → Bool)
      (outcome : candidates.recomputeActiveProvider nowMs isConnected = (changed,elected)) :
      Turn socket uuid v
        ({v with registry:=elected}.hear (changed && (elected.contains socket || v.subscribed)) elected.status)
  | restated : Turn socket uuid v (v.hear (v.registry.contains socket || v.subscribed) v.registry.status)

def Turns (socket : Socket) (uuid : QString) : View → View → Prop := Relation.ReflTransGen (Turn socket uuid)

theorem Turns.trans (first : Turns socket uuid u v) (second : Turns socket uuid v w) : Turns socket uuid u w :=
  Relation.ReflTransGen.trans first second

theorem Turns.one (turn : Turn socket uuid v w) : Turns socket uuid v w := Relation.ReflTransGen.single turn

theorem Turns.invariant {P : View → Prop} (kept : ∀ v w, Turn socket uuid v w → P v → P w)
    (turns : Turns socket uuid v w) (start : P v) : P w := by
  induction turns with
  | refl => exact start
  | tail _ turn ih => exact kept _ _ turn ih

end View

open View (Turn Turns Renewed renewed_refl)

namespace Daemon

def view (d : Daemon) (socket : Socket) : View where
  registry := d.providerRegistry
  subscribed := d.subscribers.contains socket
  sessions := {id | d.sessionStore.contains id = true}
  heard := heardBy socket d.front.deliveries

-- A socket that is connected and is not waiting for a `next` event.
structure Listens (d : Daemon) (socket : Socket) : Prop where
  connected : d.isConnected socket = true
  patient : socket ∉ d.eventQueue.nextWaiters
  once : d.subscribers.Nodup
  ids : ∀ id session, d.sessionStore.find id = some session → session.id = id

theorem view_front {d e : Daemon} (same : e.front = d.front) (socket : Socket) : e.view socket = d.view socket := by
  have view (d : Daemon) : d.view socket = (fun f : Front => (⟨f.providerRegistry,f.subscribers.contains socket,
    {id | f.sessionStore.contains id = true},heardBy socket f.deliveries⟩ : View)) d.front := rfl
  rw [view,view,same]

theorem isConnected_front {d e : Daemon} (same : e.sockets = d.sockets) (socket : Socket) :
    e.isConnected socket = d.isConnected socket := by
  unfold isConnected
  rw [same]

theorem listens_front {d e : Daemon} (same : e.front = d.front) (listens : d.Listens socket) : e.Listens socket where
  connected := (isConnected_front (congrArg Front.sockets same) socket).trans listens.connected
  patient := by
    rw [show e.eventQueue = d.eventQueue from congrArg Front.eventQueue same]
    exact listens.patient
  once := by
    rw [show e.subscribers = d.subscribers from congrArg Front.subscribers same]
    exact listens.once
  ids := by
    rw [show e.sessionStore = d.sessionStore from congrArg Front.sessionStore same]
    exact listens.ids

theorem listens_sendAll (d : Daemon) (messages : List (Socket × Message)) (listens : d.Listens socket) :
    (d.sendAll messages).Listens socket := by
  have front := sendAll_front d messages
  refine ⟨?_,?_,?_,?_⟩
  · rw [isConnected_front (congrArg Front.sockets front)]
    exact listens.connected
  · rw [show (d.sendAll messages).eventQueue = d.eventQueue from congrArg Front.eventQueue front]
    exact listens.patient
  · rw [show (d.sendAll messages).subscribers = d.subscribers from congrArg Front.subscribers front]
    exact listens.once
  · rw [show (d.sendAll messages).sessionStore = d.sessionStore from congrArg Front.sessionStore front]
    exact listens.ids

theorem heard_sendAll (d : Daemon) (messages : List (Socket × Message)) (connected : d.isConnected socket = true) :
    (d.sendAll messages).view socket = {d.view socket with
      heard := (d.view socket).heard ++ (messages.filter (fun message => message.1 = socket)).map Prod.snd} := by
  have front := sendAll_front d messages
  have mine : (messages.filter (fun message => d.isConnected message.1)).filter (fun message => message.1 = socket) =
      messages.filter (fun message => message.1 = socket) := by
    rw [List.filter_filter]
    apply List.filter_congr
    intro message _
    by_cases same : message.1 = socket
    · simp [same,connected]
    · simp [same]
  have told : heardBy socket (d.sendAll messages).front.deliveries =
      heardBy socket d.front.deliveries ++ (messages.filter (fun message => message.1 = socket)).map Prod.snd := by
    rw [show (d.sendAll messages).front.deliveries = _ from congrArg Front.deliveries front,heardBy_append]
    congr 1
    unfold heardBy
    rw [List.filter_reverse,mine,List.map_reverse,List.reverse_reverse]
  unfold view
  rw [told,registry_sendAll,show (d.sendAll messages).subscribers = d.subscribers from congrArg Front.subscribers front,
    show (d.sendAll messages).sessionStore = d.sessionStore from congrArg Front.sessionStore front]

theorem hear_one (d : Daemon) (other : Socket) (message : Message) (listens : d.Listens socket) :
    (d.sendJson other message).view socket = (d.view socket).hear (decide (other = socket)) message ∧
    (d.sendJson other message).Listens socket := by
  refine ⟨?_,listens_sendAll d [(other,message)] listens⟩
  refine (heard_sendAll d [(other,message)] listens.connected).trans ?_
  by_cases same : other = socket <;> simp [View.hear,same]

theorem event_routed (event : SessionEvent) : EventRouter.isSessionEventForProviderRouting event.type = true := by
  cases event with
  | created => exact (by decide +kernel : (text "session.").isPrefixOf (text "session.created") = true)
  | updated => exact (by decide +kernel : (text "session.").isPrefixOf (text "session.updated") = true)
  | closed => exact (by decide +kernel : (text "session.").isPrefixOf (text "session.closed") = true)

theorem drain_dests {α : Type} (waiters : List Socket) (events : List α) :
    (∀ sent ∈ (EventQueue.drain waiters events).1, sent.1 ∈ waiters) ∧
    ∀ socket ∈ (EventQueue.drain waiters events).2.1, socket ∈ waiters := by
  induction waiters generalizing events with
  | nil => cases events <;> simp [EventQueue.drain]
  | cons socket rest ih =>
    cases events with
    | nil => simp [EventQueue.drain]
    | cons event later =>
      obtain ⟨sends,left⟩ := ih later
      simp only [EventQueue.drain,List.mem_cons]
      refine ⟨?_,fun other kept => .inr (left other kept)⟩
      intro sent present
      rcases present with rfl | drained
      · exact .inl rfl
      · exact .inr (sends sent drained)

theorem isValid_connected {d : Daemon} (connected : d.isConnected socket = true) : d.isValid socket = true := by
  unfold isConnected at connected
  unfold isValid
  cases found : d.sockets.find socket with
  | none => simp [found] at connected
  | some info =>
    simp only [found,decide_eq_true_eq] at connected
    simp [connected]

theorem direct_mine (d : Daemon) (event : SessionEvent) (listens : d.Listens socket) :
    ((EventRouter.direct SessionEvent.type d.providerRegistry event d.subscribers d.isValid).filter
      (fun sent => sent.1 = socket)) = if (d.view socket).faces socket then [(socket,event)] else [] := by
  have valid := isValid_connected listens.connected
  unfold EventRouter.direct View.faces
  rw [event_routed,Bool.true_and,show (d.view socket).registry = d.providerRegistry from rfl]
  split
  · next active =>
    cases leader : d.providerRegistry.activeProvider with
    | none => simp [ProviderRegistry.hasActiveProvider,leader] at active
    | some other =>
      by_cases same : other = socket
      · subst same
        simp [valid]
      · simp only [Option.some.injEq,same,decide_false,Bool.false_eq_true,if_false]
        split <;> simp [same]
  · have mine : (d.subscribers.filter d.isValid).filter (fun other => other = socket) =
        if d.subscribers.contains socket then [socket] else [] := by
      rw [← filter_once listens.once,List.filter_filter]
      apply List.filter_congr
      intro other _
      by_cases same : other = socket
      · simp [same,valid]
      · simp [same]
    rw [List.filter_map]
    change List.map _ ((d.subscribers.filter d.isValid).filter (fun other => other = socket)) =
      if d.subscribers.contains socket then _ else _
    rw [mine]
    split <;> rfl

theorem hear_event (d : Daemon) (event : SessionEvent) (listens : d.Listens socket) :
    (d.emitSessionEvent event).view socket = (d.view socket).hear ((d.view socket).faces socket) (.event event) ∧
    (d.emitSessionEvent event).Listens socket := by
  have logged : (d.log (.emitted event)).front = d.front := front_log d rfl
  obtain ⟨drained,left⟩ := drain_dests d.eventQueue.nextWaiters (d.eventQueue.enqueue event).eventQueue
  have queued : ((d.log (.emitted event)).withEventQueue (EventRouter.route SessionEvent.type d.providerRegistry
      d.eventQueue event d.subscribers d.isValid).2).Listens socket :=
    ⟨listens.connected,fun waiting => listens.patient (left socket waiting),listens.once,listens.ids⟩
  refine ⟨?_,listens_sendAll _ _ queued⟩
  refine (heard_sendAll _ _ queued.connected).trans ?_
  have mine := direct_mine d event listens
  have others : (EventQueue.drain d.eventQueue.nextWaiters (d.eventQueue.enqueue event).eventQueue).1.filter
      (fun sent => sent.1 = socket) = [] := by
    apply List.filter_eq_nil_iff.mpr
    intro sent present same
    exact listens.patient (of_decide_eq_true same ▸ drained sent present)
  have picked (sends : List (Socket × SessionEvent)) :
      ((sends.map (fun sent => (sent.1,Message.event sent.2))).filter (fun message => message.1 = socket)).map Prod.snd =
        (sends.filter (fun sent => sent.1 = socket)).map (fun sent => .event sent.2) := by
    rw [List.filter_map,List.map_map]
    rfl
  have routed : (EventRouter.route SessionEvent.type d.providerRegistry d.eventQueue event d.subscribers d.isValid).1 =
      EventRouter.direct SessionEvent.type d.providerRegistry event d.subscribers d.isValid ++
        (EventQueue.drain d.eventQueue.nextWaiters (d.eventQueue.enqueue event).eventQueue).1 := rfl
  have told : (((EventRouter.route SessionEvent.type d.providerRegistry d.eventQueue event d.subscribers
      d.isValid).1.map (fun sent => (sent.1,Message.event sent.2))).filter (fun message => message.1 = socket)).map
        Prod.snd = if (d.view socket).faces socket then [.event event] else [] := by
    rw [picked,routed,List.filter_append,mine,others]
    split <;> rfl
  exact congrArg (fun more => ({d.view socket with heard:=(d.view socket).heard ++ more} : View)) told

theorem hear_status (d : Daemon) (listens : d.Listens socket) :
    d.emitProviderStatus.view socket =
      (d.view socket).hear ((d.view socket).registry.contains socket || (d.view socket).subscribed)
        (d.view socket).registry.status ∧
    d.emitProviderStatus.Listens socket := by
  have valid := isValid_connected listens.connected
  refine ⟨?_,listens_sendAll _ _ listens⟩
  refine (heard_sendAll _ _ listens.connected).trans ?_
  have registered : (d.providerRegistry.sockets.filter d.isValid).contains socket = d.providerRegistry.contains socket := by
    rw [Bool.eq_iff_iff,List.contains_iff_mem,List.mem_filter]
    exact ⟨fun present => (Table.mem_keys _ _).mp present.1,fun present => ⟨(Table.mem_keys _ _).mpr present,valid⟩⟩
  have first : (d.providerRegistry.sockets.filter d.isValid).filter (fun other => other = socket) =
      if d.providerRegistry.contains socket then [socket] else [] := by
    have keys : d.providerRegistry.sockets.Nodup := AList.keys_nodup d.providerRegistry.uiProviders
    rw [filter_once (keys.filter _),registered]
  have second : (d.subscribers.filter (fun other => d.isValid other &&
      !(d.providerRegistry.sockets.filter d.isValid).contains other)).filter (fun other => other = socket) =
      if d.subscribers.contains socket && !d.providerRegistry.contains socket then [socket] else [] := by
    rw [filter_once (listens.once.filter _)]
    congr 2
    rw [Bool.eq_iff_iff,List.contains_iff_mem,List.mem_filter,registered,valid]
    simp
  have told : ((((d.providerRegistry.sockets.filter d.isValid) ++ d.subscribers.filter (fun other => d.isValid other &&
      !(d.providerRegistry.sockets.filter d.isValid).contains other)).map (fun other =>
        (other,d.providerRegistry.status))).filter (fun message => message.1 = socket)).map Prod.snd =
      if d.providerRegistry.contains socket || d.subscribers.contains socket then [d.providerRegistry.status] else [] := by
    rw [List.filter_map,List.map_map]
    change List.map _ (List.filter (fun other => decide (other = socket)) _) = _
    rw [List.filter_append,first,second]
    cases d.providerRegistry.contains socket <;> cases d.subscribers.contains socket <;> rfl
  exact congrArg (fun more => ({d.view socket with heard:=(d.view socket).heard ++ more} : View)) told

theorem recomputed (d : Daemon)
    (outcome : d.providerRegistry.recomputeActiveProvider d.nowMs.1 d.isConnected = (changed,elected)) :
    Daemon.recomputeActiveProvider d = (changed,d.nowMs.2.withProviderRegistry elected) := by
  unfold recomputeActiveProvider
  simp only
  rw [show d.nowMs.2.providerRegistry.recomputeActiveProvider d.nowMs.1 d.nowMs.2.isConnected = (changed,elected)
    from outcome]

theorem hear_refresh (d : Daemon) (listens : d.Listens socket)
    (outcome : d.providerRegistry.recomputeActiveProvider d.nowMs.1 d.isConnected = (changed,elected)) :
    d.refreshActiveProvider.view socket = ({d.view socket with registry:=elected}.hear
      (changed && (elected.contains socket || (d.view socket).subscribed)) elected.status) ∧
    d.refreshActiveProvider.Listens socket := by
  have after : (d.nowMs.2.withProviderRegistry elected).Listens socket :=
    ⟨listens.connected,listens.patient,listens.once,listens.ids⟩
  unfold refreshActiveProvider
  rw [recomputed d outcome]
  cases changed with
  | false => exact ⟨by simp [View.hear,view,nowMs,withProviderRegistry,front],after⟩
  | true => exact hear_status _ after

theorem turns_refresh (d : Daemon) (uuid : QString) (listens : d.Listens socket) :
    Turns socket uuid (d.view socket) (d.refreshActiveProvider.view socket) ∧ d.refreshActiveProvider.Listens socket := by
  cases outcome : d.providerRegistry.recomputeActiveProvider d.nowMs.1 d.isConnected with
  | mk changed elected =>
    obtain ⟨heard,after⟩ := hear_refresh d listens outcome
    rw [heard]
    exact ⟨.one (.elected (renewed_refl socket uuid _) _ _ outcome),after⟩

theorem listens_withSessionStore {d : Daemon} (store : SessionStore) (listens : d.Listens socket)
    (ids : ∀ id session, store.find id = some session → session.id = id) : (d.withSessionStore store).Listens socket :=
  ⟨listens.connected,listens.patient,listens.once,ids⟩

theorem turns_event (d : Daemon) (uuid : QString) (event : SessionEvent) (store : SessionStore) (listens : d.Listens socket)
    (ids : ∀ id session, store.find id = some session → session.id = id)
    (enters : {id | store.contains id = true} = event.enter {id | d.sessionStore.contains id = true}) :
    Turns socket uuid (d.view socket) (((d.withSessionStore store).emitSessionEvent event).view socket) ∧
    ((d.withSessionStore store).emitSessionEvent event).Listens socket := by
  obtain ⟨heard,after⟩ := hear_event _ event (listens_withSessionStore store listens ids)
  have before : (d.withSessionStore store).view socket =
      {d.view socket with sessions:=event.enter (d.view socket).sessions} :=
    congrArg (fun sessions => ({d.view socket with sessions} : View)) enters
  rw [heard,before]
  exact ⟨.one (.emitted event),after⟩

theorem ids_insert {store : SessionStore} (ids : ∀ id session, store.find id = some session → session.id = id)
    (named : new.id = key) : ∀ id session, (store.insert key new).find id = some session → session.id = id := by
  intro id session found
  rw [Table.find_insert] at found
  split at found
  · next same => cases found; exact named.trans same.symm
  · exact ids id session found

theorem ids_remove {store : SessionStore} (ids : ∀ id session, store.find id = some session → session.id = id)
    (key : QString) : ∀ id session, (store.remove key).find id = some session → session.id = id := by
  intro id session found
  rw [Table.find_remove] at found
  split at found
  · cases found
  · exact ids id session found

theorem open_insert (store : SessionStore) (key : QString) (new : Session) :
    {id | (store.insert key new).contains id = true} = insert key {id | store.contains id = true} := by
  ext id
  simp only [Set.mem_ofPred_eq,Set.mem_insert_iff,Table.contains,Table.find_insert]
  split
  · next same => simp [same]
  · next other => simp [other]

theorem open_remove (store : SessionStore) (key : QString) :
    {id | (store.remove key).contains id = true} = {id | store.contains id = true} \ {key} := by
  ext id
  simp only [Set.mem_ofPred_eq,Set.mem_sdiff,Set.mem_singleton_iff,Table.contains,Table.find_remove]
  split
  · next same => simp [same]
  · next other => simp [other]

theorem open_again {store : SessionStore} (found : store.find key = some old) (new : Session) :
    {id | (store.insert key new).contains id = true} = {id | store.contains id = true} := by
  rw [open_insert]
  apply Set.insert_eq_of_mem
  simp [Table.contains,found]

theorem turns_createSession (d : Daemon) (uuid id : QString) (source : Source) (ctx : Context) (listens : d.Listens socket) :
    Turns socket uuid (d.view socket) ((d.createSession id source ctx).view socket) ∧
    (d.createSession id source ctx).Listens socket := by
  have emitted := turns_event d uuid (Session.toCreatedEvent {id,source,context:=ctx}) _ listens
    (ids_insert listens.ids (rfl : ({id,source,context:=ctx} : Session).id = id)) (open_insert _ id _)
  unfold createSession
  simp only
  split
  · have same := front_ensureFallbackUiRunning ((d.withSessionStore (d.sessionStore.createSession id source
      ctx).2).emitSessionEvent (d.sessionStore.createSession id source ctx).1) (text "session-created")
    rw [view_front same]
    exact ⟨emitted.1,listens_front same emitted.2⟩
  · exact emitted

theorem turns_emitUpdated (d : Daemon) (uuid id : QString) (change : Session → Session) (listens : d.Listens socket)
    (named : ∀ s, (change s).id = s.id) :
    Turns socket uuid (d.view socket) ((d.emitUpdated (d.sessionStore.updateWith change id)).view socket) ∧
    (d.emitUpdated (d.sessionStore.updateWith change id)).Listens socket := by
  cases found : d.sessionStore.find id with
  | none =>
    simp only [SessionStore.updateWith,found,emitUpdated]
    exact ⟨.refl,listens⟩
  | some session =>
    simp only [SessionStore.updateWith,found,emitUpdated]
    exact turns_event d uuid _ _ listens (ids_insert listens.ids ((named session).trans (listens.ids id session found)))
      (open_again found _)

theorem turns_counted (d : Daemon) (uuid id : QString) (curRetry maxRetries : Int) (listens : d.Listens socket) :
    Turns socket uuid (d.view socket) ((d.updateSessionPinentryRetry id curRetry maxRetries).view socket) ∧
    (d.updateSessionPinentryRetry id curRetry maxRetries).Listens socket := by
  cases found : d.sessionStore.find id with
  | none =>
    simp only [updateSessionPinentryRetry,SessionStore.updatePinentryRetry,found]
    exact ⟨.refl,listens⟩
  | some session =>
    have named : (session.setPinentryRetry curRetry maxRetries).id = id := by
      unfold Session.setPinentryRetry
      split <;> exact listens.ids id session found
    have same : (d.withSessionStore (d.sessionStore.insert id (session.setPinentryRetry curRetry maxRetries))).view socket =
        d.view socket :=
      congrArg (fun sessions => ({d.view socket with sessions} : View)) (open_again found _)
    simp only [updateSessionPinentryRetry,SessionStore.updatePinentryRetry,found]
    split
    · exact ⟨.refl,listens⟩
    · next store counted =>
      split at counted
      · cases counted
      · cases counted
        rw [same]
        exact ⟨.refl,listens_withSessionStore _ listens (ids_insert listens.ids named)⟩

theorem turns_onSessionComplete (d : Daemon) (uuid id : QString) (success : Bool) (listens : d.Listens socket) :
    Turns socket uuid (d.view socket) ((d.onSessionComplete id success).view socket) ∧
    (d.onSessionComplete id success).Listens socket := by
  unfold onSessionComplete
  generalize (if success then Result.success else .cancelled) = result
  cases found : d.sessionStore.find id with
  | none =>
    simp only [SessionStore.closeSession,found]
    exact ⟨.refl,listens⟩
  | some session =>
    have closes : (session.close result).toClosedEvent = .closed id ((session.close result).result.getD .error)
        (unlessEmpty (session.close result).error) := by
      rw [← listens.ids id session found]
      rfl
    have emitted := turns_event d uuid (session.close result).toClosedEvent (d.sessionStore.remove id) listens
      (ids_remove listens.ids id) (by rw [closes]; exact open_remove _ id)
    simp only [SessionStore.closeSession,found]
    split
    · obtain ⟨elected,after⟩ := turns_refresh _ uuid emitted.2
      exact ⟨emitted.1.trans elected,after⟩
    · exact emitted

-- An election before the last session is reported closed has the same outcome
-- as one before that session is removed.
theorem turns_closeSession (d : Daemon) (uuid id : QString) (result : Result) (listens : d.Listens socket) :
    Turns socket uuid (d.view socket) ((d.closeSession id result).view socket) ∧
    (d.closeSession id result).Listens socket := by
  unfold closeSession
  cases found : d.sessionStore.find id with
  | none =>
    simp only [SessionStore.closeSession,found]
    exact ⟨.refl,listens⟩
  | some session =>
    have closes : (session.close result).toClosedEvent = .closed id ((session.close result).result.getD .error)
        (unlessEmpty (session.close result).error) := by
      rw [← listens.ids id session found]
      rfl
    simp only [SessionStore.closeSession,found]
    split
    · cases outcome : d.providerRegistry.recomputeActiveProvider d.nowMs.1 d.isConnected with
      | mk changed elected =>
        have removed := listens_withSessionStore (d.sessionStore.remove id) listens (ids_remove listens.ids id)
        obtain ⟨heard,after⟩ := hear_refresh (d.withSessionStore (d.sessionStore.remove id)) removed outcome
        obtain ⟨told,later⟩ := hear_event _ (session.close result).toClosedEvent after
        have before : (d.withSessionStore (d.sessionStore.remove id)).view socket =
            {d.view socket with sessions:=(d.view socket).sessions \ {id}} :=
          congrArg (fun sessions => ({d.view socket with sessions} : View)) (open_remove d.sessionStore id)
        refine ⟨?_,later⟩
        rw [told,heard,closes,before]
        refine Turns.trans (.one (.elected (renewed_refl socket uuid _) _ _ outcome)) ?_
        exact .one (.emitted (.closed id _ _))
    · exact turns_event d uuid (session.close result).toClosedEvent (d.sessionStore.remove id) listens
        (ids_remove listens.ids id) (by rw [closes]; exact open_remove _ id)

theorem deed_turns (uuid : QString) (deed : Deed d e) (listens : d.Listens socket) :
    Turns socket uuid (d.view socket) (e.view socket) ∧ e.Listens socket := by
  cases deed with
  | quiet same => exact ⟨view_front same socket ▸ .refl,listens_front same listens⟩
  | created id source ctx => exact turns_createSession d uuid id source ctx listens
  | updated id change alike => exact turns_emitUpdated d uuid id change listens (fun s => (alike s).1)
  | counted id curRetry maxRetries => exact turns_counted d uuid id curRetry maxRetries listens
  | closed id result => exact turns_closeSession d uuid id result listens
  | completed id success => exact turns_onSessionComplete d uuid id success listens

theorem deeds_turns (uuid : QString) (deeds : Deeds d e) (listens : d.Listens socket) :
    Turns socket uuid (d.view socket) (e.view socket) ∧ e.Listens socket := by
  refine deeds.invariant (P := fun e => Turns socket uuid (d.view socket) (e.view socket) ∧ e.Listens socket) ?_ ⟨.refl,listens⟩
  intro m e deed before
  obtain ⟨turns,listens⟩ := before
  obtain ⟨more,after⟩ := deed_turns uuid deed listens
  exact ⟨turns.trans more,after⟩

end Daemon

namespace Agent

open Daemon (hear_one hear_status hear_refresh deeds_turns turns_refresh)

theorem turns_reelect (d : Daemon) (registry : ProviderRegistry) (listens : d.Listens socket)
    (renewed : Renewed socket uuid d.providerRegistry registry) :
    Turns socket uuid (d.view socket) ((d.withProviderRegistry registry).refreshActiveProvider.view socket) ∧
    (d.withProviderRegistry registry).refreshActiveProvider.Listens socket := by
  have replaced : (d.withProviderRegistry registry).Listens socket :=
    ⟨listens.connected,listens.patient,listens.once,listens.ids⟩
  cases outcome : registry.recomputeActiveProvider d.nowMs.1 d.isConnected with
  | mk changed elected =>
    obtain ⟨heard,after⟩ := hear_refresh (d.withProviderRegistry registry) replaced outcome
    rw [heard]
    exact ⟨.one (.elected renewed _ _ outcome),after⟩

theorem turns_reply (d : Daemon) (message : Message) (listens : d.Listens socket) (other : speaker ≠ socket) :
    (d.sendJson speaker message).view socket = d.view socket ∧ (d.sendJson speaker message).Listens socket := by
  obtain ⟨heard,after⟩ := hear_one d speaker message listens
  rw [decide_eq_false other,View.hear_untold] at heard
  exact ⟨heard,after⟩

theorem turns_fallback (d : Daemon) (uuid : QString) (reason : QString) (listens : d.Listens socket) :
    Turns socket uuid (d.view socket) ((if !d.hasActiveProvider && !d.sessionStore.isEmpty then
      d.ensureFallbackUiRunning reason else d).view socket) ∧
    (if !d.hasActiveProvider && !d.sessionStore.isEmpty then d.ensureFallbackUiRunning reason else d).Listens socket :=
  deeds_turns uuid (deeds_fallback d reason) listens

theorem turns_handleSubscribe (d : Daemon) (listens : d.Listens socket) (other : speaker ≠ socket) :
    (handleSubscribe d speaker).view socket = d.view socket ∧ (handleSubscribe d speaker).Listens socket := by
  have enlisted : ({d with subscribers:=d.subscribers ++ [speaker]} : Daemon).view socket = d.view socket := by
    unfold Daemon.view
    have same : (d.subscribers ++ [speaker]).contains socket = d.subscribers.contains socket := by
      simp [Ne.symm other]
    simp only [same]
    rfl
  have listed (fresh : d.subscribers.contains speaker = false) :
      ({d with subscribers:=d.subscribers ++ [speaker]} : Daemon).Listens socket := by
    refine ⟨listens.connected,listens.patient,?_,listens.ids⟩
    apply listens.once.append (List.nodup_singleton speaker)
    intro one present same
    cases List.mem_singleton.mp same
    rw [List.contains_iff_mem.mpr present] at fresh
    cases fresh
  have replayed (e : Daemon) (sessions : List (QString × Session)) (listens : e.Listens socket) :
      (e.sendAll (sessions.flatMap (fun entry => [(speaker,Message.event entry.2.toCreatedEvent),
        (speaker,Message.event entry.2.toUpdatedEvent)]))).view socket = e.view socket := by
    have nothing : (sessions.flatMap (fun entry => [(speaker,Message.event entry.2.toCreatedEvent),
        (speaker,Message.event entry.2.toUpdatedEvent)])).filter (fun message => message.1 = socket) = [] := by
      apply List.filter_eq_nil_iff.mpr
      intro message present same
      obtain ⟨entry,_,listed⟩ := List.mem_flatMap.mp present
      rcases List.mem_pair.mp listed with rfl | rfl <;> exact other (of_decide_eq_true same)
    rw [Daemon.heard_sendAll e _ listens.connected,nothing]
    simp
  have replied (e : Daemon) (message : Message) (same : e.view socket = d.view socket) (listens : e.Listens socket) :
      (e.sendJson speaker message).view socket = d.view socket ∧ (e.sendJson speaker message).Listens socket := by
    obtain ⟨heard,after⟩ := turns_reply e message listens other
    exact ⟨heard.trans same,after⟩
  unfold handleSubscribe
  simp only
  cases present : d.subscribers.contains speaker with
  | true =>
    simp only [if_true]
    split
    · exact replied _ _ (replayed d _ listens) (Daemon.listens_sendAll d _ listens)
    · exact replied d _ rfl listens
  | false =>
    simp only [Bool.false_eq_true,if_false]
    split
    · exact replied _ _ ((replayed _ _ (listed present)).trans enlisted) (Daemon.listens_sendAll _ _ (listed present))
    · exact replied _ _ enlisted (listed present)

theorem turns_handleNext (d : Daemon) (listens : d.Listens socket) (other : speaker ≠ socket) :
    (handleNext d speaker).view socket = d.view socket ∧ (handleNext d speaker).Listens socket := by
  unfold handleNext EventQueue.takeNext
  cases d.eventQueue.eventQueue with
  | nil =>
    refine ⟨rfl,listens.connected,?_,listens.once,listens.ids⟩
    intro waiting
    rcases List.mem_append.mp waiting with old | new
    · exact listens.patient old
    · exact other (List.mem_singleton.mp new).symm
  | cons event rest =>
    have taken : (d.withEventQueue {d.eventQueue with eventQueue:=rest}).Listens socket :=
      ⟨listens.connected,listens.patient,listens.once,listens.ids⟩
    exact turns_reply _ _ taken other

theorem register_renewed (registry : ProviderRegistry) (msg : QJsonObject) (uuid : QString) (nowMs : Int)
    (other : speaker ≠ socket) : Renewed socket uuid registry (registry.registerProvider speaker msg uuid nowMs).2 := by
  refine ⟨rfl,?_⟩
  intro one provider found
  simp only [ProviderRegistry.registerProvider,Table.find_insert] at found
  split at found
  · next same =>
    cases found
    rw [same]
    cases before : registry.uiProviders.find speaker with
    | none => exact .inr ⟨other,rfl⟩
    | some old =>
      simp only [Option.getD_some]
      split
      · exact .inr ⟨other,rfl⟩
      · exact .inl ⟨old,rfl,rfl⟩
  · exact .inl ⟨provider,found,rfl⟩

theorem heartbeat_renewed {registry later : ProviderRegistry} (uuid : QString)
    (beat : registry.heartbeat speaker nowMs = some later) : Renewed socket uuid registry later := by
  unfold ProviderRegistry.heartbeat at beat
  split at beat
  · cases beat
  · next old before =>
    cases beat
    refine ⟨rfl,?_⟩
    intro one provider found
    rw [Table.find_insert] at found
    split at found
    · next same => cases found; exact .inl ⟨old,same ▸ before,rfl⟩
    · exact .inl ⟨provider,found,rfl⟩

theorem unregister_renewed (registry : ProviderRegistry) (uuid : QString) (speaker : Socket) :
    Renewed socket uuid registry (registry.unregisterProvider speaker).2 := by
  refine ⟨rfl,?_⟩
  intro one provider found
  simp only [ProviderRegistry.unregisterProvider,Table.find_remove] at found
  split at found
  · cases found
  · exact .inl ⟨provider,found,rfl⟩

theorem handleUIRegister_elects (d : Daemon) (speaker : Socket) (msg : QJsonObject)
    (registered : d.providerRegistry.registerProvider speaker msg d.env.uuid d.nowMs.1 = (provider,joined))
    (outcome : joined.recomputeActiveProvider d.nowMs.2.nowMs.1 d.isConnected = (changed,elected)) :
    handleUIRegister d speaker msg =
      let e := (d.nowMs.2.nowMs.2.withProviderRegistry elected).sendJson speaker
        (.uiRegistered provider.id (decide (some speaker = elected.activeProvider)) provider.priority)
      if changed || decide (some speaker = elected.activeProvider) then e.emitProviderStatus else e := by
  unfold handleUIRegister
  simp only
  rw [show d.nowMs.2.providerRegistry.registerProvider speaker msg d.nowMs.2.env.uuid d.nowMs.1 = (provider,joined)
    from registered]
  simp only
  rw [Daemon.recomputed (d.nowMs.2.withProviderRegistry joined) outcome]
  rfl

theorem turns_handleUIRegister (d : Daemon) (msg : QJsonObject) (listens : d.Listens socket) (other : speaker ≠ socket) :
    Turns socket d.env.uuid (d.view socket) ((handleUIRegister d speaker msg).view socket) ∧
    (handleUIRegister d speaker msg).Listens socket := by
  have renewed := register_renewed d.providerRegistry msg d.env.uuid d.nowMs.1 other
  cases registered : d.providerRegistry.registerProvider speaker msg d.env.uuid d.nowMs.1 with
  | mk provider joined =>
  rw [registered] at renewed
  cases outcome : joined.recomputeActiveProvider d.nowMs.2.nowMs.1 d.isConnected with
  | mk changed elected =>
  have after : (d.nowMs.2.nowMs.2.withProviderRegistry elected).Listens socket :=
    ⟨listens.connected,listens.patient,listens.once,listens.ids⟩
  obtain ⟨same,replied⟩ := turns_reply _ (.uiRegistered provider.id (decide (some speaker = elected.activeProvider))
    provider.priority) after other
  obtain ⟨stated,later⟩ := hear_status _ replied
  have held : Turn socket d.env.uuid (d.view socket) ({d.view socket with registry:=elected}.hear
      (changed && (elected.contains socket || (d.view socket).subscribed)) elected.status) :=
    .elected renewed _ _ outcome
  rw [handleUIRegister_elects d speaker msg registered outcome]
  simp only
  cases changed with
  | true =>
    simp only [Bool.true_or,if_true]
    refine ⟨?_,later⟩
    rw [stated,same]
    rw [Bool.true_and] at held
    exact .one held
  | false =>
    have quietly : Turns socket d.env.uuid (d.view socket) {d.view socket with registry:=elected} := by
      have turn := held
      rw [Bool.false_and,View.hear_untold] at turn
      exact .one turn
    simp only [Bool.false_or]
    split
    · refine ⟨?_,later⟩
      rw [stated,same]
      exact quietly.trans (.one .restated)
    · exact ⟨same ▸ quietly,replied⟩

theorem turns_handleUIHeartbeat (d : Daemon) (uuid : QString) (listens : d.Listens socket) (other : speaker ≠ socket)
    (known : d.providerRegistry.contains speaker = true) :
    Turns socket uuid (d.view socket) ((handleUIHeartbeat d speaker).view socket) ∧
    (handleUIHeartbeat d speaker).Listens socket := by
  obtain ⟨old,before⟩ := (Table.contains_iff _ _).mp known
  have ticked : d.nowMs.2.Listens socket := ⟨listens.connected,listens.patient,listens.once,listens.ids⟩
  have beat : d.providerRegistry.heartbeat speaker d.nowMs.1 =
      some {d.providerRegistry with
        uiProviders:=d.providerRegistry.uiProviders.insert speaker {old with lastHeartbeatMs:=d.nowMs.1}} := by
    simp only [ProviderRegistry.heartbeat,before]
  obtain ⟨turns,after⟩ := turns_reelect d.nowMs.2 _ ticked (heartbeat_renewed uuid beat)
  unfold handleUIHeartbeat
  simp only [known,Bool.not_true,Bool.false_eq_true,if_false]
  rw [show d.nowMs.2.providerRegistry.heartbeat speaker d.nowMs.1 = _ from beat]
  obtain ⟨same,replied⟩ := turns_reply _ (.ok (some _)) after other
  exact ⟨same ▸ turns,replied⟩

theorem turns_handleUIUnregister (d : Daemon) (uuid : QString) (listens : d.Listens socket) (other : speaker ≠ socket)
    (known : d.providerRegistry.contains speaker = true) :
    Turns socket uuid (d.view socket) ((handleUIUnregister d speaker).view socket) ∧
    (handleUIUnregister d speaker).Listens socket := by
  obtain ⟨turns,after⟩ := turns_reelect d _ listens (unregister_renewed d.providerRegistry uuid speaker)
  obtain ⟨same,replied⟩ := turns_reply _ (.ok none) after other
  obtain ⟨more,later⟩ := turns_fallback _ uuid (text "provider-unregistered") replied
  unfold handleUIUnregister ProviderRegistry.unregisterProvider
  simp only [known]
  exact ⟨(same ▸ turns).trans more,later⟩

theorem talk_turns (talk : Talk d speaker e) (listens : d.Listens socket) (other : speaker ≠ socket) :
    (Turns socket d.env.uuid (d.view socket) (e.view socket) ∧ e.Listens socket) ∨ Daemon.Served d speaker e := by
  have same {e : Daemon} (heard : e.view socket = d.view socket ∧ e.Listens socket) :
      Turns socket d.env.uuid (d.view socket) (e.view socket) ∧ e.Listens socket := ⟨heard.1 ▸ .refl,heard.2⟩
  cases talk with
  | refused message foreign => exact .inl (same (turns_reply d _ listens other))
  | served served => exact .inr served
  | asked deeds => exact .inl (deeds_turns _ deeds listens)
  | pinged => exact .inl (same (turns_reply d _ listens other))
  | subscribed => exact .inl (same (turns_handleSubscribe d listens other))
  | waited => exact .inl (same (turns_handleNext d listens other))
  | registered msg => exact .inl (turns_handleUIRegister d msg listens other)
  | beat known => exact .inl (turns_handleUIHeartbeat d _ listens other known)
  | unregistered known => exact .inl (turns_handleUIUnregister d _ listens other known)

theorem turns_forgetProvider (d : Daemon) (uuid : QString) (listens : d.Listens socket) (other : speaker ≠ socket) :
    Turns socket uuid (d.view socket) ((forgetProvider d speaker).view socket) ∧
    (forgetProvider d speaker).Listens socket := by
  have erased : ({d with subscribers:=d.subscribers.erase speaker} : Daemon).view socket = d.view socket := by
    have same : (d.subscribers.erase speaker).contains socket = d.subscribers.contains socket := by
      rw [Bool.eq_iff_iff,List.contains_iff_mem,List.contains_iff_mem,List.mem_erase_of_ne (Ne.symm other)]
    unfold Daemon.view
    simp only [same]
    rfl
  have listed : ({d with subscribers:=d.subscribers.erase speaker} : Daemon).Listens socket :=
    ⟨listens.connected,listens.patient,listens.once.erase speaker,listens.ids⟩
  have unwaited (e : Daemon) (listens : e.Listens socket) :
      (e.withEventQueue (e.eventQueue.removeWaiter speaker)).Listens socket :=
    ⟨listens.connected,fun waiting => listens.patient (List.mem_filter.mp waiting).1,listens.once,listens.ids⟩
  unfold forgetProvider ProviderRegistry.removeSocket
  simp only
  split
  · obtain ⟨turns,after⟩ := turns_reelect _ _ listed (unregister_renewed d.providerRegistry uuid speaker)
    exact ⟨erased ▸ turns,unwaited _ after⟩
  · next absent =>
    have kept : (d.providerRegistry.unregisterProvider speaker).2 = d.providerRegistry := by
      unfold ProviderRegistry.unregisterProvider
      simp only [Table.remove_absent _ (Bool.eq_false_iff.mpr absent)]
    rw [kept]
    exact ⟨erased ▸ .refl,unwaited _ listed⟩

theorem turns_pruneStaleProviders (d : Daemon) (uuid : QString) (listens : d.Listens socket) :
    Turns socket uuid (d.view socket) ((pruneStaleProviders d).view socket) ∧ (pruneStaleProviders d).Listens socket := by
  obtain ⟨turns,after⟩ := turns_refresh d uuid listens
  obtain ⟨more,later⟩ := turns_fallback _ uuid (text "provider-prune") after
  exact ⟨turns.trans more,later⟩

end Agent

-- Inputs that come over a socket, or concern its connection.
def Event.concerns (event : Event) (socket : Socket) : Prop :=
  match event with
  | .message speaker .. | .disconnected speaker | .socketState speaker _ => speaker = socket
  | .connected _ | .initiateAuthentication .. | .polkitSignal .. | .cancelAuthentication | .timeout _ | .maintenance =>
    False

namespace Daemon

theorem listens_setSocketState (d : Daemon) (state : LocalSocketState) (listens : d.Listens socket)
    (other : speaker ≠ socket) : (d.setSocketState speaker state).view socket = d.view socket ∧
    (d.setSocketState speaker state).Listens socket := by
  unfold setSocketState
  split
  · exact ⟨rfl,listens⟩
  · refine ⟨rfl,?_,listens.patient,listens.once,listens.ids⟩
    unfold isConnected
    simp only [Table.find_insert_other _ _ (Ne.symm other)]
    exact listens.connected

theorem turns_disconnect (d : Daemon) (uuid : QString) (settled : d.Settled) (listens : d.Listens socket)
    (other : speaker ≠ socket) :
    Turns socket uuid (d.view socket) ((d.disconnect speaker).view socket) ∧ (d.disconnect speaker).Listens socket := by
  obtain ⟨same,unconnected⟩ := listens_setSocketState d .unconnected listens other
  obtain ⟨forgot,forgotten⟩ := Agent.turns_forgetProvider _ uuid unconnected other
  obtain ⟨cleaned,after⟩ := deeds_turns uuid (Agent.deeds_onClientDisconnected _ speaker) forgotten
  have without := Agent.without_onClientDisconnected (d.setSocketState speaker .unconnected) speaker
    (settled_setSocketState d speaker _ settled)
  rw [same] at forgot
  have turns := forgot.trans cleaned
  unfold disconnect
  generalize Agent.onClientDisconnected (d.setSocketState speaker .unconnected) speaker = e at *
  have kept := registry_deleteSocket e without
  refine ⟨?_,?_,after.patient,after.once,after.ids⟩
  · have view : (e.deleteSocket speaker).view socket = e.view socket := by
      unfold Daemon.view
      rw [kept]
      rfl
    rw [view]
    exact turns
  · unfold isConnected deleteSocket
    simp only [Table.find_remove,if_neg (Ne.symm other)]
    exact after.connected

theorem turns_connect (d : Daemon) (peerPid : Pid) (listens : d.Listens socket) :
    (d.connect peerPid).view socket = d.view socket ∧ (d.connect peerPid).Listens socket := by
  refine ⟨rfl,?_,listens.patient,listens.once,listens.ids⟩
  unfold isConnected connect
  by_cases same : socket = d.nextSocket
  · subst same
    simp only [Table.find_insert_self,decide_true]
  · simp only [Table.find_insert_other _ _ same]
    exact listens.connected

theorem handle_turns (d : Daemon) (event : Event) (settled : d.Settled) (listens : d.Listens socket)
    (others : ¬event.concerns socket) :
    (Turns socket d.env.uuid (d.view socket) ((d.handle event).view socket) ∧ (d.handle event).Listens socket) ∨
    ∃ speaker, speaker ≠ socket ∧ Served d speaker (d.handle event) := by
  have same {e : Daemon} (heard : e.view socket = d.view socket ∧ e.Listens socket) :
      Turns socket d.env.uuid (d.view socket) (e.view socket) ∧ e.Listens socket := ⟨heard.1 ▸ .refl,heard.2⟩
  cases event with
  | connected peerPid => exact .inl (same (turns_connect d peerPid listens))
  | socketState speaker state => exact .inl (same (listens_setSocketState d state listens others))
  | message speaker type msg =>
    rcases Agent.talk_turns (Agent.talk_handleMessage d speaker type msg) listens others with turns | served
    · exact .inl turns
    · exact .inr ⟨speaker,others,served⟩
  | disconnected speaker => exact .inl (turns_disconnect d _ settled listens others)
  | initiateAuthentication actionId message iconName details cookie identities =>
    exact .inl (deeds_turns _ (PolkitListener.deeds_initiateAuthentication d _ _ _ _ _ _) listens)
  | polkitSignal session signal =>
    exact .inl (deeds_turns _ (PolkitListener.strides_deeds (PolkitListener.strides_signal d _ _)) listens)
  | cancelAuthentication =>
    exact .inl (deeds_turns _ (PolkitListener.strides_deeds (PolkitListener.strides_cancelAuthentication d)) listens)
  | timeout timer => exact .inl (deeds_turns _ (PinentryManager.deeds_timeout d timer) listens)
  | maintenance => exact .inl (Agent.turns_pruneStaleProviders d _ listens)

end Daemon

end BbAuth
