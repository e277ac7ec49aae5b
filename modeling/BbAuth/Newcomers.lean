import BbAuth.Hearing
import BbAuth.RequestLedger
import BbAuth.SessionHistory

open Library
namespace BbAuth

open View (Turns)

namespace Daemon

-- Nobody comes in, and only sockets that are known are told anything.
structure Within (d e : Daemon) : Prop where
  sockets : e.sockets = d.sockets
  subscribers : e.subscribers = d.subscribers
  providers : ∀ socket, e.providerRegistry.contains socket = true → d.providerRegistry.contains socket = true
  waiters : ∀ socket ∈ e.eventQueue.nextWaiters, socket ∈ d.eventQueue.nextWaiters
  deliveries : ∀ delivery ∈ e.front.deliveries, delivery ∈ d.front.deliveries ∨ d.sockets.contains delivery.1 = true

theorem within_front {d e : Daemon} (same : e.front = d.front) : Within d e where
  sockets := congrArg Front.sockets same
  subscribers := congrArg Front.subscribers same
  providers socket present := by
    rwa [show e.providerRegistry = d.providerRegistry from congrArg Front.providerRegistry same] at present
  waiters socket present := by
    rwa [show e.eventQueue = d.eventQueue from congrArg Front.eventQueue same] at present
  deliveries delivery present := .inl (congrArg Front.deliveries same ▸ present)

theorem Within.trans (first : Within d m) (second : Within m e) : Within d e where
  sockets := second.sockets.trans first.sockets
  subscribers := second.subscribers.trans first.subscribers
  providers socket present := first.providers socket (second.providers socket present)
  waiters socket present := first.waiters socket (second.waiters socket present)
  deliveries delivery present := by
    rcases second.deliveries delivery present with old | known
    · exact first.deliveries delivery old
    · exact .inr (first.sockets ▸ known)

theorem within_sendAll (d : Daemon) (messages : List (Socket × Message)) : Within d (d.sendAll messages) where
  sockets := congrArg Front.sockets (sendAll_front d messages)
  subscribers := congrArg Front.subscribers (sendAll_front d messages)
  providers socket present := registry_sendAll d messages ▸ present
  waiters socket present := by
    rwa [show (d.sendAll messages).eventQueue = d.eventQueue from congrArg Front.eventQueue (sendAll_front d messages)]
      at present
  deliveries delivery present := by
    rw [show (d.sendAll messages).front.deliveries = _ from congrArg Front.deliveries (sendAll_front d messages)] at present
    rcases List.mem_append.mp present with new | old
    · have connected := (List.mem_filter.mp (List.mem_reverse.mp new)).2
      refine .inr ?_
      unfold isConnected at connected
      cases found : d.sockets.find delivery.1 with
      | none => simp [found] at connected
      | some info => exact (Table.contains_iff _ _).mpr ⟨info,found⟩
    · exact .inl old

theorem within_sendJson (d : Daemon) (socket : Socket) (message : Message) : Within d (d.sendJson socket message) :=
  within_sendAll d [(socket,message)]

theorem within_emitSessionEvent (d : Daemon) (event : SessionEvent) : Within d (d.emitSessionEvent event) := by
  obtain ⟨_,left⟩ := drain_dests d.eventQueue.nextWaiters (d.eventQueue.enqueue event).eventQueue
  have logged : Within d (d.log (.emitted event)) := within_front (front_log d rfl)
  have queued : Within (d.log (.emitted event)) ((d.log (.emitted event)).withEventQueue (EventRouter.route
      SessionEvent.type d.providerRegistry d.eventQueue event d.subscribers d.isValid).2) :=
    ⟨rfl,rfl,fun _ present => present,fun socket present => left socket present,fun _ present => .inl present⟩
  exact logged.trans (queued.trans (within_sendAll _ _))

theorem within_refreshActiveProvider (d : Daemon) : Within d d.refreshActiveProvider := by
  have elected : Within d d.recomputeActiveProvider.2 :=
    ⟨rfl,rfl,fun _ present => ProviderRegistry.recompute_contains _ _ _ present,fun _ present => present,
      fun _ present => .inl present⟩
  unfold refreshActiveProvider
  simp only
  split
  · exact elected.trans (within_sendAll _ _)
  · exact elected

theorem within_withSessionStore (d : Daemon) (store : SessionStore) : Within d (d.withSessionStore store) :=
  ⟨rfl,rfl,fun _ present => present,fun _ present => present,fun _ present => .inl present⟩

theorem within_deed (deed : Deed d e) : Within d e := by
  have emitted (event : SessionEvent) (store : SessionStore) :=
    (within_withSessionStore d store).trans (within_emitSessionEvent _ event)
  cases deed with
  | quiet same => exact within_front same
  | created id source ctx =>
    unfold createSession
    simp only
    split
    · exact (emitted _ _).trans (within_front (front_ensureFallbackUiRunning _ _))
    · exact emitted _ _
  | updated id change alike =>
    unfold emitUpdated
    split
    · exact within_front rfl
    · exact emitted _ _
  | counted id curRetry maxRetries =>
    unfold updateSessionPinentryRetry
    split
    · exact within_front rfl
    · exact within_withSessionStore d _
  | closed id result =>
    unfold closeSession
    split
    · exact within_front rfl
    · apply Within.trans _ (within_emitSessionEvent _ _)
      split
      · exact (within_withSessionStore d _).trans (within_refreshActiveProvider _)
      · exact within_withSessionStore d _
  | completed id success =>
    unfold onSessionComplete
    split
    · exact within_front rfl
    · simp only
      split
      · exact (emitted _ _).trans (within_refreshActiveProvider _)
      · exact emitted _ _

theorem within_deeds (deeds : Deeds d e) : Within d e :=
  deeds.invariant (P := Within d) (fun _ _ deed within => within.trans (within_deed deed)) (within_front rfl)

-- The same, except that one socket may come in.
structure Beside (speaker : Socket) (d e : Daemon) : Prop where
  sockets : e.sockets = d.sockets
  once : d.subscribers.Nodup → e.subscribers.Nodup
  subscribers : ∀ socket ∈ e.subscribers, socket ∈ d.subscribers ∨ socket = speaker
  providers : ∀ socket, e.providerRegistry.contains socket = true → d.providerRegistry.contains socket = true ∨ socket = speaker
  waiters : ∀ socket ∈ e.eventQueue.nextWaiters, socket ∈ d.eventQueue.nextWaiters ∨ socket = speaker
  deliveries : ∀ delivery ∈ e.front.deliveries, delivery ∈ d.front.deliveries ∨ d.sockets.contains delivery.1 = true

theorem Within.beside (within : Within d e) (speaker : Socket) : Beside speaker d e where
  sockets := within.sockets
  once := within.subscribers ▸ id
  subscribers _ present := .inl (within.subscribers ▸ present)
  providers socket present := .inl (within.providers socket present)
  waiters socket present := .inl (within.waiters socket present)
  deliveries := within.deliveries

theorem Beside.then (first : Beside speaker d m) (second : Within m e) : Beside speaker d e where
  sockets := second.sockets.trans first.sockets
  once once := second.subscribers ▸ first.once once
  subscribers socket present := first.subscribers socket (second.subscribers ▸ present)
  providers socket present := first.providers socket (second.providers socket present)
  waiters socket present := first.waiters socket (second.waiters socket present)
  deliveries delivery present := by
    rcases second.deliveries delivery present with old | known
    · exact first.deliveries delivery old
    · exact .inr (first.sockets ▸ known)

end Daemon

namespace Agent

open Daemon (Within Beside within_front within_sendAll within_sendJson within_refreshActiveProvider within_deeds)

theorem beside_handleSubscribe (d : Daemon) (speaker : Socket) : Beside speaker d (handleSubscribe d speaker) := by
  have enlisted (fresh : d.subscribers.contains speaker = false) :
      Beside speaker d {d with subscribers:=d.subscribers ++ [speaker]} := by
    refine ⟨rfl,?_,?_,fun _ present => .inl present,fun _ present => .inl present,fun _ present => .inl present⟩
    · intro once
      apply once.append (List.nodup_singleton speaker)
      intro one present same
      cases List.mem_singleton.mp same
      rw [List.contains_iff_mem.mpr present] at fresh
      cases fresh
    · intro socket present
      rcases List.mem_append.mp present with old | new
      · exact .inl old
      · exact .inr (List.mem_singleton.mp new)
  have same : Beside speaker d d := (within_front rfl).beside speaker
  unfold handleSubscribe
  apply Beside.then _ (within_sendJson _ _ _)
  cases present : d.subscribers.contains speaker with
  | true =>
    simp only [if_true]
    split
    · exact same.then (within_sendAll _ _)
    · exact same
  | false =>
    simp only [Bool.false_eq_true,if_false]
    split
    · exact (enlisted present).then (within_sendAll _ _)
    · exact enlisted present

theorem beside_handleNext (d : Daemon) (speaker : Socket) : Beside speaker d (handleNext d speaker) := by
  unfold handleNext EventQueue.takeNext
  cases d.eventQueue.eventQueue with
  | nil =>
    refine ⟨rfl,id,fun _ present => .inl present,fun _ present => .inl present,?_,fun _ present => .inl present⟩
    intro socket present
    rcases List.mem_append.mp present with old | new
    · exact .inl old
    · exact .inr (List.mem_singleton.mp new)
  | cons event rest =>
    have taken : Beside speaker d (d.withEventQueue {d.eventQueue with eventQueue:=rest}) :=
      ⟨rfl,id,fun _ present => .inl present,fun _ present => .inl present,fun _ present => .inl present,
        fun _ present => .inl present⟩
    exact taken.then (within_sendJson _ _ _)

theorem beside_handleUIRegister (d : Daemon) (speaker : Socket) (msg : QJsonObject) :
    Beside speaker d (handleUIRegister d speaker msg) := by
  cases registered : d.providerRegistry.registerProvider speaker msg d.env.uuid d.nowMs.1 with
  | mk provider joined =>
  cases outcome : joined.recomputeActiveProvider d.nowMs.2.nowMs.1 d.isConnected with
  | mk changed elected =>
  have mine : ∀ socket, elected.contains socket = true → d.providerRegistry.contains socket = true ∨ socket = speaker := by
    intro socket present
    have before : joined.contains socket = true := by
      have elected_is : elected = (joined.recomputeActiveProvider d.nowMs.2.nowMs.1 d.isConnected).2 := by rw [outcome]
      rw [elected_is] at present
      exact ProviderRegistry.recompute_contains _ _ _ present
    have joined_is : joined = (d.providerRegistry.registerProvider speaker msg d.env.uuid d.nowMs.1).2 := by rw [registered]
    rw [joined_is] at before
    by_cases same : socket = speaker
    · exact .inr same
    · simp only [ProviderRegistry.contains,ProviderRegistry.registerProvider,Table.contains,
        Table.find_insert_other _ _ same] at before
      exact .inl before
  have entered : Beside speaker d (d.nowMs.2.nowMs.2.withProviderRegistry elected) :=
    ⟨rfl,id,fun _ present => .inl present,mine,fun _ present => .inl present,fun _ present => .inl present⟩
  rw [handleUIRegister_elects d speaker msg registered outcome]
  simp only
  split
  · exact (entered.then (within_sendJson _ _ _)).then (within_sendAll _ _)
  · exact entered.then (within_sendJson _ _ _)

theorem within_handleUIHeartbeat (d : Daemon) (speaker : Socket) (known : d.providerRegistry.contains speaker = true) :
    Within d (handleUIHeartbeat d speaker) := by
  obtain ⟨old,before⟩ := (Table.contains_iff _ _).mp known
  have beat : Within d (d.nowMs.2.withProviderRegistry ((d.nowMs.2.providerRegistry.heartbeat speaker d.nowMs.1).getD
      d.nowMs.2.providerRegistry)) := by
    refine ⟨rfl,rfl,?_,fun _ present => present,fun _ present => .inl present⟩
    intro socket present
    simp only [Daemon.withProviderRegistry,ProviderRegistry.heartbeat,show d.nowMs.2.providerRegistry = d.providerRegistry
      from rfl,before,Option.getD_some,ProviderRegistry.contains,Table.contains,Table.find_insert] at present
    split at present
    · next same => rw [same]; exact known
    · exact present
  unfold handleUIHeartbeat
  simp only [known,Bool.not_true,Bool.false_eq_true,if_false]
  exact beat.trans ((within_refreshActiveProvider _).trans (within_sendJson _ _ _))

theorem within_unregister (d : Daemon) (speaker : Socket) :
    Within d (d.withProviderRegistry (d.providerRegistry.unregisterProvider speaker).2) := by
  refine ⟨rfl,rfl,?_,fun _ present => present,fun _ present => .inl present⟩
  intro socket present
  simp only [Daemon.withProviderRegistry,ProviderRegistry.unregisterProvider,ProviderRegistry.contains,Table.contains,
    Table.find_remove] at present
  split at present
  · cases present
  · exact present

theorem within_handleUIUnregister (d : Daemon) (speaker : Socket) (known : d.providerRegistry.contains speaker = true) :
    Within d (handleUIUnregister d speaker) := by
  have replied := (within_unregister d speaker).trans <| (within_refreshActiveProvider _).trans
    (within_sendJson _ speaker (.ok none))
  have after := replied.trans (within_deeds (deeds_fallback _ (text "provider-unregistered")))
  unfold handleUIUnregister ProviderRegistry.unregisterProvider
  simp only [known]
  exact after

theorem within_forgetProvider (d : Daemon) (speaker : Socket) :
    Within {d with subscribers:=d.subscribers.erase speaker} (forgetProvider d speaker) := by
  have unwaited (e : Daemon) : Within e (e.withEventQueue (e.eventQueue.removeWaiter speaker)) :=
    ⟨rfl,rfl,fun _ present => present,fun _ present => (List.mem_filter.mp present).1,fun _ present => .inl present⟩
  have removed := within_unregister {d with subscribers:=d.subscribers.erase speaker} speaker
  unfold forgetProvider ProviderRegistry.removeSocket
  simp only
  split
  · exact removed.trans ((within_refreshActiveProvider _).trans (unwaited _))
  · exact removed.trans (unwaited _)

theorem within_served (served : Daemon.Served d speaker e) : Within d e := by
  cases served with
  | quietly deeds => exact (within_deeds deeds).trans (within_sendJson _ _ _)
  | keyring deeds asked gone answer | pinentry deeds asked gone answer =>
    exact (within_deeds deeds).trans ((within_sendJson _ _ _).trans (within_sendJson _ _ _))

theorem beside_talk (talk : Talk d speaker e) : Beside speaker d e := by
  cases talk with
  | refused message foreign => exact (within_sendJson d _ _).beside speaker
  | served served => exact (within_served served).beside speaker
  | asked deeds => exact (within_deeds deeds).beside speaker
  | pinged => exact (within_sendJson d _ _).beside speaker
  | subscribed => exact beside_handleSubscribe d speaker
  | waited => exact beside_handleNext d speaker
  | registered msg => exact beside_handleUIRegister d speaker msg
  | beat known => exact (within_handleUIHeartbeat d speaker known).beside speaker
  | unregistered known => exact (within_handleUIUnregister d speaker known).beside speaker

end Agent

namespace Daemon

-- Only sockets that are known hear of anything, and none that is yet to come
-- was ever told anything.
structure Known (d : Daemon) : Prop where
  once : d.subscribers.Nodup
  subscribers : ∀ socket ∈ d.subscribers, d.sockets.contains socket = true
  providers : ∀ socket, d.providerRegistry.contains socket = true → d.sockets.contains socket = true
  waiters : ∀ socket ∈ d.eventQueue.nextWaiters, d.sockets.contains socket = true
  deliveries : ∀ delivery ∈ d.front.deliveries, delivery.1 < d.nextSocket

theorem beside_known (beside : Beside speaker d e) (present : d.sockets.contains speaker = true)
    (below : ∀ socket, d.sockets.contains socket = true → socket < d.nextSocket) (later : d.nextSocket ≤ e.nextSocket)
    (known : Known d) : Known e := by
  have either (socket : Socket) (came : d.sockets.contains socket = true ∨ socket = speaker) :
      e.sockets.contains socket = true := by
    rw [beside.sockets]
    rcases came with old | rfl
    · exact old
    · exact present
  refine ⟨beside.once known.once,?_,?_,?_,?_⟩
  · intro socket listed
    exact either socket ((beside.subscribers socket listed).imp_left (known.subscribers socket))
  · intro socket listed
    exact either socket ((beside.providers socket listed).imp_left (known.providers socket))
  · intro socket listed
    exact either socket ((beside.waiters socket listed).imp_left (known.waiters socket))
  · intro delivery told
    rcases beside.deliveries delivery told with old | connected
    · exact Nat.lt_of_lt_of_le (known.deliveries delivery old) later
    · exact Nat.lt_of_lt_of_le (below _ connected) later

theorem within_known (within : Within d e) (below : ∀ socket, d.sockets.contains socket = true → socket < d.nextSocket)
    (later : d.nextSocket ≤ e.nextSocket) (known : Known d) : Known e := by
  have inside (socket : Socket) (present : d.sockets.contains socket = true) : e.sockets.contains socket = true :=
    within.sockets ▸ present
  refine ⟨within.subscribers ▸ known.once,?_,?_,?_,?_⟩
  · intro socket listed
    exact inside socket (known.subscribers socket (within.subscribers ▸ listed))
  · intro socket listed
    exact inside socket (known.providers socket (within.providers socket listed))
  · intro socket listed
    exact inside socket (known.waiters socket (within.waiters socket listed))
  · intro delivery told
    rcases within.deliveries delivery told with old | connected
    · exact Nat.lt_of_lt_of_le (known.deliveries delivery old) later
    · exact Nat.lt_of_lt_of_le (below _ connected) later

theorem setSocketState_contains (d : Daemon) (speaker other : Socket) (state : LocalSocketState) :
    (d.setSocketState speaker state).sockets.contains other = d.sockets.contains other := by
  unfold setSocketState
  split
  · rfl
  · next info found =>
    simp only [Table.contains,Table.find_insert]
    split
    · next same => simp [same,found]
    · rfl

theorem setSocketState_known (d : Daemon) (speaker : Socket) (state : LocalSocketState) (known : Known d) :
    Known (d.setSocketState speaker state) := by
  have same := setSocketState_contains d speaker
  have fields : (d.setSocketState speaker state).subscribers = d.subscribers ∧
      (d.setSocketState speaker state).providerRegistry = d.providerRegistry ∧
      (d.setSocketState speaker state).eventQueue = d.eventQueue ∧
      (d.setSocketState speaker state).front.deliveries = d.front.deliveries ∧
      (d.setSocketState speaker state).nextSocket = d.nextSocket := by
    unfold setSocketState
    split <;> exact ⟨rfl,rfl,rfl,rfl,rfl⟩
  obtain ⟨subscribers,registry,queue,deliveries,next⟩ := fields
  refine ⟨subscribers ▸ known.once,?_,?_,?_,?_⟩
  · rw [subscribers]
    intro socket listed
    rw [same]
    exact known.subscribers socket listed
  · rw [registry]
    intro socket listed
    rw [same]
    exact known.providers socket listed
  · rw [queue]
    intro socket listed
    rw [same]
    exact known.waiters socket listed
  · rw [deliveries,next]
    exact known.deliveries

theorem disconnect_known (d : Daemon) (speaker : Socket) (settled : d.Settled) (known : Known d)
    (below : ∀ socket, d.sockets.contains socket = true → socket < d.nextSocket)
    (later : d.nextSocket ≤ (d.disconnect speaker).nextSocket) : Known (d.disconnect speaker) := by
  have silent := setSocketState_known d speaker .unconnected known
  have before (socket : Socket) := setSocketState_contains d speaker socket .unconnected
  have next : (d.setSocketState speaker .unconnected).nextSocket = d.nextSocket := by
    unfold setSocketState
    split <;> rfl
  have forgot := Agent.within_forgetProvider (d.setSocketState speaker .unconnected) speaker
  have cleaned := within_deeds (Agent.deeds_onClientDisconnected (d.setSocketState speaker .unconnected) speaker)
  have without := Agent.without_onClientDisconnected (d.setSocketState speaker .unconnected) speaker
    (settled_setSocketState d speaker _ settled)
  have within := forgot.trans cleaned
  unfold disconnect at later ⊢
  generalize Agent.onClientDisconnected (d.setSocketState speaker .unconnected) speaker = e at *
  have unwaited : speaker ∉ e.eventQueue.nextWaiters := by
    intro waiting
    have apart : speaker ≠ speaker := of_decide_eq_true (List.mem_filter.mp (cleaned.waiters speaker waiting)).2
    exact apart rfl
  have left (socket : Socket) (present : (d.setSocketState speaker .unconnected).sockets.contains socket = true)
      (other : socket ≠ speaker) : (e.deleteSocket speaker).sockets.contains socket = true := by
    unfold deleteSocket
    simp only [Table.contains,Table.find_remove,if_neg other]
    rw [within.sockets]
    exact present
  have registry := registry_deleteSocket e without
  refine ⟨?_,?_,?_,?_,?_⟩
  · change e.subscribers.Nodup
    rw [within.subscribers]
    exact silent.once.erase speaker
  · intro socket listed
    change socket ∈ e.subscribers at listed
    rw [within.subscribers] at listed
    obtain ⟨other,subscribed⟩ := (silent.once.mem_erase_iff).mp listed
    exact left socket (silent.subscribers socket subscribed) other
  · intro socket listed
    rw [registry] at listed
    have other : socket ≠ speaker := by
      rintro rfl
      rw [without.absent] at listed
      cases listed
    exact left socket (silent.providers socket (within.providers socket listed)) other
  · intro socket waiting
    have other : socket ≠ speaker := by
      rintro rfl
      exact unwaited waiting
    exact left socket (silent.waiters socket (within.waiters socket waiting)) other
  · intro delivery told
    rcases within.deliveries delivery told with old | connected
    · exact Nat.lt_of_lt_of_le (next ▸ silent.deliveries delivery old) later
    · exact Nat.lt_of_lt_of_le (below _ ((before delivery.1).symm.trans connected)) later

theorem connect_known (d : Daemon) (peerPid : Pid) (known : Known d) : Known (d.connect peerPid) := by
  have still (socket : Socket) (present : d.sockets.contains socket = true) :
      (d.connect peerPid).sockets.contains socket = true := by
    unfold connect
    simp only [Table.contains,Table.find_insert]
    split
    · rfl
    · exact present
  exact ⟨known.once,fun socket listed => still socket (known.subscribers socket listed),
    fun socket listed => still socket (known.providers socket listed),
    fun socket listed => still socket (known.waiters socket listed),
    fun delivery told => Nat.lt_succ_of_lt (known.deliveries delivery told)⟩

theorem step_nextSocket (d : Daemon) (input : Input) (allowed : daemon.enabled d input) :
    d.nextSocket ≤ (daemon.step d input).nextSocket := by
  have acted : (daemon.step d input).core.records = d.core.records.act (d.action input) :=
    Core.acts_records (acts_step d input allowed)
  have grown := Records.act_nextSocket d.core.records (d.action input)
  rwa [← acted] at grown

theorem reached_known (path : daemon.Reached d) : Known d := by
  apply path.invariant (P := Known)
  · exact ⟨List.nodup_nil,List.forall_mem_nil _,fun _ absent => absurd absent Bool.false_ne_true,
      List.forall_mem_nil _,List.forall_mem_nil _⟩
  · intro d input prior known allowed
    have below : ∀ socket, d.sockets.contains socket = true → socket < d.nextSocket := (reached_records prior).below
    have later := step_nextSocket d input allowed
    have fresh : Known {d with env:=input.env} :=
      ⟨known.once,known.subscribers,known.providers,known.waiters,known.deliveries⟩
    have elected := reached_settled prior
    have settled : ({d with env:=input.env} : Daemon).Settled := elected
    have deeds {e : Daemon} (deeds : Deeds {d with env:=input.env} e) (later : d.nextSocket ≤ e.nextSocket) : Known e :=
      within_known (within_deeds deeds) below later fresh
    obtain ⟨env,event⟩ := input
    cases event with
    | connected peerPid => exact connect_known _ peerPid fresh
    | socketState speaker state => exact setSocketState_known _ speaker state fresh
    | message speaker type msg =>
      exact beside_known (Agent.beside_talk (Agent.talk_handleMessage _ speaker type msg)) allowed below later fresh
    | disconnected speaker => exact disconnect_known _ speaker settled fresh below later
    | initiateAuthentication actionId message iconName details cookie identities =>
      exact deeds (PolkitListener.deeds_initiateAuthentication _ _ _ _ _ _ _) later
    | polkitSignal session signal =>
      exact deeds (PolkitListener.strides_deeds (PolkitListener.strides_signal _ _ _)) later
    | cancelAuthentication =>
      exact deeds (PolkitListener.strides_deeds (PolkitListener.strides_cancelAuthentication _)) later
    | timeout timer => exact deeds (PinentryManager.deeds_timeout _ _) later
    | maintenance =>
      exact within_known ((within_refreshActiveProvider _).trans (within_deeds (Agent.deeds_fallback _
        (text "provider-prune")))) below later fresh

theorem newcomer_unknown (path : daemon.Reached d) : d.sockets.contains d.nextSocket = false := by
  refine Bool.eq_false_iff.mpr fun present => ?_
  have below : d.nextSocket < d.nextSocket := (reached_records path).below d.nextSocket present
  exact Nat.lt_irrefl _ below

theorem newcomer_view (path : daemon.Reached d) (env : Env) (peerPid : Pid) :
    (daemon.step d ⟨env,.connected peerPid⟩).Listens d.nextSocket ∧
    ((daemon.step d ⟨env,.connected peerPid⟩).view d.nextSocket).registry.contains d.nextSocket = false ∧
    ((daemon.step d ⟨env,.connected peerPid⟩).view d.nextSocket).subscribed = false ∧
    ((daemon.step d ⟨env,.connected peerPid⟩).view d.nextSocket).heard = [] := by
  have known := reached_known path
  have unknown := newcomer_unknown path
  have apart {present : Prop} (contained : present → d.sockets.contains d.nextSocket = true) : ¬present := by
    intro listed
    have held := contained listed
    rw [unknown] at held
    cases held
  refine ⟨⟨?_,apart (known.waiters d.nextSocket),known.once,(reached_announced path).ids⟩,
    Bool.eq_false_iff.mpr (apart (known.providers d.nextSocket)),Bool.eq_false_iff.mpr ?_,?_⟩
  · unfold daemon step handle connect isConnected
    simp only [Table.find_insert_self,decide_true]
  · intro listed
    exact apart (known.subscribers d.nextSocket) (List.contains_iff_mem.mp listed)
  · change heardBy d.nextSocket d.front.deliveries = []
    unfold heardBy
    rw [List.filter_eq_nil_iff.mpr]
    · rfl
    · intro delivery told same
      exact Nat.ne_of_lt (known.deliveries delivery told) (of_decide_eq_true same)

end Daemon

end BbAuth
