import BbAuth.Hearing

open Library
namespace BbAuth.Daemon

variable {d : Daemon} {socket : Socket} {id : QString} {session : Session}

-- The condition under which handleSubscribe shows the open sessions.
def canReceiveInteractiveEvents (d : Daemon) (socket : Socket) : Bool :=
  !d.providerRegistry.contains socket || decide (some socket = d.providerRegistry.activeProvider)

-- The deliveries of a subscription show an open session.
def Replays (d : Daemon) (socket : Socket) (session : Session) : Prop :=
  ∃ new, (Agent.handleSubscribe d socket).front.deliveries = new ++ d.front.deliveries ∧
    (socket,.event session.toCreatedEvent) ∈ new ∧ (socket,.event session.toUpdatedEvent) ∈ new

-- route delivers the event to the socket before it serves the next waiters.
def Routes (d : Daemon) (socket : Socket) (event : SessionEvent) : Prop :=
  d.isConnected socket = true ∧
    (socket,event) ∈ EventRouter.direct SessionEvent.type d.providerRegistry event d.subscribers d.isValid

def ReplayAgrees (d : Daemon) (socket : Socket) : Prop :=
  ∀ id session, d.sessionStore.find id = some session → ∀ event, d.Replays socket session ↔ d.Routes socket event

-- A session is shown whose later events are withheld.
def Withholds (d : Daemon) (socket : Socket) : Prop :=
  ∃ id session, d.sessionStore.find id = some session ∧ d.Replays socket session ∧
    ∃ event : SessionEvent, event.id = id ∧ ¬d.Routes socket event

-- A socket that is no provider subscribed beside an active provider, and there
-- is something to show it.
def Bystands (d : Daemon) (socket : Socket) : Prop :=
  d.sessionStore.isEmpty = false ∧ d.isConnected socket = true ∧ d.hasActiveProvider = true ∧
    d.providerRegistry.contains socket = false

def replayed (d : Daemon) (socket : Socket) : List (Socket × Message) :=
  d.sessionStore.toList.flatMap (fun entry =>
    [(socket,Message.event entry.2.toCreatedEvent),(socket,Message.event entry.2.toUpdatedEvent)])

theorem mem_replayed (socket : Socket) (found : d.sessionStore.find id = some session) :
    (socket,.event session.toCreatedEvent) ∈ d.replayed socket ∧
      (socket,.event session.toUpdatedEvent) ∈ d.replayed socket := by
  have listed := (Table.mem_toList d.sessionStore id session).mpr found
  exact ⟨List.mem_flatMap.mpr ⟨(id,session),listed,List.mem_cons_self⟩,
    List.mem_flatMap.mpr ⟨(id,session),listed,List.mem_cons_of_mem _ List.mem_cons_self⟩⟩

-- The replay is sent first, and the acknowledgement after it.
theorem handleSubscribe_ends (d : Daemon) (socket : Socket) :
    ∃ (e : Daemon) (reply : Message), Agent.handleSubscribe d socket = e.sendJson socket reply ∧ (∀ event, reply ≠ .event event) ∧
      e.sockets = d.sockets ∧ e.front.deliveries =
        ((if d.canReceiveInteractiveEvents socket then d.replayed socket else []).filter
          (fun message => d.isConnected message.1)).reverse ++ d.front.deliveries := by
  obtain ⟨subscribers,enlisted⟩ : ∃ subscribers,
      (if d.subscribers.contains socket then d else {d with subscribers:=d.subscribers ++ [socket]}) =
        {d with subscribers} := by
    split
    · exact ⟨d.subscribers,rfl⟩
    · exact ⟨_,rfl⟩
  have may : (!d.providerRegistry.contains socket ||
      (d.providerRegistry.contains socket && decide (some socket = d.providerRegistry.activeProvider))) =
        d.canReceiveInteractiveEvents socket := by
    unfold canReceiveInteractiveEvents
    cases d.providerRegistry.contains socket <;> rfl
  have told : (if d.canReceiveInteractiveEvents socket then ({d with subscribers} : Daemon).sendAll (d.replayed socket)
      else {d with subscribers}).front = {d.front with
        subscribers
        deliveries:=((if d.canReceiveInteractiveEvents socket then d.replayed socket else []).filter
          (fun message => d.isConnected message.1)).reverse ++ d.front.deliveries} := by
    cases d.canReceiveInteractiveEvents socket with
    | true => exact sendAll_front {d with subscribers} (d.replayed socket)
    | false => rfl
  obtain ⟨count,active,ends⟩ : ∃ count active, Agent.handleSubscribe d socket =
      Daemon.sendJson (if d.canReceiveInteractiveEvents socket then ({d with subscribers} : Daemon).sendAll (d.replayed socket)
        else {d with subscribers}) socket (.subscribed count active) := by
    unfold Agent.handleSubscribe
    simp only
    rw [enlisted]
    simp only
    rw [may]
    exact ⟨_,_,rfl⟩
  exact ⟨_,_,ends,fun _ => nofun,congrArg Front.sockets told,congrArg Front.deliveries told⟩

theorem replays_iff (found : d.sessionStore.find id = some session) :
    d.Replays socket session ↔ d.isConnected socket = true ∧ d.canReceiveInteractiveEvents socket = true := by
  obtain ⟨e,reply,ends,plain,sockets,replayed⟩ := handleSubscribe_ends d socket
  have reachable : e.isConnected socket = d.isConnected socket := by
    unfold isConnected
    rw [sockets]
  have delivered : (Agent.handleSubscribe d socket).front.deliveries = _ :=
    (congrArg (fun e => e.front.deliveries) ends).trans (congrArg Front.deliveries (sendJson_front e socket reply))
  simp only [reachable,replayed,← List.append_assoc] at delivered
  constructor
  · rintro ⟨new,same,shown,_⟩
    rw [delivered] at same
    rw [← List.append_cancel_right same] at shown
    rcases List.mem_append.mp shown with acknowledged | replay
    · split at acknowledged
      · have equal := List.mem_singleton.mp acknowledged
        exact absurd (congrArg Prod.snd equal).symm (plain _)
      · exact absurd acknowledged List.not_mem_nil
    · obtain ⟨present,connected⟩ := List.mem_filter.mp (List.mem_reverse.mp replay)
      refine ⟨connected,?_⟩
      by_contra withheld
      rw [if_neg withheld] at present
      exact absurd present List.not_mem_nil
  · rintro ⟨connected,may⟩
    obtain ⟨created,updated⟩ := mem_replayed socket found
    rw [if_pos may] at delivered
    refine ⟨_,delivered,?_,?_⟩
    · exact List.mem_append_right _ (List.mem_reverse.mpr (List.mem_filter.mpr ⟨created,connected⟩))
    · exact List.mem_append_right _ (List.mem_reverse.mpr (List.mem_filter.mpr ⟨updated,connected⟩))

theorem routes_iff (subscribed : socket ∈ d.subscribers) (event : SessionEvent) :
    d.Routes socket event ↔
      d.isConnected socket = true ∧ (d.hasActiveProvider = true → d.providerRegistry.activeProvider = some socket) := by
  unfold Routes EventRouter.direct
  rw [event_routed,Bool.true_and]
  refine and_congr_right fun connected => ?_
  have valid := isValid_connected connected
  show _ ∈ (if d.hasActiveProvider = true then _ else _) ↔ _
  cases active : d.hasActiveProvider with
  | false =>
    refine ⟨fun _ given => absurd given Bool.false_ne_true,fun _ => ?_⟩
    exact List.mem_map.mpr ⟨socket,List.mem_filter.mpr ⟨subscribed,valid⟩,rfl⟩
  | true =>
    rw [if_pos rfl]
    cases leader : d.providerRegistry.activeProvider with
    | none =>
      refine ⟨fun present => absurd present List.not_mem_nil,fun given => ?_⟩
      cases given rfl
    | some other =>
      constructor
      · intro present _
        change (socket,event) ∈ (if d.isValid other then [(other,event)] else []) at present
        split at present
        · cases List.mem_singleton.mp present
          rfl
        · exact absurd present List.not_mem_nil
      · intro given
        cases given rfl
        change (socket,event) ∈ (if d.isValid socket then [(socket,event)] else [])
        rw [valid]
        exact List.mem_singleton.mpr rfl

-- Both conditions agree except on a socket that is no provider.
theorem may_iff (settled : d.Settled) : d.canReceiveInteractiveEvents socket = true ↔
    (d.hasActiveProvider = true → d.providerRegistry.activeProvider = some socket) ∨
      (d.hasActiveProvider = true ∧ d.providerRegistry.contains socket = false) := by
  unfold canReceiveInteractiveEvents hasActiveProvider ProviderRegistry.hasActiveProvider
  cases leader : d.providerRegistry.activeProvider with
  | none =>
    have nobody : d.providerRegistry.contains socket = false := by
      have missing := (Table.isEmpty_iff _).mp (settled.vacant.mp leader) socket
      exact Bool.eq_false_iff.mpr (fun held => absurd missing (Option.isSome_iff_ne_none.mp held))
    simp [nobody]
  | some other =>
    have held := settled.held other leader
    by_cases same : socket = other
    · subst same
      simp
    · cases registered : d.providerRegistry.contains socket with
      | true => simp [held,same,Ne.symm same]
      | false => simp [held]

theorem replays_routes (found : d.sessionStore.find id = some session) (subscribed : socket ∈ d.subscribers)
    (settled : d.Settled) (event : SessionEvent) : d.Replays socket session ↔ d.Routes socket event ∨ d.Bystands socket := by
  have open_ : d.sessionStore.isEmpty = false := by
    apply Bool.eq_false_iff.mpr
    intro empty
    rw [(Table.isEmpty_iff _).mp empty id] at found
    cases found
  rw [replays_iff found,routes_iff subscribed,may_iff settled,and_or_left]
  simp only [Bystands,open_,true_and]

theorem bystander_unrouted (subscribed : socket ∈ d.subscribers) (settled : d.Settled) (bystands : d.Bystands socket)
    (event : SessionEvent) : ¬d.Routes socket event := by
  intro routes
  obtain ⟨_,_,active,absent⟩ := bystands
  have leader := ((routes_iff subscribed event).mp routes).2 active
  rw [settled.held socket leader] at absent
  cases absent

theorem bystander_shown (bystands : d.Bystands socket) : ∃ id session, d.sessionStore.find id = some session := by
  by_contra none
  have empty := (Table.isEmpty_iff d.sessionStore).mpr
    (fun id => Option.eq_none_iff_forall_ne_some.mpr (fun session found => none ⟨id,session,found⟩))
  rw [bystands.1] at empty
  cases empty

theorem agrees_iff (subscribed : socket ∈ d.subscribers) (settled : d.Settled) :
    d.ReplayAgrees socket ↔ ¬d.Bystands socket := by
  constructor
  · intro agrees bystands
    obtain ⟨id,session,found⟩ := bystander_shown bystands
    have shown := (replays_routes found subscribed settled session.toCreatedEvent).mpr (.inr bystands)
    exact bystander_unrouted subscribed settled bystands session.toCreatedEvent ((agrees id session found _).mp shown)
  · intro apart id session found event
    exact (replays_routes found subscribed settled event).trans (or_iff_left apart)

theorem withholds_iff (subscribed : socket ∈ d.subscribers) (settled : d.Settled) :
    d.Withholds socket ↔ d.Bystands socket := by
  constructor
  · intro withholds
    obtain ⟨id,session,found,shown,event,_,unrouted⟩ := withholds
    exact ((replays_routes found subscribed settled event).mp shown).resolve_left unrouted
  · intro bystands
    obtain ⟨id,session,found⟩ := bystander_shown bystands
    have shown := (replays_routes found subscribed settled session.toCreatedEvent).mpr (.inr bystands)
    exact ⟨id,session,found,shown,.closed id .success none,rfl,bystander_unrouted subscribed settled bystands _⟩

-- On a subscribed socket of a reached state, replay and routing agree except for
-- a bystander, who is shown sessions and hears no more of them.
theorem replayAgrees_iff (path : daemon.Reached d) (subscribed : socket ∈ d.subscribers) :
    (d.ReplayAgrees socket ↔ ¬d.Bystands socket) ∧ (d.Withholds socket ↔ d.Bystands socket) :=
  ⟨agrees_iff subscribed (reached_settled path),withholds_iff subscribed (reached_settled path)⟩

-- A provider is active while a client that is none subscribes.
def bystander : List Input :=
  [.quiet (.connected 7),.quiet (.connected 8),.quiet (.connected 9),
   .say 0 "ui.register" [("kind","quickshell")],
   .say 1 "keyring_request" [("cookie","k"),("title","Unlock")],
   .say 2 "subscribe" []]

theorem bystander_reached : daemon.Reached (daemon.run bystander) :=
  Machine.Admits.reached (by decide +kernel)

theorem bystander_withheld : (daemon.run bystander).Withholds 2 :=
  (replayAgrees_iff bystander_reached (by decide +kernel)).2.mpr (by unfold Bystands; decide +kernel)

theorem bystander_disagrees : ¬∀ d socket, daemon.Reached d → socket ∈ d.subscribers → d.ReplayAgrees socket := by
  intro agrees
  have subscribed : 2 ∈ (daemon.run bystander).subscribers := by decide +kernel
  have apart := (agrees_iff subscribed (reached_settled bystander_reached)).mp
    (agrees (daemon.run bystander) 2 bystander_reached subscribed)
  exact apart (by unfold Bystands; decide +kernel)

end BbAuth.Daemon
