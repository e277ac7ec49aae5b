import BbAuth.PinentryOutcome

open Library
namespace BbAuth

namespace Core

variable {id : QString} {c e : Core}

-- Every open pinentry session is in pending_input or in awaiting_terminal.
def Held (c : Core) : Prop :=
  ∀ id, c.source id = some .pinentry → (c.flow id).pending.isSome = true ∨ (c.flow id).awaiting.isSome = true

-- A retry takes its flow out of awaiting_terminal and puts it nowhere.
def strands (c : Core) : Action → Prop
  | .pinentryOutcome cookie .retry _ => (c.flow cookie).awaiting.isSome = true
  | _ => False

theorem acts_held (acts : Acts c action e) (held : Held c) (kept : ¬c.strands action) : Held e := by
  intro id still
  cases acts_continues acts still with
  | entered request actor same cookie mine flow => rw [flow]; exact .inl rfl
  | kept source flow => rw [flow]; exact held id source
  | responded source response same request pending flow =>
    obtain ⟨timer,flow⟩ := flow
    rw [flow]
    exact .inr rfl
  | retried source error same flow =>
    subst same
    rw [flow]
    exact .inl ((held id source).resolve_right kept)

theorem source_retry (c : Core) (cookie error : QString) :
    (c.applyOutcome cookie .retry error).source cookie = c.source cookie :=
  source_updateSession _ cookie cookie (·.setError (if error.isEmpty then text "Authentication failed" else error))
    (fun _ => ⟨rfl,rfl⟩)

theorem retry_stranded (sound : PinentryManager.Sound c.pinentryManager)
    (acts : Acts c (.pinentryOutcome cookie .retry error) e)
    (awaiting : (c.flow cookie).awaiting.isSome = true) : ¬Held e := by
  intro held
  obtain ⟨known,same⟩ := acts_outcome acts
  have source : e.source cookie = some .pinentry := by
    rw [same,source_retry]
    exact (hasPinentrySession_iff c cookie).mp known
  have flow : e.flow cookie = {c.flow cookie with awaiting:=none} := by
    rw [flow_records (acts_records acts) cookie]
    exact (PinentryManager.flow_cleanupAwaiting c.pinentryManager cookie cookie).trans (if_pos rfl)
  have unasked : (c.flow cookie).pending = none := by
    cases pending : (c.flow cookie).pending with
    | none => rfl
    | some request =>
      have apart := sound.apart cookie request pending
      rw [show (c.flow cookie).awaiting = none from apart] at awaiting
      cases awaiting
  have either := held cookie source
  rw [flow,unasked] at either
  rcases either with pending | awaiting <;> contradiction

theorem acts_closes (acts : Acts c action e) (nothing : c.opens action = none) (source : c.source id = some .pinentry)
    (ended : ¬Continues c action e id) : e.source id = none := by
  cases still : e.source id with
  | none => rfl
  | some kind =>
    have before := tends_source (acts_tends acts nothing) id kind still
    cases source.symm.trans before
    exact absurd (acts_continues acts still) ended

theorem disconnect_closes (acts : Acts c (.disconnect request.socket) e) (source : c.source id = some .pinentry)
    (pending : (c.flow id).pending = some request) : e.source id = none := by
  apply acts_closes acts rfl source
  intro continues
  cases continues with
  | entered request actor same => cases same
  | responded source response same => cases same
  | retried source error same => cases same
  | kept source flow =>
    have dropped : (e.flow id).pending = none := by
      rw [flow_records (acts_records acts) id]
      exact (Records.disconnect_pinentry c.records request.socket id).trans (if_pos ⟨request,pending,rfl⟩)
    rw [flow,pending] at dropped
    cases dropped

theorem timeout_closes (acts : Acts c (.timeout timer) e) (source : c.source id = some .pinentry)
    (running : c.pinentryManager.timers.find timer = some id) (awaiting : (c.flow id).awaiting.isSome = true) :
    e.source id = none := by
  apply acts_closes acts rfl source
  intro continues
  cases continues with
  | entered request actor same => cases same
  | responded source response same => cases same
  | retried source error same => cases same
  | kept source flow =>
    have records := acts_records acts
    have manager : c.records.pinentryManager = c.pinentryManager := rfl
    simp only [Records.act,manager,running] at records
    have dropped : (e.flow id).awaiting = none := by
      rw [flow_records records id]
      exact congrArg PinentryManager.Flow.awaiting ((PinentryManager.flow_forgetFlow _ id id).trans (if_pos rfl))
    rw [← flow,dropped] at awaiting
    cases awaiting

end Core

namespace Daemon

variable {d : Daemon} {input : Input}

-- Every open pinentry session waits for a client whose disconnect was not
-- handled yet, or has a timeout running.
def Recoverable (d : Daemon) : Prop :=
  ∀ id session, d.getSession id = some session → session.source = .pinentry →
    (∃ request, d.pinentryManager.pendingRequests.find id = some request ∧
      d.sockets.contains request.socket = true) ∨
    (∃ awaiting, d.pinentryManager.awaitingOutcome.find id = some awaiting ∧
      d.pinentryManager.timers.find awaiting.timer = some id)

-- The owner of an open pinentry session reports retry while the flow awaits its
-- outcome.
def strands (d : Daemon) (input : Input) : Prop :=
  match d.action input with
  | .pinentryOutcome cookie .retry _ => PinentryManager.isAwaitingOutcome d.pinentryManager cookie = true
  | _ => False

theorem recoverable_iff (path : daemon.Reached d) : d.Recoverable ↔ Core.Held d.core := by
  have sound := reached_records path
  constructor
  · intro recoverable id source
    obtain ⟨session,found,pinentry⟩ := Option.map_eq_some_iff.mp source
    rcases recoverable id session found pinentry with ⟨request,pending,_⟩ | ⟨awaiting,held,_⟩
    · exact .inl (Option.isSome_of_eq_some pending)
    · exact .inr (Option.isSome_of_eq_some held)
  · intro held id session found pinentry
    have source := source_getSession d found
    rw [pinentry] at source
    rcases held id source with pending | awaiting
    · obtain ⟨request,pending⟩ := Option.isSome_iff_exists.mp pending
      obtain ⟨info,known,_⟩ := sound.pinentryKnown id request pending
      exact .inl ⟨request,pending,(Table.contains_iff _ _).mpr ⟨info,known⟩⟩
    · obtain ⟨awaiting,waits⟩ := Option.isSome_iff_exists.mp awaiting
      exact .inr ⟨awaiting,waits,sound.manager.armed id awaiting waits⟩

theorem strands_iff (d : Daemon) (input : Input) : d.core.strands (d.action input) ↔ d.strands input := by
  unfold strands Core.strands
  generalize d.action input = action
  cases action with
  | pinentryOutcome cookie outcome error => cases outcome <;> exact Iff.rfl
  | idle | connect | socketState | disconnect | keyringRequest | keyringConclude | pinentryRequest | pinentryRespond
  | pinentryCancel | timeout | submit | initiate | polkit => exact Iff.rfl

theorem step_recoverable (path : daemon.Reached d) (recoverable : d.Recoverable) (allowed : daemon.enabled d input) :
    (daemon.step d input).Recoverable ↔ ¬d.strands input := by
  have acts := acts_step d input allowed
  have held := (recoverable_iff path).mp recoverable
  rw [recoverable_iff (path.step allowed),← strands_iff]
  constructor
  · intro later strands
    unfold Core.strands at strands
    split at strands
    · next same =>
      rw [same] at acts
      exact Core.retry_stranded (reached_records path).manager acts strands later
    · exact strands
  · exact Core.acts_held acts held

-- The disconnect or the timeout that a recoverable session waits for closes it.
theorem recoverable_closes (recoverable : d.Recoverable) {id : QString}
    (found : d.getSession id = some session) (pinentry : session.source = .pinentry) :
    ∃ event, ((∃ socket, event = .disconnected socket) ∨ ∃ timer, event = .timeout timer) ∧ d.allows event ∧
      ∀ env, (daemon.step d ⟨env,event⟩).getSession id = none := by
  have source := source_getSession d found
  rw [pinentry] at source
  have ended {e : Daemon} (closed : e.core.source id = none) : e.getSession id = none := Option.map_eq_none_iff.mp closed
  rcases recoverable id session found pinentry with ⟨request,pending,known⟩ | ⟨awaiting,held,running⟩
  · refine ⟨.disconnected request.socket,.inl ⟨_,rfl⟩,known,fun env => ended ?_⟩
    exact Core.disconnect_closes (acts_step d ⟨env,.disconnected request.socket⟩ known) source pending
  · have fires : d.allows (.timeout awaiting.timer) := (Table.contains_iff _ _).mpr ⟨id,running⟩
    refine ⟨.timeout awaiting.timer,.inr ⟨_,rfl⟩,fires,fun env => ended ?_⟩
    exact Core.timeout_closes (acts_step d ⟨env,.timeout awaiting.timer⟩ fires) source running
      (Option.isSome_of_eq_some held)

theorem initial_recoverable : initial.Recoverable := by
  intro id session found
  have store : initial.sessionStore = .empty := rfl
  rw [getSession,SessionStore.getSession,store] at found
  cases found

-- A run leaves no pinentry session stranded exactly when no step reports retry
-- for a flow that awaits its outcome, and a session that is not stranded is
-- closed by a disconnect or by a timeout.
theorem sessions_recoverable_iff (inputs : List Input) (admitted : daemon.Admits inputs) :
    (daemon.Always Recoverable inputs ↔ daemon.Every (fun d input => ¬d.strands input) inputs) ∧
    ∀ d, Recoverable d → ∀ id session, d.getSession id = some session → session.source = .pinentry →
      ∃ event, ((∃ socket, event = .disconnected socket) ∨ ∃ timer, event = .timeout timer) ∧ d.allows event ∧
        ∀ env, (daemon.step d ⟨env,event⟩).getSession id = none := by
  constructor
  · exact Machine.always_iff (fun _ _ path recoverable allowed => step_recoverable path recoverable allowed)
      initial_recoverable admitted
  · intro d recoverable id session found pinentry
    exact recoverable_closes recoverable found pinentry

instance (d : Daemon) (input : Input) : Decidable (d.strands input) := by
  unfold strands
  exact match d.action input with
  | .pinentryOutcome _ .retry _ => inferInstanceAs (Decidable (_ = true))
  | .pinentryOutcome _ .success _ | .pinentryOutcome _ .cancelled _ | .pinentryOutcome _ .error _ => isFalse id
  | .idle | .connect .. | .socketState .. | .disconnect .. | .keyringRequest .. | .keyringConclude ..
  | .pinentryRequest .. | .pinentryRespond .. | .pinentryCancel .. | .timeout .. | .submit .. | .initiate ..
  | .polkit => isFalse id

-- The retry comes as a new request of the same flow.
def askedOnceMore : List Input :=
  [.quiet (.connected 7),
   .say 0 "pinentry_request" [("cookie","p"),("prompt","PIN")],
   .say 0 "session.respond" [("id","p"),("response","1234")],
   .say 0 "pinentry_request" [("cookie","p"),("prompt","PIN"),("error","Bad PIN")]]

theorem askedOnceMore_recoverable : daemon.Always Recoverable askedOnceMore :=
  (sessions_recoverable_iff askedOnceMore (by decide +kernel)).1.mpr (by decide +kernel)

-- The client reports the retry, and dies before it asks again.
def retriedAndDied : List Input :=
  [.quiet (.connected 7),
   .say 0 "pinentry_request" [("cookie","p"),("prompt","PIN")],
   .say 0 "session.respond" [("id","p"),("response","1234")],
   .say 0 "pinentry_result" [("id","p"),("result","retry")],
   .quiet (.disconnected 0)]

theorem retriedAndDied_stranded : daemon.Admits retriedAndDied ∧ ¬(daemon.run retriedAndDied).Recoverable := by
  have shown : ((daemon.run retriedAndDied).getSession (text "p")).map Session.source = some .pinentry := by
    decide +kernel
  have unasked : (daemon.run retriedAndDied).pinentryManager.pendingRequests.find (text "p") = none := by decide +kernel
  have idle : (daemon.run retriedAndDied).pinentryManager.awaitingOutcome.find (text "p") = none := by decide +kernel
  refine ⟨by decide +kernel,?_⟩
  intro recoverable
  obtain ⟨session,found,pinentry⟩ := Option.map_eq_some_iff.mp shown
  rcases recoverable _ session found pinentry with ⟨request,pending,_⟩ | ⟨awaiting,held,_⟩
  · exact nomatch unasked.symm.trans pending
  · exact nomatch idle.symm.trans held

end Daemon

end BbAuth
