import BbAuth.PolkitLifecycle

open Library Library.Attempts
namespace BbAuth

-- The calls that reach the listener, from polkit, its Session objects and the
-- agent.
inductive PolkitCall where
  | initiateAuthentication (actionId message iconName : QString) (details : List (QString × QString))
      (cookie : QString) (identities : List QString)
  | signal (session : Nat) (signal : PolkitSignal)
  | submitPassword (cookie pass : QString)
  | cancelPending (cookie : QString)
  | cancelAuthentication
  deriving DecidableEq

structure PolkitInput where
  env : Env
  call : PolkitCall

def PolkitCall.quiet (call : PolkitCall) : PolkitInput := ⟨.quiet,call⟩

namespace PolkitListener

def handle (d : Daemon) : PolkitCall → Daemon
  | .initiateAuthentication actionId message iconName details cookie identities =>
    initiateAuthentication d actionId message iconName details cookie identities
  | .signal session said => signal d session said
  | .submitPassword cookie pass => submitPassword d cookie pass
  | .cancelPending cookie => cancelPending d cookie
  | .cancelAuthentication => cancelAuthentication d

def step (d : Daemon) (input : PolkitInput) : Daemon := handle {d with env:=input.env} input.call

-- Signals come from Session objects that were created, current or not.
def expects (d : Daemon) : PolkitCall → Prop
  | .signal session _ => session < d.listener.nextSession
  | _ => True

instance (d : Daemon) : (call : PolkitCall) → Decidable (expects d call)
  | .signal .. => inferInstanceAs (Decidable (_ < _))
  | .initiateAuthentication .. | .submitPassword .. | .cancelPending _ | .cancelAuthentication => isTrue trivial

end PolkitListener

-- The listener by itself. Unless it is reentrant, completed signals come from
-- the event loop only, and never out of Session::cancel().
def polkitListener (reentrant : Bool) : Machine Daemon PolkitInput where
  initial := .initial
  enabled d input := PolkitListener.expects d input.call ∧ (input.env.cancelCompletes = true → reentrant = true)
  step := PolkitListener.step

instance (reentrant : Bool) (d : Daemon) (input : PolkitInput) : Decidable ((polkitListener reentrant).enabled d input) :=
  inferInstanceAs (Decidable (_ ∧ _))

instance (reentrant : Bool) (inputs : List PolkitInput) : Decidable ((polkitListener reentrant).Admits inputs) :=
  inferInstanceAs (Decidable ((polkitListener reentrant).Every (polkitListener reentrant).enabled inputs))

theorem routine_happening {effect : Effect} (routine : effect.routine = true) : effect.happening = none := by
  rcases routine_cases routine with ⟨_,_,rfl,_⟩ | ⟨_,rfl⟩ | rfl <;> rfl

theorem routine_polkit {effect : Effect} (routine : effect.routine = true) : effect.ofPolkit = none := by
  rcases routine_cases routine with ⟨_,_,rfl,_⟩ | ⟨_,rfl⟩ | rfl <;> rfl

theorem history_trace (d : Daemon) : d.polkitView.history = happenings d.trace :=
  unrouted_filterMap _ (fun _ => routine_happening) d.trace

theorem effects_trace (d : Daemon) : d.polkitView.effects = polkitEffects d.trace :=
  unrouted_filterMap _ (fun _ => routine_polkit) d.trace

namespace PolkitListener

theorem step_onward (d : Daemon) (sound : d.polkitView.Sound) (input : PolkitInput) (expected : expects d input.call) :
    Onward (input.env.cancelCompletes = false) d.polkitView (step d input).polkitView := by
  obtain ⟨env,call⟩ := input
  have same : ({d with env} : Daemon).polkitView = d.polkitView := rfl
  unfold step
  rw [← same] at sound ⊢
  cases call with
  | initiateAuthentication actionId message iconName details cookie identities =>
    exact initiateAuthentication_onward _ sound actionId message iconName details cookie identities
  | signal session said => exact signal_onward _ sound expected said
  | submitPassword cookie pass => exact submitPassword_onward _ sound cookie pass
  | cancelPending cookie => exact cancelPending_onward _ sound cookie
  | cancelAuthentication => exact cancelAuthentication_onward _ sound

theorem initial_sound : Daemon.initial.polkitView.Sound := ⟨empty_linked,fun _ => rfl⟩

theorem reached_kept (path : (polkitListener reentrant).Reached d) :
    d.polkitView.Sound ∧ Kept maxAuthRetries d.polkitView.book := by
  refine path.invariant (P := fun d => d.polkitView.Sound ∧ Kept maxAuthRetries d.polkitView.book)
    ⟨initial_sound,empty_kept _⟩ (fun d input _ kept allowed => ?_)
  have onward := step_onward d kept.1 input allowed.1
  exact ⟨onward.sound,steps_kept onward.steps kept.2⟩

theorem reached_careful (path : (polkitListener false).Reached d) (ref : StateRef) :
    .useAfterFree ref ∉ d.polkitView.effects := by
  refine (path.invariant (P := fun d => d.polkitView.Sound ∧ ∀ ref, .useAfterFree ref ∉ d.polkitView.effects)
    ⟨initial_sound,fun _ => List.not_mem_nil⟩ (fun d input _ kept allowed => ?_)).2 ref
  have onward := step_onward d kept.1 input allowed.1
  have quiet : input.env.cancelCompletes = false :=
    Bool.eq_false_iff.mpr (fun reenters => absurd (allowed.2 reenters) Bool.false_ne_true)
  exact ⟨onward.sound,fun ref used => kept.2 ref (onward.safe quiet ref used)⟩

end PolkitListener

def Effect.completes (result : AsyncResult) (effect : Effect) : Bool := effect = .polkit (.resultCompleted result)

def Effect.initiates (result : AsyncResult) : Effect → Bool
  | .polkit (.initiated session) => session.result = result
  | _ => false

namespace PolkitListener

-- How often a result was completed, and a session initiated for it.
def completionsOf (result : AsyncResult) (trace : List Effect) : Nat := trace.countP (·.completes result)

def initiationsOf (result : AsyncResult) (trace : List Effect) : Nat := trace.countP (·.initiates result)

theorem completions_trace (result : AsyncResult) (trace : List Effect) :
    completions result (happenings trace) = completionsOf result trace := by
  induction trace with
  | nil => rfl
  | cons effect rest ih =>
    unfold completionsOf at *
    rw [List.countP_cons,← ih]
    unfold happenings
    rw [List.filterMap_cons]
    cases effect with
    | polkit effect =>
      cases effect with
      | resultCompleted other => simp [Effect.happening,completions,Effect.completes]
      | signalled session said => cases said <;> rfl
      | created _ | initiated _ | responded _ _ | cancelled _ | resultError _ _ | completed _ | useAfterFree _ => rfl
    | emitted event => cases event <;> rfl
    | sent _ _ | fallbackRequested _ | fallbackLaunched | requested _ _ _ _ | submitted _ _ => rfl

theorem trials_trace (result : AsyncResult) (trace : List Effect) :
    trials result (happenings trace) = initiationsOf result trace := by
  induction trace with
  | nil => rfl
  | cons effect rest ih =>
    unfold initiationsOf at *
    rw [List.countP_cons,← ih]
    unfold happenings
    rw [List.filterMap_cons]
    cases effect with
    | polkit effect =>
      cases effect with
      | initiated session => simp [Effect.happening,trials,Effect.initiates]
      | signalled session said => cases said <;> rfl
      | created _ | resultCompleted _ | responded _ _ | cancelled _ | resultError _ _ | completed _ | useAfterFree _ => rfl
    | emitted event => cases event <;> rfl
    | sent _ _ | fallbackRequested _ | fallbackLaunched | requested _ _ _ _ | submitted _ _ => rfl

-- The two maps are inverse to each other: every cookie leads to a state that is
-- in progress, and only its current session leads there.
structure Inverse (l : PolkitListener) : Prop where
  current : ∀ cookie ref, l.cookieToState.find cookie = some ref → ∃ state session,
    l.states.find ref = some state ∧ state.cookie = cookie ∧ state.inProgress = true ∧
    state.retryCount < maxAuthRetries ∧ state.session = some session ∧
    ∀ s, l.sessionToState.find s = some ref ↔ s = session.ref
  owned : ∀ s ref, l.sessionToState.find s = some ref → ∃ cookie, l.cookieToState.find cookie = some ref ∧
    ∀ other, l.cookieToState.find other = some ref → other = cookie
  kept : ∀ ref state, l.states.find ref = some state → l.cookieToState.find state.cookie = some ref

theorem Linked.inverse (linked : Linked l) : Inverse l where
  current cookie ref named := by
    obtain ⟨state,session,held⟩ := linked.held named
    have owner := held.owner linked
    refine ⟨state,session,held.stored,held.fit.named,held.fit.progress,held.fit.few,held.fit.current,?_⟩
    intro s
    constructor
    · intro mapped
      exact (Option.some.inj (owner.sessionOf s mapped)).symm
    · rintro rfl
      exact held.mapped
  owned s ref mapped := by
    obtain ⟨cookie,state,session,held,_⟩ := session_held linked mapped
    exact ⟨cookie,held.named,(held.owner linked).cookieOf⟩
  kept := linked.owned

def Pending (d : Daemon) (cookie : QString) (state : SessionState) : Prop :=
  ∃ ref, d.listener.cookieToState.find cookie = some ref ∧ d.listener.states.find ref = some state

-- What holds of the requests between two slots. A session is closed as gained
-- exactly if the completed signal of the last attempt was true, and a request
-- that is pending has not been told so.
structure Orderly (d : Daemon) : Prop where
  once : ∀ result, completionsOf result d.trace ≤ 1
  waiting : ∀ cookie state, Pending d cookie state → completionsOf state.result d.trace = 0
  done : ∀ result < d.listener.nextResult, (∀ cookie state, Pending d cookie state → state.result ≠ result) →
    completionsOf result d.trace = 1
  limited : ∀ result, initiationsOf result d.trace ≤ maxAuthRetries
  inverse : Inverse d.listener
  ignored : ∀ s, (∀ cookie state session, Pending d cookie state → state.session = some session → session.ref ≠ s) →
    ∀ said, signal d s said = logPolkit d (.signalled s said)
  shown : ∀ cookie, (d.getSession cookie).isSome = d.listener.cookieToState.contains cookie
  vouched : Vouched (happenings d.trace)
  unsettled : ∀ cookie state, Pending d cookie state → ∃ session, state.session = some session ∧
    lastTrial cookie (happenings d.trace) = some session.ref ∧ .heard session.ref true ∉ happenings d.trace
  careful : ∀ ref, .polkit (.useAfterFree ref) ∉ d.trace

theorem Pending.held (linked : Linked d.listener) (pending : Pending d cookie state) :
    ∃ ref session, Held d.listener cookie ref state session := by
  obtain ⟨ref,named,stored⟩ := pending
  obtain ⟨found,session,held⟩ := linked.held named
  cases held.stored.symm.trans stored
  exact ⟨ref,session,held⟩

theorem attemptOf_pending (linked : Linked d.listener) (attempt : attemptOf d.listener cookie = some a) :
    ∃ state, Pending d cookie state ∧ state.result = a.ticket := by
  obtain ⟨ref,state,session,held,rfl⟩ := attemptOf_held linked attempt
  exact ⟨state,⟨ref,held.named,held.stored⟩,rfl⟩

section reached

variable {reentrant : Bool} {d : Daemon} (path : (polkitListener reentrant).Reached d)

include path

theorem reached_entry (pending : Pending d cookie state) : ∃ session, state.session = some session ∧
    Entry maxAuthRetries d.polkitView.book cookie ⟨state.result,session.ref,state.retryCount⟩ := by
  obtain ⟨sound,kept⟩ := reached_kept path
  obtain ⟨ref,session,held⟩ := pending.held sound.linked
  exact ⟨session,held.fit.current,kept.entries cookie _ held.attempt⟩

theorem reached_waiting (pending : Pending d cookie state) : completionsOf state.result d.trace = 0 := by
  obtain ⟨session,_,entry⟩ := reached_entry path pending
  rw [← completions_trace,← history_trace]
  exact entry.waiting

theorem reached_done (issued : result < d.listener.nextResult)
    (others : ∀ cookie state, Pending d cookie state → state.result ≠ result) : completionsOf result d.trace = 1 := by
  obtain ⟨sound,kept⟩ := reached_kept path
  rw [← completions_trace,← history_trace]
  apply kept.done result issued
  intro cookie a attempt same
  obtain ⟨state,pending,ticket⟩ := attemptOf_pending sound.linked attempt
  exact others cookie state pending (ticket.trans same)

theorem reached_unissued (unissued : d.listener.nextResult ≤ result) : completionsOf result d.trace = 0 := by
  rw [← completions_trace,← history_trace]
  exact ((reached_kept path).2.unissued result unissued).1

theorem reached_once (result : AsyncResult) : completionsOf result d.trace ≤ 1 := by
  by_cases issued : result < d.listener.nextResult
  · by_cases others : ∀ cookie state, Pending d cookie state → state.result ≠ result
    · exact Nat.le_of_eq (reached_done path issued others)
    · push Not at others
      obtain ⟨cookie,state,pending,rfl⟩ := others
      exact Nat.le_trans (Nat.le_of_eq (reached_waiting path pending)) (Nat.zero_le 1)
  · exact Nat.le_trans (Nat.le_of_eq (reached_unissued path (Nat.le_of_not_lt issued))) (Nat.zero_le 1)

theorem reached_orphan
    (stale : ∀ cookie state session, Pending d cookie state → state.session = some session → session.ref ≠ s) :
    Orphan d.listener s := by
  cases mapped : d.listener.sessionToState.find s with
  | none => exact mapped
  | some ref =>
    obtain ⟨cookie,state,session,held,same⟩ := session_held (reached_kept path).1.linked mapped
    exact absurd same (stale cookie state session ⟨ref,held.named,held.stored⟩ held.fit.current)

theorem reached_shown (cookie : QString) : (d.getSession cookie).isSome = d.listener.cookieToState.contains cookie := by
  have sound := (reached_kept path).1
  have roster : (d.getSession cookie).isSome = (d.polkitView.roster cookie).isSome := Option.isSome_map.symm
  rw [roster,sound.shown,Option.isSome_map]
  change (attemptOf d.listener cookie).isSome = _
  cases named : d.listener.cookieToState.find cookie with
  | none => simp [attemptOf,Table.contains,named]
  | some ref =>
    obtain ⟨state,session,held⟩ := sound.linked.held named
    have attempt : attemptOf d.listener cookie = _ := held.attempt
    simp [attempt,Table.contains,named]

end reached

-- The listener keeps its requests in order, whatever reaches it, as long as no
-- completed signal comes out of Session::cancel().
theorem requests_orderly (path : (polkitListener false).Reached d) : Orderly d where
  once := reached_once path
  waiting _ _ := reached_waiting path
  done _ := reached_done path
  limited result := by
    rw [← trials_trace,← history_trace]
    exact (reached_kept path).2.limited result
  inverse := (reached_kept path).1.linked.inverse
  ignored _ stale said := orphan_signal d (reached_orphan path stale) said
  shown := reached_shown path
  vouched := by
    rw [← history_trace]
    exact (reached_kept path).2.vouched
  unsettled _ _ pending := by
    obtain ⟨session,current,entry⟩ := reached_entry path pending
    rw [← history_trace]
    exact ⟨session,current,entry.last,entry.unheard⟩
  careful ref used := by
    have logged : .useAfterFree ref ∈ polkitEffects d.trace := List.mem_filterMap.mpr ⟨_,used,rfl⟩
    exact reached_careful path ref (effects_trace d ▸ logged)

-- Two requests that fail and succeed, with a signal of a session that was
-- replaced, and a mass cancellation.
def failedAndGained : List PolkitInput :=
  [PolkitCall.quiet (.initiateAuthentication (text "a") (text "m") (text "i") [] (text "c") [text "root"]),
   PolkitCall.quiet (.initiateAuthentication (text "a") (text "m") (text "i") [] (text "d") [text "root"]),
   PolkitCall.quiet (.submitPassword (text "c") (text "wrong")),
   PolkitCall.quiet (.signal 0 (.completed false)),
   PolkitCall.quiet (.signal 0 (.completed true)),
   PolkitCall.quiet (.signal 2 (.completed true)),
   PolkitCall.quiet .cancelAuthentication]

theorem failedAndGained_orderly : (polkitListener false).Admits failedAndGained ∧
    Orderly ((polkitListener false).run failedAndGained) := by
  have admitted : (polkitListener false).Admits failedAndGained := by decide +kernel
  exact ⟨admitted,requests_orderly admitted.reached⟩

-- Cancelling the request of a cookie completes its result once and ends it, with
-- no further attempt, and no other request is touched.
structure CancelsAlone (d : Daemon) (cookie : QString) (state : SessionState) : Prop where
  ended : ∀ other, (cancelPending d cookie).listener.cookieToState.find other =
    if other = cookie then none else d.listener.cookieToState.find other
  effects : ∃ new, polkitEffects (cancelPending d cookie).trace = new ++ polkitEffects d.trace ∧
    (∀ result, new.count (.resultCompleted result) = if result = state.result then 1 else 0) ∧
    (∀ session, .created session ∉ new ∧ .initiated session ∉ new) ∧ ∀ ref, .useAfterFree ref ∉ new

theorem cancel_quiet (d : Daemon) (sound : d.polkitView.Sound) (held : Held d.listener cookie ref state session)
    (quiet : d.env.cancelCompletes = false) : CancelsAlone d cookie state := by
  have noted : (logPolkit d (.cancelled session)).polkitView.Sound := by
    rw [view_logPolkit]
    exact note_sound sound _
  have ending := cancelled_concluded (logPolkit d (.cancelled session)) noted held
  have cancels : cancelPending d cookie = finishCancelled (logPolkit d (.cancelled session)) ref := by
    rw [cancelPending_held d held,cancelSession_quiet d quiet]
  rw [← cancels] at ending
  refine ⟨ending.rewired.cookies,[.completed false,.resultCompleted state.result,.cancelled session],?_,?_,?_,?_⟩
  · rw [← effects_trace,← effects_trace,ending.effects,view_logPolkit]
    rfl
  · intro result
    by_cases same : result = state.result
    · simp [same]
    · simp [same,Ne.symm same]
  · simp
  · simp

-- A completed signal out of Session::cancel() starts the next attempt, or is the
-- last and deletes the state.
theorem cancel_reenters (d : Daemon) (sound : d.polkitView.Sound) (held : Held d.listener cookie ref state session)
    (reenters : d.env.cancelCompletes = true) :
    ∃ new, polkitEffects (cancelPending d cookie).trace = new ++ polkitEffects d.trace ∧
      ((∃ next, .initiated next ∈ new) ∨ .useAfterFree ref ∈ new) := by
  have noted : (logPolkit d (.cancelled session)).polkitView.Sound := by
    rw [view_logPolkit]
    exact note_sound sound _
  have cancels : cancelPending d cookie =
      finishCancelled (signal (logPolkit d (.cancelled session)) session.ref (.completed false)) ref := by
    rw [cancelPending_held d held,cancelSession_reenters d reenters]
  rw [cancels,← effects_trace,← effects_trace]
  by_cases few : state.retryCount + 1 < maxAuthRetries
  · have again := failed_renewed (logPolkit d (.cancelled session)) noted held few
    obtain ⟨later,current,held⟩ := again.sound.linked.held again.named
    have ending := cancelled_concluded _ again.sound held
    obtain ⟨next,effects⟩ := again.effects
    rw [ending.effects,effects,view_logPolkit]
    exact ⟨[.completed false,.resultCompleted later.result,.initiated next,.created next,
      .signalled session.ref (.completed false),.cancelled session],rfl,.inl ⟨next,by simp⟩⟩
  · have ending := failed_concluded (logPolkit d (.cancelled session)) noted held few
    have effects := ending.effects
    rw [view_logPolkit] at effects
    rw [finishCancelled_gone ending,view_logPolkit]
    refine ⟨[.useAfterFree ref,.completed false,.resultCompleted state.result,
      .signalled session.ref (.completed false),.cancelled session],?_,.inr List.mem_cons_self⟩
    exact congrArg (.useAfterFree ref :: ·) effects

theorem cancelsAlone_iff (d : Daemon) (sound : d.polkitView.Sound) (pending : Pending d cookie state) :
    CancelsAlone d cookie state ↔ d.env.cancelCompletes = false := by
  obtain ⟨ref,session,held⟩ := pending.held sound.linked
  refine ⟨?_,cancel_quiet d sound held⟩
  intro alone
  by_contra reenters
  obtain ⟨new,told,strays⟩ := cancel_reenters d sound held ((Bool.not_eq_false _).mp reenters)
  obtain ⟨quiet,same,_,still,safe⟩ := alone.effects
  cases List.append_cancel_right (told.symm.trans same)
  rcases strays with ⟨next,initiated⟩ | used
  · exact (still next).2 initiated
  · exact safe ref used

theorem named_pending (linked : Linked d.listener) (named : d.listener.cookieToState.contains cookie = true) :
    ∃ state, Pending d cookie state := by
  obtain ⟨ref,named⟩ := (Table.contains_iff _ _).mp named
  obtain ⟨state,session,held⟩ := linked.held named
  exact ⟨state,ref,held.named,held.stored⟩

-- However many attempts have failed, cancelling a request ends it and nothing
-- else exactly if Session::cancel() returns before it completes the session.
theorem cancel_alone_iff (path : (polkitListener true).Reached d) (named : d.listener.cookieToState.contains cookie = true)
    (env : Env) : ∃ state, Pending d cookie state ∧
      (CancelsAlone {d with env} cookie state ↔ env.cancelCompletes = false) := by
  have sound := (reached_kept path).1
  obtain ⟨state,pending⟩ := named_pending sound.linked named
  exact ⟨state,pending,cancelsAlone_iff {d with env} sound pending⟩

def failedTwice : List PolkitInput :=
  [PolkitCall.quiet (.initiateAuthentication (text "a") (text "m") (text "i") [] (text "c") [text "root"]),
   PolkitCall.quiet (.signal 0 (.completed false)),
   PolkitCall.quiet (.signal 1 (.completed false))]

theorem failedTwice_cancelled : ∃ state, Pending ((polkitListener true).run failedTwice) (text "c") state ∧
    CancelsAlone {(polkitListener true).run failedTwice with env:=.quiet} (text "c") state := by
  have admitted : (polkitListener true).Admits failedTwice := by decide +kernel
  have named : ((polkitListener true).run failedTwice).listener.cookieToState.contains (text "c") = true := by decide +kernel
  obtain ⟨state,pending,alone⟩ := cancel_alone_iff admitted.reached named .quiet
  exact ⟨state,pending,alone.mpr rfl⟩

def reentering : Env := {Env.quiet with cancelCompletes:=true}

-- Cancelled at once, the request is tried again. Cancelled after two failures,
-- its state is used after it was deleted.
theorem cancelled_strays :
    (polkitListener true).Admits failedTwice ∧
    (∀ inputs ∈ [failedTwice.take 1,failedTwice], ∃ state, Pending ((polkitListener true).run inputs) (text "c") state ∧
      ¬CancelsAlone {(polkitListener true).run inputs with env:=reentering} (text "c") state) ∧
    .initiated ⟨1,text "root",text "c",0⟩ ∈ polkitEffects
      (cancelPending {(polkitListener true).run (failedTwice.take 1) with env:=reentering} (text "c")).trace ∧
    .useAfterFree 0 ∈ polkitEffects
      (cancelPending {(polkitListener true).run failedTwice with env:=reentering} (text "c")).trace := by
  refine ⟨by decide +kernel,?_,by decide +kernel,by decide +kernel⟩
  intro inputs listed
  have reached : (polkitListener true).Admits inputs ∧
      ((polkitListener true).run inputs).listener.cookieToState.contains (text "c") = true := by
    rcases List.mem_pair.mp listed with rfl | rfl <;> decide +kernel
  have sound := (reached_kept reached.1.reached).1
  obtain ⟨state,pending⟩ := named_pending sound.linked reached.2
  refine ⟨state,pending,?_⟩
  intro alone
  exact Bool.noConfusion ((cancelsAlone_iff {(polkitListener true).run inputs with env:=reentering} sound pending).mp alone)

end PolkitListener

end BbAuth
