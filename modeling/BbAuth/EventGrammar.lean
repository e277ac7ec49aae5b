import BbAuth.Library.Lifecycle
import BbAuth.SessionHistory

open Library Library.Lifecycle
namespace BbAuth

def SessionEvent.mark : SessionEvent → Mark
  | .created .. => .created
  | .updated .. => .updated
  | .closed .. => .closed

def Effect.mark (id : QString) : Effect → Option Mark
  | .emitted event => if event.id = id then some event.mark else none
  | _ => none

def sessionEvents (id : QString) (history : List Effect) : List Mark := (history.filterMap (Effect.mark id)).reverse

theorem sessionEvents_plain (id : QString) (history : List Effect) (plain : effect.mark id = none) :
    sessionEvents id (effect :: history) = sessionEvents id history := by
  simp [sessionEvents,plain]

theorem sessionEvents_emitted (history : List Effect) (event : SessionEvent) (id : QString) :
    sessionEvents id (.emitted event :: history) =
      if event.id = id then sessionEvents id history ++ [event.mark] else sessionEvents id history := by
  by_cases same : event.id = id <;> simp [sessionEvents,Effect.mark,same]

theorem sessionEvents_core (id : QString) (d : Daemon) : sessionEvents id d.core.history = sessionEvents id d.trace := by
  have silent (effect : Effect) (routine : effect.routine = true) : effect.mark id = none := by
    rcases routine_cases routine with ⟨_,_,rfl,_⟩ | ⟨_,rfl⟩ | rfl <;> rfl
  exact congrArg List.reverse (unrouted_filterMap _ silent d.trace)

namespace Core

variable {id : QString} {c e m : Core}

def eventPhase (c : Core) (id : QString) : Phase := phase (sessionEvents id c.history)

def Told (c : Core) (id : QString) : Prop :=
  c.eventPhase id = if (c.source id).isSome then .present else .absent

theorem eventPhase_emit (c : Core) (event : SessionEvent) (id : QString) :
    (c.log (.emitted event)).eventPhase id =
      if event.id = id then advance (c.eventPhase id) event.mark else c.eventPhase id := by
  unfold eventPhase
  change phase (sessionEvents id (.emitted event :: c.history)) = _
  rw [sessionEvents_emitted]
  split
  · rw [phase_append_one]
  · rfl

theorem updateSession_told (announced : Announced c) (other : QString) (change : Session → Session)
    (alike : ∀ s, (change s).id = s.id ∧ (change s).source = s.source) (told : Told c id) :
    Told (c.updateSession other change) id := by
  unfold Told at *
  rw [source_updateSession c other id change alike]
  cases found : c.sessionStore.find other with
  | none =>
    rw [updateSession_missing c other change found]
    exact told
  | some session =>
    have named : ((change session).toUpdatedEvent).id = other := by
      rw [← announced.ids other session found]
      exact (alike session).1
    simp only [updateSession,found]
    rw [eventPhase_emit,named]
    change (if other = id then advance (c.eventPhase id) .updated else c.eventPhase id) = _
    by_cases same : other = id
    · have opened : (c.source id).isSome = true := by rw [← same]; simp [source,found]
      rw [opened] at told ⊢
      rw [if_pos same,told]
      rfl
    · rw [if_neg same]
      exact told

theorem closeSession_told (announced : Announced c) (other : QString) (result : Result) (told : Told c id) :
    Told (c.closeSession other result) id := by
  unfold Told at *
  rw [source_closeSession]
  cases found : c.sessionStore.find other with
  | none =>
    have missing : c.source other = none := by simp [source,found]
    have same : c.closeSession other result = c := by simp [closeSession,found]
    rw [same]
    split
    · next equal => rw [equal] at told ⊢; rw [missing] at told; exact told
    · exact told
  | some session =>
    have named : ((session.close result).toClosedEvent).id = other := announced.ids other session found
    simp only [closeSession,found]
    rw [eventPhase_emit,named]
    change (if other = id then advance (c.eventPhase id) .closed else c.eventPhase id) = _
    by_cases same : other = id
    · have opened : (c.source id).isSome = true := by rw [← same]; simp [source,found]
      rw [opened] at told
      rw [if_pos same,if_pos same.symm,told]
      rfl
    · rw [if_neg same,if_neg (Ne.symm same)]
      exact told

theorem tending_told (announced : Announced c) (tending : Tending c e) (told : Told c id) : Told e id := by
  cases tending with
  | frame store history =>
    unfold Told eventPhase source at *
    rw [store,history]
    exact told
  | logged effect plain =>
    have silent : effect.mark id = none := by
      cases effect <;> first | rfl | exact absurd rfl (plain _)
    have same : (c.log effect).eventPhase id = c.eventPhase id := congrArg phase (sessionEvents_plain id _ silent)
    unfold Told at *
    rw [same]
    exact told
  | updated other change alike =>
    exact updateSession_told announced other change (fun s => ⟨(alike s).1,(alike s).2.1⟩) told
  | retried other curRetry maxRetries =>
    unfold Told at *
    rw [source_setPinentryRetry]
    unfold setPinentryRetry
    split <;> exact told
  | closed other result => exact closeSession_told announced other result told

theorem tends_told (announced : Announced c) (tends : Tends c e) (told : Told c id) : Told e id :=
  (tends.invariant (P := fun c => Announced c ∧ Told c id)
    (fun _ _ tending held => ⟨tending_announced tending held.1,tending_told held.1 tending held.2⟩)
    ⟨announced,told⟩).2

theorem broken_log (c : Core) (effect : Effect) (broken : c.eventPhase id = .broken) :
    (c.log effect).eventPhase id = .broken := by
  unfold eventPhase sessionEvents at *
  change phase ((effect :: c.history).filterMap (Effect.mark id)).reverse = _
  cases marked : effect.mark id with
  | none => simpa [List.filterMap_cons,marked] using broken
  | some mark =>
    simp only [List.filterMap_cons,marked,List.reverse_cons]
    exact phase_broken_append _ _ broken

theorem tending_broken (tending : Tending c e) (broken : c.eventPhase id = .broken) : e.eventPhase id = .broken := by
  cases tending with
  | frame store history => rw [eventPhase,history]; exact broken
  | logged effect plain => exact broken_log c effect broken
  | updated other change alike =>
    unfold updateSession
    split
    · exact broken
    · exact broken_log _ _ broken
  | retried other curRetry maxRetries =>
    unfold setPinentryRetry
    split <;> exact broken
  | closed other result =>
    unfold closeSession
    split
    · exact broken
    · exact broken_log _ _ broken

theorem tends_broken (tends : Tends c e) (broken : c.eventPhase id = .broken) : e.eventPhase id = .broken :=
  tends.invariant (P := fun c => c.eventPhase id = .broken) (fun _ _ => tending_broken) broken

theorem eventPhase_createSession (c : Core) (other : QString) (source : Source) (ctx : Context) (id : QString) :
    (c.createSession other source ctx).eventPhase id =
      if other = id then advance (c.eventPhase id) .created else c.eventPhase id :=
  eventPhase_emit _ _ id

theorem broken_createSession (other : QString) (source : Source) (ctx : Context) (broken : c.eventPhase id = .broken) :
    (c.createSession other source ctx).eventPhase id = .broken := by
  rw [eventPhase_createSession,broken]
  split
  · exact advance_broken _
  · rfl

theorem createSession_told (other : QString) (source : Source) (ctx : Context) (told : Told c id)
    (closed : c.source other = none) : Told (c.createSession other source ctx) id := by
  unfold Told at *
  rw [eventPhase_createSession,source_createSession]
  by_cases same : other = id
  · subst other
    rw [closed] at told
    rw [if_pos rfl,if_pos rfl,told]
    rfl
  · rw [if_neg same,if_neg (Ne.symm same)]
    exact told

theorem createSession_broken (source : Source) (ctx : Context) (told : Told c id)
    (opened : (c.source id).isSome = true) : (c.createSession id source ctx).eventPhase id = .broken := by
  rw [eventPhase_createSession,if_pos rfl,told,if_pos opened]
  rfl

-- The action opens a session under an id that has one.
def reopens (c : Core) (action : Action) : Prop := ∃ id source, c.opens action = some (id,source) ∧ (c.source id).isSome = true

theorem acts_told (announced : Announced c) (acts : Acts c action e) (told : Told c id) :
    Told e id ∨ c.reopens action ∧ e.eventPhase id = .broken := by
  cases opens : c.opens action with
  | none => exact .inl (tends_told announced (acts_tends acts opens) told)
  | some target =>
    obtain ⟨other,source⟩ := target
    obtain ⟨m,announces⟩ := acts_opens acts opens
    obtain ⟨ctx,after⟩ := announces.after
    have before := tends_told announced announces.before told
    have opened := createSession_announced (tends_announced announces.before announced) other source ctx
      (acts_opened opens announces)
    have unchanged : m.source other = c.source other := by rw [Core.source,announces.same]; rfl
    cases still : c.source other with
    | none => exact .inl (tends_told opened after (createSession_told other source ctx before (unchanged.trans still)))
    | some kind =>
      by_cases same : other = id
      · subst other
        have open_ : (m.source id).isSome = true := by rw [unchanged,still]; rfl
        have again : c.reopens action := ⟨id,source,opens,by rw [still]; rfl⟩
        exact .inr ⟨again,tends_broken after (createSession_broken source ctx before open_)⟩
      · refine .inl (tends_told opened after ?_)
        unfold Told at *
        rw [eventPhase_createSession,source_createSession,if_neg same,if_neg (Ne.symm same)]
        exact before

theorem acts_broken (acts : Acts c action e) (broken : c.eventPhase id = .broken) : e.eventPhase id = .broken := by
  cases opens : c.opens action with
  | none => exact tends_broken (acts_tends acts opens) broken
  | some target =>
    obtain ⟨other,source⟩ := target
    obtain ⟨m,announces⟩ := acts_opens acts opens
    obtain ⟨ctx,after⟩ := announces.after
    have created := broken_createSession other source ctx (tends_broken announces.before broken)
    exact tends_broken after created

theorem acts_reopened (announced : Announced c) (acts : Acts c action e) (again : c.reopens action)
    (told : ∀ id, Told c id) : ∃ id, e.eventPhase id = .broken := by
  obtain ⟨id,source,opens,opened⟩ := again
  obtain ⟨m,announces⟩ := acts_opens acts opens
  obtain ⟨ctx,after⟩ := announces.after
  have still : (m.source id).isSome = true := by
    unfold Core.source at *
    rw [announces.same]
    exact opened
  exact ⟨id,tends_broken after (createSession_broken source ctx (tends_told announced announces.before (told id)) still)⟩

end Core

namespace Daemon

-- The events emitted for every id so far follow the session life cycle.
def Grammatical (d : Daemon) : Prop := ∀ id, sessionEvents id d.trace ∈ lifecycle.matches'

theorem grammatical_iff (d : Daemon) : d.Grammatical ↔ ∀ id, d.core.eventPhase id ≠ .broken := by
  unfold Grammatical Core.eventPhase
  simp only [mem_lifecycle,sessionEvents_core]

theorem reached_told (path : daemon.Reached d) (grammatical : d.Grammatical) (id : QString) : Core.Told d.core id := by
  have either : ∀ id, Core.Told d.core id ∨ d.core.eventPhase id = .broken := by
    apply path.invariant (P := fun d => ∀ id, Core.Told d.core id ∨ d.core.eventPhase id = .broken)
    · exact fun _ => .inl rfl
    · intro d input prior held allowed id
      have acts := acts_step d input allowed
      rcases held id with told | broken
      · exact (Core.acts_told (reached_announced prior) acts told).imp_right And.right
      · exact .inr (Core.acts_broken acts broken)
  exact (either id).resolve_right ((grammatical_iff d).mp grammatical id)

-- A keyring request, or a polkit request that the listener accepts, arrives for
-- an id under which a session is open.
def reopens (d : Daemon) (input : Input) : Prop :=
  match d.action input with
  | .keyringRequest request _ => (d.getSession request.cookie).isSome = true
  | .initiate cookie => (d.getSession cookie).isSome = true
  | _ => False

theorem reopens_iff (d : Daemon) (input : Input) : d.core.reopens (d.action input) ↔ d.reopens input := by
  have held (id : QString) : (d.core.source id).isSome = (d.getSession id).isSome := Option.isSome_map
  unfold reopens Core.reopens
  cases d.action input with
  | keyringRequest request actor | initiate cookie => simp [Core.opens,held]
  | pinentryRequest request actor =>
    simp only [Core.opens,iff_false]
    rintro ⟨id,source,opens,opened⟩
    split at opens
    · cases opens
    · split at opens
      · cases opens
      · next missing => cases opens; rw [held] at opened; exact missing opened
  | idle | connect | socketState | disconnect | keyringConclude | pinentryRespond | pinentryCancel
  | pinentryOutcome | timeout | submit | polkit => simp [Core.opens]

theorem step_grammatical (path : daemon.Reached d) (grammatical : d.Grammatical) (allowed : daemon.enabled d input) :
    (daemon.step d input).Grammatical ↔ ¬d.reopens input := by
  have announced := reached_announced path
  have told := reached_told path grammatical
  have acts := acts_step d input allowed
  rw [grammatical_iff,← reopens_iff]
  constructor
  · intro kept again
    obtain ⟨id,broken⟩ := Core.acts_reopened announced acts again told
    exact kept id broken
  · intro fresh id broken
    have still := (Core.acts_told announced acts (told id)).resolve_right (fun again => fresh again.1)
    unfold Core.Told at still
    rw [broken] at still
    split at still <;> cases still

-- The events of a run follow the grammar throughout exactly when no keyring or
-- polkit request reopens an id.
theorem events_grammatical_iff (inputs : List Input) (admitted : daemon.Admits inputs) :
    daemon.Always Grammatical inputs ↔ daemon.Every (fun d input => ¬d.reopens input) inputs :=
  Machine.always_iff (fun _ _ path grammatical allowed => step_grammatical path grammatical allowed)
    ((grammatical_iff _).mpr (fun _ => nofun)) admitted

instance (d : Daemon) (input : Input) : Decidable (d.reopens input) := by
  unfold reopens
  exact match d.action input with
  | .keyringRequest .. | .initiate _ => inferInstanceAs (Decidable (_ = true))
  | .idle | .connect .. | .socketState .. | .disconnect .. | .keyringConclude .. | .pinentryRequest ..
  | .pinentryRespond .. | .pinentryCancel .. | .pinentryOutcome .. | .timeout .. | .submit .. | .polkit => isFalse id

def askedAgain : List Input :=
  [.quiet (.connected 7),
   .say 0 "keyring_request" [("cookie","k"),("title","Unlock")],
   .say 0 "session.respond" [("id","k"),("response","pw")],
   .say 0 "keyring_request" [("cookie","k"),("title","Unlock")]]

theorem askedAgain_grammatical : daemon.Always Grammatical askedAgain :=
  (events_grammatical_iff askedAgain (by decide +kernel)).mpr (by decide +kernel)

-- The second request comes while the first is still open.
def askedTwice : List Input :=
  [.quiet (.connected 7),
   .say 0 "keyring_request" [("cookie","k"),("title","Unlock")],
   .say 0 "keyring_request" [("cookie","k"),("title","Unlock")]]

theorem askedTwice_ungrammatical : daemon.Admits askedTwice ∧ ¬(daemon.run askedTwice).Grammatical := by
  refine ⟨by decide +kernel,?_⟩
  intro grammatical
  exact (mem_lifecycle _).mp (grammatical (text "k")) (by decide +kernel)

end Daemon

end BbAuth
