import BbAuth.Deeds
import BbAuth.PolkitRuns

open Library Library.Attempts
namespace BbAuth

-- The calls that end the request of an id because somebody wants it ended. What
-- is closed while they run was ended by them.
def PolkitCall.Cancels (call : PolkitCall) (id : QString) : Prop :=
  call = .cancelPending id ∨ call = .cancelAuthentication

def Effect.errorFor (id : QString) : Effect → Option QString
  | .emitted (.updated other _ _ _ error _) => if other = id then error else none
  | _ => none

namespace PolkitListener

variable {d e m : Daemon} {v w middle : PolkitView} {call : PolkitCall} {cookie id : QString} {ref : StateRef}
variable {state : SessionState} {session : PolkitSession} {s : Session} {older newer : List Effect}

def lastError (id : QString) (before : List Effect) : Option QString := before.findSome? (Effect.errorFor id)

-- The last attempt of a request gained authorization.
def Gained (id : QString) (before : List Effect) : Prop :=
  ∃ trial, lastTrial id (happenings before) = some trial ∧ .heard trial true ∈ happenings before

def Exhausted (id : QString) (before : List Effect) : Prop :=
  ¬Gained id before ∧ ∃ session : PolkitSession, .polkit (.initiated session) ∈ before ∧
    lastTrial id (happenings before) = some session.ref ∧ initiationsOf session.result before = maxAuthRetries

-- What is reported of a request when its session is closed is what happened to it.
structure Reported (call : PolkitCall) (before : List Effect) (id : QString) (result : Result) (error : Option QString) :
    Prop where
  gained : result = .success ↔ Gained id before
  cancelled : result = .cancelled ↔ call.Cancels id
  exhausted : Exhausted id before → ¬call.Cancels id → result = .error ∧ error = lastError id before

-- Every session.closed of a step, with all that was done before it.
def Truthful (d : Daemon) (input : PolkitInput) : Prop :=
  ∀ later id result error earlier,
    (step d input).trace = later ++ .emitted (.closed id result error) :: (earlier ++ d.trace) →
    Reported input.call (earlier ++ d.trace) id result error

-- The last attempt that a request has left fails.
def Spends (d : Daemon) : PolkitCall → Prop
  | .signal session (.completed false) =>
    ∃ state ∈ (findStateForSession d.listener session).bind d.listener.states.find, ¬state.retryCount + 1 < maxAuthRetries
  | _ => False

instance (d : Daemon) : (call : PolkitCall) → Decidable (Spends d call)
  | .signal _ (.completed false) => inferInstanceAs (Decidable (∃ state ∈ _, ¬_ < _))
  | .signal _ (.completed true) | .signal _ (.request ..) | .signal _ (.showError _) | .signal _ (.showInfo _)
  | .initiateAuthentication .. | .submitPassword .. | .cancelPending _ | .cancelAuthentication => isFalse False.elim

theorem told_onSessionComplete (success : Bool) (found : d.sessionStore.find cookie = some s) :
    Grown Effect.told (.emitted (s.close (if success then .success else .cancelled)).toClosedEvent :: d.trace)
      (d.onSessionComplete cookie success).trace := by
  unfold Daemon.onSessionComplete SessionStore.closeSession
  generalize (if success then Result.success else .cancelled) = result
  rw [found]
  have emitted := Daemon.told_emitSessionEvent (d.withSessionStore (d.sessionStore.remove cookie)) (s.close result).toClosedEvent
  simp only
  split
  · exact emitted.trans (Daemon.told_refreshActiveProvider _)
  · exact emitted

section plain

-- The agent has no way to close a polkit session with an error.
def Plain (effect : Effect) : Prop := ∀ id error, effect ≠ .emitted (.closed id .error error)

theorem told_plain (told : Grown Effect.told older newer) : Grown Plain older newer := by
  apply told.imp
  rintro effect told id error rfl
  cases told

theorem aside_plain (aside : Grown Effect.aside older newer) : Grown Plain older newer := by
  apply aside.imp
  rintro effect aside id error rfl
  cases aside.2

theorem emitted_plain (d : Daemon) (event : SessionEvent) (plain : Plain (.emitted event)) :
    Grown Plain d.trace (d.emitSessionEvent event).trace :=
  (Grown.one d.trace plain).trans (told_plain (Daemon.told_emitSessionEvent d event))

theorem stride_plain (stride : Stride d e) : Grown Plain d.trace e.trace := by
  cases stride with
  | listener listener => exact .same rfl
  | logged effect => exact .one d.trace nofun
  | updated id change alike =>
    unfold Daemon.emitUpdated SessionStore.updateWith
    cases d.sessionStore.find id with
    | none => exact .same rfl
    | some session => exact emitted_plain (d.withSessionStore _) _ nofun
  | completed cookie success =>
    cases found : d.sessionStore.find cookie with
    | none =>
      unfold Daemon.onSessionComplete SessionStore.closeSession
      rw [found]
      exact .same rfl
    | some session =>
      have closed : Plain (.emitted (session.close (if success then .success else .cancelled)).toClosedEvent) := by
        intro id error same
        cases success <;> cases same
      exact (Grown.one d.trace closed).trans (told_plain (told_onSessionComplete success found))

theorem strides_plain (strides : Strides d e) : Grown Plain d.trace e.trace := by
  apply strides.invariant (P := fun e => Grown Plain d.trace e.trace)
  · intro m e stride grown
    exact grown.trans (stride_plain stride)
  · exact .same rfl

theorem created_plain (d : Daemon) (id : QString) (source : Source) (ctx : Context) :
    Grown Plain d.trace (d.createSession id source ctx).trace := by
  unfold Daemon.createSession
  simp only
  have emitted := emitted_plain (d.withSessionStore (d.sessionStore.createSession id source ctx).2)
    (d.sessionStore.createSession id source ctx).1 nofun
  split
  · exact emitted.trans (aside_plain (Daemon.aside_ensureFallbackUiRunning _ _))
  · exact emitted

theorem step_plain (d : Daemon) (input : PolkitInput) : Grown Plain d.trace (step d input).trace := by
  obtain ⟨env,call⟩ := input
  change Grown Plain ({d with env} : Daemon).trace (handle {d with env} call).trace
  generalize ({d with env} : Daemon) = d
  cases call with
  | initiateAuthentication actionId message iconName details cookie identities =>
    rcases strides_initiateAuthentication d actionId message iconName details cookie identities with
      ⟨_,strides⟩ | ⟨_,prepared,user,before,_,after⟩
    · exact strides_plain strides
    · exact (strides_plain before).trans <| (created_plain prepared cookie .polkit _).trans (strides_plain after)
  | signal session said => exact strides_plain (strides_signal d session said)
  | submitPassword cookie pass =>
    have logged : Grown Plain d.trace (d.log (.submitted cookie pass)).trace := .one d.trace nofun
    exact logged.trans (strides_plain (strides_submitPassword d cookie pass))
  | cancelPending cookie => exact strides_plain (strides_cancelPending d cookie)
  | cancelAuthentication => exact strides_plain (strides_cancelAuthentication d)

end plain

section exhausted

def tooMany : QString := text "Too many failed attempts"

theorem told_onSessionRetry (error : QString) (found : d.sessionStore.find cookie = some s) :
    Grown Effect.told (.emitted (s.setError error).toUpdatedEvent :: d.trace) (d.onSessionRetry cookie error).trace := by
  unfold Daemon.onSessionRetry Daemon.emitUpdated SessionStore.updateError SessionStore.updateWith
  rw [found]
  exact Daemon.told_emitSessionEvent (d.withSessionStore _) _

theorem stored_onSessionRetry (error : QString) (found : d.sessionStore.find cookie = some s) :
    (d.onSessionRetry cookie error).sessionStore.find cookie = some (s.setError error) := by
  have stored : (d.onSessionRetry cookie error).sessionStore = (d.core.updateSession cookie (·.setError error)).sessionStore :=
    congrArg Core.sessionStore (Daemon.core_onSessionRetry d cookie error)
  have updated : d.core.updateSession cookie (·.setError error) =
      (d.core.withSessions (d.sessionStore.insert cookie (s.setError error))).log (.emitted (s.setError error).toUpdatedEvent) := by
    unfold Core.updateSession
    rw [show d.core.sessionStore.find cookie = some s from found]
    rfl
  rw [stored,updated]
  exact Table.find_insert_self _ _ _

theorem lastError_told (told : Grown Effect.told older newer) (id : QString) : lastError id newer = lastError id older := by
  apply told.read (lastError id)
  intro effect rest told
  cases effect with
  | sent socket message => rfl
  | emitted _ | fallbackRequested _ | fallbackLaunched | requested _ _ _ _ | submitted _ _ | polkit _ => cases told

theorem cleanUp_closes (d : Daemon) (ref : StateRef) (state : SessionState) (found : d.sessionStore.find state.cookie = some s) :
    ∃ later result, (cleanUp d ref state).trace = later ++
      .emitted (s.close (if state.gainedAuth then .success else .cancelled)).toClosedEvent ::
        .polkit (.resultCompleted result) :: d.trace := by
  let ended := setState d ref {state with inProgress:=false}
  obtain ⟨result,completes⟩ : ∃ result, (cleanUp d ref state).trace = .polkit (.completed state.gainedAuth) ::
      ((dropSession (logPolkit ended (.resultCompleted result)) state.session).onSessionComplete state.cookie
        state.gainedAuth).trace := ⟨_,rfl⟩
  have kept : (dropSession (logPolkit ended (.resultCompleted result)) state.session).trace =
        .polkit (.resultCompleted result) :: d.trace ∧
      (dropSession (logPolkit ended (.resultCompleted result)) state.session).sessionStore = d.sessionStore := by
    cases state.session <;> exact ⟨rfl,rfl⟩
  obtain ⟨routed,told,_⟩ := told_onSessionComplete state.gainedAuth ((congrArg (Table.find · state.cookie) kept.2).trans found)
  rw [kept.1] at told
  rw [completes,told]
  exact ⟨_ :: routed,result,rfl⟩

theorem exhausted_cleans (d : Daemon) (held : Held d.listener cookie ref state session)
    (many : ¬state.retryCount + 1 < maxAuthRetries) :
    ∃ m failed, signal d session.ref (.completed false) = cleanUp (m.onSessionRetry cookie tooMany) ref failed ∧
      failed.cookie = cookie ∧ failed.gainedAuth = false ∧ Strides d m ∧
      ∀ s, d.sessionStore.find cookie = some s → ∃ t, m.sessionStore.find cookie = some t ∧ t.id = s.id := by
  let posed : SessionState := {state with gainedAuth:=false,errorText:=text "Authentication failed"}
  let failed : SessionState := {posed with retryCount:=state.retryCount + 1,errorText:=tooMany}
  let heard := setState (logPolkit d (.signalled session.ref (.completed false))) ref posed
  have slot : signal d session.ref (.completed false) = finishAuth (heard.onSessionRetry state.cookie posed.errorText) ref :=
    withState_held (d := logPolkit d (.signalled session.ref (.completed false))) held _
  have stored : (heard.onSessionRetry cookie posed.errorText).listener.states.find ref = some posed :=
    (congrArg (fun v : PolkitView => v.listener.states.find ref) (view_onSessionRetry heard cookie posed.errorText)).trans
      (Table.find_insert_self _ _ _)
  refine ⟨heard.onSessionRetry cookie posed.errorText,failed,?_,held.fit.named,rfl,?_,?_⟩
  · rw [slot,held.fit.named]
    unfold finishAuth
    rw [stored]
    simp [posed,failed,held.fit.progress,held.fit.wanted,held.fit.named,many,tooMany]
  · exact (strides_logPolkit d _).trans <| (strides_setState _ ref posed).trans (strides_retry heard cookie _)
  · intro s found
    exact ⟨_,stored_onSessionRetry posed.errorText found,rfl⟩

-- The last failure is shown with a text of its own, and then reported as if the
-- request had been cancelled.
theorem exhausted_reported (d : Daemon) (sound : d.polkitView.Sound) (held : Held d.listener cookie ref state session)
    (many : ¬state.retryCount + 1 < maxAuthRetries) :
    ∃ later earlier, (signal d session.ref (.completed false)).trace =
        later ++ .emitted (.closed cookie .cancelled (some tooMany)) :: (earlier ++ d.trace) ∧
      lastError cookie (earlier ++ d.trace) = some tooMany := by
  have shown : d.polkitView.roster cookie = some (cookie,.polkit) := by
    have attempt : attemptOf d.polkitView.listener cookie = _ := held.attempt
    rw [sound.shown,attempt]
    rfl
  obtain ⟨s,found,same⟩ := Option.map_eq_some_iff.mp shown
  obtain ⟨m,failed,ends,named,unsettled,strides,stays⟩ := exhausted_cleans d held many
  obtain ⟨t,failing,kept⟩ := stays s found
  have mine : t.id = cookie := kept.trans (congrArg Prod.fst same)
  obtain ⟨before,start,_⟩ := strides_plain strides
  have updated := told_onSessionRetry tooMany failing
  have error : lastError cookie (m.onSessionRetry cookie tooMany).trace = some tooMany := by
    have shows : (Effect.emitted (t.setError tooMany).toUpdatedEvent).errorFor cookie = some tooMany := if_pos mine
    rw [lastError_told updated]
    unfold lastError
    rw [List.findSome?_cons,shows]
  obtain ⟨routed,told,_⟩ := updated
  have stored : (m.onSessionRetry cookie tooMany).sessionStore.find failed.cookie = some (t.setError tooMany) := by
    rw [named]
    exact stored_onSessionRetry tooMany failing
  obtain ⟨later,result,closed⟩ := cleanUp_closes (m.onSessionRetry cookie tooMany) ref failed stored
  have reported : ((t.setError tooMany).close (if failed.gainedAuth then .success else .cancelled)).toClosedEvent =
      .closed cookie .cancelled (some tooMany) := by
    rw [unsettled,← mine]
    rfl
  have emitted : (m.onSessionRetry cookie tooMany).trace =
      (routed ++ .emitted (t.setError tooMany).toUpdatedEvent :: before) ++ d.trace := by
    rw [told,start]
    simp
  rw [reported] at closed
  rw [emitted] at closed error
  exact ⟨later,.polkit (.resultCompleted result) :: _,ends ▸ closed,error⟩

end exhausted

section apt

-- Unless the last failure ends it, a request that is closed without authorization
-- is one that the call cancels.
def Apt (call : PolkitCall) (happening : Happening QString) : Prop :=
  ∀ id gained, happening = .closed id gained → (gained = false ↔ call.Cancels id)

theorem note_apt (v : PolkitView) (effect : PolkitEffect) : Grown (Apt call) v.history (v.note effect).history := by
  refine ⟨(Effect.polkit effect).happening.toList,rfl,?_⟩
  rintro happening present id gained rfl
  have told := Option.mem_toList.mp present
  cases effect with
  | signalled session said => cases said <;> cases told
  | created _ | initiated _ | responded _ _ | cancelled _ | resultError _ _ | resultCompleted _ | completed _ | useAfterFree _ =>
    cases told

theorem logged_apt (d : Daemon) (effect : PolkitEffect) :
    Grown (Apt call) d.polkitView.history (logPolkit d effect).polkitView.history := by
  rw [view_logPolkit]
  exact note_apt d.polkitView effect

theorem concluded_apt (ending : Concluded v middle w cookie ref session result gained)
    (before : Grown (Apt call) v.history middle.history) (apt : gained = false ↔ call.Cancels cookie) :
    Grown (Apt call) v.history w.history := by
  have history : w.history = .closed cookie gained :: .completed result :: middle.history := congrArg Book.history ending.book
  have completed : Grown (Apt call) middle.history (.completed result :: middle.history) := .one _ nofun
  rw [history]
  apply (before.trans completed).trans (.one _ _)
  rintro id other ⟨⟩
  exact apt

theorem renewed_apt (again : Renewed v middle w cookie ref state) (before : Grown (Apt call) v.history middle.history) :
    Grown (Apt call) v.history w.history := by
  have history : w.history = .began cookie state.result v.book.nextTrial :: middle.history := congrArg Book.history again.book
  rw [history]
  exact before.trans (.one _ nofun)

theorem signal_apt (d : Daemon) (sound : d.polkitView.Sound) (s : Nat) (said : PolkitSignal)
    (spared : ¬Spends d (.signal s said)) :
    Grown (Apt (.signal s said)) d.polkitView.history (signal d s said).polkitView.history := by
  cases mapped : d.listener.sessionToState.find s with
  | none =>
    rw [orphan_signal d mapped]
    exact logged_apt d _
  | some ref =>
    obtain ⟨cookie,state,session,held,rfl⟩ := session_held sound.linked mapped
    have noted : Grown (Apt (.signal session.ref said)) d.polkitView.history _ :=
      note_apt d.polkitView (.signalled session.ref said)
    have slot := withState_held (d := logPolkit d (.signalled session.ref said)) held
    have uncancelled : ¬(PolkitCall.signal session.ref said).Cancels cookie := by rintro (same | same) <;> cases same
    cases said with
    | request request echo =>
      simp only [signal,onSessionRequest,slot,setState,view_onSessionRequest,view_withListener,view_logPolkit]
      exact noted
    | showError error =>
      simp only [signal,onSessionError,slot,setState,view_onSessionRetry,view_withListener,view_logPolkit]
      exact noted
    | showInfo info =>
      simp only [signal,PolkitListener.onSessionInfo,slot,view_onSessionInfo,view_logPolkit]
      exact noted
    | completed gained =>
      cases gained with
      | true => exact concluded_apt (gained_concluded d sound held) noted (by simp [uncancelled])
      | false =>
        by_cases few : state.retryCount + 1 < maxAuthRetries
        · exact renewed_apt (failed_renewed d sound held few) noted
        · refine absurd ⟨state,?_,few⟩ spared
          exact Option.mem_bind_iff.mpr ⟨ref,held.mapped,held.stored⟩

theorem finishCancelled_apt (d : Daemon) (sound : d.polkitView.Sound) (held : Held d.listener cookie ref state session)
    (cancels : call.Cancels cookie) :
    Grown (Apt call) d.polkitView.history (finishCancelled d ref).polkitView.history :=
  concluded_apt (cancelled_concluded d sound held) (.same rfl) (by simp [cancels])

-- Whether or not Session::cancel() completes the session before it returns.
theorem cancelPending_apt (d : Daemon) (sound : d.polkitView.Sound) (cookie : QString) :
    Grown (Apt (.cancelPending cookie)) d.polkitView.history (cancelPending d cookie).polkitView.history := by
  cases named : d.listener.cookieToState.find cookie with
  | none =>
    have nothing : cancelPending d cookie = d := by unfold cancelPending; rw [named]
    rw [nothing]
    exact .same rfl
  | some ref =>
    obtain ⟨state,session,held⟩ := sound.linked.held named
    have cancels : (PolkitCall.cancelPending cookie).Cancels cookie := .inl rfl
    have noted : Grown (Apt (.cancelPending cookie)) d.polkitView.history _ := logged_apt d (.cancelled session)
    have sound : (logPolkit d (.cancelled session)).polkitView.Sound := by
      rw [view_logPolkit]
      exact note_sound sound _
    rw [cancelPending_held d held]
    by_cases quiet : d.env.cancelCompletes = false
    · rw [cancelSession_quiet d quiet]
      exact noted.trans (finishCancelled_apt _ sound held cancels)
    · have heard : Grown (Apt (.cancelPending cookie)) (logPolkit d (.cancelled session)).polkitView.history _ :=
        note_apt _ (.signalled session.ref (.completed false))
      rw [cancelSession_reenters d ((Bool.not_eq_false _).mp quiet)]
      by_cases few : state.retryCount + 1 < maxAuthRetries
      · have again := failed_renewed (logPolkit d (.cancelled session)) sound held few
        obtain ⟨_,_,later⟩ := again.sound.linked.held again.named
        exact noted.trans <| (renewed_apt again heard).trans (finishCancelled_apt _ again.sound later cancels)
      · have ending := failed_concluded (logPolkit d (.cancelled session)) sound held few
        rw [finishCancelled_gone ending]
        exact noted.trans <| (concluded_apt ending heard (by simp [cancels])).trans (logged_apt _ _)

theorem submitPassword_apt (d : Daemon) (sound : d.polkitView.Sound) (cookie pass : QString) :
    Grown (Apt call) d.polkitView.history (submitPassword d cookie pass).polkitView.history := by
  have same : (d.log (.submitted cookie pass)).listener = d.listener := rfl
  unfold submitPassword
  simp only [same]
  cases named : d.listener.cookieToState.find cookie with
  | none =>
    rw [view_submitted]
    exact .same rfl
  | some ref =>
    obtain ⟨state,session,held⟩ := sound.linked.held named
    have stored : d.listener.states.find ref = some state := held.stored
    simp only [stored,held.fit.current,view_logPolkit,view_submitted]
    exact note_apt d.polkitView _

theorem initiateAuthentication_apt (d : Daemon) (actionId message iconName : QString)
    (details : List (QString × QString)) (cookie : QString) (identities : List QString) :
    Grown (Apt call) d.polkitView.history
      (initiateAuthentication d actionId message iconName details cookie identities).polkitView.history := by
  have refused (error : QString) : Grown (Apt call) d.polkitView.history
      (logPolkit (logPolkit (d.withListener {d.listener with nextResult:=d.listener.nextResult + 1})
        (.resultError d.listener.nextResult error)) (.resultCompleted d.listener.nextResult)).polkitView.history :=
    (logged_apt (d.withListener _) _).trans (logged_apt _ _)
  unfold initiateAuthentication
  simp only
  split
  · exact refused _
  · cases identities with
    | nil => exact refused _
    | cons selectedUser rest =>
      let state : SessionState :=
        {inProgress:=true,cookie,message,iconName,actionId,details,result:=d.listener.nextResult,selectedUser}
      have accepted := view_accept d state message actionId details
      have began : Apt call (.began cookie d.listener.nextResult d.listener.nextSession) := by
        rintro id gained ⟨⟩
      exact accepted.symm ▸ Grown.one d.polkitView.history began

theorem step_apt (d : Daemon) (sound : d.polkitView.Sound) (input : PolkitInput) (spared : ¬Spends d input.call) :
    Grown (Apt input.call) d.polkitView.history (step d input).polkitView.history := by
  obtain ⟨env,call⟩ := input
  change Grown (Apt call) ({d with env} : Daemon).polkitView.history (handle {d with env} call).polkitView.history
  have sound : ({d with env} : Daemon).polkitView.Sound := sound
  have spared : ¬Spends {d with env} call := by cases call <;> exact spared
  generalize ({d with env} : Daemon) = d at *
  cases call with
  | initiateAuthentication actionId message iconName details cookie identities =>
    exact initiateAuthentication_apt d actionId message iconName details cookie identities
  | signal session said => exact signal_apt d sound session said spared
  | submitPassword cookie pass => exact submitPassword_apt d sound cookie pass
  | cancelPending cookie => exact cancelPending_apt d sound cookie
  | cancelAuthentication =>
    apply cancelAuthentication_invariant
      (P := fun m => Grown (Apt .cancelAuthentication) d.polkitView.history m.polkitView.history) _ d sound (.same rfl)
    intro m cookie ref state session sound held grown
    exact grown.trans (finishCancelled_apt m sound held (.inr rfl))

end apt

theorem vouched_closing {later earlier : List (Happening QString)} (vouched : Vouched (later ++ .closed id gained :: earlier)) :
    gained = true ↔ ∃ trial, lastTrial id earlier = some trial ∧ .heard trial true ∈ earlier := by
  induction later with
  | nil => exact vouched.1
  | cons happening rest ih =>
    cases happening with
    | closed other result => exact ih vouched.2
    | began _ _ _ | heard _ _ | completed _ => exact ih vouched

theorem spared_truthful (path : (polkitListener reentrant).Reached d)
    (allowed : (polkitListener reentrant).enabled d input) (spared : ¬Spends d input.call) : Truthful d input := by
  intro later id result error earlier trace
  have sound := (reached_kept path).1
  have vouched : Vouched (step d input).polkitView.history := (reached_kept (path.step allowed)).2.vouched
  have history : (step d input).polkitView.history =
      happenings later ++ .closed id (result = .success) :: (happenings earlier ++ d.polkitView.history) := by
    rw [history_trace,history_trace,trace]
    unfold happenings
    rw [List.filterMap_append,List.filterMap_cons,List.filterMap_append]
    rfl
  have gained : result = .success ↔ Gained id (earlier ++ d.trace) := by
    have before : happenings (earlier ++ d.trace) = happenings earlier ++ d.polkitView.history := by
      rw [history_trace]
      exact List.filterMap_append
    rw [history] at vouched
    unfold Gained
    rw [before]
    exact decide_eq_true_iff.symm.trans (vouched_closing vouched)
  have regular : result ≠ .error := by
    rintro rfl
    exact (step_plain d input).since trace id error rfl
  have ended : result = .cancelled ↔ input.call.Cancels id := by
    have apt := (step_apt d sound input spared).since history id _ rfl
    rw [← apt]
    cases result with
    | success | cancelled => simp
    | error => exact absurd rfl regular
  refine ⟨gained,ended,?_⟩
  intro exhausted uncancelled
  cases result with
  | success => exact absurd (gained.mp rfl) exhausted.1
  | cancelled => exact absurd (ended.mp rfl) uncancelled
  | error => exact absurd rfl regular

theorem spent_untruthful (sound : d.polkitView.Sound) (spends : Spends d input.call) : ¬Truthful d input := by
  obtain ⟨env,call⟩ := input
  intro truthful
  cases call with
  | signal s said =>
    cases said with
    | completed gained =>
      cases gained with
      | true => exact spends
      | false =>
        obtain ⟨state,current,many⟩ := spends
        obtain ⟨ref,mapped,stored⟩ := Option.mem_bind_iff.mp current
        obtain ⟨cookie,other,session,held,rfl⟩ := session_held sound.linked mapped
        cases held.stored.symm.trans stored
        obtain ⟨later,earlier,trace,_⟩ := exhausted_reported {d with env} sound held many
        have reported := truthful later cookie .cancelled _ earlier trace
        rcases reported.cancelled.mp rfl with same | same <;> cases same
    | request _ _ | showError _ | showInfo _ => exact spends
  | initiateAuthentication _ _ _ _ _ _ | submitPassword _ _ | cancelPending _ | cancelAuthentication => exact spends

-- Along a run, what is reported of a request that ends is what happened to it as
-- long as none ends by its last failure: the agent only knows success and
-- cancellation, and takes exhausted attempts for the latter.
theorem results_truthful_iff (inputs : List PolkitInput) (admitted : (polkitListener reentrant).Admits inputs) :
    (polkitListener reentrant).Every Truthful inputs ↔
      (polkitListener reentrant).Every (fun d input => ¬Spends d input.call) inputs := by
  apply Machine.every_iff _ admitted
  intro d input path allowed
  constructor
  · intro truthful spends
    exact spent_untruthful (reached_kept path).1 spends truthful
  · exact spared_truthful path allowed

theorem failedAndGained_truthful : (polkitListener true).Every Truthful failedAndGained ∧
    ∀ event ∈ [SessionEvent.closed (text "c") .success none,.closed (text "d") .cancelled none],
      .emitted event ∈ ((polkitListener true).run failedAndGained).trace :=
  ⟨(results_truthful_iff failedAndGained (by decide +kernel)).mpr (by decide +kernel),by decide +kernel⟩

def thirdFailure : PolkitInput := PolkitCall.quiet (.signal 2 (.completed false))

-- Nobody cancelled the request whose password was wrong three times.
theorem failedThrice_untruthful : (polkitListener false).Admits (failedTwice ++ [thirdFailure]) ∧
    .emitted (.closed (text "c") .cancelled (some tooMany)) ∈
      ((polkitListener false).run (failedTwice ++ [thirdFailure])).trace ∧
    ¬(polkitListener false).Every Truthful (failedTwice ++ [thirdFailure]) := by
  refine ⟨by decide +kernel,by decide +kernel,?_⟩
  intro every
  have admitted : (polkitListener false).Admits failedTwice := by decide +kernel
  have last := ((Machine.everyFrom_append _ failedTwice [thirdFailure]).mp every).2.1
  exact spent_untruthful (reached_kept admitted.reached).1 (by decide +kernel) last

end PolkitListener

end BbAuth
