import BbAuth.PolkitRequests
import BbAuth.Library.Runs

open Library Library.Attempts
namespace BbAuth.PolkitListener

-- From one view to a later one: the requests moved on as they may, and unless
-- Session::cancel() re-entered the listener no deleted state was used.
structure Onward (asynchronous : Prop) (v w : PolkitView) : Prop where
  sound : w.Sound
  steps : Steps maxAuthRetries v.book w.book
  safe : asynchronous → ∀ ref, .useAfterFree ref ∈ w.effects → .useAfterFree ref ∈ v.effects

theorem Onward.trans (first : Onward p v m) (second : Onward p m w) : Onward p v w where
  sound := second.sound
  steps := first.steps.trans second.steps
  safe asynchronous ref used := first.safe asynchronous ref (second.safe asynchronous ref used)

theorem Onward.idle {v w : PolkitView} (sound : w.Sound) (book : w.book = v.book)
    (safe : ∀ ref, .useAfterFree ref ∈ w.effects → .useAfterFree ref ∈ v.effects) : Onward p v w :=
  ⟨sound,book ▸ .refl,fun _ => safe⟩

theorem Onward.step {v w : PolkitView} (sound : w.Sound) (step : Step maxAuthRetries v.book w.book)
    (safe : ∀ ref, .useAfterFree ref ∈ w.effects → .useAfterFree ref ∈ v.effects) : Onward p v w :=
  ⟨sound,.single step,fun _ => safe⟩

theorem note_sound {v : PolkitView} (sound : v.Sound) (effect : PolkitEffect) : (v.note effect).Sound :=
  ⟨sound.linked,sound.shown⟩

theorem note_onward {v : PolkitView} (sound : v.Sound) (effect : PolkitEffect)
    (silent : (Effect.polkit effect).happening = none) (safe : ∀ ref, effect ≠ .useAfterFree ref) : Onward p v (v.note effect) := by
  refine .idle (note_sound sound effect) ?_ ?_
  · unfold PolkitView.note PolkitView.book
    rw [silent]
    rfl
  · intro ref used
    exact (List.mem_cons.mp used).resolve_left (fun same => safe ref same.symm)

-- A slot writes to the state of a request what its attempt does not depend on.
theorem touch_onward {v : PolkitView} (sound : v.Sound) (held : Held v.listener cookie ref state session)
    (touched : SessionState) (same : Posed state touched) (unsettled : touched.gainedAuth = state.gainedAuth)
    (wanted : touched.cancelled = state.cancelled) :
    Onward p v (v.withListener {v.listener with states:=v.listener.states.insert ref touched}) := by
  have fit : Fit cookie touched session :=
    ⟨same.cookie.trans held.fit.named,same.session.trans held.fit.current,held.fit.requested,
      held.fit.result.trans same.result.symm,same.progress,same.retries ▸ held.fit.few,
      unsettled.trans held.fit.unsettled,wanted.trans held.fit.wanted⟩
  have owner := held.owner sound.linked
  have rewired : Rewired v.listener {v.listener with states:=v.listener.states.insert ref touched} cookie ref
      (some session.ref) (some (touched,session)) := by
    refine ⟨?_,?_,fun other => Table.find_insert _ _ _ _,Nat.le_refl _,Nat.le_refl _⟩
    · intro other
      change v.listener.cookieToState.find other = _
      split
      · next same => rw [same]; exact held.named
      · rfl
    · intro s
      change v.listener.sessionToState.find s = _
      simp only [Option.map_some,Option.some.injEq]
      split
      · next same => rw [← same]; exact held.mapped
      · rfl
  have suits : Suits v.listener {v.listener with states:=v.listener.states.insert ref touched} cookie ref touched session :=
    ⟨fit,fun other mapped => Option.some.inj (mapped.symm.trans held.mapped),
      sound.linked.allocated ref state held.stored,sound.linked.created _ _ held.mapped⟩
  have linked := rewired_linked sound.linked owner rewired (fun _ _ made => by cases made; exact suits)
  have attempts : attemptOf {v.listener with states:=v.listener.states.insert ref touched} = attemptOf v.listener := by
    rw [rewired_attempts owner rewired (fun _ _ made => by cases made; exact fit.current)]
    have same : (some (touched,session)).map attemptIn = attemptOf v.listener cookie := by
      rw [held.attempt,← same.result,← same.retries]
      rfl
    rw [same,Function.update_eq_self]
  have shown (other : QString) : v.roster other =
      (attemptOf {v.listener with states:=v.listener.states.insert ref touched} other).map (fun _ => (other,.polkit)) := by
    rw [attempts]
    exact sound.shown other
  refine .idle ⟨linked,shown⟩ ?_ (fun _ used => used)
  exact congrArg (fun pending => Book.mk pending v.listener.nextSession v.listener.nextResult v.history) attempts

-- A Session object that is nobody's current one.
def Orphan (l : PolkitListener) (session : Nat) : Prop := l.sessionToState.find session = none

-- Signals of replaced and of finished Session objects change nothing.
theorem orphan_signal (d : Daemon) (orphan : Orphan d.listener session) (said : PolkitSignal) :
    signal d session said = logPolkit d (.signalled session said) := by
  have none : findStateForSession (logPolkit d (.signalled session said)).listener session = none := orphan
  cases said <;> simp only [signal,onSessionRequest,onSessionCompleted,onSessionError,onSessionInfo,withState,none]

theorem orphan_onward (d : Daemon) (sound : d.polkitView.Sound) (created : session < d.listener.nextSession)
    (orphan : Orphan d.listener session) (said : PolkitSignal) : Onward p d.polkitView (signal d session said).polkitView := by
  rw [orphan_signal d orphan,view_logPolkit]
  have nobody (cookie : QString) (a : Attempt) (pending : attemptOf d.listener cookie = some a) : a.trial ≠ session := by
    obtain ⟨ref,state,current,held,rfl⟩ := attemptOf_held sound.linked pending
    rintro rfl
    exact nomatch orphan.symm.trans held.mapped
  cases said with
  | completed gained =>
    refine .step (note_sound sound _) (Step.stale created nobody gained) ?_
    intro ref used
    exact (List.mem_cons.mp used).resolve_left nofun
  | request _ _ | showError _ | showInfo _ => exact note_onward sound _ rfl nofun

theorem withState_held (held : Held d.listener cookie ref state session) (slot : StateRef → SessionState → Daemon) :
    withState d session.ref slot = slot ref state := by
  unfold withState findStateForSession
  rw [held.mapped]
  simp only [held.stored]

theorem completed_finishes (d : Daemon) (held : Held d.listener cookie ref state session) (gained : Bool) :
    ∃ m posed, signal d session.ref (.completed gained) = finishAuth m ref ∧ Posed state posed ∧
      posed.gainedAuth = gained ∧ posed.cancelled = false ∧
      m.polkitView = (d.polkitView.note (.signalled session.ref (.completed gained))).withListener
        {d.listener with states:=d.listener.states.insert ref posed} := by
  have slot := withState_held (d := logPolkit d (.signalled session.ref (.completed gained))) held
  cases gained with
  | true =>
    let posed : SessionState := {state with gainedAuth:=true}
    refine ⟨setState (logPolkit d (.signalled session.ref (.completed true))) ref posed,posed,slot _,
      ⟨rfl,rfl,rfl,held.fit.progress,rfl⟩,rfl,held.fit.wanted,?_⟩
    simp only [setState,view_withListener,view_logPolkit]
    rfl
  | false =>
    let posed : SessionState := {state with gainedAuth:=false,errorText:=text "Authentication failed"}
    refine ⟨(setState (logPolkit d (.signalled session.ref (.completed false))) ref posed).onSessionRetry
      state.cookie posed.errorText,posed,slot _,⟨rfl,rfl,rfl,held.fit.progress,rfl⟩,rfl,held.fit.wanted,?_⟩
    simp only [setState,view_onSessionRetry,view_withListener,view_logPolkit]
    rfl

section completed

variable (d : Daemon) (sound : d.polkitView.Sound) (held : Held d.listener cookie ref state session)

include sound held

theorem gained_concluded : Concluded d.polkitView (d.polkitView.note (.signalled session.ref (.completed true)))
    (signal d session.ref (.completed true)).polkitView cookie ref session state.result true := by
  obtain ⟨m,posed,finishes,same,gained,_,view⟩ := completed_finishes d held true
  have listener : m.listener = _ := congrArg PolkitView.listener view
  have roster : m.polkitView.roster = d.polkitView.roster := by rw [view]; rfl
  have ending := finish_over sound held listener roster same (.inl gained)
  rw [finishes]
  rw [view,gained] at ending
  exact ⟨ending.sound,ending.rewired,ending.book,ending.effects⟩

theorem failed_renewed (few : state.retryCount + 1 < maxAuthRetries) :
    Renewed d.polkitView (d.polkitView.note (.signalled session.ref (.completed false)))
      (signal d session.ref (.completed false)).polkitView cookie ref state := by
  obtain ⟨m,posed,finishes,same,unsettled,wanted,view⟩ := completed_finishes d held false
  have listener : m.listener = _ := congrArg PolkitView.listener view
  have roster : m.polkitView.roster = d.polkitView.roster := by rw [view]; rfl
  have again := finish_again sound held listener roster same unsettled wanted few
  rw [finishes]
  rw [view] at again
  exact ⟨again.sound,again.named,again.book,again.effects⟩

theorem failed_concluded (many : ¬state.retryCount + 1 < maxAuthRetries) :
    Concluded d.polkitView (d.polkitView.note (.signalled session.ref (.completed false)))
      (signal d session.ref (.completed false)).polkitView cookie ref session state.result false := by
  obtain ⟨m,posed,finishes,same,unsettled,wanted,view⟩ := completed_finishes d held false
  have listener : m.listener = _ := congrArg PolkitView.listener view
  have roster : m.polkitView.roster = d.polkitView.roster := by rw [view]; rfl
  have failed := finish_failed sound held listener roster same unsettled wanted many
  rw [finishes]
  rw [view] at failed
  exact ⟨failed.sound,failed.rewired,failed.book,failed.effects⟩

theorem cancelled_concluded : Concluded d.polkitView d.polkitView (finishCancelled d ref).polkitView
    cookie ref session state.result false := by
  let posed : SessionState := {state with cancelled:=true}
  have finishes : finishCancelled d ref = finishAuth (setState d ref posed) ref := by
    unfold finishCancelled
    rw [held.stored]
  have view : (setState d ref posed).polkitView =
      d.polkitView.withListener {d.listener with states:=d.listener.states.insert ref posed} := view_withListener _ _
  have listener : (setState d ref posed).listener = _ := congrArg PolkitView.listener view
  have roster : (setState d ref posed).polkitView.roster = d.polkitView.roster := by rw [view]; rfl
  have ending := finish_over sound held listener roster
    ⟨rfl,rfl,rfl,held.fit.progress,rfl⟩ (.inr rfl)
  rw [finishes]
  rw [view,show posed.gainedAuth = false from held.fit.unsettled] at ending
  exact ⟨ending.sound,ending.rewired,ending.book,ending.effects⟩

end completed

theorem completed_onward (d : Daemon) (sound : d.polkitView.Sound) (held : Held d.listener cookie ref state session)
    (gained : Bool) : Onward p d.polkitView (signal d session.ref (.completed gained)).polkitView := by
  have settles {w : PolkitView}
      (ending : Concluded d.polkitView (d.polkitView.note (.signalled session.ref (.completed gained))) w cookie ref session
        state.result gained) : Onward p d.polkitView w := by
    have settle : Step maxAuthRetries d.polkitView.book _ := Step.settle cookie _ held.attempt gained
    refine .step ending.sound (ending.book.symm ▸ settle) ?_
    intro ref used
    simpa [ending.effects,PolkitView.note] using used
  cases gained with
  | true => exact settles (gained_concluded d sound held)
  | false =>
    by_cases few : state.retryCount + 1 < maxAuthRetries
    · have again := failed_renewed d sound held few
      have retry : Step maxAuthRetries d.polkitView.book _ := Step.retry cookie _ held.attempt few
      obtain ⟨next,effects⟩ := again.effects
      refine .step again.sound (again.book.symm ▸ retry) ?_
      intro ref used
      simpa [effects,PolkitView.note] using used
    · exact settles (failed_concluded d sound held few)

theorem heard_onward (d : Daemon) (sound : d.polkitView.Sound) (held : Held d.listener cookie ref state session)
    (said : PolkitSignal) : Onward p d.polkitView (signal d session.ref said).polkitView := by
  have slot := withState_held (d := logPolkit d (.signalled session.ref said)) held
  have noted (silent : (Effect.polkit (.signalled session.ref said)).happening = none) :
      Onward p d.polkitView (d.polkitView.note (.signalled session.ref said)) := note_onward sound _ silent nofun
  cases said with
  | completed gained => exact completed_onward d sound held gained
  | request request echo =>
    have silent := noted rfl
    have touched := touch_onward (p := p) silent.sound held {state with prompt:=request,echoOn:=echo,requestSent:=true}
      ⟨rfl,rfl,rfl,held.fit.progress,rfl⟩ rfl rfl
    simp only [signal,onSessionRequest,slot,setState,view_onSessionRequest,view_withListener,view_logPolkit]
    exact silent.trans touched
  | showError error =>
    have silent := noted rfl
    have touched := touch_onward (p := p) silent.sound held {state with errorText:=error}
      ⟨rfl,rfl,rfl,held.fit.progress,rfl⟩ rfl rfl
    simp only [signal,onSessionError,slot,setState,view_onSessionRetry,view_withListener,view_logPolkit]
    exact silent.trans touched
  | showInfo info =>
    simp only [signal,PolkitListener.onSessionInfo,slot,view_onSessionInfo,view_logPolkit]
    exact noted rfl

theorem session_held (linked : Linked l) (mapped : l.sessionToState.find s = some ref) :
    ∃ cookie state session, Held l cookie ref state session ∧ session.ref = s := by
  obtain ⟨state,session,stored,current,same⟩ := linked.backward s ref mapped
  obtain ⟨found,other,held⟩ := linked.held (linked.owned ref state stored)
  cases held.stored.symm.trans stored
  cases held.fit.current.symm.trans current
  exact ⟨_,_,_,held,same⟩

theorem signal_onward (d : Daemon) (sound : d.polkitView.Sound) (created : session < d.listener.nextSession)
    (said : PolkitSignal) : Onward p d.polkitView (signal d session said).polkitView := by
  cases mapped : d.listener.sessionToState.find session with
  | none => exact orphan_onward d sound created mapped said
  | some ref =>
    obtain ⟨cookie,state,current,held,rfl⟩ := session_held sound.linked mapped
    exact heard_onward d sound held said

theorem finishCancelled_onward (d : Daemon) (sound : d.polkitView.Sound) (held : Held d.listener cookie ref state session) :
    Onward p d.polkitView (finishCancelled d ref).polkitView := by
  have ending := cancelled_concluded d sound held
  have cancel : Step maxAuthRetries d.polkitView.book _ := Step.cancel cookie _ held.attempt
  refine .step ending.sound (ending.book.symm ▸ cancel) ?_
  intro ref used
  simpa [ending.effects] using used

-- Every state is finished once: those that come later in the list stay held.
theorem cancelAll_invariant {P : Daemon → Prop}
    (kept : ∀ m cookie ref state session, m.polkitView.Sound → Held m.listener cookie ref state session → P m →
      P (finishCancelled m ref))
    (d : Daemon) (sound : d.polkitView.Sound) (entries : List (QString × StateRef)) (apart : (entries.map Prod.fst).Nodup)
    (listed : ∀ entry ∈ entries, d.listener.cookieToState.find entry.1 = some entry.2) (start : P d) :
    P ((entries.map Prod.snd).foldl finishCancelled d) := by
  induction entries generalizing d with
  | nil => exact start
  | cons entry rest ih =>
    obtain ⟨fresh,apart⟩ := List.nodup_cons.mp apart
    obtain ⟨state,session,held⟩ := sound.linked.held (listed entry List.mem_cons_self)
    have ending := cancelled_concluded d sound held
    refine ih (finishCancelled d entry.2) ending.sound apart ?_ (kept d _ _ state session sound held start)
    intro later present
    have different : later.1 ≠ entry.1 := fun same => fresh (same ▸ List.mem_map_of_mem present)
    have kept := ending.rewired.cookies later.1
    rw [if_neg different] at kept
    exact kept.trans (listed later (List.mem_cons_of_mem _ present))

theorem cancelAuthentication_invariant {P : Daemon → Prop}
    (kept : ∀ m cookie ref state session, m.polkitView.Sound → Held m.listener cookie ref state session → P m →
      P (finishCancelled m ref))
    (d : Daemon) (sound : d.polkitView.Sound) (start : P d) : P (cancelAuthentication d) := by
  apply cancelAll_invariant kept d sound d.listener.cookieToState.toList
  · exact Table.nodup_toList _
  · intro entry present
    exact (Table.mem_toList _ _ _).mp present
  · exact start

theorem cancelAuthentication_onward (d : Daemon) (sound : d.polkitView.Sound) :
    Onward p d.polkitView (cancelAuthentication d).polkitView := by
  apply cancelAuthentication_invariant (P := fun m => Onward p d.polkitView m.polkitView) _ d sound
  · exact .idle sound rfl (fun _ used => used)
  · intro m cookie ref state session sound held onward
    exact onward.trans (finishCancelled_onward m sound held)

theorem submitPassword_onward (d : Daemon) (sound : d.polkitView.Sound) (cookie pass : QString) :
    Onward p d.polkitView (submitPassword d cookie pass).polkitView := by
  have idle : Onward p d.polkitView d.polkitView := .idle sound rfl (fun _ used => used)
  have same : (d.log (.submitted cookie pass)).listener = d.listener := rfl
  unfold submitPassword
  simp only [same]
  cases named : d.listener.cookieToState.find cookie with
  | none => exact (view_submitted d cookie pass).symm ▸ idle
  | some ref =>
    obtain ⟨state,session,held⟩ := sound.linked.held named
    have stored : d.listener.states.find ref = some state := held.stored
    simp only [stored,held.fit.current,view_logPolkit,view_submitted]
    exact note_onward sound _ rfl (fun _ same => by cases same)

theorem cancelPending_held (d : Daemon) (held : Held d.listener cookie ref state session) :
    cancelPending d cookie = finishCancelled (cancelSession d session) ref := by
  unfold cancelPending
  simp only [held.named,held.stored,held.fit.current]

-- Session::cancel() returned before anything else happened.
theorem cancelSession_quiet (d : Daemon) (quiet : d.env.cancelCompletes = false) (session : PolkitSession) :
    cancelSession d session = logPolkit d (.cancelled session) := by
  unfold cancelSession
  simp only [show (logPolkit d (.cancelled session)).env.cancelCompletes = false from quiet]
  rfl

theorem cancelSession_reenters (d : Daemon) (reenters : d.env.cancelCompletes = true) (session : PolkitSession) :
    cancelSession d session = signal (logPolkit d (.cancelled session)) session.ref (.completed false) := by
  unfold cancelSession
  simp only [show (logPolkit d (.cancelled session)).env.cancelCompletes = true from reenters]
  rfl

theorem finishCancelled_gone {v middle : PolkitView} {m : Daemon}
    (ending : Concluded v middle m.polkitView cookie ref session result gained) :
    finishCancelled m ref = logPolkit m (.useAfterFree ref) := by
  have gone : m.listener.states.find ref = none := (ending.rewired.states ref).trans (if_pos rfl)
  unfold finishCancelled
  rw [gone]

theorem cancelPending_onward (d : Daemon) (sound : d.polkitView.Sound) (cookie : QString) :
    Onward (d.env.cancelCompletes = false) d.polkitView (cancelPending d cookie).polkitView := by
  cases named : d.listener.cookieToState.find cookie with
  | none =>
    have nothing : cancelPending d cookie = d := by unfold cancelPending; rw [named]
    rw [nothing]
    exact .idle sound rfl (fun _ used => used)
  | some ref =>
    obtain ⟨state,session,held⟩ := sound.linked.held named
    rw [cancelPending_held d held]
    have noted : Onward (d.env.cancelCompletes = false) d.polkitView (logPolkit d (.cancelled session)).polkitView := by
      rw [view_logPolkit]
      exact note_onward sound _ rfl nofun
    by_cases quiet : d.env.cancelCompletes = false
    · rw [cancelSession_quiet d quiet]
      exact noted.trans (finishCancelled_onward _ noted.sound held)
    · rw [cancelSession_reenters d ((Bool.not_eq_false _).mp quiet)]
      have heard := noted.trans (completed_onward (logPolkit d (.cancelled session)) noted.sound held false)
      by_cases few : state.retryCount + 1 < maxAuthRetries
      · have again := failed_renewed (logPolkit d (.cancelled session)) noted.sound held few
        obtain ⟨_,_,later⟩ := again.sound.linked.held again.named
        exact heard.trans (finishCancelled_onward _ again.sound later)
      · have ending := failed_concluded (logPolkit d (.cancelled session)) noted.sound held few
        rw [finishCancelled_gone ending,view_logPolkit]
        exact ⟨note_sound heard.sound _,heard.steps,fun asynchronous => absurd asynchronous quiet⟩

theorem refused_onward (d : Daemon) (sound : d.polkitView.Sound) (error : QString) : Onward p d.polkitView
    (logPolkit (logPolkit (d.withListener {d.listener with nextResult:=d.listener.nextResult + 1})
      (.resultError d.listener.nextResult error)) (.resultCompleted d.listener.nextResult)).polkitView := by
  simp only [view_logPolkit,view_withListener]
  have linked : Linked {d.listener with nextResult:=d.listener.nextResult + 1} :=
    ⟨sound.linked.forward,sound.linked.owned,sound.linked.backward,sound.linked.allocated,sound.linked.created⟩
  refine .step ⟨linked,sound.shown⟩ (Step.refuse (b := d.polkitView.book)) ?_
  intro ref used
  simpa [PolkitView.note,PolkitView.withListener] using used

-- The listener after it accepted a request.
def accepted (l : PolkitListener) (state : SessionState) : PolkitListener :=
  let entered := {state with session:=some (nextSessionOf l state)}
  { cookieToState := l.cookieToState.insert state.cookie l.nextState
    sessionToState := l.sessionToState.insert l.nextSession l.nextState
    states := (l.states.insert l.nextState entered).insert l.nextState {entered with cancelled:=false}
    nextState := l.nextState + 1
    nextSession := l.nextSession + 1
    nextResult := l.nextResult + 1 }

theorem accepted_linked (l : PolkitListener) (state : SessionState) (linked : Linked l)
    (free : l.cookieToState.find state.cookie = none) (progress : state.inProgress = true)
    (unsettled : state.gainedAuth = false) (first : state.retryCount = 0) :
    Linked (accepted l state) ∧
      attemptOf (accepted l state) = Function.update (attemptOf l) state.cookie (some ⟨state.result,l.nextSession,0⟩) := by
  have owner := fresh_owner linked free
  have rewired : Rewired l (accepted l state) state.cookie l.nextState none
      (some ({state with session:=some (nextSessionOf l state),cancelled:=false},nextSessionOf l state)) := by
    refine ⟨fun other => Table.find_insert _ _ _ _,?_,?_,Nat.le_succ _,Nat.le_succ _⟩
    · intro s
      simp only [accepted,Table.find_insert,Option.map_some,Option.some.injEq,eq_comm (b := s)]
      rfl
    · intro other
      simp only [accepted,Table.find_insert,Option.map_some]
      split <;> rfl
  have fit : Fit state.cookie {state with session:=some (nextSessionOf l state),cancelled:=false}
      (nextSessionOf l state) :=
    ⟨rfl,rfl,rfl,rfl,progress,by rw [first]; decide,unsettled,rfl⟩
  have suits : Suits l (accepted l state) state.cookie l.nextState
      {state with session:=some (nextSessionOf l state),cancelled:=false} (nextSessionOf l state) :=
    ⟨fit,fun other mapped => absurd (linked.created _ _ mapped) (Nat.lt_irrefl _),Nat.lt_succ_self _,Nat.lt_succ_self _⟩
  have attempts := rewired_attempts owner rewired (fun _ _ made => by cases made; rfl)
  refine ⟨rewired_linked linked owner rewired (fun _ _ made => by cases made; exact suits),?_⟩
  rw [attempts,← first]
  rfl

theorem view_accept (d : Daemon) (state : SessionState) (message actionId : QString) (details : List (QString × QString)) :
    (reattempt ((((newSession ((d.withListener {d.listener with nextResult:=d.listener.nextResult + 1}).withListener
        {d.listener with nextResult:=d.listener.nextResult + 1,nextState:=d.listener.nextState + 1})
        d.listener.nextState state)).withListener
        {(newSession ((d.withListener {d.listener with nextResult:=d.listener.nextResult + 1}).withListener
          {d.listener with nextResult:=d.listener.nextResult + 1,nextState:=d.listener.nextState + 1})
          d.listener.nextState state).listener with
          cookieToState := d.listener.cookieToState.insert state.cookie d.listener.nextState}).onPolkitRequest
        state.cookie message actionId state.selectedUser details) d.listener.nextState).polkitView =
      ⟨accepted d.listener state,Function.update d.polkitView.roster state.cookie (some (state.cookie,.polkit)),
        .began state.cookie state.result d.listener.nextSession :: d.polkitView.history,
        .initiated (nextSessionOf d.listener state) :: .created (nextSessionOf d.listener state) :: d.polkitView.effects⟩ := by
  have entered (e : Daemon) : (e.onPolkitRequest state.cookie message actionId state.selectedUser details).listener =
      e.listener := congrArg PolkitView.listener (view_onPolkitRequest ..)
  rw [view_reattempt _ _ ((congrArg (fun l : PolkitListener => l.states.find _) (entered _)).trans
    (Table.find_insert_self _ _ _)) rfl]
  simp only [entered,view_onPolkitRequest,view_withListener,view_newSession]
  rfl

theorem initiateAuthentication_onward (d : Daemon) (sound : d.polkitView.Sound) (actionId message iconName : QString)
    (details : List (QString × QString)) (cookie : QString) (identities : List QString) :
    Onward p d.polkitView (initiateAuthentication d actionId message iconName details cookie identities).polkitView := by
  unfold initiateAuthentication
  simp only
  split
  · exact refused_onward d sound _
  · next free =>
    cases identities with
    | nil => exact refused_onward d sound _
    | cons selectedUser rest =>
      let state : SessionState :=
        {inProgress:=true,cookie,message,iconName,actionId,details,result:=d.listener.nextResult,selectedUser}
      have free : d.listener.cookieToState.find cookie = none := Option.not_isSome_iff_eq_none.mp free
      obtain ⟨linked,attempts⟩ := accepted_linked d.listener state sound.linked free rfl rfl rfl
      have pending : d.polkitView.book.pending cookie = none := by
        change attemptOf d.listener cookie = none
        simp [attemptOf,free]
      have accept : Step maxAuthRetries d.polkitView.book _ := Step.accept cookie pending (by decide)
      refine (view_accept d state message actionId details).symm ▸ .step ⟨linked,?_⟩ ?_ ?_
      · intro other
        simp only [attempts]
        by_cases same : other = cookie
        · rw [same,Function.update_self,Function.update_self]; rfl
        · rw [Function.update_of_ne same,Function.update_of_ne same]; exact sound.shown other
      · unfold PolkitView.book
        simp only [attempts]
        exact accept
      · intro ref used
        simpa using used

end BbAuth.PolkitListener
