import BbAuth.PolkitLinks
import BbAuth.PolkitListener

open Library Library.Attempts
namespace BbAuth

-- What the effects tell of the requests of the polkit daemon.
def Effect.happening : Effect → Option (Happening QString)
  | .polkit (.initiated session) => some (.began session.cookie session.result session.ref)
  | .polkit (.signalled session (.completed gained)) => some (.heard session gained)
  | .polkit (.resultCompleted result) => some (.completed result)
  | .emitted (.closed id result _) => some (.closed id (result = .success))
  | _ => none

def Effect.ofPolkit : Effect → Option PolkitEffect
  | .polkit effect => some effect
  | _ => none

def happenings (history : List Effect) : List (Happening QString) := history.filterMap Effect.happening

def polkitEffects (history : List Effect) : List PolkitEffect := history.filterMap Effect.ofPolkit

-- The listener and what it did, with the sessions that are shown by the ids and
-- sources they are stored with.
structure PolkitView where
  listener : PolkitListener
  roster : QString → Option (QString × Source)
  history : List (Happening QString)
  effects : List PolkitEffect

namespace PolkitView

def withListener (v : PolkitView) (listener : PolkitListener) : PolkitView := {v with listener}

def note (v : PolkitView) (effect : PolkitEffect) : PolkitView :=
  {v with history:=(Effect.polkit effect).happening.toList ++ v.history,effects:=effect :: v.effects}

def close (v : PolkitView) (id : QString) (gained : Bool) : PolkitView :=
  match v.roster id with
  | none => v
  | some entry => {v with roster:=Function.update v.roster id none,history:=.closed entry.1 gained :: v.history}

-- The abstract requests that the view stands for.
def book (v : PolkitView) : Book QString :=
  ⟨PolkitListener.attemptOf v.listener,v.listener.nextSession,v.listener.nextResult,v.history⟩

-- A polkit session is shown for every request that is pending, and no other.
structure Sound (v : PolkitView) : Prop where
  linked : PolkitListener.Linked v.listener
  shown : ∀ cookie, v.roster cookie = (PolkitListener.attemptOf v.listener cookie).map (fun _ => (cookie,.polkit))

end PolkitView

def Core.polkitView (c : Core) : PolkitView :=
  ⟨c.listener,fun id => (c.sessionStore.find id).map (fun session => (session.id,session.source)),
    happenings c.history,polkitEffects c.history⟩

def Daemon.polkitView (d : Daemon) : PolkitView := d.core.polkitView

namespace Core

theorem view_updateSession (c : Core) (id : QString) (change : Session → Session)
    (alike : ∀ s, (change s).id = s.id ∧ (change s).source = s.source) :
    (c.updateSession id change).polkitView = c.polkitView := by
  unfold updateSession
  cases found : c.sessionStore.find id with
  | none => rfl
  | some session =>
    have roster : (fun other => ((c.sessionStore.insert id (change session)).find other).map (fun s => (s.id,s.source))) =
        fun other => (c.sessionStore.find other).map (fun s => (s.id,s.source)) := by
      funext other
      rw [Table.find_insert]
      split
      · next same => rw [same,found]; simp [alike session]
      · rfl
    exact congrArg (fun roster => PolkitView.mk c.listener roster (happenings c.history) (polkitEffects c.history)) roster

theorem view_closeSession (c : Core) (id : QString) (result : Result) :
    (c.closeSession id result).polkitView = c.polkitView.close id (result = .success) := by
  unfold closeSession PolkitView.close
  cases found : c.sessionStore.find id with
  | none => simp [polkitView,found]
  | some session =>
    have roster : (fun other => ((c.sessionStore.remove id).find other).map (fun s => (s.id,s.source))) =
        Function.update c.polkitView.roster id none := by
      funext other
      rw [Table.find_remove]
      by_cases same : other = id
      · rw [if_pos same,same,Function.update_self]; rfl
      · rw [if_neg same,Function.update_of_ne same]; rfl
    have shown : c.polkitView.roster id = some (session.id,session.source) := congrArg (Option.map _) found
    rw [shown]
    exact congrArg (fun roster => PolkitView.mk c.listener roster
      (.closed session.id (result = .success) :: happenings c.history) (polkitEffects c.history)) roster

theorem view_createSession (c : Core) (id : QString) (ctx : Context) :
    (c.createSession id .polkit ctx).polkitView =
      {c.polkitView with roster:=Function.update c.polkitView.roster id (some (id,.polkit))} := by
  have roster : (fun other => ((c.sessionStore.insert id {id,source:=.polkit,context:=ctx}).find other).map
      (fun s : Session => (s.id,s.source))) = Function.update c.polkitView.roster id (some (id,.polkit)) := by
    funext other
    rw [Table.find_insert]
    by_cases same : other = id
    · rw [if_pos same,same,Function.update_self]; rfl
    · rw [if_neg same,Function.update_of_ne same]; rfl
  exact congrArg (fun roster => PolkitView.mk c.listener roster (happenings c.history) (polkitEffects c.history)) roster

end Core

namespace PolkitListener

@[simp] theorem view_withListener (d : Daemon) (listener : PolkitListener) :
    (d.withListener listener).polkitView = d.polkitView.withListener listener := rfl

@[simp] theorem view_logPolkit (d : Daemon) (effect : PolkitEffect) :
    (logPolkit d effect).polkitView = d.polkitView.note effect := by
  unfold Daemon.polkitView logPolkit
  rw [Daemon.core_log]
  change Core.polkitView (d.core.log (.polkit effect)) = _
  unfold Core.polkitView PolkitView.note Core.log happenings
  simp only [List.filterMap_cons]
  cases (Effect.polkit effect).happening <;> rfl

@[simp] theorem view_submitted (d : Daemon) (cookie pass : QString) :
    (d.log (.submitted cookie pass)).polkitView = d.polkitView := by
  unfold Daemon.polkitView
  rw [Daemon.core_log]
  rfl

@[simp] theorem view_onSessionRetry (d : Daemon) (cookie error : QString) :
    (d.onSessionRetry cookie error).polkitView = d.polkitView :=
  (congrArg Core.polkitView (Daemon.core_onSessionRetry d cookie error)).trans
    (Core.view_updateSession _ _ _ (fun _ => ⟨rfl,rfl⟩))

@[simp] theorem view_onSessionRequest (d : Daemon) (cookie prompt : QString) (echo : Bool) :
    (d.onSessionRequest cookie prompt echo).polkitView = d.polkitView :=
  (congrArg Core.polkitView (Daemon.core_onSessionRequest d cookie prompt echo)).trans
    (Core.view_updateSession _ _ _ (fun _ => ⟨rfl,rfl⟩))

@[simp] theorem view_onSessionInfo (d : Daemon) (cookie info : QString) :
    (d.onSessionInfo cookie info).polkitView = d.polkitView :=
  (congrArg Core.polkitView (Daemon.core_onSessionInfo d cookie info)).trans
    (Core.view_updateSession _ _ _ (fun _ => ⟨rfl,rfl⟩))

@[simp] theorem view_onSessionComplete (d : Daemon) (cookie : QString) (gained : Bool) :
    (d.onSessionComplete cookie gained).polkitView = d.polkitView.close cookie gained := by
  unfold Daemon.polkitView
  rw [Daemon.core_onSessionComplete,Core.view_closeSession]
  cases gained <;> rfl

@[simp] theorem view_onPolkitRequest (d : Daemon) (cookie message actionId user : QString)
    (details : List (QString × QString)) :
    (d.onPolkitRequest cookie message actionId user details).polkitView =
      {d.polkitView with roster:=Function.update d.polkitView.roster cookie (some (cookie,.polkit))} :=
  (congrArg Core.polkitView (Daemon.core_createSession _ _ _ _)).trans (Core.view_createSession _ _ _)

theorem listener_view (d : Daemon) : d.listener = d.polkitView.listener := rfl

theorem view_cleanUp (d : Daemon) (ref : StateRef) (current : state.session = some session)
    (shown : d.polkitView.roster state.cookie = some (state.cookie,.polkit)) :
    (cleanUp d ref state).polkitView =
      { listener := { d.listener with
          cookieToState := d.listener.cookieToState.remove state.cookie
          sessionToState := d.listener.sessionToState.remove session.ref
          states := (d.listener.states.insert ref {state with inProgress:=false}).remove ref }
        roster := Function.update d.polkitView.roster state.cookie none
        history := .closed state.cookie state.gainedAuth :: .completed session.result :: d.polkitView.history
        effects := .completed state.gainedAuth :: .resultCompleted session.result :: d.polkitView.effects } := by
  unfold cleanUp
  simp only [current,dropSession,setState,listener_view,view_withListener,view_logPolkit,view_onSessionComplete]
  simp only [PolkitView.withListener,PolkitView.note,PolkitView.close,Effect.happening,Option.toList_some,
    Option.toList_none,List.singleton_append,List.nil_append,shown]

def nextSessionOf (l : PolkitListener) (state : SessionState) : PolkitSession :=
  ⟨l.nextSession,state.selectedUser,state.cookie,state.result⟩

theorem view_newSession (d : Daemon) (ref : StateRef) (state : SessionState) :
    (newSession d ref state).polkitView =
      (d.polkitView.note (.created (nextSessionOf d.listener state))).withListener
        { d.listener with
          nextSession := d.listener.nextSession + 1
          sessionToState := d.listener.sessionToState.insert d.listener.nextSession ref
          states := d.listener.states.insert ref {state with session:=some (nextSessionOf d.listener state)} } := by
  unfold newSession
  simp only [listener_view,view_withListener,view_logPolkit]
  rfl

theorem view_reattempt (d : Daemon) (ref : StateRef) (stored : d.listener.states.find ref = some state)
    (current : state.session = some session) :
    (reattempt d ref).polkitView =
      (d.polkitView.withListener
        {d.listener with states:=d.listener.states.insert ref {state with cancelled:=false}}).note (.initiated session) := by
  unfold reattempt
  rw [stored]
  simp only [current]
  rw [view_logPolkit]
  rfl

-- A request is over: it was completed and its session closed after the middle
-- view, and nothing but its entries went.
structure Concluded (v middle w : PolkitView) (cookie : QString) (ref : StateRef) (session : PolkitSession)
    (result : AsyncResult) (gained : Bool) : Prop where
  sound : w.Sound
  rewired : Rewired v.listener w.listener cookie ref (some session.ref) none
  book : w.book = {v.book with
    pending:=Function.update v.book.pending cookie none
    history:=.closed cookie gained :: .completed result :: middle.history}
  effects : w.effects = .completed gained :: .resultCompleted result :: middle.effects

-- What is cleaned up may differ from what was held, and from what is stored, in
-- its flags.
theorem cleanUp_concluded {v : PolkitView} (sound : v.Sound) (held : Held v.listener cookie ref state session) (d : Daemon)
    (listener : d.listener = {v.listener with states:=v.listener.states.insert ref stored})
    (roster : d.polkitView.roster = v.roster) (named : changed.cookie = cookie) (current : changed.session = some session) :
    Concluded v d.polkitView (cleanUp d ref changed).polkitView cookie ref session state.result changed.gainedAuth := by
  subst named
  have shown : d.polkitView.roster changed.cookie = some (changed.cookie,.polkit) := by
    rw [roster,sound.shown,held.attempt]
    rfl
  have owner := held.owner sound.linked
  have rewired : Rewired v.listener (cleanUp d ref changed).polkitView.listener changed.cookie ref (some session.ref) none := by
    rw [view_cleanUp d ref current shown,listener]
    refine ⟨?_,?_,?_,Nat.le_refl _,Nat.le_refl _⟩
    · intro other
      exact Table.find_remove _ _ _
    · intro s
      simp only [Table.find_remove,Option.map_none,Option.some.injEq,eq_comm (b := s)]
      rfl
    · intro other
      simp only [Table.find_remove,Table.find_insert,Option.map_none]
      split <;> rfl
  have attempts := rewired_attempts owner rewired (fun _ _ made => by cases made)
  refine ⟨⟨rewired_linked sound.linked owner rewired (fun _ _ made => by cases made),?_⟩,rewired,?_,?_⟩
  · intro other
    rw [attempts,view_cleanUp d ref current shown,roster]
    by_cases same : other = changed.cookie
    · rw [same,Function.update_self]; simp
    · simp only [Function.update_of_ne same]; exact sound.shown other
  · unfold PolkitView.book
    rw [attempts,view_cleanUp d ref current shown,listener,held.fit.result]
    rfl
  · rw [view_cleanUp d ref current shown,held.fit.result]

def enter (l : PolkitListener) (ref : StateRef) (state : SessionState) : PolkitListener :=
  let entered := {state with session:=some (nextSessionOf l state)}
  { l with
    nextSession := l.nextSession + 1
    sessionToState := l.sessionToState.insert l.nextSession ref
    states := (l.states.insert ref entered).insert ref {entered with cancelled:=false} }

theorem enter_states (l : PolkitListener) (ref other : StateRef) (state : SessionState) :
    (enter l ref state).states.find other =
      if other = ref then some {state with session:=some (nextSessionOf l state),cancelled:=false}
      else l.states.find other := by
  simp only [enter,Table.find_insert]
  split <;> rfl

theorem enter_fit (l : PolkitListener) (cookie : QString) (named : state.cookie = cookie) (progress : state.inProgress = true)
    (unsettled : state.gainedAuth = false) (few : state.retryCount < maxAuthRetries) :
    Fit cookie {state with session:=some (nextSessionOf l state),cancelled:=false} (nextSessionOf l state) :=
  ⟨named,rfl,named,rfl,progress,few,unsettled,rfl⟩

theorem view_renewed (d : Daemon) (ref : StateRef) (state : SessionState) :
    (reattempt (newSession d ref state) ref).polkitView =
      ⟨enter d.listener ref state,d.polkitView.roster,
        .began state.cookie state.result d.listener.nextSession :: d.polkitView.history,
        .initiated (nextSessionOf d.listener state) :: .created (nextSessionOf d.listener state) :: d.polkitView.effects⟩ := by
  have stored : (newSession d ref state).listener.states.find ref = _ := Table.find_insert_self _ _ _
  rw [view_reattempt _ ref stored rfl,view_newSession]
  rfl

-- A request goes on with a new session, initiated after the middle view.
structure Renewed (v middle w : PolkitView) (cookie : QString) (ref : StateRef) (state : SessionState) : Prop where
  sound : w.Sound
  named : w.listener.cookieToState.find cookie = some ref
  book : w.book = ⟨Function.update v.book.pending cookie (some ⟨state.result,v.book.nextTrial,state.retryCount + 1⟩),
    v.book.nextTrial + 1,v.book.nextTicket,.began cookie state.result v.book.nextTrial :: middle.history⟩
  effects : ∃ next, w.effects = .initiated next :: .created next :: middle.effects

theorem restart_renewed {v : PolkitView} (sound : v.Sound) (held : Held v.listener cookie ref state session) (d : Daemon)
    (listener : d.listener = {v.listener with states:=v.listener.states.insert ref changed})
    (roster : d.polkitView.roster = v.roster) (named : again.cookie = cookie) (result : again.result = state.result)
    (progress : again.inProgress = true) (unsettled : again.gainedAuth = false)
    (failed : again.retryCount = state.retryCount + 1) (few : state.retryCount + 1 < maxAuthRetries) :
    Renewed v d.polkitView (reattempt (newSession (dropSession d (some session)) ref again) ref).polkitView cookie ref state := by
  subst named
  let dropped : PolkitListener :=
    { v.listener with
      states := v.listener.states.insert ref changed
      sessionToState := v.listener.sessionToState.remove session.ref }
  have same : (dropSession d (some session)).listener = dropped := by
    change {d.listener with sessionToState:=d.listener.sessionToState.remove session.ref} = dropped
    rw [listener]
  have view := view_renewed (dropSession d (some session)) ref again
  rw [same] at view
  have owner := held.owner sound.linked
  have rewired : Rewired v.listener (enter dropped ref again) again.cookie ref (some session.ref)
      (some ({again with session:=some (nextSessionOf dropped again),cancelled:=false},nextSessionOf dropped again)) := by
    refine ⟨?_,?_,?_,Nat.le_refl _,Nat.le_succ _⟩
    · intro other
      change v.listener.cookieToState.find other = _
      split
      · next same => rw [same]; exact held.named
      · rfl
    · intro s
      simp only [enter,dropped,Table.find_insert,Table.find_remove,Option.map_some,Option.some.injEq,eq_comm (b := s)]
      rfl
    · intro other
      rw [enter_states]
      split
      · rfl
      · next apart => exact Table.find_insert_other _ _ apart
  have suits : Suits v.listener (enter dropped ref again) again.cookie ref
      {again with session:=some (nextSessionOf dropped again),cancelled:=false} (nextSessionOf dropped again) := by
    refine ⟨enter_fit dropped _ rfl progress unsettled (failed ▸ few),?_,?_,Nat.lt_succ_self _⟩
    · intro other mapped
      exact absurd (sound.linked.created _ _ mapped) (Nat.lt_irrefl _)
    · exact sound.linked.allocated ref state held.stored
  have linked := rewired_linked sound.linked owner rewired (fun _ _ made => by cases made; exact suits)
  have attempts := rewired_attempts owner rewired (fun _ _ made => by cases made; rfl)
  rw [view]
  refine ⟨⟨linked,?_⟩,held.named,?_,_,rfl⟩
  · intro other
    simp only [attempts]
    change d.polkitView.roster other = _
    rw [roster,sound.shown]
    by_cases same : other = again.cookie
    · rw [same,Function.update_self,held.attempt]; rfl
    · rw [Function.update_of_ne same]
  · unfold PolkitView.book
    simp only [attempts,Option.map_some,attemptIn,nextSessionOf,result,failed]
    rfl

-- What finishAuth finds stored for a request that is held, after its slot wrote
-- to it.
structure Posed (state posed : SessionState) : Prop where
  cookie : posed.cookie = state.cookie
  session : posed.session = state.session
  result : posed.result = state.result
  progress : posed.inProgress = true
  retries : posed.retryCount = state.retryCount

section finishing

variable {v : PolkitView} (sound : v.Sound) (held : Held v.listener cookie ref state session)
variable {d : Daemon} (listener : d.listener = {v.listener with states:=v.listener.states.insert ref posed})
variable (roster : d.polkitView.roster = v.roster) (same : Posed state posed)

include listener in
theorem finds_posed : d.listener.states.find ref = some posed := by
  rw [listener]
  exact Table.find_insert_self _ _ _

include sound held listener roster same

theorem finish_over (ending : posed.gainedAuth = true ∨ posed.cancelled = true) :
    Concluded v d.polkitView (finishAuth d ref).polkitView cookie ref session state.result posed.gainedAuth := by
  have ends : finishAuth d ref = cleanUp d ref posed := by
    unfold finishAuth
    rw [finds_posed listener]
    rcases ending with ending | ending <;> simp [same.progress,ending]
  rw [ends]
  exact cleanUp_concluded sound held d listener roster (same.cookie.trans held.fit.named)
    (same.session.trans held.fit.current)

theorem finish_again (unsettled : posed.gainedAuth = false) (wanted : posed.cancelled = false)
    (few : state.retryCount + 1 < maxAuthRetries) :
    Renewed v d.polkitView (finishAuth d ref).polkitView cookie ref state := by
  have current := same.session.trans held.fit.current
  have goes : finishAuth d ref =
      reattempt (newSession (dropSession d (some session)) ref {posed with retryCount:=posed.retryCount + 1}) ref := by
    unfold finishAuth
    rw [finds_posed listener]
    simp [same.progress,unsettled,wanted,same.retries,few,current]
  rw [goes]
  exact restart_renewed sound held d listener roster (same.cookie.trans held.fit.named) same.result same.progress unsettled
    (congrArg (· + 1) same.retries) few

theorem finish_failed (unsettled : posed.gainedAuth = false) (wanted : posed.cancelled = false)
    (many : ¬state.retryCount + 1 < maxAuthRetries) :
    Concluded v d.polkitView (finishAuth d ref).polkitView cookie ref session state.result false := by
  let error := text "Too many failed attempts"
  let failed : SessionState := {posed with retryCount:=posed.retryCount + 1,errorText:=error}
  have ends : finishAuth d ref = cleanUp (d.onSessionRetry posed.cookie error) ref failed := by
    unfold finishAuth
    rw [finds_posed listener]
    simp [same.progress,unsettled,wanted,same.retries,many,failed,error]
  have view := view_onSessionRetry d posed.cookie error
  have concluded : Concluded v _ (cleanUp _ ref failed).polkitView cookie ref session state.result failed.gainedAuth :=
    cleanUp_concluded sound held (d.onSessionRetry posed.cookie error) ((congrArg PolkitView.listener view).trans listener)
      ((congrArg PolkitView.roster view).trans roster) (same.cookie.trans held.fit.named) (same.session.trans held.fit.current)
  rw [ends]
  rw [view,show failed.gainedAuth = false from unsettled] at concluded
  exact concluded

end finishing

end PolkitListener

end BbAuth
