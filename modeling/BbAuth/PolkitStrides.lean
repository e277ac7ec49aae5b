import Mathlib.Logic.Relation
import BbAuth.Agent

open Library
namespace BbAuth.PolkitListener

-- The ways in which the listener touches the daemon while it runs. It opens a
-- session only when a request comes, through onPolkitRequest.
inductive Stride : Daemon → Daemon → Prop where
  | listener (listener : PolkitListener) : Stride d (d.withListener listener)
  | logged (effect : PolkitEffect) : Stride d (logPolkit d effect)
  | updated (id : QString) (change : Session → Session)
      (alike : ∀ s, (change s).id = s.id ∧ (change s).source = s.source ∧ (change s).context = s.context) :
      Stride d (d.emitUpdated (d.sessionStore.updateWith change id))
  | completed (cookie : QString) (success : Bool) : Stride d (d.onSessionComplete cookie success)

def Strides : Daemon → Daemon → Prop := Relation.ReflTransGen Stride

theorem Strides.trans (first : Strides d m) (second : Strides m e) : Strides d e := Relation.ReflTransGen.trans first second

theorem Strides.one (stride : Stride d e) : Strides d e := Relation.ReflTransGen.single stride

theorem Strides.invariant {P : Daemon → Prop} (kept : ∀ d e, Stride d e → P d → P e)
    (strides : Strides d e) (start : P d) : P e := by
  induction strides with
  | refl => exact start
  | tail _ stride ih => exact kept _ _ stride ih

theorem strides_withListener (d : Daemon) (listener : PolkitListener) : Strides d (d.withListener listener) :=
  .one (.listener listener)

theorem strides_logPolkit (d : Daemon) (effect : PolkitEffect) : Strides d (logPolkit d effect) := .one (.logged effect)

theorem strides_setState (d : Daemon) (ref : StateRef) (state : SessionState) : Strides d (setState d ref state) :=
  strides_withListener d _

theorem strides_newSession (d : Daemon) (ref : StateRef) (state : SessionState) :
    Strides d (newSession d ref state) :=
  (strides_logPolkit d _).trans (strides_withListener _ _)

theorem strides_reattempt (d : Daemon) (ref : StateRef) : Strides d (reattempt d ref) := by
  unfold reattempt
  split
  · exact strides_logPolkit d _
  · simp only
    split
    · exact strides_setState d _ _
    · exact (strides_setState d _ _).trans (strides_logPolkit _ _)

theorem strides_dropSession (d : Daemon) (session : Option PolkitSession) : Strides d (dropSession d session) := by
  cases session with
  | none => exact .refl
  | some session => exact strides_withListener d _

theorem strides_retry (d : Daemon) (cookie error : QString) : Strides d (d.onSessionRetry cookie error) :=
  .one (.updated cookie _ (fun _ => ⟨rfl,rfl,rfl⟩))

theorem strides_complete (d : Daemon) (cookie : QString) (success : Bool) :
    Strides d (d.onSessionComplete cookie success) := .one (.completed cookie success)

theorem strides_cleanUp (d : Daemon) (ref : StateRef) (state : SessionState) :
    Strides d (cleanUp d ref state) := by
  unfold cleanUp
  exact (strides_setState d _ _).trans <| (strides_logPolkit _ _).trans <| (strides_dropSession _ _).trans <|
    (strides_complete _ _ _).trans <| (strides_logPolkit _ _).trans (strides_withListener _ _)

theorem strides_finishAuth (d : Daemon) (ref : StateRef) : Strides d (finishAuth d ref) := by
  unfold finishAuth
  split
  · exact strides_logPolkit d _
  · simp only
    split
    · exact .refl
    · split
      · split
        · exact (strides_dropSession d _).trans <| (strides_newSession _ _ _).trans (strides_reattempt _ _)
        · exact (strides_retry d _ _).trans (strides_cleanUp _ _ _)
      · exact strides_cleanUp d _ _

theorem strides_withState (d : Daemon) (session : Nat) (slot : StateRef → SessionState → Daemon)
    (strides : ∀ ref state, Strides d (slot ref state)) : Strides d (withState d session slot) := by
  unfold withState
  split
  · exact .refl
  · split
    · exact strides_logPolkit d _
    · exact strides _ _

theorem strides_onSessionCompleted (d : Daemon) (session : Nat) (gained : Bool) :
    Strides d (onSessionCompleted d session gained) := by
  apply strides_withState d session _
  intro ref state
  cases gained with
  | false => exact (strides_setState d _ _).trans <| (strides_retry _ _ _).trans (strides_finishAuth _ _)
  | true => exact (strides_setState d _ _).trans (strides_finishAuth _ _)

theorem strides_onSessionRequest (d : Daemon) (session : Nat) (request : QString) (echo : Bool) :
    Strides d (onSessionRequest d session request echo) := by
  apply strides_withState d session _
  intro ref state
  apply (strides_setState d ref {state with prompt:=request,echoOn:=echo,requestSent:=true}).trans
  exact .one (.updated state.cookie _ (fun _ => ⟨rfl,rfl,rfl⟩))

theorem strides_onSessionInfo (d : Daemon) (session : Nat) (info : QString) :
    Strides d (onSessionInfo d session info) := by
  apply strides_withState d session _
  intro ref state
  exact .one (.updated state.cookie _ (fun _ => ⟨rfl,rfl,rfl⟩))

theorem strides_onSessionError (d : Daemon) (session : Nat) (error : QString) :
    Strides d (onSessionError d session error) :=
  strides_withState d session _ (fun _ _ => (strides_setState _ _ _).trans (strides_retry _ _ _))

theorem strides_signal (d : Daemon) (session : Nat) (signal : PolkitSignal) :
    Strides d (PolkitListener.signal d session signal) := by
  apply (strides_logPolkit d (.signalled session signal)).trans
  cases signal with
  | request request echo => exact strides_onSessionRequest _ _ _ _
  | completed gained => exact strides_onSessionCompleted _ _ _
  | showError error => exact strides_onSessionError _ _ _
  | showInfo info => exact strides_onSessionInfo _ _ _

theorem strides_finishCancelled (d : Daemon) (ref : StateRef) : Strides d (finishCancelled d ref) := by
  unfold finishCancelled
  split
  · exact strides_logPolkit d _
  · exact (strides_setState d _ _).trans (strides_finishAuth _ _)

theorem strides_cancelAuthentication (d : Daemon) : Strides d (cancelAuthentication d) := by
  unfold cancelAuthentication
  generalize d.listener.cookieToState.toList.map Prod.snd = refs
  induction refs generalizing d with
  | nil => exact .refl
  | cons ref rest ih => exact (strides_finishCancelled d ref).trans (ih _)

theorem strides_cancelSession (d : Daemon) (session : PolkitSession) :
    Strides d (cancelSession d session) := by
  unfold cancelSession
  simp only
  split
  · exact (strides_logPolkit d _).trans (strides_signal _ _ _)
  · exact strides_logPolkit d _

theorem strides_cancelPending (d : Daemon) (cookie : QString) : Strides d (cancelPending d cookie) := by
  unfold cancelPending
  repeat' split
  · exact .refl
  · exact strides_logPolkit d _
  · exact .refl
  · exact (strides_cancelSession d _).trans (strides_finishCancelled _ _)

theorem strides_submitPassword (d : Daemon) (cookie pass : QString) :
    Strides (d.log (.submitted cookie pass)) (submitPassword d cookie pass) := by
  unfold submitPassword
  simp only
  repeat' split
  · exact .refl
  · exact strides_logPolkit _ _
  · exact .refl
  · exact strides_logPolkit _ _

-- A request that is refused is only logged. Any other opens its session between
-- two strides of the listener.
theorem strides_initiateAuthentication (d : Daemon) (actionId message iconName : QString)
    (details : List (QString × QString)) (cookie : QString) (identities : List QString) :
    ((d.listener.cookieToState.contains cookie = true ∨ identities = []) ∧
      Strides d (initiateAuthentication d actionId message iconName details cookie identities)) ∨
    (¬(d.listener.cookieToState.contains cookie = true ∨ identities = []) ∧
      ∃ prepared user, Strides d prepared ∧ prepared.sessionStore = d.sessionStore ∧
        Strides (prepared.onPolkitRequest cookie message actionId user details)
          (initiateAuthentication d actionId message iconName details cookie identities)) := by
  have refused (e : Daemon) (effect other : PolkitEffect) (strides : Strides d e) :
      Strides d (logPolkit (logPolkit e effect) other) :=
    strides.trans <| (strides_logPolkit _ _).trans (strides_logPolkit _ _)
  unfold initiateAuthentication
  simp only
  split
  · next duplicate => exact .inl ⟨.inl duplicate,refused _ _ _ (strides_withListener d _)⟩
  · next fresh =>
    cases identities with
    | nil => exact .inl ⟨.inr rfl,refused _ _ _ (strides_withListener d _)⟩
    | cons selectedUser others =>
      refine .inr ⟨?_,_,selectedUser,?_,?_,strides_reattempt _ _⟩
      · intro cause
        rcases cause with duplicate | none
        · exact fresh duplicate
        · cases none
      · exact (strides_withListener d _).trans <| (strides_withListener _ _).trans <|
          (strides_newSession _ _ _).trans (strides_withListener _ _)
      · rfl

end BbAuth.PolkitListener
