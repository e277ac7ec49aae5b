import BbAuth.CoreHistory

open Library
namespace BbAuth

-- A Session object, by its number, asks for a response or is given one.
inductive PolkitExchange where
  | asked (session : Nat)
  | answered (session : Nat)
  deriving DecidableEq, Repr

def Effect.exchange : Effect → Option PolkitExchange
  | .polkit (.signalled session (.request ..)) => some (.asked session)
  | .polkit (.responded session _) => some (.answered session.ref)
  | _ => none

theorem exchange_routine {effect : Effect} (routine : effect.routine = true) : effect.exchange = none := by
  rcases routine_cases routine with ⟨_,_,rfl,_⟩ | ⟨_,rfl⟩ | rfl <;> rfl

namespace Daemon

variable {d e : Daemon} {input : Input} {socket : Socket} {msg : QJsonObject} {action : Action} {cookie response : QString}

def exchanges (d : Daemon) : List PolkitExchange := d.trace.filterMap Effect.exchange

-- No Session object was given more responses than it asked for.
def Solicited (d : Daemon) : Prop :=
  ∀ session, d.exchanges.count (.answered session) ≤ d.exchanges.count (.asked session)

theorem exchanges_core (d : Daemon) : d.core.history.filterMap Effect.exchange = d.exchanges :=
  unrouted_filterMap _ (fun _ => exchange_routine) d.trace

theorem exchanges_notes {d e : Daemon} (notes : Core.Notes (fun effect => effect.exchange = none) d.core e.core) :
    e.exchanges = d.exchanges := by
  rw [← exchanges_core,← exchanges_core]
  exact Grown.filterMap notes Effect.exchange (fun _ => id)

theorem exchanges_log (d : Daemon) (effect : Effect) :
    (d.log effect).exchanges = effect.exchange.toList ++ d.exchanges := by
  unfold exchanges log
  rw [List.filterMap_cons]
  cases effect.exchange <;> rfl

theorem exchanges_updated (d e : Daemon) (id : QString) (change : Session → Session)
    (updated : e.core = d.core.updateSession id change) : e.exchanges = d.exchanges := by
  apply exchanges_notes
  rw [updated]
  exact Core.notes_updateSession (fun _ => rfl) d.core id change

end Daemon

namespace PolkitListener

@[simp] theorem exchanges_withListener (d : Daemon) (listener : PolkitListener) :
    (d.withListener listener).exchanges = d.exchanges := rfl

@[simp] theorem exchanges_setState (d : Daemon) (ref : StateRef) (state : SessionState) :
    (setState d ref state).exchanges = d.exchanges := rfl

@[simp] theorem exchanges_logPolkit (d : Daemon) (effect : PolkitEffect) :
    (logPolkit d effect).exchanges = (Effect.polkit effect).exchange.toList ++ d.exchanges := d.exchanges_log _

@[simp] theorem exchanges_newSession (d : Daemon) (ref : StateRef) (state : SessionState) :
    (newSession d ref state).exchanges = d.exchanges := exchanges_logPolkit d _

@[simp] theorem exchanges_reattempt (d : Daemon) (ref : StateRef) : (reattempt d ref).exchanges = d.exchanges := by
  unfold reattempt
  split
  · exact exchanges_logPolkit d _
  · simp only
    split
    · rfl
    · exact exchanges_logPolkit _ _

@[simp] theorem exchanges_dropSession (d : Daemon) (session : Option PolkitSession) :
    (dropSession d session).exchanges = d.exchanges := by
  cases session <;> rfl

@[simp] theorem exchanges_onSessionRetry (d : Daemon) (cookie error : QString) :
    (d.onSessionRetry cookie error).exchanges = d.exchanges :=
  d.exchanges_updated _ cookie _ (Daemon.core_onSessionRetry d cookie error)

@[simp] theorem exchanges_onSessionRequest (d : Daemon) (cookie prompt : QString) (echo : Bool) :
    (d.onSessionRequest cookie prompt echo).exchanges = d.exchanges :=
  d.exchanges_updated _ cookie _ (Daemon.core_onSessionRequest d cookie prompt echo)

@[simp] theorem exchanges_onSessionInfo (d : Daemon) (cookie info : QString) :
    (d.onSessionInfo cookie info).exchanges = d.exchanges :=
  d.exchanges_updated _ cookie _ (Daemon.core_onSessionInfo d cookie info)

@[simp] theorem exchanges_onSessionComplete (d : Daemon) (cookie : QString) (success : Bool) :
    (d.onSessionComplete cookie success).exchanges = d.exchanges := by
  apply Daemon.exchanges_notes
  rw [Daemon.core_onSessionComplete]
  exact Core.notes_closeSession (fun _ => rfl) d.core cookie _

@[simp] theorem exchanges_onPolkitRequest (d : Daemon) (cookie message actionId user : QString)
    (details : List (QString × QString)) :
    (d.onPolkitRequest cookie message actionId user details).exchanges = d.exchanges := by
  apply Daemon.exchanges_notes
  unfold Daemon.onPolkitRequest
  rw [Daemon.core_createSession]
  exact Core.notes_createSession (fun _ => rfl) d.core cookie .polkit _

@[simp] theorem exchanges_cleanUp (d : Daemon) (ref : StateRef) (state : SessionState) :
    (cleanUp d ref state).exchanges = d.exchanges := by
  unfold cleanUp
  simp [Effect.exchange]

@[simp] theorem exchanges_finishAuth (d : Daemon) (ref : StateRef) : (finishAuth d ref).exchanges = d.exchanges := by
  unfold finishAuth
  split
  · exact exchanges_logPolkit d _
  · simp only
    split
    · rfl
    · split
      · split <;> simp
      · simp

theorem exchanges_withState (d : Daemon) (session : Nat) (slot : StateRef → SessionState → Daemon)
    (silent : ∀ ref state, (slot ref state).exchanges = d.exchanges) : (withState d session slot).exchanges = d.exchanges := by
  unfold withState
  split
  · rfl
  · split
    · exact exchanges_logPolkit d _
    · exact silent _ _

theorem exchanges_signal (d : Daemon) (session : Nat) (said : PolkitSignal) :
    (signal d session said).exchanges = (Effect.polkit (.signalled session said)).exchange.toList ++ d.exchanges := by
  rw [← exchanges_logPolkit]
  cases said with
  | request request echo => exact exchanges_withState _ session _ (fun ref state => by simp)
  | completed gained =>
    apply exchanges_withState _ session _
    intro ref state
    cases gained <;> simp
  | showError error => exact exchanges_withState _ session _ (fun ref state => by simp)
  | showInfo info => exact exchanges_withState _ session _ (fun ref state => by simp)

@[simp] theorem exchanges_finishCancelled (d : Daemon) (ref : StateRef) :
    (finishCancelled d ref).exchanges = d.exchanges := by
  unfold finishCancelled
  split
  · exact exchanges_logPolkit d _
  · simp

@[simp] theorem exchanges_cancelAuthentication (d : Daemon) : (cancelAuthentication d).exchanges = d.exchanges := by
  unfold cancelAuthentication
  generalize d.listener.cookieToState.toList.map Prod.snd = refs
  induction refs generalizing d with
  | nil => rfl
  | cons ref rest ih => exact (ih _).trans (exchanges_finishCancelled d ref)

@[simp] theorem exchanges_cancelSession (d : Daemon) (session : PolkitSession) :
    (cancelSession d session).exchanges = d.exchanges := by
  unfold cancelSession
  simp only
  split
  · exact (exchanges_signal (logPolkit d (.cancelled session)) session.ref (.completed false)).trans
      (exchanges_logPolkit d (.cancelled session))
  · exact exchanges_logPolkit d _

@[simp] theorem exchanges_cancelPending (d : Daemon) (cookie : QString) :
    (cancelPending d cookie).exchanges = d.exchanges := by
  unfold cancelPending
  repeat' split
  · rfl
  · exact exchanges_logPolkit d _
  · rfl
  · simp

theorem exchanges_initiateAuthentication (d : Daemon) (actionId message iconName : QString)
    (details : List (QString × QString)) (cookie : QString) (identities : List QString) :
    (initiateAuthentication d actionId message iconName details cookie identities).exchanges = d.exchanges := by
  unfold initiateAuthentication
  simp only
  split
  · simp [Effect.exchange]
  · cases identities <;> simp [Effect.exchange]

-- The Session object that a response to a cookie would be given to.
def sessionOf (l : PolkitListener) (cookie : QString) : Option PolkitSession :=
  (l.cookieToState.find cookie).bind fun ref => (l.states.find ref).bind SessionState.session

-- A response is handed on whether it was asked for or not.
theorem exchanges_submitPassword (d : Daemon) (cookie pass : QString) :
    (submitPassword d cookie pass).exchanges =
      ((sessionOf d.listener cookie).map (fun session => .answered session.ref)).toList ++ d.exchanges := by
  unfold submitPassword sessionOf
  simp only
  have noted : (d.log (.submitted cookie pass)).exchanges = d.exchanges := d.exchanges_log _
  have same : (d.log (.submitted cookie pass)).listener = d.listener := rfl
  rw [same]
  cases d.listener.cookieToState.find cookie with
  | none => exact noted
  | some ref =>
    simp only [Option.bind_some]
    cases d.listener.states.find ref with
    | none => exact (exchanges_logPolkit _ _).trans noted
    | some state =>
      simp only [Option.bind_some]
      cases state.session with
      | none => exact noted
      | some session =>
        refine (exchanges_logPolkit _ _).trans ?_
        rw [noted]
        rfl

end PolkitListener

namespace Daemon

variable {d e : Daemon} {input : Input} {socket : Socket} {msg : QJsonObject} {action : Action} {cookie response : QString}

theorem exchanges_sendJson (d : Daemon) (socket : Socket) (message : Message) :
    (d.sendJson socket message).exchanges = d.exchanges := by
  unfold sendJson
  split
  · exact d.exchanges_log _
  · rfl

theorem acts_exchanges (acts : Core.Acts d.core action e.core) (other : action.ofListener = false) :
    e.exchanges = d.exchanges :=
  exchanges_notes (Core.acts_notes (fun _ => rfl) (fun _ _ _ _ => rfl) (fun _ _ _ _ => rfl) acts other)

def given (d : Daemon) : Action → List PolkitExchange
  | .submit cookie _ => ((PolkitListener.sessionOf d.listener cookie).map (fun session => .answered session.ref)).toList
  | _ => []

-- What an input adds: a signal may ask, and a response that reaches the
-- listener is given to the current Session object of its cookie.
def exchanged (d : Daemon) (input : Input) : List PolkitExchange :=
  match input.event with
  | .polkitSignal session said => (Effect.polkit (.signalled session said)).exchange.toList
  | _ => d.given (d.action input)

theorem resultAction_other (d : Daemon) (socket : Socket) (msg : QJsonObject) :
    (d.resultAction socket msg).ofListener = false := by
  unfold resultAction
  simp only
  repeat' split
  all_goals rfl

theorem respond_submits (action : d.respondAction socket msg = .submit cookie response) :
    Agent.handleRespond d socket msg = (PolkitListener.submitPassword d cookie response).sendJson socket (.ok none) := by
  unfold respondAction at action
  unfold Agent.handleRespond
  simp only at action ⊢
  split at action
  · cases action
  next authorized =>
  rw [if_neg authorized]
  split at action
  · cases action
  next keyring =>
  rw [if_neg keyring]
  split at action
  · cases action
  next pinentry =>
  rw [if_neg pinentry]
  split at action
  · cases action
  next waiting =>
  rw [if_neg waiting]
  cases found : d.getSession (msg.value (text "id")).toString with
  | none =>
    rw [found] at action
    cases action
  | some session =>
    rw [found] at action
    simp only at action ⊢
    split at action
    · cases action
    next source =>
    rw [if_neg source]
    cases action
    rfl

theorem cancel_polkit (action : d.cancelAction socket msg = .polkit) :
    ∃ cookie, Agent.handleCancel d socket msg = (PolkitListener.cancelPending d cookie).sendJson socket (.ok none) := by
  unfold cancelAction at action
  unfold Agent.handleCancel
  simp only at action ⊢
  split at action
  · cases action
  next authorized =>
  rw [if_neg authorized]
  split at action
  · cases action
  next keyring =>
  rw [if_neg keyring]
  split at action
  · cases action
  next pinentry =>
  rw [if_neg pinentry]
  cases found : d.getSession (msg.value (text "id")).toString with
  | none =>
    rw [found] at action
    cases action
  | some session =>
    rw [found] at action
    simp only at action ⊢
    split at action
    · cases action
    next source =>
    rw [if_neg source]
    exact ⟨_,rfl⟩

theorem given_other (d : Daemon) (other : action.ofListener = false) : d.given action = [] := by
  cases action with
  | submit => cases other
  | _ => rfl

theorem respondAction_listener (d : Daemon) (socket : Socket) (msg : QJsonObject) :
    (d.respondAction socket msg).ofListener = false ∨ ∃ cookie response, d.respondAction socket msg = .submit cookie response := by
  unfold respondAction
  simp only
  repeat' split
  all_goals first | exact .inl rfl | exact .inr ⟨_,_,rfl⟩

theorem cancelAction_listener (d : Daemon) (socket : Socket) (msg : QJsonObject) :
    (d.cancelAction socket msg).ofListener = false ∨ d.cancelAction socket msg = .polkit := by
  unfold cancelAction
  simp only
  repeat' split
  all_goals first | exact .inl rfl | exact .inr rfl

theorem handleRespond_exchanges (d : Daemon) (socket : Socket) (msg : QJsonObject) :
    (Agent.handleRespond d socket msg).exchanges = d.given (d.respondAction socket msg) ++ d.exchanges := by
  rcases respondAction_listener d socket msg with other | ⟨cookie,response,action⟩
  · rw [given_other d other]
    exact acts_exchanges (Agent.acts_handleRespond d socket msg) other
  · rw [action,respond_submits action,exchanges_sendJson]
    exact PolkitListener.exchanges_submitPassword d cookie response

theorem handleCancel_exchanges (d : Daemon) (socket : Socket) (msg : QJsonObject) :
    (Agent.handleCancel d socket msg).exchanges = d.given (d.cancelAction socket msg) ++ d.exchanges := by
  rcases cancelAction_listener d socket msg with other | action
  · rw [given_other d other]
    exact acts_exchanges (Agent.acts_handleCancel d socket msg) other
  · obtain ⟨cookie,ends⟩ := cancel_polkit action
    rw [action,ends,exchanges_sendJson]
    exact PolkitListener.exchanges_cancelPending d cookie

theorem message_exchanges (d : Daemon) (env : Env) (socket : Socket) (type : QString) (msg : QJsonObject)
    (allowed : daemon.enabled d ⟨env,.message socket type msg⟩) :
    (daemon.step d ⟨env,.message socket type msg⟩).exchanges =
      d.given (d.action ⟨env,.message socket type msg⟩) ++ d.exchanges := by
  have acts := acts_step d ⟨env,.message socket type msg⟩ allowed
  have other (plain : (d.action ⟨env,.message socket type msg⟩).ofListener = false) :
      (daemon.step d ⟨env,.message socket type msg⟩).exchanges =
        d.given (d.action ⟨env,.message socket type msg⟩) ++ d.exchanges := by
    rw [given_other d plain]
    exact acts_exchanges acts plain
  cases lookup : Agent.handlers.lookup type with
  | none =>
    apply other
    simp only [action,Input.kind,lookup]
    rfl
  | some handler =>
    have handled : daemon.step d ⟨env,.message socket type msg⟩ = Agent.dispatch {d with env} socket handler msg := by
      change Agent.handleMessage {d with env} socket type msg = _
      unfold Agent.handleMessage
      rw [lookup]
    cases handler with
    | respond =>
      rw [handled]
      simp only [action,Input.kind,lookup]
      exact handleRespond_exchanges {d with env} socket msg
    | cancel =>
      rw [handled]
      simp only [action,Input.kind,lookup]
      exact handleCancel_exchanges {d with env} socket msg
    | pinentryResult =>
      apply other
      simp only [action,Input.kind,lookup]
      exact resultAction_other d socket msg
    | keyringRequest | pinentryRequest | ping | subscribe | next | uiRegister | uiHeartbeat | uiUnregister =>
      apply other
      simp only [action,Input.kind,lookup]
      rfl

theorem step_exchanges (allowed : daemon.enabled d input) :
    (daemon.step d input).exchanges = d.exchanged input ++ d.exchanges := by
  have acts := acts_step d input allowed
  obtain ⟨env,event⟩ := input
  cases event with
  | polkitSignal session said => exact PolkitListener.exchanges_signal {d with env} session said
  | message socket type msg => exact message_exchanges d env socket type msg allowed
  | initiateAuthentication actionId message iconName details cookie identities =>
    have nothing : d.exchanged ⟨env,.initiateAuthentication actionId message iconName details cookie identities⟩ = [] := by
      change d.given (if _ then _ else _) = []
      split <;> rfl
    rw [nothing]
    exact PolkitListener.exchanges_initiateAuthentication {d with env} actionId message iconName details cookie identities
  | cancelAuthentication => exact PolkitListener.exchanges_cancelAuthentication {d with env}
  | connected | socketState | disconnected | timeout | maintenance => exact acts_exchanges acts rfl

-- Every response that reaches the listener finds a question of the current
-- Session object that was not answered yet.
def Solicits (d : Daemon) (input : Input) : Prop :=
  match d.action input with
  | .submit cookie _ => ∀ session, PolkitListener.sessionOf d.listener cookie = some session →
    d.exchanges.count (.answered session.ref) < d.exchanges.count (.asked session.ref)
  | _ => True

theorem solicited_other (solicited : d.Solicited) (said : Option PolkitExchange)
    (question : ∀ exchange, said = some exchange → ∃ session, exchange = .asked session)
    (step : e.exchanges = said.toList ++ d.exchanges) : e.Solicited := by
  intro session
  rw [step]
  cases said with
  | none => exact solicited session
  | some exchange =>
    obtain ⟨other,same⟩ := question exchange rfl
    subst same
    have asked : d.exchanges.count (.asked session) ≤ (.asked other :: d.exchanges).count (.asked session) :=
      List.count_le_count_cons
    have answered : (.asked other :: d.exchanges).count (.answered session) = d.exchanges.count (.answered session) :=
      List.count_cons_of_ne (by nofun)
    show (.asked other :: d.exchanges).count (.answered session) ≤ (.asked other :: d.exchanges).count (.asked session)
    rw [answered]
    exact Nat.le_trans (solicited session) asked

theorem solicited_answer (solicited : d.Solicited) (session : Nat)
    (step : e.exchanges = .answered session :: d.exchanges) :
    e.Solicited ↔ d.exchanges.count (.answered session) < d.exchanges.count (.asked session) := by
  have asked (other : Nat) : (.answered session :: d.exchanges).count (.asked other) = d.exchanges.count (.asked other) :=
    List.count_cons_of_ne (by nofun)
  unfold Solicited
  rw [step]
  constructor
  · intro next
    have mine := next session
    rw [List.count_cons_self,asked] at mine
    exact mine
  · intro fewer other
    rw [asked]
    by_cases same : other = session
    · subst same
      rw [List.count_cons_self]
      exact fewer
    · rw [List.count_cons_of_ne (fun equal => same (PolkitExchange.answered.inj equal).symm)]
      exact solicited other

theorem given_solicited (solicited : d.Solicited) (step : e.exchanges = d.given (d.action input) ++ d.exchanges) :
    e.Solicited ↔ d.Solicits input := by
  unfold Solicits
  cases action : d.action input with
  | submit cookie response =>
    rw [action] at step
    simp only [given] at step
    cases current : PolkitListener.sessionOf d.listener cookie with
    | none =>
      rw [current] at step
      refine ⟨fun _ session same => ?_,fun _ => solicited_other solicited none nofun step⟩
      cases current.symm.trans same
    | some session =>
      rw [current] at step
      rw [solicited_answer solicited session.ref step]
      constructor
      · intro fewer other same
        cases current.symm.trans same
        exact fewer
      · intro awaited
        exact awaited session current
  | _ =>
    rw [action] at step
    exact ⟨fun _ => trivial,fun _ => solicited_other solicited none nofun step⟩

theorem step_solicited (allowed : daemon.enabled d input) (solicited : d.Solicited) :
    (daemon.step d input).Solicited ↔ d.Solicits input := by
  have step := step_exchanges allowed
  unfold exchanged at step
  split at step
  · next session said event =>
    have action : d.action input = .polkit := by
      unfold Daemon.action Input.kind
      rw [event]
    have awaited : d.Solicits input := by
      unfold Solicits
      rw [action]
      trivial
    refine ⟨fun _ => awaited,fun _ => solicited_other solicited _ ?_ step⟩
    intro exchange same
    cases said with
    | request request echo =>
      cases same
      exact ⟨session,rfl⟩
    | completed | showError | showInfo => cases same
  · exact given_solicited solicited step

-- Over whole runs: no Session object is given more responses than it asked for
-- exactly when every response that reaches the listener was still asked for.
theorem solicited_iff (inputs : List Input) (admitted : daemon.Admits inputs) :
    daemon.Always Solicited inputs ↔ daemon.Every Solicits inputs :=
  Machine.always_iff (fun _ _ _ solicited allowed => step_solicited allowed solicited)
    (fun _ => Nat.le_refl _) admitted

instance (d : Daemon) (input : Input) : Decidable (d.Solicits input) := by
  unfold Solicits
  exact match d.action input with
  | .submit cookie _ => by
    dsimp only
    exact match PolkitListener.sessionOf d.listener cookie with
    | none => isTrue (fun _ => nofun)
    | some session => decidable_of_iff
        (d.exchanges.count (.answered session.ref) < d.exchanges.count (.asked session.ref))
        ⟨fun fewer _ same => by cases same; exact fewer,fun awaited => awaited session rfl⟩
  | .idle | .connect .. | .socketState .. | .disconnect .. | .keyringRequest .. | .keyringConclude .. | .pinentryRequest ..
  | .pinentryRespond .. | .pinentryCancel .. | .pinentryOutcome .. | .timeout .. | .initiate .. | .polkit => isTrue trivial

-- An attempt fails, and the next one is answered once it has asked.
def questionEach : List Input :=
  [.quiet (.connected 7),
   .quiet (.initiateAuthentication (text "a") (text "m") (text "i") [] (text "c") [text "root"]),
   .quiet (.polkitSignal 0 (.request (text "Password:") false)),
   .say 0 "session.respond" [("id","c"),("response","wrong")],
   .quiet (.polkitSignal 0 (.completed false)),
   .quiet (.polkitSignal 1 (.request (text "Password:") false)),
   .say 0 "session.respond" [("id","c"),("response","right")]]

theorem questionEach_solicited : daemon.Always Solicited questionEach :=
  (solicited_iff questionEach (by decide +kernel)).mpr (by decide +kernel)

-- The response to the failed attempt is sent once more, before the new attempt
-- has asked, and is kept for its question.
def answeredEarly : List Input :=
  [.quiet (.connected 7),
   .quiet (.initiateAuthentication (text "a") (text "m") (text "i") [] (text "c") [text "root"]),
   .quiet (.polkitSignal 0 (.request (text "Password:") false)),
   .say 0 "session.respond" [("id","c"),("response","wrong")],
   .quiet (.polkitSignal 0 (.completed false)),
   .say 0 "session.respond" [("id","c"),("response","wrong")]]

theorem answeredEarly_unsolicited : ¬∀ inputs, daemon.Admits inputs → daemon.Always Solicited inputs := by
  intro solicited
  have always := solicited answeredEarly (by decide +kernel)
  have last : Solicited (daemon.run answeredEarly) := Machine.AlwaysFrom.finish always
  exact absurd (last 1) (by decide +kernel)

end Daemon

end BbAuth
