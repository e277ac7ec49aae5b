import BbAuth.PinentrySessions

open Library
namespace BbAuth

namespace Core

variable {id : QString} {c e : Core}

theorem continues_owner (continues : Continues c action e id) (owner : (c.flow id).owner = some pid) :
    (e.flow id).owner = some pid := by
  cases continues with
  | entered request actor same cookie mine flow =>
    subst cookie
    have owned := PinentryManager.ownedByOther_owner mine owner
    rw [flow,owned]
  | kept source flow => rw [flow]; exact owner
  | responded source response same request pending flow =>
    obtain ⟨timer,flow⟩ := flow
    rw [flow]
    exact owner
  | retried source error same flow => rw [flow]; exact owner

-- Every open pinentry session has an owner: the peer whose request opened it.
def Owned (c : Core) : Prop :=
  ∀ id, c.source id = some .pinentry → ∃ owner socket, (c.flow id).owner = some owner ∧
    opening id c.history = some ⟨.pinentry,some ⟨.pinentry,socket,owner,id⟩⟩

theorem opens_pinentry (acts : Acts c action e) (opens : c.opens action = some (id,.pinentry)) :
    ∃ request actor, action = .pinentryRequest request actor ∧ request.cookie = id ∧
      (e.flow id).owner = some request.peerPid := by
  cases action with
  | pinentryRequest request actor =>
    have same : e = c.pinentryRequest request actor := by cases acts; rfl
    unfold Core.opens at opens
    simp only at opens
    split at opens
    · cases opens
    · next mine =>
      split at opens
      · cases opens
      · cases opens
        refine ⟨request,actor,rfl,rfl,?_⟩
        rw [same,enrolled_flow c request actor (Bool.eq_false_iff.mpr mine),if_pos rfl]
  | keyringRequest | initiate => cases opens
  | idle | connect | socketState | disconnect | keyringConclude | pinentryRespond | pinentryCancel
  | pinentryOutcome | timeout | submit | polkit => cases opens

theorem acts_owned (acts : Acts c action e) (owned : Owned c) : Owned e := by
  intro id still
  have continues := acts_continues acts still
  cases opens : c.opens action with
  | none =>
    have tends := acts_tends acts opens
    obtain ⟨owner,socket,held,opened⟩ := owned id (tends_source tends id _ still)
    exact ⟨owner,socket,continues_owner continues held,(tends_opening tends id).trans opened⟩
  | some target =>
    obtain ⟨other,source⟩ := target
    obtain ⟨m,announces⟩ := acts_opens acts opens
    obtain ⟨ctx,after⟩ := announces.after
    have created := tends_source after id _ still
    have history := (tends_opening after id).trans (opening_createSession m other id source ctx)
    rw [source_createSession] at created
    by_cases same : id = other
    · subst other
      rw [if_pos rfl] at created history
      cases created
      obtain ⟨request,actor,asked,cookie,held⟩ := opens_pinentry acts opens
      have requester := announces.request ⟨.pinentry,request.socket,request.peerPid,request.cookie⟩ (by rw [asked]; rfl)
      rw [cookie] at requester
      exact ⟨_,_,held,history.trans (by rw [requester])⟩
    · rw [if_neg same] at created history
      obtain ⟨owner,socket,held,opened⟩ := owned id (tends_source announces.before id _ created)
      exact ⟨owner,socket,continues_owner continues held,history.trans ((tends_opening announces.before id).trans opened)⟩

end Core

namespace Daemon

theorem reached_owned (path : daemon.Reached d) : Core.Owned d.core :=
  reached_core (fun id open_ => by cases open_) (fun _ _ _ => Core.acts_owned) path

def resultId (msg : QJsonObject) : QString := (msg.value (text "id")).toString

-- The answer to a result that is refused, and nothing else.
def Refused (d : Daemon) (input : Input) (sender : Socket) : Prop :=
  ∃ message, daemon.step d input = ({d with env:=input.env} : Daemon).sendJson sender (.error message)

theorem step_result (d : Daemon) (input : Input) (kind : input.kind = .pinentryResult sender msg) :
    daemon.step d input = Agent.handlePinentryResult {d with env:=input.env} sender msg := by
  obtain ⟨env,event⟩ := input
  cases event with
  | message socket type fields =>
    simp only [Input.kind] at kind
    cases found : Agent.handlers.lookup type with
    | none => simp [found] at kind
    | some handler =>
      cases handler <;> simp only [found,reduceCtorEq] at kind
      cases kind
      simp only [daemon,step,handle,Agent.handleMessage,found]
      rfl
  | connected | socketState | disconnected | initiateAuthentication | polkitSignal | cancelAuthentication
  | timeout | maintenance => cases kind

theorem action_result (d : Daemon) (input : Input) (kind : input.kind = .pinentryResult sender msg) :
    d.action input = d.resultAction sender msg := by
  unfold action
  rw [kind]

theorem result_refused (d : Daemon) (input : Input) (kind : input.kind = .pinentryResult sender msg)
    (idle : d.resultAction sender msg = .idle) : d.Refused input sender := by
  have peer : ({d with env:=input.env} : Daemon).getPeerPid sender = d.getPeerPid sender := rfl
  have session (id : QString) : PinentryManager.hasPinentrySession {d with env:=input.env} id =
      PinentryManager.hasPinentrySession d id := rfl
  unfold Refused
  rw [step_result d input kind,Agent.handlePinentryResult,PinentryManager.handleResult]
  unfold resultAction at idle
  simp only [peer,session] at idle ⊢
  split at idle
  · next empty => simp only [empty,if_true]; exact ⟨_,rfl⟩
  · next named =>
    simp only [named,if_false,Bool.false_eq_true]
    split at idle
    · next foreign => simp only [foreign,if_true]; exact ⟨_,rfl⟩
    · next own =>
      simp only [own,if_false,Bool.false_eq_true]
      split at idle
      · next unknown => simp only [unknown,if_true]; exact ⟨_,rfl⟩
      · next known =>
        simp only [known,if_false,Bool.false_eq_true]
        cases parsed : PinentryManager.parseOutcome (toLower (msg.value (text "result")).toString) with
        | none => exact ⟨_,rfl⟩
        | some outcome => simp [parsed] at idle

theorem foreign_result (d : Daemon) (sender : Socket) (msg : QJsonObject)
    (owner : d.pinentryManager.flowOwners.find (resultId msg) = some pid) (other : d.getPeerPid sender ≠ pid) :
    d.resultAction sender msg = .idle := by
  have foreign : PinentryManager.validateResultOwner d.pinentryManager (resultId msg) (d.getPeerPid sender) = false := by
    simp [PinentryManager.validateResultOwner,owner,Ne.symm other]
  unfold resultId at foreign
  unfold resultAction
  simp only [foreign,Bool.not_false,if_true]
  split <;> rfl

theorem source_getSession {id : QString} (d : Daemon) (found : d.getSession id = some session) :
    d.core.source id = some session.source := by
  rw [Core.source,show d.core.sessionStore.find id = some session from found,Option.map_some]

theorem unowned_result (path : daemon.Reached d) (sender : Socket) (msg : QJsonObject)
    (unowned : d.pinentryManager.flowOwners.find (resultId msg) = none) : d.resultAction sender msg = .idle := by
  have unknown : PinentryManager.hasPinentrySession d (resultId msg) = false := by
    apply Bool.eq_false_iff.mpr
    intro known
    obtain ⟨owner,socket,held,_⟩ := reached_owned path _ ((Core.hasPinentrySession_iff d.core _).mp known)
    exact nomatch unowned.symm.trans held
  unfold resultId at unknown
  unfold resultAction
  simp only [unknown,Bool.not_false,if_true]
  split
  · rfl
  · split <;> rfl

-- Only the peer whose request opened a pinentry session is recorded as its
-- owner, and only a result from that peer has an effect on it. A result for an
-- id without an owner has none.
theorem pinentry_sessions_owned (path : daemon.Reached d) :
    (∀ id session, d.getSession id = some session → session.source = .pinentry →
      ∃ owner socket, d.pinentryManager.flowOwners.find id = some owner ∧
        opening id d.trace = some ⟨.pinentry,some ⟨.pinentry,socket,owner,id⟩⟩ ∧
        ∀ input sender msg, input.kind = .pinentryResult sender msg → resultId msg = id →
          d.getPeerPid sender ≠ owner → d.Refused input sender) ∧
    (∀ input sender msg, input.kind = .pinentryResult sender msg →
      d.pinentryManager.flowOwners.find (resultId msg) = none → d.Refused input sender) := by
  constructor
  · intro id session found pinentry
    have source := source_getSession d found
    rw [pinentry] at source
    obtain ⟨owner,socket,held,opened⟩ := reached_owned path id source
    refine ⟨owner,socket,held,(opening_core id d).symm.trans opened,?_⟩
    intro input sender msg kind same other
    exact result_refused d input kind (foreign_result d sender msg (same ▸ held) other)
  · intro input sender msg kind unowned
    exact result_refused d input kind (unowned_result path sender msg unowned)

def asked : List Input :=
  [.quiet (.connected 7),.quiet (.connected 9),.say 0 "pinentry_request" [("cookie","p"),("prompt","PIN")]]

theorem asked_result_refused :
    (daemon.run asked).Refused (.say 1 "pinentry_result" [("id","p"),("result","success")]) 1 := by
  have shown : ((daemon.run asked).getSession (text "p")).map Session.source = some .pinentry := by decide +kernel
  have owned : (daemon.run asked).pinentryManager.flowOwners.find (text "p") = some 7 := by decide +kernel
  obtain ⟨session,found,pinentry⟩ := Option.map_eq_some_iff.mp shown
  have admitted : daemon.Admits asked := by decide +kernel
  obtain ⟨owner,socket,held,_,refused⟩ := (pinentry_sessions_owned admitted.reached).1 _ session found pinentry
  cases owned.symm.trans held
  exact refused _ 1 _ rfl (by decide +kernel) (by decide +kernel)

def resultOutcome (msg : QJsonObject) : Option PinentryManager.Outcome :=
  PinentryManager.parseOutcome (toLower (msg.value (text "result")).toString)

-- A result of success or retry is refused unless its flow awaits the outcome.
def Awaited (d : Daemon) (input : Input) : Prop :=
  ∀ sender msg, input.kind = .pinentryResult sender msg →
    resultOutcome msg = some .success ∨ resultOutcome msg = some .retry →
    PinentryManager.isAwaitingOutcome d.pinentryManager (resultId msg) = true ∨ d.Refused input sender

-- The owner of an open pinentry session reports success or retry for it while
-- the flow is not awaiting its outcome.
def jumpsAhead (d : Daemon) (input : Input) : Prop :=
  match d.action input with
  | .pinentryOutcome cookie outcome _ =>
    (outcome = .success ∨ outcome = .retry) ∧ PinentryManager.isAwaitingOutcome d.pinentryManager cookie = false
  | _ => False

theorem resultAction_idle_or (d : Daemon) (sender : Socket) (msg : QJsonObject) :
    d.resultAction sender msg = .idle ∨ ∃ outcome, resultOutcome msg = some outcome ∧
      d.resultAction sender msg = .pinentryOutcome (resultId msg) outcome (msg.value (text "error")).toString := by
  unfold resultAction
  simp only
  split
  · exact .inl rfl
  · split
    · exact .inl rfl
    · split
      · exact .inl rfl
      · unfold resultOutcome
        cases PinentryManager.parseOutcome (toLower (msg.value (text "result")).toString) with
        | none => exact .inl rfl
        | some outcome => exact .inr ⟨outcome,rfl,rfl⟩

theorem refused_core (refused : Refused d input sender) : (daemon.step d input).core = d.core := by
  obtain ⟨message,same⟩ := refused
  rw [same]
  exact core_sendJson _ _ _ rfl

end Daemon

namespace Core

theorem closeSession_grows (c : Core) (id : QString) (result : Result) (found : (c.source id).isSome = true) :
    (c.closeSession id result).history.length = c.history.length + 1 := by
  unfold source at found
  unfold closeSession
  cases held : c.sessionStore.find id with
  | none => simp [held] at found
  | some session => rfl

theorem updateSession_grows (c : Core) (id : QString) (change : Session → Session) (found : (c.source id).isSome = true) :
    (c.updateSession id change).history.length = c.history.length + 1 := by
  unfold source at found
  unfold updateSession
  cases held : c.sessionStore.find id with
  | none => simp [held] at found
  | some session => rfl

theorem applyOutcome_grows (c : Core) (cookie : QString) (outcome : PinentryManager.Outcome) (error : QString)
    (known : c.hasPinentrySession cookie = true) :
    c.history.length < (c.applyOutcome cookie outcome error).history.length := by
  have open_ : (c.source cookie).isSome = true := by rw [(hasPinentrySession_iff c cookie).mp known]; rfl
  have closed (result : Result) (reason : QString) :
      c.history.length < (c.closeFlow cookie result reason).history.length := by
    unfold closeFlow endPinentrySession
    simp only [known,if_true]
    split
    · exact Nat.lt_of_lt_of_eq (Nat.lt_succ_self _) (closeSession_grows c cookie result open_).symm
    · have told := updateSession_grows c cookie (·.setError reason) open_
      have still : ((c.updateSession cookie (·.setError reason)).source cookie).isSome = true := by
        rw [source_updateSession c cookie cookie (·.setError reason) (fun _ => ⟨rfl,rfl⟩)]
        exact open_
      have ended := closeSession_grows _ cookie result still
      change c.history.length < (closeSession _ cookie result).history.length
      omega
  cases outcome with
  | retry =>
    let m := PinentryManager.cleanupAwaiting c.pinentryManager cookie
    have told := updateSession_grows (c.withPinentry {m with retryReported:=m.retryReported.insert cookie ()}) cookie
      (·.setError (if error.isEmpty then text "Authentication failed" else error)) open_
    exact Nat.lt_of_lt_of_eq (Nat.lt_succ_self _) told.symm
  | success | cancelled | error => exact closed _ _

theorem acts_outcome (acts : Acts c (.pinentryOutcome cookie outcome error) e) :
    c.hasPinentrySession cookie = true ∧ e = c.applyOutcome cookie outcome error := by
  cases acts with
  | pinentryOutcome known => exact ⟨known,rfl⟩

end Core

namespace Daemon

variable {d : Daemon} {input : Input}

theorem respondAction_outcome (d : Daemon) (socket : Socket) (msg : QJsonObject) :
    d.respondAction socket msg ≠ .pinentryOutcome cookie outcome error := by
  unfold respondAction
  simp only
  repeat' split
  all_goals nofun

theorem cancelAction_outcome (d : Daemon) (socket : Socket) (msg : QJsonObject) :
    d.cancelAction socket msg ≠ .pinentryOutcome cookie outcome error := by
  unfold cancelAction
  simp only
  repeat' split
  all_goals nofun

theorem action_outcome (taken : d.action input = .pinentryOutcome cookie outcome error) :
    ∃ sender msg, input.kind = .pinentryResult sender msg ∧ resultId msg = cookie ∧ resultOutcome msg = some outcome := by
  unfold action at taken
  cases kind : input.kind with
  | pinentryResult sender msg =>
    rw [kind] at taken
    rcases resultAction_idle_or d sender msg with idle | ⟨reported,parsed,same⟩
    · exact nomatch idle.symm.trans taken
    · cases same.symm.trans taken
      exact ⟨sender,msg,rfl,rfl,parsed⟩
  | respond socket msg => rw [kind] at taken; exact absurd taken (respondAction_outcome d socket msg)
  | cancel socket msg => rw [kind] at taken; exact absurd taken (cancelAction_outcome d socket msg)
  | initiateAuthentication _ _ _ _ cookie identities =>
    rw [kind] at taken
    simp only at taken
    split at taken <;> cases taken
  | connected | socketState | disconnected | keyringRequest | pinentryRequest | routing | polkitSignal
  | cancelAuthentication | timeout => rw [kind] at taken; cases taken

theorem awaited_iff (allowed : daemon.enabled d input) : d.Awaited input ↔ ¬d.jumpsAhead input := by
  constructor
  · intro awaited early
    unfold jumpsAhead at early
    split at early
    · next cookie outcome error taken =>
      obtain ⟨sender,msg,kind,same,parsed⟩ := action_outcome taken
      obtain ⟨reported,idle⟩ := early
      have either := awaited sender msg kind (by rw [parsed]; exact reported.imp (congrArg _) (congrArg _))
      rw [same,idle] at either
      have unchanged := refused_core (either.resolve_left Bool.false_ne_true)
      have acts := acts_step d input allowed
      rw [taken] at acts
      obtain ⟨known,applied⟩ := Core.acts_outcome acts
      have grown := Core.applyOutcome_grows d.core cookie outcome error known
      rw [← applied,unchanged] at grown
      exact Nat.lt_irrefl _ grown
    · exact early
  · intro patient sender msg kind reported
    unfold jumpsAhead at patient
    rw [action_result d input kind] at patient
    rcases resultAction_idle_or d sender msg with idle | ⟨outcome,parsed,taken⟩
    · exact .inr (result_refused d input kind idle)
    · simp only [taken] at patient
      rw [parsed] at reported
      simp only [Option.some.injEq] at reported
      refine .inl ((Bool.not_eq_false _).mp (fun idle => patient ⟨reported,idle⟩))

-- Success and retry are taken only from flows that await their outcome exactly
-- where no owner reports one of them early.
theorem outcomes_awaited_iff (inputs : List Input) (admitted : daemon.Admits inputs) :
    daemon.Every Awaited inputs ↔ daemon.Every (fun d input => ¬d.jumpsAhead input) inputs :=
  Machine.every_iff (fun _ _ _ allowed => awaited_iff allowed) admitted

instance (d : Daemon) (input : Input) : Decidable (d.jumpsAhead input) := by
  unfold jumpsAhead
  exact match d.action input with
  | .pinentryOutcome .. => inferInstanceAs (Decidable (_ ∧ _))
  | .idle | .connect .. | .socketState .. | .disconnect .. | .keyringRequest .. | .keyringConclude ..
  | .pinentryRequest .. | .pinentryRespond .. | .pinentryCancel .. | .timeout .. | .submit .. | .initiate ..
  | .polkit => isFalse id

-- The client reports success after its prompt was answered.
def askedAndAnswered : List Input :=
  [.quiet (.connected 7),
   .say 0 "pinentry_request" [("cookie","p"),("prompt","PIN")],
   .say 0 "session.respond" [("id","p"),("response","1234")],
   .say 0 "pinentry_result" [("id","p"),("result","success")]]

theorem askedAndAnswered_awaited : daemon.Every Awaited askedAndAnswered :=
  (outcomes_awaited_iff askedAndAnswered (by decide +kernel)).mpr (by decide +kernel)

-- The client reports success for a prompt that nobody has answered.
def askedAndClaimed : List Input :=
  [.quiet (.connected 7),
   .say 0 "pinentry_request" [("cookie","p"),("prompt","PIN")],
   .say 0 "pinentry_result" [("id","p"),("result","success")]]

theorem askedAndClaimed_early : daemon.Admits askedAndClaimed ∧ ¬daemon.Every Awaited askedAndClaimed ∧
    Effect.emitted (.closed (text "p") .success none) ∈ (daemon.run askedAndClaimed).trace := by
  have admitted : daemon.Admits askedAndClaimed := by decide +kernel
  have early : ¬daemon.Every (fun d input => ¬d.jumpsAhead input) askedAndClaimed := by decide +kernel
  refine ⟨admitted,fun awaited => early ?_,by decide +kernel⟩
  exact Machine.EveryFrom.imp .initial (fun _ _ _ allowed => (awaited_iff allowed).mp) admitted awaited

end Daemon

end BbAuth
