import BbAuth.PinentryOutcome

open Library
namespace BbAuth

def Effect.announces (id : QString) : Effect → Option (Option Bool)
  | .emitted (.created other _ context) => if other = id then some context.confirmOnly else none
  | _ => none

-- What the latest session.created for an id said of confirmOnly: nothing unless
-- the session is a pinentry session.
def announced (id : QString) (history : List Effect) : Option (Option Bool) := history.findSome? (Effect.announces id)

theorem announced_log (id : QString) (effect : Effect) (rest : List Effect) (plain : effect.announces id = none) :
    announced id (effect :: rest) = announced id rest := by
  simp [announced,plain]

theorem announced_core (id : QString) (d : Daemon) : announced id d.core.history = announced id d.trace := by
  refine unrouted_read _ (fun effect rest routine => announced_log id effect rest ?_) (fun effect rest other same => ?_) d.trace
  · rcases routine_cases routine with ⟨_,_,rfl,_⟩ | ⟨_,rfl⟩ | rfl <;> rfl
  · unfold announced at same ⊢
    rw [List.findSome?_cons,List.findSome?_cons,same]

namespace Session

def flag (s : Session) : Option Bool := s.contextToJson.confirmOnly

theorem flag_pinentry (s : Session) (pinentry : s.source = .pinentry) : s.flag = some s.context.confirmOnly := by
  simp [flag,contextToJson,pinentry]

theorem flag_other (s : Session) (other : s.source ≠ .pinentry) : s.flag = none := by
  unfold flag contextToJson
  cases source : s.source with
  | polkit | keyring => rfl
  | pinentry => exact absurd source other

theorem flag_alike {s t : Session} (alike : t.id = s.id ∧ t.source = s.source ∧ t.context = s.context) :
    t.flag = s.flag := by
  obtain ⟨_,source,context⟩ := alike
  by_cases pinentry : s.source = .pinentry
  · rw [flag_pinentry s pinentry,flag_pinentry t (source.trans pinentry),context]
  · rw [flag_other s pinentry,flag_other t (fun same => pinentry (source.symm.trans same))]

theorem flag_setPinentryRetry (s : Session) (curRetry maxRetries : Int) :
    (s.setPinentryRetry curRetry maxRetries).flag = s.flag := by
  unfold setPinentryRetry
  split
  · rfl
  · next pinentry => simp [flag,contextToJson,not_not.mp pinentry]

end Session

namespace Core

variable {id : QString}

def flag (c : Core) (id : QString) : Option Bool := (c.sessionStore.find id).bind Session.flag

theorem flag_store {c e : Core} (same : c.sessionStore = e.sessionStore) (id : QString) : c.flag id = e.flag id := by
  unfold flag
  rw [same]

theorem flag_insert (c : Core) (other : QString) (old new : Session) (found : c.sessionStore.find other = some old)
    (same : new.flag = old.flag) : (c.withSessions (c.sessionStore.insert other new)).flag id = c.flag id := by
  simp only [flag,withSessions,Table.find_insert]
  split
  · next equal => rw [equal,found]; exact same
  · rfl

theorem flag_updateSession (c : Core) (other : QString) (change : Session → Session)
    (alike : ∀ s, (change s).id = s.id ∧ (change s).source = s.source ∧ (change s).context = s.context) :
    (c.updateSession other change).flag id = c.flag id := by
  unfold updateSession
  cases found : c.sessionStore.find other with
  | none => rfl
  | some old => exact flag_insert c other old (change old) found (Session.flag_alike (alike old))

theorem flag_setError (c : Core) (other error : QString) :
    (c.updateSession other (·.setError error)).flag id = c.flag id := flag_updateSession c other _ (fun _ => ⟨rfl,rfl,rfl⟩)

theorem flag_setPrompt (c : Core) (other prompt : QString) (echo clearError : Bool) :
    (c.updateSession other (·.setPrompt prompt echo clearError)).flag id = c.flag id :=
  flag_updateSession c other _ (fun _ => ⟨rfl,rfl,rfl⟩)

theorem flag_setPinentryRetry (c : Core) (other : QString) (curRetry maxRetries : Int) :
    (c.setPinentryRetry other curRetry maxRetries).flag id = c.flag id := by
  unfold setPinentryRetry SessionStore.updatePinentryRetry
  cases found : c.sessionStore.find other with
  | none => rfl
  | some old =>
    simp only
    split
    · rfl
    · next store same =>
      split at same
      · cases same
      · cases same
        exact flag_insert c other old _ found (Session.flag_setPinentryRetry old curRetry maxRetries)

theorem flag_createSession (c : Core) (other : QString) (source : Source) (ctx : Context) :
    (c.createSession other source ctx).flag id =
      if id = other then (if source = .pinentry then some ctx.confirmOnly else none) else c.flag id := by
  have stored : (c.createSession other source ctx).flag id =
      ((c.sessionStore.insert other {id:=other,source,context:=ctx}).find id).bind Session.flag := rfl
  rw [stored,Table.find_insert]
  split
  · split
    · next pinentry => exact Session.flag_pinentry _ pinentry
    · next kind => exact Session.flag_other _ kind
  · rfl

theorem tending_flag (tending : Tending c e) (given : e.flag id = some b) : c.flag id = some b := by
  cases tending with
  | frame store history => exact (flag_store store id).symm.trans given
  | logged effect plain => exact given
  | updated other change alike => rwa [flag_updateSession c other change alike] at given
  | retried other curRetry maxRetries => rwa [flag_setPinentryRetry] at given
  | closed other result =>
    unfold closeSession at given
    split at given
    · exact given
    · have left : ((c.sessionStore.remove other).find id).bind Session.flag = some b := given
      rw [Table.find_remove] at left
      split at left
      · cases left
      · exact left

theorem tends_flag (tends : Tends c e) (given : e.flag id = some b) : c.flag id = some b := by
  induction tends with
  | refl => exact given
  | tail _ tending ih => exact ih (tending_flag tending given)

-- The user was told the flag of every open session when it was opened.
def Given (c : Core) : Prop :=
  ∀ id session, c.sessionStore.find id = some session → announced id c.history = some session.flag

theorem tending_given (tending : Tending c e) (given : Given c) : Given e := by
  -- A session that is stored again keeps its flag.
  have restored (other : QString) (old new : Session) (found : c.sessionStore.find other = some old)
      (same : new.flag = old.flag) (id : QString) (session : Session)
      (still : (c.sessionStore.insert other new).find id = some session) :
      announced id c.history = some session.flag := by
    rw [Table.find_insert] at still
    split at still
    · next equal => cases still; rw [equal,same]; exact given other old found
    · exact given id session still
  intro id session still
  cases tending with
  | frame store history => rw [store] at still; rw [history]; exact given id session still
  | logged effect plain =>
    have silent : effect.announces id = none := by cases effect <;> first | rfl | exact absurd rfl (plain _)
    exact (announced_log id effect c.history silent).trans (given id session still)
  | updated other change alike =>
    unfold updateSession at still ⊢
    cases found : c.sessionStore.find other with
    | none => simp only [found] at still ⊢; exact given id session still
    | some old =>
      simp only [found] at still ⊢
      exact restored other old _ found (Session.flag_alike (alike old)) id session still
  | retried other curRetry maxRetries =>
    unfold setPinentryRetry SessionStore.updatePinentryRetry at still ⊢
    cases found : c.sessionStore.find other with
    | none => simp only [found] at still ⊢; exact given id session still
    | some old =>
      by_cases pinentry : old.source ≠ .pinentry
      · simp only [found,if_pos pinentry] at still ⊢; exact given id session still
      · simp only [found,if_neg pinentry] at still ⊢
        exact restored other old _ found (Session.flag_setPinentryRetry old _ _) id session still
  | closed other result =>
    unfold closeSession at still ⊢
    cases found : c.sessionStore.find other with
    | none => simp only [found] at still ⊢; exact given id session still
    | some old =>
      simp only [found] at still ⊢
      have left : (c.sessionStore.remove other).find id = some session := still
      rw [Table.find_remove] at left
      split at left
      · cases left
      · exact given id session left

theorem tends_given (tends : Tends c e) (given : Given c) : Given e :=
  tends.invariant (P := Given) (fun _ _ tending given => tending_given tending given) given

theorem createSession_given (c : Core) (other : QString) (source : Source) (ctx : Context) (given : Given c) :
    Given (c.createSession other source ctx) := by
  intro id session still
  have stored : (c.sessionStore.insert other {id:=other,source,context:=ctx}).find id = some session := still
  have told : announced id (c.createSession other source ctx).history =
      if other = id then some (Session.flag {id:=other,source,context:=ctx}) else announced id c.history := by
    by_cases same : other = id
    · rw [if_pos same]
      simp [announced,createSession,log,withSessions,Effect.announces,Session.toCreatedEvent,same,Session.flag]
    · rw [if_neg same]
      exact announced_log id _ _ (by simp [Effect.announces,Session.toCreatedEvent,same])
  rw [told]
  rw [Table.find_insert] at stored
  split at stored
  · next same => cases stored; rw [if_pos same.symm]
  · next different => rw [if_neg (Ne.symm different)]; exact given id session stored

theorem acts_given (acts : Acts c action e) (given : Given c) : Given e := by
  cases opens : c.opens action with
  | none => exact tends_given (acts_tends acts opens) given
  | some target =>
    obtain ⟨m,announces⟩ := acts_opens acts opens
    obtain ⟨ctx,after⟩ := announces.after
    exact tends_given after (createSession_given _ _ _ _ (tends_given announces.before given))

-- A request that is let in shows its own flag where it opens a session, and
-- leaves the flag of a session that it joins.
theorem flag_pinentryRequest (c : Core) (request : PinentryRequest) (actor : ActorInfo)
    (mine : PinentryManager.ownedByOther c.pinentryManager request.cookie request.peerPid = false) :
    (c.pinentryRequest request actor).flag id =
      if id = request.cookie ∧ c.sessionStore.find request.cookie = none then some request.confirmOnly
      else c.flag id := by
  have reported (m : Core) : (m.reportRetry request).flag id = m.flag id := by
    unfold reportRetry
    split
    · exact flag_setError _ _ _
    · rfl
  have complained (m : Core) : (m.reportRequestError request).flag id = m.flag id := by
    unfold reportRequestError
    simp only
    split
    · exact flag_setError _ _ _
    · rfl
  have presented (m : Core) (retry : Int × Int) (sessionExists : Bool) :
      (m.present request actor retry sessionExists).flag id =
        if id = request.cookie ∧ sessionExists = false then some request.confirmOnly else m.flag id := by
    unfold present
    simp only [flag_setPrompt]
    cases sessionExists with
    | false =>
      simp only [Bool.not_false,if_true,flag_createSession,PinentryManager.contextOf,and_true]
    | true =>
      simp only [Bool.not_true,Bool.false_eq_true,if_false]
      rw [if_neg (fun both => Bool.noConfusion both.2)]
      exact flag_setPinentryRetry m _ _ _
  have missing : (c.sessionStore.find request.cookie).isSome = false ↔ c.sessionStore.find request.cookie = none := by
    simp
  have kept (m : Core) (manager : PinentryManager) : (m.withPinentry manager).flag id = m.flag id := rfl
  have logged (effect : Effect) : (c.log effect).flag id = c.flag id := rfl
  have refused : ¬PinentryManager.ownedByOther c.pinentryManager request.cookie request.peerPid = true := by
    simp [mine]
  unfold pinentryRequest
  simp only
  rw [show (c.log (.requested .pinentry request.socket request.peerPid request.cookie)).pinentryManager =
    c.pinentryManager from rfl,if_neg refused]
  rw [complained,presented,kept,reported,kept,logged]
  exact if_congr (and_congr_right (fun _ => missing)) rfl rfl

theorem flag_source (given : flag c id = some b) : c.source id = some .pinentry := by
  obtain ⟨session,found,shown⟩ := Option.bind_eq_some_iff.mp given
  by_cases pinentry : session.source = .pinentry
  · simp [source,found,pinentry]
  · rw [Session.flag_other session pinentry] at shown
    cases shown

theorem acts_flag (acts : Acts c action e) (given : e.flag id = some b)
    (other : ∀ request actor, action = .pinentryRequest request actor → request.cookie = id →
      PinentryManager.ownedByOther c.pinentryManager request.cookie request.peerPid = true) : c.flag id = some b := by
  cases opens : c.opens action with
  | none => exact tends_flag (acts_tends acts opens) given
  | some target =>
    obtain ⟨cookie,kind⟩ := target
    obtain ⟨m,announces⟩ := acts_opens acts opens
    obtain ⟨ctx,after⟩ := announces.after
    have created := tends_flag after given
    rw [flag_createSession] at created
    split at created
    · next same =>
      split at created
      · next pinentry =>
        subst same pinentry
        obtain ⟨request,actor,asked,cookie',_⟩ := opens_pinentry acts opens
        have refused := other request actor asked cookie'
        rw [asked] at opens
        simp [Core.opens,refused] at opens
      · cases created
    · exact tends_flag announces.before created

-- What the pending requests want is what the sessions they wait on show.
def Agrees (c : Core) : Prop :=
  ∀ id request b, (c.flow id).pending = some request → c.flag id = some b → b = request.confirmOnly

-- A request is let in, and joins an open pinentry session with the other flag.
def clashes (c : Core) (action : Action) : Prop :=
  match action with
  | .pinentryRequest request _ =>
    PinentryManager.ownedByOther c.pinentryManager request.cookie request.peerPid = false ∧
      c.flag request.cookie = some !request.confirmOnly
  | _ => False

theorem pinentryRequest_agrees (c : Core) (request : PinentryRequest) (actor : ActorInfo) (agrees : Agrees c)
    (mine : PinentryManager.ownedByOther c.pinentryManager request.cookie request.peerPid = false) :
    Agrees (c.pinentryRequest request actor) ↔ c.flag request.cookie ≠ some !request.confirmOnly := by
  have pending (id : QString) := congrArg PinentryManager.Flow.pending (enrolled_flow c request actor mine id)
  constructor
  · intro later clash
    have joined : c.sessionStore.find request.cookie ≠ none := by
      intro missing
      simp [flag,missing] at clash
    have given : (c.pinentryRequest request actor).flag request.cookie = some !request.confirmOnly := by
      rw [flag_pinentryRequest c request actor mine,if_neg (fun both => joined both.2)]
      exact clash
    have asked := pending request.cookie
    rw [if_pos rfl] at asked
    have same := later request.cookie request _ asked given
    cases flag : request.confirmOnly <;> rw [flag] at same <;> cases same
  · intro fits id asked b waits given
    rw [pending id] at waits
    rw [flag_pinentryRequest c request actor mine] at given
    by_cases same : id = request.cookie
    · rw [if_pos same] at waits
      cases waits
      split at given
      · cases given; rfl
      · subst same
        cases b <;> cases flag : request.confirmOnly <;> first | rfl | (rw [given,flag] at fits; exact absurd rfl fits)
    · rw [if_neg same] at waits
      rw [if_neg (fun both => same both.1)] at given
      exact agrees id asked b waits given

theorem other_agrees (acts : Acts c action e) (agrees : Agrees c)
    (other : ∀ request actor, action = .pinentryRequest request actor →
      PinentryManager.ownedByOther c.pinentryManager request.cookie request.peerPid = true) : Agrees e := by
  intro id request b waits given
  have before := acts_flag acts given (fun asked actor same _ => other asked actor same)
  cases acts_continues acts (flag_source given) with
  | entered asked actor same cookie mine flow =>
    rw [other asked actor same] at mine
    cases mine
  | kept source flow => rw [flow] at waits; exact agrees id request b waits before
  | responded source response same asked pending flow =>
    obtain ⟨timer,flow⟩ := flow
    rw [flow] at waits
    cases waits
  | retried source error same flow => rw [flow] at waits; exact agrees id request b waits before

theorem acts_agrees_iff (acts : Acts c action e) (agrees : Agrees c) : Agrees e ↔ ¬c.clashes action := by
  cases action with
  | pinentryRequest request actor =>
    cases mine : PinentryManager.ownedByOther c.pinentryManager request.cookie request.peerPid with
    | false =>
      cases acts with
      | pinentryRequest known peer named =>
        rw [pinentryRequest_agrees c request actor agrees mine]
        simp [clashes,mine]
    | true =>
      have kept := other_agrees acts agrees (by rintro _ _ ⟨⟩; exact mine)
      simp [clashes,mine,kept]
  | idle | connect | socketState | disconnect | keyringRequest | keyringConclude | pinentryRespond | pinentryCancel
  | pinentryOutcome | timeout | submit | initiate | polkit =>
    have kept := other_agrees acts agrees nofun
    exact ⟨fun _ => not_false,fun _ => kept⟩

end Core

namespace Daemon

variable {d : Daemon} {input : Input}

-- Every pending request wants the kind of input that the user interfaces were
-- told to collect when the pinentry session under its id was created.
def Matched (d : Daemon) : Prop :=
  ∀ id request session, d.pinentryManager.pendingRequests.find id = some request →
    d.getSession id = some session → session.source = .pinentry →
      announced id d.trace = some (some request.confirmOnly)

-- A pinentry request is let in, and joins an open pinentry session that was
-- created with the other flag.
def changesMode (d : Daemon) (input : Input) : Prop :=
  match d.action input with
  | .pinentryRequest request _ =>
    PinentryManager.ownedByOther d.pinentryManager request.cookie request.peerPid = false ∧
      (d.getSession request.cookie).bind Session.flag = some !request.confirmOnly
  | _ => False

theorem reached_given (path : daemon.Reached d) : Core.Given d.core := by
  apply path.invariant (P := fun d => Core.Given d.core)
  · intro id session found
    cases found
  · intro d input _ given allowed
    exact Core.acts_given (acts_step d input allowed) given

theorem matched_iff (path : daemon.Reached d) : d.Matched ↔ Core.Agrees d.core := by
  have given := reached_given path
  have store (id : QString) : d.getSession id = d.core.sessionStore.find id := rfl
  constructor
  · intro matched id request b waits shown
    obtain ⟨session,found,flag⟩ := Option.bind_eq_some_iff.mp shown
    have told := given id session found
    obtain ⟨opened,stored,pinentry⟩ := Option.map_eq_some_iff.mp (Core.flag_source shown)
    cases found.symm.trans stored
    rw [announced_core,matched id request session waits found pinentry,flag] at told
    exact (Option.some.inj (Option.some.inj told)).symm
  · intro agrees id request session waits found pinentry
    have told := given id session found
    have flag := Session.flag_pinentry session pinentry
    have shown : d.core.flag id = some session.context.confirmOnly := by
      rw [Core.flag,← store,found]
      exact flag
    rw [← announced_core,told,flag,agrees id request _ waits shown]

theorem changesMode_iff (d : Daemon) (input : Input) : d.core.clashes (d.action input) ↔ d.changesMode input := by
  unfold Core.clashes changesMode
  cases d.action input <;> exact Iff.rfl

theorem initial_matched : initial.Matched := by
  intro id request session waits
  cases waits

-- A run always asks for the kind of input it wants exactly when no request
-- changes the mode of a session that it joins.
theorem matched_always_iff (inputs : List Input) (admitted : daemon.Admits inputs) :
    daemon.Always Matched inputs ↔ daemon.Every (fun d input => ¬d.changesMode input) inputs := by
  apply Machine.always_iff _ initial_matched admitted
  intro d input path matched allowed
  rw [matched_iff (path.step allowed),← changesMode_iff]
  exact Core.acts_agrees_iff (acts_step d input allowed) ((matched_iff path).mp matched)

instance (d : Daemon) (input : Input) : Decidable (d.changesMode input) := by
  unfold changesMode
  exact match d.action input with
  | .pinentryRequest .. => inferInstanceAs (Decidable (_ ∧ _))
  | .idle | .connect .. | .socketState .. | .disconnect .. | .keyringRequest .. | .keyringConclude ..
  | .pinentryRespond .. | .pinentryCancel .. | .pinentryOutcome .. | .timeout .. | .submit .. | .initiate ..
  | .polkit => isFalse not_false

def sayConfirm (socket : Socket) (cookie : String) : Input :=
  .quiet (.message socket (text "pinentry_request")
    (.ofList [(text "cookie",.string (text cookie)),(text "confirm_only",.bool true)]))

-- Two commands of the same mode, the second after a retry.
def passwordTwice : List Input :=
  [.quiet (.connected 7),
   .say 0 "pinentry_request" [("cookie","p"),("prompt","PIN")],
   .say 0 "session.respond" [("id","p"),("response","1234")],
   .say 0 "pinentry_request" [("cookie","p"),("prompt","PIN"),("error","Bad PIN")]]

theorem passwordTwice_matched : daemon.Always Matched passwordTwice :=
  (matched_always_iff passwordTwice (by decide +kernel)).mpr (by decide +kernel)

-- GETPIN, then CONFIRM on the same connection while the first answer awaits its
-- outcome: the user interface still shows a password prompt.
def passwordThenConfirm : List Input :=
  [.quiet (.connected 7),
   .say 0 "pinentry_request" [("cookie","p"),("prompt","PIN")],
   .say 0 "session.respond" [("id","p"),("response","1234")],
   sayConfirm 0 "p"]

theorem passwordThenConfirm_mismatched :
    daemon.Admits passwordThenConfirm ∧ ¬(daemon.run passwordThenConfirm).Matched := by
  refine ⟨by decide +kernel,?_⟩
  have waits : ((daemon.run passwordThenConfirm).pinentryManager.pendingRequests.find (text "p")).map
      PinentryRequest.confirmOnly = some true := by decide +kernel
  have shown : ((daemon.run passwordThenConfirm).getSession (text "p")).map Session.source = some .pinentry := by
    decide +kernel
  have told : announced (text "p") (daemon.run passwordThenConfirm).trace = some (some false) := by decide +kernel
  intro matched
  obtain ⟨request,pending,confirm⟩ := Option.map_eq_some_iff.mp waits
  obtain ⟨session,found,pinentry⟩ := Option.map_eq_some_iff.mp shown
  have wanted := matched _ request session pending found pinentry
  rw [told,confirm] at wanted
  cases wanted

end Daemon

end BbAuth
