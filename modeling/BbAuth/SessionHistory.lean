import BbAuth.Actions

open Library
namespace BbAuth

-- A request as its handler records it when it starts.
structure Requester where
  kind : RequestKind
  socket : Socket
  peerPid : Pid
  cookie : QString
  deriving DecidableEq, Repr

def Effect.requester : Effect → Option Requester
  | .requested kind socket peerPid cookie => some ⟨kind,socket,peerPid,cookie⟩
  | _ => none

def Effect.opens (id : QString) : Effect → Option Source
  | .emitted (.created other source _) => if other = id then some source else none
  | _ => none

def lastRequester (history : List Effect) : Option Requester := history.findSome? Effect.requester

-- What the user was last shown for an id: the source of its most recent
-- session.created, with the request that was being handled then.
structure Opening where
  source : Source
  request : Option Requester
  deriving DecidableEq, Repr

def opening (id : QString) : List Effect → Option Opening
  | [] => none
  | effect :: rest =>
    match effect.opens id with
    | some source => some ⟨source,lastRequester rest⟩
    | none => opening id rest

theorem opening_log (id : QString) (effect : Effect) (rest : List Effect) (plain : effect.opens id = none) :
    opening id (effect :: rest) = opening id rest := by
  simp [opening,plain]

theorem opening_core (id : QString) (d : Daemon) : opening id d.core.history = opening id d.trace := by
  have both : (opening id d.core.history,lastRequester d.core.history) = (opening id d.trace,lastRequester d.trace) := by
    refine unrouted_read (fun history => (opening id history,lastRequester history))
      (fun effect rest routine => ?_) (fun effect rest other same => ?_) d.trace
    · have plain : effect.opens id = none ∧ effect.requester = none := by
        rcases routine_cases routine with ⟨_,_,rfl,_⟩ | ⟨_,rfl⟩ | rfl <;> exact ⟨rfl,rfl⟩
      simp only [opening_log id effect rest plain.1,lastRequester,List.findSome?_cons,plain.2]
    · obtain ⟨opened,requested⟩ := Prod.mk.inj same
      simp only [opening,opened,requested]
      unfold lastRequester at requested ⊢
      rw [List.findSome?_cons,List.findSome?_cons,requested]
  exact congrArg Prod.fst both

namespace Core

def source (c : Core) (id : QString) : Option Source := (c.sessionStore.find id).map Session.source

-- One change that opens no session.
inductive Tending : Core → Core → Prop where
  | frame (store : e.sessionStore = c.sessionStore) (history : e.history = c.history) : Tending c e
  | logged (effect : Effect) (plain : ∀ event, effect ≠ .emitted event) : Tending c (c.log effect)
  | updated (id : QString) (change : Session → Session)
      (alike : ∀ s, (change s).id = s.id ∧ (change s).source = s.source ∧ (change s).context = s.context) :
      Tending c (c.updateSession id change)
  | retried (id : QString) (curRetry maxRetries : Int) : Tending c (c.setPinentryRetry id curRetry maxRetries)
  | closed (id : QString) (result : Result) : Tending c (c.closeSession id result)

def Tends : Core → Core → Prop := Relation.ReflTransGen Tending

namespace Tends

theorem one (tending : Tending c e) : Tends c e := Relation.ReflTransGen.single tending

theorem trans (first : Tends c m) (second : Tends m e) : Tends c e := Relation.ReflTransGen.trans first second

theorem invariant {P : Core → Prop} (kept : ∀ c e, Tending c e → P c → P e)
    (tends : Tends c e) (start : P c) : P e := by
  induction tends with
  | refl => exact start
  | tail _ tending ih => exact kept _ _ tending ih

theorem withPinentry (c : Core) (manager : PinentryManager) : Tends c (c.withPinentry manager) := one (.frame rfl rfl)

theorem withKeyring (c : Core) (pending : Table QString KeyringRequest) : Tends c (c.withKeyring pending) :=
  one (.frame rfl rfl)

theorem log (c : Core) (effect : Effect) (plain : ∀ event, effect ≠ .emitted event) : Tends c (c.log effect) :=
  one (.logged effect plain)

theorem setError (c : Core) (id error : QString) : Tends c (c.updateSession id (·.setError error)) :=
  one (.updated id _ (fun _ => ⟨rfl,rfl,rfl⟩))

theorem setPrompt (c : Core) (id prompt : QString) (echo clearError : Bool) :
    Tends c (c.updateSession id (·.setPrompt prompt echo clearError)) := one (.updated id _ (fun _ => ⟨rfl,rfl,rfl⟩))

theorem closeSession (c : Core) (id : QString) (result : Result) : Tends c (c.closeSession id result) :=
  one (.closed id result)

theorem answer (c : Core) (socket : Socket) (kind : RequestKind) (id : QString) (reply : Answer) :
    Tends c (c.answer socket kind id reply) := by
  unfold Core.answer
  split
  · exact log c _ (fun _ => nofun)
  · exact .refl

theorem ofMoves (moves : c.Moves e) : Tends c e := by
  induction moves with
  | refl => exact .refl
  | tail _ move ih =>
    refine ih.trans (one ?_)
    cases move with
    | listener listener => exact .frame rfl rfl
    | logged effect => exact .logged _ (fun _ => nofun)
    | updated id change alike => exact .updated id change alike
    | closed id result => exact .closed id result

theorem keyringConclude (c : Core) (cookie : QString) (result : Result) (reply : Answer) :
    Tends c (c.keyringConclude cookie result reply) := by
  unfold Core.keyringConclude
  split
  · exact .refl
  · exact (withKeyring c _).trans <| (closeSession _ _ _).trans (answer _ _ _ _ _)

theorem keyringDisconnect (c : Core) (socket : Socket) : Tends c (c.keyringDisconnect socket) := by
  unfold Core.keyringDisconnect
  generalize c.keyringManager.pendingRequests.toList.filter (fun entry => entry.2.socket = socket) = entries
  induction entries generalizing c with
  | nil => exact .refl
  | cons entry rest ih => exact (withKeyring c _).trans <| (closeSession _ _ _).trans (ih _)

theorem endPinentrySession (c : Core) (cookie : QString) (result : Result) (error : QString) :
    Tends c (c.endPinentrySession cookie result error) := by
  unfold Core.endPinentrySession
  split
  · simp only
    split
    · exact closeSession c _ _
    · exact (setError c _ _).trans (closeSession _ _ _)
  · exact .refl

theorem closeFlow (c : Core) (cookie : QString) (result : Result) (error : QString) :
    Tends c (c.closeFlow cookie result error) := (endPinentrySession c _ _ _).trans (withPinentry _ _)

theorem pinentryDisconnect (c : Core) (socket : Socket) : Tends c (c.pinentryDisconnect socket) := by
  unfold Core.pinentryDisconnect
  simp only
  generalize (c.pinentryManager.pendingRequests.toList.filter
    (fun entry => entry.2.socket = socket)).map Prod.fst = cookies
  induction cookies generalizing c with
  | nil => exact .refl
  | cons cookie rest ih => exact (closeFlow c _ _ _).trans (ih _)

theorem setSocketState (c : Core) (socket : Socket) (state : LocalSocketState) :
    Tends c (c.setSocketState socket state) := by
  unfold Core.setSocketState
  split
  · exact .refl
  · exact one (.frame rfl rfl)

theorem deleteSocket (c : Core) (socket : Socket) : Tends c (c.deleteSocket socket) := one (.frame rfl rfl)

theorem disconnect (c : Core) (socket : Socket) : Tends c (c.disconnect socket) := by
  unfold Core.disconnect
  exact (setSocketState c _ _).trans <| (keyringDisconnect _ _).trans <|
    (pinentryDisconnect _ _).trans (deleteSocket _ _)

theorem reportRetry (c : Core) (request : PinentryRequest) : Tends c (c.reportRetry request) := by
  unfold Core.reportRetry
  split
  · exact (withPinentry c _).trans (setError _ _ _)
  · exact .refl

theorem reportRequestError (c : Core) (request : PinentryRequest) : Tends c (c.reportRequestError request) := by
  unfold Core.reportRequestError
  simp only
  split
  · exact (withPinentry c _).trans (setError _ _ _)
  · exact withPinentry c _

theorem pinentryRespond (c : Core) (cookie response : QString) : Tends c (c.pinentryRespond cookie response) := by
  unfold Core.pinentryRespond
  split
  · exact .refl
  · exact (withPinentry c _).trans (answer _ _ _ _ _)

theorem pinentryCancel (c : Core) (cookie : QString) : Tends c (c.pinentryCancel cookie) := by
  unfold Core.pinentryCancel
  simp only
  split
  · exact closeFlow c _ _ _
  · exact (closeFlow c _ _ _).trans (answer _ _ _ _ _)

theorem applyOutcome (c : Core) (cookie : QString) (outcome : PinentryManager.Outcome) (error : QString) :
    Tends c (c.applyOutcome cookie outcome error) := by
  cases outcome with
  | retry => exact (withPinentry c _).trans (setError _ _ _)
  | success | cancelled | error => exact closeFlow c _ _ _

theorem timeout (c : Core) (timer : Timer) : Tends c (c.timeout timer) := by
  unfold Core.timeout
  split
  · exact .refl
  · exact (withPinentry c _).trans (closeFlow _ _ _ _)

end Tends

-- The id an action opens a session for, and as what. A pinentry request joins
-- the session that is open under its id, if any.
def opens (c : Core) : Action → Option (QString × Source)
  | .keyringRequest request _ => some (request.cookie,.keyring)
  | .initiate cookie => some (cookie,.polkit)
  | .pinentryRequest request _ =>
    if PinentryManager.ownedByOther c.pinentryManager request.cookie request.peerPid then none
    else if (c.sessionStore.find request.cookie).isSome then none
    else some (request.cookie,.pinentry)
  | _ => none

end Core

def Action.requester : Action → Option Requester
  | .keyringRequest request _ => some ⟨.keyring,request.socket,request.peerPid,request.cookie⟩
  | .pinentryRequest request _ => some ⟨.pinentry,request.socket,request.peerPid,request.cookie⟩
  | _ => none

namespace Core

-- An action that opens a session first leaves the sessions as they are.
structure Opens (c : Core) (action : Action) (id : QString) (source : Source) (m e : Core) : Prop where
  before : Tends c m
  same : m.sessionStore = c.sessionStore
  request : ∀ requester, action.requester = some requester → lastRequester m.history = some requester
  after : ∃ ctx, Tends (m.createSession id source ctx) e

theorem updateSession_missing (c : Core) (id : QString) (change : Session → Session)
    (missing : c.sessionStore.find id = none) : c.updateSession id change = c := by
  simp [updateSession,missing]

theorem reportRetry_missing (c : Core) (request : PinentryRequest)
    (missing : c.sessionStore.find request.cookie = none) :
    ∃ manager, c.reportRetry request = c.withPinentry manager := by
  unfold reportRetry
  split
  · exact ⟨_,updateSession_missing _ _ _ missing⟩
  · exact ⟨c.pinentryManager,rfl⟩

theorem present_tends (c : Core) (request : PinentryRequest) (actor : ActorInfo) (retry : Int × Int) :
    Tends c (c.present request actor retry true) := by
  unfold present
  exact (Tends.one (.retried _ _ _)).trans (Tends.setPrompt _ _ _ _ _)

theorem pinentryRequest_refused (c : Core) (request : PinentryRequest) (actor : ActorInfo)
    (owned : PinentryManager.ownedByOther c.pinentryManager request.cookie request.peerPid = true) :
    c.pinentryRequest request actor = c.log (.requested .pinentry request.socket request.peerPid request.cookie) := by
  unfold pinentryRequest
  exact if_pos owned

theorem pinentryRequest_joins (c : Core) (request : PinentryRequest) (actor : ActorInfo)
    (owned : PinentryManager.ownedByOther c.pinentryManager request.cookie request.peerPid = false)
    (open_ : (c.sessionStore.find request.cookie).isSome = true) : Tends c (c.pinentryRequest request actor) := by
  apply (Tends.log c (.requested .pinentry request.socket request.peerPid request.cookie) (fun _ => nofun)).trans
  have mine : ¬PinentryManager.ownedByOther c.pinentryManager request.cookie request.peerPid = true := by simp [owned]
  unfold pinentryRequest
  simp only [log,withPinentry,mine,open_]
  exact (Tends.withPinentry _ _).trans <| (Tends.reportRetry _ _).trans <| (Tends.withPinentry _ _).trans <|
    (present_tends _ _ _ _).trans (Tends.reportRequestError _ _)

theorem pinentryRequest_opens (c : Core) (request : PinentryRequest) (actor : ActorInfo)
    (owned : PinentryManager.ownedByOther c.pinentryManager request.cookie request.peerPid = false)
    (missing : c.sessionStore.find request.cookie = none) :
    ∃ m, Opens c (.pinentryRequest request actor) request.cookie .pinentry m (c.pinentryRequest request actor) := by
  have mine : ¬PinentryManager.ownedByOther c.pinentryManager request.cookie request.peerPid = true := by simp [owned]
  let entered := PinentryManager.enterFlow c.pinentryManager request
  let started := (c.log (.requested .pinentry request.socket request.peerPid request.cookie)).withPinentry entered.2
  obtain ⟨manager,reported⟩ := reportRetry_missing started request missing
  let m := (started.withPinentry manager).withPinentry (PinentryManager.recordPending manager request)
  have opened : c.pinentryRequest request actor =
      (m.present request actor entered.1 false).reportRequestError request := by
    have absent : (started.sessionStore.find request.cookie).isSome = false := by
      rw [show started.sessionStore.find request.cookie = none from missing]; rfl
    change (if PinentryManager.ownedByOther c.pinentryManager request.cookie request.peerPid = true then _ else
      (((started.reportRetry request).withPinentry (PinentryManager.recordPending
        (started.reportRetry request).pinentryManager request)).present request actor entered.1
          (started.sessionStore.find request.cookie).isSome).reportRequestError request) = _
    rw [if_neg mine,absent,reported]
    rfl
  refine ⟨m,⟨?_,rfl,?_,?_⟩⟩
  · apply (Tends.log c (.requested .pinentry request.socket request.peerPid request.cookie) (fun _ => nofun)).trans
    exact Tends.one (.frame rfl rfl)
  · intro requester same
    cases same
    rfl
  · rw [opened]
    exact ⟨_,(Tends.setPrompt _ _ _ _ _).trans (Tends.reportRequestError _ _)⟩

theorem keyringRequest_opens (c : Core) (request : KeyringRequest) (actor : ActorInfo) :
    ∃ m, Opens c (.keyringRequest request actor) request.cookie .keyring m (c.keyringRequest request actor) := by
  let m := (c.log (.requested .keyring request.socket request.peerPid request.cookie)).withKeyring
    (c.keyringManager.pendingRequests.insert request.cookie request)
  refine ⟨m,⟨?_,rfl,?_,?_⟩⟩
  · exact (Tends.log c (.requested .keyring request.socket request.peerPid request.cookie) (fun _ => nofun)).trans
      (Tends.withKeyring _ _)
  · intro requester same
    cases same
    rfl
  · exact ⟨_,Tends.setPrompt _ _ _ _ _⟩

theorem acts_tends (acts : Acts c action e) (nothing : c.opens action = none) : Tends c e := by
  cases acts with
  | idle => exact .refl
  | connect => exact .one (.frame rfl rfl)
  | socketState known later => exact .setSocketState c _ _
  | disconnect known => exact .disconnect c _
  | keyringRequest known peer named => cases nothing
  | keyringConclude pending plain => exact .keyringConclude c _ _ _
  | @pinentryRequest _ _ request actor known peer named =>
    unfold opens at nothing
    simp only at nothing
    split at nothing
    · next owned =>
      rw [pinentryRequest_refused c request actor owned]
      exact .log c (.requested .pinentry request.socket request.peerPid request.cookie) (fun _ same => by cases same)
    · next owned =>
      split at nothing
      · next joined => exact pinentryRequest_joins c request actor (Bool.eq_false_iff.mpr owned) joined
      · cases nothing
  | pinentryRespond free pending => exact .pinentryRespond c _ _
  | pinentryCancel => exact .pinentryCancel c _
  | pinentryOutcome known => exact .applyOutcome c _ _ _
  | timeout running => exact .timeout c _
  | @submit session _ cookie response _ found source moves =>
    exact (Tends.log c (.submitted cookie response) (fun _ same => by cases same)).trans (.ofMoves moves)
  | initiate before same after => cases nothing
  | polkit moves => exact .ofMoves moves

theorem acts_opens {id : QString} {source : Source} (acts : Acts c action e)
    (opens : c.opens action = some (id,source)) :
    ∃ m, Opens c action id source m e := by
  cases acts with
  | @keyringRequest _ _ request actor known peer named =>
    cases opens
    exact keyringRequest_opens c request actor
  | @pinentryRequest _ _ request actor known peer named =>
    unfold Core.opens at opens
    simp only at opens
    split at opens
    · cases opens
    · next owned =>
      split at opens
      · cases opens
      · next missing =>
        cases opens
        exact pinentryRequest_opens c request actor (Bool.eq_false_iff.mpr owned) (Option.not_isSome_iff_eq_none.mp missing)
  | initiate before same after =>
    cases opens
    exact ⟨_,.ofMoves before,same,(fun _ none => by cases none),_,.ofMoves after⟩
  | idle | connect | socketState | disconnect | keyringConclude | pinentryRespond | pinentryCancel
  | pinentryOutcome | timeout | submit | polkit => cases opens

-- A keyring or pinentry session is opened by a request of that kind for its id.
def Opened (id : QString) (opening : Opening) : Prop :=
  match opening.source with
  | .polkit => True
  | .keyring => ∃ socket peerPid, opening.request = some ⟨.keyring,socket,peerPid,id⟩
  | .pinentry => ∃ socket peerPid, opening.request = some ⟨.pinentry,socket,peerPid,id⟩

-- Every open session is what its most recent session.created announced.
structure Announced (c : Core) : Prop where
  ids : ∀ id session, c.sessionStore.find id = some session → session.id = id
  current : ∀ id source, c.source id = some source → (opening id c.history).map Opening.source = some source
  made : ∀ id shown, opening id c.history = some shown → Opened id shown

theorem source_closeSession (c : Core) (id other : QString) (result : Result) :
    (c.closeSession id result).source other = if other = id then none else c.source other := by
  unfold closeSession source
  cases found : c.sessionStore.find id with
  | none =>
    by_cases same : other = id
    · subst other; simp [found]
    · simp [same]
  | some session =>
    simp only [log,withSessions,Table.find_remove]
    split <;> rfl

theorem source_updateSession (c : Core) (id other : QString) (change : Session → Session)
    (alike : ∀ s, (change s).id = s.id ∧ (change s).source = s.source) :
    (c.updateSession id change).source other = c.source other := by
  unfold updateSession source
  cases found : c.sessionStore.find id with
  | none => rfl
  | some session =>
    simp only [log,withSessions,Table.find_insert]
    split
    · next same => subst other; simp [found,(alike session).2]
    · rfl

theorem source_setPinentryRetry (c : Core) (id other : QString) (curRetry maxRetries : Int) :
    (c.setPinentryRetry id curRetry maxRetries).source other = c.source other := by
  have kept (session : Session) : (session.setPinentryRetry curRetry maxRetries).source = session.source := by
    unfold Session.setPinentryRetry
    split <;> rfl
  unfold setPinentryRetry SessionStore.updatePinentryRetry source
  cases found : c.sessionStore.find id with
  | none => rfl
  | some session =>
    simp only
    by_cases pinentry : session.source ≠ .pinentry
    · simp [pinentry]
    · simp only [pinentry,if_false,withSessions,Table.find_insert]
      split
      · next same => subst other; simp [found,kept]
      · rfl

@[simp] theorem source_createSession (c : Core) (id other : QString) (source : Source) (ctx : Context) :
    (c.createSession id source ctx).source other = if other = id then some source else c.source other := by
  unfold createSession Core.source
  simp only [log,withSessions,Table.find_insert]
  split <;> rfl

theorem tending_source (tending : Tending c e) (id : QString) (source : Source) (still : e.source id = some source) :
    c.source id = some source := by
  cases tending with
  | frame store history => rwa [Core.source,store] at still
  | logged effect plain => exact still
  | updated other change alike => rwa [source_updateSession c other id change (fun s => ⟨(alike s).1,(alike s).2.1⟩)] at still
  | retried other curRetry maxRetries => rwa [source_setPinentryRetry] at still
  | closed other result =>
    rw [source_closeSession] at still
    split at still
    · cases still
    · exact still

theorem tending_opening (tending : Tending c e) (id : QString) : opening id e.history = opening id c.history := by
  cases tending with
  | frame store history => rw [history]
  | logged effect plain =>
    apply opening_log id effect c.history
    cases effect <;> first | rfl | exact absurd rfl (plain _)
  | updated other change alike =>
    unfold updateSession
    split <;> rfl
  | retried other curRetry maxRetries =>
    unfold setPinentryRetry
    split <;> rfl
  | closed other result =>
    unfold closeSession
    split <;> rfl

theorem tends_opening (tends : Tends c e) (id : QString) : opening id e.history = opening id c.history := by
  induction tends with
  | refl => rfl
  | tail _ tending ih => exact (tending_opening tending id).trans ih

theorem tending_ids (tending : Tending c e)
    (ids : ∀ id session, c.sessionStore.find id = some session → session.id = id) :
    ∀ id session, e.sessionStore.find id = some session → session.id = id := by
  -- A session that is stored again keeps the id it had.
  have restored (other : QString) (old new : Session) (found : c.sessionStore.find other = some old)
      (same : new.id = old.id) (id : QString) (session : Session)
      (still : (c.sessionStore.insert other new).find id = some session) : session.id = id := by
    rw [Table.find_insert] at still
    split at still
    · next equal => cases still; rw [same,ids other old found,equal]
    · exact ids id session still
  intro id session still
  cases tending with
  | frame store history => rw [store] at still; exact ids id session still
  | logged effect plain => exact ids id session still
  | updated other change alike =>
    unfold updateSession at still
    cases found : c.sessionStore.find other with
    | none => simp only [found] at still; exact ids id session still
    | some old => simp only [found] at still; exact restored other old _ found (alike old).1 id session still
  | retried other curRetry maxRetries =>
    unfold setPinentryRetry SessionStore.updatePinentryRetry at still
    cases found : c.sessionStore.find other with
    | none => simp only [found] at still; exact ids id session still
    | some old =>
      have same : (old.setPinentryRetry curRetry maxRetries).id = old.id := by
        unfold Session.setPinentryRetry
        split <;> rfl
      by_cases pinentry : old.source ≠ .pinentry
      · simp only [found,if_pos pinentry] at still; exact ids id session still
      · simp only [found,if_neg pinentry] at still; exact restored other old _ found same id session still
  | closed other result =>
    unfold closeSession at still
    cases found : c.sessionStore.find other with
    | none => simp only [found] at still; exact ids id session still
    | some old =>
      simp only [found,log,withSessions,Table.find_remove] at still
      split at still
      · cases still
      · exact ids id session still

theorem tending_announced (tending : Tending c e) (announced : Announced c) : Announced e where
  ids := tending_ids tending announced.ids
  current id source still := by
    rw [tending_opening tending]
    exact announced.current id source (tending_source tending id source still)
  made id shown found := announced.made id shown (by rwa [tending_opening tending] at found)

theorem tends_announced (tends : Tends c e) (announced : Announced c) : Announced e :=
  tends.invariant (fun _ _ => tending_announced) announced

theorem opening_createSession (c : Core) (id other : QString) (source : Source) (ctx : Context) :
    opening other (c.createSession id source ctx).history =
      if other = id then some ⟨source,lastRequester c.history⟩ else opening other c.history := by
  have opens : (Effect.emitted (Session.toCreatedEvent {id,source,context:=ctx})).opens other =
      if other = id then some source else none := by
    simp only [Session.toCreatedEvent,Effect.opens,eq_comm]
  change (match (Effect.emitted (Session.toCreatedEvent {id,source,context:=ctx})).opens other with
    | some source => some (Opening.mk source (lastRequester c.history))
    | none => opening other c.history) = _
  rw [opens]
  by_cases same : other = id <;> simp [same]

theorem createSession_announced (announced : Announced c) (id : QString) (source : Source) (ctx : Context)
    (opened : Opened id ⟨source,lastRequester c.history⟩) : Announced (c.createSession id source ctx) where
  ids other session found := by
    simp only [createSession,log,withSessions,Table.find_insert] at found
    split at found
    · next same => cases found; exact same.symm
    · exact announced.ids other session found
  current other kind found := by
    rw [source_createSession] at found
    rw [opening_createSession]
    split at found
    · next same => rw [if_pos same]; exact found
    · next different => rw [if_neg different]; exact announced.current other kind found
  made other shown found := by
    rw [opening_createSession] at found
    split at found
    · next same => cases found; rw [same]; exact opened
    · exact announced.made other shown found

theorem acts_opened {id : QString} {source : Source} (opens : c.opens action = some (id,source))
    (announces : Opens c action id source m e) : Opened id ⟨source,lastRequester m.history⟩ := by
  have request := announces.request
  cases action with
  | keyringRequest asked actor =>
    cases opens
    exact ⟨_,_,request _ rfl⟩
  | pinentryRequest asked actor =>
    unfold Core.opens at opens
    simp only at opens
    split at opens
    · cases opens
    · split at opens
      · cases opens
      · cases opens
        exact ⟨_,_,request _ rfl⟩
  | initiate cookie => cases opens; exact trivial
  | idle | connect | socketState | disconnect | keyringConclude | pinentryRespond | pinentryCancel
  | pinentryOutcome | timeout | submit | polkit => cases opens

theorem acts_announced (acts : Acts c action e) (announced : Announced c) : Announced e := by
  cases opens : c.opens action with
  | none => exact tends_announced (acts_tends acts opens) announced
  | some target =>
    obtain ⟨id,source⟩ := target
    obtain ⟨m,announces⟩ := acts_opens acts opens
    obtain ⟨ctx,after⟩ := announces.after
    have before := tends_announced announces.before announced
    exact tends_announced after (createSession_announced before id source ctx (acts_opened opens announces))

end Core

namespace Daemon

-- An invariant of the core over every action holds in every reached state.
theorem reached_core {P : Core → Prop} (start : P Daemon.initial.core)
    (kept : ∀ c action e, Core.Acts c action e → P c → P e) (path : daemon.Reached d) : P d.core :=
  path.invariant (P := fun d => P d.core) start
    (fun d input _ held allowed => kept _ _ _ (acts_step d input allowed) held)

theorem initial_announced : Core.Announced initial.core := by
  have store : initial.core.sessionStore = .empty := rfl
  have history : initial.core.history = [] := rfl
  refine ⟨?_,?_,?_⟩
  · intro id session found; rw [store] at found; cases found
  · intro id source found; rw [Core.source,store] at found; cases found
  · intro id shown found; rw [history] at found; cases found

theorem reached_announced (path : daemon.Reached d) : Core.Announced d.core :=
  reached_core initial_announced (fun _ _ _ => Core.acts_announced) path

end Daemon

end BbAuth
