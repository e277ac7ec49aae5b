import BbAuth.Actions
import BbAuth.PinentryFlows

open Library
namespace BbAuth

-- The bookkeeping of the daemon, apart from the sessions and what is told of them.
structure Records where
  pendingKeyring : Table QString KeyringRequest
  pinentryManager : PinentryManager
  sockets : Table Socket LocalSocket
  nextSocket : Socket

def Core.records (c : Core) : Records :=
  ⟨c.keyringManager.pendingRequests,c.pinentryManager,c.sockets,c.nextSocket⟩

theorem Core.records_manager (c : Core) : c.records.pinentryManager = c.pinentryManager := rfl
theorem Core.records_sockets (c : Core) : c.records.sockets = c.sockets := rfl

namespace Records

def forgetKeyring (r : Records) (cookie : QString) : Records :=
  {r with pendingKeyring:=r.pendingKeyring.remove cookie}

def forgetFlow (r : Records) (cookie : QString) : Records :=
  {r with pinentryManager:=PinentryManager.forgetFlow r.pinentryManager cookie}

def keyringsOf (r : Records) (socket : Socket) : List QString :=
  (r.pendingKeyring.toList.filter (fun entry => entry.2.socket = socket)).map Prod.fst

def flowsOf (r : Records) (socket : Socket) : List QString :=
  (r.pinentryManager.pendingRequests.toList.filter (fun entry => entry.2.socket = socket)).map Prod.fst

def connect (r : Records) (peerPid : Pid) : Records :=
  {r with sockets:=r.sockets.insert r.nextSocket ⟨.connected,peerPid⟩,nextSocket:=r.nextSocket + 1}

def setSocketState (r : Records) (socket : Socket) (state : LocalSocketState) : Records :=
  match r.sockets.find socket with
  | none => r
  | some info => {r with sockets:=r.sockets.insert socket {info with state}}

def disconnect (r : Records) (socket : Socket) : Records :=
  let r := r.setSocketState socket .unconnected
  let r := (r.keyringsOf socket).foldl forgetKeyring r
  let r := (r.flowsOf socket).foldl forgetFlow r
  {r with sockets:=r.sockets.remove socket}

def retry (m : PinentryManager) (cookie : QString) : PinentryManager :=
  let m := PinentryManager.cleanupAwaiting m cookie
  {m with retryReported:=m.retryReported.insert cookie ()}

theorem retry_pendingRequests (m : PinentryManager) (cookie : QString) :
    (retry m cookie).pendingRequests = m.pendingRequests := PinentryManager.cleanupAwaiting_pendingRequests m cookie

-- What an action does to the bookkeeping, whatever it says to anyone.
def act (r : Records) : Action → Records
  | .connect peerPid => r.connect peerPid
  | .socketState socket state => r.setSocketState socket state
  | .disconnect socket => r.disconnect socket
  | .keyringRequest request _ => {r with pendingKeyring:=r.pendingKeyring.insert request.cookie request}
  | .keyringConclude cookie _ _ => r.forgetKeyring cookie
  | .pinentryRequest request _ =>
    let m := r.pinentryManager
    if PinentryManager.ownedByOther m request.cookie request.peerPid then r
    else
      let enrolled := PinentryManager.enrol m request
      let retryReported :=
        if enrolled.retryReported.contains request.cookie then enrolled.retryReported.remove request.cookie
        else enrolled.retryReported
      {r with pinentryManager:={enrolled with retryReported}}
  | .pinentryRespond cookie _ =>
    match r.pinentryManager.pendingRequests.find cookie with
    | none => r
    | some request => {r with pinentryManager:=PinentryManager.awaitOutcome r.pinentryManager request cookie}
  | .pinentryCancel cookie => r.forgetFlow cookie
  | .pinentryOutcome cookie .retry _ => {r with pinentryManager:=retry r.pinentryManager cookie}
  | .pinentryOutcome cookie _ _ => r.forgetFlow cookie
  | .timeout timer =>
    match r.pinentryManager.timers.find timer with
    | none => r
    | some cookie =>
      let m := {r.pinentryManager with timers:=r.pinentryManager.timers.remove timer}
      forgetFlow {r with pinentryManager:=m} cookie
  | .idle | .submit .. | .initiate _ | .polkit => r

end Records

namespace Core

@[simp] theorem records_log (c : Core) (effect : Effect) : (c.log effect).records = c.records := rfl
@[simp] theorem records_withSessions (c : Core) (store : SessionStore) : (c.withSessions store).records = c.records := rfl
@[simp] theorem records_withListener (c : Core) (l : PolkitListener) : (c.withListener l).records = c.records := rfl
@[simp] theorem records_withPinentry (c : Core) (m : PinentryManager) :
    (c.withPinentry m).records = {c.records with pinentryManager:=m} := rfl
@[simp] theorem records_withKeyring (c : Core) (pending : Table QString KeyringRequest) :
    (c.withKeyring pending).records = {c.records with pendingKeyring:=pending} := rfl

@[simp] theorem records_answer (c : Core) (socket : Socket) (kind : RequestKind) (id : QString) (reply : Answer) :
    (c.answer socket kind id reply).records = c.records := by
  unfold answer; split <;> rfl

@[simp] theorem records_createSession (c : Core) (id : QString) (source : Source) (ctx : Context) :
    (c.createSession id source ctx).records = c.records := rfl

@[simp] theorem records_updateSession (c : Core) (id : QString) (change : Session → Session) :
    (c.updateSession id change).records = c.records := by
  unfold updateSession; split <;> rfl

@[simp] theorem records_closeSession (c : Core) (id : QString) (result : Result) :
    (c.closeSession id result).records = c.records := by
  unfold closeSession; split <;> rfl

@[simp] theorem records_setPinentryRetry (c : Core) (id : QString) (curRetry maxRetries : Int) :
    (c.setPinentryRetry id curRetry maxRetries).records = c.records := by
  unfold setPinentryRetry; split <;> rfl

theorem records_moves (moves : Moves c e) : e.records = c.records :=
  moves.invariant (P := fun e => e.records = c.records)
    (fun _ _ move same => by cases move <;> simpa using same) rfl

theorem records_keyringConclude (c : Core) (cookie : QString) (result : Result) (reply : Answer)
    (pending : c.keyringManager.pendingRequests.find cookie = some request) :
    (c.keyringConclude cookie result reply).records = c.records.forgetKeyring cookie := by
  simp only [keyringConclude,pending,records_answer,records_closeSession]
  rfl

theorem records_keyringDisconnect (c : Core) (socket : Socket) :
    (c.keyringDisconnect socket).records = (c.records.keyringsOf socket).foldl Records.forgetKeyring c.records := by
  change (List.foldl keyringForget c _).records = (List.map _ (List.filter _ c.keyringManager.pendingRequests.toList)).foldl _ _
  generalize c.keyringManager.pendingRequests.toList.filter (fun entry => entry.2.socket = socket) = entries
  induction entries generalizing c with
  | nil => rfl
  | cons entry rest ih =>
    simp only [List.foldl_cons,List.map_cons]
    rw [ih]
    simp only [keyringForget,records_closeSession]
    rfl

theorem records_closeFlow (c : Core) (cookie : QString) (result : Result) (error : QString) :
    (c.closeFlow cookie result error).records = c.records.forgetFlow cookie := by
  have ended : (c.endPinentrySession cookie result error).records = c.records := by
    unfold endPinentrySession
    split
    · simp only [records_closeSession]
      split <;> simp
    · rfl
  unfold closeFlow
  simp only [records_withPinentry,ended]
  have manager : (c.endPinentrySession cookie result error).pinentryManager = c.records.pinentryManager :=
    congrArg Records.pinentryManager ended
  rw [manager]
  rfl

theorem records_pinentryDisconnect (c : Core) (socket : Socket) :
    (c.pinentryDisconnect socket).records = (c.records.flowsOf socket).foldl Records.forgetFlow c.records := by
  change (List.foldl pinentryForget c _).records = (List.foldl _ _ (c.records.flowsOf socket))
  change (List.foldl pinentryForget c (c.records.flowsOf socket)).records = _
  generalize c.records.flowsOf socket = cookies
  induction cookies generalizing c with
  | nil => rfl
  | cons cookie rest ih =>
    simp only [List.foldl_cons]
    rw [ih,pinentryForget,records_closeFlow]

theorem records_setSocketState (c : Core) (socket : Socket) (state : LocalSocketState) :
    (c.setSocketState socket state).records = c.records.setSocketState socket state := by
  unfold setSocketState Records.setSocketState
  rw [records_sockets]
  cases c.sockets.find socket <;> rfl

theorem records_disconnect (c : Core) (socket : Socket) : (c.disconnect socket).records = c.records.disconnect socket := by
  unfold disconnect Records.disconnect
  simp only
  rw [← records_setSocketState,← records_keyringDisconnect,← records_pinentryDisconnect]
  rfl

theorem records_reportRetry (c : Core) (request : PinentryRequest) :
    (c.reportRetry request).records =
      {c.records with pinentryManager:=PinentryManager.cleanupAwaiting c.pinentryManager request.cookie} := by
  unfold reportRetry
  split
  · simp only [records_updateSession,records_withPinentry]
  · next idle =>
    have absent : c.pinentryManager.awaitingOutcome.find request.cookie = none := Option.not_isSome_iff_eq_none.mp idle
    simp only [PinentryManager.cleanupAwaiting,absent]
    rfl

theorem records_present (c : Core) (request : PinentryRequest) (actor : ActorInfo) (retry : Int × Int)
    (sessionExists : Bool) : (c.present request actor retry sessionExists).records = c.records := by
  unfold present
  cases sessionExists <;> simp

theorem records_reportRequestError (c : Core) (request : PinentryRequest) :
    (c.reportRequestError request).records =
      {c.records with pinentryManager:={c.pinentryManager with
        retryReported:=
          if c.pinentryManager.retryReported.contains request.cookie then
            c.pinentryManager.retryReported.remove request.cookie
          else c.pinentryManager.retryReported}} := by
  unfold reportRequestError
  simp only
  split
  · simp only [records_updateSession,records_withPinentry]
  · rfl

theorem records_pinentryRequest (c : Core) (request : PinentryRequest) (actor : ActorInfo) :
    (c.pinentryRequest request actor).records = c.records.act (.pinentryRequest request actor) := by
  have manager (e : Core) : e.pinentryManager = e.records.pinentryManager := rfl
  unfold pinentryRequest Records.act
  simp only [apply_ite Core.records,records_reportRequestError,manager,records_present,records_withPinentry,
    records_reportRetry,records_log]
  rfl

theorem records_pinentryRespond (c : Core) (cookie response : QString) :
    (c.pinentryRespond cookie response).records = c.records.act (.pinentryRespond cookie response) := by
  unfold pinentryRespond Records.act
  simp only [records_manager]
  cases c.pinentryManager.pendingRequests.find cookie with
  | none => rfl
  | some request => simp only [records_answer,records_withPinentry]

theorem records_pinentryCancel (c : Core) (cookie : QString) :
    (c.pinentryCancel cookie).records = c.records.forgetFlow cookie := by
  unfold pinentryCancel
  simp only
  split
  · exact records_closeFlow c _ _ _
  · rw [records_answer]; exact records_closeFlow c _ _ _

theorem records_applyOutcome (c : Core) (cookie : QString) (outcome : PinentryManager.Outcome) (error : QString) :
    (c.applyOutcome cookie outcome error).records = c.records.act (.pinentryOutcome cookie outcome error) := by
  cases outcome with
  | retry => exact records_updateSession _ _ _
  | success | cancelled | error => exact records_closeFlow c _ _ _

theorem records_timeout (c : Core) (timer : Timer) : (c.timeout timer).records = c.records.act (.timeout timer) := by
  unfold timeout Records.act
  simp only [records_manager]
  cases c.pinentryManager.timers.find timer with
  | none => rfl
  | some cookie => exact records_closeFlow _ _ _ _

theorem acts_records (acts : Acts c action e) : e.records = c.records.act action := by
  cases acts with
  | idle | connect => rfl
  | socketState known later => exact records_setSocketState c _ _
  | disconnect known => exact records_disconnect c _
  | keyringRequest known peer named => exact records_updateSession _ _ _
  | keyringConclude pending plain => exact records_keyringConclude c _ _ _ pending
  | pinentryRequest known peer named => exact records_pinentryRequest c _ _
  | pinentryRespond free pending => exact records_pinentryRespond c _ _
  | pinentryCancel => exact records_pinentryCancel c _
  | pinentryOutcome known => exact records_applyOutcome c _ _ _
  | timeout running => exact records_timeout c _
  | submit found source moves => exact (records_moves moves).trans rfl
  | initiate before same after => exact (records_moves after).trans ((records_createSession _ _ _ _).trans (records_moves before))
  | polkit moves => exact records_moves moves

end Core

namespace Records

theorem forgetKeyrings_find (cookies : List QString) (r : Records) (other : QString) :
    (cookies.foldl forgetKeyring r).pendingKeyring.find other =
      if other ∈ cookies then none else r.pendingKeyring.find other := by
  induction cookies generalizing r with
  | nil => rfl
  | cons cookie rest ih =>
    rw [List.foldl_cons,ih]
    by_cases later : other ∈ rest
    · simp [later]
    · simp only [forgetKeyring,Table.find_remove,List.mem_cons,later,or_false,if_false]

theorem forgetKeyrings_other (cookies : List QString) (r : Records) :
    (cookies.foldl forgetKeyring r).pinentryManager = r.pinentryManager ∧
      (cookies.foldl forgetKeyring r).sockets = r.sockets ∧
      (cookies.foldl forgetKeyring r).nextSocket = r.nextSocket := by
  induction cookies generalizing r with
  | nil => exact ⟨rfl,rfl,rfl⟩
  | cons cookie rest ih => exact ih (r.forgetKeyring cookie)

theorem forgetFlows_manager (cookies : List QString) (r : Records) :
    (cookies.foldl forgetFlow r).pinentryManager = cookies.foldl PinentryManager.forgetFlow r.pinentryManager := by
  induction cookies generalizing r with
  | nil => rfl
  | cons cookie rest ih => exact ih (r.forgetFlow cookie)

theorem forgetFlows_flow (cookies : List QString) (r : Records) (other : QString) :
    PinentryManager.flow (cookies.foldl forgetFlow r).pinentryManager other =
      if other ∈ cookies then ⟨none,none,none⟩ else PinentryManager.flow r.pinentryManager other := by
  rw [forgetFlows_manager]
  exact PinentryManager.flow_forgetFlows cookies r.pinentryManager other

theorem forgetFlows_other (cookies : List QString) (r : Records) :
    (cookies.foldl forgetFlow r).pendingKeyring = r.pendingKeyring ∧
      (cookies.foldl forgetFlow r).sockets = r.sockets ∧
      (cookies.foldl forgetFlow r).nextSocket = r.nextSocket := by
  induction cookies generalizing r with
  | nil => exact ⟨rfl,rfl,rfl⟩
  | cons cookie rest ih => exact ih (r.forgetFlow cookie)

theorem forgetFlows_sound (cookies : List QString) (sound : PinentryManager.Sound r.pinentryManager) :
    PinentryManager.Sound (cookies.foldl forgetFlow r).pinentryManager := by
  rw [forgetFlows_manager]
  exact PinentryManager.forgetFlows_sound cookies sound

theorem mem_keyringsOf (r : Records) (socket : Socket) (cookie : QString) :
    cookie ∈ r.keyringsOf socket ↔ ∃ request, r.pendingKeyring.find cookie = some request ∧ request.socket = socket := by
  simp only [keyringsOf,List.mem_map,List.mem_filter,Prod.exists,Table.mem_toList,decide_eq_true_eq]
  constructor
  · rintro ⟨key,request,held,rfl⟩; exact ⟨request,held⟩
  · rintro ⟨request,held⟩; exact ⟨cookie,request,held,rfl⟩

theorem mem_flowsOf (r : Records) (socket : Socket) (cookie : QString) :
    cookie ∈ r.flowsOf socket ↔
      ∃ request, r.pinentryManager.pendingRequests.find cookie = some request ∧ request.socket = socket := by
  simp only [flowsOf,List.mem_map,List.mem_filter,Prod.exists,Table.mem_toList,decide_eq_true_eq]
  constructor
  · rintro ⟨key,request,held,rfl⟩; exact ⟨request,held⟩
  · rintro ⟨request,held⟩; exact ⟨cookie,request,held,rfl⟩

theorem setSocketState_other (r : Records) (socket : Socket) (state : LocalSocketState) :
    (r.setSocketState socket state).pendingKeyring = r.pendingKeyring ∧
      (r.setSocketState socket state).pinentryManager = r.pinentryManager ∧
      (r.setSocketState socket state).nextSocket = r.nextSocket := by
  unfold setSocketState
  split <;> exact ⟨rfl,rfl,rfl⟩

theorem disconnect_keyring (r : Records) (socket : Socket) (cookie : QString) :
    (r.disconnect socket).pendingKeyring.find cookie =
      if ∃ request, r.pendingKeyring.find cookie = some request ∧ request.socket = socket then none
      else r.pendingKeyring.find cookie := by
  have named := mem_keyringsOf (r.setSocketState socket .unconnected) socket cookie
  rw [(setSocketState_other r socket .unconnected).1] at named
  simp only [disconnect,(forgetFlows_other _ _).1,forgetKeyrings_find,(setSocketState_other r socket .unconnected).1]
  exact if_congr named rfl rfl

theorem disconnect_flow (r : Records) (socket : Socket) (cookie : QString) :
    PinentryManager.flow (r.disconnect socket).pinentryManager cookie =
      if ∃ request, r.pinentryManager.pendingRequests.find cookie = some request ∧ request.socket = socket then
        ⟨none,none,none⟩
      else PinentryManager.flow r.pinentryManager cookie := by
  have same : (((r.setSocketState socket .unconnected).keyringsOf socket).foldl forgetKeyring
      (r.setSocketState socket .unconnected)).pinentryManager = r.pinentryManager :=
    (forgetKeyrings_other _ _).1.trans (setSocketState_other r socket .unconnected).2.1
  simp only [disconnect,forgetFlows_flow,mem_flowsOf,same]

theorem disconnect_pinentry (r : Records) (socket : Socket) (cookie : QString) :
    (r.disconnect socket).pinentryManager.pendingRequests.find cookie =
      if ∃ request, r.pinentryManager.pendingRequests.find cookie = some request ∧ request.socket = socket then none
      else r.pinentryManager.pendingRequests.find cookie :=
  (congrArg PinentryManager.Flow.pending (disconnect_flow r socket cookie)).trans (apply_ite _ _ _ _)

theorem disconnect_sockets (r : Records) (socket other : Socket) :
    (r.disconnect socket).sockets.find other = if other = socket then none else r.sockets.find other := by
  simp only [disconnect,(forgetFlows_other _ _).2.1,(forgetKeyrings_other _ _).2.1,Table.find_remove]
  split
  · rfl
  · next different =>
    unfold setSocketState
    split
    · rfl
    · exact Table.find_insert_other _ _ different

theorem disconnect_nextSocket (r : Records) (socket : Socket) : (r.disconnect socket).nextSocket = r.nextSocket := by
  simp only [disconnect,(forgetFlows_other _ _).2.2,(forgetKeyrings_other _ _).2.2,
    (setSocketState_other r socket .unconnected).2.2]

theorem disconnect_manager (r : Records) (socket : Socket) (sound : PinentryManager.Sound r.pinentryManager) :
    PinentryManager.Sound (r.disconnect socket).pinentryManager := by
  apply forgetFlows_sound
  rwa [(forgetKeyrings_other _ _).1,(setSocketState_other r socket .unconnected).2.1]

theorem act_enrol (r : Records) (request : PinentryRequest) (actor : ActorInfo) (id : QString)
    (mine : PinentryManager.ownedByOther r.pinentryManager request.cookie request.peerPid = false) :
    PinentryManager.flow (r.act (.pinentryRequest request actor)).pinentryManager id =
      if id = request.cookie then ⟨some request,none,some request.peerPid⟩
      else PinentryManager.flow r.pinentryManager id := by
  simp only [act,mine,if_false,Bool.false_eq_true]
  exact PinentryManager.flow_enrol r.pinentryManager request id

-- A flow gets an owner only from a request, which an owner of another pid refuses.
theorem act_owner (r : Records) (action : Action) (id : QString)
    (owner : (PinentryManager.flow (r.act action).pinentryManager id).owner = some pid) :
    (PinentryManager.flow r.pinentryManager id).owner = some pid ∨
    ∃ request actor, action = .pinentryRequest request actor ∧ request.cookie = id ∧ pid = request.peerPid ∧
      PinentryManager.ownedByOther r.pinentryManager request.cookie request.peerPid = false := by
  have forgotten (m : PinentryManager) (cookie : QString)
      (still : (PinentryManager.flow (PinentryManager.forgetFlow m cookie) id).owner = some pid) :
      (PinentryManager.flow m id).owner = some pid := by
    rw [PinentryManager.flow_forgetFlow] at still
    split at still
    · cases still
    · exact still
  cases action with
  | idle | connect | keyringRequest | keyringConclude | submit | initiate | polkit => exact .inl owner
  | socketState socket state =>
    rw [act,(setSocketState_other r socket state).2.1] at owner
    exact .inl owner
  | disconnect socket =>
    rw [act,disconnect_flow] at owner
    split at owner
    · cases owner
    · exact .inl owner
  | pinentryRequest request actor =>
    by_cases mine : PinentryManager.ownedByOther r.pinentryManager request.cookie request.peerPid = false
    · rw [act_enrol r request actor id mine] at owner
      split at owner
      · next same => cases owner; exact .inr ⟨request,actor,rfl,same.symm,rfl,mine⟩
      · exact .inl owner
    · simp only [act,(Bool.not_eq_false _).mp mine,if_true] at owner
      exact .inl owner
  | pinentryRespond cookie response =>
    simp only [act] at owner
    split at owner
    · exact .inl owner
    · rw [PinentryManager.flow_awaitOutcome] at owner
      split at owner
      · next same => exact .inl (same ▸ owner)
      · exact .inl owner
  | pinentryCancel cookie => exact .inl (forgotten _ cookie owner)
  | pinentryOutcome cookie outcome error =>
    cases outcome with
    | retry =>
      have flow := PinentryManager.flow_cleanupAwaiting r.pinentryManager cookie id
      have kept : (PinentryManager.flow (PinentryManager.cleanupAwaiting r.pinentryManager cookie) id).owner =
        some pid := owner
      rw [flow] at kept
      split at kept
      · next same => exact .inl (same ▸ kept)
      · exact .inl kept
    | success | cancelled | error => exact .inl (forgotten _ cookie owner)
  | timeout timer =>
    simp only [act] at owner
    split at owner
    · exact .inl owner
    · exact .inl (forgotten {r.pinentryManager with timers:=r.pinentryManager.timers.remove timer} _ owner)

theorem act_keyring (r : Records) (action : Action) (cookie : QString)
    (pending : (r.act action).pendingKeyring.find cookie = some request) :
    (r.pendingKeyring.find cookie = some request ∧ ∀ asked actor, action = .keyringRequest asked actor → asked.cookie ≠ cookie) ∨
    ∃ actor, action = .keyringRequest request actor ∧ request.cookie = cookie := by
  cases action with
  | keyringRequest asked actor =>
    rw [act,Table.find_insert] at pending
    split at pending
    · next same => cases pending; exact .inr ⟨actor,rfl,same.symm⟩
    · next different =>
      refine .inl ⟨pending,?_⟩
      rintro _ _ ⟨⟩ same
      exact different same.symm
  | keyringConclude other result reply =>
    rw [act,forgetKeyring,Table.find_remove] at pending
    split at pending
    · cases pending
    · exact .inl ⟨pending,by rintro _ _ ⟨⟩⟩
  | socketState socket state =>
    rw [act,(setSocketState_other r socket state).1] at pending
    exact .inl ⟨pending,by rintro _ _ ⟨⟩⟩
  | disconnect socket =>
    rw [act,disconnect_keyring] at pending
    split at pending
    · cases pending
    · exact .inl ⟨pending,by rintro _ _ ⟨⟩⟩
  | pinentryRequest asked actor =>
    simp only [act] at pending
    split at pending <;> exact .inl ⟨pending,by rintro _ _ ⟨⟩⟩
  | pinentryRespond cookie response =>
    simp only [act] at pending
    split at pending <;> exact .inl ⟨pending,by rintro _ _ ⟨⟩⟩
  | pinentryOutcome cookie outcome error => cases outcome <;> exact .inl ⟨pending,by rintro _ _ ⟨⟩⟩
  | timeout timer =>
    simp only [act] at pending
    split at pending <;> exact .inl ⟨pending,by rintro _ _ ⟨⟩⟩
  | idle | connect | pinentryCancel | submit | initiate | polkit => exact .inl ⟨pending,by rintro _ _ ⟨⟩⟩

structure Sound (r : Records) : Prop where
  manager : PinentryManager.Sound r.pinentryManager
  keyringIds : ∀ cookie request, r.pendingKeyring.find cookie = some request → request.cookie = cookie
  keyringKnown : ∀ cookie request, r.pendingKeyring.find cookie = some request →
    r.sockets.contains request.socket = true
  pinentryKnown : ∀ cookie request, r.pinentryManager.pendingRequests.find cookie = some request →
    ∃ info, r.sockets.find request.socket = some info ∧ info.peerPid = request.peerPid
  below : ∀ socket, r.sockets.contains socket = true → socket < r.nextSocket

theorem connect_sound (sound : Sound r) (peerPid : Pid) : Sound (r.connect peerPid) where
  manager := sound.manager
  keyringIds := sound.keyringIds
  keyringKnown cookie request found := by
    have known := sound.keyringKnown cookie request found
    have below := sound.below _ known
    rw [Table.contains,connect,Table.find_insert_other _ _ (Nat.ne_of_lt below)]
    exact known
  pinentryKnown cookie request found := by
    obtain ⟨info,known,peer⟩ := sound.pinentryKnown cookie request found
    have below := sound.below _ ((Table.contains_iff _ _).mpr ⟨info,known⟩)
    exact ⟨info,(Table.find_insert_other _ _ (Nat.ne_of_lt below)).trans known,peer⟩
  below socket known := by
    rw [Table.contains,connect,Table.find_insert] at known
    split at known
    · next same => exact same ▸ Nat.lt_succ_self _
    · exact Nat.lt_succ_of_lt (sound.below socket known)

theorem setSocketState_find (r : Records) (socket other : Socket) (state : LocalSocketState) :
    (r.setSocketState socket state).sockets.find other =
      if other = socket then (r.sockets.find other).map (fun info => {info with state}) else r.sockets.find other := by
  unfold setSocketState
  cases found : r.sockets.find socket with
  | none =>
    by_cases same : other = socket
    · rw [if_pos same,same,found]; rfl
    · rw [if_neg same]
  | some info =>
    simp only [Table.find_insert]
    by_cases same : other = socket
    · rw [if_pos same,if_pos same,same,found]; rfl
    · rw [if_neg same,if_neg same]

theorem setSocketState_contains (r : Records) (socket other : Socket) (state : LocalSocketState) :
    (r.setSocketState socket state).sockets.contains other = r.sockets.contains other := by
  rw [Table.contains,setSocketState_find]
  split
  · exact Option.isSome_map
  · rfl

theorem setSocketState_sound (sound : Sound r) (socket : Socket) (state : LocalSocketState) :
    Sound (r.setSocketState socket state) := by
  obtain ⟨keyring,manager,next⟩ := setSocketState_other r socket state
  constructor
  · rw [manager]; exact sound.manager
  · rw [keyring]; exact sound.keyringIds
  · intro cookie request found
    rw [keyring] at found
    rw [setSocketState_contains]
    exact sound.keyringKnown cookie request found
  · intro cookie request found
    rw [manager] at found
    obtain ⟨info,known,peer⟩ := sound.pinentryKnown cookie request found
    rw [setSocketState_find]
    split
    · exact ⟨{info with state},by rw [known]; rfl,peer⟩
    · exact ⟨info,known,peer⟩
  · intro other known
    rw [setSocketState_contains] at known
    rw [next]
    exact sound.below other known

theorem disconnect_sound (sound : Sound r) (socket : Socket) : Sound (r.disconnect socket) where
  manager := disconnect_manager r socket sound.manager
  keyringIds cookie request found := by
    rw [disconnect_keyring] at found
    split at found
    · cases found
    · exact sound.keyringIds cookie request found
  keyringKnown cookie request found := by
    rw [disconnect_keyring] at found
    split at found
    · cases found
    · next other =>
      have different : request.socket ≠ socket := fun same => other ⟨request,found,same⟩
      rw [Table.contains,disconnect_sockets,if_neg different]
      exact sound.keyringKnown cookie request found
  pinentryKnown cookie request found := by
    rw [disconnect_pinentry] at found
    split at found
    · cases found
    · next other =>
      have different : request.socket ≠ socket := fun same => other ⟨request,found,same⟩
      rw [disconnect_sockets,if_neg different]
      exact sound.pinentryKnown cookie request found
  below other known := by
    rw [Table.contains,disconnect_sockets] at known
    rw [disconnect_nextSocket]
    split at known
    · cases known
    · exact sound.below other known

theorem insertKeyring_sound (sound : Sound r) (known : r.sockets.contains request.socket = true) :
    Sound {r with pendingKeyring:=r.pendingKeyring.insert request.cookie request} where
  manager := sound.manager
  keyringIds cookie asked found := by
    rw [Table.find_insert] at found
    split at found
    · next same => cases found; exact same.symm
    · exact sound.keyringIds cookie asked found
  keyringKnown cookie asked found := by
    rw [Table.find_insert] at found
    split at found
    · cases found; exact known
    · exact sound.keyringKnown cookie asked found
  pinentryKnown := sound.pinentryKnown
  below := sound.below

theorem forgetKeyring_sound (sound : Sound r) (cookie : QString) : Sound (r.forgetKeyring cookie) where
  manager := sound.manager
  keyringIds other asked found := by
    rw [forgetKeyring,Table.find_remove] at found
    split at found
    · cases found
    · exact sound.keyringIds other asked found
  keyringKnown other asked found := by
    rw [forgetKeyring,Table.find_remove] at found
    split at found
    · cases found
    · exact sound.keyringKnown other asked found
  pinentryKnown := sound.pinentryKnown
  below := sound.below

theorem withManager_sound (sound : Sound r) (flows : PinentryManager.Sound m)
    (known : ∀ cookie request, m.pendingRequests.find cookie = some request →
      r.pinentryManager.pendingRequests.find cookie = some request ∨
        ∃ info, r.sockets.find request.socket = some info ∧ info.peerPid = request.peerPid) :
    Sound {r with pinentryManager:=m} where
  manager := flows
  keyringIds := sound.keyringIds
  keyringKnown := sound.keyringKnown
  pinentryKnown cookie request found := (known cookie request found).elim (sound.pinentryKnown cookie request) id
  below := sound.below

theorem forgetFlow_sound (sound : Sound r) (cookie : QString) : Sound (r.forgetFlow cookie) := by
  apply withManager_sound sound (PinentryManager.forgetFlow_sound sound.manager cookie)
  intro other request found
  rw [PinentryManager.forgetFlow_pending] at found
  split at found
  · cases found
  · exact .inl found

theorem act_sound (sound : Sound c.records) (acts : Core.Acts c action e) : Sound (c.records.act action) := by
  cases acts with
  | idle | submit | initiate | polkit => exact sound
  | connect => exact connect_sound sound _
  | socketState known later => exact setSocketState_sound sound _ _
  | disconnect known => exact disconnect_sound sound _
  | keyringRequest known peer named =>
    exact insertKeyring_sound sound ((Table.contains_iff _ _).mpr ⟨_,known⟩)
  | keyringConclude pending plain => exact forgetKeyring_sound sound _
  | @pinentryRequest info _ request actor known peer named =>
    unfold act
    simp only
    split
    · exact sound
    · next mine =>
      have enrolled := PinentryManager.enrol_sound sound.manager (Bool.eq_false_iff.mpr mine)
      apply withManager_sound sound (PinentryManager.reported_sound enrolled _)
      intro other asked found
      have found := (PinentryManager.enrol_pending _ request other).symm.trans found
      split at found
      · cases found; exact .inr ⟨info,known,peer⟩
      · exact .inl found
  | pinentryRespond free pending =>
    simp only [act]
    split
    · exact sound
    · apply withManager_sound sound (PinentryManager.awaitOutcome_sound sound.manager _ _)
      intro other asked found
      rw [PinentryManager.awaitOutcome_pending] at found
      split at found
      · cases found
      · exact .inl found
  | pinentryCancel => exact forgetFlow_sound sound _
  | @pinentryOutcome _ cookie outcome _ known =>
    cases outcome with
    | retry =>
      have cleaned := PinentryManager.cleanupAwaiting_sound sound.manager cookie
      refine withManager_sound sound (PinentryManager.reported_sound cleaned _) ?_
      intro other asked found
      rw [retry_pendingRequests] at found
      exact .inl found
    | success | cancelled | error => exact forgetFlow_sound sound _
  | timeout running =>
    have flows := (PinentryManager.expire_same sound.manager running).sound
      (PinentryManager.forgetFlow_sound sound.manager _)
    have expired := withManager_sound sound flows (fun other asked found => by
      rw [PinentryManager.forgetFlow_pending] at found
      split at found
      · cases found
      · exact .inl found)
    have manager : c.records.pinentryManager = c.pinentryManager := rfl
    simp only [act,manager,running]
    exact expired

end Records

namespace Daemon

theorem reached_records (path : daemon.Reached d) : Records.Sound d.core.records := by
  apply path.invariant (P := fun d => Records.Sound d.core.records)
  · exact ⟨PinentryManager.initial_sound,nofun,nofun,nofun,nofun⟩
  · intro d input _ sound allowed
    have acts := acts_step d input allowed
    rw [Core.acts_records acts]
    exact Records.act_sound sound acts

end Daemon

end BbAuth
