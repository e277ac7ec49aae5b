import BbAuth.Library.Ledger
import BbAuth.CoreHistory
import BbAuth.Bookkeeping

open Library Library.Ledger
namespace BbAuth

-- The requests of one kind that came from one socket under one id.
structure RequestKey where
  kind : RequestKind
  socket : Socket
  cookie : QString
  deriving DecidableEq, Repr

def Effect.asks : Effect → Option RequestKey
  | .requested kind socket _ cookie => some ⟨kind,socket,cookie⟩
  | _ => none

-- A request is only ever answered by a response of its kind and id.
def Effect.replies : Effect → Option RequestKey
  | .sent socket (.response kind cookie _) => some ⟨kind,socket,cookie⟩
  | _ => none

def Effect.besides (effect : Effect) : Prop := effect.asks = none ∧ effect.replies = none

theorem besides_emitted (event : SessionEvent) : Effect.besides (.emitted event) := ⟨rfl,rfl⟩

def replyCounts (key : RequestKey) : List Effect → List Nat
  | [] => []
  | effect :: rest =>
    if effect.asks = some key then 0 :: replyCounts key rest
    else if effect.replies = some key then Line.count (replyCounts key rest)
    else replyCounts key rest

theorem replyCounts_plain (key : RequestKey) (history : List Effect) (asks : effect.asks = none)
    (replies : effect.replies = none) : replyCounts key (effect :: history) = replyCounts key history := by
  simp [replyCounts,asks,replies]

theorem replyCounts_core (key : RequestKey) (d : Daemon) : replyCounts key d.core.history = replyCounts key d.trace := by
  refine unrouted_read _ (fun effect rest routine => ?_) (fun effect rest other same => ?_) d.trace
  · have plain : effect.asks = none ∧ effect.replies = none := by
      rcases routine_cases routine with ⟨socket,message,rfl,unanswered⟩ | ⟨_,rfl⟩ | rfl
      · cases message with
        | response => cases unanswered
        | _ => exact ⟨rfl,rfl⟩
      · exact ⟨rfl,rfl⟩
      · exact ⟨rfl,rfl⟩
    exact replyCounts_plain key rest plain.1 plain.2
  · simp only [replyCounts,same]

-- The key is of a request of that kind and id, whoever asked.
def RequestKey.concerns (key : RequestKey) (kind : RequestKind) (cookie : QString) : Prop :=
  key.kind = kind ∧ key.cookie = cookie

instance (key : RequestKey) (kind : RequestKind) (cookie : QString) : Decidable (key.concerns kind cookie) :=
  inferInstanceAs (Decidable (_ ∧ _))

namespace Records

-- Whose request of that kind and id is pending.
def pendingSocket (r : Records) (kind : RequestKind) (cookie : QString) : Option Socket :=
  match kind with
  | .keyring => (r.pendingKeyring.find cookie).map KeyringRequest.socket
  | .pinentry => (r.pinentryManager.pendingRequests.find cookie).map PinentryRequest.socket

def holds (r : Records) (key : RequestKey) : Bool := r.pendingSocket key.kind key.cookie = some key.socket

end Records

namespace Core

variable {c e : Core}

def line (c : Core) (key : RequestKey) : Line :=
  ⟨c.records.holds key,replyCounts key c.history,c.isConnected key.socket⟩

theorem counts_kept (key : RequestKey) (notes : Notes Effect.besides c e) :
    replyCounts key e.history = replyCounts key c.history :=
  Grown.read notes (replyCounts key) (fun _ rest plain => replyCounts_plain key rest plain.1 plain.2)

theorem counts_setSocketState (c : Core) (key : RequestKey) (socket : Socket) (state : LocalSocketState) :
    replyCounts key (c.setSocketState socket state).history = replyCounts key c.history := by
  unfold setSocketState
  split <;> rfl

theorem counts_requested (c : Core) (kind : RequestKind) (socket : Socket) (peerPid : Pid) (cookie : QString)
    (key : RequestKey) :
    replyCounts key (c.log (.requested kind socket peerPid cookie)).history =
      if key = ⟨kind,socket,cookie⟩ then 0 :: replyCounts key c.history else replyCounts key c.history := by
  simp [log,replyCounts,Effect.asks,Effect.replies,eq_comm]

theorem counts_answer (c : Core) (key : RequestKey) (socket : Socket) (kind : RequestKind) (cookie : QString)
    (reply : Answer) :
    replyCounts key (c.answer socket kind cookie reply).history =
      if key = ⟨kind,socket,cookie⟩ ∧ c.isConnected socket = true then Line.count (replyCounts key c.history)
      else replyCounts key c.history := by
  unfold answer
  by_cases heard : c.isConnected socket = true
  · rw [if_pos heard]
    by_cases same : key = ⟨kind,socket,cookie⟩
    · subst same
      simp [log,replyCounts,Effect.asks,Effect.replies,heard]
    · rw [if_neg (fun both => same both.1)]
      simp [log,replyCounts,Effect.asks,Effect.replies,Ne.symm same]
  · rw [if_neg heard,if_neg (fun both => heard both.2)]

end Core

namespace Records

theorem holds_changed {r t : Records} (now : Option Socket)
    (changed : ∀ other id, t.pendingSocket other id = if other = kind ∧ id = cookie then now else r.pendingSocket other id)
    (key : RequestKey) :
    t.holds key = if key.concerns kind cookie then decide (now = some key.socket) else r.holds key := by
  unfold holds
  rw [changed]
  by_cases concerned : key.concerns kind cookie
  · rw [if_pos concerned,if_pos ⟨concerned.1,concerned.2⟩]
  · rw [if_neg concerned,if_neg (fun same => concerned ⟨same.1,same.2⟩)]

theorem holds_insertKeyring (r : Records) (request : KeyringRequest) (key : RequestKey) :
    holds {r with pendingKeyring:=r.pendingKeyring.insert request.cookie request} key =
      if key.concerns .keyring request.cookie then decide (some request.socket = some key.socket) else r.holds key := by
  refine holds_changed _ ?_ key
  intro other id
  cases other with
  | keyring =>
    simp only [pendingSocket,Table.find_insert,true_and]
    split <;> rfl
  | pinentry => rfl

theorem holds_forgetKeyring (r : Records) (cookie : QString) (key : RequestKey) :
    (r.forgetKeyring cookie).holds key = if key.concerns .keyring cookie then false else r.holds key := by
  refine holds_changed none ?_ key
  intro other id
  cases other with
  | keyring =>
    simp only [pendingSocket,forgetKeyring,Table.find_remove,true_and]
    split <;> rfl
  | pinentry => rfl

theorem holds_withManager (r : Records) (m : PinentryManager) (now : Option PinentryRequest)
    (changed : ∀ id, m.pendingRequests.find id = if id = cookie then now else r.pinentryManager.pendingRequests.find id)
    (key : RequestKey) :
    holds {r with pinentryManager:=m} key =
      if key.concerns .pinentry cookie then decide (now.map PinentryRequest.socket = some key.socket)
      else r.holds key := by
  refine holds_changed _ ?_ key
  intro other id
  cases other with
  | keyring => rfl
  | pinentry =>
    simp only [pendingSocket,changed,true_and]
    split <;> rfl

theorem holds_forgetFlow (r : Records) (cookie : QString) (key : RequestKey) :
    (r.forgetFlow cookie).holds key = if key.concerns .pinentry cookie then false else r.holds key :=
  holds_withManager r _ none (PinentryManager.forgetFlow_pending r.pinentryManager cookie) key

theorem holds_same {r t : Records} (keyring : t.pendingKeyring = r.pendingKeyring)
    (pinentry : t.pinentryManager.pendingRequests = r.pinentryManager.pendingRequests) (key : RequestKey) :
    t.holds key = r.holds key := by
  obtain ⟨kind,socket,cookie⟩ := key
  cases kind with
  | keyring => simp [holds,pendingSocket,keyring]
  | pinentry => simp [holds,pendingSocket,pinentry]

theorem holds_disconnect (r : Records) (socket : Socket) (key : RequestKey) :
    (r.disconnect socket).holds key = if key.socket = socket then false else r.holds key := by
  -- What goes is what was pending with the socket, so a key of another keeps its place.
  have gone (asked : Option Socket) :
      decide ((if asked = some socket then none else asked) = some key.socket) =
        if key.socket = socket then false else decide (asked = some key.socket) := by
    by_cases mine : key.socket = socket
    · rw [if_pos mine,mine]
      split
      · rfl
      · next other => exact decide_eq_false other
    · rw [if_neg mine]
      split
      · next same => rw [same]; exact (decide_eq_false (fun equal => mine (Option.some.inj equal).symm)).symm
      · rfl
  obtain ⟨kind,asker,cookie⟩ := key
  cases kind with
  | keyring =>
    have asked := gone ((r.pendingKeyring.find cookie).map KeyringRequest.socket)
    refine Eq.trans ?_ asked
    unfold holds
    simp only [pendingSocket,disconnect_keyring]
    congr 2
    simp only [Option.map_eq_some_iff]
    split <;> rfl
  | pinentry =>
    have asked := gone ((r.pinentryManager.pendingRequests.find cookie).map PinentryRequest.socket)
    refine Eq.trans ?_ asked
    unfold holds
    simp only [pendingSocket,disconnect_pinentry]
    congr 2
    simp only [Option.map_eq_some_iff]
    split <;> rfl

end Records

namespace Core

variable {c m e : Core}

def asking (key : RequestKey) (kind : RequestKind) (cookie : QString) (socket : Socket) : Deed :=
  if key.concerns kind cookie then if key.socket = socket then .ask else .drop else .stay

def deed (c : Core) (action : Action) (key : RequestKey) : Deed :=
  match action with
  | .connect _ => if key.socket = c.nextSocket then .meet else .stay
  | .socketState socket _ => if key.socket = socket then .hangUp else .stay
  | .disconnect socket => if key.socket = socket then .leave else .stay
  | .keyringRequest request _ => asking key .keyring request.cookie request.socket
  | .keyringConclude cookie _ _ => if key.concerns .keyring cookie then .answer else .stay
  | .pinentryRequest request _ =>
    if PinentryManager.ownedByOther c.pinentryManager request.cookie request.peerPid then
      if key = ⟨.pinentry,request.socket,request.cookie⟩ then .refuse else .stay
    else asking key .pinentry request.cookie request.socket
  | .pinentryRespond cookie _ | .pinentryCancel cookie => if key.concerns .pinentry cookie then .answer else .stay
  | .pinentryOutcome cookie outcome _ => if key.concerns .pinentry cookie ∧ outcome ≠ .retry then .drop else .stay
  | .timeout timer =>
    if key.kind = .pinentry ∧ c.pinentryManager.timers.find timer = some key.cookie then .drop else .stay
  | .idle | .submit .. | .initiate _ | .polkit => .stay

theorem line_eq (c : Core) (key : RequestKey) {recorded : Bool} {replies : List Nat} {connected : Bool}
    (held : c.records.holds key = recorded) (counts : replyCounts key c.history = replies)
    (heard : c.isConnected key.socket = connected) : c.line key = ⟨recorded,replies,connected⟩ := by
  subst held counts heard
  rfl

def hears : Option LocalSocket → Bool
  | none => false
  | some info => decide (info.state = .connected)

theorem isConnected_hears (c : Core) (socket : Socket) : c.isConnected socket = hears (c.sockets.find socket) := by
  unfold isConnected
  cases c.sockets.find socket <;> rfl

theorem isConnected_same (same : e.sockets = c.sockets) (socket : Socket) : e.isConnected socket = c.isConnected socket := by
  unfold isConnected
  rw [same]

theorem line_asked (key : RequestKey) (kind : RequestKind) (cookie : QString) (socket : Socket)
    (held : e.records.holds key =
      if key.concerns kind cookie then decide (some socket = some key.socket) else c.records.holds key)
    (counts : replyCounts key e.history =
      if key = ⟨kind,socket,cookie⟩ then 0 :: replyCounts key c.history else replyCounts key c.history)
    (same : e.sockets = c.sockets) : e.line key = (c.line key).take (asking key kind cookie socket) := by
  rw [line_eq e key held counts (isConnected_same same _)]
  unfold asking
  by_cases concerned : key.concerns kind cookie
  · by_cases mine : key.socket = socket
    · have whole : key = ⟨kind,socket,cookie⟩ := by
        obtain ⟨_,_,_⟩ := key
        obtain ⟨rfl,rfl⟩ := concerned
        exact congrArg (RequestKey.mk _ · _) mine
      subst mine
      rw [if_pos concerned,if_pos concerned,if_pos rfl,if_pos whole,decide_eq_true rfl]
      rfl
    · have other : key ≠ ⟨kind,socket,cookie⟩ := fun whole => mine (congrArg RequestKey.socket whole)
      rw [if_pos concerned,if_pos concerned,if_neg mine,if_neg other]
      have parted : decide (some socket = some key.socket) = false :=
        decide_eq_false (fun equal => mine (Option.some.inj equal).symm)
      rw [parted]
      rfl
  · have other : key ≠ ⟨kind,socket,cookie⟩ := fun whole => concerned (whole ▸ ⟨rfl,rfl⟩)
    rw [if_neg concerned,if_neg concerned,if_neg other]
    rfl

theorem line_dropped (key : RequestKey) (kind : RequestKind) (cookie : QString)
    (held : e.records.holds key = if key.concerns kind cookie then false else c.records.holds key)
    (counts : replyCounts key e.history = replyCounts key c.history) (same : e.sockets = c.sockets) :
    e.line key = (c.line key).take (if key.concerns kind cookie then .drop else .stay) := by
  rw [line_eq e key held counts (isConnected_same same _)]
  split <;> rfl

-- An entry is taken off record, and then its socket is answered.
theorem line_answered (key : RequestKey) (kind : RequestKind) (cookie : QString) (socket : Socket) (reply : Answer)
    (pending : c.records.pendingSocket kind cookie = some socket)
    (held : m.records.holds key = if key.concerns kind cookie then false else c.records.holds key)
    (counts : replyCounts key m.history = replyCounts key c.history) (same : m.sockets = c.sockets) :
    (m.answer socket kind cookie reply).line key =
      (c.line key).take (if key.concerns kind cookie then .answer else .stay) := by
  have heard := isConnected_same same
  have sockets : (m.answer socket kind cookie reply).sockets = m.sockets :=
    congrArg Records.sockets (records_answer m socket kind cookie reply)
  have later := counts_answer m key socket kind cookie reply
  rw [counts,heard] at later
  rw [line_eq _ key ((congrArg (·.holds key) (records_answer m socket kind cookie reply)).trans held) later
    ((isConnected_same sockets _).trans (heard _))]
  by_cases concerned : key.concerns kind cookie
  · rw [if_pos concerned,if_pos concerned]
    have recorded : c.records.holds key = decide (some socket = some key.socket) := by
      unfold Records.holds
      rw [concerned.1,concerned.2,pending]
    by_cases mine : key.socket = socket
    · have whole : key = ⟨kind,socket,cookie⟩ := by
        obtain ⟨_,_,_⟩ := key
        obtain ⟨rfl,rfl⟩ := concerned
        exact congrArg (RequestKey.mk _ · _) mine
      have waits : (c.line key).recorded = true := recorded.trans (decide_eq_true (congrArg some mine.symm))
      subst whole
      simp only [Line.take,Line.answer,waits,if_true,true_and]
      rfl
    · have other : key ≠ ⟨kind,socket,cookie⟩ := fun whole => mine (congrArg RequestKey.socket whole)
      have idle : (c.line key).recorded = false :=
        recorded.trans (decide_eq_false (fun equal => mine (Option.some.inj equal).symm))
      rw [if_neg (fun both => other both.1)]
      simp only [Line.take,Line.answer,idle,Bool.false_eq_true,if_false]
      exact (line_eq c key idle rfl rfl).symm
  · have other : key ≠ ⟨kind,socket,cookie⟩ := fun whole => concerned (whole ▸ ⟨rfl,rfl⟩)
    rw [if_neg concerned,if_neg concerned,if_neg (fun both => other both.1)]
    rfl

theorem line_connect (c : Core) (peerPid : Pid) (key : RequestKey) :
    (c.connect peerPid).line key = (c.line key).take (c.deed (.connect peerPid) key) := by
  have heard : (c.connect peerPid).isConnected key.socket =
      if key.socket = c.nextSocket then true else c.isConnected key.socket := by
    simp only [isConnected_hears,connect,Table.find_insert]
    split <;> rfl
  rw [line_eq (c.connect peerPid) key rfl rfl heard]
  simp only [deed]
  split <;> rfl

theorem line_setSocketState (known : c.sockets.contains socket = true) (later : state ≠ .connected) (key : RequestKey) :
    (c.setSocketState socket state).line key = (c.line key).take (c.deed (.socketState socket state) key) := by
  obtain ⟨info,found⟩ := (Table.contains_iff _ _).mp known
  have moved : c.setSocketState socket state = {c with sockets:=c.sockets.insert socket {info with state}} := by
    unfold setSocketState
    rw [found]
  have heard : (c.setSocketState socket state).isConnected key.socket =
      if key.socket = socket then false else c.isConnected key.socket := by
    rw [moved]
    simp only [isConnected_hears,Table.find_insert]
    split
    · exact decide_eq_false later
    · rfl
  have held : (c.setSocketState socket state).records.holds key = c.records.holds key := by rw [moved]; rfl
  rw [line_eq _ key held (counts_setSocketState c key socket state) heard]
  simp only [deed]
  split <;> rfl

theorem line_disconnect (c : Core) (socket : Socket) (key : RequestKey) :
    (c.disconnect socket).line key = (c.line key).take (c.deed (.disconnect socket) key) := by
  have records := records_disconnect c socket
  have heard : (c.disconnect socket).isConnected key.socket =
      if key.socket = socket then false else c.isConnected key.socket := by
    have found : (c.disconnect socket).sockets.find key.socket =
        if key.socket = socket then none else c.sockets.find key.socket :=
      (congrArg (fun r : Records => r.sockets.find key.socket) records).trans (Records.disconnect_sockets _ _ _)
    rw [isConnected_hears,isConnected_hears,found]
    split <;> rfl
  have held : (c.disconnect socket).records.holds key = if key.socket = socket then false else c.records.holds key := by
    rw [records]
    exact Records.holds_disconnect _ _ _
  rw [line_eq _ key held (counts_kept key (notes_disconnect besides_emitted c socket)) heard]
  simp only [deed]
  split <;> rfl

theorem line_pinentryRequest (c : Core) (request : PinentryRequest) (actor : ActorInfo) (key : RequestKey) :
    (c.pinentryRequest request actor).line key = (c.line key).take (c.deed (.pinentryRequest request actor) key) := by
  have records := records_pinentryRequest c request actor
  have counts := (counts_kept key (notes_pinentryRequest besides_emitted c request actor)).trans
    (counts_requested c .pinentry request.socket request.peerPid request.cookie key)
  simp only [deed]
  split
  · next owned =>
    have kept : (c.pinentryRequest request actor).records = c.records := records.trans (if_pos owned)
    rw [line_eq _ key (congrArg (·.holds key) kept) counts (isConnected_same (congrArg Records.sockets kept) _)]
    split <;> rfl
  · next mine =>
    have enrolled := records.trans (if_neg mine)
    have changed : (c.pinentryRequest request actor).records.holds key =
        if key.concerns .pinentry request.cookie then decide (some request.socket = some key.socket)
        else c.records.holds key := by
      rw [enrolled]
      exact Records.holds_withManager c.records _ (some request) (PinentryManager.enrol_pending _ request) key
    have sockets : (c.pinentryRequest request actor).sockets = c.sockets := congrArg Records.sockets enrolled
    exact line_asked key .pinentry request.cookie request.socket changed counts sockets

theorem line_pinentryCancel (c : Core) (cookie : QString) (key : RequestKey) :
    (c.pinentryCancel cookie).line key = (c.line key).take (c.deed (.pinentryCancel cookie) key) := by
  have records := records_closeFlow c cookie .cancelled []
  have held : (c.closeFlow cookie .cancelled []).records.holds key =
      if key.concerns .pinentry cookie then false else c.records.holds key := by
    rw [records]
    exact Records.holds_forgetFlow _ _ _
  have counts := counts_kept key (notes_closeFlow besides_emitted c cookie .cancelled [])
  have sockets : (c.closeFlow cookie .cancelled []).sockets = c.sockets := congrArg Records.sockets records
  unfold pinentryCancel
  cases pending : c.pinentryManager.pendingRequests.find cookie with
  | none =>
    simp only
    rw [line_eq _ key held counts (isConnected_same sockets _)]
    simp only [deed]
    split
    · next concerned =>
      have absent : c.records.pendingSocket .pinentry cookie = none := congrArg (Option.map PinentryRequest.socket) pending
      have idle : (c.line key).recorded = false := by
        change decide (c.records.pendingSocket key.kind key.cookie = some key.socket) = false
        rw [concerned.1,concerned.2,absent]
        rfl
      simp only [Line.take,Line.answer,idle,Bool.false_eq_true,if_false]
      exact (line_eq c key idle rfl rfl).symm
    · rfl
  | some request =>
    have asked : c.records.pendingSocket .pinentry cookie = some request.socket :=
      congrArg (Option.map PinentryRequest.socket) pending
    exact line_answered key .pinentry cookie request.socket .cancelled asked held counts sockets

theorem line_keyringRequest (c : Core) (request : KeyringRequest) (actor : ActorInfo) (key : RequestKey) :
    (c.keyringRequest request actor).line key = (c.line key).take (c.deed (.keyringRequest request actor) key) := by
  have records : (c.keyringRequest request actor).records =
      {c.records with pendingKeyring:=c.records.pendingKeyring.insert request.cookie request} :=
    records_updateSession _ _ _
  have counts := (counts_kept key (notes_keyringRequest besides_emitted c request actor)).trans
    (counts_requested c .keyring request.socket request.peerPid request.cookie key)
  refine line_asked key .keyring request.cookie request.socket ?_ counts ?_
  · rw [records]
    exact Records.holds_insertKeyring _ _ _
  · exact congrArg Records.sockets records

theorem line_keyringConclude (pending : c.keyringManager.pendingRequests.find cookie = some request)
    (result : Result) (reply : Answer) (key : RequestKey) :
    (c.keyringConclude cookie result reply).line key =
      (c.line key).take (c.deed (.keyringConclude cookie result reply) key) := by
  let closed := (c.withKeyring (c.keyringManager.pendingRequests.remove cookie)).closeSession cookie result
  have records : closed.records = c.records.forgetKeyring cookie := records_closeSession _ _ _
  have concluded : c.keyringConclude cookie result reply = closed.answer request.socket .keyring cookie reply := by
    simp only [keyringConclude,pending]
    rfl
  rw [concluded]
  refine line_answered key .keyring cookie request.socket reply ?_ ?_ (counts_kept key (notes_closeSession besides_emitted _ _ _)) ?_
  · exact congrArg (Option.map KeyringRequest.socket) pending
  · rw [records]
    exact Records.holds_forgetKeyring _ _ _
  · exact congrArg Records.sockets records

theorem line_pinentryRespond (pending : c.pinentryManager.pendingRequests.find cookie = some request)
    (response : QString) (key : RequestKey) :
    (c.pinentryRespond cookie response).line key =
      (c.line key).take (c.deed (.pinentryRespond cookie response) key) := by
  simp only [pinentryRespond,pending]
  refine line_answered key .pinentry cookie request.socket _ ?_ ?_ rfl rfl
  · exact congrArg (Option.map PinentryRequest.socket) pending
  · exact Records.holds_withManager c.records _ none (PinentryManager.awaitOutcome_pending _ request cookie) key

theorem line_closeFlow (c : Core) (cookie : QString) (result : Result) (error : QString) (key : RequestKey) :
    (c.closeFlow cookie result error).line key =
      (c.line key).take (if key.concerns .pinentry cookie then .drop else .stay) := by
  have records := records_closeFlow c cookie result error
  refine line_dropped key .pinentry cookie ?_ (counts_kept key (notes_closeFlow besides_emitted c cookie result error)) (congrArg Records.sockets records)
  rw [records]
  exact Records.holds_forgetFlow _ _ _

theorem line_applyOutcome (c : Core) (cookie : QString) (outcome : PinentryManager.Outcome) (error : QString)
    (key : RequestKey) :
    (c.applyOutcome cookie outcome error).line key =
      (c.line key).take (c.deed (.pinentryOutcome cookie outcome error) key) := by
  cases outcome with
  | retry =>
    have records := records_applyOutcome c cookie .retry error
    have held : (c.applyOutcome cookie .retry error).records.holds key = c.records.holds key := by
      rw [records]
      refine Records.holds_same ?_ ?_ key
      · rfl
      · exact Records.retry_pendingRequests c.pinentryManager cookie
    have counts : replyCounts key (c.applyOutcome cookie .retry error).history = replyCounts key c.history :=
      counts_kept key (notes_applyOutcome besides_emitted c cookie .retry error)
    rw [line_eq _ key held counts (isConnected_same (congrArg Records.sockets records) _)]
    simp [deed,Line.take,line]
  | success | cancelled | error => exact (line_closeFlow c cookie _ _ key).trans (by simp [deed])

theorem line_timeout (running : c.pinentryManager.timers.find timer = some cookie) (key : RequestKey) :
    (c.timeout timer).line key = (c.line key).take (c.deed (.timeout timer) key) := by
  simp only [timeout,running]
  apply (line_closeFlow _ cookie _ _ key).trans
  simp only [deed,running,Option.some.injEq,RequestKey.concerns,eq_comm (a := cookie)]
  rfl

theorem line_moves (moves : Moves c e) (key : RequestKey) : e.line key = c.line key := by
  have records := records_moves moves
  have counts := counts_kept key (notes_moves besides_emitted (fun _ => ⟨rfl,rfl⟩) moves)
  exact line_eq e key (congrArg (·.holds key) records) counts
    (isConnected_same (congrArg Records.sockets records) _)

theorem line_createSession (c : Core) (key : RequestKey) (id : QString) (source : Source) (ctx : Context) :
    (c.createSession id source ctx).line key = c.line key :=
  line_eq _ key rfl (counts_kept key (notes_createSession besides_emitted c id source ctx)) rfl

theorem acts_line (acts : Acts c action e) (key : RequestKey) : e.line key = (c.line key).take (c.deed action key) := by
  cases acts with
  | idle => rfl
  | connect => exact line_connect c _ key
  | socketState known later => exact line_setSocketState known later key
  | disconnect known => exact line_disconnect c _ key
  | keyringRequest known peer named => exact line_keyringRequest c _ _ key
  | keyringConclude pending plain => exact line_keyringConclude pending _ _ key
  | pinentryRequest known peer named => exact line_pinentryRequest c _ _ key
  | pinentryRespond free pending => exact line_pinentryRespond pending _ key
  | pinentryCancel => exact line_pinentryCancel c _ key
  | pinentryOutcome known => exact line_applyOutcome c _ _ _ key
  | timeout running => exact line_timeout running key
  | @submit _ _ cookie response _ found source moves =>
    have logged : (c.log (.submitted cookie response)).line key = c.line key :=
      line_eq _ key rfl (replyCounts_plain key c.history rfl rfl) rfl
    exact (line_moves moves key).trans logged
  | initiate before same after =>
    exact (line_moves after key).trans ((line_createSession _ key _ .polkit _).trans (line_moves before key))
  | polkit moves => exact line_moves moves key

theorem asking_ask (asks : asking key kind cookie socket = .ask ∨ asking key kind cookie socket = .refuse) :
    key.socket = socket := by
  unfold asking at asks
  split at asks
  · split at asks
    · next mine => exact mine
    · rcases asks with asks | asks <;> cases asks
  · rcases asks with asks | asks <;> cases asks

def speaker : Action → Option Socket
  | .keyringRequest request _ => some request.socket
  | .pinentryRequest request _ => some request.socket
  | _ => none

theorem deed_speaker (asks : c.deed action key = .ask ∨ c.deed action key = .refuse) :
    speaker action = some key.socket := by
  cases action with
  | keyringRequest request actor => exact congrArg some (asking_ask asks).symm
  | pinentryRequest request actor =>
    simp only [deed] at asks
    split at asks
    · split at asks
      · next whole => exact congrArg some (congrArg RequestKey.socket whole).symm
      · rcases asks with asks | asks <;> cases asks
    · exact congrArg some (asking_ask asks).symm
  | connect | socketState | disconnect | keyringConclude | pinentryRespond | pinentryCancel | pinentryOutcome
  | timeout =>
    simp only [deed] at asks
    split at asks <;> rcases asks with asks | asks <;> cases asks
  | idle | submit | initiate | polkit => rcases asks with asks | asks <;> cases asks

theorem deed_known (acts : Acts c action e) (asks : c.deed action key = .ask ∨ c.deed action key = .refuse) :
    c.sockets.contains key.socket = true := by
  have spoken := deed_speaker asks
  cases acts with
  | keyringRequest known peer named | pinentryRequest known peer named =>
    rw [← Option.some.inj spoken]
    exact (Table.contains_iff _ _).mpr ⟨_,known⟩
  | idle | connect | socketState | disconnect | keyringConclude | pinentryRespond | pinentryCancel | pinentryOutcome
  | timeout | submit | initiate | polkit => cases spoken

end Core

theorem Records.act_nextSocket (r : Records) (action : Action) : r.nextSocket ≤ (r.act action).nextSocket := by
  cases action with
  | connect peerPid => exact Nat.le_succ _
  | socketState socket state => exact Nat.le_of_eq (setSocketState_other r socket state).2.2.symm
  | disconnect socket => exact Nat.le_of_eq (disconnect_nextSocket r socket).symm
  | pinentryRequest request actor => simp only [act]; split <;> exact Nat.le_refl _
  | pinentryRespond cookie response => simp only [act]; split <;> exact Nat.le_refl _
  | pinentryOutcome cookie outcome error => cases outcome <;> exact Nat.le_refl _
  | timeout timer => simp only [act]; split <;> exact Nat.le_refl _
  | idle | keyringRequest | keyringConclude | pinentryCancel | submit | initiate | polkit => exact Nat.le_refl _

namespace Core

variable {c e : Core}

-- What is on record was asked for last, and sockets that are yet to come asked
-- for nothing.
structure Kept (c : Core) : Prop where
  fit : ∀ key, (c.line key).Fit
  new : ∀ key, c.nextSocket ≤ key.socket → (c.line key).replies = []

theorem acts_kept (acts : Acts c action e) (sound : Records.Sound c.records) (kept : Kept c) : Kept e where
  fit key := by
    rw [acts_line acts]
    exact Line.take_fit (kept.fit key) _
  new key later := by
    have grown : c.nextSocket ≤ e.nextSocket := by
      have step := Records.act_nextSocket c.records action
      rw [← acts_records acts] at step
      exact step
    have early := Nat.le_trans grown later
    rw [acts_line acts]
    apply Line.take_nil (kept.new key early) _
    intro asks
    exact absurd (sound.below _ (deed_known acts asks)) (Nat.not_lt.mpr early)

-- A client that can hear waits for an answer under the id.
def waits (c : Core) (kind : RequestKind) (cookie : QString) : Bool :=
  (c.records.pendingSocket kind cookie).any c.isConnected

theorem waits_iff (c : Core) (kind : RequestKind) (cookie : QString) :
    (∃ key : RequestKey, key.concerns kind cookie ∧ (c.line key).recorded = true ∧ (c.line key).connected = true) ↔
      c.waits kind cookie = true := by
  constructor
  · rintro ⟨key,concerned,recorded,heard⟩
    have pending := of_decide_eq_true recorded
    rw [concerned.1,concerned.2] at pending
    unfold waits
    rw [pending]
    exact heard
  · intro waits
    obtain ⟨socket,pending,heard⟩ := (Option.any_eq_true _ _).mp waits
    exact ⟨⟨kind,socket,cookie⟩,⟨rfl,rfl⟩,decide_eq_true pending,heard⟩

-- A client that can hear is passed over: its request makes way for another, is
-- refused, or ends with its flow.
def forsakes (c : Core) : Action → Prop
  | .keyringRequest request _ => c.waits .keyring request.cookie = true
  | .pinentryRequest request _ =>
    if PinentryManager.ownedByOther c.pinentryManager request.cookie request.peerPid then
      c.isConnected request.socket = true
    else c.waits .pinentry request.cookie = true
  | .pinentryOutcome cookie outcome _ => outcome ≠ .retry ∧ c.waits .pinentry cookie = true
  | _ => False

theorem loses_dropping {p : Prop} [Decidable p] (l : Line) :
    l.loses (if p then .drop else .stay) ↔ p ∧ l.recorded = true ∧ l.connected = true := by
  by_cases dropped : p
  · rw [if_pos dropped]
    exact (and_iff_right dropped).symm
  · rw [if_neg dropped]
    exact ⟨nofun,fun both => dropped both.1⟩

theorem loses_asking (l : Line) (key : RequestKey) (kind : RequestKind) (cookie : QString) (socket : Socket) :
    l.loses (asking key kind cookie socket) ↔ key.concerns kind cookie ∧ l.recorded = true ∧ l.connected = true := by
  rw [← loses_dropping]
  unfold asking
  split
  · split <;> exact Iff.rfl
  · exact Iff.rfl

theorem loses_iff (sound : Records.Sound c.records) (action : Action) :
    (∃ key, (c.line key).loses (c.deed action key)) ↔ c.forsakes action := by
  cases action with
  | keyringRequest request actor =>
    simp only [deed,loses_asking]
    exact waits_iff c .keyring request.cookie
  | pinentryRequest request actor =>
    simp only [deed,forsakes]
    by_cases owned : PinentryManager.ownedByOther c.pinentryManager request.cookie request.peerPid = true
    · simp only [owned,if_true]
      constructor
      · rintro ⟨key,lost⟩
        split at lost
        · next whole => subst whole; exact lost
        · exact lost.elim
      · intro heard
        exact ⟨⟨.pinentry,request.socket,request.cookie⟩,by rw [if_pos rfl]; exact heard⟩
    · simp only [owned,if_false,loses_asking,Bool.false_eq_true]
      exact waits_iff c .pinentry request.cookie
  | pinentryOutcome cookie outcome error =>
    simp only [deed,forsakes,loses_dropping,← waits_iff]
    constructor
    · rintro ⟨key,⟨concerned,final⟩,rest⟩; exact ⟨final,key,concerned,rest⟩
    · rintro ⟨final,key,concerned,rest⟩; exact ⟨key,⟨concerned,final⟩,rest⟩
  | timeout timer =>
    simp only [deed,loses_dropping]
    refine ⟨?_,False.elim⟩
    rintro ⟨key,⟨kind,running⟩,recorded,_⟩
    -- A flow with a running timer awaits its outcome, so it is not pending.
    obtain ⟨awaiting,held,_⟩ := sound.manager.meant timer key.cookie running
    have pending := of_decide_eq_true recorded
    rw [kind] at pending
    obtain ⟨request,asked,_⟩ := Option.map_eq_some_iff.mp pending
    cases (sound.manager.apart key.cookie request asked).symm.trans held
  | connect | socketState | disconnect | keyringConclude | pinentryRespond | pinentryCancel =>
    refine ⟨?_,False.elim⟩
    rintro ⟨key,lost⟩
    simp only [deed] at lost
    split at lost <;> exact lost
  | idle | submit | initiate | polkit =>
    refine ⟨?_,False.elim⟩
    rintro ⟨_,lost⟩
    exact lost

theorem acts_accounted (acts : Acts c action e) (sound : Records.Sound c.records) (kept : Kept c)
    (accounted : ∀ key, (c.line key).Accounted) : (∀ key, (e.line key).Accounted) ↔ ¬c.forsakes action := by
  have each (key : RequestKey) : (e.line key).Accounted ↔ ¬(c.line key).loses (c.deed action key) := by
    rw [acts_line acts]
    refine Line.take_accounted (kept.fit key) (accounted key) _ (fun met => kept.new key ?_)
    -- Only the socket that the connect makes is met.
    cases action with
    | connect peerPid =>
      simp only [deed] at met
      split at met
      · next same => exact Nat.le_of_eq same.symm
      · cases met
    | keyringRequest request actor =>
      simp only [deed,asking] at met
      repeat' split at met
      all_goals cases met
    | pinentryRequest request actor =>
      simp only [deed,asking] at met
      repeat' split at met
      all_goals cases met
    | socketState | disconnect | keyringConclude | pinentryRespond | pinentryCancel | pinentryOutcome | timeout =>
      simp only [deed] at met
      split at met <;> cases met
    | idle | submit | initiate | polkit => cases met
  rw [← loses_iff sound]
  simp only [each,not_exists]

end Core

namespace Daemon

-- Whose request of that kind and id is recorded as pending.
def pendingSocket (d : Daemon) (kind : RequestKind) (cookie : QString) : Option Socket :=
  match kind with
  | .keyring => (d.keyringManager.pendingRequests.find cookie).map KeyringRequest.socket
  | .pinentry => (d.pinentryManager.pendingRequests.find cookie).map PinentryRequest.socket

def line (d : Daemon) (key : RequestKey) : Line :=
  ⟨d.pendingSocket key.kind key.cookie = some key.socket,replyCounts key d.trace,d.isConnected key.socket⟩

-- Every request so far is pending, was replied to once, or its client is gone.
def Accountable (d : Daemon) : Prop := ∀ key, (d.line key).Accounted

def waits (d : Daemon) (kind : RequestKind) (cookie : QString) : Bool :=
  (d.pendingSocket kind cookie).any d.isConnected

def forsakes (d : Daemon) (input : Input) : Prop :=
  match d.action input with
  | .keyringRequest request _ => d.waits .keyring request.cookie = true
  | .pinentryRequest request _ =>
    if PinentryManager.ownedByOther d.pinentryManager request.cookie request.peerPid then
      d.isConnected request.socket = true
    else d.waits .pinentry request.cookie = true
  | .pinentryOutcome cookie outcome _ => outcome ≠ .retry ∧ d.waits .pinentry cookie = true
  | _ => False

theorem pendingSocket_core (d : Daemon) (kind : RequestKind) (cookie : QString) :
    d.core.records.pendingSocket kind cookie = d.pendingSocket kind cookie := by cases kind <;> rfl

theorem line_core (d : Daemon) (key : RequestKey) : d.core.line key = d.line key := by
  refine Core.line_eq d.core key ?_ (replyCounts_core key d) rfl
  unfold Records.holds
  rw [pendingSocket_core]

theorem forsakes_core (d : Daemon) (input : Input) : d.core.forsakes (d.action input) ↔ d.forsakes input := by
  have waits (kind : RequestKind) (cookie : QString) : d.core.waits kind cookie = d.waits kind cookie := by
    unfold Core.waits Daemon.waits
    rw [pendingSocket_core]
    rfl
  unfold forsakes Core.forsakes
  cases d.action input with
  | keyringRequest | pinentryOutcome => simp only [waits]
  | pinentryRequest => simp only [waits]; exact Iff.rfl
  | idle | connect | socketState | disconnect | keyringConclude | pinentryRespond | pinentryCancel | timeout
  | submit | initiate | polkit => exact Iff.rfl

theorem reached_kept (path : daemon.Reached d) : Core.Kept d.core := by
  refine path.invariant (P := fun d => Core.Kept d.core) ⟨?_,fun _ _ => rfl⟩ ?_
  · intro key recorded
    obtain ⟨kind,socket,cookie⟩ := key
    cases kind <;> cases recorded
  · intro d input prior kept allowed
    exact Core.acts_kept (acts_step d input allowed) (reached_records prior) kept

theorem step_accountable (path : daemon.Reached d) (accountable : d.Accountable) (allowed : daemon.enabled d input) :
    (daemon.step d input).Accountable ↔ ¬d.forsakes input := by
  have acts := acts_step d input allowed
  have accounted : ∀ key, (d.core.line key).Accounted := fun key => line_core d key ▸ accountable key
  have later := Core.acts_accounted acts (reached_records path) (reached_kept path) accounted
  rw [← forsakes_core,← later]
  simp only [line_core]
  exact Iff.rfl

-- Every requester of a run is answered exactly when no client that can hear is
-- passed over for another request, refused for its pid, or ended by a result.
theorem requesters_answered_iff (inputs : List Input) (admitted : daemon.Admits inputs) :
    daemon.Always Accountable inputs ↔ daemon.Every (fun d input => ¬d.forsakes input) inputs :=
  Machine.always_iff (fun _ _ path accountable allowed => step_accountable path accountable allowed)
    (fun _ => trivial) admitted

instance (d : Daemon) (input : Input) : Decidable (d.forsakes input) := by
  unfold forsakes
  exact match d.action input with
  | .keyringRequest .. => inferInstanceAs (Decidable (_ = true))
  | .pinentryRequest request _ =>
    inferInstanceAs (Decidable (if PinentryManager.ownedByOther d.pinentryManager request.cookie request.peerPid then
      d.isConnected request.socket = true else d.waits .pinentry request.cookie = true))
  | .pinentryOutcome .. => inferInstanceAs (Decidable (_ ∧ _))
  | .idle | .connect .. | .socketState .. | .disconnect .. | .keyringConclude .. | .pinentryRespond ..
  | .pinentryCancel .. | .timeout .. | .submit .. | .initiate .. | .polkit => isFalse id

-- One client is answered, the other takes its request back by hanging up.
def answeredOrGone : List Input :=
  [.quiet (.connected 7),
   .quiet (.connected 8),
   .say 0 "pinentry_request" [("cookie","p"),("prompt","PIN")],
   .say 1 "keyring_request" [("cookie","k"),("title","Unlock")],
   .say 0 "session.respond" [("id","p"),("response","1234")],
   .quiet (.disconnected 1)]

theorem answeredOrGone_accountable : daemon.Always Accountable answeredOrGone :=
  (requesters_answered_iff answeredOrGone (by decide +kernel)).mpr (by decide +kernel)

-- A second client asks under the id of the first, and is refused without a word.
def refusedInSilence : List Input :=
  [.quiet (.connected 7),
   .quiet (.connected 8),
   .say 0 "pinentry_request" [("cookie","p"),("prompt","PIN")],
   .say 1 "pinentry_request" [("cookie","p"),("prompt","PIN")]]

theorem refusedInSilence_unaccounted :
    daemon.Admits refusedInSilence ∧ ¬(daemon.run refusedInSilence).Accountable ∧
    (daemon.run refusedInSilence).line ⟨.pinentry,1,text "p"⟩ = ⟨false,[0],true⟩ := by
  have lost : (daemon.run refusedInSilence).line ⟨.pinentry,1,text "p"⟩ = ⟨false,[0],true⟩ := by decide +kernel
  refine ⟨by decide +kernel,?_,lost⟩
  intro accountable
  have accounted := accountable ⟨.pinentry,1,text "p"⟩
  rw [lost] at accounted
  exact nomatch accounted.1

end Daemon

end BbAuth
