import BbAuth.CoreHistory
import BbAuth.PinentryOutcome

open Library
namespace BbAuth

inductive Recipient where
  | socket (socket : Socket)
  | submitPassword (cookie : QString)
  deriving DecidableEq, Repr

def Effect.disclosure : Effect → Option (Recipient × QString)
  | .sent socket (.response _ _ (.ok password)) => some (.socket socket,password)
  | .submitted cookie pass => some (.submitPassword cookie,pass)
  | _ => none

-- Who was handed which text so far, the latest first.
def disclosures (history : List Effect) : List (Recipient × QString) := history.filterMap Effect.disclosure

theorem disclosures_plain (history : List Effect) (plain : effect.disclosure = none) :
    disclosures (effect :: history) = disclosures history := by
  simp [disclosures,plain]

theorem disclosures_core (d : Daemon) : disclosures d.core.history = disclosures d.trace := by
  refine unrouted_filterMap _ (fun effect routine => ?_) d.trace
  rcases routine_cases routine with ⟨socket,message,rfl,unanswered⟩ | ⟨_,rfl⟩ | rfl
  · cases message with
    | response => cases unanswered
    | _ => rfl
  · rfl
  · rfl

namespace Core

variable {id : QString} {c e : Core}

def disclosed (c : Core) : List (Recipient × QString) := disclosures c.history

theorem disclosed_kept (notes : Notes (fun effect => effect.disclosure = none) c e) : e.disclosed = c.disclosed :=
  Grown.filterMap notes Effect.disclosure (fun _ plain => plain)

theorem disclosed_answer (c : Core) (socket : Socket) (kind : RequestKind) (cookie password : QString) :
    (c.answer socket kind cookie (.ok password)).disclosed =
      (if c.isConnected socket then [(.socket socket,password)] else []) ++ c.disclosed := by
  unfold answer
  split <;> rfl

theorem disclosed_confirm (c : Core) (socket : Socket) (kind : RequestKind) (cookie : QString) :
    (c.answer socket kind cookie .confirmed).disclosed = c.disclosed := by
  unfold answer
  split
  · exact disclosures_plain _ rfl
  · rfl

theorem disclosed_keyringConclude (c : Core) (cookie response : QString)
    (pending : c.keyringManager.pendingRequests.find cookie = some request) :
    (c.keyringConclude cookie .success (.ok response)).disclosed =
      (if c.isConnected request.socket then [(.socket request.socket,response)] else []) ++ c.disclosed := by
  have sockets : ∀ pending result, ((c.withKeyring pending).closeSession cookie result).isConnected request.socket =
      c.isConnected request.socket := by
    intro pending result
    unfold isConnected
    rw [show ((c.withKeyring pending).closeSession cookie result).sockets = c.sockets from
      congrArg Records.sockets (records_closeSession (c.withKeyring pending) cookie result)]
  simp only [keyringConclude,pending]
  rw [disclosed_answer,sockets,disclosed_kept (notes_closeSession (fun _ => rfl) _ _ _)]
  rfl

theorem disclosed_pinentryRespond (c : Core) (cookie response : QString)
    (pending : c.pinentryManager.pendingRequests.find cookie = some request) :
    (c.pinentryRespond cookie response).disclosed =
      (if c.isConnected request.socket ∧ request.confirmOnly = false then [(.socket request.socket,response)] else []) ++
        c.disclosed := by
  simp only [pinentryRespond,pending]
  cases confirm : request.confirmOnly with
  | true =>
    simp only [if_true,reduceCtorEq,and_false,if_false,List.nil_append]
    exact disclosed_confirm _ _ _ _
  | false =>
    simp only [Bool.false_eq_true,if_false,and_true]
    exact disclosed_answer _ _ _ _ _

theorem acts_opening (acts : Acts c action e) (id : QString) :
    (opening id e.history = opening id c.history ∧ ∀ source, c.opens action ≠ some (id,source)) ∨
    ∃ source request, c.opens action = some (id,source) ∧ opening id e.history = some ⟨source,request⟩ ∧
      ∀ requester, action.requester = some requester → request = some requester := by
  cases opens : c.opens action with
  | none => exact .inl ⟨tends_opening (acts_tends acts opens) id,nofun⟩
  | some target =>
    obtain ⟨other,source⟩ := target
    obtain ⟨m,announces⟩ := acts_opens acts opens
    obtain ⟨ctx,after⟩ := announces.after
    have created := (tends_opening after id).trans (opening_createSession m other id source ctx)
    by_cases same : id = other
    · subst other
      rw [if_pos rfl] at created
      exact .inr ⟨source,_,rfl,created,announces.request⟩
    · rw [if_neg same] at created
      refine .inl ⟨created.trans (tends_opening announces.before id),?_⟩
      intro source' equal
      cases equal
      exact same rfl

theorem opens_keyring (opens : c.opens action = some (id,.keyring)) :
    ∃ request actor, action = .keyringRequest request actor ∧ request.cookie = id := by
  cases action with
  | keyringRequest request actor => cases opens; exact ⟨request,actor,rfl,rfl⟩
  | pinentryRequest request actor =>
    unfold Core.opens at opens
    simp only at opens
    split at opens
    · cases opens
    · split at opens <;> cases opens
  | initiate => cases opens
  | idle | connect | socketState | disconnect | keyringConclude | pinentryRespond | pinentryCancel
  | pinentryOutcome | timeout | submit | polkit => cases opens

-- A pending keyring request and the keyring session shown under its id come from
-- one socket, the owner of a flow and the pinentry session shown from one peer.
structure Facing (c : Core) : Prop where
  keyring : ∀ cookie request, c.keyringManager.pendingRequests.find cookie = some request →
    ∀ shown, opening cookie c.history = some ⟨.keyring,some shown⟩ → shown.socket = request.socket
  pinentry : ∀ cookie owner, (c.flow cookie).owner = some owner →
    ∀ shown, opening cookie c.history = some ⟨.pinentry,some shown⟩ → shown.peerPid = owner

theorem acts_facing_keyring (acts : Acts c action e) (facing : Facing c)
    (pending : e.keyringManager.pendingRequests.find id = some request)
    (opened : opening id e.history = some ⟨.keyring,some shown⟩) : shown.socket = request.socket := by
  have records := acts_records acts
  rw [show e.keyringManager.pendingRequests = (c.records.act action).pendingKeyring from
    congrArg Records.pendingKeyring records] at pending
  rcases acts_opening acts id with ⟨same,unopened⟩ | ⟨source,requester,opens,created,asks⟩
  · rcases Records.act_keyring c.records action id pending with ⟨before,_⟩ | ⟨actor,asked,cookie⟩
    · exact facing.keyring id request before shown (same.symm.trans opened)
    · subst asked cookie
      exact absurd rfl (unopened .keyring)
  · cases created.symm.trans opened
    obtain ⟨asked,actor,same,cookie⟩ := opens_keyring opens
    subst same cookie
    cases asks _ rfl
    simp only [Records.act,Table.find_insert_self] at pending
    cases pending
    rfl

theorem acts_facing_pinentry (acts : Acts c action e) (announced : Announced c) (owned : Owned c) (facing : Facing c)
    (held : (e.flow id).owner = some owner) (opened : opening id e.history = some ⟨.pinentry,some shown⟩) :
    shown.peerPid = owner := by
  rcases acts_opening acts id with ⟨same,unopened⟩ | ⟨source,requester,opens,created,asks⟩
  · rw [flow_records (acts_records acts) id] at held
    have before := same.symm.trans opened
    rcases Records.act_owner c.records action id held with kept | ⟨request,actor,asked,cookie,pid,mine⟩
    · exact facing.pinentry id owner kept shown before
    · subst asked cookie
      -- The request joined a session, which is the pinentry session shown.
      cases open_ : c.source request.cookie with
      | none =>
        have missing : c.sessionStore.find request.cookie = none := Option.map_eq_none_iff.mp open_
        have opens : c.opens (.pinentryRequest request actor) = some (request.cookie,.pinentry) := by
          have mine' : PinentryManager.ownedByOther c.pinentryManager request.cookie request.peerPid = false := mine
          simp [Core.opens,mine',missing]
        exact absurd opens (unopened .pinentry)
      | some kind =>
        have current := announced.current request.cookie kind open_
        rw [before] at current
        cases current
        obtain ⟨other,socket,owner',first⟩ := owned request.cookie open_
        cases first.symm.trans before
        rw [pid]
        exact PinentryManager.ownedByOther_owner mine owner'
  · cases created.symm.trans opened
    obtain ⟨request,actor,asked,cookie,owner'⟩ := opens_pinentry acts opens
    subst asked cookie
    cases asks _ rfl
    cases owner'.symm.trans held
    rfl

end Core

namespace Daemon

variable {d : Daemon} {input : Input}

theorem reached_facing (path : daemon.Reached d) : Core.Facing d.core := by
  apply path.invariant (P := fun d => Core.Facing d.core)
  · exact ⟨fun _ _ found => (by cases found),fun _ _ found => (by cases found)⟩
  · intro d input prior facing allowed
    have acts := acts_step d input allowed
    refine ⟨?_,?_⟩
    · intro cookie request pending shown opened
      exact Core.acts_facing_keyring acts facing pending opened
    · intro cookie owner held shown opened
      exact Core.acts_facing_pinentry acts (reached_announced prior) (reached_owned prior) facing held opened

-- The socket belongs to the client whose request the user was last shown under
-- the id: the same socket for a keyring prompt, the same peer for a pinentry one.
def ShownFor (d : Daemon) (id : QString) (socket : Socket) : Prop :=
  match opening id d.trace with
  | some ⟨.keyring,some shown⟩ => shown.socket = socket
  | some ⟨.pinentry,some shown⟩ => shown.peerPid = d.getPeerPid socket
  | _ => False

def shownSource (d : Daemon) (id : QString) : Option Source := (opening id d.trace).map Opening.source

def Entitled (d : Daemon) (id : QString) : Recipient → Prop
  | .submitPassword cookie => cookie = id ∧ d.shownSource id = some .polkit
  | .socket socket => d.ShownFor id socket

def respondId (msg : QJsonObject) : QString := (msg.value (text "id")).toString
def respondText (msg : QJsonObject) : QString := (msg.value (text "response")).toString

-- A response hands its text only to whom the prompt shown under its id is for.
def Discreet (d : Daemon) (input : Input) : Prop :=
  ∀ sender msg, input.kind = .respond sender msg →
    ∃ new, disclosures (daemon.step d input).trace = new ++ disclosures d.trace ∧
      ∀ disclosed ∈ new, disclosed.2 = respondText msg ∧ d.Entitled (respondId msg) disclosed.1

-- The request that a response finds first under its id has a connection, and
-- its client is not the one whose prompt was last shown.
def strays (d : Daemon) (input : Input) : Prop :=
  match d.action input with
  | .keyringConclude cookie _ (.ok _) =>
    match d.keyringManager.pendingRequests.find cookie with
    | none => False
    | some request => d.isConnected request.socket = true ∧ ¬d.ShownFor cookie request.socket
  | .pinentryRespond cookie _ =>
    match d.pinentryManager.pendingRequests.find cookie with
    | none => False
    | some request =>
      (d.isConnected request.socket = true ∧ request.confirmOnly = false) ∧ ¬d.ShownFor cookie request.socket
  | _ => False

-- The request that a response finds first is not of the source last shown.
def mixes (d : Daemon) (input : Input) : Prop :=
  match d.action input with
  | .keyringConclude cookie _ (.ok _) => d.shownSource cookie ≠ some .keyring
  | .pinentryRespond cookie _ => d.shownSource cookie ≠ some .pinentry
  | _ => False

theorem respondAction_cases (d : Daemon) (sender : Socket) (msg : QJsonObject) :
    d.respondAction sender msg = .idle ∨
    d.respondAction sender msg = .keyringConclude (respondId msg) .success (.ok (respondText msg)) ∨
    d.respondAction sender msg = .pinentryRespond (respondId msg) (respondText msg) ∨
    d.respondAction sender msg = .submit (respondId msg) (respondText msg) := by
  unfold respondAction respondId respondText
  simp only
  repeat' split
  all_goals simp

theorem action_respond (d : Daemon) (input : Input) (kind : input.kind = .respond sender msg) :
    d.action input = d.respondAction sender msg := by
  unfold action
  rw [kind]

def delivers : Action → Prop
  | .keyringConclude _ _ (.ok _) | .pinentryRespond .. => True
  | _ => False

theorem action_delivers (handed : delivers (d.action input)) : ∃ sender msg, input.kind = .respond sender msg := by
  unfold action at handed
  cases kind : input.kind with
  | respond sender msg => exact ⟨sender,msg,rfl⟩
  | cancel sender msg =>
    rw [kind] at handed
    simp only [cancelAction] at handed
    repeat' split at handed
    all_goals exact handed.elim
  | pinentryResult sender msg =>
    rw [kind] at handed
    rcases resultAction_idle_or d sender msg with idle | ⟨outcome,_,taken⟩
    · simp only [idle] at handed; exact handed.elim
    · simp only [taken] at handed; exact handed.elim
  | initiateAuthentication _ _ _ _ cookie identities =>
    rw [kind] at handed
    simp only at handed
    split at handed <;> exact handed.elim
  | connected | socketState | disconnected | keyringRequest | pinentryRequest | routing | polkitSignal
  | cancelAuthentication | timeout => rw [kind] at handed; exact handed.elim

theorem step_disclosed (d : Daemon) (input : Input) :
    disclosures (daemon.step d input).trace = (daemon.step d input).core.disclosed := (disclosures_core _).symm

theorem keyring_discloses (allowed : daemon.enabled d input)
    (action : d.action input = .keyringConclude cookie .success (.ok response)) :
    ∃ request, d.keyringManager.pendingRequests.find cookie = some request ∧
      disclosures (daemon.step d input).trace =
        (if d.isConnected request.socket then [(.socket request.socket,response)] else []) ++ disclosures d.trace := by
  have acts := acts_step d input allowed
  rw [action] at acts
  rw [step_disclosed,← disclosures_core d]
  generalize (daemon.step d input).core = e at acts ⊢
  cases acts with
  | keyringConclude pending plain => exact ⟨_,pending,Core.disclosed_keyringConclude d.core cookie response pending⟩

theorem pinentry_discloses (allowed : daemon.enabled d input)
    (action : d.action input = .pinentryRespond cookie response) :
    ∃ request, d.pinentryManager.pendingRequests.find cookie = some request ∧
      disclosures (daemon.step d input).trace =
        (if d.isConnected request.socket ∧ request.confirmOnly = false then [(.socket request.socket,response)] else []) ++
          disclosures d.trace := by
  have acts := acts_step d input allowed
  rw [action] at acts
  rw [step_disclosed,← disclosures_core d]
  generalize (daemon.step d input).core = e at acts ⊢
  cases acts with
  | pinentryRespond free pending => exact ⟨_,pending,Core.disclosed_pinentryRespond d.core cookie response pending⟩

theorem submit_discloses (path : daemon.Reached d) (allowed : daemon.enabled d input)
    (action : d.action input = .submit cookie response) :
    d.shownSource cookie = some .polkit ∧
      disclosures (daemon.step d input).trace = (.submitPassword cookie,response) :: disclosures d.trace := by
  have acts := acts_step d input allowed
  have announced := reached_announced path
  rw [action] at acts
  rw [step_disclosed,← disclosures_core d,shownSource,← opening_core]
  generalize (daemon.step d input).core = e at acts ⊢
  cases acts with
  | submit found source moves =>
    have open_ := source_getSession d found
    rw [source] at open_
    exact ⟨announced.current cookie .polkit open_,(Core.disclosed_kept (Core.notes_moves (fun _ => rfl) (fun _ => rfl) moves)).trans rfl⟩

-- A response that hands its text to one recipient at most is discreet exactly
-- when that recipient may have it.
theorem discreet_one {handed : Prop} [Decidable handed] {recipient : Recipient}
    (kind : input.kind = .respond sender msg)
    (disclosed : disclosures (daemon.step d input).trace =
      (if handed then [(recipient,respondText msg)] else []) ++ disclosures d.trace) :
    d.Discreet input ↔ (handed → d.Entitled (respondId msg) recipient) := by
  constructor
  · intro discreet given
    obtain ⟨new,same,each⟩ := discreet sender msg kind
    rw [disclosed,if_pos given] at same
    have only := List.append_cancel_right same
    exact (each (recipient,respondText msg) (only ▸ List.mem_singleton.mpr rfl)).2
  · intro entitled other fields same
    cases kind.symm.trans same
    refine ⟨_,disclosed,?_⟩
    intro one listed
    by_cases given : handed
    · rw [if_pos given] at listed
      cases List.mem_singleton.mp listed
      exact ⟨rfl,entitled given⟩
    · rw [if_neg given] at listed
      cases listed

theorem discreet_iff (path : daemon.Reached d) (allowed : daemon.enabled d input) :
    d.Discreet input ↔ ¬d.strays input := by
  by_cases respond : ∃ sender msg, input.kind = .respond sender msg
  · obtain ⟨sender,msg,kind⟩ := respond
    unfold strays
    rcases respondAction_cases d sender msg with action | action | action | action <;>
      have action := (action_respond d input kind).trans action
    · have core := acts_step d input allowed
      rw [action] at core
      have unchanged : (daemon.step d input).core = d.core := by
        generalize (daemon.step d input).core = e at core ⊢
        cases core
        rfl
      have disclosed : disclosures (daemon.step d input).trace =
          (if False then [(Recipient.socket 0,respondText msg)] else []) ++ disclosures d.trace := by
        rw [step_disclosed,unchanged,if_neg id]
        exact disclosures_core d
      rw [discreet_one kind disclosed,action]
      simp
    · obtain ⟨request,pending,disclosed⟩ := keyring_discloses allowed action
      rw [discreet_one kind disclosed,action]
      simp [pending,Entitled]
    · obtain ⟨request,pending,disclosed⟩ := pinentry_discloses allowed action
      rw [discreet_one kind disclosed,action]
      simp [pending,Entitled]
    · obtain ⟨shown,disclosed⟩ := submit_discloses path allowed action
      have handed : disclosures (daemon.step d input).trace =
          (if True then [(Recipient.submitPassword (respondId msg),respondText msg)] else []) ++ disclosures d.trace := by
        rw [if_pos trivial]
        exact disclosed
      rw [discreet_one kind handed,action]
      simp [Entitled,shown]
  · have quiet : ¬d.strays input := by
      intro strays
      refine respond (action_delivers (d := d) ?_)
      unfold Daemon.strays at strays
      split at strays
      · next action => rw [action]; trivial
      · next action => rw [action]; trivial
      · exact strays.elim
    exact ⟨fun _ => quiet,fun _ sender msg kind => (respond ⟨sender,msg,kind⟩).elim⟩

theorem shown_request (path : daemon.Reached d) (same : d.shownSource cookie = some source) (other : source ≠ .polkit) :
    ∃ requester, opening cookie d.trace = some ⟨source,some requester⟩ := by
  obtain ⟨⟨kind,request⟩,opened,rfl⟩ := Option.map_eq_some_iff.mp same
  have made := (reached_announced path).made cookie _ ((opening_core cookie d).trans opened)
  cases kind with
  | polkit => exact absurd rfl other
  | keyring =>
    obtain ⟨socket,peerPid,rfl⟩ := made
    exact ⟨_,opened⟩
  | pinentry =>
    obtain ⟨socket,peerPid,rfl⟩ := made
    exact ⟨_,opened⟩

theorem stray_mixes (path : daemon.Reached d) (strays : d.strays input) : d.mixes input := by
  have facing := reached_facing path
  have sound := reached_records path
  unfold Daemon.strays at strays
  unfold mixes
  split at strays
  · next cookie result response action =>
    split at strays
    · exact strays.elim
    next request pending =>
    obtain ⟨_,foreign⟩ := strays
    intro same
    obtain ⟨requester,opened⟩ := shown_request path same (by decide)
    apply foreign
    unfold ShownFor
    rw [opened]
    exact facing.keyring cookie request pending _ ((opening_core cookie d).trans opened)
  · next cookie response action =>
    split at strays
    · exact strays.elim
    next request pending =>
    obtain ⟨_,foreign⟩ := strays
    intro same
    obtain ⟨requester,opened⟩ := shown_request path same (by decide)
    apply foreign
    unfold ShownFor
    rw [opened]
    obtain ⟨info,known,peer⟩ := sound.pinentryKnown cookie request pending
    have owner := sound.manager.owners cookie request pending
    have shown := facing.pinentry cookie request.peerPid owner _ ((opening_core cookie d).trans opened)
    have pid : d.getPeerPid request.socket = request.peerPid := by
      rw [getPeerPid,show d.sockets.find request.socket = some info from known]
      exact peer
    rw [pid]
    exact shown
  · exact strays.elim

-- Responses reach only whom they were asked for exactly where none of them
-- finds a request of another client than the one last shown. That is so where
-- every response finds a request of the source last shown.
theorem responses_discreet_iff (inputs : List Input) (admitted : daemon.Admits inputs) :
    (daemon.Every Discreet inputs ↔ daemon.Every (fun d input => ¬d.strays input) inputs) ∧
    (daemon.Every (fun d input => ¬d.mixes input) inputs → daemon.Every Discreet inputs) := by
  have exact_ := Machine.every_iff (fun _ _ path allowed => discreet_iff path allowed) admitted
  refine ⟨exact_,fun pure => exact_.mpr ?_⟩
  exact Machine.EveryFrom.imp .initial (fun _ _ path _ plain strays => plain (stray_mixes path strays)) admitted pure

instance (d : Daemon) (id : QString) (socket : Socket) : Decidable (d.ShownFor id socket) := by
  unfold ShownFor
  exact match opening id d.trace with
  | some ⟨.keyring,some _⟩ | some ⟨.pinentry,some _⟩ => inferInstanceAs (Decidable (_ = _))
  | none | some ⟨.keyring,none⟩ | some ⟨.pinentry,none⟩ | some ⟨.polkit,_⟩ => isFalse not_false

instance (d : Daemon) (input : Input) : Decidable (d.strays input) := by
  unfold strays
  exact match d.action input with
  | .keyringConclude cookie _ (.ok _) => by
    dsimp only
    exact match d.keyringManager.pendingRequests.find cookie with
    | none => isFalse id
    | some _ => inferInstanceAs (Decidable (_ ∧ ¬ShownFor ..))
  | .pinentryRespond cookie _ => by
    dsimp only
    exact match d.pinentryManager.pendingRequests.find cookie with
    | none => isFalse id
    | some _ => inferInstanceAs (Decidable (_ ∧ ¬ShownFor ..))
  | .keyringConclude _ _ .cancelled | .keyringConclude _ _ .confirmed => isFalse id
  | .idle | .connect .. | .socketState .. | .disconnect .. | .keyringRequest .. | .pinentryRequest ..
  | .pinentryCancel .. | .pinentryOutcome .. | .timeout .. | .submit .. | .initiate .. | .polkit => isFalse id

instance (d : Daemon) (input : Input) : Decidable (d.mixes input) := by
  unfold mixes
  exact match d.action input with
  | .keyringConclude _ _ (.ok _) | .pinentryRespond .. => inferInstanceAs (Decidable (_ ≠ _))
  | .keyringConclude _ _ .cancelled | .keyringConclude _ _ .confirmed => isFalse id
  | .idle | .connect .. | .socketState .. | .disconnect .. | .keyringRequest .. | .pinentryRequest ..
  | .pinentryCancel .. | .pinentryOutcome .. | .timeout .. | .submit .. | .initiate .. | .polkit => isFalse id

-- Each prompt is answered while it is the one shown.
def eachAnswered : List Input :=
  [.quiet (.connected 7),.quiet (.connected 9),
   .say 0 "keyring_request" [("cookie","k"),("title","Unlock")],
   .say 1 "pinentry_request" [("cookie","p"),("prompt","PIN")],
   .say 1 "session.respond" [("id","k"),("response","login")],
   .say 1 "session.respond" [("id","p"),("response","1234")]]

theorem eachAnswered_discreet : daemon.Every Discreet eachAnswered :=
  (responses_discreet_iff eachAnswered (by decide +kernel)).2 (by decide +kernel)

-- A pinentry client asks under the cookie of an open polkit prompt, and the
-- answer to that prompt is handed to it.
def overheard : List Input :=
  [.quiet (.connected 7),.quiet (.connected 9),
   .quiet (.initiateAuthentication (text "a") (text "m") (text "i") [] (text "c") [text "root"]),
   .say 0 "pinentry_request" [("cookie","c")],
   .say 1 "session.respond" [("id","c"),("response","login")]]

theorem overheard_indiscreet : daemon.Admits overheard ∧ ¬daemon.Every Discreet overheard ∧
    Effect.sent 0 (.response .pinentry (text "c") (.ok (text "login"))) ∈ (daemon.run overheard).trace := by
  have admitted : daemon.Admits overheard := by decide +kernel
  have stray : ¬daemon.Every (fun d input => ¬d.strays input) overheard := by decide +kernel
  refine ⟨admitted,fun discreet => stray ?_,by decide +kernel⟩
  exact Machine.EveryFrom.imp .initial (fun _ _ path allowed => (discreet_iff path allowed).mp) admitted discreet

end Daemon

end BbAuth
