import BbAuth.IpcClient
import BbAuth.Newcomers

open Library
namespace BbAuth

open View (Turn Turns)

namespace View

structure Apart (socket : Socket) (v : View) : Prop where
  unregistered : v.registry.contains socket = false
  unsubscribed : v.subscribed = false

theorem apart_faces (apart : Apart socket v) : v.faces socket = false := by
  unfold faces
  split
  · next active =>
    apply decide_eq_false
    intro leader
    simp only [ProviderRegistry.hasActiveProvider,leader,apart.unregistered,Bool.false_eq_true] at active
  · exact apart.unsubscribed

theorem renewed_absent (renewed : Renewed socket uuid old new) (absent : old.contains socket = false) :
    new.contains socket = false := by
  refine Bool.eq_false_iff.mpr fun present => ?_
  obtain ⟨provider,found⟩ := (Table.contains_iff _ _).mp present
  rcases renewed.known socket provider found with ⟨before,held,_⟩ | ⟨other,_⟩
  · exact Bool.false_ne_true (absent.symm.trans ((Table.contains_iff _ _).mpr ⟨before,held⟩))
  · exact other rfl

theorem turn_apart (turn : Turn socket uuid v w) (apart : Apart socket v) : Apart socket w ∧ w.heard = v.heard := by
  cases turn with
  | emitted event =>
    rw [apart_faces apart,hear_untold]
    exact ⟨⟨apart.unregistered,apart.unsubscribed⟩,rfl⟩
  | @elected candidates changed elected _ renewed nowMs isConnected outcome =>
    have absent : elected.contains socket = false := by
      refine Bool.eq_false_iff.mpr fun present => ?_
      have held : (candidates.recomputeActiveProvider nowMs isConnected).2.contains socket = true := outcome ▸ present
      have before := ProviderRegistry.recompute_contains candidates nowMs isConnected held
      rw [renewed_absent renewed apart.unregistered] at before
      cases before
    have untold : (changed && (elected.contains socket || v.subscribed)) = false := by
      rw [absent,apart.unsubscribed,Bool.or_false,Bool.and_false]
    rw [untold,hear_untold]
    exact ⟨⟨absent,apart.unsubscribed⟩,rfl⟩
  | restated =>
    rw [apart.unregistered,apart.unsubscribed,Bool.or_false,hear_untold]
    exact ⟨apart,rfl⟩

theorem turns_apart (turns : Turns socket uuid v w) (apart : Apart socket v) : Apart socket w ∧ w.heard = v.heard := by
  refine turns.invariant (P := fun w => Apart socket w ∧ w.heard = v.heard) ?_ ⟨apart,rfl⟩
  intro v w turn before
  obtain ⟨apart,same⟩ := before
  obtain ⟨after,kept⟩ := turn_apart turn apart
  exact ⟨after,kept.trans same⟩

end View

namespace Daemon

theorem asked_concerns (input : Input)
    (asked : input.kind = .keyringRequest socket msg ∨ input.kind = .pinentryRequest socket msg) :
    input.event.concerns socket := by
  unfold Input.kind at asked
  cases said : input.event with
  | message speaker type said_msg =>
    rw [said] at asked
    simp only at asked
    split at asked <;> rcases asked with asked | asked <;> cases asked
    all_goals rfl
  | connected | socketState | disconnected | initiateAuthentication | polkitSignal | cancelAuthentication | timeout
  | maintenance =>
    rw [said] at asked
    rcases asked with asked | asked <;> cases asked

theorem speaker_concerns (d : Daemon) (input : Input) (spoken : Core.speaker (d.action input) = some socket) :
    input.event.concerns socket := by
  unfold action at spoken
  cases kind : input.kind with
  | keyringRequest speaker msg =>
    rw [kind] at spoken
    cases spoken
    exact asked_concerns input (.inl kind)
  | pinentryRequest speaker msg =>
    rw [kind] at spoken
    cases spoken
    exact asked_concerns input (.inr kind)
  | pinentryResult speaker msg =>
    rw [kind] at spoken
    simp only [resultAction] at spoken
    repeat' split at spoken
    all_goals cases spoken
  | respond speaker msg =>
    rw [kind] at spoken
    simp only [respondAction] at spoken
    repeat' split at spoken
    all_goals cases spoken
  | cancel speaker msg =>
    rw [kind] at spoken
    simp only [cancelAction] at spoken
    repeat' split at spoken
    all_goals cases spoken
  | initiateAuthentication _ _ _ _ cookie identities =>
    rw [kind] at spoken
    simp only at spoken
    split at spoken <;> cases spoken
  | connected | socketState | disconnected | routing | polkitSignal | cancelAuthentication | timeout =>
    rw [kind] at spoken
    cases spoken

theorem taken_recorded (l : Ledger.Line) (deed : Ledger.Deed) (recorded : (l.take deed).recorded = true) :
    deed = .ask ∨ l.recorded = true := by
  cases deed with
  | ask => exact .inl rfl
  | stay | meet | hangUp | refuse => exact .inr recorded
  | drop | leave => cases recorded
  | answer =>
    simp only [Ledger.Line.take,Ledger.Line.answer] at recorded
    split at recorded
    · cases recorded
    · exact .inr recorded

-- A request that is pending after a step was pending before, unless the step
-- was a message of its own socket.
theorem pending_before {d : Daemon} {input : Input} (allowed : daemon.enabled d input) (others : ¬input.event.concerns socket)
    (pending : (daemon.step d input).pendingSocket kind cookie = some socket) :
    d.pendingSocket kind cookie = some socket := by
  have recorded : ((daemon.step d input).line ⟨kind,socket,cookie⟩).recorded = true := decide_eq_true pending
  rw [← line_core,Core.acts_line (acts_step d input allowed)] at recorded
  rcases taken_recorded _ _ recorded with asks | before
  · exact absurd (speaker_concerns d input (Core.deed_speaker (.inl asks))) others
  · rw [line_core] at before
    exact of_decide_eq_true before

-- A socket that was told nothing so far and that only its own requests concern.
structure Silent (d : Daemon) (socket : Socket) : Prop where
  listens : d.Listens socket
  apart : (d.view socket).Apart socket

theorem silent_hear (d : Daemon) (silent : d.Silent socket) (message : Message) :
    ((d.sendJson socket message).view socket).heard = (d.view socket).heard ++ [message] ∧
    (d.sendJson socket message).Silent socket := by
  obtain ⟨heard,after⟩ := hear_one d socket message silent.listens
  refine ⟨by rw [heard]; simp [View.hear],after,?_⟩
  rw [heard]
  exact ⟨silent.apart.unregistered,silent.apart.unsubscribed⟩

theorem silent_deeds (deeds : Deeds d e) (silent : d.Silent socket) :
    e.Silent socket ∧ (e.view socket).heard = (d.view socket).heard := by
  obtain ⟨turns,listens⟩ := deeds_turns [] deeds silent.listens
  obtain ⟨apart,same⟩ := View.turns_apart turns silent.apart
  exact ⟨⟨listens,apart⟩,same⟩

theorem silent_reply (d : Daemon) (silent : d.Silent socket) (other : speaker ≠ socket) (message : Message) :
    (d.sendJson speaker message).Silent socket ∧
    ((d.sendJson speaker message).view socket).heard = (d.view socket).heard := by
  obtain ⟨same,listens⟩ := Agent.turns_reply d message silent.listens other
  refine ⟨⟨listens,?_⟩,congrArg View.heard same⟩
  rw [same]
  exact silent.apart

theorem pendingSocket_sendJson (d : Daemon) (socket : Socket) (message : Message) (kind : RequestKind) (cookie : QString) :
    (d.sendJson socket message).pendingSocket kind cookie = d.pendingSocket kind cookie := by
  unfold sendJson
  split <;> rfl

theorem silent_served (served : Served d speaker e) (silent : d.Silent socket) (other : speaker ≠ socket) :
    e.Silent socket ∧ ((e.view socket).heard = (d.view socket).heard ∨
      ∃ kind cookie, d.pendingSocket kind cookie = some socket ∧ e.pendingSocket kind cookie = none) := by
  have answered {m : Daemon} {request : Socket} (kind : RequestKind) (cookie : QString) (answer : Answer)
      (deeds : Deeds d m) (asked : d.pendingSocket kind cookie = some request) (gone : m.pendingSocket kind cookie = none) :
      let e := (m.sendJson request (.response kind cookie answer)).sendJson speaker (.ok none)
      e.Silent socket ∧ ((e.view socket).heard = (d.view socket).heard ∨
        ∃ kind cookie, d.pendingSocket kind cookie = some socket ∧ e.pendingSocket kind cookie = none) := by
    obtain ⟨still,same⟩ := silent_deeds deeds silent
    by_cases mine : request = socket
    · subst mine
      have told := (silent_hear m still (.response kind cookie answer)).2
      refine ⟨(silent_reply _ told other (.ok none)).1,.inr ⟨kind,cookie,asked,?_⟩⟩
      rw [pendingSocket_sendJson,pendingSocket_sendJson]
      exact gone
    · obtain ⟨told,unheard⟩ := silent_reply m still mine (.response kind cookie answer)
      obtain ⟨after,unheard'⟩ := silent_reply _ told other (.ok none)
      exact ⟨after,.inl (unheard'.trans (unheard.trans same))⟩
  cases served with
  | quietly deeds =>
    obtain ⟨still,same⟩ := silent_deeds deeds silent
    obtain ⟨after,unheard⟩ := silent_reply _ still other (.ok none)
    exact ⟨after,.inl (unheard.trans same)⟩
  | @keyring m cookie request deeds asked gone answer =>
    exact answered .keyring cookie answer deeds (congrArg (Option.map KeyringRequest.socket) asked)
      (congrArg (Option.map KeyringRequest.socket) gone)
  | @pinentry m cookie request deeds asked gone answer =>
    exact answered .pinentry cookie answer deeds (congrArg (Option.map PinentryRequest.socket) asked)
      (congrArg (Option.map PinentryRequest.socket) gone)

theorem silent_step (path : daemon.Reached d) (others : ¬input.event.concerns socket) (silent : d.Silent socket) :
    (daemon.step d input).Silent socket ∧ (((daemon.step d input).view socket).heard = (d.view socket).heard ∨
      ∃ kind cookie, d.pendingSocket kind cookie = some socket ∧
        (daemon.step d input).pendingSocket kind cookie = none) := by
  have settled := reached_settled path
  have same : ({d with env:=input.env} : Daemon).front = d.front := rfl
  have fresh : ({d with env:=input.env} : Daemon).Silent socket := ⟨listens_front same silent.listens,silent.apart⟩
  rcases handle_turns {d with env:=input.env} input.event settled fresh.listens others with
    ⟨turns,listens⟩ | ⟨speaker,other,served⟩
  · obtain ⟨apart,same⟩ := View.turns_apart turns fresh.apart
    exact ⟨⟨listens,apart⟩,.inl same⟩
  · exact silent_served (d := {d with env:=input.env}) served fresh other

-- A client that was told nothing yet, and whose requests, if any, are the keyring
-- request of that id; or that has no request pending any more.
structure Waits (d : Daemon) (socket : Socket) (id : QString) : Prop where
  silent : d.Silent socket
  asked : ((d.view socket).heard = [] ∧
      ∀ kind cookie, d.pendingSocket kind cookie = some socket → kind = .keyring ∧ cookie = id) ∨
    ∀ kind cookie, d.pendingSocket kind cookie ≠ some socket

structure Idle (d : Daemon) (socket : Socket) : Prop where
  silent : d.Silent socket
  untold : (d.view socket).heard = []
  unasked : ∀ kind cookie, d.pendingSocket kind cookie ≠ some socket

theorem idle_step (path : daemon.Reached d) (allowed : daemon.enabled d input) (others : ¬input.event.concerns socket)
    (idle : d.Idle socket) : (daemon.step d input).Idle socket := by
  obtain ⟨silent,same | ⟨kind,cookie,asked,_⟩⟩ := silent_step path others idle.silent
  · exact ⟨silent,same.trans idle.untold,fun kind cookie pending =>
      idle.unasked kind cookie (pending_before allowed others pending)⟩
  · exact absurd asked (idle.unasked kind cookie)

theorem waits_step (path : daemon.Reached d) (allowed : daemon.enabled d input) (others : ¬input.event.concerns socket)
    {id : QString} (waits : d.Waits socket id) : (daemon.step d input).Waits socket id := by
  obtain ⟨silent,heard⟩ := silent_step path others waits.silent
  refine ⟨silent,?_⟩
  rcases waits.asked with ⟨untold,only⟩ | none
  · rcases heard with same | ⟨kind,cookie,asked,gone⟩
    · exact .inl ⟨same.trans untold,fun kind cookie pending => only kind cookie (pending_before allowed others pending)⟩
    · -- The one request that was pending is the one that is gone.
      obtain ⟨rfl,rfl⟩ := only kind cookie asked
      refine .inr ?_
      intro kind cookie pending
      obtain ⟨rfl,rfl⟩ := only kind cookie (pending_before allowed others pending)
      rw [gone] at pending
      cases pending
  · exact .inr fun kind cookie pending => none kind cookie (pending_before allowed others pending)

theorem newcomer_idle (path : daemon.Reached d) (env : Env) (peerPid : Pid) :
    (daemon.step d ⟨env,.connected peerPid⟩).Idle d.nextSocket := by
  have records := reached_records path
  have unknown := newcomer_unknown path
  obtain ⟨listens,unregistered,unsubscribed,untold⟩ := newcomer_view path env peerPid
  refine ⟨⟨listens,unregistered,unsubscribed⟩,untold,?_⟩
  intro kind cookie pending
  cases kind with
  | keyring =>
    obtain ⟨request,found,mine⟩ := Option.map_eq_some_iff.mp pending
    have held : d.sockets.contains request.socket = true := records.keyringKnown cookie request found
    rw [mine,unknown] at held
    cases held
  | pinentry =>
    obtain ⟨request,found,mine⟩ := Option.map_eq_some_iff.mp pending
    obtain ⟨info,found,_⟩ := records.pinentryKnown cookie request found
    have held : d.sockets.contains request.socket = true := (Table.contains_iff _ _).mpr ⟨info,found⟩
    rw [mine,unknown] at held
    cases held

theorem request_waits {d : Daemon} {env : Env} {request : QJsonObject} (allowed : daemon.enabled d ⟨env,.message socket (text "keyring_request") request⟩)
    (idle : d.Idle socket) :
    (daemon.step d ⟨env,.message socket (text "keyring_request") request⟩).Waits socket (env.effectiveCookie request) := by
  have asked : daemon.step d ⟨env,.message socket (text "keyring_request") request⟩ =
      Agent.handleKeyringRequest {d with env} socket request := rfl
  have fresh : ({d with env} : Daemon).front = d.front := rfl
  have deeds := KeyringManager.deeds_handleRequest {d with env} request socket (d.getPeerPid socket)
  have before : ({d with env} : Daemon).Silent socket := ⟨listens_front fresh idle.silent.listens,idle.silent.apart⟩
  obtain ⟨silent,same⟩ := silent_deeds deeds before
  refine ⟨silent,.inl ⟨same.trans idle.untold,?_⟩⟩
  have acted : (daemon.step d ⟨env,.message socket (text "keyring_request") request⟩).core.records =
      d.core.records.act (d.keyringAction env socket request) := Core.acts_records (acts_step d _ allowed)
  intro kind cookie pending
  rw [← pendingSocket_core,acted] at pending
  cases kind with
  | pinentry => exact absurd pending (idle.unasked .pinentry cookie)
  | keyring =>
    refine ⟨rfl,?_⟩
    by_contra other
    have still : (d.core.records.act (d.keyringAction env socket request)).pendingKeyring.find cookie =
        d.keyringManager.pendingRequests.find cookie := Table.find_insert_other _ _ other
    rw [Records.pendingSocket,still] at pending
    exact idle.unasked .keyring cookie pending

end Daemon

inductive UIAction where
  | respond (response : QString)
  | cancel

namespace UIAction

def type : UIAction → QString
  | .respond _ => text "session.respond"
  | .cancel => text "session.cancel"

def message (action : UIAction) (id : QString) : QJsonObject :=
  match action with
  | .respond response => .ofList [(text "id",.string id),(text "response",.string response)]
  | .cancel => .ofList [(text "id",.string id)]

def answer : UIAction → Answer
  | .respond response => .ok response
  | .cancel => .cancelled

end UIAction

namespace Daemon

theorem handleRespond_keyring (d : Daemon) (msg : QJsonObject) (authorized : d.isAuthorizedProviderSocket ui = true)
    (pending : KeyringManager.hasPendingRequest d.keyringManager (msg.value (text "id")).toString = true) :
    Agent.handleRespond d ui msg =
      Agent.respondKeyring d ui (msg.value (text "id")).toString (msg.value (text "response")).toString := by
  unfold Agent.handleRespond
  simp only [authorized,pending,Bool.not_true,Bool.false_eq_true,if_false,if_true]

theorem handleCancel_keyring (d : Daemon) (msg : QJsonObject) (authorized : d.isAuthorizedProviderSocket ui = true)
    (pending : KeyringManager.hasPendingRequest d.keyringManager (msg.value (text "id")).toString = true) :
    Agent.handleCancel d ui msg = Agent.cancelKeyring d ui (msg.value (text "id")).toString := by
  unfold Agent.handleCancel
  simp only [authorized,pending,Bool.not_true,Bool.false_eq_true,if_false,if_true]

theorem action_answers (d : Daemon) (env : Env) (action : UIAction) (id : QString) (silent : d.Silent socket)
    (pending : d.pendingSocket .keyring id = some socket) (authorized : d.isAuthorizedProviderSocket ui = true)
    (other : ui ≠ socket) :
    ((daemon.step d ⟨env,.message ui action.type (action.message id)⟩).view socket).heard =
      (d.view socket).heard ++ [.response .keyring id action.answer] := by
  obtain ⟨request,found,mine⟩ := Option.map_eq_some_iff.mp pending
  have fresh : ({d with env} : Daemon).front = d.front := rfl
  have before : ({d with env} : Daemon).Silent socket := ⟨listens_front fresh silent.listens,silent.apart⟩
  have waiting : KeyringManager.hasPendingRequest d.keyringManager id = true := (Table.contains_iff _ _).mpr ⟨request,found⟩
  have heard (result : Result) (answer : Answer) :
      ((((KeyringManager.conclude {d with env} id result answer).2.sendJson request.socket
        (.response .keyring id answer)).sendJson ui (.ok none)).view socket).heard =
          (d.view socket).heard ++ [.response .keyring id answer] := by
    obtain ⟨still,same⟩ := silent_deeds (KeyringManager.deeds_conclude {d with env} id result answer) before
    obtain ⟨told,after⟩ := silent_hear _ still (.response .keyring id answer)
    rw [mine,(silent_reply _ after other (.ok none)).2,told,same]
    rfl
  cases action with
  | respond response =>
    have handled : daemon.step d ⟨env,.message ui (text "session.respond") ((UIAction.respond response).message id)⟩ =
        Agent.respondKeyring {d with env} ui id response :=
      handleRespond_keyring {d with env} ((UIAction.respond response).message id) authorized waiting
    rw [show (UIAction.respond response).type = text "session.respond" from rfl,handled,
      Agent.respondKeyring_answers {d with env} ui id response found]
    exact heard .success (.ok response)
  | cancel =>
    have handled : daemon.step d ⟨env,.message ui (text "session.cancel") (UIAction.cancel.message id)⟩ =
        Agent.cancelKeyring {d with env} ui id :=
      handleCancel_keyring {d with env} (UIAction.cancel.message id) authorized waiting
    rw [show UIAction.cancel.type = text "session.cancel" from rfl,handled,
      Agent.cancelKeyring_answers {d with env} ui id found]
    exact heard .cancelled .cancelled

end Daemon

-- The prompter opens a connection at some point of a run of the daemon, sends its
-- request and reads one line, while anything else may happen. At last a user
-- interface acts on the request.
structure Exchange where
  before : List Input
  opened : Env
  peerPid : Pid
  early : List Input
  asked : Env
  call : IpcClient.Call
  meanwhile : List Input
  acted : Env
  ui : Socket
  action : UIAction

namespace Exchange

def socket (x : Exchange) : Socket := (daemon.run x.before).nextSocket

def id (x : Exchange) : QString := x.asked.effectiveCookie x.call.request

def asking (x : Exchange) : List Input :=
  x.before ++ (⟨x.opened,.connected x.peerPid⟩ :: x.early ++
    (⟨x.asked,.message x.socket (text "keyring_request") x.call.request⟩ :: x.meanwhile))

def acting (x : Exchange) : Input := ⟨x.acted,.message x.ui x.action.type (x.action.message x.id)⟩

-- The line the prompter reads is the first that the daemon writes to it.
def reply (x : Exchange) : Option QJsonObject :=
  ((daemon.step (daemon.run x.asking) x.acting).view x.socket).heard.head?.map Message.json

structure Proper (x : Exchange) : Prop where
  admitted : daemon.Admits x.asking
  alone : ∀ input ∈ x.early ++ x.meanwhile, ¬input.event.concerns x.socket
  pending : (daemon.run x.asking).pendingSocket .keyring x.id = some x.socket
  authorized : (daemon.run x.asking).isAuthorizedProviderSocket x.ui = true
  other : x.ui ≠ x.socket

-- The user's decision is what the prompter's function returns.
def Agreed (x : Exchange) : Prop :=
  match x.call,x.action with
  | .password _,.respond response => IpcClient.keyringOutcome x.reply = (true,some response)
  | .password _,.cancel => (IpcClient.keyringOutcome x.reply).1 = false
  | .confirm _,.respond _ => IpcClient.confirmOutcome x.reply = true
  | .confirm _,.cancel => IpcClient.confirmOutcome x.reply = false

theorem proper_waits (x : Exchange) (proper : x.Proper) : (daemon.run x.asking).Waits x.socket x.id := by
  have admitted : daemon.EveryFrom daemon.enabled daemon.initial x.asking := proper.admitted
  obtain ⟨first,_,rest⟩ := (Machine.everyFrom_append _ _ _).mp admitted
  obtain ⟨second,allowed,third⟩ := (Machine.everyFrom_append _ _ _).mp rest
  have path : daemon.Reached (daemon.run x.before) := Machine.Admits.reached first
  have connected := path.step (show daemon.enabled _ ⟨x.opened,.connected x.peerPid⟩ from trivial)
  have idle := Machine.runFrom_invariant (P := fun d => Daemon.Idle d x.socket)
    (fun _ input path allowed (others : ¬input.event.concerns x.socket) idle => Daemon.idle_step path allowed others idle)
    connected second
    (fun _ input present => proper.alone input (List.mem_append_left _ present)) (Daemon.newcomer_idle path _ _)
  have opened := connected.runFrom second
  have waits := Machine.runFrom_invariant (P := fun d => Daemon.Waits d x.socket x.id)
    (fun _ input path allowed (others : ¬input.event.concerns x.socket) waits => Daemon.waits_step path allowed others waits)
    (opened.step allowed) third
    (fun _ input present => proper.alone input (List.mem_append_right _ present)) (Daemon.request_waits allowed idle)
  have parts : daemon.run x.asking = daemon.runFrom (daemon.step (daemon.runFrom (daemon.step (daemon.run x.before)
      ⟨x.opened,.connected x.peerPid⟩) x.early) ⟨x.asked,.message x.socket (text "keyring_request") x.call.request⟩)
      x.meanwhile := by
    unfold asking Machine.run
    rw [Machine.runFrom_append]
    exact Machine.runFrom_append _ _ _
  rw [parts]
  exact waits

theorem proper_reply (x : Exchange) (proper : x.Proper) :
    x.reply = some (Message.json (.response .keyring x.id x.action.answer)) := by
  have waits := proper_waits x proper
  have heard := Daemon.action_answers (daemon.run x.asking) x.acted x.action x.id waits.silent proper.pending
    proper.authorized proper.other
  rcases waits.asked with ⟨untold,_⟩ | none
  · unfold reply acting
    rw [heard,untold]
    rfl
  · exact absurd proper.pending (none .keyring x.id)

-- The prompter and the daemon agree on what came of a request, except when the
-- user confirms what was asked for confirmation.
theorem outcomes_agree_iff (x : Exchange) (proper : x.Proper)
    (whole : ∀ response, x.action = .respond response → (0 : QChar) ∉ response) :
    x.Agreed ↔ (∃ arguments, x.call = .password arguments) ∨ x.action = .cancel := by
  have reply := proper_reply x proper
  unfold Agreed
  cases call : x.call with
  | password arguments =>
    cases action : x.action with
    | respond response =>
      rw [action] at reply
      have read := IpcClient.takeWhile_whole (whole response action)
      have outcome := IpcClient.keyringOutcome_ok x.id response
      rw [read] at outcome
      simp only [reply,UIAction.answer]
      exact ⟨fun _ => .inl ⟨arguments,rfl⟩,fun _ => outcome⟩
    | cancel =>
      rw [action] at reply
      simp only [reply,UIAction.answer]
      exact ⟨fun _ => .inr trivial,fun _ => congrArg Prod.fst (IpcClient.keyringOutcome_cancelled x.id)⟩
  | confirm arguments =>
    cases action : x.action with
    | respond response =>
      rw [action] at reply
      simp only [reply,UIAction.answer]
      constructor
      · intro agreed
        rw [IpcClient.confirmOutcome_ok] at agreed
        cases agreed
      · intro cause
        rcases cause with ⟨_,typed⟩ | cancelled
        · cases typed
        · cases cancelled
    | cancel =>
      rw [action] at reply
      simp only [reply,UIAction.answer]
      exact ⟨fun _ => .inr trivial,fun _ => IpcClient.confirmOutcome_cancelled x.id⟩

-- A client that is no provider acts while nobody is registered.
def typedPassword : Exchange where
  before := [.quiet (.connected 7)]
  opened := .quiet
  peerPid := 8
  early := []
  asked := .quiet
  call := .password ⟨text "k",none,none,none,none,false⟩
  meanwhile := []
  acted := .quiet
  ui := 0
  action := .respond (text "secret")

theorem typedPassword_proper : typedPassword.Proper where
  admitted := by decide +kernel
  alone := List.forall_mem_nil _
  pending := by decide +kernel
  authorized := by decide +kernel
  other := by decide +kernel

theorem typedPassword_agreed : typedPassword.Agreed := by
  refine (outcomes_agree_iff typedPassword typedPassword_proper ?_).mpr (.inl ⟨_,rfl⟩)
  rintro response ⟨⟩
  decide +kernel

def confirmed : Exchange := {typedPassword with call:=.confirm ⟨text "k",none,none,none⟩,action:=.respond []}

theorem confirmed_disagreed : confirmed.Proper ∧ ¬confirmed.Agreed := by
  refine ⟨⟨by decide +kernel,List.forall_mem_nil _,by decide +kernel,by decide +kernel,by decide +kernel⟩,?_⟩
  have refused : IpcClient.confirmOutcome confirmed.reply = false := by decide +kernel
  intro agreed
  cases refused.symm.trans agreed

end Exchange

end BbAuth
