import BbAuth.ClientReplies
import BbAuth.Decisions
import BbAuth.KeyringWithdrawal

open Library
namespace BbAuth

theorem Records.act_pinentry (r : Records) (action : Action) (cookie : QString)
    (pending : (PinentryManager.flow (r.act action).pinentryManager cookie).pending = some request) :
    (PinentryManager.flow r.pinentryManager cookie).pending = some request ∨
    ∃ actor, action = .pinentryRequest request actor ∧ request.cookie = cookie := by
  have forgotten (m : PinentryManager) (other : QString)
      (still : (PinentryManager.flow (PinentryManager.forgetFlow m other) cookie).pending = some request) :
      (PinentryManager.flow m cookie).pending = some request := by
    rw [PinentryManager.flow_forgetFlow] at still
    split at still
    · cases still
    · exact still
  cases action with
  | idle | connect | keyringRequest | keyringConclude | submit | initiate | polkit => exact .inl pending
  | socketState socket state =>
    rw [act,(setSocketState_other r socket state).2.1] at pending
    exact .inl pending
  | disconnect socket =>
    rw [act,disconnect_flow] at pending
    split at pending
    · cases pending
    · exact .inl pending
  | pinentryRequest asked actor =>
    by_cases mine : PinentryManager.ownedByOther r.pinentryManager asked.cookie asked.peerPid = false
    · rw [act_enrol r asked actor cookie mine] at pending
      split at pending
      · next same => cases pending; exact .inr ⟨actor,rfl,same.symm⟩
      · exact .inl pending
    · simp only [act,(Bool.not_eq_false _).mp mine,if_true] at pending
      exact .inl pending
  | pinentryRespond other response =>
    simp only [act] at pending
    split at pending
    · exact .inl pending
    · rw [PinentryManager.flow_awaitOutcome] at pending
      split at pending
      · cases pending
      · exact .inl pending
  | pinentryCancel other => exact .inl (forgotten _ other pending)
  | pinentryOutcome other outcome error =>
    cases outcome with
    | retry =>
      have kept : (PinentryManager.flow (PinentryManager.cleanupAwaiting r.pinentryManager other) cookie).pending =
        some request := pending
      rw [PinentryManager.flow_cleanupAwaiting] at kept
      split at kept
      · next same => exact .inl (same ▸ kept)
      · exact .inl kept
    | success | cancelled | error => exact .inl (forgotten _ other pending)
  | timeout timer =>
    simp only [act] at pending
    split at pending
    · exact .inl pending
    · exact .inl (forgotten {r.pinentryManager with timers:=r.pinentryManager.timers.remove timer} _ pending)

theorem Core.acts_grown (acts : Core.Acts c action e) : Grown (fun _ => True) c.history e.history := by
  cases asks : action.request with
  | some key =>
    obtain ⟨pid,notes⟩ := Core.acts_asks acts asks
    exact (Grown.one c.history trivial).trans (Grown.imp notes (fun _ _ => trivial))
  | none =>
    cases Core.acts_settles acts asks with
    | silent notes => exact Grown.imp notes (fun _ _ => trivial)
    | answered socket kind cookie reply pending answers notes =>
      apply (Grown.imp notes (fun _ _ => trivial)).trans
      unfold Core.answer
      split
      · exact .one _ trivial
      · exact .same rfl

namespace Daemon

theorem step_keeps (allowed : daemon.enabled d input) (kept : effect.routine = false) (present : effect ∈ d.trace) :
    effect ∈ (daemon.step d input).trace := by
  obtain ⟨new,same,_⟩ := Core.acts_grown (acts_step d input allowed)
  have before : effect ∈ d.core.history := List.mem_filter.mpr ⟨present,by rw [kept]; rfl⟩
  have after : effect ∈ (daemon.step d input).core.history := by
    rw [same]
    exact List.mem_append_right _ before
  exact List.mem_of_mem_filter after

theorem run_keeps (admitted : daemon.EveryFrom daemon.enabled d inputs) (kept : effect.routine = false)
    (present : effect ∈ d.trace) : effect ∈ (daemon.runFrom d inputs).trace := by
  induction inputs generalizing d with
  | nil => exact present
  | cons input rest ih => exact ih admitted.2 (step_keeps admitted.1 kept present)

variable {id : QString}

theorem respond_keyring (allowed : daemon.enabled d input) (kind : input.kind = .respond ui msg)
    (orders : d.Orders ui msg id) (pending : d.keyringManager.pendingRequests.find id = some request)
    (connected : d.isConnected request.socket = true) :
    .sent request.socket (.response .keyring id (.ok (respondText msg))) ∈ (daemon.step d input).trace := by
  obtain ⟨authorized,rfl⟩ := orders
  have waits : KeyringManager.hasPendingRequest d.keyringManager (respondId msg) = true :=
    (Table.contains_iff _ _).mpr ⟨request,pending⟩
  have action : d.action input = .keyringConclude (respondId msg) .success (.ok (respondText msg)) := by
    unfold respondId at waits
    rw [action_respond d input kind]
    unfold respondAction
    simp only [authorized,waits,Bool.not_true,Bool.false_eq_true,if_false,if_true]
    rfl
  have acts := acts_step d input allowed
  rw [action] at acts
  have concluded : (daemon.step d input).core = d.core.keyringConclude (respondId msg) .success (.ok (respondText msg)) := by
    generalize (daemon.step d input).core = e at acts
    cases acts
    rfl
  apply List.mem_of_mem_filter (p := fun effect => !effect.routine)
  change _ ∈ (daemon.step d input).core.history
  rw [concluded,Core.keyringConclude_history d.core .success _ pending,core_isConnected,if_pos connected]
  exact List.mem_append_left _ (List.mem_singleton.mpr rfl)

theorem respond_pinentry (allowed : daemon.enabled d input) (kind : input.kind = .respond ui msg)
    (orders : d.Orders ui msg id) (free : d.keyringManager.pendingRequests.find id = none)
    (pending : d.pinentryManager.pendingRequests.find id = some request) (connected : d.isConnected request.socket = true) :
    .sent request.socket (.response .pinentry id (if request.confirmOnly then .confirmed else .ok (respondText msg))) ∈
      (daemon.step d input).trace := by
  obtain ⟨authorized,rfl⟩ := orders
  have waits : PinentryManager.hasPendingInput d.pinentryManager (respondId msg) = true :=
    (Table.contains_iff _ _).mpr ⟨request,pending⟩
  have none : KeyringManager.hasPendingRequest d.keyringManager (respondId msg) = false := by
    apply Bool.eq_false_iff.mpr
    intro found
    obtain ⟨other,held⟩ := (Table.contains_iff _ _).mp found
    cases free.symm.trans held
  have action : d.action input = .pinentryRespond (respondId msg) (respondText msg) := by
    unfold respondId at waits none
    rw [action_respond d input kind]
    unfold respondAction
    simp only [authorized,waits,none,Bool.not_true,Bool.false_eq_true,if_false,if_true]
    rfl
  have acts := acts_step d input allowed
  rw [action] at acts
  have responded : (daemon.step d input).core = d.core.pinentryRespond (respondId msg) (respondText msg) := by
    generalize (daemon.step d input).core = e at acts
    cases acts
    rfl
  have hears : d.core.isConnected request.socket = true := connected
  apply List.mem_of_mem_filter (p := fun effect => !effect.routine)
  change _ ∈ (daemon.step d input).core.history
  rw [responded]
  unfold Core.pinentryRespond
  rw [show d.core.pinentryManager.pendingRequests.find (respondId msg) = some request from pending]
  simp only
  generalize hidden : d.core.withPinentry (PinentryManager.awaitOutcome d.core.pinentryManager request (respondId msg)) = c
  have still : c.isConnected request.socket = true := by
    rw [← hidden]
    exact hears
  unfold Core.answer
  rw [if_pos still]
  exact List.mem_cons_self

theorem pinentry_asked (admitted : daemon.Admits inputs)
    (pending : (daemon.run inputs).pinentryManager.pendingRequests.find id = some request) :
    ∃ early input late msg, inputs = early ++ input :: late ∧ input.kind = .pinentryRequest request.socket msg ∧
      request.confirmOnly = (msg.value (text "confirm_only")).toBool := by
  obtain ⟨early,input,late,split,allowed,before,after⟩ :=
    Machine.brought_about (fun d : Daemon => d.pinentryManager.pendingRequests.find id = some request) admitted nofun pending
  generalize daemon.runFrom daemon.initial early = d at *
  have recorded := Core.acts_records (acts_step d input allowed)
  have came : (PinentryManager.flow (d.core.records.act (d.action input)).pinentryManager id).pending = some request := by
    rw [← recorded]
    exact after
  rcases Records.act_pinentry _ _ _ came with old | ⟨actor,asks,_⟩
  · exact absurd old before
  · cases kind : input.kind with
    | pinentryRequest socket msg =>
      unfold action at asks
      rw [kind] at asks
      cases asks
      exact ⟨early,input,late,msg,split,kind,rfl⟩
    | respond ui msg =>
      rw [action_respond d input kind] at asks
      rcases respondAction_cases d ui msg with acts | acts | acts | acts <;> rw [acts] at asks <;> cases asks
    | cancel ui msg =>
      unfold action at asks
      rw [kind] at asks
      rcases cancelAction_cases d ui msg with acts | acts | acts | acts <;> simp only [acts] at asks <;> cases asks
    | pinentryResult sender msg =>
      unfold action at asks
      rw [kind] at asks
      rcases resultAction_idle_or d sender msg with acts | ⟨_,_,acts⟩ <;> simp only [acts] at asks <;> cases asks
    | initiateAuthentication =>
      unfold action at asks
      rw [kind] at asks
      simp only at asks
      split at asks <;> cases asks
    | connected | socketState | disconnected | keyringRequest | routing | polkitSignal | cancelAuthentication | timeout =>
      unfold action at asks
      rw [kind] at asks
      cases asks

theorem unspoken (inputs : List Input) (admitted : daemon.Admits inputs) (new : (daemon.run inputs).nextSocket ≤ socket) :
    inputs.filterMap (Input.call socket) = [] := by
  induction inputs using List.reverseRecOn with
  | nil => rfl
  | append_singleton before last ih =>
    obtain ⟨earlier,now,_⟩ := (Machine.everyFrom_append _ before [last]).mp admitted
    have stepped : daemon.run (before ++ [last]) = daemon.step (daemon.run before) last := Machine.runFrom_append _ before [last]
    rw [stepped] at new
    have later := Nat.le_trans (step_nextSocket _ last now) new
    rw [List.filterMap_append,ih earlier later,List.nil_append]
    cases called : last.call socket with
    | none => simp [called]
    | some form =>
      have path : daemon.Reached (daemon.run before) := Machine.Admits.reached earlier
      have known : (daemon.run before).sockets.contains socket = true := by
        obtain ⟨env,event⟩ := last
        cases event with
        | message speaker type msg =>
          unfold Input.call at called
          simp only at called
          split at called
          · next same => exact same ▸ now
          · cases called
        | connected | socketState | disconnected | initiateAuthentication | polkitSignal | cancelAuthentication | timeout
        | maintenance => cases called
      have below : socket < (daemon.run before).nextSocket := (reached_records path).below socket known
      exact absurd below (Nat.not_lt.mpr later)

theorem sent_of_heard {d : Daemon} (heard : message ∈ (d.view socket).heard) : .sent socket message ∈ d.trace := by
  have delivered : (socket,message) ∈ d.trace.filterMap Effect.delivery := by
    obtain ⟨pair,listed,rfl⟩ := List.mem_map.mp (List.mem_reverse.mp heard)
    obtain ⟨present,mine⟩ := List.mem_filter.mp listed
    rw [← of_decide_eq_true mine]
    exact present
  obtain ⟨effect,logged,same⟩ := List.mem_filterMap.mp delivered
  cases effect with
  | sent other told =>
    cases same
    exact logged
  | requested | emitted | submitted | fallbackRequested | fallbackLaunched | polkit => cases same

theorem heard_of_sent {d : Daemon} (sent : .sent socket message ∈ d.trace) : message ∈ (d.view socket).heard := by
  apply List.mem_reverse.mpr
  apply List.mem_map.mpr
  refine ⟨(socket,message),List.mem_filter.mpr ⟨?_,decide_eq_true rfl⟩,rfl⟩
  exact List.mem_filterMap.mpr ⟨_,sent,rfl⟩

end Daemon

theorem effectiveCookie_named (env : Env) {msg : QJsonObject} (cookie : QString) (named : cookie ≠ [])
    (member : msg.value (text "cookie") = .string cookie) : env.effectiveCookie msg = cookie := by
  unfold Env.effectiveCookie
  rw [member]
  simp only [QJsonValue.toString,List.isEmpty_iff,named,if_false]

theorem value_cons (key name : QString) (value : QJsonValue) (rest : List (QString × QJsonValue)) :
    (QJsonObject.ofList ((key,value) :: rest)).value name = if name = key then value else (QJsonObject.ofList rest).value name := by
  unfold QJsonObject.ofList QJsonObject.value
  rw [List.foldr_cons,Table.find_insert]
  split <;> rfl

theorem value_absent {fields : List (QString × QJsonValue)} (absent : name ∉ fields.map Prod.fst) :
    (QJsonObject.ofList fields).value name = .undefined := by
  induction fields with
  | nil => rfl
  | cons field rest ih =>
    rw [List.map_cons,List.mem_cons,not_or] at absent
    rw [value_cons,if_neg absent.1]
    exact ih absent.2

theorem cookie_member (type cookie : QJsonValue) (rest : List (QString × QJsonValue)) :
    (QJsonObject.ofList ((text "type",type) :: (text "cookie",cookie) :: rest)).value (text "cookie") = cookie := by
  rw [value_cons,value_cons,if_neg (show ¬text "cookie" = text "type" by decide),if_pos rfl]

def RequestKind.request : RequestKind → QString
  | .keyring => text "keyring_request"
  | .pinentry => text "pinentry_request"

-- A client opens a connection at some point of a run of the daemon, sends one
-- request and reads one line, while anything else may happen.
structure RequestCall (kind : RequestKind) where
  before : List Input
  opened : Env
  peerPid : Pid
  early : List Input
  asked : Env
  request : QJsonObject
  after : List Input

namespace RequestCall

def socket (x : RequestCall kind) : Socket := (daemon.run x.before).nextSocket

def id (x : RequestCall kind) : QString := x.asked.effectiveCookie x.request

def asking (x : RequestCall kind) : Input := ⟨x.asked,.message x.socket kind.request x.request⟩

def inputs (x : RequestCall kind) : List Input :=
  x.before ++ (⟨x.opened,.connected x.peerPid⟩ :: x.early ++ (x.asking :: x.after))

-- The line the client reads is the first that the daemon wrote to it.
def reply (x : RequestCall kind) : Option QJsonObject := ((daemon.run x.inputs).view x.socket).heard.head?.map Message.json

-- Nothing else is said on the connection.
structure Proper (x : RequestCall kind) : Prop where
  admitted : daemon.Admits x.inputs
  alone : ∀ input ∈ x.early ++ x.after, input.call x.socket = none

-- An authorized user interface decided the request so.
def Settled (x : RequestCall kind) (id : QString) (answer : Answer) : Prop :=
  ∃ early input late, x.inputs = early ++ input :: late ∧
    (daemon.run early).Decided input (.answer ⟨kind,x.socket,id⟩ answer)

theorem calls (x : RequestCall kind) (proper : x.Proper) :
    x.inputs.filterMap (Input.call x.socket) = [.response kind x.id] := by
  have admitted : daemon.EveryFrom daemon.enabled daemon.initial x.inputs := proper.admitted
  obtain ⟨first,_⟩ := (Machine.everyFrom_append _ _ _).mp admitted
  have quiet (inputs : List Input) (alone : ∀ input ∈ inputs, input.call x.socket = none) :
      inputs.filterMap (Input.call x.socket) = [] := List.filterMap_eq_nil_iff.mpr alone
  have asked : x.asking.call x.socket = some (.response kind x.id) := by cases kind <;> exact if_pos rfl
  have prior : x.before.filterMap (Input.call x.socket) = [] := Daemon.unspoken x.before first (Nat.le_refl _)
  unfold inputs
  rw [List.filterMap_append,prior,List.nil_append,List.cons_append,
    List.filterMap_cons_none (show Input.call x.socket ⟨x.opened,.connected x.peerPid⟩ = none from rfl),
    List.filterMap_append,quiet x.early (fun input present => proper.alone input (List.mem_append_left _ present)),
    List.filterMap_cons_some asked,quiet x.after (fun input present => proper.alone input (List.mem_append_right _ present))]
  rfl

theorem form_response {message : Message} (form : message.form = .response kind cookie) : ∃ answer, message = .response kind cookie answer := by
  cases message with
  | response => cases form; exact ⟨_,rfl⟩
  | error | ok | pong | subscribed | uiRegistered | uiActive | event => cases form

theorem heard_once (x : RequestCall kind) (proper : x.Proper) :
    ((daemon.run x.inputs).view x.socket).heard = [] ∨
    ∃ answer, ((daemon.run x.inputs).view x.socket).heard = [.response kind x.id answer] := by
  have called := x.calls proper
  have plain : ∀ input ∈ x.inputs, ¬input.enlists x.socket := by
    intro input present enlists
    have listed := List.mem_filterMap.mpr ⟨input,present,enlists⟩
    rw [called] at listed
    cases List.mem_singleton.mp listed
  have forms : (((daemon.run x.inputs).view x.socket).heard.map Message.form).Subperm [.response kind x.id] := by
    apply List.subperm_iff_count.mpr
    intro form
    rw [← called]
    exact Daemon.told_le_called x.inputs proper.admitted x.socket plain form
  cases heard : ((daemon.run x.inputs).view x.socket).heard with
  | nil => exact .inl rfl
  | cons message rest =>
    rw [heard] at forms
    have listed := forms.subset List.mem_cons_self
    obtain ⟨answer,rfl⟩ := form_response (List.mem_singleton.mp listed)
    have short := forms.length_le
    rw [List.length_map,List.length_cons,List.length_singleton] at short
    rw [List.length_eq_zero_iff.mp (show rest.length = 0 by omega)]
    exact .inr ⟨answer,rfl⟩

theorem reply_settled (x : RequestCall kind) (proper : x.Proper) :
    x.reply = none ∨ ∃ answer, x.reply = some (Message.json (.response kind x.id answer)) ∧ x.Settled x.id answer := by
  unfold reply
  rcases x.heard_once proper with nothing | ⟨answer,once⟩
  · rw [nothing]
    exact .inl rfl
  · have heard : .response kind x.id answer ∈ ((daemon.run x.inputs).view x.socket).heard := by
      rw [once]
      exact List.mem_singleton.mpr rfl
    rw [once]
    exact .inr ⟨answer,rfl,Daemon.run_decided proper.admitted rfl (Daemon.sent_of_heard heard)⟩

theorem reply_known (x : RequestCall kind) (proper : x.Proper)
    (sent : .sent x.socket (.response kind x.id answer) ∈ (daemon.run x.inputs).trace) :
    x.reply = some (Message.json (.response kind x.id answer)) := by
  have heard := Daemon.heard_of_sent sent
  unfold reply
  rcases x.heard_once proper with nothing | ⟨other,once⟩
  · rw [nothing] at heard
    cases heard
  · rw [once] at heard ⊢
    cases List.mem_singleton.mp heard
    rfl

theorem asked_only (x : RequestCall kind) (proper : x.Proper) (present : input ∈ x.inputs)
    (said : input.call x.socket ≠ none) : input = x.asking := by
  have admitted : daemon.EveryFrom daemon.enabled daemon.initial x.inputs := proper.admitted
  obtain ⟨first,_⟩ := (Machine.everyFrom_append _ _ _).mp admitted
  have prior : x.before.filterMap (Input.call x.socket) = [] := Daemon.unspoken x.before first (Nat.le_refl _)
  unfold inputs at present
  simp only [List.mem_append,List.mem_cons] at present
  rcases present with before | (rfl | early) | rfl | after
  · exact absurd (List.filterMap_eq_nil_iff.mp prior input before) said
  · exact absurd rfl said
  · exact absurd (proper.alone input (List.mem_append_left _ early)) said
  · rfl
  · exact absurd (proper.alone input (List.mem_append_right _ after)) said

theorem asked_flag (x : RequestCall .pinentry) (proper : x.Proper) (split : x.inputs = earlier ++ later)
    (pending : (daemon.run earlier).pinentryManager.pendingRequests.find cookie = some waiting)
    (mine : waiting.socket = x.socket) : waiting.confirmOnly = (x.request.value (text "confirm_only")).toBool := by
  have admitted : daemon.EveryFrom daemon.enabled daemon.initial x.inputs := proper.admitted
  rw [split] at admitted
  obtain ⟨first,_⟩ := (Machine.everyFrom_append _ _ _).mp admitted
  obtain ⟨before,input,after,msg,parts,kind,flag⟩ := Daemon.pinentry_asked first pending
  have present : input ∈ x.inputs := by
    rw [split,parts]
    exact List.mem_append_left _ (List.mem_append_right _ List.mem_cons_self)
  have asks : x.asking.kind = .pinentryRequest x.socket x.request := rfl
  have said : input.call x.socket ≠ none := by
    obtain ⟨env,event⟩ := input
    cases event with
    | message speaker type object =>
      have same : speaker = waiting.socket := by
        unfold Input.kind at kind
        simp only at kind
        split at kind <;> cases kind
        rfl
      unfold Input.call
      simp only [same,mine,if_true]
      exact nofun
    | connected | socketState | disconnected | initiateAuthentication | polkitSignal | cancelAuthentication | timeout
    | maintenance => cases kind
  rw [x.asked_only proper present said,asks] at kind
  rw [(InputKind.pinentryRequest.inj kind).2]
  exact flag

def granted (x : RequestCall kind) (response : QString) : Answer :=
  match kind with
  | .keyring => .ok response
  | .pinentry => if (x.request.value (text "confirm_only")).toBool then .confirmed else .ok response

-- At some point an authorized user interface responds to the request, which is
-- pending for its client then. A keyring request of the same id would come first.
def Responded (x : RequestCall kind) (response : QString) : Prop :=
  ∃ earlier input later ui msg, x.inputs = earlier ++ input :: later ∧ input.kind = .respond ui msg ∧
    (daemon.run earlier).Orders ui msg x.id ∧ Daemon.respondText msg = response ∧
    (daemon.run earlier).pendingSocket kind x.id = some x.socket ∧ (daemon.run earlier).isConnected x.socket = true ∧
    (kind = .pinentry → (daemon.run earlier).pendingSocket .keyring x.id = none)

theorem reply_granted (x : RequestCall kind) (proper : x.Proper) (responded : x.Responded response) :
    x.reply = some (Message.json (.response kind x.id (x.granted response))) := by
  obtain ⟨earlier,input,later,ui,msg,split,responds,orders,rfl,pending,connected,free⟩ := responded
  have admitted : daemon.EveryFrom daemon.enabled daemon.initial x.inputs := proper.admitted
  rw [split] at admitted
  obtain ⟨_,allowed,rest⟩ := (Machine.everyFrom_append _ _ _).mp admitted
  apply x.reply_known proper
  have ends : daemon.run x.inputs = daemon.runFrom (daemon.step (daemon.run earlier) input) later := by
    rw [split]
    exact Machine.runFrom_append _ earlier (input :: later)
  rw [ends]
  apply Daemon.run_keeps rest rfl
  cases kind with
  | keyring =>
    obtain ⟨request,found,mine⟩ := Option.map_eq_some_iff.mp pending
    have sent := Daemon.respond_keyring allowed responds orders found (mine ▸ connected)
    rw [mine] at sent
    exact sent
  | pinentry =>
    obtain ⟨waiting,found,mine⟩ := Option.map_eq_some_iff.mp pending
    have none := Option.map_eq_none_iff.mp (free rfl)
    have sent := Daemon.respond_pinentry allowed responds orders none found (mine ▸ connected)
    rw [mine,x.asked_flag proper split found mine] at sent
    exact sent

end RequestCall

end BbAuth
