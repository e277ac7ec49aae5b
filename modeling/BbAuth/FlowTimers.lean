import BbAuth.Bookkeeping

open Library
namespace BbAuth.PinentryManager

-- What is asked of the manager, by whom and under which id ever. `elsewhere`
-- stands for all that the rest of the agent does meanwhile.
inductive Operation where
  | handleRequest (env : Env) (msg : QJsonObject) (socket : Socket) (peerPid : Pid)
  | handleResponse (cookie response : QString)
  | handleResult (msg : QJsonObject) (peerPid : Pid)
  | handleCancel (cookie : QString)
  | cleanupForSocket (socket : Socket)
  | timeout (timer : Timer)
  | elsewhere (agent : Daemon)

def operate (d : Daemon) : Operation → Daemon
  | .handleRequest env msg socket peerPid => handleRequest {d with env} msg socket peerPid
  | .handleResponse cookie response => (handleResponse d cookie response).2
  | .handleResult msg peerPid => (handleResult d msg peerPid).2
  | .handleCancel cookie => (handleCancel d cookie).2
  | .cleanupForSocket socket => cleanupForSocket d socket
  | .timeout timer => timeout d timer
  | .elsewhere agent => agent.withPinentryManager d.pinentryManager

def Operation.enabled (d : Daemon) : Operation → Prop
  | .timeout timer => d.pinentryManager.timers.contains timer = true
  | _ => True

def operations : Machine Daemon Operation where
  initial := .initial
  enabled d operation := operation.enabled d
  step := operate

-- The operation retries, asks for, completes, cancels or times out the flow of
-- an id, and is not refused.
def Operation.ends (d : Daemon) (cookie : QString) : Operation → Prop
  | .handleRequest env msg _ peerPid =>
    cookie = env.effectiveCookie msg ∧ ownedByOther d.pinentryManager cookie peerPid = false
  | .handleResult msg peerPid =>
    cookie = (msg.value (text "id")).toString ∧ (PinentryManager.handleResult d msg peerPid).1 = .ok none
  | .handleCancel asked => cookie = asked ∧ hasRequest d cookie = true
  | .cleanupForSocket socket =>
    ∃ request, d.pinentryManager.pendingRequests.find cookie = some request ∧ request.socket = socket
  | .timeout timer => d.pinentryManager.timers.find timer = some cookie
  | .handleResponse .. | .elsewhere _ => False

-- What an operation can make of the manager, and which flows it ends.
inductive Turn (m : PinentryManager) : (QString → Prop) → PinentryManager → Prop where
  | idle : Turn m (fun _ => False) m
  | enrolled (mine : ownedByOther m request.cookie request.peerPid = false) (retryReported : Table QString Unit) :
      Turn m (· = request.cookie) {enrol m request with retryReported}
  | responded (pending : m.pendingRequests.find cookie = some request) :
      Turn m (fun _ => False) (awaitOutcome m request cookie)
  | retried (cookie : QString) : Turn m (· = cookie) (Records.retry m cookie)
  | closed (cookies : List QString) : Turn m (· ∈ cookies) (cookies.foldl forgetFlow m)
  | expired (running : m.timers.find timer = some cookie) :
      Turn m (· = cookie) (forgetFlow {m with timers:=m.timers.remove timer} cookie)

theorem forgetFlow_nextTimer (m : PinentryManager) (cookie : QString) :
    (forgetFlow m cookie).nextTimer = m.nextTimer := by simp [forgetFlow]

theorem forgetFlows_nextTimer (cookies : List QString) (m : PinentryManager) :
    (cookies.foldl forgetFlow m).nextTimer = m.nextTimer := by
  induction cookies generalizing m with
  | nil => rfl
  | cons cookie rest ih => exact (ih _).trans (forgetFlow_nextTimer m cookie)

theorem enrol_nextTimer (m : PinentryManager) (request : PinentryRequest) :
    (enrol m request).nextTimer = m.nextTimer := by
  simp only [enrol,recordPending,cleanupAwaiting_nextTimer]
  exact (enterFlow_same m request).next

theorem turn_sound (sound : Sound m) (turn : Turn m ended n) : Sound n := by
  cases turn with
  | idle => exact sound
  | enrolled mine retryReported => exact reported_sound (enrol_sound sound mine) _
  | responded pending => exact awaitOutcome_sound sound _ _
  | retried cookie => exact reported_sound (cleanupAwaiting_sound sound cookie) _
  | closed cookies => exact forgetFlows_sound cookies sound
  | expired running => exact (expire_same sound running).sound (forgetFlow_sound sound _)

theorem turn_nextTimer (turn : Turn m ended n) : m.nextTimer ≤ n.nextTimer := by
  cases turn with
  | idle => exact Nat.le_refl _
  | enrolled mine retryReported => exact Nat.le_of_eq (enrol_nextTimer m _).symm
  | responded pending => simp [awaitOutcome]
  | retried cookie => exact Nat.le_of_eq (cleanupAwaiting_nextTimer m cookie).symm
  | closed cookies => exact Nat.le_of_eq (forgetFlows_nextTimer cookies m).symm
  | @expired timer cookie running =>
    have same := forgetFlow_nextTimer {m with timers:=m.timers.remove timer} cookie
    exact Nat.le_of_eq same.symm

-- A flow that is ended awaits nothing. Any other stays as it is, unless its
-- pending request gets its response.
theorem turn_flow (turn : Turn m ended n) (cookie : QString) :
    (ended cookie → (flow n cookie).awaiting = none) ∧
    (¬ended cookie → flow n cookie = flow m cookie ∨
      ∃ request, m.pendingRequests.find cookie = some request ∧
        flow n cookie = ⟨none,some ⟨request,m.nextTimer⟩,m.flowOwners.find cookie⟩) := by
  cases turn with
  | idle => exact ⟨False.elim,fun _ => .inl rfl⟩
  | @enrolled request mine retryReported =>
    have entered : flow {enrol m request with retryReported} cookie = _ := flow_enrol m request cookie
    rw [entered]
    constructor
    · intro same; rw [if_pos same]
    · intro other; exact .inl (if_neg other)
  | @responded id request pending =>
    rw [flow_awaitOutcome]
    refine ⟨False.elim,fun _ => ?_⟩
    by_cases same : cookie = id
    · subst same
      exact .inr ⟨request,pending,if_pos rfl⟩
    · exact .inl (if_neg same)
  | retried id =>
    have cleaned : flow (Records.retry m id) cookie = _ := flow_cleanupAwaiting m id cookie
    rw [cleaned]
    constructor
    · intro same; rw [if_pos same]
    · intro other; exact .inl (if_neg other)
  | closed cookies =>
    rw [flow_forgetFlows]
    constructor
    · intro listed; rw [if_pos listed]
    · intro other; exact .inl (if_neg other)
  | @expired timer id running =>
    rw [flow_forgetFlow]
    constructor
    · intro same; rw [if_pos same]
    · intro other; exact .inl (if_neg other)

theorem manager_core {d : Daemon} {r : Records} (same : d.core.records = r) : d.pinentryManager = r.pinentryManager :=
  congrArg Records.pinentryManager same

theorem closeFlow_manager (d : Daemon) (cookie : QString) (result : Result) (error : QString) :
    (closeFlow d cookie result error).pinentryManager = forgetFlow d.pinentryManager cookie := by
  have closed := congrArg Core.records (core_closeFlow d cookie result error)
  exact manager_core (closed.trans (Core.records_closeFlow _ _ _ _))

theorem closeFlow_turn (d : Daemon) (cookie : QString) (result : Result) (error : QString) :
    Turn d.pinentryManager (· ∈ [cookie]) (closeFlow d cookie result error).pinentryManager := by
  rw [closeFlow_manager]
  exact .closed [cookie]

theorem act_refused (r : Records) (request : PinentryRequest) (actor : ActorInfo)
    (refused : ownedByOther r.pinentryManager request.cookie request.peerPid = true) :
    r.act (.pinentryRequest request actor) = r := if_pos refused

theorem act_turn (r : Records) (request : PinentryRequest) (actor : ActorInfo)
    (mine : ownedByOther r.pinentryManager request.cookie request.peerPid = false) :
    Turn r.pinentryManager (· = request.cookie) (r.act (.pinentryRequest request actor)).pinentryManager := by
  simp only [Records.act,mine,Bool.false_eq_true,if_false]
  exact .enrolled mine _

theorem handleRequest_turn (d : Daemon) (msg : QJsonObject) (socket : Socket) (peerPid : Pid) :
    let cookie := d.env.effectiveCookie msg
    (ownedByOther d.pinentryManager cookie peerPid = false →
      Turn d.pinentryManager (· = cookie) (handleRequest d msg socket peerPid).pinentryManager) ∧
    (ownedByOther d.pinentryManager cookie peerPid = true →
      (handleRequest d msg socket peerPid).pinentryManager = d.pinentryManager) := by
  obtain ⟨request,named,owner,handled⟩ : ∃ request : PinentryRequest,
      request.cookie = d.env.effectiveCookie msg ∧ request.peerPid = peerPid ∧
      (handleRequest d msg socket peerPid).pinentryManager =
        (d.core.records.act (.pinentryRequest request (d.env.resolveActorForPid peerPid))).pinentryManager :=
    ⟨_,rfl,rfl,manager_core ((congrArg Core.records (core_handleRequest d msg socket peerPid)).trans
      (Core.records_pinentryRequest _ _ _))⟩
  simp only
  rw [handled,← named,← owner]
  constructor
  · intro mine
    exact act_turn d.core.records request _ mine
  · intro refused
    exact congrArg Records.pinentryManager (act_refused d.core.records request _ refused)

theorem handleResponse_turn (d : Daemon) (cookie response : QString) :
    Turn d.pinentryManager (fun _ => False) (handleResponse d cookie response).2.pinentryManager := by
  unfold handleResponse
  cases pending : d.pinentryManager.pendingRequests.find cookie with
  | none =>
    simp only
    split <;> exact .idle
  | some request => exact .responded pending

theorem applyOutcome_turn (d : Daemon) (cookie : QString) (outcome : Outcome) (error : QString) :
    Turn d.pinentryManager (· ∈ [cookie]) (applyOutcome d cookie outcome error).pinentryManager := by
  cases outcome with
  | retry =>
    have retried := manager_core ((congrArg Core.records (core_applyOutcome d cookie .retry error)).trans
      (Core.records_applyOutcome _ _ _ _))
    have alone : (· ∈ [cookie]) = (· = cookie) := funext (fun _ => propext List.mem_singleton)
    rw [retried,alone]
    exact .retried cookie
  | success | cancelled | error => exact closeFlow_turn d cookie _ _

theorem handleResult_cases (d : Daemon) (msg : QJsonObject) (peerPid : Pid) :
    ((handleResult d msg peerPid).1 ≠ .ok none ∧ (handleResult d msg peerPid).2 = d) ∨
    ((handleResult d msg peerPid).1 = .ok none ∧ ∃ outcome, (handleResult d msg peerPid).2 =
      applyOutcome d (msg.value (text "id")).toString outcome (msg.value (text "error")).toString) := by
  unfold handleResult
  simp only
  split
  · exact .inl ⟨Message.noConfusion,rfl⟩
  · split
    · exact .inl ⟨Message.noConfusion,rfl⟩
    · split
      · exact .inl ⟨Message.noConfusion,rfl⟩
      · split
        · exact .inl ⟨Message.noConfusion,rfl⟩
        · next outcome parsed => exact .inr ⟨rfl,outcome,rfl⟩

theorem cleanupForSocket_turn (d : Daemon) (socket : Socket) :
    Turn d.pinentryManager (· ∈ d.core.records.flowsOf socket) (cleanupForSocket d socket).pinentryManager := by
  have dropped := manager_core ((congrArg Core.records (core_cleanupForSocket d socket)).trans
    (Core.records_pinentryDisconnect _ _))
  rw [dropped,Records.forgetFlows_manager]
  exact .closed _

theorem timeout_manager (d : Daemon) (running : d.pinentryManager.timers.find timer = some cookie) :
    (timeout d timer).pinentryManager =
      forgetFlow {d.pinentryManager with timers:=d.pinentryManager.timers.remove timer} cookie := by
  simp only [timeout,running,closeFlow_manager]
  rfl

theorem operate_turn (d : Daemon) (operation : Operation) :
    ∃ ended, Turn d.pinentryManager ended (operate d operation).pinentryManager ∧
      ∀ cookie, ended cookie ↔ operation.ends d cookie := by
  cases operation with
  | handleRequest env msg socket peerPid =>
    obtain ⟨accepted,refused⟩ := handleRequest_turn {d with env} msg socket peerPid
    cases mine : ownedByOther d.pinentryManager (env.effectiveCookie msg) peerPid with
    | false =>
      refine ⟨_,accepted mine,fun cookie => ⟨?_,And.left⟩⟩
      rintro rfl
      exact ⟨rfl,mine⟩
    | true =>
      refine ⟨fun _ => False,(refused mine).symm ▸ .idle,fun cookie => ⟨False.elim,?_⟩⟩
      rintro ⟨rfl,free⟩
      exact Bool.false_ne_true (free.symm.trans mine)
  | handleResponse cookie response => exact ⟨_,handleResponse_turn d cookie response,fun _ => Iff.rfl⟩
  | handleResult msg peerPid =>
    rcases handleResult_cases d msg peerPid with ⟨refused,same⟩ | ⟨accepted,outcome,applied⟩
    · refine ⟨fun _ => False,?_,fun cookie => ⟨False.elim,fun ended => refused ended.2⟩⟩
      simp only [operate,same]
      exact .idle
    · refine ⟨_,?_,fun cookie => List.mem_singleton.trans ⟨fun same => ⟨same,accepted⟩,And.left⟩⟩
      simp only [operate,applied]
      exact applyOutcome_turn d _ outcome _
  | handleCancel asked =>
    simp only [operate,handleCancel]
    split
    · next known =>
      refine ⟨_,closeFlow_turn d asked .cancelled [],fun cookie => List.mem_singleton.trans ⟨?_,And.left⟩⟩
      rintro rfl
      exact ⟨rfl,known⟩
    · next unknown =>
      refine ⟨fun _ => False,.idle,fun cookie => ⟨False.elim,?_⟩⟩
      rintro ⟨rfl,known⟩
      exact unknown known
  | cleanupForSocket socket =>
    exact ⟨_,cleanupForSocket_turn d socket,fun cookie => Records.mem_flowsOf d.core.records socket cookie⟩
  | timeout timer =>
    cases running : d.pinentryManager.timers.find timer with
    | none =>
      refine ⟨fun _ => False,?_,fun cookie => ⟨False.elim,fun fires => ?_⟩⟩
      · simp only [operate,timeout,running]
        exact .idle
      · rw [Operation.ends,running] at fires
        cases fires
    | some id =>
      refine ⟨(· = id),?_,fun cookie => ?_⟩
      · simp only [operate,timeout_manager d running]
        exact .expired running
      · rw [Operation.ends,running,Option.some.injEq]
        exact eq_comm
  | elsewhere agent => exact ⟨_,.idle,fun _ => Iff.rfl⟩

def Owned (m : PinentryManager) : Prop :=
  ∀ cookie awaiting, m.awaitingOutcome.find cookie = some awaiting → (m.flowOwners.find cookie).isSome = true

theorem turn_owned (sound : Sound m) (owned : Owned m) (turn : Turn m ended n) : Owned n := by
  intro cookie awaiting held
  obtain ⟨gone,kept⟩ := turn_flow turn cookie
  have waits : (flow n cookie).awaiting = some awaiting := held
  by_cases finished : ended cookie
  · rw [gone finished] at waits
    cases waits
  · rcases kept finished with same | ⟨request,pending,answered⟩
    · have before : m.awaitingOutcome.find cookie = some awaiting := (congrArg Flow.awaiting same).symm.trans held
      have owner : n.flowOwners.find cookie = m.flowOwners.find cookie := congrArg Flow.owner same
      rw [owner]
      exact owned cookie awaiting before
    · have owner : n.flowOwners.find cookie = m.flowOwners.find cookie := congrArg Flow.owner answered
      rw [owner,sound.owners cookie request pending]
      rfl

theorem reached_sound (path : operations.Reached d) : Sound d.pinentryManager ∧ Owned d.pinentryManager := by
  apply path.invariant (P := fun d => Sound d.pinentryManager ∧ Owned d.pinentryManager)
  · exact ⟨initial_sound,nofun⟩
  · intro d operation _ held _
    obtain ⟨ended,turn,_⟩ := operate_turn d operation
    exact ⟨turn_sound held.1 turn,turn_owned held.1 held.2 turn⟩

theorem turn_awaiting (turn : Turn m ended n) (held : n.awaitingOutcome.find cookie = some awaiting) :
    m.awaitingOutcome.find cookie = some awaiting ∨ awaiting.timer = m.nextTimer := by
  obtain ⟨gone,kept⟩ := turn_flow turn cookie
  have waits : (flow n cookie).awaiting = some awaiting := held
  by_cases finished : ended cookie
  · rw [gone finished] at waits
    cases waits
  · rcases kept finished with same | ⟨request,pending,answered⟩
    · exact .inl ((congrArg Flow.awaiting same).symm.trans held)
    · rw [answered] at waits
      cases waits
      exact .inr rfl

theorem turn_running (sound : Sound m) (turn : Turn m ended n) (below : timer < m.nextTimer)
    (running : n.timers.find timer = some cookie) : m.timers.find timer = some cookie ∧ ¬ended cookie := by
  obtain ⟨awaiting,held,equal⟩ := (turn_sound sound turn).meant timer cookie running
  subst equal
  constructor
  · rcases turn_awaiting turn held with before | fresh
    · exact sound.armed cookie awaiting before
    · exact absurd fresh (Nat.ne_of_lt below)
  · intro finished
    have waits : (flow n cookie).awaiting = some awaiting := held
    rw [(turn_flow turn cookie).1 finished] at waits
    cases waits

-- Running backwards: a timer that runs at the end of a run ran for the same id
-- all the time, and no step ended the flow of that id.
theorem running_undisturbed (path : operations.Reached d) (below : timer < d.pinentryManager.nextTimer)
    (admitted : operations.EveryFrom operations.enabled d after)
    (running : (operations.runFrom d after).pinentryManager.timers.find timer = some cookie) :
    d.pinentryManager.timers.find timer = some cookie ∧
      operations.EveryFrom (fun e operation => ¬operation.ends e cookie) d after := by
  induction after generalizing d with
  | nil => exact ⟨running,trivial⟩
  | cons operation rest ih =>
    obtain ⟨ended,turn,exactly⟩ := operate_turn d operation
    have later := ih (path.step admitted.1) (Nat.lt_of_lt_of_le below (turn_nextTimer turn)) admitted.2 running
    obtain ⟨before,untouched⟩ := turn_running (reached_sound path).1 turn below later.1
    exact ⟨before,fun ends => untouched ((exactly cookie).mpr ends),later.2⟩

theorem handleResponse_arms (d : Daemon) (pending : d.pinentryManager.pendingRequests.find cookie = some request) :
    (handleResponse d cookie response).2.pinentryManager = awaitOutcome d.pinentryManager request cookie := by
  simp only [handleResponse,pending]
  rfl

-- The states of a flow exclude each other, timers and awaited outcomes belong to
-- each other one by one, and the timer that a response starts is gone for good
-- once anything else ended the flow.
theorem timeouts_hit_their_submission (path : operations.Reached d) :
    (∀ cookie, ¬(d.pinentryManager.pendingRequests.contains cookie = true ∧
      d.pinentryManager.awaitingOutcome.contains cookie = true)) ∧
    (∀ cookie, d.pinentryManager.pendingRequests.contains cookie = true ∨
      d.pinentryManager.awaitingOutcome.contains cookie = true →
        d.pinentryManager.flowOwners.contains cookie = true) ∧
    (∀ timer cookie, d.pinentryManager.timers.find timer = some cookie ↔
      ∃ awaiting, d.pinentryManager.awaitingOutcome.find cookie = some awaiting ∧ awaiting.timer = timer) ∧
    (∀ cookie response, hasPendingInput d.pinentryManager cookie = true →
      let timer := d.pinentryManager.nextTimer
      let submitted := operate d (.handleResponse cookie response)
      submitted.pinentryManager.timers.find timer = some cookie ∧
      ∀ after, operations.EveryFrom operations.enabled submitted after →
        (operations.runFrom submitted after).pinentryManager.timers.contains timer = true →
          operations.EveryFrom (fun e operation => ¬operation.ends e cookie) submitted after ∧
          (operations.runFrom submitted after).pinentryManager.timers.find timer = some cookie) := by
  obtain ⟨sound,owned⟩ := reached_sound path
  refine ⟨?_,?_,?_,?_⟩
  · intro cookie both
    obtain ⟨pending,awaiting⟩ := both
    obtain ⟨request,asked⟩ := (Table.contains_iff _ _).mp pending
    rw [Table.contains,sound.apart cookie request asked] at awaiting
    cases awaiting
  · intro cookie known
    rcases known with pending | awaiting
    · obtain ⟨request,asked⟩ := (Table.contains_iff _ _).mp pending
      exact Option.isSome_of_eq_some (sound.owners cookie request asked)
    · obtain ⟨entry,held⟩ := (Table.contains_iff _ _).mp awaiting
      exact owned cookie entry held
  · intro timer cookie
    constructor
    · exact sound.meant timer cookie
    · rintro ⟨awaiting,held,rfl⟩
      exact sound.armed cookie awaiting held
  · intro cookie response pending
    obtain ⟨request,asked⟩ := (Table.contains_iff _ _).mp pending
    have armed : (operate d (.handleResponse cookie response)).pinentryManager = _ := handleResponse_arms d asked
    have running : (operate d (.handleResponse cookie response)).pinentryManager.timers.find
        d.pinentryManager.nextTimer = some cookie := by
      rw [armed]
      exact (awaitOutcome_sound sound request cookie).armed cookie ⟨request,_⟩
        ((awaitOutcome_awaiting _ _ _ _).trans (if_pos rfl))
    have stepped : operations.Reached (operate d (.handleResponse cookie response)) :=
      path.step (show operations.enabled d (.handleResponse cookie response) from trivial)
    refine ⟨running,fun after admitted still => ?_⟩
    obtain ⟨other,found⟩ := (Table.contains_iff _ _).mp still
    have below := (reached_sound stepped).1.fresh _ _ running
    obtain ⟨before,undisturbed⟩ := running_undisturbed stepped below admitted found
    cases running.symm.trans before
    exact ⟨undisturbed,found⟩

def asking : Operation := .handleRequest .quiet (.ofList [(text "cookie",.string (text "p"))]) 0 7

theorem asked_again_stopped :
    (operations.run [asking,.handleResponse (text "p") (text "1234"),asking]).pinentryManager.timers.contains 0 = false := by
  have asked : operations.Reached (operations.run [asking]) := Machine.Reached.initial.step (show operations.enabled .initial asking from trivial)
  obtain ⟨_,_,_,submissions⟩ := timeouts_hit_their_submission asked
  have submission := (submissions (text "p") (text "1234") (by decide +kernel)).2 [asking] ⟨trivial,trivial⟩
  apply Bool.eq_false_iff.mpr
  intro still
  exact (submission still).1.1 ⟨by decide +kernel,by decide +kernel⟩

end BbAuth.PinentryManager
