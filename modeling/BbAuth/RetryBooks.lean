import BbAuth.Bookkeeping
import BbAuth.Library.History

open Library
namespace BbAuth

namespace PinentryManager

-- What a request without a marker in its description is given.
def given (m : PinentryManager) (keyinfo : QString) : Int × Int :=
  let info := (m.retryInfo.find keyinfo).getD {}
  (if info.curRetry < 0 then 0 else info.curRetry,if info.maxRetries ≤ 0 then 3 else info.maxRetries)

theorem given_none (none : m.retryInfo.find keyinfo = none) : given m keyinfo = (0,3) := by
  unfold given
  rw [none]
  rfl

theorem enterFlow_given (m : PinentryManager) (request : PinentryRequest) (unmarked : matchAttempts request.description = none) :
    (enterFlow m request).1 = if request.keyinfo.isEmpty then (0,3) else given m request.keyinfo := by
  unfold enterFlow resolveRetryInfo given
  cases named : request.keyinfo.isEmpty with
  | true => simp [unmarked]
  | false =>
    simp only [unmarked,Bool.false_eq_true,if_false,Option.isSome_none]
    generalize (m.retryInfo.find request.keyinfo).getD {} = info
    by_cases low : info.maxRetries ≤ 0
    · simp [low,Int.not_lt.mpr low]
    · simp [low,Int.not_le.mp low]

theorem enterFlow_marked (m n : PinentryManager) (request : PinentryRequest) (marked : matchAttempts request.description = some counts) :
    (enterFlow m request).1 = (enterFlow n request).1 := by
  unfold enterFlow resolveRetryInfo
  cases named : request.keyinfo.isEmpty with
  | true => simp [marked]
  | false => simp [marked]

-- Which flows are open, the last keyinfo of each, and what is stored of the
-- attempts under a keyinfo.
structure Counters where
  owner : QString → Option Pid
  keyinfo : QString → Option QString
  info : QString → Option PinentryRetryInfo

def counters (m : PinentryManager) : Counters := ⟨m.flowOwners.find,m.flowKeyinfos.find,m.retryInfo.find⟩

def Counters.forget (n : Counters) (cookie : QString) : Counters where
  owner other := if other = cookie then none else n.owner other
  keyinfo other := if other = cookie then none else n.keyinfo other
  info key := if key ≠ [] ∧ n.keyinfo cookie = some key then none else n.info key

theorem counters_cleanupAwaiting (m : PinentryManager) (cookie : QString) : counters (cleanupAwaiting m cookie) = counters m := by
  unfold cleanupAwaiting
  split
  · rfl
  · rfl

theorem counters_forgetFlow (m : PinentryManager) (cookie : QString) : counters (forgetFlow m cookie) = (counters m).forget cookie := by
  have cleaned := counters_cleanupAwaiting {m with pendingRequests:=m.pendingRequests.remove cookie} cookie
  unfold forgetFlow
  simp only
  revert cleaned
  generalize cleanupAwaiting {m with pendingRequests:=m.pendingRequests.remove cookie} cookie = n
  intro cleaned
  have before : counters n = counters m := cleaned
  rw [← before]
  unfold counters Counters.forget
  simp only [Counters.mk.injEq]
  refine ⟨funext fun other => Table.find_remove _ _ _,funext fun other => Table.find_remove _ _ _,funext fun key => ?_⟩
  cases last : n.flowKeyinfos.find cookie with
  | none => simp
  | some keyinfo =>
    cases keyinfo with
    | nil =>
      have other : ¬(key ≠ [] ∧ some [] = some key) := fun both => both.1 (Option.some.inj both.2).symm
      rw [if_neg other]
      rfl
    | cons c rest =>
      simp only [Option.getD_some,List.isEmpty_cons,Bool.false_eq_true,if_false,Table.find_remove,Option.some.injEq]
      by_cases same : key = c :: rest
      · subst same
        simp
      · rw [if_neg same,if_neg (fun both => same both.2.symm)]

theorem forgets_own (own : Counters → QString → Option β)
    (forgets : ∀ n cookie other, own (n.forget cookie) other = if other = cookie then none else own n other)
    (cookies : List QString) (n : Counters) (other : QString) :
    own (cookies.foldl Counters.forget n) other = if other ∈ cookies then none else own n other := by
  induction cookies generalizing n with
  | nil => rfl
  | cons cookie rest ih =>
    rw [List.foldl_cons,ih,forgets]
    by_cases later : other ∈ rest
    · simp [later]
    · simp only [List.mem_cons,later,or_false,if_false]

theorem forgets_owner (cookies : List QString) (n : Counters) (other : QString) :
    (cookies.foldl Counters.forget n).owner other = if other ∈ cookies then none else n.owner other :=
  forgets_own Counters.owner (fun _ _ _ => rfl) cookies n other

theorem forgets_keyinfo (cookies : List QString) (n : Counters) (other : QString) :
    (cookies.foldl Counters.forget n).keyinfo other = if other ∈ cookies then none else n.keyinfo other :=
  forgets_own Counters.keyinfo (fun _ _ _ => rfl) cookies n other

theorem forgets_info_gone (cookies : List QString) (n : Counters) (gone : n.info key = none) :
    (cookies.foldl Counters.forget n).info key = none := by
  induction cookies generalizing n with
  | nil => exact gone
  | cons cookie rest ih =>
    apply ih
    simp only [Counters.forget,gone,ite_self]

-- What is stored under a keyinfo goes with every flow whose last one it is.
theorem forgets_info_none (cookies : List QString) (n : Counters) (named : key ≠ []) (last : cookie ∈ cookies)
    (keyed : n.keyinfo cookie = some key) : (cookies.foldl Counters.forget n).info key = none := by
  induction cookies generalizing n with
  | nil => cases last
  | cons first rest ih =>
    rw [List.foldl_cons]
    by_cases same : cookie = first
    · apply forgets_info_gone
      simp only [Counters.forget,← same,keyed]
      exact if_pos ⟨named,trivial⟩
    · apply ih _ ((List.mem_cons.mp last).resolve_left same)
      simp only [Counters.forget,if_neg same,keyed]

theorem forgets_info_kept (cookies : List QString) (n : Counters) (key : QString)
    (other : ∀ cookie ∈ cookies, n.keyinfo cookie ≠ some key) : (cookies.foldl Counters.forget n).info key = n.info key := by
  induction cookies generalizing n with
  | nil => rfl
  | cons cookie rest ih =>
    obtain ⟨here,others⟩ := List.forall_mem_cons.mp other
    rw [List.foldl_cons,ih]
    · exact if_neg (fun both => here both.2)
    · intro later present
      simp only [Counters.forget]
      split
      · nofun
      · exact others later present

theorem forgetFlows_counters (cookies : List QString) (m : PinentryManager) :
    counters (cookies.foldl forgetFlow m) = cookies.foldl Counters.forget (counters m) := by
  induction cookies generalizing m with
  | nil => rfl
  | cons cookie rest ih =>
    rw [List.foldl_cons,List.foldl_cons,ih,counters_forgetFlow]

theorem enterFlow_owner (m : PinentryManager) (request : PinentryRequest) (other : QString) :
    (counters (enterFlow m request).2).owner other =
      if other = request.cookie then some request.peerPid else (counters m).owner other :=
  ((enterFlow_same m request).owners other).trans (Table.find_insert _ _ _ _)

theorem resolveRetryInfo_keyinfos (m : PinentryManager) (request : PinentryRequest) :
    (resolveRetryInfo m request).2.flowKeyinfos = m.flowKeyinfos := by
  unfold resolveRetryInfo
  cases request.keyinfo.isEmpty with
  | true => rfl
  | false =>
    simp only [Bool.false_eq_true,if_false]
    split
    · rfl
    · rfl

theorem enterFlow_keyinfo (m : PinentryManager) (request : PinentryRequest) (other : QString) :
    (counters (enterFlow m request).2).keyinfo other =
      if other = request.cookie ∧ request.keyinfo ≠ [] then some request.keyinfo else (counters m).keyinfo other := by
  unfold counters enterFlow
  simp only [resolveRetryInfo_keyinfos]
  cases named : request.keyinfo with
  | nil => simp
  | cons c rest =>
    simp only [List.isEmpty_cons,Bool.false_eq_true,if_false,Table.find_insert]
    exact if_congr (by simp) rfl rfl

theorem resolveRetryInfo_info (m : PinentryManager) (request : PinentryRequest) (other : key ≠ request.keyinfo) :
    (resolveRetryInfo m request).2.retryInfo.find key = m.retryInfo.find key := by
  unfold resolveRetryInfo
  cases request.keyinfo.isEmpty with
  | true => rfl
  | false =>
    simp only [Bool.false_eq_true,if_false]
    split
    · exact Table.find_insert_other _ _ other
    · exact Table.find_insert_other _ _ other

theorem enterFlow_info (m : PinentryManager) (request : PinentryRequest) (other : key ≠ request.keyinfo) :
    (counters (enterFlow m request).2).info key = (counters m).info key := by
  unfold counters enterFlow
  simp only
  rw [resolveRetryInfo_info _ _ other]
  split
  · rfl
  · rfl

end PinentryManager

namespace Records

open PinentryManager (counters enterFlow ownedByOther Counters)

def closings (r : Records) : Action → List QString
  | .disconnect socket => r.flowsOf socket
  | .pinentryCancel cookie => [cookie]
  | .pinentryOutcome _ .retry _ => []
  | .pinentryOutcome cookie _ _ => [cookie]
  | .timeout timer => (r.pinentryManager.timers.find timer).toList
  | _ => []

theorem disconnect_forgets (r : Records) (socket : Socket) :
    (r.disconnect socket).pinentryManager = (r.flowsOf socket).foldl PinentryManager.forgetFlow r.pinentryManager := by
  have state : (r.setSocketState socket .unconnected).pinentryManager = r.pinentryManager := by
    unfold setSocketState
    split
    · rfl
    · rfl
  unfold disconnect
  simp only
  rw [forgetFlows_manager,(forgetKeyrings_other _ _).1,state]
  unfold flowsOf
  rw [(forgetKeyrings_other _ _).1,state]

theorem closings_counters (r : Records) (action : Action) (other : ∀ request actor, action ≠ .pinentryRequest request actor) :
    counters (r.act action).pinentryManager = (r.closings action).foldl Counters.forget (counters r.pinentryManager) := by
  cases action with
  | pinentryRequest request actor => exact absurd rfl (other request actor)
  | disconnect socket =>
    change counters (r.disconnect socket).pinentryManager = _
    rw [disconnect_forgets]
    exact PinentryManager.forgetFlows_counters _ _
  | pinentryRespond cookie response =>
    simp only [act]
    split
    · rfl
    · exact PinentryManager.counters_cleanupAwaiting _ _
  | pinentryCancel cookie => exact PinentryManager.counters_forgetFlow _ _
  | pinentryOutcome cookie outcome error =>
    cases outcome with
    | retry => exact PinentryManager.counters_cleanupAwaiting _ _
    | success | cancelled | error => exact PinentryManager.counters_forgetFlow _ _
  | timeout timer =>
    simp only [act,closings]
    cases r.pinentryManager.timers.find timer with
    | none => rfl
    | some cookie => exact PinentryManager.counters_forgetFlow _ _
  | socketState socket state =>
    simp only [act,setSocketState]
    split
    · rfl
    · rfl
  | idle | connect | keyringRequest | keyringConclude | submit | initiate | polkit => rfl

theorem act_counters (r : Records) (action : Action) :
    (∃ request actor, action = .pinentryRequest request actor ∧
      ownedByOther r.pinentryManager request.cookie request.peerPid = false ∧
      counters (r.act action).pinentryManager = counters (enterFlow r.pinentryManager request).2) ∨
    ((∀ request actor, action = .pinentryRequest request actor →
      ownedByOther r.pinentryManager request.cookie request.peerPid = true) ∧
      counters (r.act action).pinentryManager = (r.closings action).foldl Counters.forget (counters r.pinentryManager)) := by
  by_cases asks : ∃ request actor, action = .pinentryRequest request actor
  · obtain ⟨request,actor,rfl⟩ := asks
    cases owned : ownedByOther r.pinentryManager request.cookie request.peerPid with
    | true =>
      refine .inr ⟨?_,?_⟩
      · rintro _ _ ⟨⟩
        exact owned
      · simp only [act,owned,if_true]
        rfl
    | false =>
      refine .inl ⟨request,actor,rfl,owned,?_⟩
      simp only [act,owned,Bool.false_eq_true,if_false]
      exact PinentryManager.counters_cleanupAwaiting _ _
  · have other : ∀ request actor, action ≠ .pinentryRequest request actor := by
      intro request actor same
      exact asks ⟨request,actor,same⟩
    refine .inr ⟨?_,closings_counters r action other⟩
    intro request actor same
    exact absurd same (other request actor)

end Records

namespace Core

open PinentryManager (enterFlow ownedByOther)

variable {c m e : Core} {retry : Int × Int}

def Counts (retry : Int × Int) (effect : Effect) : Prop :=
  ∀ id source ctx, effect = .emitted (.created id source ctx) → ctx.curRetry = some retry.1 ∧ ctx.maxRetries = some retry.2

theorem counts_updateSession (c : Core) (id : QString) (change : Session → Session) :
    Grown (Counts retry) c.history (c.updateSession id change).history := by
  unfold updateSession
  split
  · exact .same rfl
  · exact .one c.history (fun _ _ _ same => by cases same)

theorem counts_reportRetry (c : Core) (request : PinentryRequest) :
    Grown (Counts retry) c.history (c.reportRetry request).history := by
  unfold reportRetry
  split
  · exact counts_updateSession (c.withPinentry _) _ _
  · exact .same rfl

theorem counts_present (c : Core) (request : PinentryRequest) (actor : ActorInfo) (retry : Int × Int) (sessionExists : Bool) :
    Grown (Counts retry) c.history (c.present request actor retry sessionExists).history := by
  unfold present
  cases sessionExists with
  | true =>
    have counted : Grown (Counts retry) c.history (c.setPinentryRetry request.cookie retry.1 retry.2).history := by
      unfold setPinentryRetry
      split
      · exact .same rfl
      · exact .same rfl
    exact counted.trans (counts_updateSession _ _ _)
  | false =>
    have created : Grown (Counts retry) c.history
        (c.createSession request.cookie .pinentry (PinentryManager.contextOf request actor retry)).history := by
      apply Grown.one c.history
      intro id source ctx same
      cases same
      exact ⟨rfl,rfl⟩
    exact created.trans (counts_updateSession _ _ _)

theorem counts_reportRequestError (c : Core) (request : PinentryRequest) :
    Grown (Counts retry) c.history (c.reportRequestError request).history := by
  unfold reportRequestError
  simp only
  split
  · exact counts_updateSession (c.withPinentry _) _ _
  · exact .same rfl

theorem counts_pinentryRequest (c : Core) (request : PinentryRequest) (actor : ActorInfo) :
    Grown (Counts (enterFlow c.pinentryManager request).1) c.history (c.pinentryRequest request actor).history := by
  have logged : Grown (Counts (enterFlow c.pinentryManager request).1) c.history
      (c.log (.requested .pinentry request.socket request.peerPid request.cookie)).history :=
    .one c.history (fun _ _ _ same => by cases same)
  unfold pinentryRequest
  simp only
  split
  · exact logged
  · apply logged.trans
    apply Grown.trans _ (counts_reportRequestError _ request)
    apply Grown.trans _ (counts_present _ request actor _ _)
    exact counts_reportRetry ((c.log _).withPinentry _) request

end Core

end BbAuth
