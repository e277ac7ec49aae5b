import BbAuth.Bookkeeping
import BbAuth.SessionHistory

open Library
namespace BbAuth

open PinentryManager (Flow)

namespace Core

variable {id : QString}

def flow (c : Core) (id : QString) : Flow := PinentryManager.flow c.pinentryManager id

theorem flow_records (same : e.records = r) (id : QString) : flow e id = PinentryManager.flow r.pinentryManager id := by
  rw [← same]
  rfl

theorem hasPinentrySession_iff (c : Core) (id : QString) :
    c.hasPinentrySession id = true ↔ c.source id = some .pinentry := by
  unfold hasPinentrySession source
  cases c.sessionStore.find id with
  | none => simp
  | some session => simp

theorem source_closeFlow (c : Core) (cookie other : QString) (result : Result) (error : QString) :
    (c.closeFlow cookie result error).source other =
      if other = cookie ∧ c.source cookie = some .pinentry then none else c.source other := by
  have kept : (c.closeFlow cookie result error).source other =
      (c.endPinentrySession cookie result error).source other := rfl
  rw [kept]
  unfold endPinentrySession
  by_cases mine : c.source cookie = some .pinentry
  · rw [if_pos ((hasPinentrySession_iff c cookie).mpr mine)]
    have told : (if error.isEmpty then c else c.updateSession cookie (·.setError error)).source other =
        c.source other := by
      split
      · rfl
      · exact source_updateSession c cookie other _ (fun _ => ⟨rfl,rfl⟩)
    rw [source_closeSession,told]
    simp only [mine,and_true]
  · rw [if_neg (fun held => mine ((hasPinentrySession_iff c cookie).mp held)),if_neg (fun both => mine both.2)]

theorem tends_source (tends : Tends c e) (id : QString) (source : Source) (still : e.source id = some source) :
    c.source id = some source := by
  induction tends with
  | refl => exact still
  | tail _ tending ih => exact ih (tending_source tending id source still)

theorem closeFlow_closes (still : (closeFlow c cookie result error).source id = some .pinentry) :
    id ≠ cookie ∧ c.source id = some .pinentry := by
  rw [source_closeFlow] at still
  split at still
  · cases still
  · next other => exact ⟨fun same => other ⟨same,same ▸ still⟩,still⟩

theorem pinentryForgets_close (cookies : List QString) (c : Core)
    (still : (cookies.foldl pinentryForget c).source id = some .pinentry) :
    id ∉ cookies ∧ c.source id = some .pinentry := by
  induction cookies generalizing c with
  | nil => exact ⟨List.not_mem_nil,still⟩
  | cons cookie rest ih =>
    obtain ⟨later,closed⟩ := ih _ still
    obtain ⟨different,before⟩ := closeFlow_closes closed
    exact ⟨fun listed => (List.mem_cons.mp listed).elim different later,before⟩

theorem keyringDisconnect_flow (c : Core) (socket : Socket) : flow (c.keyringDisconnect socket) id = flow c id := by
  rw [flow_records (records_keyringDisconnect c socket),(Records.forgetKeyrings_other _ _).1]
  rfl

theorem setSocketState_flow (c : Core) (socket : Socket) (state : LocalSocketState) :
    flow (c.setSocketState socket state) id = flow c id := by
  rw [flow_records (records_setSocketState c socket state),(Records.setSocketState_other _ _ _).2.1]
  rfl

theorem pinentryDisconnect_flow (c : Core) (socket : Socket)
    (still : (c.pinentryDisconnect socket).source id = some .pinentry) :
    c.source id = some .pinentry ∧ flow (c.pinentryDisconnect socket) id = flow c id := by
  obtain ⟨other,open_⟩ := pinentryForgets_close (c.records.flowsOf socket) c still
  rw [flow_records (records_pinentryDisconnect c socket),Records.forgetFlows_flow,if_neg other]
  exact ⟨open_,rfl⟩

theorem disconnect_flow (c : Core) (socket : Socket) (still : (c.disconnect socket).source id = some .pinentry) :
    c.source id = some .pinentry ∧ flow (c.disconnect socket) id = flow c id := by
  unfold disconnect at still ⊢
  obtain ⟨open_,same⟩ := pinentryDisconnect_flow _ _ (tends_source (Tends.deleteSocket _ _) id _ still)
  have tends := (Tends.setSocketState c socket .unconnected).trans (Tends.keyringDisconnect _ socket)
  refine ⟨tends_source tends id _ open_,?_⟩
  rw [keyringDisconnect_flow,setSocketState_flow] at same
  exact same

-- How a session that is a pinentry session after an action came to be one, and
-- where its flow is then.
inductive Continues (c : Core) (action : Action) (e : Core) (id : QString) : Prop where
  | entered (request : PinentryRequest) (actor : ActorInfo) (same : action = .pinentryRequest request actor)
      (cookie : request.cookie = id)
      (mine : PinentryManager.ownedByOther c.pinentryManager request.cookie request.peerPid = false)
      (flow : flow e id = ⟨some request,none,some request.peerPid⟩)
  | kept (source : c.source id = some .pinentry) (flow : flow e id = flow c id)
  | responded (source : c.source id = some .pinentry) (response : QString) (same : action = .pinentryRespond id response)
      (request : PinentryRequest) (pending : (Core.flow c id).pending = some request)
      (flow : ∃ timer, flow e id = ⟨none,some ⟨request,timer⟩,(flow c id).owner⟩)
  | retried (source : c.source id = some .pinentry) (error : QString) (same : action = .pinentryOutcome id .retry error)
      (flow : flow e id = {flow c id with awaiting:=none})

theorem enrolled_flow (c : Core) (request : PinentryRequest) (actor : ActorInfo)
    (mine : PinentryManager.ownedByOther c.pinentryManager request.cookie request.peerPid = false) (other : QString) :
    flow (c.pinentryRequest request actor) other =
      if other = request.cookie then ⟨some request,none,some request.peerPid⟩ else flow c other := by
  rw [flow_records (records_pinentryRequest c request actor) other]
  exact Records.act_enrol c.records request actor other mine

theorem pinentryRequest_continues (c : Core) (request : PinentryRequest) (actor : ActorInfo)
    (acts : Acts c (.pinentryRequest request actor) (c.pinentryRequest request actor))
    (still : (c.pinentryRequest request actor).source id = some .pinentry) :
    Continues c (.pinentryRequest request actor) (c.pinentryRequest request actor) id := by
  by_cases mine : PinentryManager.ownedByOther c.pinentryManager request.cookie request.peerPid = false
  · have flow := enrolled_flow c request actor mine id
    by_cases same : id = request.cookie
    · rw [if_pos same] at flow
      exact .entered request actor rfl same.symm mine flow
    · rw [if_neg same] at flow
      refine .kept ?_ flow
      -- Whether the request joins a session or opens one, `id` is not concerned.
      cases opens : c.opens (.pinentryRequest request actor) with
      | none => exact tends_source (acts_tends acts opens) id _ still
      | some target =>
        obtain ⟨other,kind⟩ := target
        obtain ⟨m,announces⟩ := acts_opens acts opens
        obtain ⟨ctx,after⟩ := announces.after
        have opened := tends_source after id _ still
        rw [source_createSession,if_neg] at opened
        · exact tends_source announces.before id _ opened
        · intro equal
          unfold Core.opens at opens
          simp only [mine,if_false,Bool.false_eq_true] at opens
          split at opens
          · cases opens
          · cases opens; exact same equal
  · have owned := (Bool.not_eq_false _).mp mine
    rw [pinentryRequest_refused c request actor owned] at still ⊢
    exact .kept still rfl

theorem createSession_source {source : Source} (c : Core) (ctx : Context) (other : source ≠ .pinentry)
    (still : (c.createSession cookie source ctx).source id = some .pinentry) : c.source id = some .pinentry := by
  rw [source_createSession] at still
  split at still
  · cases still; exact absurd rfl other
  · exact still

theorem acts_continues (acts : Acts c action e) (still : e.source id = some .pinentry) : Continues c action e id := by
  have records := acts_records acts
  have forgotten {cookie : QString} (closed : c.records.act action = c.records.forgetFlow cookie)
      (different : id ≠ cookie) : flow e id = flow c id := by
    rw [flow_records (records.trans closed)]
    exact (PinentryManager.flow_forgetFlow _ cookie id).trans (if_neg different)
  cases acts with
  | idle | connect => exact .kept still rfl
  | socketState known later =>
    refine .kept (tends_source (Tends.setSocketState c _ _) id _ still) ((flow_records records id).trans ?_)
    rw [Records.act,(Records.setSocketState_other _ _ _).2.1]
    rfl
  | disconnect known =>
    obtain ⟨source,flow⟩ := disconnect_flow c _ still
    exact .kept source flow
  | keyringRequest known peer named =>
    refine .kept ?_ (flow_records records id)
    have opened := tends_source (Tends.setPrompt _ _ _ _ _) id _ still
    refine createSession_source _ _ ?_ opened
    intro same
    cases same
  | keyringConclude pending plain =>
    exact .kept (tends_source (Tends.keyringConclude c _ _ _) id _ still) (flow_records records id)
  | @pinentryRequest _ _ request actor known peer named =>
    exact pinentryRequest_continues c request actor (.pinentryRequest known peer named) still
  | @pinentryRespond _ _ cookie response free pending =>
    have source := tends_source (Tends.pinentryRespond c _ _) id _ still
    have manager : c.records.pinentryManager = c.pinentryManager := rfl
    simp only [Records.act,manager,pending] at records
    have flow := flow_records records id
    rw [PinentryManager.flow_awaitOutcome] at flow
    by_cases same : id = cookie
    · rw [if_pos same] at flow
      subst same
      exact .responded source response rfl _ pending ⟨_,flow⟩
    · rw [if_neg same] at flow
      exact .kept source flow
  | @pinentryCancel _ cookie =>
    have source : (c.closeFlow cookie .cancelled []).source id = some .pinentry := by
      unfold pinentryCancel at still
      simp only at still
      split at still
      · exact still
      · exact tends_source (Tends.answer _ _ _ _ _) id _ still
    obtain ⟨different,before⟩ := closeFlow_closes source
    exact .kept before (forgotten rfl different)
  | @pinentryOutcome _ cookie outcome error known =>
    cases outcome with
    | retry =>
      have source := tends_source (Tends.applyOutcome c _ _ _) id _ still
      have flow := (flow_records records id).trans (PinentryManager.flow_cleanupAwaiting _ cookie id)
      by_cases same : id = cookie
      · rw [if_pos same] at flow
        subst same
        exact .retried source error rfl flow
      · rw [if_neg same] at flow
        exact .kept source flow
    | success | cancelled | error =>
      obtain ⟨different,before⟩ := closeFlow_closes still
      exact .kept before (forgotten rfl different)
  | timeout running =>
    have manager : c.records.pinentryManager = c.pinentryManager := rfl
    simp only [timeout,running] at still
    obtain ⟨different,before⟩ := closeFlow_closes still
    simp only [Records.act,manager,running] at records
    refine .kept before ?_
    rw [flow_records records]
    exact (PinentryManager.flow_forgetFlow _ _ id).trans (if_neg different)
  | submit found source moves =>
    exact .kept (tends_source (.ofMoves moves) id _ still) (flow_records records id)
  | initiate before same after =>
    have opened := tends_source (.ofMoves after) id _ still
    refine .kept (tends_source (.ofMoves before) id _ (createSession_source _ _ ?_ opened)) (flow_records records id)
    intro same
    cases same
  | polkit moves => exact .kept (tends_source (.ofMoves moves) id _ still) (flow_records records id)

end Core

end BbAuth
