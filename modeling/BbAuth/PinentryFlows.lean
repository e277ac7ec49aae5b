import BbAuth.PinentryManager

open Library
namespace BbAuth

namespace PinentryManager

-- Where a flow is: pending_input, awaiting_terminal with a running timer, or in
-- neither; and whose it is.
structure Sound (m : PinentryManager) : Prop where
  ids : ∀ cookie request, m.pendingRequests.find cookie = some request → request.cookie = cookie
  owners : ∀ cookie request, m.pendingRequests.find cookie = some request →
    m.flowOwners.find cookie = some request.peerPid
  apart : ∀ cookie request, m.pendingRequests.find cookie = some request → m.awaitingOutcome.find cookie = none
  armed : ∀ cookie awaiting, m.awaitingOutcome.find cookie = some awaiting →
    m.timers.find awaiting.timer = some cookie
  meant : ∀ timer cookie, m.timers.find timer = some cookie →
    ∃ awaiting, m.awaitingOutcome.find cookie = some awaiting ∧ awaiting.timer = timer
  fresh : ∀ timer cookie, m.timers.find timer = some cookie → timer < m.nextTimer

theorem initial_sound : Sound {} := ⟨nofun,nofun,nofun,nofun,nofun,nofun⟩

structure Same (m n : PinentryManager) : Prop where
  pending : ∀ cookie, n.pendingRequests.find cookie = m.pendingRequests.find cookie
  owners : ∀ cookie, n.flowOwners.find cookie = m.flowOwners.find cookie
  awaiting : ∀ cookie, n.awaitingOutcome.find cookie = m.awaitingOutcome.find cookie
  timers : ∀ timer, n.timers.find timer = m.timers.find timer
  next : n.nextTimer = m.nextTimer

theorem Same.sound (same : Same m n) (sound : Sound m) : Sound n where
  ids cookie request found := sound.ids cookie request (by rwa [same.pending] at found)
  owners cookie request found := by
    rw [same.owners]
    exact sound.owners cookie request (by rwa [same.pending] at found)
  apart cookie request found := by
    rw [same.awaiting]
    exact sound.apart cookie request (by rwa [same.pending] at found)
  armed cookie awaiting found := by
    rw [same.timers]
    exact sound.armed cookie awaiting (by rwa [same.awaiting] at found)
  meant timer cookie found := by
    rw [same.awaiting]
    exact sound.meant timer cookie (by rwa [same.timers] at found)
  fresh timer cookie found := by
    rw [same.next]
    exact sound.fresh timer cookie (by rwa [same.timers] at found)

theorem reported_sound (sound : Sound m) (retryReported : Table QString Unit) : Sound {m with retryReported} :=
  ⟨sound.ids,sound.owners,sound.apart,sound.armed,sound.meant,sound.fresh⟩

@[simp] theorem cleanupAwaiting_pendingRequests (m : PinentryManager) (cookie : QString) :
    (cleanupAwaiting m cookie).pendingRequests = m.pendingRequests := by
  unfold cleanupAwaiting; split <;> rfl

@[simp] theorem cleanupAwaiting_flowOwners (m : PinentryManager) (cookie : QString) :
    (cleanupAwaiting m cookie).flowOwners = m.flowOwners := by
  unfold cleanupAwaiting; split <;> rfl

@[simp] theorem cleanupAwaiting_nextTimer (m : PinentryManager) (cookie : QString) :
    (cleanupAwaiting m cookie).nextTimer = m.nextTimer := by
  unfold cleanupAwaiting; split <;> rfl

theorem cleanupAwaiting_awaiting (m : PinentryManager) (cookie other : QString) :
    (cleanupAwaiting m cookie).awaitingOutcome.find other =
      if other = cookie then none else m.awaitingOutcome.find other := by
  unfold cleanupAwaiting
  cases found : m.awaitingOutcome.find cookie with
  | none =>
    by_cases same : other = cookie
    · rw [if_pos same,same]; exact found
    · rw [if_neg same]
  | some awaiting => exact Table.find_remove _ _ _

theorem cleanupAwaiting_timers (sound : Sound m) (cookie : QString) (timer : Timer) :
    (cleanupAwaiting m cookie).timers.find timer =
      if m.timers.find timer = some cookie then none else m.timers.find timer := by
  unfold cleanupAwaiting
  cases found : m.awaitingOutcome.find cookie with
  | none =>
    by_cases mine : m.timers.find timer = some cookie
    · obtain ⟨awaiting,held,_⟩ := sound.meant timer cookie mine
      rw [found] at held
      cases held
    · rw [if_neg mine]
  | some awaiting =>
    simp only [Table.find_remove]
    by_cases same : timer = awaiting.timer
    · rw [if_pos same,if_pos (same ▸ sound.armed cookie awaiting found)]
    · rw [if_neg same,if_neg]
      intro mine
      obtain ⟨held,found',equal⟩ := sound.meant timer cookie mine
      rw [found] at found'
      cases found'
      exact same equal.symm

theorem cleanupAwaiting_sound (sound : Sound m) (cookie : QString) : Sound (cleanupAwaiting m cookie) where
  ids other request found := sound.ids other request (by simpa using found)
  owners other request found := by
    rw [cleanupAwaiting_flowOwners]
    exact sound.owners other request (by simpa using found)
  apart other request found := by
    rw [cleanupAwaiting_awaiting]
    split
    · rfl
    · exact sound.apart other request (by simpa using found)
  armed other awaiting found := by
    rw [cleanupAwaiting_awaiting] at found
    split at found
    · cases found
    · next different =>
      have running := sound.armed other awaiting found
      rw [cleanupAwaiting_timers sound,running,if_neg (fun same => different (Option.some.inj same))]
  meant timer other found := by
    rw [cleanupAwaiting_timers sound] at found
    split at found
    · cases found
    · next different =>
      obtain ⟨awaiting,held,equal⟩ := sound.meant timer other found
      refine ⟨awaiting,?_,equal⟩
      rw [cleanupAwaiting_awaiting,if_neg]
      · exact held
      · rintro rfl
        exact different found
  fresh timer other found := by
    rw [cleanupAwaiting_timers sound] at found
    split at found
    · cases found
    · rw [cleanupAwaiting_nextTimer]
      exact sound.fresh timer other found

theorem forgetFlow_pending (m : PinentryManager) (cookie other : QString) :
    (forgetFlow m cookie).pendingRequests.find other =
      if other = cookie then none else m.pendingRequests.find other := by
  simp only [forgetFlow,cleanupAwaiting_pendingRequests]
  exact Table.find_remove _ _ _

theorem forgetFlow_owners (m : PinentryManager) (cookie other : QString) :
    (forgetFlow m cookie).flowOwners.find other = if other = cookie then none else m.flowOwners.find other := by
  simp only [forgetFlow,cleanupAwaiting_flowOwners]
  exact Table.find_remove _ _ _

theorem forgetFlow_awaiting (m : PinentryManager) (cookie other : QString) :
    (forgetFlow m cookie).awaitingOutcome.find other =
      if other = cookie then none else m.awaitingOutcome.find other := cleanupAwaiting_awaiting _ cookie other

theorem removePending_sound (sound : Sound m) (cookie : QString) :
    Sound {m with pendingRequests:=m.pendingRequests.remove cookie} where
  ids other request found := by
    rw [Table.find_remove] at found
    split at found
    · cases found
    · exact sound.ids other request found
  owners other request found := by
    rw [Table.find_remove] at found
    split at found
    · cases found
    · exact sound.owners other request found
  apart other request found := by
    rw [Table.find_remove] at found
    split at found
    · cases found
    · exact sound.apart other request found
  armed := sound.armed
  meant := sound.meant
  fresh := sound.fresh

theorem forgetFlow_sound (sound : Sound m) (cookie : QString) : Sound (forgetFlow m cookie) where
  ids other request found := by
    rw [forgetFlow_pending] at found
    split at found
    · cases found
    · exact sound.ids other request found
  owners other request found := by
    rw [forgetFlow_pending] at found
    rw [forgetFlow_owners]
    split at found
    · cases found
    · next different => rw [if_neg different]; exact sound.owners other request found
  apart other request found := by
    rw [forgetFlow_pending] at found
    rw [forgetFlow_awaiting]
    split at found
    · cases found
    · next different => rw [if_neg different]; exact sound.apart other request found
  armed := (cleanupAwaiting_sound (removePending_sound sound cookie) cookie).armed
  meant := (cleanupAwaiting_sound (removePending_sound sound cookie) cookie).meant
  fresh := (cleanupAwaiting_sound (removePending_sound sound cookie) cookie).fresh

-- The timer that fired is the one that cleanupAwaiting would have stopped.
theorem expire_same (sound : Sound m) (running : m.timers.find timer = some cookie) :
    Same (forgetFlow m cookie) (forgetFlow {m with timers:=m.timers.remove timer} cookie) where
  pending other := by rw [forgetFlow_pending,forgetFlow_pending]
  owners other := by rw [forgetFlow_owners,forgetFlow_owners]
  awaiting other := by rw [forgetFlow_awaiting,forgetFlow_awaiting]
  timers other := by
    obtain ⟨awaiting,held,equal⟩ := sound.meant timer cookie running
    subst equal
    simp only [forgetFlow,cleanupAwaiting,held,Table.find_remove]
    split <;> rfl
  next := by simp [forgetFlow]

theorem resolveRetryInfo_same (m : PinentryManager) (request : PinentryRequest) :
    Same m (resolveRetryInfo m request).2 := by
  unfold resolveRetryInfo
  by_cases unnamed : request.keyinfo.isEmpty = true
  · simp only [unnamed,if_true]
    exact ⟨fun _ => rfl,fun _ => rfl,fun _ => rfl,fun _ => rfl,rfl⟩
  · simp only [unnamed,if_false,Bool.false_eq_true]
    split <;> exact ⟨fun _ => rfl,fun _ => rfl,fun _ => rfl,fun _ => rfl,rfl⟩

theorem enterFlow_same (m : PinentryManager) (request : PinentryRequest) :
    Same {m with flowOwners:=m.flowOwners.insert request.cookie request.peerPid} (enterFlow m request).2 := by
  unfold enterFlow
  simp only
  split
  · exact resolveRetryInfo_same _ request
  · have keyed := resolveRetryInfo_same
      { m with
        flowOwners := m.flowOwners.insert request.cookie request.peerPid
        flowKeyinfos := m.flowKeyinfos.insert request.cookie request.keyinfo } request
    exact ⟨keyed.pending,keyed.owners,keyed.awaiting,keyed.timers,keyed.next⟩

-- Everything a request that is not refused does to the manager.
def enrol (m : PinentryManager) (request : PinentryRequest) : PinentryManager :=
  recordPending (cleanupAwaiting (enterFlow m request).2 request.cookie) request

theorem enrol_pending (m : PinentryManager) (request : PinentryRequest) (other : QString) :
    (enrol m request).pendingRequests.find other =
      if other = request.cookie then some request else m.pendingRequests.find other := by
  simp only [enrol,recordPending,cleanupAwaiting_pendingRequests,Table.find_insert]
  rw [(enterFlow_same m request).pending]

theorem enrol_owners (m : PinentryManager) (request : PinentryRequest) (other : QString) :
    (enrol m request).flowOwners.find other =
      if other = request.cookie then some request.peerPid else m.flowOwners.find other := by
  simp only [enrol,recordPending,cleanupAwaiting_flowOwners]
  rw [(enterFlow_same m request).owners]
  exact Table.find_insert _ _ _ _

theorem enrol_awaiting (m : PinentryManager) (request : PinentryRequest) (other : QString) :
    (enrol m request).awaitingOutcome.find other =
      if other = request.cookie then none else m.awaitingOutcome.find other := by
  simp only [enrol,recordPending,cleanupAwaiting_awaiting]
  rw [(enterFlow_same m request).awaiting]

theorem ownedByOther_owner (mine : ownedByOther m cookie peerPid = false)
    (owner : m.flowOwners.find cookie = some pid) : pid = peerPid := by
  unfold ownedByOther at mine
  rw [owner] at mine
  simpa using mine

theorem owned_sound (sound : Sound m) (mine : ownedByOther m cookie peerPid = false) :
    Sound {m with flowOwners:=m.flowOwners.insert cookie peerPid} where
  ids := sound.ids
  owners other request found := by
    have owner := sound.owners other request found
    rw [Table.find_insert]
    split
    · next same => rw [same] at owner; rw [ownedByOther_owner mine owner]
    · exact owner
  apart := sound.apart
  armed := sound.armed
  meant := sound.meant
  fresh := sound.fresh

theorem enrol_sound (sound : Sound m) (mine : ownedByOther m request.cookie request.peerPid = false) :
    Sound (enrol m request) := by
  have entered := (enterFlow_same m request).sound (owned_sound sound mine)
  have cleaned := cleanupAwaiting_sound entered request.cookie
  refine ⟨?_,?_,?_,cleaned.armed,cleaned.meant,cleaned.fresh⟩
  · intro other asked found
    rw [enrol_pending] at found
    split at found
    · next same => cases found; exact same.symm
    · exact sound.ids other asked found
  · intro other asked found
    rw [enrol_pending] at found
    rw [enrol_owners]
    split at found
    · next same => cases found; rw [if_pos same]
    · next different => rw [if_neg different]; exact sound.owners other asked found
  · intro other asked found
    rw [enrol_pending] at found
    rw [enrol_awaiting]
    split at found
    · next same => rw [if_pos same]
    · next different => rw [if_neg different]; exact sound.apart other asked found

theorem awaitOutcome_pending (m : PinentryManager) (request : PinentryRequest) (cookie other : QString) :
    (awaitOutcome m request cookie).pendingRequests.find other =
      if other = cookie then none else m.pendingRequests.find other := by
  simp only [awaitOutcome,cleanupAwaiting_pendingRequests]
  exact Table.find_remove _ _ _

theorem awaitOutcome_owners (m : PinentryManager) (request : PinentryRequest) (cookie : QString) :
    (awaitOutcome m request cookie).flowOwners = m.flowOwners := by simp [awaitOutcome]

theorem awaitOutcome_awaiting (m : PinentryManager) (request : PinentryRequest) (cookie other : QString) :
    (awaitOutcome m request cookie).awaitingOutcome.find other =
      if other = cookie then some ⟨request,m.nextTimer⟩ else m.awaitingOutcome.find other := by
  simp only [awaitOutcome,Table.find_insert,cleanupAwaiting_nextTimer]
  split
  · rfl
  · next different => rw [cleanupAwaiting_awaiting,if_neg different]

theorem awaitOutcome_sound (sound : Sound m) (request : PinentryRequest) (cookie : QString) :
    Sound (awaitOutcome m request cookie) := by
  have cleaned := cleanupAwaiting_sound (removePending_sound sound cookie) cookie
  constructor
  · intro other asked found
    rw [awaitOutcome_pending] at found
    split at found
    · cases found
    · exact sound.ids other asked found
  · intro other asked found
    rw [awaitOutcome_pending] at found
    rw [awaitOutcome_owners]
    split at found
    · cases found
    · exact sound.owners other asked found
  · intro other asked found
    rw [awaitOutcome_pending] at found
    rw [awaitOutcome_awaiting]
    split at found
    · cases found
    · next different => rw [if_neg different]; exact sound.apart other asked found
  · intro other awaiting found
    simp only [awaitOutcome,Table.find_insert] at found ⊢
    split at found
    · next same => cases found; rw [if_pos rfl,same]
    · have running := cleaned.armed other awaiting found
      have below := cleaned.fresh _ _ running
      rw [if_neg (Nat.ne_of_lt below)]
      exact running
  · intro timer other found
    simp only [awaitOutcome,Table.find_insert] at found ⊢
    split at found
    · next same => cases found; rw [if_pos rfl]; exact ⟨_,rfl,same.symm⟩
    · obtain ⟨awaiting,held,equal⟩ := cleaned.meant timer other found
      have different : other ≠ cookie := by
        intro same
        rw [cleanupAwaiting_awaiting,if_pos same] at held
        cases held
      rw [if_neg different]
      exact ⟨awaiting,held,equal⟩
  · intro timer other found
    simp only [awaitOutcome,Table.find_insert] at found ⊢
    split at found
    · next same => exact same ▸ Nat.lt_succ_self _
    · exact Nat.lt_succ_of_lt (cleaned.fresh timer other found)

structure Flow where
  pending : Option PinentryRequest
  awaiting : Option AwaitingOutcome
  owner : Option Pid
  deriving DecidableEq

def flow (m : PinentryManager) (cookie : QString) : Flow :=
  ⟨m.pendingRequests.find cookie,m.awaitingOutcome.find cookie,m.flowOwners.find cookie⟩

theorem flow_forgetFlow (m : PinentryManager) (cookie other : QString) :
    flow (forgetFlow m cookie) other = if other = cookie then ⟨none,none,none⟩ else flow m other := by
  unfold flow
  rw [forgetFlow_pending,forgetFlow_awaiting,forgetFlow_owners]
  split <;> rfl

theorem forgetFlows_sound (cookies : List QString) (sound : Sound m) : Sound (cookies.foldl forgetFlow m) := by
  induction cookies generalizing m with
  | nil => exact sound
  | cons cookie rest ih => exact ih (forgetFlow_sound sound cookie)

theorem flow_forgetFlows (cookies : List QString) (m : PinentryManager) (other : QString) :
    flow (cookies.foldl forgetFlow m) other = if other ∈ cookies then ⟨none,none,none⟩ else flow m other := by
  induction cookies generalizing m with
  | nil => rfl
  | cons cookie rest ih =>
    rw [List.foldl_cons,ih]
    by_cases later : other ∈ rest
    · simp [later]
    · simp only [flow_forgetFlow,List.mem_cons,later,or_false,if_false]

theorem flow_enrol (m : PinentryManager) (request : PinentryRequest) (other : QString) :
    flow (enrol m request) other =
      if other = request.cookie then ⟨some request,none,some request.peerPid⟩ else flow m other := by
  unfold flow
  rw [enrol_pending,enrol_awaiting,enrol_owners]
  split <;> rfl

theorem flow_awaitOutcome (m : PinentryManager) (request : PinentryRequest) (cookie other : QString) :
    flow (awaitOutcome m request cookie) other =
      if other = cookie then ⟨none,some ⟨request,m.nextTimer⟩,m.flowOwners.find cookie⟩ else flow m other := by
  unfold flow
  rw [awaitOutcome_pending,awaitOutcome_awaiting,awaitOutcome_owners]
  split
  · next same => rw [same]
  · rfl

theorem flow_cleanupAwaiting (m : PinentryManager) (cookie other : QString) :
    flow (cleanupAwaiting m cookie) other =
      if other = cookie then {flow m cookie with awaiting:=none} else flow m other := by
  unfold flow
  rw [cleanupAwaiting_pendingRequests,cleanupAwaiting_awaiting,cleanupAwaiting_flowOwners]
  split
  · next same => rw [same]
  · rfl

end PinentryManager

end BbAuth
