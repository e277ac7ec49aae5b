import Mathlib.Data.List.Induction
import BbAuth.Newcomers

open Library
namespace BbAuth

namespace Records

theorem act_known (r : Records) (action : Action) (socket : Socket)
    (known : (r.act action).sockets.contains socket = true) :
    r.sockets.contains socket = true ∨ socket = r.nextSocket ∧ ∃ peerPid, action = .connect peerPid := by
  cases action with
  | connect peerPid =>
    rcases (Table.contains_insert _ _ _ _).mp known with new | old
    · exact .inr ⟨new,peerPid,rfl⟩
    · exact .inl old
  | socketState other state =>
    unfold act Table.contains at known
    rw [setSocketState_find] at known
    split at known
    · exact .inl (Option.isSome_map.symm.trans known)
    · exact .inl known
  | disconnect other =>
    unfold act Table.contains at known
    rw [disconnect_sockets] at known
    split at known
    · cases known
    · exact .inl known
  | pinentryRequest request actor => simp only [act] at known; split at known <;> exact .inl known
  | pinentryRespond cookie response => simp only [act] at known; split at known <;> exact .inl known
  | pinentryOutcome cookie outcome error => cases outcome <;> exact .inl known
  | timeout timer => simp only [act] at known; split at known <;> exact .inl known
  | idle | keyringRequest | keyringConclude | pinentryCancel | submit | initiate | polkit => exact .inl known

theorem disconnect_gone (r : Records) (socket : Socket) : (r.act (.disconnect socket)).sockets.contains socket = false := by
  unfold act Table.contains
  rw [disconnect_sockets,if_pos rfl]
  rfl

end Records

namespace Daemon

inductive Refers (d : Daemon) (socket : Socket) : Prop where
  | subscriber (listed : socket ∈ d.subscribers)
  | provider (listed : socket ∈ d.providerRegistry.sockets)
  | activeProvider (active : d.providerRegistry.activeProvider = some socket)
  | nextWaiter (listed : socket ∈ d.eventQueue.nextWaiters)
  | keyring (pending : d.keyringManager.pendingRequests.find cookie = some request) (sender : request.socket = socket)
  | pinentry (pending : d.pinentryManager.pendingRequests.find cookie = some request) (sender : request.socket = socket)

theorem refers_known (path : daemon.Reached d) (refers : d.Refers socket) : d.sockets.contains socket = true := by
  have known := reached_known path
  have records := reached_records path
  cases refers with
  | subscriber listed => exact known.subscribers socket listed
  | provider listed => exact known.providers socket ((Table.mem_keys _ _).mp listed)
  | activeProvider active => exact known.providers socket ((reached_settled path).held socket active)
  | nextWaiter listed => exact known.waiters socket listed
  | @keyring cookie request pending sender =>
    subst sender
    exact records.keyringKnown cookie request pending
  | @pinentry cookie request pending sender =>
    subst sender
    obtain ⟨info,found,_⟩ := records.pinentryKnown cookie request pending
    exact (Table.contains_iff _ _).mpr ⟨info,found⟩

-- Who has left does not come back, since handles are not used again.
theorem left_unknown (inputs : List Input) (admitted : daemon.Admits inputs) (env : Env)
    (left : ⟨env,.disconnected socket⟩ ∈ inputs) :
    socket < (daemon.run inputs).nextSocket ∧ (daemon.run inputs).sockets.contains socket = false := by
  induction inputs using List.reverseRecOn with
  | nil => cases left
  | append_singleton before input ih =>
    obtain ⟨earlier,now⟩ := (Machine.everyFrom_append _ before [input]).mp admitted
    have path := Machine.Admits.reached earlier
    have allowed : daemon.enabled (daemon.run before) input := now.1
    have stepped : daemon.run (before ++ [input]) = daemon.step (daemon.run before) input := Machine.runFrom_append _ _ _
    have acted := Core.acts_records (acts_step _ input allowed)
    have grown := step_nextSocket _ input allowed
    rw [stepped]
    rcases List.mem_append.mp left with old | new
    · obtain ⟨below,unknown⟩ := ih earlier old
      refine ⟨Nat.lt_of_lt_of_le below grown,Bool.eq_false_iff.mpr fun known => ?_⟩
      change (daemon.step (daemon.run before) input).core.records.sockets.contains socket = true at known
      rw [acted] at known
      rcases Records.act_known _ _ _ known with kept | ⟨fresh,_⟩
      · exact absurd kept (Bool.eq_false_iff.mp unknown)
      · exact absurd below (Nat.not_lt.mpr (Nat.le_of_eq fresh.symm))
    · cases List.mem_singleton.mp new
      have below : socket < (daemon.run before).nextSocket := (reached_records path).below socket allowed
      refine ⟨Nat.lt_of_lt_of_le below grown,?_⟩
      change (daemon.step (daemon.run before) ⟨env,.disconnected socket⟩).core.records.sockets.contains socket = false
      rw [acted]
      exact Records.disconnect_gone _ socket

-- After every run, nothing refers to a socket whose disconnect was handled, and
-- nobody is subscribed twice.
theorem departed_forgotten (inputs : List Input) (admitted : daemon.Admits inputs) :
    (daemon.run inputs).subscribers.Nodup ∧
    ∀ socket, (daemon.run inputs).Refers socket → ∀ input ∈ inputs, input.event ≠ .disconnected socket := by
  have path := Machine.Admits.reached admitted
  refine ⟨(reached_known path).once,?_⟩
  intro socket refers input given departed
  obtain ⟨env,event⟩ := input
  subst departed
  have unknown := (left_unknown inputs admitted env given).2
  rw [refers_known path refers] at unknown
  cases unknown

-- A provider that waits and asks leaves while another one does the same.
def bothAskedOneLeft : List Input :=
  [.quiet (.connected 7),
   .quiet (.connected 8),
   .say 0 "subscribe" [],
   .say 0 "subscribe" [],
   .say 0 "ui.register" [("kind","quickshell")],
   .say 1 "ui.register" [("kind","fallback")],
   .say 0 "next" [],
   .say 0 "next" [],
   .say 1 "next" [],
   .say 0 "keyring_request" [("cookie","k")],
   .say 1 "pinentry_request" [("cookie","p")],
   .quiet (.disconnected 0)]

theorem bothAskedOneLeft_forgotten :
    (daemon.run bothAskedOneLeft).Refers 1 ∧ ¬(daemon.run bothAskedOneLeft).Refers 0 := by
  have admitted : daemon.Admits bothAskedOneLeft := by decide +kernel
  have left : Input.quiet (.disconnected 0) ∈ bothAskedOneLeft := List.mem_of_getLast? rfl
  refine ⟨.activeProvider (by decide +kernel),fun refers => ?_⟩
  exact (departed_forgotten bothAskedOneLeft admitted).2 0 refers _ left rfl

end Daemon

end BbAuth
