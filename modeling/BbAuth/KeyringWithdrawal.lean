import BbAuth.IpcClient
import BbAuth.Newcomers

open Library
namespace BbAuth

namespace Core

-- A pending request that is concluded closes its session, if it has one, and
-- then answers its requester, if that can hear.
theorem keyringConclude_history (c : Core) (result : Result) (reply : Answer)
    (pending : c.keyringManager.pendingRequests.find cookie = some request) :
    (c.keyringConclude cookie result reply).history =
      (if c.isConnected request.socket then [.sent request.socket (.response .keyring cookie reply)] else []) ++
      ((c.sessionStore.find cookie).toList.map (fun session => .emitted (session.close result).toClosedEvent) ++ c.history) := by
  simp only [keyringConclude,pending]
  generalize hidden : c.withKeyring (c.keyringManager.pendingRequests.remove cookie) = m
  have store : m.sessionStore = c.sessionStore := by rw [← hidden]; rfl
  have history : m.history = c.history := by rw [← hidden]; rfl
  have closed : (m.closeSession cookie result).history =
      (c.sessionStore.find cookie).toList.map (fun session => .emitted (session.close result).toClosedEvent) ++ c.history := by
    unfold closeSession
    rw [store,← history]
    cases c.sessionStore.find cookie <;> rfl
  have sockets : (m.closeSession cookie result).sockets = c.sockets := by
    have same := congrArg Records.sockets (records_closeSession m cookie result)
    rw [← hidden] at same ⊢
    exact same
  have hears : (m.closeSession cookie result).isConnected request.socket = c.isConnected request.socket := by
    unfold isConnected
    rw [sockets]
  unfold answer
  rw [hears]
  split
  · exact congrArg _ closed
  · exact closed

theorem keyringConclude_store (c : Core) (result : Result) (reply : Answer)
    (pending : c.keyringManager.pendingRequests.find cookie = some request) :
    (c.keyringConclude cookie result reply).sessionStore.find cookie = none := by
  simp only [keyringConclude,pending]
  generalize c.withKeyring (c.keyringManager.pendingRequests.remove cookie) = m
  have gone : (m.closeSession cookie result).sessionStore.find cookie = none := by
    unfold closeSession
    split
    · next missing => exact missing
    · exact Table.find_remove_self _ _
  unfold answer
  split <;> exact gone

end Core

namespace Daemon

theorem count_core (d : Daemon) {effect : Effect} (kept : effect.routine = false) :
    d.core.history.count effect = d.trace.count effect := List.count_filter (by simp [kept])

-- What the prompter wants of a cancellation: its request is forgotten, its
-- session closed as cancelled, and its first connection told so.
structure Withdrawn (d e : Daemon) (cookie : QString) (request : KeyringRequest) : Prop where
  forgotten : e.keyringManager.pendingRequests.find cookie = none
  closed : e.getSession cookie = none ∧ ∃ error,
    e.trace.count (.emitted (.closed cookie .cancelled error)) = d.trace.count (.emitted (.closed cookie .cancelled error)) + 1
  answered : e.trace.count (.sent request.socket (.response .keyring cookie .cancelled)) =
    d.trace.count (.sent request.socket (.response .keyring cookie .cancelled)) + 1

-- The message of bb_auth_prompt_close, on a connection of its own.
def withdrawal (env : Env) (socket : Socket) (cookie : QString) : Input :=
  ⟨env,.message socket (text "session.cancel") (IpcClient.cancelRequest cookie)⟩

theorem withdrawal_action (d : Daemon) (env : Env) (socket : Socket)
    (pending : d.keyringManager.pendingRequests.find cookie = some request) :
    d.action (withdrawal env socket cookie) =
      if d.isAuthorizedProviderSocket socket then .keyringConclude cookie .cancelled .cancelled else .idle := by
  have kind : (withdrawal env socket cookie).kind = .cancel socket (IpcClient.cancelRequest cookie) := by
    have found : Agent.handlers.lookup (text "session.cancel") = some .cancel := by decide +kernel
    simp only [Input.kind,withdrawal,found]
  have named : ((IpcClient.cancelRequest cookie).value (text "id")).toString = cookie := by
    have other : text "id" ≠ text "type" := by decide
    simp [IpcClient.cancelRequest,QJsonObject.ofList,QJsonObject.value,Table.find_insert,other,QJsonValue.toString]
  have asked : KeyringManager.hasPendingRequest d.keyringManager cookie = true :=
    (Table.contains_iff _ _).mpr ⟨request,pending⟩
  simp only [action,kind,cancelAction,named,asked,if_true]
  cases d.isAuthorizedProviderSocket socket <;> rfl

theorem stranger_authorized (registry : ProviderRegistry) (stranger : registry.contains socket = false) :
    registry.isAuthorized socket = registry.uiProviders.isEmpty := by
  unfold ProviderRegistry.isAuthorized
  rw [stranger]
  cases registry.uiProviders.isEmpty <;> rfl

theorem conclusion_counts (d : Daemon) {e : Daemon} (pending : d.keyringManager.pendingRequests.find cookie = some request)
    (after : e.core = d.core.keyringConclude cookie .cancelled .cancelled) {effect : Effect} (kept : effect.routine = false) :
    e.trace.count effect =
      (if d.isConnected request.socket then [.sent request.socket (.response .keyring cookie .cancelled)] else []).count effect +
      ((d.getSession cookie).toList.map (fun session => .emitted (session.close .cancelled).toClosedEvent)).count effect +
      d.trace.count effect := by
  rw [← count_core e kept,after,Core.keyringConclude_history d.core .cancelled .cancelled pending,List.count_append,
    List.count_append,count_core d kept,← Nat.add_assoc]
  rfl

theorem concluded_withdrawn {d e : Daemon} (path : daemon.Reached d)
    (pending : d.keyringManager.pendingRequests.find cookie = some request)
    (after : e.core = d.core.keyringConclude cookie .cancelled .cancelled) :
    Withdrawn d e cookie request ↔ d.isConnected request.socket = true ∧ (d.getSession cookie).isSome = true := by
  have counts {effect : Effect} (kept : effect.routine = false) := conclusion_counts d pending after kept
  have answers : (Effect.sent request.socket (.response .keyring cookie .cancelled)).routine = false := rfl
  constructor
  · intro withdrawn
    have answered := withdrawn.answered
    obtain ⟨_,error,closed⟩ := withdrawn.closed
    rw [counts answers] at answered
    rw [counts rfl] at closed
    constructor
    · by_contra unheard
      rw [if_neg unheard] at answered
      cases found : d.getSession cookie with
      | none => simp [found] at answered
      | some session => simp [found,Session.toClosedEvent] at answered
    · by_contra missing
      rw [Option.not_isSome_iff_eq_none.mp missing] at closed
      split at closed <;> simp at closed
  · rintro ⟨connected,shown⟩
    obtain ⟨session,found⟩ := Option.isSome_iff_exists.mp shown
    have named : session.id = cookie := (reached_announced path).ids cookie session found
    have records := Core.records_keyringConclude d.core cookie .cancelled .cancelled pending
    refine ⟨?_,⟨?_,unlessEmpty session.error,?_⟩,?_⟩
    · have pendingKeyring : e.core.records.pendingKeyring = d.keyringManager.pendingRequests.remove cookie := by
        rw [after,records]
        rfl
      change e.core.records.pendingKeyring.find cookie = none
      rw [pendingKeyring]
      exact Table.find_remove_self _ _
    · change e.core.sessionStore.find cookie = none
      rw [after]
      exact Core.keyringConclude_store d.core .cancelled .cancelled pending
    · rw [counts rfl,found]
      simp [connected,Session.toClosedEvent,Session.close,named]
      omega
    · rw [counts answers,found]
      simp [connected,Session.toClosedEvent]
      omega

-- Withdrawing works exactly while no user interface is registered, as long as
-- the prompter still waits and its session was not closed by others.
theorem withdrawn_iff (path : daemon.Reached d) (pending : d.keyringManager.pendingRequests.find cookie = some request)
    (known : d.sockets.contains socket = true) (stranger : d.providerRegistry.contains socket = false) (env : Env) :
    Withdrawn d (daemon.step d (withdrawal env socket cookie)) cookie request ↔
      d.providerRegistry.uiProviders.isEmpty = true ∧ d.isConnected request.socket = true ∧
        (d.getSession cookie).isSome = true := by
  have acts := acts_step d (withdrawal env socket cookie) known
  rw [withdrawal_action d env socket pending,isAuthorizedProviderSocket,stranger_authorized _ stranger] at acts
  generalize daemon.step d (withdrawal env socket cookie) = e at acts ⊢
  generalize after : e.core = c at acts
  cases vacant : d.providerRegistry.uiProviders.isEmpty with
  | false =>
    rw [vacant] at acts
    cases acts with
    | idle =>
      refine ⟨fun withdrawn => ?_,fun all => absurd all.1 Bool.false_ne_true⟩
      have same : e.keyringManager = d.keyringManager := congrArg Core.keyringManager after
      have gone := withdrawn.forgotten
      rw [same,pending] at gone
      cases gone
  | true =>
    rw [vacant] at acts
    cases acts with
    | keyringConclude found plain =>
      rw [concluded_withdrawn path pending after]
      exact ⟨fun both => ⟨rfl,both⟩,And.right⟩

def waitingPrompter (socket : Socket) : KeyringRequest := ⟨text "k",socket,7,[],[],[],0⟩

-- The prompter asks while nobody is registered, and connects once more.
def askedNobody : List Input :=
  [.quiet (.connected 7),
   .say 0 "keyring_request" [("cookie","k")],
   .quiet (.connected 7)]

theorem askedNobody_withdrawn :
    Withdrawn (daemon.run askedNobody) (daemon.step (daemon.run askedNobody) (withdrawal .quiet 1 (text "k"))) (text "k")
      (waitingPrompter 0) := by
  have admitted : daemon.Admits askedNobody := by decide +kernel
  have pending : (daemon.run askedNobody).keyringManager.pendingRequests.find (text "k") = some (waitingPrompter 0) := by
    decide +kernel
  exact (withdrawn_iff admitted.reached pending (by decide +kernel) (by decide +kernel) .quiet).mpr (by decide +kernel)

-- The same while a user interface is registered, as it is when a prompt is shown.
def askedProvider : List Input :=
  [.quiet (.connected 5),
   .say 0 "ui.register" [("kind","quickshell")],
   .quiet (.connected 7),
   .say 1 "keyring_request" [("cookie","k")],
   .quiet (.connected 7)]

theorem askedProvider_refused : ¬∀ (inputs : List Input) (cookie : QString) (request : KeyringRequest) (socket : Socket),
    daemon.Admits inputs → (daemon.run inputs).keyringManager.pendingRequests.find cookie = some request →
    (daemon.run inputs).sockets.contains socket = true → (daemon.run inputs).providerRegistry.contains socket = false →
    ∀ env, Withdrawn (daemon.run inputs) (daemon.step (daemon.run inputs) (withdrawal env socket cookie)) cookie request := by
  intro always
  have withdrawn := always askedProvider (text "k") (waitingPrompter 1) 2 (by decide +kernel) (by decide +kernel)
    (by decide +kernel) (by decide +kernel) .quiet
  exact absurd withdrawn.forgotten (by decide +kernel)

end Daemon

end BbAuth
