import BbAuth.RequestLedger
import BbAuth.ResponseRouting

open Library
namespace BbAuth

-- What a user interface decides: how a request is answered, or which password
-- goes to polkit.
inductive Decision where
  | answer (key : RequestKey) (answer : Answer)
  | submit (cookie pass : QString)
  deriving DecidableEq, Repr

def Effect.decision : Effect → Option Decision
  | .sent socket (.response kind cookie answer) => some (.answer ⟨kind,socket,cookie⟩ answer)
  | .submitted cookie pass => some (.submit cookie pass)
  | _ => none

def Effect.undecided (effect : Effect) : Prop := effect.decision = none

theorem undecided_emitted (event : SessionEvent) : Effect.undecided (.emitted event) := rfl

theorem routine_undecided (effect : Effect) (routine : effect.routine = true) : effect.undecided := by
  rcases routine_cases routine with ⟨socket,message,rfl,unanswered⟩ | ⟨_,rfl⟩ | rfl
  · cases message with
    | response => cases unanswered
    | error | ok | pong | subscribed | uiRegistered | uiActive | event => rfl
  · rfl
  · rfl

-- What an action decides of the requests and sessions it finds.
def Core.Decides (c : Core) (action : Action) : Decision → Prop
  | .answer key answer => c.records.pendingSocket key.kind key.cookie = some key.socket ∧
    match action with
    | .keyringConclude cookie _ reply => key.kind = .keyring ∧ key.cookie = cookie ∧ answer = reply
    | .pinentryRespond cookie response =>
      key.kind = .pinentry ∧ key.cookie = cookie ∧ (answer = .ok response ∨ answer = .confirmed)
    | .pinentryCancel cookie => key.kind = .pinentry ∧ key.cookie = cookie ∧ answer = .cancelled
    | _ => False
  | .submit cookie pass => action = .submit cookie pass ∧
    ∃ session, c.sessionStore.find cookie = some session ∧ session.source = .polkit

namespace Core

variable {c m e : Core}

theorem decisions_kept (notes : Notes Effect.undecided c e) (decided : effect.decision = some decision)
    (present : effect ∈ e.history) : effect ∈ c.history := by
  obtain ⟨new,same,plain⟩ := notes
  rw [same] at present
  rcases List.mem_append.mp present with now | before
  · rw [show effect.decision = none from plain effect now] at decided
    cases decided
  · exact before

theorem decisions_answer (c : Core) (socket : Socket) (kind : RequestKind) (cookie : QString) (reply : Answer)
    (present : effect ∈ (c.answer socket kind cookie reply).history) :
    effect = .sent socket (.response kind cookie reply) ∨ effect ∈ c.history := by
  unfold answer at present
  split at present
  · exact List.mem_cons.mp present
  · exact .inr present

theorem acts_decides (acts : Acts c action e) (decided : effect.decision = some decision)
    (present : effect ∈ e.history) : effect ∈ c.history ∨ c.Decides action decision := by
  have kept {e : Core} (notes : Notes Effect.undecided c e) (present : effect ∈ e.history) : effect ∈ c.history :=
    decisions_kept notes decided present
  have moved {c e : Core} (moves : Moves c e) : Notes Effect.undecided c e :=
    notes_moves undecided_emitted (fun _ => rfl) moves
  cases acts with
  | idle | connect => exact .inl present
  | socketState known later =>
    have same (socket : Socket) (state : LocalSocketState) : Notes Effect.undecided c (c.setSocketState socket state) := by
      unfold setSocketState
      split <;> exact notes_same rfl
    exact .inl (kept (same _ _) present)
  | disconnect known => exact .inl (kept (notes_disconnect undecided_emitted c _) present)
  | @keyringRequest _ _ request actor known peer named =>
    have logged : Notes Effect.undecided c (c.log (.requested .keyring request.socket request.peerPid request.cookie)) :=
      notes_log c rfl
    exact .inl (kept (logged.trans (notes_keyringRequest undecided_emitted c request actor)) present)
  | @pinentryRequest _ _ request actor known peer named =>
    have logged : Notes Effect.undecided c (c.log (.requested .pinentry request.socket request.peerPid request.cookie)) :=
      notes_log c rfl
    exact .inl (kept (logged.trans (notes_pinentryRequest undecided_emitted c request actor)) present)
  | @keyringConclude request result reply _ cookie pending plain =>
    simp only [keyringConclude,pending] at present
    rcases decisions_answer _ _ _ _ _ present with rfl | before
    · cases decided
      exact .inr ⟨congrArg (Option.map KeyringRequest.socket) pending,rfl,rfl,rfl⟩
    · exact .inl (kept (notes_closeSession undecided_emitted (c.withKeyring (c.keyringManager.pendingRequests.remove cookie))
        cookie result) before)
  | @pinentryRespond request _ cookie response free pending =>
    simp only [pinentryRespond,pending] at present
    rcases decisions_answer _ _ _ _ _ present with rfl | before
    · cases decided
      refine .inr ⟨congrArg (Option.map PinentryRequest.socket) pending,rfl,rfl,?_⟩
      cases request.confirmOnly with
      | true => exact .inr rfl
      | false => exact .inl rfl
    · exact .inl before
  | @pinentryCancel _ cookie =>
    have closed := notes_closeFlow undecided_emitted c cookie .cancelled []
    unfold pinentryCancel at present
    cases pending : c.pinentryManager.pendingRequests.find cookie with
    | none =>
      rw [pending] at present
      exact .inl (kept closed present)
    | some request =>
      rw [pending] at present
      rcases decisions_answer _ _ _ _ _ present with rfl | before
      · cases decided
        exact .inr ⟨congrArg (Option.map PinentryRequest.socket) pending,rfl,rfl,rfl⟩
      · exact .inl (kept closed before)
  | pinentryOutcome known => exact .inl (kept (notes_applyOutcome undecided_emitted c _ _ _) present)
  | timeout running => exact .inl (kept (notes_timeout undecided_emitted c _) present)
  | @submit session _ cookie response _ found source moves =>
    rcases List.mem_cons.mp (decisions_kept (moved moves) decided present) with rfl | before
    · cases decided
      exact .inr ⟨rfl,session,found,source⟩
    · exact .inl before
  | initiate before same after =>
    exact .inl (kept ((moved before).trans ((notes_createSession undecided_emitted _ _ .polkit _).trans (moved after)))
      present)
  | polkit moves => exact .inl (kept (moved moves) present)

end Core

namespace Daemon

-- The message of a user interface that may act on the id when it comes.
structure Orders (d : Daemon) (ui : Socket) (msg : QJsonObject) (id : QString) : Prop where
  authorized : d.isAuthorizedProviderSocket ui = true
  named : respondId msg = id

-- An authorized user interface responds to a pending request of the key, cancels
-- it, or responds to a polkit session.
def Decided (d : Daemon) (input : Input) : Decision → Prop
  | .answer key answer => d.pendingSocket key.kind key.cookie = some key.socket ∧
    ∃ ui msg, d.Orders ui msg key.cookie ∧
      (input.kind = .respond ui msg ∧ (answer = .ok (respondText msg) ∨ answer = .confirmed ∧ key.kind = .pinentry) ∨
        input.kind = .cancel ui msg ∧ answer = .cancelled)
  | .submit cookie pass => ∃ ui msg, d.Orders ui msg cookie ∧ input.kind = .respond ui msg ∧ pass = respondText msg ∧
    ∃ session, d.getSession cookie = some session ∧ session.source = .polkit

theorem respondAction_orders (d : Daemon) (ui : Socket) (msg : QJsonObject) (acts : d.respondAction ui msg ≠ .idle) :
    d.isAuthorizedProviderSocket ui = true := by
  by_contra foreign
  apply acts
  unfold respondAction
  simp [foreign]

theorem cancelAction_orders (d : Daemon) (ui : Socket) (msg : QJsonObject) (acts : d.cancelAction ui msg ≠ .idle) :
    d.isAuthorizedProviderSocket ui = true := by
  by_contra foreign
  apply acts
  unfold cancelAction
  simp [foreign]

theorem cancelAction_cases (d : Daemon) (ui : Socket) (msg : QJsonObject) :
    d.cancelAction ui msg = .idle ∨ d.cancelAction ui msg = .keyringConclude (respondId msg) .cancelled .cancelled ∨
    d.cancelAction ui msg = .pinentryCancel (respondId msg) ∨ d.cancelAction ui msg = .polkit := by
  unfold cancelAction respondId
  simp only
  repeat' split
  all_goals simp

-- Where an action that decides something comes from.
def Ordered (d : Daemon) (input : Input) : Action → Prop
  | .keyringConclude cookie _ reply => ∃ ui msg, d.Orders ui msg cookie ∧
    (input.kind = .respond ui msg ∧ reply = .ok (respondText msg) ∨ input.kind = .cancel ui msg ∧ reply = .cancelled)
  | .pinentryRespond cookie response =>
    ∃ ui msg, d.Orders ui msg cookie ∧ input.kind = .respond ui msg ∧ response = respondText msg
  | .pinentryCancel cookie => ∃ ui msg, d.Orders ui msg cookie ∧ input.kind = .cancel ui msg
  | .submit cookie pass => ∃ ui msg, d.Orders ui msg cookie ∧ input.kind = .respond ui msg ∧ pass = respondText msg
  | .idle | .connect _ | .socketState .. | .disconnect _ | .keyringRequest .. | .pinentryRequest .. | .pinentryOutcome ..
  | .timeout _ | .initiate _ | .polkit => True

theorem action_ordered (d : Daemon) (input : Input) : d.Ordered input (d.action input) := by
  cases kind : input.kind with
  | respond ui msg =>
    have orders (acts : d.respondAction ui msg ≠ .idle) : d.Orders ui msg (respondId msg) :=
      ⟨respondAction_orders d ui msg acts,rfl⟩
    rw [action_respond d input kind]
    rcases respondAction_cases d ui msg with idle | keyring | pinentry | polkit
    · rw [idle]
      trivial
    · rw [keyring] at orders ⊢
      exact ⟨ui,msg,orders nofun,.inl ⟨kind,rfl⟩⟩
    · rw [pinentry] at orders ⊢
      exact ⟨ui,msg,orders nofun,kind,rfl⟩
    · rw [polkit] at orders ⊢
      exact ⟨ui,msg,orders nofun,kind,rfl⟩
  | cancel ui msg =>
    have taken : d.action input = d.cancelAction ui msg := by
      unfold action
      rw [kind]
    have orders (acts : d.cancelAction ui msg ≠ .idle) : d.Orders ui msg (respondId msg) :=
      ⟨cancelAction_orders d ui msg acts,rfl⟩
    rw [taken]
    rcases cancelAction_cases d ui msg with idle | keyring | pinentry | polkit
    · rw [idle]
      trivial
    · rw [keyring] at orders ⊢
      exact ⟨ui,msg,orders nofun,.inr ⟨kind,rfl⟩⟩
    · rw [pinentry] at orders ⊢
      exact ⟨ui,msg,orders nofun,kind⟩
    · rw [polkit]
      trivial
  | pinentryResult sender msg =>
    unfold action
    rw [kind]
    rcases resultAction_idle_or d sender msg with idle | ⟨outcome,_,taken⟩
    · simp only [idle]
      trivial
    · simp only [taken]
      trivial
  | initiateAuthentication _ _ _ _ cookie identities =>
    unfold action
    rw [kind]
    simp only
    split <;> trivial
  | connected | socketState | disconnected | keyringRequest | pinentryRequest | routing | polkitSignal
  | cancelAuthentication | timeout =>
    unfold action
    rw [kind]
    trivial

theorem core_decided (d : Daemon) (input : Input) (decides : d.core.Decides (d.action input) decision) :
    d.Decided input decision := by
  have ordered := action_ordered d input
  cases decision with
  | answer key answer =>
    obtain ⟨pending,made⟩ := decides
    refine ⟨pendingSocket_core d _ _ ▸ pending,?_⟩
    generalize d.action input = action at ordered made
    cases action with
    | keyringConclude cookie result reply =>
      obtain ⟨_,rfl,rfl⟩ := made
      obtain ⟨ui,msg,orders,⟨responded,typed⟩ | ⟨cancelled,none⟩⟩ := ordered
      · exact ⟨ui,msg,orders,.inl ⟨responded,.inl typed⟩⟩
      · exact ⟨ui,msg,orders,.inr ⟨cancelled,none⟩⟩
    | pinentryRespond cookie response =>
      obtain ⟨kind,rfl,typed | confirmed⟩ := made
      · obtain ⟨ui,msg,orders,responded,same⟩ := ordered
        exact ⟨ui,msg,orders,.inl ⟨responded,.inl (same ▸ typed)⟩⟩
      · obtain ⟨ui,msg,orders,responded,_⟩ := ordered
        exact ⟨ui,msg,orders,.inl ⟨responded,.inr ⟨confirmed,kind⟩⟩⟩
    | pinentryCancel cookie =>
      obtain ⟨_,rfl,rfl⟩ := made
      obtain ⟨ui,msg,orders,cancelled⟩ := ordered
      exact ⟨ui,msg,orders,.inr ⟨cancelled,rfl⟩⟩
    | idle | connect | socketState | disconnect | keyringRequest | pinentryRequest | pinentryOutcome | timeout | submit
    | initiate | polkit => exact made.elim
  | submit cookie pass =>
    obtain ⟨acts,session,found,source⟩ := decides
    rw [acts] at ordered
    obtain ⟨ui,msg,orders,responded,same⟩ := ordered
    exact ⟨ui,msg,orders,responded,same,session,found,source⟩

theorem step_decided (allowed : daemon.enabled d input) (decided : effect.decision = some decision)
    (present : effect ∈ (daemon.step d input).trace) : effect ∈ d.trace ∨ d.Decided input decision := by
  have kept (d : Daemon) : effect ∈ d.core.history ↔ effect ∈ d.trace := by
    have plain : effect.routine = false := by
      by_contra routine
      rw [Bool.not_eq_false] at routine
      rw [show effect.decision = none from routine_undecided effect routine] at decided
      cases decided
    change effect ∈ d.trace.filter _ ↔ _
    rw [List.mem_filter,plain]
    exact and_iff_left rfl
  rw [← kept] at present ⊢
  rcases Core.acts_decides (acts_step d input allowed) decided present with before | decides
  · exact .inl before
  · exact .inr (core_decided d input decides)

theorem run_decided (admitted : daemon.Admits inputs) (decided : effect.decision = some decision)
    (present : effect ∈ (daemon.run inputs).trace) :
    ∃ early input late, inputs = early ++ input :: late ∧ (daemon.run early).Decided input decision := by
  obtain ⟨early,input,late,split,allowed,before,after⟩ :=
    Machine.brought_about (fun d : Daemon => effect ∈ d.trace) admitted List.not_mem_nil present
  rcases step_decided allowed decided after with old | decides
  · exact absurd old before
  · exact ⟨early,input,late,split,decides⟩

def answeredOnce : List Input :=
  [.quiet (.connected 7),
   .quiet (.connected 8),
   .say 0 "ui.register" [("kind","quickshell")],
   .say 1 "pinentry_request" [("cookie","p"),("prompt","PIN")],
   .say 0 "session.respond" [("id","p"),("response","1234")]]

end Daemon

end BbAuth
