import BbAuth.RequestLedger

open Library Library.Ledger
namespace BbAuth

-- How often the requests of a key were made, and how often they were replied to.
def asked (key : RequestKey) (history : List Effect) : Nat := (history.filterMap Effect.asks).count key

def replied (key : RequestKey) (history : List Effect) : Nat := (history.filterMap Effect.replies).count key

theorem unrouted_besides (effect : Effect) (routine : effect.routine = true) : effect.besides := by
  rcases routine_cases routine with ⟨socket,message,rfl,unanswered⟩ | ⟨_,rfl⟩ | rfl
  · cases message with
    | response => cases unanswered
    | error | ok | pong | subscribed | uiRegistered | uiActive | event => exact ⟨rfl,rfl⟩
  · exact ⟨rfl,rfl⟩
  · exact ⟨rfl,rfl⟩

theorem asked_core (key : RequestKey) (d : Daemon) : asked key d.core.history = asked key d.trace :=
  congrArg (List.count key) (unrouted_filterMap _ (fun effect routine => (unrouted_besides effect routine).1) d.trace)

theorem replied_core (key : RequestKey) (d : Daemon) : replied key d.core.history = replied key d.trace :=
  congrArg (List.count key) (unrouted_filterMap _ (fun effect routine => (unrouted_besides effect routine).2) d.trace)

def Action.request : Action → Option RequestKey
  | .keyringRequest request _ => some ⟨.keyring,request.socket,request.cookie⟩
  | .pinentryRequest request _ => some ⟨.pinentry,request.socket,request.cookie⟩
  | _ => none

theorem take_recorded (l : Line) (deed : Deed) (other : deed ≠ .ask) (recorded : (l.take deed).recorded = true) :
    l.recorded = true := by
  cases deed with
  | ask => exact absurd rfl other
  | stay | meet | refuse | hangUp => exact recorded
  | drop | leave => cases recorded
  | answer =>
    by_contra idle
    rw [Bool.not_eq_true] at idle
    simp [Line.take,Line.answer,idle] at recorded

theorem take_answer (l : Line) : (l.take .answer).recorded = false := by
  cases recorded : l.recorded with
  | true => simp [Line.take,Line.answer,recorded]
  | false => simp [Line.take,Line.answer,recorded]

namespace Core

-- What an action that is no request logs of requests and replies: nothing, or the
-- reply to a request that was pending.
inductive Settles (c : Core) (action : Action) : Core → Prop where
  | silent (notes : Notes Effect.besides c e) : Settles c action e
  | answered (socket : Socket) (kind : RequestKind) (cookie : QString) (reply : Answer)
      (pending : c.records.pendingSocket kind cookie = some socket)
      (answers : c.deed action ⟨kind,socket,cookie⟩ = .answer) (notes : Notes Effect.besides c m) :
      Settles c action (m.answer socket kind cookie reply)

variable {c m e : Core}

theorem asked_besides (notes : Notes Effect.besides c e) (key : RequestKey) :
    asked key e.history = asked key c.history :=
  congrArg (List.count key) (Grown.filterMap notes Effect.asks (fun _ plain => plain.1))

theorem replied_besides (notes : Notes Effect.besides c e) (key : RequestKey) :
    replied key e.history = replied key c.history :=
  congrArg (List.count key) (Grown.filterMap notes Effect.replies (fun _ plain => plain.2))

theorem besides_setSocketState (c : Core) (socket : Socket) (state : LocalSocketState) :
    Notes Effect.besides c (c.setSocketState socket state) := by
  unfold setSocketState
  split <;> exact notes_same rfl

theorem acts_asks (acts : Acts c action e) (asks : action.request = some key) :
    ∃ pid, Notes Effect.besides (c.log (.requested key.kind key.socket pid key.cookie)) e := by
  cases acts with
  | @keyringRequest info _ request actor known peer named =>
    cases asks
    exact ⟨request.peerPid,notes_keyringRequest besides_emitted c request actor⟩
  | @pinentryRequest info _ request actor known peer named =>
    cases asks
    exact ⟨request.peerPid,notes_pinentryRequest besides_emitted c request actor⟩
  | idle | connect | socketState | disconnect | keyringConclude | pinentryRespond | pinentryCancel | pinentryOutcome
  | timeout | submit | initiate | polkit => cases asks

theorem acts_settles (acts : Acts c action e) (quiet : action.request = none) : Settles c action e := by
  have moved {c e : Core} (moves : Moves c e) : Notes Effect.besides c e :=
    notes_moves besides_emitted (fun _ => ⟨rfl,rfl⟩) moves
  cases acts with
  | idle | connect => exact .silent (notes_same rfl)
  | socketState known later => exact .silent (besides_setSocketState c _ _)
  | disconnect known => exact .silent (notes_disconnect besides_emitted c _)
  | keyringRequest known peer named | pinentryRequest known peer named => cases quiet
  | @keyringConclude request result reply _ cookie pending plain =>
    simp only [keyringConclude,pending]
    exact .answered request.socket .keyring cookie reply (congrArg (Option.map KeyringRequest.socket) pending)
      (if_pos ⟨rfl,rfl⟩) (notes_closeSession besides_emitted (c.withKeyring _) cookie result)
  | @pinentryRespond request _ cookie response free pending =>
    simp only [pinentryRespond,pending]
    exact .answered request.socket .pinentry cookie _ (congrArg (Option.map PinentryRequest.socket) pending)
      (if_pos ⟨rfl,rfl⟩) (notes_same rfl)
  | @pinentryCancel _ cookie =>
    have closed := notes_closeFlow besides_emitted c cookie .cancelled []
    unfold pinentryCancel
    cases pending : c.pinentryManager.pendingRequests.find cookie with
    | none => exact .silent closed
    | some request =>
      exact .answered request.socket .pinentry cookie .cancelled
        (congrArg (Option.map PinentryRequest.socket) pending) (if_pos ⟨rfl,rfl⟩) closed
  | pinentryOutcome known => exact .silent (notes_applyOutcome besides_emitted c _ _ _)
  | timeout running => exact .silent (notes_timeout besides_emitted c _)
  | @submit session _ cookie response _ found source moves =>
    have logged : Notes Effect.besides c (c.log (.submitted cookie response)) := notes_log c ⟨rfl,rfl⟩
    exact .silent (logged.trans (moved moves))
  | initiate before same after =>
    exact .silent ((moved before).trans ((notes_createSession besides_emitted _ _ .polkit _).trans (moved after)))
  | polkit moves => exact .silent (moved moves)

theorem asked_log (c : Core) (key other : RequestKey) (pid : Pid) :
    asked key (c.log (.requested other.kind other.socket pid other.cookie)).history =
      asked key c.history + if other = key then 1 else 0 := by
  simp [asked,log,Effect.asks,List.count_cons]

theorem replied_log (c : Core) (key other : RequestKey) (pid : Pid) :
    replied key (c.log (.requested other.kind other.socket pid other.cookie)).history = replied key c.history := rfl

theorem asked_answer (c : Core) (key : RequestKey) (socket : Socket) (kind : RequestKind) (cookie : QString)
    (reply : Answer) : asked key (c.answer socket kind cookie reply).history = asked key c.history := by
  unfold answer
  split <;> rfl

theorem replied_answer (c : Core) (key : RequestKey) (socket : Socket) (kind : RequestKind) (cookie : QString)
    (reply : Answer) :
    replied key (c.answer socket kind cookie reply).history ≤
      replied key c.history + if (⟨kind,socket,cookie⟩ : RequestKey) = key then 1 else 0 := by
  unfold answer
  split
  · simp [replied,log,Effect.replies,List.count_cons]
  · exact Nat.le_add_right _ _

theorem deed_request (asks : c.deed action key = .ask) : action.request = some key := by
  have named {kind : RequestKind} {cookie : QString} {socket : Socket} (asks : asking key kind cookie socket = .ask) :
      key = ⟨kind,socket,cookie⟩ := by
    unfold asking at asks
    split at asks
    · next concerned =>
      split at asks
      · next mine =>
        obtain ⟨_,_,_⟩ := key
        obtain ⟨rfl,rfl⟩ := concerned
        exact congrArg (RequestKey.mk _ · _) mine
      · cases asks
    · cases asks
  cases action with
  | keyringRequest request actor => exact congrArg some (named asks).symm
  | pinentryRequest request actor =>
    simp only [deed] at asks
    split at asks
    · split at asks <;> cases asks
    · exact congrArg some (named asks).symm
  | connect | socketState | disconnect | keyringConclude | pinentryRespond | pinentryCancel | pinentryOutcome
  | timeout =>
    simp only [deed] at asks
    split at asks <;> cases asks
  | idle | submit | initiate | polkit => cases asks

-- A request of a key that waits was asked for beside all that were replied to.
def Balanced (c : Core) : Prop :=
  ∀ key, replied key c.history + (if (c.line key).recorded then 1 else 0) ≤ asked key c.history

theorem acts_balanced (acts : Acts c action e) (balanced : Balanced c) : Balanced e := by
  intro key
  have before := balanced key
  have line := acts_line acts key
  have waited (other : c.deed action key ≠ .ask) :
      (if (e.line key).recorded then 1 else 0) ≤ if (c.line key).recorded then 1 else 0 := by
    rw [line]
    by_cases recorded : ((c.line key).take (c.deed action key)).recorded = true
    · rw [if_pos recorded,if_pos (take_recorded _ _ other recorded)]
    · rw [if_neg recorded]
      exact Nat.zero_le _
  have bounded : (if (e.line key).recorded then 1 else 0) ≤ 1 := by split <;> omega
  cases asks : action.request with
  | some other =>
    obtain ⟨pid,notes⟩ := acts_asks acts asks
    rw [asked_besides notes,replied_besides notes,asked_log,replied_log]
    by_cases same : other = key
    · rw [if_pos same]
      omega
    · have waits := waited (fun ask => same (Option.some.inj (asks.symm.trans (deed_request ask))))
      rw [if_neg same]
      omega
  | none =>
    have waits := waited (fun ask => nomatch asks.symm.trans (deed_request ask))
    cases acts_settles acts asks with
    | silent notes =>
      rw [asked_besides notes,replied_besides notes]
      omega
    | @answered m socket kind cookie reply pending answers notes =>
      have replies := replied_answer m key socket kind cookie reply
      rw [asked_answer,asked_besides notes]
      rw [replied_besides notes] at replies
      by_cases same : (⟨kind,socket,cookie⟩ : RequestKey) = key
      · subst same
        have held : (c.line ⟨kind,socket,cookie⟩).recorded = true := decide_eq_true pending
        have gone : ((m.answer socket kind cookie reply).line ⟨kind,socket,cookie⟩).recorded = false := by
          rw [line,answers]
          exact take_answer _
        rw [held,if_pos rfl] at before
        rw [if_pos rfl] at replies
        rw [gone]
        simp only [Bool.false_eq_true,if_false]
        omega
      · rw [if_neg same] at replies
        omega

end Core

namespace Daemon

theorem reached_balanced (path : daemon.Reached d) : d.core.Balanced := by
  refine path.invariant (P := fun d => d.core.Balanced) ?_ ?_
  · intro key
    obtain ⟨kind,socket,cookie⟩ := key
    cases kind <;> exact Nat.le_refl _
  · intro d input _ balanced allowed
    exact Core.acts_balanced (acts_step d input allowed) balanced

theorem replied_le_asked (path : daemon.Reached d) (key : RequestKey) : replied key d.trace ≤ asked key d.trace := by
  have balanced := reached_balanced path key
  rw [asked_core,replied_core] at balanced
  omega

end Daemon

end BbAuth
