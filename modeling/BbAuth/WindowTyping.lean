import BbAuth.WindowPrompts

open Library
namespace BbAuth

namespace FallbackWindow

-- A handler leaves the text and the session alone, or it clears the text.
def Leaves (w before : FallbackWindow) : Prop :=
  (w.input = before.input ∧ w.currentSessionId = before.currentSessionId) ∨ w.input = []

theorem leaves_self (w : FallbackWindow) : w.Leaves w := .inl ⟨rfl,rfl⟩

theorem startIdleExitTimer_input (w : FallbackWindow) : w.startIdleExitTimer.input = w.input := by
  unfold startIdleExitTimer
  split <;> rfl

theorem leaves_connection (w : FallbackWindow) (connected : Bool) : (w.onConnectionStateChanged connected).Leaves w := by
  refine .inl ⟨?_,(stays_connection w connected).1⟩
  unfold onConnectionStateChanged
  simp only [apply_ite input,ite_self]

theorem leaves_provider (w : FallbackWindow) (active : Bool) : (w.onProviderStateChanged active).Leaves w := by
  cases active with
  | true => exact .inl ⟨rfl,rfl⟩
  | false =>
    unfold onProviderStateChanged Leaves
    rw [if_neg Bool.false_ne_true,startIdleExitTimer_input,startIdleExitTimer_current]
    split
    · exact .inl ⟨rfl,rfl⟩
    · exact .inr rfl

theorem leaves_created (w : FallbackWindow) (id : QString) (confirmOnly : Bool) (model : PromptDisplayModel) :
    (w.onSessionCreated id confirmOnly model).Leaves w := by
  unfold onSessionCreated
  split
  · exact leaves_self w
  · exact .inr rfl

theorem leaves_updated (w : FallbackWindow) (id prompt info error : QString) :
    (w.onSessionUpdated id prompt info error).Leaves w := by
  refine .inl ⟨?_,(stays_updated w id prompt info error).1⟩
  unfold onSessionUpdated
  simp only [apply_ite input,ite_self]

theorem leaves_closed (w : FallbackWindow) (id result error : QString) :
    (w.onSessionClosed id result error).Leaves w := by
  unfold onSessionClosed
  split
  · exact leaves_self w
  · split
    · exact .inl ⟨rfl,rfl⟩
    · split
      · exact .inr (startIdleExitTimer_input _)
      · exact .inl ⟨rfl,rfl⟩

theorem leaves_submit (w : FallbackWindow) : w.onSubmit.1.Leaves w := by
  unfold onSubmit
  split
  · exact leaves_self w
  · split
    · exact .inl ⟨rfl,rfl⟩
    · cases confirm : w.confirmOnly with
      | true => exact .inl ⟨rfl,rfl⟩
      | false => exact .inr rfl

theorem leaves_cancel (w : FallbackWindow) : w.onCancel.1.Leaves w := by
  refine .inl ⟨?_,onCancel_current w⟩
  unfold onCancel
  split <;> rfl

theorem leaves_close (w : FallbackWindow) : w.closeEvent.1.Leaves w := by
  unfold closeEvent
  split
  · exact .inl ⟨rfl,rfl⟩
  · exact .inr rfl

theorem onCancel_sends (w : FallbackWindow) (id response : QString) : .sendResponse id response ∉ w.onCancel.2 := by
  unfold onCancel
  split
  · exact List.not_mem_nil
  · exact List.not_mem_cons_of_ne_of_not_mem WindowCall.noConfusion List.not_mem_nil

theorem closeEvent_sends (w : FallbackWindow) (id response : QString) :
    .sendResponse id response ∉ w.closeEvent.2 := by
  unfold closeEvent
  split
  · exact List.not_mem_nil
  · exact List.not_mem_cons_of_ne_of_not_mem WindowCall.noConfusion List.not_mem_nil

theorem onSubmit_sends (w : FallbackWindow) (id response : QString) (asks : w.confirmOnly = false)
    (sent : .sendResponse id response ∈ w.onSubmit.2) : id = w.currentSessionId ∧ response = w.input := by
  unfold onSubmit at sent
  split at sent
  · exact absurd sent List.not_mem_nil
  · split at sent
    · exact absurd sent List.not_mem_nil
    · cases List.mem_singleton.mp sent
      rw [asks]
      exact ⟨rfl,rfl⟩

end FallbackWindow

namespace Desk

def calls (s : Desk) : WindowInput → List WindowCall
  | .submit => s.window.onSubmit.2
  | .cancel => s.window.onCancel.2
  | .close => s.window.closeEvent.2
  | _ => []

theorem step_leaves (quitOnLastWindowClosed : Bool) (s : Desk) (input : WindowInput)
    (handled : ∀ content, input ≠ .typed content) : (step quitOnLastWindowClosed s input).window.Leaves s.window := by
  cases input with
  | connectionStateChanged connected => exact FallbackWindow.leaves_connection s.window connected
  | providerStateChanged active => exact FallbackWindow.leaves_provider s.window active
  | statusMessage status => exact .inl ⟨rfl,rfl⟩
  | sessionCreated id confirmOnly model => exact FallbackWindow.leaves_created s.window id confirmOnly model
  | sessionUpdated id prompt info error => exact FallbackWindow.leaves_updated s.window id prompt info error
  | sessionClosed id result error => exact FallbackWindow.leaves_closed s.window id result error
  | typed content => exact absurd rfl (handled content)
  | submit => exact FallbackWindow.leaves_submit s.window
  | cancel => exact FallbackWindow.leaves_cancel s.window
  | close => exact FallbackWindow.leaves_close s.window
  | cleared => exact .inr (FallbackWindow.startIdleExitTimer_input _)
  | idled => exact FallbackWindow.leaves_self s.window

end Desk

-- A character of the text field, with the number of the event that put it there.
structure Key where
  char : QChar
  time : Nat
  deriving DecidableEq, Repr

-- A keystroke replaces a range of the text: typing, deleting and pasting do. The
-- text field keeps the history of its text, over every clear() of the window as
-- well; which earlier content an undo or a redo brings back is left open. An update
-- may carry the visibility of the text, which the user toggles as well.
inductive Touch where
  | edited (start removed : Nat) (chars : QString)
  | undone (place : Nat)
  | toggled (shown : Bool)
  | updated (id prompt info error : QString) (echo : Bool)
  | other (input : WindowInput)
  deriving DecidableEq, Repr

-- The process with the origin of every character in the text field, what was in the
-- field before, the latest first, whether the text is shown, the number of the next
-- event, and that of the last one that changed the current session.
structure Typing where
  desk : Desk := {}
  keys : List Key := []
  past : List (List Key) := []
  shown : Bool := false
  now : Nat := 1
  since : Nat := 0
  deriving DecidableEq, Repr

namespace Typing

def splice (content : List α) (start removed : Nat) (chars : List α) : List α :=
  content.take start ++ chars ++ content.drop (start + removed)

def keyed (time : Nat) (chars : QString) : List Key := chars.map (⟨·,time⟩)

-- While the text is hidden, an undo does no more than clear the field.
def undo (s : Typing) (place : Nat) : List Key := if s.shown then (s.past[place]?).getD s.keys else []

def touched (quitOnLastWindowClosed : Bool) (s : Typing) : Touch → Desk
  | .edited start removed chars =>
    s.desk.step quitOnLastWindowClosed (.typed (splice s.desk.window.input start removed chars))
  | .undone place => s.desk.step quitOnLastWindowClosed (.typed ((s.undo place).map Key.char))
  | .toggled _ => s.desk
  | .updated id prompt info error _ => s.desk.step quitOnLastWindowClosed (.sessionUpdated id prompt info error)
  | .other input => s.desk.step quitOnLastWindowClosed input

-- The origins follow the text: a keystroke adds its own characters, an undo brings
-- back old ones, and a text that a handler cleared has none.
def origins (s : Typing) (content : QString) : Touch → List Key
  | .edited start removed chars => splice s.keys start removed (keyed s.now chars)
  | .undone place => s.undo place
  | .other (.typed input) => keyed s.now input
  | .toggled _ | .updated .. | .other _ => if content.isEmpty then [] else s.keys

def shows (s : Typing) : Touch → Bool
  | .toggled shown => shown
  | .updated id _ _ _ echo => if id.isEmpty || decide (id ≠ s.desk.window.currentSessionId) then s.shown else echo
  | .other (.sessionCreated id _ _) => if id.isEmpty then s.shown else false
  | .edited .. | .undone _ | .other _ => s.shown

def step (quitOnLastWindowClosed : Bool) (s : Typing) (touch : Touch) : Typing :=
  let desk := s.touched quitOnLastWindowClosed touch
  {desk,keys:=s.origins desk.window.input touch,past:=s.keys :: s.past,shown:=s.shows touch,now:=s.now + 1,
    since:=if desk.window.currentSessionId = s.desk.window.currentSessionId then s.since else s.now}

def typing (quitOnLastWindowClosed : Bool) : Machine Typing Touch := ⟨{},fun _ _ => True,step quitOnLastWindowClosed⟩

def calls (s : Typing) : Touch → List WindowCall
  | .other input => s.desk.calls input
  | .edited .. | .undone _ | .toggled _ | .updated .. => []

-- What is sent for a prompt was typed since its session is the current one.
def SendsOwn (s : Typing) (touch : Touch) : Prop :=
  s.desk.window.confirmOnly = false → ∀ id response, .sendResponse id response ∈ s.calls touch →
    id = s.desk.window.currentSessionId ∧ s.keys.map Key.char = response ∧ ∀ key ∈ s.keys, s.since < key.time

-- An undo that brings back, in plain text, what was typed under an earlier session.
def revives (s : Typing) : Touch → Bool
  | .undone place => s.shown && ((s.past[place]?).getD []).any (fun key => decide (key.time ≤ s.since))
  | .edited .. | .toggled _ | .updated .. | .other _ => false

structure Tracked (s : Typing) : Prop where
  chars : s.keys.map Key.char = s.desk.window.input
  fresh : ∀ key ∈ s.keys, s.since < key.time
  past : s.since < s.now

theorem map_splice (f : α → β) (content : List α) (start removed : Nat) (chars : List α) :
    (splice content start removed chars).map f = splice (content.map f) start removed (chars.map f) := by
  simp only [splice,List.map_append,List.map_take,List.map_drop]

theorem mem_splice {key : α} {content chars : List α} (present : key ∈ splice content start removed chars) :
    key ∈ content ∨ key ∈ chars := by
  unfold splice at present
  rcases List.mem_append.mp present with front | back
  · rcases List.mem_append.mp front with before | typed
    · exact .inl (List.mem_of_mem_take before)
    · exact .inr typed
  · exact .inl (List.mem_of_mem_drop back)

theorem map_keyed (time : Nat) (chars : QString) : (keyed time chars).map Key.char = chars := by
  unfold keyed
  rw [List.map_map]
  exact List.map_id chars

theorem mem_keyed {key : Key} (present : key ∈ keyed time chars) : key.time = time := by
  obtain ⟨char,_,same⟩ := List.mem_map.mp present
  rw [← same]

theorem tracked_typed (quitOnLastWindowClosed : Bool) {s e : Typing} {content : QString}
    (desk : e.desk = s.desk.step quitOnLastWindowClosed (.typed content)) (chars : e.keys.map Key.char = content)
    (since : e.since = s.since) (now : e.now = s.now + 1) (fresh : ∀ key ∈ e.keys, s.since < key.time)
    (tracked : s.Tracked) : e.Tracked := by
  refine ⟨?_,?_,?_⟩
  · rw [chars,desk]
    rfl
  · rw [since]
    exact fresh
  · rw [since,now]
    exact Nat.lt_succ_of_lt tracked.past

theorem undo_fresh (s : Typing) (place : Nat) (fresh : ∀ key ∈ s.keys, s.since < key.time)
    (spared : s.revives (.undone place) = false) : ∀ key ∈ s.undo place, s.since < key.time := by
  unfold undo
  have spared : (s.shown && ((s.past[place]?).getD []).any (fun key => decide (key.time ≤ s.since))) = false := spared
  cases shown : s.shown with
  | false => exact List.forall_mem_nil _
  | true =>
    rw [shown,Bool.true_and] at spared
    rw [if_pos rfl]
    cases earlier : s.past[place]? with
    | none => exact fresh
    | some content =>
      rw [earlier] at spared
      intro key present
      have late := List.any_eq_false.mp spared key present
      exact Nat.lt_of_not_le (fun early => late (decide_eq_true early))

theorem tracked_handled {s e : Typing} (leaves : e.desk.window.Leaves s.desk.window)
    (keys : e.keys = if e.desk.window.input.isEmpty then [] else s.keys)
    (since : e.since = if e.desk.window.currentSessionId = s.desk.window.currentSessionId then s.since else s.now)
    (now : e.now = s.now + 1) (tracked : s.Tracked) : e.Tracked := by
  have past : e.since < e.now := by
    have before := tracked.past
    rw [since,now]
    split <;> omega
  cases cleared : e.desk.window.input.isEmpty with
  | true =>
    rw [cleared,if_pos rfl] at keys
    refine ⟨?_,?_,past⟩
    · rw [keys,List.isEmpty_iff.mp cleared]
      rfl
    · rw [keys]
      exact List.forall_mem_nil _
  | false =>
    rw [cleared,if_neg Bool.false_ne_true] at keys
    rcases leaves with ⟨same,current⟩ | none
    · rw [if_pos current] at since
      refine ⟨?_,?_,past⟩
      · rw [keys,same]
        exact tracked.chars
      · rw [keys,since]
        exact tracked.fresh
    · rw [none] at cleared
      exact absurd cleared.symm Bool.false_ne_true

theorem step_tracked (quitOnLastWindowClosed : Bool) (s : Typing) (touch : Touch) (tracked : s.Tracked)
    (spared : s.revives touch = false) : (step quitOnLastWindowClosed s touch).Tracked := by
  cases touch with
  | edited start removed chars =>
    apply tracked_typed quitOnLastWindowClosed (s := s) (e := step quitOnLastWindowClosed s (.edited start removed chars))
      rfl ?_ (if_pos rfl) rfl ?_ tracked
    · show (splice s.keys start removed (keyed s.now chars)).map Key.char = _
      rw [map_splice,map_keyed,tracked.chars]
    · intro key present
      rcases mem_splice present with before | own
      · exact tracked.fresh key before
      · rw [mem_keyed own]
        exact tracked.past
  | undone place =>
    exact tracked_typed quitOnLastWindowClosed (s := s) (e := step quitOnLastWindowClosed s (.undone place)) rfl rfl
      (if_pos rfl) rfl (undo_fresh s place tracked.fresh spared) tracked
  | toggled shown =>
    exact tracked_handled (s := s) (e := step quitOnLastWindowClosed s (.toggled shown))
      (FallbackWindow.leaves_self s.desk.window) rfl rfl rfl tracked
  | updated id prompt info error echo =>
    exact tracked_handled (s := s) (e := step quitOnLastWindowClosed s (.updated id prompt info error echo))
      (FallbackWindow.leaves_updated s.desk.window id prompt info error) rfl rfl rfl tracked
  | other input =>
    by_cases handled : ∀ content, input ≠ .typed content
    · refine tracked_handled (Desk.step_leaves quitOnLastWindowClosed s.desk input handled) ?_ rfl rfl tracked
      cases input with
      | typed content => exact absurd rfl (handled content)
      | _ => rfl
    · obtain ⟨content,typed⟩ := not_forall_not.mp handled
      subst typed
      apply tracked_typed quitOnLastWindowClosed (s := s) (e := step quitOnLastWindowClosed s (.other (.typed content)))
        rfl (map_keyed s.now content) (if_pos rfl) rfl ?_ tracked
      intro key present
      rw [mem_keyed present]
      exact tracked.past

theorem tracked_sends (s : Typing) (touch : Touch) (tracked : s.Tracked) : s.SendsOwn touch := by
  intro asks id response sent
  cases touch with
  | edited start removed chars => exact absurd sent List.not_mem_nil
  | undone place => exact absurd sent List.not_mem_nil
  | toggled shown => exact absurd sent List.not_mem_nil
  | updated id prompt info error echo => exact absurd sent List.not_mem_nil
  | other input =>
    cases input with
    | submit =>
      obtain ⟨current,whole⟩ := FallbackWindow.onSubmit_sends s.desk.window id response asks sent
      exact ⟨current,tracked.chars.trans whole.symm,tracked.fresh⟩
    | cancel => exact absurd sent (FallbackWindow.onCancel_sends s.desk.window id response)
    | close => exact absurd sent (FallbackWindow.closeEvent_sends s.desk.window id response)
    | _ => exact absurd sent List.not_mem_nil

-- Over every sequence of events in which no undo revives the text of an earlier
-- session: an answer carries only characters that were typed after its session
-- became the current one.
theorem sends_own (quitOnLastWindowClosed : Bool) (inputs : List Touch)
    (spared : (typing quitOnLastWindowClosed).Every (fun s touch => s.revives touch = false) inputs) :
    (typing quitOnLastWindowClosed).Every SendsOwn inputs := by
  have start : Tracked {} := ⟨rfl,List.forall_mem_nil _,Nat.one_pos⟩
  have kept : (typing quitOnLastWindowClosed).Always Tracked inputs :=
    Machine.AlwaysFrom.of_kept (fun s touch tracked _ spared => step_tracked quitOnLastWindowClosed s touch tracked spared)
      (fun _ tracked => tracked) (.of_all fun _ _ => trivial) spared start
  exact kept.every tracked_sends

-- Typed for the first prompt, submitted under the second, edited in between.
def typedAgain : List Touch :=
  [.other (.sessionCreated [1] false {}),.edited 0 0 [7,8],.other (.sessionCreated [2] false {}),.edited 0 0 [5,6],
   .edited 1 1 [9],.updated [2] [] [] [] true,.undone 1,.other .submit]

theorem typedAgain_own : (typing true).Every SendsOwn typedAgain := sends_own true typedAgain (by decide)

-- Typed for the first prompt, brought back and submitted under the second.
def takenBack : List Touch :=
  [.other (.sessionCreated [1] false {}),.edited 0 0 [7,8],.other (.sessionCreated [2] false {}),.toggled true,.undone 1,
   .other .submit]

theorem takenBack_sent : ¬(typing true).Every SendsOwn takenBack := by
  intro every
  obtain ⟨_,_,_,_,_,own,_⟩ := every
  obtain ⟨_,_,fresh⟩ := own rfl [2] [7,8] (by decide)
  exact absurd (fresh ⟨7,2⟩ (by decide)) (by decide)

end Typing

end BbAuth
