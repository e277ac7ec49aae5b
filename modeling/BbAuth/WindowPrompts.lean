import Mathlib.Data.List.Basic
import BbAuth.FallbackWindow

open Library
namespace BbAuth

variable {id other : QString} {prompts : List QString}

namespace FallbackWindow

def Stays (w before : FallbackWindow) : Prop :=
  w.currentSessionId = before.currentSessionId ∧ w.visible = before.visible

theorem stays_connection (w : FallbackWindow) (connected : Bool) : (w.onConnectionStateChanged connected).Stays w := by
  unfold onConnectionStateChanged
  split
  · split <;> exact ⟨rfl,rfl⟩
  · exact ⟨rfl,rfl⟩

theorem stays_activated (w : FallbackWindow) : (w.onProviderStateChanged true).Stays w := ⟨rfl,rfl⟩

theorem stays_updated (w : FallbackWindow) (id prompt info error : QString) :
    (w.onSessionUpdated id prompt info error).Stays w := by
  unfold onSessionUpdated Stays
  simp only [apply_ite currentSessionId,apply_ite visible,ite_self,and_self]

theorem stays_submit (w : FallbackWindow) : w.onSubmit.1.Stays w := by
  unfold onSubmit
  split
  · exact ⟨rfl,rfl⟩
  · split <;> exact ⟨rfl,rfl⟩

theorem startIdleExitTimer_current (w : FallbackWindow) : w.startIdleExitTimer.currentSessionId = w.currentSessionId := by
  unfold startIdleExitTimer
  split <;> rfl

theorem onSessionCreated_shows (w : FallbackWindow) (confirmOnly : Bool) (model : PromptDisplayModel)
    (named : id.isEmpty = false) :
    (w.onSessionCreated id confirmOnly model).currentSessionId = id ∧
      (w.onSessionCreated id confirmOnly model).visible = true := by
  unfold onSessionCreated
  rw [named]
  exact ⟨rfl,rfl⟩

theorem onSessionCreated_unnamed (w : FallbackWindow) (confirmOnly : Bool) (model : PromptDisplayModel)
    (unnamed : id.isEmpty = true) : w.onSessionCreated id confirmOnly model = w := if_pos unnamed

theorem onSessionClosed_other (w : FallbackWindow) (result error : QString) (other : id ≠ w.currentSessionId) :
    w.onSessionClosed id result error = w := by
  unfold onSessionClosed
  rw [if_pos]
  rw [decide_eq_true other,Bool.or_true]

theorem onCleared_current (w : FallbackWindow) : w.onCleared.currentSessionId = [] :=
  startIdleExitTimer_current _

-- Whatever the result, the closed session is still the current one or none is.
theorem onSessionClosed_current (w : FallbackWindow) (id result error : QString) :
    (w.onSessionClosed id result error).currentSessionId = w.currentSessionId ∨
      (w.onSessionClosed id result error).currentSessionId = [] := by
  unfold onSessionClosed
  split
  · exact .inl rfl
  · split
    · exact .inl rfl
    · split
      · exact .inr (startIdleExitTimer_current _)
      · exact .inl rfl

theorem onCancel_current (w : FallbackWindow) : w.onCancel.1.currentSessionId = w.currentSessionId := by
  unfold onCancel
  split <;> rfl

theorem closeEvent_current (w : FallbackWindow) : w.closeEvent.1.currentSessionId = [] := by
  unfold closeEvent
  split
  · next empty => exact List.isEmpty_iff.mp empty
  · rfl

end FallbackWindow

namespace Desk

def process (quitOnLastWindowClosed : Bool) : Machine Desk WindowInput := ⟨{},enabled,step quitOnLastWindowClosed⟩

-- An open prompt of the active provider is on the screen.
def Shown (s : Desk) : Prop :=
  s.exited = false → s.active = true → s.prompts ≠ [] →
    s.window.visible = true ∧ s.window.currentSessionId ∈ s.prompts

-- No prompt but the current one is open.
def Single (s : Desk) : Prop := s.active = true → ∀ other ∈ s.prompts, other = s.window.currentSessionId

-- The session on the screen goes while no other prompt is open, and a delayed
-- clear finds no open prompt at all.
def Alone (quitOnLastWindowClosed : Bool) (s : Desk) (input : WindowInput) : Prop :=
  match input with
  | .sessionClosed id _ _ => id = s.window.currentSessionId → s.Single
  | .cancel => s.Single
  | .close => quitOnLastWindowClosed = true ∨ s.Single
  | .cleared => s.active = true → s.prompts = []
  | _ => True

theorem mem_dropped : other ∈ dropped prompts id ↔ other ∈ prompts ∧ other ≠ id := by
  simp [dropped,List.mem_filter]

theorem dropped_nil : dropped prompts id = [] ↔ ∀ other ∈ prompts, other = id := by
  simp [dropped,List.filter_eq_nil_iff]

theorem shown_stays {s e : Desk} (same : e.window.Stays s.window) (active : e.active = s.active)
    (prompts : e.prompts = s.prompts) (exited : e.exited = s.exited) (shown : s.Shown) : e.Shown := by
  unfold Shown at *
  rw [same.1,same.2,active,prompts,exited]
  exact shown

theorem shown_dropped {s e : Desk} (named : [] ∉ s.prompts) (running : e.exited = false)
    (active : e.active = s.active) (prompts : e.prompts = dropped s.prompts s.window.currentSessionId)
    (current : e.window.currentSessionId = s.window.currentSessionId ∨ e.window.currentSessionId = []) :
    e.Shown ↔ s.Single := by
  have absent : e.window.currentSessionId ∉ e.prompts := by
    rw [prompts]
    intro present
    obtain ⟨listed,differs⟩ := mem_dropped.mp present
    rcases current with same | none
    · exact differs same
    · exact named (none ▸ listed)
  constructor
  · intro next active_now
    rw [← dropped_nil,← prompts]
    by_contra left
    exact absent (next running (active.trans active_now) left).2
  · intro single _ active_next left
    rw [prompts] at left
    exact absurd (dropped_nil.mpr (single (active.symm.trans active_next))) left

theorem provider_shown (quitOnLastWindowClosed : Bool) (s : Desk) (active : Bool) (named : [] ∉ s.prompts)
    (shown : s.Shown) :
    [] ∉ (step quitOnLastWindowClosed s (.providerStateChanged active)).prompts ∧
      (step quitOnLastWindowClosed s (.providerStateChanged active)).Shown := by
  cases same : decide (active = s.active) with
  | true =>
    have kept := of_decide_eq_true same
    subst kept
    have listed : (step quitOnLastWindowClosed s (.providerStateChanged s.active)).prompts = s.prompts := if_pos rfl
    refine ⟨listed ▸ named,?_⟩
    cases on : s.active with
    | true =>
      rw [on] at listed
      exact shown_stays (FallbackWindow.stays_activated s.window) on.symm listed rfl shown
    | false => exact fun _ active => absurd active Bool.false_ne_true
  | false =>
    have listed : (step quitOnLastWindowClosed s (.providerStateChanged active)).prompts = [] :=
      if_neg (of_decide_eq_false same)
    exact ⟨listed ▸ List.not_mem_nil,fun _ _ left => absurd listed left⟩

theorem created_shown (quitOnLastWindowClosed : Bool) (s : Desk) (id : QString) (confirmOnly : Bool)
    (model : PromptDisplayModel) (named : [] ∉ s.prompts) (shown : s.Shown) :
    [] ∉ (step quitOnLastWindowClosed s (.sessionCreated id confirmOnly model)).prompts ∧
      (step quitOnLastWindowClosed s (.sessionCreated id confirmOnly model)).Shown := by
  cases unnamed : id.isEmpty with
  | true =>
    have listed : (step quitOnLastWindowClosed s (.sessionCreated id confirmOnly model)).prompts = s.prompts :=
      if_pos unnamed
    have window := FallbackWindow.onSessionCreated_unnamed s.window confirmOnly model unnamed
    exact ⟨listed ▸ named,shown_stays ⟨congrArg _ window,congrArg _ window⟩ rfl listed rfl shown⟩
  | false =>
    have listed : (step quitOnLastWindowClosed s (.sessionCreated id confirmOnly model)).prompts =
        id :: dropped s.prompts id := if_neg (by rw [unnamed]; exact Bool.false_ne_true)
    obtain ⟨current,visible⟩ := FallbackWindow.onSessionCreated_shows s.window confirmOnly model unnamed
    refine ⟨?_,fun _ _ _ => ⟨visible,?_⟩⟩
    · rw [listed]
      refine List.not_mem_cons_of_ne_of_not_mem ?_ (fun present => named (mem_dropped.mp present).1)
      intro empty
      rw [← empty] at unnamed
      cases unnamed
    · have shows : (step quitOnLastWindowClosed s (.sessionCreated id confirmOnly model)).window.currentSessionId = id :=
        current
      rw [listed,shows]
      exact List.mem_cons_self

-- Only the closing of the current session can lose sight of the others.
theorem closed_shown (quitOnLastWindowClosed : Bool) (s : Desk) (id result error : QString) (named : [] ∉ s.prompts)
    (shown : s.Shown) (alive : s.exited = false) :
    (step quitOnLastWindowClosed s (.sessionClosed id result error)).Shown ↔
      Alone quitOnLastWindowClosed s (.sessionClosed id result error) := by
  by_cases same : id = s.window.currentSessionId
  · have gone := shown_dropped (e := step quitOnLastWindowClosed s (.sessionClosed id result error)) named alive rfl
      (congrArg (dropped s.prompts) same) (FallbackWindow.onSessionClosed_current s.window id result error)
    exact ⟨fun next _ => gone.mp next,fun alone => gone.mpr (alone same)⟩
  · have window := FallbackWindow.onSessionClosed_other s.window result error same
    refine ⟨fun _ here => absurd here same,fun _ running active left => ?_⟩
    have some_open : s.prompts ≠ [] := by
      intro none
      exact left (dropped_nil.mpr (fun other present => absurd (none ▸ present) List.not_mem_nil))
    obtain ⟨visible,current⟩ := shown running active some_open
    have kept : (step quitOnLastWindowClosed s (.sessionClosed id result error)).window = s.window := window
    rw [kept]
    exact ⟨visible,mem_dropped.mpr ⟨current,Ne.symm same⟩⟩

theorem close_shown (quitOnLastWindowClosed : Bool) (s : Desk) (named : [] ∉ s.prompts) :
    (step quitOnLastWindowClosed s .close).Shown ↔ Alone quitOnLastWindowClosed s .close := by
  cases quitOnLastWindowClosed with
  | true => exact ⟨fun _ => .inl rfl,fun _ running => absurd running.symm Bool.false_ne_true⟩
  | false =>
    have gone := shown_dropped (e := step false s .close) named rfl rfl rfl
      (.inr (FallbackWindow.closeEvent_current s.window))
    refine ⟨fun next => .inr (gone.mp next),?_⟩
    intro alone
    rcases alone with quits | single
    · exact absurd quits Bool.false_ne_true
    · exact gone.mpr single

theorem cleared_shown (quitOnLastWindowClosed : Bool) (s : Desk) (named : [] ∉ s.prompts) (alive : s.exited = false) :
    (step quitOnLastWindowClosed s .cleared).Shown ↔ Alone quitOnLastWindowClosed s .cleared := by
  refine ⟨fun next active => ?_,fun alone _ active left => absurd (alone active) left⟩
  by_contra left
  have current := (next alive active left).2
  have none : (step quitOnLastWindowClosed s .cleared).window.currentSessionId = [] :=
    FallbackWindow.onCleared_current s.window
  rw [none] at current
  exact named current

theorem step_shown (quitOnLastWindowClosed : Bool) (s : Desk) (input : WindowInput)
    (named : [] ∉ s.prompts) (shown : s.Shown) (allowed : s.enabled input) :
    [] ∉ (step quitOnLastWindowClosed s input).prompts ∧
      ((step quitOnLastWindowClosed s input).Shown ↔ Alone quitOnLastWindowClosed s input) := by
  have alive := allowed.1
  have fewer (id : QString) : [] ∉ dropped s.prompts id := fun present => named (mem_dropped.mp present).1
  cases input with
  | connectionStateChanged connected =>
    exact ⟨named,fun _ => trivial,fun _ =>
      shown_stays (FallbackWindow.stays_connection s.window connected) rfl rfl rfl shown⟩
  | providerStateChanged active =>
    obtain ⟨still,next⟩ := provider_shown quitOnLastWindowClosed s active named shown
    exact ⟨still,fun _ => trivial,fun _ => next⟩
  | statusMessage status => exact ⟨named,fun _ => trivial,fun _ => shown_stays ⟨rfl,rfl⟩ rfl rfl rfl shown⟩
  | sessionCreated id confirmOnly model =>
    obtain ⟨still,next⟩ := created_shown quitOnLastWindowClosed s id confirmOnly model named shown
    exact ⟨still,fun _ => trivial,fun _ => next⟩
  | sessionUpdated id prompt info error =>
    exact ⟨named,fun _ => trivial,fun _ =>
      shown_stays (FallbackWindow.stays_updated s.window id prompt info error) rfl rfl rfl shown⟩
  | sessionClosed id result error =>
    exact ⟨fewer id,closed_shown quitOnLastWindowClosed s id result error named shown alive⟩
  | typed input => exact ⟨named,fun _ => trivial,fun _ => shown_stays ⟨rfl,rfl⟩ rfl rfl rfl shown⟩
  | submit =>
    exact ⟨named,fun _ => trivial,fun _ => shown_stays (FallbackWindow.stays_submit s.window) rfl rfl rfl shown⟩
  | cancel =>
    exact ⟨fewer _,shown_dropped named alive rfl rfl (.inl (FallbackWindow.onCancel_current s.window))⟩
  | close => exact ⟨fewer _,close_shown quitOnLastWindowClosed s named⟩
  | cleared => exact ⟨named,cleared_shown quitOnLastWindowClosed s named alive⟩
  | idled => exact ⟨named,fun _ => trivial,fun _ running => absurd running.symm Bool.false_ne_true⟩

-- Over whole runs: an open prompt is always on the screen exactly when the
-- window never gives up the current session with another prompt open.
theorem shown_iff (quitOnLastWindowClosed : Bool) (inputs : List WindowInput)
    (admitted : (process quitOnLastWindowClosed).Admits inputs) :
    (process quitOnLastWindowClosed).Always Shown inputs ↔
      (process quitOnLastWindowClosed).Every (Alone quitOnLastWindowClosed) inputs :=
  Machine.carried_iff (P := fun s => [] ∉ s.prompts) (step_shown quitOnLastWindowClosed)
    List.not_mem_nil (fun _ _ left => absurd rfl left) admitted

instance (s : Desk) : (input : WindowInput) → Decidable (s.enabled input)
  | .typed _ | .submit | .cancel => inferInstanceAs (Decidable (_ ∧ _ = true ∧ _ = false))
  | .close | .idled => inferInstanceAs (Decidable (_ ∧ _ = true))
  | .cleared => inferInstanceAs (Decidable (_ ∧ _ < _))
  | .connectionStateChanged _ | .providerStateChanged _ | .statusMessage _ | .sessionCreated .. | .sessionUpdated .. |
      .sessionClosed .. => inferInstanceAs (Decidable (_ ∧ True))

instance (s : Desk) : Decidable s.Single := inferInstanceAs (Decidable (_ → ∀ other ∈ _, other = _))

instance (quitOnLastWindowClosed : Bool) (s : Desk) :
    (input : WindowInput) → Decidable (Alone quitOnLastWindowClosed s input)
  | .sessionClosed .. => inferInstanceAs (Decidable (_ → _))
  | .cancel => inferInstanceAs (Decidable s.Single)
  | .close => inferInstanceAs (Decidable (_ ∨ _))
  | .cleared => inferInstanceAs (Decidable (_ → _ = _))
  | .connectionStateChanged _ | .providerStateChanged _ | .statusMessage _ | .sessionCreated .. | .sessionUpdated .. |
      .typed _ | .submit | .idled => inferInstanceAs (Decidable True)

instance (quitOnLastWindowClosed : Bool) (inputs : List WindowInput) :
    Decidable ((process quitOnLastWindowClosed).Admits inputs) :=
  inferInstanceAs (Decidable ((process quitOnLastWindowClosed).Every enabled inputs))

def unlocked : List WindowInput :=
  [.providerStateChanged true,.sessionCreated [1] false {},.typed [7],.submit,
    .sessionClosed [1] (text "success") [],.cleared,.sessionCreated [2] true {},.cancel]

theorem unlocked_shown : (process true).Always Shown unlocked := (shown_iff true unlocked (by decide)).mpr (by decide)

-- The second prompt hides the first, and its cancellation hides the window.
def covered : List WindowInput :=
  [.providerStateChanged true,.sessionCreated [1] false {},.sessionCreated [2] false {},
    .sessionClosed [2] (text "cancelled") []]

theorem covered_forgotten : ¬∀ (quitOnLastWindowClosed : Bool) (inputs : List WindowInput),
    (process quitOnLastWindowClosed).Admits inputs → (process quitOnLastWindowClosed).Always Shown inputs := by
  intro shown
  have always := shown true covered (by decide)
  have last : Shown ((process true).run covered) := always.2.2.2.2
  have visible := (last rfl rfl (by decide)).1
  exact absurd visible (by decide)

end Desk

end BbAuth
