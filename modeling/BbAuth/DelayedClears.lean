import BbAuth.WindowPrompts

open Library
namespace BbAuth

namespace FallbackWindow

structure Same (w before : FallbackWindow) : Prop where
  current : w.currentSessionId = before.currentSessionId
  input : w.input = before.input
  title : w.title = before.title
  summary : w.summary = before.summary
  requestor : w.requestor = before.requestor
  details : w.details = before.details
  prompt : w.prompt = before.prompt
  error : w.error = before.error
  status : w.status = before.status
  visible : w.visible = before.visible

theorem onProviderStateChanged_current (w : FallbackWindow) (active : Bool) :
    (w.onProviderStateChanged active).currentSessionId = w.currentSessionId ∨
      (w.onProviderStateChanged active).currentSessionId = [] := by
  cases active with
  | true => exact .inl rfl
  | false =>
    unfold onProviderStateChanged
    rw [if_neg Bool.false_ne_true,startIdleExitTimer_current]
    split
    · exact .inl rfl
    · exact .inr rfl

theorem startIdleExitTimer_clears (w : FallbackWindow) : w.startIdleExitTimer.clears = w.clears := by
  unfold startIdleExitTimer
  split <;> rfl

theorem onConnectionStateChanged_clears (w : FallbackWindow) (connected : Bool) :
    (w.onConnectionStateChanged connected).clears = w.clears := by
  unfold onConnectionStateChanged
  simp only [apply_ite clears,ite_self]

theorem onProviderStateChanged_clears (w : FallbackWindow) (active : Bool) :
    (w.onProviderStateChanged active).clears = w.clears := by
  cases active with
  | true => rfl
  | false =>
    unfold onProviderStateChanged
    rw [if_neg Bool.false_ne_true,startIdleExitTimer_clears]
    split <;> rfl

theorem onSessionCreated_clears (w : FallbackWindow) (id : QString) (confirmOnly : Bool) (model : PromptDisplayModel) :
    (w.onSessionCreated id confirmOnly model).clears = w.clears := by
  unfold onSessionCreated
  split <;> rfl

theorem onSessionUpdated_clears (w : FallbackWindow) (id prompt info error : QString) :
    (w.onSessionUpdated id prompt info error).clears = w.clears := by
  unfold onSessionUpdated
  simp only [apply_ite clears,ite_self]

theorem onSubmit_clears (w : FallbackWindow) : w.onSubmit.1.clears = w.clears := by
  unfold onSubmit
  split
  · rfl
  · split <;> rfl

theorem onCancel_clears (w : FallbackWindow) : w.onCancel.1.clears = w.clears := by
  unfold onCancel
  split <;> rfl

theorem closeEvent_clears (w : FallbackWindow) : w.closeEvent.1.clears = w.clears := by
  unfold closeEvent
  split <;> rfl

end FallbackWindow

-- A clear with the session that armed it, and the sessions announced since.
structure DelayedClear where
  session : QString
  since : List QString := []
  deriving DecidableEq, Repr

-- The timers fire in any order, each given by its place among the armed ones.
inductive Tick where
  | fired (place : Nat)
  | other (input : WindowInput)
  deriving DecidableEq, Repr

structure Clearing where
  desk : Desk := {}
  armed : List DelayedClear := []
  deriving DecidableEq, Repr

namespace Clearing

def seen (input : WindowInput) (clear : DelayedClear) : DelayedClear :=
  match input with
  | .sessionCreated id _ _ => if id.isEmpty then clear else {clear with since:=id :: clear.since}
  | _ => clear

def arms (s : Desk) : WindowInput → List DelayedClear
  | .sessionClosed id result _ =>
    if id.isEmpty || decide (id ≠ s.window.currentSessionId) then []
    else if result = text "success" then [{session:=id}]
    else []
  | _ => []

def handled : Tick → WindowInput
  | .fired _ => .cleared
  | .other input => input

def step (quitOnLastWindowClosed : Bool) (s : Clearing) (tick : Tick) : Clearing where
  desk := s.desk.step quitOnLastWindowClosed (handled tick)
  armed := match tick with
    | .fired place => s.armed.eraseIdx place
    | .other input => s.armed.map (seen input) ++ arms s.desk input

def enabled (s : Clearing) : Tick → Prop
  | .fired place => s.desk.exited = false ∧ place < s.armed.length
  | .other input => input ≠ .cleared ∧ s.desk.enabled input

def timers (quitOnLastWindowClosed : Bool) : Machine Clearing Tick := ⟨{},enabled,step quitOnLastWindowClosed⟩

-- A clear changes nothing of another session that was created since it was armed.
def Spares (quitOnLastWindowClosed : Bool) (s : Clearing) (tick : Tick) : Prop :=
  match tick with
  | .fired place => ∀ clear ∈ s.armed[place]?,
    s.desk.window.currentSessionId ∈ clear.since → s.desk.window.currentSessionId ≠ clear.session →
      (step quitOnLastWindowClosed s tick).desk.window.Same s.desk.window
  | .other _ => True

-- The session a clear was armed for is still the current one, or there is none.
def Timely (s : Clearing) (tick : Tick) : Prop :=
  match tick with
  | .fired place => ∀ clear ∈ s.armed[place]?,
    s.desk.window.currentSessionId = [] ∨ s.desk.window.currentSessionId = clear.session
  | .other _ => True

-- Where the current session of an armed clear can come from.
structure Accounted (s : Clearing) : Prop where
  counted : s.desk.window.clears = s.armed.length
  named : ∀ clear ∈ s.armed, [] ∉ clear.since
  current : ∀ clear ∈ s.armed, s.desk.window.currentSessionId = [] ∨
    s.desk.window.currentSessionId = clear.session ∨ s.desk.window.currentSessionId ∈ clear.since

theorem step_current (quitOnLastWindowClosed : Bool) (s : Desk) (input : WindowInput) :
    (s.step quitOnLastWindowClosed input).window.currentSessionId = s.window.currentSessionId ∨
      (s.step quitOnLastWindowClosed input).window.currentSessionId = [] ∨
      ∃ id confirmOnly model, input = .sessionCreated id confirmOnly model ∧ id.isEmpty = false ∧
        (s.step quitOnLastWindowClosed input).window.currentSessionId = id := by
  cases input with
  | connectionStateChanged connected => exact .inl (FallbackWindow.stays_connection s.window connected).1
  | providerStateChanged active =>
    rcases FallbackWindow.onProviderStateChanged_current s.window active with same | none
    · exact .inl same
    · exact .inr (.inl none)
  | sessionCreated id confirmOnly model =>
    cases unnamed : id.isEmpty with
    | true => exact .inl (congrArg _ (FallbackWindow.onSessionCreated_unnamed s.window confirmOnly model unnamed))
    | false =>
      have shows := (FallbackWindow.onSessionCreated_shows s.window confirmOnly model unnamed).1
      exact .inr (.inr ⟨id,confirmOnly,model,rfl,unnamed,shows⟩)
  | sessionUpdated id prompt info error => exact .inl (FallbackWindow.stays_updated s.window id prompt info error).1
  | sessionClosed id result error =>
    rcases FallbackWindow.onSessionClosed_current s.window id result error with same | none
    · exact .inl same
    · exact .inr (.inl none)
  | submit => exact .inl (FallbackWindow.stays_submit s.window).1
  | cancel => exact .inl (FallbackWindow.onCancel_current s.window)
  | close => exact .inr (.inl (FallbackWindow.closeEvent_current s.window))
  | cleared => exact .inr (.inl (FallbackWindow.onCleared_current s.window))
  | statusMessage | typed | idled => exact .inl rfl

theorem closed_clears (s : Desk) (id result error : QString) :
    (s.window.onSessionClosed id result error).clears =
      s.window.clears + (arms s (.sessionClosed id result error)).length := by
  simp only [FallbackWindow.onSessionClosed,arms]
  split
  · rfl
  · split
    · rfl
    · split
      · exact FallbackWindow.startIdleExitTimer_clears _
      · rfl

theorem step_clears (quitOnLastWindowClosed : Bool) (s : Desk) (input : WindowInput) (handled : input ≠ .cleared) :
    (s.step quitOnLastWindowClosed input).window.clears = s.window.clears + (arms s input).length := by
  cases input with
  | connectionStateChanged connected => exact FallbackWindow.onConnectionStateChanged_clears s.window connected
  | providerStateChanged active => exact FallbackWindow.onProviderStateChanged_clears s.window active
  | sessionCreated id confirmOnly model => exact FallbackWindow.onSessionCreated_clears s.window id confirmOnly model
  | sessionUpdated id prompt info error => exact FallbackWindow.onSessionUpdated_clears s.window id prompt info error
  | sessionClosed id result error => exact closed_clears s id result error
  | submit => exact FallbackWindow.onSubmit_clears s.window
  | cancel => exact FallbackWindow.onCancel_clears s.window
  | close => exact FallbackWindow.closeEvent_clears s.window
  | cleared => exact absurd rfl handled
  | statusMessage | typed | idled => rfl

theorem mem_arms {input : WindowInput} (present : clear ∈ arms s input) : clear.session = s.window.currentSessionId ∧ clear.since = [] := by
  unfold arms at present
  split at present
  · next id result error =>
    split at present
    · exact absurd present List.not_mem_nil
    · next named =>
      split at present
      · cases List.mem_singleton.mp present
        simp only [Bool.or_eq_true,decide_eq_true_eq,not_or,not_not] at named
        exact ⟨named.2,rfl⟩
      · exact absurd present List.not_mem_nil
  · exact absurd present List.not_mem_nil

theorem arms_announced (s : Desk) (id : QString) (confirmOnly : Bool) (model : PromptDisplayModel) :
    arms s (.sessionCreated id confirmOnly model) = [] := rfl

theorem seen_session (input : WindowInput) (clear : DelayedClear) : (seen input clear).session = clear.session := by
  unfold seen
  split
  · split <;> rfl
  · rfl

theorem mem_seen {id : QString} (input : WindowInput) (clear : DelayedClear) (present : id ∈ clear.since) : id ∈ (seen input clear).since := by
  unfold seen
  split
  · split
    · exact present
    · exact List.mem_cons_of_mem _ present
  · exact present

theorem seen_named (input : WindowInput) (clear : DelayedClear) (named : [] ∉ clear.since) : [] ∉ (seen input clear).since := by
  unfold seen
  split
  · split
    · exact named
    · next id _ _ announced =>
      apply List.not_mem_cons_of_ne_of_not_mem _ named
      intro empty
      rw [← empty] at announced
      exact announced rfl
  · exact named

-- What was the current session of an armed clear still is, or an announcement
-- that the clear has seen came in between.
theorem seen_current (quitOnLastWindowClosed : Bool) (s : Desk) (input : WindowInput) (clear : DelayedClear)
    (current : s.window.currentSessionId = [] ∨ s.window.currentSessionId = clear.session ∨
      s.window.currentSessionId ∈ clear.since) :
    (s.step quitOnLastWindowClosed input).window.currentSessionId = [] ∨
      (s.step quitOnLastWindowClosed input).window.currentSessionId = (seen input clear).session ∨
      (s.step quitOnLastWindowClosed input).window.currentSessionId ∈ (seen input clear).since := by
  rcases step_current quitOnLastWindowClosed s input with same | none | ⟨id,confirmOnly,model,announced,named,shows⟩
  · rw [same,seen_session]
    rcases current with none | own | later
    · exact .inl none
    · exact .inr (.inl own)
    · exact .inr (.inr (mem_seen input clear later))
  · exact .inl none
  · refine .inr (.inr ?_)
    rw [shows,announced]
    simp only [seen,named,Bool.false_eq_true,if_false,List.mem_cons,true_or]

theorem step_accounted (quitOnLastWindowClosed : Bool) (s : Clearing) (tick : Tick) (allowed : s.enabled tick)
    (accounted : s.Accounted) : (step quitOnLastWindowClosed s tick).Accounted := by
  cases tick with
  | fired place =>
    have current : (step quitOnLastWindowClosed s (.fired place)).desk.window.currentSessionId = [] :=
      FallbackWindow.onCleared_current s.desk.window
    refine ⟨?_,?_,fun _ _ => .inl current⟩
    · have fewer := List.length_eraseIdx_of_lt allowed.2
      have cleared : (step quitOnLastWindowClosed s (.fired place)).desk.window.clears = s.desk.window.clears - 1 :=
        FallbackWindow.startIdleExitTimer_clears _
      rw [cleared,accounted.counted]
      exact fewer.symm
    · intro clear present
      exact accounted.named clear (List.mem_of_mem_eraseIdx present)
  | other input =>
    refine ⟨?_,?_,?_⟩
    · have counted := step_clears quitOnLastWindowClosed s.desk input allowed.1
      show (s.desk.step quitOnLastWindowClosed input).window.clears = (s.armed.map (seen input) ++ arms s.desk input).length
      rw [counted,accounted.counted,List.length_append,List.length_map]
    · intro clear present
      rcases List.mem_append.mp present with before | new
      · obtain ⟨old,listed,same⟩ := List.mem_map.mp before
        rw [← same]
        exact seen_named input old (accounted.named old listed)
      · rw [(mem_arms new).2]
        exact List.not_mem_nil
    · intro clear present
      rcases List.mem_append.mp present with before | new
      · obtain ⟨old,listed,same⟩ := List.mem_map.mp before
        rw [← same]
        exact seen_current quitOnLastWindowClosed s.desk input old (accounted.current old listed)
      · rcases step_current quitOnLastWindowClosed s.desk input with same | none | ⟨id,confirmOnly,model,announced,_⟩
        · exact .inr (.inl (same.trans (mem_arms new).1.symm))
        · exact .inl none
        · rw [announced,arms_announced] at new
          exact absurd new List.not_mem_nil

theorem reached_accounted (path : (timers quitOnLastWindowClosed).Reached s) : s.Accounted :=
  path.invariant ⟨rfl,List.forall_mem_nil _,List.forall_mem_nil _⟩
    (fun s tick _ accounted allowed => step_accounted quitOnLastWindowClosed s tick allowed accounted)

-- A clear never leaves a session in place, so it spares the others only where
-- there are none.
theorem spares_iff (quitOnLastWindowClosed : Bool) (s : Clearing) (tick : Tick) (accounted : s.Accounted) :
    Spares quitOnLastWindowClosed s tick ↔ s.Timely tick := by
  cases tick with
  | other input => exact ⟨fun _ => trivial,fun _ => trivial⟩
  | fired place =>
    constructor
    · intro spares clear found
      rcases accounted.current clear (List.mem_of_getElem? found) with none | own | later
      · exact .inl none
      · exact .inr own
      · by_cases own : s.desk.window.currentSessionId = clear.session
        · exact .inr own
        · have cleared : (step quitOnLastWindowClosed s (.fired place)).desk.window.currentSessionId = [] :=
            FallbackWindow.onCleared_current s.desk.window
          exact .inl ((spares clear found later own).current.symm.trans cleared)
    · intro timely clear found later other
      rcases timely clear found with none | own
      · exact absurd (none ▸ later) (accounted.named clear (List.mem_of_getElem? found))
      · exact absurd own other

theorem enabled_window (s : Clearing) (tick : Tick) (accounted : s.Accounted) (allowed : s.enabled tick) :
    s.desk.enabled (handled tick) := by
  cases tick with
  | fired place =>
    refine ⟨allowed.1,?_⟩
    rw [accounted.counted]
    exact Nat.zero_lt_of_lt allowed.2
  | other input => exact allowed.2

-- The timers' runs are runs of the process.
theorem reached_window (path : (timers quitOnLastWindowClosed).Reached s) :
    (Desk.process quitOnLastWindowClosed).Reached s.desk := by
  induction path with
  | initial => exact .initial
  | step prior allowed ih => exact ih.step (enabled_window _ _ (reached_accounted prior) allowed)

-- Over whole runs: the clears spare every later session exactly when each fires
-- while its own session is the current one or none is.
theorem spared_iff (quitOnLastWindowClosed : Bool) (ticks : List Tick)
    (admitted : (timers quitOnLastWindowClosed).Admits ticks) :
    (timers quitOnLastWindowClosed).Every (Spares quitOnLastWindowClosed) ticks ↔
      (timers quitOnLastWindowClosed).Every Timely ticks :=
  Machine.every_iff (fun s tick path _ => spares_iff quitOnLastWindowClosed s tick (reached_accounted path)) admitted

instance (s : Clearing) : (tick : Tick) → Decidable (s.enabled tick)
  | .fired _ => inferInstanceAs (Decidable (_ = false ∧ _ < _))
  | .other input => inferInstanceAs (Decidable (input ≠ .cleared ∧ s.desk.enabled input))

instance (s : Clearing) : (tick : Tick) → Decidable (s.Timely tick)
  | .fired place => inferInstanceAs (Decidable (∀ clear ∈ s.armed[place]?,_ = _ ∨ _ = clear.session))
  | .other _ => inferInstanceAs (Decidable True)

instance (quitOnLastWindowClosed : Bool) (ticks : List Tick) :
    Decidable ((timers quitOnLastWindowClosed).Admits ticks) :=
  inferInstanceAs (Decidable ((timers quitOnLastWindowClosed).Every enabled ticks))

def patient : List Tick :=
  [.other (.providerStateChanged true),.other (.sessionCreated [1] false {}),.other (.typed [7]),.other .submit,
    .other (.sessionClosed [1] (text "success") []),.fired 0,.other (.sessionCreated [2] false {})]

theorem patient_spared : (timers true).Every (Spares true) patient := (spared_iff true patient (by decide)).mpr (by decide)

-- The next session comes within the 300 ms and is cleared away.
def hasty : List Tick :=
  [.other (.providerStateChanged true),.other (.sessionCreated [1] false {}),.other (.typed [7]),.other .submit,
    .other (.sessionClosed [1] (text "success") []),.other (.sessionCreated [2] false {}),.fired 0]

theorem hasty_cleared : ¬∀ (quitOnLastWindowClosed : Bool) (ticks : List Tick),
    (timers quitOnLastWindowClosed).Admits ticks →
      (timers quitOnLastWindowClosed).Every (Spares quitOnLastWindowClosed) ticks := by
  intro spared
  obtain ⟨_,_,_,_,_,_,last,_⟩ := spared true hasty (by decide)
  have current := (last ⟨[1],[[2]]⟩ (by decide) (by decide) (by decide)).current
  exact absurd current (by decide)

end Clearing

end BbAuth
