import BbAuth.PromptModel
import BbAuth.WindowTyping

open Library
namespace BbAuth

namespace FallbackWindow

-- No session is left, or the current one with what it accepts.
def Stands (w before : FallbackWindow) : Prop :=
  w.currentSessionId = [] ∨ w.currentSessionId = before.currentSessionId ∧ w.confirmOnly = before.confirmOnly ∧
    w.allowEmptyResponse = before.allowEmptyResponse

theorem stands_self (w : FallbackWindow) : w.Stands w := .inr ⟨rfl,rfl,rfl⟩

theorem stands_connection (w : FallbackWindow) (connected : Bool) : (w.onConnectionStateChanged connected).Stands w := by
  refine .inr ⟨(stays_connection w connected).1,?_,?_⟩
  · unfold onConnectionStateChanged
    simp only [apply_ite confirmOnly,ite_self]
  · unfold onConnectionStateChanged
    simp only [apply_ite allowEmptyResponse,ite_self]

theorem stands_provider (w : FallbackWindow) (active : Bool) : (w.onProviderStateChanged active).Stands w := by
  cases active with
  | true => exact .inr ⟨rfl,rfl,rfl⟩
  | false =>
    refine .inl ?_
    unfold onProviderStateChanged
    rw [if_neg Bool.false_ne_true,startIdleExitTimer_current]
    split
    · next vacant => exact List.isEmpty_iff.mp vacant
    · rfl

theorem stands_closed (w : FallbackWindow) (id result error : QString) : (w.onSessionClosed id result error).Stands w := by
  unfold onSessionClosed
  split
  · exact stands_self w
  · split
    · exact .inr ⟨rfl,rfl,rfl⟩
    · split
      · exact .inl (startIdleExitTimer_current _)
      · exact .inr ⟨rfl,rfl,rfl⟩

theorem stands_submit (w : FallbackWindow) : w.onSubmit.1.Stands w := by
  unfold onSubmit
  split
  · exact stands_self w
  · split
    · exact .inr ⟨rfl,rfl,rfl⟩
    · exact .inr ⟨rfl,rfl,rfl⟩

theorem stands_cancel (w : FallbackWindow) : w.onCancel.1.Stands w := by
  unfold onCancel
  split
  · exact .inr ⟨rfl,rfl,rfl⟩
  · exact .inr ⟨rfl,rfl,rfl⟩

def touchPrompt (prompt info : QString) : Bool :=
  let hint := prompt ++ AssuanCodec.lineFeed :: AssuanCodec.trimmed info
  looksLikeFingerprintPrompt hint || looksLikeFidoPrompt hint || looksLikeTouchPrompt hint

theorem onSessionUpdated_other {id : QString} (w : FallbackWindow) (prompt info error : QString) (other : id ≠ w.currentSessionId) :
    w.onSessionUpdated id prompt info error = w := by
  apply if_pos
  rw [decide_eq_true other,Bool.or_true]

theorem onSessionUpdated_confirmOnly (w : FallbackWindow) (id prompt info error : QString) :
    (w.onSessionUpdated id prompt info error).confirmOnly = w.confirmOnly := by
  unfold onSessionUpdated
  simp only [apply_ite FallbackWindow.confirmOnly,ite_self]

-- An update of the current session sets anew whether an answer can be empty.
theorem onSessionUpdated_allows (w : FallbackWindow) (prompt info error : QString) (named : w.currentSessionId ≠ [])
    (asks : w.confirmOnly = false) :
    (w.onSessionUpdated w.currentSessionId prompt info error).allowEmptyResponse = touchPrompt prompt info := by
  have current : ¬(w.currentSessionId.isEmpty || decide (w.currentSessionId ≠ w.currentSessionId)) = true := by
    simp [named]
  unfold onSessionUpdated
  rw [if_neg current]
  simp only [apply_ite FallbackWindow.confirmOnly,apply_ite FallbackWindow.allowEmptyResponse,ite_self,asks,Bool.false_eq_true,if_false]
  unfold touchPrompt
  simp only
  split
  · next touches => exact touches.symm
  · next other => exact (Bool.eq_false_iff.mpr other).symm

theorem onSubmit_filled (w : FallbackWindow) (id : QString) (asks : w.confirmOnly = false) (guarded : w.allowEmptyResponse = false) :
    .sendResponse id [] ∉ w.onSubmit.2 := by
  intro sent
  have empty := (onSubmit_sends w id [] asks sent).2
  have refused : w.onSubmit.2 = [] := by
    unfold onSubmit
    rw [asks,guarded,← empty]
    split <;> rfl
  rw [refused] at sent
  cases sent

end FallbackWindow

-- What reaches the window, with the session.created events as the client hands
-- them on.
inductive WindowSignal where
  | created (event : SessionCreated)
  | other (input : WindowInput)
  deriving DecidableEq, Repr

-- The process, and the last session that was announced to it.
structure Prompting where
  desk : Desk := {}
  announced : Option SessionCreated := none
  deriving DecidableEq, Repr

namespace Prompting

variable (qt : QtText) (quitOnLastWindowClosed : Bool)

def handled : WindowSignal → WindowInput
  | .created event => .sessionCreated event.id event.confirmOnly (PromptModel.buildDisplayModel qt event)
  | .other input => input

def step (s : Prompting) (signal : WindowSignal) : Prompting where
  desk := s.desk.step quitOnLastWindowClosed (handled qt signal)
  announced := match signal with
    | .created event => if event.id.isEmpty then s.announced else some event
    | .other _ => s.announced

def announces : WindowInput → Bool
  | .sessionCreated .. => true
  | _ => false

def enabled (s : Prompting) : WindowSignal → Prop
  | .created _ => s.desk.exited = false
  | .other input => announces input = false ∧ s.desk.enabled input

def prompting : Machine Prompting WindowSignal := ⟨{},enabled,step qt quitOnLastWindowClosed⟩

-- The session of a pinentry or a keyring that is no confirmation.
def Passphrase (event : SessionCreated) : Prop :=
  (event.source = text "pinentry" ∨ event.source = text "keyring") ∧ event.confirmOnly = false

def Asks (s : Prompting) : Prop :=
  ∃ event ∈ s.announced, Passphrase event ∧ s.desk.window.currentSessionId = event.id

def Guarded (s : Prompting) : Prop := s.Asks → s.desk.window.allowEmptyResponse = false

def Filled (s : Prompting) (signal : WindowSignal) : Prop :=
  s.Asks → ∀ id, .sendResponse id [] ∉ s.desk.calls (handled qt signal)

-- An update of a session that asks for a passphrase does not look like one that
-- asks for a touch.
def Untouched (s : Prompting) (signal : WindowSignal) : Prop :=
  match signal with
  | .other (.sessionUpdated id prompt info _) =>
    s.Asks → id = s.desk.window.currentSessionId → FallbackWindow.touchPrompt prompt info = false
  | _ => True

structure Known (s : Prompting) : Prop where
  named : ∀ event ∈ s.announced, event.id ≠ []
  asks : ∀ event ∈ s.announced, s.desk.window.currentSessionId = event.id → s.desk.window.confirmOnly = event.confirmOnly

variable {qt quitOnLastWindowClosed}

theorem known_initial : ({} : Prompting).Known := ⟨nofun,nofun⟩

theorem stands_known {s e : Prompting} (same : e.announced = s.announced) (stands : e.desk.window.Stands s.desk.window)
    (known : s.Known) : e.Known := by
  refine ⟨same ▸ known.named,?_⟩
  rw [same]
  intro event announced current
  rcases stands with none | ⟨kept,confirm,_⟩
  · exact absurd (current.symm.trans none) (known.named event announced)
  · rw [confirm]
    exact known.asks event announced (kept.symm.trans current)

theorem stands_guarded {s e : Prompting} (same : e.announced = s.announced) (stands : e.desk.window.Stands s.desk.window)
    (known : s.Known) (guarded : s.Guarded) : e.Guarded := by
  intro asks
  obtain ⟨event,announced,passphrase,current⟩ := asks
  rw [same] at announced
  rcases stands with none | ⟨kept,_,allows⟩
  · exact absurd (current.symm.trans none) (known.named event announced)
  · rw [allows]
    exact guarded ⟨event,announced,passphrase,kept.symm.trans current⟩

variable (qt quitOnLastWindowClosed)

theorem step_created (s : Prompting) (event : SessionCreated) (known : s.Known) (guarded : s.Guarded) :
    (step qt quitOnLastWindowClosed s (.created event)).Known ∧ (step qt quitOnLastWindowClosed s (.created event)).Guarded := by
  cases unnamed : event.id.isEmpty with
  | true =>
    have same : (step qt quitOnLastWindowClosed s (.created event)).announced = s.announced := if_pos unnamed
    have window : (step qt quitOnLastWindowClosed s (.created event)).desk.window = s.desk.window :=
      FallbackWindow.onSessionCreated_unnamed s.desk.window event.confirmOnly _ unnamed
    have stands : (step qt quitOnLastWindowClosed s (.created event)).desk.window.Stands s.desk.window :=
      window ▸ FallbackWindow.stands_self s.desk.window
    exact ⟨stands_known same stands known,stands_guarded same stands known guarded⟩
  | false =>
    have same : (step qt quitOnLastWindowClosed s (.created event)).announced = some event :=
      if_neg (Bool.eq_false_iff.mp unnamed)
    have window : (step qt quitOnLastWindowClosed s (.created event)).desk.window.confirmOnly = event.confirmOnly ∧
        (step qt quitOnLastWindowClosed s (.created event)).desk.window.allowEmptyResponse =
          (PromptModel.buildDisplayModel qt event).allowEmptyResponse := by
      change (s.desk.window.onSessionCreated event.id event.confirmOnly _).confirmOnly = _ ∧
        (s.desk.window.onSessionCreated event.id event.confirmOnly _).allowEmptyResponse = _
      unfold FallbackWindow.onSessionCreated
      rw [unnamed]
      exact ⟨rfl,rfl⟩
    constructor
    · constructor
      · rw [same]
        rintro _ ⟨⟩ empty
        rw [empty] at unnamed
        cases unnamed
      · rw [same]
        rintro _ ⟨⟩ _
        exact window.1
    · rintro ⟨_,announced,passphrase,_⟩
      rw [same] at announced
      cases announced
      rw [window.2,PromptModel.buildDisplayModel_allows]
      rcases passphrase.1 with source | source
      · rw [source]
        rfl
      · rw [source]
        rfl

theorem step_updated (s : Prompting) (id prompt info error : QString) (known : s.Known) (guarded : s.Guarded) :
    (step qt quitOnLastWindowClosed s (.other (.sessionUpdated id prompt info error))).Known ∧
      ((step qt quitOnLastWindowClosed s (.other (.sessionUpdated id prompt info error))).Guarded ↔
        s.Untouched (.other (.sessionUpdated id prompt info error))) := by
  have window : (step qt quitOnLastWindowClosed s (.other (.sessionUpdated id prompt info error))).desk.window =
    s.desk.window.onSessionUpdated id prompt info error := rfl
  have same : (step qt quitOnLastWindowClosed s (.other (.sessionUpdated id prompt info error))).announced = s.announced := rfl
  generalize step qt quitOnLastWindowClosed s (.other (.sessionUpdated id prompt info error)) = e at window same
  have current : e.desk.window.currentSessionId = s.desk.window.currentSessionId :=
    window ▸ (FallbackWindow.stays_updated s.desk.window id prompt info error).1
  have confirm : e.desk.window.confirmOnly = s.desk.window.confirmOnly :=
    window ▸ FallbackWindow.onSessionUpdated_confirmOnly s.desk.window id prompt info error
  have asks : e.Asks ↔ s.Asks := by
    unfold Asks
    rw [same,current]
  constructor
  · refine ⟨same ▸ known.named,?_⟩
    rw [same,current,confirm]
    exact known.asks
  · by_cases own : id = s.desk.window.currentSessionId
    · have allows : s.Asks → e.desk.window.allowEmptyResponse = FallbackWindow.touchPrompt prompt info := by
        rintro ⟨event,announced,passphrase,session⟩
        have named : s.desk.window.currentSessionId ≠ [] := session ▸ known.named event announced
        have confirms := (known.asks event announced session).trans passphrase.2
        rw [window,own]
        exact FallbackWindow.onSessionUpdated_allows s.desk.window prompt info error named confirms
      constructor
      · intro kept asked _
        rw [← allows asked]
        exact kept (asks.mpr asked)
      · intro untouched asked
        rw [allows (asks.mp asked)]
        exact untouched (asks.mp asked) own
    · refine ⟨fun _ _ same => absurd same own,fun _ asked => ?_⟩
      rw [window,FallbackWindow.onSessionUpdated_other _ _ _ _ own]
      exact guarded (asks.mp asked)

theorem step_stands (s : Prompting) (input : WindowInput) (allowed : enabled s (.other input))
    (handled : ∀ id prompt info error, input ≠ .sessionUpdated id prompt info error) :
    (s.desk.step quitOnLastWindowClosed input).window.Stands s.desk.window := by
  cases input with
  | connectionStateChanged connected => exact FallbackWindow.stands_connection s.desk.window connected
  | providerStateChanged active => exact FallbackWindow.stands_provider s.desk.window active
  | sessionCreated id confirmOnly model => exact nomatch allowed.1
  | sessionUpdated id prompt info error => exact absurd rfl (handled id prompt info error)
  | sessionClosed id result error => exact FallbackWindow.stands_closed s.desk.window id result error
  | submit => exact FallbackWindow.stands_submit s.desk.window
  | cancel => exact FallbackWindow.stands_cancel s.desk.window
  | close => exact .inl (FallbackWindow.closeEvent_current s.desk.window)
  | cleared => exact .inl (FallbackWindow.onCleared_current s.desk.window)
  | statusMessage | typed | idled => exact FallbackWindow.stands_self s.desk.window

theorem step_guarded (s : Prompting) (signal : WindowSignal) (known : s.Known) (guarded : s.Guarded) (allowed : s.enabled signal) :
    (step qt quitOnLastWindowClosed s signal).Known ∧
      ((step qt quitOnLastWindowClosed s signal).Guarded ↔ s.Untouched signal) := by
  cases signal with
  | created event =>
    obtain ⟨now_known,now_guarded⟩ := step_created qt quitOnLastWindowClosed s event known guarded
    exact ⟨now_known,fun _ => trivial,fun _ => now_guarded⟩
  | other input =>
    by_cases updated : ∀ id prompt info error, input ≠ .sessionUpdated id prompt info error
    · have stands : (step qt quitOnLastWindowClosed s (.other input)).desk.window.Stands s.desk.window :=
        step_stands quitOnLastWindowClosed s input allowed updated
      have untouched : s.Untouched (.other input) := by
        cases input with
        | sessionUpdated id prompt info error => exact absurd rfl (updated id prompt info error)
        | _ => trivial
      have same : (step qt quitOnLastWindowClosed s (.other input)).announced = s.announced := rfl
      exact ⟨stands_known same stands known,fun _ => untouched,fun _ => stands_guarded same stands known guarded⟩
    · simp only [ne_eq,not_forall,not_not] at updated
      obtain ⟨id,prompt,info,error,same⟩ := updated
      subst same
      exact step_updated qt quitOnLastWindowClosed s id prompt info error known guarded

theorem guarded_filled (s : Prompting) (signal : WindowSignal) (known : s.Known) (guarded : s.Guarded) : Filled qt s signal := by
  intro asks id sent
  have allows := guarded asks
  obtain ⟨event,announced,passphrase,session⟩ := asks
  have confirms := (known.asks event announced session).trans passphrase.2
  cases signal with
  | created event => cases sent
  | other input =>
    cases input with
    | submit => exact FallbackWindow.onSubmit_filled s.desk.window id confirms allows sent
    | cancel => exact FallbackWindow.onCancel_sends s.desk.window id [] sent
    | close => exact FallbackWindow.closeEvent_sends s.desk.window id [] sent
    | _ => cases sent

-- Over whole runs: no session that asks for a passphrase accepts an empty answer,
-- exactly when no update of one looks like a request for a touch.
theorem guarded_iff (signals : List WindowSignal) (admitted : (prompting qt quitOnLastWindowClosed).Admits signals) :
    (prompting qt quitOnLastWindowClosed).Always Guarded signals ∧ (prompting qt quitOnLastWindowClosed).Every (Filled qt) signals ↔
      (prompting qt quitOnLastWindowClosed).Every Untouched signals := by
  have guarded : ({} : Prompting).Guarded := fun _ => rfl
  have stays : (prompting qt quitOnLastWindowClosed).Always Guarded signals ↔
      (prompting qt quitOnLastWindowClosed).Every Untouched signals := by
    apply Machine.carried_iff _ known_initial guarded admitted
    intro s signal known guarded allowed
    exact step_guarded qt quitOnLastWindowClosed s signal known guarded allowed
  constructor
  · intro kept
    exact stays.mp kept.1
  · intro untouched
    have always : (prompting qt quitOnLastWindowClosed).Always (fun s => s.Known ∧ s.Guarded) signals := by
      apply Machine.AlwaysFrom.of_kept (P := fun s => s.Known ∧ s.Guarded) _ (fun _ held => held) admitted untouched
        ⟨known_initial,guarded⟩
      intro s signal held allowed met
      obtain ⟨known,guarded⟩ := step_guarded qt quitOnLastWindowClosed s signal held.1 held.2 allowed
      exact ⟨known,guarded.mpr met⟩
    exact ⟨stays.mpr untouched,always.every (fun s signal held => guarded_filled qt s signal held.1 held.2)⟩

instance (event : SessionCreated) : Decidable (Passphrase event) := inferInstanceAs (Decidable (_ ∧ _))

instance (s : Prompting) : Decidable s.Asks := inferInstanceAs (Decidable (∃ event ∈ s.announced,_ ∧ _))

instance (s : Prompting) : (signal : WindowSignal) → Decidable (s.Untouched signal)
  | .other (.sessionUpdated id _ _ _) => inferInstanceAs (Decidable (s.Asks → id = _ → _ = false))
  | .created _ | .other (.connectionStateChanged _) | .other (.providerStateChanged _) | .other (.statusMessage _)
  | .other (.sessionCreated ..) | .other (.sessionClosed ..) | .other (.typed _) | .other .submit | .other .cancel
  | .other .close | .other .cleared | .other .idled => inferInstanceAs (Decidable True)

instance (s : Prompting) : (signal : WindowSignal) → Decidable (s.enabled signal)
  | .created _ => inferInstanceAs (Decidable (_ = false))
  | .other input => inferInstanceAs (Decidable (_ = false ∧ s.desk.enabled input))

instance (signals : List WindowSignal) : Decidable ((prompting qt quitOnLastWindowClosed).Admits signals) :=
  inferInstanceAs (Decidable ((prompting qt quitOnLastWindowClosed).Every enabled signals))

def plainText : QtText := ⟨toLower,toLower,fun _ _ => none⟩

def retried : List WindowSignal :=
  [.created {id:=[1],source:=text "pinentry"},.other (.typed [7]),.other .submit,
    .other (.sessionUpdated [1] (text "Passphrase:") [] (text "Bad Passphrase")),.other (.typed [8]),.other .submit]

theorem retried_guarded : (prompting plainText true).Always Guarded retried ∧ (prompting plainText true).Every (Filled plainText) retried :=
  (guarded_iff plainText true retried (by decide)).mpr (by decide)

-- A prompt whose name has the word tap in it.
def stapled : List WindowSignal :=
  [.created {id:=[1],source:=text "pinentry"},.other (.sessionUpdated [1] (text "Passphrase for staple.key:") [] [])]

theorem stapled_empty : ¬∀ (qt : QtText) (quitOnLastWindowClosed : Bool) (signals : List WindowSignal),
    (prompting qt quitOnLastWindowClosed).Admits signals → (prompting qt quitOnLastWindowClosed).Always Guarded signals := by
  intro guarded
  have last := (guarded plainText true stapled (by decide)).finish
  have allows := last (by decide)
  exact absurd allows (by decide)

end Prompting

end BbAuth
