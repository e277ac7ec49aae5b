import BbAuth.Library.Runs

open Library
namespace BbAuth

structure TimeoutSource where
  id : Nat
  due : Nat
  deriving DecidableEq, Repr

-- src/keyring-prompter/main.c: the main loop with its timeout sources. `now` counts
-- the seconds; `stale` notes that g_source_remove was given a source that is not there.
structure PrompterLoop where
  prompting : Bool := false
  timeoutId : Nat := 0
  running : Bool := true
  sources : List TimeoutSource := []
  nextSource : Nat := 1
  now : Nat := 0
  stale : Bool := false
  deriving DecidableEq, Repr

inductive PrompterSignal where
  | elapse (seconds : Nat)
  | promptingChanged (prompting : Bool)
  | timeout (source : TimeoutSource)
  | nameLost
  deriving DecidableEq, Repr

namespace PrompterLoop

def sourceRemove (l : PrompterLoop) (id : Nat) : PrompterLoop :=
  if l.sources.any (·.id = id) then {l with sources:=l.sources.filter (·.id ≠ id)} else {l with stale:=true}

def timeoutAddSeconds (l : PrompterLoop) (interval : Nat) : PrompterLoop :=
  {l with sources:=⟨l.nextSource,l.now + interval⟩ :: l.sources,nextSource:=l.nextSource + 1,timeoutId:=l.nextSource}

def stopTimeout (l : PrompterLoop) : PrompterLoop :=
  if l.timeoutId ≠ 0 then {l.sourceRemove l.timeoutId with timeoutId:=0} else l

def resetTimeout (l : PrompterLoop) : PrompterLoop := l.stopTimeout.timeoutAddSeconds 30

-- The source whose callback returns G_SOURCE_REMOVE goes after it.
def onTimeout (l : PrompterLoop) (source : TimeoutSource) : PrompterLoop :=
  {l with timeoutId:=0,running:=false}.sourceRemove source.id

def onPromptingChanged (l : PrompterLoop) (prompting : Bool) : PrompterLoop :=
  let l := {l with prompting}
  if l.prompting then l.stopTimeout else l.resetTimeout

def onNameLost (l : PrompterLoop) : PrompterLoop := {l with running:=false}

def step (l : PrompterLoop) : PrompterSignal → PrompterLoop
  | .elapse seconds => {l with now:=l.now + seconds}
  | .promptingChanged prompting => l.onPromptingChanged prompting
  | .timeout source => l.onTimeout source
  | .nameLost => l.onNameLost

-- A loop that was told to quit still dispatches what was ready with the last signal.
def enabled (l : PrompterLoop) : PrompterSignal → Prop
  | .elapse _ => l.running = true
  | .timeout source => source ∈ l.sources ∧ source.due ≤ l.now
  | .promptingChanged _ | .nameLost => True

instance (l : PrompterLoop) : (signal : PrompterSignal) → Decidable (l.enabled signal)
  | .elapse _ => inferInstanceAs (Decidable (_ = _))
  | .timeout _ => inferInstanceAs (Decidable (_ ∧ _))
  | .promptingChanged _ | .nameLost => inferInstanceAs (Decidable True)

-- What bb_auth_keyring_main does with the timeout once the loop has quit. The
-- prompter is unregistered after that, still connected to on_prompting_changed; what
-- it may notify then is no longer part of the loop.
def shutDown (l : PrompterLoop) : PrompterLoop := if l.timeoutId ≠ 0 then l.sourceRemove l.timeoutId else l

end PrompterLoop

def prompterLoop : Machine PrompterLoop PrompterSignal where
  initial := PrompterLoop.resetTimeout {}
  enabled := PrompterLoop.enabled
  step := PrompterLoop.step

instance (l : PrompterLoop) (signal : PrompterSignal) : Decidable (prompterLoop.enabled l signal) :=
  inferInstanceAs (Decidable (l.enabled signal))

instance (signals : List PrompterSignal) : Decidable (prompterLoop.Admits signals) :=
  inferInstanceAs (Decidable (prompterLoop.Every prompterLoop.enabled signals))

-- What the signals tell of the prompts: whether one is shown, and for how many
-- seconds nothing has been heard of it.
structure Showing where
  prompting : Bool := false
  seconds : Nat := 0
  deriving DecidableEq, Repr

namespace Showing

def hear (showing : Showing) : PrompterSignal → Showing
  | .elapse seconds => {showing with seconds:=showing.seconds + seconds}
  | .promptingChanged prompting => ⟨prompting,0⟩
  | .timeout _ | .nameLost => showing

def after (signals : List PrompterSignal) : Showing := signals.foldl hear {}

end Showing

namespace PrompterLoop

variable {l : PrompterLoop} {showing : Showing} {prompting : Bool}

def Timed (l : PrompterLoop) (due : Nat) : Prop :=
  l.sources = [] ∧ l.timeoutId = 0 ∨ l.sources = [⟨l.timeoutId,due⟩] ∧ l.timeoutId ≠ 0

-- The one timeout there may be runs while no prompt is shown, and ends thirty
-- seconds after the last change.
structure Sound (l : PrompterLoop) (showing : Showing) : Prop where
  told : l.prompting = showing.prompting
  timed : ∃ due, l.Timed due ∧ due + showing.seconds = l.now + 30
  hidden : l.timeoutId ≠ 0 → l.prompting = false
  waits : l.running = true → l.prompting = false → l.timeoutId ≠ 0
  named : l.nextSource ≠ 0
  tidy : l.stale = false

theorem sourceRemove_sole (sole : l.sources = [source]) : l.sourceRemove source.id = {l with sources:=[]} := by
  simp [sourceRemove,sole]

theorem stopTimeout_stopped (timed : l.Timed due) : l.stopTimeout = {l with sources:=[],timeoutId:=0} := by
  rcases timed with ⟨none,zero⟩ | ⟨one,nonzero⟩
  · cases l
    cases none
    cases zero
    rfl
  · have removed := sourceRemove_sole one
    rw [stopTimeout,if_pos nonzero]
    exact congrArg (fun l : PrompterLoop => {l with timeoutId:=0}) removed

theorem shutDown_done (timed : l.Timed due) : l.shutDown.sources = [] ∧ l.shutDown.stale = l.stale := by
  rcases timed with ⟨none,zero⟩ | ⟨one,nonzero⟩
  · rw [shutDown,if_neg (not_not.mpr zero)]
    exact ⟨none,rfl⟩
  · rw [shutDown,if_pos nonzero,sourceRemove_sole one]
    exact ⟨rfl,rfl⟩

theorem initial_sound : prompterLoop.initial.Sound {} where
  told := rfl
  timed := ⟨30,.inr ⟨rfl,by decide⟩,rfl⟩
  hidden _ := rfl
  waits _ _ := by decide
  named := by decide
  tidy := rfl

theorem onPromptingChanged_sound (sound : l.Sound showing) : (l.onPromptingChanged prompting).Sound ⟨prompting,0⟩ := by
  obtain ⟨due,timed,_⟩ := sound.timed
  have stopped : {l with prompting}.stopTimeout = {l with prompting,sources:=[],timeoutId:=0} := stopTimeout_stopped timed
  cases prompting with
  | true =>
    have changed : l.onPromptingChanged true = {l with prompting:=true,sources:=[],timeoutId:=0} := stopped
    rw [changed]
    exact {
      told := rfl
      timed := ⟨l.now + 30,.inl ⟨rfl,rfl⟩,rfl⟩
      hidden := fun nonzero => absurd rfl nonzero
      waits := fun _ hidden => Bool.noConfusion hidden
      named := sound.named
      tidy := sound.tidy }
  | false =>
    have changed : l.onPromptingChanged false =
        {l with prompting:=false,timeoutId:=l.nextSource,sources:=[⟨l.nextSource,l.now + 30⟩],nextSource:=l.nextSource + 1} :=
      congrArg (timeoutAddSeconds · 30) stopped
    rw [changed]
    exact {
      told := rfl
      timed := ⟨l.now + 30,.inr ⟨rfl,sound.named⟩,rfl⟩
      hidden := fun _ => rfl
      waits := fun _ _ => sound.named
      named := Nat.succ_ne_zero _
      tidy := sound.tidy }

theorem onTimeout_sound (sound : l.Sound showing) (present : source ∈ l.sources) : (l.onTimeout source).Sound showing := by
  obtain ⟨due,timed,ends⟩ := sound.timed
  rcases timed with ⟨none,_⟩ | ⟨one,_⟩
  · rw [none] at present
    cases present
  · rw [one] at present
    cases List.mem_singleton.mp present
    have fired : l.onTimeout ⟨l.timeoutId,due⟩ = {l with sources:=[],timeoutId:=0,running:=false} :=
      sourceRemove_sole (l := {l with timeoutId:=0,running:=false}) one
    rw [fired]
    exact {
      told := sound.told
      timed := ⟨due,.inl ⟨rfl,rfl⟩,ends⟩
      hidden := fun nonzero => absurd rfl nonzero
      waits := fun running => Bool.noConfusion running
      named := sound.named
      tidy := sound.tidy }

theorem step_sound (sound : l.Sound showing) (enabled : l.enabled signal) : (l.step signal).Sound (showing.hear signal) := by
  cases signal with
  | elapse seconds =>
    obtain ⟨due,timed,ends⟩ := sound.timed
    refine { sound with timed := ⟨due,timed,?_⟩ }
    change due + (showing.seconds + seconds) = l.now + seconds + 30
    omega
  | promptingChanged prompting => exact onPromptingChanged_sound sound
  | timeout source => exact onTimeout_sound sound enabled.1
  | nameLost => exact { sound with waits := fun running => Bool.noConfusion running }

theorem run_sound (admitted : prompterLoop.Admits signals) : (prompterLoop.run signals).Sound (Showing.after signals) := by
  induction signals using List.reverseRecOn with
  | nil => exact initial_sound
  | append_singleton before last ih =>
    obtain ⟨earlier,now,_⟩ := (Machine.everyFrom_append _ before [last]).mp admitted
    have sound := step_sound (ih earlier) now
    rw [Machine.run,Machine.runFrom_append,Showing.after,List.foldl_append]
    exact sound

-- The prompter gives up for inactivity after thirty seconds without a prompt and never
-- before, and it drops its timeout exactly once, whatever made it quit.
theorem idle_quits (admitted : prompterLoop.Admits signals) :
    ((∃ source, (prompterLoop.run signals).enabled (.timeout source)) →
        (Showing.after signals).prompting = false ∧ 30 ≤ (Showing.after signals).seconds) ∧
      ((prompterLoop.run signals).running = true → (Showing.after signals).prompting = false →
        30 ≤ (Showing.after signals).seconds → ∃ source, (prompterLoop.run signals).enabled (.timeout source)) ∧
      (prompterLoop.run signals).shutDown.sources = [] ∧ (prompterLoop.run signals).shutDown.stale = false := by
  have sound := run_sound admitted
  obtain ⟨due,timed,ends⟩ := sound.timed
  refine ⟨?_,?_,(shutDown_done timed).1,(shutDown_done timed).2.trans sound.tidy⟩
  · intro fires
    obtain ⟨source,present,late⟩ := fires
    rcases timed with ⟨none,_⟩ | ⟨one,nonzero⟩
    · rw [none] at present
      cases present
    · rw [one] at present
      cases List.mem_singleton.mp present
      have past : due ≤ (prompterLoop.run signals).now := late
      exact ⟨sound.told.symm.trans (sound.hidden nonzero),by omega⟩
  · intro running hidden idle
    have nonzero := sound.waits running (sound.told.trans hidden)
    rcases timed with ⟨_,zero⟩ | ⟨one,_⟩
    · exact absurd zero nonzero
    · refine ⟨⟨_,due⟩,one ▸ List.mem_singleton.mpr rfl,?_⟩
      change due ≤ (prompterLoop.run signals).now
      omega

def promptedOnce : List PrompterSignal :=
  [.elapse 29,.promptingChanged true,.elapse 60,.promptingChanged false,.elapse 30]

theorem promptedOnce_quits : ∃ source, (prompterLoop.run promptedOnce).enabled (.timeout source) :=
  (idle_quits (by decide : prompterLoop.Admits promptedOnce)).2.1 (by decide) (by decide) (by decide)

end PrompterLoop

end BbAuth
