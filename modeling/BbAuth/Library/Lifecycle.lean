import Mathlib.Computability.DFA
import Mathlib.Computability.RegularExpressions

open Computability
namespace Library.Lifecycle

-- What is told about a named resource: that it came, changed or went.
inductive Mark where
  | created
  | updated
  | closed
  deriving DecidableEq, Repr

def stay : RegularExpression Mark :=
  RegularExpression.char Mark.created * (RegularExpression.char Mark.updated).star

def stays : RegularExpression Mark := (stay * RegularExpression.char Mark.closed).star

-- (created updated* closed)*, with an open (created updated*) at the end or not.
def lifecycle : RegularExpression Mark := stays * (1 + stay)

inductive Phase where
  | absent
  | present
  | broken
  deriving DecidableEq, Repr

def advance : Phase → Mark → Phase
  | .absent,.created => .present
  | .present,.updated => .present
  | .present,.closed => .absent
  | _,_ => .broken

def automaton : DFA Mark Phase where
  step := advance
  start := .absent
  accept := {phase | phase ≠ .broken}

def phase (marks : List Mark) : Phase := automaton.eval marks

@[simp] theorem phase_nil : phase [] = .absent := rfl

@[simp] theorem phase_append_one (marks : List Mark) (mark : Mark) :
    phase (marks ++ [mark]) = advance (phase marks) mark := automaton.eval_append_singleton marks mark

theorem advance_broken (mark : Mark) : advance .broken mark = .broken := by cases mark <;> rfl

theorem evalFrom_broken (marks : List Mark) : automaton.evalFrom .broken marks = .broken := by
  induction marks with
  | nil => rfl
  | cons mark rest ih => exact (congrArg (automaton.evalFrom · rest) (advance_broken mark)).trans ih

theorem phase_broken_append (marks more : List Mark) (broken : phase marks = .broken) :
    phase (marks ++ more) = .broken := by
  unfold phase DFA.eval at *
  rw [automaton.evalFrom_of_append,broken]
  exact evalFrom_broken more

theorem updates_present (marks : List Mark) (updates : marks ∈ ({[Mark.updated]} : Language Mark)∗) :
    automaton.evalFrom .present marks = .present := by
  obtain ⟨parts,rfl,each⟩ := Language.mem_kstar.mp updates
  clear updates
  induction parts with
  | nil => rfl
  | cons part rest ih =>
    have single : part = [.updated] := each part List.mem_cons_self
    subst single
    exact ih (fun y listed => each y (List.mem_cons_of_mem _ listed))

theorem stay_present (marks : List Mark) (shape : marks ∈ stay.matches') :
    automaton.evalFrom .absent marks = .present := by
  obtain ⟨opening,single,updates,all,rfl⟩ := Language.mem_mul.mp shape
  have first : opening = [.created] := single
  subst first
  exact updates_present updates all

theorem stays_absent (marks : List Mark) (shape : marks ∈ stays.matches') :
    automaton.evalFrom .absent marks = .absent := by
  obtain ⟨parts,rfl,each⟩ := Language.mem_kstar.mp shape
  clear shape
  induction parts with
  | nil => rfl
  | cons part rest ih =>
    obtain ⟨body,staying,ending,single,joined⟩ := Language.mem_mul.mp (each part List.mem_cons_self)
    have last : ending = [.closed] := single
    subst last
    have later := ih (fun y listed => each y (List.mem_cons_of_mem _ listed))
    rw [List.flatten_cons,automaton.evalFrom_of_append,← joined,automaton.evalFrom_of_append,
      stay_present body staying]
    exact later

theorem phase_lifecycle (marks : List Mark) (shape : marks ∈ lifecycle.matches') : phase marks ≠ .broken := by
  obtain ⟨past,blocks,now,current,rfl⟩ := Language.mem_mul.mp shape
  unfold phase DFA.eval
  rw [automaton.evalFrom_of_append]
  change automaton.evalFrom (automaton.evalFrom .absent past) now ≠ .broken
  rw [stays_absent past blocks]
  rcases (Language.mem_add _ _ _).mp current with none | some
  · rw [(Language.mem_one _).mp none]
    nofun
  · rw [stay_present now some]
    nofun

theorem star_append {l : Language Mark} (many : marks ∈ l∗) (one : more ∈ l) : marks ++ more ∈ l∗ := by
  have folded : l∗ * l ≤ l∗ := kstar_mul_le_kstar
  exact folded (Language.append_mem_mul many one)

theorem phase_shape (marks : List Mark) :
    (phase marks = .absent → marks ∈ stays.matches') ∧
    (phase marks = .present → marks ∈ (stays * stay).matches') := by
  induction marks using List.reverseRecOn with
  | nil => exact ⟨fun _ => Language.nil_mem_kstar _,nofun⟩
  | append_singleton marks mark ih =>
    obtain ⟨absent,present⟩ := ih
    rw [phase_append_one]
    cases before : phase marks with
    | absent =>
      cases mark with
      | created =>
        have opened : [Mark.created] ++ [] ∈ stay.matches' :=
          Language.append_mem_mul rfl (Language.nil_mem_kstar _)
        exact ⟨nofun,fun _ => Language.append_mem_mul (absent before) opened⟩
      | updated | closed => exact ⟨nofun,nofun⟩
    | present =>
      obtain ⟨past,blocks,now,current,joined⟩ := Language.mem_mul.mp (present before)
      cases mark with
      | created => exact ⟨nofun,nofun⟩
      | updated =>
        obtain ⟨opening,single,updates,all,joined'⟩ := Language.mem_mul.mp current
        have more : updates ++ [.updated] ∈ ({[Mark.updated]} : Language Mark)∗ :=
          star_append all rfl
        refine ⟨nofun,?_⟩
        intro _
        rw [← joined,← joined',List.append_assoc,List.append_assoc]
        exact Language.append_mem_mul blocks (Language.append_mem_mul single more)
      | closed =>
        refine ⟨?_,nofun⟩
        intro _
        rw [← joined,List.append_assoc]
        exact star_append blocks (Language.append_mem_mul current rfl)
    | broken => cases mark <;> exact ⟨nofun,nofun⟩

theorem mem_lifecycle (marks : List Mark) : marks ∈ lifecycle.matches' ↔ phase marks ≠ .broken := by
  refine ⟨phase_lifecycle marks,?_⟩
  intro whole
  obtain ⟨absent,present⟩ := phase_shape marks
  cases now : phase marks with
  | absent =>
    have nothing : [] ∈ (1 + stay).matches' := (Language.mem_add _ _ _).mpr (.inl Language.nil_mem_one)
    have ended : marks ++ [] ∈ lifecycle.matches' := Language.append_mem_mul (absent now) nothing
    rwa [List.append_nil] at ended
  | present =>
    obtain ⟨past,blocks,last,current,rfl⟩ := Language.mem_mul.mp (present now)
    exact Language.append_mem_mul blocks ((Language.mem_add _ _ _).mpr (.inr current))
  | broken => exact absurd now whole

end Library.Lifecycle
