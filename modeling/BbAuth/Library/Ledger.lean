import Mathlib.Data.List.Basic

namespace Library.Ledger

-- The requests a client made under one key: whether the latest is on record, how
-- often each was replied to, the latest first, and whether the client can hear.
structure Line where
  recorded : Bool
  replies : List Nat
  connected : Bool
  deriving DecidableEq, Repr

inductive Standing where
  | pending
  | answered
  | abandoned
  deriving DecidableEq, Repr

-- Where a request stands, if it is not lost or answered twice.
def standing (recorded : Bool) (replies : Nat) (connected : Bool) : Option Standing :=
  match recorded,replies,connected with
  | true,0,_ => some .pending
  | false,1,_ => some .answered
  | false,0,false => some .abandoned
  | _,_,_ => none

namespace Line

-- Only the latest request under a key can be the one on record.
def Accounted (l : Line) : Prop :=
  match l.replies with
  | [] => True
  | latest :: earlier =>
    (standing l.recorded latest l.connected).isSome = true ∧
      ∀ replies ∈ earlier, (standing false replies l.connected).isSome = true

-- A request on record is the latest, and was not replied to.
def Fit (l : Line) : Prop := l.recorded = true → ∃ earlier, l.replies = 0 :: earlier

def ask (l : Line) : Line := {l with recorded:=true,replies:=0 :: l.replies}
def refuse (l : Line) : Line := {l with replies:=0 :: l.replies}
def drop (l : Line) : Line := {l with recorded:=false}
def hangUp (l : Line) : Line := {l with connected:=false}

def count : List Nat → List Nat
  | [] => []
  | latest :: earlier => (latest + 1) :: earlier

def answer (l : Line) : Line :=
  if l.recorded then {l with recorded:=false,replies:=if l.connected then count l.replies else l.replies} else l

theorem ask_fit (l : Line) : l.ask.Fit := fun _ => ⟨l.replies,rfl⟩

theorem refuse_fit (l : Line) : l.refuse.Fit := fun _ => ⟨l.replies,rfl⟩

theorem drop_fit (l : Line) : l.drop.Fit := nofun

theorem hangUp_fit (fit : Fit l) : l.hangUp.Fit := fit

theorem answer_fit (fit : Fit l) : l.answer.Fit := by
  unfold answer
  split
  · nofun
  · exact fit

theorem standing_hangUp {recorded connected : Bool} {replies : Nat}
    (held : (standing recorded replies connected).isSome = true) :
    (standing recorded replies false).isSome = true := by
  cases recorded with
  | true =>
    cases replies with
    | zero => rfl
    | succ n => simp [standing] at held
  | false =>
    match replies with
    | 0 | 1 => rfl
    | n + 2 => simp [standing] at held

theorem hangUp_accounted (accounted : Accounted l) : l.hangUp.Accounted := by
  obtain ⟨recorded,replies,connected⟩ := l
  cases replies with
  | nil => trivial
  | cons latest earlier =>
    exact ⟨standing_hangUp accounted.1,fun n listed => standing_hangUp (accounted.2 n listed)⟩

-- A line takes its latest request off record without loss unless it waits and
-- can hear.
theorem drop_accounted (fit : Fit l) (accounted : Accounted l) :
    l.drop.Accounted ↔ ¬(l.recorded = true ∧ l.connected = true) := by
  obtain ⟨recorded,replies,connected⟩ := l
  cases recorded with
  | false => exact ⟨fun _ waits => (nomatch waits.1),fun _ => accounted⟩
  | true =>
    obtain ⟨earlier,first⟩ := fit rfl
    simp only at first
    subst first
    cases connected with
    | true => exact ⟨fun lost => (nomatch lost.1),fun quiet => absurd ⟨rfl,rfl⟩ quiet⟩
    | false => exact ⟨fun _ waits => (nomatch waits.2),fun _ => ⟨rfl,accounted.2⟩⟩

theorem ask_accounted (fit : Fit l) (accounted : Accounted l) :
    l.ask.Accounted ↔ ¬(l.recorded = true ∧ l.connected = true) := by
  rw [← drop_accounted fit accounted]
  obtain ⟨recorded,replies,connected⟩ := l
  cases replies with
  | nil => exact ⟨fun _ => trivial,fun _ => ⟨rfl,nofun⟩⟩
  | cons latest earlier =>
    constructor
    · intro ⟨_,all⟩
      exact ⟨all latest List.mem_cons_self,fun n listed => all n (List.mem_cons_of_mem _ listed)⟩
    · intro ⟨first,rest⟩
      refine ⟨rfl,?_⟩
      intro n listed
      rcases List.mem_cons.mp listed with rfl | later
      · exact first
      · exact rest n later

theorem refuse_accounted (fit : Fit l) (accounted : Accounted l) : l.refuse.Accounted ↔ l.connected = false := by
  obtain ⟨recorded,replies,connected⟩ := l
  cases connected with
  | false =>
    refine ⟨fun _ => rfl,?_⟩
    intro _
    have asked := (ask_accounted fit accounted).mpr (fun waits => nomatch waits.2)
    exact ⟨by cases recorded <;> rfl,asked.2⟩
  | true =>
    refine ⟨?_,nofun⟩
    intro lost
    cases recorded with
    | false => cases lost.1
    | true =>
      obtain ⟨earlier,first⟩ := fit rfl
      simp only at first
      subst first
      cases lost.2 0 List.mem_cons_self

theorem answer_accounted (fit : Fit l) (accounted : Accounted l) : l.answer.Accounted := by
  obtain ⟨recorded,replies,connected⟩ := l
  cases recorded with
  | false => exact accounted
  | true =>
    obtain ⟨earlier,first⟩ := fit rfl
    simp only at first
    subst first
    cases connected with
    | true => exact ⟨rfl,accounted.2⟩
    | false => exact ⟨rfl,accounted.2⟩

end Line

inductive Deed where
  | stay
  | meet
  | ask
  | refuse
  | drop
  | answer
  | hangUp
  | leave
  deriving DecidableEq, Repr

namespace Line

def take (l : Line) : Deed → Line
  | .stay => l
  | .meet => {l with connected:=true}
  | .ask => l.ask
  | .refuse => l.refuse
  | .drop => l.drop
  | .answer => l.answer
  | .hangUp => l.hangUp
  | .leave => l.hangUp.drop

def loses (l : Line) : Deed → Prop
  | .ask | .drop => l.recorded = true ∧ l.connected = true
  | .refuse => l.connected = true
  | _ => False

instance (l : Line) (deed : Deed) : Decidable (l.loses deed) := by
  cases deed <;> unfold loses <;> infer_instance

theorem take_fit (fit : Fit l) (deed : Deed) : (l.take deed).Fit := by
  cases deed with
  | stay | meet => exact fit
  | ask => exact ask_fit l
  | refuse => exact refuse_fit l
  | drop => exact drop_fit l
  | answer => exact answer_fit fit
  | hangUp => exact hangUp_fit fit
  | leave => exact drop_fit l.hangUp

theorem take_nil {l : Line} (none : l.replies = []) (deed : Deed) (quiet : ¬(deed = .ask ∨ deed = .refuse)) :
    (l.take deed).replies = [] := by
  cases deed with
  | ask | refuse => simp at quiet
  | stay | meet | drop | hangUp | leave => exact none
  | answer =>
    change l.answer.replies = []
    unfold answer
    split
    · simp [none,count]
    · exact none

theorem take_accounted (fit : Fit l) (accounted : Accounted l) (deed : Deed) (new : deed = .meet → l.replies = []) :
    (l.take deed).Accounted ↔ ¬l.loses deed := by
  cases deed with
  | stay => exact ⟨fun _ => nofun,fun _ => accounted⟩
  | meet =>
    refine ⟨fun _ => nofun,?_⟩
    intro _
    unfold Accounted take
    rw [new rfl]
    trivial
  | ask => exact ask_accounted fit accounted
  | refuse => exact (refuse_accounted fit accounted).trans Bool.eq_false_iff
  | drop => exact drop_accounted fit accounted
  | answer => exact ⟨fun _ => nofun,fun _ => answer_accounted fit accounted⟩
  | hangUp => exact ⟨fun _ => nofun,fun _ => hangUp_accounted accounted⟩
  | leave =>
    refine ⟨fun _ => nofun,?_⟩
    intro _
    exact (drop_accounted (hangUp_fit fit) (hangUp_accounted accounted)).mpr (fun waits => nomatch waits.2)

end Line

end Library.Ledger
