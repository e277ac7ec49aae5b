import Mathlib.Data.List.Basic
import Mathlib.Logic.Function.Basic
import Mathlib.Logic.Relation

namespace Library.Attempts

-- A pending request: the ticket to complete, the trial that is on, and how many
-- trials failed before it.
structure Attempt where
  ticket : Nat
  trial : Nat
  failures : Nat
  deriving DecidableEq, Repr

inductive Happening (κ : Type) where
  | began (key : κ) (ticket trial : Nat)
  | heard (trial : Nat) (gained : Bool)
  | completed (ticket : Nat)
  | closed (key : κ) (gained : Bool)
  deriving DecidableEq, Repr

-- Requests by key, the next trial and ticket to be given out, and the history,
-- the latest first.
structure Book (κ : Type) where
  pending : κ → Option Attempt
  nextTrial : Nat
  nextTicket : Nat
  history : List (Happening κ)

variable {κ : Type} [DecidableEq κ]

def Book.empty : Book κ := ⟨fun _ => none,0,0,[]⟩

def completions (ticket : Nat) : List (Happening κ) → Nat
  | [] => 0
  | .completed other :: rest => completions ticket rest + if other = ticket then 1 else 0
  | _ :: rest => completions ticket rest

def trials (ticket : Nat) : List (Happening κ) → Nat
  | [] => 0
  | .began _ other _ :: rest => trials ticket rest + if other = ticket then 1 else 0
  | _ :: rest => trials ticket rest

def lastTrial (key : κ) : List (Happening κ) → Option Nat
  | [] => none
  | .began other _ trial :: rest => if other = key then some trial else lastTrial key rest
  | _ :: rest => lastTrial key rest

-- A request is closed as gained exactly if its last trial said so.
def Vouched : List (Happening κ) → Prop
  | [] => True
  | .closed key gained :: rest =>
    (gained = true ↔ ∃ trial, lastTrial key rest = some trial ∧ .heard trial true ∈ rest) ∧ Vouched rest
  | _ :: rest => Vouched rest

inductive Step (limit : Nat) : Book κ → Book κ → Prop where
  | refuse : Step limit b {b with nextTicket:=b.nextTicket + 1,history:=.completed b.nextTicket :: b.history}
  | accept (key : κ) (free : b.pending key = none) (possible : 0 < limit) :
      Step limit b ⟨Function.update b.pending key (some ⟨b.nextTicket,b.nextTrial,0⟩),b.nextTrial + 1,b.nextTicket + 1,
        .began key b.nextTicket b.nextTrial :: b.history⟩
  | retry (key : κ) (a : Attempt) (held : b.pending key = some a) (few : a.failures + 1 < limit) :
      Step limit b ⟨Function.update b.pending key (some ⟨a.ticket,b.nextTrial,a.failures + 1⟩),b.nextTrial + 1,
        b.nextTicket,.began key a.ticket b.nextTrial :: .heard a.trial false :: b.history⟩
  | settle (key : κ) (a : Attempt) (held : b.pending key = some a) (gained : Bool) :
      Step limit b {b with
        pending:=Function.update b.pending key none
        history:=.closed key gained :: .completed a.ticket :: .heard a.trial gained :: b.history}
  | cancel (key : κ) (a : Attempt) (held : b.pending key = some a) :
      Step limit b {b with
        pending:=Function.update b.pending key none
        history:=.closed key false :: .completed a.ticket :: b.history}
  | stale (known : trial < b.nextTrial) (nobody : ∀ key a, b.pending key = some a → a.trial ≠ trial) (gained : Bool) :
      Step limit b {b with history:=.heard trial gained :: b.history}

def Steps (limit : Nat) : Book κ → Book κ → Prop := Relation.ReflTransGen (Step limit)

-- What the history says of a pending request.
structure Entry (limit : Nat) (b : Book κ) (key : κ) (a : Attempt) : Prop where
  issued : a.ticket < b.nextTicket
  begun : a.trial < b.nextTrial
  few : a.failures < limit
  waiting : completions a.ticket b.history = 0
  tried : trials a.ticket b.history = a.failures + 1
  last : lastTrial key b.history = some a.trial
  unheard : .heard a.trial true ∉ b.history

structure Kept (limit : Nat) (b : Book κ) : Prop where
  entries : ∀ key a, b.pending key = some a → Entry limit b key a
  apart : ∀ key other a o, b.pending key = some a → b.pending other = some o →
    a.ticket = o.ticket ∨ a.trial = o.trial → key = other
  done : ∀ ticket < b.nextTicket, (∀ key a, b.pending key = some a → a.ticket ≠ ticket) →
    completions ticket b.history = 1
  unissued : ∀ ticket, b.nextTicket ≤ ticket → completions ticket b.history = 0 ∧ trials ticket b.history = 0
  limited : ∀ ticket, trials ticket b.history ≤ limit
  known : ∀ trial gained, .heard trial gained ∈ b.history → trial < b.nextTrial
  vouched : Vouched b.history

theorem empty_kept (limit : Nat) : Kept limit (Book.empty : Book κ) where
  entries := nofun
  apart := nofun
  done := nofun
  unissued _ _ := ⟨rfl,rfl⟩
  limited _ := Nat.zero_le _
  known := nofun
  vouched := trivial

theorem update_cases {f : κ → Option Attempt} {x : Option Attempt} (held : Function.update f key x other = some a) :
    other = key ∧ x = some a ∨ other ≠ key ∧ f other = some a := by
  by_cases same : other = key
  · subst same; rw [Function.update_self] at held; exact .inl ⟨rfl,held⟩
  · rw [Function.update_of_ne same] at held; exact .inr ⟨same,held⟩

theorem Entry.keep {b e : Book κ} (entry : Entry limit b key a) (tickets : b.nextTicket ≤ e.nextTicket)
    (begun : b.nextTrial ≤ e.nextTrial) (waiting : completions a.ticket e.history = completions a.ticket b.history)
    (tried : trials a.ticket e.history = trials a.ticket b.history)
    (last : lastTrial key e.history = lastTrial key b.history)
    (unheard : .heard a.trial true ∈ e.history → .heard a.trial true ∈ b.history) : Entry limit e key a where
  issued := Nat.lt_of_lt_of_le entry.issued tickets
  begun := Nat.lt_of_lt_of_le entry.begun begun
  few := entry.few
  waiting := waiting.trans entry.waiting
  tried := tried.trans entry.tried
  last := last.trans entry.last
  unheard := fun heard => entry.unheard (unheard heard)

variable {limit : Nat} {b : Book κ} {key : κ} {a : Attempt}

theorem refuse_kept (kept : Kept limit b) :
    Kept limit {b with nextTicket:=b.nextTicket + 1,history:=.completed b.nextTicket :: b.history} where
  entries other o held := by
    have entry := kept.entries other o held
    have different : b.nextTicket ≠ o.ticket := (Nat.ne_of_lt entry.issued).symm
    refine entry.keep (Nat.le_succ _) (Nat.le_refl _) ?_ rfl rfl ?_
    · simp [completions,different]
    · intro heard
      simpa using heard
  apart := kept.apart
  done ticket below others := by
    by_cases new : ticket = b.nextTicket
    · subst new
      simp [completions,(kept.unissued _ (Nat.le_refl _)).1]
    · have old : ticket < b.nextTicket := Nat.lt_of_le_of_ne (Nat.le_of_lt_succ below) new
      simp [completions,Ne.symm new,kept.done ticket old others]
  unissued ticket above := by
    have above : b.nextTicket + 1 ≤ ticket := above
    have old := kept.unissued ticket (by omega)
    have different : b.nextTicket ≠ ticket := by omega
    exact ⟨by simp [completions,different,old.1],old.2⟩
  limited := kept.limited
  known trial gained heard := kept.known trial gained (by simpa using heard)
  vouched := kept.vouched

theorem heard_kept (kept : Kept limit b) (known : trial < b.nextTrial) (gained : Bool)
    (fine : gained = true → ∀ key a, b.pending key = some a → a.trial ≠ trial) :
    Kept limit {b with history:=.heard trial gained :: b.history} where
  entries other o held := by
    refine (kept.entries other o held).keep (Nat.le_refl _) (Nat.le_refl _) rfl rfl rfl ?_
    intro heard
    rcases List.mem_cons.mp heard with now | before
    · cases now; exact absurd rfl (fine rfl other o held)
    · exact before
  apart := kept.apart
  done := kept.done
  unissued := kept.unissued
  limited := kept.limited
  known other said heard := by
    rcases List.mem_cons.mp heard with now | before
    · cases now; exact known
    · exact kept.known other said before
  vouched := kept.vouched

theorem began_kept (kept : Kept limit b) (ticket failures nextTicket : Nat) (few : failures < limit)
    (fresh : b.nextTicket ≤ nextTicket) (issued : ticket < nextTicket)
    (waiting : completions ticket b.history = 0) (tried : trials ticket b.history = failures)
    (others : ∀ other o, other ≠ key → b.pending other = some o → o.ticket ≠ ticket)
    (gap : ∀ old, b.nextTicket ≤ old → old < nextTicket → old = ticket)
    (pendingTicket : ∀ a, b.pending key = some a → a.ticket = ticket) :
    Kept limit ⟨Function.update b.pending key (some ⟨ticket,b.nextTrial,failures⟩),b.nextTrial + 1,nextTicket,
      .began key ticket b.nextTrial :: b.history⟩ where
  entries other o held := by
    rcases update_cases held with ⟨rfl,new⟩ | ⟨different,before⟩
    · cases new
      refine ⟨issued,Nat.lt_succ_self _,few,waiting,?_,if_pos rfl,?_⟩
      · simp [trials,tried]
      · intro heard
        have heard : Happening.heard b.nextTrial true ∈ b.history := by simpa using heard
        exact Nat.lt_irrefl _ (kept.known _ _ heard)
    · have entry := kept.entries other o before
      refine entry.keep fresh (Nat.le_succ _) rfl ?_ (if_neg different.symm) ?_
      · simp [trials,(others other o different before).symm]
      · intro heard
        simpa using heard
  apart one other a o first second same := by
    rcases update_cases first with ⟨rfl,new⟩ | ⟨different,before⟩
    · rcases update_cases second with ⟨rfl,_⟩ | ⟨different,before⟩
      · rfl
      · cases new
        have entry := kept.entries other o before
        rcases same with same | same
        · exact absurd same.symm (others other o different before)
        · exact absurd same.symm (Nat.ne_of_lt entry.begun)
    · rcases update_cases second with ⟨rfl,new⟩ | ⟨_,after⟩
      · cases new
        have entry := kept.entries one a before
        rcases same with same | same
        · exact absurd same (others one a different before)
        · exact absurd same (Nat.ne_of_lt entry.begun)
      · exact kept.apart one other a o before after same
  done old below none := by
    have different : ticket ≠ old := none key ⟨ticket,b.nextTrial,failures⟩ (Function.update_self ..)
    apply kept.done old
    · by_contra above
      exact different (gap old (Nat.le_of_not_lt above) below).symm
    · intro other o held same
      by_cases mine : other = key
      · subst mine; exact different ((pendingTicket o held).symm.trans same)
      · exact none other o ((Function.update_of_ne mine ..).trans held) same
  unissued other above := by
    have above : nextTicket ≤ other := above
    have before := kept.unissued other (Nat.le_trans fresh above)
    have different : ticket ≠ other := by omega
    exact ⟨before.1,by simp [trials,different,before.2]⟩
  limited other := by
    by_cases same : ticket = other
    · subst same; simp [trials,tried]; omega
    · simp [trials,same,kept.limited other]
  known trial gained heard := Nat.lt_succ_of_lt (kept.known trial gained (by simpa using heard))
  vouched := kept.vouched

-- The request of a key is completed and closed, after what was heard of its trial.
theorem ended_kept (kept : Kept limit b) (held : b.pending key = some a) (history : List (Happening κ)) (gained : Bool)
    (counts : ∀ ticket, completions ticket history = completions ticket b.history ∧
      trials ticket history = trials ticket b.history)
    (last : ∀ other, lastTrial other history = lastTrial other b.history)
    (heard : ∀ trial said, .heard trial said ∈ history → .heard trial said ∈ b.history ∨ trial = a.trial)
    (told : gained = true ↔ .heard a.trial true ∈ history) (vouched : Vouched history) :
    Kept limit {b with
      pending:=Function.update b.pending key none
      history:=.closed key gained :: .completed a.ticket :: history} where
  entries other o still := by
    rcases update_cases still with ⟨_,none⟩ | ⟨different,before⟩
    · cases none
    have parted (same : a.ticket = o.ticket ∨ a.trial = o.trial) : False :=
      different (kept.apart key other a o held before same).symm
    refine (kept.entries other o before).keep (Nat.le_refl _) (Nat.le_refl _) ?_ (counts _).2 (last other) ?_
    · have other : a.ticket ≠ o.ticket := fun same => parted (.inl same)
      simp [completions,other,counts]
    · intro said
      rcases heard o.trial true (by simpa using said) with before | same
      · exact before
      · exact (parted (.inr same.symm)).elim
  apart one other a o first second := by
    rcases update_cases first with ⟨_,none⟩ | ⟨_,before⟩
    · cases none
    rcases update_cases second with ⟨_,none⟩ | ⟨_,after⟩
    · cases none
    exact kept.apart one other a o before after
  done ticket below others := by
    have entry := kept.entries key a held
    by_cases mine : a.ticket = ticket
    · subst mine
      simp [completions,counts,entry.waiting]
    · have before := kept.done ticket below (fun other o found => by
        by_cases same : other = key
        · subst same; rw [held] at found; cases found; exact mine
        · exact others other o ((Function.update_of_ne same ..).trans found))
      simp [completions,mine,counts,before]
  unissued ticket above := by
    have before := kept.unissued ticket above
    have issued := (kept.entries key a held).issued
    have above : b.nextTicket ≤ ticket := above
    have different : a.ticket ≠ ticket := by omega
    exact ⟨by simp [completions,different,counts,before.1],(counts ticket).2.trans before.2⟩
  limited ticket := Nat.le_trans (Nat.le_of_eq (counts ticket).2) (kept.limited ticket)
  known trial said listed := by
    rcases heard trial said (by simpa using listed) with before | same
    · exact kept.known trial said before
    · exact same ▸ (kept.entries key a held).begun
  vouched := by
    have latest : lastTrial key (.completed a.ticket :: history) = some a.trial :=
      (last key).trans (kept.entries key a held).last
    refine ⟨told.trans ⟨fun said => ⟨a.trial,latest,List.mem_cons_of_mem _ said⟩,?_⟩,vouched⟩
    rintro ⟨trial,found,said⟩
    cases latest.symm.trans found
    simpa using said

theorem step_kept (step : Step limit b e) (kept : Kept limit b) : Kept limit e := by
  cases step with
  | refuse => exact refuse_kept kept
  | accept key free possible =>
    have unissued := kept.unissued b.nextTicket (Nat.le_refl _)
    apply began_kept kept b.nextTicket 0 _ possible (Nat.le_succ _) (Nat.lt_succ_self _) unissued.1 unissued.2
    · exact fun other o _ held => Nat.ne_of_lt (kept.entries other o held).issued
    · exact fun old above below => Nat.le_antisymm (Nat.le_of_lt_succ below) above
    · exact fun a held => nomatch free.symm.trans held
  | retry key a held few =>
    have entry := kept.entries key a held
    have failed := heard_kept kept entry.begun false nofun
    apply began_kept failed a.ticket (a.failures + 1) _ few (Nat.le_refl _) entry.issued entry.waiting entry.tried
    · exact fun other o different found same => different (kept.apart other key o a found held (.inl same))
    · exact fun old above below => absurd below (Nat.not_lt.mpr above)
    · exact fun o found => by cases held.symm.trans found; rfl
  | settle key a held gained =>
    have entry := kept.entries key a held
    refine ended_kept kept held (.heard a.trial gained :: b.history) gained (fun _ => ⟨rfl,rfl⟩) (fun _ => rfl) ?_ ?_ kept.vouched
    · intro trial said listed
      rcases List.mem_cons.mp listed with now | before
      · cases now; exact .inr rfl
      · exact .inl before
    · constructor
      · rintro rfl; exact List.mem_cons_self
      · intro listed
        rcases List.mem_cons.mp listed with now | before
        · cases now; rfl
        · exact absurd before entry.unheard
  | cancel key a held =>
    have entry := kept.entries key a held
    exact ended_kept kept held b.history false (fun _ => ⟨rfl,rfl⟩) (fun _ => rfl) (fun _ _ listed => .inl listed)
      ⟨nofun,fun listed => absurd listed entry.unheard⟩ kept.vouched
  | stale known nobody gained => exact heard_kept kept known gained (fun _ => nobody)

theorem steps_kept (steps : Steps limit b e) (kept : Kept limit b) : Kept limit e := by
  induction steps with
  | refl => exact kept
  | tail _ step ih => exact step_kept step ih

end Library.Attempts
