import BbAuth.Library.History

namespace Library

-- What is left of a sequence after some of its entries, named by their number,
-- went out of it.
structure Tally (all : List α) (out : List Nat) (kept : List (α × Nat)) : Prop where
  kept : kept = all.zipIdx.filter (fun entry => entry.2 ∉ out)
  known : ∀ number ∈ out, number < all.length

namespace Tally

variable {all : List α} {out : List Nat} {kept front back rest : List (α × Nat)} {first : α × Nat}

theorem empty : Tally ([] : List α) [] [] := ⟨rfl,List.forall_mem_nil _⟩

theorem listed (tally : Tally all out kept) (present : entry ∈ kept) : all[entry.2]? = some entry.1 := by
  rw [tally.kept] at present
  exact List.mem_zipIdx_iff_getElem?.mp (List.mem_filter.mp present).1

theorem below (tally : Tally all out kept) (present : entry ∈ kept) : entry.2 < all.length :=
  (List.getElem?_eq_some_iff.mp (tally.listed present)).1

theorem same (tally : Tally all out kept) (one : x ∈ kept) (other : y ∈ kept) (equal : x.2 = y.2) : x = y := by
  have value := tally.listed one
  rw [equal,tally.listed other] at value
  exact Prod.ext (Option.some.inj value).symm equal

theorem ordered (tally : Tally all out kept) : (kept.map Prod.snd).Pairwise (· < ·) := by
  have numbers : (all.zipIdx.map Prod.snd).Pairwise (· < ·) := by
    rw [List.zipIdx_map_snd]
    exact List.pairwise_lt_range'
  rw [tally.kept]
  exact List.pairwise_map.mpr ((List.pairwise_map.mp numbers).filter _)

theorem apart (tally : Tally all out (front ++ back)) (early : x ∈ front) (late : y ∈ back) : x.2 ≠ y.2 := by
  have split := tally.ordered
  rw [List.map_append] at split
  have across := (List.pairwise_append.mp split).2.2
  exact Nat.ne_of_lt (across x.2 (List.mem_map_of_mem early) y.2 (List.mem_map_of_mem late))

theorem more (tally : Tally all out kept) (a : α) : Tally (all ++ [a]) out (kept ++ [(a,all.length)]) := by
  have fresh : all.length ∉ out := fun gone => Nat.lt_irrefl _ (tally.known _ gone)
  constructor
  · rw [List.zipIdx_append,List.filter_append,← tally.kept,Nat.zero_add]
    simp [fresh]
  · intro number gone
    rw [List.length_append]
    exact Nat.lt_add_right _ (tally.known number gone)

theorem less (tally : Tally all out (front ++ back)) (gone : α × Nat → Bool) :
    Tally all (out ++ (back.filter gone).map Prod.snd) (front ++ back.filter (fun entry => !gone entry)) := by
  have early : front.filter (fun entry => entry.2 ∉ (back.filter gone).map Prod.snd) = front := by
    apply List.filter_eq_self.mpr
    intro entry present
    apply decide_eq_true
    intro named
    obtain ⟨other,leaves,equal⟩ := List.mem_map.mp named
    exact tally.apart present (List.mem_filter.mp leaves).1 equal.symm
  have late : back.filter (fun entry => entry.2 ∉ (back.filter gone).map Prod.snd) = back.filter (fun entry => !gone entry) := by
    apply List.filter_congr
    intro entry present
    rw [Bool.eq_iff_iff,decide_eq_true_iff,Bool.not_eq_true']
    constructor
    · intro unnamed
      apply Bool.eq_false_iff.mpr
      intro goes
      exact unnamed (List.mem_map_of_mem (List.mem_filter.mpr ⟨present,goes⟩))
    · intro remains named
      obtain ⟨other,leaves,equal⟩ := List.mem_map.mp named
      obtain ⟨there,goes⟩ := List.mem_filter.mp leaves
      rw [tally.same (List.mem_append_right _ there) (List.mem_append_right _ present) equal,remains] at goes
      cases goes
  constructor
  · rw [← late]
    conv_lhs => rw [← early]
    rw [← List.filter_append,tally.kept,List.filter_filter]
    apply List.filter_congr
    intro entry _
    simp only [List.mem_append,not_or,Bool.decide_and,Bool.and_comm]
  · intro number named
    rcases List.mem_append.mp named with old | new
    · exact tally.known number old
    · obtain ⟨entry,leaves,equal⟩ := List.mem_map.mp new
      rw [← equal]
      exact tally.below (List.mem_append_right _ (List.mem_filter.mp leaves).1)

theorem pop (tally : Tally all out (front ++ first :: rest)) : Tally all (out ++ [first.2]) (front ++ rest) := by
  have others : ∀ entry ∈ rest, decide (entry.2 = first.2) = false := by
    intro entry present
    have split := tally.ordered
    rw [List.map_append,List.map_cons] at split
    have later := (List.pairwise_cons.mp (List.pairwise_append.mp split).2.1).1 entry.2 (List.mem_map_of_mem present)
    exact decide_eq_false (Nat.ne_of_gt later)
  have gone : (first :: rest).filter (fun entry => entry.2 = first.2) = [first] := by
    have nothing : rest.filter (fun entry => entry.2 = first.2) = [] :=
      List.filter_eq_nil_iff.mpr (fun entry present => Bool.eq_false_iff.mp (others entry present))
    simp [nothing]
  have stays : (first :: rest).filter (fun entry => !decide (entry.2 = first.2)) = rest := by
    rw [List.filter_cons_of_neg (by simp)]
    apply List.filter_eq_self.mpr
    intro entry present
    rw [others entry present]
    rfl
  have tallied := tally.less (fun entry => entry.2 = first.2)
  rw [gone,stays] at tallied
  exact tallied

end Tally

-- Letters wait for takers, or takers for letters. Both are numbered as they
-- arrive, and the accounts tell what was handed to whom, which letters had to
-- make room, and which takers went away.
structure Mailbox (Letter Taker : Type) where
  posted : List Letter := []
  asked : List Taker := []
  letters : List (Letter × Nat) := []
  takers : List (Taker × Nat) := []
  handed : List ((Taker × Nat) × Letter × Nat) := []
  dropped : List Nat := []
  gone : List Nat := []

inductive Visit (Letter Taker : Type) where
  | post (letter : Letter)
  | ask (taker : Taker)
  | leave (goes : Taker → Bool)

namespace Mailbox

variable {Letter Taker : Type} {capacity : Nat} {m n : Mailbox Letter Taker}

def post (capacity : Nat) (m : Mailbox Letter Taker) (letter : Letter) : Mailbox Letter Taker :=
  let sealed := (letter,m.posted.length)
  let posted := m.posted ++ [letter]
  match m.takers with
  | taker :: rest => {m with posted,takers := rest,handed := m.handed ++ [(taker,sealed)]}
  | [] =>
    if m.letters.length < capacity then {m with posted,letters := m.letters ++ [sealed]}
    else
      { m with
        posted
        letters := m.letters.drop 1 ++ [sealed]
        dropped := m.dropped ++ (m.letters.take 1).map Prod.snd }

def ask (m : Mailbox Letter Taker) (taker : Taker) : Mailbox Letter Taker :=
  let ticket := (taker,m.asked.length)
  let asked := m.asked ++ [taker]
  match m.letters with
  | letter :: rest => {m with asked,letters := rest,handed := m.handed ++ [(ticket,letter)]}
  | [] => {m with asked,takers := m.takers ++ [ticket]}

def leave (m : Mailbox Letter Taker) (goes : Taker → Bool) : Mailbox Letter Taker :=
  { m with
    takers := m.takers.filter (fun taker => !goes taker.1)
    gone := m.gone ++ (m.takers.filter (fun taker => goes taker.1)).map Prod.snd }

def visit (capacity : Nat) (m : Mailbox Letter Taker) : Visit Letter Taker → Mailbox Letter Taker
  | .post letter => m.post capacity letter
  | .ask taker => m.ask taker
  | .leave goes => m.leave goes

def run (capacity : Nat) (visits : List (Visit Letter Taker)) : Mailbox Letter Taker := visits.foldl (visit capacity) {}

-- Nobody waits next to a letter, and the accounts are right: what was handed out
-- and what is left are, in their order, all but what went out.
structure Orderly (capacity : Nat) (m : Mailbox Letter Taker) : Prop where
  apart : m.letters = [] ∨ m.takers = []
  bounded : m.letters.length ≤ capacity
  letters : Tally m.posted m.dropped (m.handed.map Prod.snd ++ m.letters)
  takers : Tally m.asked m.gone (m.handed.map Prod.fst ++ m.takers)

theorem post_orderly (positive : 0 < capacity) (letter : Letter) (orderly : Orderly capacity m) :
    Orderly capacity (m.post capacity letter) := by
  obtain ⟨apart,bounded,letters,takers⟩ := orderly
  have posted := letters.more letter
  unfold post
  simp only
  cases waiting : m.takers with
  | cons taker rest =>
    rw [waiting] at apart takers
    have nothing : m.letters = [] := apart.resolve_right (List.cons_ne_nil taker rest)
    rw [nothing,List.append_nil] at posted
    refine ⟨.inl nothing,bounded,?_,?_⟩
    · rw [nothing,List.append_nil,List.map_append]
      exact posted
    · rw [List.map_append,List.append_assoc]
      exact takers
  | nil =>
    rw [waiting] at takers
    simp only
    split
    · next room =>
      refine ⟨.inr rfl,?_,?_,takers⟩
      · rw [List.length_append]
        exact room
      · rw [← List.append_assoc]
        exact posted
    · next full =>
      cases there : m.letters with
      | nil =>
        rw [there] at full
        exact absurd positive full
      | cons oldest rest =>
        rw [there] at bounded letters
        refine ⟨.inr rfl,?_,?_,takers⟩
        · simpa using bounded
        · have left := letters.pop.more letter
          rw [List.append_assoc] at left
          exact left

theorem ask_orderly (taker : Taker) (orderly : Orderly capacity m) : Orderly capacity (m.ask taker) := by
  obtain ⟨apart,bounded,letters,takers⟩ := orderly
  have asked := takers.more taker
  unfold ask
  simp only
  cases there : m.letters with
  | cons letter rest =>
    rw [there] at apart bounded letters
    have nobody : m.takers = [] := apart.resolve_left (List.cons_ne_nil letter rest)
    rw [nobody,List.append_nil] at asked
    refine ⟨.inr nobody,Nat.le_of_succ_le bounded,?_,?_⟩
    · rw [List.map_append,List.append_assoc]
      exact letters
    · rw [nobody,List.append_nil,List.map_append]
      exact asked
  | nil =>
    rw [there] at bounded letters
    refine ⟨.inl rfl,bounded,letters,?_⟩
    rw [← List.append_assoc]
    exact asked

theorem leave_orderly (goes : Taker → Bool) (orderly : Orderly capacity m) : Orderly capacity (m.leave goes) := by
  refine ⟨?_,orderly.bounded,orderly.letters,orderly.takers.less (fun taker => goes taker.1)⟩
  rcases orderly.apart with nothing | nobody
  · exact .inl nothing
  · refine .inr ?_
    unfold leave
    rw [nobody]
    rfl

theorem run_orderly (positive : 0 < capacity) (visits : List (Visit Letter Taker)) : Orderly capacity (run capacity visits) := by
  induction visits using List.reverseRecOn with
  | nil => exact ⟨.inl rfl,Nat.zero_le _,.empty,.empty⟩
  | append_singleton before visit ih =>
    unfold run
    rw [List.foldl_append]
    cases visit with
    | post letter => exact post_orderly positive letter ih
    | ask taker => exact ask_orderly taker ih
    | leave goes => exact leave_orderly goes ih

def drops (capacity : Nat) (m : Mailbox Letter Taker) : Visit Letter Taker → List Nat
  | .post _ => if m.takers = [] ∧ capacity ≤ m.letters.length then (m.letters.take 1).map Prod.snd else []
  | _ => []

def loses (m : Mailbox Letter Taker) : Visit Letter Taker → List Nat
  | .leave goes => (m.takers.filter (fun taker => goes taker.1)).map Prod.snd
  | _ => []

theorem visit_dropped (m : Mailbox Letter Taker) (visit : Visit Letter Taker) :
    (m.visit capacity visit).dropped = m.dropped ++ m.drops capacity visit := by
  cases visit with
  | post letter =>
    unfold Mailbox.visit post drops
    simp only
    cases waiting : m.takers with
    | cons taker rest => simp
    | nil =>
      simp only
      split
      · next room => simp [Nat.not_le.mpr room]
      · next full => simp [Nat.le_of_not_lt full]
  | ask taker =>
    unfold Mailbox.visit ask drops
    simp only
    split <;> simp
  | leave goes => exact (List.append_nil _).symm

theorem visit_gone (m : Mailbox Letter Taker) (visit : Visit Letter Taker) :
    (m.visit capacity visit).gone = m.gone ++ m.loses visit := by
  cases visit with
  | post letter =>
    unfold Mailbox.visit post loses
    simp only
    split
    · simp
    · split <;> simp
  | ask taker =>
    unfold Mailbox.visit ask loses
    simp only
    split <;> simp
  | leave goes => rfl

-- A letter is dropped exactly when a posted one finds the mailbox full, and it
-- is the oldest there.
theorem dropped_iff (capacity : Nat) (visits : List (Visit Letter Taker)) (number : Nat) :
    number ∈ (run capacity visits).dropped ↔
      ∃ before letter after oldest rest, visits = before ++ .post letter :: after ∧
        (run capacity before).takers = [] ∧ capacity ≤ (run capacity before).letters.length ∧
        (run capacity before).letters = oldest :: rest ∧ oldest.2 = number := by
  unfold run
  rw [mem_log_iff (visit capacity) dropped (drops capacity) visit_dropped]
  constructor
  · intro found
    rcases found with old | ⟨before,visit,after,split,wrote⟩
    · cases old
    · cases visit with
      | ask taker => cases wrote
      | leave goes => cases wrote
      | post letter =>
        simp only [drops] at wrote
        split at wrote
        · next full =>
          cases there : (before.foldl (visit capacity) ({} : Mailbox Letter Taker)).letters with
          | nil =>
            rw [there] at wrote
            cases wrote
          | cons oldest rest =>
            rw [there] at wrote
            exact ⟨before,letter,after,oldest,rest,split,full.1,full.2,there,(List.mem_singleton.mp wrote).symm⟩
        · cases wrote
  · intro found
    obtain ⟨before,letter,after,oldest,rest,split,nobody,full,there,same⟩ := found
    refine .inr ⟨before,.post letter,after,split,?_⟩
    unfold drops
    simp only
    rw [if_pos ⟨nobody,full⟩,there]
    exact List.mem_singleton.mpr same.symm

theorem gone_iff (capacity : Nat) (visits : List (Visit Letter Taker)) (number : Nat) :
    number ∈ (run capacity visits).gone ↔
      ∃ before goes after, ∃ taker ∈ (run capacity before).takers, visits = before ++ .leave goes :: after ∧
        goes taker.1 = true ∧ taker.2 = number := by
  unfold run
  rw [mem_log_iff (visit capacity) gone loses visit_gone]
  constructor
  · intro found
    rcases found with old | ⟨before,visit,after,split,wrote⟩
    · cases old
    · cases visit with
      | post letter => cases wrote
      | ask taker => cases wrote
      | leave goes =>
        obtain ⟨taker,leaves,same⟩ := List.mem_map.mp wrote
        obtain ⟨there,goes'⟩ := List.mem_filter.mp leaves
        exact ⟨before,goes,after,taker,there,split,goes',same⟩
  · intro found
    obtain ⟨before,goes,after,taker,there,split,leaves,same⟩ := found
    exact .inr ⟨before,.leave goes,after,split,List.mem_map.mpr ⟨taker,List.mem_filter.mpr ⟨there,leaves⟩,same⟩⟩

-- Since an earlier moment only those were served who waited then or asked later.
structure Since (m n : Mailbox Letter Taker) : Prop where
  asked : m.asked.length ≤ n.asked.length
  waiting : ∀ taker ∈ n.takers, taker ∈ m.takers ∨ m.asked.length ≤ taker.2
  served : ∃ new, n.handed = m.handed ++ new ∧ ∀ hand ∈ new, hand.1 ∈ m.takers ∨ m.asked.length ≤ hand.1.2

theorem since_refl (m : Mailbox Letter Taker) : Since m m :=
  ⟨Nat.le_refl _,fun _ there => .inl there,[],(List.append_nil _).symm,List.forall_mem_nil _⟩

theorem visit_since (visit : Visit Letter Taker) (since : Since m n) : Since m (n.visit capacity visit) := by
  obtain ⟨asked,waiting,new,same,served⟩ := since
  have hand (taker : Taker × Nat) (letter : Letter × Nat) (late : taker ∈ m.takers ∨ m.asked.length ≤ taker.2) :
      ∃ more, n.handed ++ [(taker,letter)] = m.handed ++ more ∧
        ∀ hand ∈ more, hand.1 ∈ m.takers ∨ m.asked.length ≤ hand.1.2 := by
    refine ⟨new ++ [(taker,letter)],by rw [same,List.append_assoc],?_⟩
    intro hand present
    rcases List.mem_append.mp present with old | last
    · exact served hand old
    · rw [List.mem_singleton.mp last]
      exact late
  cases visit with
  | post letter =>
    unfold Mailbox.visit post
    simp only
    cases there : n.takers with
    | cons taker rest =>
      rw [there] at waiting
      exact ⟨asked,fun other listed => waiting other (List.mem_cons_of_mem _ listed),
        hand taker _ (waiting taker List.mem_cons_self)⟩
    | nil =>
      simp only
      split <;> exact ⟨asked,List.forall_mem_nil _,new,same,served⟩
  | ask taker =>
    have later : m.asked.length ≤ (n.asked ++ [taker]).length := by
      rw [List.length_append]
      exact Nat.le_add_right_of_le asked
    unfold Mailbox.visit ask
    simp only
    cases n.letters with
    | cons letter rest => exact ⟨later,waiting,hand _ letter (.inr asked)⟩
    | nil =>
      refine ⟨later,?_,new,same,served⟩
      intro other listed
      rcases List.mem_append.mp listed with old | last
      · exact waiting other old
      · rw [List.mem_singleton.mp last]
        exact .inr asked
  | leave goes => exact ⟨asked,fun other listed => waiting other (List.mem_filter.mp listed).1,new,same,served⟩

theorem visits_since (capacity : Nat) (visits : List (Visit Letter Taker)) (since : Since m n) :
    Since m (visits.foldl (visit capacity) n) := by
  induction visits generalizing n with
  | nil => exact since
  | cons visit rest ih => exact ih (visit_since visit since)

theorem left_unserved (capacity : Nat) (before after : List (Visit Letter Taker)) (goes : Taker → Bool) :
    ∃ new, (run capacity (before ++ .leave goes :: after)).handed = (run capacity before).handed ++ new ∧
      ∀ hand ∈ new, goes hand.1.1 = true → (run capacity before).asked.length ≤ hand.1.2 := by
  have since := visits_since capacity after (since_refl ((run capacity before).leave goes))
  obtain ⟨new,same,served⟩ := since.served
  refine ⟨new,?_,?_⟩
  · unfold run
    rw [List.foldl_append,List.foldl_cons]
    exact same
  · intro hand present leaves
    rcases served hand present with there | later
    · have stays := (List.mem_filter.mp there).2
      rw [leaves] at stays
      cases stays
    · exact later

end Mailbox

end Library
