import Mathlib.Computability.RegularExpressions
import Mathlib.Data.List.TakeWhile

namespace Library

namespace Patterns

open RegularExpression

variable {α : Type}

-- A bracket expression.
def oneOf (members : List α) : RegularExpression α := members.foldr (fun x rest => char x + rest) 0

def word (xs : List α) : RegularExpression α := xs.foldr (fun x rest => char x * rest) 1

def oneOrMore (P : RegularExpression α) : RegularExpression α := P * P.star

-- A keyword with spaces before it, if any, and some behind it.
def keyed (spaces keyword : List α) : RegularExpression α := (oneOf spaces).star * word keyword * oneOrMore (oneOf spaces)

-- The line names the value behind the keyword.
def Names (spaces keyword line value : List α) : Prop :=
  ∃ before gap, line = before ++ keyword ++ (gap ++ value) ∧ (∀ x ∈ before, x ∈ spaces) ∧ gap ≠ [] ∧ (∀ x ∈ gap, x ∈ spaces) ∧
    ∀ x ∈ value.head?, x ∉ spaces

theorem names_congr {first second : List α} (agree : ∀ x ∈ line, x ∈ first ↔ x ∈ second) (value : List α) :
    Names first keyword line value ↔ Names second keyword line value := by
  unfold Names
  refine exists_congr fun before => exists_congr fun gap => and_congr_right fun whole => ?_
  subst whole
  obtain ⟨front,back⟩ := List.forall_mem_append.mp agree
  obtain ⟨between,behind⟩ := List.forall_mem_append.mp back
  have leading := forall₂_congr (List.forall_mem_append.mp front).1
  have trailing := forall₂_congr between
  have ended : (∀ x ∈ value.head?, x ∉ first) ↔ ∀ x ∈ value.head?, x ∉ second :=
    forall₂_congr fun x head => not_congr (behind x (List.mem_of_mem_head? head))
  rw [leading,trailing,ended]

section

variable [DecidableEq α]

def begins (P : RegularExpression α) (xs : List α) : Bool := xs.inits.any P.rmatch

-- The longest match at the start is taken off.
def withoutLongest (P : RegularExpression α) (xs : List α) : List α :=
  xs.drop (Nat.findGreatest (fun n => P.rmatch (xs.take n) = true) xs.length)

end

variable {P : RegularExpression α} {members spaces keyword xs : List α}

theorem mem_oneOf : xs ∈ (oneOf members).matches' ↔ ∃ x ∈ members, xs = [x] := by
  induction members with
  | nil =>
    constructor
    · intro nothing
      cases nothing
    · intro ⟨x,absent,_⟩
      cases absent
  | cons x rest ih =>
    have split : xs ∈ (oneOf (x :: rest)).matches' ↔ xs = [x] ∨ xs ∈ (oneOf rest).matches' := Iff.rfl
    rw [split,ih]
    simp only [List.mem_cons,exists_eq_or_imp]

theorem mem_word : xs ∈ (word keyword).matches' ↔ xs = keyword := by
  induction keyword generalizing xs with
  | nil => exact Language.mem_one xs
  | cons x rest ih =>
    have split : xs ∈ (word (x :: rest)).matches' ↔ ∃ front ∈ (char x).matches', ∃ back ∈ (word rest).matches', front ++ back = xs := Language.mem_mul
    rw [split]
    constructor
    · intro ⟨front,single,back,matched,whole⟩
      have one : front = [x] := single
      rw [← whole,one,ih.mp matched]
      rfl
    · intro same
      exact ⟨[x],rfl,rest,ih.mpr rfl,same.symm⟩

theorem mem_star_oneOf : xs ∈ (oneOf members).star.matches' ↔ ∀ x ∈ xs, x ∈ members := by
  rw [matches'_star,Language.mem_kstar]
  constructor
  · intro ⟨pieces,whole,each⟩ x present
    rw [whole] at present
    obtain ⟨piece,listed,inside⟩ := List.mem_flatten.mp present
    obtain ⟨y,member,single⟩ := mem_oneOf.mp (each piece listed)
    rw [single] at inside
    rwa [List.mem_singleton.mp inside]
  · intro all
    refine ⟨xs.map (fun x => [x]),?_,?_⟩
    · rw [← List.flatMap_def,List.flatMap_singleton']
    · intro piece listed
      obtain ⟨x,present,single⟩ := List.mem_map.mp listed
      exact mem_oneOf.mpr ⟨x,all x present,single.symm⟩

theorem mem_oneOrMore_oneOf : xs ∈ (oneOrMore (oneOf members)).matches' ↔ xs ≠ [] ∧ ∀ x ∈ xs, x ∈ members := by
  unfold oneOrMore
  rw [matches'_mul,Language.mem_mul]
  constructor
  · intro ⟨first,single,rest,others,whole⟩
    obtain ⟨x,member,one⟩ := mem_oneOf.mp single
    rw [← whole,one]
    exact ⟨List.cons_ne_nil x rest,List.forall_mem_cons.mpr ⟨member,mem_star_oneOf.mp others⟩⟩
  · intro ⟨filled,all⟩
    obtain ⟨x,rest,same⟩ := List.exists_cons_of_ne_nil filled
    rw [same] at all ⊢
    obtain ⟨member,others⟩ := List.forall_mem_cons.mp all
    exact ⟨[x],mem_oneOf.mpr ⟨x,member,rfl⟩,rest,mem_star_oneOf.mpr others,rfl⟩

theorem mem_keyed : xs ∈ (keyed spaces keyword).matches' ↔ ∃ before gap, xs = before ++ keyword ++ gap ∧
    (∀ x ∈ before, x ∈ spaces) ∧ gap ≠ [] ∧ ∀ x ∈ gap, x ∈ spaces := by
  unfold keyed
  rw [matches'_mul,matches'_mul,Language.mem_mul]
  constructor
  · intro ⟨front,first,gap,last,whole⟩
    obtain ⟨before,leading,key,same,joined⟩ := Language.mem_mul.mp first
    obtain ⟨filled,trailing⟩ := mem_oneOrMore_oneOf.mp last
    exact ⟨before,gap,by rw [← whole,← joined,mem_word.mp same],mem_star_oneOf.mp leading,filled,trailing⟩
  · intro ⟨before,gap,whole,leading,filled,trailing⟩
    refine ⟨before ++ keyword,?_,gap,mem_oneOrMore_oneOf.mpr ⟨filled,trailing⟩,whole.symm⟩
    exact Language.mem_mul.mpr ⟨before,mem_star_oneOf.mpr leading,keyword,mem_word.mpr rfl,rfl⟩

variable [DecidableEq α]

theorem begins_iff : begins P xs = true ↔ ∃ front back, xs = front ++ back ∧ front ∈ P.matches' := by
  unfold begins
  rw [List.any_eq_true]
  constructor
  · intro ⟨front,listed,matched⟩
    obtain ⟨back,whole⟩ := (List.mem_inits front xs).mp listed
    exact ⟨front,back,whole.symm,(rmatch_iff_matches' P front).mp matched⟩
  · intro ⟨front,back,whole,matched⟩
    exact ⟨front,(List.mem_inits front xs).mpr ⟨back,whole.symm⟩,(rmatch_iff_matches' P front).mpr matched⟩

theorem withoutLongest_append {front back : List α} (matched : front ∈ P.matches')
    (longest : ∀ other more, front ++ back = other ++ more → other ∈ P.matches' → other.length ≤ front.length) :
    withoutLongest P (front ++ back) = back := by
  have greatest : Nat.findGreatest (fun n => P.rmatch ((front ++ back).take n) = true) (front ++ back).length = front.length := by
    rw [Nat.findGreatest_eq_iff]
    refine ⟨?_,?_,?_⟩
    · rw [List.length_append]
      exact Nat.le_add_right _ _
    · intro _
      rw [List.take_left,rmatch_iff_matches']
      exact matched
    · intro n beyond within reaches
      have short := longest _ _ (List.take_append_drop n (front ++ back)).symm ((rmatch_iff_matches' P _).mp reaches)
      rw [List.length_take] at short
      omega
  unfold withoutLongest
  rw [greatest,List.drop_left]

theorem takeWhile_front {front back : List α} (all : ∀ x ∈ front, x ∈ members) (ended : ∀ x ∈ back.head?, x ∉ members) :
    (front ++ back).takeWhile (fun x => decide (x ∈ members)) = front := by
  rw [List.takeWhile_append_of_pos (fun x present => decide_eq_true (all x present))]
  cases back with
  | nil => exact List.append_nil front
  | cons x back =>
    have stops : decide (x ∈ members) = false := decide_eq_false (ended x rfl)
    rw [List.takeWhile_cons,stops]
    exact List.append_nil front

theorem front_longest {front back other more : List α} (same : front ++ back = other ++ more) (all : ∀ x ∈ other, x ∈ members)
    (all' : ∀ x ∈ front, x ∈ members) (ended : ∀ x ∈ back.head?, x ∉ members) : other.length ≤ front.length := by
  have taken := takeWhile_front all' ended
  rw [same,List.takeWhile_append_of_pos (fun x present => decide_eq_true (all x present))] at taken
  rw [← taken,List.length_append]
  exact Nat.le_add_right _ _

theorem begins_keyed : begins (keyed spaces keyword) xs = true ↔ ∃ value, Names spaces keyword xs value := by
  rw [begins_iff]
  constructor
  · intro ⟨front,back,whole,matched⟩
    obtain ⟨before,gap,same,leading,filled,trailing⟩ := mem_keyed.mp matched
    refine ⟨back.dropWhile (fun x => decide (x ∈ spaces)),before,gap ++ back.takeWhile (fun x => decide (x ∈ spaces)),?_,leading,?_,?_,?_⟩
    · rw [whole,same,List.append_assoc gap,List.takeWhile_append_dropWhile,List.append_assoc]
    · exact List.append_ne_nil_of_left_ne_nil filled _
    · refine List.forall_mem_append.mpr ⟨trailing,?_⟩
      intro x within
      exact of_decide_eq_true (List.mem_takeWhile_imp (p:=fun y => decide (y ∈ spaces)) within)
    · intro x first
      have stops := List.head?_dropWhile_not (fun x => decide (x ∈ spaces)) back
      rw [Option.mem_def.mp first] at stops
      exact of_decide_eq_false stops
  · intro ⟨value,before,gap,whole,leading,filled,trailing,_⟩
    refine ⟨before ++ keyword ++ gap,value,?_,mem_keyed.mpr ⟨before,gap,rfl,leading,filled,trailing⟩⟩
    rw [whole,List.append_assoc,List.append_assoc,List.append_assoc]

theorem begins_congr {first second : List α} (agree : ∀ x ∈ xs, x ∈ first ↔ x ∈ second) :
    begins (keyed first keyword) xs = begins (keyed second keyword) xs := by
  rw [Bool.eq_iff_iff,begins_keyed,begins_keyed]
  exact exists_congr (names_congr agree)

theorem names_withoutLongest {line value : List α} (visible : ∀ x ∈ keyword.head?, x ∉ spaces) (named : keyword ≠ [])
    (names : Names spaces keyword line value) : withoutLongest (keyed spaces keyword) line = value := by
  obtain ⟨before,gap,whole,leading,filled,trailing,ended⟩ := names
  have start (rest : List α) : ∀ x ∈ (keyword ++ rest).head?, x ∉ spaces := by
    rw [List.head?_append_of_ne_nil keyword named]
    exact visible
  rw [whole,← List.append_assoc]
  apply withoutLongest_append
  · exact mem_keyed.mpr ⟨before,gap,rfl,leading,filled,trailing⟩
  · intro other more same matched
    obtain ⟨before',gap',joined,leading',_,trailing'⟩ := mem_keyed.mp matched
    have lined : before ++ (keyword ++ (gap ++ value)) = before' ++ (keyword ++ (gap' ++ more)) := by
      rw [joined] at same
      simpa only [List.append_assoc] using same
    have equal : before = before' := by
      rw [← takeWhile_front leading (start (gap ++ value)),lined,takeWhile_front leading' (start (gap' ++ more))]
    rw [← equal] at lined joined
    have behind : gap ++ value = gap' ++ more := List.append_cancel_left (List.append_cancel_left lined)
    have shorter := front_longest behind trailing' trailing ended
    rw [joined]
    simp only [List.length_append]
    omega

end Patterns

end Library
