import BbAuth.AssuanCodec
import BbAuth.Library.Utf

open Library Library.Utf
namespace BbAuth

namespace AssuanCodec

-- One byte of an encoded text.
inductive Piece where
  | raw (b : UInt8)
  | escape (high low : UInt8)
  deriving DecidableEq, Repr

namespace Piece

def bytes : Piece → List UInt8
  | raw b => [b]
  | escape high low => [percent.toUInt8,high,low]

def value (high low : UInt8) : Option Nat :=
  match hexDigit high.toUInt16,hexDigit low.toUInt16 with
  | some a,some b => some (16 * a + b)
  | _,_ => none

-- The byte that is encoded, which is written as it is only if it is no percent sign.
def denotes : Piece → Option UInt8
  | raw b => if b = percent.toUInt8 then none else some b
  | escape high low => (value high low).map UInt8.ofNat

-- An escaped byte that is not ASCII.
def Wide : Piece → Prop
  | raw _ => False
  | escape high low => ∃ code ∈ value high low, 0x80 ≤ code

end Piece

def Encodes (e : List Piece) (t : List Char) : Prop := e.map Piece.denotes = (utf8 t).map some

-- The encoded text as the process gets it: a byte order mark is left out only at
-- the start of a line, where the command stands.
def received (e : List Piece) : QString := fromUtf8 (e.flatMap Piece.bytes)

theorem digitValue_bounds (digit : digitValue c = some a) : 0x30 ≤ c.toNat ∧ c.toNat ≤ 0x39 ∧ a < 10 := by
  unfold digitValue at digit
  split at digit
  · next inside =>
    cases digit
    have low : 0x30 ≤ c.toNat := UInt16.le_iff_toNat_le.mp inside.1
    have high : c.toNat ≤ 0x39 := UInt16.le_iff_toNat_le.mp inside.2
    omega
  · cases digit

theorem hexDigit_bounds (digit : hexDigit c = some a) : 0x30 ≤ c.toNat ∧ c.toNat ≤ 0x66 ∧ a < 16 := by
  unfold hexDigit at digit
  split at digit
  · next inside =>
    cases digit
    have low : 0x41 ≤ c.toNat := UInt16.le_iff_toNat_le.mp inside.1
    have high : c.toNat ≤ 0x46 := UInt16.le_iff_toNat_le.mp inside.2
    omega
  · split at digit
    · next inside =>
      cases digit
      have low : 0x61 ≤ c.toNat := UInt16.le_iff_toNat_le.mp inside.1
      have high : c.toNat ≤ 0x66 := UInt16.le_iff_toNat_le.mp inside.2
      omega
    · have bounds := digitValue_bounds digit
      omega

theorem isSpace_inside (low : 0x30 ≤ c.toNat) (high : c.toNat ≤ 0x66) : isSpace c = false := by
  simp only [isSpace,Bool.or_eq_false_iff,Bool.and_eq_false_iff,decide_eq_false_iff_not,UInt16.le_iff_toNat_le,← UInt16.toNat_inj]
  simp
  omega

theorem assuanDecode_step (c h l : QChar) (rest : QString) : assuanDecode (c :: h :: l :: rest) =
    if c = percent then
      match toInt16 [h,l] with
      | some code => ofCode code :: assuanDecode rest
      | none => c :: assuanDecode (h :: l :: rest)
    else c :: assuanDecode (h :: l :: rest) := by
  delta assuanDecode
  rfl

theorem assuanDecode_other (other : c ≠ percent) (rest : QString) : assuanDecode (c :: rest) = c :: assuanDecode rest := by
  match rest with
  | [] => rfl
  | [h] => rfl
  | h :: l :: more => rw [assuanDecode_step,if_neg other]

theorem assuanDecode_code (accepted : toInt16 [h,l] = some code) (rest : QString) :
    assuanDecode (percent :: h :: l :: rest) = ofCode code :: assuanDecode rest := by
  rw [assuanDecode_step,if_pos rfl,accepted]

theorem assuanDecode_literal (refused : toInt16 [h,l] = none) (rest : QString) :
    assuanDecode (percent :: h :: l :: rest) = percent :: assuanDecode (h :: l :: rest) := by
  rw [assuanDecode_step,if_pos rfl,refused]

theorem hexDigit_plain (digit : hexDigit c = some a) : isSpace c = false ∧ c ≠ 0x2D ∧ c ≠ 0x2B ∧ c ≠ percent := by
  obtain ⟨low,high,_⟩ := hexDigit_bounds digit
  refine ⟨isSpace_inside low high,?_,?_,?_⟩
  · rintro rfl
    exact absurd low (by decide)
  · rintro rfl
    exact absurd low (by decide)
  · rintro rfl
    exact absurd low (by decide)

theorem toInt16_digits (first : hexDigit h = some a) (second : hexDigit l = some b) : toInt16 [h,l] = some ((16 * a + b : Nat) : Int) := by
  obtain ⟨visible,minus,plus,_⟩ := hexDigit_plain first
  obtain ⟨last_visible,_⟩ := hexDigit_plain second
  have whole : trimmed [h,l] = [h,l] := by
    simp [trimmed,visible,last_visible]
  unfold toInt16
  rw [whole]
  simp only [minus,plus,if_false]
  simp [hexNumber,first,second]

theorem dropWhile_keeps {s : QString} (visible : isSpace c = false) (present : c ∈ s) : c ∈ s.dropWhile isSpace := by
  induction s with
  | nil => cases present
  | cons first rest ih =>
    rw [List.dropWhile_cons]
    split
    · next blank =>
      apply ih
      rcases List.mem_cons.mp present with same | later
      · rw [same,blank] at visible
        cases visible
      · exact later
    · exact present

theorem trimmed_keeps {s : QString} (visible : isSpace c = false) (present : c ∈ s) : c ∈ trimmed s := by
  unfold trimmed
  apply List.mem_reverse.mpr
  apply dropWhile_keeps visible
  apply List.mem_reverse.mpr
  exact dropWhile_keeps visible present

theorem foldlM_undigit {s : QString} (undigit : hexDigit c = none) (present : c ∈ s) (value : Nat) :
    s.foldlM (fun value c => (hexDigit c).map (16 * value + ·)) value = none := by
  induction s generalizing value with
  | nil => cases present
  | cons first rest ih =>
    rw [List.foldlM_cons]
    rcases List.mem_cons.mp present with same | later
    · rw [← same,undigit]
      rfl
    · cases hexDigit first with
      | none => rfl
      | some digit => exact ih later _

theorem hexNumber_undigit {s : QString} (undigit : hexDigit c = none) (present : c ∈ s) : hexNumber s = none := by
  unfold hexNumber
  split
  · rfl
  · exact foldlM_undigit undigit present 0

theorem toInt16_percent {s : QString} (present : percent ∈ s) : toInt16 s = none := by
  have undigit : hexDigit percent = none := by decide
  have kept : percent ∈ trimmed s := trimmed_keeps (by decide) present
  unfold toInt16
  cases whole : trimmed s with
  | nil => rfl
  | cons c digits =>
    rw [whole] at kept
    -- Behind a sign the percent sign is among the digits.
    have signed (sign : c ≠ percent) : hexNumber digits = none :=
      hexNumber_undigit undigit ((List.mem_cons.mp kept).resolve_left (Ne.symm sign))
    simp only
    split
    · next minus =>
      rw [signed (by rw [minus]; decide)]
      rfl
    · split
      · next plus =>
        rw [signed (by rw [plus]; decide)]
        rfl
      · rw [hexNumber_undigit undigit kept]
        rfl

theorem accepted_plain (accepted : toInt16 [h,l] = some code) : h ≠ percent ∧ l ≠ percent := by
  constructor
  · rintro rfl
    rw [toInt16_percent List.mem_cons_self] at accepted
    cases accepted
  · rintro rfl
    rw [toInt16_percent (List.mem_cons_of_mem h List.mem_cons_self)] at accepted
    cases accepted

-- A percent sign never belongs to an escape that began before it.
theorem assuanDecode_append (before after : QString) :
    assuanDecode (before ++ percent :: after) = assuanDecode before ++ assuanDecode (percent :: after) := by
  fun_induction assuanDecode before with
  | case1 h l rest code accepted ih =>
    rw [List.cons_append,List.cons_append,List.cons_append,assuanDecode_code accepted,ih]
    rfl
  | case2 h l rest refused ih =>
    rw [List.cons_append,List.cons_append,List.cons_append,assuanDecode_literal refused]
    rw [List.cons_append,List.cons_append] at ih
    rw [ih]
    rfl
  | case3 c h l rest other ih =>
    rw [List.cons_append,assuanDecode_other other,ih]
    rfl
  | case4 c rest short ih =>
    rw [List.cons_append]
    by_cases other : c = percent
    · subst other
      cases rest with
      | nil =>
        cases after with
        | nil => rfl
        | cons l more => exact assuanDecode_literal (toInt16_percent List.mem_cons_self) more
      | cons d rest =>
        cases rest with
        | nil =>
          rw [List.cons_append,List.nil_append,assuanDecode_literal (toInt16_percent (List.mem_cons_of_mem d List.mem_cons_self))]
          rw [List.cons_append,List.nil_append] at ih
          rw [ih]
          rfl
        | cons l rest => exact False.elim (short d l rest rfl)
    · rw [assuanDecode_other other,ih]
      rfl
  | case5 => rfl

def twoDigits : QString → Bool
  | h :: l :: _ => (hexDigit h).isSome && (hexDigit l).isSome
  | _ => false

-- What toInt reads as a number, digits or not.
def accepts : QString → Bool
  | h :: l :: _ => (toInt16 [h,l]).isSome
  | _ => false

-- A percent sign without two digits stays, and so does all that follows it.
def Literal (s : QString) : Prop :=
  ∀ before after, s = before ++ percent :: after → twoDigits after = false →
    assuanDecode s = assuanDecode before ++ percent :: assuanDecode after

theorem assuanDecode_percent_iff (after : QString) :
    assuanDecode (percent :: after) = percent :: assuanDecode after ↔ accepts after = false := by
  match after with
  | [] => exact ⟨fun _ => rfl,fun _ => rfl⟩
  | [h] => exact ⟨fun _ => rfl,fun _ => rfl⟩
  | h :: l :: rest =>
    have reads : accepts (h :: l :: rest) = (toInt16 [h,l]).isSome := rfl
    rw [reads]
    cases read : toInt16 [h,l] with
    | none => exact ⟨fun _ => rfl,fun _ => assuanDecode_literal read rest⟩
    | some code =>
      obtain ⟨first,second⟩ := accepted_plain read
      constructor
      · intro same
        rw [assuanDecode_code read,assuanDecode_other first,assuanDecode_other second] at same
        have lengths := congrArg List.length same
        simp only [List.length_cons] at lengths
        omega
      · intro refused
        cases refused

theorem literal_iff (s : QString) : Literal s ↔
    ∀ before after, s = before ++ percent :: after → twoDigits after = false → accepts after = false := by
  have here (before after : QString) (split : s = before ++ percent :: after) :
      assuanDecode s = assuanDecode before ++ percent :: assuanDecode after ↔ accepts after = false := by
    rw [split,assuanDecode_append,List.append_cancel_left_eq]
    exact assuanDecode_percent_iff after
  constructor
  · intro literal before after split stray
    exact (here before after split).mp (literal before after split stray)
  · intro refused before after split stray
    exact (here before after split).mpr (refused before after split stray)

theorem value_parts {high low : UInt8} (read : Piece.value high low = some code) :
    ∃ a b, hexDigit high.toUInt16 = some a ∧ hexDigit low.toUInt16 = some b ∧ code = 16 * a + b ∧ code < 0x100 := by
  unfold Piece.value at read
  cases first : hexDigit high.toUInt16 with
  | none =>
    rw [first] at read
    cases read
  | some a =>
    cases second : hexDigit low.toUInt16 with
    | none =>
      rw [first,second] at read
      cases read
    | some b =>
      rw [first,second] at read
      cases read
      have upper := (hexDigit_bounds first).2.2
      have lower := (hexDigit_bounds second).2.2
      exact ⟨a,b,rfl,rfl,rfl,by omega⟩

theorem digit_low {b : UInt8} (digit : hexDigit b.toUInt16 = some a) : b.toNat < 0x80 := by
  obtain ⟨_,high,_⟩ := hexDigit_bounds digit
  rw [UInt8.toNat_toUInt16] at high
  omega

theorem decode_escape {high low : UInt8} (read : Piece.value high low = some code) (rest : List UInt8) :
    assuanDecode (fromUtf8 ((Piece.escape high low).bytes ++ rest)) = UInt16.ofNat code :: assuanDecode (fromUtf8 rest) := by
  obtain ⟨a,b,first,second,same,small⟩ := value_parts read
  change assuanDecode (fromUtf8 (percent.toUInt8 :: high :: low :: rest)) = _
  rw [fromUtf8_ascii (by decide),fromUtf8_ascii (digit_low first),fromUtf8_ascii (digit_low second)]
  have accepted := toInt16_digits first second
  rw [← same] at accepted
  apply (assuanDecode_code accepted _).trans
  have char : ofCode (code : Int) = UInt16.ofNat code := by
    unfold ofCode
    change UInt16.ofNat ((code : Int) % 0x10000).toNat = UInt16.ofNat code
    congr 1
    omega
  rw [char]

theorem decode_units (other : c.toNat ≠ 0x25) (s : QString) : assuanDecode (units c ++ s) = units c ++ assuanDecode s := by
  have unit_other {n : Nat} (small : n < 0x10000) (other : n ≠ 0x25) : UInt16.ofNat n ≠ percent := by
    intro same
    have value : (UInt16.ofNat n).toNat = n := UInt16.toNat_ofNat_of_lt small
    rw [same] at value
    exact other value.symm
  unfold units
  split
  · next low =>
    rw [List.cons_append,assuanDecode_other (unit_other low other)]
    rfl
  · next high =>
    have valid : c.toNat < 0xD800 ∨ 0xDFFF < c.toNat ∧ c.toNat < 0x110000 := c.valid
    rw [List.cons_append,List.cons_append,assuanDecode_other (unit_other (by omega) (by omega)),
      assuanDecode_other (unit_other (by omega) (by omega))]
    rfl

-- Bytes that are not ASCII can only be written as they are.
theorem raw_of_prefix {xs rest : List UInt8} {e : List Piece} (whole : e.flatMap Piece.bytes = xs ++ rest)
    (wide : ∀ b ∈ xs, 0x80 ≤ b.toNat) : ∃ later, e = xs.map Piece.raw ++ later ∧ later.flatMap Piece.bytes = rest := by
  induction xs generalizing e with
  | nil => exact ⟨e,rfl,whole⟩
  | cons b xs ih =>
    obtain ⟨here,others⟩ := List.forall_mem_cons.mp wide
    cases e with
    | nil => cases whole
    | cons piece e =>
      cases piece with
      | raw d =>
        obtain ⟨same,tail⟩ := List.cons.inj whole
        change d = b at same
        obtain ⟨later,split,left⟩ := ih tail others
        exact ⟨later,by rw [same,split]; rfl,left⟩
      | escape high low =>
        have same : percent.toUInt8 = b := (List.cons.inj whole).1
        rw [← same] at here
        exact absurd here (by decide)

-- The characters weigh at least as much as the pieces, and more if one of them is
-- wide.
def Bounded (e : List Piece) (s : QString) : Prop :=
  e.length ≤ weights s ∧ ((∃ piece ∈ e, piece.Wide) → e.length < weights s)

theorem Bounded.append (front : Bounded e s) (back : Bounded e' s') : Bounded (e ++ e') (s ++ s') := by
  obtain ⟨least,more⟩ := front
  obtain ⟨later_least,later_more⟩ := back
  unfold Bounded
  rw [List.length_append,weights_append]
  refine ⟨by omega,?_⟩
  rintro ⟨piece,present,wide⟩
  rcases List.mem_append.mp present with early | late
  · have strict := more ⟨piece,early,wide⟩
    omega
  · have strict := later_more ⟨piece,late,wide⟩
    omega

theorem bounded_nil : Bounded [] [] := ⟨Nat.zero_le _,nofun⟩

theorem bounded_raw (bytes : List UInt8) (enough : bytes.length ≤ weights s) : Bounded (bytes.map Piece.raw) s := by
  refine ⟨by rwa [List.length_map],?_⟩
  rintro ⟨piece,present,wide⟩
  obtain ⟨b,_,same⟩ := List.mem_map.mp present
  subst same
  cases wide

theorem bounded_escape {high low : UInt8} (read : Piece.value high low = some code) :
    Bounded [.escape high low] [UInt16.ofNat code] := by
  obtain ⟨_,_,_,_,_,small⟩ := value_parts read
  have weighs := weight_ofNat (n := code) (by omega)
  unfold Bounded
  rw [weights_cons,weighs]
  constructor
  · change 1 ≤ _ + 0
    split
    · decide
    · split
      · decide
      · split <;> decide
  · rintro ⟨piece,present,wide⟩
    rw [List.mem_singleton] at present
    subst present
    obtain ⟨_,same,beyond⟩ := wide
    rw [read] at same
    cases same
    change 1 < _ + 0
    rw [if_neg (Nat.not_lt_of_le beyond),if_pos (by omega)]
    decide

theorem denotes_escape {high low : UInt8} (denoted : (Piece.escape high low).denotes = some b) :
    ∃ code, Piece.value high low = some code ∧ UInt8.ofNat code = b := by
  exact Option.map_eq_some_iff.mp denoted

theorem denotes_raw (denoted : (Piece.raw d).denotes = some b) : d = b ∧ b ≠ percent.toUInt8 := by
  change (if d = percent.toUInt8 then none else some d) = some b at denoted
  split at denoted
  · cases denoted
  · next other =>
    cases denoted
    exact ⟨rfl,other⟩

theorem first_raw {b : UInt8} {rest : List Piece} (starts : first (b :: rest.flatMap Piece.bytes) = some c) (other : b ≠ percent.toUInt8) :
    c.toNat ≠ 0x25 ∧ ∃ later, Piece.raw b :: rest = (String.utf8EncodeChar c).map Piece.raw ++ later := by
  obtain ⟨left,whole⟩ := first_prefix starts
  rcases bytes_cases c with ⟨single,low⟩ | ⟨high,wide⟩
  · rw [single] at whole ⊢
    have same := (List.cons.inj whole).1
    refine ⟨?_,rest,by rw [same]; rfl⟩
    intro sign
    rw [sign] at same
    exact other same
  · obtain ⟨later,split,_⟩ := raw_of_prefix (e := .raw b :: rest) whole wide
    exact ⟨by omega,later,split⟩

theorem flatMap_raw (bytes : List UInt8) : (bytes.map Piece.raw).flatMap Piece.bytes = bytes := by
  induction bytes with
  | nil => rfl
  | cons b rest ih => exact congrArg (b :: ·) ih

theorem decode_raw (other : c.toNat ≠ 0x25) (later : List Piece) :
    assuanDecode (received ((String.utf8EncodeChar c).map Piece.raw ++ later)) = units c ++ assuanDecode (received later) := by
  unfold received
  rw [List.flatMap_append,flatMap_raw,fromUtf8_char,decode_units other]

theorem decode_bounded (e : List Piece) (denoted : ∀ piece ∈ e, piece.denotes ≠ none) :
    Bounded e (assuanDecode (received e)) := by
  induction size : e.length using Nat.strong_induction_on generalizing e with
  | _ size ih =>
  subst size
  cases e with
  | nil => exact bounded_nil
  | cons piece rest =>
    obtain ⟨here,others⟩ := List.forall_mem_cons.mp denoted
    obtain ⟨b,denotes⟩ := Option.ne_none_iff_exists'.mp here
    cases piece with
    | escape high low =>
      obtain ⟨code,read,_⟩ := denotes_escape denotes
      have later := ih rest.length (Nat.lt_succ_self _) rest others rfl
      have decoded : assuanDecode (received (.escape high low :: rest)) = [UInt16.ofNat code] ++ assuanDecode (received rest) :=
        decode_escape read (rest.flatMap Piece.bytes)
      rw [decoded]
      exact (bounded_escape read).append later
    | raw d =>
      obtain ⟨same,other⟩ := denotes_raw denotes
      subst same
      cases starts : first (d :: rest.flatMap Piece.bytes) with
      | none =>
        have later := ih rest.length (Nat.lt_succ_self _) rest others rfl
        have decoded : assuanDecode (received (.raw d :: rest)) = [0xFFFD] ++ assuanDecode (received rest) := by
          unfold received
          change assuanDecode (fromUtf8 (d :: rest.flatMap Piece.bytes)) = _
          rw [fromUtf8_invalid starts,assuanDecode_other (by decide)]
          rfl
        have replacement : 1 ≤ weights [0xFFFD] := by decide
        rw [decoded]
        exact (bounded_raw [d] replacement).append later
      | some c =>
        obtain ⟨sign,later,split⟩ := first_raw starts other
        have shorter : later.length < (Piece.raw d :: rest).length := by
          have positive := List.length_pos_iff.mpr (String.utf8EncodeChar_ne_nil (c := c))
          rw [split,List.length_append,List.length_map]
          omega
        have tail := ih later.length shorter later
          (fun piece present => denoted piece (by rw [split]; exact List.mem_append_right _ present)) rfl
        rw [split,decode_raw sign]
        exact (bounded_raw _ (le_of_eq (weights_units c).symm)).append tail

theorem escape_code {high low : UInt8} (denoted : (Piece.escape high low).denotes = some b) :
    ∃ code, Piece.value high low = some code ∧ code = b.toNat := by
  obtain ⟨code,read,same⟩ := denotes_escape denoted
  obtain ⟨_,_,_,_,_,small⟩ := value_parts read
  have value : (UInt8.ofNat code).toNat = code := UInt8.toNat_ofNat_of_lt small
  exact ⟨code,read,by rw [← same,value]⟩

theorem raw_of_narrow {bytes : List UInt8} {front : List Piece} (encodes : front.map Piece.denotes = bytes.map some)
    (wide : ∀ b ∈ bytes, 0x80 ≤ b.toNat) (narrow : ∀ piece ∈ front, ¬piece.Wide) : front = bytes.map Piece.raw := by
  induction bytes generalizing front with
  | nil => exact List.map_eq_nil_iff.mp encodes
  | cons b bytes ih =>
    obtain ⟨piece,rest,split,denoted,others⟩ := List.map_eq_cons_iff.mp encodes
    subst split
    obtain ⟨here,later⟩ := List.forall_mem_cons.mp wide
    obtain ⟨first_narrow,rest_narrow⟩ := List.forall_mem_cons.mp narrow
    rw [ih others later rest_narrow]
    cases piece with
    | raw d =>
      rw [(denotes_raw denoted).1]
      rfl
    | escape high low =>
      obtain ⟨code,read,same⟩ := escape_code denoted
      exact absurd ⟨code,read,same ▸ here⟩ first_narrow

theorem decode_front (encodes : front.map Piece.denotes = (String.utf8EncodeChar c).map some)
    (narrow : ∀ piece ∈ front, ¬piece.Wide) (later : List Piece) :
    assuanDecode (received (front ++ later)) = units c ++ assuanDecode (received later) := by
  rcases bytes_cases c with ⟨single,low⟩ | ⟨high,wide⟩
  · rw [single] at encodes
    obtain ⟨piece,rest,split,denoted,others⟩ := List.map_eq_cons_iff.mp encodes
    subst split
    rw [List.map_eq_nil_iff.mp others]
    have value : (UInt8.ofNat c.toNat).toNat = c.toNat := UInt8.toNat_ofNat_of_lt (Nat.lt_trans low (by decide))
    cases piece with
    | raw d =>
      obtain ⟨same,other⟩ := denotes_raw denoted
      have sign : c.toNat ≠ 0x25 := by
        intro sign
        rw [sign] at other
        exact other rfl
      have decoded := decode_raw sign later
      rw [single] at decoded
      rw [same]
      exact decoded
    | escape high low =>
      obtain ⟨code,read,same⟩ := escape_code denoted
      rw [value] at same
      subst same
      rw [units_low (by omega)]
      exact decode_escape read (later.flatMap Piece.bytes)
  · rw [raw_of_narrow encodes wide narrow]
    exact decode_raw (by omega) later

theorem decode_encoded (encodes : Encodes e t) (narrow : ∀ piece ∈ e, ¬piece.Wide) : assuanDecode (received e) = utf16 t := by
  induction t generalizing e with
  | nil =>
    have empty : e = [] := List.map_eq_nil_iff.mp encodes
    rw [empty]
    rfl
  | cons c t ih =>
    unfold Encodes utf8 at encodes
    rw [List.flatMap_cons,List.map_append] at encodes
    obtain ⟨front,later,split,front_encodes,later_encodes⟩ := List.map_eq_append_iff.mp encodes
    subst split
    obtain ⟨front_narrow,later_narrow⟩ := List.forall_mem_append.mp narrow
    have tail := ih later_encodes later_narrow
    rw [decode_front front_encodes front_narrow later,tail]
    rfl

-- A wide escape makes the result weigh more than the text.
theorem encoded_iff (encodes : Encodes e t) : assuanDecode (received e) = utf16 t ↔ ∀ piece ∈ e, ¬piece.Wide := by
  refine ⟨?_,decode_encoded encodes⟩
  intro decoded piece present wide
  have denoted : ∀ piece ∈ e, piece.denotes ≠ none := by
    intro piece present nothing
    have listed := List.mem_map_of_mem (f := Piece.denotes) present
    rw [encodes,nothing] at listed
    obtain ⟨b,_,same⟩ := List.mem_map.mp listed
    cases same
  have heavier := (decode_bounded e denoted).2 ⟨piece,present,wide⟩
  have lengths := congrArg List.length encodes
  rw [List.length_map,List.length_map] at lengths
  rw [decoded,weights_utf16] at heavier
  omega

-- A text comes out of its encoding exactly when no escape in it is wide, and a
-- percent sign without two digits stays exactly when toInt does not accept what
-- follows it.
theorem percent_decoding_iff (t : List Char) (e : List Piece) (s : QString) :
    (Encodes e t → (assuanDecode (received e) = utf16 t ↔ ∀ piece ∈ e, ¬piece.Wide)) ∧
    (Literal s ↔ ∀ before after, s = before ++ percent :: after → twoDigits after = false → accepts after = false) :=
  ⟨encoded_iff,literal_iff s⟩

instance (e : List Piece) (t : List Char) : Decidable (Encodes e t) := inferInstanceAs (Decidable (_ = _))

-- The first two of three characters are escaped.
theorem percent_decoding_ascii :
    assuanDecode (received [.escape 0x36 0x31,.escape 0x32 0x35,.raw 0x6B]) = utf16 ['a','%','k'] ↔
      ∀ piece ∈ [Piece.escape 0x36 0x31,.escape 0x32 0x35,.raw 0x6B], ¬piece.Wide :=
  (percent_decoding_iff ['a','%','k'] [.escape 0x36 0x31,.escape 0x32 0x35,.raw 0x6B] []).1 (by decide)

-- The letter that %C3%A9 encodes, and a sign that %+5 takes for a digit.
theorem percent_decoding_letter :
    (¬∀ t e, Encodes e t → assuanDecode (received e) = utf16 t) ∧ ¬∀ s, Literal s := by
  constructor
  · intro decoded
    have encodes : Encodes [.escape 0x43 0x33,.escape 0x41 0x39] ['é'] := by decide
    apply (encoded_iff encodes).mp (decoded ['é'] [.escape 0x43 0x33,.escape 0x41 0x39] encodes) (.escape 0x43 0x33) List.mem_cons_self
    exact ⟨0xC3,rfl,by decide⟩
  · intro literal
    have kept := (literal_iff (text "%+5")).mp (literal (text "%+5")) [] (text "+5") rfl rfl
    exact absurd kept (by decide)

end AssuanCodec

end BbAuth
