import BbAuth.Qt
import BbAuth.Library.PercentEscape

open Library Library.PercentEscape
namespace BbAuth

namespace AssuanCodec

def percent : QChar := 0x25
def lineFeed : QChar := 0x0A
def carriageReturn : QChar := 0x0D

def isSpace (c : QChar) : Bool :=
  (0x09 ≤ c && c ≤ 0x0D) || c = 0x20 || c = 0x85 || c = 0xA0 || c = 0x1680 || (0x2000 ≤ c && c ≤ 0x200A) ||
    c = 0x2028 || c = 0x2029 || c = 0x202F || c = 0x205F || c = 0x3000

def trimmed (s : QString) : QString := ((s.dropWhile isSpace).reverse.dropWhile isSpace).reverse

def digitValue (c : QChar) : Option Nat := if 0x30 ≤ c ∧ c ≤ 0x39 then some (c.toNat - 0x30) else none

def hexDigit (c : QChar) : Option Nat :=
  if 0x41 ≤ c ∧ c ≤ 0x46 then some (c.toNat - 0x41 + 10)
  else if 0x61 ≤ c ∧ c ≤ 0x66 then some (c.toNat - 0x61 + 10)
  else digitValue c

def hexNumber (s : QString) : Option Nat :=
  if s.isEmpty then none else s.foldlM (fun value c => (hexDigit c).map (16 * value + ·)) 0

-- QString::toInt in base 16, of texts too short for a prefix or an overflow.
-- Spaces around the number and a sign are accepted.
def toInt16 (s : QString) : Option Int :=
  match trimmed s with
  | [] => none
  | c :: digits =>
    if c = 0x2D then (hexNumber digits).map (fun value => -(value : Int))
    else if c = 0x2B then (hexNumber digits).map Int.ofNat
    else (hexNumber (c :: digits)).map Int.ofNat

def ofCode (code : Int) : QChar := UInt16.ofNat (code.emod 0x10000).toNat

-- The place marker that follows a percent sign: its number and how long it is.
def placeMarker : QString → Option (Nat × Nat)
  | c :: rest =>
    match digitValue c,(rest.head?.bind digitValue) with
    | none,_ => none
    | some high,some low => if 10 * high + low = 0 then none else some (10 * high + low,2)
    | some number,none => if number = 0 then none else some (number,1)
  | [] => none

def placeMarkers : QString → List Nat
  | [] => []
  | c :: rest => ((if c = percent then placeMarker rest else none).map Prod.fst).toList ++ placeMarkers rest

-- The value takes the place of every marker of that number, the first argument
-- counts what is left of a marker that was replaced.
def replaceMarker (number : Nat) (value : QString) : Nat → QString → QString
  | _,[] => []
  | left + 1,_ :: rest => replaceMarker number value left rest
  | 0,c :: rest =>
    match if c = percent then placeMarker rest else none with
    | none => c :: replaceMarker number value 0 rest
    | some (found,length) =>
      if found = number then value ++ replaceMarker number value length rest
      else c :: replaceMarker number value 0 rest

-- QString::arg: only the lowest place markers are replaced, and every other
-- percent sign stays.
def arg (pattern value : QString) : QString :=
  match (placeMarkers pattern).min? with
  | none => pattern
  | some number => replaceMarker number value 0 pattern

def padded (digits : QString) (fieldWidth : Nat) (fillChar : QChar) : QString :=
  List.replicate (fieldWidth - digits.length) fillChar ++ digits

def number16 (value : Nat) : QString := text (String.ofList (Nat.toDigits 16 value))

def toLatin1 (ch : QChar) : UInt8 := if ch ≤ 0xFF then ch.toUInt8 else 0

def escaped (c : UInt8) : Bool := c = percent.toUInt8 || c = lineFeed.toUInt8 || c = carriageReturn.toUInt8

def encodeChar (ch : QChar) : QString :=
  let c := toLatin1 ch
  if escaped c then toUpper (arg (text "%%%1") (padded (number16 c.toNat) 2 0x30)) else [ch]

def assuanEncode (input : QString) : QString := input.flatMap encodeChar

def assuanDecode : QString → QString
  | c :: h :: l :: rest =>
    if c = percent then
      match toInt16 [h,l] with
      | some code => ofCode code :: assuanDecode rest
      | none => c :: assuanDecode (h :: l :: rest)
    else c :: assuanDecode (h :: l :: rest)
  | c :: rest => c :: assuanDecode rest
  | [] => []

-- What the other end makes of a data line.
def denoted (data : QString) : Option QString := unescape percent hexDigit UInt16.ofNat data

-- The text arrives: on one line, as what its escapes denote, and through the
-- decoder of this program.
structure Arrives (s : QString) : Prop where
  oneLine : ∀ ch ∈ assuanEncode s, ch ≠ lineFeed ∧ ch ≠ carriageReturn
  denoted : denoted (assuanEncode s) = some s
  decoded : assuanDecode (assuanEncode s) = s

def special (ch : QChar) : Bool := ch = percent || ch = lineFeed || ch = carriageReturn

theorem toLatin1_eq {c : QChar} (positive : 0 < c.toNat) (low : c.toNat < 256) (ch : QChar) :
    toLatin1 ch = c.toUInt8 ↔ ch = c := by
  rw [← UInt8.toNat_inj,← UInt16.toNat_inj,UInt16.toNat_toUInt8]
  unfold toLatin1
  split
  · next fits =>
    have fits : ch.toNat ≤ 255 := UInt16.le_iff_toNat_le.mp fits
    rw [UInt16.toNat_toUInt8]
    omega
  · next wide =>
    have wide : ¬ch.toNat ≤ 255 := fun fits => wide (UInt16.le_iff_toNat_le.mpr fits)
    have zero : (0 : UInt8).toNat = 0 := rfl
    rw [zero]
    omega

theorem escaped_toLatin1 (ch : QChar) : escaped (toLatin1 ch) = special ch := by
  have each (c : QChar) (positive : 0 < c.toNat) (low : c.toNat < 256) :
      decide (toLatin1 ch = c.toUInt8) = decide (ch = c) := decide_eq_decide.mpr (toLatin1_eq positive low ch)
  unfold escaped special
  rw [each percent (by decide) (by decide),each lineFeed (by decide) (by decide),
    each carriageReturn (by decide) (by decide)]

theorem encodeChar_plain (plain : special ch = false) : encodeChar ch = [ch] := by
  unfold encodeChar
  simp only
  rw [escaped_toLatin1,plain]
  rfl

-- Two percent signs come before the digits: the pattern has two of them in front
-- of its place marker, and arg knows no escape for a percent sign.
theorem encodeChar_special (held : special ch = true) :
    ∃ high low, encodeChar ch = [percent,percent,high,low] := by
  simp only [special,Bool.or_eq_true,decide_eq_true_eq] at held
  rcases held with (rfl | rfl) | rfl
  · exact ⟨_,_,(by decide : encodeChar percent = text "%%25")⟩
  · exact ⟨_,_,(by decide : encodeChar lineFeed = text "%%0A")⟩
  · exact ⟨_,_,(by decide : encodeChar carriageReturn = text "%%0D")⟩

theorem assuanEncode_cons (ch : QChar) (rest : QString) : assuanEncode (ch :: rest) = encodeChar ch ++ assuanEncode rest :=
  List.flatMap_cons

theorem assuanEncode_plain (plain : ∀ ch ∈ s, special ch = false) : assuanEncode s = s := by
  induction s with
  | nil => rfl
  | cons ch rest ih =>
    rw [assuanEncode_cons,encodeChar_plain (plain ch List.mem_cons_self),
      ih (fun d later => plain d (List.mem_cons_of_mem ch later))]
    rfl

theorem assuanDecode_plain (plain : ∀ ch ∈ s, ch ≠ percent) : assuanDecode s = s := by
  fun_induction assuanDecode s with
  | case1 h l rest code found ih => exact absurd rfl (plain _ List.mem_cons_self)
  | case2 h l rest found ih => exact absurd rfl (plain _ List.mem_cons_self)
  | case3 c h l rest other ih => rw [ih (fun d later => plain d (List.mem_cons_of_mem c later))]
  | case4 c rest short ih => rw [ih (fun d later => plain d (List.mem_cons_of_mem c later))]
  | case5 => rfl

theorem denoted_assuanEncode (s : QString) :
    denoted (assuanEncode s) = if s.any special then none else some s := by
  induction s with
  | nil => rfl
  | cons ch rest ih =>
    rw [assuanEncode_cons,List.any_cons]
    cases held : special ch with
    | true =>
      obtain ⟨high,low,encoded⟩ := encodeChar_special held
      rw [encoded]
      exact unescape_stray (by decide) _
    | false =>
      have plain : ch ≠ percent := by rintro rfl; cases held
      rw [encodeChar_plain held]
      apply (unescape_cons plain _).trans
      change (denoted (assuanEncode rest)).map (ch :: ·) = _
      rw [ih]
      cases rest.any special <;> rfl

-- A text arrives exactly when it has no percent sign and no line ending.
theorem arrives_iff (s : QString) : Arrives s ↔ ∀ ch ∈ s, ch ≠ percent ∧ ch ≠ lineFeed ∧ ch ≠ carriageReturn := by
  have plain (ch : QChar) : special ch = false ↔ ch ≠ percent ∧ ch ≠ lineFeed ∧ ch ≠ carriageReturn := by
    simp [special,and_assoc]
  simp only [← plain]
  constructor
  · intro arrives
    have denoted := arrives.denoted
    rw [denoted_assuanEncode] at denoted
    split at denoted
    · cases denoted
    · next none => exact fun ch listed => Bool.eq_false_iff.mpr (fun held => none (List.any_eq_true.mpr ⟨ch,listed,held⟩))
  · intro none
    have same := assuanEncode_plain none
    have unmarked : ∀ ch ∈ s, ch ≠ percent := fun ch listed => ((plain ch).mp (none ch listed)).1
    constructor
    · rw [same]
      exact fun ch listed => ((plain ch).mp (none ch listed)).2
    · rw [same]
      exact unescape_plain unmarked
    · rw [same]
      exact assuanDecode_plain unmarked

-- The passphrase that is a percent sign.
theorem percent_doubled :
    assuanEncode (text "%") = text "%%25" ∧ assuanDecode (text "%%25") = text "%%" ∧ ¬Arrives (text "%") := by
  refine ⟨by decide,by decide,?_⟩
  intro arrives
  exact nomatch arrives.denoted.symm.trans (by decide : denoted (assuanEncode (text "%")) = none)

end AssuanCodec

end BbAuth
