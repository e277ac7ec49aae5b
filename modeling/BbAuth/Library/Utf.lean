import Mathlib.Algebra.GroupWithZero.Nat
import Mathlib.Data.List.Basic

namespace Library

namespace Utf

-- The UTF-16 code units of a character.
def units (c : Char) : List UInt16 :=
  if c.toNat < 0x10000 then [UInt16.ofNat c.toNat]
  else [UInt16.ofNat (0xD800 + (c.toNat - 0x10000) / 0x400),UInt16.ofNat (0xDC00 + (c.toNat - 0x10000) % 0x400)]

def utf16 (s : List Char) : List UInt16 := s.flatMap units

def utf8 (s : List Char) : List UInt8 := s.flatMap String.utf8EncodeChar

-- The character whose encoding comes first.
def first (bytes : List UInt8) : Option Char := bytes.toByteArray.utf8DecodeChar? 0

-- Decodes UTF-8 to UTF-16. A byte that starts no character becomes U+FFFD, the
-- number counts the bytes that belong to the character before.
def decode : Nat → List UInt8 → List UInt16
  | _,[] => []
  | left + 1,_ :: rest => decode left rest
  | 0,b :: rest =>
    match first (b :: rest) with
    | some c => units c ++ decode (c.utf8Size - 1) rest
    | none => 0xFFFD :: decode 0 rest

def fromUtf8 (bytes : List UInt8) : List UInt16 := decode 0 bytes

theorem first_append (c : Char) (rest : List UInt8) : first (String.utf8EncodeChar c ++ rest) = some c := by
  unfold first
  rw [List.toByteArray_append]
  exact ByteArray.utf8DecodeChar?_utf8EncodeChar_append

theorem first_prefix (starts : first bytes = some c) : ∃ rest, bytes = String.utf8EncodeChar c ++ rest := by
  obtain ⟨rest,same⟩ := ByteArray.exists_of_utf8DecodeChar?_eq_some starts
  refine ⟨rest.data.toList,?_⟩
  have lists := congrArg (fun array : ByteArray => array.data.toList) same
  simpa using lists

theorem decode_skip (xs rest : List UInt8) : decode xs.length (xs ++ rest) = decode 0 rest := by
  induction xs with
  | nil => rfl
  | cons x xs ih => exact ih

theorem fromUtf8_char (c : Char) (rest : List UInt8) : fromUtf8 (String.utf8EncodeChar c ++ rest) = units c ++ fromUtf8 rest := by
  have starts := first_append c rest
  have size := String.length_utf8EncodeChar c
  unfold fromUtf8
  cases bytes : String.utf8EncodeChar c with
  | nil => exact absurd bytes String.utf8EncodeChar_ne_nil
  | cons b more =>
    rw [bytes] at starts size
    have left : c.utf8Size - 1 = more.length := by
      rw [← size]
      rfl
    rw [List.cons_append] at starts ⊢
    rw [decode,starts]
    simp only [left,decode_skip]

theorem fromUtf8_invalid (starts : first (b :: rest) = none) : fromUtf8 (b :: rest) = 0xFFFD :: fromUtf8 rest := by
  unfold fromUtf8
  rw [decode,starts]

theorem toNat_or_ge (x y : UInt8) : y.toNat ≤ (x ||| y).toNat := by
  rw [UInt8.toNat_or]
  exact Nat.right_le_or

-- A character of one byte is that byte, and no other has a byte below 0x80.
theorem bytes_cases (c : Char) : String.utf8EncodeChar c = [UInt8.ofNat c.toNat] ∧ c.toNat < 0x80 ∨
    0x80 ≤ c.toNat ∧ ∀ b ∈ String.utf8EncodeChar c, 0x80 ≤ b.toNat := by
  rcases c.utf8Size_eq with size | size | size | size
  · have low : c.toNat ≤ 127 := UInt32.le_iff_toNat_le.mp (Char.utf8Size_eq_one_iff.mp size)
    refine .inl ⟨?_,Nat.lt_succ_of_le low⟩
    rw [String.utf8EncodeChar_eq_singleton size]
    rfl
  · have high : 127 < c.toNat := UInt32.lt_iff_toNat_lt.mp (Char.utf8Size_eq_two_iff.mp size).1
    refine .inr ⟨high,?_⟩
    rw [String.utf8EncodeChar_eq_cons_cons size]
    simp only [List.forall_mem_cons]
    exact ⟨Nat.le_trans (by decide) (toNat_or_ge _ 0xc0),toNat_or_ge _ 0x80,List.forall_mem_nil _⟩
  · have high : 0x7ff < c.toNat := UInt32.lt_iff_toNat_lt.mp (Char.utf8Size_eq_three_iff.mp size).1
    refine .inr ⟨by omega,?_⟩
    rw [String.utf8EncodeChar_eq_cons_cons_cons size]
    simp only [List.forall_mem_cons]
    exact ⟨Nat.le_trans (by decide) (toNat_or_ge _ 0xe0),toNat_or_ge _ 0x80,toNat_or_ge _ 0x80,List.forall_mem_nil _⟩
  · have high : 0xffff < c.toNat := UInt32.lt_iff_toNat_lt.mp (Char.utf8Size_eq_four_iff.mp size)
    refine .inr ⟨by omega,?_⟩
    rw [String.utf8EncodeChar_eq_cons_cons_cons_cons size]
    simp only [List.forall_mem_cons]
    exact ⟨Nat.le_trans (by decide) (toNat_or_ge _ 0xf0),toNat_or_ge _ 0x80,toNat_or_ge _ 0x80,toNat_or_ge _ 0x80,
      List.forall_mem_nil _⟩

theorem units_low (low : c.toNat < 0x10000) : units c = [UInt16.ofNat c.toNat] := if_pos low

theorem fromUtf8_ascii {b : UInt8} (low : b.toNat < 0x80) (rest : List UInt8) :
    fromUtf8 (b :: rest) = b.toUInt16 :: fromUtf8 rest := by
  have valid : b.toUInt32.isValidChar := by
    refine .inl ?_
    rw [UInt8.toNat_toUInt32]
    omega
  have value : Char.toNat ⟨b.toUInt32,valid⟩ = b.toNat := UInt8.toNat_toUInt32 b
  have decoded := fromUtf8_char ⟨b.toUInt32,valid⟩ rest
  rcases bytes_cases ⟨b.toUInt32,valid⟩ with ⟨single,_⟩ | ⟨high,_⟩
  · rw [single,units_low (by omega),value,UInt8.ofNat_toNat,UInt16.ofNat_uInt8ToNat] at decoded
    exact decoded
  · omega

theorem mem_units {b : UInt8} (low : b.toNat < 0x80) (c : Char) : b.toUInt16 ∈ units c ↔ b ∈ String.utf8EncodeChar c := by
  have size : b.toUInt16.toNat = b.toNat := UInt8.toNat_toUInt16 b
  rcases bytes_cases c with ⟨single,small⟩ | ⟨large,high⟩
  · rw [single,units_low (by omega),List.mem_singleton,List.mem_singleton]
    constructor
    · intro same
      have code := congrArg UInt16.toNat same
      rw [size,UInt16.toNat_ofNat_of_lt' (by rw [UInt16.size]; omega)] at code
      exact UInt8.toNat_inj.mp (code.trans (UInt8.toNat_ofNat_of_lt' (by rw [UInt8.size]; omega)).symm)
    · intro same
      rw [same]
      apply UInt16.toNat_inj.mp
      rw [UInt8.toNat_toUInt16,UInt8.toNat_ofNat_of_lt' (by rw [UInt8.size]; omega),
        UInt16.toNat_ofNat_of_lt' (by rw [UInt16.size]; omega)]
  · constructor
    · intro present
      exfalso
      unfold units at present
      have bound : c.toNat < 0x110000 := by
        have valid := c.valid
        have value : c.val.toNat = c.toNat := rfl
        rcases valid with low | ⟨_,high⟩ <;> omega
      split at present
      · next below =>
        have code := congrArg UInt16.toNat (List.mem_singleton.mp present)
        rw [size,UInt16.toNat_ofNat_of_lt' (by rw [UInt16.size]; omega)] at code
        omega
      · rcases List.mem_cons.mp present with high | more
        · have code := congrArg UInt16.toNat high
          rw [size,UInt16.toNat_ofNat_of_lt' (by rw [UInt16.size]; omega)] at code
          omega
        · have code := congrArg UInt16.toNat (List.mem_singleton.mp more)
          rw [size,UInt16.toNat_ofNat_of_lt' (by rw [UInt16.size]; omega)] at code
          omega
    · intro present
      exact absurd low (Nat.not_lt.mpr (high b present))

theorem mem_fromUtf8 {b : UInt8} (low : b.toNat < 0x80) (bytes : List UInt8) :
    b.toUInt16 ∈ fromUtf8 bytes ↔ b ∈ bytes := by
  induction size : bytes.length using Nat.strongRecOn generalizing bytes with
  | ind length ih =>
    subst size
    cases bytes with
    | nil => exact ⟨nofun,nofun⟩
    | cons head rest =>
      cases starts : first (head :: rest) with
      | some c =>
        obtain ⟨more,whole⟩ := first_prefix starts
        have shorter : more.length < (head :: rest).length := by
          rw [whole,List.length_append]
          have filled := List.length_pos_of_ne_nil (String.utf8EncodeChar_ne_nil (c := c))
          omega
        rw [whole,fromUtf8_char,List.mem_append,List.mem_append,mem_units low,ih _ shorter more rfl]
      | none =>
        have replaced := fromUtf8_invalid starts
        have other : ¬b.toUInt16 = 0xFFFD := by
          intro same
          have code := congrArg UInt16.toNat same
          rw [UInt8.toNat_toUInt16] at code
          have value : (0xFFFD : UInt16).toNat = 0xFFFD := rfl
          omega
        have different : ¬b = head := by
          intro same
          subst same
          rw [fromUtf8_ascii low] at replaced
          exact other (List.cons.inj replaced).1
        rw [replaced,List.mem_cons,List.mem_cons,ih _ (Nat.lt_succ_self _) rest rfl]
        simp only [other,different,false_or]

theorem fromUtf8_plain {front : List UInt8} (low : ∀ b ∈ front, b.toNat < 0x80) (rest : List UInt8) :
    fromUtf8 (front ++ rest) = front.map UInt8.toUInt16 ++ fromUtf8 rest := by
  induction front with
  | nil => rfl
  | cons b more ih =>
    have later := ih (fun other present => low other (List.mem_cons_of_mem _ present))
    rw [List.cons_append,fromUtf8_ascii (low b List.mem_cons_self),later]
    rfl

-- How many bytes of UTF-8 a code unit stands for, half of its pair where it is a
-- surrogate.
def weight (unit : UInt16) : Nat :=
  if unit.toNat < 0x80 then 1
  else if unit.toNat < 0x800 then 2
  else if 0xD800 ≤ unit.toNat ∧ unit.toNat ≤ 0xDFFF then 2
  else 3

def weights (s : List UInt16) : Nat := (s.map weight).sum

theorem weights_append (first second : List UInt16) : weights (first ++ second) = weights first + weights second := by
  unfold weights
  rw [List.map_append,List.sum_append]

theorem weights_cons (unit : UInt16) (rest : List UInt16) : weights (unit :: rest) = weight unit + weights rest := rfl

theorem weight_ofNat (small : n < 0x10000) : weight (UInt16.ofNat n) =
    if n < 0x80 then 1 else if n < 0x800 then 2 else if 0xD800 ≤ n ∧ n ≤ 0xDFFF then 2 else 3 := by
  have value : (UInt16.ofNat n).toNat = n := UInt16.toNat_ofNat_of_lt small
  unfold weight
  rw [value]

theorem weights_units (c : Char) : weights (units c) = (String.utf8EncodeChar c).length := by
  rw [String.length_utf8EncodeChar]
  have valid : c.toNat < 0xD800 ∨ 0xDFFF < c.toNat ∧ c.toNat < 0x110000 := c.valid
  unfold units
  split
  · next low =>
    rw [weights_cons,weight_ofNat low]
    rcases c.utf8Size_eq with size | size | size | size
    · have bound : c.toNat ≤ 127 := UInt32.le_iff_toNat_le.mp (Char.utf8Size_eq_one_iff.mp size)
      rw [size,if_pos (by omega)]
      rfl
    · obtain ⟨above,below⟩ := Char.utf8Size_eq_two_iff.mp size
      have above : 127 < c.toNat := UInt32.lt_iff_toNat_lt.mp above
      have below : c.toNat ≤ 0x7ff := UInt32.le_iff_toNat_le.mp below
      rw [size,if_neg (by omega),if_pos (by omega)]
      rfl
    · obtain ⟨above,below⟩ := Char.utf8Size_eq_three_iff.mp size
      have above : 0x7ff < c.toNat := UInt32.lt_iff_toNat_lt.mp above
      rw [size,if_neg (by omega),if_neg (by omega),if_neg (by omega)]
      rfl
    · have above : 0xffff < c.toNat := UInt32.lt_iff_toNat_lt.mp (Char.utf8Size_eq_four_iff.mp size)
      omega
  · next high =>
    have size : c.utf8Size = 4 := Char.utf8Size_eq_four_iff.mpr (UInt32.lt_iff_toNat_lt.mpr (by
      change 0xffff < c.toNat
      omega))
    rw [size,weights_cons,weights_cons,weight_ofNat (by omega),weight_ofNat (by omega),if_neg (by omega),if_neg (by omega),
      if_pos (by omega),if_neg (by omega),if_neg (by omega),if_pos (by omega)]
    rfl

theorem weights_utf16 (s : List Char) : weights (utf16 s) = (utf8 s).length := by
  induction s with
  | nil => rfl
  | cons c rest ih =>
    unfold utf16 utf8 at ih ⊢
    rw [List.flatMap_cons,List.flatMap_cons,weights_append,List.length_append,weights_units,ih]

end Utf

end Library
