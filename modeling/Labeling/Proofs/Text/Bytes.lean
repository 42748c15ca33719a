import Labeling.Text
import Mathlib.Data.String.Basic

/-!
# Bytes of a text

A character is encoded in one byte, its number, if the number is below 128; the bytes of any other
character are from 128 on. So a test that only characters of one byte satisfy can be made on the
bytes as well as on the characters (`exists_bytes`).
-/
namespace Labeling.Text

/-- The bytes of a text. -/
def encoded (text : List Char) : List UInt8 := text.flatMap String.utf8EncodeChar

/-- Whether the character whose number a byte is satisfies a test. -/
def byteIs (test : Char → Bool) (byte : UInt8) : Bool := test (Char.ofUInt8 byte)

/-- Only characters of one byte satisfy a test. -/
def IsAscii (test : Char → Bool) : Prop :=
  ∀ character, test character = true → character.toNat < 128

variable {test : Char → Bool}

/-- The bytes of two texts in a row are those of the first one and then those of the second one. -/
theorem encoded_append (first second : List Char) :
    encoded (first ++ second) = encoded first ++ encoded second := List.flatMap_append

/-- There are as many bytes as the characters take. -/
theorem length_encoded (text : List Char) : (encoded text).length = String.utf8Len text := by
  induction text with
  | nil => rfl
  | cons first rest hypothesis =>
    rw [encoded, List.flatMap_cons, List.length_append, String.length_utf8EncodeChar,
      String.utf8Len_cons, ← hypothesis, encoded, Nat.add_comm]

/-- The bytes of a string are those of its characters. -/
theorem toList_toByteArray (text : String) :
    text.toByteArray.data.toList = encoded text.toList := by
  conv => lhs; rw [← String.ofList_toList (s := text)]
  rw [String.toByteArray_ofList, List.utf8Encode, List.toList_data_toByteArray, encoded]

/-- A character of one byte is encoded as its number. -/
theorem utf8EncodeChar_of_lt {character : Char} (small : character.toNat < 128) :
    ∃ byte, String.utf8EncodeChar character = [byte] ∧ Char.ofUInt8 byte = character := by
  have low : character.val.toNat ≤ 127 := Nat.le_of_lt_succ small
  refine ⟨UInt8.ofNat character.val.toNat, ?_, ?_⟩
  · rw [String.utf8EncodeChar]
    exact if_pos low
  · apply Char.ext
    apply UInt32.toNat_inj.mp
    show (UInt8.ofNat character.val.toNat).toUInt32.toNat = character.val.toNat
    rw [UInt8.toNat_toUInt32, UInt8.toNat_ofNat']
    omega

/-- Every other character is encoded as bytes that are the numbers of no such character. -/
theorem le_of_mem_utf8EncodeChar {character : Char} (large : 128 ≤ character.toNat) {byte : UInt8}
    (member : byte ∈ String.utf8EncodeChar character) : 128 ≤ byte.toNat := by
  have high : ¬ character.val.toNat ≤ 127 := Nat.not_le.mpr large
  rw [String.utf8EncodeChar, if_neg high] at member
  split at member
  · simp only [List.mem_cons, List.not_mem_nil, or_false] at member
    rcases member with rfl | rfl <;> rw [UInt8.toNat_ofNat'] <;> omega
  · split at member
    · simp only [List.mem_cons, List.not_mem_nil, or_false] at member
      rcases member with rfl | rfl | rfl <;> rw [UInt8.toNat_ofNat'] <;> omega
    · simp only [List.mem_cons, List.not_mem_nil, or_false] at member
      rcases member with rfl | rfl | rfl | rfl <;> rw [UInt8.toNat_ofNat'] <;> omega

/-- A byte from 128 on satisfies no test for characters of one byte. -/
theorem byteIs_of_le (ascii : IsAscii test) {byte : UInt8} (large : 128 ≤ byte.toNat) :
    byteIs test byte = false := by
  rw [← Bool.not_eq_true]
  intro satisfied
  have small : byte.toUInt32.toNat < 128 := ascii _ satisfied
  rw [UInt8.toNat_toUInt32] at small
  omega

/-- To a test for characters of one byte the first byte of a character looks like the character,
and the bytes behind it look like nothing. -/
theorem exists_bytes (character : Char) :
    ∃ byte rest, String.utf8EncodeChar character = byte :: rest ∧ ∀ test, IsAscii test →
      byteIs test byte = test character ∧ (test character = true → rest = []) ∧
        ∀ other ∈ rest, byteIs test other = false := by
  rcases Nat.lt_or_ge character.toNat 128 with small | large
  · obtain ⟨byte, single, same⟩ := utf8EncodeChar_of_lt small
    refine ⟨byte, [], single, fun test _ => ⟨?_, fun _ => rfl, fun _ member => nomatch member⟩⟩
    rw [byteIs, same]
  · obtain ⟨byte, rest, bytes⟩ := List.exists_cons_of_ne_nil
      (String.utf8EncodeChar_ne_nil (c := character))
    have high : ∀ other ∈ byte :: rest, 128 ≤ other.toNat := fun other member =>
      le_of_mem_utf8EncodeChar large (bytes ▸ member)
    refine ⟨byte, rest, bytes, fun test ascii => ?_⟩
    have fails : test character = false := by
      rw [← Bool.not_eq_true]
      intro satisfied
      exact absurd (ascii character satisfied) (Nat.not_lt.mpr large)
    refine ⟨?_, fun satisfied => ?_, fun other member => ?_⟩
    · rw [fails, byteIs_of_le ascii (high byte List.mem_cons_self)]
    · rw [fails] at satisfied
      contradiction
    · exact byteIs_of_le ascii (high other (List.mem_cons_of_mem byte member))

/-- Where a character fails such a test, all its bytes do. -/
theorem byteIs_of_mem_utf8EncodeChar (ascii : IsAscii test) {character : Char}
    (fails : test character = false) {byte : UInt8}
    (member : byte ∈ String.utf8EncodeChar character) : byteIs test byte = false := by
  obtain ⟨first, more, bytes, looks⟩ := exists_bytes character
  obtain ⟨same, -, others⟩ := looks test ascii
  rw [bytes] at member
  rcases List.mem_cons.mp member with rfl | member
  · exact same.trans fails
  · exact others byte member

/-- The byte behind some bytes is the first one of what follows them. -/
theorem getElem_append_encoded {front : List UInt8} {first : Char} {rest : List Char}
    (inside : front.length < (front ++ encoded (first :: rest)).length) (ascii : IsAscii test) :
    byteIs test (front ++ encoded (first :: rest))[front.length] = test first := by
  obtain ⟨byte, more, bytes, looks⟩ := exists_bytes first
  simp only [encoded, List.flatMap_cons, bytes, List.cons_append, List.getElem_append_right,
    Nat.le_refl, Nat.sub_self, List.getElem_cons_zero]
  exact (looks test ascii).1

/-! ## Tests for characters of one byte -/

/-- Being one character of one byte is such a test. -/
theorem isAscii_beq {mark : Char} (small : mark.toNat < 128) : IsAscii (· == mark) := by
  intro character same
  rw [beq_iff_eq.mp same]
  exact small

/-- Two such tests together are one, too. -/
theorem IsAscii.or {first second : Char → Bool} (left : IsAscii first) (right : IsAscii second) :
    IsAscii fun character => first character || second character := by
  intro character satisfied
  rcases Bool.or_eq_true_iff.mp satisfied with satisfied | satisfied
  · exact left character satisfied
  · exact right character satisfied

/-- Letters take one byte. -/
theorem isAscii_isAlpha : IsAscii Char.isAlpha := by
  intro character letter
  rcases Bool.or_eq_true_iff.mp letter with upper | lower
  · have range : 'A'.val ≤ character.val ∧ character.val ≤ 'Z'.val := of_decide_eq_true upper
    exact Nat.lt_of_le_of_lt (UInt32.le_iff_toNat_le.mp range.2) (by decide)
  · have last : character.val ≤ 'z'.val := of_decide_eq_true (Bool.and_eq_true_iff.mp lower).2
    exact Nat.lt_of_le_of_lt (UInt32.le_iff_toNat_le.mp last) (by decide)

/-- Digits take one byte. -/
theorem isAscii_isDigit : IsAscii Char.isDigit := fun _ digit =>
  Nat.lt_of_le_of_lt (Char.isDigit_iff_toNat.mp digit).2 (by decide)

end Labeling.Text
