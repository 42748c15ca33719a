import Labeling.Proofs.Text.Replacing

/-!
# Numbers in text

A number is read digit by digit, and what is read back from the digits of a number is the number
(`readDecimal_decimal`). An index is a number of one machine word, so the digits of a greater number
are none (`readIndex_decimal`).
-/
namespace Labeling.Text

/-- A decimal digit counts what stands on it. -/
theorem digit?_of_isDigit {character : Char} (digit : character.isDigit = true) :
    digit? character = some (character.toNat - '0'.toNat) ∧
      character.toNat - '0'.toNat < 10 := by
  have high := (Char.isDigit_iff_toNat.mp digit).2
  have nine : '9'.toNat = '0'.toNat + 9 := rfl
  refine ⟨by rw [digit?, if_pos digit]; rfl, ?_⟩
  omega

/-- Decimal digits are read as the number that they write. -/
theorem readDigits_ten {digits : List Char} (all : ∀ digit ∈ digits, digit.isDigit = true)
    (value : Nat) : readDigits 10 value digits = some (Nat.ofDigitChars 10 digits value) := by
  induction digits generalizing value with
  | nil => rfl
  | cons digit rest hypothesis =>
    obtain ⟨read, small⟩ := digit?_of_isDigit (all digit List.mem_cons_self)
    rw [readDigits, read]
    simp only [if_pos small, Nat.ofDigitChars_cons]
    exact hypothesis (fun other member => all other (List.mem_cons_of_mem _ member)) _

/-- The digits of a number are read as the number. -/
theorem readDecimal_decimal (value : Nat) :
    readDecimal (decimal value).toList = some value := by
  have digits : (decimal value).toList = Nat.toDigits 10 value := by
    rw [decimal, Nat.toString_eq_ofList_toDigits, String.toList_ofList]
  rw [readDecimal, readNumber, if_neg (by simpa using toList_decimal_ne_nil value),
    readDigits_ten fun digit member => isDigit_of_mem_decimal member, digits,
    Nat.ofDigitChars_ten_toDigits]

/-- Different numbers have different digits. -/
theorem decimal_injective : Function.Injective decimal := by
  intro first second same
  have read := readDecimal_decimal first
  rw [same, readDecimal_decimal] at read
  exact (Option.some.inj read).symm

/-- An index without a sign is a number that fits a machine word. -/
theorem readIndex_of_head?_ne {text : List Char} (unsigned : text.head? ≠ some '+') :
    readIndex text = (readDecimal text).filter (· < wordLimit) := by
  unfold readIndex
  split
  · contradiction
  · rfl

/-- The digits of a number are read as an index if the number fits a machine word. -/
theorem readIndex_decimal (value : Nat) :
    readIndex (decimal value).toList = if value < wordLimit then some value else none := by
  have unsigned : (decimal value).toList.head? ≠ some '+' := by
    intro signed
    have digit : '+'.isDigit = true := isDigit_of_mem_decimal (List.mem_of_head? signed)
    contradiction
  rw [readIndex_of_head?_ne unsigned, readDecimal_decimal, Option.filter_some]
  simp only [decide_eq_true_eq]

/-- A decimal digit is no blank. -/
theorem isBlank_of_isDigit {character : Char} (digit : character.isDigit = true) :
    isBlank character = false := by
  have range := Char.isDigit_iff_toNat.mp digit
  have zero : '0'.toNat = 48 := rfl
  have nine : '9'.toNat = 57 := rfl
  simp only [isBlank, Bool.or_eq_false_iff, Bool.and_eq_false_iff, decide_eq_false_iff_not,
    beq_eq_false_iff_ne]
  omega

end Labeling.Text
