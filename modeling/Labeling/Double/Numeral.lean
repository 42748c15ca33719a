import Labeling.Double
import Labeling.Text

/-!
# Numerals

Whether a text is the numeral of a finite number: an optional sign, digits with at most one point
among them, and an optional exponent. A numeral whose number rounds beyond the largest double is
not finite.
-/
namespace Labeling.Double

/-- The exponent of a numeral, with or without one; `none` if it has no digits. -/
def numeralExponent : List Char → Option Int
  | [] => some 0
  | mark :: rest =>
    if mark = 'e' || mark = 'E' then
      match rest with
      | '-' :: digits => (Text.readDecimal digits).map fun value => -(value : Int)
      | '+' :: digits => (Text.readDecimal digits).map fun value => (value : Int)
      | digits => (Text.readDecimal digits).map fun value => (value : Int)
    else none

/-- Whether `digits * 10 ^ exponent` rounds to a finite double, where `digits` writes a number. -/
def isFiniteDecimal (digits : List Char) (exponent : Int) : Bool :=
  let significant := digits.dropWhile (· == '0')
  let size : Int := significant.length + exponent
  if significant.isEmpty || size < 0 then true
  else if 400 < size then false
  else
    let whole := (Text.readDigits 10 0 significant).getD 0
    codeOfRatio (whole * power 10 exponent.toNat) (power 10 (-exponent).toNat) < codeLimit

/-- Whether the text is the numeral of a finite number. -/
def isNumeral (text : List Char) : Bool :=
  let unsigned := match text with
    | '-' :: rest => rest
    | '+' :: rest => rest
    | _ => text
  let whole := unsigned.takeWhile Char.isDigit
  let behind := unsigned.dropWhile Char.isDigit
  let (fraction, behind) := match behind with
    | '.' :: rest => (rest.takeWhile Char.isDigit, rest.dropWhile Char.isDigit)
    | _ => ([], behind)
  if whole.isEmpty && fraction.isEmpty then false
  else
    match numeralExponent behind with
    | some exponent => isFiniteDecimal (whole ++ fraction) (exponent - fraction.length)
    | none => false

end Labeling.Double
