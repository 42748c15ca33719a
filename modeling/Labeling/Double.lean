/-!
# Double-precision numbers

A double by its sign and the code of its absolute value: the exponent field and the fraction field
of the binary format read as one natural number. The code grows with the absolute value up to
infinity, and the codes behind infinity are no numbers. Doubles are compared in two ways: as
numbers, where the zeros are equal and what is no number differs from itself, and in the total
order, which is the order of the codes. The numbers of documents are the finite doubles. Arithmetic
is exact on ratios of natural numbers and is rounded once, a half going to the even neighbour.
-/
namespace Labeling

/-- A double: its sign and the code of its absolute value. -/
structure Double where
  /-- Whether the sign bit is set; zero has a sign too. -/
  negative : Bool
  /-- Exponent field and fraction field as one number. -/
  code : Nat
deriving DecidableEq, Repr, Inhabited

namespace Double

/-- The power of a base. -/
def power (base exponent : Nat) : Nat := Nat.pow base exponent

/-- The least number that is too large for the fraction field. -/
def fractionLimit : Nat := 0x10000000000000

/-- The code of infinity; finite numbers have smaller codes. -/
def codeLimit : Nat := 0x7ff0000000000000

/-- Numeric equality: the two zeros are equal, and what is no number equals nothing. -/
def sameValue (left right : Double) : Bool :=
  left.code ≤ codeLimit && left.code == right.code
    && (left.negative == right.negative || left.code == 0)

instance : BEq Double := ⟨sameValue⟩

/-- Whether the double is a number, finite or not. -/
def isNumber (value : Double) : Bool := value.code ≤ codeLimit

/-- Where the double stands in the total order; the negative zero is below the positive one. -/
def rank (value : Double) : Int := if value.negative then -(value.code : Int) - 1 else value.code

/-- The total order of doubles. -/
def atMost (left right : Double) : Bool := left.rank ≤ right.rank

/-- The infinity below all numbers. -/
def minusInfinity : Double := ⟨true, codeLimit⟩

/-- The whole number that a power of two scales to the absolute value. -/
def significand (code : Nat) : Nat :=
  if code < fractionLimit then code else fractionLimit + code % fractionLimit

/-- The power of two that scales the significand to the absolute value. -/
def binaryExponent (code : Nat) : Int :=
  if code < fractionLimit then -1074 else (code / fractionLimit : Nat) - 1075

/-- The quotient of two natural numbers rounded to the nearest one, a half to the even one. -/
def roundedQuotient (numerator denominator : Nat) : Nat :=
  let quotient := numerator / denominator
  let twice := 2 * (numerator % denominator)
  if twice < denominator || (twice == denominator && quotient % 2 == 0) then quotient
  else quotient + 1

/-- A ratio divided by a power of two. -/
def dividedByPower (numerator denominator : Nat) (exponent : Int) : Nat × Nat :=
  (numerator * power 2 (-exponent).toNat, denominator * power 2 exponent.toNat)

/-- The code nearest to a ratio; a ratio that is too large gets a code from `codeLimit` on. -/
def codeOfRatio (numerator denominator : Nat) : Nat :=
  if numerator = 0 then 0
  else
    let guess : Int := max ((numerator.log2 : Int) - denominator.log2 - 52) (-1074)
    let scaled := dividedByPower numerator denominator guess
    let exponent :=
      if scaled.1 / scaled.2 < fractionLimit && guess > -1074 then guess - 1 else guess
    let final := dividedByPower numerator denominator exponent
    (exponent + 1074).toNat * fractionLimit + roundedQuotient final.1 final.2

/-- The absolute value as a ratio. -/
def ratioOfCode (code : Nat) : Nat × Nat :=
  dividedByPower (significand code) 1 (-(binaryExponent code))

/-- The rounded product with the rounded power `10 ^ exponent`. -/
def timesTen (code exponent : Nat) : Nat :=
  let value := ratioOfCode code
  let factor := ratioOfCode (codeOfRatio (power 10 exponent) 1)
  codeOfRatio (value.1 * factor.1) (value.2 * factor.2)

/-- The rounded quotient by the rounded power `10 ^ exponent`. -/
def overTen (code exponent : Nat) : Nat :=
  let value := ratioOfCode code
  let factor := ratioOfCode (codeOfRatio (power 10 exponent) 1)
  codeOfRatio (value.1 * factor.2) (value.2 * factor.1)

/-- Divide by `10 ^ 308` the given number of times, or until nothing is left. -/
def overLargestPower (code : Nat) : Nat → Nat
  | 0 => code
  | count + 1 => if code = 0 then 0 else overLargestPower (overTen code 308) count

/-- The code of `digits * 10 ^ exponent`: the digits are rounded first and then scaled, by at most
`10 ^ 308` at a time. Some numbers too large for a double have none. -/
def codeOfDecimal (digits : Nat) (exponent : Int) : Option Nat :=
  let start := codeOfRatio digits 1
  if 0 ≤ exponent then
    if exponent ≤ 308 then some (timesTen start exponent.toNat)
    else if start = 0 then some 0
    else none
  else
    let places := (-exponent).toNat
    let times := (places - 1) / 308
    some (overTen (overLargestPower start times) (places - 308 * times))

end Double

/-- A finite double: a number that a document can hold. -/
structure FiniteDouble extends Double where
  /-- The number is below infinity. -/
  finite : code < Double.codeLimit
deriving DecidableEq, Repr

namespace FiniteDouble

instance : Inhabited FiniteDouble := ⟨⟨false, 0⟩, by decide⟩

instance : BEq FiniteDouble := ⟨fun left right => left.toDouble == right.toDouble⟩

/-- The finite double nearest to an integer. -/
def ofInt (value : Int) : FiniteDouble where
  negative := value < 0
  code := min (Double.codeOfRatio value.natAbs 1) (Double.codeLimit - 1)
  finite := by
    rw [Double.codeLimit]
    omega

/-- The finite double of a decimal with the given sign, if it is not too large. -/
def ofDecimal? (negative : Bool) (digits : Nat) (exponent : Int) : Option FiniteDouble :=
  (Double.codeOfDecimal digits exponent).bind fun code =>
    if finite : code < Double.codeLimit then some ⟨⟨negative, code⟩, finite⟩ else none

end FiniteDouble

/-- The double nearest to an integer. -/
def Double.ofInt (value : Int) : Double := (FiniteDouble.ofInt value).toDouble

/-- The double as a finite one, if it is. -/
def Double.finite? (value : Double) : Option FiniteDouble :=
  if finite : value.code < Double.codeLimit then some ⟨value, finite⟩ else none

end Labeling
