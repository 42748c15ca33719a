import Labeling.Double

/-!
# Shortest decimals

The decimal with the fewest digits among those that round to a given double, and of those with
that number of digits the nearest one. The decimals are the points of a grid `10 ^ scale`; the
grids are tried from the coarsest to the finest, and on each one only the two neighbours of the
number have to be looked at.
-/
namespace Labeling.Double

/-- The numbers that round to a double, and the double itself, in units of `2 ^ unit`. -/
structure Interval where
  /-- The lower end. -/
  low : Nat
  /-- The double. -/
  value : Nat
  /-- The upper end. -/
  high : Nat
  /-- The exponent of the unit. -/
  unit : Int
  /-- Whether the ends round to the double. -/
  closed : Bool

/-- The interval around the double of a code: half the distance to either neighbour. -/
def intervalOf (code : Nat) : Interval where
  low :=
    let whole := significand code
    4 * whole - (if whole = fractionLimit && 2 * fractionLimit ≤ code then 1 else 2)
  value := 4 * significand code
  high := 4 * significand code + 2
  unit := binaryExponent code - 2
  closed := significand code % 2 == 0

/-- The point of the grid `10 ^ scale` in the interval that is nearest to the double, if any. -/
def Interval.gridPoint? (interval : Interval) (scale : Int) : Option Nat :=
  let factor := power 2 interval.unit.toNat * power 10 (-scale).toNat
  let step := power 2 (-interval.unit).toNat * power 10 scale.toNat
  let value := interval.value * factor
  let below := value / step
  let fits (point : Nat) : Bool :=
    let low := interval.low * factor
    let high := interval.high * factor
    if interval.closed then low ≤ point * step && point * step ≤ high
    else low < point * step && point * step < high
  let belowFits := fits below
  let aboveFits := fits (below + 1)
  if belowFits && aboveFits then
    let twice := 2 * (value - below * step)
    if twice < step || (twice == step && below % 2 == 0) then some below else some (below + 1)
  else if belowFits then some below
  else if aboveFits then some (below + 1)
  else none

/-- Try the grids from `scale` downwards. -/
def Interval.coarsest (interval : Interval) : Nat → Int → Nat × Int
  | 0, scale => (0, scale)
  | fuel + 1, scale =>
    match interval.gridPoint? scale with
    | some point => (point, scale)
    | none => interval.coarsest fuel (scale - 1)

/-- The shortest decimal `digits * 10 ^ scale` of a positive double. The first grid tried has a
step above the double, and the twenty-first one is fine enough for every double. -/
def shortest (code : Nat) : Nat × Int :=
  let top := (binaryExponent code + (significand code).log2 + 1) * 30103 / 100000 + 1
  (intervalOf code).coarsest 24 top

/-- The shortest digits and the place of the point: `0.d₁d₂… * 10 ^ place`. -/
def digitsAndPlace (code : Nat) : List Char × Int :=
  if code = 0 then (['0'], 1)
  else
    let decimal := shortest code
    let digits := Nat.toDigits 10 decimal.1
    (digits, digits.length + decimal.2)

/-- Digits with the point at a place inside, before or behind them. -/
def positional (digits : List Char) (place : Int) : List Char :=
  if place ≤ 0 then '0' :: '.' :: (List.replicate (-place).toNat '0' ++ digits)
  else
    let whole := place.toNat
    if digits.length ≤ whole then
      digits ++ List.replicate (whole - digits.length) '0' ++ ['.', '0']
    else digits.take whole ++ '.' :: digits.drop whole

/-- Digits with the point behind the first one and a power of ten with its sign. -/
def scientific (digits : List Char) (place : Int) : List Char :=
  let mantissa := match digits with
    | first :: second :: rest => first :: '.' :: second :: rest
    | _ => digits
  let power := place - 1
  let sign := if power < 0 then '-' else '+'
  mantissa ++ 'e' :: sign :: Nat.toDigits 10 power.natAbs

/-- The text of a number in a document: positional from `1e-5` to below `1e16`, else with an
exponent. -/
def text (value : Double) : String :=
  let (digits, place) := digitsAndPlace value.code
  let body := if -5 < place && place ≤ 16 then positional digits place else scientific digits place
  String.ofList ((if value.negative then ['-'] else []) ++ body)

end Labeling.Double
