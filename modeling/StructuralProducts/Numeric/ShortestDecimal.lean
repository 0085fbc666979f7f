import StructuralProducts.Numeric.Binary64

namespace StructuralProducts

/-!
# The shortest decimal of a binary number

A finite binary number stands for an interval of reals: all those that are
closer to it than to its neighbours.  The ends belong to the interval exactly
when the significand is even, because a tie goes to the even neighbour.

The displayed decimal is one with the fewest digits in that interval.  Grids of
one, two, up to seventeen significant digits are tried in turn.  On each grid
only the two points around the number can lie in the interval unless both do,
so testing those two is enough.  If both lie in it the closer one is taken, and
of two equally close ones the upper.

Everything is computed in natural numbers over one common denominator.  The
denominator carries two spare powers of two, so the quarter-steps at which
intervals end are whole numbers too.
-/

/-- A decimal number `digits * 10 ^ exponent`. -/
structure Decimal where
  digits : Nat
  exponent : Int
  deriving DecidableEq, Inhabited

namespace Decimal

/-- The number of decimal digits; zero has one. -/
def digitCount (number : Nat) : Nat :=
  (Nat.toDigits 10 number).length

/-- The unique exponent with `10 ^ (exponent - 1) <= top / bottom < 10 ^ exponent`
for a positive quotient.  Below one the count is read off the reciprocal, whose
exact powers of ten lie one grid higher. -/
def leadingExponent (top bottom : Nat) : Int :=
  if bottom <= top then digitCount (top / bottom)
  else
    let reciprocal := digitCount (bottom / top)
    if top * Nat.pow 10 (reciprocal - 1) = bottom then 2 - (reciprocal : Int)
    else 1 - (reciprocal : Int)

/-- The interval of reals that a binary number stands for, scaled to natural
numbers: `lower / bottom` to `upper / bottom` around `top / bottom`. -/
structure Interval where
  lower : Nat
  top : Nat
  upper : Nat
  bottom : Nat
  closed : Bool

/-- The interval of a finite nonzero number. -/
def Interval.ofNumber (number : Binary64) : Interval :=
  let quarter := Nat.pow 2 number.scale
  { lower := (4 * number.significand - if number.nearerBelow then 1 else 2) * quarter
    top := 4 * number.significand * quarter
    upper := (4 * number.significand + 2) * quarter
    bottom := Nat.pow 2 1076
    closed := number.significand % 2 == 0 }

/-- Powers of ten with the unit `10 ^ exponent` of a grid as a quotient. -/
def gridUnit (exponent : Int) : Nat × Nat :=
  (Nat.pow 10 exponent.toNat, Nat.pow 10 (-exponent).toNat)

/-- The grid point `digits * 10 ^ exponent` lies in the interval. -/
def Interval.contains (interval : Interval) (point : Decimal) : Bool :=
  let unit := gridUnit point.exponent
  let scaled := point.digits * unit.1 * interval.bottom
  let low := interval.lower * unit.2
  let high := interval.upper * unit.2
  if interval.closed then low <= scaled && scaled <= high
  else low < scaled && scaled < high

/-- The last grid point that is not above the number. -/
def Interval.floorPoint (interval : Interval) (exponent : Int) : Decimal :=
  let unit := gridUnit exponent
  ⟨interval.top * unit.2 / (interval.bottom * unit.1), exponent⟩

/-- The number is at least as close to the next grid point as to this one. -/
def Interval.prefersNext (interval : Interval) (point : Decimal) : Bool :=
  let unit := gridUnit point.exponent
  (2 * point.digits + 1) * unit.1 * interval.bottom <= 2 * interval.top * unit.2

/-- The point of one grid that is displayed, if the grid has one in the interval. -/
def Interval.onGrid? (interval : Interval) (exponent : Int) : Option Decimal :=
  let below := interval.floorPoint exponent
  let above : Decimal := ⟨below.digits + 1, exponent⟩
  match interval.contains below, interval.contains above with
  | true, true => some (if interval.prefersNext below then above else below)
  | true, false => some below
  | false, true => some above
  | false, false => none

/-- Try grids of the given number of digits and more.  Seventeen digits always
suffice, so the last grid is answered by its floor without a test. -/
def Interval.shortestFrom (interval : Interval) (leading : Int) : Nat -> Nat -> Decimal
  | 0, count => interval.floorPoint (leading - count)
  | more + 1, count =>
      match interval.onGrid? (leading - count) with
      | some point => point
      | none => interval.shortestFrom leading more (count + 1)

/-- The shortest decimal of a finite nonzero number, sign aside. -/
def ofNumber (number : Binary64) : Decimal :=
  let interval := Interval.ofNumber number
  interval.shortestFrom (leadingExponent interval.top interval.bottom) 17 1

/-- The digits of a decimal in positional notation.  Neither an exponent nor a
trailing zero after the point is ever written. -/
def positional (number : Decimal) : String :=
  let written := Nat.toDigits 10 number.digits
  if 0 <= number.exponent then
    String.ofList (written ++ List.replicate number.exponent.toNat '0')
  else
    let places := (-number.exponent).toNat
    let padded := List.replicate (places + 1 - written.length) '0' ++ written
    let whole := padded.take (padded.length - places)
    let rest := (padded.drop (padded.length - places)).reverse.dropWhile (· == '0')
    if rest.isEmpty then String.ofList whole
    else String.ofList (whole ++ '.' :: rest.reverse)

end Decimal

/-- The displayed form: the shortest decimal that reads back as the number,
without an exponent.  The sign of zero is kept, the sign of a NaN is not. -/
def Binary64.display (number : Binary64) : String :=
  if number.isNaN then "NaN"
  else
    let sign := if number.isNegative then "-" else ""
    if number.isInfinite then sign ++ "inf"
    else if number.isZero then sign ++ "0"
    else sign ++ (Decimal.ofNumber number).positional

end StructuralProducts
