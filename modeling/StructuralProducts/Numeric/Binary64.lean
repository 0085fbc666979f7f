namespace StructuralProducts

/-!
# Binary floating-point numbers

A number is kept as its 64 bits: one sign bit, eleven exponent bits, fifty-two
fraction bits.  Nothing in this library computes with such numbers.  They are
carried, compared and displayed, so the bits are the whole story and no
floating-point unit is involved.

Equality of the structure is equality of bits.  The comparison that programs
see is `agrees`, which differs from it in two places: a NaN agrees with nothing,
and the two zeros agree with each other.
-/

/-- A number in the 64-bit binary interchange format. -/
structure Binary64 where
  bits : UInt64
  deriving DecidableEq, Inhabited

namespace Binary64

/-- The bit above the fraction, which normal numbers have without storing it. -/
def hiddenBit : Nat := 0x10000000000000

/-- The sign bit is set. -/
def isNegative (number : Binary64) : Bool :=
  number.bits.toNat / 0x8000000000000000 == 1

/-- The eleven exponent bits. -/
def exponentField (number : Binary64) : Nat :=
  number.bits.toNat / hiddenBit % 2048

/-- The fifty-two fraction bits. -/
def fractionField (number : Binary64) : Nat :=
  number.bits.toNat % hiddenBit

/-- All exponent bits set and a fraction: not a number. -/
def isNaN (number : Binary64) : Bool :=
  number.exponentField == 2047 && number.fractionField != 0

/-- All exponent bits set and no fraction: an infinity. -/
def isInfinite (number : Binary64) : Bool :=
  number.exponentField == 2047 && number.fractionField == 0

/-- Either zero. -/
def isZero (number : Binary64) : Bool :=
  number.exponentField == 0 && number.fractionField == 0

/-- The whole significand of a finite number, the hidden bit included. -/
def significand (number : Binary64) : Nat :=
  if number.exponentField = 0 then number.fractionField
  else hiddenBit + number.fractionField

/-- The power of two that multiplies the significand of a finite number,
counted from the smallest one, `2 ^ (-1074)`. -/
def scale (number : Binary64) : Nat :=
  number.exponentField - 1

/-- The number below is only half as far away as the number above: the
significand is a power of two and the exponent is not the smallest. -/
def nearerBelow (number : Binary64) : Bool :=
  number.fractionField == 0 && decide (1 < number.exponentField)

/-- Numerical equality of the format. -/
def agrees (first second : Binary64) : Bool :=
  !first.isNaN && !second.isNaN && (first == second || (first.isZero && second.isZero))

end Binary64
end StructuralProducts
