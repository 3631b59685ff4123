import DnsForwarder.Number.Power

/-!
# Numbers of double precision

A finite number is a sign, a mantissa of at most 53 bits and a power of two; it
stands for `mantissa · 2 ^ exponent`.  `ofDecimal` gives the number nearest to a
decimal, the one with an even mantissa if two are equally near, and infinity for
what lies beyond the largest number.  All arithmetic is on natural numbers.

## Strategy

A decimal is a quotient of naturals.  The exponent is chosen so that the
quotient in units of `2 ^ exponent` has 53 bits, or is as small as an exponent
can be; rounding that quotient gives the mantissa.
-/

namespace DnsForwarder

inductive Binary64
  | finite (negative : Bool) (mantissa : Nat) (exponent : Int)
  | infinite (negative : Bool)
  | nan
deriving DecidableEq, Repr

namespace Binary64

/-- The exponent of the smallest steps. -/
def lowestExponent : Int := -1074

/-- The exponent of the largest steps. -/
def highestExponent : Int := 971

def mantissaBits : Nat := 53

/-- The quotient rounded to the nearest number, a half to the even one. -/
def roundedQuotient (numerator denominator : Nat) : Nat :=
  let quotient := numerator / denominator
  let twice := 2 * (numerator % denominator)
  if twice < denominator ∨ (twice = denominator ∧ quotient % 2 = 0) then quotient
  else quotient + 1

/-- A quotient in units of `2 ^ exponent`. -/
def inUnits (numerator denominator : Nat) (exponent : Int) : Nat × Nat :=
  if 0 ≤ exponent then (numerator, denominator * twoTo exponent.toNat)
  else (numerator * twoTo (-exponent).toNat, denominator)

/-- The exponent that leaves 53 bits of a quotient in front of the point. -/
def exponentOf (numerator denominator : Nat) : Int :=
  let estimate : Int := (Nat.log2 numerator : Int) - Nat.log2 denominator - 52
  let scaled := inUnits numerator denominator estimate
  let exponent := if scaled.1 / scaled.2 < twoTo 52 then estimate - 1 else estimate
  max exponent lowestExponent

/-- The nearest number to a positive quotient. -/
def ofQuotient (negative : Bool) (numerator denominator : Nat) : Binary64 :=
  let exponent := exponentOf numerator denominator
  let scaled := inUnits numerator denominator exponent
  let mantissa := roundedQuotient scaled.1 scaled.2
  -- rounding up may take a bit more
  let (mantissa, exponent) :=
    if mantissa = twoTo mantissaBits then (twoTo (mantissaBits - 1), exponent + 1)
    else (mantissa, exponent)
  if highestExponent < exponent then infinite negative else finite negative mantissa exponent

def zero (negative : Bool) : Binary64 := finite negative 0 lowestExponent

/-- The nearest number to `mantissa · 2 ^ exponent`. -/
def ofScaled (negative : Bool) (mantissa : Nat) (exponent : Int) : Binary64 :=
  if mantissa = 0 then zero negative
  else if 0 ≤ exponent then ofQuotient negative (mantissa * twoTo exponent.toNat) 1
  else ofQuotient negative mantissa (twoTo (-exponent).toNat)

/-- The nearest number to a natural number. -/
def ofNat (value : Nat) : Binary64 := ofScaled false value 0

/-- The nearest number to `digits · 10 ^ power`, where `digits` is written with
`width` digits.  Far beyond the range of the numbers the power is not computed. -/
def ofDecimal (negative : Bool) (digits width : Nat) (power : Int) : Binary64 :=
  if digits = 0 then zero negative
  else if 310 < power + width ∧ 310 < power then infinite negative
  else if power + width < -330 then zero negative
  else if 0 ≤ power then ofQuotient negative (digits * tenTo power.toNat) 1
  else ofQuotient negative digits (tenTo (-power).toNat)

def isFinite : Binary64 → Bool
  | finite _ _ _ => true
  | _ => false

/-- Whether the number is a zero of either sign. -/
def isZero : Binary64 → Bool
  | finite _ mantissa _ => mantissa == 0
  | _ => false

def isNegative : Binary64 → Bool
  | finite negative _ _ => negative
  | infinite negative => negative
  | nan => false

/-- The nearest number to a product. -/
def times : Binary64 → Binary64 → Binary64
  | finite negative mantissa exponent, finite negative' mantissa' exponent' =>
    ofScaled (negative != negative') (mantissa * mantissa') (exponent + exponent')
  | nan, _ | _, nan => nan
  | a, b => if a.isZero || b.isZero then nan else infinite (a.isNegative != b.isNegative)

/-- The nearest natural number, a half away from zero; the magnitude alone. -/
def roundedMagnitude (mantissa : Nat) (exponent : Int) : Nat :=
  if 0 ≤ exponent then mantissa * twoTo exponent.toNat
  else (2 * mantissa + twoTo (-exponent).toNat) / (2 * twoTo (-exponent).toNat)

/-- The nearest natural number up to `largest`: zero stands for all that is
below and for what is no number. -/
def roundedBelow (largest : Nat) : Binary64 → Nat
  | finite false mantissa exponent => min (roundedMagnitude mantissa exponent) largest
  | finite true _ _ => 0
  | infinite negative => if negative then 0 else largest
  | nan => 0

end Binary64

end DnsForwarder
