import DnsForwarder.Number.Binary64
import DnsForwarder.Text.Digits

/-!
# The shortest text of a number

A number is written with the fewest digits that read back as that number, and
among these with those nearest to it, all in front of and behind a point without
an exponent.  An integer has no point.

## Strategy

In units of a quarter of the last bit, the decimals that read back as the number
fill an interval around it, which holds its ends if the mantissa is even.  For
one digit, two digits and so on the number's two neighbours on the grid of such
decimals are tried; seventeen digits always suffice.
-/

namespace DnsForwarder.Binary64

/-- A positive number and the interval that reads back as it, as multiples of
`scale / denominator`. -/
structure Rounding where
  value : Nat
  low : Nat
  high : Nat
  closed : Bool
  scale : Nat
  denominator : Nat

def Rounding.of (mantissa : Nat) (exponent : Int) : Rounding :=
  -- below a power of two the steps are half as wide
  let narrow := mantissa = twoTo (mantissaBits - 1) ∧ lowestExponent < exponent
  { value := 4 * mantissa
    low := if narrow then 4 * mantissa - 1 else 4 * mantissa - 2
    high := 4 * mantissa + 2
    closed := mantissa % 2 == 0
    scale := twoTo (exponent - 2).toNat
    denominator := twoTo (2 - exponent).toNat }

namespace Rounding

/-- Whether `numerator / denominator` lies in the interval. -/
def holds (rounding : Rounding) (numerator denominator : Nat) : Bool :=
  let place := numerator * rounding.denominator
  let low := rounding.low * rounding.scale * denominator
  let high := rounding.high * rounding.scale * denominator
  if rounding.closed then low ≤ place ∧ place ≤ high else low < place ∧ place < high

/-- The number in units of `10 ^ power`, as a quotient. -/
def inTens (rounding : Rounding) (power : Int) : Nat × Nat :=
  (rounding.value * rounding.scale * tenTo (-power).toNat,
    rounding.denominator * tenTo power.toNat)

/-- The multiple of `10 ^ power` nearest to the number among its two neighbours
that read back as it. -/
def onGrid? (rounding : Rounding) (power : Int) : Option Nat :=
  let (numerator, denominator) := rounding.inTens power
  let below := numerator / denominator
  let remainder := numerator % denominator
  let fits (multiple : Nat) : Bool :=
    rounding.holds (multiple * tenTo power.toNat) (tenTo (-power).toNat)
  match fits below, fits (below + 1) with
  | true, true => some (if 2 * remainder < denominator then below else below + 1)
  | true, false => some below
  | false, true => some (below + 1)
  | false, false => none

/-- The power of ten of the first digit. -/
def leadingPower (rounding : Rounding) : Int :=
  let (numerator, denominator) := rounding.inTens 0
  if denominator ≤ numerator then
    ((Text.digits 10 (numerator / denominator)).length : Int) - 1
  else
    let inverse := (denominator + numerator - 1) / numerator
    Int.neg (Text.digits 10 (inverse - 1)).length

/-- The shortest digits with the power of ten they are multiplied by, tried from
the grid `power` on. -/
def shortestFrom (rounding : Rounding) (power : Int) : Nat → Nat × Int
  | 0 => (((rounding.inTens power).1 / (rounding.inTens power).2), power)
  | tries + 1 =>
    match rounding.onGrid? power with
    | some digits => (digits, power)
    | none => rounding.shortestFrom (power - 1) tries

/-- Rounding up may make one digit more in front, so the grid above the first digit
is tried too. -/
def shortest (rounding : Rounding) : Nat × Int :=
  rounding.shortestFrom (rounding.leadingPower + 1) 18

end Rounding

/-- The text of `digits · 10 ^ power`. -/
def positional (digits : Nat) (power : Int) : List Char :=
  let text := Text.digits 10 digits
  if 0 ≤ power then text ++ List.replicate power.toNat '0'
  else
    let places := (-power).toNat
    let padded := List.replicate (places + 1 - text.length) '0' ++ text
    padded.take (padded.length - places) ++ '.' :: padded.drop (padded.length - places)

def signed (negative : Bool) (text : List Char) : String :=
  String.ofList (if negative then '-' :: text else text)

def text : Binary64 → String
  | finite negative mantissa exponent =>
    if mantissa = 0 then signed negative ['0']
    else
      let (digits, power) := (Rounding.of mantissa exponent).shortest
      signed negative (positional digits power)
  | infinite negative => signed negative "inf".toList
  | nan => "NaN"

end DnsForwarder.Binary64
