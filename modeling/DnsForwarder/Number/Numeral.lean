import DnsForwarder.Number.Binary64
import DnsForwarder.Text.Digits
import DnsForwarder.Text.Split

/-!
# Numbers written by hand

The numerals that variables and options may hold: integers with an optional
sign, and numbers with a point, an exponent or a name.  Leading zeros are
allowed, blanks and underscores are not.
-/

namespace DnsForwarder.Numeral

/-- A natural number, perhaps with a plus sign. -/
def natural? : List Char → Option Nat
  | '+' :: rest => Text.ofDigits? 10 rest
  | text => Text.ofDigits? 10 text

/-- An integer with a sign or none. -/
def integer? : List Char → Option Int
  | '-' :: rest => (Text.ofDigits? 10 rest).map fun magnitude => -(magnitude : Int)
  | text => (natural? text).map Int.ofNat

/-- An integer of 64 bits. -/
def integer64? (text : List Char) : Option Int :=
  (integer? text).filter fun value =>
    -9223372036854775808 ≤ value && value ≤ 9223372036854775807

/-- The sign in front, and what is behind it. -/
def splitSign : List Char → Bool × List Char
  | '-' :: rest => (true, rest)
  | '+' :: rest => (false, rest)
  | text => (false, text)

/-- The digits in front of and behind the point; one of the two may be missing. -/
def pointed? (text : List Char) : Option (List Char × List Char) :=
  let (whole, fraction) := (Text.splitOnce '.' text).getD (text, [])
  if whole.isEmpty ∧ fraction.isEmpty then none else some (whole, fraction)

/-- A number without sign and name. -/
def positive? (negative : Bool) (text : List Char) : Option Binary64 := do
  let (front, exponent) :=
    match text.span fun c => c != 'e' && c != 'E' with
    | (front, _ :: exponent) => (front, some exponent)
    | (front, []) => (front, none)
  let (whole, fraction) ← pointed? front
  let digits ← Text.ofDigits? 10 (whole ++ fraction)
  let power ← exponent.elim (some 0) integer?
  return .ofDecimal negative digits (whole.length + fraction.length) (power - fraction.length)

/-- A number of double precision. -/
def number? (text : List Char) : Option Binary64 :=
  let (negative, rest) := splitSign text
  let name := rest.map Char.toLower
  if name = "inf".toList ∨ name = "infinity".toList then some (.infinite negative)
  else if name = "nan".toList then some .nan
  else positive? negative rest

end DnsForwarder.Numeral
