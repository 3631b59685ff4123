import DnsForwarder.Datum
import DnsForwarder.Text.Split
import DnsForwarder.Toml.Moment

/-!
# TOML words

A value without quotes and brackets is one word: a truth value, a moment, an
integer or another number.  Underscores may stand between two digits.  An integer
has to fit into 64 bits; a decimal one has no leading zero.  A number with a point
or an exponent has to lie in the range of double precision.
-/

namespace DnsForwarder.Toml

/-- Takes out the underscores between digits; there has to be one digit at least. -/
def grouped? (base : Nat) : List Char → Option (List Char)
  | [] => none
  | [c] => if (Text.digitIn? base c).isSome then some [c] else none
  | c :: '_' :: rest =>
    if (Text.digitIn? base c).isSome then (grouped? base rest).map (c :: ·) else none
  | c :: rest =>
    if (Text.digitIn? base c).isSome then (grouped? base rest).map (c :: ·) else none

/-- The sign in front, and what is behind it. -/
def splitSign : List Char → Bool × List Char
  | '-' :: rest => (true, rest)
  | '+' :: rest => (false, rest)
  | text => (false, text)

/-- Digits without a leading zero. -/
def wholeDigits? (text : List Char) : Option (List Char) :=
  (grouped? 10 text).filter fun digits => digits.length = 1 || digits.head? != some '0'

def word64? (value : Int) : Option Int :=
  if -9223372036854775808 ≤ value ∧ value ≤ 9223372036854775807 then some value else none

def signed (negative : Bool) (magnitude : Nat) : Int :=
  if negative then -(magnitude : Int) else magnitude

def decimalInteger? (text : List Char) : Option Int := do
  let (negative, rest) := splitSign text
  let magnitude ← Text.ofDigits? 10 (← wholeDigits? rest)
  word64? (signed negative magnitude)

def inBase? (base : Nat) (text : List Char) : Option Int := do
  let magnitude ← Text.ofDigits? base (← grouped? base text)
  word64? magnitude

def integer? : List Char → Option Int
  | '0' :: 'x' :: rest => inBase? 16 rest
  | '0' :: 'o' :: rest => inBase? 8 rest
  | '0' :: 'b' :: rest => inBase? 2 rest
  | text => decimalInteger? text

/-- The text around the mark of an exponent. -/
def splitExponent (text : List Char) : List Char × Option (List Char) :=
  match text.span fun c => c != 'e' && c != 'E' with
  | (front, _ :: exponent) => (front, some exponent)
  | (front, []) => (front, none)

def exponent? : Option (List Char) → Option Int
  | none => some 0
  | some text => do
    let (negative, rest) := splitSign text
    return signed negative (← Text.ofDigits? 10 (← grouped? 10 rest))

/-- The digits in front of and behind the point. -/
def pointed? (text : List Char) : Option (List Char × List Char) :=
  match Text.splitOnce '.' text with
  | none => (wholeDigits? text).map (·, [])
  | some (whole, fraction) => do return (← wholeDigits? whole, ← grouped? 10 fraction)

/-- A number with a point or an exponent. -/
def finite? (negative : Bool) (text : List Char) : Option Binary64 := do
  let (front, exponent) := splitExponent text
  let (whole, fraction) ← pointed? front
  if fraction.isEmpty ∧ exponent.isNone then none
  let power ← exponent? exponent
  let digits ← Text.ofDigits? 10 (whole ++ fraction)
  let width := whole.length + fraction.length
  (some (Binary64.ofDecimal negative digits width (power - fraction.length))).filter
    Binary64.isFinite

def number? (text : List Char) : Option Binary64 :=
  match splitSign text with
  | (negative, ['i', 'n', 'f']) => some (.infinite negative)
  | (_, ['n', 'a', 'n']) => some .nan
  | (negative, rest) => finite? negative rest

/-- The value a word stands for. -/
def word? (text : List Char) : Option Datum :=
  if text = "true".toList then some (.flag true)
  else if text = "false".toList then some (.flag false)
  else
    match moment? text with
    | some moment => some (.text (String.ofList moment))
    | none =>
      match integer? text with
      | some value => some (.integer value)
      | none => (number? text).map .number

def isWordCharacter (c : Char) : Bool :=
  c.isAlphanum || c == '+' || c == '-' || c == '_' || c == '.' || c == ':'

/-- The word at the start of a text.  A blank between a date and a time belongs
to the word. -/
def spanWord (text : List Char) : List Char × List Char :=
  let (word, rest) := text.span isWordCharacter
  match date? word, rest with
  | some (_, []), ' ' :: c :: rest =>
    if Text.isDecimal c then
      let (time, rest) := (c :: rest).span isWordCharacter
      (word ++ ' ' :: time, rest)
    else (word, ' ' :: c :: rest)
  | _, rest => (word, rest)

end DnsForwarder.Toml
