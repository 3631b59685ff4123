import DnsForwarder.Text.Digits

/-!
# TOML dates and times

A moment is a date, a time, or both, and with both an offset from universal time.
A time may leave out its seconds.  A moment is kept as its text, in which a `T`
stands between date and time, an offset of nothing is `Z` if it was written so,
and a fraction of a second has at most nine digits and no zeros behind its first.
-/

namespace DnsForwarder.Toml

/-- Reads a number of exactly `width` digits from `lowest` to `highest`. -/
def fixed? (width lowest highest : Nat) (text : List Char) : Option (Nat × List Char) :=
  match Text.ofDigits? 10 (text.take width) with
  | some value =>
    if width ≤ text.length ∧ lowest ≤ value ∧ value ≤ highest then
      some (value, text.drop width)
    else none
  | none => none

/-- Reads `mark` and then a number of two digits. -/
def marked? (mark : Char) (lowest highest : Nat) : List Char → Option (Nat × List Char)
  | c :: rest => if c = mark then fixed? 2 lowest highest rest else none
  | [] => none

/-- A number with zeros in front up to `width` digits. -/
def padded (width value : Nat) : List Char :=
  let text := Text.digits 10 value
  List.replicate (width - text.length) '0' ++ text

def isLeapYear (year : Nat) : Bool :=
  year % 4 == 0 && (year % 100 != 0 || year % 400 == 0)

def daysOf (year month : Nat) : Nat :=
  if month = 2 then if isLeapYear year then 29 else 28
  else if month ∈ [4, 6, 9, 11] then 30
  else 31

/-- Reads a date, and gives its text. -/
def date? (text : List Char) : Option (List Char × List Char) := do
  let (year, rest) ← fixed? 4 0 9999 text
  let (month, rest) ← marked? '-' 1 12 rest
  let (day, rest) ← marked? '-' 1 (daysOf year month) rest
  return (padded 4 year ++ '-' :: padded 2 month ++ '-' :: padded 2 day, rest)

/-- The text of a fraction of a second. -/
def fractionText (digits : List Char) : List Char :=
  match ((digits.take 9).reverse.dropWhile (· == '0')).reverse with
  | [] => ['.', '0']
  | kept => '.' :: kept

/-- Reads the seconds of a time, if there are any, and their fraction. -/
def seconds? (text : List Char) : Option (List Char × List Char) :=
  match text with
  | ':' :: rest =>
    match fixed? 2 0 60 rest with
    | none => none
    | some (second, '.' :: rest) =>
      match rest.takeWhile Text.isDecimal with
      | [] => none
      | digits =>
        some (':' :: padded 2 second ++ fractionText digits, rest.dropWhile Text.isDecimal)
    | some (second, rest) => some (':' :: padded 2 second, rest)
  | _ => some ([], text)

def time? (text : List Char) : Option (List Char × List Char) := do
  let (hour, rest) ← fixed? 2 0 23 text
  let (minute, rest) ← marked? ':' 0 59 rest
  let (second, rest) ← seconds? rest
  return (padded 2 hour ++ ':' :: padded 2 minute ++ second, rest)

/-- Reads the offset that the rest of a text has to be. -/
def offset? : List Char → Option (List Char)
  | [] => some []
  | ['Z'] | ['z'] => some ['Z']
  | sign :: rest =>
    if sign = '+' ∨ sign = '-' then
      match fixed? 2 0 23 rest with
      | none => none
      | some (hours, rest) =>
        match marked? ':' 0 59 rest with
        | some (minutes, []) =>
          let shown := if hours = 0 ∧ minutes = 0 then '+' else sign
          some (shown :: padded 2 hours ++ ':' :: padded 2 minutes)
        | _ => none
    else none

/-- The text of the moment that the whole of a text is. -/
def moment? (text : List Char) : Option (List Char) :=
  match date? text with
  | some (date, []) => some date
  | some (date, mark :: rest) =>
    if mark = 'T' ∨ mark = 't' ∨ mark = ' ' then do
      let (time, rest) ← time? rest
      return date ++ 'T' :: time ++ (← offset? rest)
    else none
  | none =>
    match time? text with
    | some (time, []) => some time
    | _ => none

end DnsForwarder.Toml
