/-!
# Punycode

A label with characters outside ASCII is written in ASCII: first its own ASCII
characters, then, behind a hyphen, where and which others are to be inserted.
The insertions are taken by rising character and then by place, and each is
written as its distance from the one before, in a numeral of base 36 with
thresholds that adapt to the distances so far.

## Strategy

`place` counts the ways in which one more character could be inserted: with `n`
characters there are `n + 1` places for each character, and a distance runs
through all of them.  Writing folds over the label once for each distinct
character outside ASCII; reading inserts one character for each numeral.
-/

namespace DnsForwarder.Url.Punycode

/-! ## Digits and thresholds -/

def digitChar (digit : Nat) : Char :=
  if digit < 26 then Char.ofNat (97 + digit) else Char.ofNat (22 + digit)

def digitValue? (c : Char) : Option Nat :=
  if 'a' ≤ c ∧ c ≤ 'z' then some (c.toNat - 97)
  else if 'A' ≤ c ∧ c ≤ 'Z' then some (c.toNat - 65)
  else if '0' ≤ c ∧ c ≤ '9' then some (c.toNat - 22)
  else none

/-- Digits below the threshold end a numeral; `position` grows by 36 a digit. -/
def threshold (bias position : Nat) : Nat := min 26 (max 1 (position - bias))

/-- How much the bias shifts for distances of this size. -/
def shift (size : Nat) : Nat :=
  if 455 < size then 36 + shift (size / 35) else 36 * size / (size + 38)
termination_by size

/-- The bias behind a distance, where the label now has `count` characters. -/
def adapt (distance count : Nat) (first : Bool) : Nat :=
  let scaled := if first then distance / 700 else distance / 2
  shift (scaled + scaled / count)

def startBias : Nat := 72

/-! ## Writing -/

def numeral (bias position value : Nat) : List Char :=
  let limit := threshold bias position
  if value < limit then [digitChar value]
  else
    digitChar (limit + (value - limit) % (36 - limit)) ::
      numeral bias (position + 36) ((value - limit) / (36 - limit))
termination_by value
decreasing_by
  have positive : 1 ≤ threshold bias position := by unfold threshold; omega
  exact Nat.lt_of_le_of_lt (Nat.div_le_self _ _) (by omega)

/-- How far the writing of a label has come. -/
structure Progress where
  /-- The distance from the last insertion. -/
  distance : Nat
  bias : Nat
  /-- The characters that are written. -/
  count : Nat
  text : List Char

/-- Passes a character of the label while `code` is inserted. -/
def pass (code basic : Nat) (progress : Progress) (c : Char) : Progress :=
  if c.toNat < code then { progress with distance := progress.distance + 1 }
  else if c.toNat = code then
    { distance := 0
      bias := adapt progress.distance (progress.count + 1) (progress.count = basic)
      count := progress.count + 1
      text := progress.text ++ numeral progress.bias 36 progress.distance }
  else progress

/-- Writes the insertions of the characters with these codes, which rise from
`last` on. -/
def insertions (label : List Char) (basic : Nat) (progress : Progress) (last : Nat) :
    List Nat → List Char
  | [] => progress.text
  | code :: rest =>
    let reached :=
      { progress with distance := progress.distance + (code - last) * (progress.count + 1) }
    let passed := label.foldl (pass code basic) reached
    insertions label basic { passed with distance := passed.distance + 1 } (code + 1) rest

/-- Adds a number to a rising list unless it is there. -/
def addRising (value : Nat) : List Nat → List Nat
  | [] => [value]
  | first :: rest =>
    if value < first then value :: first :: rest
    else if value = first then first :: rest
    else first :: addRising value rest

def encode (label : List Char) : List Char :=
  let basic := label.filter fun c => c.toNat < 128
  let codes := (label.filter fun c => 128 ≤ c.toNat).map Char.toNat
  let start := if basic.isEmpty then [] else basic ++ ['-']
  insertions label basic.length ⟨0, startBias, basic.length, start⟩ 128
    (codes.foldr addRising [])

/-! ## Reading -/

/-- The numbers that reading may reach stay below this one. -/
def limit : Nat := 4294967296

/-- Reads one numeral. -/
def readNumeral? (bias position weight value : Nat) : List Char → Option (Nat × List Char)
  | [] => none
  | c :: rest =>
    match digitValue? c with
    | none => none
    | some digit =>
      let last := threshold bias position
      if digit < last then some (value + digit * weight, rest)
      else if limit ≤ weight * (36 - last) then none
      else readNumeral? bias (position + 36) (weight * (36 - last)) (value + digit * weight) rest

/-- Inserts a character for each numeral; each uses up a character of the text, so
its length is fuel enough. -/
def insertAll? (fuel place code bias : Nat) (label text : List Char) : Option (List Char) :=
  match fuel, text with
  | _, [] => some label
  | 0, _ => none
  | fuel + 1, text =>
    match readNumeral? bias 36 1 0 text with
    | none => none
    | some (distance, rest) =>
      let count := label.length + 1
      let reached := place + distance
      let code := code + reached / count
      if limit ≤ reached ∨ ¬code.isValidChar then none
      else
        insertAll? fuel (reached % count + 1) code (adapt distance count (place = 0))
          (label.insertIdx (reached % count) (Char.ofNat code)) rest

/-- The text around the last hyphen, which stands behind the ASCII characters. -/
def splitHyphen (text : List Char) : List Char × List Char :=
  match text.reverse.span (· != '-') with
  | (_, []) => ([], text)
  | (_, [_]) => ([], text)
  | (back, _ :: front) => (front.reverse, back.reverse)

def decode? (text : List Char) : Option (List Char) :=
  let (basic, rest) := splitHyphen text
  if basic.all fun c => c.toNat < 128 then insertAll? rest.length 0 128 startBias basic rest
  else none

end DnsForwarder.Url.Punycode
