import DnsForwarder.Unicode.Composition
import DnsForwarder.Unicode.Direction
import DnsForwarder.Unicode.DomainMapping
import DnsForwarder.Unicode.Joining
import DnsForwarder.Url.Percent
import DnsForwarder.Url.Punycode

/-!
# Domains

The name of a domain is read into its form in ASCII.  Its characters are read as
those that domains are made of, composed, and cut into labels at the dots.  A label
with other characters than those of ASCII is written as Punycode; one that is
written so already has to be the Punycode of a label that reading does not change.

No label starts with a mark, and a joiner stands only where it has an effect.  In a
domain with a character that is written from right to left, every label has to be
of one direction, at both ends and throughout.
-/

namespace DnsForwarder.Url

/-- A label and how it is written in ASCII. -/
structure Label where
  chars : List Char
  ascii : List Char
deriving DecidableEq, Repr

namespace Label

def isAscii (c : Char) : Bool := c.toNat < 128

/-- Characters of ASCII that no domain holds. -/
def isForbidden (c : Char) : Bool :=
  isControl c || c ∈ [' ', '%', '#', '/', ':', '<', '>', '?', '@', '[', '\\', ']', '^', '|']

/-- What a text is read as, unless one of its characters is refused. -/
def normal? (text : List Char) : Option (List Char) :=
  ((text.mapM Unicode.readAs?).map fun parts => Unicode.compose parts.flatten).filter
    fun normal => !normal.any isForbidden

/-! ## Joiners -/

/-- The class of the signs that leave out a vowel. -/
def viramaClass : Nat := 9

/-- Whether a letter that joins comes first but for transparent characters. -/
def meets (joins : Char → Bool) : List Char → Bool
  | [] => false
  | c :: rest => joins c || (Unicode.isTransparent c && meets joins rest)

/-- Whether the joiners of a text may stand where they stand; `before` is what comes
before the text, the last character first.  Both joiners may stand behind a sign
that leaves out a vowel, and the one that keeps letters apart also between letters
that would join. -/
def joinersFit (before : List Char) : List Char → Bool
  | [] => true
  | c :: rest =>
    let fits :=
      if c = '\u200c' ∨ c = '\u200d' then
        (before.head?.any fun previous => Unicode.combiningClass previous == viramaClass) ||
          (c == '\u200c' && meets Unicode.joinsNext before && meets Unicode.joinsPrevious rest)
      else true
    fits && joinersFit (c :: before) rest

/-! ## Directions -/

/-- Whether a direction makes its domain one with text from right to left. -/
def turns : Unicode.Direction → Bool
  | .rightToLeft | .arabicLetter | .arabicNumber => true
  | _ => false

/-- The directions that a label from left to right holds. -/
def suitsLeftToRight : Unicode.Direction → Bool
  | .rightToLeft | .arabicLetter | .arabicNumber | .other => false
  | _ => true

/-- The directions that a label from right to left holds. -/
def suitsRightToLeft : Unicode.Direction → Bool
  | .leftToRight | .other => false
  | _ => true

/-- Whether the characters of a label go together in a domain with text from right
to left.  The last one, but for marks, is a letter or a number, and European and
Arabic numbers do not stand in one label from right to left. -/
def directionsFit (label : List Char) : Bool :=
  match label.map Unicode.direction with
  | [] => true
  | first :: rest =>
    let rest := (rest.reverse.dropWhile (· == .mark)).reverse
    match first, rest.getLast? with
    | .leftToRight, none | .rightToLeft, none | .arabicLetter, none => true
    | .leftToRight, some last =>
      (last == .leftToRight || last == .europeanNumber) && rest.all suitsLeftToRight
    | .rightToLeft, some last | .arabicLetter, some last =>
      (last ∈ [.rightToLeft, .arabicLetter, .europeanNumber, .arabicNumber]) &&
        rest.all suitsRightToLeft &&
        !(rest.contains .europeanNumber && rest.contains .arabicNumber)
    | _, _ => false

/-! ## Labels -/

/-- The longest label outside ASCII. -/
def largestLabel : Nat := 1000

/-- The longest Punycode. -/
def largestCode : Nat := 2000

/-- Whether characters may be a label. -/
def isLabel (label : List Char) : Bool :=
  !(label.head?.any Unicode.isMark) && joinersFit [] label &&
    (label.all isAscii || label.length ≤ largestLabel)

/-- The label that a Punycode stands for. -/
def ofPunycode? (code : List Char) : Option (List Char) :=
  if code.getLast?.all (· == '-') ∨ largestCode < code.length then none
  else
    (Punycode.decode? code).filter fun label =>
      normal? label == some label && !label.contains '.'

/-- The label that a part of a domain is. -/
def ofText? (text : List Char) : Option Label :=
  let label : Option Label :=
    match text with
    | 'x' :: 'n' :: '-' :: '-' :: code => (ofPunycode? code).map fun chars => ⟨chars, text⟩
    | _ =>
      if text.all isAscii then some ⟨text, text⟩
      else some ⟨text, "xn--".toList ++ Punycode.encode text⟩
  label.filter fun label => isLabel label.chars

end Label

/-- The form of a domain in ASCII. -/
def asciiDomain? (name : List Char) : Option (List Char) := do
  let labels ← (Text.splitOn '.' (← Label.normal? name)).mapM Label.ofText?
  if labels.any (fun label => label.chars.any fun c => Label.turns (Unicode.direction c)) ∧
      ¬labels.all (fun label => Label.directionsFit label.chars) then
    none
  return Text.joinWith ['.'] (labels.map Label.ascii)

end DnsForwarder.Url
