import DnsForwarder.Text.Digits
import DnsForwarder.Text.Split

/-!
# Sets of characters

A property of characters is a list of ranges of their numbers.  The tables of this
folder are texts: words with blanks between them, where a range is written as its
first and its last character in hexadecimal digits with a hyphen in between, and a
single character without one.
-/

namespace DnsForwarder.Unicode

/-! ## Words of a table -/

/-- Words that are complete and the one that is not, each the last first. -/
def addCharacter (state : List (List Char) × List Char) (c : Char) :
    List (List Char) × List Char :=
  if c = ' ' ∨ c = '\n' then
    if state.2.isEmpty then state else (state.2.reverse :: state.1, [])
  else (state.1, c :: state.2)

/-- The words of a text that ends with a blank. -/
def words (text : String) : List (List Char) :=
  (text.toList.foldl addCharacter ([], [])).1.reverse

def ofHex (digits : List Char) : Nat := (Text.ofDigits? 16 digits).getD 0

/-! ## Ranges -/

structure CodeRange where
  first : Nat
  last : Nat
deriving DecidableEq, Repr

namespace CodeRange

def ofWord (word : List Char) : CodeRange :=
  match Text.splitOnce '-' word with
  | some (first, last) => ⟨ofHex first, ofHex last⟩
  | none => ⟨ofHex word, ofHex word⟩

def contains (range : CodeRange) (code : Nat) : Bool := range.first ≤ code && code ≤ range.last

end CodeRange

/-! ## Sets -/

structure CodeSet where
  ranges : List CodeRange
deriving DecidableEq, Repr

namespace CodeSet

def ofText (text : String) : CodeSet := ⟨(words text).map CodeRange.ofWord⟩

def contains (set : CodeSet) (c : Char) : Bool :=
  set.ranges.any fun range => range.contains c.toNat

end CodeSet

/-! ## Blanks -/

/-- The characters that leave space between words. -/
def blankSet : CodeSet := .ofText "9-d 20 85 a0 1680 2000-200a 2028-2029 202f 205f 3000 "

def isBlank (c : Char) : Bool :=
  if c.toNat < 128 then c == ' ' || ('\t' ≤ c && c ≤ '\x0d') else blankSet.contains c

/-- A text without the blanks at its ends. -/
def trimBlanks (text : List Char) : List Char :=
  ((text.dropWhile isBlank).reverse.dropWhile isBlank).reverse

end DnsForwarder.Unicode
