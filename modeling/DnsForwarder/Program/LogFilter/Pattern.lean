import DnsForwarder.Text.Digits
import DnsForwarder.Text.Split
import DnsForwarder.Unicode.Letter

/-!
# Patterns

A directive may ask for a field whose value matches a pattern, a regular expression
over bytes or over characters.  What the patterns match is not needed here, but which
texts are patterns: `isPattern` reads one from its first character to its last and
keeps in mind the flags that are set and the groups that are open.

The patterns know characters without their properties.  As long as a pattern is about
characters, which it is from its start on, it may therefore not ask for classes of
characters such as digits, for the ends of words or for letters of either case.  In a
pattern about bytes it may not match what is no text, as all that is not in a set does.
-/

namespace DnsForwarder.LogFilter.Pattern

/-! ## Flags -/

structure Flags where
  /-- Whether blanks and comments between the parts of a pattern are passed over. -/
  spaced : Bool := false
  /-- Whether letters stand for themselves in either case. -/
  caseless : Bool := false
  /-- Whether the pattern is about characters and not about bytes. -/
  characters : Bool := true
deriving DecidableEq, Repr

namespace Flags

def assign (flags : Flags) (c : Char) (value : Bool) : Flags :=
  match c with
  | 'x' => { flags with spaced := value }
  | 'i' => { flags with caseless := value }
  | 'u' => { flags with characters := value }
  | _ => flags

/-- Whether a letter or a set needs what is not known about characters. -/
def needsCases (flags : Flags) : Bool := flags.characters && flags.caseless

/-- Reads flags up to the colon or the parenthesis behind them.  None comes twice,
and the hyphen in front of those that are cleared is not the last. -/
def read? (flags : Flags) (seen : List Char) (value : Bool) :
    List Char → Option (Flags × List Char × Char × List Char)
  | [] => none
  | c :: rest =>
    if c = ':' ∨ c = ')' then
      if seen.head? = some '-' then none else some (flags, seen, c, rest)
    else if c ∈ ['-', 'i', 'm', 's', 'U', 'u', 'R', 'x'] ∧ c ∉ seen then
      read? (flags.assign c value) (c :: seen) (value && c != '-') rest
    else none

end Flags

/-- Passes over blanks and over comments, which end with their line. -/
def passSpace (comment : Bool) : List Char → List Char
  | [] => []
  | c :: rest =>
    if comment then passSpace (c != '\n') rest
    else if Unicode.isBlank c then passSpace false rest
    else if c = '#' then passSpace true rest
    else c :: rest

def skip (flags : Flags) (text : List Char) : List Char :=
  if flags.spaced then passSpace false text else text

/-! ## Escapes -/

/-- What an escape stands for. -/
inductive Atom
  | literal (code : Nat)
  /-- A byte by its number. -/
  | byte (code : Nat)
  | characterClass (complement : Bool)
  /-- An end of the text or of a word. -/
  | edge (ofWord : Bool)
deriving DecidableEq, Repr

/-- Reads hexadecimal digits, between which there may be space. -/
def hexDigits? (flags : Flags) (value : Nat) : Nat → List Char → Option (Nat × List Char)
  | 0, text => some (value, text)
  | count + 1, text =>
    match skip flags text with
    | [] => none
    | c :: rest =>
      (Text.digitIn? 16 c).bind fun digit => hexDigits? flags (16 * value + digit) count rest

/-- A character by its number in so many digits. -/
def byNumber? (flags : Flags) (count : Nat) (text : List Char) : Option (Atom × List Char) :=
  match hexDigits? flags 0 count text with
  | none => none
  | some (code, rest) =>
    if ¬code.isValidChar then none
    else some (if count = 2 then .byte code else .literal code, rest)

/-- Characters that stand for themselves behind a backslash: all signs of ASCII. -/
def isSign (c : Char) : Bool := c.toNat < 128 && !c.isAlphanum && c != '<' && c != '>'

/-- Reads an escape behind its backslash. -/
def escape? (flags : Flags) : List Char → Option (Atom × List Char)
  | [] => none
  | c :: rest =>
    match c with
    | 'x' => byNumber? flags 2 rest
    | 'u' => byNumber? flags 4 rest
    | 'U' => byNumber? flags 8 rest
    | 'd' | 's' | 'w' => some (.characterClass false, rest)
    | 'D' | 'S' | 'W' => some (.characterClass true, rest)
    | 'A' | 'z' => some (.edge false, rest)
    | 'b' | 'B' | '<' | '>' => some (.edge true, rest)
    | 'a' => some (.literal 7, rest)
    | 't' => some (.literal 9, rest)
    | 'n' => some (.literal 10, rest)
    | 'v' => some (.literal 11, rest)
    | 'f' => some (.literal 12, rest)
    | 'r' => some (.literal 13, rest)
    | c => if isSign c then some (.literal c.toNat, rest) else none

/-- Whether a part of a pattern goes with the flags outside a set. -/
def Atom.fits (flags : Flags) : Atom → Bool
  | literal _ => !flags.needsCases
  | byte code => !flags.needsCases && (flags.characters || code < 128)
  | characterClass complement => !flags.characters && !complement
  | edge ofWord => !(flags.characters && ofWord)

/-- Whether a part of a pattern goes with the flags within a set. -/
def Atom.fitsInSet (flags : Flags) : Atom → Bool
  | literal code | byte code => flags.characters || code < 128
  | characterClass complement => !flags.characters && !complement
  | edge _ => false

def Atom.code? : Atom → Option Nat
  | literal code | byte code => some code
  | _ => none

/-! ## Sets -/

def asciiClasses : List String :=
  ["alnum", "alpha", "ascii", "blank", "cntrl", "digit", "graph", "lower", "print", "punct",
    "space", "upper", "word", "xdigit"]

/-- Reads the name of a class between colons and brackets, behind the first bracket:
whether all other characters are meant, and what is behind it. -/
def asciiClass? : List Char → Option (Bool × List Char)
  | ':' :: rest =>
    let complement := rest.head? == some '^'
    let inner := if complement then rest.drop 1 else rest
    match Text.splitOnce ':' inner with
    | some (name, ']' :: rest) =>
      if String.ofList name ∈ asciiClasses then some (complement, rest) else none
    | _ => none
  | _ => none

/-- One member of a set or one end of a range. -/
def member? (flags : Flags) : List Char → Option (Atom × List Char)
  | [] => none
  | '\\' :: rest => escape? flags rest
  | c :: rest => some (.literal c.toNat, rest)

/-- Reads a member of a set or a range from one to another.  A hyphen before the end
of the set or before another hyphen makes no range. -/
def members? (flags : Flags) (text : List Char) : Option (List Char) := do
  let (first, rest) ← member? flags text
  if ¬first.fitsInSet flags then none
  match skip flags rest with
  | [] => none
  | '-' :: behind =>
    match skip flags behind with
    | [] => none
    | ']' :: _ | '-' :: _ => some ('-' :: behind)
    | text =>
      let (last, rest) ← member? flags text
      if ¬last.fitsInSet flags then none
      if (← first.code?) ≤ (← last.code?) then some rest else none
  | rest => some rest

/-- Passes over the hyphens that a set may start with, or over a bracket in place of them. -/
def setStart (flags : Flags) (text : List Char) : List Char :=
  match text with
  | ']' :: rest => rest
  | text => text.dropWhile fun c => c == '-' || (flags.spaced && Unicode.isBlank c)

/-- What is behind the opening bracket of a set and the circumflex of a complement. -/
def openSet? (flags : Flags) (text : List Char) : Option (List Char) :=
  match skip flags text with
  | '^' :: rest => if flags.characters then some (setStart flags (skip flags rest)) else none
  | text => some (setStart flags text)

/-- Reads a set up to its last bracket; `depth` more are open within it.  Each step
uses up a character, so the length of the text is fuel enough. -/
def set? (flags : Flags) (fuel depth : Nat) (text : List Char) : Option (List Char) :=
  match fuel with
  | 0 => none
  | fuel + 1 =>
    match skip flags text with
    | [] => none
    | '[' :: rest =>
      match asciiClass? rest with
      | some (complement, rest) =>
        if complement ∧ ¬flags.characters then none else set? flags fuel depth rest
      | none => (openSet? flags rest).bind (set? flags fuel (depth + 1))
    | ']' :: rest =>
      match depth with
      | 0 => some rest
      | depth + 1 => set? flags fuel depth rest
    | '&' :: '&' :: rest | '-' :: '-' :: rest | '~' :: '~' :: rest => set? flags fuel depth rest
    | text => (members? flags text).bind (set? flags fuel depth)

/-! ## Groups -/

def startsName (c : Char) : Bool := c == '_' || Unicode.isAlphabetic c

def isInName (c : Char) : Bool :=
  c ∈ ['_', '.', '[', ']'] || Unicode.isAlphanumeric c

/-- Reads the name of a group up to the bracket behind it. -/
def name? (text : List Char) : Option (List Char × List Char) :=
  match Text.splitOnce '>' text with
  | some (c :: name, rest) =>
    if startsName c ∧ name.all isInName then some (c :: name, rest) else none
  | _ => none

/-- How far the reading of a pattern has come. -/
structure Progress where
  flags : Flags := {}
  /-- The flags outside each open group. -/
  outer : List Flags := []
  names : List (List Char) := []
  /-- Whether what comes before can be repeated. -/
  repeatable : Bool := false

namespace Progress

/-- Enters a group within which these flags are set. -/
def enter (progress : Progress) (flags : Flags) : Progress :=
  { progress with flags, outer := progress.flags :: progress.outer, repeatable := false }

/-- Enters a group with a name that no other has. -/
def enterNamed? (progress : Progress) (text : List Char) : Option (Progress × List Char) := do
  let (name, rest) ← name? text
  if progress.names.contains name then none
  return ({ progress.enter progress.flags with names := name :: progress.names }, rest)

/-- Reads what is behind an opening parenthesis up to the content of the group.
Flags alone are no group and hold to the end of the one around them. -/
def openGroup? (progress : Progress) (text : List Char) : Option (Progress × List Char) :=
  match skip progress.flags text with
  | '?' :: 'P' :: '<' :: rest | '?' :: '<' :: rest => progress.enterNamed? rest
  | '?' :: rest =>
    match progress.flags.read? [] true rest with
    | some (_, [], ')', _) => none
    | some (flags, _, ')', rest) => some ({ progress with flags, repeatable := false }, rest)
    | some (flags, _, _, rest) => some (progress.enter flags, rest)
    | none => none
  | text => some (progress.enter progress.flags, text)

/-- Leaves a group, if one is open. -/
def leave? (progress : Progress) : Option Progress :=
  match progress.outer with
  | [] => none
  | flags :: outer => some { progress with flags, outer, repeatable := true }

end Progress

/-! ## Patterns -/

/-- Passes over the mark that makes a repetition a short one. -/
def passShort : List Char → List Char
  | '?' :: rest => rest
  | text => text

/-- Reads one part of a pattern, which starts with `c`. -/
def part? (progress : Progress) (c : Char) (rest : List Char) :
    Option (Progress × List Char) :=
  let flags := progress.flags
  let read (fits : Bool) (rest : List Char) : Option (Progress × List Char) :=
    if fits then some ({ progress with repeatable := true }, rest) else none
  match c with
  | '(' => progress.openGroup? rest
  | ')' => progress.leave?.map fun progress => (progress, rest)
  | '|' => some ({ progress with repeatable := false }, rest)
  | '?' | '*' | '+' => if progress.repeatable then some (progress, passShort rest) else none
  | '\x7b' => none
  | '[' =>
    if flags.needsCases then none
    else ((openSet? flags rest).bind (set? flags (rest.length + 1) 0)).bind (read true)
  | '\\' => (escape? flags rest).bind fun (atom, rest) => read (atom.fits flags) rest
  | '.' => read flags.characters rest
  | '^' | '$' => read true rest
  | c => read (Atom.fits flags (.literal c.toNat)) rest

/-- Whether the rest of a pattern can be read.  Each part uses up a character, so the
length of the text is fuel enough. -/
def fits (fuel : Nat) (progress : Progress) (text : List Char) : Bool :=
  match fuel, skip progress.flags text with
  | _, [] => progress.outer.isEmpty
  | 0, _ => false
  | fuel + 1, c :: rest =>
    match part? progress c rest with
    | some (progress, rest) => fits fuel progress rest
    | none => false

def isPattern (text : List Char) : Bool := fits text.length {} text

end DnsForwarder.LogFilter.Pattern
