import DnsForwarder.Number.Numeral
import DnsForwarder.Program.LogFilter.Pattern

/-!
# Directives of a log filter

A directive gives a level to the lines of a target and of those below it, or to
lines in spans and with fields of certain names: `target[span{field=value}]=level`,
of which most parts may be missing.  A word alone is a level if it names one, and
otherwise a target whose lines are all shown.

The marks between the words are looked for in the directive without the blanks at
its ends, but the words are cut out of the directive as it stands, at the same
places.  Behind a blank each word is therefore cut too early, and the reading breaks
off where a cut would go through a character.
-/

namespace DnsForwarder.LogFilter

inductive Level
  | off
  | error
  | warn
  | info
  | debug
  | trace
deriving DecidableEq, Repr

namespace Level

def ofNumber? : Nat → Option Level
  | 0 => some off
  | 1 => some error
  | 2 => some warn
  | 3 => some info
  | 4 => some debug
  | 5 => some trace
  | _ => none

def ofName? (name : List Char) : Option Level :=
  match String.ofList (name.map Char.toLower) with
  | "" => some error
  | "off" => some off
  | "error" => some error
  | "warn" => some warn
  | "info" => some info
  | "debug" => some debug
  | "trace" => some trace
  | _ => none

/-- The level that a number or a name stands for. -/
def parse? (text : List Char) : Option Level :=
  match (Numeral.natural? text).bind ofNumber? with
  | some level => some level
  | none => ofName? text

end Level

/-- A field that a directive asks for. -/
structure Field where
  name : List Char
  hasValue : Bool
deriving DecidableEq, Repr

structure Directive where
  target : Option (List Char)
  /-- Whether the directive is for the lines of a span. -/
  inSpan : Bool
  fields : List Field
  level : Level
deriving DecidableEq, Repr

/-- What is wrong with a directive. -/
inductive Flaw
  | malformed
  /-- A place where a word is cut lies inside a character. -/
  | cutsCharacter
deriving DecidableEq, Repr

namespace Directive

/-! ## Words -/

/-- A text behind its first bytes. -/
def dropBytes? (count : Nat) : List Char → Option (List Char)
  | [] => if count = 0 then some [] else none
  | c :: rest =>
    if count = 0 then some (c :: rest)
    else if c.utf8Size ≤ count then dropBytes? (count - c.utf8Size) rest
    else none

/-- The first bytes of a text. -/
def takeBytes? (count : Nat) : List Char → Option (List Char)
  | [] => if count = 0 then some [] else none
  | c :: rest =>
    if count = 0 then some []
    else if c.utf8Size ≤ count then (takeBytes? (count - c.utf8Size) rest).map (c :: ·)
    else none

/-- The characters from one place to another, counted in bytes. -/
def cut (text : List Char) (first last : Nat) : Except Flaw (List Char) :=
  match (dropBytes? first text).bind (takeBytes? (last - first)) with
  | some word => .ok word
  | none => .error .cutsCharacter

def sizeInBytes (text : List Char) : Nat :=
  text.foldl (fun size c => size + c.utf8Size) 0

/-- A level behind an equals sign; all lines are shown if there is none. -/
def levelOf (word : List Char) : Except Flaw Level :=
  if word.isEmpty then .ok .trace
  else
    match Level.parse? word with
    | some level => .ok level
    | none => .error .malformed

/-- A field with its value, if there is one: a number or a pattern. -/
def fieldOf (word : List Char) : Except Flaw Field :=
  if word.isEmpty then .error .malformed
  else
    match Text.splitOn '=' word with
    | name :: value :: _ =>
      if (Numeral.number? value).isSome ∨ Pattern.isPattern value then .ok ⟨name, true⟩
      else .error .malformed
    | _ => .ok ⟨word, false⟩

/-! ## Reading -/

/-- What is read, with the place where its word starts. -/
inductive Expecting
  | start
  | word (first : Nat)
  | span (first : Nat)
  | field (first : Nat)
  | spanEnd
  | levelMark
  | level (first : Nat)
deriving DecidableEq, Repr

/-- A directive as far as it is read. -/
structure Draft where
  expecting : Expecting
  directive : Directive

def startsWord (c : Char) : Bool :=
  c == '-' || c == ':' || c == '_' || Unicode.isAlphanumeric c

/-- Reads one character, which stands at this place.  The words are cut from `text`. -/
def Draft.step (text : List Char) (draft : Draft) (place : Nat) (c : Char) :
    Except Flaw Draft :=
  let directive := draft.directive
  match draft.expecting, c with
  | .start, '[' => .ok ⟨.span (place + 1), directive⟩
  | .start, c => if startsWord c then .ok ⟨.word place, directive⟩ else .error .malformed
  | .word first, '=' => do
    return ⟨.level (place + 1), { directive with target := ← cut text first place }⟩
  | .word first, '[' => do
    return ⟨.span (place + 1), { directive with target := ← cut text first place }⟩
  | .span first, ']' => do
    let _ ← cut text first place
    return ⟨.levelMark, { directive with inSpan := true }⟩
  | .span first, '\x7b' => do
    let name ← cut text first place
    return ⟨.field (place + 1), { directive with inSpan := !name.isEmpty }⟩
  | .field first, '\x7d' => do
    let field ← fieldOf (← cut text first place)
    return ⟨.spanEnd, { directive with fields := directive.fields ++ [field] }⟩
  | .spanEnd, ']' => .ok ⟨.levelMark, directive⟩
  | .levelMark, '=' => .ok ⟨.level (place + 1), directive⟩
  | .word _, _ | .span _, _ | .field _, _ | .level _, _ => .ok draft
  | .spanEnd, _ | .levelMark, _ => .error .malformed

/-- Reads characters, the first of which stands at `place`. -/
def Draft.run (text : List Char) (draft : Draft) (place : Nat) :
    List Char → Except Flaw Draft
  | [] => .ok draft
  | c :: rest => do Draft.run text (← draft.step text place c) (place + c.utf8Size) rest

/-- The directive that is read when its text ends. -/
def Draft.finish (text : List Char) (draft : Draft) : Except Flaw Directive :=
  match draft.expecting with
  | .word first => do
    let word ← cut text first (sizeInBytes text)
    match Level.parse? word with
    | some level => return { draft.directive with level, target := none }
    | none => return { draft.directive with target := some word }
  | .level first => do
    return { draft.directive with level := ← levelOf (← cut text first (sizeInBytes text)) }
  | .levelMark => .ok draft.directive
  | _ => .error .malformed

def blank : Directive := ⟨none, false, [], .trace⟩

def read (text : List Char) : Except Flaw Directive := do
  let draft ← Draft.run text ⟨.start, blank⟩ 0 (Unicode.trimBlanks text)
  draft.finish text

/-! ## Deciding -/

/-- Whether the directive can decide about a line outside all spans. -/
def isStatic (directive : Directive) : Bool :=
  !directive.inSpan && directive.fields.all (!·.hasValue)

/-- Whether a line of this target with these fields fits into the directive. -/
def fits (target : List Char) (fields : List (List Char)) (directive : Directive) : Bool :=
  (directive.target.all fun start => start.isPrefixOf target) &&
    directive.fields.all fun field => field.name ∈ fields

/-- The rank of a directive: a target counts first, then its length, then the
number of fields. -/
def rank (directive : Directive) : Nat × Nat :=
  (directive.target.elim 0 fun target => target.length + 1, directive.fields.length)

/-- Whether one directive decides rather than another that comes before it. -/
def outranks (one other : Directive) : Bool :=
  other.rank.1 < one.rank.1 || (one.rank.1 == other.rank.1 && other.rank.2 ≤ one.rank.2)

end Directive

end DnsForwarder.LogFilter
