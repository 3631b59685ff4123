import DnsForwarder.Program.LogFilter.Directive

/-!
# Which log lines are shown

A filter is a list of directives with commas between them.  Of the directives that
a line fits into the one with the longest target decides, of these the one that
names most fields, and of equal ones the last.  Directives for spans never decide
about a line outside all spans.  A filter without directives shows errors.
-/

namespace DnsForwarder.LogFilter

/-- The texts of the directives of a filter. -/
def parts (text : String) : List (List Char) :=
  (Text.splitOn ',' text.toList).filter fun part => !part.isEmpty

/-- The directives of a filter, which shows errors if it has none. -/
def orErrors (directives : List Directive) : List Directive :=
  if directives.isEmpty then [{ Directive.blank with level := .error }] else directives

/-- The directives of a text in which nothing may be wrong. -/
def strict (text : String) : Except Flaw (List Directive) :=
  ((parts text).mapM Directive.read).map orErrors

/-- The directives of a text without what is malformed. -/
def lenient (text : String) : Except Flaw (List Directive) :=
  let read (part : List Char) : Except Flaw (Option Directive) :=
    match Directive.read part with
    | .ok directive => .ok (some directive)
    | .error .malformed => .ok none
    | .error .cutsCharacter => .error .cutsCharacter
  ((parts text).mapM read).map fun directives => orErrors directives.reduceOption

/-- The filter that a variable asks for, if it is one, or else the settings. -/
def choose (assigned : Option String) (level : String) : Except Flaw (List Directive) :=
  match assigned.map strict with
  | none | some (.error .malformed) => lenient level
  | some result => result

/-- The directive that decides about a line. -/
def deciding? (directives : List Directive) (target : List Char) (fields : List (List Char)) :
    Option Directive :=
  (directives.filter fun directive => directive.isStatic && directive.fits target fields).foldl
    (fun best directive =>
      match best with
      | none => some directive
      | some held => if directive.outranks held then some directive else best)
    none

/-- Whether the filter shows errors of the program. -/
def showsErrors (directives : List Directive) : Bool :=
  match deciding? directives "aufloes".toList ["message".toList] with
  | some directive => directive.level != .off
  | none => false

end DnsForwarder.LogFilter
