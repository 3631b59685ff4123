import DnsForwarder.Toml.Lexeme
import DnsForwarder.Toml.Word

/-!
# TOML documents as they are written

A document is a list of sections: first the entries without a header, then each
header with the entries below it.  Values are kept as they were written, with
dotted keys in their parts; which tables they make is decided later.  Lists and
inline tables may spread over lines, with comments between their words, may end with
a comma, and may be nested 80 deep.  A key that is not in an inline table has its
value on the same line.
-/

namespace DnsForwarder.Toml

inductive Value
  | word (value : Datum)
  | list (items : List Value)
  | table (entries : List (List String × Value))

/-- A header and what is below it. -/
structure Headed where
  path : List String
  /-- Whether the header adds a table to a list of tables. -/
  many : Bool
  entries : List (List String × Value)

structure Document where
  entries : List (List String × Value)
  sections : List Headed

/-- The deepest nesting of lists and inline tables. -/
def deepest : Nat := 80

mutual

/-- Reads one value.  Every step uses up a character, so the length of the text
is fuel enough. -/
def value? (fuel depth : Nat) (text : List Char) : Option (Value × List Char) :=
  match fuel, text with
  | 0, _ => none
  | _ + 1, [] => none
  | fuel + 1, c :: rest =>
    if c = '"' ∨ c = '\'' then
      (string? (c :: rest)).map fun (content, rest) => (.word (.text content), rest)
    else if c = '[' then
      match depth with
      | 0 => none
      | depth + 1 => (items? fuel depth rest).map fun (items, rest) => (.list items, rest)
    else if c = '\x7b' then
      match depth with
      | 0 => none
      | depth + 1 => (entries? fuel depth rest).map fun (entries, rest) => (.table entries, rest)
    else
      let (word, rest) := spanWord (c :: rest)
      (word? word).map fun value => (.word value, rest)

/-- The items of a list up to its closing bracket. -/
def items? (fuel depth : Nat) (text : List Char) : Option (List Value × List Char) :=
  match fuel with
  | 0 => none
  | fuel + 1 =>
    match skipSpace false text with
    | ']' :: rest => some ([], rest)
    | text =>
      match value? fuel depth text with
      | none => none
      | some (item, rest) =>
        match skipSpace false rest with
        | ']' :: rest => some ([item], rest)
        | ',' :: rest => (items? fuel depth rest).map fun (items, rest) => (item :: items, rest)
        | _ => none

/-- The entries of an inline table up to its closing brace. -/
def entries? (fuel depth : Nat) (text : List Char) :
    Option (List (List String × Value) × List Char) :=
  match fuel with
  | 0 => none
  | fuel + 1 =>
    match skipSpace false text with
    | '\x7d' :: rest => some ([], rest)
    | text =>
      match entry? (skipSpace false) fuel depth text with
      | none => none
      | some (entry, rest) =>
        match skipSpace false rest with
        | '\x7d' :: rest => some ([entry], rest)
        | ',' :: rest =>
          (entries? fuel depth rest).map fun (entries, rest) => (entry :: entries, rest)
        | _ => none

/-- A key with its value; `skip` says what may stand around the equals sign. -/
def entry? (skip : List Char → List Char) (fuel depth : Nat) (text : List Char) :
    Option ((List String × Value) × List Char) :=
  match fuel with
  | 0 => none
  | fuel + 1 =>
    match key? fuel text with
    | none => none
    | some (path, rest) =>
      match skip rest with
      | '=' :: rest =>
        (value? fuel depth (skip rest)).map fun (value, rest) => ((path, value), rest)
      | _ => none

end

/-- A header, read behind its first bracket. -/
def header? (text : List Char) : Option ((List String × Bool) × List Char) :=
  match text with
  | '[' :: rest =>
    match key? rest.length rest with
    | some (path, ']' :: ']' :: rest) => some ((path, true), rest)
    | _ => none
  | rest =>
    match key? rest.length rest with
    | some (path, ']' :: rest) => some ((path, false), rest)
    | _ => none

/-- The entries up to the next header, and that header with its sections. -/
def body? (fuel : Nat) (text : List Char) :
    Option (List (List String × Value) × List Headed) :=
  match fuel with
  | 0 => none
  | fuel + 1 =>
    match skipSpace false text with
    | [] => some ([], [])
    | '[' :: rest => do
      let ((path, many), rest) ← header? rest
      let (entries, sections) ← body? fuel (← lineEnd? rest)
      return ([], ⟨path, many, entries⟩ :: sections)
    | text => do
      let (entry, rest) ← entry? skipBlanks (2 * text.length + 3) deepest text
      let (entries, sections) ← body? fuel (← lineEnd? rest)
      return (entry :: entries, sections)

/-- A text without a byte order mark in front. -/
def dropMark : List Char → List Char
  | '\uFEFF' :: rest => rest
  | text => text

/-- The document that a text is.  Up to two byte order marks in front, one of the
file and one of the text, are no part of it. -/
def document? (text : String) : Option Document :=
  let text := dropMark (dropMark text.toList)
  (body? (text.length + 1) text).map fun (entries, sections) => ⟨entries, sections⟩

end DnsForwarder.Toml
