import DnsForwarder.Json.Basic
import DnsForwarder.Json.Token

/-!
# Reading JSON

A value is read off the tokens of the text, all of which it has to use up.
Arrays and objects may be nested 127 deep.
-/

namespace DnsForwarder.Json

/-- The deepest nesting of arrays and objects. -/
def deepest : Nat := 127

mutual

/-- Reads one value off the tokens.  Every step uses up a token, so the number
of tokens is fuel enough. -/
def value? (fuel depth : Nat) (tokens : List Token) : Option (Json × List Token) :=
  match fuel, tokens with
  | 0, _ => none
  | _ + 1, [] => none
  | fuel + 1, token :: rest =>
    match token with
    | .null => some (Json.null, rest)
    | .bool value => some (Json.bool value, rest)
    | .integer value => some (Json.integer value, rest)
    | .decimal digits exponent => some (Json.decimal digits exponent, rest)
    | .string value => some (Json.string value, rest)
    | .openArray =>
      match depth, rest with
      | 0, _ => none
      | _ + 1, .closeArray :: rest => some (array [], rest)
      | depth + 1, rest =>
        (items? fuel depth rest).map fun (items, rest) => (array items, rest)
    | .openObject =>
      match depth, rest with
      | 0, _ => none
      | _ + 1, .closeObject :: rest => some (object [], rest)
      | depth + 1, rest =>
        (fields? fuel depth rest).map fun (fields, rest) => (object fields, rest)
    | _ => none

def items? (fuel depth : Nat) (tokens : List Token) : Option (List Json × List Token) :=
  match fuel with
  | 0 => none
  | fuel + 1 =>
    match value? fuel depth tokens with
    | some (item, .closeArray :: rest) => some ([item], rest)
    | some (item, .comma :: rest) =>
      (items? fuel depth rest).map fun (items, rest) => (item :: items, rest)
    | _ => none

def fields? (fuel depth : Nat) (tokens : List Token) :
    Option (List (String × Json) × List Token) :=
  match fuel, tokens with
  | fuel + 1, .string name :: .colon :: rest =>
    match value? fuel depth rest with
    | some (value, .closeObject :: rest) => some ([(name, value)], rest)
    | some (value, .comma :: rest) =>
      (fields? fuel depth rest).map fun (fields, rest) => ((name, value) :: fields, rest)
    | _ => none
  | _, _ => none

end

/-- The value a text stands for. -/
def parse? (text : String) : Option Json :=
  match tokens? text.toList with
  | none => none
  | some tokens =>
    match value? (2 * tokens.length + 1) deepest tokens with
    | some (value, []) => some value
    | _ => none

end DnsForwarder.Json
