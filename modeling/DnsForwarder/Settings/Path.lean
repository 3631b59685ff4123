import DnsForwarder.Datum
import DnsForwarder.Number.Numeral

/-!
# Paths into configuration data

A path leads from a table to a value inside it: a name, then further names
behind dots and places in lists within brackets.  Places may be counted from the
end with negative numbers.  Putting a value at a path makes the tables and lists
on the way, in place of whatever else stands there; a table that is put is merged
into the one that is there.
-/

namespace DnsForwarder.Settings

inductive Step
  | field (name : String)
  | item (place : Int)
deriving DecidableEq, Repr

/-! ## Reading -/

def isPathName (c : Char) : Bool := c.isAlphanum || c == '_' || c == '-'

/-- The name at the start of a text. -/
def pathName? (text : List Char) : Option (String × List Char) :=
  match text.takeWhile isPathName with
  | [] => none
  | name => some (String.ofList name, text.dropWhile isPathName)

def isBlank (c : Char) : Bool := c == ' ' || c == '\t'

/-- The place within brackets, perhaps with blanks around it. -/
def place? (text : List Char) : Option Int :=
  let place := ((text.dropWhile isBlank).reverse.dropWhile isBlank).reverse
  if place.head? = some '+' then none else Numeral.integer64? place

/-- Reads the steps behind the first name.  Each uses up a character, so the
length of the text is fuel enough. -/
def steps? (fuel : Nat) (text : List Char) : Option (List Step) :=
  match fuel, text with
  | _, [] => some []
  | 0, _ => none
  | fuel + 1, '.' :: rest => do
    let (name, rest) ← pathName? rest
    return Step.field name :: (← steps? fuel rest)
  | fuel + 1, '[' :: rest => do
    let (place, rest) ← Text.splitOnce ']' rest
    return Step.item (← place? place) :: (← steps? fuel rest)
  | _, _ => none

/-- The path that a name stands for; a name that is no path leads to the field
of that name. -/
def pathOf (name : String) : List Step :=
  let path := do
    let (first, rest) ← pathName? name.toList
    return Step.field first :: (← steps? rest.length rest)
  path.getD [.field name]

/-- There is no room for a list of so many items. -/
def tooManyItems : Nat := 16777216

/-- Whether a name asks for a list of more items than there is room for. -/
def namesFarItem (name : String) : Bool :=
  (pathOf name).any fun step =>
    match step with
    | .field _ => false
    | .item place => tooManyItems ≤ place.natAbs

/-! ## Changing data -/

/-- Changes the item at a place of a list, which is filled up as far as needed. -/
def alterItem (place : Int) (change : Datum → Datum) (items : List Datum) : List Datum :=
  if 0 ≤ place then
    let filled := items ++ List.replicate (place.toNat + 1 - items.length) Datum.nothing
    filled.modify place.toNat change
  else
    let back := (-place).toNat
    let filled := List.replicate (back - items.length) Datum.nothing ++ items
    filled.modify (filled.length - back) change

def Step.alter (change : Datum → Datum) (datum : Datum) : Step → Datum
  | field name => .table (alterField name (fun old => change (old.getD .nothing)) datum.fields)
  | item place => .list (alterItem place change datum.items)

/-- Changes the value that a path leads to. -/
def alterAt (change : Datum → Datum) : List Step → Datum → Datum
  | [], datum => change datum
  | step :: rest, datum => step.alter (alterAt change rest) datum

mutual

/-- The value that `new` makes of an old one. -/
def overlay (new old : Datum) : Datum :=
  match new with
  | .table fields => .table (overlayFields fields old.fields)
  | value => value

def overlayFields (fields old : List (String × Datum)) : List (String × Datum) :=
  match fields with
  | [] => old
  | (name, new) :: rest =>
    overlayFields rest (alterField name (fun old => overlay new (old.getD .nothing)) old)

end

/-- Puts a value at the path that `name` stands for. -/
def putAt (name : String) (value : Datum) (datum : Datum) : Datum :=
  alterAt (overlay value) (pathOf name) datum

/-- Puts values one after the other. -/
def putAll (values : List (String × Datum)) (datum : Datum) : Datum :=
  values.foldl (fun datum value => putAt value.1 value.2 datum) datum

end DnsForwarder.Settings
