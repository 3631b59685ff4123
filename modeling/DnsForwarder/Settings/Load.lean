import DnsForwarder.Number.Shortest
import DnsForwarder.Settings.Schema
import DnsForwarder.Settings.Variables
import DnsForwarder.Toml.Table

/-!
# Loading settings

Settings come from a file and from variables, which override the file; the
values of both are put into one table, out of which the settings are read.
Values convert freely: a truth value counts as one or zero, a number is rounded,
a text may be a truth value or a number, and any simple value may be a text.
-/

namespace DnsForwarder.Settings

/-! ## Conversions -/

/-- What a text says about yes and no. -/
def yesOrNo? (text : String) : Option Bool :=
  let name := String.ofList (text.toList.map Char.toLower)
  if name ∈ ["true", "on", "yes"] then some true
  else if name ∈ ["false", "off", "no"] then some false
  else none

def flagOfText? (text : String) : Option Bool :=
  if text = "1" then some true else if text = "0" then some false else yesOrNo? text

def naturalOfText? (text : String) : Option Nat :=
  match yesOrNo? text with
  | some flag => some flag.toNat
  | none => Numeral.natural? text.toList

/-- The largest number of 64 bits; larger numbers are rounded to it. -/
def largestWord : Nat := 18446744073709551615

def datumSource : Source Datum where
  sectionValues? _ datum :=
    match datum with
    | .table fields => some (.named fields)
    | .list items => some (.placed items)
    | _ => none
  text? datum :=
    match datum with
    | .text value => some value
    | .flag value => some (if value then "true" else "false")
    | .integer value => some (String.ofList (Text.integer value))
    | .number value => some value.text
    | _ => none
  flag? datum :=
    match datum with
    | .flag value => some value
    | .integer value => some (value != 0)
    | .number value => some !value.isZero
    | .text value => flagOfText? value
    | _ => none
  natural? datum :=
    match datum with
    | .integer value => if 0 ≤ value then some value.toNat else none
    | .flag value => some value.toNat
    | .number value => some (value.roundedBelow largestWord)
    | .text value => naturalOfText? value
    | _ => none
  list? datum :=
    match datum with
    | .list items => some items
    | _ => none
  isAbsent datum :=
    match datum with
    | .nothing => true
    | _ => false

/-! ## Sources -/

/-- The file that a command line may name. -/
inductive File
  | unnamed
  | missing
  | content (text : String)
deriving DecidableEq, Repr

/-- The values that a file names; none if it is no configuration file. -/
def File.values? : File → Option (List (String × Datum))
  | unnamed => some []
  | missing => none
  | content text => Toml.fields? text

/-- All values of a file and of variables. -/
def gather (file : List (String × Datum)) (environment : List Variable) : Datum :=
  putAll (ofVariables environment) (putAll file (.table []))

/-- Whether a file, if it is one, or a variable asks for a list of more items than
there is room for. -/
def reachesTooFar (file : File) (environment : List Variable) : Bool :=
  file.values?.any fun values =>
    (values ++ ofVariables environment).any fun value => namesFarItem value.1

def load (file : File) (environment : List Variable) : Except Fault Settings :=
  match file.values? with
  | none => .error .configNotBuilt
  | some values =>
    match datumSource.settings? (gather values environment) with
    | none => .error .configNotRead
    | some settings => .ok settings

end DnsForwarder.Settings
