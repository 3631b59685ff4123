import DnsForwarder.Settings.Path

/-!
# Settings in variables

A variable whose name begins with `AUFLOES__`, in whatever case, names a setting:
the rest of its name is the path of the setting in lowercase, with two
underscores for each dot.  Its value is the first of these that it can be read as:
a truth value, an integer of 64 bits, a number of double precision, a text.
-/

namespace DnsForwarder.Settings

structure Variable where
  name : String
  value : String
deriving DecidableEq, Repr

namespace Variable

def start : List Char := "aufloes__".toList

/-- Writes a dot for each two underscores. -/
def dotted : List Char → List Char
  | [] => []
  | '_' :: '_' :: rest => '.' :: dotted rest
  | c :: rest => c :: dotted rest

/-- The name of the setting that a variable stands for. -/
def setting? (assigned : Variable) : Option String :=
  let name := assigned.name.toList.map Char.toLower
  if start.isPrefixOf name then some (String.ofList (dotted (name.drop start.length))) else none

/-- Reads a name and a value with an equals sign between them; one in front belongs
to the name. -/
def ofText? : List Char → Option Variable
  | [] => none
  | c :: rest =>
    (Text.splitOnce '=' rest).map fun (name, value) =>
      ⟨String.ofList (c :: name), String.ofList value⟩

/-- What a value says. -/
def read (value : String) : Datum :=
  let text := value.toList
  if text.map Char.toLower = "true".toList then .flag true
  else if text.map Char.toLower = "false".toList then .flag false
  else
    match Numeral.integer64? text, Numeral.number? text with
    | some number, _ => .integer number
    | none, some number => .number number
    | none, none => .text value

end Variable

/-- The settings that variables name. -/
def ofVariables (environment : List Variable) : List (String × Datum) :=
  environment.filterMap fun assigned =>
    assigned.setting?.map fun name => (name, Variable.read assigned.value)

end DnsForwarder.Settings
