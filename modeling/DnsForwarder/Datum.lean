import DnsForwarder.Number.Binary64

/-!
# Values of configuration data

What a configuration file or a variable can say.  The fields of a table are kept
in the order in which they were first named, and no name comes twice.
-/

namespace DnsForwarder

inductive Datum
  | nothing
  | flag (value : Bool)
  | integer (value : Int)
  | number (value : Binary64)
  | text (value : String)
  | list (items : List Datum)
  | table (fields : List (String × Datum))

namespace Datum

instance : Inhabited Datum := ⟨nothing⟩

/-- The fields of a table; anything else has none. -/
def fields : Datum → List (String × Datum)
  | table fields => fields
  | _ => []

/-- The items of a list; anything else has none. -/
def items : Datum → List Datum
  | list items => items
  | _ => []

end Datum

/-! ## Named fields in order -/

variable {Value : Type}

/-- Gives a field the value that `change` makes of the one it has.  A field that
is new goes behind the others. -/
def alterField (name : String) (change : Option Value → Value) :
    List (String × Value) → List (String × Value)
  | [] => [(name, change none)]
  | field :: rest =>
    if field.1 = name then (name, change (some field.2)) :: rest
    else field :: alterField name change rest

@[simp] theorem lookup_alterField (name other : String) (change : Option Value → Value)
    (fields : List (String × Value)) :
    (alterField name change fields).lookup other =
      if other = name then some (change (fields.lookup name)) else fields.lookup other := by
  induction fields with
  | nil => by_cases same : other = name <;> grind [alterField]
  | cons field rest ih =>
    obtain ⟨key, value⟩ := field
    by_cases here : key = name <;> by_cases same : other = key <;>
      by_cases asked : other = name <;> grind [alterField]

end DnsForwarder
