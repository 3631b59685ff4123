/-!
# JSON values

A number without fraction and exponent is an integer; any other number is kept
as its digits and the power of ten they are multiplied by.  The fields of an
object keep the order they were written in.
-/

namespace DnsForwarder

inductive Json
  | null
  | bool (value : Bool)
  | integer (value : Int)
  | decimal (digits : Int) (exponent : Int)
  | string (value : String)
  | array (items : List Json)
  | object (fields : List (String × Json))

namespace Json

instance : Inhabited Json := ⟨null⟩

/-- The value of a field; the last one counts if there are several. -/
def field? (value : Json) (name : String) : Option Json :=
  match value with
  | object fields => fields.reverse.lookup name
  | _ => none

def asString? : Json → Option String
  | string value => some value
  | _ => none

def asBool? : Json → Option Bool
  | bool value => some value
  | _ => none

def asNat? : Json → Option Nat
  | integer value => if 0 ≤ value then some value.toNat else none
  | _ => none

def asArray? : Json → Option (List Json)
  | array items => some items
  | _ => none

def asFields? : Json → Option (List (String × Json))
  | object fields => some fields
  | _ => none

end Json

end DnsForwarder
