import DnsForwarder.Fault
import DnsForwarder.Json.Parser

/-!
# Failure kinds as JSON

A kind is written as the string of its tag.  It is also read from an object
whose only field is the tag, with nothing as its value.
-/

namespace DnsForwarder.FaultKind

def ofJson (text : String) : Except Fault FaultKind :=
  let tag? :=
    match Json.parse? text with
    | some (.string tag) => some tag
    | some (.object [(tag, .null)]) => some tag
    | _ => none
  match tag?.bind ofTag? with
  | some kind => .ok kind
  | none => .error .notJson

end DnsForwarder.FaultKind
