import DnsForwarder.Message.Basic

/-!
# What a kept response is filed under

Two requests may share a response if they ask the same question and would have
been answered alike.  Names count without regard to case.  Whether the request
has an OPT record decides whether the response may have one, and the flags for
signatures change what a server puts into it, so all three are part of the key.
-/

namespace DnsForwarder.Cache

def bit (value : Bool) : String := if value then "1" else "0"

/-- The key of one question. -/
def questionKey (question : Question) (hasEdns dnssecOk checkingDisabled : Bool) : String :=
  "aufloes:q:" ++ question.name.lower.text ++ ":" ++ question.kind.text ++ ":" ++
    question.cls.text ++ ":edns=" ++ bit hasEdns ++ ":do=" ++
    bit dnssecOk ++ ":cd=" ++ bit checkingDisabled

/-- The key of a request; only a standard query with a single question has one. -/
def requestKey? (request : Message) : Option String :=
  match request.header.opcode, request.questions with
  | .query, [question] =>
    some (questionKey question request.edns.isSome (request.edns.any Edns.dnssecOk)
      request.header.checkingDisabled)
  | _, _ => none

end DnsForwarder.Cache
