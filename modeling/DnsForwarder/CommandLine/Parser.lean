import DnsForwarder.CommandLine.Arguments
import DnsForwarder.Text.Split

/-!
# Reading the command line

Arguments are read from left to right.  An option takes its value from behind an
equals sign, from behind its letter, or from the next argument, which may not
start with a hyphen.  A value that is an argument of its own is checked when the
next option or switch has been recognised, or at the end; an argument that is not
recognised is refused before that.  Behind two hyphens no argument has a name.
-/

namespace DnsForwarder.CommandLine

/-- How far a command line has been read. -/
structure Reading where
  arguments : Arguments := {}
  /-- The slot that is being filled, with its value once that has come. -/
  waiting : Option (Slot × Option String) := none
  /-- Whether the argument without a name has come. -/
  placed : Bool := false
deriving DecidableEq, Repr

namespace Reading

/-- Fills the slot that is being filled. -/
def settle (reading : Reading) : Except Refusal Reading :=
  match reading.waiting with
  | none => .ok reading
  | some (_, none) => .error .invalidValue
  | some (slot, some text) =>
    (reading.arguments.put slot text).map fun arguments =>
      { reading with arguments, waiting := none }

/-- Reads an option whose value comes with it, or else is to come. -/
def readSlot (reading : Reading) (slot : Slot) (attached : Option String) :
    Except Refusal Reading := do
  let reading ← reading.settle
  match attached with
  | none => return { reading with waiting := some (slot, none) }
  | some text => return { reading with arguments := ← reading.arguments.put slot text }

def readSwitch (reading : Reading) (switch : Switch) : Except Refusal Reading := do
  let reading ← reading.settle
  return { reading with arguments := ← reading.arguments.turn switch }

/-- Reads what stands behind two hyphens. -/
def readLong (reading : Reading) (text : List Char) : Except Refusal Reading :=
  let (name, attached) :=
    match Text.splitOnce '=' text with
    | some (name, value) => (name, some (String.ofList value))
    | none => (text, none)
  match Item.ofLong? (String.ofList name), attached with
  | none, _ => .error .unknownArgument
  | some (.slot slot), attached => reading.readSlot slot attached
  | some (.switch switch), none => reading.readSwitch switch
  | some (.switch _), some _ => .error .tooManyValues

/-- The value that follows the letter of an option, an equals sign aside. -/
def attachedValue : List Char → Option String
  | [] => none
  | '=' :: value => some (String.ofList value)
  | value => some (String.ofList value)

/-- Reads the letters behind one hyphen; the letter of an option is the last. -/
def readShort (reading : Reading) : List Char → Except Refusal Reading
  | [] => .ok reading
  | letter :: rest =>
    match Item.ofShort? letter with
    | none => .error .unknownArgument
    | some (.slot slot) => reading.readSlot slot (attachedValue rest)
    | some (.switch switch) => do readShort (← reading.readSwitch switch) rest

/-- Reads the argument without a name. -/
def place (reading : Reading) (text : String) : Except Refusal Reading :=
  if reading.placed then .error .unknownArgument
  else do
    let reading ← reading.settle
    return { reading with waiting := some (.server, some text), placed := true }

/-- Reads an argument that is a value. -/
def readValue (reading : Reading) (text : String) : Except Refusal Reading :=
  match reading.waiting with
  | some (slot, none) => .ok { reading with waiting := some (slot, some text) }
  | _ => reading.place text

/-- Reads all arguments; `named` says whether one may have a name. -/
def readAll (named : Bool) (reading : Reading) : List String → Except Refusal Reading
  | [] => reading.settle
  | text :: rest =>
    if named then
      match text.toList with
      | ['-', '-'] => readAll false reading rest
      | '-' :: '-' :: long => do readAll true (← reading.readLong long) rest
      | ['-'] => do readAll true (← reading.readValue text) rest
      | '-' :: letters => do readAll true (← reading.readShort letters) rest
      | _ => do readAll true (← reading.readValue text) rest
    else do readAll false (← reading.place text) rest

end Reading

/-- Reads a command line.  The server is named at most once. -/
def parse (texts : List String) : Except Refusal Arguments := do
  let reading ← Reading.readAll true {} texts
  if reading.arguments.server.isSome ∧ reading.arguments.udp.isSome then
    throw .argumentConflict
  return reading.arguments

end DnsForwarder.CommandLine
