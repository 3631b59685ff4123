import DnsForwarder.Program.Serve
import DnsForwarder.Wire.Hex

/-!
# The command line

The program runs on a host without a network: a datagram is a line of hexadecimal
digits on standard input, and its reply is such a line on standard output.
-/

open DnsForwarder

namespace DnsForwarder.Program

/-- The content of a file, if there is one of that name. -/
def contentOf (name : String) : IO (Option String) := do
  try
    return some (← IO.FS.readFile name)
  catch _ =>
    return none

/-- The variables that the program was started with. -/
def environment : IO (List Settings.Variable) := do
  let block := (← contentOf "/proc/self/environ").getD ""
  return (Text.splitOn '\x00' block.toList).filterMap Settings.Variable.ofText?

def host (texts : List String) : IO Host := do
  let named := configName? texts
  let content ←
    match named with
    | some name => contentOf name
    | none => pure none
  return {
    fileContent := fun name => if some name = named then content else none
    environment := ← environment
    network := .isolated }

/-- Serves the datagrams of standard input until it ends. -/
partial def serve (service : Service) (shared : Shared) : IO Unit := do
  let line ← (← IO.getStdin).getLine
  if line.isEmpty then return
  match Wire.ofHex? (line.trimAscii).copy.toList with
  | none => serve service shared
  | some datagram =>
    let (reply, shared) := service.receive shared (← IO.monoNanosNow) datagram
    if let some reply := reply then
      IO.println (String.ofList (Wire.hex reply))
      (← IO.getStdout).flush
    serve service shared

end DnsForwarder.Program

def main (texts : List String) : IO UInt32 := do
  let outcome := Program.start (← Program.host texts) texts
  if let some line := outcome.output? then IO.println line
  if let some line := outcome.complaint? then IO.eprintln line
  if let .serving service := outcome then Program.serve service service.initial
  return UInt32.ofNat outcome.exitCode
