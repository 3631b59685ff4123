import DnsForwarder.Number.Numeral
import DnsForwarder.Net.Address
import DnsForwarder.Url.Basic

/-!
# Arguments

What a command line can say: the HTTPS server to forward to, as the only argument
without a name, options with a value, and switches.  Two of the switches ask for
a text instead of a run.
-/

namespace DnsForwarder.CommandLine

/-- Why a command line starts nothing. -/
inductive Refusal
  | unknownArgument
  | argumentConflict
  /-- A value is missing. -/
  | invalidValue
  /-- A value has the wrong form. -/
  | valueValidation
  | tooManyValues
  | displayHelp
  | displayVersion
deriving DecidableEq, Repr

structure Arguments where
  server : Option Url.Https := none
  /-- The address of the server's host. -/
  ip : Option IpAddress := none
  /-- The server to forward to over plain UDP. -/
  udp : Option SocketAddress := none
  portNumber : Option UInt16 := none
  verbose : Bool := false
  /-- The configuration file. -/
  config : Option String := none
  printConfig : Bool := false
deriving DecidableEq, Repr

/-- What takes a value. -/
inductive Slot
  | server
  | ip
  | udp
  | portNumber
  | config
deriving DecidableEq, Repr

inductive Switch
  | verbose
  | printConfig
  | help
  | version
deriving DecidableEq, Repr

/-- What an argument with a name is. -/
inductive Item
  | slot (slot : Slot)
  | switch (switch : Switch)
deriving DecidableEq, Repr

namespace Item

def ofLong? (name : String) : Option Item :=
  match name with
  | "ip" => some (slot .ip)
  | "udp" => some (slot .udp)
  | "port" => some (slot .portNumber)
  | "config" => some (slot .config)
  | "verbose" => some (switch .verbose)
  | "print-config" => some (switch .printConfig)
  | "help" => some (switch .help)
  | "version" => some (switch .version)
  | _ => none

def ofShort? (name : Char) : Option Item :=
  match name with
  | 'p' => some (slot .portNumber)
  | 'c' => some (slot .config)
  | 'v' => some (switch .verbose)
  | 'h' => some (switch .help)
  | 'V' => some (switch .version)
  | _ => none

end Item

/-! ## Values -/

def httpsUrl? (text : String) : Option Url.Https :=
  match Url.parse text with
  | .ok url => url.https?
  | .error _ => none

def word16? (text : String) : Option UInt16 :=
  ((Numeral.integer64? text.toList).filter fun value => 0 ≤ value && value < 65536).map
    fun value => UInt16.ofNat value.toNat

namespace Arguments

/-- Whether a slot has its value. -/
def has (arguments : Arguments) : Slot → Bool
  | .server => arguments.server.isSome
  | .ip => arguments.ip.isSome
  | .udp => arguments.udp.isSome
  | .portNumber => arguments.portNumber.isSome
  | .config => arguments.config.isSome

/-- Fills a slot; none if the text is no value for it. -/
def fill? (arguments : Arguments) (slot : Slot) (text : String) : Option Arguments :=
  match slot with
  | .server => (httpsUrl? text).map fun value => { arguments with server := some value }
  | .ip => (IpAddress.ofString? text).map fun value => { arguments with ip := some value }
  | .udp => (SocketAddress.ofString? text).map fun value => { arguments with udp := some value }
  | .portNumber => (word16? text).map fun value => { arguments with portNumber := some value }
  | .config => some { arguments with config := some text }

/-- Fills a slot that has to be free. -/
def put (arguments : Arguments) (slot : Slot) (text : String) : Except Refusal Arguments :=
  if arguments.has slot then .error .argumentConflict
  else
    match arguments.fill? slot text with
    | some filled => .ok filled
    | none => .error .valueValidation

/-- Turns a switch that has to be off. -/
def turn (arguments : Arguments) : Switch → Except Refusal Arguments
  | .verbose =>
    if arguments.verbose then .error .argumentConflict
    else .ok { arguments with verbose := true }
  | .printConfig =>
    if arguments.printConfig then .error .argumentConflict
    else .ok { arguments with printConfig := true }
  | .help => .error .displayHelp
  | .version => .error .displayVersion

end Arguments

end DnsForwarder.CommandLine
