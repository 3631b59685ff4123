import DnsForwarder.Cache.Store
import DnsForwarder.CommandLine.Apply
import DnsForwarder.CommandLine.Parser
import DnsForwarder.Listener
import DnsForwarder.Program.LogFilter
import DnsForwarder.Remote.Client
import DnsForwarder.Settings.Check
import DnsForwarder.Settings.Json
import DnsForwarder.Settings.Load

/-!
# Starting the program

The command line is read, the settings are loaded and overridden by it, and either
printed or checked and put to work: first the remote server, then the cache, then
the sockets.  The first failure ends the start.  A failure behind the check is a
line of the log and is shown only if the log filter lets errors through.  Settings
that ask for a list of more items than there is room for, and a log filter that cannot
be cut into words, break the program off.
-/

namespace DnsForwarder.Program

def version : String := "0.1.0"

/-- What surrounds the program. -/
structure Host where
  /-- The content of a file, if there is one of that name. -/
  fileContent : String → Option String
  environment : List Settings.Variable
  network : Network

/-- How far a start came that failed. -/
inductive Stage
  | loading
  | checking
  | running
deriving DecidableEq, Repr

def Stage.text : Stage → String
  | loading => "Failed to load configuration"
  | checking => "Invalid configuration"
  | running => "Resolver error"

/-- A program that serves requests. -/
structure Service where
  remote : Remote
  cache : Cache
  options : Resolver.Options
  sockets : List SocketAddress
  bufferSize : Nat
  grace : Duration

inductive Outcome
  /-- The command line was refused, or asked for a text about the program. -/
  | refused (refusal : CommandLine.Refusal)
  | printed (text : String)
  | failed (stage : Stage) (fault : Fault) (shown : Bool)
  /-- The program broke off without a word about itself. -/
  | broken
  | serving (service : Service)

/-- The name of the file that the arguments name, if they can be read. -/
def configName? (texts : List String) : Option String :=
  match CommandLine.parse texts with
  | .ok arguments => arguments.config
  | .error _ => none

/-- The file that the arguments name. -/
def configFile (host : Host) (arguments : CommandLine.Arguments) : Settings.File :=
  match arguments.config with
  | none => .unnamed
  | some path =>
    match host.fileContent path with
    | some text => .content text
    | none => .missing

def loadSettings (host : Host) (arguments : CommandLine.Arguments) : Except Fault Settings := do
  return arguments.apply (← Settings.load (configFile host arguments) host.environment)

/-- Puts settings to work. -/
def assemble (network : Network) (settings : Settings) : Except Fault Service := do
  let remote ← Remote.connect network settings.forwarding
  let cache ← Cache.ofProvider settings.caching.provider
  let sockets ← Listener.bind network settings.listening.socketAddresses
  return {
    remote, cache, sockets
    options := settings.resolverOptions
    bufferSize := settings.listening.largestPayload.toNat
    grace := seconds settings.listening.graceSeconds.toNat }

/-- The log filter that the variable `RUST_LOG` or the settings ask for. -/
def logFilter (host : Host) (settings : Settings) :
    Except LogFilter.Flaw (List LogFilter.Directive) :=
  let assigned := host.environment.find? fun assigned => assigned.name == "RUST_LOG"
  LogFilter.choose (assigned.map Settings.Variable.value) settings.logging.level

def launch (host : Host) (settings : Settings) : Outcome :=
  match settings.check, logFilter host settings with
  | .error fault, _ => .failed .checking fault true
  | .ok _, .error _ => .broken
  | .ok _, .ok filter =>
    match assemble host.network settings with
    | .error fault => .failed .running fault (LogFilter.showsErrors filter)
    | .ok service => .serving service

/-- Starts the program with these arguments. -/
def start (host : Host) (texts : List String) : Outcome :=
  match CommandLine.parse texts with
  | .error refusal => .refused refusal
  | .ok arguments =>
    if Settings.reachesTooFar (configFile host arguments) host.environment then .broken
    else
      match loadSettings host arguments with
      | .error fault => .failed .loading fault true
      | .ok settings =>
        if arguments.printConfig then .printed settings.render else launch host settings

/-! ## What a start leaves behind -/

def versionText : String := "aufloes " ++ version

/-- The line that reports a failure. -/
def failureLine (stage : Stage) (fault : Fault) : String :=
  stage.text ++ ": " ++ fault.report.text

def Outcome.exitCode : Outcome → Nat
  | refused .displayHelp | refused .displayVersion | printed _ | serving _ => 0
  | failed _ _ _ => 1
  | refused _ => 2
  | broken => 101

/-- The line on the error stream. -/
def Outcome.complaint? : Outcome → Option String
  | failed stage fault true => some (failureLine stage fault)
  | _ => none

/-- The line on standard output. -/
def Outcome.output? : Outcome → Option String
  | refused .displayVersion => some versionText
  | printed text => some text
  | _ => none

end DnsForwarder.Program
