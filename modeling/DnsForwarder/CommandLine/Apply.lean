import DnsForwarder.CommandLine.Arguments
import DnsForwarder.Settings.Basic

/-!
# Arguments override settings

Each argument changes the settings that it stands for and no others.  A named
server also says how to forward to it.
-/

namespace DnsForwarder.CommandLine

/-- The log level of a verbose run: details of the program's own parts only. -/
def verboseLevel : String :=
  "info,aufloes=debug,aufloes_core=debug,aufloes_cache=debug,aufloes_upstream=debug," ++
    "aufloes_server=debug"

namespace Arguments

def applyForwarding (arguments : Arguments) (forwarding : Settings.Forwarding) :
    Settings.Forwarding where
  provider :=
    if arguments.udp.isSome then "udp"
    else if arguments.server.isSome then "https"
    else forwarding.provider
  https :=
    { forwarding.https with
      url := arguments.server.elim forwarding.https.url fun url => some url.text
      bootstrapIp := arguments.ip.elim forwarding.https.bootstrapIp some }
  udp :=
    { forwarding.udp with
      address := arguments.udp.elim forwarding.udp.address SocketAddress.text }

/-- The settings with what the arguments say. -/
def apply (arguments : Arguments) (settings : Settings) : Settings :=
  { settings with
    listening :=
      { settings.listening with
        portNumber := arguments.portNumber.getD settings.listening.portNumber }
    forwarding := arguments.applyForwarding settings.forwarding
    logging :=
      { settings.logging with
        level := if arguments.verbose then verboseLevel else settings.logging.level } }

end Arguments

end DnsForwarder.CommandLine
