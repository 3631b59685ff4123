import DnsForwarder.Settings.Basic

/-!
# Checking settings

What no single setting can break but several can together, and what is a text in
the settings but has to mean something: the checks are made in a fixed order and
the first that fails is reported.
-/

namespace DnsForwarder.Settings

def Listening.check (listening : Listening) : Except Fault Unit := do
  if listening.bindAddresses.isEmpty then throw .noBindAddress
  if listening.largestPayload.toNat < 512 ∨ 65535 < listening.largestPayload.toNat then
    throw (.payloadOutOfRange listening.largestPayload.toNat)

def Forwarding.check (forwarding : Forwarding) : Except Fault Unit :=
  if forwarding.provider = "https" then
    match forwarding.https.url with
    | none => .error .urlMissing
    | some url =>
      if "https://".toList.isPrefixOf url.toList then .ok () else .error (.urlNotHttps url)
  else if forwarding.provider = "udp" then
    match SocketAddress.ofString? forwarding.udp.address with
    | some _ => .ok ()
    | none => .error (.badSocketAddress forwarding.udp.address)
  else .error (.unknownProvider forwarding.provider)

def Caching.check (caching : Caching) : Except Fault Unit :=
  if caching.highestSeconds < caching.lowestSeconds then
    .error (.lifetimesCrossed caching.lowestSeconds.toNat caching.highestSeconds.toNat)
  else .ok ()

def Logging.check (logging : Logging) : Except Fault Unit :=
  if logging.format ∈ ["pretty", "compact", "json"] then .ok ()
  else .error (.unknownLogFormat logging.format)

def check (settings : Settings) : Except Fault Unit := do
  settings.listening.check
  settings.forwarding.check
  settings.caching.check
  settings.logging.check

end DnsForwarder.Settings
