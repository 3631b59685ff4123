import DnsForwarder.CommandLine.Apply
import DnsForwarder.CommandLine.Parser
import DnsForwarder.Proofs.Net.Address
import DnsForwarder.Proofs.Settings.Check

/-!
# A server that is named on the command line

A named server overrides what the settings say about forwarding, and it is put into the settings
as a text.  The check reads this text, and the client reads it again.  Both read what was
named, whatever the settings were before: the text of a URL of HTTPS begins with its scheme
(`Url.Https.prefix_text`), and the text of a socket address is read as that address.

Every socket address can be named, since its text is also what the command line reads
(`parse_udp`).
-/

namespace DnsForwarder

theorem Url.Https.prefix_text (url : Url.Https) : "https://".toList <+: url.text.toList := by
  have htext : url.text.toList = url.address.chars := String.toList_ofList
  rw [htext, Web.chars, url.isHttps]
  simp only [List.append_assoc]
  exact List.prefix_append "https://".toList _

namespace CommandLine

/-- The text of a socket address does not begin like the name of an option. -/
theorem head?_chars_ne (address : SocketAddress) : address.chars.head? ≠ some '-' := by
  intro hhead
  have hmem : '-' ∈ address.chars := List.mem_of_head? hhead
  have hdigits : ∀ value : Nat, '-' ∉ Text.digits 10 value :=
    fun value => Text.not_mem_digits (by decide) (by decide) (by decide)
  cases address with
  | v4 address number =>
      have hclean : '-' ∉ address.chars := address.not_mem_chars (by decide) (by decide)
      simp [SocketAddress.chars, hclean, hdigits] at hmem
  | v6 address scope number => simp [SocketAddress.chars] at hhead

/-- What does not begin with a hyphen is a value. -/
theorem readAll_value (reading : Reading) {text : String} (htext : text.toList.head? ≠ some '-')
    (rest : List String) :
    Reading.readAll true reading (text :: rest) =
      (reading.readValue text).bind fun reading => Reading.readAll true reading rest := by
  have hnot : ∀ letters, text.toList ≠ '-' :: letters := by
    rintro letters hhyphen
    rw [hhyphen] at htext
    exact htext rfl
  rw [Reading.readAll, if_pos rfl]
  split
  case h_5 => rfl
  all_goals
    rename_i hhyphen
    exact absurd hhyphen (hnot _)

/-- Every socket address can be named. -/
theorem parse_udp (address : SocketAddress) :
    parse ["--udp", address.text] = .ok { udp := some address } := by
  have htext : address.text.toList.head? ≠ some '-' := by
    rw [SocketAddress.text, String.toList_ofList]
    exact head?_chars_ne address
  have hoption : Reading.readAll true {} ["--udp", address.text] =
      Reading.readAll true { waiting := some (.udp, none) } [address.text] := by
    rfl
  have hvalue : Reading.readAll true { waiting := some (.udp, none) } [address.text] =
      .ok { arguments := { udp := some address } } := by
    rw [readAll_value _ htext]
    simp [Reading.readValue, Reading.readAll, Reading.settle, Arguments.put, Arguments.has,
      Arguments.fill?, SocketAddress.ofString?_text, Except.bind, Except.map]
  rw [parse, hoption, hvalue]
  rfl

namespace Arguments

variable {arguments : Arguments} {settings : Settings}

theorem apply_udp {address : SocketAddress} (hudp : arguments.udp = some address)
    (settings : Settings) :
    (arguments.apply settings).forwarding.provider = "udp" ∧
      SocketAddress.ofString? (arguments.apply settings).forwarding.udp.address = some address := by
  simp [apply, applyForwarding, hudp, SocketAddress.ofString?_text]

theorem apply_https {url : Url.Https} (hserver : arguments.server = some url)
    (hudp : arguments.udp = none) (settings : Settings) :
    (arguments.apply settings).forwarding.provider = "https" ∧
      (arguments.apply settings).forwarding.https.url = some url.text := by
  simp [apply, applyForwarding, hserver, hudp]

/-- Arguments that name a server put it into the settings in a form that passes the check. -/
theorem check_apply (hnamed : arguments.server.isSome = true ∨ arguments.udp.isSome = true)
    (settings : Settings) : (arguments.apply settings).forwarding.check = .ok () := by
  refine Settings.Forwarding.check_eq_ok_iff.mpr ?_
  cases hudp : arguments.udp with
  | some address =>
      obtain ⟨hprovider, haddress⟩ := apply_udp hudp settings
      exact Or.inr ⟨hprovider, address, haddress⟩
  | none =>
      rw [hudp] at hnamed
      obtain ⟨url, hserver⟩ := Option.isSome_iff_exists.mp (hnamed.resolve_right (by simp))
      obtain ⟨hprovider, hurl⟩ := apply_https hserver hudp settings
      exact Or.inl ⟨hprovider, url.text, hurl, url.prefix_text⟩

/-- The client for a named socket address is connected to it. -/
theorem connect_apply {address : SocketAddress} (hudp : arguments.udp = some address)
    (settings : Settings) (network : Network) :
    Remote.connect network (arguments.apply settings).forwarding =
      match network.connect address with
      | .ok _ => .ok (.udp address settings.forwarding.udp.timeoutSeconds)
      | .error cause => .error (.system cause) := by
  obtain ⟨hprovider, haddress⟩ := apply_udp hudp settings
  rw [Remote.connect, hprovider, if_neg (by decide), if_pos rfl, Remote.ofUdp, haddress]
  rfl

/-- **A server that is named passes the check, and it is the one that is asked.**  Whatever the
settings say, the check finds no fault with how requests are forwarded once the arguments name a
server, so it depends on the other sections as they were.  A socket address that is named is read
back by the check and by the client; every socket address can be named. -/
theorem named_server_checked (arguments : Arguments) (settings : Settings)
    (hnamed : arguments.server.isSome = true ∨ arguments.udp.isSome = true) :
    (arguments.apply settings).forwarding.check = .ok () ∧
      ((arguments.apply settings).check = .ok () ↔ settings.listening.check = .ok () ∧
        settings.caching.check = .ok () ∧ settings.logging.check = .ok ()) ∧
      (∀ address, arguments.udp = some address →
        (arguments.apply settings).forwarding.provider = "udp" ∧
        SocketAddress.ofString? (arguments.apply settings).forwarding.udp.address =
          some address ∧
        ∀ network : Network, Remote.connect network (arguments.apply settings).forwarding =
          match network.connect address with
          | .ok _ => .ok (.udp address settings.forwarding.udp.timeoutSeconds)
          | .error cause => .error (.system cause)) ∧
      ∀ address : SocketAddress, parse ["--udp", address.text] = .ok { udp := some address } := by
  have hforwarding := check_apply hnamed settings
  refine ⟨hforwarding, ?_, fun address hudp => ?_, parse_udp⟩
  · rw [Settings.check_eq_ok_iff]
    exact ⟨fun ⟨hlistening, _, hrest⟩ => ⟨hlistening, hrest⟩,
      fun ⟨hlistening, hrest⟩ => ⟨hlistening, hforwarding, hrest⟩⟩
  · obtain ⟨hprovider, haddress⟩ := apply_udp hudp settings
    exact ⟨hprovider, haddress, connect_apply hudp settings⟩

/-- An address of one link, with a run of zeros in the middle and one at the end. -/
def linkAddress : SocketAddress := .v6 ⟨[0xfe80, 0, 0, 0, 0x10, 0, 0, 0], rfl⟩ 3 53

/-- Settings that name a provider that there is not. -/
def strangeSettings : Settings where
  forwarding := { provider := "tcp", udp := { address := "localhost" } }

theorem named_server_checked_link :
    linkAddress.text = "[fe80::10:0:0:0%3]:53" ∧ strangeSettings.forwarding.check ≠ .ok () ∧
      (Arguments.apply { udp := some linkAddress } strangeSettings).check = .ok () ∧
      SocketAddress.ofString?
          (Arguments.apply { udp := some linkAddress } strangeSettings).forwarding.udp.address =
        some linkAddress := by
  obtain ⟨_, hcheck, haddress, _⟩ :=
    named_server_checked { udp := some linkAddress } strangeSettings (Or.inr rfl)
  refine ⟨by cbv, ?_, hcheck.mpr ⟨by cbv, by cbv, by cbv⟩, (haddress linkAddress rfl).2.1⟩
  have hfault : strangeSettings.forwarding.check = .error (.unknownProvider "tcp") := by cbv
  rw [hfault]
  simp

end Arguments

end CommandLine

end DnsForwarder
