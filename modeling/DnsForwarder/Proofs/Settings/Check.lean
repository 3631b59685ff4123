import DnsForwarder.Cache.Store
import DnsForwarder.Remote.Client
import DnsForwarder.Settings.Check
import Mathlib

/-!
# What checked settings can be put to work

Some settings are texts that have to mean something.  The check reads them before the
program starts, and those who put them to work read them once more, each in its own way.
`Forwarding.check_eq_ok_iff` says what the check asks of the remote server.

* The provider and the address of a UDP server are read alike on both sides.
* Of a URL the check sees the scheme alone.  That is all that a client asks of a URL, but
  the URL has to be one: `https?_of_parse` says that what begins like an HTTPS URL and can
  be read is an HTTPS URL.
* The provider of the cache is not looked at by the check.

So a client for checked settings can fail for its settings only if the URL cannot be
read.
-/

namespace DnsForwarder

/-- What ends well was well at each step. -/
theorem exists_of_bind_eq_ok {Failure Value Result : Type} {first : Except Failure Value}
    {next : Value → Except Failure Result} {result : Result}
    (h : first >>= next = .ok result) : ∃ value, first = .ok value ∧ next value = .ok result := by
  cases first with
  | error fault => cases h
  | ok value => exact ⟨value, rfl, h⟩

/-! ## URLs that begin like one of HTTPS -/

namespace Url

/-- Cutting at the end does not reach beyond a character that stays. -/
theorem exists_cutEnd_append {isEdge : Char → Bool} {last : Char} (hlast : isEdge last = false)
    (front rest : List Char) :
    ∃ more, ((front ++ last :: rest).reverse.dropWhile isEdge).reverse = front ++ last :: more := by
  have hfront : (last :: front.reverse).dropWhile isEdge = last :: front.reverse :=
    List.dropWhile_cons_of_neg (by simp [hlast])
  refine ⟨(rest.reverse.dropWhile isEdge).reverse, ?_⟩
  rw [List.reverse_append, List.reverse_cons, List.append_assoc, List.singleton_append,
    List.dropWhile_append, hfront]
  split
  · rename_i hnone
    rw [List.isEmpty_iff.mp hnone]
    simp
  · simp

theorem exists_trim_eq {text : List Char} (hfront : "https://".toList <+: text) :
    ∃ more, trim text = "https://".toList ++ more := by
  obtain ⟨rest, rfl⟩ := hfront
  obtain ⟨more, hmore⟩ := @exists_cutEnd_append (fun c => decide (c.toNat ≤ 32)) '/' (by decide)
    "https:/".toList rest
  exact ⟨more, hmore⟩

theorem scheme_of_parseWeb {scheme text : List Char} {number : Nat} {address : Web}
    (h : parseWeb scheme number text = .ok address) : address.scheme = scheme := by
  unfold parseWeb at h
  obtain ⟨⟨username, password, rest⟩, _, h⟩ := exists_of_bind_eq_ok h
  dsimp only at h
  split at h
  · cases h
  · obtain ⟨host, _, h⟩ := exists_of_bind_eq_ok h
    obtain ⟨⟨number, behind⟩, _, h⟩ := exists_of_bind_eq_ok h
    cases h
    rfl

/-- What begins like a URL of HTTPS is one, if it can be read at all. -/
theorem https?_of_parse {text : String} {url : Url} (hfront : "https://".toList <+: text.toList)
    (h : parse text = .ok url) : ∃ secure, url.https? = some secure := by
  obtain ⟨more, hmore⟩ := exists_trim_eq hfront
  rw [parse, hmore, List.filter_append] at h
  -- with the front known the scheme is known, and `parseWeb` reads what comes behind it
  change (parseWeb "https".toList 443 _).map web = _ at h
  cases haddress : parseWeb "https".toList 443 _ with
  | error cause =>
      rw [haddress] at h
      cases h
  | ok address =>
      rw [haddress] at h
      cases h
      exact ⟨⟨address, scheme_of_parseWeb haddress⟩, dif_pos _⟩

end Url

/-! ## The check -/

namespace Settings

theorem check_eq_ok_iff (settings : Settings) :
    settings.check = .ok () ↔
      settings.listening.check = .ok () ∧ settings.forwarding.check = .ok () ∧
        settings.caching.check = .ok () ∧ settings.logging.check = .ok () := by
  constructor
  · intro h
    obtain ⟨_, hlistening, h⟩ := exists_of_bind_eq_ok h
    obtain ⟨_, hforwarding, h⟩ := exists_of_bind_eq_ok h
    obtain ⟨_, hcaching, hlogging⟩ := exists_of_bind_eq_ok h
    exact ⟨hlistening, hforwarding, hcaching, hlogging⟩
  · rintro ⟨hlistening, hforwarding, hcaching, hlogging⟩
    unfold check
    rw [hlistening, hforwarding, hcaching, hlogging]
    rfl

namespace Forwarding

variable {forwarding : Forwarding}

theorem check_https (hprovider : forwarding.provider = "https") :
    forwarding.check = .ok () ↔
      ∃ text, forwarding.https.url = some text ∧ "https://".toList <+: text.toList := by
  rw [check, if_pos hprovider]
  cases forwarding.https.url with
  | none => exact iff_of_false (fun h => nomatch h) (fun ⟨_, h, _⟩ => nomatch h)
  | some text =>
      simp only [Option.some.injEq, exists_eq_left', ← List.isPrefixOf_iff_prefix]
      by_cases hfront : "https://".toList.isPrefixOf text.toList = true
      · exact iff_of_true (if_pos hfront) hfront
      · rw [if_neg hfront]
        exact iff_of_false (fun h => nomatch h) hfront

theorem check_udp (hprovider : forwarding.provider = "udp") :
    forwarding.check = .ok () ↔
      ∃ server, SocketAddress.ofString? forwarding.udp.address = some server := by
  have hother : ¬ forwarding.provider = "https" := by
    rw [hprovider]
    decide
  rw [check, if_neg hother, if_pos hprovider]
  cases SocketAddress.ofString? forwarding.udp.address with
  | none => exact iff_of_false (fun h => nomatch h) (fun ⟨_, h⟩ => nomatch h)
  | some server => exact iff_of_true rfl ⟨server, rfl⟩

/-- What the check asks of the remote server. -/
theorem check_eq_ok_iff :
    forwarding.check = .ok () ↔
      (forwarding.provider = "https" ∧
        ∃ text, forwarding.https.url = some text ∧ "https://".toList <+: text.toList) ∨
      (forwarding.provider = "udp" ∧
        ∃ server, SocketAddress.ofString? forwarding.udp.address = some server) := by
  constructor
  · intro h
    by_cases hhttps : forwarding.provider = "https"
    · exact Or.inl ⟨hhttps, (check_https hhttps).mp h⟩
    · by_cases hudp : forwarding.provider = "udp"
      · exact Or.inr ⟨hudp, (check_udp hudp).mp h⟩
      · rw [check, if_neg hhttps, if_neg hudp] at h
        cases h
  · rintro (⟨hhttps, h⟩ | ⟨hudp, h⟩)
    · exact (check_https hhttps).mpr h
    · exact (check_udp hudp).mpr h

end Forwarding

end Settings

/-! ## The client -/

namespace Remote

variable {forwarding : Settings.Forwarding}

theorem connect_of_badUrl {text : String} {cause : UrlFault}
    (hprovider : forwarding.provider = "https") (hurl : forwarding.https.url = some text)
    (hparse : Url.parse text = .error cause) (network : Network) :
    connect network forwarding = .error (.badUrl text cause) := by
  rw [connect, if_pos hprovider, ofHttps, hurl]
  dsimp only
  rw [hparse]

theorem connect_of_url {text : String} {url : Url} (hprovider : forwarding.provider = "https")
    (hurl : forwarding.https.url = some text) (hfront : "https://".toList <+: text.toList)
    (hparse : Url.parse text = .ok url) (network : Network) :
    ∃ remote, connect network forwarding = .ok remote := by
  obtain ⟨secure, hsecure⟩ := Url.https?_of_parse hfront hparse
  refine ⟨.https secure forwarding.https.bootstrapIp forwarding.https.timeoutSeconds, ?_⟩
  rw [connect, if_pos hprovider, ofHttps, hurl]
  dsimp only
  rw [hparse]
  dsimp only
  rw [ofUrl, hsecure]

theorem connect_udp {server : SocketAddress} (hprovider : forwarding.provider = "udp")
    (hserver : SocketAddress.ofString? forwarding.udp.address = some server) (network : Network) :
    (∃ remote, connect network forwarding = .ok remote) ∨
      ∃ cause, connect network forwarding = .error (.system cause) := by
  have hother : ¬ forwarding.provider = "https" := by
    rw [hprovider]
    decide
  rw [connect, if_neg hother, if_pos hprovider, ofUdp, hserver]
  dsimp only
  cases network.connect server with
  | error cause => exact Or.inr ⟨cause, rfl⟩
  | ok _ => exact Or.inl ⟨_, rfl⟩

/-- What can become of a client for settings that were checked. -/
theorem connect_of_check (hchecked : forwarding.check = .ok ()) (network : Network) :
    (∃ remote, connect network forwarding = .ok remote) ∨
      (∃ cause, connect network forwarding = .error (.system cause)) ∨
        (forwarding.provider = "https" ∧ ∃ text cause, forwarding.https.url = some text ∧
          Url.parse text = .error cause) := by
  rcases Settings.Forwarding.check_eq_ok_iff.mp hchecked with
    ⟨hprovider, text, hurl, hfront⟩ | ⟨hprovider, server, hserver⟩
  · cases hparse : Url.parse text with
    | ok url => exact Or.inl (connect_of_url hprovider hurl hfront hparse network)
    | error cause => exact Or.inr (Or.inr ⟨hprovider, text, cause, hurl, hparse⟩)
  · rcases connect_udp hprovider hserver network with hremote | hsystem
    · exact Or.inl hremote
    · exact Or.inr (Or.inl hsystem)

end Remote

namespace Settings

/-- **What checked settings can be put to work.**  A client for them fails because of the
settings exactly if it is to reach an HTTPS server by a text that is no URL.  A cache
comes about if its provider is one of the two. -/
theorem checked_settings_start (network : Network) {settings : Settings}
    (hchecked : settings.check = .ok ()) :
    ((∃ fault, Remote.connect network settings.forwarding = .error fault ∧
        fault.kind = .configuration) ↔
      settings.forwarding.provider = "https" ∧ ∃ text cause,
        settings.forwarding.https.url = some text ∧ Url.parse text = .error cause) ∧
      (settings.caching.provider = "memory" ∨ settings.caching.provider = "disabled" →
        ∃ cache, Cache.ofProvider settings.caching.provider = .ok cache) := by
  have hforwarding := ((check_eq_ok_iff settings).mp hchecked).2.1
  refine ⟨⟨?_, ?_⟩, ?_⟩
  · rintro ⟨fault, hfault, hkind⟩
    rcases Remote.connect_of_check hforwarding network with
      ⟨remote, hremote⟩ | ⟨cause, hsystem⟩ | hurl
    · rw [hremote] at hfault
      cases hfault
    · rw [hsystem] at hfault
      cases hfault
      cases hkind
    · exact hurl
  · rintro ⟨hprovider, text, cause, hurl, hparse⟩
    exact ⟨_, Remote.connect_of_badUrl hprovider hurl hparse network, rfl⟩
  · rintro (hmemory | hdisabled)
    · exact ⟨.emptyMemory, by rw [hmemory]; rfl⟩
    · exact ⟨.disabled, by rw [hdisabled]; rfl⟩

/-- Settings for an HTTPS server that is named by its address. -/
def secureSettings : Settings where
  forwarding := { https := { url := some "https://[2620:fe::10]/dns-query" } }

theorem checked_settings_start_secure :
    secureSettings.check = .ok () ∧
      (¬ ∃ fault, Remote.connect .isolated secureSettings.forwarding = .error fault ∧
        fault.kind = .configuration) ∧
      ∃ cache, Cache.ofProvider secureSettings.caching.provider = .ok cache := by
  have hchecked : secureSettings.check = .ok () := by cbv
  obtain ⟨hclient, hcache⟩ := checked_settings_start .isolated hchecked
  refine ⟨hchecked, fun hfault => ?_, hcache (Or.inl rfl)⟩
  obtain ⟨_, text, cause, hurl, hparse⟩ := hclient.mp hfault
  obtain rfl := Option.some.inj hurl
  have hread : ∃ url, Url.parse "https://[2620:fe::10]/dns-query" = .ok url := ⟨_, by cbv⟩
  obtain ⟨url, hurl⟩ := hread
  rw [hurl] at hparse
  cases hparse

/-- A URL without a host. -/
def hostlessSettings : Settings where
  forwarding := { https := { url := some "https://" } }

def strangeCacheSettings : Settings where
  forwarding := { https := { url := some "https://dns.example.net/dns-query" } }
  caching := { provider := "redis" }

/-- The check lets a URL without a host and an unknown provider of the cache pass, and
then no client and no cache come about. -/
theorem not_checked_settings_start :
    (hostlessSettings.check = .ok () ∧
      ∃ fault, Remote.connect .isolated hostlessSettings.forwarding = .error fault ∧
        fault.kind = .configuration) ∧
      strangeCacheSettings.check = .ok () ∧
      ∃ fault, Cache.ofProvider strangeCacheSettings.caching.provider = .error fault ∧
        fault.kind = .configuration := by
  have hhostless : hostlessSettings.check = .ok () := by cbv
  have hstrange : strangeCacheSettings.check = .ok () := by cbv
  have hparse : Url.parse "https://" = .error .emptyHost := by cbv
  refine ⟨⟨hhostless, _, Remote.connect_of_badUrl rfl rfl hparse .isolated, rfl⟩, hstrange, ?_⟩
  exact ⟨.unknownCacheProvider "redis", by cbv, rfl⟩

end Settings

end DnsForwarder
