import DnsForwarder.Settings.Schema
import Mathlib

/-!
# Single settings

A `Setting` is one of the values that settings consist of, wherever it stands.  Its path is the
names of the sections it is in and its own.

Whatever settings are read from, each single one is read from what its path leads to, and has its
default if that is nothing (`settings?_eq_some_iff`); the two places that defaults stand in agree
(`default_of_silent`).  So what is known about the fields of the data is known about the settings.
This holds where the sections are given by name; a section that is given by the places of its values
has no names to follow.
-/

namespace DnsForwarder

/-- A single setting. -/
inductive Setting
  | bindAddresses
  | portNumber
  | largestPayload
  | refuseOnError
  | graceSeconds
  | provider
  | url
  | bootstrapIp
  | httpsTimeout
  | udpAddress
  | udpTimeout
  | cacheProvider
  | capacity
  | lowestSeconds
  | highestSeconds
  | negativeSeconds
  | logLevel
  | logFormat
deriving DecidableEq, Repr

namespace Setting

/-- What a setting can be. -/
@[reducible] def Value : Setting → Type
  | bindAddresses => List IpAddress
  | portNumber => UInt16
  | refuseOnError => Bool
  | url => Option String
  | bootstrapIp => Option IpAddress
  | provider | udpAddress | cacheProvider | logLevel | logFormat => String
  | largestPayload | graceSeconds | httpsTimeout | udpTimeout | capacity | lowestSeconds
  | highestSeconds | negativeSeconds => UInt64

/-- The names of the sections that a setting is in, and its own name. -/
def path : Setting → List String
  | bindAddresses => ["server", "bind_addresses"]
  | portNumber => ["server", "port"]
  | largestPayload => ["server", "max_udp_payload"]
  | refuseOnError => ["server", "servfail_on_error"]
  | graceSeconds => ["server", "shutdown_grace_seconds"]
  | provider => ["upstream", "provider"]
  | url => ["upstream", "https", "url"]
  | bootstrapIp => ["upstream", "https", "bootstrap_ip"]
  | httpsTimeout => ["upstream", "https", "timeout_seconds"]
  | udpAddress => ["upstream", "udp", "address"]
  | udpTimeout => ["upstream", "udp", "timeout_seconds"]
  | cacheProvider => ["cache", "provider"]
  | capacity => ["cache", "max_capacity"]
  | lowestSeconds => ["cache", "min_ttl_seconds"]
  | highestSeconds => ["cache", "max_ttl_seconds"]
  | negativeSeconds => ["cache", "negative_ttl_seconds"]
  | logLevel => ["logging", "level"]
  | logFormat => ["logging", "format"]

theorem forall_iff {p : Setting → Prop} :
    (∀ setting, p setting) ↔
      p bindAddresses ∧ p portNumber ∧ p largestPayload ∧ p refuseOnError ∧ p graceSeconds ∧
        p provider ∧ p url ∧ p bootstrapIp ∧ p httpsTimeout ∧ p udpAddress ∧ p udpTimeout ∧
        p cacheProvider ∧ p capacity ∧ p lowestSeconds ∧ p highestSeconds ∧ p negativeSeconds ∧
        p logLevel ∧ p logFormat := by
  refine ⟨fun h => by simp only [h, and_self], fun h setting => ?_⟩
  cases setting <;> simp only [h]

/-- The paths of the sections; the whole of the settings is one, too. -/
def sections : List (List String) :=
  [[], ["server"], ["upstream"], ["upstream", "https"], ["upstream", "udp"], ["cache"], ["logging"]]

end Setting

/-- The value of a single setting. -/
def Settings.get (settings : Settings) : (setting : Setting) → setting.Value
  | .bindAddresses => settings.listening.bindAddresses
  | .portNumber => settings.listening.portNumber
  | .largestPayload => settings.listening.largestPayload
  | .refuseOnError => settings.listening.refuseOnError
  | .graceSeconds => settings.listening.graceSeconds
  | .provider => settings.forwarding.provider
  | .url => settings.forwarding.https.url
  | .bootstrapIp => settings.forwarding.https.bootstrapIp
  | .httpsTimeout => settings.forwarding.https.timeoutSeconds
  | .udpAddress => settings.forwarding.udp.address
  | .udpTimeout => settings.forwarding.udp.timeoutSeconds
  | .cacheProvider => settings.caching.provider
  | .capacity => settings.caching.capacity
  | .lowestSeconds => settings.caching.lowestSeconds
  | .highestSeconds => settings.caching.highestSeconds
  | .negativeSeconds => settings.caching.negativeSeconds
  | .logLevel => settings.logging.level
  | .logFormat => settings.logging.format

/-- The settings with these values. -/
def Settings.of (values : (setting : Setting) → setting.Value) : Settings where
  listening :=
    { bindAddresses := values .bindAddresses
      portNumber := values .portNumber
      largestPayload := values .largestPayload
      refuseOnError := values .refuseOnError
      graceSeconds := values .graceSeconds }
  forwarding :=
    { provider := values .provider
      https :=
        { url := values .url
          bootstrapIp := values .bootstrapIp
          timeoutSeconds := values .httpsTimeout }
      udp := { address := values .udpAddress, timeoutSeconds := values .udpTimeout } }
  caching :=
    { provider := values .cacheProvider
      capacity := values .capacity
      lowestSeconds := values .lowestSeconds
      highestSeconds := values .highestSeconds
      negativeSeconds := values .negativeSeconds }
  logging := { level := values .logLevel, format := values .logFormat }

@[simp] theorem Settings.get_of (values : (setting : Setting) → setting.Value)
    (setting : Setting) : (Settings.of values).get setting = values setting := by
  cases setting <;> rfl

namespace Settings

variable {Value : Type}

/-- The value that names lead to, one field after the other. -/
def find? (field? : Value → String → Option Value) (value : Value) : List String → Option Value
  | [] => some value
  | name :: path => (field? value name).bind fun inner => find? field? inner path

theorem find?_append (field? : Value → String → Option Value) (value : Value)
    (path more : List String) :
    find? field? value (path ++ more) =
      (find? field? value path).bind fun inner => find? field? inner more := by
  induction path generalizing value with
  | nil => rfl
  | cons name path ih =>
      simp only [List.cons_append, find?, ih, Option.bind_assoc]

theorem find?_concat (field? : Value → String → Option Value) (value : Value)
    (path : List String) (name : String) :
    find? field? value (path ++ [name]) = (find? field? value path).bind (field? · name) := by
  simp [find?_append, find?]

theorem Section.read_eq {Kind : Type} (values : Section Value) (place : Nat) (name : String)
    (default : Kind) (convert : Value → Option Kind) :
    values.read place name default convert =
      (values.get? place name).elim (some default) convert := by
  unfold Section.read
  cases values.get? place name <;> rfl

namespace Source

variable (source : Source Value)

/-- How a value becomes a single setting. -/
def convert? : (setting : Setting) → Value → Option setting.Value
  | .bindAddresses => source.addresses?
  | .portNumber => source.word16?
  | .refuseOnError => source.flag?
  | .url => source.optional? source.text?
  | .bootstrapIp => source.optional? source.address?
  | .provider | .udpAddress | .cacheProvider | .logLevel | .logFormat => source.text?
  | .largestPayload | .graceSeconds | .httpsTimeout | .udpTimeout | .capacity | .lowestSeconds
  | .highestSeconds | .negativeSeconds => source.word64?

/-- What a single setting is read as, where `found` is what is said about it.  Whether its section
is left out or only the setting, the default is the same: the lemmas about the sections compare the
one that stands beside the name with the one of the structure. -/
def read? (setting : Setting) (found : Option Value) : Option setting.Value :=
  found.elim (some (({} : Settings).get setting)) (source.convert? setting)

/-- Whether a value is a section by name, with these fields. -/
def Shows (fields : String → Option Value) (value : Value) : Prop :=
  ∀ count, ∃ values, source.sectionValues? count value = some values ∧
    ∀ place name, values.get? place name = fields name

/-- Whether the settings that stand right in a section are as its fields say. -/
def Gives (path : List String) (fields : String → Option Value) (settings : Settings) : Prop :=
  ∀ setting name, Setting.path setting = path ++ [name] →
    source.read? setting (fields name) = some (settings.get setting)

variable {source} {field? : Value → String → Option Value} {found : Option Value}
  (hshows : ∀ value ∈ found, source.Shows (field? value) value) (settings : Settings)

include hshows

theorem listening?_eq_some_iff :
    found.elim (some {}) source.listening? = some settings.listening ↔
      source.Gives ["server"] (fun name => found.bind (field? · name)) settings := by
  obtain ⟨⟨_, _, _, _, _⟩, _, _, _⟩ := settings
  simp only [Gives, Setting.forall_iff, Setting.path, read?, convert?, get]
  cases found with
  | none => simp
  | some value =>
      obtain ⟨values, hvalues, hget⟩ := hshows value rfl 5
      simp [listening?, hvalues, Section.read_eq, hget, Option.bind_eq_some_iff, -Bool.exists_bool]

theorem https?_eq_some_iff :
    found.elim (some {}) source.https? = some settings.forwarding.https ↔
      source.Gives ["upstream", "https"] (fun name => found.bind (field? · name)) settings := by
  obtain ⟨_, ⟨_, ⟨_, _, _⟩, _⟩, _, _⟩ := settings
  simp only [Gives, Setting.forall_iff, Setting.path, read?, convert?, get]
  cases found with
  | none => simp
  | some value =>
      obtain ⟨values, hvalues, hget⟩ := hshows value rfl 3
      simp [https?, hvalues, Section.read_eq, hget, Option.bind_eq_some_iff]

theorem udp?_eq_some_iff :
    found.elim (some {}) source.udp? = some settings.forwarding.udp ↔
      source.Gives ["upstream", "udp"] (fun name => found.bind (field? · name)) settings := by
  obtain ⟨_, ⟨_, _, ⟨_, _⟩⟩, _, _⟩ := settings
  simp only [Gives, Setting.forall_iff, Setting.path, read?, convert?, get]
  cases found with
  | none => simp
  | some value =>
      obtain ⟨values, hvalues, hget⟩ := hshows value rfl 2
      simp [udp?, hvalues, Section.read_eq, hget, Option.bind_eq_some_iff]

theorem forwarding?_eq_some_iff :
    found.elim (some {}) source.forwarding? = some settings.forwarding ↔
      source.Gives ["upstream"] (fun name => found.bind (field? · name)) settings ∧
        (found.bind (field? · "https")).elim (some {}) source.https? =
          some settings.forwarding.https ∧
        (found.bind (field? · "udp")).elim (some {}) source.udp? =
          some settings.forwarding.udp := by
  obtain ⟨_, ⟨_, _, _⟩, _, _⟩ := settings
  simp only [Gives, Setting.forall_iff, Setting.path, read?, convert?, get]
  cases found with
  | none => simp
  | some value =>
      obtain ⟨values, hvalues, hget⟩ := hshows value rfl 3
      simp [forwarding?, hvalues, Section.read_eq, hget, Option.bind_eq_some_iff]

theorem caching?_eq_some_iff :
    found.elim (some {}) source.caching? = some settings.caching ↔
      source.Gives ["cache"] (fun name => found.bind (field? · name)) settings := by
  obtain ⟨_, _, ⟨_, _, _, _, _⟩, _⟩ := settings
  simp only [Gives, Setting.forall_iff, Setting.path, read?, convert?, get]
  cases found with
  | none => simp
  | some value =>
      obtain ⟨values, hvalues, hget⟩ := hshows value rfl 5
      simp [caching?, hvalues, Section.read_eq, hget, Option.bind_eq_some_iff]

theorem logging?_eq_some_iff :
    found.elim (some {}) source.logging? = some settings.logging ↔
      source.Gives ["logging"] (fun name => found.bind (field? · name)) settings := by
  obtain ⟨_, _, _, ⟨_, _⟩⟩ := settings
  simp only [Gives, Setting.forall_iff, Setting.path, read?, convert?, get]
  cases found with
  | none => simp
  | some value =>
      obtain ⟨values, hvalues, hget⟩ := hshows value rfl 2
      simp [logging?, hvalues, Section.read_eq, hget, Option.bind_eq_some_iff]

omit hshows

/-- **Settings are read one by one.**  Where each section that is mentioned is given by name,
settings are read exactly if each single setting is read as its own value, from what its
path leads to and from nothing else. -/
theorem settings?_eq_some_iff {value : Value}
    (hsections : ∀ path ∈ Setting.sections, ∀ inner ∈ find? field? value path,
      source.Shows (field? inner) inner) :
    source.settings? value = some settings ↔
      ∀ setting : Setting, source.read? setting (find? field? value setting.path) =
        some (settings.get setting) := by
  have hwhole : source.settings? value = some settings ↔
      (find? field? value ["server"]).elim (some {}) source.listening? =
          some settings.listening ∧
        (find? field? value ["upstream"]).elim (some {}) source.forwarding? =
          some settings.forwarding ∧
        (find? field? value ["cache"]).elim (some {}) source.caching? = some settings.caching ∧
        (find? field? value ["logging"]).elim (some {}) source.logging? =
          some settings.logging := by
    obtain ⟨values, hvalues, hget⟩ := hsections [] (by decide) value rfl 4
    obtain ⟨_, _, _, _⟩ := settings
    simp [settings?, hvalues, Section.read_eq, hget, Option.bind_eq_some_iff, find?]
  rw [hwhole, listening?_eq_some_iff (hsections _ (by decide)),
    forwarding?_eq_some_iff (hsections _ (by decide)),
    caching?_eq_some_iff (hsections _ (by decide)), logging?_eq_some_iff (hsections _ (by decide)),
    ← find?_concat, ← find?_concat, https?_eq_some_iff (hsections _ (by decide)),
    udp?_eq_some_iff (hsections _ (by decide))]
  simp only [Gives, ← find?_concat]
  constructor
  · rintro ⟨hserver, ⟨hupstream, hhttps, hudp⟩, hcache, hlogging⟩ setting
    cases setting with
    | bindAddresses | portNumber | largestPayload | refuseOnError | graceSeconds =>
      exact hserver _ _ rfl
    | provider => exact hupstream _ _ rfl
    | url | bootstrapIp | httpsTimeout => exact hhttps _ _ rfl
    | udpAddress | udpTimeout => exact hudp _ _ rfl
    | cacheProvider | capacity | lowestSeconds | highestSeconds | negativeSeconds =>
      exact hcache _ _ rfl
    | logLevel | logFormat => exact hlogging _ _ rfl
  · intro h
    have hpart : ∀ path : List String, ∀ setting name, Setting.path setting = path ++ [name] →
        source.read? setting (find? field? value (path ++ [name])) = some (settings.get setting) :=
      fun path setting name hpath => hpath ▸ h setting
    exact ⟨hpart _, ⟨hpart _, hpart _, hpart _⟩, hpart _, hpart _⟩

/-- **The defaults agree.**  A section that is there but says nothing takes each of its settings
from beside the name; it is read as the one that is left out, all of whose settings come from the
structure. -/
theorem default_of_silent {value : Value} (hsilent : source.Shows (fun _ => none) value) :
    source.listening? value = some {} ∧ source.https? value = some {} ∧
      source.udp? value = some {} ∧ source.forwarding? value = some {} ∧
      source.caching? value = some {} ∧ source.logging? value = some {} ∧
      source.settings? value = some {} := by
  have hshows : ∀ inner ∈ some value, source.Shows (fun _ => none) inner := by
    rintro inner ⟨⟩
    exact hsilent
  have hsections : ∀ path ∈ Setting.sections, ∀ inner ∈ find? (fun _ _ => none) value path,
      source.Shows (fun _ => none) inner := by
    intro path _ inner hinner
    cases path with
    | nil => exact hshows inner hinner
    | cons name path => cases hinner
  have hgives : ∀ path, source.Gives path (fun _ => none) {} := fun _ _ _ _ => rfl
  refine ⟨(listening?_eq_some_iff hshows {}).mpr (hgives _),
    (https?_eq_some_iff hshows {}).mpr (hgives _), (udp?_eq_some_iff hshows {}).mpr (hgives _),
    (forwarding?_eq_some_iff hshows {}).mpr ⟨hgives _, rfl, rfl⟩,
    (caching?_eq_some_iff hshows {}).mpr (hgives _),
    (logging?_eq_some_iff hshows {}).mpr (hgives _),
    (settings?_eq_some_iff {} hsections).mpr fun setting => ?_⟩
  cases setting <;> rfl

end Source
end Settings
end DnsForwarder
