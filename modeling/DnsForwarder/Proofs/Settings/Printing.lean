import DnsForwarder.Proofs.Json.RoundTrip
import DnsForwarder.Proofs.Net.Address
import DnsForwarder.Proofs.Settings.Setting
import DnsForwarder.Settings.Json

/-!
# Printed settings are read back

The settings are printed as JSON, and the same JSON is what settings can be read from.  Each
single setting stands in it as a value that is converted to the setting (`exists_find?_toJson`);
addresses stand in it as their texts.  So nothing is lost.

Every key may be left out, that of a section with all that is in it, and what was left out has its
default.  `Json.without` is a value of which any set of keys is gone, and `find?_without` says what
is still found: what no removed key leads to.  With it, `printed_settings_read` needs no case for
any particular set of keys.
-/

namespace DnsForwarder

/-! ## Removing keys -/

namespace Json

mutual

/-- A value without the keys that `removed` names, each by the keys that lead to it and itself. -/
def without (removed : List String → Bool) : Json → Json
  | object fields => object (fieldsWithout removed fields)
  | value => value

def fieldsWithout (removed : List String → Bool) : List (String × Json) → List (String × Json)
  | [] => []
  | (name, value) :: rest =>
    if removed [name] then fieldsWithout removed rest
    else
      (name, value.without fun path => removed (name :: path)) :: fieldsWithout removed rest

end

mutual

theorem without_none : ∀ value : Json, value.without (fun _ => false) = value
  | object fields => by rw [without, fieldsWithout_none]
  | null | bool _ | integer _ | decimal _ _ | string _ | array _ => rfl

theorem fieldsWithout_none :
    ∀ fields : List (String × Json), fieldsWithout (fun _ => false) fields = fields
  | [] => rfl
  | (name, value) :: rest => by
    simp [fieldsWithout, without_none value, fieldsWithout_none rest]

end

theorem fieldsWithout_append (removed : List String → Bool) (front back : List (String × Json)) :
    fieldsWithout removed (front ++ back) =
      fieldsWithout removed front ++ fieldsWithout removed back := by
  induction front with
  | nil => rfl
  | cons field front ih =>
      simp only [List.cons_append, fieldsWithout, ih]
      split <;> rfl

theorem field?_without (removed : List String → Bool) (value : Json) (name : String) :
    (value.without removed).field? name =
      if removed [name] then none
      else (value.field? name).map (without fun path => removed (name :: path)) := by
  cases value with
  | object fields =>
    simp only [without, field?]
    -- the last field of a name counts
    induction fields using List.reverseRecOn with
    | nil => simp [fieldsWithout]
    | append_singleton front field ih =>
        obtain ⟨key, value⟩ := field
        rw [fieldsWithout_append, List.reverse_append, List.reverse_append]
        by_cases hname : name = key
        · subst hname
          by_cases hgone : removed [name] = true
          · simpa [fieldsWithout, hgone] using ih
          · simp [fieldsWithout, hgone]
        · have hother : (name == key) = false := beq_false_of_ne hname
          by_cases hgone : removed [key] = true
          · simpa [fieldsWithout, hgone, List.lookup_cons, hother] using ih
          · simpa [fieldsWithout, hgone, List.lookup_cons, hother] using ih
  | _ => simp [without, field?]

theorem find?_without (removed : List String → Bool) (value : Json) (path : List String) :
    Settings.find? field? (value.without removed) path =
      if path.inits.tail.any removed then none
      else (Settings.find? field? value path).map (without fun more => removed (path ++ more)) := by
  induction path generalizing removed value with
  | nil => rfl
  | cons name path ih =>
      -- the value is gone if any key on the way to it is removed, the last one being its own
      have hinits : (name :: path).inits.tail.any removed =
          (removed [name] || path.inits.tail.any fun more => removed (name :: more)) := by
        cases path <;> simp [List.any_map, Function.comp_def]
      rw [Settings.find?, field?_without, hinits, Settings.find?]
      by_cases hgone : removed [name] = true
      · simp [hgone]
      · cases hfield : value.field? name with
        | none => simp [hgone]
        | some inner => simp [hgone, ih]

theorem exists_of_mem_fieldsWithout {removed : List String → Bool}
    {fields : List (String × Json)} {field : String × Json}
    (hfield : field ∈ fieldsWithout removed fields) :
    ∃ whole ∈ fields, field.2 = whole.2.without fun path => removed (whole.1 :: path) := by
  induction fields with
  | nil => cases hfield
  | cons first rest ih =>
      rw [fieldsWithout] at hfield
      split at hfield
      · obtain ⟨whole, hwhole, hsame⟩ := ih hfield
        exact ⟨whole, List.mem_cons_of_mem first hwhole, hsame⟩
      · rcases List.mem_cons.mp hfield with rfl | hrest
        · exact ⟨first, List.mem_cons_self, rfl⟩
        · obtain ⟨whole, hwhole, hsame⟩ := ih hrest
          exact ⟨whole, List.mem_cons_of_mem first hwhole, hsame⟩

theorem Plain.without {depth : Nat} {value : Json} (hvalue : Plain depth value)
    (removed : List String → Bool) : Plain depth (value.without removed) := by
  induction hvalue generalizing removed with
  | null => exact .null
  | bool value => exact .bool value
  | integer hvalue => exact .integer hvalue
  | string value => exact .string value
  | array hitems _ => exact .array hitems
  | object _ ih =>
    refine .object fun field hfield => ?_
    obtain ⟨whole, hwhole, hsame⟩ := exists_of_mem_fieldsWithout hfield
    rw [hsame]
    exact ih whole hwhole _

end Json

/-- Whether the key of a setting, or that of a section it is in, is among those removed. -/
def Setting.isRemoved (removed : List String → Bool) (setting : Setting) : Bool :=
  setting.path.inits.tail.any removed

namespace Settings

/-! ## The printed settings -/

variable (settings : Settings)

theorem plain_natural (value : UInt64) (depth : Nat) : Json.Plain depth (natural value) :=
  .integer value.toNat_lt

theorem plain_optional (text : Option String) (depth : Nat) :
    Json.Plain depth (optional text) := by
  cases text with
  | none => exact .null
  | some text => exact .string text

theorem plain_portNumber (value : UInt16) (depth : Nat) :
    Json.Plain depth (.integer value.toNat) :=
  .integer (value.toNat_lt.trans (by decide))

theorem plain_addresses (addresses : List IpAddress) (depth : Nat) :
    Json.Plain (depth + 1) (.array (addresses.map fun address => .string address.text)) := by
  refine .array fun item hitem => ?_
  obtain ⟨address, _, rfl⟩ := List.mem_map.mp hitem
  exact .string address.text

/-- Settings are printed as a value that can be read. -/
theorem plain_toJson : Json.Plain Json.deepest settings.toJson := by
  refine .object ?_
  simp only [List.forall_mem_cons, List.not_mem_nil, false_implies, implies_true, and_true]
  refine ⟨?_, ?_, ?_, ?_⟩
  · refine .object ?_
    simp [plain_natural, plain_portNumber, plain_addresses, Json.Plain.bool]
  · refine .object ?_
    simp [Https.toJson, Udp.toJson, plain_natural, plain_optional, Json.Plain.string,
      Json.Plain.object]
  · refine .object ?_
    simp [plain_natural, Json.Plain.string]
  · refine .object ?_
    simp [Json.Plain.string]

/-! ## The conversions -/

theorem word64?_natural (value : UInt64) : jsonSource.word64? (natural value) = some value := by
  simp [Source.word64?, jsonSource, natural, Json.asNat?, value.toNat_lt]

theorem word16?_integer (value : UInt16) :
    jsonSource.word16? (.integer value.toNat) = some value := by
  simp [Source.word16?, jsonSource, Json.asNat?, value.toNat_lt]

theorem address?_text (address : IpAddress) :
    jsonSource.address? (.string address.text) = some address := by
  simp [Source.address?, jsonSource, Json.asString?, IpAddress.ofString?_text]

theorem addresses?_texts (addresses : List IpAddress) :
    jsonSource.addresses? (.array (addresses.map fun address => .string address.text)) =
      some addresses := by
  change (addresses.map fun address => Json.string address.text).mapM jsonSource.address? = _
  induction addresses with
  | nil => rfl
  | cons address rest ih => simp [address?_text, ih]

theorem optional?_text (text : Option String) :
    jsonSource.optional? jsonSource.text? (optional text) = some text := by
  cases text <;> rfl

theorem without_optional (removed : List String → Bool) (text : Option String) :
    (optional text).without removed = optional text := by
  cases text <;> rfl

theorem optional?_address (address : Option IpAddress) :
    jsonSource.optional? jsonSource.address? (optional (address.map IpAddress.text)) =
      some address := by
  cases address with
  | none => rfl
  | some address =>
      change (jsonSource.address? (.string address.text)).map some = _
      rw [address?_text]
      rfl

/-- Each single setting stands in the printed settings as a value that is read as the setting. -/
theorem exists_find?_toJson (setting : Setting) :
    ∃ value, find? Json.field? settings.toJson setting.path = some value ∧
      (∀ removed, value.without removed = value) ∧
      jsonSource.convert? setting value = some (settings.get setting) := by
  cases setting with
  | bindAddresses => exact ⟨_, rfl, fun _ => rfl, addresses?_texts _⟩
  | portNumber => exact ⟨_, rfl, fun _ => rfl, word16?_integer _⟩
  | url => exact ⟨_, rfl, fun removed => without_optional removed _, optional?_text _⟩
  | bootstrapIp => exact ⟨_, rfl, fun removed => without_optional removed _, optional?_address _⟩
  | refuseOnError => exact ⟨_, rfl, fun _ => rfl, rfl⟩
  | provider | udpAddress | cacheProvider | logLevel | logFormat =>
    exact ⟨_, rfl, fun _ => rfl, rfl⟩
  | _ => exact ⟨_, rfl, fun _ => rfl, word64?_natural _⟩

/-- The sections of the printed settings are objects. -/
theorem exists_section_toJson {path : List String} (hpath : path ∈ Setting.sections) :
    ∃ fields, find? Json.field? settings.toJson path = some (.object fields) := by
  simp only [Setting.sections, List.mem_cons, List.not_mem_nil, or_false] at hpath
  rcases hpath with rfl | rfl | rfl | rfl | rfl | rfl | rfl <;> exact ⟨_, rfl⟩

theorem shows_object (fields : List (String × Json)) :
    jsonSource.Shows (Json.field? (.object fields)) (.object fields) :=
  fun _ => ⟨.named fields, rfl, fun _ _ => rfl⟩

/-- The settings, by default where a key was removed. -/
def restored (removed : List String → Bool) : Settings :=
  .of fun setting =>
    if setting.isRemoved removed then ({} : Settings).get setting else settings.get setting

theorem restored_none : settings.restored (fun _ => false) = settings := by
  simp [restored, Setting.isRemoved, Settings.of, get]

theorem ofJson_without (removed : List String → Bool) :
    ofJson (settings.toJson.without removed) = .ok (settings.restored removed) := by
  have hsections : ∀ path ∈ Setting.sections,
      ∀ inner ∈ find? Json.field? (settings.toJson.without removed) path,
        jsonSource.Shows (Json.field? inner) inner := by
    intro path hpath inner hinner
    obtain ⟨fields, hfields⟩ := settings.exists_section_toJson hpath
    rw [Json.find?_without, hfields] at hinner
    split at hinner
    · cases hinner
    · cases hinner
      exact shows_object _
  have hread : ∀ setting : Setting, jsonSource.read? setting
      (find? Json.field? (settings.toJson.without removed) setting.path) =
        some ((settings.restored removed).get setting) := by
    intro setting
    obtain ⟨value, hvalue, hwhole, hconvert⟩ := settings.exists_find?_toJson setting
    rw [Json.find?_without, hvalue, restored, get_of, Setting.isRemoved]
    split
    · rfl
    · rw [Option.map_some, hwhole]
      exact hconvert
  rw [ofJson, (Source.settings?_eq_some_iff _ hsections).mpr hread]

theorem ofRendered_without (removed : List String → Bool) :
    ofRendered (settings.toJson.without removed).indented = .ok (settings.restored removed) := by
  rw [ofRendered, Json.parse?_indented (settings.plain_toJson.without removed)]
  exact settings.ofJson_without removed

/-- **Printed settings are read back.**  The text that is printed of settings stands for their
JSON value, and reading it gives the settings again.  If keys are removed from it, be it keys of
settings or of whole sections, reading the rest gives every setting that lost no key as it was, and
all others as they are by default. -/
theorem printed_settings_read (settings : Settings) :
    Json.parse? settings.render = some settings.toJson ∧
      ofRendered settings.render = .ok settings ∧
      ∀ removed : List String → Bool, ∃ rest : Settings,
        ofJson (settings.toJson.without removed) = .ok rest ∧
        ofRendered (settings.toJson.without removed).indented = .ok rest ∧
        ∀ setting : Setting, rest.get setting =
          if setting.isRemoved removed then ({} : Settings).get setting
          else settings.get setting := by
  refine ⟨Json.parse?_indented settings.plain_toJson, ?_, fun removed =>
    ⟨settings.restored removed, settings.ofJson_without removed,
      settings.ofRendered_without removed, fun setting => ?_⟩⟩
  · have hwhole := settings.ofRendered_without fun _ => false
    rwa [Json.without_none, restored_none] at hwhole
  · rw [restored, get_of]

end Settings
end DnsForwarder
