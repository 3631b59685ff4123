import DnsForwarder.CommandLine.Apply
import DnsForwarder.Proofs.Settings.Merging
import DnsForwarder.Settings.Load

/-!
# Layers of settings

Settings are taken from defaults, a file, variables and arguments, each of which overrides those
before it.  The layers meet as trees: a variable is put at the place that its name leads to, and
only what comes of all of them is read.  `load_eq_ok_iff` takes the settings apart again, each to
what the last variable of its name says (`assigned?`), else to what the file says.  It follows that
each layer changes the settings that it names and no others (`layers_touch_named`).

A file can also give a section as a list, of which the values are taken by their places.  A variable
then turns the list into a table and all other values of the section are lost, so this is said of
files that give their sections as tables (`GivesTables`).
-/

namespace DnsForwarder

/-! ## Names of settings -/

namespace Setting

/-- The name of a setting in variables. -/
def name (setting : Setting) : String :=
  String.ofList (Text.joinWith ['.'] (setting.path.map String.toList))

theorem pathOf_name (setting : Setting) :
    Settings.pathOf setting.name = setting.path.map .field := by
  cases setting <;> cbv

/-- No setting lies on the way to another. -/
theorem eq_of_prefix {one other : Setting} (h : one.path <+: other.path) : one = other := by
  revert h
  cases one <;> cases other <;> decide

theorem not_prefix_section {path : List String} (hpath : path ∈ sections) (setting : Setting) :
    ¬ setting.path <+: path := by
  revert path
  cases setting <;> decide

theorem name_injective {one other : Setting} (h : one.name = other.name) : one = other := by
  have hpath : one.path.map Settings.Step.field = other.path.map Settings.Step.field := by
    rw [← pathOf_name, ← pathOf_name, h]
  have hfield : Function.Injective Settings.Step.field := fun _ _ hsame => by cases hsame; rfl
  exact eq_of_prefix (List.map_injective_iff.mpr hfield hpath ▸ List.prefix_rfl)

end Setting

/-- Whether a value is a table. -/
def Datum.isTable : Datum → Bool
  | table _ => true
  | _ => false

namespace Settings

/-! ## What a setting is read from -/

/-- Data in which each section that is mentioned is a table. -/
def GivesTables (datum : Datum) : Prop :=
  ∀ path ∈ Setting.sections, ∀ inner ∈ find? Datum.field? datum path, inner.isTable

instance (datum : Datum) : Decidable (GivesTables datum) :=
  inferInstanceAs (Decidable (∀ path ∈ Setting.sections, ∀ inner ∈ find? _ datum path, _))

theorem overlay_read (text : String) (old : Datum) :
    overlay (Variable.read text) old = Variable.read text := by
  unfold Variable.read
  dsimp only
  split_ifs
  · rfl
  · rfl
  · split <;> rfl

theorem putAt_name (setting : Setting) (value datum : Datum) :
    putAt setting.name value datum =
      alterAt (overlay value) (setting.path.map .field) datum := by
  rw [putAt, setting.pathOf_name]

theorem GivesTables.putAt {datum : Datum} (h : GivesTables datum) (setting : Setting)
    (value : Datum) : GivesTables (putAt setting.name value datum) := by
  intro path hpath inner hinner
  rw [putAt_name] at hinner
  have hone := Setting.not_prefix_section hpath setting
  by_cases hfront : path <+: setting.path
  · obtain ⟨fields, hfields⟩ := find?_alterAt_of_prefix hfront
      (fun hsame => hone (hsame ▸ List.prefix_rfl)) datum
    rw [hfields] at hinner
    exact Option.some.inj hinner ▸ rfl
  · rw [find?_alterAt_of_ne hone hfront] at hinner
    exact h path hpath inner hinner

theorem find?_putAt_self (setting : Setting) (text : String) (datum : Datum) :
    find? Datum.field? (putAt setting.name (Variable.read text) datum) setting.path =
      some (Variable.read text) := by
  rw [putAt_name]
  exact find?_alterAt_self (overlay_read text) datum

theorem find?_putAt_of_ne {setting other : Setting} (hne : other ≠ setting)
    (value datum : Datum) :
    find? Datum.field? (putAt setting.name value datum) other.path =
      find? Datum.field? datum other.path := by
  rw [putAt_name]
  exact find?_alterAt_of_ne (fun h => hne (Setting.eq_of_prefix h).symm)
    (fun h => hne (Setting.eq_of_prefix h)) datum

/-- Whether a variable stands for a setting. -/
def Variable.Names (assigned : Variable) (setting : Setting) : Prop :=
  assigned.setting? = some setting.name

instance (assigned : Variable) (setting : Setting) : Decidable (assigned.Names setting) :=
  inferInstanceAs (Decidable (_ = _))

theorem Variable.Names.unique {assigned : Variable} {one other : Setting}
    (hone : assigned.Names one) (hother : assigned.Names other) : one = other :=
  Setting.name_injective (Option.some.inj (hone.symm.trans hother))

/-- Variables that stand for single settings, as far as they stand for anything. -/
def NameSettings (environment : List Variable) : Prop :=
  ∀ assigned ∈ environment, ∀ name ∈ assigned.setting?, ∃ setting : Setting, name = setting.name

/-- What the last of the variables that stand for a setting says. -/
def assigned? (environment : List Variable) (setting : Setting) : Option Datum :=
  (environment.reverse.find? (·.Names setting)).map fun assigned => Variable.read assigned.value

theorem assigned?_append (front back : List Variable) (setting : Setting) :
    assigned? (front ++ back) setting =
      (assigned? back setting).or (assigned? front setting) := by
  rw [assigned?, List.reverse_append, List.find?_append, Option.map_or]
  rfl

theorem assigned?_eq_none {environment : List Variable} {setting : Setting}
    (h : ∀ assigned ∈ environment, ¬ assigned.Names setting) :
    assigned? environment setting = none := by
  have hnone : environment.reverse.find? (·.Names setting) = none :=
    List.find?_eq_none.mpr fun assigned hassigned => by
      simpa using h assigned (List.mem_reverse.mp hassigned)
  rw [assigned?, hnone, Option.map_none]

theorem assigned?_singleton_self {assigned : Variable} {setting : Setting}
    (h : assigned.Names setting) :
    assigned? [assigned] setting = some (Variable.read assigned.value) := by
  simp [assigned?, h]

theorem assigned?_singleton_of_not {assigned : Variable} {setting : Setting}
    (h : ¬ assigned.Names setting) : assigned? [assigned] setting = none :=
  assigned?_eq_none fun _ hmem => List.mem_singleton.mp hmem ▸ h

section Insert

variable {front back : List Variable} {added : Variable} {setting : Setting}

theorem NameSettings.insert (h : NameSettings (front ++ back)) (hadded : added.Names setting) :
    NameSettings (front ++ added :: back) := by
  intro assigned hassigned name hname
  simp only [List.mem_append, List.mem_cons] at hassigned
  rcases hassigned with hfront | rfl | hback
  · exact h assigned (List.mem_append_left back hfront) name hname
  · exact ⟨setting, Option.some.inj (hname.symm.trans hadded)⟩
  · exact h assigned (List.mem_append_right front hback) name hname

theorem assigned?_insert_of_not (h : ¬ added.Names setting) :
    assigned? (front ++ added :: back) setting = assigned? (front ++ back) setting := by
  rw [List.append_cons, assigned?_append, assigned?_append, assigned?_append,
    assigned?_singleton_of_not h, Option.none_or]

theorem assigned?_insert_self (h : added.Names setting)
    (hback : ∀ other ∈ back, ¬ other.Names setting) :
    assigned? (front ++ added :: back) setting = some (Variable.read added.value) := by
  rw [List.append_cons, assigned?_append, assigned?_append, assigned?_eq_none hback,
    assigned?_singleton_self h, Option.none_or, Option.some_or]

end Insert

/-- A variable is put into the data behind those before it, if it stands for anything. -/
theorem putAll_ofVariables_concat (environment : List Variable) (last : Variable)
    (datum : Datum) :
    putAll (ofVariables (environment ++ [last])) datum =
      last.setting?.elim (putAll (ofVariables environment) datum) fun name =>
        putAt name (Variable.read last.value) (putAll (ofVariables environment) datum) := by
  cases h : last.setting? <;> simp [ofVariables, putAll, List.filterMap_append, h]

/-- What variables say of a setting comes before what was there, and they leave sections tables. -/
theorem putAll_ofVariables {environment : List Variable} (hnames : NameSettings environment)
    {datum : Datum} (hdatum : GivesTables datum) :
    GivesTables (putAll (ofVariables environment) datum) ∧
      ∀ setting : Setting,
        find? Datum.field? (putAll (ofVariables environment) datum) setting.path =
          (assigned? environment setting).or (find? Datum.field? datum setting.path) := by
  -- from the end, since the last variable of a name is the one that counts
  induction environment using List.reverseRecOn with
  | nil => exact ⟨hdatum, fun _ => rfl⟩
  | append_singleton environment last ih =>
      obtain ⟨htables, hfound⟩ := ih fun assigned hassigned =>
        hnames assigned (List.mem_append_left [last] hassigned)
      have hlast := hnames last (List.mem_append_right environment (List.mem_singleton_self last))
      rw [putAll_ofVariables_concat]
      cases hname : last.setting? with
      | none =>
          refine ⟨htables, fun setting => ?_⟩
          have hnot : ¬ last.Names setting := by simp [Variable.Names, hname]
          rw [Option.elim_none, hfound, assigned?_append, assigned?_singleton_of_not hnot,
            Option.none_or]
      | some name =>
          obtain ⟨setting, rfl⟩ := hlast name hname
          refine ⟨htables.putAt setting _, fun other => ?_⟩
          rw [Option.elim_some, assigned?_append]
          by_cases hsame : other = setting
          · subst hsame
            rw [find?_putAt_self, assigned?_singleton_self hname]
            rfl
          · have hnot : ¬ last.Names other := fun hother => hsame (hother.unique hname)
            rw [find?_putAt_of_ne hsame, assigned?_singleton_of_not hnot, Option.none_or, hfound]

/-! ## Loading -/

/-- What a file alone says. -/
def File.data (file : File) : Datum := gather (file.values?.getD []) []

theorem shows_of_isTable {datum : Datum} (h : Tidy datum) (htable : datum.isTable) :
    datumSource.Shows (Datum.field? datum) datum := by
  cases datum with
  | table fields => exact fun _ => ⟨.named fields, rfl, fun _ name => lookup_reverse h.nodup name⟩
  | _ => cases htable

/-- Each setting is loaded from what the variables say of it, else from what the file says. -/
theorem load_eq_ok_iff {file : File} {environment : List Variable}
    (htables : GivesTables file.data) (hnames : NameSettings environment) (settings : Settings) :
    load file environment = .ok settings ↔
      file.values?.isSome ∧ ∀ setting : Setting,
        datumSource.read? setting ((assigned? environment setting).or
          (find? Datum.field? file.data setting.path)) = some (settings.get setting) := by
  cases hvalues : file.values? with
  | none => simp [load, hvalues]
  | some values =>
      have hdata : file.data = putAll values (.table []) := by
        rw [File.data, hvalues]
        rfl
      have htidy : Tidy (gather values environment) :=
        Tidy.putAll _ (Tidy.putAll _ (.table List.nodup_nil (by simp)))
      obtain ⟨hgiven, hfound⟩ := putAll_ofVariables hnames htables
      rw [hdata] at hgiven
      have hsections : ∀ path ∈ Setting.sections,
          ∀ inner ∈ find? Datum.field? (gather values environment) path,
            datumSource.Shows (Datum.field? inner) inner := by
        intro path hpath inner hinner
        exact shows_of_isTable (htidy.find? hinner) (hgiven path hpath inner hinner)
      have hload : load file environment = .ok settings ↔
          datumSource.settings? (gather values environment) = some settings := by
        rw [load, hvalues]
        dsimp only
        cases datumSource.settings? (gather values environment) <;> simp
      rw [hload, Source.settings?_eq_some_iff settings hsections]
      have hgather : gather values environment = putAll (ofVariables environment) file.data := by
        rw [hdata]
        rfl
      simp only [hgather, hfound, Option.isSome_some, true_and]

end Settings

/-! ## Arguments -/

namespace CommandLine

/-- The settings that an argument stands for. -/
def Item.settings : Item → List Setting
  | slot .server => [.provider, .url]
  | slot .ip => [.bootstrapIp]
  | slot .udp => [.provider, .udpAddress]
  | slot .portNumber => [.portNumber]
  | switch .verbose => [.logLevel]
  | _ => []

namespace Arguments

/-- Whether an argument was given. -/
def holds (arguments : Arguments) : Item → Bool
  | .slot slot => arguments.has slot
  | .switch .verbose => arguments.verbose
  | .switch .printConfig => arguments.printConfig
  | .switch .help | .switch .version => false

/-- Whether arguments stand for a setting. -/
def Overrides (arguments : Arguments) (setting : Setting) : Prop :=
  ∃ item, arguments.holds item = true ∧ setting ∈ item.settings

variable {arguments : Arguments} {setting : Setting}

/-- Settings that arguments do not stand for stay as they are. -/
theorem get_apply_of_not (h : ¬ arguments.Overrides setting) (settings : Settings) :
    (arguments.apply settings).get setting = settings.get setting := by
  have hitem : ∀ item, setting ∈ Item.settings item → arguments.holds item = false :=
    fun item hmem => Bool.eq_false_iff.mpr fun hholds => h ⟨item, hholds, hmem⟩
  have hserver := hitem (.slot .server)
  have hip := hitem (.slot .ip)
  have hudp := hitem (.slot .udp)
  have hnumber := hitem (.slot .portNumber)
  have hverbose := hitem (.switch .verbose)
  simp only [holds, has, Option.isSome_eq_false_iff, Option.isNone_iff_eq_none] at *
  cases setting with
  | portNumber => simp [apply, Settings.get, hnumber (by decide)]
  | provider => simp [apply, applyForwarding, Settings.get, hserver (by decide), hudp (by decide)]
  | url => simp [apply, applyForwarding, Settings.get, hserver (by decide)]
  | bootstrapIp => simp [apply, applyForwarding, Settings.get, hip (by decide)]
  | udpAddress => simp [apply, applyForwarding, Settings.get, hudp (by decide)]
  | logLevel => simp [apply, Settings.get, hverbose (by decide)]
  | _ => rfl

/-- Settings that arguments stand for become what the arguments say, whatever they were. -/
theorem get_apply_of_overrides (h : arguments.Overrides setting) (one other : Settings) :
    (arguments.apply one).get setting = (arguments.apply other).get setting := by
  obtain ⟨item, hholds, hmem⟩ := h
  cases item with
  | slot slot =>
    have hgiven : arguments.has slot = true := hholds
    cases slot with
    | server =>
      obtain ⟨server, hserver⟩ := Option.isSome_iff_exists.mp hgiven
      simp only [Item.settings, List.mem_cons, List.not_mem_nil, or_false] at hmem
      rcases hmem with rfl | rfl <;> simp [apply, applyForwarding, Settings.get, hserver]
    | ip =>
      obtain ⟨ip, hip⟩ := Option.isSome_iff_exists.mp hgiven
      obtain rfl := List.mem_singleton.mp hmem
      simp [apply, applyForwarding, Settings.get, hip]
    | udp =>
      obtain ⟨udp, hudp⟩ := Option.isSome_iff_exists.mp hgiven
      simp only [Item.settings, List.mem_cons, List.not_mem_nil, or_false] at hmem
      rcases hmem with rfl | rfl <;> simp [apply, applyForwarding, Settings.get, hudp]
    | portNumber =>
      obtain ⟨number, hnumber⟩ := Option.isSome_iff_exists.mp hgiven
      obtain rfl := List.mem_singleton.mp hmem
      simp [apply, Settings.get, hnumber]
    | config => cases hmem
  | switch switch =>
    cases switch with
    | verbose =>
      have hverbose : arguments.verbose = true := hholds
      obtain rfl := List.mem_singleton.mp hmem
      simp [apply, Settings.get, hverbose]
    | _ => cases hmem

end Arguments

end CommandLine

namespace Settings

/-- **Each layer of the settings touches what it names.**  Let a file give its sections as tables,
and let variables stand for single settings.  One more variable, for a setting that had none,
changes this setting alone, and to a value that depends on the text of the variable and on nothing
else.  A setting that neither the file nor a variable names has its default.  Arguments then change
the settings that they stand for and no others, to values that depend on the arguments alone. -/
theorem layers_touch_named {file : File} {environment : List Variable} {settings : Settings}
    (hfile : GivesTables file.data) (hnames : NameSettings environment)
    (hload : load file environment = .ok settings) :
    (∀ setting front back added changed, environment = front ++ back →
      (∀ other ∈ environment, ¬ other.Names setting) → Variable.Names added setting →
      load file (front ++ added :: back) = .ok changed →
        (∀ other, other ≠ setting → changed.get other = settings.get other) ∧
          datumSource.convert? setting (Variable.read added.value) =
            some (changed.get setting)) ∧
      (∀ setting : Setting, find? Datum.field? file.data setting.path = none →
        (∀ other ∈ environment, ¬ other.Names setting) →
          settings.get setting = ({} : Settings).get setting) ∧
      ∀ (arguments : CommandLine.Arguments) (setting : Setting),
        (¬ arguments.Overrides setting →
          (arguments.apply settings).get setting = settings.get setting) ∧
        (arguments.Overrides setting → ∀ other : Settings,
          (arguments.apply settings).get setting = (arguments.apply other).get setting) := by
  obtain ⟨_, hread⟩ := (load_eq_ok_iff hfile hnames settings).mp hload
  refine ⟨?added, ?unnamed, fun arguments setting =>
    ⟨fun h => CommandLine.Arguments.get_apply_of_not h settings,
      fun h other => CommandLine.Arguments.get_apply_of_overrides h settings other⟩⟩
  case added =>
    rintro setting front back added changed rfl hunnamed hadded hchanged
    obtain ⟨_, hread'⟩ := (load_eq_ok_iff hfile (hnames.insert hadded) changed).mp hchanged
    refine ⟨fun other hne => ?_, ?_⟩
    · have hnot : ¬ added.Names other := fun hother => hne (hother.unique hadded)
      have hone := hread' other
      rw [assigned?_insert_of_not hnot, hread other] at hone
      exact (Option.some.inj hone).symm
    · have hback : ∀ other ∈ back, ¬ other.Names setting := fun other hother =>
        hunnamed other (List.mem_append_right front hother)
      have hone := hread' setting
      rw [assigned?_insert_self hadded hback] at hone
      exact hone
  case unnamed =>
    intro setting hfound hunnamed
    have hone := hread setting
    rw [assigned?_eq_none hunnamed, hfound] at hone
    exact (Option.some.inj hone).symm

/-- A file that names the port and the payload, and the address of a server. -/
def partialFile : File :=
  .content ("[server]\nport = 5353\nmax_udp_payload = 512\n\n" ++
    "[upstream.udp]\naddress = \"192.0.2.1:53\"\n")

def udpVariables : List Variable := [⟨"AUFLOES__UPSTREAM__PROVIDER", "udp"⟩]

def payloadVariable : Variable := ⟨"Aufloes__Server__Max_UDP_Payload", "1232"⟩

/-- The settings of the file and the first variable, for a payload. -/
def partialSettings (payload : UInt64) : Settings where
  listening := { portNumber := 5353, largestPayload := payload }
  forwarding := { provider := "udp", udp := { address := "192.0.2.1:53" } }

/-- A variable overrides the payload of the file and nothing else, the capacity of the cache is the
default, and a verbose run differs in its level, which it has whatever the settings say. -/
theorem layers_touch_named_payload :
    load partialFile udpVariables = .ok (partialSettings 512) ∧
      load partialFile (udpVariables ++ [payloadVariable]) = .ok (partialSettings 1232) ∧
      (∀ other, other ≠ Setting.largestPayload →
        (partialSettings 1232).get other = (partialSettings 512).get other) ∧
      datumSource.convert? .largestPayload (Variable.read "1232") = some (1232 : UInt64) ∧
      (partialSettings 512).get .capacity = ({} : Settings).get .capacity ∧
      (∀ setting, setting ≠ Setting.logLevel →
        (({ verbose := true } : CommandLine.Arguments).apply (partialSettings 512)).get setting =
          (partialSettings 512).get setting) ∧
      ∀ other : Settings,
        (({ verbose := true } : CommandLine.Arguments).apply (partialSettings 512)).get .logLevel =
          (({ verbose := true } : CommandLine.Arguments).apply other).get .logLevel := by
  have hfile : GivesTables partialFile.data := by decide +kernel
  have hnames : NameSettings udpVariables := by
    intro assigned hassigned name hname
    obtain rfl := List.mem_singleton.mp hassigned
    exact ⟨.provider, (Option.some.inj hname).symm⟩
  have hload : load partialFile udpVariables = .ok (partialSettings 512) := by decide +kernel
  have hchanged : load partialFile (udpVariables ++ [payloadVariable]) =
      .ok (partialSettings 1232) := by decide +kernel
  obtain ⟨hadded, hdefault, harguments⟩ := layers_touch_named hfile hnames hload
  obtain ⟨hothers, hvalue⟩ := hadded .largestPayload udpVariables [] payloadVariable _ rfl
    (by decide +kernel) (by decide +kernel) hchanged
  refine ⟨hload, hchanged, hothers, hvalue,
    hdefault .capacity (by decide +kernel) (by decide +kernel),
    fun setting hne => (harguments _ setting).1 ?_,
    (harguments _ .logLevel).2 ⟨.switch .verbose, rfl, List.mem_singleton_self _⟩⟩
  rintro ⟨item, hholds, hmem⟩
  cases item with
  | slot slot => cases slot <;> cases hholds
  | switch switch =>
    cases switch with
    | verbose => exact hne (List.mem_singleton.mp hmem)
    | _ => cases hholds

end Settings

end DnsForwarder
