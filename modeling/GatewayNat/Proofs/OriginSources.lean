import GatewayNat.Settings.Load
import GatewayNat.Proofs.CommaLists
import GatewayNat.Proofs.DocumentShape
import GatewayNat.Proofs.Respelling

/-!
# Sources of origins

The origins may come from an argument or from the environment, and in several
spellings (`Origins.Spells`, `Origins.Writes`).

* The origins among the arguments have no say in what the other sources know,
  since options are found under other names (`Settings.sources_congr`).
* The environment keeps what a text stands for.  A JSON text is a list there, and
  a comma list stays a text that the settings read
  (`Settings.settingValue_of_writes`).
* Whatever spells a list of origins is accepted as that list, and the other
  settings do not ask for the origins (`Settings.ofSources_congr`).

So all spellings give the same settings (`load_of_spelled`), as long as there is
no command line and no sources are given.  For the environment, no option may
change how entries are read.
-/

namespace GatewayNat

/-- What a source knows of all settings is what it knows of each. -/
theorem EntryRules.settingValues_spec {rules : EntryRules} {entries values : Members}
    {settings : List String} (read : rules.settingValues entries settings = .ok values)
    (setting : String) :
    (setting ∈ settings → rules.settingValue entries setting = .ok (values.find? setting)) ∧
      (setting ∉ settings → values.find? setting = none) := by
  induction settings generalizing values with
  | nil =>
    cases read
    exact ⟨nofun, fun _ => rfl⟩
  | cons first rest ih =>
    rw [settingValues] at read
    by_cases same : first = setting
    · subst same
      refine ⟨fun _ => ?_, fun absent => absurd List.mem_cons_self absent⟩
      split at read
      · cases read
      · next nothing =>
        by_cases again : first ∈ rest
        · exact (ih read).1 again
        · rw [nothing, (ih read).2 again]
      · next here =>
        obtain ⟨more, -, rfl⟩ := Except.map_eq_ok_iff.mp read
        rw [here, Table.find?, if_pos rfl]
    · rw [List.mem_cons, or_iff_right (Ne.symm same)]
      split at read
      · cases read
      · exact ih read
      · obtain ⟨more, others, rfl⟩ := Except.map_eq_ok_iff.mp read
        rw [Table.find?, if_neg (mt Text.ofString_inj.mp same)]
        exact ih others

/-- What a source knows of a setting, among what it knows of all. -/
theorem EntryRules.find?_settingValues {rules : EntryRules} {entries values : Members}
    {settings : List String} {setting : String} {value : Json}
    (read : rules.settingValues entries settings = .ok values) (member : setting ∈ settings)
    (known : rules.settingValue entries setting = .ok (some value)) :
    values.find? setting = some value := by
  have said := (settingValues_spec read setting).1 member
  rw [known] at said
  exact (Except.ok.inj said).symm

namespace SettingOptions

variable {a b : Members} {option : String}

theorem given?_congr (agree : a.AgreeBut Settings.originsName b)
    (other : option ≠ Settings.originsName) : given? a option = given? b option := by
  rw [given?, given?, agree option (mt Text.ofString_inj.mp other)]

variable (agree : a.AgreeBut Settings.originsName b)

include agree

theorem entryRules_congr : entryRules a = entryRules b := by
  simp (disch := decide) only [entryRules, partRules?, leadsNames, isCaseSensitive, isSet, text?,
    given?_congr agree]

theorem envFiles_congr : envFiles a = envFiles b := by
  rw [envFiles, envFiles, agree "_env_file" (by decide)]

theorem envFileAt_congr (files : Files) (environment : Environment) (value : Json) :
    envFileAt files environment a value = envFileAt files environment b value := by
  simp (disch := decide) only [envFileAt, checkDepth, given?_congr agree]

theorem codec_congr : codec a = codec b := by
  simp (disch := decide) only [codec, given?_congr agree]

theorem checkSecrets_congr (files : Files) (environment : Environment) :
    checkSecrets files environment a = checkSecrets files environment b := by
  simp (disch := decide) only [checkSecrets, given?_congr agree]

theorem has_congr (other : option ≠ Settings.originsName) : a.has option = b.has option := by
  rw [Table.has, Table.has, agree option (mt Text.ofString_inj.mp other)]

end SettingOptions

/-- Sources with origins among the arguments. -/
def SettingSources.withOrigins (origins : Json) (sources : SettingSources) : SettingSources :=
  { sources with arguments := sources.arguments.set Settings.originsName origins }

namespace Settings

open SettingOptions

variable {files : Files} {environment : Environment} {a b arguments : Members}

theorem envEntries_congr (agree : a.AgreeBut Settings.originsName b) (rules : EntryRules)
    (known : Members) (values : List Json) :
    envEntries files environment a rules known values =
      envEntries files environment b rules known values := by
  induction values generalizing known with
  | nil => rfl
  | cons value rest ih =>
    simp only [envEntries, envFileAt_congr agree, codec_congr agree, ih]

/-- The options that say which sources there are. -/
def sourceOptions : List String := ["_build_sources", "_cli_parse_args"]

/-- The options that say how entries of the environment are read. -/
def entryOptions : List String :=
  ["_case_sensitive", "_env_prefix", "_env_prefix_target", "_env_ignore_empty",
    "_env_parse_none_str", "_env_nested_delimiter", "_env_nested_max_split"]

/-- None of some options is given. -/
def Lacks (arguments : Members) (options : List String) : Prop :=
  ∀ option ∈ options, given? arguments option = none

theorem commandLine?_of_lacks (lacks : Lacks arguments sourceOptions) :
    commandLine? arguments = .ok none := by
  rw [commandLine?, lacks "_cli_parse_args" (by decide)]

theorem sources_of_lacks (lacks : Lacks arguments sourceOptions) :
    sources files environment arguments =
      if arguments.has "__pydantic_self__" then .error (.options .ownName)
      else builtSources files environment arguments := by
  rw [sources, hasNoSources, lacks "_build_sources" (by decide)]
  cases arguments.has "__pydantic_self__" <;> rfl

/-- The origins among the arguments have no say in what the other sources know. -/
theorem sources_congr (agree : a.AgreeBut Settings.originsName b) (lacks : Lacks b sourceOptions) :
    sources files environment a =
      (fun sources : SettingSources => { sources with arguments := a }) <$>
        sources files environment b := by
  have lacksToo : Lacks a sourceOptions := by
    intro option member
    have others : ∀ option ∈ sourceOptions, option ≠ originsName := by decide
    rw [given?_congr agree (others option member), lacks option member]
  rw [sources_of_lacks lacks, sources_of_lacks lacksToo, has_congr agree (by decide)]
  split
  · rfl
  · simp only [builtSources, map_bind, map_pure, entryRules_congr agree, envFiles_congr agree,
      envEntries_congr agree, checkSecrets_congr agree, commandLine?_of_lacks lacks,
      commandLine?_of_lacks lacksToo]

/-- What built sources know. -/
theorem knows_of_sources {found : SettingSources} (lacks : Lacks arguments sourceOptions)
    (built : sources files environment arguments = .ok found) :
    found.commandLine = [] ∧ found.arguments = arguments ∧
      ∃ rules, entryRules arguments = .ok rules ∧
        rules.settingValues (rules.ofEnvironment environment) names = .ok found.environment := by
  rw [sources_of_lacks lacks] at built
  split at built
  · cases built
  · simp only [builtSources, Except.bind_eq_ok_iff, Except.mapError_eq_ok_iff] at built
    obtain ⟨rules, ruled, _, -, _, -, source, asked, commandLine, lines, environmentValues, read, _,
      -, _, -, same⟩ := built
    rw [commandLine?_of_lacks lacks] at asked
    cases asked
    cases lines
    cases same
    exact ⟨rfl, rfl, rules, ruled, read⟩

/-! ## The origins among the sources -/

/-- Settings with other origins. -/
def withOrigins (origins : Json) (settings : Settings) : Settings :=
  { settings with corsOrigins := origins }

variable {a b : SettingSources} {v w : Json}

theorem setting_congr {α : Type} {name : String} {default : α} {check : Json → Checked α}
    (same : a.value? name = b.value? name) :
    a.setting name default check = b.setting name default check := by
  rw [SettingSources.setting, SettingSources.setting, same]

theorem setting_of_value? {α : Type} {name : String} {default value : α} {json : Json}
    {check : Json → Checked α} (known : a.value? name = some json)
    (accepted : check json = .valid value) : a.setting name default check = .valid value := by
  rw [SettingSources.setting, known]
  simp only [accepted, Checked.under]

/-- No other setting asks for the origins. -/
theorem check_congr
    (others : ∀ name : String, name ≠ originsName → a.value? name = b.value? name)
    (first : a.setting originsName Origins.default Origins.check = .valid v)
    (second : b.setting originsName Origins.default Origins.check = .valid w) :
    check a = withOrigins v <$> check b := by
  unfold check
  rw [first, second, setting_congr (others "APP_NAME" (by decide)),
    setting_congr (others "APP_ENV" (by decide)), setting_congr (others "DEBUG" (by decide)),
    setting_congr (others "FIREWALL_RULE_ID_MIN" (by decide)),
    setting_congr (others "FIREWALL_RULE_ID_MAX" (by decide)),
    setting_congr (others "NAT_RULE_ID_MIN" (by decide)),
    setting_congr (others "NAT_RULE_ID_MAX" (by decide)),
    setting_congr (others "GATEWAY_DIRECTORY_FILE" (by decide)),
    setting_congr (others "LOG_LEVEL" (by decide)), setting_congr (others "LOG_FILE" (by decide))]
  apply Checked.seq_valid_congr
  intro f built level file
  simp only [Checked.seq_eq_valid_iff, Checked.map_eq_valid_iff] at built
  obtain ⟨_, _, ⟨_, _, ⟨_, _, ⟨_, _, ⟨_, _, ⟨_, -, rfl⟩, -, rfl⟩, -, rfl⟩, -, rfl⟩, -, rfl⟩, -,
    rfl⟩ := built
  rfl

/-- Sources that differ in the origins only have settings that differ in the origins only. -/
theorem ofSources_congr {x y : Json}
    (others : ∀ name : String, name ≠ originsName → a.value? name = b.value? name)
    (known : a.value? originsName = some x) (knownToo : b.value? originsName = some y)
    (shallow : Origins.tooDeep? (some x) = none) (shallowToo : Origins.tooDeep? (some y) = none)
    (accepted : Origins.check x = .valid v) (acceptedToo : Origins.check y = .valid w) :
    ofSources a = withOrigins v <$> ofSources b := by
  rw [ofSources, ofSources, known, knownToo, shallow, shallowToo]
  simp only
  rw [check_congr others (setting_of_value? known accepted)
    (setting_of_value? knownToo acceptedToo)]
  cases check b <;> rfl

/-! ## The origins in an environment -/

/-- How entries are read without options. -/
def plainRules : EntryRules where
  source := "EnvSettingsSource"
  caseSensitive := true
  lead := .str ""
  leadsNames := true
  ignoresEmpty := false
  nullText := none
  parts := none

theorem entryRules_of_lacks {arguments : Members} (lacks : Lacks arguments entryOptions) :
    entryRules arguments = .ok plainRules := by
  have nothing : ∀ option ∈ entryOptions, given? arguments option = given? [] option :=
    fun option member => lacks option member
  simp (disch := decide) only [entryRules, partRules?, leadsNames, isCaseSensitive, isSet, text?,
    nothing]
  rfl

theorem find?_ofEnvironment {environment : Environment} (name : Text) :
    (plainRules.ofEnvironment environment).find? name = (environment.find? name).map .str := by
  have all : plainRules.ofEnvironment environment = environment.mapEntries Json.str := by
    rw [EntryRules.ofEnvironment, EntryRules.named]
    exact List.filter_eq_self.mpr fun entry _ => rfl
  rw [all, Table.find?_mapEntries]

/-- The environment has the origins that its text stands for. -/
theorem settingValue_of_writes {environment : Environment} {items : List Text} {text : Text}
    (listed : Origins.IsOriginList items) (written : Origins.Writes items text)
    (found : environment.find? originsName = some text) :
    ∃ value, plainRules.settingValue (plainRules.ofEnvironment environment) originsName =
      .ok (some value) ∧ Origins.Spells items value := by
  obtain ⟨value, read, spelled, noObject⟩ := Origins.readEntry_of_writes listed written
  refine ⟨value, ?_, spelled⟩
  have named : plainRules.entryName? originsName = some (originsName : Text) := by decide
  have entry : (plainRules.ofEnvironment environment).find? originsName = some (.str text) := by
    rw [find?_ofEnvironment, found, Option.map_some]
  have noNull : plainRules.meansNull (some (.str text)) = false := rfl
  simp only [EntryRules.settingValue, named, entry, noNull, EntryRules.originsValue, read]
  cases value with
  | obj members => exact absurd rfl (noObject members)
  | _ => rfl

/-! ## Loading origins -/

variable {files : Files} {environment : Environment} {arguments : Members}
  {found : SettingSources} {items : List Text} {value : Json}

theorem value?_withOrigins (alone : found.commandLine = []) :
    (found.withOrigins value).value? originsName = some value := by
  rw [SettingSources.value?, SettingSources.withOrigins, alone, Table.find?_set, if_pos rfl]
  rfl

theorem value?_withOrigins_of_ne {name : String} (other : name ≠ originsName) :
    (found.withOrigins value).value? name = found.value? name := by
  rw [SettingSources.value?, SettingSources.withOrigins, Table.find?_set,
    if_neg (mt Text.ofString_inj.mp (Ne.symm other))]
  rfl

/-- Sources that have a list of origins in some spelling, and are otherwise like other ones. -/
theorem ofSources_of_spells {base : SettingSources} (alone : base.commandLine = [])
    (others : ∀ name : String, name ≠ originsName → found.value? name = base.value? name)
    (known : found.value? originsName = some value) (listed : Origins.IsOriginList items)
    (spelled : Origins.Spells items value) :
    ofSources found =
      withOrigins (.arr (items.map .str)) <$> ofSources (base.withOrigins Origins.default) :=
  ofSources_congr
    (fun name other => (others name other).trans (value?_withOrigins_of_ne other).symm) known
    (value?_withOrigins alone) (Origins.tooDeep?_of_spells listed spelled) rfl
    (Origins.check_of_spells listed spelled) rfl

theorem load_set (lacks : Lacks arguments sourceOptions) (value : Json) :
    load files environment (arguments.set originsName value) =
      sources files environment arguments >>= fun found =>
        ofSources (found.withOrigins value) := by
  have agree : Members.AgreeBut originsName (arguments.set originsName value) arguments :=
    fun other different => by rw [Table.find?_set, if_neg (Ne.symm different)]
  rw [load, sources_congr agree lacks]
  cases built : sources files environment arguments with
  | error fault => rfl
  | ok found =>
    obtain ⟨-, given, -⟩ := knows_of_sources lacks built
    rw [← given]
    rfl

end Settings

open Settings

/-- However a list of origins is spelled, the settings have that list, and are otherwise what they
are with the origins by default.  It may be an argument that is a list or a text, or a text in the
environment.  A text may be JSON or a comma list with blanks and blank pieces. -/
theorem load_of_spelled (files : Files) (environment : Environment) (arguments : Members)
    (lacks : Lacks arguments sourceOptions) {items : List Text}
    (listed : Origins.IsOriginList items) :
    let settled := withOrigins (.arr (items.map .str)) <$>
      load files environment (arguments.set originsName Origins.default)
    (∀ value, Origins.Spells items value →
      load files environment (arguments.set originsName value) = settled) ∧
    (arguments.find? originsName = none → Lacks arguments entryOptions →
      ∀ text, environment.find? originsName = some text → Origins.Writes items text →
        load files environment arguments = settled) := by
  intro settled
  have byDefault : settled = withOrigins (.arr (items.map .str)) <$>
      (sources files environment arguments >>= fun found =>
        ofSources (found.withOrigins Origins.default)) :=
    congrArg (withOrigins (.arr (items.map .str)) <$> ·) (load_set lacks Origins.default)
  rw [byDefault]
  refine ⟨?argument, ?entry⟩
  case argument =>
    intro value spelled
    rw [load_set lacks value]
    cases built : sources files environment arguments with
    | error fault => rfl
    | ok found =>
      obtain ⟨alone, -, -⟩ := knows_of_sources lacks built
      exact ofSources_of_spells alone (fun _ => value?_withOrigins_of_ne)
        (value?_withOrigins alone) listed spelled
  case entry =>
    intro silent plain text entry written
    rw [load]
    cases built : sources files environment arguments with
    | error fault => rfl
    | ok found =>
      obtain ⟨alone, given, rules, ruled, read⟩ := knows_of_sources lacks built
      rw [entryRules_of_lacks plain] at ruled
      cases ruled
      obtain ⟨value, valued, spelled⟩ := settingValue_of_writes listed written entry
      have inEnvironment : found.environment.find? originsName = some value :=
        EntryRules.find?_settingValues read (by decide) valued
      have known : found.value? originsName = some value := by
        rw [SettingSources.value?, alone, given, silent, inEnvironment]
        rfl
      exact ofSources_of_spells alone (fun _ _ => rfl) known listed spelled

namespace TwoOrigins

/-- A web address and another text. -/
def origins : List Text := ["http://a", "b"]

theorem listed : Origins.IsOriginList origins where
  proper := by
    simp only [origins, List.forall_mem_cons]
    exact ⟨⟨by decide, by decide, by decide⟩, ⟨by decide, by decide, by decide⟩, nofun⟩
  web := ⟨"http://a", rfl, Text.pointsOf "://a", by decide⟩

/-- An environment with the origins in a comma list. -/
def environment : Environment := [("CORS_ORIGINS", " http://a ,, b\t,")]

theorem written : Origins.Writes origins " http://a ,, b\t," := by
  have blank : Origins.AllBlank (Text.pointsOf " ") := by
    unfold Origins.AllBlank
    decide
  have tab : Origins.AllBlank (Text.pointsOf "\t") := by
    unfold Origins.AllBlank
    decide
  have nothing : Origins.AllBlank [] := nofun
  exact .commas (.item "http://a" blank blank (.blank nothing (.item "b" blank tab
    (.blank nothing .nil)))) (by decide)

end TwoOrigins

open TwoOrigins in
/-- Two origins in a comma list of the environment are the origins of the settings. -/
theorem load_of_commaList : ∃ settings, load [] environment [] = .ok settings ∧
    settings.corsOrigins = .arr [.str "http://a", .str "b"] := by
  have spelled : load [] environment [] = withOrigins (.arr (origins.map .str)) <$>
      load [] environment (Table.set [] (originsName : Text) Origins.default) :=
    (load_of_spelled [] environment [] (fun _ _ => rfl) listed).2 rfl (fun _ _ => rfl) _ rfl
      written
  have loads : (load [] environment
      (Table.set [] (originsName : Text) Origins.default)).toOption.isSome = true := by
    decide +kernel
  rw [spelled]
  cases loaded : load [] environment (Table.set [] (originsName : Text) Origins.default) with
  | error error =>
    rw [loaded] at loads
    cases loads
  | ok settings => exact ⟨_, rfl, rfl⟩

end GatewayNat
