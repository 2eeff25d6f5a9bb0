import GatewayNat.Proofs.EnvReadings
import GatewayNat.Proofs.OriginSources

/-!
# Settings without arguments

The service builds its settings without arguments, from an environment and the
env file of a tree.

* What either source says of a setting depends on its text for the setting only
  (`textValue`).  Every text is a value, but the origins are read as JSON, where
  null is no value and a text may lie too deep.
* The environment comes first, and the file is read all the same (`valueFrom`).
  There are sources exactly if both can be read for every setting
  (`exists_sources_iff`), and then they have the joined value
  (`valueFrom_of_sources`).
* Each setting is what its check makes of its own value (`ReadFrom`), so settings
  agree where their sources do (`ReadFrom.value?_congr`).
-/

namespace GatewayNat

namespace Table

variable {κ α : Type} [DecidableEq κ] {table : Table κ α}

theorem set_of_not_mem {name : κ} (value : α) (fresh : name ∉ table.names) :
    table.set name value = table ++ [(name, value)] := by
  induction table with
  | nil => rfl
  | cons first rest ih =>
    obtain ⟨key, old⟩ := first
    obtain ⟨different, later⟩ := not_or.mp (mt List.mem_cons.mpr fresh)
    rw [Table.set, if_neg (Ne.symm different), ih later, List.cons_append]

/-- A table that has every name once is the one that its entries build. -/
theorem ofList_of_nodup (nodup : table.names.Nodup) : Table.ofList table = table := by
  suffices built : ∀ given : Table κ α, (Table.names (given ++ table)).Nodup →
      table.foldl (fun found entry => Table.set found entry.1 entry.2) given = given ++ table from
    built [] nodup
  induction table with
  | nil => exact fun given _ => (List.append_nil given).symm
  | cons first rest ih =>
    intro given nodup
    have fresh : first.1 ∉ Table.names given := by
      rw [Table.names, List.map_append, List.map_cons] at nodup
      exact fun member => List.disjoint_of_nodup_append nodup member List.mem_cons_self
    have split : given ++ first :: rest = (given ++ [first]) ++ rest := by
      rw [List.append_assoc, List.singleton_append]
    rw [split] at nodup ⊢
    have later : (Table.names rest).Nodup := by
      rw [Table.names, List.map_append] at nodup
      exact nodup.of_append_right
    rw [List.foldl_cons, set_of_not_mem first.2 fresh]
    exact ih later (given ++ [first]) nodup

end Table

theorem EntryRules.exists_settingValues_iff {rules : EntryRules} {entries : Members}
    {settings : List String} :
    (∃ values, rules.settingValues entries settings = .ok values) ↔
      ∀ setting ∈ settings, ∃ value, rules.settingValue entries setting = .ok value := by
  induction settings with
  | nil =>
    have known : ∃ values, rules.settingValues entries [] = .ok values := ⟨[], rfl⟩
    exact iff_of_true known (List.forall_mem_nil _)
  | cons first rest ih =>
    rw [List.forall_mem_cons, ← ih, settingValues]
    cases rules.settingValue entries first with
    | error fault =>
      constructor
      · rintro ⟨values, ⟨⟩⟩
      · rintro ⟨⟨value, ⟨⟩⟩, -⟩
    | ok value =>
      have known : ∃ found, (.ok value : Except EntryFault (Option Json)) = .ok found :=
        ⟨value, rfl⟩
      rw [and_iff_right known]
      cases value with
      | none => rfl
      | some value =>
        simp only [Except.map_eq_ok_iff]
        constructor
        · rintro ⟨_, values, read, -⟩
          exact ⟨values, read⟩
        · rintro ⟨values, read⟩
          exact ⟨_, values, read, rfl⟩

namespace Settings

open SettingOptions

variable {files : Files} {environment : Environment} {entries : List EnvFile.Entry}
  {setting : String} {members : Members}

/-! ## What a text says -/

theorem entryName?_plainRules (setting : String) :
    plainRules.entryName? setting = some (setting : Text) := by
  simp [EntryRules.entryName?, plainRules, EntryRules.nameOf, Json.text?, ← Text.ofString_append]

/-- What a source of texts says of a setting if it has a text for it, or none. -/
def textValue (setting : String) : Option Text → Except EntryFault (Option Json)
  | none => .ok none
  | some text =>
    if setting = originsName then (Origins.readEntry text).mapError .tooDeep
    else .ok (some (.str text))

theorem textValue_of_ne (other : setting ≠ originsName) (text : Option Text) :
    textValue setting text = .ok (text.map .str) := by
  cases text with
  | none => rfl
  | some text => rw [textValue, if_neg other, Option.map_some]

theorem settingValue_plainRules {found : Option (Option Text)}
    (entry : members.find? setting = found.map Json.ofText?) :
    plainRules.settingValue members setting = textValue setting found.join := by
  have named := entryName?_plainRules setting
  have noNull : ∀ value, plainRules.meansNull value = false := by
    intro value
    cases value <;> rfl
  simp only [EntryRules.settingValue, named, entry, noNull, Bool.false_eq_true, if_false,
    EntryRules.originsValue]
  by_cases origins : setting = originsName
  · rw [if_pos origins]
    rcases found with _ | _ | text
    · rfl
    · rfl
    · rw [Option.join_some, textValue, if_pos origins]
      simp only [Option.map_some, Json.ofText?]
      cases Origins.readEntry text with
      | error container => rfl
      | ok value =>
        rcases value with _ | value
        · rfl
        · cases value <;> rfl
  · rw [if_neg origins]
    rcases found with _ | _ | text
    · rfl
    · rfl
    · rw [Option.join_some, textValue, if_neg origins]
      rfl

theorem settingValue_ofEnvironment :
    plainRules.settingValue (plainRules.ofEnvironment environment) setting =
      textValue setting (environment.find? setting) := by
  have entry : (plainRules.ofEnvironment environment).find? setting =
      ((environment.find? setting).map some).map Json.ofText? := by
    rw [find?_ofEnvironment, Option.map_map]
    rfl
  rw [settingValue_plainRules entry]
  cases environment.find? setting <;> rfl

/-! ## What an env file says -/

/-- The values of an env file, in which earlier lines have the say. -/
def fileEntries (environment : Environment) (entries : List EnvFile.Entry) : Members :=
  (EnvFile.values .earlierLines environment entries).mapEntries Json.ofText?

/-- The text that an env file has for a setting. -/
def fileText (environment : Environment) (entries : List EnvFile.Entry) (setting : String) :
    Option Text :=
  ((EnvFile.values .earlierLines environment entries).find? setting).join

theorem settingValue_fileEntries :
    plainRules.settingValue (fileEntries environment entries) setting =
      textValue setting (fileText environment entries setting) :=
  settingValue_plainRules Table.find?_mapEntries

theorem isUsed_plainRules (listed : setting ∈ names) : plainRules.isUsed setting = true := by
  rw [EntryRules.isUsed, List.any_eq_true]
  refine ⟨setting, listed, ?_⟩
  rw [entryName?_plainRules]
  simp

/-- Entries that belong to no setting change no setting. -/
theorem exists_withOthers (values members : Members) :
    ∃ others, plainRules.withOthers values members = .ok others ∧
      ∀ setting ∈ names, others.find? setting = values.find? setting := by
  induction members generalizing values with
  | nil => exact ⟨values, rfl, fun _ _ => rfl⟩
  | cons member rest ih =>
    obtain ⟨name, value⟩ := member
    cases value with
    | str text =>
      rw [EntryRules.withOthers]
      split
      · exact ih values
      · next other =>
        obtain ⟨others, joined, kept⟩ := ih (values.set name (.str text))
        refine ⟨others, ?_, fun setting listed => ?_⟩
        · have whole : ("" : Text).dropStart? name = some name :=
            congrArg some (Text.ofPoints_points name)
          simp only [plainRules, whole]
          exact joined
        · have different : name ≠ setting := by
            rintro rfl
            rw [isUsed_plainRules listed] at other
            simp at other
          rw [kept setting listed, Table.find?_set, if_neg different]
    | _ => exact ih values

theorem settingValue_of_envFileValues {others : Members}
    (read : envFileValues plainRules members = .ok others) (listed : setting ∈ names) :
    plainRules.settingValue members setting = .ok (others.find? setting) := by
  rw [envFileValues] at read
  split at read
  · cases read
  · next values known =>
    obtain ⟨more, joined, kept⟩ := exists_withOthers values members
    rw [joined] at read
    cases read
    rw [kept setting listed]
    exact (EntryRules.settingValues_spec known setting).1 listed

theorem exists_envFileValues_iff :
    (∃ others, envFileValues plainRules members = .ok others) ↔
      ∀ setting ∈ names, ∃ value, plainRules.settingValue members setting = .ok value := by
  rw [← EntryRules.exists_settingValues_iff, envFileValues]
  cases plainRules.settingValues members names with
  | error fault => exact ⟨nofun, nofun⟩
  | ok values =>
    obtain ⟨others, joined, -⟩ := exists_withOthers values members
    simp only [joined]
    exact ⟨fun _ => ⟨values, rfl⟩, fun _ => ⟨others, rfl⟩⟩

/-! ## Finding the env file -/

theorem look_envFileName :
    files.look envFileName = (files.find? envFileName).elim (.error .absent) .ok := by
  have small : ¬Files.maxSize < (Files.normal envFileName).utf8ByteSize := by decide
  have smallStep : ¬Files.maxStepSize < envFileName.utf8ByteSize := by decide
  have steps : Files.steps envFileName = [envFileName] := by decide
  have start : Files.start envFileName = ⟨false, []⟩ := by decide
  have here : files.at? ⟨false, []⟩ = some .directory := rfl
  have walked : Location.walk ⟨false, []⟩ envFileName = ⟨false, [envFileName]⟩ := by decide
  have name : Location.name ⟨false, [envFileName]⟩ = envFileName := by decide
  rw [Files.look, if_neg (by decide), if_neg small, steps, start, Files.lookFrom, here]
  simp only
  rw [if_neg smallStep, walked, Files.lookFrom, Files.at?, if_neg (by decide), name]
  cases files.find? envFileName <;> rfl

theorem envFileAt_envFileName :
    envFileAt files environment [] (.str envFileName) = .ok (files.look envFileName).toOption := by
  have path : pathOf environment (.str envFileName) = .ok (some envFileName) := rfl
  have depth : checkDepth [] = .ok () := rfl
  rw [envFileAt, path, depth]
  change lookAt files (some envFileName) = _
  rw [lookAt, look_envFileName]
  cases files.find? envFileName <;> rfl

theorem readEnvFile_plainRules (text : Text) :
    readEnvFile plainRules environment [] text = fileEntries environment (EnvFile.read text) := by
  have all : plainRules.ofValues (EnvFile.values .earlierLines environment (EnvFile.read text)) =
      fileEntries environment (EnvFile.read text) :=
    List.filter_eq_self.mpr fun entry _ => rfl
  have nodup : (fileEntries environment (EnvFile.read text)).names.Nodup := by
    rw [fileEntries, Table.names_mapEntries]
    exact EnvFile.nodup_names_values
  rw [readEnvFile, all]
  exact Table.ofList_of_nodup nodup

/-- The settings find the file that is copied into the environment. -/
theorem envEntries_eq :
    envEntries files environment [] plainRules [] [.str envFileName] =
      ((EnvFile.load files envFileName).map (fileEntries environment)).mapError
        fun fault => .undecodable (.utf8 fault) := by
  simp only [envEntries, envFileAt_envFileName]
  rw [EnvFile.load, Files.octets]
  cases files.look envFileName with
  | error fault => rfl
  | ok node =>
    cases node with
    | directory => rfl
    | file octets =>
      have codec : SettingOptions.codec [] = .ok .utf8 := rfl
      simp only [Except.toOption, codec, Text.Codec.decode, Files.textOf]
      cases Text.Utf8.decode octets with
      | error fault => rfl
      | ok text => exact congrArg Except.ok (readEnvFile_plainRules _)

/-! ## What both sources say -/

theorem sources_eq_ok_iff {found : SettingSources} :
    sources files environment [] = .ok found ↔ ∃ entries known fileKnown,
      EnvFile.load files envFileName = .ok entries ∧
        plainRules.settingValues (plainRules.ofEnvironment environment) names = .ok known ∧
        envFileValues plainRules (fileEntries environment entries) = .ok fileKnown ∧
        found = ⟨[], [], known, fileKnown⟩ := by
  have given : hasNoSources [] = .ok false := rfl
  have ruled : entryRules [] = .ok plainRules := entryRules_of_lacks fun _ _ => rfl
  have envFile : SettingOptions.envFiles [] = .ok [.str envFileName] := rfl
  have noCommandLine : commandLine? [] = .ok none := rfl
  have noSecrets : checkSecrets files environment [] = .ok () := rfl
  rw [sources, given]
  simp only [builtSources, ruled, envFile, noCommandLine, noSecrets, commandLineValues,
    Except.mapError_ok, Except.bind_eq_ok_iff, Except.mapError_eq_ok_iff, Except.ok.injEq,
    exists_eq_left']
  simp only [envEntries_eq, Except.mapError_eq_ok_iff, Except.map_eq_ok_iff]
  constructor
  · rintro ⟨_, ⟨entries, read, rfl⟩, known, isKnown, fileKnown, inFile, _, -, ⟨⟩⟩
    exact ⟨entries, known, fileKnown, read, isKnown, inFile, rfl⟩
  · rintro ⟨entries, known, fileKnown, read, isKnown, inFile, rfl⟩
    exact ⟨_, ⟨entries, read, rfl⟩, known, isKnown, fileKnown, inFile, (), trivial, rfl⟩

/-- What an environment and an env file say of a setting, the environment first. -/
def valueFrom (environment : Environment) (entries : List EnvFile.Entry) (setting : String) :
    Except EntryFault (Option Json) := do
  let first ← textValue setting (environment.find? setting)
  let second ← textValue setting (fileText environment entries setting)
  return first.or second

theorem exists_valueFrom_iff :
    (∃ value, valueFrom environment entries setting = .ok value) ↔
      (∃ first, textValue setting (environment.find? setting) = .ok first) ∧
        ∃ second, textValue setting (fileText environment entries setting) = .ok second := by
  simp only [valueFrom, Except.bind_eq_ok_iff]
  constructor
  · rintro ⟨value, first, isFirst, second, isSecond, -⟩
    exact ⟨⟨first, isFirst⟩, second, isSecond⟩
  · rintro ⟨⟨first, isFirst⟩, second, isSecond⟩
    exact ⟨first.or second, first, isFirst, second, isSecond, rfl⟩

/-- The sources have what both say of a setting. -/
theorem valueFrom_of_sources (read : EnvFile.load files envFileName = .ok entries)
    {found : SettingSources} (built : sources files environment [] = .ok found)
    (listed : setting ∈ names) :
    valueFrom environment entries setting = .ok (found.value? setting) := by
  obtain ⟨entriesToo, known, fileKnown, readToo, isKnown, inFile, rfl⟩ := sources_eq_ok_iff.mp built
  obtain rfl : entries = entriesToo := Except.ok.inj (read.symm.trans readToo)
  have first := (EntryRules.settingValues_spec isKnown setting).1 listed
  have second := settingValue_of_envFileValues inFile listed
  rw [settingValue_ofEnvironment] at first
  rw [settingValue_fileEntries] at second
  rw [valueFrom, first, second]
  rfl

/-- There are sources exactly if something can be said of every setting. -/
theorem exists_sources_iff (read : EnvFile.load files envFileName = .ok entries) :
    (∃ found, sources files environment [] = .ok found) ↔
      ∀ setting ∈ names, ∃ value, valueFrom environment entries setting = .ok value := by
  constructor
  · rintro ⟨found, built⟩ setting listed
    exact ⟨_, valueFrom_of_sources read built listed⟩
  · intro heard
    obtain ⟨known, isKnown⟩ : ∃ known,
        plainRules.settingValues (plainRules.ofEnvironment environment) names = .ok known := by
      refine EntryRules.exists_settingValues_iff.mpr fun setting listed => ?_
      rw [settingValue_ofEnvironment]
      exact (exists_valueFrom_iff.mp (heard setting listed)).1
    obtain ⟨fileKnown, inFile⟩ : ∃ fileKnown,
        envFileValues plainRules (fileEntries environment entries) = .ok fileKnown := by
      refine exists_envFileValues_iff.mpr fun setting listed => ?_
      rw [settingValue_fileEntries]
      exact (exists_valueFrom_iff.mp (heard setting listed)).2
    exact ⟨_, sources_eq_ok_iff.mpr ⟨entries, known, fileKnown, read, isKnown, inFile, rfl⟩⟩

/-! ## Settings by name -/

/-- The value of a setting. -/
def value? (settings : Settings) (name : String) : Option Json :=
  settings.toJson.members?.bind fun members => members.find? name

/-- Every setting is what its check makes of what the sources have for it. -/
structure ReadFrom (settings : Settings) (sources : SettingSources) : Prop where
  appName : sources.setting "APP_NAME" ("Edge NAT Compiler" : Text) Json.asText =
    .valid settings.appName
  appEnv : sources.setting "APP_ENV" ("local" : Text) Json.asText = .valid settings.appEnv
  debug : sources.setting "DEBUG" false Json.asBoolean = .valid settings.debug
  firewallMin : sources.setting "FIREWALL_RULE_ID_MIN" 1 Json.asInteger =
    .valid settings.firewallIds.minimum
  firewallMax : sources.setting "FIREWALL_RULE_ID_MAX" 65536 Json.asInteger =
    .valid settings.firewallIds.maximum
  natMin : sources.setting "NAT_RULE_ID_MIN" 65537 Json.asInteger = .valid settings.natIds.minimum
  natMax : sources.setting "NAT_RULE_ID_MAX" 131072 Json.asInteger =
    .valid settings.natIds.maximum
  directoryFile : sources.setting "GATEWAY_DIRECTORY_FILE" none Json.asOptionalText =
    .valid settings.directoryFile
  corsOrigins : sources.setting originsName Origins.default Origins.check =
    .valid settings.corsOrigins
  logLevel : sources.setting "LOG_LEVEL" ("INFO" : Text) Json.asText = .valid settings.logLevel
  logFile : sources.setting "LOG_FILE" none Json.asOptionalText = .valid settings.logFile

variable {a b found : SettingSources} {s t settings : Settings} {name : String}

theorem readFrom_of_check (checked : check found = .valid settings) : settings.ReadFrom found := by
  simp only [check, Checked.seq_eq_valid_iff, Checked.map_eq_valid_iff] at checked
  obtain ⟨_, _, ⟨_, _, ⟨_, _, ⟨_, _, ⟨_, _, ⟨_, _, ⟨_, _, ⟨_, _, ⟨_, appName, rfl⟩, appEnv, rfl⟩,
    debug, rfl⟩, ⟨_, _, ⟨_, firewallMin, rfl⟩, firewallMax, rfl⟩, rfl⟩,
    ⟨_, _, ⟨_, natMin, rfl⟩, natMax, rfl⟩, rfl⟩, directoryFile, rfl⟩, corsOrigins, rfl⟩, logLevel,
    rfl⟩, logFile, rfl⟩ := checked
  exact ⟨appName, appEnv, debug, firewallMin, firewallMax, natMin, natMax, directoryFile,
    corsOrigins, logLevel, logFile⟩

theorem readFrom_of_ofSources (built : ofSources found = .ok settings) :
    settings.ReadFrom found := by
  rw [ofSources] at built
  split at built
  · cases built
  · split at built
    · next checked =>
      cases built
      exact readFrom_of_check checked
    · cases built

theorem eq_of_setting {α : Type} {default x y : α} {check : Json → Checked α}
    (same : a.value? name = b.value? name) (first : a.setting name default check = .valid x)
    (second : b.setting name default check = .valid y) : x = y := by
  rw [setting_congr same, second] at first
  exact (Checked.valid.inj first).symm

/-- Settings agree where their sources have the same value. -/
theorem ReadFrom.value?_congr (first : s.ReadFrom a) (second : t.ReadFrom b)
    (listed : name ∈ names) (same : a.value? name = b.value? name) :
    s.value? name = t.value? name := by
  simp only [names, List.mem_cons, List.not_mem_nil, or_false] at listed
  rcases listed with rfl | rfl | rfl | rfl | rfl | rfl | rfl | rfl | rfl | rfl | rfl
  · exact congrArg (some ∘ Json.str) (eq_of_setting same first.appName second.appName)
  · exact congrArg (some ∘ Json.str) (eq_of_setting same first.appEnv second.appEnv)
  · exact congrArg (some ∘ Json.bool) (eq_of_setting same first.debug second.debug)
  · exact congrArg (some ∘ Json.int) (eq_of_setting same first.firewallMin second.firewallMin)
  · exact congrArg (some ∘ Json.int) (eq_of_setting same first.firewallMax second.firewallMax)
  · exact congrArg (some ∘ Json.int) (eq_of_setting same first.natMin second.natMin)
  · exact congrArg (some ∘ Json.int) (eq_of_setting same first.natMax second.natMax)
  · exact congrArg (some ∘ Json.ofText?)
      (eq_of_setting same first.directoryFile second.directoryFile)
  · exact congrArg some (eq_of_setting same first.corsOrigins second.corsOrigins)
  · exact congrArg (some ∘ Json.str) (eq_of_setting same first.logLevel second.logLevel)
  · exact congrArg (some ∘ Json.ofText?) (eq_of_setting same first.logFile second.logFile)

/-- Sources with the same values give the same settings. -/
theorem ofSources_eq (same : ∀ name ∈ names, a.value? name = b.value? name) :
    ofSources a = ofSources b := by
  simp (disch := decide) only [ofSources, check, SettingSources.setting, same]

theorem load_eq_ok_iff : load files environment [] = .ok settings ↔
    ∃ found, sources files environment [] = .ok found ∧ ofSources found = .ok settings :=
  Except.bind_eq_ok_iff

/-- Settings are built only if the env file can be decoded. -/
theorem exists_entries_of_load (built : load files environment [] = .ok settings) :
    ∃ entries, EnvFile.load files envFileName = .ok entries := by
  obtain ⟨found, sourced, -⟩ := load_eq_ok_iff.mp built
  obtain ⟨entries, known, fileKnown, read, -⟩ := sources_eq_ok_iff.mp sourced
  exact ⟨entries, read⟩

end Settings

end GatewayNat
