import GatewayNat.Service.Boot
import GatewayNat.Proofs.PlainSettings

/-!
# The settings of a boot

A boot reads the env file twice: first it copies the file into the environment,
and then the settings are read from the new environment and from the file.  The
copy lets the environment have the say in references, and the settings let
earlier lines of the file have it.

* After the copy the environment has the text of every setting that has one
  (`find?_eq_firstText`).  It is the text that the settings would find without
  the copy, as long as no reference clashes where the text comes from
  (`Keeps.text`).
* What the file says when it is read again is asked for only if that text is no
  value.  This happens to origins that are null (`NullOrigins`), and then a
  reference that looks ahead finds a text that it did not find before
  (`Keeps.again`).

So a boot has the settings that there are without the copy, setting by setting
(`boot_keeps_settings`).  In general it has not (`not_forall_boot_keeps`): if the
environment has a name of the file, a reference to it means one text to the copy
and another one to the settings.
-/

namespace GatewayNat

namespace Settings

open SettingOptions

variable {files : Files} {environment full : Environment} {entries : List EnvFile.Entry}
  {setting : String} {settings booted : Settings}

/-! ## What the copy keeps of a setting -/

/-- The first text of a setting: the one in the environment, or else the one in the file. -/
def firstText (environment : Environment) (entries : List EnvFile.Entry) (setting : String) :
    Option Text :=
  (environment.find? setting).or (fileText environment entries setting)

/-- The first text of the origins is null, which is no value. -/
def NullOrigins (environment : Environment) (entries : List EnvFile.Entry) : Prop :=
  ∃ text ∈ firstText environment entries originsName, Json.read text = .ok .null

/-- The copy of an env file keeps what a setting is. -/
structure Keeps (environment : Environment) (entries : List EnvFile.Entry) (setting : String) :
    Prop where
  /-- No reference clashes where the file has the text from, if it is not in the environment. -/
  text : EnvFile.Lacks environment setting → EnvFile.NeverClashes environment entries setting
  /-- No reference looks ahead where the file has the text of origins from that are read again. -/
  again : setting = originsName → NullOrigins environment entries →
    EnvFile.NeverLooksAhead environment entries setting

/-- After the copy the environment has the first text of a setting. -/
theorem find?_eq_firstText (copied : EnvFile.copyInto environment entries = .ok full)
    (keeps : Keeps environment entries setting) :
    full.find? setting = firstText environment entries setting := by
  rw [EnvFile.find?_copyInto copied, firstText, fileText]
  cases here : environment.find? setting with
  | some text => rfl
  | none => rw [EnvFile.find?_values_of_neverClashes (keeps.text here)]

/-- A file that has no text for a setting has none when it is read again. -/
theorem fileText_eq_none (lacks : fileText environment entries setting = none) :
    fileText full entries setting = none := by
  rw [← Option.not_isSome_iff_eq_none, fileText, EnvFile.isSome_join_find?_values]
  rw [fileText] at lacks
  rw [lacks]
  exact Bool.false_ne_true

/-- If the file has the same text when it is read again, the copy changes nothing. -/
theorem valueFrom_of_fileText_eq (copied : EnvFile.copyInto environment entries = .ok full)
    (keeps : Keeps environment entries setting)
    (same : fileText full entries setting = fileText environment entries setting) :
    valueFrom full entries setting = valueFrom environment entries setting := by
  rw [valueFrom, valueFrom, find?_eq_firstText copied keeps, same, firstText]
  cases environment.find? setting with
  | some text => rfl
  | none =>
    rw [Option.none_or]
    cases textValue setting (fileText environment entries setting) with
    | error fault => rfl
    | ok value => cases value <;> rfl

/-- If the first text is a value, it is what both sources say. -/
theorem eq_of_firstText {said : Option Json} {value : Json}
    (heard : valueFrom environment entries setting = .ok said)
    (known : textValue setting (firstText environment entries setting) = .ok (some value)) :
    said = some value := by
  obtain ⟨first, isFirst, heard⟩ := Except.bind_eq_ok_iff.mp heard
  obtain ⟨second, isSecond, heard⟩ := Except.bind_eq_ok_iff.mp heard
  cases heard
  rw [firstText] at known
  cases here : environment.find? setting with
  | some text =>
    rw [here] at isFirst known
    rw [Option.some_or, isFirst] at known
    cases known
    rfl
  | none =>
    rw [here] at isFirst known
    rw [Option.none_or, isSecond] at known
    cases isFirst
    cases known
    rfl

theorem read_eq_null {text : Text} (nothing : Origins.readEntry text = .ok none) :
    Json.read text = .ok .null := by
  rw [Origins.readEntry] at nothing
  split at nothing
  · assumption
  all_goals cases nothing

/-- A first text that is no value leaves a setting to the file, which has the same text for it when
it is read again. -/
theorem fileText_eq_of_textValue (copied : EnvFile.copyInto environment entries = .ok full)
    (keeps : Keeps environment entries setting)
    (nothing : textValue setting (firstText environment entries setting) = .ok none) :
    fileText full entries setting = fileText environment entries setting := by
  cases first : firstText environment entries setting with
  | none =>
    have lacks : fileText environment entries setting = none := (Option.or_eq_none_iff.mp first).2
    rw [lacks, fileText_eq_none lacks]
  | some text =>
    rw [first, textValue] at nothing
    split at nothing
    · next origins =>
      subst origins
      have null : Json.read text = .ok .null :=
        read_eq_null (Except.mapError_eq_ok_iff.mp nothing)
      have stays : EnvFile.NeverLooksAhead environment entries originsName :=
        keeps.again rfl ⟨text, first, null⟩
      rw [fileText, fileText, EnvFile.find?_values_of_neverLooksAhead copied stays]
    · cases nothing

/-- What is said of a setting before and after the copy. -/
theorem valueFrom_congr (copied : EnvFile.copyInto environment entries = .ok full)
    (keeps : Keeps environment entries setting) {before after : Option Json}
    (heard : valueFrom environment entries setting = .ok before)
    (heardAgain : valueFrom full entries setting = .ok after) : after = before := by
  have found : full.find? setting = firstText environment entries setting :=
    find?_eq_firstText copied keeps
  obtain ⟨first, isFirst, -⟩ := Except.bind_eq_ok_iff.mp heardAgain
  rw [found] at isFirst
  cases first with
  | none =>
    have same : fileText full entries setting = fileText environment entries setting :=
      fileText_eq_of_textValue copied keeps isFirst
    rw [valueFrom_of_fileText_eq copied keeps same, heard] at heardAgain
    exact (Except.ok.inj heardAgain).symm
  | some value =>
    have stays : firstText full entries setting = firstText environment entries setting := by
      rw [firstText, found]
      cases chosen : firstText environment entries setting with
      | none =>
        rw [chosen] at isFirst
        cases isFirst
      | some text => rfl
    rw [eq_of_firstText heard isFirst]
    exact eq_of_firstText heardAgain (stays ▸ isFirst)

/-! ## Loading after the copy -/

/-- Settings before and after the copy agree on what it keeps. -/
theorem value?_of_copied (read : EnvFile.load files envFileName = .ok entries)
    (copied : EnvFile.copyInto environment entries = .ok full)
    (built : load files environment [] = .ok settings) (boots : load files full [] = .ok booted)
    (listed : setting ∈ names) (keeps : Keeps environment entries setting) :
    booted.value? setting = settings.value? setting := by
  obtain ⟨found, sourced, checked⟩ := load_eq_ok_iff.mp built
  obtain ⟨foundToo, sourcedToo, checkedToo⟩ := load_eq_ok_iff.mp boots
  have same : foundToo.value? setting = found.value? setting :=
    valueFrom_congr copied keeps (valueFrom_of_sources read sourced listed)
      (valueFrom_of_sources read sourcedToo listed)
  exact (readFrom_of_ofSources checkedToo).value?_congr (readFrom_of_ofSources checked) listed same

/-- If the copy keeps every text, and those of the origins that the file has when it is read again,
then there are the same settings after it. -/
theorem load_of_copied (read : EnvFile.load files envFileName = .ok entries)
    (copied : EnvFile.copyInto environment entries = .ok full)
    (built : load files environment [] = .ok settings)
    (keeps : ∀ setting ∈ names, Keeps environment entries setting)
    (stays : EnvFile.NeverLooksAhead environment entries originsName) :
    load files full [] = .ok settings := by
  obtain ⟨found, sourced, checked⟩ := load_eq_ok_iff.mp built
  have heard : ∀ setting ∈ names, valueFrom full entries setting = .ok (found.value? setting) := by
    intro setting listed
    have before := valueFrom_of_sources read sourced listed
    by_cases origins : setting = originsName
    · subst origins
      have same : fileText full entries originsName = fileText environment entries originsName := by
        rw [fileText, fileText, EnvFile.find?_values_of_neverLooksAhead copied stays]
      rw [valueFrom_of_fileText_eq copied (keeps _ listed) same, before]
    · -- Something can be said of any other setting, and so it is the same.
      obtain ⟨after, heardAgain⟩ : ∃ after, valueFrom full entries setting = .ok after := by
        rw [valueFrom, textValue_of_ne origins, textValue_of_ne origins]
        exact ⟨_, rfl⟩
      rw [heardAgain, valueFrom_congr copied (keeps setting listed) before heardAgain]
  obtain ⟨foundToo, sourcedToo⟩ :=
    (exists_sources_iff read).mpr fun setting listed => ⟨_, heard setting listed⟩
  refine load_eq_ok_iff.mpr ⟨foundToo, sourcedToo, ?_⟩
  rw [← checked]
  refine ofSources_eq fun setting listed => ?_
  have after := valueFrom_of_sources read sourcedToo listed
  rw [heard setting listed] at after
  exact (Except.ok.inj after).symm

/-! ## Booting -/

theorem bootSettings_of_forbidsCopy (forbidden : forbidsCopy environment = true) :
    bootSettings environment files = (load files environment []).mapError .settings := by
  rw [bootSettings, bootEnvironment, if_pos forbidden]

theorem bootSettings_of_copies (copies : forbidsCopy environment = false)
    (read : EnvFile.load files envFileName = .ok entries) :
    bootSettings environment files = ((EnvFile.copyInto environment entries).mapError .copy).bind
      fun full => (load files full []).mapError .settings := by
  rw [bootSettings, bootEnvironment, if_neg (Bool.eq_false_iff.mp copies), read]
  simp only
  cases EnvFile.copyInto environment entries <;> rfl

end Settings

open Settings SettingOptions

/-- A boot has the settings that there are without the copy of the env file, as far as the copy
keeps them.  If it keeps them all, and no reference looks ahead where the file has the origins from,
then the service boots with these very settings, as long as the environment can take over the values
of the file.  The boot ends with the copy exactly if it cannot. -/
theorem boot_keeps_settings {environment : Environment} {files : Files} {settings : Settings}
    (built : load files environment [] = .ok settings) :
    ∃ entries, EnvFile.load files envFileName = .ok entries ∧
      (∀ booted, bootSettings environment files = .ok booted → ∀ setting ∈ names,
        (forbidsCopy environment = false → Keeps environment entries setting) →
          booted.value? setting = settings.value? setting) ∧
      ((forbidsCopy environment = false → EnvFile.Copyable environment entries ∧
          (∀ setting ∈ names, Keeps environment entries setting) ∧
          EnvFile.NeverLooksAhead environment entries originsName) →
        bootSettings environment files = .ok settings) ∧
      ((∃ fault, bootSettings environment files = .error (.copy fault)) ↔
        forbidsCopy environment = false ∧ ¬EnvFile.Copyable environment entries) := by
  obtain ⟨entries, read⟩ := exists_entries_of_load built
  refine ⟨entries, read, ?_⟩
  cases copies : forbidsCopy environment with
  | true =>
    have same : bootSettings environment files = .ok settings := by
      rw [bootSettings_of_forbidsCopy copies, built, Except.mapError_ok]
    rw [same]
    refine ⟨?_, fun _ => rfl, nofun, nofun⟩
    rintro _ ⟨⟩ setting - -
    rfl
  | false =>
    rw [bootSettings_of_copies copies read, ← EnvFile.exists_copyInto_iff]
    cases copied : EnvFile.copyInto environment entries with
    | error fault =>
      refine ⟨nofun, fun keeps => ?_, fun _ => ⟨rfl, nofun⟩, fun _ => ⟨fault, rfl⟩⟩
      obtain ⟨full, copiedToo⟩ := (keeps rfl).1
      cases copiedToo
    | ok full =>
      refine ⟨?agree, ?boots, ?copy⟩
      case agree =>
        intro booted boots setting listed keeps
        exact value?_of_copied read copied built (Except.mapError_eq_ok_iff.mp boots) listed
          (keeps rfl)
      case boots =>
        intro keeps
        obtain ⟨-, kept, stays⟩ := keeps rfl
        exact Except.mapError_eq_ok_iff.mpr (load_of_copied read copied built kept stays)
      case copy =>
        constructor
        · rintro ⟨fault, failed⟩
          obtain ⟨cause, -, other⟩ := Except.mapError_eq_error_iff.mp failed
          cases other
        · exact fun refused => absurd ⟨full, rfl⟩ refused.2

namespace ChainedLevel

/-- An environment with a name that the file refers to. -/
def environment : Environment := [("X", "a"), ("APP_ENV", "test")]

/-- A file in which one setting refers to an earlier line and another one to the environment. -/
def files : Files :=
  [(".env", .file
    "Y=WARN\nLOG_LEVEL=$\x7bY\x7dING\nAPP_NAME=$\x7bX\x7d-$\x7bZ:-none\x7d\n".toUTF8.toList)]

/-- The entries of the file. -/
def entries : List EnvFile.Entry :=
  [⟨"Y", some "WARN"⟩, ⟨"LOG_LEVEL", some "$\x7bY\x7dING"⟩,
    ⟨"APP_NAME", some "$\x7bX\x7d-$\x7bZ:-none\x7d"⟩]

end ChainedLevel

open ChainedLevel in
/-- A level that an earlier line gives, and a name of the service from the environment. -/
theorem boot_keeps_chainedLevel : ∃ settings, load files environment [] = .ok settings ∧
    bootSettings environment files = .ok settings ∧ settings.logLevel = "WARNING" ∧
      settings.appName = "a-none" := by
  have read : EnvFile.load files envFileName = .ok entries := by decide +kernel
  have known : (load files environment []).toOption.map
      (fun settings => (settings.logLevel, settings.appName)) =
        some (("WARNING" : Text), ("a-none" : Text)) := by
    decide +kernel
  have apart : ∀ entry ∈ entries, EnvFile.Lacks environment entry.name := by
    unfold EnvFile.Lacks
    decide +kernel
  have copyable : EnvFile.Copyable environment entries := by
    have copies : (EnvFile.copyInto environment entries).toOption.isSome = true := by
      decide +kernel
    cases copied : EnvFile.copyInto environment entries with
    | error fault =>
      rw [copied] at copies
      cases copies
    | ok full => exact EnvFile.exists_copyInto_iff.mp ⟨full, copied⟩
  have stays : EnvFile.NeverLooksAhead environment entries originsName :=
    EnvFile.neverLooksAhead_of_absent (by decide +kernel)
  cases built : load files environment [] with
  | error fault =>
    rw [built] at known
    cases known
  | ok settings =>
    rw [built] at known
    have values : (settings.logLevel, settings.appName) = (("WARNING" : Text), ("a-none" : Text)) :=
      Option.some.inj known
    refine ⟨settings, rfl, ?_, congrArg Prod.fst values, congrArg Prod.snd values⟩
    have keeps : ∀ setting ∈ names, Keeps environment entries setting := fun setting _ =>
      ⟨fun _ => EnvFile.neverClashes_of_apart apart, fun origins _ => origins ▸ stays⟩
    obtain ⟨entriesToo, readToo, -, boots, -⟩ := boot_keeps_settings built
    obtain rfl : entries = entriesToo := Except.ok.inj (read.symm.trans readToo)
    exact boots fun _ => ⟨copyable, keeps, stays⟩

namespace SharedName

/-- An environment with a name that the file has too. -/
def environment : Environment := [("X", "a")]

/-- A file in which a setting refers to the name. -/
def files : Files := [(".env", .file "X=b\nAPP_NAME=$\x7bX\x7d\n".toUTF8.toList)]

end SharedName

open SharedName in
/-- The copy of the env file may change a setting that is not in the environment. -/
theorem not_forall_boot_keeps : ¬∀ (environment : Environment) (files : Files)
    (settings booted : Settings), load files environment [] = .ok settings →
      bootSettings environment files = .ok booted → booted = settings := by
  intro all
  have direct : (load files environment []).toOption.map (·.appName) = some ("b" : Text) := by
    decide +kernel
  have boots : (bootSettings environment files).toOption.map (·.appName) = some ("a" : Text) := by
    decide +kernel
  cases built : load files environment [] with
  | error fault =>
    rw [built] at direct
    cases direct
  | ok settings =>
    cases booting : bootSettings environment files with
    | error fault =>
      rw [booting] at boots
      cases boots
    | ok booted =>
      rw [built] at direct
      rw [booting, all environment files settings booted built booting] at boots
      exact absurd (direct.symm.trans boots) (by decide)

end GatewayNat
