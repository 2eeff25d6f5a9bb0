import GatewayNat.Settings.CommandLine

/-!
# Loading settings

A setting has its value from the first of five sources that knows it: the
command line, the arguments, the environment, the env files, the default.
Unknown names are ignored.

* Arguments are values.  The other sources have entries.
* A name without a text in an env file is not known to it.
* Values in the origins that lie too deep in others are a fault, which comes
  before every issue of a value, even in a source that another source hides.
-/

namespace GatewayNat

/-- Why there are no settings. -/
inductive SettingsError where
  | options (fault : OptionFault)
  | commandLine (fault : CommandLineFault)
  /-- An env file is no text in its codec. -/
  | undecodable (fault : Text.Codec.Fault)
  /-- Some origins are JSON that lies too deep in other JSON. -/
  | tooDeep (container : Json.Container)
  /-- Some settings have values of the wrong kind. -/
  | invalid (first : Issue) (more : List Issue)
  deriving DecidableEq, Repr

/-- The settings error that a fault of entries is. -/
def EntryFault.error : EntryFault → SettingsError
  | .options fault => .options fault
  | .tooDeep container => .tooDeep container

/-- What the sources know, by the names of settings. -/
structure SettingSources where
  commandLine : Members
  arguments : Members
  environment : Members
  envFiles : Members

namespace SettingSources

/-- Sources that know nothing. -/
def empty : SettingSources := ⟨[], [], [], []⟩

/-- The value of a setting in the first source that knows it. -/
def value? (sources : SettingSources) (name : String) : Option Json :=
  (sources.commandLine.find? name).or
    ((sources.arguments.find? name).or
      ((sources.environment.find? name).or (sources.envFiles.find? name)))

/-- A setting whose value is checked, with a result for its absence. -/
def setting {α : Type} (sources : SettingSources) (name : String) (default : α)
    (check : Json → Checked α) : Checked α :=
  match sources.value? name with
  | some value => (check value).under (.name name)
  | none => .valid default

end SettingSources

/-- A text or null. -/
def Json.asOptionalText : Json → Checked (Option Text)
  | .null => .valid none
  | other => some <$> other.asText

namespace Settings

/-- The settings that the sources give. -/
def check (sources : SettingSources) : Checked Settings :=
  Settings.mk
    <$> sources.setting "APP_NAME" "Edge NAT Compiler" Json.asText
    <*> sources.setting "APP_ENV" "local" Json.asText
    <*> sources.setting "DEBUG" false Json.asBoolean
    <*> (IdRange.mk
      <$> sources.setting "FIREWALL_RULE_ID_MIN" 1 Json.asInteger
      <*> sources.setting "FIREWALL_RULE_ID_MAX" 65536 Json.asInteger)
    <*> (IdRange.mk
      <$> sources.setting "NAT_RULE_ID_MIN" 65537 Json.asInteger
      <*> sources.setting "NAT_RULE_ID_MAX" 131072 Json.asInteger)
    <*> sources.setting "GATEWAY_DIRECTORY_FILE" none Json.asOptionalText
    <*> sources.setting originsName Origins.default Origins.check
    <*> sources.setting "LOG_LEVEL" "INFO" Json.asText
    <*> sources.setting "LOG_FILE" none Json.asOptionalText

/-- The settings that the sources give, or why there are none. -/
def ofSources (sources : SettingSources) : Except SettingsError Settings :=
  match Origins.tooDeep? (sources.value? originsName) with
  | some container => .error (.tooDeep container)
  | none =>
    match check sources with
    | .valid settings => .ok settings
    | .invalid first more => .error (.invalid first more)

/-- The entries of an env file after those of other env files. -/
def readEnvFile (rules : EntryRules) (environment : Environment) (known : Members) (text : Text) :
    Members :=
  (rules.ofValues (EnvFile.values .earlierLines environment (EnvFile.read text))).foldl
    (fun entries entry => entries.set entry.1 entry.2) known

/-- The entries of env files that values name, after those of other env files. -/
def envEntries (files : Files) (environment : Environment) (arguments : Members)
    (rules : EntryRules) (known : Members) : List Json → Except SettingsError Members
  | [] => .ok known
  | value :: rest =>
    match SettingOptions.envFileAt files environment arguments value with
    | .error fault => .error (.options fault)
    | .ok (some (.file octets)) =>
      match SettingOptions.codec arguments with
      | .error fault => .error (.options fault)
      | .ok codec =>
        match codec.decode octets with
        | .error fault => .error (.undecodable fault)
        | .ok text =>
          envEntries files environment arguments rules
            (readEnvFile rules environment known (text.mapStrings Files.withLineFeeds)) rest
    | .ok _ => envEntries files environment arguments rules known rest

/-- What the command line knows. -/
def commandLineValues (source : Option (EntryRules × Members)) : Except SettingsError Members :=
  match source with
  | none => .ok []
  | some (rules, entries) => (rules.settingValues entries names).mapError EntryFault.error

/-- What env files know. -/
def envFileValues (rules : EntryRules) (entries : Members) : Except SettingsError Members :=
  match rules.settingValues entries names with
  | .error fault => .error fault.error
  | .ok values => (rules.withOthers values entries).mapError EntryFault.error

/-- The sources that options ask for. -/
def builtSources (files : Files) (environment : Environment) (arguments : Members) :
    Except SettingsError SettingSources := do
  let rules ← (SettingOptions.entryRules arguments).mapError .options
  let envFiles ← (SettingOptions.envFiles arguments).mapError .options
  let entries ← envEntries files environment arguments rules [] envFiles
  let source ← (SettingOptions.commandLine? arguments).mapError .commandLine
  let commandLine ← commandLineValues source
  let environmentValues ←
    (rules.settingValues (rules.ofEnvironment environment) names).mapError EntryFault.error
  let fileValues ← envFileValues rules entries
  (SettingOptions.checkSecrets files environment arguments).mapError .options
  return ⟨commandLine, arguments, environmentValues, fileValues⟩

/-- The sources of arguments, an environment and the env files of a tree. -/
def sources (files : Files) (environment : Environment) (arguments : Members) :
    Except SettingsError SettingSources :=
  match SettingOptions.hasNoSources arguments with
  | .error fault => .error (.options fault)
  | .ok true => .ok .empty
  | .ok false => builtSources files environment arguments

/-- The settings from arguments, an environment and the env files of a tree. -/
def load (files : Files) (environment : Environment) (arguments : Members) :
    Except SettingsError Settings :=
  (sources files environment arguments).bind ofSources

end Settings

end GatewayNat
