import GatewayNat.Settings.Options
import GatewayNat.Settings.Origins

/-!
# Entries of settings

A source of entries has texts under names: the environment, the env files and
the command line.  A text stands for a number or a truth value where one is
asked for, and null is no entry.  These options say how entries are read.

* `_case_sensitive` says whether names count as they are written.  If they do
  not, names of entries are taken in small letters, and the last entry of a name
  wins.
* `_env_prefix` stands before the name of a setting in the name of an entry,
  unless `_env_prefix_target` is something else than `variable` and `all`.
* `_env_ignore_empty` says whether entries with an empty text are left out.
* `_env_parse_none_str` is a text of an entry that means null.
* `_env_nested_delimiter` stands between the name of a setting and the name of a
  part of it, and `_env_nested_max_split` is a number of parts.

The origins are read from their text.  A source that knows only parts of them
has an object for them.

An env file also has values for names without the start that names of entries
have.  They are taken as they are written, and they come after the others.
-/

namespace GatewayNat

/-- Why entries give no values. -/
inductive EntryFault where
  | options (fault : OptionFault)
  /-- Some origins are JSON that lies too deep in other JSON. -/
  | tooDeep (container : Json.Container)
  deriving DecidableEq, Repr

/-- How the names of parts are read. -/
structure PartRules where
  /-- What stands before the name of a part. -/
  separator : Text
  /-- Why no part can be read, if none can. -/
  fault : Option OptionFault
  deriving DecidableEq, Repr

/-- How the entries of a source are read. -/
structure EntryRules where
  /-- The name of the source in messages. -/
  source : String
  caseSensitive : Bool
  /-- What stands before the name of a setting, which should be a text. -/
  lead : Json
  /-- Whether it stands there in the names of entries. -/
  leadsNames : Bool
  ignoresEmpty : Bool
  /-- The text that means null. -/
  nullText : Option Text
  parts : Option PartRules
  deriving DecidableEq, Repr

namespace EntryRules

/-! ## Names -/

/-- A name as names are compared. -/
def nameOf (rules : EntryRules) (name : Text) : Text :=
  if rules.caseSensitive then name else name.mapStrings Text.lower

/-- The name of the entry of a setting. -/
def entryName? (rules : EntryRules) (setting : String) : Option Text :=
  if rules.leadsNames then rules.lead.text?.map fun lead => rules.nameOf (lead ++ setting)
  else some (rules.nameOf setting)

/-- The entries under the names by which they are found. -/
def named (rules : EntryRules) (entries : Members) : Members :=
  let kept := entries.filter fun entry => !(rules.ignoresEmpty && entry.2 = .str "")
  if rules.caseSensitive then kept
  else .ofList (kept.map fun entry => (rules.nameOf entry.1, entry.2))

/-- The entries of an environment. -/
def ofEnvironment (rules : EntryRules) (environment : Environment) : Members :=
  rules.named (environment.mapEntries Json.str)

/-- The entries of the values of an env file. -/
def ofValues (rules : EntryRules) (values : EnvFile.Values) : Members :=
  rules.named (values.mapEntries Json.ofText?)

/-! ## Values -/

/-- Whether an entry has a part of what has a name. -/
def hasPart (rules : EntryRules) (entries : Members) (name : Text) : Bool :=
  match rules.parts with
  | none => false
  | some parts =>
    entries.any fun entry => ((name ++ parts.separator).dropStart? entry.1).isSome

/-- What a source has for the origins if it has parts of them, or else the given value. -/
def withParts (rules : EntryRules) (entries : Members) (name : Text) (value : Option Json) :
    Except EntryFault (Option Json) :=
  if rules.hasPart entries name then
    match rules.parts.bind PartRules.fault with
    | some fault => .error (.options fault)
    | none => .ok (some (.obj []))
  else .ok value

/-- The origins in the entries of a name. -/
def originsValue (rules : EntryRules) (entries : Members) (name : Text) :
    Except EntryFault (Option Json) :=
  match entries.find? name with
  | some (.str text) =>
    match Origins.readEntry text with
    | .error container => .error (.tooDeep container)
    | .ok (some (.obj members)) => rules.withParts entries name (some (.obj members))
    | .ok value => .ok value
  | _ => rules.withParts entries name none

/-- Whether an entry is the text that means null. -/
def meansNull (rules : EntryRules) (entry : Option Json) : Bool :=
  entry.isSome && entry = rules.nullText.map Json.str

/-- The value that entries have for a setting. -/
def settingValue (rules : EntryRules) (entries : Members) (setting : String) :
    Except EntryFault (Option Json) :=
  match rules.entryName? setting with
  | none => .error (.options (.noEntryName setting rules.source))
  | some name =>
    let entry := entries.find? name
    if rules.meansNull entry then .ok (some .null)
    else if setting = Settings.originsName then rules.originsValue entries name
    else .ok (entry.filter (· ≠ .null))

/-- The values that entries have for settings. -/
def settingValues (rules : EntryRules) (entries : Members) :
    List String → Except EntryFault Members
  | [] => .ok []
  | setting :: rest =>
    match rules.settingValue entries setting with
    | .error error => .error error
    | .ok none => settingValues rules entries rest
    | .ok (some value) => (settingValues rules entries rest).map ((setting, value) :: ·)

/-! ## Other entries -/

/-- Whether a name is that of the entry of a setting, or of a part of the origins. -/
def isUsed (rules : EntryRules) (name : Text) : Bool :=
  Settings.names.any fun setting =>
    match rules.entryName? setting with
    | none => false
    | some used =>
      used = name || (setting = Settings.originsName && (used.dropStart? name).isSome)

/-- Whether a name is that of a setting which needs something before it. -/
def isBare (rules : EntryRules) (name : Text) : Bool :=
  rules.lead.isTrue && Settings.names.any fun setting => name = setting

/-- The values with those of entries that belong to no setting. -/
def withOthers (rules : EntryRules) (values : Members) : Members → Except EntryFault Members
  | [] => .ok values
  | (name, .str text) :: rest =>
    if text = "" || values.has name || rules.isBare name || rules.isUsed name then
      withOthers rules values rest
    else
      match rules.lead with
      | .str lead =>
        withOthers rules (values.set ((lead.dropStart? name).getD name) (.str text)) rest
      | other => .error (.options (.notStart other.kindName))
  | _ :: rest => withOthers rules values rest

end EntryRules

/-! ## Rules from options -/

namespace SettingOptions

/-- Checks an option that should be a number.  What is empty may stand for zero. -/
def checkNumber : Option Json → Except OptionFault Unit
  | some (.bool _) | some (.int _) | some (.float _) | none => .ok ()
  | some other => if other.isTrue then .error (.notNumber other.kindName) else .ok ()

/-- Why an option is no number of parts, if it is none. -/
def countFault? : Option Json → Option OptionFault
  | some (.float x) => if (Json.float x).isTrue then some .notWhole else none
  | some (.int n) => if isWord (n - 1) then none else some .tooLarge
  | _ => none

/-- Why a value does not stand between parts, if it does not. -/
def separatorFault? : Json → Option OptionFault
  | .str _ => none
  | other => some (.notSeparator other.kindName)

/-- How the names of parts are read. -/
def partRules? (arguments : Members) : Option PartRules :=
  ((given? arguments "_env_nested_delimiter").filter Json.isTrue).map fun separator =>
    { separator := separator.plainText
      fault := (countFault? (given? arguments "_env_nested_max_split")).or
        (separatorFault? separator) }

/-- Whether the option of what stands before names is for the names of entries. -/
def leadsNames (arguments : Members) : Bool :=
  match given? arguments "_env_prefix_target" with
  | none => true
  | some target => target = .str "variable" || target = .str "all"

/-- Checks what stands before names. -/
def checkLead : Json → Except OptionFault Unit
  | .str _ | .arr _ | .obj _ => .ok ()
  | other => .error (.noLength other.kindName)

/-- The rules for the entries of the environment and of env files. -/
def entryRules (arguments : Members) : Except OptionFault EntryRules := do
  checkNumber (given? arguments "_env_nested_max_split")
  let lead := (given? arguments "_env_prefix").getD (.str "")
  checkLead lead
  return {
    source := "EnvSettingsSource"
    caseSensitive := isCaseSensitive arguments
    lead
    leadsNames := leadsNames arguments
    ignoresEmpty := isSet arguments "_env_ignore_empty"
    nullText := text? arguments "_env_parse_none_str"
    parts := partRules? arguments }

end SettingOptions

end GatewayNat
