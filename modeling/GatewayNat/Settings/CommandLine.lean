import GatewayNat.CommandLine.Basic
import GatewayNat.CommandLine.Items
import GatewayNat.Settings.Entries
import GatewayNat.Text.Identifier

/-!
# Settings in a command line

A command line has a switch for every setting.  These options say how it is
read.

* `_cli_parse_args` is the list of arguments, or a truth value.
* `_cli_flag_prefix_char` has the marks before the names of switches, two of
  them before a long name and one before a letter.
* `_cli_prefix` is an identifier with points in it.  It stands before the names
  of settings, with one more point.
* `_cli_kebab_case` says whether the names of switches have hyphens in the place
  of underscores.  If names do not count as they are written, switches are taken
  in small letters.
* `_cli_shortcuts` has more names for switches by their names.
* `_cli_implicit_flags` says whether the switch of a truth value needs none.  It
  then has a second name, which denies it, unless the option is `toggle`.
* `_cli_ignore_unknown_args` says whether unknown arguments are left out, and
  `_cli_exit_on_error` whether a fault of the command line ends the program.
* `_cli_parse_none_str` is a text that means null, unless there is one for
  entries.  By default it is `null`, or `None` if `_cli_avoid_json` is true.
  `_cli_hide_none_type` says whether it is left out of the help.

The origins collect the items of all their switches.
-/

namespace GatewayNat

open CommandLine

/-- Why a command line has no settings. -/
inductive CommandLineFault where
  /-- A value of a kind should be a mark. -/
  | notDoubled (kind : String)
  /-- A value of a kind should have marks. -/
  | notMarks (kind : String)
  /-- A list of marks starts with a value that is no text. -/
  | notMark (first : Json)
  /-- A text or a list should have a first part. -/
  | noFirst (isText : Bool)
  /-- The name of a switch does not start with a mark. -/
  | unmarked (name : Text) (marks : Json)
  /-- The only name of a switch does not start with a mark. -/
  | unmarkedOnly
  /-- A value of a kind should be the start of names. -/
  | notLead (kind : String)
  | invalidLead (lead : Text)
  /-- A value of a kind has no length. -/
  | noLength (kind : String)
  /-- A value of a kind should be the text that means null. -/
  | notNullText (kind : String)
  /-- A value of a kind should be an object of names. -/
  | notShortcuts (kind : String)
  /-- A value of a kind should be a list of names. -/
  | notNames (kind : String)
  /-- A switch has names that other switches have. -/
  | conflict (switch : Switch) (names : List Text)
  /-- A value of a kind should be a list of arguments. -/
  | notArguments (kind : String)
  /-- A value of a kind should be an argument. -/
  | notArgument (kind : String)
  /-- The arguments cannot be read, which may end the program. -/
  | unread (fault : Fault) (ends : Bool)
  /-- The items of a name cannot be read. -/
  | items (name : Text) (fault : ItemsFault)
  deriving DecidableEq, Repr

/-- The wording for marks that cannot be put before a name. -/
def markMessage : Json → String
  | .arr _ => "can only concatenate list (not \"str\") to list"
  | other => "unsupported operand type(s) for +: '" ++ other.kindName ++ "' and 'str'"

/-- The wording of a fault of a command line. -/
def CommandLineFault.message : CommandLineFault → Text
  | .notDoubled kind => "unsupported operand type(s) for *: '" ++ kind ++ "' and 'int'"
  | .notMarks kind => "argument of type '" ++ kind ++ "' is not iterable"
  | .notMark first => markMessage first
  | .noFirst isText => (if isText then "string" else "list") ++ " index out of range"
  | .unmarked name marks =>
    "invalid option string " ++ Text.quoted name ++ ": must start with a character " ++ marks.shown
  | .unmarkedOnly => "dest supplied twice for positional argument"
  | .notLead kind => "'" ++ kind ++ "' object has no attribute 'startswith'"
  | .invalidLead lead => "CLI settings source prefix is invalid: " ++ lead
  | .noLength kind => "object of type '" ++ kind ++ "' has no len()"
  | .notNullText kind => "sequence item 1: expected str instance, " ++ kind ++ " found"
  | .notShortcuts kind => "'" ++ kind ++ "' object has no attribute 'items'"
  | .notNames kind => "'" ++ kind ++ "' object is not iterable"
  | .conflict switch names =>
    "argument " ++ switch.title ++ ": conflicting option string" ++
      (if names.length = 1 then ": " else "s: ") ++ Text.join ", " names
  | .notArguments kind =>
    "cli_parse_args must be a list or tuple of strings, received <class '" ++ kind ++ "'>"
  | .notArgument kind => "expected string or bytes-like object, got '" ++ kind ++ "'"
  | .unread fault ends =>
    if !fault.isReported then fault.message
    else if ends then "2"
    else "error parsing CLI: " ++ fault.message
  | .items name fault => "Parsing error encountered for " ++ name ++ ": " ++ fault.message

namespace SettingOptions

/-! ## Marks -/

/-- The option of marks. -/
def marks (arguments : Members) : Json :=
  (given? arguments "_cli_flag_prefix_char").getD (.str "-")

/-- The characters that are marks. -/
def markChars (marks : Json) : List Char :=
  ((marks.parts?.getD []).filterMap Json.text?).filterMap fun text =>
    match text.points with
    | [.char c] => some c
    | _ => none

/-- The marks before a name of a length. -/
def marksBefore (marks : Json) (length : Nat) : Text :=
  match marks with
  | .str text => .ofPoints ((text.points ++ text.points).take (min length 2))
  | .arr items => (Json.arr ((items ++ items).take (min length 2))).shown
  | _ => ""

/-- The mark before the names of help. -/
def helpMark (marks : Json) : Except CommandLineFault Text :=
  match marks.parts? with
  | none => .error (.notMarks marks.kindName)
  | some [] => .error (.noFirst marks.text?.isSome)
  | some (first :: rest) =>
    if (first :: rest).contains (.str "-") then .ok "-"
    else
      match first with
      | .str text => .ok text
      | other => .error (.notMark other)

/-- Checks that a name of a switch starts with a mark. -/
def checkName (marks : Json) (isOnly : Bool) (name : Text) : Except CommandLineFault Unit :=
  match name.points with
  | [] => .error (.noFirst true)
  | first :: _ =>
    if first.isIn (markChars marks).contains then .ok ()
    else if isOnly then .error .unmarkedOnly
    else .error (.unmarked name marks)

/-! ## What stands before the names of settings -/

/-- Whether a text is an identifier with points between other characters. -/
def isDotted (text : Text) : Bool :=
  text.points.head? ≠ some (.char '.') && text.points.getLast? ≠ some (.char '.') &&
    text.toString?.any fun s => Text.isIdentifier (String.ofList (s.toList.filter (· ≠ '.')))

/-- What stands before the names of settings in a command line. -/
def commandLineLead (arguments : Members) : Except CommandLineFault Json :=
  match given? arguments "_cli_prefix" with
  | none => .ok (.str "")
  | some (.str text) =>
    if text = "" then .ok (.str "")
    else if isDotted text then .ok (.str (text ++ "."))
    else .error (.invalidLead text)
  | some other =>
    if other.isTrue then .error (.notLead other.kindName)
    else
      match other with
      | .arr _ | .obj _ => .ok other
      | _ => .error (.noLength other.kindName)

/-! ## Null -/

/-- The value that means null. -/
def commandLineNull (arguments : Members) : Json :=
  ((((given? arguments "_env_parse_none_str").filter Json.isTrue).or
    ((given? arguments "_cli_parse_none_str").filter Json.isTrue))).getD
      (.str (if arguments.find? "_cli_avoid_json" = some (.bool true) then "None" else "null"))

/-- Checks that a setting which may be null has a text for that, if the help shows it. -/
def checkNull (arguments : Members) (setting : String) : Except CommandLineFault Unit :=
  if ["GATEWAY_DIRECTORY_FILE", "LOG_FILE"].contains setting &&
      !isSet arguments "_cli_hide_none_type" then
    match commandLineNull arguments with
    | .str _ => .ok ()
    | other => .error (.notNullText other.kindName)
  else .ok ()

/-! ## Names of switches -/

/-- Whether an option has any value but false and zero. -/
def isAsked (arguments : Members) (name : String) : Bool :=
  match given? arguments name with
  | none => false
  | some (.bool b) => b
  | some (.int n) => n ≠ 0
  | some (.float x) => (Json.float x).isTrue
  | some _ => true

/-- A name with hyphens in the place of underscores. -/
def withHyphens (name : Text) : Text :=
  name.mapStrings fun s => String.ofList (s.toList.map fun c => if c = '_' then '-' else c)

/-- The values that a shortcut has as further names. -/
def shortcutNames : Json → Except CommandLineFault (List Json)
  | .str text => .ok [.str text]
  | .arr items => .ok items
  | .obj members => .ok ((Table.names members).map Json.str)
  | other => .error (.notNames other.kindName)

/-- The names of a switch with those of shortcuts, without names that are taken. -/
def withShortcuts (taken names : List Json) : Members → Except CommandLineFault (List Json)
  | [] => .ok names
  | (target, value) :: rest =>
    if names.contains (.str target) then
      match shortcutNames value with
      | .error fault => .error fault
      | .ok more => withShortcuts taken (names ++ more.filter (!taken.contains ·)) rest
    else withShortcuts taken names rest

/-- The names of a switch with a name of its own, without names that are taken. -/
def switchNames (arguments : Members) (taken : List Json) (name : Text) :
    Except CommandLineFault (List Json) :=
  let own := Json.str (if isAsked arguments "_cli_kebab_case" then withHyphens name else name)
  let names := if taken.contains own then [] else [own]
  match (given? arguments "_cli_shortcuts").filter Json.isTrue with
  | none => .ok names
  | some (.obj shortcuts) => withShortcuts taken names shortcuts
  | some other => .error (.notShortcuts other.kindName)

/-- A name of a switch with marks before it. -/
def markedName (marks name : Json) : Except CommandLineFault Text :=
  let size? := match name with
    | .str text => some text.length
    | .arr items => some items.length
    | .obj members => some members.length
    | _ => none
  match size? with
  | none => .error (.noLength name.kindName)
  | some size => .ok (marksBefore marks size ++ name.plainText)

/-! ## Switches -/

/-- A name with another one after it that denies it, if it has two marks. -/
def withDenial (name : Text) : List Text :=
  match Text.dropStart? "--" name with
  | some rest => [name, ("--no-" : Text) ++ rest]
  | none => [name]

/-- The switch of a setting. -/
def switchOf (arguments : Members) (setting : String) (dest : Text) (names : List Text) : Switch :=
  if setting = Settings.originsName then ⟨names, .item dest⟩
  else if setting = "DEBUG" && isSet arguments "_cli_implicit_flags" then
    if text? arguments "_cli_implicit_flags" = some "toggle" then ⟨names, .set dest⟩
    else ⟨names.flatMap withDenial, .flag dest⟩
  else ⟨names, .value dest⟩

/-- The switches so far, with the names that are taken. -/
structure Switches where
  switches : List Switch
  taken : List Json

/-- The switches with one more, whose names must be new. -/
def Switches.add (marks : Json) (known : Switches) (names : List Json) (switch : Switch) :
    Except CommandLineFault Switches := do
  for name in switch.names do
    checkName marks (switch.names.length = 1) name
  let others := known.switches.flatMap Switch.names
  let shared := switch.names.filter others.contains
  if shared.isEmpty then return ⟨known.switches ++ [switch], known.taken ++ names⟩
  else .error (.conflict switch shared)

/-- The switches with that of a setting. -/
def Switches.addSetting (arguments : Members) (lead : Json) (known : Switches) (setting : String) :
    Except CommandLineFault Switches := do
  checkNull arguments setting
  let word := if isCaseSensitive arguments then setting else Text.lowerAscii setting
  let dest := lead.plainText ++ word
  let names ← switchNames arguments known.taken dest
  if names.isEmpty || known.taken.contains (.str dest) then return known
  let marked ← names.mapM (markedName (marks arguments))
  known.add (marks arguments) names (switchOf arguments setting dest marked)

/-- How the command line is read. -/
def grammar (arguments : Members) (lead : Json) : Except CommandLineFault Grammar := do
  let marks := marks arguments
  let mark ← helpMark marks
  let help : Switch := ⟨[mark ++ "h", mark ++ mark ++ "help"], .help⟩
  let known ← Switches.add marks ⟨[], []⟩ [] help
  let all ← Settings.names.foldlM (Switches.addSetting arguments lead) known
  return ⟨markChars marks, all.switches⟩

/-! ## Arguments -/

/-- The arguments, if there are any to read. -/
def argumentList? : Json → Except CommandLineFault (Option (List Json))
  | .bool _ => .ok none
  | .arr items => .ok (some items)
  | .int n => if n = 0 then .ok none else .error (.notArguments (Json.int n).kindName)
  | .float x =>
    if (Json.float x).isTrue then .error (.notArguments (Json.float x).kindName) else .ok none
  | other => .error (.notArguments other.kindName)

/-- The text of an argument.  What counts as false is an empty one. -/
def argumentText : Json → Except CommandLineFault Text
  | .str text => .ok text
  | other => if other.isTrue then .error (.notArgument other.kindName) else .ok ""

/-- Whether a code point may be in the name of a switch. -/
def isNamePoint (point : CodePoint) : Bool := !point.isBlank && point ≠ .char '='

/-- The number of code points of the name at the start of an argument with a mark, if it has one. -/
def nameLength (mark : Char) : List CodePoint → Nat
  | .char a :: rest =>
    if a ≠ mark then 0
    else
      let after := rest.drop 1
      if rest.head? = some (.char mark) && after.head?.any isNamePoint then
        2 + (after.takeWhile isNamePoint).length
      else if rest.head?.any isNamePoint then 1 + (rest.takeWhile isNamePoint).length
      else 0
  | _ => 0

/-- An argument with the name of its switch in small letters.  Its later lines are left out then. -/
def lowerName (mark : Char) (argument : Text) : Text :=
  let points := argument.points
  match nameLength mark points with
  | 0 => argument
  | length =>
    (Text.ofPoints (points.take length)).mapStrings Text.lower ++
      .ofPoints ((points.drop length).takeWhile (· ≠ .char '\n'))

/-- Arguments as names are compared. -/
def comparedArguments (arguments : Members) (list : List Json) :
    Except CommandLineFault (List Json) :=
  if isCaseSensitive arguments then .ok list
  else
    match list.mapM argumentText with
    | .error fault => .error fault
    | .ok texts =>
      match (marks arguments).text?.map Text.points with
      | some [.char mark] => .ok (texts.map fun text => .str (lowerName mark text))
      | _ => .ok (texts.map Json.str)

/-! ## Entries -/

/-- The value that switches have given to a name. -/
def givenValue (nullText : Option Text) (name : Text) : Given → Except CommandLineFault Json
  | .many values | .one (.arr values) =>
    ((listText nullText values).map Json.str).mapError (.items name)
  | .one value => .ok value

/-- What the reading of a command line has, if all of it can be used. -/
def usedReading (arguments : Members) (reading : Except Fault Reading) :
    Except Fault (Table Text Given) :=
  match reading with
  | .error fault => .error fault
  | .ok reading =>
    if isSet arguments "_cli_ignore_unknown_args" then .ok reading.given else reading.known

/-- The entries of the arguments in a command line. -/
def commandLineEntries (arguments : Members) (g : Grammar) (list : List Json) :
    Except CommandLineFault Members := do
  let ends := ((given? arguments "_cli_exit_on_error").map Json.isTrue).getD true
  let compared ← comparedArguments arguments list
  let given ← (usedReading arguments (g.read compared)).mapError (.unread · ends)
  given.mapM fun entry => do
    return (entry.1, ← givenValue (commandLineNull arguments).text? entry.1 entry.2)

/-- The rules for the entries of a command line. -/
def commandLineRules (arguments : Members) (lead : Json) : EntryRules where
  source := "CliSettingsSource"
  caseSensitive := isCaseSensitive arguments
  lead := lead
  leadsNames := true
  ignoresEmpty := false
  nullText := (commandLineNull arguments).text?
  parts := none

/-- Checks that a mark can be doubled. -/
def checkMarks : Json → Except CommandLineFault Unit
  | .obj members => .error (.notDoubled (Json.obj members).kindName)
  | _ => .ok ()

/-- The rules and the entries of the command line, if there is one. -/
def commandLine? (arguments : Members) : Except CommandLineFault (Option (EntryRules × Members)) :=
  match given? arguments "_cli_parse_args" with
  | none => .ok none
  | some value => do
    checkMarks (marks arguments)
    let lead ← commandLineLead arguments
    let g ← grammar arguments lead
    let rules := commandLineRules arguments lead
    match ← argumentList? value with
    | none => return some (rules, [])
    | some list => return some (rules, rules.named (← commandLineEntries arguments g list))

end SettingOptions

end GatewayNat
