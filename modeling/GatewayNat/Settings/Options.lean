import GatewayNat.EnvFile
import GatewayNat.Json.Shown
import GatewayNat.Text.Codec.Names

/-!
# Options of settings

Some arguments are no settings.  They are options for the sources of settings,
and null stands for the absence of an option.

* `_build_sources` is a list of sources with a second value.  Without any source
  all settings have their defaults, and no value can be a source.
* `_env_file` is the name of an env file or a list of names, and null means that
  there is none.  Names that lead to no file are skipped, and the later files
  have the say.  `_env_file_encoding` is the name of their codec, and
  `_env_file_depth` is a number.
* `_secrets_dir` is the name of a directory or a list of names.  Names that lead
  nowhere are skipped, and the directories hold no settings.

The other options are about entries and about the command line.

An option that is a truth value may have any value: null, false, zero and what
is empty are false.

The first step of a name may lead to a home directory.  The step `~` leads to
the one that the environment names, and `~` with a user to the one of the user.
-/

namespace GatewayNat

/-- Why options cannot be used. -/
inductive OptionFault where
  /-- An argument has the name that the settings themselves have. -/
  | ownName
  /-- A value of a kind should be a pair. -/
  | notPair (kind : String)
  /-- There are fewer values than the two of a pair. -/
  | tooFewParts (count : Nat)
  | tooManyParts
  /-- A value of a kind should be a source. -/
  | notSource (kind : String)
  /-- A value of a kind should be a list. -/
  | notItems (kind : String)
  /-- A value of a kind should be a number. -/
  | notNumber (kind : String)
  /-- A value of a kind should be a number that can be compared. -/
  | notDepth (kind : String)
  /-- A number of parts has a fraction. -/
  | notWhole
  | tooLarge
  /-- A value of a kind should be the text between parts. -/
  | notSeparator (kind : String)
  /-- A value of a kind stands before names. -/
  | noLength (kind : String)
  /-- A value of a kind should be the start of a name. -/
  | notStart (kind : String)
  /-- A source can form the name of no entry, so it does not find a setting. -/
  | noEntryName (setting source : String)
  /-- A value of a kind should be a name. -/
  | notPath (kind : String)
  | noHome
  | zeroCharacter
  | tooLong (path : String)
  /-- A value of a kind should be the name of a codec. -/
  | notCodecName (kind : String)
  | unknownCodec (name : String)
  /-- The name is that of a codec which is not about text. -/
  | notTextCodec (name : String)
  /-- The name of a codec has the character zero. -/
  | zeroInCodecName
  | secretsInFile
  deriving DecidableEq, Repr

/-- The wording of a fault of options. -/
def OptionFault.message : OptionFault → String
  | .ownName => "BaseSettings.__init__() got multiple values for argument '__pydantic_self__'"
  | .notPair kind => "cannot unpack non-iterable " ++ kind ++ " object"
  | .tooFewParts count =>
    "not enough values to unpack (expected 2, got " ++ toString count ++ ")"
  | .tooManyParts => "too many values to unpack (expected 2)"
  | .notSource kind => "'" ++ kind ++ "' object is not callable"
  | .notItems kind => "'" ++ kind ++ "' object is not iterable"
  | .notNumber kind => "unsupported operand type(s) for -: '" ++ kind ++ "' and 'int'"
  | .notDepth kind => "'<=' not supported between instances of '" ++ kind ++ "' and 'int'"
  | .notWhole => "'float' object cannot be interpreted as an integer"
  | .tooLarge => "Python int too large to convert to C ssize_t"
  | .notSeparator kind => "must be str or None, not " ++ kind
  | .noLength kind => "object of type '" ++ kind ++ "' has no len()"
  | .notStart kind => "startswith first arg must be str or a tuple of str, not " ++ kind
  | .noEntryName setting source =>
    "error getting value for field \"" ++ setting ++ "\" from source \"" ++ source ++ "\""
  | .notPath kind => "expected str, bytes or os.PathLike object, not " ++ kind
  | .noHome => "Could not determine home directory."
  | .zeroCharacter => "embedded null byte"
  | .tooLong path => Files.Fault.tooLong.message path
  | .notCodecName kind => "open() argument 'encoding' must be str or None, not " ++ kind
  | .unknownCodec name => "unknown encoding: " ++ name
  | .notTextCodec name =>
    "'" ++ name ++ "' is not a text encoding; use codecs.open() to handle arbitrary codecs"
  | .zeroInCodecName => "embedded null character"
  | .secretsInFile => "secrets_dir must reference a directory, not a file"

namespace SettingOptions

/-- An option that is not null. -/
def given? (arguments : Members) (name : String) : Option Json :=
  (arguments.find? name).filter (· ≠ .null)

/-- Whether an option counts as true. -/
def isSet (arguments : Members) (name : String) : Bool := (given? arguments name).any Json.isTrue

/-- An option that is a text. -/
def text? (arguments : Members) (name : String) : Option Text :=
  (given? arguments name).bind Json.text?

/-- Whether names count as they are written. -/
def isCaseSensitive (arguments : Members) : Bool :=
  ((given? arguments "_case_sensitive").map Json.isTrue).getD true

/-! ## Given sources -/

/-- Checks that there are no sources in a list of them. -/
def checkSources (value : Json) : Except OptionFault Unit :=
  match value.parts? with
  | none => .error (.notItems value.kindName)
  | some [] => .ok ()
  | some (first :: _) => .error (.notSource first.kindName)

/-- Checks that an option is a pair, and that there are no sources in its first part. -/
def checkBuilt (value : Json) : Except OptionFault Unit :=
  match value.parts? with
  | none => .error (.notPair value.kindName)
  | some [sources, _] => checkSources sources
  | some (_ :: _ :: _ :: _) => .error .tooManyParts
  | some parts => .error (.tooFewParts parts.length)

/-- Whether the sources are given, of which there are none then. -/
def hasNoSources (arguments : Members) : Except OptionFault Bool :=
  if arguments.has "__pydantic_self__" then .error .ownName
  else
    match given? arguments "_build_sources" with
    | none => .ok false
    | some value => (checkBuilt value).map fun _ => true

/-! ## Names of files -/

/-- The home directory of users that the environment does not name. -/
def defaultHome : String := "/root"

/-- The users that are known without the environment. -/
def knownUsers : List String := ["root", "daemon", "bin", "nobody"]

/-- A name without slashes at its end, which is the root if nothing is left. -/
def rootedHome (home : String) : String :=
  let rest := (home.toList.reverse.dropWhile (· = '/')).reverse
  if rest.isEmpty then "/" else String.ofList rest

/-- The home directory of a user, or of the user that the environment names. -/
def homeOf (environment : Environment) (user : String) : Except OptionFault String :=
  if user.toList.contains '\x00' then .error .zeroCharacter
  else
    let home? :=
      if user = "" then
        some (rootedHome (((environment.find? "HOME").bind Text.toString?).getD defaultHome))
      else if knownUsers.contains user then some defaultHome
      else none
    match home? with
    | none => .error .noHome
    | some home => if home.toList.head? = some '~' then .error .noHome else .ok home

/-- The name that leads on from a home directory. -/
def fromHome (home : String) (steps : List String) : String :=
  if steps.isEmpty then home
  else (if home = "/" then home else home ++ "/") ++ "/".intercalate steps

/-- A name with its home directory. -/
def expandHome (environment : Environment) (path : String) : Except OptionFault String :=
  match Files.root path, Files.steps path with
  | "", step :: rest =>
    match step.toList with
    | '~' :: user => (homeOf environment (String.ofList user)).map fun home => fromHome home rest
    | _ => .ok path
  | _, _ => .ok path

/-- The values in an option that is a name or a list of names. -/
def pathValues : Json → Except OptionFault (List Json)
  | .str s => .ok [.str s]
  | .arr items => .ok items
  | .obj members => .ok ((Table.names members).map Json.str)
  | other => .error (.notItems other.kindName)

/-- The name that a value is.  A text with lone surrogates names nothing. -/
def pathOf (environment : Environment) : Json → Except OptionFault (Option String)
  | .str s =>
    match s.toString? with
    | none => .ok none
    | some path => (expandHome environment path).map some
  | other => .error (.notPath other.kindName)

/-- What a name leads to, if it leads anywhere. -/
def lookAt (files : Files) : Option String → Except OptionFault (Option Node)
  | none => .ok none
  | some path =>
    match files.look path with
    | .ok node => .ok (some node)
    | .error .tooLong => .error (.tooLong (Files.normal path))
    | .error _ => .ok none

/-! ## Env files -/

/-- The name of the env file. -/
def envFileName : String := ".env"

/-- The values that name the env files. -/
def envFiles (arguments : Members) : Except OptionFault (List Json) :=
  match arguments.find? "_env_file" with
  | none => .ok [.str envFileName]
  | some .null => .ok []
  | some value => pathValues value

/-- Checks the option that should be a number of directories. -/
def checkDepth (arguments : Members) : Except OptionFault Unit :=
  match given? arguments "_env_file_depth" with
  | none | some (.int _) | some (.float _) | some (.bool _) => .ok ()
  | some other => .error (.notDepth other.kindName)

/-- What the name of an env file leads to. -/
def envFileAt (files : Files) (environment : Environment) (arguments : Members) (value : Json) :
    Except OptionFault (Option Node) := do
  let path ← pathOf environment value
  checkDepth arguments
  lookAt files path

/-- The codec of a name. -/
def codecOf (name : String) : Except OptionFault Text.Codec :=
  if name.toList.contains '\x00' then .error .zeroInCodecName
  else
    match Text.Codec.ofName? name with
    | some codec => .ok codec
    | none =>
      if Text.Codec.isTextless name then .error (.notTextCodec name)
      else .error (.unknownCodec name)

/-- The codec of env files. -/
def codec (arguments : Members) : Except OptionFault Text.Codec :=
  match given? arguments "_env_file_encoding" with
  | none => .ok .utf8
  | some (.str name) => codecOf (name.toString?.getD "")
  | some other => .error (.notCodecName other.kindName)

/-! ## Secrets -/

/-- Whether an entry of a tree is a file. -/
def isFile : Option Node → Bool
  | some (.file _) => true
  | _ => false

/-- Checks the option of secrets. -/
def checkSecrets (files : Files) (environment : Environment) (arguments : Members) :
    Except OptionFault Unit :=
  match given? arguments "_secrets_dir" with
  | none => .ok ()
  | some value => do
    let paths ← (← pathValues value).mapM (pathOf environment)
    let nodes ← paths.mapM (lookAt files)
    if nodes.any isFile then .error .secretsInFile else .ok ()

end SettingOptions

end GatewayNat
