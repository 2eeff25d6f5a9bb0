import GatewayNat.Service.Basic
import GatewayNat.Text.Case

/-!
# Boot

A service boots from an environment and a tree of files.

* The env file is copied into the environment, which keeps what it has.  The
  environment may forbid this.
* The settings are read from the new environment and the env file.
* The journal is set up: its rank, and its file with the directories that the
  file lies in.

The first of these steps that fails ends the boot.
-/

namespace GatewayNat

/-! ## The log file -/

/-- Why the journal has no file. -/
inductive LogFileError where
  /-- A directory for the file cannot be made. -/
  | directory (path : String) (fault : Files.Fault)
  /-- The file cannot be opened. -/
  | file (path : String) (fault : Files.Fault)
  deriving DecidableEq, Repr

/-- The fault of a log file error. -/
def LogFileError.fault : LogFileError → Files.Fault
  | .directory _ fault => fault
  | .file _ fault => fault

/-- The wording of a log file error. -/
def LogFileError.message : LogFileError → String
  | .directory _ .zeroCharacter => "mkdir: embedded null character in path"
  | .directory path fault => fault.message path
  | .file path fault => fault.message path

/-- Makes a directory at the end of a name where nothing was before. -/
def newDirectory (files : Files) (path : String) : Except LogFileError Files :=
  match files.look path with
  | .ok .directory => .ok files
  | .error .absent => .ok (files.set (Files.entryName path) .directory)
  | .ok (.file _) => .error (.directory path .exists)
  | .error fault => .error (.directory path fault)

/-- Makes a directory and the directories that it lies in, as far as they are absent.  The steps of
its name come last first. -/
def makeDirectories (files : Files) (root : String) : List String → Except LogFileError Files
  | [] => newDirectory files (Files.nameOf root [])
  | step :: above =>
    let path := Files.nameOf root (step :: above).reverse
    match files.look path with
    | .error .absent =>
      match makeDirectories files root above with
      | .error error => .error error
      | .ok made => newDirectory made path
    | _ => newDirectory files path

/-- Opens a log file, which keeps its text if it is there already. -/
def openLogFile (files : Files) (path : String) : Except LogFileError (Files × String) :=
  match makeDirectories files (Files.root path) ((Files.steps path).reverse.drop 1) with
  | .error error => .error error
  | .ok made =>
    let name := Files.entryName path
    match made.look name with
    | .ok (.file _) => .ok (made, name)
    | .error .absent => .ok (made.put name (.file []), name)
    | .ok .directory => .error (.file name .isDirectory)
    | .error fault => .error (.file name fault)

/-! ## The steps of a boot -/

/-- Why a service does not boot. -/
inductive BootError where
  /-- The env file is not UTF-8. -/
  | undecodable (fault : Text.Utf8.Fault)
  | copy (error : EnvFile.CopyError)
  | settings (error : SettingsError)
  /-- The setting of the journal's rank is a name that is taken. -/
  | level (taken : Journal.Taken)
  | logFile (error : LogFileError)
  deriving DecidableEq, Repr

/-- Whether an environment forbids that the env file is copied into it. -/
def forbidsCopy (environment : Environment) : Bool :=
  ((environment.find? "PYTHON_DOTENV_DISABLED").bind Text.toString?).any fun word =>
    ["1", "true", "t", "yes", "y"].contains (Text.fold word)

/-- The environment after the env file is copied into it. -/
def bootEnvironment (environment : Environment) (files : Files) : Except BootError Environment :=
  if forbidsCopy environment then .ok environment
  else
    match EnvFile.load files SettingOptions.envFileName with
    | .error fault => .error (.undecodable fault)
    | .ok entries => (EnvFile.copyInto environment entries).mapError .copy

/-- The settings that a service boots with. -/
def bootSettings (environment : Environment) (files : Files) : Except BootError Settings :=
  match bootEnvironment environment files with
  | .error error => .error error
  | .ok full => (Settings.load files full []).mapError .settings

/-- The files after the journal is set up, and the name of its own file's entry.  A name with lone
surrogates is that of no entry of a tree, so what is written there is left out. -/
def bootFiles (settings : Settings) (files : Files) :
    Except BootError (Files × Option String) :=
  match settings.logFile.bind Text.toString? with
  | none | some "" => .ok (files, none)
  | some path =>
    match openLogFile files path with
    | .error error => .error (.logFile error)
    | .ok (opened, name) => .ok (opened, some name)

/-- Boots a service. -/
def Service.boot (environment : Environment) (files : Files) : Except BootError Service :=
  match bootSettings environment files with
  | .error error => .error error
  | .ok settings =>
    match Journal.threshold settings.logLevel with
    | .error taken => .error (.level taken)
    | .ok threshold =>
      match bootFiles settings files with
      | .error error => .error error
      | .ok (files, logFile) =>
        .ok
          { settings, threshold, files, logFile
            configured := .ofSetting settings.directoryFile
            standIn := none }

end GatewayNat
