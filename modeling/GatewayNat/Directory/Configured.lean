import GatewayNat.Directory.Static

/-!
# The configured directory

A service may be configured with the name of a directory file.  A use of the
configured directory loads the file, unless an earlier use did so and the result
was not forgotten since.  A load that fails changes nothing, so the next use
reads the file again.
-/

namespace GatewayNat

/-- The configured directory file, and what a use loaded from it. -/
structure ConfiguredDirectory where
  /-- The name of the file, if one is configured. -/
  path : Option Text
  loaded : Option StaticDirectory
  deriving DecidableEq, Repr

/-- What a use of the configured directory finds. -/
inductive Provision where
  /-- No file is configured. -/
  | unset
  | failed (error : LoadError)
  | ready (directory : StaticDirectory)
  deriving DecidableEq, Repr

/-- The outcome of a use. -/
structure Provided where
  provision : Provision
  records : List Journal.Record
  configured : ConfiguredDirectory
  deriving DecidableEq, Repr

namespace ConfiguredDirectory

/-- The configured directory before its first use.  An empty name configures nothing. -/
def ofSetting (path : Option Text) : ConfiguredDirectory :=
  ⟨path.filter (· ≠ ""), none⟩

/-- Uses the configured directory. -/
def use (files : Files) (c : ConfiguredDirectory) : Provided :=
  match c.path, c.loaded with
  | none, _ => ⟨.unset, [], c⟩
  | some _, some directory => ⟨.ready directory, [], c⟩
  | some path, none =>
    match StaticDirectory.loadNamed files path with
    | .ok directory =>
      ⟨.ready directory, [StaticDirectory.loadedRecord path directory],
        { c with loaded := some directory }⟩
    | .error error => ⟨.failed error, [], c⟩

/-- Forgets what was loaded. -/
def forget (c : ConfiguredDirectory) : ConfiguredDirectory := { c with loaded := none }

end ConfiguredDirectory

end GatewayNat
