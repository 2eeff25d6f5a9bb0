import GatewayNat.Table
import GatewayNat.Text.Blank
import GatewayNat.Text.Quoted
import GatewayNat.Text.Utf8

/-!
# Files

The service sees a tree of files under names with slashes.  `normal` gives the
usual form of a name: no empty step and no step that stays in place.  A name
that starts with two slashes, and not with three, keeps both.

A name is looked up step by step, from the root or from the working directory.

* Every place that is left must be a directory.
* The step `..` leads up.  It stays at the root, and it leaves the working
  directory for directories that are there and of which nothing else is known.
* No step has more than `maxStepSize` octets, no name has more than `maxSize`,
  and neither has the character zero.

The tree is a table of entries by `entryName`, the name of a place without the
steps that lead back.  Every directory on the way to an entry has an entry
itself, as long as the tree is made by `put`.

The text of a file is its octets as UTF-8, with every line end a line feed.
-/

namespace GatewayNat

/-- An entry of a tree. -/
inductive Node where
  | file (octets : List UInt8)
  | directory
  deriving DecidableEq, Repr

/-- The entries of a tree by name. -/
abbrev Files := Table String Node

/-- The name of some steps after a root.  Without any it is the name of the working directory. -/
def Files.nameOf (root : String) (steps : List String) : String :=
  let path := root ++ "/".intercalate steps
  if path = "" then "." else path

/-- A place in a tree. -/
structure Location where
  /-- Whether the place is reached from the root. -/
  absolute : Bool
  /-- The steps that lead there, the last one first. -/
  steps : List String
  deriving DecidableEq, Repr

namespace Location

/-- The place one step up. -/
def up (place : Location) : Location :=
  match place.steps with
  | [] => if place.absolute then place else { place with steps := [".."] }
  | step :: above =>
    { place with steps := if step = ".." then ".." :: step :: above else above }

/-- The place after a step. -/
def walk (place : Location) (step : String) : Location :=
  if step = ".." then place.up else { place with steps := step :: place.steps }

/-- The name of a place. -/
def name (place : Location) : String :=
  Files.nameOf (if place.absolute then "/" else "") place.steps.reverse

/-- Whether a place is the root, the working directory or above that one. -/
def isGiven (place : Location) : Bool := place.steps.all (· = "..")

end Location

namespace Files

/-! ## Names -/

/-- The slashes that a name starts with, as far as they count. -/
def root (path : String) : String :=
  match path.toList with
  | '/' :: '/' :: '/' :: _ => "/"
  | '/' :: '/' :: _ => "//"
  | '/' :: _ => "/"
  | _ => ""

/-- The steps of a name that lead somewhere. -/
def steps (path : String) : List String :=
  ((Text.splitOn '/' path.toList).map String.ofList).filter fun step => step ≠ "" && step ≠ "."

/-- The usual form of a name. -/
def normal (path : String) : String := nameOf (root path) (steps path)

/-- The usual form of a name that may have lone surrogates. -/
def normalText (name : Text) : Text :=
  let steps : List Text := ((Text.splitOn (.char '/') name.points).map Text.ofPoints).filter
    fun step => step ≠ (.ofString "") && step ≠ (.ofString ".")
  let path := root name.start ++ Text.join "/" steps
  if path = "" then "." else path

/-- The place where a name starts. -/
def start (path : String) : Location := ⟨root path ≠ "", []⟩

/-- The place that a name leads to. -/
def place (path : String) : Location := (steps path).foldl Location.walk (start path)

/-- The name of the entry that a name leads to. -/
def entryName (path : String) : String := (place path).name

/-- Whether a name is that of a directory or lies below it. -/
def isWithin (directory path : String) : Bool :=
  path = directory || (directory.toList ++ ['/']).isPrefixOf path.toList

/-! ## Looking up -/

/-- Why a name cannot be used. -/
inductive Fault where
  | absent
  | exists
  /-- The name goes on below a file. -/
  | belowFile
  | isDirectory
  | tooLong
  | zeroCharacter
  deriving DecidableEq, Repr

/-- The wording of a fault of a name. -/
def Fault.message (path : String) : Fault → String
  | .absent => "[Errno 2] No such file or directory: " ++ Text.quoted path
  | .exists => "[Errno 17] File exists: " ++ Text.quoted path
  | .belowFile => "[Errno 20] Not a directory: " ++ Text.quoted path
  | .isDirectory => "[Errno 21] Is a directory: " ++ Text.quoted path
  | .tooLong => "[Errno 36] File name too long: " ++ Text.quoted path
  | .zeroCharacter => "embedded null byte"

/-- The greatest number of octets of a step. -/
def maxStepSize : Nat := 255

/-- The greatest number of octets of a name. -/
def maxSize : Nat := 4095

/-- The entry of a place. -/
def at? (files : Files) (place : Location) : Option Node :=
  if place.isGiven then some .directory else files.find? place.name

/-- Looks for the entry that steps from a place lead to. -/
def lookFrom (files : Files) (place : Location) : List String → Except Fault Node
  | [] =>
    match files.at? place with
    | some node => .ok node
    | none => .error .absent
  | step :: rest =>
    match files.at? place with
    | none => .error .absent
    | some (.file _) => .error .belowFile
    | some .directory =>
      if maxStepSize < step.utf8ByteSize then .error .tooLong
      else files.lookFrom (place.walk step) rest

/-- Looks a name up. -/
def look (files : Files) (path : String) : Except Fault Node :=
  if path.toList.contains '\x00' then .error .zeroCharacter
  else if maxSize < (normal path).utf8ByteSize then .error .tooLong
  else files.lookFrom (start path) (steps path)

/-- The octets of a file. -/
def octets (files : Files) (path : String) : Except Fault (List UInt8) :=
  match files.look path with
  | .ok (.file octets) => .ok octets
  | .ok .directory => .error .isDirectory
  | .error fault => .error fault

/-! ## Changing the tree -/

/-- The tree with directories at a place and at all places on the way, where nothing is yet. -/
def addDirectories (files : Files) (absolute : Bool) : List String → Files
  | [] => files
  | step :: above =>
    let place : Location := ⟨absolute, step :: above⟩
    let outer := files.addDirectories absolute above
    if (outer.at? place).isSome then outer else outer.set place.name .directory

/-- The tree with an entry put at the end of a name. -/
def put (files : Files) (path : String) (node : Node) : Files :=
  (files.addDirectories (place path).absolute ((place path).steps.drop 1)).set (entryName path) node

/-- The tree without what a name leads to and without everything below. -/
def remove (files : Files) (path : String) : Files :=
  files.filter fun entry => !isWithin (entryName path) entry.1

/-- The tree with octets added to the end of a file. -/
def append (files : Files) (name : String) (more : List UInt8) : Files :=
  match files.find? name with
  | some (.file octets) => files.set name (.file (octets ++ more))
  | _ => files

/-- A tree from the names of its entries. -/
def ofList (entries : List (String × Node)) : Files :=
  entries.foldl (fun files entry => files.put entry.1 entry.2) []

/-! ## Texts -/

/-- Every line end as a line feed. -/
def lineFeeds : List Char → List Char
  | [] => []
  | '\r' :: '\n' :: rest => '\n' :: lineFeeds rest
  | '\r' :: rest => '\n' :: lineFeeds rest
  | c :: rest => c :: lineFeeds rest

/-- A text with every line end a line feed. -/
def withLineFeeds (text : String) : String := String.ofList (lineFeeds text.toList)

/-- The text of a file's octets. -/
def textOf (octets : List UInt8) : Except Text.Utf8.Fault String :=
  (Text.Utf8.decode octets).map withLineFeeds

end Files

end GatewayNat
