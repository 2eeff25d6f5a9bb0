import GatewayNat.Json.Shown
import GatewayNat.Text.Digit

/-!
# Command lines

A command line is a list of arguments, which should be texts.  A grammar says
how it is read.  It has switches with their names and uses, and it has marks.

* An argument that is the name of a switch is that switch.  An argument may also
  be a name, an equals sign and a value.
* A name of a mark and one other character may have its value right behind it.
  A switch without a value may have the characters of further switches there.
* Any other argument with a mark in front is an unknown switch, unless it is a
  negative number or has a blank in it.
* The argument after a switch that needs a value is that value.
* All other arguments are loose, and so is everything from `--` on.  That itself
  is no value.

What is told apart first is all arguments, then the switches are used in order.
An argument that is no text can be a value only if it counts as false.
-/

namespace GatewayNat.CommandLine

/-! ## Grammars -/

/-- What a switch is used for. -/
inductive Use where
  /-- It gives its value to a name. -/
  | value (dest : Text)
  /-- It adds its value to those of a name. -/
  | item (dest : Text)
  /-- It makes a name true, or false if the name of the switch denies it. -/
  | flag (dest : Text)
  /-- It makes a name true. -/
  | set (dest : Text)
  /-- It asks for help and ends the reading. -/
  | help
  deriving DecidableEq, Repr

/-- Whether a use needs a value. -/
def Use.needsValue : Use → Bool
  | .value _ | .item _ => true
  | .flag _ | .set _ | .help => false

/-- A switch. -/
structure Switch where
  names : List Text
  use : Use
  deriving DecidableEq, Repr

/-- The names of a switch in messages. -/
def Switch.title (switch : Switch) : Text := Text.join "/" switch.names

/-- How command lines are read. -/
structure Grammar where
  /-- The characters that the names of switches start with. -/
  marks : List Char
  switches : List Switch
  deriving DecidableEq, Repr

namespace Grammar

/-- The switches by their names. -/
def named (g : Grammar) : Table Text Switch :=
  .ofList (g.switches.flatMap fun switch => switch.names.map fun name => (name, switch))

/-- Whether a code point is a mark. -/
def isMark (g : Grammar) (point : CodePoint) : Bool := point.isIn g.marks.contains

end Grammar

/-! ## Faults -/

/-- Why a command line cannot be read. -/
inductive Fault where
  /-- An argument of a kind has no parts. -/
  | noParts (kind : String)
  /-- An argument has names instead of parts. -/
  | noFirstPart
  /-- The first part of an argument is of a kind that is no text. -/
  | notText (kind : String)
  /-- An argument of a kind is no name. -/
  | notName (kind : String)
  /-- An argument may be several names. -/
  | ambiguous (argument : Text) (names : List Text)
  /-- A switch has no value. -/
  | noValue (switch : Switch)
  /-- A switch has a value that it does not need. -/
  | unusedValue (switch : Switch) (value : Text)
  | unknown (arguments : List Text)
  /-- The unknown argument at an index is of a kind that is no text. -/
  | notJoined (index : Nat) (kind : String)
  | help
  deriving DecidableEq, Repr

/-- The wording of a fault. -/
def Fault.message : Fault → Text
  | .noParts kind => "'" ++ kind ++ "' object is not subscriptable"
  | .noFirstPart => "0"
  | .notText kind => "'in <string>' requires string as left operand, not " ++ kind
  | .notName kind => "unhashable type: '" ++ kind ++ "'"
  | .ambiguous argument names =>
    "ambiguous option: " ++ argument ++ " could match " ++ Text.join ", " names
  | .noValue switch => "argument " ++ switch.title ++ ": expected one argument"
  | .unusedValue switch value =>
    "argument " ++ switch.title ++ ": ignored explicit argument " ++ Text.quoted value
  | .unknown arguments => "unrecognized arguments: " ++ Text.join " " arguments
  | .notJoined index kind =>
    "sequence item " ++ toString index ++ ": expected str instance, " ++ kind ++ " found"
  | .help => "0"

/-- Whether a fault is one of the command line and not of its arguments' kinds. -/
def Fault.isReported : Fault → Bool
  | .ambiguous _ _ | .noValue _ | .unusedValue _ _ | .unknown _ => true
  | _ => false

/-! ## Telling arguments apart -/

/-- An argument with the name of a switch. -/
structure Found where
  /-- The switch, unless it is unknown. -/
  switch : Option Switch
  name : Text
  /-- The value in the same argument, and whether an equals sign is before it. -/
  joined : Option (Bool × Text)
  deriving DecidableEq, Repr

/-- What an argument is. -/
inductive Piece where
  | loose
  | separator
  | found (found : Found)
  deriving DecidableEq, Repr

/-- Whether characters are digits, or digits with a point before the last ones. -/
def isNumber (points : List CodePoint) : Bool :=
  let isDigit : CodePoint → Bool := CodePoint.isIn Text.isDigit
  match points.dropWhile isDigit with
  | [] => !points.isEmpty
  | .char '.' :: rest => !rest.isEmpty && rest.all isDigit
  | _ => false

/-- Whether a text is a negative number.  A line end after it does not count. -/
def isNegativeNumber (t : Text) : Bool :=
  match t.points with
  | .char '-' :: rest =>
    isNumber (if rest.getLast? = some (.char '\n') then rest.dropLast else rest)
  | _ => false

/-- The two sides of the first equals sign. -/
def splitEquals (t : Text) : Option (Text × Text) :=
  let points := t.points
  match points.dropWhile (· ≠ .char '=') with
  | [] => none
  | _ :: after => some (.ofPoints (points.takeWhile (· ≠ .char '=')), .ofPoints after)

namespace Grammar

/-- The switches whose names an argument starts with or is the start of. -/
def candidates (g : Grammar) (argument : Text) : List Found :=
  match argument.points with
  | a :: b :: rest =>
    if g.isMark b then []
    else
      g.named.filterMap fun entry =>
        if entry.1 = .ofPoints [a, b] then
          some ⟨some entry.2, entry.1, some (false, .ofPoints rest)⟩
        else if argument.points.isPrefixOf entry.1.points then some ⟨some entry.2, entry.1, none⟩
        else none
  | _ => []

/-- What an argument with a mark in front is that is not just a name. -/
def tellUnnamed (g : Grammar) (argument : Text) : Except Fault Piece :=
  match g.candidates argument with
  | [found] => .ok (.found found)
  | [] =>
    if isNegativeNumber argument && !(g.named.names.any isNegativeNumber) then .ok .loose
    else if argument.points.contains (.char ' ') then .ok .loose
    else .ok (.found ⟨none, argument, none⟩)
  | several => .error (.ambiguous argument (several.map Found.name))

/-- What an argument with a mark in front is. -/
def tellMarked (g : Grammar) (argument : Text) : Except Fault Piece :=
  match g.named.find? argument with
  | some switch => .ok (.found ⟨some switch, argument, none⟩)
  | none =>
    if argument.length = 1 then .ok .loose
    else
      match splitEquals argument with
      | none => g.tellUnnamed argument
      | some (name, value) =>
        match g.named.find? name with
        | some switch => .ok (.found ⟨some switch, name, some (true, value)⟩)
        | none => g.tellUnnamed argument

/-- What an argument is. -/
def tell (g : Grammar) : Json → Except Fault Piece
  | .str argument =>
    match argument.points with
    | [] => .ok .loose
    | point :: _ => if g.isMark point then g.tellMarked argument else .ok .loose
  | .arr (.str first :: _) =>
    match first.points with
    | [] => .error (.notName (Json.arr []).kindName)
    | [point] => if g.isMark point then .error (.notName (Json.arr []).kindName) else .ok .loose
    | _ => .ok .loose
  | .arr (first :: _) => .error (.notText first.kindName)
  | .obj (_ :: _) => .error .noFirstPart
  | other => if other.isTrue then .error (.noParts other.kindName) else .ok .loose

/-- What all arguments are. -/
def tellAll (g : Grammar) : List Json → Except Fault (List (Json × Piece))
  | [] => .ok []
  | argument :: rest =>
    if argument = .str "--" then
      .ok ((argument, .separator) :: rest.map fun other => (other, .loose))
    else
      match g.tell argument with
      | .error fault => .error fault
      | .ok piece => (g.tellAll rest).map ((argument, piece) :: ·)

end Grammar

/-! ## Using switches -/

/-- What switches have given to a name. -/
inductive Given where
  | one (value : Json)
  | many (values : List Json)
  deriving DecidableEq, Repr

/-- What has been read of a command line. -/
structure Reading where
  given : Table Text Given
  /-- The arguments that belong to no switch. -/
  unknown : List Json
  deriving DecidableEq, Repr

/-- Whether a name of a switch denies what it is about. -/
def isDenial (name : Text) : Bool := (Text.dropStart? "--no-" name).isSome

/-- A switch to be used, with its name in the command line and its value if it has one. -/
structure Step where
  switch : Switch
  name : Text
  value : Option Json
  deriving DecidableEq, Repr

namespace Reading

/-- The reading after a loose argument or an unknown switch. -/
def leave (argument : Json) (r : Reading) : Reading :=
  { r with unknown := r.unknown ++ [argument] }

/-- The values that a name has so far. -/
def items (r : Reading) (dest : Text) : List Json :=
  match r.given.find? dest with
  | some (.many values) => values
  | _ => []

/-- The reading after a switch is used. -/
def use (r : Reading) (step : Step) : Except Fault Reading :=
  let value := step.value.getD .null
  match step.switch.use with
  | .value dest => .ok { r with given := r.given.set dest (.one value) }
  | .item dest => .ok { r with given := r.given.set dest (.many (r.items dest ++ [value])) }
  | .flag dest => .ok { r with given := r.given.set dest (.one (.bool !isDenial step.name)) }
  | .set dest => .ok { r with given := r.given.set dest (.one (.bool true)) }
  | .help => .error .help

/-- The reading after several switches are used. -/
def useAll (r : Reading) : List Step → Except Fault Reading
  | [] => .ok r
  | step :: rest =>
    match r.use step with
    | .error fault => .error fault
    | .ok next => next.useAll rest

end Reading

/-- What an argument with several switches comes to. -/
structure Cluster where
  steps : List Step
  /-- What is left of the argument. -/
  unknown : Option Text
  /-- The last switch, if its value would be the next argument. -/
  last : Option (Switch × Text)
  deriving DecidableEq, Repr

namespace Grammar

/-- Takes apart what follows the name of a switch in its argument, after the given steps. -/
def cluster (g : Grammar) (mark : CodePoint) (steps : List Step) (switch : Switch) (name : Text)
    (equals : Bool) (value : List CodePoint) : Except Fault Cluster :=
  if switch.use.needsValue then
    .ok ⟨steps ++ [⟨switch, name, some (.str (.ofPoints value))⟩], none, none⟩
  else
    match value with
    | [] => .error (.unusedValue switch "")
    | point :: rest =>
      if ((name.points.drop 1).head?.any g.isMark) || equals || g.isMark point then
        .error (.unusedValue switch (.ofPoints (point :: rest)))
      else
        let done := steps ++ [⟨switch, name, none⟩]
        let next := Text.ofPoints [mark, point]
        match g.named.find? next with
        | none => .ok ⟨done, some (.ofPoints (mark :: point :: rest)), none⟩
        | some further =>
          match rest with
          | [] => .ok ⟨done, none, some (further, next)⟩
          | .char '=' :: more => g.cluster mark done further next true more
          | other :: more => g.cluster mark done further next false (other :: more)
termination_by value.length

/-- What an argument with the name of a known switch comes to. -/
def clusterOf (g : Grammar) (switch : Switch) (found : Found) : Except Fault Cluster :=
  match found.joined, found.name.points with
  | some (equals, value), mark :: _ => g.cluster mark [] switch found.name equals value.points
  | _, _ => .ok ⟨[], none, some (switch, found.name)⟩

/-- The reading after the arguments that have been told apart. -/
def readFrom (g : Grammar) (r : Reading) : List (Json × Piece) → Except Fault Reading
  | [] => .ok r
  | (argument, .loose) :: rest | (argument, .separator) :: rest =>
    g.readFrom (r.leave argument) rest
  | (argument, .found found) :: rest =>
    match found.switch with
    | none => g.readFrom (r.leave argument) rest
    | some switch =>
      match g.clusterOf switch found with
      | .error fault => .error fault
      | .ok cluster =>
        let r := cluster.unknown.elim r fun text => r.leave (.str text)
        match cluster.last with
        | none =>
          match r.useAll cluster.steps with
          | .error fault => .error fault
          | .ok next => g.readFrom next rest
        | some (last, name) =>
          if last.use.needsValue then
            match rest with
            | (value, .loose) :: more =>
              match r.useAll (cluster.steps ++ [⟨last, name, some value⟩]) with
              | .error fault => .error fault
              | .ok next => g.readFrom next more
            | _ => .error (.noValue last)
          else
            match r.useAll (cluster.steps ++ [⟨last, name, none⟩]) with
            | .error fault => .error fault
            | .ok next => g.readFrom next rest

/-- Reads a command line. -/
def read (g : Grammar) (arguments : List Json) : Except Fault Reading :=
  match g.tellAll arguments with
  | .error fault => .error fault
  | .ok pieces => g.readFrom ⟨[], []⟩ pieces

end Grammar

/-- The texts of arguments from an index on, or the first argument that is none. -/
def textsFrom (index : Nat) : List Json → Except Fault (List Text)
  | [] => .ok []
  | .str text :: rest => (textsFrom (index + 1) rest).map (text :: ·)
  | other :: _ => .error (.notJoined index other.kindName)

/-- What switches have given to names if no argument is unknown. -/
def Reading.known (r : Reading) : Except Fault (Table Text Given) :=
  if r.unknown.isEmpty then .ok r.given
  else
    match textsFrom 0 r.unknown with
    | .error fault => .error fault
    | .ok texts => .error (.unknown texts)

end GatewayNat.CommandLine
