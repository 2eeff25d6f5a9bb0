import GatewayNat.Table
import GatewayNat.Text.Blank
import GatewayNat.Text.Case
import GatewayNat.Text.Quoted

/-!
# Journal

The program keeps a journal of records.  A record has a component, a level and a
message.

A journal keeps the records from some rank on.  The rank is chosen by the name
of a level, in capitals or not, and an unknown name chooses the rank of `INFO`.
The names of the line layout and of the table of layouts are taken.  What they
stand for is no level.
-/

namespace GatewayNat.Journal

/-- The levels of records. -/
inductive Level where
  | debug
  | info
  | warning
  | error
  deriving DecidableEq, Repr

/-- The rank of a level. -/
def Level.rank : Level → Nat
  | .debug => 10
  | .info => 20
  | .warning => 30
  | .error => 40

/-- The name of a level. -/
def Level.name : Level → String
  | .debug => "DEBUG"
  | .info => "INFO"
  | .warning => "WARNING"
  | .error => "ERROR"

/-- The components that write records. -/
inductive Component where
  | application
  | compiler
  | resolver
  | directoryFile
  | directoryProvider
  | requests
  | compileEndpoint
  | healthEndpoint
  deriving DecidableEq, Repr

/-- The name of a component. -/
def Component.name : Component → String
  | .application => "edge_nat.main"
  | .compiler => "edge_nat.services.nat_service"
  | .resolver => "edge_nat.services.interface_resolver"
  | .directoryFile => "edge_nat.services.gateway_directory"
  | .directoryProvider => "edge_nat.core.directory"
  | .requests => "edge_nat.middleware.request_logging"
  | .compileEndpoint => "edge_nat.api.v1.endpoints.nat"
  | .healthEndpoint => "edge_nat.api.v1.endpoints.health"

/-- A record. -/
structure Record where
  component : Component
  level : Level
  message : Text
  deriving DecidableEq, Repr

/-- A record with a message of any number of lines. -/
def Record.shown (record : Record) : Text :=
  record.component.name ++ " - " ++ record.level.name ++ " - " ++ record.message

/-- Whether a journal that starts at a rank keeps a record. -/
def Record.keptAt (threshold : Nat) (record : Record) : Bool :=
  decide (threshold ≤ record.level.rank)

/-! ## Choosing a rank -/

/-- The ranks by the names of levels. -/
def ranks : Table String Nat :=
  [("NOTSET", 0), ("DEBUG", 10), ("INFO", 20), ("WARN", 30), ("WARNING", 30), ("ERROR", 40),
    ("FATAL", 50), ("CRITICAL", 50)]

/-- What a taken name stands for. -/
inductive Taken where
  | layout
  | layoutTable
  deriving DecidableEq, Repr

/-- The names that are taken. -/
def takenNames : Table String Taken := [("BASIC_FORMAT", .layout), ("_STYLES", .layoutTable)]

/-- The rank that a name chooses, or what the name stands for instead of a level. -/
def threshold (name : Text) : Except Taken Nat :=
  let word? := name.toString?.map Text.upper
  match word?.bind takenNames.find? with
  | some taken => .error taken
  | none => .ok ((word?.bind ranks.find?).getD Level.info.rank)

/-- The line layouts, by the character that names their parts and with their kinds. -/
def layouts : List (String × String × String) :=
  [("%", "PercentStyle", "%(levelname)s:%(name)s:%(message)s"),
    ("\x7b", "StrFormatStyle", "\x7blevelname\x7d:\x7bname\x7d:\x7bmessage\x7d"),
    ("$", "StringTemplateStyle", "$\x7blevelname\x7d:$\x7bname\x7d:$\x7bmessage\x7d")]

/-- The entry of a line layout in the wording for the table of layouts. -/
def layoutEntry (layout : String × String × String) : String :=
  Text.quoted layout.1 ++ ": (<class 'logging." ++ layout.2.1 ++ "'>, " ++
    Text.quoted layout.2.2 ++ ")"

/-- The wording for what is no level. -/
def Taken.message : Taken → String
  | .layout => "Unknown level: " ++ Text.quoted "%(levelname)s:%(name)s:%(message)s"
  | .layoutTable =>
    "Level not an integer or a valid string: \x7b" ++ ", ".intercalate (layouts.map layoutEntry) ++
      "\x7d"

end GatewayNat.Journal
