import GatewayNat.Json.Shown
import GatewayNat.Table

/-!
# Notices

A notice is what is told about a compilation that has no document.  It has a
kind and some values, whatever they are, and three views.

* The message shows the values.
* The attributes are the values by name.
* The context has the attributes that help to find the offending intent.  It
  never has null.

`Notice.make` makes a notice of a kind from values by name.  A kind knows its
names.  Only the plainest one takes any further names, which are its context.
A name too many is a fault, the first in order, and so are missing names.
-/

namespace GatewayNat

/-- The kinds of notices. -/
inductive NoticeKind where
  | gatewayNotFound
  | unknownNetwork
  | unsupportedRuleType
  | missingField
  | invalidField
  | idRangeExhausted
  /-- A message and a context, nothing else. -/
  | plain
  deriving DecidableEq, Repr

namespace NoticeKind

/-- All kinds. -/
def all : List NoticeKind :=
  [.gatewayNotFound, .unknownNetwork, .unsupportedRuleType, .missingField, .invalidField,
    .idRangeExhausted, .plain]

/-- The name of a kind. -/
def name : NoticeKind → String
  | .gatewayNotFound => "GatewayNotFoundError"
  | .unknownNetwork => "UnknownNetworkError"
  | .unsupportedRuleType => "UnsupportedRuleTypeError"
  | .missingField => "MissingFieldError"
  | .invalidField => "InvalidFieldError"
  | .idRangeExhausted => "IdRangeExhaustedError"
  | .plain => "NatCompilationError"

/-- The kind of a name. -/
def ofName? (name : String) : Option NoticeKind := all.find? fun kind => kind.name = name

/-- The names of the values that a notice of the kind must have, in order. -/
def required : NoticeKind → List String
  | .gatewayNotFound => ["gateway_id"]
  | .unknownNetwork => ["gateway_id", "network_id"]
  | .unsupportedRuleType => ["index", "rule_type"]
  | .missingField => ["index", "field"]
  | .invalidField => ["index", "field", "reason"]
  | .idRangeExhausted => ["index", "rule_id", "maximum"]
  | .plain => ["message"]

/-- The names of the values that a notice of the kind may have. -/
def optional : NoticeKind → List String
  | .unknownNetwork => ["index"]
  | _ => []

end NoticeKind

/-- What is told about a compilation that has no document. -/
inductive Notice where
  | gatewayNotFound (gateway : Json)
  | unknownNetwork (gateway network rule : Json)
  | unsupportedRuleType (rule value : Json)
  | missingField (rule field : Json)
  | invalidField (rule field reason : Json)
  | idRangeExhausted (rule id maximum : Json)
  | plain (message : Json) (context : Members)
  deriving DecidableEq, Repr

namespace Notice

/-- The kind of a notice. -/
def kind : Notice → NoticeKind
  | .gatewayNotFound _ => .gatewayNotFound
  | .unknownNetwork _ _ _ => .unknownNetwork
  | .unsupportedRuleType _ _ => .unsupportedRuleType
  | .missingField _ _ => .missingField
  | .invalidField _ _ _ => .invalidField
  | .idRangeExhausted _ _ _ => .idRangeExhausted
  | .plain _ _ => .plain

/-! ## Views -/

/-- The message of a notice. -/
def message : Notice → Text
  | .gatewayNotFound gateway => "Edge gateway not found: " ++ gateway.plainText
  | .unknownNetwork gateway network rule =>
    "Edge gateway " ++ gateway.plainText ++ " has no interface on network " ++ network.plainText ++
      (if rule = .null then ("" : Text) else " (rule " ++ rule.plainText ++ ")")
  | .unsupportedRuleType rule value =>
    "Rule " ++ rule.plainText ++ ": unsupported rule_type " ++ value.shown ++
      " (expected SNAT or DNAT)"
  | .missingField rule field =>
    "Rule " ++ rule.plainText ++ ": missing required field '" ++ field.plainText ++ "'"
  | .invalidField rule field reason =>
    (if rule = .null then ("" : Text) else "Rule " ++ rule.plainText ++ ": ") ++
      "invalid field '" ++ field.plainText ++ "': " ++ reason.plainText
  | .idRangeExhausted rule id maximum =>
    "Rule " ++ rule.plainText ++ ": auto-assigned id " ++ id.plainText ++
      " exceeds the NAT id range maximum " ++ maximum.plainText
  | .plain message _ => message.plainText

/-- The attributes of a notice, null for an absent one. -/
def attributes : Notice → Members
  | .gatewayNotFound gateway => [("gateway_id", gateway)]
  | .unknownNetwork gateway network rule =>
    [("gateway_id", gateway), ("network_id", network), ("index", rule)]
  | .unsupportedRuleType rule value => [("index", rule), ("rule_type", value)]
  | .missingField rule field => [("index", rule), ("field", field)]
  | .invalidField rule field reason => [("index", rule), ("field", field), ("reason", reason)]
  | .idRangeExhausted rule id maximum => [("index", rule), ("rule_id", id), ("maximum", maximum)]
  | .plain _ _ => []

/-- The context before null is dropped. -/
def details : Notice → Members
  | .invalidField rule field _ => [("index", rule), ("field", field)]
  | .idRangeExhausted rule id _ => [("index", rule), ("rule_id", id)]
  | .plain _ context => context
  | notice => notice.attributes

/-- The context of a notice. -/
def context (notice : Notice) : Members := notice.details.filter fun entry => entry.2 ≠ .null

/-! ## Making notices -/

/-- Why values by name are no notice of a kind. -/
inductive ArgumentFault where
  | unexpected (kind : NoticeKind) (name : Text)
  /-- The name is that of the notice itself. -/
  | reserved (kind : NoticeKind) (name : Text)
  | missing (kind : NoticeKind) (first : String) (more : List String)
  deriving DecidableEq, Repr

/-- Names between quotes with the word for the last one. -/
def listNames (first : String) (more : List String) : String :=
  let quoted := (first :: more).map fun name => "'" ++ name ++ "'"
  match more with
  | [] => ", ".intercalate quoted
  | [_] => " and ".intercalate quoted
  | _ => ", ".intercalate quoted.dropLast ++ ", and " ++ quoted.getLastD ""

/-- The wording of an argument fault. -/
def ArgumentFault.message : ArgumentFault → Text
  | .unexpected kind name =>
    kind.name ++ ".__init__() got an unexpected keyword argument '" ++ name ++ "'"
  | .reserved kind name =>
    kind.name ++ ".__init__() got multiple values for argument '" ++ name ++ "'"
  | .missing kind first more =>
    kind.name ++ ".__init__() missing " ++ toString (more.length + 1) ++
      " required positional argument" ++ (if more.isEmpty then "" else "s") ++ ": " ++
      listNames first more

/-- The fault of a name that a kind does not take. -/
def nameFault? (kind : NoticeKind) (name : Text) : Option ArgumentFault :=
  if name = "self" then some (.reserved kind name)
  else if kind = .plain || name.toString?.any (kind.required ++ kind.optional).contains then none
  else some (.unexpected kind name)

/-- The notice of a kind with values by name, null for an absent one. -/
def ofArguments (kind : NoticeKind) (arguments : Members) : Notice :=
  let value (name : String) : Json := (Table.find? arguments name).getD .null
  match kind with
  | .gatewayNotFound => .gatewayNotFound (value "gateway_id")
  | .unknownNetwork => .unknownNetwork (value "gateway_id") (value "network_id") (value "index")
  | .unsupportedRuleType => .unsupportedRuleType (value "index") (value "rule_type")
  | .missingField => .missingField (value "index") (value "field")
  | .invalidField => .invalidField (value "index") (value "field") (value "reason")
  | .idRangeExhausted => .idRangeExhausted (value "index") (value "rule_id") (value "maximum")
  | .plain => .plain (value "message") (Table.erase arguments "message")

/-- Makes a notice of a kind from values by name. -/
def make (kind : NoticeKind) (arguments : Members) : Except ArgumentFault Notice :=
  match arguments.findSome? fun entry => nameFault? kind entry.1 with
  | some fault => .error fault
  | none =>
    match kind.required.filter fun name : String => !Table.has arguments name with
    | [] => .ok (ofArguments kind arguments)
    | first :: more => .error (.missing kind first more)

@[simp] theorem kind_ofArguments (kind : NoticeKind) (arguments : Members) :
    (ofArguments kind arguments).kind = kind := by
  cases kind <;> rfl

end Notice

end GatewayNat
