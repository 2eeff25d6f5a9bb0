import GatewayNat.Document
import GatewayNat.IdRange
import GatewayNat.Intent
import GatewayNat.Resolver

/-!
# Compilation

A service intent is compiled rule by rule, in order, for one gateway.

* The rule is read: its type, its required fields, its values.
* It keeps the id that it asks for, or gets the next id of the range.  An id
  that is too long to be written is an outage.
* Its network is resolved.

The first fault ends the compilation, and there is no document.  Nothing that
follows a faulty rule matters, except that the list of rules as a whole is
checked before the first rule.

`compile` gives the document or the failure, with everything that the
compilation did.
-/

namespace GatewayNat

/-- The outcome of a compilation. -/
structure Compilation where
  result : Except Failure Document
  /-- The calls made and the records written, in their order. -/
  events : List Event

namespace Compiler

/-! ## Reading one rule -/

/-- The first required field that is absent or null. -/
def firstMissing (members : Members) (fields : List String) : Option String :=
  fields.find? fun field => (members.find? field).getD .null = .null

/-- Reads the rule at an index. -/
def readRule (index : Nat) (members : Members) : Except Rejection RuleIntent :=
  match (members.find? "rule_type").getD .null with
  | .null => .error (.missingField index "rule_type")
  | value =>
    match RuleType.ofJson? value with
    | none => .error (.unsupportedRuleType index value)
    | some type =>
      match firstMissing members type.requiredFields with
      | some field => .error (.missingField index field)
      | none =>
        match RuleIntent.checkFields type members with
        | .valid rule => .ok rule
        | .invalid issue _ => .error (.ofRuleIssue index issue)

/-- The failure for an id that is not in its range. -/
def exhausted (range : IdRange) (index : Nat) (next : Int) : Failure :=
  if Decimal.isWritable next && Decimal.isWritable range.maximum then
    .rejected (.idRangeExhausted index next range.maximum)
  else .outage .unwritable

/-- The id of a rule, and the next id of the range after it. -/
def assignId (range : IdRange) (index : Nat) (next : Int) (asked : Option Text) :
    Except Failure (Text × Int) :=
  match asked with
  | some id => .ok (id, next)
  | none =>
    if next ∉ range then .error (exhausted range index next)
    else if Decimal.isWritable next then .ok (toString next, next + 1)
    else .error (.outage .unwritable)

/-- Reads the rule at an index and gives it an id. -/
def admitRule (range : IdRange) (index : Nat) (next : Int) (members : Members) :
    Except Failure (RuleIntent × Text × Int) :=
  match readRule index members with
  | .error rejection => .error (.rejected rejection)
  | .ok rule =>
    match assignId range index next rule.id with
    | .error failure => .error failure
    | .ok (id, after) => .ok (rule, id, after)

/-! ## Compiling all rules -/

/-- Compiles the rules from an index on. -/
def compileRules (d : Directory) (range : IdRange) :
    (past : List Call) → (index : Nat) → (next : Int) → Resolver → List Members →
      Resolved (List CompiledRule)
  | _, _, _, resolver, [] => ⟨.ok [], [], resolver⟩
  | past, index, next, resolver, members :: rest =>
    match admitRule range index next members with
    | .error failure => ⟨.error failure, [], resolver⟩
    | .ok (rule, id, after) =>
      let found := resolver.resolve d past rule.networkId (some index)
      match found.result with
      | .error failure => ⟨.error failure, found.events, found.resolver⟩
      | .ok descriptor =>
        let more := compileRules d range (past ++ Event.calls found.events) (index + 1) after
          found.resolver rest
        ⟨more.result.map (CompiledRule.ofIntent rule id descriptor :: ·),
          found.events ++ more.events, more.resolver⟩

/-- The record that a compilation starts with. -/
def startRecord (gatewayId : Text) (count : Nat) : Journal.Record where
  component := .compiler
  level := .info
  message := "Compiling " ++ toString count ++ " NAT rules for gateway " ++ gatewayId

/-- The record that a successful compilation ends with. -/
def finishRecord (gatewayId : Text) (count networks : Nat) : Journal.Record where
  component := .compiler
  level := .info
  message := "Compiled " ++ toString count ++ " NAT rules for gateway " ++ gatewayId ++ " (" ++
    toString networks ++ " networks resolved)"

/-- Compiles a service intent that has been read. -/
def compileService (d : Directory) (past : List Call) (gatewayId : Text)
    (intent : ServiceIntent) (range : IdRange) : Compilation :=
  let rules := compileRules d range past 0 range.minimum (.new gatewayId) intent.rules
  let start := .record (startRecord gatewayId intent.rules.length)
  match rules.result with
  | .error failure => ⟨.error failure, start :: rules.events⟩
  | .ok compiled =>
    ⟨.ok ⟨intent.enabled, compiled⟩,
      start :: (rules.events ++
        [.record (finishRecord gatewayId compiled.length rules.resolver.size)])⟩

end Compiler

/-- Compiles a service intent for a gateway, after the given calls to the directory. -/
def compile (d : Directory) (past : List Call) (gatewayId : Text) (intent : Json)
    (range : IdRange) : Compilation :=
  match ServiceIntent.check intent with
  | .valid service => Compiler.compileService d past gatewayId service range
  | .invalid issue _ => ⟨.error (.rejected (.ofServiceIssue issue)), []⟩

end GatewayNat
