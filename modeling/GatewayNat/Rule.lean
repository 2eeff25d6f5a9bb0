import GatewayNat.Validation.Scalar
import GatewayNat.Json.Shown

/-!
# Rule intents

A rule intent says how one rule translates addresses on one network.

* A source rule (`SNAT`) has an original and a translated address.
* A destination rule (`DNAT`) has in addition an original and a translated port
  and a protocol.

`RuleIntent.check` reads an intent of a given type from a value.  Numbers stand
for their text.  An absent or null `enabled` is `"true"` and a truth value is
its word.  An absent, null or blank `id` is no id.  An absent, null or blank
`protocol` is `"tcp"`.  A source rule ignores ports and protocol like any name
that no field has.
-/

namespace GatewayNat

/-! ## Rule types -/

/-- The types of rules. -/
inductive RuleType where
  | snat
  | dnat
  deriving DecidableEq, Repr

namespace RuleType

/-- The name of a type. -/
def name : RuleType → String
  | .snat => "SNAT"
  | .dnat => "DNAT"

/-- All types in the order of their names. -/
def all : List RuleType := [.dnat, .snat]

/-- The type of a name. -/
def ofName? (s : String) : Option RuleType :=
  if s = "SNAT" then some .snat else if s = "DNAT" then some .dnat else none

/-- The type that a value names. -/
def ofJson? : Json → Option RuleType
  | .str s => s.toString?.bind ofName?
  | _ => none

/-- The wording for a value that names no type. -/
def unknownMessage (value : Json) : String := value.shown ++ " is not a valid NatRuleType"

/-- The name of the record of an intent of the type. -/
def recordName : RuleType → String
  | .snat => "SnatRuleIntent"
  | .dnat => "DnatRuleIntent"

/-- The fields that an intent of the type must have, in their order. -/
def requiredFields : RuleType → List String
  | .snat => ["network_id", "original_ip", "translated_ip", "rule_type"]
  | .dnat =>
    ["network_id", "original_ip", "translated_ip", "rule_type", "original_port", "translated_port"]

@[simp] theorem ofName?_name (type : RuleType) : ofName? type.name = some type := by
  cases type <;> rfl

theorem ofName?_eq_some_iff {s : String} {type : RuleType} :
    ofName? s = some type ↔ s = type.name := by
  cases type <;> simp only [ofName?, name] <;> split <;> simp_all

end RuleType

/-! ## Intents -/

/-- What a rule translates apart from addresses. -/
inductive Translation where
  | source
  | destination (originalPort translatedPort protocol : Text)
  deriving DecidableEq, Repr

/-- The rule type of a translation. -/
def Translation.ruleType : Translation → RuleType
  | .source => .snat
  | .destination _ _ _ => .dnat

/-- The intent of one rule. -/
structure RuleIntent where
  networkId : Text
  originalIp : Text
  translatedIp : Text
  enabled : Text
  /-- The id that the rule asks for, if it asks for one. -/
  id : Option Text
  translation : Translation
  deriving DecidableEq, Repr

/-- The wording for an intent that names no rule type at all. -/
def RuleIntent.untypedMessage : String :=
  "Can't instantiate abstract class RuleIntentBase with abstract method gateway_nat_rule"

/-- The word of a truth value. -/
def flagWord (b : Bool) : String := if b then "true" else "false"

namespace Json

/-- The field `enabled` of a rule. -/
def asRuleEnabled : Json → Checked Text
  | .null => .valid "true"
  | .bool b => .valid (flagWord b)
  | other => other.asTextOfNumber

/-- The field `id` of a rule. -/
def asRuleId : Json → Checked (Option Text)
  | .null => .valid none
  | .str s => .valid (if Text.allBlank s then none else some s)
  | other => some <$> other.asTextOfNumber

/-- The field `protocol` of a rule. -/
def asProtocol : Json → Checked Text
  | .null => .valid "tcp"
  | .str s => .valid (if Text.allBlank s then "tcp" else s)
  | other => other.asTextOfNumber

/-- A field that holds the name of one rule type. -/
def asRuleType (type : RuleType) (value : Json) : Checked Unit :=
  if value = .str type.name then .valid () else .fail (.notLiteral type.name) value

end Json

namespace RuleIntent

/-- An intent from the checked fields of a source rule. -/
def ofSourceFields (networkId originalIp translatedIp enabled : Text) (id : Option Text)
    (_ : Unit) : RuleIntent :=
  ⟨networkId, originalIp, translatedIp, enabled, id, .source⟩

/-- An intent from the checked fields of a destination rule. -/
def ofDestinationFields (networkId originalIp translatedIp enabled : Text) (id : Option Text)
    (_ : Unit) (originalPort translatedPort protocol : Text) : RuleIntent :=
  ⟨networkId, originalIp, translatedIp, enabled, id,
    .destination originalPort translatedPort protocol⟩

/-- Reads the fields of an intent of a type. -/
def checkFields (type : RuleType) (members : Members) : Checked RuleIntent :=
  match type with
  | .snat =>
    ofSourceFields
      <$> Members.required members "network_id" Json.asTextOfNumber
      <*> Members.required members "original_ip" Json.asTextOfNumber
      <*> Members.required members "translated_ip" Json.asTextOfNumber
      <*> Members.optional members "enabled" "true" Json.asRuleEnabled
      <*> Members.optional members "id" none Json.asRuleId
      <*> Members.required members "rule_type" (Json.asRuleType .snat)
  | .dnat =>
    ofDestinationFields
      <$> Members.required members "network_id" Json.asTextOfNumber
      <*> Members.required members "original_ip" Json.asTextOfNumber
      <*> Members.required members "translated_ip" Json.asTextOfNumber
      <*> Members.optional members "enabled" "true" Json.asRuleEnabled
      <*> Members.optional members "id" none Json.asRuleId
      <*> Members.required members "rule_type" (Json.asRuleType .dnat)
      <*> Members.required members "original_port" Json.asTextOfNumber
      <*> Members.required members "translated_port" Json.asTextOfNumber
      <*> Members.optional members "protocol" "tcp" Json.asProtocol

/-- Reads an intent of a type. -/
def check (type : RuleType) : Json → Checked RuleIntent
  | .obj members => checkFields type members
  | other => .fail (.notRecord type.recordName) other

/-- The rule type of an intent. -/
def ruleType (rule : RuleIntent) : RuleType := rule.translation.ruleType

/-- The fields that only some rule types have. -/
def translationFields : Translation → Members
  | .source => []
  | .destination originalPort translatedPort protocol =>
    [("original_port", .str originalPort), ("translated_port", .str translatedPort),
      ("protocol", .str protocol)]

/-- The fields that all rule types have. -/
def sharedFields (rule : RuleIntent) : Members :=
  [("network_id", .str rule.networkId), ("original_ip", .str rule.originalIp),
    ("translated_ip", .str rule.translatedIp), ("enabled", .str rule.enabled),
    ("id", Json.ofText? rule.id), ("rule_type", .str rule.ruleType.name)]

/-- The fields of an intent. -/
def toMembers (rule : RuleIntent) : Members :=
  rule.sharedFields ++ translationFields rule.translation

/-- The intent as a value. -/
def toJson (rule : RuleIntent) : Json := .obj rule.toMembers

end RuleIntent

end GatewayNat
