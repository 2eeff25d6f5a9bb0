import GatewayNat.Descriptor
import GatewayNat.Rule

/-!
# Compiled documents

A compiled document has one rule for each rule intent, in the same order.  Each
rule carries its own copy of the interface that it is bound to.

As a value, a document has members for the labels of its interfaces.  The texts
of the labels are an argument, because a report has texts of its own.
-/

namespace GatewayNat

/-- The translation of a compiled rule on its interface. -/
structure GatewayRule where
  interface : Descriptor
  originalIp : Text
  translatedIp : Text
  translation : Translation
  deriving DecidableEq, Repr

/-- The members that only some rule types have. -/
def Translation.toMembers : Translation → Members
  | .source => []
  | .destination originalPort translatedPort protocol =>
    [("OriginalPort", .str originalPort), ("TranslatedPort", .str translatedPort),
      ("Protocol", .str protocol)]

/-- The members of a translation of addresses on an interface, which is given as a value. -/
def Translation.onInterface (interface : Json) (originalIp translatedIp : Text)
    (translation : Translation) : Members :=
  ("Interface", interface) :: ("OriginalIp", .str originalIp) ::
    ("TranslatedIp", .str translatedIp) :: translation.toMembers

/-- The members of the translation of an intent on an interface, which is given as a value. -/
def RuleIntent.gatewayMembers (rule : RuleIntent) (interface : Json) : Members :=
  rule.translation.onInterface interface rule.originalIp rule.translatedIp

/-- The members of a translation on its interface. -/
def GatewayRule.toMembers (textOf : Label → Text) (rule : GatewayRule) : Members :=
  rule.translation.onInterface (.obj (rule.interface.toMembers textOf)) rule.originalIp
    rule.translatedIp

/-- The translation of an intent on an interface. -/
def RuleIntent.onInterface (rule : RuleIntent) (interface : Descriptor) : GatewayRule :=
  ⟨interface, rule.originalIp, rule.translatedIp, rule.translation⟩

/-- One rule of a document. -/
structure CompiledRule where
  id : Text
  enabled : Text
  gatewayRule : GatewayRule
  deriving DecidableEq, Repr

namespace CompiledRule

/-- The rule type of a compiled rule. -/
def ruleType (rule : CompiledRule) : RuleType := rule.gatewayRule.translation.ruleType

/-- A compiled rule as a value. -/
def toJson (textOf : Label → Text) (rule : CompiledRule) : Json :=
  .obj [("Id", .str rule.id), ("IsEnabled", .str rule.enabled),
    ("RuleType", .str rule.ruleType.name),
    ("GatewayNatRule", .obj (rule.gatewayRule.toMembers textOf))]

/-- The rule of an intent with its id and its interface. -/
def ofIntent (rule : RuleIntent) (id : Text) (interface : Descriptor) : CompiledRule :=
  ⟨id, rule.enabled, rule.onInterface interface⟩

/-- The rule with one value of its interface changed. -/
def setInterface (rule : CompiledRule) (label : Label) (value : Json) : CompiledRule :=
  { rule with gatewayRule :=
    { rule.gatewayRule with interface := rule.gatewayRule.interface.set label value } }

end CompiledRule

/-- The compiled document of a NAT service. -/
structure Document where
  enabled : Text
  rules : List CompiledRule
  deriving DecidableEq, Repr

namespace Document

/-- The members of a document. -/
def toMembers (textOf : Label → Text) (document : Document) : Members :=
  [("IsEnabled", .str document.enabled),
    ("NatRule", .arr (document.rules.map (CompiledRule.toJson textOf)))]

/-- The document as a value. -/
def toJson (document : Document) : Json := .obj (document.toMembers Label.plain)

/-- The interfaces of the rules in order. -/
def interfaces (document : Document) : List Descriptor :=
  document.rules.map fun rule => rule.gatewayRule.interface

/-- The document with one value of one rule's interface changed. -/
def setInterface (document : Document) (index : Nat) (label : Label) (value : Json) : Document :=
  { document with rules := document.rules.modify index fun rule => rule.setInterface label value }

end Document

end GatewayNat
