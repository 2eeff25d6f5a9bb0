import GatewayNat.Rule

/-!
# Service intents

A service intent has a flag and an ordered list of raw rules.  The rules stay
the objects they are, since every rule is read on its own later on.  Numbers do
not stand for text here.
-/

namespace GatewayNat

/-- The intent of a NAT service. -/
structure ServiceIntent where
  enabled : Text
  /-- The rules in order, not yet read. -/
  rules : List Members
  deriving DecidableEq, Repr

/-- The field `enabled` of a service. -/
def Json.asServiceEnabled : Json → Checked Text
  | .null => .valid "true"
  | .bool b => .valid (flagWord b)
  | other => other.asText

namespace ServiceIntent

/-- The name of the record. -/
def recordName : String := "NatServiceIntent"

/-- Reads the fields of a service intent. -/
def checkFields (members : Members) : Checked ServiceIntent :=
  ServiceIntent.mk
    <$> Members.optional members "enabled" "true" Json.asServiceEnabled
    <*> Members.optional members "nat_rules" [] (Json.asList Json.asObject)

/-- Reads a service intent. -/
def check : Json → Checked ServiceIntent
  | .obj members => checkFields members
  | other => .fail (.notRecord recordName) other

/-- The fields of a service intent. -/
def toMembers (intent : ServiceIntent) : Members :=
  [("enabled", .str intent.enabled), ("nat_rules", .arr (intent.rules.map Json.obj))]

/-- The intent as a value. -/
def toJson (intent : ServiceIntent) : Json := .obj intent.toMembers

end ServiceIntent

end GatewayNat
