import GatewayNat.IdRange
import GatewayNat.Validation.Scalar

/-!
# Reports

The records that the service answers with: the report of a compilation and an
id range.
-/

namespace GatewayNat

/-- The report of a compilation. -/
structure CompileReport where
  gatewayId : Text
  ruleCount : Int
  config : Members
  deriving DecidableEq, Repr

namespace CompileReport

/-- The name of the record. -/
def recordName : String := "NatCompileResponse"

/-- Reads the fields of a report. -/
def checkFields (members : Members) : Checked CompileReport :=
  CompileReport.mk
    <$> Members.required members "gateway_id" Json.asText
    <*> Members.required members "rule_count" Json.asInteger
    <*> Members.required members "config" Json.asObject

/-- Reads a report. -/
def check : Json → Checked CompileReport
  | .obj members => checkFields members
  | other => .fail (.notRecord recordName) other

/-- The report as a value. -/
def toJson (report : CompileReport) : Json :=
  .obj [("gateway_id", .str report.gatewayId), ("rule_count", .int report.ruleCount),
    ("config", .obj report.config)]

end CompileReport

namespace IdRange

/-- The name of the record. -/
def recordName : String := "IdRangeResponse"

/-- Reads the fields of a range. -/
def checkFields (members : Members) : Checked IdRange :=
  IdRange.mk
    <$> Members.required members "minimum" Json.asInteger
    <*> Members.required members "maximum" Json.asInteger

/-- Reads a range. -/
def check : Json → Checked IdRange
  | .obj members => checkFields members
  | other => .fail (.notRecord recordName) other

/-- The range as a value. -/
def toJson (range : IdRange) : Json :=
  .obj [("minimum", .int range.minimum), ("maximum", .int range.maximum)]

end IdRange

end GatewayNat
