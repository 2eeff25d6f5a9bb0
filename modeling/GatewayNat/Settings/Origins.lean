import GatewayNat.Settings.Basic
import GatewayNat.Validation.Scalar

/-!
# Origins

The allowed origins are a text or a list of texts.

* A text of origins is JSON, whatever its value, or else a list with commas
  between its items, where blanks around items and blank items do not count.
* A source that has only texts first tries a text as JSON, and null there means
  that it does not know the origins.
* Values in a text of origins that lie too deep in others are a fault.
-/

namespace GatewayNat.Origins

/-- The items of a list with commas, without the blanks around them and without blank items. -/
def commaItems (text : Text) : List Text :=
  ((Text.splitOn (.char ',') text.points).map fun item =>
    Text.ofPoints (Text.trimList CodePoint.isBlank item)).filter (· ≠ "")

/-- The origins that a text stands for. -/
def ofText (text : Text) : Checked Json :=
  match Json.read text with
  | .ok value => .valid value
  | .error (.malformed _ _) => .valid (.arr ((commaItems text).map Json.str))
  | .error (.tooManyDigits count) =>
    .fail (.refused (Decimal.tooManyDigitsMessage count)) (.str text)
  | .error (.tooDeep container) => .fail (.refused (Json.tooDeepMessage container)) (.str text)

/-- The origins that a value stands for: a text, or a list of texts. -/
def check : Json → Checked Json
  | .str text => ofText text
  | other =>
    match Json.asList Json.asText other with
    | .valid texts => .valid (.arr (texts.map Json.str))
    | .invalid first more =>
      .invalid ⟨.notText, [.name "str"], other⟩
        ((first :: more).map (Issue.under (.name "list[str]")))

/-- The value of a text in a source of texts, or what lies too deep in it.  Null is no value. -/
def readEntry (text : Text) : Except Json.Container (Option Json) :=
  match Json.read text with
  | .ok .null => .ok none
  | .ok value => .ok (some value)
  | .error (.tooDeep container) => .error container
  | .error _ => .ok (some (.str text))

/-- What lies too deep in the value of the setting. -/
def tooDeep? : Option Json → Option Json.Container
  | some (.str text) =>
    match Json.read text with
    | .error (.tooDeep container) => some container
    | _ => none
  | _ => none

/-- The origins that may read answers by default. -/
def default : Json := .arr [.str "http://localhost:3000", .str "http://localhost:8000"]

end GatewayNat.Origins
