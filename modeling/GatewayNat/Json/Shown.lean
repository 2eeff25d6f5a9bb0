import GatewayNat.Json.Basic
import GatewayNat.Text.Quoted

/-!
# Values in messages

A message shows a value on one line.  Null and the truth values are words with
a capital, texts are quoted, lists stand in brackets and objects in braces, in
the order of their members.  A text that is not part of another value may also
stand in a message as it is.
-/

namespace GatewayNat.Json

mutual

/-- The form of a value in messages.  The integers of values that are read have no more than
`Decimal.maxDigits` digits, so each of them has a form. -/
def shown : Json → String
  | .null => "None"
  | .bool b => if b then "True" else "False"
  | .int n => toString n
  | .float x => x.text
  | .str s => Text.quoted s
  | .arr items => "[" ++ shownItems items ++ "]"
  | .obj members => "\x7b" ++ shownMembers members ++ "\x7d"

/-- The form of a list's items. -/
def shownItems : List Json → String
  | [] => ""
  | [item] => shown item
  | item :: rest => shown item ++ ", " ++ shownItems rest

/-- The form of an object's members. -/
def shownMembers : List (Text × Json) → String
  | [] => ""
  | [(name, value)] => Text.quoted name ++ ": " ++ shown value
  | (name, value) :: rest =>
    Text.quoted name ++ ": " ++ shown value ++ ", " ++ shownMembers rest

end

/-- The form of a value in messages, but of a text without quotes. -/
def plainText : Json → Text
  | .str s => s
  | other => other.shown

/-- The name of a value's kind in messages. -/
def kindName : Json → String
  | .null => "NoneType"
  | .bool _ => "bool"
  | .int _ => "int"
  | .float _ => "float"
  | .str _ => "str"
  | .arr _ => "list"
  | .obj _ => "dict"

end GatewayNat.Json
