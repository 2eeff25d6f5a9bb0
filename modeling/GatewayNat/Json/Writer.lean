import GatewayNat.Json.Basic
import GatewayNat.Text.Quoted

/-!
# JSON text

`Json.write` gives the text of a value in ASCII, with the members in their
order and no blanks.  A character outside ASCII is written by its 16-bit units, and so is a
lone surrogate.
A number that is not finite has no JSON form, and `write` uses the common words
for it.
-/

namespace GatewayNat.Json

/-- A 16-bit unit as an escape. -/
def escapeUnit (n : Nat) : List Char := '\\' :: 'u' :: Text.hex 4 n

/-- A character as it stands in JSON text. -/
def escapeChar (c : Char) : List Char :=
  if c = '"' || c = '\\' then ['\\', c]
  else if c = '\n' then ['\\', 'n']
  else if c = '\r' then ['\\', 'r']
  else if c = '\t' then ['\\', 't']
  else if 0x20 ≤ c.toNat && c.toNat < 0x7f then [c]
  else if c.toNat < 0x10000 then escapeUnit c.toNat
  else
    let n := c.toNat - 0x10000
    escapeUnit (0xd800 + n / 1024) ++ escapeUnit (0xdc00 + n % 1024)

/-- A code point as it stands in JSON text. -/
def escapePoint : CodePoint → List Char
  | .char c => escapeChar c
  | .lone s => escapeUnit s.unit

/-- A text between double quotes. -/
def writeText (t : Text) : String :=
  String.ofList ('"' :: (t.points.flatMap escapePoint ++ ['"']))

/-- Numbers in JSON text differ from the plain layout in the words for no number and infinity. -/
def numberLayout : Decimal.Layout :=
  { Decimal.plainLayout with nan := "NaN", infinity := "Infinity" }

mutual

/-- The JSON text of a value. -/
def write : Json → String
  | .null => "null"
  | .bool b => if b then "true" else "false"
  | .int n => toString n
  | .float x => numberLayout.write x
  | .str s => writeText s
  | .arr items => "[" ++ writeItems items ++ "]"
  | .obj members => "\x7b" ++ writeMembers members ++ "\x7d"

/-- The text of a list's items. -/
def writeItems : List Json → String
  | [] => ""
  | [item] => write item
  | item :: rest => write item ++ "," ++ writeItems rest

/-- The text of an object's members. -/
def writeMembers : List (Text × Json) → String
  | [] => ""
  | [(name, value)] => writeText name ++ ":" ++ write value
  | (name, value) :: rest => writeText name ++ ":" ++ write value ++ "," ++ writeMembers rest

end

end GatewayNat.Json
