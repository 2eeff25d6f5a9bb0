import GatewayNat.Json.Writer
import GatewayNat.Text.Utf8

/-!
# JSON text as a body

The text of a value in the body of a message has no blanks and keeps characters
outside ASCII.  It escapes the double quote, the backslash and the control
characters below the space.

* `body` gives the text.  With lone surrogates it has no octets, and
  `Utf8.encodeFault?` says where the first of them stand.
* `reportFault?` looks for what keeps a value out of a report that is written
  part by part.  Names and texts are looked at one by one, and values may lie
  only so deep in each other.
-/

namespace GatewayNat.Json

/-- A character in the body of a message. -/
def bodyChar (c : Char) : List Char :=
  if c = '"' || c = '\\' then ['\\', c]
  else if 0x20 ≤ c.toNat then [c]
  else if c = '\x08' then ['\\', 'b']
  else if c = '\x0c' then ['\\', 'f']
  else escapeChar c

/-- A text between double quotes in the body of a message. -/
def bodyText (t : Text) : Text :=
  ("\"" : Text) ++ t.mapStrings (fun s => String.ofList (s.toList.flatMap bodyChar)) ++ "\""

mutual

/-- The text of a value in the body of a message. -/
def body : Json → Text
  | .str s => bodyText s
  | .arr items => ("[" : Text) ++ bodyItems items ++ "]"
  | .obj members => ("\x7b" : Text) ++ bodyMembers members ++ "\x7d"
  | .null => (Json.null).write
  | .bool b => (Json.bool b).write
  | .int n => (Json.int n).write
  | .float x => (Json.float x).write

/-- The text of a list's items in the body of a message. -/
def bodyItems : List Json → Text
  | [] => ""
  | [item] => body item
  | item :: rest => body item ++ "," ++ bodyItems rest

/-- The text of an object's members in the body of a message. -/
def bodyMembers : List (Text × Json) → Text
  | [] => ""
  | [(name, value)] => bodyText name ++ ":" ++ body value
  | (name, value) :: rest => bodyText name ++ ":" ++ body value ++ "," ++ bodyMembers rest

end

/-- What keeps a value out of a report. -/
inductive ReportFault where
  | tooDeep
  | unencodable (fault : Text.Utf8.EncodeFault)
  deriving DecidableEq, Repr

/-- The wording of what keeps a value out of a report. -/
def ReportFault.message : ReportFault → String
  | .tooDeep => "ValueError: Maximum serialization depth exceeded"
  | .unencodable fault => "UnicodeEncodeError: " ++ fault.message

/-- What keeps a text out of a report. -/
def textFault? (t : Text) : Option ReportFault :=
  (Text.Utf8.encodeFault? t).map .unencodable

mutual

/-- What first keeps a value out of a report that has room for so many values in each other. -/
def reportFault? (room : Nat) : Json → Option ReportFault
  | .arr items => if room = 0 then some .tooDeep else itemsFault? (room - 1) items
  | .obj members => if room = 0 then some .tooDeep else membersFault? (room - 1) members
  | .str s => if room = 0 then some .tooDeep else textFault? s
  | _ => if room = 0 then some .tooDeep else none

/-- What first keeps items out of a report. -/
def itemsFault? (room : Nat) : List Json → Option ReportFault
  | [] => none
  | item :: rest => (reportFault? room item).or (itemsFault? room rest)

/-- What first keeps members out of a report. -/
def membersFault? (room : Nat) : List (Text × Json) → Option ReportFault
  | [] => none
  | (name, value) :: rest =>
    (textFault? name).or ((reportFault? room value).or (membersFault? room rest))

end

end GatewayNat.Json
