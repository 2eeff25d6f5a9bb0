import GatewayNat.Decimal.Integer
import GatewayNat.Json.Basic

/-!
# Reading JSON text

`Json.read` gives the value of a text or the first fault.

* Blanks are the space, the tab, the line feed and the carriage return.
* The words `NaN`, `Infinity` and `-Infinity` are numbers.
* A number with a fraction or an exponent is rounded to the nearest binary64.
* An integer has at most `Decimal.maxDigits` digits.
* In an object the last value of a name wins and the name keeps its first place.
* Lists and objects lie in each other at most `maxDepth` deep.
* A text that starts with a byte order mark is refused.
* Lone surrogates stand in texts only, as they are or as escapes.  The escapes of
  a pair are one character.

A fault has the position of a code point.  An unterminated text is blamed on its
opening quote, a bad escape on its backslash, a bad hexadecimal escape on its
`u`, and everything else on the character that cannot stand where it stands, or
on the end of the text.  A hexadecimal escape needs a character after it.

Reading a value takes fuel, one unit for each call.  A call without fuel cannot
happen for the fuel that `read` gives, since every second call moves on.
-/

namespace GatewayNat.Json

/-- Why a text is not JSON. -/
inductive Reason where
  | value
  | propertyName
  | colon
  | comma
  | extraData
  | unterminated
  | escape
  | hexEscape
  | controlCharacter
  | byteOrderMark
  deriving DecidableEq, Repr

/-- The values that hold other values. -/
inductive Container where
  | list
  | object
  deriving DecidableEq, Repr

/-- A fault of a text: a reason with its position, an integer that is too long, or a value that
lies too deep in others. -/
inductive Fault where
  | malformed (reason : Reason) (position : Nat)
  | tooManyDigits (count : Nat)
  | tooDeep (container : Container)
  deriving DecidableEq, Repr

/-- The greatest number of lists and objects that lie in each other. -/
def maxDepth : Nat := 980

/-- The wording for a value that lies too deep in others. -/
def tooDeepMessage : Container → String
  | .list => "maximum recursion depth exceeded while decoding a JSON array from a unicode string"
  | .object => "maximum recursion depth exceeded while decoding a JSON object from a unicode string"

/-- The wording of a reason. -/
def Reason.message : Reason → String
  | .value => "Expecting value"
  | .propertyName => "Expecting property name enclosed in double quotes"
  | .colon => "Expecting ':' delimiter"
  | .comma => "Expecting ',' delimiter"
  | .extraData => "Extra data"
  | .unterminated => "Unterminated string starting at"
  | .escape => "Invalid \\escape"
  | .hexEscape => "Invalid \\uXXXX escape"
  | .controlCharacter => "Invalid control character at"
  | .byteOrderMark => "Unexpected UTF-8 BOM (decode using utf-8-sig)"

/-- A place in a text.  Lines and columns count from one, positions from zero. -/
structure Place where
  line : Nat
  column : Nat
  position : Nat
  deriving DecidableEq, Repr

/-- The place of a position in a text. -/
def Place.of (text : Text) (position : Nat) : Place :=
  let before := text.points.take position
  { line := before.count (.char '\n') + 1
    column := (before.reverse.takeWhile (· ≠ .char '\n')).length + 1
    position }

/-- The wording of a place. -/
def Place.message (place : Place) : String :=
  "line " ++ toString place.line ++ " column " ++ toString place.column ++
    " (char " ++ toString place.position ++ ")"

/-- The rest of a text and its position. -/
structure Cursor where
  rest : List CodePoint
  position : Nat
  deriving DecidableEq, Repr

/-- A fault of the given reason at a cursor. -/
def Cursor.fault {α : Type} (c : Cursor) (reason : Reason) : Except Fault α :=
  .error (.malformed reason c.position)

/-- Whether a character may stand between the parts of JSON text. -/
def isGap (c : Char) : Bool := c = ' ' || c = '\t' || c = '\n' || c = '\r'

/-- The cursor after any blanks at a position. -/
def skipFrom (position : Nat) : List CodePoint → Cursor
  | [] => ⟨[], position⟩
  | p :: rest => if p.isIn isGap then skipFrom (position + 1) rest else ⟨p :: rest, position⟩

/-- The cursor after any blanks. -/
def Cursor.skip (c : Cursor) : Cursor := skipFrom c.position c.rest

/-- The cursor after a number of code points. -/
def Cursor.drop (c : Cursor) (n : Nat) : Cursor := ⟨c.rest.drop n, c.position + n⟩

/-! ## Texts -/

/-- The value of a hexadecimal digit. -/
def hexDigit? (c : Char) : Option Nat :=
  if c.isDigit then some (c.toNat - '0'.toNat)
  else if 'a' ≤ c && c ≤ 'f' then some (c.toNat - 'a'.toNat + 10)
  else if 'A' ≤ c && c ≤ 'F' then some (c.toNat - 'A'.toNat + 10)
  else none

/-- The value of four hexadecimal digits. -/
def hexUnit? (a b c d : Char) : Option Nat := do
  let a ← hexDigit? a
  let b ← hexDigit? b
  let c ← hexDigit? c
  let d ← hexDigit? d
  some (((a * 16 + b) * 16 + c) * 16 + d)

/-- The character that a letter after a backslash stands for. -/
def unescape? : Char → Option Char
  | '"' => some '"'
  | '\\' => some '\\'
  | '/' => some '/'
  | 'b' => some '\x08'
  | 'f' => some '\x0c'
  | 'n' => some '\n'
  | 'r' => some '\r'
  | 't' => some '\t'
  | _ => none

/-- The code point of a unit of 16 bits. -/
def unitPoint (n : Nat) : CodePoint :=
  match Surrogate.ofUnit? n with
  | some s => .lone s
  | none => .char (Char.ofNat n)

/-- The unit of four code points that are hexadecimal digits. -/
def pointUnit? (a b c d : CodePoint) : Option Nat :=
  match a, b, c, d with
  | .char a, .char b, .char c, .char d => hexUnit? a b c d
  | _, _, _, _ => none

/-- Reads what follows the backslash at `position`: the code point meant, and how many code points
after the backslash mean it.  The text started at `start`. -/
def readEscape (start position : Nat) : List CodePoint → Except Fault (CodePoint × Nat)
  | [] => .error (.malformed .unterminated start)
  | .char 'u' :: rest =>
    match rest with
    | a :: b :: c :: d :: tail =>
      match pointUnit? a b c d with
      | none => .error (.malformed .hexEscape (position + 1))
      | some n =>
        if tail.isEmpty then .error (.malformed .hexEscape (position + 1))
        else
          match tail with
          | .char '\\' :: .char 'u' :: e :: f :: g :: h :: _ :: _ =>
            if Text.isHighSurrogate n then
              match pointUnit? e f g h with
              | none => .error (.malformed .hexEscape (position + 7))
              | some m =>
                if Text.isLowSurrogate m then .ok (.char (Text.pairChar n m), 11)
                else .ok (unitPoint n, 5)
            else .ok (unitPoint n, 5)
          | _ => .ok (unitPoint n, 5)
    | _ => .error (.malformed .hexEscape (position + 1))
  | e :: _ =>
    match e.char?.bind unescape? with
    | some c => .ok (.char c, 1)
    | none => .error (.malformed .escape position)

/-- Whether a character is one that texts do not hold as it is. -/
def isControl (c : Char) : Bool := c.toNat < 0x20

/-- Reads the rest of a text whose opening quote is at `start`.  The first `pending` code points
belong to an escape that has been read. -/
def readText (start : Nat) (done : List CodePoint) (position pending : Nat) :
    List CodePoint → Except Fault (Text × Cursor)
  | [] => .error (.malformed .unterminated start)
  | p :: rest =>
    match pending with
    | more + 1 => readText start done (position + 1) more rest
    | 0 =>
      if p = .char '"' then .ok (.ofPoints done.reverse, ⟨rest, position + 1⟩)
      else if p = .char '\\' then
        match readEscape start position rest with
        | .error fault => .error fault
        | .ok (meant, size) => readText start (meant :: done) (position + 1) size rest
      else if p.isIn isControl then .error (.malformed .controlCharacter position)
      else readText start (p :: done) (position + 1) 0 rest

/-! ## Numbers -/

/-- The natural number of decimal digits. -/
def digitsValue (ds : List Char) : Nat :=
  ds.foldl (fun n d => n * 10 + (d.toNat - '0'.toNat)) 0

/-- The digits at the front. -/
def leadingDigits : List CodePoint → List Char
  | .char c :: rest => if c.isDigit then c :: leadingDigits rest else []
  | _ => []

/-- The digits of the whole part: one zero, or digits that do not start with one. -/
def wholeDigits (points : List CodePoint) : List Char :=
  match points with
  | .char '0' :: _ => ['0']
  | _ => leadingDigits points

/-- The digits after a point, if there are any. -/
def fractionDigits : List CodePoint → List Char
  | .char '.' :: rest => leadingDigits rest
  | _ => []

/-- The number of characters of an exponent and its value, if there is one. -/
def exponentPart (points : List CodePoint) : Option (Nat × Int) :=
  match points with
  | e :: rest =>
    if e = .char 'e' || e = .char 'E' then
      match rest with
      | .char '-' :: more =>
        let ds := leadingDigits more
        if ds.isEmpty then none else some (ds.length + 2, -(digitsValue ds : Int))
      | .char '+' :: more =>
        let ds := leadingDigits more
        if ds.isEmpty then none else some (ds.length + 2, digitsValue ds)
      | _ =>
        let ds := leadingDigits rest
        if ds.isEmpty then none else some (ds.length + 1, digitsValue ds)
    else none
  | [] => none

/-- Reads a number without its sign. -/
def readMagnitude (negative : Bool) (start : Cursor) (c : Cursor) : Except Fault (Json × Cursor) :=
  let whole := wholeDigits c.rest
  if whole.isEmpty then start.fault .value
  else
    let afterWhole := c.drop whole.length
    let fraction := fractionDigits afterWhole.rest
    let afterFraction :=
      if fraction.isEmpty then afterWhole else afterWhole.drop (fraction.length + 1)
    match exponentPart afterFraction.rest with
    | some (size, e) =>
      .ok
        (.float
          (Binary64.ofDecimal negative (digitsValue (whole ++ fraction)) (e - fraction.length)),
        afterFraction.drop size)
    | none =>
      if fraction.isEmpty then
        if Decimal.maxDigits < whole.length then .error (.tooManyDigits whole.length)
        else
          let n : Int := digitsValue whole
          .ok (.int (if negative then -n else n), afterWhole)
      else
        .ok
          (.float
            (Binary64.ofDecimal negative (digitsValue (whole ++ fraction))
              (-(fraction.length : Int))),
          afterFraction)

/-! ## Values -/

/-- The cursor after a word, if the word stands at the cursor. -/
def Cursor.word? (c : Cursor) (word : String) : Option Cursor :=
  if (Text.pointsOf word).isPrefixOf c.rest then some (c.drop word.length) else none

/-- The words that are values. -/
def words : Table String Json :=
  [("null", .null), ("true", .bool true), ("false", .bool false),
    ("NaN", .float Binary64.nan), ("Infinity", .float (Binary64.infinity false)),
    ("-Infinity", .float (Binary64.infinity true))]

/-- Reads a value that is no text, list or object. -/
def readScalar (c : Cursor) : Except Fault (Json × Cursor) :=
  match words.findSome? fun entry => (c.word? entry.1).map fun next => (entry.2, next) with
  | some found => .ok found
  | none =>
    match c.rest with
    | .char '-' :: _ => readMagnitude true c (c.drop 1)
    | _ => readMagnitude false c c

mutual

/-- Reads a value.  At most `room` lists and objects may lie in each other. -/
def readValue (fuel room : Nat) (c : Cursor) : Except Fault (Json × Cursor) :=
  match fuel with
  | 0 => c.fault .value
  | fuel + 1 =>
    match c.rest with
    | .char '"' :: rest =>
      match readText c.position [] (c.position + 1) 0 rest with
      | .ok (s, next) => .ok (.str s, next)
      | .error fault => .error fault
    | .char '[' :: _ =>
      match room with
      | 0 => .error (.tooDeep .list)
      | room + 1 =>
        let inner := (c.drop 1).skip
        match inner.rest with
        | .char ']' :: _ => .ok (.arr [], inner.drop 1)
        | _ => readItems fuel room [] inner
    | .char '\x7b' :: _ =>
      match room with
      | 0 => .error (.tooDeep .object)
      | room + 1 =>
        let inner := (c.drop 1).skip
        match inner.rest with
        | .char '\x7d' :: _ => .ok (.obj [], inner.drop 1)
        | _ => readMembers fuel room [] inner
    | _ => readScalar c

/-- Reads the items of a list from the given ones in reverse to the closing bracket. -/
def readItems (fuel room : Nat) (done : List Json) (c : Cursor) : Except Fault (Json × Cursor) :=
  match fuel with
  | 0 => c.fault .value
  | fuel + 1 =>
    match readValue fuel room c with
    | .error fault => .error fault
    | .ok (item, next) =>
      let after := next.skip
      match after.rest with
      | .char ']' :: _ => .ok (.arr (item :: done).reverse, after.drop 1)
      | .char ',' :: _ => readItems fuel room (item :: done) (after.drop 1).skip
      | _ => after.fault .comma

/-- Reads the members of an object from the given ones in reverse to the closing brace. -/
def readMembers (fuel room : Nat) (done : List (Text × Json)) (c : Cursor) :
    Except Fault (Json × Cursor) :=
  match fuel with
  | 0 => c.fault .value
  | fuel + 1 =>
    match c.rest with
    | .char '"' :: rest =>
      match readText c.position [] (c.position + 1) 0 rest with
      | .error fault => .error fault
      | .ok (name, afterName) =>
        let colon := afterName.skip
        match colon.rest with
        | .char ':' :: _ =>
          match readValue fuel room (colon.drop 1).skip with
          | .error fault => .error fault
          | .ok (value, next) =>
            let after := next.skip
            match after.rest with
            | .char '\x7d' :: _ =>
              .ok (.obj (Table.ofList ((name, value) :: done).reverse), after.drop 1)
            | .char ',' :: _ =>
              readMembers fuel room ((name, value) :: done) (after.drop 1).skip
            | _ => after.fault .comma
        | _ => colon.fault .colon
    | _ => c.fault .propertyName

end

/-- The value of a text, without a look at a byte order mark. -/
def readUnmarked (text : Text) : Except Fault Json :=
  let points := text.points
  match readValue (2 * points.length + 1) maxDepth (skipFrom 0 points) with
  | .error fault => .error fault
  | .ok (value, next) =>
    let after := next.skip
    if after.rest.isEmpty then .ok value else after.fault .extraData

/-- The value of a text. -/
def read (text : Text) : Except Fault Json :=
  match text.points with
  | .char '\ufeff' :: _ => .error (.malformed .byteOrderMark 0)
  | _ => readUnmarked text

end GatewayNat.Json
