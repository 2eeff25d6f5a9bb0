import GatewayNat.Decimal.Integer
import GatewayNat.Json.Reader
import GatewayNat.Text.Blank
import GatewayNat.Text.Case
import GatewayNat.Validation.Basic

/-!
# Checking scalars

* A text is a text.  `textOfNumber` takes a number too, by its decimal text.  A
  truth value is never a text.
* An integer is an integer, a truth value as 0 or 1, a whole number of magnitude
  less than 2^63, or a text that `readInteger` reads.
* A truth value is a truth value, a number 0 or 1, or one of the words for
  them, in capitals or not.  Integers of more than 64 bits do not count as
  numbers here.

An integer text is brought into a plain form, which has an optional minus sign
and digits without leading zeros.

* White space around the text is dropped, and so is a plus sign that no minus
  sign follows.
* Zeros and underscores are dropped after a leading zero.  The digits that come
  then may have a minus sign of their own.
* A point followed by zeros is dropped, and so are underscores that each stand
  alone between other characters.

A text that starts, as it stands, with an integer of more than `maxDigits`
digits is too long.  If only its plain form is that long, it is no integer.

A text with lone surrogates stands neither for an integer nor for a truth value.
-/

namespace GatewayNat

/-- A text. -/
def Json.asText : Json → Checked Text
  | .str s => .valid s
  | other => .fail .notText other

/-- A text, or the text of a number.  The integers of values that are read have no more than
`Decimal.maxDigits` digits, so each of them has a text. -/
def Json.asTextOfNumber : Json → Checked Text
  | .str s => .valid s
  | .int n => .valid (toString n : String)
  | .float x => .valid x.text
  | other => .fail .notText other

/-- An object. -/
def Json.asObject : Json → Checked Members
  | .obj members => .valid members
  | other => .fail .notObject other

/-- A list whose items pass a check. -/
def Json.asList {α : Type} (check : Json → Checked α) : Json → Checked (List α)
  | .arr items => Checked.items check 0 items
  | other => .fail .notList other

/-! ## Integers -/

/-- The text from the first character on that is neither a zero nor an underscore.  Of zeros and
underscores alone, and before a point, the last one stays. -/
def skipZerosFrom (last : Char) : List Char → Option (List Char)
  | [] => some [last]
  | c :: rest =>
    if c = '0' || c = '_' then skipZerosFrom c rest
    else if c.isDigit || c = '-' then some (c :: rest)
    else if c = '.' then some (last :: c :: rest)
    else none

/-- The text without leading zeros, if it starts with a digit. -/
def skipZeros : List Char → Option (List Char)
  | [] => none
  | c :: rest =>
    if c = '0' then skipZerosFrom c rest else if c.isDigit then some (c :: rest) else none

/-- The text without a point and zeros at the end. -/
def dropZeroFraction (cs : List Char) : List Char :=
  let before := cs.takeWhile (· ≠ '.')
  match cs.dropWhile (· ≠ '.') with
  | '.' :: '0' :: zeros => if zeros.all (· = '0') then before else cs
  | _ => cs

/-- Whether two underscores stand side by side. -/
def hasDoubleUnderscore : List Char → Bool
  | [] => false
  | c :: rest => (c = '_' && rest.head? = some '_') || hasDoubleUnderscore rest

/-- The text without underscores, if each of them stands alone between other characters. -/
def dropUnderscores (cs : List Char) : List Char :=
  if cs.head? = some '_' || cs.getLast? = some '_' || hasDoubleUnderscore cs then cs
  else cs.filter (· ≠ '_')

/-- The plain form of an integer text without a sign. -/
def plainMagnitude (cs : List Char) : Option (List Char) :=
  (skipZeros cs).map fun rest => dropUnderscores (dropZeroFraction rest)

/-- The plain form of an integer text. -/
def plainInteger (cs : List Char) : Option (List Char) :=
  match Text.trimList Text.isSpace cs with
  | '+' :: '-' :: _ => none
  | '+' :: rest => plainMagnitude rest
  | '-' :: rest => (plainMagnitude rest).map ('-' :: ·)
  | rest => plainMagnitude rest

/-- The number of a zero, or of at most `maxDigits` digits that do not start with one. -/
def exactDigits (ds : List Char) : Option Int :=
  if ds = ['0'] then some 0
  else if Decimal.maxDigits < ds.length then none
  else if ds.isEmpty || ds.head? = some '0' || !ds.all Char.isDigit then none
  else some (Json.digitsValue ds)

/-- The integer of a text in plain form. -/
def exactInteger : List Char → Option Int
  | '-' :: ds => (exactDigits ds).map fun n => -n
  | ds => exactDigits ds

/-- Whether a text starts with too many digits, of which the first is no zero. -/
def hasManyDigits (cs : List Char) : Bool :=
  cs.head? ≠ some '0' && decide (Decimal.maxDigits < (cs.takeWhile Char.isDigit).length)

/-- Whether a text starts, as it stands, with an integer that is too long. -/
def isOverlong : List Char → Bool
  | '-' :: rest => hasManyDigits rest
  | cs => hasManyDigits cs

/-- Reads an integer text. -/
def readInteger (s : String) : Except Problem Int :=
  if isOverlong s.toList then .error .integerSize
  else
    match (plainInteger s.toList).bind exactInteger with
    | some n => .ok n
    | none => .error .integerText

/-- The integers of 64 bits. -/
def isWord (n : Int) : Bool := -0x8000000000000000 ≤ n && n < 0x8000000000000000

/-- The integers that a whole number of binary64 may stand for. -/
def isInnerWord (n : Int) : Bool := decide (n.natAbs < 0x8000000000000000)

/-- An integer. -/
def Json.asInteger : Json → Checked Int
  | .int n => .valid n
  | .bool b => .valid (if b then 1 else 0)
  | .float x =>
    if !x.isFinite then .fail .notFinite (.float x)
    else
      match x.toInt? with
      | none => .fail .integerFraction (.float x)
      | some n =>
        if isInnerWord n then .valid n else .fail .integerSize (.float x)
  | .str s =>
    match s.toString?.elim (.error .loneSurrogate) readInteger with
    | .ok n => .valid n
    | .error problem => .fail problem (.str s)
  | other => .fail .notInteger other

/-! ## Truth values -/

/-- The truth value that a word stands for. -/
def readBoolean (s : String) : Option Bool :=
  let word := Text.lowerAscii s
  if ["1", "t", "y", "on", "yes", "true"].contains word then some true
  else if ["0", "f", "n", "no", "off", "false"].contains word then some false
  else none

/-- The truth value that an integer stands for. -/
def booleanOfInt (n : Int) (input : Json) : Checked Bool :=
  if n = 1 then .valid true else if n = 0 then .valid false else .fail .booleanText input

/-- A truth value. -/
def Json.asBoolean : Json → Checked Bool
  | .bool b => .valid b
  | .int n => if isWord n then booleanOfInt n (.int n) else .fail .notBoolean (.int n)
  | .float x =>
    match x.toInt? with
    | some n => if isInnerWord n then booleanOfInt n (.float x) else .fail .notBoolean (.float x)
    | none => .fail .notBoolean (.float x)
  | .str s =>
    match s.toString?.map readBoolean with
    | some (some b) => .valid b
    | some none => .fail .booleanText (.str s)
    | none => .fail .loneSurrogate (.str s)
  | other => .fail .notBoolean other

end GatewayNat
