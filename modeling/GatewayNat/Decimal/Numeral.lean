import GatewayNat.Text.Blank
import GatewayNat.Text.Digit

/-!
# Numerals

A numeral is a text that can be read as a number with a fraction and an
exponent, even if both are absent.

* It may have a sign.
* It is a word for infinity or for no number, in capitals or not, or else digits
  with at most one point among them and an exponent after them.
* An underscore may stand between two digits.
* The digits of all scripts are digits, and blanks around the numeral do not
  count.
-/

namespace GatewayNat.Decimal

/-- The ASCII form of a character of a numeral. -/
def plainNumeralChar (c : Char) : Char :=
  if c.toNat < 0x80 then c
  else
    match Text.digit? c with
    | some d => Char.ofNat ('0'.toNat + d)
    | none => '?'

/-- The characters without their underscores, if each of these stands between two digits.  The
first argument is the character before. -/
def withoutUnderscores (before : Char) : List Char → Option (List Char)
  | [] => if before = '_' then none else some []
  | c :: rest =>
    if c = '_' then (if before.isDigit then withoutUnderscores c rest else none)
    else if before = '_' && !c.isDigit then none
    else (withoutUnderscores c rest).map (c :: ·)

/-- The characters without a sign at the start. -/
def withoutSign : List Char → List Char
  | '+' :: rest | '-' :: rest => rest
  | cs => cs

/-- Whether characters are nothing or an exponent. -/
def isExponent : List Char → Bool
  | [] => true
  | e :: rest =>
    let digits := withoutSign rest
    (e = 'e' || e = 'E') && !digits.isEmpty && digits.all Char.isDigit

/-- Whether characters are digits with at most one point among them and an exponent after them. -/
def isPlainNumeral (cs : List Char) : Bool :=
  let whole := cs.takeWhile Char.isDigit
  match cs.dropWhile Char.isDigit with
  | '.' :: rest =>
    (!whole.isEmpty || !(rest.takeWhile Char.isDigit).isEmpty) &&
      isExponent (rest.dropWhile Char.isDigit)
  | rest => !whole.isEmpty && isExponent rest

/-- The words that are numerals, in small letters. -/
def numeralWords : List String := ["inf", "infinity", "nan"]

/-- Whether a text is a numeral. -/
def isNumeral (s : String) : Bool :=
  match withoutUnderscores ' ' ((Text.trimList Text.isBlank s.toList).map plainNumeralChar) with
  | none => false
  | some cs =>
    let rest := withoutSign cs
    numeralWords.contains (String.ofList (rest.map Char.toLower)) || isPlainNumeral rest

end GatewayNat.Decimal
