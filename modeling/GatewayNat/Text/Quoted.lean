import GatewayNat.Text.Basic
import GatewayNat.Text.Printable

/-!
# Quoted text

A text is shown between quotes in messages.

* The quotes are single, unless the text holds a single quote and no double one.
* A backslash and the quote in use are written after a backslash.
* Tab, line feed and carriage return are written `\t`, `\n`, `\r`.
* Any other unprintable character is written with the fewest of two, four or
  eight hexadecimal digits, after `\x`, `\u` or `\U`.
* So is a lone surrogate.
-/

namespace GatewayNat.Text

/-- A number in small hexadecimal digits, filled up with zeros to a width. -/
def hex (width n : Nat) : List Char :=
  let digits := Nat.toDigits 16 n
  List.replicate (width - digits.length) '0' ++ digits

/-- One character as it stands between the given quotes. -/
def quotedChar (quote c : Char) : List Char :=
  if c = quote || c = '\\' then ['\\', c]
  else if c = '\t' then ['\\', 't']
  else if c = '\n' then ['\\', 'n']
  else if c = '\r' then ['\\', 'r']
  else if isPrintable c then [c]
  else if c.toNat < 0x100 then '\\' :: 'x' :: hex 2 c.toNat
  else if c.toNat < 0x10000 then '\\' :: 'u' :: hex 4 c.toNat
  else '\\' :: 'U' :: hex 8 c.toNat

/-- One code point as it stands between the given quotes. -/
def quotedPoint (quote : Char) : CodePoint → List Char
  | .char c => quotedChar quote c
  | .lone s => '\\' :: 'u' :: hex 4 s.unit

/-- The quote that a text is shown between. -/
def quoteFor (t : Text) : Char :=
  if t.points.contains (.char '\'') && !t.points.contains (.char '"') then '"' else '\''

/-- The text between quotes. -/
def quoted (t : Text) : String :=
  let quote := quoteFor t
  String.ofList (quote :: (t.points.flatMap (quotedPoint quote) ++ [quote]))

end GatewayNat.Text
