import GatewayNat.Text.Stepwise

/-!
# Code pages

In a code page each octet is a character or nothing.

* The octets before a first one are the characters of their own numbers.
* The others have a list of characters.  U+FFFD in the list stands for nothing.
-/

namespace GatewayNat.Text

/-- What the octets stand for. -/
structure CodePage where
  /-- The first octet of the list. -/
  first : Nat
  chars : String
  deriving DecidableEq, Repr

namespace CodePage

/-- The character of an octet. -/
def char? (page : CodePage) (octet : UInt8) : Option Char :=
  if octet.toNat < page.first then some (Stepwise.charOf octet)
  else (page.chars.toList[octet.toNat - page.first]?).filter (· ≠ '\ufffd')

end CodePage

end GatewayNat.Text
