import GatewayNat.Text.Surrogate

/-!
# Character sets

A large character set has its characters under codes of two octets.  It is a
list of rows: the code of the first character, and the characters from there on.
U+FFFD in a row stands for a code without a character.

A row keeps to the codes of one first octet, and no two rows have a code in
common.
-/

namespace GatewayNat.Text

/-- Characters under codes of two octets. -/
abbrev Charset := List (Nat × String)

namespace Charset

/-- The character of a code in a row. -/
def inRow (code : Nat) (row : Nat × String) : Option Char :=
  if code / 256 = row.1 / 256 && row.1 ≤ code then
    (row.2.toList[code - row.1]?).filter (· ≠ '\ufffd')
  else none

/-- The character of a code. -/
def find? (set : Charset) (code : Nat) : Option Char := set.findSome? (inRow code)

/-- The characters of a code that stands for several ones. -/
def findPair? (pairs : List (Nat × String)) (code : Nat) : Option (List Char) :=
  (pairs.find? fun entry => entry.1 = code).map fun entry => entry.2.toList

end Charset

end GatewayNat.Text
