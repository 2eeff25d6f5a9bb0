import GatewayNat.Text.Basic

/-!
# Blank text

Two sets of blank characters are in use.  `isSpace` is the white space of the
character standard.  `isBlank` has in addition the four information separators
U+001C to U+001F.  Whether an id or a protocol is blank, the items of a comma
list and the grammar of an env file go by `isBlank`.  Numbers written as text
are trimmed by `isSpace`.

`trimList` takes the members of a set off both ends.  A lone surrogate is in no set.
-/

namespace GatewayNat

namespace Text

/-- The white space characters of the character standard. -/
def isSpace (c : Char) : Bool :=
  let n := c.toNat
  (9 ≤ n && n ≤ 13) || n == 0x20 || n == 0x85 || n == 0xa0 || n == 0x1680 ||
    (0x2000 ≤ n && n ≤ 0x200a) || n == 0x2028 || n == 0x2029 || n == 0x202f ||
    n == 0x205f || n == 0x3000

/-- White space or an information separator. -/
def isBlank (c : Char) : Bool :=
  isSpace c || (0x1c ≤ c.toNat && c.toNat ≤ 0x1f)

/-- The list without the members of a set at its two ends. -/
def trimList {α : Type} (drop : α → Bool) (items : List α) : List α :=
  (((items.dropWhile drop).reverse).dropWhile drop).reverse

/-- Whether a text has nothing but blanks. -/
def allBlank (t : Text) : Bool := t.rest.isEmpty && t.start.toList.all isBlank

/-- The parts of a list between the occurrences of a separator. -/
def splitOn {α : Type} [DecidableEq α] (separator : α) : List α → List (List α)
  | [] => [[]]
  | c :: rest =>
    if c = separator then [] :: splitOn separator rest
    else
      match splitOn separator rest with
      | [] => [[c]]
      | part :: parts => (c :: part) :: parts

end Text

/-- Whether a code point is white space or an information separator. -/
def CodePoint.isBlank (point : CodePoint) : Bool := point.isIn Text.isBlank

end GatewayNat
