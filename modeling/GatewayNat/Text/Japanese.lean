import GatewayNat.Text.Charset.CodePage932
import GatewayNat.Text.Charset.JisX0208
import GatewayNat.Text.Charset.JisX0212
import GatewayNat.Text.Charset.JisX0213
import GatewayNat.Text.Stepwise

/-!
# Japanese codecs

EUC and Shift JIS have ASCII in one octet and a character of JIS X 0208 in two.
Both have editions with JIS X 0213.

* In EUC the octets are those of the code, each with its highest bit set.  After
  0x8e comes a half of a katakana, and after 0x8f two octets of a further set.
* In Shift JIS two rows of the set share a first octet, and a half of a katakana
  is one octet.  The editions with JIS X 0213 have a yen sign and an overline in
  the place of the backslash and the tilde.
* The code page 932 is Shift JIS with additions and with characters for private
  use.
-/

namespace GatewayNat.Text.Japanese

open Stepwise

/-- The half of a katakana that an octet stands for. -/
def halfKatakana? (octet : UInt8) : Option Char :=
  if 0xa1 ≤ octet && octet ≤ 0xdf then some (Char.ofNat (0xff61 + (octet.toNat - 0xa1))) else none

/-- An edition of JIS X 0213. -/
inductive Edition where
  | first
  | later
  deriving DecidableEq, Repr

/-- The characters of a code in the first plane of JIS X 0213. -/
def firstPlane? (edition : Edition) (code : Nat) : Option (List Char) :=
  if edition = .first && Charset.jisX0213Later.contains code then none
  else
    ((Charset.jisX0208.find? code).or (Charset.jisX0213First.find? code)).map ([·]) |>.or
      (Charset.findPair? Charset.jisX0213Pairs code)

/-- The character of a code in the second plane of JIS X 0213. -/
def secondPlane? (edition : Edition) (code : Nat) : Option Char :=
  if edition = .first && code = 0x7d3b then some '\u9b1d' else Charset.jisX0213Second.find? code

/-- What a step finds for a code in the first plane of JIS X 0213.  A code of the later edition is
a fault of two octets in the first one. -/
def firstPlanePiece (edition : Edition) (code : Nat) : Piece Unit :=
  if edition = .first && Charset.jisX0213Later.contains code then .bad 1
  else readOr (firstPlane? edition code) 1

/-- The code of two octets in EUC.  It is no code of a set if one of them is too small. -/
def eucCode (a b : UInt8) : Nat :=
  if a < 0x80 || b < 0x80 then 0 else codeOf (a - 0x80) (b - 0x80)

/-- A step of EUC with what a code stands for, and with the character of a code after 0x8f. -/
def eucStep (pair : Nat → Piece Unit) (further? : Nat → Option Char) (_ : Unit) (a : UInt8)
    (rest : List UInt8) : Piece Unit :=
  if a < 0x80 then .read [charOf a] 0 ()
  else
    match rest with
    | [] => .short
    | b :: more =>
      if a = 0x8e then readOr ((halfKatakana? b).map ([·])) 1
      else if a = 0x8f then
        match more with
        | [] => .short
        | c :: _ => readOr ((further? (eucCode b c)).map ([·])) 2
      else pair (eucCode a b)

/-- A step of EUC. -/
def eucJpStep : Unit → UInt8 → List UInt8 → Piece Unit :=
  eucStep (fun code => readOr ((Charset.jisX0208.find? code).map ([·])) 1)
    Charset.jisX0212.find?

/-- A step of EUC with JIS X 0213. -/
def eucPlanesStep (edition : Edition) : Unit → UInt8 → List UInt8 → Piece Unit :=
  eucStep (firstPlanePiece edition)
    fun code => (secondPlane? edition code).or (Charset.jisX0212.find? code)

/-- The row and the column that two octets of Shift JIS stand for, each from zero on. -/
def shiftPlace? (a b : UInt8) : Option (Nat × Nat) :=
  if b < 0x40 || b = 0x7f || 0xfc < b then none
  else
    let row := 2 * (a.toNat - (if a < 0xe0 then 0x81 else 0xc1))
    let column := b.toNat - (if b < 0x80 then 0x40 else 0x41)
    some (if column < 94 then (row, column) else (row + 1, column - 94))

/-- The code of a row and a column, each from zero on. -/
def placeCode (row column : Nat) : Nat := (row + 0x21) * 256 + (column + 0x21)

/-- A step of a form of Shift JIS whose first octets go up to a last one. -/
def shiftStep (last : UInt8) (char : UInt8 → Char) (pair : UInt8 → UInt8 → Piece Unit) (_ : Unit)
    (a : UInt8) (rest : List UInt8) : Piece Unit :=
  if a < 0x80 then .read [char a] 0 ()
  else
    match halfKatakana? a with
    | some c => .read [c] 0 ()
    | none =>
      if (0x81 ≤ a && a ≤ 0x9f) || (0xe0 ≤ a && a ≤ last) then
        match rest with
        | [] => .short
        | b :: _ => pair a b
      else .bad 0

/-- The character of JIS X 0208 that two octets of Shift JIS stand for. -/
def shiftChar? (a b : UInt8) : Option Char :=
  (shiftPlace? a b).bind fun place => Charset.jisX0208.find? (placeCode place.1 place.2)

/-- A step of Shift JIS. -/
def shiftJisStep : Unit → UInt8 → List UInt8 → Piece Unit :=
  shiftStep 0xea charOf fun a b => readOr ((shiftChar? a b).map ([·])) 1

/-- The row of the second plane of JIS X 0213 that comes after the first plane in Shift JIS. -/
def secondRow (row : Nat) : Nat :=
  if 0x67 ≤ row then row + 0x07 else if 0x63 ≤ row || row = 0x5f then row - 0x37 else row - 0x3d

/-- The characters of ASCII that codes of JIS X 0213 stand for in Shift JIS. -/
def shiftAscii : List (Nat × Char) := [(0x2140, '\\'), (0x2232, '~')]

/-- What a step finds for a row and a column of Shift JIS with JIS X 0213. -/
def shiftPlanesPiece (edition : Edition) (place : Nat × Nat) : Piece Unit :=
  if place.1 < 0x5e then
    let code := placeCode place.1 place.2
    match shiftAscii.lookup code with
    | some c => .read [c] 1 ()
    | none => firstPlanePiece edition code
  else
    readOr ((secondPlane? edition (secondRow place.1 * 256 + (place.2 + 0x21))).map ([·])) 1

/-- The character of an octet in the Roman set of JIS X 0201. -/
def romanChar (a : UInt8) : Char :=
  if a = 0x5c then '\u00a5' else if a = 0x7e then '\u203e' else charOf a

/-- A step of Shift JIS with JIS X 0213. -/
def shiftPlanesStep (edition : Edition) : Unit → UInt8 → List UInt8 → Piece Unit :=
  shiftStep 0xfc romanChar fun a b => (shiftPlace? a b).elim (.bad 0) (shiftPlanesPiece edition)

/-- The character for private use that two octets of the code page 932 stand for. -/
def privateChar? (a b : UInt8) : Option Char :=
  if a < 0xf0 || 0xf9 < a then none
  else
    (shiftPlace? a b).map fun place => Char.ofNat (0xe000 + (place.1 - 0x5e) * 94 + place.2)

/-- The character that two octets of the code page 932 stand for. -/
def pair932? (a b : UInt8) : Option Char :=
  (Charset.codePage932.find? (codeOf a b)).or ((shiftChar? a b).or (privateChar? a b))

/-- A step of the code page 932. -/
def codePage932Step (_ : Unit) (a : UInt8) (rest : List UInt8) : Piece Unit :=
  if a ≤ 0x80 then .read [charOf a] 0 ()
  else if a = 0xa0 then .read ['\uf8f0'] 0 ()
  else if 0xfd ≤ a then .read [Char.ofNat (0xf8f1 + (a.toNat - 0xfd))] 0 ()
  else
    match halfKatakana? a with
    | some c => .read [c] 0 ()
    | none =>
      match rest with
      | [] => .short
      | b :: _ => readOr ((pair932? a b).map ([·])) 1

end GatewayNat.Text.Japanese
