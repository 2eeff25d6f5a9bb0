import GatewayNat.Text.CharacterName
import GatewayNat.Text.Utf8

/-!
# Escapes in octets

An octet is the character of its own number, but a backslash starts an escape.

* `\u` has four and `\U` has eight hexadecimal digits.  They are the number of a
  code point, which may be a lone surrogate.
* The full set of escapes has two hexadecimal digits after `\x`, up to three octal
  digits, single letters for some control characters, quotes, and an end of line,
  which stands for nothing.  No character has a name here.
* A backslash before another octet stands for itself, and so does that octet.
-/

namespace GatewayNat.Text.Escaped

/-- Which escapes there are. -/
inductive Repertoire where
  | full
  /-- Code points of four and of eight digits only. -/
  | numeric
  deriving DecidableEq, Repr

/-- The name of the codec in the wording of faults. -/
def Repertoire.codecName : Repertoire → String
  | .full => "unicodeescape"
  | .numeric => "rawunicodeescape"

/-- Why octets are no escape. -/
inductive Reason where
  | atEnd
  /-- There are not enough digits. -/
  | tooShort (digits : Nat)
  /-- The number is that of no code point. -/
  | outOfRange (repertoire : Repertoire)
  | malformedName
  | unknownName
  deriving DecidableEq, Repr

/-- The wording of a reason. -/
def Reason.message : Reason → String
  | .atEnd => "\\ at end of string"
  | .tooShort digits =>
    "truncated \\" ++ (if digits = 2 then "x" else if digits = 4 then "u" else "U") ++
      String.ofList (List.replicate digits 'X') ++ " escape"
  | .outOfRange .full => "illegal Unicode character"
  | .outOfRange .numeric => "\\Uxxxxxxxx out of range"
  | .malformedName => "malformed \\N character escape"
  | .unknownName => "unknown Unicode character name"

/-- Where decoding stopped. -/
structure Fault where
  repertoire : Repertoire
  /-- The position of the backslash. -/
  start : Nat
  /-- The number of octets of the fault. -/
  length : Nat
  reason : Reason
  deriving DecidableEq, Repr

/-- The octet of a backslash. -/
def backslash : UInt8 := 0x5c

/-- The wording of a fault. -/
def Fault.message (f : Fault) : String :=
  undecodableMessage f.repertoire.codecName backslash f.start f.length f.reason.message

/-- What comes after a backslash. -/
inductive Piece where
  /-- A number of octets, and the code points that they and the backslash stand for. -/
  | read (points : List CodePoint) (further : Nat)
  /-- A number of octets that are no escape. -/
  | bad (further : Nat) (reason : Reason)
  deriving DecidableEq, Repr

/-- The character of an octet. -/
def charOf (octet : UInt8) : Char := Char.ofNat octet.toNat

/-- The code point of an octet. -/
def point (octet : UInt8) : CodePoint := .char (charOf octet)

/-- The value of a hexadecimal digit. -/
def hexDigit? (octet : UInt8) : Option Nat :=
  if 0x30 ≤ octet && octet ≤ 0x39 then some (octet.toNat - 0x30)
  else if 0x61 ≤ octet && octet ≤ 0x66 then some (octet.toNat - 0x61 + 10)
  else if 0x41 ≤ octet && octet ≤ 0x46 then some (octet.toNat - 0x41 + 10)
  else none

/-- The value of an octal digit. -/
def octalDigit? (octet : UInt8) : Option Nat :=
  if 0x30 ≤ octet && octet ≤ 0x37 then some (octet.toNat - 0x30) else none

/-- The values of the digits at the start, up to a number of them. -/
def digits (digit? : UInt8 → Option Nat) : Nat → List UInt8 → List Nat
  | 0, _ | _, [] => []
  | count + 1, a :: rest =>
    match digit? a with
    | some digit => digit :: digits digit? count rest
    | none => []

/-- The number that digits in a base are. -/
def number (base : Nat) (digits : List Nat) : Nat := digits.foldl (fun n d => n * base + d) 0

/-- The escape with a number of hexadecimal digits, which come after its letter. -/
def hexPiece (repertoire : Repertoire) (count : Nat) (octets : List UInt8) : Piece :=
  let digits := digits hexDigit? count octets
  if digits.length < count then .bad (digits.length + 1) (.tooShort count)
  else
    match CodePoint.ofValue? (number 16 digits) with
    | some point => .read [point] (count + 1)
    | none => .bad (count + 1) (.outOfRange repertoire)

/-- The escape with a name, which comes after its letter. -/
def namePiece : List UInt8 → Piece
  | 0x7b :: rest =>
    let name := rest.takeWhile (· ≠ 0x7d)
    if name.isEmpty || name.length = rest.length then .bad (name.length + 2) .malformedName
    else
      match CharacterName.find? (name.map charOf) with
      | some n => .read [.char (Char.ofNat n)] (name.length + 3)
      | none => .bad (name.length + 3) .unknownName
  | _ => .bad 1 .malformedName

/-- The character that an octet after a backslash stands for. -/
def simple? (octet : UInt8) : Option Char :=
  [(0x5c, '\\'), (0x27, '\x27'), (0x22, '\x22'), (0x62, '\x08'), (0x66, '\x0c'), (0x74, '\t'),
    (0x6e, '\n'), (0x72, '\r'), (0x76, '\x0b'), (0x61, '\x07')].lookup octet

/-- The piece of a backslash and an octet that stand for themselves. -/
def plain (octet : UInt8) : Piece := .read [point backslash, point octet] 1

/-- The piece of the octets after a backslash. -/
def piece (repertoire : Repertoire) : List UInt8 → Piece
  | [] =>
    match repertoire with
    | .full => .bad 0 .atEnd
    | .numeric => .read [point backslash] 0
  | a :: rest =>
    if a = 0x75 then hexPiece repertoire 4 rest
    else if a = 0x55 then hexPiece repertoire 8 rest
    else if repertoire = .numeric then plain a
    else if a = 0x78 then hexPiece repertoire 2 rest
    else if a = 0x4e then namePiece rest
    else if a = 0x0a then .read [] 1
    else
      match simple? a with
      | some c => .read [.char c] 1
      | none =>
        match digits octalDigit? 3 (a :: rest) with
        | [] => plain a
        | octal => .read [.char (Char.ofNat (number 8 octal))] octal.length

/-- Decodes octets that start at a position. -/
def decodeFrom (repertoire : Repertoire) (position : Nat) :
    List UInt8 → Except Fault (List CodePoint)
  | [] => .ok []
  | a :: rest =>
    if a ≠ backslash then (decodeFrom repertoire (position + 1) rest).map (point a :: ·)
    else
      match piece repertoire rest with
      | .bad further reason => .error ⟨repertoire, position, further + 1, reason⟩
      | .read points further =>
        (decodeFrom repertoire (position + further + 1) (rest.drop further)).map (points ++ ·)
termination_by octets => octets.length
decreasing_by
  · simp
  · simp only [List.length_drop, List.length_cons]
    omega

/-- The text that the octets encode. -/
def decode (repertoire : Repertoire) (octets : List UInt8) : Except Fault Text :=
  (decodeFrom repertoire 0 octets).map Text.ofPoints

end GatewayNat.Text.Escaped
