import GatewayNat.Text.Utf8

/-!
# UTF-16 and UTF-32

`decode16` reads octets as units of 16 bits and `decode32` as units of 32 bits.
The octets of a unit stand in increasing weight if they are little, and else in
decreasing weight.  Reading stops at the first fault.

* A high and a low surrogate stand for a character, and neither of them does
  alone.
* A unit of 32 bits is the code point of a character.
* Octets that are too few for a unit, or that end inside a pair, are a fault up
  to the end.

An alphabet with surrogates has those without partners too.  `decodePoints16`
and `decodePoints32` read with it.
-/

namespace GatewayNat.Text.Wide

/-- Why octets are not a character. -/
inductive Reason where
  | partOfUnit
  | partOfPair
  | lowAlone
  | highAlone
  | surrogate
  | outOfRange
  deriving DecidableEq, Repr

/-- The wording of a reason. -/
def Reason.message : Reason → String
  | .partOfUnit => "truncated data"
  | .partOfPair => "unexpected end of data"
  | .lowAlone => "illegal encoding"
  | .highAlone => "illegal UTF-16 surrogate"
  | .surrogate => "code point in surrogate code point range(0xd800, 0xe000)"
  | .outOfRange => "code point not in range(0x110000)"

/-- Where decoding stopped. -/
structure Fault where
  /-- The first octet of the fault. -/
  octet : UInt8
  /-- Its position. -/
  start : Nat
  /-- The number of octets of the fault. -/
  length : Nat
  /-- The reason. -/
  reason : Reason
  deriving DecidableEq, Repr

/-- The wording of a fault in units of a number of bits. -/
def Fault.message (bits : Nat) (little : Bool) (f : Fault) : String :=
  undecodableMessage ("utf-" ++ toString bits ++ (if little then "-le" else "-be")) f.octet f.start
    f.length f.reason.message

/-- The unit of two octets. -/
def unit16 (little : Bool) (a b : UInt8) : Nat :=
  if little then b.toNat * 256 + a.toNat else a.toNat * 256 + b.toNat

/-- The unit of four octets. -/
def unit32 (little : Bool) (a b c d : UInt8) : Nat :=
  if little then unit16 little c d * 65536 + unit16 little a b
  else unit16 little a b * 65536 + unit16 little c d

variable {α : Type}

/-- Decodes units of 16 bits that start at a position, after what has been read in reverse. -/
def decode16From (alphabet : Alphabet α) (little : Bool) (done : List α) (start : Nat) :
    List UInt8 → Except Fault (List α)
  | [] => .ok done.reverse
  | [a] => .error ⟨a, start, 1, .partOfUnit⟩
  | a :: b :: rest =>
    let u := unit16 little a b
    if isLowSurrogate u then
      match alphabet.loneUnit u with
      | some point => decode16From alphabet little (point :: done) (start + 2) rest
      | none => .error ⟨a, start, 2, .lowAlone⟩
    else if isHighSurrogate u then
      match rest with
      | c :: d :: more =>
        let v := unit16 little c d
        if isLowSurrogate v then
          decode16From alphabet little (alphabet.char (pairChar u v) :: done) (start + 4) more
        else
          match alphabet.loneUnit u with
          | some point => decode16From alphabet little (point :: done) (start + 2) (c :: d :: more)
          | none => .error ⟨a, start, 2, .highAlone⟩
      | short =>
        match alphabet.loneUnit u with
        | some point => decode16From alphabet little (point :: done) (start + 2) short
        | none => .error ⟨a, start, short.length + 2, .partOfPair⟩
    else decode16From alphabet little (alphabet.char (Char.ofNat u) :: done) (start + 2) rest

/-- Decodes units of 32 bits that start at a position, after what has been read in reverse. -/
def decode32From (alphabet : Alphabet α) (little : Bool) (done : List α) (start : Nat) :
    List UInt8 → Except Fault (List α)
  | [] => .ok done.reverse
  | a :: b :: c :: d :: rest =>
    let u := unit32 little a b c d
    if isHighSurrogate u || isLowSurrogate u then
      match alphabet.loneUnit u with
      | some point => decode32From alphabet little (point :: done) (start + 4) rest
      | none => .error ⟨a, start, 4, .surrogate⟩
    else if 0x110000 ≤ u then .error ⟨a, start, 4, .outOfRange⟩
    else decode32From alphabet little (alphabet.char (Char.ofNat u) :: done) (start + 4) rest
  | a :: rest => .error ⟨a, start, rest.length + 1, .partOfUnit⟩

/-- The text of units of 16 bits that start at a position. -/
def decode16 (little : Bool) (start : Nat) (octets : List UInt8) : Except Fault String :=
  (decode16From .chars little [] start octets).map String.ofList

/-- The text of units of 32 bits that start at a position. -/
def decode32 (little : Bool) (start : Nat) (octets : List UInt8) : Except Fault String :=
  (decode32From .chars little [] start octets).map String.ofList

/-- The text of units of 16 bits, if lone surrogates may be among them. -/
def decodePoints16 (little : Bool) (octets : List UInt8) : Except Fault Text :=
  (decode16From .points little [] 0 octets).map Text.ofPoints

/-- The text of units of 32 bits, if lone surrogates may be among them. -/
def decodePoints32 (little : Bool) (octets : List UInt8) : Except Fault Text :=
  (decode32From .points little [] 0 octets).map Text.ofPoints

end GatewayNat.Text.Wide
