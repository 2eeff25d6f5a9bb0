import GatewayNat.Text.Charset.KsX1001
import GatewayNat.Text.Hangul
import GatewayNat.Text.Stepwise

/-!
# Korean codecs

All of them have ASCII in one octet and a character of KS X 1001 in two.

* In EUC the octets are those of the code, each with its highest bit set.  A
  syllable without a code may be spelled by its letters after a filler.
* The unified Hangul code adds the other syllables.
* Johab has the places of the letters of a syllable in the bits of the octets.
  All else is in two rows of the set at a time.
-/

namespace GatewayNat.Text.Korean

open Stepwise

/-- The character of KS X 1001 that two octets of EUC stand for. -/
def eucChar? (a b : UInt8) : Option Char :=
  if a < 0x80 || b < 0x80 then none else Charset.ksX1001.find? (codeOf (a - 0x80) (b - 0x80))

/-- The letter that an octet after the first octet of letters stands for. -/
def letter? (octet : UInt8) : Option Char := eucChar? 0xa4 octet

/-- The syllable that is spelled by its letters. -/
def spelled? (initial medial final : UInt8) : Option Char := do
  let i ← letter? initial
  let m ← letter? medial
  if final = 0xd4 then Hangul.ofLetters? i m none
  else Hangul.ofLetters? i m (some (← letter? final))

/-- A step of EUC. -/
def eucStep (_ : Unit) (a : UInt8) (rest : List UInt8) : Piece Unit :=
  if a < 0x80 then .read [charOf a] 0 ()
  else
    match rest with
    | [] => .short
    | b :: more =>
      if a = 0xa4 && b = 0xd4 then
        match more with
        | i :: initial :: m :: medial :: f :: final :: _ =>
          if i = 0xa4 && m = 0xa4 && f = 0xa4 then
            readOr ((spelled? initial medial final).map ([·])) 7
          else .bad 0
        | _ => .short
      else readOr ((eucChar? a b).map ([·])) 1

/-- A step of the unified Hangul code. -/
def unifiedStep : Unit → UInt8 → List UInt8 → Piece Unit :=
  pairStep fun a b => ((eucChar? a b).or (Charset.unifiedHangul.find? (codeOf a b))).map ([·])

/-- The place of a letter, or its absence. -/
inductive Slot where
  | empty
  | letter (index : Nat)
  deriving DecidableEq, Repr

/-- What five bits of Johab say of an initial. -/
def initialSlot? (bits : Nat) : Option Slot :=
  if bits = 1 then some .empty
  else if 2 ≤ bits && bits ≤ 20 then some (.letter (bits - 2))
  else none

/-- What five bits of Johab say of a medial. -/
def medialSlot? (bits : Nat) : Option Slot :=
  if bits = 2 then some .empty
  else if 3 ≤ bits && bits ≤ 29 && 2 ≤ bits % 8 then
    if bits % 8 = 2 && bits < 8 then none
    else some (.letter (bits / 8 * 6 + bits % 8 - 3))
  else none

/-- What five bits of Johab say of a final. -/
def finalSlot? (bits : Nat) : Option Slot :=
  if bits = 1 then some .empty
  else if 2 ≤ bits && bits ≤ 17 then some (.letter (bits - 2))
  else if 19 ≤ bits && bits ≤ 29 then some (.letter (bits - 3))
  else none

/-- The character of letters in their places.  Letters may stand alone. -/
def johabSyllable? : Slot → Slot → Slot → Option Char
  | .empty, .empty, .empty => some '\u3000'
  | .letter i, .empty, .empty => Hangul.initials[i]?
  | .empty, .letter m, .empty => Hangul.medials[m]?
  | .empty, .empty, .letter f => Hangul.finals[f]?
  | .letter i, .letter m, .empty => some (Hangul.syllable i m 0)
  | .letter i, .letter m, .letter f => some (Hangul.syllable i m (f + 1))
  | _, _, _ => none

/-- The syllable that two octets of Johab stand for. -/
def johabHangul? (a b : UInt8) : Option Char := do
  let bits := codeOf a b
  johabSyllable? (← initialSlot? (bits / 1024 % 32)) (← medialSlot? (bits / 32 % 32))
    (← finalSlot? (bits % 32))

/-- The other character that two octets of Johab stand for. -/
def johabOther? (a b : UInt8) : Option Char :=
  if a = 0xd8 || a = 0xdf || 0xf9 < a || b < 0x31 || (0x7f ≤ b && b < 0x91) || b = 0xff ||
      (a = 0xda && 0xa1 ≤ b && b ≤ 0xd3) then none
  else
    let row := if a < 0xe0 then 2 * (a.toNat - 0xd9) else 2 * a.toNat - 0x197
    let column := b.toNat - (if b < 0x91 then 0x31 else 0x43)
    let place := if column < 94 then (row, column) else (row + 1, column - 94)
    Charset.ksX1001.find? ((place.1 + 0x21) * 256 + (place.2 + 0x21))

/-- A step of Johab. -/
def johabStep : Unit → UInt8 → List UInt8 → Piece Unit :=
  pairStep fun a b => (if a < 0xd8 then johabHangul? a b else johabOther? a b).map ([·])

end GatewayNat.Text.Korean
