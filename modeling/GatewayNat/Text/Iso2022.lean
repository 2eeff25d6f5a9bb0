import GatewayNat.Text.Chinese
import GatewayNat.Text.CodePage.Iso8859
import GatewayNat.Text.Japanese
import GatewayNat.Text.Korean

/-!
# Codecs with escape sequences

ISO 2022 has character sets in use under designations.  An escape sequence
designates a set, and a variant knows some of the sets.

* A sequence starts with an escape and ends with a capital or `@`.
* G0 is in use unless the octets are shifted to G1.  Only some variants can shift,
  and the end of a line ends the shift.
* In one variant two octets after an escape stand for a character of G2.
* An escape of another kind and what follows it up to a capital stay as they are.
-/

namespace GatewayNat.Text.Iso2022

open Stepwise

/-- A character set that can be designated. -/
inductive DesignatedSet where
  | ascii
  | roman
  | katakana
  | jisX0208
  | jisX0208Old
  | jisX0212
  | jisX0213 (edition : Japanese.Edition)
  | jisX0213Second
  | ksX1001
  | gb2312
  | latin1
  | greek
  deriving DecidableEq, Repr

namespace DesignatedSet

/-- Whether the codes of a set have two octets. -/
def isDouble : DesignatedSet → Bool
  | .ascii | .roman | .katakana | .latin1 | .greek => false
  | _ => true

/-- The last octet of the escape sequences of a set. -/
def final : DesignatedSet → UInt8
  | .ascii => 0x42
  | .roman => 0x4a
  | .katakana => 0x49
  | .jisX0208 => 0x42
  | .jisX0208Old => 0x40
  | .jisX0212 => 0x44
  | .jisX0213 .first => 0x4f
  | .jisX0213 .later => 0x51
  | .jisX0213Second => 0x50
  | .ksX1001 => 0x43
  | .gb2312 => 0x41
  | .latin1 => 0x41
  | .greek => 0x46

/-- The character of one octet in a set. -/
def single? (set : DesignatedSet) (a : UInt8) : Option Char :=
  match set with
  | .ascii => some (charOf a)
  | .roman => some (Japanese.romanChar a)
  | .katakana => Japanese.halfKatakana? (a + 0x80)
  | _ => none

/-- The characters of two octets in a set. -/
def double? (set : DesignatedSet) (a b : UInt8) : Option (List Char) :=
  let code := codeOf a b
  match set with
  | .jisX0208 | .jisX0208Old => (Charset.jisX0208.find? code).map ([·])
  | .jisX0212 => (Charset.jisX0212.find? code).map ([·])
  | .jisX0213 edition =>
    if code = 0x2232 then some ['~'] else Japanese.firstPlane? edition code
  | .jisX0213Second => (Charset.jisX0213Second.find? code).map ([·])
  | .ksX1001 => (Charset.ksX1001.find? code).map ([·])
  | .gb2312 =>
    if b < 0x80 then (Chinese.gb2312? (codeOf (a + 0x80) (b + 0x80))).map ([·]) else none
  | _ => none

/-- The octets of ISO 8859-7 that its first edition, which is the one in use, does not have.  Their
highest bits are not set here. -/
def newGreek : List UInt8 := [0x24, 0x25, 0x2a]

/-- The character of an octet in a set that is used as G2. -/
def upper? (set : DesignatedSet) (a : UInt8) : Option Char :=
  match set with
  | .ascii => if a < 0x80 then some (charOf a) else none
  | .latin1 => if a < 0x80 then some (charOf (a + 0x80)) else none
  | .greek => if newGreek.contains a then none else CodePage.iso8859_7.char? (a ^^^ 0x80)
  | _ => none

end DesignatedSet

/-- A variant. -/
structure Variant where
  name : String
  sets : List DesignatedSet
  /-- Whether octets can be shifted to G1. -/
  shifts : Bool
  /-- Whether G2 can be used. -/
  hasG2 : Bool
  /-- Whether a sequence may name the edition of its set first. -/
  hasEditions : Bool
  deriving DecidableEq, Repr

/-- What is in use. -/
structure State where
  g0 : DesignatedSet
  g1 : DesignatedSet
  g2 : DesignatedSet
  shifted : Bool
  /-- Whether octets are passed on as they are. -/
  passing : Bool
  deriving DecidableEq, Repr

/-- What is in use at the start. -/
def State.start : State := ⟨.ascii, .ascii, .ascii, false, false⟩

/-- Whether an octet ends an escape sequence. -/
def isEnd (a : UInt8) : Bool := 0x40 ≤ a && a ≤ 0x5a

/-- Whether an octet after an escape goes on with a sequence. -/
def isSequence (a : UInt8) : Bool := [0x24, 0x26, 0x28, 0x29, 0x2e].contains a

/-- The greatest number of octets of a sequence. -/
def maxSequence : Nat := 16

/-- Octets with more of them at their end, if there are any more. -/
def extend (octets more : List UInt8) : List UInt8 := if more.isEmpty then [] else octets ++ more

/-- The octets of a sequence up to its end, from an index on.  Without an end among the octets that
a sequence may have there is an empty list, and nothing if the octets end before. -/
def sequence? (hasEditions : Bool) (index : Nat) : List UInt8 → Option (List UInt8)
  | [] => if maxSequence ≤ index then some [] else none
  | a :: rest =>
    if maxSequence ≤ index then some []
    else if isEnd a then some [a]
    else
      match rest with
      | b :: c :: more =>
        if hasEditions && a = 0x26 && b = 0x40 then
          (sequence? hasEditions (index + 3) more).map (extend [a, b, c])
        else (sequence? hasEditions (index + 1) (b :: c :: more)).map (extend [a])
      | [b] =>
        if hasEditions && a = 0x26 && b = 0x40 then sequence? hasEditions (index + 3) []
        else (sequence? hasEditions (index + 1) [b]).map (extend [a])
      | [] => sequence? hasEditions (index + 1) []

/-- What a sequence designates: a place, whether codes have two octets, and the last octet. -/
def designation? (v : Variant) : List UInt8 → Option (Nat × Bool × UInt8)
  | [0x24, final] => some (0, true, final)
  | [0x28, final] => some (0, false, final)
  | [0x29, final] => some (1, false, final)
  | [0x2e, final] => if v.hasG2 then some (2, false, final) else none
  | [0x24, 0x28, final] => some (0, true, final)
  | [0x24, 0x29, final] => some (1, true, final)
  | [_, _, 0x1b, 0x24, 0x42] => if v.hasEditions then some (0, true, 0x42) else none
  | _ => none

/-- The set of a last octet. -/
def setOf? (v : Variant) (double : Bool) (final : UInt8) : Option DesignatedSet :=
  (DesignatedSet.ascii :: v.sets).find? fun set => set.isDouble = double && set.final = final

/-- What is in use after a set is designated. -/
def State.designate (state : State) (place : Nat) (set : DesignatedSet) : State :=
  match place with
  | 0 => { state with g0 := set }
  | 1 => { state with g1 := set }
  | _ => { state with g2 := set }

/-- A step that starts with a sequence. -/
def sequenceStep (v : Variant) (state : State) (rest : List UInt8) : Piece State :=
  match sequence? v.hasEditions 1 rest with
  | none => .short
  | some [] => .bad 0
  | some octets =>
    match designation? v octets with
    | none => .bad octets.length
    | some (place, double, final) =>
      match setOf? v double final with
      | none => .bad octets.length
      | some set => .read [] octets.length (state.designate place set)

/-- A step that starts with an escape. -/
def escapeStep (v : Variant) (state : State) (rest : List UInt8) : Piece State :=
  match rest with
  | [] => .short
  | b :: more =>
    if isSequence b then sequenceStep v state rest
    else if v.hasG2 && b = 0x4e then
      match more with
      | [] => .short
      | c :: _ =>
        match state.g2.upper? c with
        | some char => .read [char] 2 state
        | none => .bad 2
    else .read ['\x1b'] 0 { state with passing := true }

/-- A step with a character of the set in use. -/
def charStep (state : State) (a : UInt8) (rest : List UInt8) : Piece State :=
  let set := if state.shifted then state.g1 else state.g0
  if !set.isDouble then
    match set.single? a with
    | some c => .read [c] 0 state
    | none => .bad 0
  else
    match rest with
    | [] => .short
    | b :: _ =>
      match set.double? a b with
      | some chars => .read chars 1 state
      | none => .bad 1

/-- A step. -/
def step (v : Variant) (state : State) (a : UInt8) (rest : List UInt8) : Piece State :=
  if state.passing then .read [charOf a] 0 { state with passing := !isEnd a }
  else if a = 0x1b then escapeStep v state rest
  else if v.shifts && (a = 0x0e || a = 0x0f) then .read [] 0 { state with shifted := a = 0x0e }
  else if a = 0x0a then .read [charOf a] 0 { state with shifted := false }
  else if a < 0x20 then .read [charOf a] 0 state
  else if 0x80 ≤ a then .bad 0
  else charStep state a rest

/-! ## Variants -/

/-- A variant for Japanese, which cannot shift. -/
def japanese (name : String) (sets : List DesignatedSet) (hasG2 : Bool) : Variant :=
  ⟨name, sets, false, hasG2, true⟩

/-- The first variant for Japanese. -/
def jp : Variant := japanese "iso2022_jp" [.jisX0208, .roman, .jisX0208Old] false

/-- The variant with JIS X 0212. -/
def jp1 : Variant := japanese "iso2022_jp_1" [.jisX0208, .jisX0212, .roman, .jisX0208Old] false

/-- The variant for several scripts. -/
def jp2 : Variant :=
  japanese "iso2022_jp_2"
    [.jisX0208, .jisX0212, .ksX1001, .gb2312, .roman, .jisX0208Old, .latin1, .greek] true

/-- The variant with an edition of JIS X 0213. -/
def jpPlanes (edition : Japanese.Edition) : Variant :=
  japanese (match edition with | .first => "iso2022_jp_3" | .later => "iso2022_jp_2004")
    [.jisX0208, .jisX0213 edition, .jisX0213Second] false

/-- The variant with halves of katakana. -/
def jpExtended : Variant :=
  japanese "iso2022_jp_ext" [.jisX0208, .jisX0212, .roman, .katakana, .jisX0208Old] false

/-- The variant for Korean. -/
def kr : Variant := ⟨"iso2022_kr", [.ksX1001], true, false, false⟩

end GatewayNat.Text.Iso2022
