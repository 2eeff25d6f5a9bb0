import GatewayNat.Text.Basic

/-!
# UTF-8

`decode` reads octets as UTF-8 and stops at the first fault.  A fault covers the
octets that can be the start of one character and names why they are not one.

* A start octet is one of 0x00 to 0x7f, 0xc2 to 0xdf, 0xe0 to 0xef or 0xf0 to
  0xf4.  Any other octet is a fault on its own.
* The second octet lies in 0x80 to 0xbf, after 0xe0 not below 0xa0, after 0xed
  not above 0x9f, after 0xf0 not below 0x90 and after 0xf4 not above 0x8f.  So
  no character has two encodings, and none is a surrogate.
* A later octet lies in 0x80 to 0xbf.
* Octets that end inside a character are a fault up to the end.

An alphabet with surrogates has them in three octets each, with 0xed in front.
`decode` has characters only, and `decodePoints` has surrogates too.

A text with lone surrogates has no octets.  `encodeFault?` gives the place of the
first of them, up to the last one beside it.
-/

namespace GatewayNat.Text

/-- The wording for octets that a codec cannot decode.  A single octet is shown, and more of them
are told by their positions. -/
def undecodableMessage (codec : String) (octet : UInt8) (start length : Nat) (reason : String) :
    String :=
  let place :=
    if length = 1 then
      let digits := Nat.toDigits 16 octet.toNat
      "byte 0x" ++ String.ofList (List.replicate (2 - digits.length) '0' ++ digits) ++
        " in position " ++ toString start
    else "bytes in position " ++ toString start ++ "-" ++ toString (start + length - 1)
  "'" ++ codec ++ "' codec can't decode " ++ place ++ ": " ++ reason

namespace Utf8

/-- Why octets are not a character. -/
inductive Reason where
  | startByte
  | continuation
  | endOfData
  deriving DecidableEq, Repr

/-- Where decoding stopped. -/
structure Fault where
  /-- The first octet of the fault. -/
  octet : UInt8
  /-- Its position. -/
  start : Nat
  /-- The number of octets of the fault. -/
  length : Nat
  /-- The reason. -/
  reason : Reason
  deriving DecidableEq, Repr

/-- The wording of a reason. -/
def Reason.message : Reason → String
  | .startByte => "invalid start byte"
  | .continuation => "invalid continuation byte"
  | .endOfData => "unexpected end of data"

/-- The wording of a fault. -/
def Fault.message (f : Fault) : String :=
  undecodableMessage "utf-8" f.octet f.start f.length f.reason.message

/-- Whether an octet may follow a start octet. -/
def follows (lead next : UInt8) : Bool :=
  (if lead = 0xe0 then 0xa0 else if lead = 0xf0 then 0x90 else 0x80) ≤ next &&
    next ≤ (if lead = 0xed then 0x9f else if lead = 0xf4 then 0x8f else 0xbf)

/-- Whether an octet may be the third or fourth of a character. -/
def continues (next : UInt8) : Bool := 0x80 ≤ next && next ≤ 0xbf

/-- The six bits that an octet after the first adds to a code point. -/
def payload (next : UInt8) : Nat := next.toNat % 64

/-- The code point of two octets. -/
def value2 (a b : UInt8) : Nat := a.toNat % 32 * 64 + payload b

/-- The code point of three octets. -/
def value3 (a b c : UInt8) : Nat := a.toNat % 16 * 4096 + payload b * 64 + payload c

/-- The code point of four octets. -/
def value4 (a b c d : UInt8) : Nat :=
  a.toNat % 8 * 262144 + payload b * 4096 + payload c * 64 + payload d

variable {α : Type}

/-- What three octets are taken for that are a lone surrogate. -/
def lone? (alphabet : Alphabet α) (a b c : UInt8) : Option α :=
  if a = 0xed && continues b && continues c then alphabet.loneUnit (value3 a b c) else none

/-- Decodes octets that start at a position, after what has been read in reverse. -/
def decodeFrom (alphabet : Alphabet α) (done : List α) (start : Nat) :
    List UInt8 → Except Fault (List α)
  | [] => .ok done.reverse
  | a :: rest =>
    if a < 0x80 then
      decodeFrom alphabet (alphabet.char (Char.ofNat a.toNat) :: done) (start + 1) rest
    else if a < 0xc2 || 0xf4 < a then .error ⟨a, start, 1, .startByte⟩
    else
      match rest with
      | [] => .error ⟨a, start, 1, .endOfData⟩
      | b :: rest =>
        if !follows a b then
          match rest with
          | [] => .error ⟨a, start, 1, .continuation⟩
          | c :: rest =>
            match lone? alphabet a b c with
            | some point => decodeFrom alphabet (point :: done) (start + 3) rest
            | none => .error ⟨a, start, 1, .continuation⟩
        else if a < 0xe0 then
          decodeFrom alphabet (alphabet.char (Char.ofNat (value2 a b)) :: done) (start + 2) rest
        else
          match rest with
          | [] => .error ⟨a, start, 2, .endOfData⟩
          | c :: rest =>
            if !continues c then .error ⟨a, start, 2, .continuation⟩
            else if a < 0xf0 then
              decodeFrom alphabet (alphabet.char (Char.ofNat (value3 a b c)) :: done) (start + 3)
                rest
            else
              match rest with
              | [] => .error ⟨a, start, 3, .endOfData⟩
              | d :: rest =>
                if !continues d then .error ⟨a, start, 3, .continuation⟩
                else
                  decodeFrom alphabet (alphabet.char (Char.ofNat (value4 a b c d)) :: done)
                    (start + 4) rest

/-- The text that the octets encode. -/
def decode (octets : List UInt8) : Except Fault String :=
  (decodeFrom .chars [] 0 octets).map String.ofList

/-- The text that the octets encode, if lone surrogates may be among them. -/
def decodePoints (octets : List UInt8) : Except Fault Text :=
  (decodeFrom .points [] 0 octets).map Text.ofPoints

/-! ## Encoding -/

/-- The place of lone surrogates side by side in a text, which have no octets. -/
structure EncodeFault where
  first : Surrogate
  start : Nat
  length : Nat
  deriving DecidableEq, Repr

/-- The wording for surrogates that cannot be encoded. -/
def EncodeFault.message (f : EncodeFault) : String :=
  let place :=
    if f.length = 1 then
      "character '\\u" ++ String.ofList (Nat.toDigits 16 f.first.unit) ++ "' in position " ++
        toString f.start
    else
      "characters in position " ++ toString f.start ++ "-" ++ toString (f.start + f.length - 1)
  "'utf-8' codec can't encode " ++ place ++ ": surrogates not allowed"

/-- The number of surrogates that stand side by side at the start. -/
def adjacentCount : List (Surrogate × String) → Nat
  | [] => 0
  | (_, after) :: rest => if after = "" then adjacentCount rest + 1 else 1

/-- The place of the first surrogates of a text, if it has any. -/
def encodeFault? (t : Text) : Option EncodeFault :=
  match t.rest with
  | [] => none
  | (first, after) :: rest => some ⟨first, t.start.length, adjacentCount ((first, after) :: rest)⟩

end Utf8

end GatewayNat.Text
