import GatewayNat.Text.Utf8

/-!
# UTF-7

In UTF-7 an ASCII character stands for itself, and all else is in runs of base64.
A run starts with a plus sign and has units of 16 bits, six bits in each octet.

* A minus sign after a run ends it and is no part of the text.  Any other octet
  that is no digit of base64 ends the run too.
* A plus sign with a minus sign after it stands for the plus sign.
* What is left of the bits at the end of a run has to be less than six zeros.
* A high and a low surrogate in a run stand for a character.  A surrogate without
  its partner stays alone.

A fault that ends a run starts at its plus sign.
-/

namespace GatewayNat.Text.Utf7

/-- Why octets are no text. -/
inductive Reason where
  /-- An octet beyond ASCII. -/
  | special
  /-- An octet after a plus sign is no digit of base64. -/
  | illFormed
  /-- Six bits or more are left at the end of a run. -/
  | partOfUnit
  /-- Bits that are left at the end of a run are not zero. -/
  | padding
  /-- The octets end inside a run that cannot end there. -/
  | unterminated
  deriving DecidableEq, Repr

/-- The wording of a reason. -/
def Reason.message : Reason → String
  | .special => "unexpected special character"
  | .illFormed => "ill-formed sequence"
  | .partOfUnit => "partial character in shift sequence"
  | .padding => "non-zero padding bits in shift sequence"
  | .unterminated => "unterminated shift sequence"

/-- Where decoding stopped. -/
structure Fault where
  /-- The first octet of the fault. -/
  octet : UInt8
  /-- Its position. -/
  start : Nat
  /-- The number of octets of the fault. -/
  length : Nat
  reason : Reason
  deriving DecidableEq, Repr

/-- The wording of a fault. -/
def Fault.message (f : Fault) : String :=
  undecodableMessage "utf7" f.octet f.start f.length f.reason.message

/-- The octet of the plus sign. -/
def plus : UInt8 := 0x2b

/-- The octet of the minus sign. -/
def minus : UInt8 := 0x2d

/-- The value of a digit of base64. -/
def digit? (octet : UInt8) : Option Nat :=
  if 0x41 ≤ octet && octet ≤ 0x5a then some (octet.toNat - 0x41)
  else if 0x61 ≤ octet && octet ≤ 0x7a then some (octet.toNat - 0x61 + 26)
  else if 0x30 ≤ octet && octet ≤ 0x39 then some (octet.toNat - 0x30 + 52)
  else if octet = plus then some 62
  else if octet = 0x2f then some 63
  else none

/-! ## Runs -/

/-- A run of base64 as far as it is read. -/
structure Run where
  /-- The position of its plus sign. -/
  start : Nat
  /-- The number of bits that are left. -/
  bits : Nat
  /-- The number that these bits are. -/
  value : Nat
  /-- A high surrogate whose partner may come. -/
  high : Option Surrogate
  deriving DecidableEq, Repr

namespace Run

/-- The run of a plus sign. -/
def ofStart (start : Nat) : Run := ⟨start, 0, 0, none⟩

/-- A surrogate on its own, if there is one. -/
def alone (high : Option Surrogate) : List CodePoint := (high.map .lone).toList

/-- A high surrogate that may come before a unit, with the code points up to that unit. -/
def addUnit (high : Option Surrogate) (unit : Nat) : Option Surrogate × List CodePoint :=
  match high, Surrogate.ofUnit? unit with
  | some first, some second =>
    if isLowSurrogate unit then (none, [.char (pairChar first.unit unit)])
    else (some second, [.lone first])
  | none, some second => if isLowSurrogate unit then (none, [.lone second]) else (some second, [])
  | high, none => (none, alone high ++ [.char (Char.ofNat unit)])

/-- The run after one more digit, with the code points that are read then. -/
def addDigit (run : Run) (digit : Nat) : Run × List CodePoint :=
  let bits := run.bits + 6
  let value := run.value * 64 + digit
  if bits < 16 then ({ run with bits, value }, [])
  else
    let weight := 1 <<< (bits - 16)
    let (high, points) := addUnit run.high (value / weight)
    ({ run with bits := bits - 16, value := value % weight, high }, points)

/-- Why the run cannot end. -/
def openReason? (run : Run) : Option Reason :=
  if 6 ≤ run.bits then some .partOfUnit else if run.value ≠ 0 then some .padding else none

/-- Whether the run can end with the octets. -/
def isComplete (run : Run) : Bool := run.openReason?.isNone && run.high.isNone

end Run

/-! ## Decoding -/

/-- Decodes octets that start at a position, inside a run or not, after what has been read in
reverse. -/
def decodeFrom (run : Option Run) (done : List CodePoint) (position : Nat) :
    List UInt8 → Except Fault (List CodePoint)
  | [] =>
    match run with
    | none => .ok done.reverse
    | some run =>
      if run.isComplete then .ok done.reverse
      else .error ⟨plus, run.start, position - run.start, .unterminated⟩
  | a :: rest =>
    match run with
    | some run =>
      match digit? a with
      | some digit =>
        let (next, points) := run.addDigit digit
        decodeFrom (some next) (points.reverse ++ done) (position + 1) rest
      | none =>
        match run.openReason? with
        | some reason => .error ⟨plus, run.start, position + 1 - run.start, reason⟩
        | none =>
          let done := Run.alone run.high ++ done
          if a = minus then decodeFrom none done (position + 1) rest
          else if a < 0x80 then
            decodeFrom none (.char (Char.ofNat a.toNat) :: done) (position + 1) rest
          else .error ⟨a, position, 1, .special⟩
    | none =>
      if a = plus then
        match rest with
        | [] => .ok done.reverse
        | b :: more =>
          if b = minus then decodeFrom none (.char '+' :: done) (position + 2) more
          else if (digit? b).isSome then
            decodeFrom (some (.ofStart position)) done (position + 1) (b :: more)
          else .error ⟨plus, position, 2, .illFormed⟩
      else if a < 0x80 then
        decodeFrom none (.char (Char.ofNat a.toNat) :: done) (position + 1) rest
      else .error ⟨a, position, 1, .special⟩

/-- The text that the octets encode. -/
def decode (octets : List UInt8) : Except Fault Text :=
  (decodeFrom none [] 0 octets).map Text.ofPoints

end GatewayNat.Text.Utf7
