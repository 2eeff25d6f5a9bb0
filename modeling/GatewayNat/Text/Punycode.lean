import GatewayNat.Text.Utf8

/-!
# Punycode

The octets are ASCII.  Those before the last hyphen are characters of the text.
Those after it are numbers, each of which says where a further code point comes
in and which one it is.

* The number goes on from the place and the code point before it.  All places of
  a code point are counted before the next code point.
* A number has digits in base 36, the lowest first.  A digit below a threshold is
  the last one.  The threshold depends on the digit and on a bias, which follows
  the size of the numbers.

A number takes at least one octet, and this bounds the reading.

`encode` writes the octets of code points.
-/

namespace GatewayNat.Text.Punycode

/-- Why octets are no text. -/
inductive Fault where
  /-- An octet before or after the hyphen is not ASCII.  The position counts from there. -/
  | notAscii (octet : UInt8) (position : Nat)
  /-- The octets end inside a number. -/
  | incomplete
  /-- A character is no digit. -/
  | noDigit (c : Char)
  /-- A number is that of no code point. -/
  | outOfRange (value : Nat)
  deriving DecidableEq, Repr

/-- The wording of a fault. -/
def Fault.message : Fault → String
  | .notAscii octet position =>
    undecodableMessage "ascii" octet position 1 "ordinal not in range(128)"
  | .incomplete => "incomplete punicode string"
  | .noDigit c => "Invalid extended code point '" ++ String.ofList [c] ++ "'"
  | .outOfRange value => "Invalid character U+" ++ String.ofList (Nat.toDigits 16 value)

/-- The characters of octets that are ASCII, from a position on. -/
def readAscii (position : Nat) : List UInt8 → Except Fault (List Char)
  | [] => .ok []
  | a :: rest =>
    if a < 0x80 then (readAscii (position + 1) rest).map (Char.ofNat a.toNat :: ·)
    else .error (.notAscii a position)

/-- The value of a digit. -/
def digit? (c : Char) : Option Nat :=
  if 'A' ≤ c && c ≤ 'Z' then some (c.toNat - 'A'.toNat)
  else if c.isDigit then some (c.toNat - '0'.toNat + 26)
  else none

/-- The threshold of a digit. -/
def threshold (index bias : Nat) : Nat :=
  let last := 36 * (index + 1)
  if last ≤ bias + 1 then 1 else if bias + 26 ≤ last then 26 else last - bias

/-- A number, with what is left of the characters.  The digits start at an index, where one of
them has a weight. -/
def readNumber (bias index weight : Nat) : List Char → Except Fault (Nat × List Char)
  | [] => .error .incomplete
  | c :: rest =>
    match digit? c with
    | none => .error (.noDigit c)
    | some digit =>
      let t := threshold index bias
      if digit < t then .ok (digit * weight, rest)
      else
        (readNumber bias (index + 1) (weight * (36 - t)) rest).map fun read =>
          (digit * weight + read.1, read.2)

/-- What is left of a difference, and the bias of the divisions that were made on it. -/
def reduce (delta bias : Nat) : Nat × Nat :=
  if 455 < delta then reduce (delta / 35) (bias + 36) else (delta, bias)
termination_by delta

/-- The bias after a number for the given count of code points. -/
def adapt (delta count : Nat) (isFirst : Bool) : Nat :=
  let halved := if isFirst then delta / 700 else delta / 2
  let (rest, bias) := reduce (halved + halved / count) 0
  bias + 36 * rest / (rest + 38)

/-- Where the numbers have led to. -/
structure State where
  /-- The code points so far. -/
  points : List CodePoint
  /-- The number of the code point that comes next. -/
  value : Nat
  /-- The place at which it may come. -/
  place : Nat
  bias : Nat
  isFirst : Bool
  deriving DecidableEq, Repr

/-- The state after a number. -/
def State.add (state : State) (delta : Nat) : Except Fault State :=
  let count := state.points.length + 1
  let value := state.value + (state.place + delta) / count
  let place := (state.place + delta) % count
  match CodePoint.ofValue? value with
  | none => .error (.outOfRange value)
  | some point =>
    .ok ⟨state.points.insertIdx place point, value, place + 1, adapt delta count state.isFirst,
      false⟩

/-- The code points after the numbers in the characters.  The first argument bounds their
number. -/
def readNumbers : Nat → State → List Char → Except Fault (List CodePoint)
  | 0, state, _ | _, state, [] => .ok state.points
  | bound + 1, state, chars =>
    match readNumber state.bias 0 1 chars with
    | .error fault => .error fault
    | .ok (delta, rest) =>
      match state.add delta with
      | .error fault => .error fault
      | .ok next => readNumbers bound next rest

/-- The octets before the last hyphen and those after it. -/
def split (octets : List UInt8) : List UInt8 × List UInt8 :=
  let tail := octets.reverse.takeWhile (· ≠ 0x2d)
  (octets.take (octets.length - tail.length - 1), tail.reverse)

/-- The text that the octets encode. -/
def decode (octets : List UInt8) : Except Fault Text := do
  let (before, after) := split octets
  let plain ← readAscii 0 before
  let numbers ← readAscii 0 after
  let start : State := ⟨plain.map .char, 0x80, 0, 72, true⟩
  (readNumbers numbers.length start (numbers.map Char.toUpper)).map Text.ofPoints

/-! ## Encoding -/

/-- The digit of a value. -/
def digitChar (value : Nat) : Char :=
  if value < 26 then Char.ofNat ('a'.toNat + value) else Char.ofNat ('0'.toNat + (value - 26))

theorem threshold_pos (index bias : Nat) : 1 ≤ threshold index bias := by
  unfold threshold
  dsimp only
  split
  · exact Nat.le_refl 1
  · split <;> omega

theorem threshold_le (index bias : Nat) : threshold index bias ≤ 26 := by
  unfold threshold
  dsimp only
  split
  · omega
  · split <;> omega

/-- The digits of a number from an index on. -/
def writeNumber (bias index number : Nat) : List Char :=
  let t := threshold index bias
  if number < t then [digitChar number]
  else
    digitChar (t + (number - t) % (36 - t)) ::
      writeNumber bias (index + 1) ((number - t) / (36 - t))
termination_by number
decreasing_by
  have hpos := threshold_pos index bias
  have hle := threshold_le index bias
  have := Nat.div_le_self (number - threshold index bias) (36 - threshold index bias)
  omega

/-- What has been written so far. -/
structure Written where
  digits : List Char
  /-- The difference to the place of the last number. -/
  delta : Nat
  bias : Nat
  /-- The number of code points that have their places. -/
  count : Nat
  isFirst : Bool
  deriving DecidableEq, Repr

/-- Goes past a code point in search of a value. -/
def Written.pass (value : Nat) (written : Written) (point : CodePoint) : Written :=
  if point.value < value then { written with delta := written.delta + 1 }
  else if point.value = value then
    ⟨written.digits ++ writeNumber written.bias 0 written.delta, 0,
      adapt written.delta (written.count + 1) written.isFirst, written.count + 1, false⟩
  else written

/-- Writes the places of further values, in increasing order, after that of a last one. -/
def Written.values (points : List CodePoint) (next : Nat) (written : Written) :
    List Nat → Written
  | [] => written
  | value :: rest =>
    let start := { written with
      delta := written.delta + (value - next) * (written.count + 1) }
    let done := points.foldl (pass value) start
    Written.values points (value + 1) { done with delta := done.delta + 1 } rest

/-- The characters of the octets of code points. -/
def encode (points : List CodePoint) : List Char :=
  let plain := (points.filterMap CodePoint.char?).filter (·.toNat < 0x80)
  let others := ((points.map CodePoint.value).filter (0x80 ≤ ·)).mergeSort.eraseDups
  let digits := (Written.values points 0x80 ⟨[], 0, 72, plain.length, true⟩ others).digits
  if plain.isEmpty then digits else plain ++ '-' :: digits

end GatewayNat.Text.Punycode
