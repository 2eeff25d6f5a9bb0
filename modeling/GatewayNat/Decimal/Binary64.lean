/-!
# Binary64 numbers

A number with a fraction or an exponent is kept as its 64-bit word.  Fields of
the word are natural numbers, and a finite word denotes `m * 2 ^ q` up to its
sign.  No machine arithmetic is involved.

`nearest` rounds a quotient to the nearest word, a tie to the even one.
`ofDecimal` does so for digits and a power of ten.
-/

namespace GatewayNat

/-- A binary64 number as its word. -/
structure Binary64 where
  bits : UInt64
  deriving DecidableEq, Repr, Inhabited

namespace Binary64

/-- What a word denotes.  A finite number has the magnitude `m * 2 ^ q`. -/
inductive Value where
  | nan
  | infinite (negative : Bool)
  | finite (negative : Bool) (m : Nat) (q : Int)
  deriving DecidableEq, Repr

/-- The weight of the sign bit, two to the 63rd. -/
def signWeight : Nat := 0x8000000000000000

/-- The weight of the lowest bit of the exponent, two to the 52nd. -/
def exponentWeight : Nat := 0x10000000000000

/-- Whether the sign bit is set. -/
def isNegative (x : Binary64) : Bool := decide (signWeight ≤ x.bits.toNat)

/-- The eleven bits of the exponent. -/
def exponentField (x : Binary64) : Nat := x.bits.toNat / exponentWeight % 2048

/-- The low 52 bits. -/
def fractionField (x : Binary64) : Nat := x.bits.toNat % exponentWeight

/-- The denotation of a word. -/
def value (x : Binary64) : Value :=
  let e := x.exponentField
  let f := x.fractionField
  if e = 2047 then (if f = 0 then .infinite x.isNegative else .nan)
  else if e = 0 then .finite x.isNegative f (-1074)
  else .finite x.isNegative (exponentWeight + f) (e - 1075)

/-- Whether a word denotes a finite number. -/
def isFinite (x : Binary64) : Bool := decide (x.exponentField ≠ 2047)

/-- The word of a sign and of exponent and fraction taken as one number. -/
def ofMagnitude (negative : Bool) (magnitude : Nat) : Binary64 :=
  ⟨UInt64.ofNat ((if negative then signWeight else 0) + magnitude)⟩

/-- An infinity. -/
def infinity (negative : Bool) : Binary64 := ofMagnitude negative (2047 * exponentWeight)

/-- The word for a value that is no number. -/
def nan : Binary64 := ofMagnitude false (2047 * exponentWeight + exponentWeight / 2)

/-- A zero. -/
def zero (negative : Bool) : Binary64 := ofMagnitude negative 0

/-- The natural number nearest to a quotient, a tie going to the even one. -/
def roundHalfEven (num den : Nat) : Nat :=
  let n := num / den
  let twice := 2 * (num % den)
  if twice < den then n
  else if den < twice then n + 1
  else if n % 2 = 0 then n else n + 1

/-- The quotient of `num` and `den * 2 ^ q` as numerator and denominator. -/
def scaled (num den : Nat) (q : Int) : Nat × Nat :=
  if 0 ≤ q then (num, den * Nat.pow 2 q.toNat) else (num * Nat.pow 2 (-q).toNat, den)

/-- The word nearest to a positive quotient. -/
def nearest (negative : Bool) (num den : Nat) : Binary64 :=
  let high : Int := (num.log2 : Int) - den.log2 - 52
  let fine := scaled num den high
  let q := max (-1074) (if fine.1 / fine.2 < exponentWeight then high - 1 else high)
  let quotient := scaled num den q
  let magnitude := (q + 1074).toNat * exponentWeight + roundHalfEven quotient.1 quotient.2
  if 2047 * exponentWeight ≤ magnitude then infinity negative else ofMagnitude negative magnitude

/-- The word nearest to `digits * 10 ^ exponent`. -/
def ofDecimal (negative : Bool) (digits : Nat) (exponent : Int) : Binary64 :=
  if digits = 0 then zero negative
  else
    let place : Int := exponent + (Nat.toDigits 10 digits).length
    if 310 < place then infinity negative
    else if place < -330 then zero negative
    else if 0 ≤ exponent then nearest negative (digits * Nat.pow 10 exponent.toNat) 1
    else nearest negative digits (Nat.pow 10 (-exponent).toNat)

/-- The integer that a finite word equals, if it equals one. -/
def toInt? (x : Binary64) : Option Int :=
  match x.value with
  | .finite negative m q =>
    let signed (n : Nat) : Int := if negative then -(n : Int) else n
    if 0 ≤ q then some (signed (m * Nat.pow 2 q.toNat))
    else
      let unit := Nat.pow 2 (-q).toNat
      if m % unit = 0 then some (signed (m / unit)) else none
  | _ => none

end Binary64

end GatewayNat
