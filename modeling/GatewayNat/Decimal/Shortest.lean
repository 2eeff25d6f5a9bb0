import GatewayNat.Decimal.Binary64

/-!
# Shortest decimal text

A finite number is written with the fewest digits that read back as the number.
Of the decimals with that many digits the nearest one is taken, and of two at
the same distance the one with the even last digit.

A magnitude `m * 2 ^ q` is read back from the decimals between its two halfway
points, which belong to it exactly if `m` is even.  A grid of decimals with one
spacing has a member between the halfway points only if one of the two
neighbours of the magnitude is one, so for each number of digits the two
neighbours are enough.

`Layout` holds the decisions of a written form.
-/

namespace GatewayNat.Decimal

/-- A magnitude between its halfway points, over one denominator. -/
structure Interval where
  /-- The numerator of the lower halfway point. -/
  low : Nat
  /-- The numerator of the magnitude. -/
  mid : Nat
  /-- The numerator of the upper halfway point. -/
  high : Nat
  /-- The common denominator. -/
  den : Nat
  /-- Whether the halfway points belong to the magnitude. -/
  closed : Bool
  deriving DecidableEq, Repr

/-- The interval of `m * 2 ^ q`.  Below a power of two the lower neighbour is twice as near. -/
def interval (m : Nat) (q : Int) : Interval :=
  let below := if m = Binary64.exponentWeight ∧ -1074 < q then 1 else 2
  let up := Nat.pow 2 (q - 2).toNat
  { low := (4 * m - below) * up
    mid := 4 * m * up
    high := (4 * m + 2) * up
    den := Nat.pow 2 (2 - q).toNat
    closed := m % 2 = 0 }

/-- The number of digits before the point of a positive quotient, negative for zeros after it. -/
def pointPlace (num den : Nat) : Int :=
  (Nat.toDigits 10 (num * Nat.pow 10 400 / den)).length - 400

/-- Digits, and the power of ten that the last of them counts. -/
structure Digits where
  digits : Nat
  exponent : Int
  deriving DecidableEq, Repr

/-- The member of the grid of `10 ^ exponent` that stands for the magnitude, if there is one. -/
def onGrid (i : Interval) (exponent : Int) : Option Digits :=
  let step := i.den * Nat.pow 10 exponent.toNat
  let fine := Nat.pow 10 (-exponent).toNat
  let c := i.mid * fine / step
  let inside (n : Nat) : Bool :=
    if i.closed then decide (i.low * fine ≤ n * step ∧ n * step ≤ i.high * fine)
    else decide (i.low * fine < n * step ∧ n * step < i.high * fine)
  let below := i.mid * fine - c * step
  let above := (c + 1) * step - i.mid * fine
  if inside c then
    if inside (c + 1) && (above < below || (above = below && c % 2 = 1)) then
      some ⟨c + 1, exponent⟩
    else some ⟨c, exponent⟩
  else if inside (c + 1) then some ⟨c + 1, exponent⟩
  else none

/-- The first grid with a member, for `count` more grids from one on. -/
def firstGrid (i : Interval) : Nat → Int → Digits
  | 0, exponent => ⟨i.mid / i.den, exponent⟩
  | count + 1, exponent =>
    match onGrid i exponent with
    | some found => found
    | none => firstGrid i count (exponent - 1)

/-- The shortest digits of a positive magnitude `m * 2 ^ q`. -/
def shortest (m : Nat) (q : Int) : Digits :=
  let i := interval m q
  firstGrid i 17 (pointPlace i.mid i.den - 1)

/-- The decisions of a written form of numbers. -/
structure Layout where
  /-- The largest place of the point that is written without an exponent. -/
  lastPlain : Int
  /-- The least place of the point that is written without an exponent. -/
  firstPlain : Int
  /-- What follows the digits of a whole number without an exponent. -/
  wholeEnd : String
  /-- The least number of digits of an exponent. -/
  exponentWidth : Nat
  nan : String
  infinity : String
  deriving DecidableEq, Repr

/-- Whole numbers end in a point and a zero, places of the point from -3 to 16 are written out,
and an exponent has a sign and two digits. -/
def plainLayout : Layout := ⟨16, -3, ".0", 2, "nan", "inf"⟩

/-- Zeros. -/
def zeros (n : Int) : List Char := List.replicate n.toNat '0'

/-- Digits with the point after `place` of them. -/
def Layout.positional (l : Layout) (ds : List Char) (place : Int) : List Char :=
  if place ≤ 0 then '0' :: '.' :: (zeros (-place) ++ ds)
  else if (ds.length : Int) ≤ place then ds ++ zeros (place - ds.length) ++ l.wholeEnd.toList
  else ds.take place.toNat ++ '.' :: ds.drop place.toNat

/-- Digits with the point after the first and an exponent. -/
def Layout.scientific (l : Layout) (ds : List Char) (place : Int) : List Char :=
  let e := place - 1
  let tail := Nat.toDigits 10 e.natAbs
  let mantissa := match ds with
    | d :: more@(_ :: _) => d :: '.' :: more
    | _ => ds
  mantissa ++ 'e' :: (if e < 0 then '-' else '+') ::
    (List.replicate (l.exponentWidth - tail.length) '0' ++ tail)

/-- The digits without zeros at the end. -/
def stripZeros (ds : List Char) : List Char := (ds.reverse.dropWhile (· = '0')).reverse

/-- The characters of a magnitude. -/
def Layout.magnitude (l : Layout) (m : Nat) (q : Int) : List Char :=
  if m = 0 then '0' :: l.wholeEnd.toList
  else
    let found := shortest m q
    let all := Nat.toDigits 10 found.digits
    let place := found.exponent + all.length
    let ds := stripZeros all
    if l.firstPlain ≤ place ∧ place ≤ l.lastPlain then l.positional ds place
    else l.scientific ds place

/-- The written form of a number. -/
def Layout.write (l : Layout) (x : Binary64) : String :=
  match x.value with
  | .nan => l.nan
  | .infinite negative => if negative then "-" ++ l.infinity else l.infinity
  | .finite negative m q =>
    String.ofList (if negative then '-' :: l.magnitude m q else l.magnitude m q)

end GatewayNat.Decimal

/-- The text of a number, shortest and in the plain layout. -/
def GatewayNat.Binary64.text (x : GatewayNat.Binary64) : String :=
  GatewayNat.Decimal.plainLayout.write x
