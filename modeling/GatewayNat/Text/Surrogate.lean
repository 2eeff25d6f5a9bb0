/-!
# Surrogates

Units of 16 bits stand for the characters beyond 0xffff in pairs of a high and a
low surrogate.  Each of the two adds ten bits to the code point.  No surrogate
stands for a character of its own, but it has a code point.
-/

namespace GatewayNat

/-- A surrogate. -/
structure Surrogate where
  /-- The unit, which is also the code point. -/
  unit : Nat
  isSurrogate : 0xd800 ≤ unit ∧ unit ≤ 0xdfff
  deriving DecidableEq, Repr

/-- The surrogate that a unit is, if it is one. -/
def Surrogate.ofUnit? (unit : Nat) : Option Surrogate :=
  if h : 0xd800 ≤ unit ∧ unit ≤ 0xdfff then some ⟨unit, h⟩ else none

namespace Text

/-- Whether a unit is a high surrogate. -/
def isHighSurrogate (unit : Nat) : Bool := 0xd800 ≤ unit && unit ≤ 0xdbff

/-- Whether a unit is a low surrogate. -/
def isLowSurrogate (unit : Nat) : Bool := 0xdc00 ≤ unit && unit ≤ 0xdfff

/-- The character of a pair of surrogates. -/
def pairChar (high low : Nat) : Char :=
  Char.ofNat (0x10000 + (high - 0xd800) * 1024 + (low - 0xdc00))

end Text

end GatewayNat
