/-!
# Integers as text

An integer is written in decimal digits.  Neither readers nor writers deal with
an integer of more than `maxDigits` digits.
-/

namespace GatewayNat.Decimal

/-- The greatest number of digits of an integer that is read or written. -/
def maxDigits : Nat := 4300

/-- Whether an integer can be written. -/
def isWritable (n : Int) : Bool := decide ((Nat.toDigits 10 n.natAbs).length ≤ maxDigits)

/-- The wording for an integer that is too long to be written. -/
def tooLongMessage : String :=
  "Exceeds the limit (" ++ toString maxDigits ++ " digits) for integer string conversion; " ++
    "use sys.set_int_max_str_digits() to increase the limit"

/-- The wording for an integer text of too many digits. -/
def tooManyDigitsMessage (count : Nat) : String :=
  "Exceeds the limit (" ++ toString maxDigits ++
    " digits) for integer string conversion: value has " ++ toString count ++
    " digits; use sys.set_int_max_str_digits() to increase the limit"

end GatewayNat.Decimal
