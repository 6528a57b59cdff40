/-! Decimal numbers with an exponent. -/

namespace RootFinding

/-- The number `digits * 10 ^ exponent`. -/
structure Decimal where
  digits : Nat
  exponent : Int
deriving DecidableEq, Repr

namespace Decimal

def toRat (decimal : Decimal) : Rat :=
  decimal.digits * (10 : Rat) ^ decimal.exponent

/-- The nearest float, a tie going to the even significand. A number past the
largest float is infinite. -/
def toFloat (decimal : Decimal) : Float :=
  Float.ofScientific decimal.digits (decimal.exponent < 0) decimal.exponent.natAbs

/-- The digits in order, `['0']` for zero. -/
def digitChars (decimal : Decimal) : List Char :=
  Nat.toDigits 10 decimal.digits

/-- The power of ten that the first digit counts. -/
def leadingExponent (decimal : Decimal) : Int :=
  decimal.exponent + decimal.digitChars.length - 1

/-! The same number may be written with zeros at the end of its digits.
`trimmed` moves them into the exponent, so that the last digit is not zero. -/

def trimmedWithin : Nat → Decimal → Decimal
  | 0, decimal => decimal
  | steps + 1, decimal =>
      if decimal.digits % 10 = 0 then
        trimmedWithin steps ⟨decimal.digits / 10, decimal.exponent + 1⟩
      else
        decimal

def trimmed (decimal : Decimal) : Decimal :=
  if decimal.digits = 0 then
    ⟨0, 0⟩
  else
    trimmedWithin decimal.digitChars.length decimal

end Decimal

end RootFinding
