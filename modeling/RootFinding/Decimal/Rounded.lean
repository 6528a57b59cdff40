import RootFinding.Decimal.Numeral

/-! Numerals with a fixed number of digits. They round the exact magnitude to
the nearest such numeral, and a tie goes to the even last digit. -/

namespace RootFinding

namespace Decimal

/-- The nearest natural number, the even one of two that are equally near. -/
def nearestEven (magnitude : Rat) : Nat :=
  let below := magnitude.floor.toNat
  let excess := magnitude - below
  if excess < 1 / 2 then
    below
  else if 1 / 2 < excess then
    below + 1
  else
    below + below % 2

/-- The least power of ten above a positive magnitude. -/
def scale (magnitude : Rat) : Int :=
  let lower : Int := (Nat.toDigits 10 magnitude.num.natAbs).length -
    (Nat.toDigits 10 magnitude.den).length
  if magnitude < (10 : Rat) ^ lower then lower else lower + 1

/-- The nearest multiple of `10 ^ exponent`. -/
def roundedTo (exponent : Int) (magnitude : Rat) : Decimal where
  digits := nearestEven (magnitude / (10 : Rat) ^ exponent)
  exponent := exponent

/-- The nearest number with `count` digits. A carry past the first digit
leaves a zero too many at the end, which is taken off. -/
def roundedDigits (count : Nat) (magnitude : Rat) : Decimal :=
  let rounded := roundedTo (scale magnitude - count) magnitude
  if rounded.digits = Nat.pow 10 count then
    ⟨rounded.digits / 10, rounded.exponent + 1⟩
  else
    rounded

end Decimal

namespace Numeral

/-- `places` digits after the point. -/
def withPlaces (places : Nat) (magnitude : Rat) : Numeral :=
  (Decimal.roundedTo (-places) magnitude).positional

/-- One digit before the point, `places` after it, and an exponent part. -/
def scientificWithPlaces (places : Nat) (magnitude : Rat) : Numeral :=
  if magnitude = 0 then
    ⟨['0'], some (List.replicate places '0'), some (.ofInt none 0)⟩
  else
    (Decimal.roundedDigits (places + 1) magnitude).scientific
      fun exponent => if exponent < 0 then some .minus else none

end Numeral

end RootFinding
