import RootFinding.Decimal.Rounded

/-! The shortest decimal number that reads back. Of all numbers with the same
count of digits only two can be nearest to a magnitude: its neighbours on the
grid of that count. The search asks for both, with ever more digits. -/

namespace RootFinding

/-- Which of two equally near neighbours is chosen. -/
inductive Tie where
  | toEven
  | up
deriving DecidableEq, Repr

namespace Decimal

/-- The greater of two neighbours is nearer, or as near and preferred. -/
def prefersUpper (tie : Tie) (lower : Nat) (excess : Rat) : Bool :=
  if excess < 1 / 2 then
    false
  else if 1 / 2 < excess then
    true
  else
    match tie with
    | .up => true
    | .toEven => lower % 2 = 1

/-- The neighbour with `count` digits that reads back, the nearer one of two. -/
def neighbour? (tie : Tie) (readsBack : Decimal → Bool) (magnitude : Rat)
    (count : Nat) : Option Decimal :=
  let exponent := scale magnitude - count
  let scaled := magnitude / (10 : Rat) ^ exponent
  let digits := scaled.floor.toNat
  let lower : Decimal := ⟨digits, exponent⟩
  let upper : Decimal := ⟨digits + 1, exponent⟩
  match readsBack lower, readsBack upper with
  | true, true =>
      some (if prefersUpper tie digits (scaled - digits) then upper else lower)
  | true, false => some lower
  | false, true => some upper
  | false, false => none

/-- A magnitude whose denominator is a power of two has a finite expansion. -/
def ofDyadic (magnitude : Rat) : Decimal where
  digits := magnitude.num.natAbs * Nat.pow 5 magnitude.den.log2
  exponent := -magnitude.den.log2

/-- Seventeen digits tell any two finite floats apart; all digits are
written if the search should end without a hit. -/
def shortest (tie : Tie) (readsBack : Decimal → Bool) (magnitude : Rat) :
    Decimal :=
  if magnitude = 0 then
    ⟨0, 0⟩
  else
    (((List.range 17).findSome? fun index =>
      neighbour? tie readsBack magnitude (index + 1)).getD
        (ofDyadic magnitude)).trimmed

end Decimal

end RootFinding
