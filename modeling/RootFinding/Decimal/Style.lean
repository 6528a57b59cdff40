import RootFinding.Decimal.ExactValue
import RootFinding.Decimal.Shortest

/-! Texts of floats. A style fixes how the shortest number that reads back is
laid out; its digits are the same in every style but for ties. -/

namespace RootFinding

structure NumberStyle where
  /-- whether a number is written without an exponent part, by the power of
  ten of its first digit -/
  isPositional : Int → Bool
  /-- whether a whole number without an exponent part ends in `.0` -/
  pointZero : Bool
  exponentSign : Int → Option Sign
  tie : Tie

namespace NumberStyle

/-- All digits in place, as in `0.0000001` and `1000000000000000000000`. -/
def plain : NumberStyle where
  isPositional _ := true
  pointZero := false
  exponentSign _ := none
  tie := .up

def layOut (style : NumberStyle) (decimal : Decimal) : Numeral :=
  if style.isPositional decimal.leadingExponent then
    let numeral := decimal.positional
    if style.pointZero then
      { numeral with fraction := some (numeral.fraction.getD ['0']) }
    else
      numeral
  else
    decimal.scientific style.exponentSign

/-- The numeral of a finite float of the given magnitude. -/
def numeral (style : NumberStyle) (value : Float) (magnitude : Rat) : Numeral :=
  style.layOut (Decimal.shortest style.tie
    (fun candidate => candidate.toFloat = value.abs) magnitude)

end NumberStyle

/-- Sign, then `NaN`, `inf`, or a numeral for the magnitude. -/
def ExactValue.text (numeral : Rat → Numeral) : ExactValue → String
  | .notANumber => "NaN"
  | .infinity negative => if negative then "-inf" else "inf"
  | .finite negative magnitude =>
      (if negative then "-" else "") ++ (numeral magnitude).text

def NumberStyle.text (style : NumberStyle) (value : Float) : String :=
  (ExactValue.ofFloat value).text (style.numeral value)

end RootFinding
