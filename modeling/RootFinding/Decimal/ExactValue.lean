/-! The real number that a float stands for. -/

namespace RootFinding

/-- A float as a sign and an exact magnitude. Both zeros have magnitude 0. -/
inductive ExactValue where
  | notANumber
  | infinity (negative : Bool)
  | finite (negative : Bool) (magnitude : Rat)
deriving DecidableEq, Repr

namespace ExactValue

def isNegative : Float.Model.UnpackedFloat.Sign → Bool
  | .negative => true
  | .positive => false

def ofFloat (value : Float) : ExactValue :=
  match value.toModel.unpack with
  | .notANumber => .notANumber
  | .infinity sign => .infinity (isNegative sign)
  | .zero sign => .finite (isNegative sign) 0
  | .finite sign significand exponent _ =>
      .finite (isNegative sign) (significand * (2 : Rat) ^ exponent)

end ExactValue

end RootFinding
