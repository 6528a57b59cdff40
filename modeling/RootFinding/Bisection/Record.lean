/-! Brackets and the records of single iterations. -/

namespace RootFinding

/-- The sign of a product of two function values. -/
inductive SignClass where
  | negative
  | positive
deriving DecidableEq, Repr

/-- Zero and `NaN` count as positive. -/
def SignClass.ofProduct (product : Float) : SignClass :=
  if product < 0.0 then .negative else .positive

/-- An interval that is searched for a root. Its ends keep the order in which
they were given. -/
structure Bracket where
  a : Float
  b : Float
deriving DecidableEq, Repr

namespace Bracket

def midpoint (bracket : Bracket) : Float :=
  (bracket.a + bracket.b) / 2.0

def width (bracket : Bracket) : Float :=
  (bracket.b - bracket.a).abs

/-- The width is not above the tolerance. A `NaN` on either side is within. -/
def isWithin (bracket : Bracket) (tolerance : Float) : Bool :=
  !decide (bracket.width > tolerance)

/-- The half that keeps the sign change: a negative sign at the point `middle`
says that the root lies between `a` and `middle`. -/
def narrow (bracket : Bracket) (middle : Float) : SignClass → Bracket
  | .negative => { bracket with b := middle }
  | .positive => { bracket with a := middle }

end Bracket

/-- One iteration: the bracket that was searched, its midpoint, the sign of
the product of the values at `a` and at the midpoint, and the latter value. -/
structure IterationRecord where
  index : Nat
  bracket : Bracket
  midpoint : Float
  sign : SignClass
  residual : Float
deriving DecidableEq, Repr

namespace IterationRecord

def width (record : IterationRecord) : Float :=
  record.bracket.width

/-- The bracket that the next iteration searches, as the record tells it. -/
def narrowed (record : IterationRecord) : Bracket :=
  record.bracket.narrow record.midpoint record.sign

end IterationRecord

/-- The bracket after the record `last`, by fresh values at its left end and
at its midpoint. -/
def Bracket.rederive (last : IterationRecord) (atLeft atMidpoint : Float) :
    Bracket :=
  last.bracket.narrow last.midpoint (.ofProduct (atLeft * atMidpoint))

end RootFinding
