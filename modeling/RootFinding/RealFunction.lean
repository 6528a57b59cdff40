import RootFinding.Decimal.Style

/-! Functions of one real variable. A call may fail as a whole, with a cause of
type `ε`; an undefined result is a value, such as `NaN`, and no failure. -/

namespace RootFinding

abbrev RealFunction (ε : Type) := Float → Except ε Float

structure PointError (ε : Type) where
  point : Float
  cause : ε
deriving DecidableEq, Repr

def PointError.message (error : PointError ε) : String :=
  "function evaluation failed at x = " ++ NumberStyle.plain.text error.point

namespace RealFunction

def ofTotal (function : Float → Float) : RealFunction Empty :=
  fun point => .ok (function point)

/-- The value at a point. A failure is reported together with the point. -/
def evaluate (function : RealFunction ε) (point : Float) :
    Except (PointError ε) Float :=
  match function point with
  | .ok value => .ok value
  | .error cause => .error ⟨point, cause⟩

/-- A function that fails above one limit and below another. The upper limit
is looked at first. -/
def limited (below above : Option Float) (belowCause aboveCause : ε)
    (function : RealFunction ε) : RealFunction ε :=
  fun point =>
    if above.any (point > ·) then
      .error aboveCause
    else if below.any (point < ·) then
      .error belowCause
    else
      function point

end RealFunction

end RootFinding
