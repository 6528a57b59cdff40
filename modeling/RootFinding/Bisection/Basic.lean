import RootFinding.Bisection.Record
import RootFinding.RealFunction

/-! Bisection: what a search is given, how it ends, and its single iteration. -/

namespace RootFinding

namespace Bisection

/-- The tolerance serves two tests: on the width of the bracket and on the
size of the value at the midpoint. -/
structure Config where
  tolerance : Float
  maxIterations : Nat
deriving DecidableEq, Repr

def Config.standard : Config where
  tolerance := 1e-4
  maxIterations := 100

inductive Status where
  | residualConverged
  | widthConverged
  | iterationLimit
  | stoppedByObserver
deriving DecidableEq, Repr

structure Solution where
  records : List IterationRecord
  status : Status
deriving DecidableEq, Repr

namespace Solution

def last? (solution : Solution) : Option IterationRecord :=
  solution.records.getLast?

def root? (solution : Solution) : Option Float :=
  solution.last?.map IterationRecord.midpoint

def iterations (solution : Solution) : Nat :=
  solution.records.length

end Solution

inductive Error (ε : Type) where
  | noSignChange (bounds : Bracket) (atA atB : Float)
  | evaluation (error : PointError ε)
deriving DecidableEq, Repr

def Error.message : Error ε → String
  | .noSignChange bounds atA atB =>
      "no sign change in [" ++ NumberStyle.plain.text bounds.a ++ ", " ++
        NumberStyle.plain.text bounds.b ++ "]: f(a) = " ++
        NumberStyle.plain.text atA ++ ", f(b) = " ++ NumberStyle.plain.text atB
  | .evaluation error => error.message

/-- The values at both bounds. A product of zero, a root at a bound, counts as
a sign change. -/
def checkSignChange (function : RealFunction ε) (bounds : Bracket) :
    Except (Error ε) (Float × Float) :=
  match function.evaluate bounds.a with
  | .error error => .error (.evaluation error)
  | .ok atA =>
      match function.evaluate bounds.b with
      | .error error => .error (.evaluation error)
      | .ok atB =>
          if atA * atB > 0.0 then
            .error (.noSignChange bounds atA atB)
          else
            .ok (atA, atB)

/-- One iteration on a bracket, given the value at its left end. -/
def bisect (function : RealFunction ε) (bracket : Bracket) (atLeft : Float)
    (index : Nat) : Except (PointError ε) IterationRecord :=
  match function.evaluate bracket.midpoint with
  | .error error => .error error
  | .ok residual => .ok {
      index := index
      bracket := bracket
      midpoint := bracket.midpoint
      sign := .ofProduct (atLeft * residual)
      residual := residual }

end Bisection

end RootFinding
