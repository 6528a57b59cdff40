import RootFinding.Bisection.Record

/-! The headline numbers of a search. -/

namespace RootFinding

/-- The last midpoint, its value, the width of the last bracket, and the
number of iterations. -/
structure Summary where
  root : Float
  residual : Float
  error : Float
  iterations : Nat
deriving DecidableEq, Repr

def Summary.ofRecords? (records : List IterationRecord) : Option Summary :=
  records.getLast?.map fun last => {
    root := last.midpoint
    residual := last.residual
    error := last.width
    iterations := records.length }

end RootFinding
