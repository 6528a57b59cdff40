import RootFinding.Bisection.Record
import RootFinding.RealFunction

/-! Frames: samples of a function around its bounds, ready to be drawn. -/

namespace RootFinding

/-- The bracket, midpoint and value of one iteration. -/
structure Overlay where
  a : Float
  b : Float
  midpoint : Float
  residual : Float
deriving DecidableEq, Repr

def Overlay.ofRecord (record : IterationRecord) : Overlay where
  a := record.bracket.a
  b := record.bracket.b
  midpoint := record.midpoint
  residual := record.residual

structure Frame where
  xRange : Float × Float
  yRange : Option (Float × Float)
  curve : List (Float × Float)
  overlay : Option Overlay
deriving DecidableEq, Repr

/-- The lesser of two floats, the first of two equal ones. `NaN` gives way. -/
def lesser (left right : Float) : Float :=
  if left.isNaN then right else if right < left then right else left

/-- The greater of two floats, the first of two equal ones. `NaN` gives way. -/
def greater (left right : Float) : Float :=
  if left.isNaN then right else if left < right then right else left

namespace Frame

/-- The number of equal intervals between the samples. -/
def sampleIntervals : Nat := 200

/-- The window reaches one unit past the bounds on each side. -/
def window (bounds : Bracket) : Float × Float :=
  (lesser bounds.a bounds.b - 1.0, greater bounds.a bounds.b + 1.0)

def abscissa (range : Float × Float) (index : Nat) : Float :=
  range.1 + (range.2 - range.1) / sampleIntervals.toFloat * index.toFloat

/-- The point of the graph above `x`, where the value exists and is finite. -/
def point? (function : RealFunction ε) (x : Float) : Option (Float × Float) :=
  match function x with
  | .ok y => if y.isFinite then some (x, y) else none
  | .error _ => none

def curveOver (function : RealFunction ε) (range : Float × Float) :
    List (Float × Float) :=
  ((List.range (sampleIntervals + 1)).map (abscissa range)).filterMap
    (point? function)

/-- The least and the greatest of some values. -/
def extent? : List Float → Option (Float × Float)
  | [] => none
  | first :: rest =>
      some (rest.foldl lesser first, rest.foldl greater first)

/-- A tenth of the span is added at each end, or one unit where all values
are the same. -/
def padded (extent : Float × Float) : Float × Float :=
  let span := extent.2 - extent.1
  let padding := if span > 0.0 then 0.1 * span else 1.0
  (extent.1 - padding, extent.2 + padding)

def sample (function : RealFunction ε) (bounds : Bracket)
    (records : List IterationRecord) : Frame :=
  let curve := curveOver function (window bounds)
  { xRange := window bounds
    yRange := (extent? (curve.map Prod.snd)).map padded
    curve := curve
    overlay := records.getLast?.map Overlay.ofRecord }

/-- The line `y = 0` lies in the vertical range. -/
def showsXAxis (frame : Frame) : Bool :=
  frame.yRange.any fun (low, high) => low ≤ 0.0 && 0.0 ≤ high

end Frame

end RootFinding
