import RootFinding.Json.Codec
import RootFinding.Session.Basic
import RootFinding.Session.Frame
import RootFinding.Session.Summary

/-! The shapes of what a session is given and gives. -/

namespace RootFinding

open JsonCodec

instance : JsonCodec SignClass where
  shape := .choice ["Negative", "Positive"]
  toValue
    | .negative => (0 : Fin 2)
    | .positive => (1 : Fin 2)
  ofValue
    | (0 : Fin 2) => .negative
    | (1 : Fin 2) => .positive
  ofValue_toValue sign := by cases sign <;> rfl
  toValue_ofValue
    | (0 : Fin 2) => rfl
    | (1 : Fin 2) => rfl

instance : JsonCodec Bisection.Status where
  shape := .choice
    ["ResidualConverged", "WidthConverged", "MaxIters", "StoppedByObserver"]
  toValue
    | .residualConverged => (0 : Fin 4)
    | .widthConverged => (1 : Fin 4)
    | .iterationLimit => (2 : Fin 4)
    | .stoppedByObserver => (3 : Fin 4)
  ofValue
    | (0 : Fin 4) => .residualConverged
    | (1 : Fin 4) => .widthConverged
    | (2 : Fin 4) => .iterationLimit
    | (3 : Fin 4) => .stoppedByObserver
  ofValue_toValue status := by cases status <;> rfl
  toValue_ofValue
    | (0 : Fin 4) => rfl
    | (1 : Fin 4) => rfl
    | (2 : Fin 4) => rfl
    | (3 : Fin 4) => rfl

/-- A bracket is the pair of its ends. -/
instance : JsonCodec Bracket where
  shape := .pair .float
  toValue bracket := (bracket.a, bracket.b)
  ofValue | (a, b) => ⟨a, b⟩
  ofValue_toValue _ := rfl
  toValue_ofValue _ := rfl

instance : JsonCodec Bisection.Config where
  shape := .record
    (.field "tolerance" .float
    (.field "max_iters" .count .nil))
  toValue config := (config.tolerance, config.maxIterations, ())
  ofValue | (tolerance, maxIterations, _) => ⟨tolerance, maxIterations⟩
  ofValue_toValue _ := rfl
  toValue_ofValue _ := rfl

instance : JsonCodec Inputs where
  shape := .record
    (.field "expression" .text
    (.field "bounds" (shape Bracket)
    (.field "config" (shape Bisection.Config) .nil)))
  toValue inputs :=
    (inputs.expression, toValue inputs.bounds, toValue inputs.config, ())
  ofValue
    | (expression, bounds, config, _) =>
        ⟨expression, ofValue bounds, ofValue config⟩
  ofValue_toValue _ := rfl
  toValue_ofValue _ := rfl

instance : JsonCodec IterationRecord where
  shape := .record
    (.field "index" .count
    (.field "a" .float
    (.field "b" .float
    (.field "c" .float
    (.field "sign" (shape SignClass)
    (.field "fc" .float .nil))))))
  toValue record :=
    (record.index, record.bracket.a, record.bracket.b, record.midpoint,
      toValue record.sign, record.residual, ())
  ofValue
    | (index, a, b, midpoint, sign, residual, _) =>
        ⟨index, ⟨a, b⟩, midpoint, ofValue sign, residual⟩
  ofValue_toValue _ := by simp
  toValue_ofValue _ := by simp

instance : JsonCodec SessionState where
  shape := .record
    (.field "active" .boolean
    (.field "step_index" .count .nil))
  toValue state := (state.active, state.stepIndex, ())
  ofValue | (active, stepIndex, _) => ⟨active, stepIndex⟩
  ofValue_toValue _ := rfl
  toValue_ofValue _ := rfl

instance : JsonCodec StepReport where
  shape := .record
    (.field "record" (shape (Option IterationRecord))
    (.field "finished" .boolean .nil))
  toValue report := (toValue report.record, report.finished, ())
  ofValue | (record, finished, _) => ⟨ofValue record, finished⟩
  ofValue_toValue _ := by simp
  toValue_ofValue _ := by simp

instance : JsonCodec Summary where
  shape := .record
    (.field "root" .float
    (.field "f_root" .float
    (.field "error" .float
    (.field "iterations" .count .nil))))
  toValue summary :=
    (summary.root, summary.residual, summary.error, summary.iterations, ())
  ofValue
    | (root, residual, error, iterations, _) =>
        ⟨root, residual, error, iterations⟩
  ofValue_toValue _ := rfl
  toValue_ofValue _ := rfl

instance : JsonCodec Overlay where
  shape := .record
    (.field "a" .float
    (.field "b" .float
    (.field "c" .float
    (.field "fc" .float .nil))))
  toValue overlay :=
    (overlay.a, overlay.b, overlay.midpoint, overlay.residual, ())
  ofValue | (a, b, midpoint, residual, _) => ⟨a, b, midpoint, residual⟩
  ofValue_toValue _ := rfl
  toValue_ofValue _ := rfl

instance : JsonCodec Frame where
  shape := .record
    (.field "x_range" (shape (Float × Float))
    (.field "y_range" (shape (Option (Float × Float)))
    (.field "curve" (shape (List (Float × Float)))
    (.field "overlay" (shape (Option Overlay)) .nil))))
  toValue frame :=
    (toValue frame.xRange, toValue frame.yRange, toValue frame.curve,
      toValue frame.overlay, ())
  ofValue
    | (xRange, yRange, curve, overlay, _) =>
        ⟨ofValue xRange, ofValue yRange, ofValue curve, ofValue overlay⟩
  ofValue_toValue _ := by simp
  toValue_ofValue _ := by simp

end RootFinding
