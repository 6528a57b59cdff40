import RootFinding.Expression
import RootFinding.Proofs.Outcome

/-! Names that stand for nothing. Whether a formula evaluates, and what it
fails with, is settled by its names and not by the point. -/

namespace RootFinding

namespace Formula

/-- The first name, in the order of evaluation, that stands for nothing. -/
def unresolved? : Formula → Option EvaluationError
  | .number _ => none
  | .x => none
  | .constant _ => none
  | .unbound name => some (.unknownVariable name)
  | .negate operand => operand.unresolved?
  | .binary _ left right => left.unresolved?.or right.unresolved?
  | .call _ argument => argument.unresolved?
  | .unboundCall name _ => some (.unknownFunction name)

theorem eval_eq_error_iff (formula : Formula) (point : Float)
    (cause : EvaluationError) :
    formula.eval point = .error cause ↔ formula.unresolved? = some cause := by
  induction formula generalizing cause with
  | number value => simp [eval, unresolved?]
  | x => simp [eval, unresolved?]
  | constant symbol => simp [eval, unresolved?]
  | unbound name => simp [eval, unresolved?]
  | negate operand induction =>
      simp [eval, unresolved?, Outcome.bind_eq_error, induction]
  | binary operator left right leftInduction rightInduction =>
      have resolved : (∃ value, left.eval point = .ok value) ↔
          left.unresolved? = none :=
        Outcome.exists_eq_ok_iff leftInduction
      simp only [eval, unresolved?, Outcome.bind_eq_error, leftInduction,
        rightInduction, Option.or_eq_some_iff, ← resolved]
      simp [exists_and_right]
  | call function argument induction =>
      simp [eval, unresolved?, Outcome.bind_eq_error, induction]
  | unboundCall name argument => simp [eval, unresolved?]

theorem eval_ok_iff (formula : Formula) (point : Float) :
    (∃ value, formula.eval point = .ok value) ↔
      formula.unresolved? = none :=
  Outcome.exists_eq_ok_iff (formula.eval_eq_error_iff point)

end Formula

namespace Expression

/-- What compiles evaluates at every point, although compiling looks at one
point only. -/
theorem eval_ok_of_compile {source : String} {expression : Expression}
    (compiled : compile source = .ok expression) (point : Float) :
    ∃ value, expression.eval point = .ok value := by
  rcases Outcome.bind_eq_ok.mp compiled with ⟨found, -, rest⟩
  cases neutral : found.eval neutralPoint with
  | error cause => simp [neutral] at rest
  | ok value =>
      simp only [neutral, Outcome.pure_eq_ok, Except.ok.injEq] at rest
      subst rest
      have resolved :=
        (found.formula.eval_ok_iff neutralPoint).mp ⟨value, neutral⟩
      exact (found.formula.eval_ok_iff point).mpr resolved

end Expression

end RootFinding
