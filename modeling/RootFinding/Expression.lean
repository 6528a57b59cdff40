import RootFinding.Formula.Grammar

/-! Expressions: formulas together with the texts they were read from. -/

namespace RootFinding

structure Expression where
  source : String
  formula : Formula
deriving BEq, Inhabited

namespace Expression

/-- Reads an expression. Its names need not stand for anything. -/
def parse (source : String) : Except CompileError Expression := do
  let placed ← tokens source
  let formula ← Formula.ofTokens placed
  return ⟨source, formula⟩

def eval (expression : Expression) (point : Float) :
    Except EvaluationError Float :=
  expression.formula.eval point

/-- Where `compile` evaluates an expression once. -/
def neutralPoint : Float := 0.0

/-- Reads an expression and finds out whether all of its names stand for
something. The value at the neutral point itself does not matter. -/
def compile (source : String) : Except CompileError Expression := do
  let expression ← parse source
  match expression.eval neutralPoint with
  | .ok _ => return expression
  | .error cause => throw (.unresolved cause)

/-- The expression that a text stands for, all names included. -/
def ofText (source : String) : Except CompileError Expression :=
  compile source

/-- Two outcomes agree when they hold equal expressions or the same error. -/
def agree : Except CompileError Expression → Except CompileError Expression →
    Bool
  | .ok left, .ok right => left == right
  | .error left, .error right => left == right
  | _, _ => false

end Expression

end RootFinding
