import RootFinding.Decimal.Style

/-! Formulas in one variable. A name that stands for nothing is kept as it
was written, and fails when the formula is evaluated. -/

namespace RootFinding

inductive Constant where
  | pi
  | e
deriving DecidableEq, Repr

namespace Constant

def name : Constant → String
  | .pi => "pi"
  | .e => "e"

def ofName? : String → Option Constant
  | "pi" => some .pi
  | "e" => some .e
  | _ => none

def value : Constant → Float
  | .pi => 3.141592653589793
  | .e => 2.718281828459045

end Constant

/-- The functions that a formula may call. `ln` is the natural logarithm and
`log` the decimal one. -/
inductive ElementaryFunction where
  | sin
  | cos
  | tan
  | ln
  | log
  | sqrt
  | abs
  | exp
deriving DecidableEq, Repr

namespace ElementaryFunction

def name : ElementaryFunction → String
  | .sin => "sin"
  | .cos => "cos"
  | .tan => "tan"
  | .ln => "ln"
  | .log => "log"
  | .sqrt => "sqrt"
  | .abs => "abs"
  | .exp => "exp"

def ofName? : String → Option ElementaryFunction
  | "sin" => some .sin
  | "cos" => some .cos
  | "tan" => some .tan
  | "ln" => some .ln
  | "log" => some .log
  | "sqrt" => some .sqrt
  | "abs" => some .abs
  | "exp" => some .exp
  | _ => none

def apply : ElementaryFunction → Float → Float
  | .sin => Float.sin
  | .cos => Float.cos
  | .tan => Float.tan
  | .ln => Float.log
  | .log => Float.log10
  | .sqrt => Float.sqrt
  | .abs => Float.abs
  | .exp => Float.exp

end ElementaryFunction

inductive Operator where
  | add
  | subtract
  | multiply
  | divide
  | power
deriving DecidableEq, Repr

namespace Operator

def symbol : Operator → String
  | .add => "+"
  | .subtract => "-"
  | .multiply => "*"
  | .divide => "/"
  | .power => "^"

def apply : Operator → Float → Float → Float
  | .add => (· + ·)
  | .subtract => (· - ·)
  | .multiply => (· * ·)
  | .divide => (· / ·)
  | .power => Float.pow

end Operator

/-! Two formulas are `==` when their shapes agree and their numbers are equal
as floats. -/

inductive Formula where
  | number (value : Float)
  | x
  | constant (symbol : Constant)
  | unbound (name : String)
  | negate (operand : Formula)
  | binary (operator : Operator) (left right : Formula)
  | call (function : ElementaryFunction) (argument : Formula)
  | unboundCall (name : String) (argument : Formula)
deriving BEq, Inhabited

inductive EvaluationError where
  | unknownVariable (name : String)
  | unknownFunction (name : String)
deriving DecidableEq, Repr

def EvaluationError.message : EvaluationError → String
  | .unknownVariable name => "unknown variable `" ++ name ++ "`"
  | .unknownFunction name => "unknown function `" ++ name ++ "`"

namespace Formula

/-! Evaluation visits the left operand first, and does not visit the argument
of a call that stands for nothing. An undefined result is a value, such as
`NaN`, and no error. -/

def eval (point : Float) : Formula → Except EvaluationError Float
  | .number value => .ok value
  | .x => .ok point
  | .constant symbol => .ok symbol.value
  | .unbound name => .error (.unknownVariable name)
  | .negate operand => do
      let value ← operand.eval point
      return -value
  | .binary operator left right => do
      let leftValue ← left.eval point
      let rightValue ← right.eval point
      return operator.apply leftValue rightValue
  | .call function argument => do
      let value ← argument.eval point
      return function.apply value
  | .unboundCall name _ => .error (.unknownFunction name)

/-- The formula with a pair of parentheses around every operation. -/
def text : Formula → String
  | .number value => NumberStyle.plain.text value
  | .x => "x"
  | .constant symbol => symbol.name
  | .unbound name => name
  | .negate operand => "(-" ++ operand.text ++ ")"
  | .binary operator left right =>
      "(" ++ left.text ++ " " ++ operator.symbol ++ " " ++ right.text ++ ")"
  | .call function argument => function.name ++ "(" ++ argument.text ++ ")"
  | .unboundCall name argument => name ++ "(" ++ argument.text ++ ")"

end Formula

end RootFinding
