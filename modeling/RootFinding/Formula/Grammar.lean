import RootFinding.Formula.Token

/-! The grammar of formulas, lowest precedence first:

```text
sum      := product (('+' | '-') product)*
product  := unary (('*' | '/') unary)*
unary    := ('+' | '-') unary | power
power    := primary ('^' unary)?
primary  := NUMBER | NAME | NAME '(' sum ')' | '(' sum ')'
```

Nesting is limited. Every function below is given the number of levels that
are left. A parenthesis, a sign, a `^` and each link of a chain take one level
for what stands to their right, up to the end of the construct. -/

namespace RootFinding

/-- The levels that a whole formula may take. -/
def nestingLimit : Nat := 256

namespace Grammar

/-- A formula read from the front of some tokens, with the tokens after it. -/
abbrev Reading := Except CompileError (Formula × List PlacedToken)

def additive? : Token → Option Operator
  | .plus => some .add
  | .minus => some .subtract
  | _ => none

def multiplicative? : Token → Option Operator
  | .times => some .multiply
  | .divide => some .divide
  | _ => none

def raising? : Token → Option Operator
  | .power => some .power
  | _ => none

def opening? : Token → Option Unit
  | .leftParenthesis => some ()
  | _ => none

/-- The first token, where `select` takes it: what it is taken for, its
position, and the tokens after it. -/
def first? (select : Token → Option α) :
    List PlacedToken → Option (α × Nat × List PlacedToken)
  | [] => none
  | next :: rest =>
      (select next.token).map fun selected => (selected, next.position, rest)

/-- What a name means that is not called. -/
def symbol (name : String) : Formula :=
  if name = "x" then
    .x
  else
    match Constant.ofName? name with
    | some constant => .constant constant
    | none => .unbound name

def application (name : String) (argument : Formula) : Formula :=
  match ElementaryFunction.ofName? name with
  | some function => .call function argument
  | none => .unboundCall name argument

/-- A leading minus negates and a leading plus does nothing. -/
def signed (sign : Operator) (operand : Formula) : Formula :=
  if sign = .subtract then .negate operand else operand

def unexpected (found : PlacedToken) : CompileError :=
  .unexpectedToken found.token.text found.position

/-- Takes the `)` that closes the `(` at `opening`. -/
def close (opening : Nat) :
    List PlacedToken → Except CompileError (List PlacedToken)
  | [] => .error (.unclosedParenthesis opening)
  | ⟨.rightParenthesis, _⟩ :: rest => .ok rest
  | found :: _ => .error (unexpected found)

mutual

def sum (levels : Nat) (source : List PlacedToken) : Reading := do
  let (first, rest) ← product levels source
  sumLinks levels first rest
termination_by 5 * levels + 4

/-- Goes on with a sum whose links so far make up `left`. -/
def sumLinks (levels : Nat) (left : Formula) (source : List PlacedToken) :
    Reading :=
  match first? additive? source, levels with
  | none, _ => .ok (left, source)
  | some (_, position, _), 0 => .error (.tooDeep position)
  | some (operator, _, rest), below + 1 => do
      let (right, rest) ← product below rest
      sumLinks below (.binary operator left right) rest
termination_by 5 * levels

def product (levels : Nat) (source : List PlacedToken) : Reading := do
  let (first, rest) ← unary levels source
  productLinks levels first rest
termination_by 5 * levels + 3

/-- Goes on with a product whose links so far make up `left`. -/
def productLinks (levels : Nat) (left : Formula)
    (source : List PlacedToken) : Reading :=
  match first? multiplicative? source, levels with
  | none, _ => .ok (left, source)
  | some (_, position, _), 0 => .error (.tooDeep position)
  | some (operator, _, rest), below + 1 => do
      let (right, rest) ← unary below rest
      productLinks below (.binary operator left right) rest
termination_by 5 * levels

def unary (levels : Nat) (source : List PlacedToken) : Reading :=
  match first? additive? source, levels with
  | none, levels => power levels source
  | some (_, position, _), 0 => .error (.tooDeep position)
  | some (sign, _, rest), below + 1 => do
      let (operand, rest) ← unary below rest
      return (signed sign operand, rest)
termination_by 5 * levels + 2

def power (levels : Nat) (source : List PlacedToken) : Reading := do
  let (base, rest) ← primary levels source
  match first? raising? rest, levels with
  | none, _ => return (base, rest)
  | some (_, position, _), 0 => throw (.tooDeep position)
  | some (operator, _, rest), below + 1 => do
      let (exponent, rest) ← unary below rest
      return (.binary operator base exponent, rest)
termination_by 5 * levels + 1

def primary (levels : Nat) (source : List PlacedToken) : Reading :=
  match source with
  | [] => .error .unexpectedEnd
  | first :: rest =>
      match first.token with
      | .number value => .ok (.number value, rest)
      | .identifier name =>
          match first? opening? rest, levels with
          | none, _ => .ok (symbol name, rest)
          | some (_, opening, _), 0 => .error (.tooDeep opening)
          | some (_, opening, rest), below + 1 => do
              let (argument, rest) ← sum below rest
              let rest ← close opening rest
              return (application name argument, rest)
      | .leftParenthesis =>
          match levels with
          | 0 => .error (.tooDeep first.position)
          | below + 1 => do
              let (inner, rest) ← sum below rest
              let rest ← close first.position rest
              return (inner, rest)
      | _ => .error (unexpected first)
termination_by 5 * levels

end

end Grammar

/-- The formula that all of the tokens make up. -/
def Formula.ofTokens (source : List PlacedToken) :
    Except CompileError Formula :=
  match source with
  | [] => .error .empty
  | _ :: _ => do
      let (formula, rest) ← Grammar.sum nestingLimit source
      match rest with
      | [] => return formula
      | found :: _ => throw (Grammar.unexpected found)

end RootFinding
