import RootFinding.Proofs.Formula.Names
import RootFinding.Proofs.Formula.Sentence

/-! Names in the text. What compiling and evaluating come to is settled by the
identifiers among the tokens: each stands in the formula once, and the formula
is evaluated in the order of the tokens. -/

namespace RootFinding

def functionNames : List String :=
  ["sin", "cos", "tan", "ln", "log", "sqrt", "abs", "exp"]

def valueNames : List String :=
  ["x", "pi", "e"]

theorem constant_eq_none_iff {name : String} :
    Constant.ofName? name = none ↔ name ≠ "pi" ∧ name ≠ "e" := by
  unfold Constant.ofName?
  split <;> simp_all

theorem function_eq_none_iff {name : String} :
    ElementaryFunction.ofName? name = none ↔ name ∉ functionNames := by
  unfold ElementaryFunction.ofName?
  split <;> simp_all [functionNames]

namespace Grammar

/-- The identifier that some tokens begin with, where it stands for nothing: a
name that is called and is no function, or another that is no value. -/
def strayName? : List PlacedToken → Option EvaluationError
  | ⟨.identifier name, _⟩ :: ⟨.leftParenthesis, _⟩ :: _ =>
      if name ∈ functionNames then none else some (.unknownFunction name)
  | ⟨.identifier name, _⟩ :: _ =>
      if name ∈ valueNames then none else some (.unknownVariable name)
  | _ => none

/-- The stray name at the leftmost place. -/
def firstStray? : List PlacedToken → Option EvaluationError
  | [] => none
  | next :: rest => (strayName? (next :: rest)).or (firstStray? rest)

theorem firstStray?_eq_some_iff {cause : EvaluationError} :
    ∀ {placed : List PlacedToken}, firstStray? placed = some cause ↔
      ∃ place, strayName? (placed.drop place) = some cause ∧
        ∀ earlier < place, strayName? (placed.drop earlier) = none
  | [] => by simp [firstStray?, strayName?]
  | next :: rest => by
      rw [firstStray?, Option.or_eq_some_iff, firstStray?_eq_some_iff]
      constructor
      · rintro (here | ⟨other, place, later, earlier⟩)
        · exact ⟨0, here, by simp⟩
        · refine ⟨place + 1, later, fun before below => ?_⟩
          cases before with
          | zero => exact other
          | succ before => exact earlier before (by omega)
      · rintro ⟨place, stray, earlier⟩
        cases place with
        | zero => exact .inl stray
        | succ place =>
            refine .inr ⟨earlier 0 (by omega), place, stray, ?_⟩
            exact fun before below => earlier (before + 1) (by omega)

theorem firstStray?_eq_none_iff : ∀ {placed : List PlacedToken},
    firstStray? placed = none ↔
      ∀ place, strayName? (placed.drop place) = none
  | [] => by simp [firstStray?, strayName?]
  | next :: rest => by
      rw [firstStray?, Option.or_eq_none_iff, firstStray?_eq_none_iff]
      constructor
      · rintro ⟨here, later⟩ place
        cases place with
        | zero => exact here
        | succ place => exact later place
      · exact fun all => ⟨all 0, fun place => all (place + 1)⟩

theorem unresolved?_symbol (name : String) :
    (symbol name).unresolved? =
      if name ∈ valueNames then none else some (.unknownVariable name) := by
  by_cases isX : name = "x"
  · simp [symbol, isX, valueNames, Formula.unresolved?]
  · cases found : Constant.ofName? name with
    | none =>
        have other := constant_eq_none_iff.mp found
        simp [symbol, isX, found, other, valueNames, Formula.unresolved?]
    | some constant =>
        have named : name = "pi" ∨ name = "e" := by
          rw [← Decidable.not_not (p := name = "pi" ∨ _), not_or]
          exact fun other => by simp [constant_eq_none_iff.mpr other] at found
        simp [symbol, isX, found, named, valueNames, Formula.unresolved?]

theorem unresolved?_application (name : String) (argument : Formula) :
    (application name argument).unresolved? =
      if name ∈ functionNames then argument.unresolved?
      else some (.unknownFunction name) := by
  cases found : ElementaryFunction.ofName? name with
  | none =>
      have other := function_eq_none_iff.mp found
      simp [application, found, other, Formula.unresolved?]
  | some function =>
      have named : name ∈ functionNames := by
        rw [← Decidable.not_not (p := name ∈ functionNames),
          ← function_eq_none_iff, found]
        simp
      simp [application, found, named, Formula.unresolved?]

/-- A parenthesis after an identifier is all that the text after it tells. -/
theorem strayName?_name (name : String) (position : Nat)
    {rest : List PlacedToken} (ends : Ends 3 rest) :
    strayName? (⟨.identifier name, position⟩ :: rest) =
      if name ∈ valueNames then none else some (.unknownVariable name) := by
  match rest, ends with
  | [], _ => rfl
  | ⟨token, _⟩ :: _, ends =>
      rw [ends_cons] at ends
      cases token <;> simp [Token.tightness, strayName?] at ends ⊢

theorem firstStray?_cons (token : Token)
    (other : ∀ name, token ≠ .identifier name) (position : Nat)
    (rest : List PlacedToken) :
    firstStray? (⟨token, position⟩ :: rest) = firstStray? rest := by
  cases token with
  | identifier name => exact absurd rfl (other name)
  | _ => simp [firstStray?, strayName?]

/-! The stray names of a sentence and of what follows it are those of its
formula, in the order of evaluation, and then those of what follows. -/

mutual

theorem SumTree.firstStray?_append {rest : List PlacedToken}
    (ends : Ends 0 rest) : ∀ tree : SumTree,
    firstStray? (tree.tokens ++ rest) =
      tree.formula.unresolved?.or (firstStray? rest)
  | .chain first links => by
      rw [SumTree.tokens, SumTree.formula, List.append_assoc,
        first.firstStray?_append (links.ends ends),
        links.firstStray?_append ends first.formula]

theorem SumLinks.firstStray?_append {rest : List PlacedToken}
    (ends : Ends 0 rest) (left : Formula) : ∀ links : SumLinks,
    left.unresolved?.or (firstStray? (links.tokens ++ rest)) =
      (links.formula left).unresolved?.or (firstStray? rest)
  | .none => rfl
  | .link sign position operand later => by
      rw [SumLinks.tokens, SumLinks.formula, List.cons_append,
        List.append_assoc,
        firstStray?_cons sign.token (by cases sign <;> nofun),
        operand.firstStray?_append (later.ends ends),
        ← later.firstStray?_append ends, Formula.unresolved?, Option.or_assoc]

theorem ProductTree.firstStray?_append {rest : List PlacedToken}
    (ends : Ends 1 rest) : ∀ tree : ProductTree,
    firstStray? (tree.tokens ++ rest) =
      tree.formula.unresolved?.or (firstStray? rest)
  | .chain first links => by
      rw [ProductTree.tokens, ProductTree.formula, List.append_assoc,
        first.firstStray?_append (links.ends ends),
        links.firstStray?_append ends first.formula]

theorem ProductLinks.firstStray?_append {rest : List PlacedToken}
    (ends : Ends 1 rest) (left : Formula) : ∀ links : ProductLinks,
    left.unresolved?.or (firstStray? (links.tokens ++ rest)) =
      (links.formula left).unresolved?.or (firstStray? rest)
  | .none => rfl
  | .link scaling position operand later => by
      rw [ProductLinks.tokens, ProductLinks.formula, List.cons_append,
        List.append_assoc,
        firstStray?_cons scaling.token (by cases scaling <;> nofun),
        operand.firstStray?_append (later.ends ends),
        ← later.firstStray?_append ends, Formula.unresolved?, Option.or_assoc]

theorem UnaryTree.firstStray?_append {rest : List PlacedToken}
    (ends : Ends 2 rest) : ∀ tree : UnaryTree,
    firstStray? (tree.tokens ++ rest) =
      tree.formula.unresolved?.or (firstStray? rest)
  | .signed sign position operand => by
      have same : (sign.apply operand.formula).unresolved? =
          operand.formula.unresolved? := by
        cases sign <;> rfl
      rw [UnaryTree.tokens, UnaryTree.formula, List.cons_append,
        firstStray?_cons sign.token (by cases sign <;> nofun),
        operand.firstStray?_append ends, same]
  | .power power => power.firstStray?_append ends

theorem PowerTree.firstStray?_append {rest : List PlacedToken}
    (ends : Ends 2 rest) : ∀ tree : PowerTree,
    firstStray? (tree.tokens ++ rest) =
      tree.formula.unresolved?.or (firstStray? rest)
  | .primary primary => primary.firstStray?_append (ends.mono (by decide))
  | .raised base position exponent => by
      rw [PowerTree.tokens, PowerTree.formula, List.append_assoc,
        base.firstStray?_append (by simp [Token.tightness]), List.cons_append,
        firstStray?_cons .power nofun, exponent.firstStray?_append ends,
        Formula.unresolved?, Option.or_assoc]

theorem PrimaryTree.firstStray?_append {rest : List PlacedToken}
    (ends : Ends 3 rest) : ∀ tree : PrimaryTree,
    firstStray? (tree.tokens ++ rest) =
      tree.formula.unresolved?.or (firstStray? rest)
  | .number value position =>
      firstStray?_cons (.number value) nofun position rest
  | .name name position => by
      rw [PrimaryTree.tokens, PrimaryTree.formula_name, unresolved?_symbol,
        List.singleton_append, firstStray?, strayName?_name name position ends]
  | .call name position opening argument closing => by
      rw [PrimaryTree.tokens, PrimaryTree.formula_call, unresolved?_application]
      simp only [List.cons_append, List.append_assoc, List.nil_append]
      rw [firstStray?, firstStray?_cons .leftParenthesis nofun,
        argument.firstStray?_append (ends_closing closing rest),
        firstStray?_cons .rightParenthesis nofun, strayName?]
      split <;> rfl
  | .group opening inner closing => by
      rw [PrimaryTree.tokens, PrimaryTree.formula]
      simp only [List.cons_append, List.append_assoc, List.nil_append]
      rw [firstStray?_cons .leftParenthesis nofun,
        inner.firstStray?_append (ends_closing closing rest),
        firstStray?_cons .rightParenthesis nofun]

end

theorem firstStray?_tokens (tree : SumTree) :
    firstStray? tree.tokens = tree.formula.unresolved? := by
  have whole := tree.firstStray?_append (ends_nil 0)
  rwa [List.append_nil, firstStray?, Option.or_none] at whole

/-- The tokens' leftmost identifier that stands for nothing, as an error. -/
def LeftmostStray (placed : List PlacedToken) (cause : EvaluationError) :
    Prop :=
  ∃ place, strayName? (placed.drop place) = some cause ∧
    ∀ earlier < place, strayName? (placed.drop earlier) = none

end Grammar

namespace Expression

open Grammar

theorem compile_eq_of_parse {source : String} {expression : Expression}
    (parsed : parse source = .ok expression) :
    compile source = match expression.formula.unresolved? with
      | none => .ok expression
      | some cause => .error (.unresolved cause) := by
  simp only [compile, parsed, Outcome.ok_bind]
  cases unresolved : expression.formula.unresolved? with
  | none =>
      rcases (expression.formula.eval_ok_iff neutralPoint).mpr unresolved with
        ⟨value, evaluated⟩
      simp only [eval, evaluated]
      rfl
  | some cause =>
      have failed := (expression.formula.eval_eq_error_iff neutralPoint
        cause).mpr unresolved
      simp only [eval, failed]
      rfl

theorem exists_tokens_of_parse {source : String} {expression : Expression}
    (parsed : parse source = .ok expression) :
    ∃ placed, tokens source = .ok placed ∧
      firstStray? placed = expression.formula.unresolved? := by
  rcases Outcome.bind_eq_ok.mp parsed with ⟨placed, split, rest⟩
  rcases Outcome.bind_eq_ok.mp rest with ⟨formula, read, built⟩
  rcases exists_tree_of_ofTokens read with ⟨tree, rfl⟩
  rw [tree.ofTokens_tokens, settle_eq_ok] at read
  rw [Outcome.pure_eq_ok, Except.ok.injEq] at built
  subst built
  refine ⟨tree.tokens, split, ?_⟩
  rw [firstStray?_tokens, read.1]

/-- What becomes of a text that is read as an expression is told by the
identifiers among its tokens. -/
structure ResolvedByTokens (source : String) (placed : List PlacedToken)
    (expression : Expression) : Prop where
  compiles : compile source = .ok expression ↔
    ∀ place, strayName? (placed.drop place) = none
  fails : ∀ cause, compile source = .error (.unresolved cause) ↔
    LeftmostStray placed cause
  decided : compile source = .ok expression ∨
    ∃ cause, compile source = .error (.unresolved cause)
  evaluates : ∀ point, (∃ value, expression.eval point = .ok value) ↔
    compile source = .ok expression
  failsToEvaluate : ∀ point cause, expression.eval point = .error cause ↔
    compile source = .error (.unresolved cause)

theorem resolved_by_tokens {source : String} {expression : Expression}
    (parsed : parse source = .ok expression) :
    ∃ placed, tokens source = .ok placed ∧
      ResolvedByTokens source placed expression := by
  rcases exists_tokens_of_parse parsed with ⟨placed, split, names⟩
  have compiled := compile_eq_of_parse parsed
  have compiles : compile source = .ok expression ↔
      expression.formula.unresolved? = none := by
    rw [compiled]
    cases expression.formula.unresolved? <;> simp
  have fails (cause : EvaluationError) :
      compile source = .error (.unresolved cause) ↔
        expression.formula.unresolved? = some cause := by
    rw [compiled]
    cases expression.formula.unresolved? <;> simp
  refine ⟨placed, split, ?_⟩
  constructor
  case compiles => rw [compiles, ← names, firstStray?_eq_none_iff]
  case fails =>
      intro cause
      rw [fails, ← names, firstStray?_eq_some_iff, LeftmostStray]
  case decided =>
      rw [compiles]
      simp only [fails]
      cases expression.formula.unresolved? with
      | none => exact .inl rfl
      | some cause => exact .inr ⟨cause, rfl⟩
  case evaluates =>
      intro point
      rw [compiles]
      exact expression.formula.eval_ok_iff point
  case failsToEvaluate =>
      intro point cause
      rw [fails]
      exact expression.formula.eval_eq_error_iff point cause

theorem resolved_by_tokens_nested :
    ∃ expression placed, parse "2 - foo(y)" = .ok expression ∧
      tokens "2 - foo(y)" = .ok placed ∧
      ResolvedByTokens "2 - foo(y)" placed expression ∧
      compile "2 - foo(y)" = .error (.unresolved (.unknownFunction "foo")) := by
  have readable : (parse "2 - foo(y)").toOption.isSome = true := by
    decide +kernel
  have stray : (tokens "2 - foo(y)").toOption.bind firstStray? =
      some (.unknownFunction "foo") := by
    decide +kernel
  cases parsed : parse "2 - foo(y)" with
  | error error => simp [parsed, Except.toOption] at readable
  | ok expression =>
      rcases resolved_by_tokens parsed with ⟨placed, split, resolved⟩
      rw [split] at stray
      have leftmost := firstStray?_eq_some_iff.mp stray
      exact ⟨expression, placed, rfl, split, resolved,
        (resolved.fails _).mpr leftmost⟩

end Expression

end RootFinding
