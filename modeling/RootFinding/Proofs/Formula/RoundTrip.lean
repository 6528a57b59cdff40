import RootFinding.Proofs.Formula.Rendering

/-! Reading what was written. A formula that was read from a text, without an
infinite number in it, is written as a text that is read as the same formula
again, unless the parentheses of that text nest too deeply. A height of 129 is
never too much. -/

namespace RootFinding

namespace Grammar

open Formula (IsReadable)

def Scanned (placed : List PlacedToken) : Prop :=
  ∀ found ∈ placed, found.token.IsLexeme

theorem symbol_isReadable {name : String}
    (identifier : Token.isIdentifier name.toList = true) :
    (symbol name).IsReadable := by
  by_cases named : name = "x"
  · rw [symbol, if_pos named]
    trivial
  · cases constant : Constant.ofName? name with
    | some found =>
        rw [symbol, if_neg named, constant]
        trivial
    | none =>
        have unbound : symbol name = .unbound name := by
          rw [symbol, if_neg named, constant]
        rw [unbound]
        exact ⟨identifier, unbound⟩

theorem application_isReadable {name : String} {argument : Formula}
    (identifier : Token.isIdentifier name.toList = true)
    (readable : argument.IsReadable) :
    (application name argument).IsReadable := by
  cases function : ElementaryFunction.ofName? name with
  | some found =>
      rw [application, function]
      exact readable
  | none =>
      rw [application, function]
      exact ⟨⟨identifier, function⟩, readable⟩

theorem Sign.apply_isReadable (sign : Sign) {operand : Formula}
    (readable : operand.IsReadable) : (sign.apply operand).IsReadable := by
  cases sign <;> exact readable

/-! A sentence of scanned tokens means a readable formula. -/

mutual

theorem SumTree.isReadable : ∀ tree : SumTree,
    Scanned tree.tokens → tree.formula.IsReadable
  | .chain first links, scanned => by
      rw [SumTree.tokens] at scanned
      rcases List.forall_mem_append.1 scanned with ⟨inFirst, inLinks⟩
      exact links.isReadable (first.isReadable inFirst) inLinks

theorem SumLinks.isReadable {left : Formula} (readable : left.IsReadable) :
    ∀ links : SumLinks,
      Scanned links.tokens → (links.formula left).IsReadable
  | .none, _ => readable
  | .link sign position operand later, scanned => by
      rw [SumLinks.tokens] at scanned
      rcases List.forall_mem_append.1 (List.forall_mem_cons.1 scanned).2 with
        ⟨inOperand, inLater⟩
      have linked : IsReadable (.binary sign.operator left operand.formula) :=
        ⟨readable, operand.isReadable inOperand⟩
      exact later.isReadable linked inLater

theorem ProductTree.isReadable : ∀ tree : ProductTree,
    Scanned tree.tokens → tree.formula.IsReadable
  | .chain first links, scanned => by
      rw [ProductTree.tokens] at scanned
      rcases List.forall_mem_append.1 scanned with ⟨inFirst, inLinks⟩
      exact links.isReadable (first.isReadable inFirst) inLinks

theorem ProductLinks.isReadable {left : Formula} (readable : left.IsReadable) :
    ∀ links : ProductLinks,
      Scanned links.tokens → (links.formula left).IsReadable
  | .none, _ => readable
  | .link scaling position operand later, scanned => by
      rw [ProductLinks.tokens] at scanned
      rcases List.forall_mem_append.1 (List.forall_mem_cons.1 scanned).2 with
        ⟨inOperand, inLater⟩
      have linked :
          IsReadable (.binary scaling.operator left operand.formula) :=
        ⟨readable, operand.isReadable inOperand⟩
      exact later.isReadable linked inLater

theorem UnaryTree.isReadable : ∀ tree : UnaryTree,
    Scanned tree.tokens → tree.formula.IsReadable
  | .signed sign position operand, scanned => by
      rw [UnaryTree.tokens] at scanned
      have inOperand := (List.forall_mem_cons.1 scanned).2
      exact sign.apply_isReadable (operand.isReadable inOperand)
  | .power power, scanned => by
      rw [UnaryTree.tokens] at scanned
      exact power.isReadable scanned

theorem PowerTree.isReadable : ∀ tree : PowerTree,
    Scanned tree.tokens → tree.formula.IsReadable
  | .primary primary, scanned => by
      rw [PowerTree.tokens] at scanned
      exact primary.isReadable scanned
  | .raised base position exponent, scanned => by
      rw [PowerTree.tokens] at scanned
      rcases List.forall_mem_append.1 scanned with ⟨inBase, inExponent⟩
      exact ⟨base.isReadable inBase,
        exponent.isReadable (List.forall_mem_cons.1 inExponent).2⟩

theorem PrimaryTree.isReadable : ∀ tree : PrimaryTree,
    Scanned tree.tokens → tree.formula.IsReadable
  | .number value position, scanned => by
      rw [PrimaryTree.tokens] at scanned
      exact (List.forall_mem_cons.1 scanned).1
  | .name name position, scanned => by
      rw [PrimaryTree.tokens] at scanned
      rw [PrimaryTree.formula_name]
      exact symbol_isReadable (List.forall_mem_cons.1 scanned).1
  | .call name position opening argument closing, scanned => by
      rw [PrimaryTree.tokens] at scanned
      rcases List.forall_mem_cons.1 scanned with ⟨identifier, enclosed⟩
      have closed := (List.forall_mem_cons.1 enclosed).2
      have inArgument := (List.forall_mem_append.1 closed).1
      rw [PrimaryTree.formula_call]
      exact application_isReadable identifier (argument.isReadable inArgument)
  | .group opening inner closing, scanned => by
      rw [PrimaryTree.tokens] at scanned
      have closed := (List.forall_mem_cons.1 scanned).2
      exact inner.isReadable (List.forall_mem_append.1 closed).1

end

end Grammar

namespace Expression

open Grammar

theorem isReadable_of_parse {source : String} {expression : Expression}
    (parsed : parse source = .ok expression) :
    expression.formula.IsReadable := by
  rcases exists_tree_of_parse parsed with ⟨tree, scanned, means, _⟩
  rw [← means]
  exact tree.isReadable (Token.isLexeme_of_scan scanned)

theorem tokens_text {formula : Formula} (readable : formula.IsReadable)
    (finite : ∀ value ∈ formula.numbers, value.isFinite = true) :
    tokens formula.text =
      .ok (SumTree.ofUnary (.ofPrimary (formula.tree 0))).tokens := by
  have separates : Token.Separates [] := by simp [Token.Separates]
  have ended : Token.scan (0 + formula.text.length) [] = .ok [] := by
    rw [Token.scan]
  have scanned := formula.scansAs_text readable finite separates ended
  rw [List.append_nil, List.append_nil] at scanned
  rw [tokens, scanned, SumTree.ofUnary_tokens, UnaryTree.ofPrimary_tokens]

/-- Reading the text of a formula fails for its levels only. -/
theorem parse_text {formula : Formula} (readable : formula.IsReadable)
    (finite : ∀ value ∈ formula.numbers, value.isFinite = true) :
    parse formula.text =
      (settle nestingLimit ((formula.tree 0).charges 0) formula >>= fun read =>
        .ok ⟨formula.text, read⟩) := by
  have means :
      (SumTree.ofUnary (.ofPrimary (formula.tree 0))).formula = formula := by
    rw [SumTree.ofUnary_formula, UnaryTree.ofPrimary_formula,
      formula.tree_formula readable]
  rw [parse, tokens_text readable finite, Outcome.ok_bind,
    SumTree.ofTokens_tokens, means, SumTree.ofUnary_charges,
    UnaryTree.ofPrimary_charges]
  rfl

/-- A formula that was read, with finite numbers only, is read again from its
text, or its text nests too deeply. The latter takes a height above 129. -/
theorem parse_text_of_parse {source : String} {expression : Expression}
    (parsed : parse source = .ok expression)
    (finite : ∀ value ∈ expression.formula.numbers, value.isFinite = true) :
    (parse expression.formula.text =
        .ok ⟨expression.formula.text, expression.formula⟩ ∨
      ∃ position, parse expression.formula.text =
        .error (.tooDeep position)) ∧
    (expression.formula.height ≤ 129 →
      parse expression.formula.text =
        .ok ⟨expression.formula.text, expression.formula⟩) := by
  have readable := isReadable_of_parse parsed
  rw [parse_text readable finite]
  constructor
  · unfold settle
    split
    · exact .inr ⟨_, rfl⟩
    · exact .inl rfl
  · intro low
    have within : settle nestingLimit ((expression.formula.tree 0).charges 0)
        expression.formula = .ok expression.formula := by
      refine settle_eq_ok.2 ⟨rfl, fun charge member => ?_⟩
      have taken := Formula.tree_charges_le charge member
      unfold nestingLimit
      omega
    rw [within]
    rfl

theorem parse_text_of_parse_unbound :
    ∃ expression, parse "-.5^-sin(inf) / e(2e3 - x)" = .ok expression ∧
      (∀ value ∈ expression.formula.numbers, value.isFinite = true) ∧
      expression.formula.height ≤ 129 ∧
      parse expression.formula.text =
        .ok ⟨expression.formula.text, expression.formula⟩ := by
  have readable : (parse "-.5^-sin(inf) / e(2e3 - x)").toOption.any
      (fun expression => expression.formula.numbers.all Float.isFinite &&
        decide (expression.formula.height ≤ 129)) = true := by
    decide +kernel
  cases parsed : parse "-.5^-sin(inf) / e(2e3 - x)" with
  | error error => simp [parsed, Except.toOption] at readable
  | ok expression =>
      simp only [parsed, Except.toOption, Option.any_some, Bool.and_eq_true,
        List.all_eq_true, decide_eq_true_eq] at readable
      exact ⟨expression, rfl, readable.1, readable.2,
        (parse_text_of_parse parsed readable.1).2 readable.2⟩

end Expression

end RootFinding
