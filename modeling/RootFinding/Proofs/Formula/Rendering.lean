import RootFinding.Proofs.Formula.Height
import RootFinding.Proofs.Formula.Lexeme

/-! Written formulas. The text of a formula with readable names and numbers is
scanned as the tokens of one sentence, which means the formula. An operation
takes two levels there, one for its parenthesis and one for its symbol. -/

namespace RootFinding

namespace Grammar

/-! Sentences around primaries. -/

def UnaryTree.ofPrimary (primary : PrimaryTree) : UnaryTree :=
  .power (.primary primary)

def SumTree.ofUnary (unary : UnaryTree) : SumTree :=
  .chain (.chain unary .none) .none

/-- Two primaries with an operator between them. -/
def SumTree.joined (operator : Operator) (position : Nat)
    (left right : PrimaryTree) : SumTree :=
  let first := UnaryTree.ofPrimary left
  let second := UnaryTree.ofPrimary right
  match operator with
  | .add =>
      .chain (.chain first .none)
        (.link .plus position (.chain second .none) .none)
  | .subtract =>
      .chain (.chain first .none)
        (.link .minus position (.chain second .none) .none)
  | .multiply =>
      .chain (.chain first (.link .times position second .none)) .none
  | .divide =>
      .chain (.chain first (.link .divide position second .none)) .none
  | .power => .ofUnary (.power (.raised left position second))

end Grammar

def Operator.token : Operator → Token
  | .add => .plus
  | .subtract => .minus
  | .multiply => .times
  | .divide => .divide
  | .power => .power

namespace Grammar

section Primaries

variable (primary left right : PrimaryTree) (operator : Operator)
  (position level : Nat)

theorem UnaryTree.ofPrimary_tokens :
    (UnaryTree.ofPrimary primary).tokens = primary.tokens := by
  simp [UnaryTree.ofPrimary, UnaryTree.tokens, PowerTree.tokens]

theorem UnaryTree.ofPrimary_formula :
    (UnaryTree.ofPrimary primary).formula = primary.formula := by
  simp [UnaryTree.ofPrimary, UnaryTree.formula, PowerTree.formula]

theorem UnaryTree.ofPrimary_charges :
    (UnaryTree.ofPrimary primary).charges level = primary.charges level := by
  simp [UnaryTree.ofPrimary, UnaryTree.charges, PowerTree.charges]

variable (unary : UnaryTree)

theorem SumTree.ofUnary_tokens :
    (SumTree.ofUnary unary).tokens = unary.tokens := by
  simp [SumTree.ofUnary, SumTree.tokens, ProductTree.tokens, SumLinks.tokens,
    ProductLinks.tokens]

theorem SumTree.ofUnary_formula :
    (SumTree.ofUnary unary).formula = unary.formula := by
  simp [SumTree.ofUnary, SumTree.formula, ProductTree.formula, SumLinks.formula,
    ProductLinks.formula]

theorem SumTree.ofUnary_charges :
    (SumTree.ofUnary unary).charges level = unary.charges level := by
  simp [SumTree.ofUnary, SumTree.charges, ProductTree.charges, SumLinks.charges,
    ProductLinks.charges]

theorem SumTree.joined_tokens :
    (SumTree.joined operator position left right).tokens =
      left.tokens ++ ⟨operator.token, position⟩ :: right.tokens := by
  cases operator <;>
    simp [SumTree.joined, SumTree.ofUnary, SumTree.tokens, ProductTree.tokens,
      SumLinks.tokens, ProductLinks.tokens, UnaryTree.ofPrimary,
      UnaryTree.tokens, PowerTree.tokens, Operator.token, Sign.token,
      Scaling.token]

theorem SumTree.joined_formula :
    (SumTree.joined operator position left right).formula =
      .binary operator left.formula right.formula := by
  cases operator <;>
    simp [SumTree.joined, SumTree.ofUnary, SumTree.formula, ProductTree.formula,
      SumLinks.formula, ProductLinks.formula, UnaryTree.ofPrimary,
      UnaryTree.formula, PowerTree.formula, Sign.operator, Scaling.operator]

theorem SumTree.joined_charges :
    (SumTree.joined operator position left right).charges level =
      left.charges level ++ ⟨⟨operator.token, position⟩, level + 1⟩ ::
        right.charges (level + 1) := by
  cases operator <;>
    simp [SumTree.joined, SumTree.ofUnary, SumTree.charges, ProductTree.charges,
      SumLinks.charges, ProductLinks.charges, UnaryTree.ofPrimary,
      UnaryTree.charges, PowerTree.charges, Operator.token, Sign.token,
      Scaling.token]

end Primaries

end Grammar

namespace Formula

open Grammar

/-- A call of a name, with an argument that takes up some places. -/
def called (name : String) (position : Nat) (argument : Nat → PrimaryTree)
    (width : Nat) : PrimaryTree :=
  let opening := position + name.length
  .call name position opening (.ofUnary (.ofPrimary (argument (opening + 1))))
    (opening + 1 + width)

/-- The sentence of a formula's text that starts at a position. -/
def tree (position : Nat) : Formula → PrimaryTree
  | .number value => .number value position
  | .x => .name "x" position
  | .constant symbol => .name symbol.name position
  | .unbound name => .name name position
  | .negate operand =>
      let first := position + 2
      .group position
        (.ofUnary
          (.signed .minus (position + 1) (.ofPrimary (operand.tree first))))
        (first + operand.text.length)
  | .binary operator left right =>
      let middle := position + 1 + left.text.length + 1
      let second := middle + 2
      .group position
        (.joined operator middle (left.tree (position + 1)) (right.tree second))
        (second + right.text.length)
  | .call function argument =>
      called function.name position (fun first => argument.tree first)
        argument.text.length
  | .unboundCall name argument =>
      called name position (fun first => argument.tree first)
        argument.text.length

/-- Reading a text gives such names and numbers only. -/
def IsReadable : Formula → Prop
  | .number value => ∃ decimal : Decimal, decimal.toFloat = value
  | .x => True
  | .constant _ => True
  | .unbound name =>
      Token.isIdentifier name.toList = true ∧ symbol name = .unbound name
  | .negate operand => operand.IsReadable
  | .binary _ left right => left.IsReadable ∧ right.IsReadable
  | .call _ argument => argument.IsReadable
  | .unboundCall name argument =>
      (Token.isIdentifier name.toList = true ∧
        ElementaryFunction.ofName? name = none) ∧ argument.IsReadable

/-- The numbers that are written in a formula. -/
def numbers : Formula → List Float
  | .number value => [value]
  | .x => []
  | .constant _ => []
  | .unbound _ => []
  | .negate operand => operand.numbers
  | .binary _ left right => left.numbers ++ right.numbers
  | .call _ argument => argument.numbers
  | .unboundCall _ argument => argument.numbers

theorem called_formula (name : String) (position : Nat)
    (argument : Nat → PrimaryTree) (width : Nat) :
    (called name position argument width).formula =
      application name (argument (position + name.length + 1)).formula := by
  simp [called, SumTree.ofUnary_formula, UnaryTree.ofPrimary_formula]

theorem tree_formula {formula : Formula} (readable : formula.IsReadable)
    (position : Nat) : (formula.tree position).formula = formula := by
  induction formula generalizing position with
  | number value => simp [tree, PrimaryTree.formula]
  | x => simp [tree, symbol]
  | constant constant =>
      simp only [tree, PrimaryTree.formula]
      cases constant <;> rfl
  | unbound name =>
      rw [tree, PrimaryTree.formula_name]
      exact readable.2
  | negate operand operandFormula =>
      simp only [tree, PrimaryTree.formula, SumTree.ofUnary_formula,
        UnaryTree.formula, UnaryTree.ofPrimary_formula, operandFormula readable]
      rfl
  | binary operator left right leftFormula rightFormula =>
      simp only [tree, PrimaryTree.formula, SumTree.joined_formula,
        leftFormula readable.1, rightFormula readable.2]
  | call function argument argumentFormula =>
      rw [tree, called_formula, argumentFormula readable]
      cases function <;> rfl
  | unboundCall name argument argumentFormula =>
      rw [tree, called_formula, argumentFormula readable.2, application,
        readable.1.2]

theorem called_charges (name : String) (position : Nat)
    (argument : Nat → PrimaryTree) (width level : Nat) :
    (called name position argument width).charges level =
      ⟨⟨.leftParenthesis, position + name.length⟩, level + 1⟩ ::
        (argument (position + name.length + 1)).charges (level + 1) := by
  simp [called, PrimaryTree.charges, SumTree.ofUnary_charges,
    UnaryTree.ofPrimary_charges]

/-- Each node on a path takes two levels at most, and the last one none. -/
theorem tree_charges_le {formula : Formula} {position level : Nat} :
    ∀ charge ∈ (formula.tree position).charges level,
      charge.level + 2 ≤ level + 2 * formula.height := by
  induction formula generalizing position level with
  | number value => simp [tree, PrimaryTree.charges]
  | x => simp [tree, PrimaryTree.charges]
  | constant constant => simp [tree, PrimaryTree.charges]
  | unbound name => simp [tree, PrimaryTree.charges]
  | negate operand inOperand =>
      have positive := operand.height_pos
      simp only [tree, PrimaryTree.charges, SumTree.ofUnary_charges,
        UnaryTree.charges, UnaryTree.ofPrimary_charges, List.forall_mem_cons,
        height]
      refine ⟨by omega, by omega, fun charge member => ?_⟩
      have within := inOperand charge member
      omega
  | binary operator left right inLeft inRight =>
      have positive := left.height_pos
      simp only [tree, PrimaryTree.charges, SumTree.joined_charges,
        List.forall_mem_cons, List.forall_mem_append, height]
      refine ⟨by omega, fun charge member => ?_, by omega,
        fun charge member => ?_⟩
      · have within := inLeft charge member
        omega
      · have within := inRight charge member
        omega
  | call function argument inArgument =>
      have positive := argument.height_pos
      simp only [tree, called_charges, List.forall_mem_cons, height]
      refine ⟨by omega, fun charge member => ?_⟩
      have within := inArgument charge member
      omega
  | unboundCall name argument inArgument =>
      have positive := argument.height_pos
      simp only [tree, called_charges, List.forall_mem_cons, height]
      refine ⟨by omega, fun charge member => ?_⟩
      have within := inArgument charge member
      omega

/-! Scanning a written formula. -/

theorem scan_operator (operator : Operator) {position : Nat} {rest : List Char}
    {following : List PlacedToken}
    (later : Token.scan (position + 2) rest = .ok following) :
    Token.scan position (operator.symbol.toList ++ ' ' :: rest) =
      .ok (⟨operator.token, position⟩ :: following) := by
  rw [← Token.scan_blank] at later
  cases operator <;> exact Token.scan_of_front rfl later

/-- A text is scanned as some tokens wherever a separator follows it. -/
def ScansAs (text : String) (placed : Nat → List PlacedToken) : Prop :=
  ∀ {position : Nat} {rest : List Char} {following : List PlacedToken},
    Token.Separates rest →
      Token.scan (position + text.length) rest = .ok following →
        Token.scan position (text.toList ++ rest) =
          .ok (placed position ++ following)

theorem symbol_length (operator : Operator) : operator.symbol.length = 1 := by
  cases operator <;> rfl

theorem called_length (name text : String) :
    (name ++ "(" ++ text ++ ")").length =
      name.length + 1 + text.length + 1 := by
  have widths : "(".length = 1 ∧ ")".length = 1 := by decide
  simp only [String.length_append, widths]

theorem negate_length (operand : Formula) :
    (negate operand).text.length = 2 + operand.text.length + 1 := by
  have widths : "(-".length = 2 ∧ ")".length = 1 := by decide
  simp only [text, String.length_append, widths]

theorem binary_length (operator : Operator) (left right : Formula) :
    (binary operator left right).text.length =
      1 + left.text.length + 3 + right.text.length + 1 := by
  have widths : "(".length = 1 ∧ " ".length = 1 ∧ ")".length = 1 := by decide
  simp only [text, String.length_append, symbol_length, widths]

theorem scansAs_identifier {name : String}
    (identifier : Token.isIdentifier name.toList = true) :
    ScansAs name fun position => (PrimaryTree.name name position).tokens := by
  intro position rest following separates later
  exact Token.scan_identifier separates identifier later

theorem scansAs_called {name text : String} {argument : Nat → PrimaryTree}
    (identifier : Token.isIdentifier name.toList = true)
    (argumentScans : ScansAs text fun position => (argument position).tokens) :
    ScansAs (name ++ "(" ++ text ++ ")") fun position =>
      (called name position argument text.length).tokens := by
  intro position rest following separates later
  rw [called_length, ← Nat.add_assoc, ← Nat.add_assoc, ← Nat.add_assoc] at later
  have closed := Token.scan_close later
  have inner :=
    argumentScans (Token.separates_cons (.inr (.inr rfl)) rest) closed
  have opened := Token.scan_open inner
  have whole := Token.scan_identifier (Token.separates_cons (.inr (.inl rfl)) _)
    identifier opened
  simpa [called, PrimaryTree.tokens, SumTree.ofUnary_tokens,
    UnaryTree.ofPrimary_tokens] using whole

theorem scansAs_text {formula : Formula} (readable : formula.IsReadable)
    (finite : ∀ value ∈ formula.numbers, value.isFinite = true) :
    ScansAs formula.text fun position => (formula.tree position).tokens := by
  induction formula with
  | number value =>
      have legible : (Token.number value).IsLegible :=
        ⟨readable, finite _ (List.mem_singleton_self _)⟩
      intro position rest following separates later
      exact Token.scan_text separates legible later
  | x => exact scansAs_identifier rfl
  | constant constant => exact scansAs_identifier (by cases constant <;> rfl)
  | unbound name => exact scansAs_identifier readable.1
  | negate operand operandScans =>
      intro position rest following separates later
      rw [negate_length, ← Nat.add_assoc, ← Nat.add_assoc] at later
      have closed := Token.scan_close later
      have inner := operandScans readable finite
        (Token.separates_cons (.inr (.inr rfl)) rest) closed
      have negated := Token.scan_character
        (show Token.front '-' _ = .token [] .minus from rfl) inner
      have whole := Token.scan_open negated
      simpa [Formula.text, tree, PrimaryTree.tokens, SumTree.ofUnary_tokens,
        UnaryTree.tokens, UnaryTree.ofPrimary_tokens, Sign.token] using whole
  | binary operator left right leftScans rightScans =>
      have finiteParts := List.forall_mem_append.1 finite
      intro position rest following separates later
      rw [binary_length, ← Nat.add_assoc, ← Nat.add_assoc, ← Nat.add_assoc,
        ← Nat.add_assoc] at later
      have closed := Token.scan_close later
      have second := rightScans readable.2 finiteParts.2
        (Token.separates_cons (.inr (.inr rfl)) rest) closed
      have between := scan_operator operator second
      rw [← Token.scan_blank] at between
      have first := leftScans readable.1 finiteParts.1
        (Token.separates_cons (.inl rfl) _) between
      have whole := Token.scan_open first
      simpa [Formula.text, tree, PrimaryTree.tokens, SumTree.joined_tokens]
        using whole
  | call function argument argumentScans =>
      exact scansAs_called (by cases function <;> rfl)
        (argumentScans readable finite)
  | unboundCall name argument argumentScans =>
      exact scansAs_called readable.1.1 (argumentScans readable.2 finite)

end Formula

end RootFinding
