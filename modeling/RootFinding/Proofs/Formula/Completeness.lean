import RootFinding.Proofs.Outcome
import RootFinding.Proofs.Formula.Syntax

/-! Reading a sentence. What stands after a sentence does not go on with it,
and then reading it gives its formula, or fails at its first token above the
limit on levels. -/

namespace RootFinding

/-- How tightly a token binds to an operand before it; zero for a token that
does not go on with what stands before it. -/
def Token.tightness : Token → Nat
  | .plus => 1
  | .minus => 1
  | .times => 2
  | .divide => 2
  | .power => 3
  | .leftParenthesis => 4
  | .number _ => 0
  | .identifier _ => 0
  | .rightParenthesis => 0

namespace Grammar

/-- The tokens after a sentence begin with none that binds more tightly. -/
def Ends (tightness : Nat) (rest : List PlacedToken) : Prop :=
  ∀ next ∈ rest.head?, next.token.tightness ≤ tightness

@[simp] theorem ends_nil (tightness : Nat) : Ends tightness [] := by
  simp [Ends]

@[simp] theorem ends_cons (tightness : Nat) (next : PlacedToken)
    (rest : List PlacedToken) :
    Ends tightness (next :: rest) ↔ next.token.tightness ≤ tightness := by
  simp [Ends]

theorem ends_closing (position : Nat) (rest : List PlacedToken) :
    Ends 0 (⟨.rightParenthesis, position⟩ :: rest) := by
  simp [Token.tightness]

theorem Ends.mono {low high : Nat} {rest : List PlacedToken}
    (ends : Ends low rest) (below : low ≤ high) : Ends high rest :=
  fun next member => Nat.le_trans (ends next member) below

theorem SumLinks.ends (links : SumLinks) {rest : List PlacedToken}
    (ends : Ends 0 rest) : Ends 1 (links.tokens ++ rest) := by
  cases links with
  | none => exact ends.mono (by decide)
  | link sign position operand later =>
      cases sign <;> simp [SumLinks.tokens, Sign.token, Token.tightness]

theorem ProductLinks.ends (links : ProductLinks) {rest : List PlacedToken}
    (ends : Ends 1 rest) : Ends 2 (links.tokens ++ rest) := by
  cases links with
  | none => exact ends.mono (by decide)
  | link scaling position operand later =>
      cases scaling <;> simp [ProductLinks.tokens, Scaling.token,
        Token.tightness]

/-- No token is taken where those that are taken bind more tightly than what
is there. -/
theorem first?_eq_none {α : Type} {select : Token → Option α}
    {tightness : Nat} {rest : List PlacedToken} (ends : Ends tightness rest)
    (tighter : ∀ token, token.tightness ≤ tightness → select token = none) :
    first? select rest = none := by
  cases rest with
  | nil => rfl
  | cons next later =>
      rw [ends_cons] at ends
      simp [first?, tighter next.token ends]

theorem first?_additive_eq_none {rest : List PlacedToken}
    (ends : Ends 0 rest) : first? additive? rest = none :=
  first?_eq_none ends fun token loose => by
    cases token <;> simp [Token.tightness, additive?] at loose ⊢

theorem first?_multiplicative_eq_none {rest : List PlacedToken}
    (ends : Ends 1 rest) : first? multiplicative? rest = none :=
  first?_eq_none ends fun token loose => by
    cases token <;> simp [Token.tightness, multiplicative?] at loose ⊢

theorem first?_raising_eq_none {rest : List PlacedToken}
    (ends : Ends 2 rest) : first? raising? rest = none :=
  first?_eq_none ends fun token loose => by
    cases token <;> simp [Token.tightness, raising?] at loose ⊢

theorem first?_opening_eq_none {rest : List PlacedToken}
    (ends : Ends 3 rest) : first? opening? rest = none :=
  first?_eq_none ends fun token loose => by
    cases token <;> simp [Token.tightness, opening?] at loose ⊢

/-- The first charge above the limit. -/
def excess? (limit : Nat) (charges : List Charge) : Option Charge :=
  charges.find? fun charge => limit < charge.level

/-- What reading gives where the limit on levels is all that can fail. -/
def settle {α : Type} (limit : Nat) (charges : List Charge) (value : α) :
    Except CompileError α :=
  match excess? limit charges with
  | some charge => .error (.tooDeep charge.token.position)
  | none => .ok value

variable {α β : Type} {limit : Nat}

@[simp] theorem settle_nil (value : α) : settle limit [] value = .ok value :=
  rfl

/-- A token that takes a level fails where none is left. -/
theorem settle_charge_zero (token : PlacedToken) (level : Nat)
    (later : List Charge) (value : α) :
    settle (level + 0) (⟨token, level + 1⟩ :: later) value =
      .error (.tooDeep token.position) := by
  simp [settle, excess?]

theorem settle_charge_succ (token : PlacedToken) (level below : Nat)
    (later : List Charge) (value : α) :
    settle (level + (below + 1)) (⟨token, level + 1⟩ :: later) value =
      settle (level + 1 + below) later value := by
  have sameLimit : level + (below + 1) = level + 1 + below := by omega
  have within : ¬level + 1 + below < level + 1 := by omega
  simp only [settle, excess?, sameLimit, List.find?_cons, within,
    decide_false]

/-- What is read one after the other is settled by the charges of both. -/
theorem settle_bind {first second : List Charge} {value : α} {result : β}
    {next : α → Except CompileError β}
    (later : next value = settle limit second result) :
    (settle limit first value >>= next) =
      settle limit (first ++ second) result := by
  cases found : first.find? (fun charge => decide (limit < charge.level)) with
  | none => simp [settle, excess?, List.find?_append, found, later]
  | some charge => simp [settle, excess?, List.find?_append, found]

/-- What only changes the value takes no charges. -/
theorem settle_bind_ok {charges : List Charge} {value : α} {result : β}
    {next : α → Except CompileError β} (later : next value = .ok result) :
    (settle limit charges value >>= next) = settle limit charges result := by
  have settled : next value = settle limit [] result := later
  rw [settle_bind settled, List.append_nil]

theorem PrimaryTree.first?_additive (tree : PrimaryTree)
    (rest : List PlacedToken) :
    first? additive? (tree.tokens ++ rest) = none := by
  cases tree <;> rfl

theorem PowerTree.first?_additive (tree : PowerTree)
    (rest : List PlacedToken) :
    first? additive? (tree.tokens ++ rest) = none := by
  cases tree with
  | primary primary => exact primary.first?_additive rest
  | raised base position exponent =>
      rw [PowerTree.tokens, List.append_assoc]
      exact base.first?_additive _

mutual

theorem SumTree.read {levels : Nat} (level : Nat) {rest : List PlacedToken}
    (ends : Ends 0 rest) : ∀ tree : SumTree,
    sum levels (tree.tokens ++ rest) =
      settle (level + levels) (tree.charges level) (tree.formula, rest)
  | .chain first links => by
      rw [sum, SumTree.tokens, List.append_assoc,
        first.read level (links.ends ends)]
      exact settle_bind (links.read level ends)

theorem SumLinks.read {levels : Nat} (level : Nat) {rest : List PlacedToken}
    {left : Formula} (ends : Ends 0 rest) : ∀ links : SumLinks,
    sumLinks levels left (links.tokens ++ rest) =
      settle (level + levels) (links.charges level)
        (links.formula left, rest)
  | .none => by
      -- The levels do not matter where no link follows, so they are not split.
      rw [sumLinks.eq_def, SumLinks.tokens, List.nil_append,
        first?_additive_eq_none ends]
      rfl
  | .link sign position operand later => by
      have taken : first? additive? ((SumLinks.link sign position operand
          later).tokens ++ rest) =
          some (sign.operator, position, operand.tokens ++
            (later.tokens ++ rest)) := by
        cases sign <;> simp [first?, additive?, SumLinks.tokens, Sign.token,
          Sign.operator]
      rw [sumLinks.eq_def, taken, SumLinks.charges]
      cases levels with
      | zero => rw [settle_charge_zero]
      | succ below =>
          rw [settle_charge_succ]
          simp only [operand.read (level + 1) (later.ends ends)]
          apply settle_bind
          exact later.read (level + 1) ends

theorem ProductTree.read {levels : Nat} (level : Nat) {rest : List PlacedToken}
    (ends : Ends 1 rest) : ∀ tree : ProductTree,
    product levels (tree.tokens ++ rest) =
      settle (level + levels) (tree.charges level) (tree.formula, rest)
  | .chain first links => by
      rw [product, ProductTree.tokens, List.append_assoc,
        first.read level (links.ends ends)]
      exact settle_bind (links.read level ends)

theorem ProductLinks.read {levels : Nat} (level : Nat) {rest : List PlacedToken}
    {left : Formula} (ends : Ends 1 rest) : ∀ links : ProductLinks,
    productLinks levels left (links.tokens ++ rest) =
      settle (level + levels) (links.charges level)
        (links.formula left, rest)
  | .none => by
      rw [productLinks.eq_def, ProductLinks.tokens, List.nil_append,
        first?_multiplicative_eq_none ends]
      rfl
  | .link scaling position operand later => by
      have taken : first? multiplicative? ((ProductLinks.link scaling position
          operand later).tokens ++ rest) =
          some (scaling.operator, position, operand.tokens ++
            (later.tokens ++ rest)) := by
        cases scaling <;> simp [first?, multiplicative?, ProductLinks.tokens,
          Scaling.token, Scaling.operator]
      rw [productLinks.eq_def, taken, ProductLinks.charges]
      cases levels with
      | zero => rw [settle_charge_zero]
      | succ below =>
          rw [settle_charge_succ]
          simp only [operand.read (level + 1) (later.ends ends)]
          apply settle_bind
          exact later.read (level + 1) ends

theorem UnaryTree.read {levels : Nat} (level : Nat) {rest : List PlacedToken}
    (ends : Ends 2 rest) : ∀ tree : UnaryTree,
    unary levels (tree.tokens ++ rest) =
      settle (level + levels) (tree.charges level) (tree.formula, rest)
  | .signed sign position operand => by
      have taken : first? additive? ((UnaryTree.signed sign position
          operand).tokens ++ rest) =
          some (sign.operator, position, operand.tokens ++ rest) := by
        cases sign <;> simp [first?, additive?, UnaryTree.tokens, Sign.token,
          Sign.operator]
      rw [unary.eq_def, taken, UnaryTree.charges]
      cases levels with
      | zero => rw [settle_charge_zero]
      | succ below =>
          rw [settle_charge_succ]
          simp only [operand.read (level + 1) ends]
          apply settle_bind_ok
          cases sign <;> rfl
  | .power power => by
      rw [unary.eq_def, UnaryTree.tokens, power.first?_additive]
      exact power.read level ends

theorem PowerTree.read {levels : Nat} (level : Nat) {rest : List PlacedToken}
    (ends : Ends 2 rest) : ∀ tree : PowerTree,
    power levels (tree.tokens ++ rest) =
      settle (level + levels) (tree.charges level) (tree.formula, rest)
  | .primary primary => by
      rw [power.eq_def, PowerTree.tokens, PowerTree.charges,
        primary.read level (ends.mono (by decide))]
      apply settle_bind_ok
      simp only [first?_raising_eq_none ends]
      rfl
  | .raised base position exponent => by
      rw [power.eq_def, PowerTree.tokens, List.append_assoc,
        base.read level (by simp [Token.tightness]),
        PowerTree.charges]
      apply settle_bind
      cases levels with
      | zero => rw [settle_charge_zero]; rfl
      | succ below =>
          rw [settle_charge_succ]
          simp only [first?, List.cons_append, raising?, Option.map_some,
            exponent.read (level + 1) ends]
          apply settle_bind_ok
          rfl

theorem PrimaryTree.read {levels : Nat} (level : Nat) {rest : List PlacedToken}
    (ends : Ends 3 rest) : ∀ tree : PrimaryTree,
    primary levels (tree.tokens ++ rest) =
      settle (level + levels) (tree.charges level) (tree.formula, rest)
  | .number value position => by
      rw [primary.eq_def]
      rfl
  | .name name position => by
      rw [primary.eq_def]
      simp [PrimaryTree.tokens, first?_opening_eq_none ends,
        PrimaryTree.charges]
  | .call name position opening argument closing => by
      rw [primary.eq_def, PrimaryTree.charges]
      simp only [PrimaryTree.tokens, List.cons_append, first?, opening?,
        Option.map_some, List.append_assoc, List.nil_append]
      cases levels with
      | zero => rw [settle_charge_zero]
      | succ below =>
          rw [settle_charge_succ]
          simp only [argument.read (level + 1) (ends_closing _ _)]
          apply settle_bind_ok
          rw [PrimaryTree.formula_call]
          rfl
  | .group opening inner closing => by
      rw [primary.eq_def, PrimaryTree.charges]
      simp only [PrimaryTree.tokens, List.cons_append, List.append_assoc,
        List.nil_append]
      cases levels with
      | zero => rw [settle_charge_zero]
      | succ below =>
          rw [settle_charge_succ]
          simp only [inner.read (level + 1) (ends_closing _ _)]
          apply settle_bind_ok
          rfl

end

end Grammar

end RootFinding
