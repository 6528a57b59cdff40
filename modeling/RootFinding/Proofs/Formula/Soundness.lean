import RootFinding.Proofs.Outcome
import RootFinding.Proofs.Formula.Syntax

/-! What is read is a sentence: the tokens that a successful reading takes are
those of a syntax tree, whose formula is the result and whose charges fit into
the levels that were left. -/

namespace RootFinding

namespace Grammar

theorem first?_eq_some {α : Type} {select : Token → Option α} {value : α}
    {position : Nat} {source rest : List PlacedToken}
    (taken : first? select source = some (value, position, rest)) :
    ∃ token, select token = some value ∧ source = ⟨token, position⟩ :: rest := by
  cases source with
  | nil => simp [first?] at taken
  | cons next later =>
      simp only [first?, Option.map_eq_some_iff, Prod.mk.injEq] at taken
      rcases taken with ⟨selected, selects, rfl, rfl, rfl⟩
      exact ⟨next.token, selects, rfl⟩

theorem first?_additive_eq_some {operator : Operator} {position : Nat}
    {source rest : List PlacedToken}
    (taken : first? additive? source = some (operator, position, rest)) :
    ∃ sign : Sign, sign.operator = operator ∧
      source = ⟨sign.token, position⟩ :: rest := by
  rcases first?_eq_some taken with ⟨token, selects, rfl⟩
  cases token <;> simp [additive?] at selects
  · exact ⟨.plus, selects, rfl⟩
  · exact ⟨.minus, selects, rfl⟩

theorem first?_multiplicative_eq_some {operator : Operator} {position : Nat}
    {source rest : List PlacedToken}
    (taken : first? multiplicative? source = some (operator, position, rest)) :
    ∃ scaling : Scaling, scaling.operator = operator ∧
      source = ⟨scaling.token, position⟩ :: rest := by
  rcases first?_eq_some taken with ⟨token, selects, rfl⟩
  cases token <;> simp [multiplicative?] at selects
  · exact ⟨.times, selects, rfl⟩
  · exact ⟨.divide, selects, rfl⟩

theorem first?_raising_eq_some {operator : Operator} {position : Nat}
    {source rest : List PlacedToken}
    (taken : first? raising? source = some (operator, position, rest)) :
    operator = .power ∧ source = ⟨.power, position⟩ :: rest := by
  rcases first?_eq_some taken with ⟨token, selects, rfl⟩
  cases token <;> simp [raising?] at selects
  exact ⟨selects.symm, rfl⟩

theorem first?_opening_eq_some {selected : Unit} {position : Nat}
    {source rest : List PlacedToken}
    (taken : first? opening? source = some (selected, position, rest)) :
    source = ⟨.leftParenthesis, position⟩ :: rest := by
  rcases first?_eq_some taken with ⟨token, selects, rfl⟩
  cases token <;> simp [opening?] at selects
  rfl

theorem close_eq_ok {opening : Nat} {source rest : List PlacedToken}
    (closed : close opening source = .ok rest) :
    ∃ closing, source = ⟨.rightParenthesis, closing⟩ :: rest := by
  cases source with
  | nil => simp [close] at closed
  | cons next later =>
      rcases next with ⟨token, position⟩
      cases token <;> simp [close] at closed
      exact ⟨position, by rw [closed]⟩

/-- A token takes one of the levels, and the charges after it fit into the
others. -/
theorem charges_le_of_taken {token : PlacedToken} {level below : Nat}
    {later : List Charge}
    (within : ∀ charge ∈ later, charge.level ≤ level + 1 + below) :
    ∀ charge ∈ (⟨token, level + 1⟩ :: later : List Charge),
      charge.level ≤ level + (below + 1) := by
  have sameLimit : level + (below + 1) = level + 1 + below := by omega
  rw [sameLimit]
  exact List.forall_mem_cons.2 ⟨Nat.le_add_right _ _, within⟩

mutual

theorem sum_sound {levels : Nat} (level : Nat)
    {source rest : List PlacedToken} {formula : Formula}
    (read : sum levels source = .ok (formula, rest)) :
    ∃ tree : SumTree, source = tree.tokens ++ rest ∧ tree.formula = formula ∧
      ∀ charge ∈ tree.charges level, charge.level ≤ level + levels := by
  rw [sum] at read
  rcases Outcome.bind_eq_ok.mp read with ⟨⟨first, middle⟩, firstRead, linksRead⟩
  rcases product_sound level firstRead with ⟨tree, rfl, rfl, inFirst⟩
  rcases sumLinks_sound level linksRead with ⟨links, rfl, rfl, inLinks⟩
  exact ⟨.chain tree links, by simp [SumTree.tokens], rfl,
    List.forall_mem_append.2 ⟨inFirst, inLinks⟩⟩
termination_by 5 * levels + 4

theorem sumLinks_sound {levels : Nat} (level : Nat) {left formula : Formula}
    {source rest : List PlacedToken}
    (read : sumLinks levels left source = .ok (formula, rest)) :
    ∃ links : SumLinks, source = links.tokens ++ rest ∧
      links.formula left = formula ∧
      ∀ charge ∈ links.charges level, charge.level ≤ level + levels := by
  rw [sumLinks.eq_def] at read
  cases taken : first? additive? source with
  | none =>
      simp only [taken, Except.ok.injEq, Prod.mk.injEq] at read
      exact ⟨.none, by simp [SumLinks.tokens, read.2], read.1,
        List.forall_mem_nil _⟩
  | some found =>
      rcases found with ⟨operator, position, after⟩
      rcases first?_additive_eq_some taken with ⟨sign, rfl, rfl⟩
      cases levels with
      | zero => simp [taken] at read
      | succ below =>
          simp only [taken] at read
          rcases Outcome.bind_eq_ok.mp read with
            ⟨⟨right, middle⟩, rightRead, laterRead⟩
          rcases product_sound (level + 1) rightRead with
            ⟨operand, rfl, rfl, inOperand⟩
          rcases sumLinks_sound (level + 1) laterRead with
            ⟨later, rfl, rfl, inLater⟩
          exact ⟨.link sign position operand later, by
            simp [SumLinks.tokens], rfl, charges_le_of_taken
              (List.forall_mem_append.2 ⟨inOperand, inLater⟩)⟩
termination_by 5 * levels

theorem product_sound {levels : Nat} (level : Nat)
    {source rest : List PlacedToken} {formula : Formula}
    (read : product levels source = .ok (formula, rest)) :
    ∃ tree : ProductTree, source = tree.tokens ++ rest ∧
      tree.formula = formula ∧
      ∀ charge ∈ tree.charges level, charge.level ≤ level + levels := by
  rw [product] at read
  rcases Outcome.bind_eq_ok.mp read with ⟨⟨first, middle⟩, firstRead, linksRead⟩
  rcases unary_sound level firstRead with ⟨tree, rfl, rfl, inFirst⟩
  rcases productLinks_sound level linksRead with ⟨links, rfl, rfl, inLinks⟩
  exact ⟨.chain tree links, by simp [ProductTree.tokens], rfl,
    List.forall_mem_append.2 ⟨inFirst, inLinks⟩⟩
termination_by 5 * levels + 3

theorem productLinks_sound {levels : Nat} (level : Nat)
    {left formula : Formula} {source rest : List PlacedToken}
    (read : productLinks levels left source = .ok (formula, rest)) :
    ∃ links : ProductLinks, source = links.tokens ++ rest ∧
      links.formula left = formula ∧
      ∀ charge ∈ links.charges level, charge.level ≤ level + levels := by
  rw [productLinks.eq_def] at read
  cases taken : first? multiplicative? source with
  | none =>
      simp only [taken, Except.ok.injEq, Prod.mk.injEq] at read
      exact ⟨.none, by simp [ProductLinks.tokens, read.2], read.1,
        List.forall_mem_nil _⟩
  | some found =>
      rcases found with ⟨operator, position, after⟩
      rcases first?_multiplicative_eq_some taken with ⟨scaling, rfl, rfl⟩
      cases levels with
      | zero => simp [taken] at read
      | succ below =>
          simp only [taken] at read
          rcases Outcome.bind_eq_ok.mp read with
            ⟨⟨right, middle⟩, rightRead, laterRead⟩
          rcases unary_sound (level + 1) rightRead with
            ⟨operand, rfl, rfl, inOperand⟩
          rcases productLinks_sound (level + 1) laterRead with
            ⟨later, rfl, rfl, inLater⟩
          exact ⟨.link scaling position operand later, by
            simp [ProductLinks.tokens], rfl, charges_le_of_taken
              (List.forall_mem_append.2 ⟨inOperand, inLater⟩)⟩
termination_by 5 * levels

theorem unary_sound {levels : Nat} (level : Nat)
    {source rest : List PlacedToken} {formula : Formula}
    (read : unary levels source = .ok (formula, rest)) :
    ∃ tree : UnaryTree, source = tree.tokens ++ rest ∧
      tree.formula = formula ∧
      ∀ charge ∈ tree.charges level, charge.level ≤ level + levels := by
  rw [unary.eq_def] at read
  cases taken : first? additive? source with
  | none =>
      simp only [taken] at read
      rcases power_sound level read with ⟨tree, rfl, rfl, within⟩
      exact ⟨.power tree, rfl, rfl, within⟩
  | some found =>
      rcases found with ⟨operator, position, after⟩
      rcases first?_additive_eq_some taken with ⟨sign, rfl, rfl⟩
      cases levels with
      | zero => simp [taken] at read
      | succ below =>
          simp only [taken] at read
          rcases Outcome.bind_eq_ok.mp read with
            ⟨⟨operand, middle⟩, operandRead, same⟩
          rcases unary_sound (level + 1) operandRead with
            ⟨tree, rfl, rfl, within⟩
          cases same
          exact ⟨.signed sign position tree, rfl, by cases sign <;> rfl,
            charges_le_of_taken within⟩
termination_by 5 * levels + 2

theorem power_sound {levels : Nat} (level : Nat)
    {source rest : List PlacedToken} {formula : Formula}
    (read : power levels source = .ok (formula, rest)) :
    ∃ tree : PowerTree, source = tree.tokens ++ rest ∧
      tree.formula = formula ∧
      ∀ charge ∈ tree.charges level, charge.level ≤ level + levels := by
  rw [power.eq_def] at read
  rcases Outcome.bind_eq_ok.mp read with ⟨⟨base, middle⟩, baseRead, after⟩
  rcases primary_sound level baseRead with ⟨baseTree, rfl, rfl, inBase⟩
  cases taken : first? raising? middle with
  | none =>
      simp only [taken] at after
      cases after
      exact ⟨.primary baseTree, rfl, rfl, inBase⟩
  | some found =>
      rcases found with ⟨operator, position, later⟩
      rcases first?_raising_eq_some taken with ⟨rfl, rfl⟩
      cases levels with
      | zero => simp [taken] at after
      | succ below =>
          simp only [taken] at after
          rcases Outcome.bind_eq_ok.mp after with
            ⟨⟨exponent, middle⟩, exponentRead, same⟩
          rcases unary_sound (level + 1) exponentRead with
            ⟨tree, rfl, rfl, inExponent⟩
          cases same
          exact ⟨.raised baseTree position tree, by simp [PowerTree.tokens],
            rfl, List.forall_mem_append.2
              ⟨inBase, charges_le_of_taken inExponent⟩⟩
termination_by 5 * levels + 1

theorem primary_sound {levels : Nat} (level : Nat)
    {source rest : List PlacedToken} {formula : Formula}
    (read : primary levels source = .ok (formula, rest)) :
    ∃ tree : PrimaryTree, source = tree.tokens ++ rest ∧
      tree.formula = formula ∧
      ∀ charge ∈ tree.charges level, charge.level ≤ level + levels := by
  rw [primary.eq_def] at read
  cases source with
  | nil => simp at read
  | cons next later =>
      rcases next with ⟨token, position⟩
      cases token with
      | number value =>
          cases read
          exact ⟨.number value position, rfl, rfl, List.forall_mem_nil _⟩
      | identifier name =>
          cases taken : first? opening? later with
          | none =>
              simp only [taken] at read
              cases read
              exact ⟨.name name position, rfl,
                PrimaryTree.formula_name name position, List.forall_mem_nil _⟩
          | some found =>
              rcases found with ⟨selected, opening, after⟩
              rcases first?_opening_eq_some taken with rfl
              cases levels with
              | zero => simp [taken] at read
              | succ below =>
                  simp only [taken] at read
                  rcases Outcome.bind_eq_ok.mp read with
                    ⟨⟨argument, middle⟩, argumentRead, read⟩
                  rcases Outcome.bind_eq_ok.mp read with ⟨final, closed, same⟩
                  rcases sum_sound (level + 1) argumentRead with
                    ⟨tree, rfl, rfl, within⟩
                  rcases close_eq_ok closed with ⟨closing, rfl⟩
                  cases same
                  exact ⟨.call name position opening tree closing, by
                    simp [PrimaryTree.tokens],
                    PrimaryTree.formula_call ..,
                    charges_le_of_taken within⟩
      | leftParenthesis =>
          cases levels with
          | zero => simp at read
          | succ below =>
              simp only at read
              rcases Outcome.bind_eq_ok.mp read with
                ⟨⟨inner, middle⟩, innerRead, read⟩
              rcases Outcome.bind_eq_ok.mp read with ⟨final, closed, same⟩
              rcases sum_sound (level + 1) innerRead with
                ⟨tree, rfl, rfl, within⟩
              rcases close_eq_ok closed with ⟨closing, rfl⟩
              cases same
              exact ⟨.group position tree closing, by
                simp [PrimaryTree.tokens], rfl, charges_le_of_taken within⟩
      | _ => cases read
termination_by 5 * levels

end

end Grammar

end RootFinding
