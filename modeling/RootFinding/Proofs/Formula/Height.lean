import RootFinding.Expression
import RootFinding.Proofs.Formula.Sentence

/-! How high the trees of formulas are. Levels are taken by the symbols before
an operand. A link of a chain or a `^` that follows an operand nests it too,
without taking a level from it, so that the height may exceed the limit on
levels. It stays below a quadratic bound. -/

namespace RootFinding

/-- The nodes on a longest path from the root to a leaf. -/
def Formula.height : Formula → Nat
  | .number _ => 1
  | .x => 1
  | .constant _ => 1
  | .unbound _ => 1
  | .negate operand => operand.height + 1
  | .binary _ left right => max left.height right.height + 1
  | .call _ argument => argument.height + 1
  | .unboundCall _ argument => argument.height + 1

theorem Formula.height_pos (formula : Formula) : 0 < formula.height := by
  cases formula <;> exact Nat.succ_pos _

namespace Grammar

/-- How deep an operand, a number or a name, lies in a formula: the operations
and calls around it whose symbols stand before it, and those whose symbols
stand after it. -/
structure Depth where
  before : Nat
  after : Nat
deriving DecidableEq

def SumLinks.count : SumLinks → Nat
  | .none => 0
  | .link _ _ _ later => later.count + 1

def ProductLinks.count : ProductLinks → Nat
  | .none => 0
  | .link _ _ _ later => later.count + 1

def Sign.count : Sign → Nat
  | .plus => 0
  | .minus => 1

/-! The depths of the operands of a sentence, of which some symbols stand
before and after. An operand of a chain lies under the link before it and
under all links after it. -/

mutual

def SumTree.depths (before after : Nat) : SumTree → List Depth
  | .chain first links =>
      first.depths before (after + links.count) ++ links.depths before after

def SumLinks.depths (before after : Nat) : SumLinks → List Depth
  | .none => []
  | .link _ _ operand later =>
      operand.depths (before + 1) (after + later.count) ++
        later.depths before after

def ProductTree.depths (before after : Nat) : ProductTree → List Depth
  | .chain first links =>
      first.depths before (after + links.count) ++ links.depths before after

def ProductLinks.depths (before after : Nat) : ProductLinks → List Depth
  | .none => []
  | .link _ _ operand later =>
      operand.depths (before + 1) (after + later.count) ++
        later.depths before after

def UnaryTree.depths (before after : Nat) : UnaryTree → List Depth
  | .signed sign _ operand => operand.depths (before + sign.count) after
  | .power power => power.depths before after

def PowerTree.depths (before after : Nat) : PowerTree → List Depth
  | .primary primary => primary.depths before after
  | .raised base _ exponent =>
      base.depths before (after + 1) ++ exponent.depths (before + 1) after

def PrimaryTree.depths (before after : Nat) : PrimaryTree → List Depth
  | .number _ _ => [⟨before, after⟩]
  | .name _ _ => [⟨before, after⟩]
  | .call _ _ _ argument _ => argument.depths (before + 1) after
  | .group _ inner _ => inner.depths before after

end

/-- An operand and what stands around it fit into a number of nodes. -/
def Depth.Fits (bound : Nat) (depth : Depth) : Prop :=
  depth.before + depth.after ≤ bound

theorem nameMeaning_height (name : String) :
    (nameMeaning name).height = 1 := by
  unfold nameMeaning
  split <;> rfl

theorem callMeaning_height (name : String) (argument : Formula) :
    (callMeaning name argument).height = argument.height + 1 := by
  unfold callMeaning
  split <;> rfl

theorem Sign.count_le_one (sign : Sign) : sign.count ≤ 1 := by
  cases sign <;> decide

theorem Sign.apply_height (sign : Sign) (operand : Formula) :
    (sign.apply operand).height = operand.height + sign.count := by
  cases sign <;> rfl

/-! The height of a formula is bounded exactly as the depths of its operands
are. Links are measured together with the formula before them. -/

mutual

theorem SumTree.height_le_iff {bound before after : Nat} :
    ∀ tree : SumTree,
    tree.formula.height + before + after ≤ bound + 1 ↔
      ∀ depth ∈ tree.depths before after, depth.Fits bound
  | .chain first links => by
      simp only [SumTree.formula, SumTree.depths, List.forall_mem_append,
        links.height_le_iff, ← first.height_le_iff]
      apply and_congr_left
      intro _
      omega

theorem SumLinks.height_le_iff {bound before after : Nat} {left : Formula} :
    ∀ links : SumLinks,
    (links.formula left).height + before + after ≤ bound + 1 ↔
      left.height + links.count + before + after ≤ bound + 1 ∧
        ∀ depth ∈ links.depths before after, depth.Fits bound
  | .none => by
      simp [SumLinks.formula, SumLinks.depths, SumLinks.count]
  | .link sign position operand later => by
      simp only [SumLinks.formula, SumLinks.depths, SumLinks.count,
        List.forall_mem_append, later.height_le_iff, ← operand.height_le_iff,
        Formula.height, ← and_assoc]
      apply and_congr_left
      intro _
      omega

theorem ProductTree.height_le_iff {bound before after : Nat} :
    ∀ tree : ProductTree,
    tree.formula.height + before + after ≤ bound + 1 ↔
      ∀ depth ∈ tree.depths before after, depth.Fits bound
  | .chain first links => by
      simp only [ProductTree.formula, ProductTree.depths,
        List.forall_mem_append, links.height_le_iff, ← first.height_le_iff]
      apply and_congr_left
      intro _
      omega

theorem ProductLinks.height_le_iff {bound before after : Nat}
    {left : Formula} : ∀ links : ProductLinks,
    (links.formula left).height + before + after ≤ bound + 1 ↔
      left.height + links.count + before + after ≤ bound + 1 ∧
        ∀ depth ∈ links.depths before after, depth.Fits bound
  | .none => by
      simp [ProductLinks.formula, ProductLinks.depths, ProductLinks.count]
  | .link scaling position operand later => by
      simp only [ProductLinks.formula, ProductLinks.depths,
        ProductLinks.count, List.forall_mem_append, later.height_le_iff,
        ← operand.height_le_iff, Formula.height, ← and_assoc]
      apply and_congr_left
      intro _
      omega

theorem UnaryTree.height_le_iff {bound before after : Nat} :
    ∀ tree : UnaryTree,
    tree.formula.height + before + after ≤ bound + 1 ↔
      ∀ depth ∈ tree.depths before after, depth.Fits bound
  | .signed sign position operand => by
      simp only [UnaryTree.formula, UnaryTree.depths, Sign.apply_height,
        ← operand.height_le_iff]
      omega
  | .power power => power.height_le_iff

theorem PowerTree.height_le_iff {bound before after : Nat} :
    ∀ tree : PowerTree,
    tree.formula.height + before + after ≤ bound + 1 ↔
      ∀ depth ∈ tree.depths before after, depth.Fits bound
  | .primary primary => primary.height_le_iff
  | .raised base position exponent => by
      simp only [PowerTree.formula, PowerTree.depths, List.forall_mem_append,
        ← base.height_le_iff, ← exponent.height_le_iff, Formula.height]
      omega

theorem PrimaryTree.height_le_iff {bound before after : Nat} :
    ∀ tree : PrimaryTree,
    tree.formula.height + before + after ≤ bound + 1 ↔
      ∀ depth ∈ tree.depths before after, depth.Fits bound
  | .number value position => by
      simp [PrimaryTree.formula, PrimaryTree.depths, Formula.height,
        Depth.Fits]
      omega
  | .name name position => by
      simp [PrimaryTree.formula, PrimaryTree.depths, nameMeaning_height,
        Depth.Fits]
      omega
  | .call name position opening argument closing => by
      simp only [PrimaryTree.formula, PrimaryTree.depths, callMeaning_height,
        ← argument.height_le_iff]
      omega
  | .group opening inner closing => inner.height_le_iff

end

/-! A symbol before an operand takes a level from it, so that within the limit
no operand has more of them. -/

mutual

theorem SumTree.before_le {limit level before after : Nat}
    (start : before ≤ level) (below : level ≤ limit) : ∀ tree : SumTree,
    (∀ charge ∈ tree.charges level, charge.level ≤ limit) →
      ∀ depth ∈ tree.depths before after, depth.before ≤ limit
  | .chain first links, within => by
      simp only [SumTree.charges, SumTree.depths, List.forall_mem_append]
        at within ⊢
      exact ⟨first.before_le start below within.1,
        links.before_le start within.2⟩

theorem SumLinks.before_le {limit level before after : Nat}
    (start : before ≤ level) : ∀ links : SumLinks,
    (∀ charge ∈ links.charges level, charge.level ≤ limit) →
      ∀ depth ∈ links.depths before after, depth.before ≤ limit
  | .none, within => by simp [SumLinks.depths]
  | .link sign position operand later, within => by
      simp only [SumLinks.charges, SumLinks.depths, List.forall_mem_cons,
        List.forall_mem_append] at within ⊢
      exact ⟨operand.before_le (by omega) within.1 within.2.1,
        later.before_le (by omega) within.2.2⟩

theorem ProductTree.before_le {limit level before after : Nat}
    (start : before ≤ level) (below : level ≤ limit) : ∀ tree : ProductTree,
    (∀ charge ∈ tree.charges level, charge.level ≤ limit) →
      ∀ depth ∈ tree.depths before after, depth.before ≤ limit
  | .chain first links, within => by
      simp only [ProductTree.charges, ProductTree.depths,
        List.forall_mem_append] at within ⊢
      exact ⟨first.before_le start below within.1,
        links.before_le start within.2⟩

theorem ProductLinks.before_le {limit level before after : Nat}
    (start : before ≤ level) : ∀ links : ProductLinks,
    (∀ charge ∈ links.charges level, charge.level ≤ limit) →
      ∀ depth ∈ links.depths before after, depth.before ≤ limit
  | .none, within => by simp [ProductLinks.depths]
  | .link scaling position operand later, within => by
      simp only [ProductLinks.charges, ProductLinks.depths,
        List.forall_mem_cons, List.forall_mem_append] at within ⊢
      exact ⟨operand.before_le (by omega) within.1 within.2.1,
        later.before_le (by omega) within.2.2⟩

theorem UnaryTree.before_le {limit level before after : Nat}
    (start : before ≤ level) (below : level ≤ limit) : ∀ tree : UnaryTree,
    (∀ charge ∈ tree.charges level, charge.level ≤ limit) →
      ∀ depth ∈ tree.depths before after, depth.before ≤ limit
  | .signed sign position operand, within => by
      simp only [UnaryTree.charges, List.forall_mem_cons] at within
      have atMostOne := sign.count_le_one
      exact operand.before_le (by omega) within.1 within.2
  | .power power, within => power.before_le start below within

theorem PowerTree.before_le {limit level before after : Nat}
    (start : before ≤ level) (below : level ≤ limit) : ∀ tree : PowerTree,
    (∀ charge ∈ tree.charges level, charge.level ≤ limit) →
      ∀ depth ∈ tree.depths before after, depth.before ≤ limit
  | .primary primary, within => primary.before_le start below within
  | .raised base position exponent, within => by
      simp only [PowerTree.charges, PowerTree.depths, List.forall_mem_cons,
        List.forall_mem_append] at within ⊢
      exact ⟨base.before_le start below within.1,
        exponent.before_le (by omega) within.2.1 within.2.2⟩

theorem PrimaryTree.before_le {limit level before after : Nat}
    (start : before ≤ level) (below : level ≤ limit) : ∀ tree : PrimaryTree,
    (∀ charge ∈ tree.charges level, charge.level ≤ limit) →
      ∀ depth ∈ tree.depths before after, depth.before ≤ limit
  | .number value position, within => by
      simp [PrimaryTree.depths]
      omega
  | .name name position, within => by
      simp [PrimaryTree.depths]
      omega
  | .call name position opening argument closing, within => by
      simp only [PrimaryTree.charges, List.forall_mem_cons] at within
      exact argument.before_le (by omega) within.1 within.2
  | .group opening inner closing, within => by
      simp only [PrimaryTree.charges, List.forall_mem_cons] at within
      exact inner.before_le (by omega) within.1 within.2

end

/-! What the levels leave possible. A chain, a `^` and a call each add to the
height of an operand that has given its levels back, so that one more level
lets a formula grow by a call, a `^` and a link of each chain, and every chain
around it by one more link. -/

/-- The greatest height of an operand of a product with some levels. -/
def reach : Nat → Nat
  | 0 => 1
  | below + 1 => reach below + 2 * below + 2

theorem reach_eq (levels : Nat) :
    reach levels = levels * levels + levels + 1 := by
  induction levels with
  | zero => rfl
  | succ below induction =>
      rw [reach, induction, Nat.add_mul, Nat.mul_add]
      omega

theorem reach_pos (levels : Nat) : 0 < reach levels := by
  rw [reach_eq]
  omega

/-- A level that a charge takes is one of those that are left. -/
theorem exists_below {level levels : Nat}
    (taken : level + 1 ≤ level + levels) :
    ∃ below, levels = below + 1 ∧ level + levels = level + 1 + below :=
  ⟨levels - 1, by omega, by omega⟩

mutual

theorem SumTree.height_le {level levels : Nat} : ∀ tree : SumTree,
    (∀ charge ∈ tree.charges level, charge.level ≤ level + levels) →
      tree.formula.height ≤ reach levels + 2 * levels
  | .chain first links, within => by
      simp only [SumTree.charges, List.forall_mem_append] at within
      have grown := links.height_le (first.height_le within.1)
        (Nat.le_refl _) within.2
      simp only [SumTree.formula]
      omega

theorem SumLinks.height_le {level levels bound : Nat} {left : Formula}
    (leftHeight : left.height ≤ bound)
    (room : reach levels + levels ≤ bound) : ∀ links : SumLinks,
    (∀ charge ∈ links.charges level, charge.level ≤ level + levels) →
      (links.formula left).height ≤ bound + levels
  | .none, _ => by
      simp only [SumLinks.formula]
      omega
  | .link sign position operand later, within => by
      simp only [SumLinks.charges, List.forall_mem_cons,
        List.forall_mem_append] at within
      rcases exists_below within.1 with ⟨below, rfl, sameLimit⟩
      rw [sameLimit] at within
      simp only [reach] at room
      -- Each link moves one from the levels to the bound.
      have operandHeight := operand.height_le within.2.1
      have leftNext : (Formula.binary sign.operator left
          operand.formula).height ≤ bound + 1 := by
        simp only [Formula.height]
        omega
      have grown := later.height_le leftNext (by omega) within.2.2
      simp only [SumLinks.formula]
      omega

theorem ProductTree.height_le {level levels : Nat} : ∀ tree : ProductTree,
    (∀ charge ∈ tree.charges level, charge.level ≤ level + levels) →
      tree.formula.height ≤ reach levels + levels
  | .chain first links, within => by
      simp only [ProductTree.charges, List.forall_mem_append] at within
      exact links.height_le (first.height_le within.1) (Nat.le_refl _)
        within.2

theorem ProductLinks.height_le {level levels bound : Nat} {left : Formula}
    (leftHeight : left.height ≤ bound)
    (room : reach levels ≤ bound) : ∀ links : ProductLinks,
    (∀ charge ∈ links.charges level, charge.level ≤ level + levels) →
      (links.formula left).height ≤ bound + levels
  | .none, _ => by
      simp only [ProductLinks.formula]
      omega
  | .link scaling position operand later, within => by
      simp only [ProductLinks.charges, List.forall_mem_cons,
        List.forall_mem_append] at within
      rcases exists_below within.1 with ⟨below, rfl, sameLimit⟩
      rw [sameLimit] at within
      simp only [reach] at room
      have operandHeight := operand.height_le within.2.1
      have leftNext : (Formula.binary scaling.operator left
          operand.formula).height ≤ bound + 1 := by
        simp only [Formula.height]
        omega
      have grown := later.height_le leftNext (by omega) within.2.2
      simp only [ProductLinks.formula]
      omega

theorem UnaryTree.height_le {level levels : Nat} : ∀ tree : UnaryTree,
    (∀ charge ∈ tree.charges level, charge.level ≤ level + levels) →
      tree.formula.height ≤ reach levels
  | .signed sign position operand, within => by
      simp only [UnaryTree.charges, List.forall_mem_cons] at within
      rcases exists_below within.1 with ⟨below, rfl, sameLimit⟩
      rw [sameLimit] at within
      have operandHeight := operand.height_le within.2
      have atMostOne := sign.count_le_one
      simp only [UnaryTree.formula, Sign.apply_height, reach]
      omega
  | .power power, within => power.height_le within

theorem PowerTree.height_le {level levels : Nat} : ∀ tree : PowerTree,
    (∀ charge ∈ tree.charges level, charge.level ≤ level + levels) →
      tree.formula.height ≤ reach levels
  | .primary primary, within => by
      have primaryHeight := primary.height_le within
      have positive := reach_pos levels
      simp only [PowerTree.formula]
      omega
  | .raised base position exponent, within => by
      simp only [PowerTree.charges, List.forall_mem_cons,
        List.forall_mem_append] at within
      rcases exists_below within.2.1 with ⟨below, rfl, sameLimit⟩
      -- The base is read before the `^` takes its level, with all levels.
      have baseHeight := base.height_le within.1
      rw [sameLimit] at within
      have exponentHeight := exponent.height_le within.2.2
      have positive := reach_pos below
      simp only [PowerTree.formula, Formula.height, reach]
        at baseHeight ⊢
      omega

theorem PrimaryTree.height_le {level levels : Nat} : ∀ tree : PrimaryTree,
    (∀ charge ∈ tree.charges level, charge.level ≤ level + levels) →
      tree.formula.height = 1 ∨ tree.formula.height + 1 ≤ reach levels
  | .number value position, _ => .inl rfl
  | .name name position, _ => .inl (nameMeaning_height name)
  | .call name position opening argument closing, within => by
      simp only [PrimaryTree.charges, List.forall_mem_cons] at within
      rcases exists_below within.1 with ⟨below, rfl, sameLimit⟩
      rw [sameLimit] at within
      have argumentHeight := argument.height_le within.2
      simp only [PrimaryTree.formula, callMeaning_height, reach]
      omega
  | .group opening inner closing, within => by
      simp only [PrimaryTree.charges, List.forall_mem_cons] at within
      rcases exists_below within.1 with ⟨below, rfl, sameLimit⟩
      rw [sameLimit] at within
      have innerHeight := inner.height_le within.2
      simp only [PrimaryTree.formula, reach]
      omega

end

end Grammar

namespace Expression

open Grammar

/-- What is read from a text is the formula of a sentence within the limit,
whose tokens are those of the text. -/
theorem exists_tree_of_parse {source : String} {expression : Expression}
    (parsed : parse source = .ok expression) :
    ∃ tree : SumTree, tokens source = .ok tree.tokens ∧
      tree.formula = expression.formula ∧
      ∀ charge ∈ tree.charges 0, charge.level ≤ nestingLimit := by
  rcases Outcome.bind_eq_ok.mp parsed with ⟨placed, split, rest⟩
  rcases Outcome.bind_eq_ok.mp rest with ⟨formula, read, same⟩
  rcases exists_tree_of_ofTokens read with ⟨tree, rfl⟩
  rw [tree.ofTokens_tokens, settle_eq_ok] at read
  cases same
  exact ⟨tree, split, read⟩

/-- The limit on levels limits the symbols that stand before an operand and
nest it. The height of the formula keeps within the limit exactly when they
and the symbols after the operand do so together, and is quadratic in the limit
at most. -/
theorem height_le_limit_iff {source : String} {expression : Expression}
    (parsed : parse source = .ok expression) :
    ∃ tree : SumTree, tokens source = .ok tree.tokens ∧
      tree.formula = expression.formula ∧
      (∀ depth ∈ tree.depths 0 0, depth.before ≤ nestingLimit) ∧
      (expression.formula.height ≤ nestingLimit + 1 ↔
        ∀ depth ∈ tree.depths 0 0,
          depth.before + depth.after ≤ nestingLimit) ∧
      expression.formula.height ≤
        nestingLimit * nestingLimit + 3 * nestingLimit + 1 := by
  rcases exists_tree_of_parse parsed with ⟨tree, split, means, within⟩
  refine ⟨tree, split, means, ?_, ?_, ?_⟩
  · exact tree.before_le (Nat.le_refl 0) (Nat.zero_le _) within
  · rw [← means]
    exact @SumTree.height_le_iff nestingLimit 0 0 tree
  · have grown := @SumTree.height_le 0 nestingLimit tree
      (by rwa [Nat.zero_add])
    rw [reach_eq, means] at grown
    omega

/-- A sum of 256 terms in a group, which takes all levels, and two more terms
after the group. -/
def nestedChain : List Char :=
  '(' :: ((List.replicate 255 ['x', '+']).flatten ++
    ['x', ')', '+', 'x', '+', 'x'])

set_option maxRecDepth 4000 in
theorem parse_nestedChain :
    ∃ expression, parse (String.ofList nestedChain) = .ok expression ∧
      expression.formula.height = 258 := by
  have read : ((Token.scan 0 nestedChain >>= Formula.ofTokens).toOption.map
      Formula.height) = some 258 := by
    decide +kernel
  cases found : Token.scan 0 nestedChain >>= Formula.ofTokens with
  | error error => simp [found, Except.toOption] at read
  | ok formula =>
      rcases Outcome.bind_eq_ok.mp found with ⟨placed, split, formulaRead⟩
      refine ⟨⟨String.ofList nestedChain, formula⟩, ?_, ?_⟩
      · simp [parse, tokens, split, formulaRead]
      · simpa [found, Except.toOption] using read

/-- The limit on levels is no limit on the height. -/
theorem exists_height_above_limit :
    ¬∀ source expression, parse source = .ok expression →
      expression.formula.height ≤ nestingLimit + 1 := by
  intro bounded
  rcases parse_nestedChain with ⟨expression, parsed, height⟩
  have impossible := bounded _ expression parsed
  rw [height] at impossible
  exact absurd impossible (by decide)

theorem height_le_limit_iff_nestedChain :
    ∃ expression, parse (String.ofList nestedChain) = .ok expression ∧
      expression.formula.height = 258 ∧ ∃ tree : SumTree,
        tokens (String.ofList nestedChain) = .ok tree.tokens ∧
        tree.formula = expression.formula ∧
        (∀ depth ∈ tree.depths 0 0, depth.before ≤ nestingLimit) ∧
        (expression.formula.height ≤ nestingLimit + 1 ↔
          ∀ depth ∈ tree.depths 0 0,
            depth.before + depth.after ≤ nestingLimit) ∧
        expression.formula.height ≤
          nestingLimit * nestingLimit + 3 * nestingLimit + 1 := by
  rcases parse_nestedChain with ⟨expression, parsed, height⟩
  exact ⟨expression, parsed, height, height_le_limit_iff parsed⟩

end Expression

end RootFinding
