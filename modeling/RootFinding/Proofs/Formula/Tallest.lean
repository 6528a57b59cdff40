import Mathlib.Order.Bounds.Basic
import RootFinding.Proofs.Formula.Height
import RootFinding.Proofs.Formula.Lexeme
import RootFinding.Proofs.Formula.Machine
import RootFinding.Proofs.Formula.Relocation

/-! The highest formulas. A call takes a level for its argument only. The call
itself can still be raised to a power, and then be extended by one link of each
chain for every level, so that the height grows with the square of the levels.
Every function of the grammar reads a formula that is as high as this allows,
and none that is higher. -/

namespace RootFinding

namespace Grammar

/-! Sentences that nest a primary as often as some levels allow. Their tokens
are all at the same place. -/

def UnaryTree.x : UnaryTree :=
  .power (.primary (.name "x" 0))

/-- Adds `x` some times. -/
def SumLinks.plusX : Nat → SumLinks
  | 0 => .none
  | later + 1 => .link .plus 0 (.chain .x .none) (plusX later)

/-- Multiplies by `x` some times. -/
def ProductLinks.timesX : Nat → ProductLinks
  | 0 => .none
  | later + 1 => .link .times 0 .x (timesX later)

/-- A `^` takes one level for the exponent only, however many there are. -/
def PowerTree.around (base : PrimaryTree) : Nat → PowerTree
  | 0 => .primary base
  | _ + 1 => .raised base 0 .x

def ProductTree.around (base : PrimaryTree) (levels : Nat) : ProductTree :=
  .chain (.power (.around base levels)) (.timesX levels)

def SumTree.around (base : PrimaryTree) (levels : Nat) : SumTree :=
  .chain (.around base levels) (.plusX levels)

/-- Each level is taken by a call of what the levels below it allow. -/
def PrimaryTree.tallest : Nat → PrimaryTree
  | 0 => .name "x" 0
  | below + 1 => .call "abs" 0 0 (.around (tallest below) below) 0

/-! Nothing in these sentences takes a level that there is not. -/

theorem SumLinks.plusX_charges_le (levels level : Nat) :
    ∀ charge ∈ (SumLinks.plusX levels).charges level,
      charge.level ≤ level + levels := by
  induction levels generalizing level with
  | zero => exact List.forall_mem_nil _
  | succ below within => exact charges_le_of_taken (within (level + 1))

theorem ProductLinks.timesX_charges_le (levels level : Nat) :
    ∀ charge ∈ (ProductLinks.timesX levels).charges level,
      charge.level ≤ level + levels := by
  induction levels generalizing level with
  | zero => exact List.forall_mem_nil _
  | succ below within => exact charges_le_of_taken (within (level + 1))

section Around

variable {base : PrimaryTree} {levels level : Nat}
  (within : ∀ charge ∈ base.charges level, charge.level ≤ level + levels)
include within

theorem PowerTree.around_charges_le :
    ∀ charge ∈ (PowerTree.around base levels).charges level,
      charge.level ≤ level + levels := by
  cases levels with
  | zero => exact within
  | succ below =>
      exact List.forall_mem_append.2
        ⟨within, charges_le_of_taken (List.forall_mem_nil _)⟩

theorem ProductTree.around_charges_le :
    ∀ charge ∈ (ProductTree.around base levels).charges level,
      charge.level ≤ level + levels :=
  List.forall_mem_append.2 ⟨PowerTree.around_charges_le within,
    ProductLinks.timesX_charges_le levels level⟩

theorem SumTree.around_charges_le :
    ∀ charge ∈ (SumTree.around base levels).charges level,
      charge.level ≤ level + levels :=
  List.forall_mem_append.2 ⟨ProductTree.around_charges_le within,
    SumLinks.plusX_charges_le levels level⟩

end Around

theorem PrimaryTree.tallest_charges_le (levels level : Nat) :
    ∀ charge ∈ (PrimaryTree.tallest levels).charges level,
      charge.level ≤ level + levels := by
  induction levels generalizing level with
  | zero => exact List.forall_mem_nil _
  | succ below within =>
      exact charges_le_of_taken (SumTree.around_charges_le (within (level + 1)))

/-! Their heights are those that the levels limit formulas to. -/

theorem binary_x_height (operator : Operator) (left : Formula) :
    (Formula.binary operator left .x).height = left.height + 1 := by
  have positive := left.height_pos
  simp only [Formula.height]
  omega

theorem SumLinks.plusX_height (count : Nat) (left : Formula) :
    ((SumLinks.plusX count).formula left).height = left.height + count := by
  induction count generalizing left with
  | zero => rfl
  | succ later grown =>
      have rest := grown (.binary .add left .x)
      rw [binary_x_height] at rest
      exact rest.trans (by omega)

theorem ProductLinks.timesX_height (count : Nat) (left : Formula) :
    ((ProductLinks.timesX count).formula left).height =
      left.height + count := by
  induction count generalizing left with
  | zero => rfl
  | succ later grown =>
      have rest := grown (.binary .multiply left .x)
      rw [binary_x_height] at rest
      exact rest.trans (by omega)

theorem ProductTree.around_height (base : PrimaryTree) (levels : Nat) :
    (ProductTree.around base levels).formula.height =
      (PowerTree.around base levels).formula.height + levels :=
  ProductLinks.timesX_height levels _

theorem SumTree.around_height (base : PrimaryTree) (levels : Nat) :
    (SumTree.around base levels).formula.height =
      (PowerTree.around base levels).formula.height + 2 * levels := by
  have added := SumLinks.plusX_height levels
    (ProductTree.around base levels).formula
  rw [ProductTree.around_height] at added
  exact added.trans (by omega)

theorem PrimaryTree.tallest_height_succ (below : Nat) :
    (PrimaryTree.tallest (below + 1)).formula.height =
      (PowerTree.around (.tallest below) below).formula.height +
        2 * below + 1 := by
  rw [← SumTree.around_height]
  exact callMeaning_height "abs" _

theorem PowerTree.around_height_succ (base : PrimaryTree) (below : Nat) :
    (PowerTree.around base (below + 1)).formula.height =
      max base.formula.height 1 + 1 :=
  rfl

theorem PowerTree.tallest_height (levels : Nat) :
    (PowerTree.around (.tallest levels) levels).formula.height =
      reach levels := by
  induction levels with
  | zero => rfl
  | succ below grown =>
      -- The base is a call, and thus higher than the exponent.
      rw [PowerTree.around_height_succ, PrimaryTree.tallest_height_succ, grown,
        reach]
      omega

theorem PrimaryTree.tallest_height (levels : Nat) :
    (PrimaryTree.tallest levels).formula.height = max 1 (reach levels - 1) := by
  cases levels with
  | zero => rfl
  | succ below =>
      have positive := reach_pos below
      rw [PrimaryTree.tallest_height_succ, PowerTree.tallest_height, reach]
      omega

/-! Every function of the grammar has its greatest height. -/

/-- The heights of the formulas that a function reads from the front of any
tokens, with some levels left. -/
def Rule.heights (levels : Nat) (rule : Rule) : Set Nat :=
  {height | ∃ source formula rest,
    rule.read levels source = .ok (formula, rest) ∧ formula.height = height}

def Rule.greatestHeight (levels : Nat) : Rule → Nat
  | .chain .sum => reach levels + 2 * levels
  | .chain .product => reach levels + levels
  | .unary => reach levels
  | .power => reach levels
  | .primary => max 1 (reach levels - 1)

theorem Rule.greatestHeight_sum (levels : Nat) :
    (Rule.chain .sum).greatestHeight levels = levels ^ 2 + 3 * levels + 1 := by
  rw [greatestHeight, reach_eq, Nat.pow_two]
  omega

/-- A sentence of the function that stays within the levels is read. -/
theorem Rule.height_mem_heights {rule : Rule} {levels : Nat}
    {source : List PlacedToken} {formula : Formula} {charges : List Charge}
    (reads : rule.read levels (source ++ []) =
      settle (0 + levels) charges (formula, []))
    (within : ∀ charge ∈ charges, charge.level ≤ 0 + levels) :
    formula.height ∈ rule.heights levels := by
  rw [settle_eq_ok.2 ⟨rfl, within⟩] at reads
  exact ⟨source ++ [], formula, [], reads, rfl⟩

theorem Rule.greatestHeight_mem (rule : Rule) (levels : Nat) :
    rule.greatestHeight levels ∈ rule.heights levels := by
  -- All functions share one family of calls, each with its own links around.
  have within := PrimaryTree.tallest_charges_le levels 0
  match rule with
  | .chain .sum =>
      rw [greatestHeight, ← PowerTree.tallest_height, ← SumTree.around_height]
      exact height_mem_heights (SumTree.read 0 (ends_nil 0) _)
        (SumTree.around_charges_le within)
  | .chain .product =>
      rw [greatestHeight, ← PowerTree.tallest_height,
        ← ProductTree.around_height]
      exact height_mem_heights (ProductTree.read 0 (ends_nil 1) _)
        (ProductTree.around_charges_le within)
  | .unary =>
      rw [greatestHeight, ← PowerTree.tallest_height]
      exact height_mem_heights (UnaryTree.read 0 (ends_nil 2) (.power _))
        (PowerTree.around_charges_le within)
  | .power =>
      rw [greatestHeight, ← PowerTree.tallest_height]
      exact height_mem_heights (PowerTree.read 0 (ends_nil 2) _)
        (PowerTree.around_charges_le within)
  | .primary =>
      rw [greatestHeight, ← PrimaryTree.tallest_height]
      exact height_mem_heights (PrimaryTree.read 0 (ends_nil 3) _) within

theorem Rule.height_le (rule : Rule) {levels : Nat}
    {source rest : List PlacedToken} {formula : Formula}
    (read : rule.read levels source = .ok (formula, rest)) :
    formula.height ≤ rule.greatestHeight levels := by
  match rule with
  | .chain .sum =>
      rcases sum_sound 0 read with ⟨tree, -, rfl, within⟩
      exact tree.height_le within
  | .chain .product =>
      rcases product_sound 0 read with ⟨tree, -, rfl, within⟩
      exact tree.height_le within
  | .unary =>
      rcases unary_sound 0 read with ⟨tree, -, rfl, within⟩
      exact tree.height_le within
  | .power =>
      rcases power_sound 0 read with ⟨tree, -, rfl, within⟩
      exact tree.height_le within
  | .primary =>
      rcases primary_sound 0 read with ⟨tree, -, rfl, within⟩
      have height := tree.height_le within
      simp only [greatestHeight]
      omega

theorem Rule.isGreatest_greatestHeight (rule : Rule) (levels : Nat) :
    IsGreatest (rule.heights levels) (rule.greatestHeight levels) := by
  refine ⟨rule.greatestHeight_mem levels, ?_⟩
  rintro height ⟨source, formula, rest, read, rfl⟩
  exact rule.height_le read

/-! The highest sentences can be written. -/

def Legible (placed : List PlacedToken) : Prop :=
  ∀ token ∈ placed.map PlacedToken.token, token.IsLegible

theorem legible_nil : Legible [] :=
  List.forall_mem_nil _

theorem legible_cons {next : PlacedToken} {rest : List PlacedToken} :
    Legible (next :: rest) ↔ next.token.IsLegible ∧ Legible rest := by
  simp [Legible]

theorem legible_append {first later : List PlacedToken} :
    Legible (first ++ later) ↔ Legible first ∧ Legible later := by
  simp only [Legible, List.map_append, List.forall_mem_append]

theorem UnaryTree.x_legible : Legible UnaryTree.x.tokens :=
  legible_cons.2 ⟨⟨rfl, trivial⟩, legible_nil⟩

theorem SumLinks.plusX_legible (count : Nat) :
    Legible (SumLinks.plusX count).tokens := by
  induction count with
  | zero => exact legible_nil
  | succ later legible =>
      have operand : Legible (ProductTree.chain .x .none).tokens :=
        UnaryTree.x_legible
      exact legible_cons.2
        ⟨⟨trivial, trivial⟩, legible_append.2 ⟨operand, legible⟩⟩

theorem ProductLinks.timesX_legible (count : Nat) :
    Legible (ProductLinks.timesX count).tokens := by
  induction count with
  | zero => exact legible_nil
  | succ later legible =>
      exact legible_cons.2 ⟨⟨trivial, trivial⟩,
        legible_append.2 ⟨UnaryTree.x_legible, legible⟩⟩

theorem PowerTree.around_legible {base : PrimaryTree}
    (legible : Legible base.tokens) (levels : Nat) :
    Legible (PowerTree.around base levels).tokens := by
  cases levels with
  | zero => exact legible
  | succ below =>
      exact legible_append.2 ⟨legible,
        legible_cons.2 ⟨⟨trivial, trivial⟩, UnaryTree.x_legible⟩⟩

theorem SumTree.around_legible {base : PrimaryTree}
    (legible : Legible base.tokens) (levels : Nat) :
    Legible (SumTree.around base levels).tokens := by
  have product : Legible (ProductTree.around base levels).tokens :=
    legible_append.2 ⟨PowerTree.around_legible legible levels,
      ProductLinks.timesX_legible levels⟩
  exact legible_append.2 ⟨product, SumLinks.plusX_legible levels⟩

theorem PrimaryTree.tallest_legible (levels : Nat) :
    Legible (PrimaryTree.tallest levels).tokens := by
  induction levels with
  | zero => exact UnaryTree.x_legible
  | succ below legible =>
      have argument := SumTree.around_legible legible below
      simp only [PrimaryTree.tallest, PrimaryTree.tokens, legible_cons,
        legible_append]
      exact ⟨⟨rfl, trivial⟩, ⟨trivial, trivial⟩, argument,
        ⟨trivial, trivial⟩, legible_nil⟩

/-- A text of the sentence, with a blank before each token. -/
def SumTree.text (tree : SumTree) : String :=
  String.ofList (Token.spaced (tree.tokens.map PlacedToken.token))

/-- The highest sentence that the limit allows. -/
def SumTree.tallest : SumTree :=
  .around (.tallest nestingLimit) nestingLimit

/-- The sentence of one level. -/
example : (SumTree.around (.tallest 1) 1).text =
    " abs ( x ) ^ x * x + x" := by
  decide +kernel

theorem SumTree.ofTokens_tallest :
    Formula.ofTokens SumTree.tallest.tokens = .ok SumTree.tallest.formula := by
  have inside := PrimaryTree.tallest_charges_le nestingLimit 0
  have within := SumTree.around_charges_le inside
  rw [Nat.zero_add] at within
  rw [SumTree.ofTokens_tokens, settle_eq_ok]
  exact ⟨rfl, within⟩

theorem SumTree.tallest_height :
    SumTree.tallest.formula.height =
      nestingLimit ^ 2 + 3 * nestingLimit + 1 := by
  rw [SumTree.tallest, SumTree.around_height, PowerTree.tallest_height]
  exact Rule.greatestHeight_sum nestingLimit

theorem SumTree.tallest_legible : Legible SumTree.tallest.tokens :=
  SumTree.around_legible (PrimaryTree.tallest_legible nestingLimit) nestingLimit

end Grammar

open Grammar

theorem Formula.height_le_of_ofTokens {source : List PlacedToken}
    {formula : Formula} (read : ofTokens source = .ok formula) :
    formula.height ≤ nestingLimit ^ 2 + 3 * nestingLimit + 1 := by
  rw [← Rule.greatestHeight_sum]
  exact Rule.height_le (.chain .sum) (sum_of_ofTokens read)

namespace Expression

/-- A sentence of legible tokens is read from its text, if it is read from its
tokens. -/
theorem exists_parse_text {tree : SumTree} (legible : Legible tree.tokens)
    (read : Formula.ofTokens tree.tokens = .ok tree.formula) :
    ∃ expression, parse tree.text = .ok expression ∧
      expression.formula = tree.formula := by
  rcases Token.scan_spaced legible 0 with ⟨placed, scanned, same⟩
  have readPlaced := Formula.ofTokens_eq_ok_of_same same.symm read
  have split : tokens tree.text = .ok placed := by
    rw [tokens, SumTree.text, String.toList_ofList, scanned]
  refine ⟨⟨tree.text, tree.formula⟩, ?_, rfl⟩
  rw [parse, split, Outcome.ok_bind, readPlaced]
  rfl

theorem height_le_of_parse {source : String} {expression : Expression}
    (parsed : parse source = .ok expression) :
    expression.formula.height ≤ nestingLimit ^ 2 + 3 * nestingLimit + 1 := by
  rcases Outcome.bind_eq_ok.mp parsed with ⟨placed, split, rest⟩
  rcases Outcome.bind_eq_ok.mp rest with ⟨formula, read, same⟩
  cases same
  exact Formula.height_le_of_ofTokens read

/-- With some levels left, the formulas that are read as sums have a greatest
height, which is quadratic in the levels. That of whole formulas comes from the
limit alone, however long the source is, and is the height of one that is
written in a text. -/
theorem greatest_heights :
    (∀ levels, IsGreatest
      {height | ∃ source formula rest,
        sum levels source = .ok (formula, rest) ∧ formula.height = height}
      (levels ^ 2 + 3 * levels + 1)) ∧
    IsGreatest
      {height | ∃ source formula,
        Formula.ofTokens source = .ok formula ∧ formula.height = height}
      66305 ∧
    IsGreatest
      {height | ∃ source expression,
        parse source = .ok expression ∧ expression.formula.height = height}
      66305 := by
  have limit : 66305 = nestingLimit ^ 2 + 3 * nestingLimit + 1 := rfl
  rw [limit]
  refine ⟨fun levels => ?sums, ⟨?tokens, ?fromTokens⟩, ⟨?text, ?fromText⟩⟩
  case sums =>
      rw [← Rule.greatestHeight_sum]
      exact Rule.isGreatest_greatestHeight (.chain .sum) levels
  case tokens =>
      exact ⟨_, _, SumTree.ofTokens_tallest, SumTree.tallest_height⟩
  case fromTokens =>
      rintro height ⟨source, formula, read, rfl⟩
      exact Formula.height_le_of_ofTokens read
  case text =>
      rcases exists_parse_text SumTree.tallest_legible
        SumTree.ofTokens_tallest with ⟨expression, parsed, means⟩
      exact ⟨_, expression, parsed, by rw [means, SumTree.tallest_height]⟩
  case fromText =>
      rintro height ⟨source, expression, parsed, rfl⟩
      exact height_le_of_parse parsed

end Expression

end RootFinding
