import RootFinding.Proofs.Formula.Soundness
import RootFinding.Proofs.Formula.Unambiguous

/-! Whole token lists. A list of tokens is read as a formula exactly when it is
a sentence of the grammar whose charges stay within the limit. -/

namespace RootFinding

namespace Grammar

theorem PrimaryTree.tokens_ne_nil (tree : PrimaryTree) : tree.tokens ≠ [] := by
  cases tree <;> simp [PrimaryTree.tokens]

theorem PowerTree.tokens_ne_nil (tree : PowerTree) : tree.tokens ≠ [] := by
  cases tree with
  | primary primary => exact primary.tokens_ne_nil
  | raised base position exponent => simp [PowerTree.tokens]

theorem UnaryTree.tokens_ne_nil (tree : UnaryTree) : tree.tokens ≠ [] := by
  cases tree with
  | signed sign position operand => simp [UnaryTree.tokens]
  | power power => exact power.tokens_ne_nil

theorem ProductTree.tokens_ne_nil (tree : ProductTree) : tree.tokens ≠ [] := by
  cases tree with
  | chain first links => simp [ProductTree.tokens, first.tokens_ne_nil]

theorem SumTree.tokens_ne_nil (tree : SumTree) : tree.tokens ≠ [] := by
  cases tree with
  | chain first links => simp [SumTree.tokens, first.tokens_ne_nil]

/-- A sentence fails for its levels only. -/
theorem SumTree.ofTokens_tokens (tree : SumTree) :
    Formula.ofTokens tree.tokens =
      settle nestingLimit (tree.charges 0) tree.formula := by
  have reading : sum nestingLimit (tree.tokens ++ []) = _ :=
    tree.read 0 (ends_nil 0)
  rw [List.append_nil, Nat.zero_add] at reading
  cases tokens : tree.tokens with
  | nil => exact absurd tokens tree.tokens_ne_nil
  | cons first later =>
      rw [tokens] at reading
      simp only [Formula.ofTokens, reading]
      exact settle_bind_ok rfl

/-- All tokens of a formula are read as one sum. -/
theorem sum_of_ofTokens {source : List PlacedToken} {formula : Formula}
    (read : Formula.ofTokens source = .ok formula) :
    sum nestingLimit source = .ok (formula, []) := by
  cases source with
  | nil => cases read
  | cons first later =>
      simp only [Formula.ofTokens] at read
      rcases Outcome.bind_eq_ok.mp read with ⟨⟨found, rest⟩, readSum, complete⟩
      cases rest with
      | cons next others => cases complete
      | nil =>
          cases complete
          exact readSum

theorem exists_tree_of_ofTokens {source : List PlacedToken}
    {formula : Formula} (read : Formula.ofTokens source = .ok formula) :
    ∃ tree : SumTree, tree.tokens = source := by
  rcases sum_sound 0 (sum_of_ofTokens read) with ⟨tree, same, -⟩
  rw [List.append_nil] at same
  exact ⟨tree, same.symm⟩

theorem settle_eq_ok {α : Type} {limit : Nat} {charges : List Charge}
    {value result : α} :
    settle limit charges value = .ok result ↔
      value = result ∧ ∀ charge ∈ charges, charge.level ≤ limit := by
  unfold settle excess?
  cases found : charges.find? (fun charge => decide (limit < charge.level)) with
  | none =>
      simp only [List.find?_eq_none, decide_eq_true_eq, Nat.not_lt] at found
      simp only [Except.ok.injEq]
      exact ⟨fun same => ⟨same, found⟩, And.left⟩
  | some charge =>
      have above := List.find?_some found
      have member := List.mem_of_find?_eq_some found
      simp only [decide_eq_true_eq] at above
      constructor
      · intro impossible
        cases impossible
      · rintro ⟨-, within⟩
        exact absurd (within charge member) (Nat.not_le.mpr above)

/-- A list of tokens is read as a formula exactly when it is a sentence of the
grammar that means this formula and whose charges are all within the limit. It
is a sentence in one way at most. A sentence with a charge above the limit
fails at the first of these, in the order of the tokens. -/
theorem ofTokens_reads_sentences (source : List PlacedToken) :
    (∀ formula, Formula.ofTokens source = .ok formula ↔
      ∃ tree : SumTree, tree.tokens = source ∧ tree.formula = formula ∧
        ∀ charge ∈ tree.charges 0, charge.level ≤ nestingLimit) ∧
    (∀ left right : SumTree, left.tokens = source → right.tokens = source →
      left = right) ∧
    ∀ tree : SumTree, tree.tokens = source →
      ((tree.charges 0).map Charge.token).Sublist source ∧
      ∀ charge, (tree.charges 0).find?
          (fun charge => decide (nestingLimit < charge.level)) = some charge →
        Formula.ofTokens source = .error (.tooDeep charge.token.position) := by
  refine ⟨?reads, ?unique, ?fails⟩
  case reads =>
      intro formula
      constructor
      · intro read
        rcases exists_tree_of_ofTokens read with ⟨tree, rfl⟩
        rw [tree.ofTokens_tokens, settle_eq_ok] at read
        exact ⟨tree, rfl, read⟩
      · rintro ⟨tree, rfl, means, within⟩
        rw [tree.ofTokens_tokens, settle_eq_ok]
        exact ⟨means, within⟩
  case unique =>
      intro left right leftSame rightSame
      exact SumTree.tokens_injective (leftSame.trans rightSame.symm)
  case fails =>
      rintro tree rfl
      refine ⟨tree.charges_sublist 0, ?_⟩
      intro charge first
      rw [tree.ofTokens_tokens, settle, excess?, first]

end Grammar

end RootFinding
