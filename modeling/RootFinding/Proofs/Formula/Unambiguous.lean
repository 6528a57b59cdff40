import RootFinding.Proofs.Formula.Completeness

/-! The grammar is unambiguous. Two syntax trees of one category that begin
the same tokens are the same tree, as long as what stands after them does not
go on with them. -/

namespace RootFinding

namespace Grammar

theorem Sign.token_injective {left right : Sign}
    (same : left.token = right.token) : left = right := by
  cases left <;> cases right <;> first | rfl | cases same

theorem Scaling.token_injective {left right : Scaling}
    (same : left.token = right.token) : left = right := by
  cases left <;> cases right <;> first | rfl | cases same

theorem Sign.not_ends_zero (sign : Sign) (position : Nat)
    (rest : List PlacedToken) : ¬Ends 0 (⟨sign.token, position⟩ :: rest) := by
  cases sign <;> simp [Sign.token, Token.tightness]

theorem Scaling.not_ends_one (scaling : Scaling) (position : Nat)
    (rest : List PlacedToken) :
    ¬Ends 1 (⟨scaling.token, position⟩ :: rest) := by
  cases scaling <;> simp [Scaling.token, Token.tightness]

/-- A sentence with a sign in front is no power. -/
theorem PowerTree.tokens_ne_signed (tree : PowerTree) (sign : Sign)
    (position : Nat) (rest later : List PlacedToken) :
    tree.tokens ++ rest ≠ ⟨sign.token, position⟩ :: later := by
  intro same
  have taken := congrArg (first? additive?) same
  rw [tree.first?_additive] at taken
  cases sign <;> simp [first?, additive?, Sign.token] at taken

mutual

theorem SumTree.tokens_append_injective
    {leftRest rightRest : List PlacedToken} (leftEnds : Ends 0 leftRest)
    (rightEnds : Ends 0 rightRest) : ∀ left right : SumTree,
    left.tokens ++ leftRest = right.tokens ++ rightRest →
      left = right ∧ leftRest = rightRest
  | .chain first links, .chain otherFirst otherLinks, same => by
      simp only [SumTree.tokens, List.append_assoc] at same
      rcases first.tokens_append_injective (links.ends leftEnds)
          (otherLinks.ends rightEnds) otherFirst same with ⟨rfl, sameLinks⟩
      rcases links.tokens_append_injective leftEnds rightEnds otherLinks
          sameLinks with ⟨rfl, sameRest⟩
      exact ⟨rfl, sameRest⟩

theorem SumLinks.tokens_append_injective
    {leftRest rightRest : List PlacedToken} (leftEnds : Ends 0 leftRest)
    (rightEnds : Ends 0 rightRest) : ∀ left right : SumLinks,
    left.tokens ++ leftRest = right.tokens ++ rightRest →
      left = right ∧ leftRest = rightRest
  | .none, .none, same => ⟨rfl, same⟩
  | .none, .link sign position operand later, same => by
      simp only [SumLinks.tokens, List.nil_append, List.cons_append] at same
      rw [same] at leftEnds
      exact absurd leftEnds (sign.not_ends_zero _ _)
  | .link sign position operand later, .none, same => by
      simp only [SumLinks.tokens, List.nil_append, List.cons_append] at same
      rw [← same] at rightEnds
      exact absurd rightEnds (sign.not_ends_zero _ _)
  | .link sign position operand later,
    .link otherSign otherPosition otherOperand otherLater, same => by
      simp only [SumLinks.tokens, List.cons_append, List.append_assoc,
        List.cons.injEq, PlacedToken.mk.injEq] at same
      rcases same with ⟨⟨sameSign, rfl⟩, sameOperand⟩
      rcases Sign.token_injective sameSign with rfl
      rcases operand.tokens_append_injective (later.ends leftEnds)
          (otherLater.ends rightEnds) otherOperand sameOperand with
        ⟨rfl, sameLater⟩
      rcases later.tokens_append_injective leftEnds rightEnds otherLater
          sameLater with ⟨rfl, sameRest⟩
      exact ⟨rfl, sameRest⟩

theorem ProductTree.tokens_append_injective
    {leftRest rightRest : List PlacedToken} (leftEnds : Ends 1 leftRest)
    (rightEnds : Ends 1 rightRest) : ∀ left right : ProductTree,
    left.tokens ++ leftRest = right.tokens ++ rightRest →
      left = right ∧ leftRest = rightRest
  | .chain first links, .chain otherFirst otherLinks, same => by
      simp only [ProductTree.tokens, List.append_assoc] at same
      rcases first.tokens_append_injective (links.ends leftEnds)
          (otherLinks.ends rightEnds) otherFirst same with ⟨rfl, sameLinks⟩
      rcases links.tokens_append_injective leftEnds rightEnds otherLinks
          sameLinks with ⟨rfl, sameRest⟩
      exact ⟨rfl, sameRest⟩

theorem ProductLinks.tokens_append_injective
    {leftRest rightRest : List PlacedToken} (leftEnds : Ends 1 leftRest)
    (rightEnds : Ends 1 rightRest) : ∀ left right : ProductLinks,
    left.tokens ++ leftRest = right.tokens ++ rightRest →
      left = right ∧ leftRest = rightRest
  | .none, .none, same => ⟨rfl, same⟩
  | .none, .link scaling position operand later, same => by
      simp only [ProductLinks.tokens, List.nil_append, List.cons_append]
        at same
      rw [same] at leftEnds
      exact absurd leftEnds (scaling.not_ends_one _ _)
  | .link scaling position operand later, .none, same => by
      simp only [ProductLinks.tokens, List.nil_append, List.cons_append]
        at same
      rw [← same] at rightEnds
      exact absurd rightEnds (scaling.not_ends_one _ _)
  | .link scaling position operand later,
    .link otherScaling otherPosition otherOperand otherLater, same => by
      simp only [ProductLinks.tokens, List.cons_append, List.append_assoc,
        List.cons.injEq, PlacedToken.mk.injEq] at same
      rcases same with ⟨⟨sameScaling, rfl⟩, sameOperand⟩
      rcases Scaling.token_injective sameScaling with rfl
      rcases operand.tokens_append_injective (later.ends leftEnds)
          (otherLater.ends rightEnds) otherOperand sameOperand with
        ⟨rfl, sameLater⟩
      rcases later.tokens_append_injective leftEnds rightEnds otherLater
          sameLater with ⟨rfl, sameRest⟩
      exact ⟨rfl, sameRest⟩

theorem UnaryTree.tokens_append_injective
    {leftRest rightRest : List PlacedToken} (leftEnds : Ends 2 leftRest)
    (rightEnds : Ends 2 rightRest) : ∀ left right : UnaryTree,
    left.tokens ++ leftRest = right.tokens ++ rightRest →
      left = right ∧ leftRest = rightRest
  | .signed sign position operand, .signed otherSign otherPosition other,
    same => by
      simp only [UnaryTree.tokens, List.cons_append, List.cons.injEq,
        PlacedToken.mk.injEq] at same
      rcases same with ⟨⟨sameSign, rfl⟩, sameOperand⟩
      rcases Sign.token_injective sameSign with rfl
      rcases operand.tokens_append_injective leftEnds rightEnds other
          sameOperand with ⟨rfl, sameRest⟩
      exact ⟨rfl, sameRest⟩
  | .signed sign position operand, .power other, same =>
      absurd same.symm (other.tokens_ne_signed sign position _ _)
  | .power power, .signed otherSign otherPosition other, same =>
      absurd same (power.tokens_ne_signed otherSign otherPosition _ _)
  | .power power, .power other, same => by
      rcases power.tokens_append_injective leftEnds rightEnds other same with
        ⟨rfl, sameRest⟩
      exact ⟨rfl, sameRest⟩

theorem PowerTree.tokens_append_injective
    {leftRest rightRest : List PlacedToken} (leftEnds : Ends 2 leftRest)
    (rightEnds : Ends 2 rightRest) : ∀ left right : PowerTree,
    left.tokens ++ leftRest = right.tokens ++ rightRest →
      left = right ∧ leftRest = rightRest
  | .primary primary, .primary other, same => by
      rcases primary.tokens_append_injective (leftEnds.mono (by decide))
          (rightEnds.mono (by decide)) other same with ⟨rfl, sameRest⟩
      exact ⟨rfl, sameRest⟩
  | .primary primary, .raised other position exponent, same => by
      simp only [PowerTree.tokens, List.append_assoc] at same
      -- The same primary stands first, and then a `^` stands after the left
      -- one, which is no end of it.
      rcases primary.tokens_append_injective (leftEnds.mono (by decide)) (by
          simp [Token.tightness]) other same with ⟨rfl, sameRest⟩
      rw [sameRest] at leftEnds
      simp [Token.tightness] at leftEnds
  | .raised base position exponent, .primary other, same => by
      simp only [PowerTree.tokens, List.append_assoc] at same
      rcases base.tokens_append_injective (by simp [Token.tightness])
          (rightEnds.mono (by decide)) other same with ⟨rfl, sameRest⟩
      rw [← sameRest] at rightEnds
      simp [Token.tightness] at rightEnds
  | .raised base position exponent,
    .raised otherBase otherPosition otherExponent, same => by
      simp only [PowerTree.tokens, List.append_assoc] at same
      rcases base.tokens_append_injective (by simp [Token.tightness]) (by simp
          [Token.tightness]) otherBase same with ⟨rfl, sameRaised⟩
      simp only [List.cons_append, List.cons.injEq, PlacedToken.mk.injEq,
        true_and] at sameRaised
      rcases sameRaised with ⟨rfl, sameExponent⟩
      rcases exponent.tokens_append_injective leftEnds rightEnds otherExponent
          sameExponent with ⟨rfl, sameRest⟩
      exact ⟨rfl, sameRest⟩

theorem PrimaryTree.tokens_append_injective
    {leftRest rightRest : List PlacedToken} (leftEnds : Ends 3 leftRest)
    (rightEnds : Ends 3 rightRest) : ∀ left right : PrimaryTree,
    left.tokens ++ leftRest = right.tokens ++ rightRest →
      left = right ∧ leftRest = rightRest
  | .number value position, right, same => by
      cases right <;> simp [PrimaryTree.tokens] at same ⊢
      exact ⟨same.1, same.2⟩
  | .name name position, right, same => by
      cases right with
      | call otherName otherPosition opening argument closing =>
          simp only [PrimaryTree.tokens, List.cons_append, List.cons.injEq,
            List.nil_append] at same
          rw [same.2] at leftEnds
          simp [Token.tightness] at leftEnds
      | _ => simp_all [PrimaryTree.tokens]
  | .call name position opening argument closing, right, same => by
      cases right with
      | call otherName otherPosition otherOpening otherArgument
          otherClosing =>
          simp only [PrimaryTree.tokens, List.cons_append, List.cons.injEq,
            List.append_assoc, List.nil_append, PlacedToken.mk.injEq,
            Token.identifier.injEq, true_and] at same
          rcases same with ⟨⟨rfl, rfl⟩, rfl, sameArgument⟩
          rcases argument.tokens_append_injective (ends_closing _ _)
              (ends_closing _ _) otherArgument sameArgument with
            ⟨rfl, sameClosing⟩
          simp only [List.cons.injEq, PlacedToken.mk.injEq, true_and]
            at sameClosing
          rcases sameClosing with ⟨rfl, sameRest⟩
          exact ⟨rfl, sameRest⟩
      | name otherName otherPosition =>
          simp only [PrimaryTree.tokens, List.cons_append, List.cons.injEq,
            List.nil_append] at same
          rw [← same.2] at rightEnds
          simp [Token.tightness] at rightEnds
      | _ => simp_all [PrimaryTree.tokens]
  | .group opening inner closing, right, same => by
      cases right with
      | group otherOpening otherInner otherClosing =>
          simp only [PrimaryTree.tokens, List.cons_append, List.cons.injEq,
            List.append_assoc, List.nil_append, PlacedToken.mk.injEq,
            true_and] at same
          rcases same with ⟨rfl, sameInner⟩
          rcases inner.tokens_append_injective (ends_closing _ _) (ends_closing
              _ _) otherInner sameInner with ⟨rfl, sameClosing⟩
          simp only [List.cons.injEq, PlacedToken.mk.injEq, true_and]
            at sameClosing
          rcases sameClosing with ⟨rfl, sameRest⟩
          exact ⟨rfl, sameRest⟩
      | _ => simp [PrimaryTree.tokens] at same

end

/-- A list of tokens is the sentence of at most one syntax tree. -/
theorem SumTree.tokens_injective {left right : SumTree}
    (same : left.tokens = right.tokens) : left = right := by
  have unique := left.tokens_append_injective (ends_nil 0) (ends_nil 0) right
    (by rw [same])
  exact unique.1

end Grammar

end RootFinding
