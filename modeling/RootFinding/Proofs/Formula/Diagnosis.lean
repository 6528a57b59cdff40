import RootFinding.Proofs.Formula.Lookahead

/-! Where reading fails. The token that an error names is the first that no
sentence can have at its place, the tokens before it being the beginning of
one. Where the tokens end too early, all of them are. -/

namespace RootFinding

namespace Grammar

/-! A sentence leaves no `(` open and does not await an operand. -/

def EndsOperand (source : List PlacedToken) : Prop :=
  ∃ last ∈ source.getLast?, last.token.awaitsOperand = false

theorem EndsOperand.append (first : List PlacedToken)
    {later : List PlacedToken} (ends : EndsOperand later) :
    EndsOperand (first ++ later) := by
  rcases ends with ⟨last, isLast, ended⟩
  exact ⟨last, List.mem_getLast?_append_of_mem_getLast? isLast, ended⟩

theorem EndsOperand.cons (first : PlacedToken) {later : List PlacedToken}
    (ends : EndsOperand later) : EndsOperand (first :: later) :=
  ends.append [first]

mutual

theorem SumTree.endsOperand : ∀ tree : SumTree, EndsOperand tree.tokens
  | .chain first links => links.endsOperand first.endsOperand

theorem SumLinks.endsOperand {before : List PlacedToken}
    (ends : EndsOperand before) : ∀ links : SumLinks,
    EndsOperand (before ++ links.tokens)
  | .none => by simpa [SumLinks.tokens] using ends
  | .link _ _ operand later =>
      (later.endsOperand operand.endsOperand).cons _ |>.append before

theorem ProductTree.endsOperand : ∀ tree : ProductTree,
    EndsOperand tree.tokens
  | .chain first links => links.endsOperand first.endsOperand

theorem ProductLinks.endsOperand {before : List PlacedToken}
    (ends : EndsOperand before) : ∀ links : ProductLinks,
    EndsOperand (before ++ links.tokens)
  | .none => by simpa [ProductLinks.tokens] using ends
  | .link _ _ operand later =>
      (later.endsOperand operand.endsOperand).cons _ |>.append before

theorem UnaryTree.endsOperand : ∀ tree : UnaryTree, EndsOperand tree.tokens
  | .signed _ _ operand => operand.endsOperand.cons _
  | .power power => power.endsOperand

theorem PowerTree.endsOperand : ∀ tree : PowerTree, EndsOperand tree.tokens
  | .primary primary => primary.endsOperand
  | .raised base _ exponent =>
      (exponent.endsOperand.cons _).append base.tokens

theorem PrimaryTree.endsOperand : ∀ tree : PrimaryTree,
    EndsOperand tree.tokens
  | .number _ _ => ⟨_, rfl, rfl⟩
  | .name _ _ => ⟨_, rfl, rfl⟩
  | .call _ _ _ argument closing =>
      have closed : EndsOperand [⟨.rightParenthesis, closing⟩] := ⟨_, rfl, rfl⟩
      ((closed.append argument.tokens).cons _).cons _
  | .group _ inner closing =>
      have closed : EndsOperand [⟨.rightParenthesis, closing⟩] := ⟨_, rfl, rfl⟩
      (closed.append inner.tokens).cons _

end

mutual

theorem SumTree.unclosed_tokens (outer : List Nat) : ∀ tree : SumTree,
    unclosed outer tree.tokens = outer
  | .chain first links => by
      rw [SumTree.tokens, unclosed_append, first.unclosed_tokens,
        links.unclosed_tokens]

theorem SumLinks.unclosed_tokens (outer : List Nat) : ∀ links : SumLinks,
    unclosed outer links.tokens = outer
  | .none => rfl
  | .link sign position operand later => by
      have skipped (rest : List PlacedToken) :
          unclosed outer (⟨sign.token, position⟩ :: rest) =
            unclosed outer rest := by
        cases sign <;> rfl
      rw [SumLinks.tokens, skipped, unclosed_append, operand.unclosed_tokens,
        later.unclosed_tokens]

theorem ProductTree.unclosed_tokens (outer : List Nat) : ∀ tree : ProductTree,
    unclosed outer tree.tokens = outer
  | .chain first links => by
      rw [ProductTree.tokens, unclosed_append, first.unclosed_tokens,
        links.unclosed_tokens]

theorem ProductLinks.unclosed_tokens (outer : List Nat) :
    ∀ links : ProductLinks, unclosed outer links.tokens = outer
  | .none => rfl
  | .link scaling position operand later => by
      have skipped (rest : List PlacedToken) :
          unclosed outer (⟨scaling.token, position⟩ :: rest) =
            unclosed outer rest := by
        cases scaling <;> rfl
      rw [ProductLinks.tokens, skipped, unclosed_append,
        operand.unclosed_tokens, later.unclosed_tokens]

theorem UnaryTree.unclosed_tokens (outer : List Nat) : ∀ tree : UnaryTree,
    unclosed outer tree.tokens = outer
  | .signed sign position operand => by
      have skipped (rest : List PlacedToken) :
          unclosed outer (⟨sign.token, position⟩ :: rest) =
            unclosed outer rest := by
        cases sign <;> rfl
      rw [UnaryTree.tokens, skipped, operand.unclosed_tokens]
  | .power power => power.unclosed_tokens outer

theorem PowerTree.unclosed_tokens (outer : List Nat) : ∀ tree : PowerTree,
    unclosed outer tree.tokens = outer
  | .primary primary => primary.unclosed_tokens outer
  | .raised base _ exponent => by
      rw [PowerTree.tokens, unclosed_append, base.unclosed_tokens]
      exact exponent.unclosed_tokens outer

theorem PrimaryTree.unclosed_tokens (outer : List Nat) : ∀ tree : PrimaryTree,
    unclosed outer tree.tokens = outer
  | .number _ _ => rfl
  | .name _ _ => rfl
  | .call _ _ opening argument _ => by
      change unclosed (opening :: outer) (argument.tokens ++ _) = outer
      rw [unclosed_append, argument.unclosed_tokens]
      rfl
  | .group opening inner _ => by
      change unclosed (opening :: outer) (inner.tokens ++ _) = outer
      rw [unclosed_append, inner.unclosed_tokens]
      rfl

end

theorem first?_congr {α : Type} (select : Token → Option α)
    {source other : List PlacedToken} (same : other.head? = source.head?)
    (nothing : first? select source = none) : first? select other = none := by
  cases source with
  | nil =>
      rw [List.head?_nil, List.head?_eq_none_iff] at same
      rw [same]
      rfl
  | cons next rest =>
      cases other with
      | nil => rfl
      | cons head others =>
          obtain rfl : head = next := by simpa using same
          simpa [first?] using nothing

/-! The functions of the grammar as readers one after another. -/

theorem sum_eq_andThen (levels : Nat) :
    sum levels = andThen (product levels) (sumLinks levels) := by
  funext source
  rw [sum]
  rfl

theorem product_eq_andThen (levels : Nat) :
    product levels = andThen (unary levels) (productLinks levels) := by
  funext source
  rw [product]
  rfl

theorem sumLinks_nil (levels : Nat) (left : Formula) :
    sumLinks levels left [] = .ok (left, []) := by
  rw [sumLinks.eq_def]
  rfl

theorem productLinks_nil (levels : Nat) (left : Formula) :
    productLinks levels left [] = .ok (left, []) := by
  rw [productLinks.eq_def]
  rfl

/-- What may follow the base of a power. -/
def raise (levels : Nat) (base : Formula) : Reader Formula :=
  fun source =>
    match first? raising? source, levels with
    | none, _ => .ok (base, source)
    | some (_, position, _), 0 => .error (.tooDeep position)
    | some (operator, _, rest), below + 1 =>
        andThen (unary below)
          (fun exponent rest => .ok (.binary operator base exponent, rest)) rest

theorem power_eq_andThen (levels : Nat) :
    power levels = andThen (primary levels) (raise levels) := by
  funext source
  rw [power.eq_def]
  rfl

def raiseTokens : Option (Nat × UnaryTree) → List PlacedToken
  | none => []
  | some (position, exponent) => ⟨.power, position⟩ :: exponent.tokens

def raised (base : PrimaryTree) : Option (Nat × UnaryTree) → PowerTree
  | none => .primary base
  | some (position, exponent) => .raised base position exponent

theorem raised_tokens (base : PrimaryTree)
    (exponent? : Option (Nat × UnaryTree)) :
    (raised base exponent?).tokens = base.tokens ++ raiseTokens exponent? := by
  cases exponent? with
  | none => exact (List.append_nil _).symm
  | some exponent => rfl

/-- Parentheses around a sum. Where they are not closed, the sum inside is
complete and leaves none of its own open. -/
theorem accounted_enclosed {τ : Type} {tokens : τ → List PlacedToken}
    {read : Reader Formula} {opening : Nat} {rest : List PlacedToken}
    (below : Nat) (change : Formula → Formula)
    (reads : ∀ other, read (⟨.leftParenthesis, opening⟩ :: other) =
      sum below other >>= fun (inner, rest) =>
        close opening rest >>= fun rest => .ok (change inner, rest))
    (join : SumTree → Nat → τ)
    (joined : ∀ inner closing, tokens (join inner closing) =
      ⟨.leftParenthesis, opening⟩ ::
        (inner.tokens ++ [⟨.rightParenthesis, closing⟩]))
    (inner : Accounted SumTree.tokens (sum below) rest) :
    Accounted tokens read (⟨.leftParenthesis, opening⟩ :: rest) := by
  have possible {before : List PlacedToken} {inner : SumTree}
      (begins : before <+: inner.tokens) :
      ⟨.leftParenthesis, opening⟩ :: before <+: tokens (join inner 0) := by
    rw [joined]
    exact (List.prefix_cons_inj _).mpr
      (begins.trans (List.prefix_append _ _))
  unfold Accounted at inner ⊢
  rw [reads]
  generalize sum below rest = outcome at inner
  cases inner with
  | unexpected tree begins stable =>
      rw [← List.cons_append]
      refine .unexpected _ (possible begins) fun other => ?_
      rw [List.cons_append, reads, stable]
      rfl
  | unexpectedEnd tree begins awaits =>
      refine .unexpectedEnd _ (possible begins) fun last isLast => ?_
      cases rest with
      | nil =>
          obtain rfl : _ = last := by simpa using isLast
          rfl
      | cons head others =>
          rw [List.getLast?_cons_cons] at isLast
          exact awaits last isLast
  | unclosed tree begins ends innermost =>
      exact .unclosed _ (possible begins) (EndsOperand.cons _ ends)
        fun outer => innermost (opening :: outer)
  | tooDeep => exact .tooDeep
  | @ok value remaining tree stable =>
      rw [Outcome.ok_bind]
      cases remaining with
      | nil =>
          rw [List.append_nil]
          refine .unclosed _ (possible (List.prefix_refl _))
            (tree.endsOperand.cons _) fun outer => ?_
          exact congrArg List.head? (tree.unclosed_tokens (opening :: outer))
      | cons next others =>
          by_cases closes : next.token = .rightParenthesis
          · rcases next with ⟨token, closing⟩
            rcases closes with rfl
            have whole (rest : List PlacedToken) :
                (⟨.leftParenthesis, opening⟩ :: (tree.tokens ++
                  ⟨.rightParenthesis, closing⟩ :: rest) : List PlacedToken) =
                tokens (join tree closing) ++ rest := by
              simp [joined]
            rw [whole]
            refine .ok (join tree closing) fun other _ => ?_
            rw [← whole, reads, stable (_ :: other) rfl]
            rfl
          · have refused (rest : List PlacedToken) :
                close opening (next :: rest) = .error (unexpected next) := by
              rcases next with ⟨token, position⟩
              cases token <;> first | rfl | exact absurd rfl closes
            simp only [refused, Outcome.error_bind]
            rw [← List.cons_append]
            refine .unexpected _ (possible (List.prefix_refl _))
              fun other => ?_
            rw [List.cons_append, reads, stable (next :: other) rfl]
            simp only [Outcome.ok_bind, refused, Outcome.error_bind]

mutual

theorem sum_accounted (levels : Nat) (source : List PlacedToken) :
    Accounted SumTree.tokens (sum levels) source := by
  have : Nonempty SumLinks := ⟨.none⟩
  rw [sum_eq_andThen]
  exact (product_accounted levels source).andThen SumLinks.tokens
    SumTree.chain (fun _ _ => rfl)
    (fun left rest => sumLinks_accounted levels left rest)
    fun left => by simp [sumLinks_nil]
termination_by 5 * levels + 4

theorem sumLinks_accounted (levels : Nat) (left : Formula)
    (source : List PlacedToken) :
    Accounted SumLinks.tokens (sumLinks levels left) source := by
  cases taken : first? additive? source with
  | none =>
      refine accounted_nothing left .none rfl fun other same => ?_
      rw [sumLinks.eq_def, first?_congr additive? same taken]
  | some found =>
      rcases found with ⟨operator, position, rest⟩
      rcases first?_additive_eq_some taken with ⟨sign, rfl, rfl⟩
      cases levels with
      | zero =>
          rw [Accounted, sumLinks.eq_def, taken]
          exact .tooDeep
      | succ below =>
          have : Nonempty SumLinks := ⟨.none⟩
          refine Accounted.after
            (fun link : ProductTree × SumLinks =>
              link.1.tokens ++ link.2.tokens)
            (andThen (product below) fun right =>
              sumLinks below (.binary sign.operator left right))
            (fun other => by rw [sumLinks.eq_def]; cases sign <;> rfl)
            (fun link => .link sign position link.1 link.2) (fun _ => rfl)
            (.inl (by cases sign <;> rfl)) ?_
          exact (product_accounted below rest).andThen SumLinks.tokens
            Prod.mk (fun _ _ => rfl) (fun right rest => sumLinks_accounted below _ rest)
            fun right => by simp [sumLinks_nil]
termination_by 5 * levels

theorem product_accounted (levels : Nat) (source : List PlacedToken) :
    Accounted ProductTree.tokens (product levels) source := by
  have : Nonempty ProductLinks := ⟨.none⟩
  rw [product_eq_andThen]
  exact (unary_accounted levels source).andThen ProductLinks.tokens
    ProductTree.chain (fun _ _ => rfl)
    (fun left rest => productLinks_accounted levels left rest)
    fun left => by simp [productLinks_nil]
termination_by 5 * levels + 3

theorem productLinks_accounted (levels : Nat) (left : Formula)
    (source : List PlacedToken) :
    Accounted ProductLinks.tokens (productLinks levels left) source := by
  cases taken : first? multiplicative? source with
  | none =>
      refine accounted_nothing left .none rfl fun other same => ?_
      rw [productLinks.eq_def, first?_congr multiplicative? same taken]
  | some found =>
      rcases found with ⟨operator, position, rest⟩
      rcases first?_multiplicative_eq_some taken with ⟨scaling, rfl, rfl⟩
      cases levels with
      | zero =>
          rw [Accounted, productLinks.eq_def, taken]
          exact .tooDeep
      | succ below =>
          have : Nonempty ProductLinks := ⟨.none⟩
          refine Accounted.after
            (fun link : UnaryTree × ProductLinks =>
              link.1.tokens ++ link.2.tokens)
            (andThen (unary below) fun right =>
              productLinks below (.binary scaling.operator left right))
            (fun other => by rw [productLinks.eq_def]; cases scaling <;> rfl)
            (fun link => .link scaling position link.1 link.2) (fun _ => rfl)
            (.inl (by cases scaling <;> rfl)) ?_
          exact (unary_accounted below rest).andThen ProductLinks.tokens
            Prod.mk (fun _ _ => rfl)
            (fun right rest => productLinks_accounted below _ rest)
            fun right => by simp [productLinks_nil]
termination_by 5 * levels

theorem unary_accounted (levels : Nat) (source : List PlacedToken) :
    Accounted UnaryTree.tokens (unary levels) source := by
  cases taken : first? additive? source with
  | none =>
      refine (power_accounted levels source).of_head .power (fun _ => rfl)
        fun other same => ?_
      rw [unary.eq_def, first?_congr additive? same taken]
  | some found =>
      rcases found with ⟨operator, position, rest⟩
      rcases first?_additive_eq_some taken with ⟨sign, rfl, rfl⟩
      cases levels with
      | zero =>
          rw [Accounted, unary.eq_def, taken]
          exact .tooDeep
      | succ below =>
          refine Accounted.after UnaryTree.tokens
            (andThen (unary below) fun operand rest =>
              .ok (signed sign.operator operand, rest))
            (fun other => by rw [unary.eq_def]; cases sign <;> rfl)
            (fun operand => .signed sign position operand) (fun _ => rfl)
            (.inl (by cases sign <;> rfl)) ?_
          exact (unary_accounted below rest).yield (signed sign.operator)
termination_by 5 * levels + 2

theorem power_accounted (levels : Nat) (source : List PlacedToken) :
    Accounted PowerTree.tokens (power levels) source := by
  rw [power_eq_andThen]
  exact (primary_accounted levels source).andThen raiseTokens raised
    raised_tokens (fun base rest => raise_accounted levels base rest)
    fun base => nofun
termination_by 5 * levels + 1

theorem raise_accounted (levels : Nat) (base : Formula)
    (source : List PlacedToken) :
    Accounted raiseTokens (raise levels base) source := by
  cases taken : first? raising? source with
  | none =>
      refine accounted_nothing base none rfl fun other same => ?_
      simp only [raise, first?_congr raising? same taken]
  | some found =>
      rcases found with ⟨operator, position, rest⟩
      rcases first?_raising_eq_some taken with ⟨rfl, rfl⟩
      cases levels with
      | zero => exact .tooDeep
      | succ below =>
          refine Accounted.after UnaryTree.tokens
            (andThen (unary below) fun exponent rest =>
              .ok (.binary .power base exponent, rest))
            (fun other => rfl) (fun exponent => some (position, exponent))
            (fun _ => rfl) (.inl rfl) ?_
          exact (unary_accounted below rest).yield (Formula.binary .power base)
termination_by 5 * levels

theorem primary_accounted (levels : Nat) (source : List PlacedToken) :
    Accounted PrimaryTree.tokens (primary levels) source := by
  cases source with
  | nil =>
      rw [Accounted, primary.eq_def]
      exact .unexpectedEnd (.number 0 0) List.nil_prefix nofun
  | cons next rest =>
      rcases next with ⟨token, position⟩
      cases token with
      | number value =>
          refine Accounted.after (fun _ : Unit => [])
            (fun other => .ok (.number value, other))
            (fun other => by rw [primary.eq_def])
            (fun _ => .number value position) (fun _ => rfl) (.inr nofun) ?_
          exact accounted_nothing _ () rfl fun _ _ => rfl
      | identifier name =>
          cases taken : first? opening? rest with
          | none =>
              have named (other : List PlacedToken)
                  (same : other.head? = rest.head?) :
                  primary levels (⟨.identifier name, position⟩ :: other) =
                    .ok (symbol name, other) := by
                rw [primary.eq_def]
                simp only [first?_congr opening? same taken]
              rw [Accounted, named rest rfl]
              exact .ok (PrimaryTree.name name position) named
          | some found =>
              rcases found with ⟨selected, opening, after⟩
              rcases first?_opening_eq_some taken with rfl
              cases levels with
              | zero =>
                  rw [Accounted, primary.eq_def]
                  exact .tooDeep
              | succ below =>
                  refine Accounted.after
                    (fun call : SumTree × Nat =>
                      ⟨.leftParenthesis, opening⟩ ::
                        (call.1.tokens ++ [⟨.rightParenthesis, call.2⟩]))
                    (fun source => primary (below + 1)
                      (⟨.identifier name, position⟩ :: source))
                    (fun _ => rfl)
                    (fun call => .call name position opening call.1 call.2)
                    (fun _ => rfl) (.inr ?_) ?_
                  · rw [primary.eq_def]
                    nofun
                  · refine accounted_enclosed below (application name)
                      (fun other => by rw [primary.eq_def]; rfl) Prod.mk
                      (fun _ _ => rfl) ?_
                    exact sum_accounted below after
      | leftParenthesis =>
          cases levels with
          | zero =>
              rw [Accounted, primary.eq_def]
              exact .tooDeep
          | succ below =>
              refine accounted_enclosed below id
                (fun other => by rw [primary.eq_def]; rfl)
                (PrimaryTree.group position) (fun _ _ => rfl) ?_
              exact sum_accounted below rest
      | _ =>
          exact accounted_refused (.number 0 0) fun other => by
            rw [primary.eq_def]
termination_by 5 * levels

end

/-- The tokens begin a sentence, whatever tokens it may go on with. -/
def Viable (source : List PlacedToken) : Prop :=
  ∃ tree : SumTree, source <+: tree.tokens

/-- What an error tells of the tokens that cannot be read. -/
inductive Diagnosis (source : List PlacedToken) : CompileError → Prop
  | tooDeep (position : Nat) : Diagnosis source (.tooDeep position)
  | unexpectedToken {before after : List PlacedToken} {found : PlacedToken}
      (split : source = before ++ found :: after) (possible : Viable before)
      (impossible : ¬Viable (before ++ [found])) :
      Diagnosis source (.unexpectedToken found.token.text found.position)
  | unexpectedEnd {last : PlacedToken} (possible : Viable source)
      (isLast : source.getLast? = some last)
      (awaits : last.token.awaitsOperand = true) :
      Diagnosis source .unexpectedEnd
  | unclosedParenthesis {last : PlacedToken} {position : Nat}
      (possible : Viable source) (isLast : source.getLast? = some last)
      (ends : last.token.awaitsOperand = false)
      (innermost : (unclosed [] source).head? = some position) :
      Diagnosis source (.unclosedParenthesis position)

/-- A sentence fails for its levels only. -/
theorem tooDeep_of_sentence {tree : SumTree} {error : CompileError}
    (failed : Formula.ofTokens tree.tokens = .error error) :
    ∃ position, error = .tooDeep position := by
  rw [tree.ofTokens_tokens, settle] at failed
  split at failed
  · rename_i charge _
    exact ⟨charge.token.position, (Except.error.inj failed).symm⟩
  · cases failed

/-- No sentence begins with tokens after which reading always fails on one and
the same token. -/
theorem not_viable_of_stable {before : List PlacedToken}
    {found : PlacedToken}
    (stable : ∀ other, Formula.ofTokens (before ++ found :: other) =
      .error (unexpected found)) : ¬Viable (before ++ [found]) := by
  rintro ⟨tree, other, same⟩
  rw [List.append_assoc, List.singleton_append] at same
  have failed := stable other
  rw [same] at failed
  rcases tooDeep_of_sentence failed with ⟨position, impossible⟩
  cases impossible

theorem ofTokens_eq_of_sum_ok {source rest : List PlacedToken}
    {formula : Formula} {found : PlacedToken}
    (read : sum nestingLimit source = .ok (formula, found :: rest)) :
    Formula.ofTokens source = .error (unexpected found) := by
  cases source with
  | nil =>
      rcases sum_sound 0 read with ⟨tree, same, -⟩
      simp at same
  | cons first later =>
      simp only [Formula.ofTokens, read]
      rfl

theorem ofTokens_eq_of_sum_error {source : List PlacedToken}
    {error : CompileError} (notEmpty : source ≠ [])
    (failed : sum nestingLimit source = .error error) :
    Formula.ofTokens source = .error error := by
  cases source with
  | nil => exact absurd rfl notEmpty
  | cons first later =>
      simp only [Formula.ofTokens, failed]
      rfl

/-- A list of tokens that is no sentence fails at the first token that no
sentence can have there, or at its end, with the `(` that is still open where
an operand stands there. A sentence can only nest too deeply. -/
theorem ofTokens_diagnosis (source : List PlacedToken)
    (notEmpty : source ≠ []) :
    (∀ error, Formula.ofTokens source = .error error →
      Diagnosis source error) ∧
    ∀ tree : SumTree, tree.tokens = source →
      ∀ error, Formula.ofTokens source = .error error →
        ∃ position, error = .tooDeep position := by
  refine ⟨fun error failed => ?_, ?_⟩
  · have account := sum_accounted nestingLimit source
    unfold Accounted at account
    generalize result : sum nestingLimit source = outcome at account
    cases account with
    | @ok value rest tree stable =>
        cases rest with
        | nil =>
            rw [List.append_nil] at failed
            rcases tooDeep_of_sentence failed with ⟨position, rfl⟩
            exact .tooDeep position
        | cons found later =>
            rw [ofTokens_eq_of_sum_ok result, Except.error.injEq] at failed
            subst failed
            refine .unexpectedToken rfl ⟨tree, List.prefix_refl _⟩
              (not_viable_of_stable fun other => ?_)
            exact ofTokens_eq_of_sum_ok (stable (found :: other) rfl)
    | @unexpected before after found tree possible stable =>
        rw [ofTokens_eq_of_sum_error notEmpty result, Except.error.injEq]
          at failed
        subst failed
        refine .unexpectedToken rfl ⟨tree, possible⟩
          (not_viable_of_stable fun other => ?_)
        exact ofTokens_eq_of_sum_error (by simp) (stable other)
    | unexpectedEnd tree possible awaits =>
        rw [ofTokens_eq_of_sum_error notEmpty result, Except.error.injEq]
          at failed
        subst failed
        have isLast := List.getLast?_eq_some_getLast notEmpty
        exact .unexpectedEnd ⟨tree, possible⟩ isLast (awaits _ isLast)
    | unclosed tree possible ends innermost =>
        rw [ofTokens_eq_of_sum_error notEmpty result, Except.error.injEq]
          at failed
        subst failed
        rcases ends with ⟨last, isLast, ended⟩
        exact .unclosedParenthesis ⟨tree, possible⟩ isLast ended (innermost [])
    | @tooDeep source position =>
        rw [ofTokens_eq_of_sum_error notEmpty result, Except.error.injEq]
          at failed
        subst failed
        exact .tooDeep position
  · rintro tree rfl error failed
    exact tooDeep_of_sentence failed

/-- In `(x + sin(2` the parenthesis of the call is the one that is missed. -/
theorem ofTokens_diagnosis_openCall :
    let source : List PlacedToken :=
      [⟨.leftParenthesis, 0⟩, ⟨.identifier "x", 1⟩, ⟨.plus, 3⟩,
        ⟨.identifier "sin", 5⟩, ⟨.leftParenthesis, 8⟩, ⟨.number 2, 9⟩]
    source ≠ [] ∧
      Formula.ofTokens source = .error (.unclosedParenthesis 8) ∧
      Diagnosis source (.unclosedParenthesis 8) := by
  intro source
  have notEmpty : source ≠ [] := nofun
  have failed : Formula.ofTokens source = .error (.unclosedParenthesis 8) :=
    Outcome.eq_error_of_error? (by decide +kernel)
  exact ⟨notEmpty, failed, (ofTokens_diagnosis source notEmpty).1 _ failed⟩

end Grammar

end RootFinding
