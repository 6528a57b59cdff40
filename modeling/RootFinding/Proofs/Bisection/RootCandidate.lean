import RootFinding.Proofs.Bisection.SignChange

/-! Roots at the ends of a bracket. A search accepts a root at a bound, but a
root at `a` makes the product a zero, which moves `a` to the midpoint, and the
bracket that is left may hold no root candidate. -/

namespace RootFinding

/-- One end is a root, or the values at the ends have opposite signs. -/
def Bracket.HoldsCandidate (value : Float → Float) (bracket : Bracket) : Prop :=
  (value bracket.a == 0.0) = true ∨ (value bracket.b == 0.0) = true ∨
    OppositeSigns (value bracket.a) (value bracket.b)

instance (value : Float → Float) (bracket : Bracket) :
    Decidable (bracket.HoldsCandidate value) :=
  inferInstanceAs (Decidable (_ ∨ _ ∨ _))

theorem Bracket.Signed.holdsCandidate_iff {value : Float → Float}
    {bracket : Bracket} {left right : SignType}
    (signed : bracket.Signed value left right) :
    bracket.HoldsCandidate value ↔ left * right ≠ 1 := by
  have differ : ∀ left right : SignType,
      (left = 0 ∨ right = 0 ∨ left = -1 ∧ right = 1 ∨
        left = 1 ∧ right = -1) ↔ left * right ≠ 1 := by
    decide
  simpa only [HoldsCandidate, OppositeSigns, beq_zero_iff, lt_zero_iff,
    zero_lt_iff, signed.a, signed.b, Option.some.injEq] using differ left right

namespace Bisection

variable {ε : Type} {function : RealFunction ε} {value : Float → Float}
  {tolerance : Float}

/-- The left end is a root, and is moved to a midpoint whose value has the sign
of the value at `b`. -/
def LosesCandidate (value : Float → Float) (record : IterationRecord) : Prop :=
  (value record.bracket.a == 0.0) = true ∧
    SameSign record.residual (value record.bracket.b)

instance (value : Float → Float) (record : IterationRecord) :
    Decidable (LosesCandidate value record) :=
  inferInstanceAs (Decidable (_ ∧ _))

structure FiniteValues (value : Float → Float) (record : IterationRecord) :
    Prop where
  a : (value record.bracket.a).isFinite = true
  b : (value record.bracket.b).isFinite = true
  residual : record.residual.isFinite = true

namespace Iteration

variable {bracket : Bracket} {index : Nat} {record : IterationRecord}
  {left right middle : SignType}

theorem losesCandidate_iff (made : Iteration function bracket index record)
    (signed : bracket.Signed value left right)
    (residual : sign? record.residual = some middle) :
    LosesCandidate value record ↔ left = 0 ∧ middle * right = 1 := by
  rw [LosesCandidate, made.searched, beq_zero_iff, signed.a,
    Option.some.injEq, sameSign_iff_mul residual signed.b]

/-- Without underflow, a bracket that holds a root candidate loses it in one
case only. -/
theorem holdsCandidate_narrowed_iff
    (made : Iteration function bracket index record)
    (total : ∀ point, function point = .ok (value point))
    (finite : FiniteValues value record)
    (represented : ¬Underflows value record)
    (holds : bracket.HoldsCandidate value) :
    record.narrowed.HoldsCandidate value ↔ ¬LosesCandidate value record := by
  have finiteA := finite.a
  have finiteB := finite.b
  rw [made.searched] at finiteA finiteB
  rcases exists_sign_of_isFinite finiteA with ⟨left, atLeft⟩
  rcases exists_sign_of_isFinite finiteB with ⟨right, atRight⟩
  rcases exists_sign_of_isFinite finite.residual with ⟨middle, residual⟩
  have signed : bracket.Signed value left right := ⟨atLeft, atRight⟩
  rw [signed.holdsCandidate_iff] at holds
  have product := made.sign?_product represented atLeft residual
    (.inr ⟨finiteA, finite.residual⟩)
  rw [(made.signed_narrowed total signed residual product).holdsCandidate_iff,
    made.losesCandidate_iff signed residual]
  have law : ∀ left right middle : SignType, left * right ≠ 1 →
      ((if left * middle = -1 then left else middle) *
          (if left * middle = -1 then middle else right) ≠ 1 ↔
        ¬(left = 0 ∧ middle * right = 1)) := by
    decide
  exact law left right middle holds

/-- Without underflow, a value that is not within a positive tolerance takes
its place by its sign. -/
theorem exists_signed_narrowed
    (made : Iteration function bracket index record)
    (total : ∀ point, function point = .ok (value point))
    (finite : FiniteValues value record)
    (represented : ¬Underflows value record)
    (positive : 0.0 < tolerance) (large : ¬record.residual.abs < tolerance)
    (signed : bracket.Signed value left right) :
    ∃ middle, middle ≠ 0 ∧ sign? record.residual = some middle ∧
      record.narrowed.Signed value
        (if left * middle = -1 then left else middle)
        (if left * middle = -1 then middle else right) := by
  rcases exists_sign_of_isFinite finite.residual with ⟨middle, residual⟩
  have finiteA := finite.a
  rw [made.searched] at finiteA
  have product := made.sign?_product represented signed.a residual
    (.inr ⟨finiteA, finite.residual⟩)
  refine ⟨middle, ?_, residual,
    made.signed_narrowed total signed residual product⟩
  rintro rfl
  exact large (abs_lt_of_zero residual positive)

/-- The first midpoint takes the place of a root at `a`, and makes a sign
change with `b` or loses the root. -/
theorem signed_narrowed_of_root
    (made : Iteration function bracket index record)
    (total : ∀ point, function point = .ok (value point))
    (finite : FiniteValues value record)
    (represented : ¬Underflows value record)
    (positive : 0.0 < tolerance) (large : ¬record.residual.abs < tolerance)
    (signed : bracket.Signed value 0 right) (nonzero : right ≠ 0) :
    ∃ middle, record.narrowed.Signed value middle right ∧
      (record.narrowed.HoldsCandidate value ↔ right = -middle) ∧
      (¬SameSign record.residual (value bracket.b) ↔ right = -middle) := by
  rcases made.exists_signed_narrowed total finite represented positive large
    signed with ⟨middle, away, residual, narrowed⟩
  have moved : record.narrowed.Signed value middle right := by
    simpa using narrowed
  have opposite : ∀ middle right : SignType, middle ≠ 0 → right ≠ 0 →
      (middle * right ≠ 1 ↔ right = -middle) := by
    decide
  refine ⟨middle, moved, ?_, ?_⟩
  · rw [moved.holdsCandidate_iff, opposite middle right away nonzero]
  · rw [sameSign_iff_mul residual signed.b, ← ne_eq,
      opposite middle right away nonzero]

end Iteration

namespace Search

variable {remaining index : Nat} {bracket : Bracket}
  {records : List IterationRecord} {status : Status}

theorem finiteValues
    (search : Search function tolerance remaining index bracket records status)
    (total : ∀ point, function point = .ok (value point))
    (a : (value bracket.a).isFinite = true)
    (b : (value bracket.b).isFinite = true)
    (residual : ∀ record ∈ records, record.residual.isFinite = true) :
    ∀ record ∈ records, FiniteValues value record := by
  have midpoint : ∀ record ∈ records,
      (value record.midpoint).isFinite = true := by
    intro record member
    have evaluated := search.residual_eq record member
    rw [total, Except.ok.injEq] at evaluated
    rw [evaluated]
    exact residual record member
  intro record member
  rcases search.ends (fun point => (value point).isFinite = true) a b midpoint
    record member with ⟨finiteA, finiteB⟩
  exact ⟨finiteA, finiteB, residual record member⟩

/-- Without underflow, every bracket of a search holds a root candidate as long
as the last one is reached without losing it. -/
theorem holdsCandidate_iff
    (search : Search function tolerance remaining index bracket records status)
    (total : ∀ point, function point = .ok (value point))
    (finite : ∀ record ∈ records, FiniteValues value record)
    (represented : ∀ record ∈ records.dropLast, ¬Underflows value record)
    (start : bracket.HoldsCandidate value) :
    (∀ record ∈ records, record.bracket.HoldsCandidate value) ↔
      ∀ record ∈ records.dropLast, ¬LosesCandidate value record := by
  induction search with
  | within _ => simp
  | limit _ => simp
  | converged _ made _ => simpa [made.searched] using start
  | @further _ _ _ record later _ _ made _ rest induction =>
      rw [List.forall_mem_cons] at finite
      cases later with
      | nil => simpa [made.searched] using start
      | cons second others =>
          rw [List.dropLast_cons_cons, List.forall_mem_cons] at represented
          have step := made.holdsCandidate_narrowed_iff total finite.1
            represented.1 start
          have next := rest.searched_head second rfl
          rw [List.dropLast_cons_cons, List.forall_mem_cons (a := record),
            List.forall_mem_cons (a := record), ← step, made.searched]
          constructor
          · rintro ⟨-, holds⟩
            have kept := holds second (List.mem_cons_self ..)
            rw [next] at kept
            exact ⟨kept, (induction finite.2 represented.2 kept).mp holds⟩
          · rintro ⟨kept, never⟩
            exact ⟨start, (induction finite.2 represented.2 kept).mpr never⟩

/-- Without underflow, values at the ends that are opposite, or a zero at `b`,
stay so. -/
theorem holdsCandidate_of_opposite
    (search : Search function tolerance remaining index bracket records status)
    (total : ∀ point, function point = .ok (value point))
    (positive : 0.0 < tolerance)
    (finite : ∀ record ∈ records, FiniteValues value record)
    (represented : ∀ record ∈ records, ¬Underflows value record)
    {left right : SignType} (signed : bracket.Signed value left right)
    (opposite : right = 0 ∨ right = -left) :
    ∀ record ∈ records, record.bracket.HoldsCandidate value := by
  have holds : ∀ left right : SignType, right = 0 ∨ right = -left →
      left * right ≠ 1 := by
    decide
  have kept : ∀ left right middle : SignType, right = 0 ∨ right = -left →
      middle ≠ 0 →
      (if left * middle = -1 then middle else right) = 0 ∨
        (if left * middle = -1 then middle else right) =
          -(if left * middle = -1 then left else middle) := by
    decide
  induction search generalizing left right with
  | within _ => nofun
  | limit _ => nofun
  | converged _ made _ =>
      rintro record (_ | ⟨_, ⟨⟩⟩)
      rw [made.searched, signed.holdsCandidate_iff]
      exact holds left right opposite
  | further _ made large _ induction =>
      rw [List.forall_mem_cons] at finite represented ⊢
      rcases made.exists_signed_narrowed total finite.1 represented.1 positive
        large signed with ⟨middle, nonzero, -, narrowed⟩
      refine ⟨?_, induction finite.2 represented.2 narrowed
        (kept left right middle opposite nonzero)⟩
      rw [made.searched, signed.holdsCandidate_iff]
      exact holds left right opposite

/-- Without underflow, the one thing that loses a root at a bound is a root at
`a` whose first midpoint has a value with the sign of the value at `b`. -/
theorem holdsCandidate_iff_first
    (search : Search function tolerance remaining index bracket records status)
    (total : ∀ point, function point = .ok (value point))
    (positive : 0.0 < tolerance)
    (finite : ∀ record ∈ records, FiniteValues value record)
    (represented : ∀ record ∈ records, ¬Underflows value record)
    {left right : SignType} (signed : bracket.Signed value left right)
    (root : left = 0 ∨ right = 0) :
    (∀ record ∈ records, record.bracket.HoldsCandidate value) ↔
      ∀ first, records.dropLast.head? = some first →
        left = 0 → ¬SameSign first.residual (value bracket.b) := by
  have start : bracket.HoldsCandidate value := by
    rw [signed.holdsCandidate_iff]
    rcases root with rfl | rfl <;> simp
  by_cases atRight : right = 0
  · have always := search.holdsCandidate_of_opposite total positive finite
      represented signed (.inl atRight)
    refine iff_of_true always fun first _ _ same => ?_
    rcases sameSign_iff.mp same with ⟨sign, nonzero, -, atB⟩
    rw [signed.b, atRight, Option.some.injEq] at atB
    exact nonzero atB.symm
  obtain rfl : left = 0 := root.resolve_right atRight
  cases search with
  | within _ => simp
  | limit _ => simp
  | converged _ made _ => simpa [made.searched] using start
  | @further _ _ _ record later _ _ made large rest =>
      cases later with
      | nil => simpa [made.searched] using start
      | cons second others =>
          rw [List.forall_mem_cons] at finite represented
          rcases made.signed_narrowed_of_root total finite.1 represented.1
            positive large signed atRight with
            ⟨middle, narrowed, candidate, differ⟩
          have first : (∀ first, some record = some first →
              (0 : SignType) = 0 →
                ¬SameSign first.residual (value bracket.b)) ↔
              right = -middle := by
            simpa using differ
          rw [List.dropLast_cons_cons, List.head?_cons, first]
          constructor
          · intro holds
            have next := holds second
              (List.mem_cons_of_mem _ (List.mem_cons_self ..))
            rw [rest.searched_head second rfl] at next
            exact candidate.mp next
          · intro opposite
            have later := rest.holdsCandidate_of_opposite total positive
              finite.2 represented.2 narrowed (.inr opposite)
            exact List.forall_mem_cons.mpr ⟨made.searched ▸ start, later⟩

end Search

/-- What becomes of a root at a bound in the brackets of a search, where no
product underflows. -/
structure FollowsRoot (value : Float → Float) (bounds : Bracket)
    (tolerance : Float) (records : List IterationRecord) : Prop where
  first : ∀ record, records.head? = some record →
    record.bracket.HoldsCandidate value
  next : ∀ made record later, records[made]? = some record →
    records[made + 1]? = some later → ¬Underflows value record →
      record.bracket.HoldsCandidate value →
        (later.bracket.HoldsCandidate value ↔ ¬LosesCandidate value record)
  every : (∀ record ∈ records.dropLast, ¬Underflows value record) →
    ((∀ record ∈ records, record.bracket.HoldsCandidate value) ↔
      ∀ record ∈ records.dropLast, ¬LosesCandidate value record)
  represented : 0.0 < tolerance →
    (∀ record ∈ records, ¬Underflows value record) →
      ((∀ record ∈ records, record.bracket.HoldsCandidate value) ↔
        ∀ record, records.dropLast.head? = some record →
          (value bounds.a == 0.0) = true →
            ¬SameSign record.residual (value bounds.b))

theorem root_at_bound_followed {bounds : Bracket} {config : Config}
    (total : ∀ point, function point = .ok (value point))
    (finiteA : (value bounds.a).isFinite = true)
    (finiteB : (value bounds.b).isFinite = true)
    (root : (value bounds.a == 0.0) = true ∨
      (value bounds.b == 0.0) = true) :
    ∃ solution, solveUnobserved function bounds config = .ok solution ∧
      ((∀ record ∈ solution.records, record.residual.isFinite = true) →
        FollowsRoot value bounds config.tolerance solution.records) := by
  rcases exists_sign_of_isFinite finiteA with ⟨left, atLeft⟩
  rcases exists_sign_of_isFinite finiteB with ⟨right, atRight⟩
  have signed : bounds.Signed value left right := ⟨atLeft, atRight⟩
  have zero : left = 0 ∨ right = 0 := by
    simpa only [beq_zero_iff, atLeft, atRight, Option.some.injEq] using root
  have start : bounds.HoldsCandidate value := root.elim .inl (.inr ∘ .inl)
  have accepted : ¬0.0 < value bounds.a * value bounds.b := by
    have product : left * right = 0 := by
      rcases zero with rfl | rfl <;> simp
    rw [zero_lt_iff]
    rcases sign?_mul atLeft atRight (.inr ⟨finiteA, finiteB⟩) with sign | sign
    · simp [sign, product]
    · simp [sign]
  rcases exists_solution_of_total total accepted with ⟨solution, solved⟩
  refine ⟨solution, solved, fun finite => ?_⟩
  have search := Search.of_solveUnobserved solved
  have values := search.finiteValues total finiteA finiteB finite
  constructor
  case first =>
      intro record isFirst
      rw [search.searched_head record isFirst]
      exact start
  case next =>
      intro made record later isRecord isLater products holds
      rcases List.getElem?_eq_some_iff.mp isRecord with ⟨below, rfl⟩
      rcases List.getElem?_eq_some_iff.mp isLater with ⟨laterBelow, rfl⟩
      rw [search.consecutive made laterBelow]
      exact (search.iteration made below).holdsCandidate_narrowed_iff total
        (values _ (List.getElem_mem below)) products holds
  case every =>
      exact fun products =>
        search.holdsCandidate_iff total values products start
  case represented =>
      intro positive products
      rw [beq_zero_iff, atLeft, Option.some.injEq]
      exact search.holdsCandidate_iff_first total positive values products
        signed zero

def clampedLine (point : Float) : Float :=
  if point.isFinite then point else 0.0

theorem root_at_bound_followed_clampedLine :
    let bounds : Bracket := ⟨-1.0, 0.0⟩
    let config : Config := ⟨1e-4, 2⟩
    let solution : Solution := ⟨[⟨1, ⟨-1.0, 0.0⟩, -0.5, .positive, -0.5⟩,
      ⟨2, ⟨-0.5, 0.0⟩, -0.25, .positive, -0.25⟩], .iterationLimit⟩
    (∀ point,
        RealFunction.ofTotal clampedLine point = .ok (clampedLine point)) ∧
      (clampedLine bounds.a).isFinite = true ∧
      (clampedLine bounds.b).isFinite = true ∧
      (clampedLine bounds.b == 0.0) = true ∧
      (∀ record ∈ solution.records, record.residual.isFinite = true) ∧
      solveUnobserved (.ofTotal clampedLine) bounds config = .ok solution ∧
      FollowsRoot clampedLine bounds config.tolerance solution.records := by
  intro bounds config solution
  have total (point : Float) :
      RealFunction.ofTotal clampedLine point = .ok (clampedLine point) := rfl
  have finiteA : (clampedLine bounds.a).isFinite = true := by decide +kernel
  have finiteB : (clampedLine bounds.b).isFinite = true := by decide +kernel
  have root : (clampedLine bounds.b == 0.0) = true := by decide +kernel
  have finite : ∀ record ∈ solution.records,
      record.residual.isFinite = true := by
    simp only [solution, List.forall_mem_cons]
    refine ⟨?_, ?_, List.forall_mem_nil _⟩ <;> decide +kernel
  have solved : solveUnobserved (.ofTotal clampedLine) bounds config =
      .ok solution :=
    Outcome.eq_ok_of_toOption (by decide +kernel)
  rcases root_at_bound_followed total finiteA finiteB (.inr root) with
    ⟨found, foundSolved, follows⟩
  rw [solved, Except.ok.injEq] at foundSolved
  subst foundSolved
  exact ⟨total, finiteA, finiteB, root, finite, solved, follows finite⟩

/-- The first midpoint takes the place of a root at `a`. -/
theorem root_at_bound_not_always_kept :
    ¬∀ (value : Float → Float) (bounds : Bracket) (config : Config),
      (∀ point, (value point).isFinite = true) →
      bounds.a.isFinite = true → bounds.b.isFinite = true →
      ((value bounds.a == 0.0) = true ∨ (value bounds.b == 0.0) = true) →
      ∀ solution, solveUnobserved (.ofTotal value) bounds config =
        .ok solution →
      ∀ record ∈ solution.records, record.bracket.HoldsCandidate value := by
  intro always
  let bounds : Bracket := ⟨0.0, 1.0⟩
  let config : Config := ⟨1e-4, 2⟩
  let second : IterationRecord := ⟨2, ⟨0.5, 1.0⟩, 0.75, .positive, 0.75⟩
  let solution : Solution :=
    ⟨[⟨1, ⟨0.0, 1.0⟩, 0.5, .positive, 0.5⟩, second], .iterationLimit⟩
  have finite (point : Float) : (clampedLine point).isFinite = true := by
    unfold clampedLine
    split
    · assumption
    · decide +kernel
  have solved : solveUnobserved (.ofTotal clampedLine) bounds config =
      .ok solution :=
    Outcome.eq_ok_of_toOption (by decide +kernel)
  have holds := always clampedLine bounds config finite (by decide +kernel)
    (by decide +kernel) (.inl (by decide +kernel)) solution solved second
    (List.mem_cons_of_mem _ (List.mem_cons_self ..))
  have empty : ¬second.bracket.HoldsCandidate clampedLine := by decide +kernel
  exact empty holds

end Bisection

end RootFinding
