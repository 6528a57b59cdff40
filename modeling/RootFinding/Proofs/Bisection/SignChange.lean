import RootFinding.Proofs.Bisection.Search
import RootFinding.Proofs.Sign

/-! The sign change between the ends of a bracket. A search that starts with
values of opposite signs keeps them, as long as no product underflows, and so
its status tells of a bracket that still has a sign change, or of a value
within the tolerance. -/

namespace RootFinding

theorem SignClass.ofProduct_eq_negative_iff {product : Float} :
    SignClass.ofProduct product = .negative ↔ sign? product = some (-1) := by
  rw [← lt_zero_iff, ofProduct]
  split <;> simp_all

/-- The signs of a function's values at the ends of a bracket. -/
structure Bracket.Signed (value : Float → Float) (bracket : Bracket)
    (left right : SignType) : Prop where
  a : sign? (value bracket.a) = some left
  b : sign? (value bracket.b) = some right

namespace Bisection

variable {ε : Type} {function : RealFunction ε} {value : Float → Float}
  {tolerance : Float}

namespace Iteration

variable {bracket : Bracket} {index : Nat} {record : IterationRecord}

theorem residual_eq (made : Iteration function bracket index record)
    (total : ∀ point, function point = .ok (value point)) :
    record.residual = value record.midpoint := by
  have evaluated := made.residual
  rw [total] at evaluated
  exact (Except.ok.inj evaluated).symm

theorem sign_eq (made : Iteration function bracket index record)
    (total : ∀ point, function point = .ok (value point)) :
    record.sign = .ofProduct (value bracket.a * record.residual) := by
  rcases made.exists_sign_eq with ⟨atLeft, evaluated, sign⟩
  rw [total] at evaluated
  rw [sign, Except.ok.inj evaluated]

/-- A negative product puts the midpoint in the place of `b`, any other in the
place of `a`. -/
theorem signed_narrowed (made : Iteration function bracket index record)
    (total : ∀ point, function point = .ok (value point))
    {left right middle product : SignType}
    (signed : bracket.Signed value left right)
    (residual : sign? record.residual = some middle)
    (multiplied :
      sign? (value bracket.a * record.residual) = some product) :
    record.narrowed.Signed value (if product = -1 then left else middle)
      (if product = -1 then middle else right) := by
  rw [made.residual_eq total] at residual
  have negative : record.sign = .negative ↔ product = -1 := by
    rw [made.sign_eq total, SignClass.ofProduct_eq_negative_iff, multiplied,
      Option.some.injEq]
  rw [IterationRecord.narrowed, made.searched]
  cases sign : record.sign with
  | negative =>
      rw [if_pos (negative.mp sign), if_pos (negative.mp sign)]
      exact ⟨signed.a, residual⟩
  | positive =>
      have other : product ≠ -1 := fun same => by
        rw [negative.mpr same] at sign
        cases sign
      rw [if_neg other, if_neg other]
      exact ⟨residual, signed.b⟩

end Iteration

/-- The product of two values that are not zero comes out as a zero. -/
def Underflows (value : Float → Float) (record : IterationRecord) : Prop :=
  (value record.bracket.a == 0.0) = false ∧
    (record.residual == 0.0) = false ∧
    (value record.bracket.a * record.residual == 0.0) = true

instance (value : Float → Float) (record : IterationRecord) :
    Decidable (Underflows value record) :=
  inferInstanceAs (Decidable (_ ∧ _ ∧ _))

/-- Apart from underflow, a product has the product of the signs. -/
theorem Iteration.sign?_product {bracket : Bracket} {index : Nat}
    {record : IterationRecord} {left middle : SignType}
    (made : Iteration function bracket index record)
    (represented : ¬Underflows value record)
    (atLeft : sign? (value bracket.a) = some left)
    (residual : sign? record.residual = some middle)
    (defined : left ≠ 0 ∧ middle ≠ 0 ∨
      (value bracket.a).isFinite = true ∧ record.residual.isFinite = true) :
    sign? (value bracket.a * record.residual) = some (left * middle) := by
  rcases sign?_mul atLeft residual defined with product | zero
  · exact product
  · simp only [Underflows, made.searched, Bool.eq_false_iff, ne_eq,
      beq_zero_iff, zero, atLeft, residual, Option.some.injEq, and_true,
      not_and_or, Decidable.not_not] at represented
    rcases represented with none | none <;> simp [none, zero]

/-- A record whose value is a number, and whose product does not underflow. -/
structure Regular (value : Float → Float) (record : IterationRecord) :
    Prop where
  number : record.residual.isNaN = false
  product : ¬Underflows value record

theorem Iteration.signed_of_regular {bracket : Bracket} {index : Nat}
    {record : IterationRecord} {sign : SignType}
    (made : Iteration function bracket index record)
    (total : ∀ point, function point = .ok (value point))
    (regular : Regular value record) (nonzero : sign ≠ 0)
    (signed : bracket.Signed value sign (-sign))
    (away : sign? record.residual ≠ some 0) :
    record.narrowed.Signed value sign (-sign) := by
  rcases exists_sign_of_not_isNaN regular.number with ⟨middle, residual⟩
  have middleNonzero : middle ≠ 0 := fun zero => away (by rw [residual, zero])
  have product := made.sign?_product regular.product signed.a residual
    (.inl ⟨nonzero, middleNonzero⟩)
  have narrowed := made.signed_narrowed total signed residual product
  have kept : ∀ sign middle : SignType, sign ≠ 0 → middle ≠ 0 →
      (if sign * middle = -1 then sign else middle) = sign ∧
        (if sign * middle = -1 then middle else -sign) = -sign := by
    decide
  rcases kept sign middle nonzero middleNonzero with ⟨left, right⟩
  rwa [left, right] at narrowed

namespace Search

variable {remaining index : Nat} {bracket : Bracket}
  {records : List IterationRecord} {status : Status}

/-- Signs that are opposite at first are the same in every record, and after
the last one unless its value is within the tolerance. -/
theorem signed
    (search : Search function tolerance remaining index bracket records status)
    (total : ∀ point, function point = .ok (value point))
    (positive : 0.0 < tolerance) {sign : SignType} (nonzero : sign ≠ 0)
    (start : bracket.Signed value sign (-sign))
    (regular : ∀ record ∈ records, Regular value record) :
    (∀ record ∈ records, record.bracket.Signed value sign (-sign)) ∧
      (status ≠ .residualConverged →
        (bracket.after records).Signed value sign (-sign)) := by
  induction search with
  | within _ => exact ⟨nofun, fun _ => start⟩
  | limit _ => exact ⟨nofun, fun _ => start⟩
  | converged _ made _ =>
      refine ⟨?_, fun other => absurd rfl other⟩
      rintro record (_ | ⟨_, ⟨⟩⟩)
      rw [made.searched]
      exact start
  | further _ made large _ induction =>
      rw [List.forall_mem_cons] at regular ⊢
      have away := fun zero => large (abs_lt_of_zero zero positive)
      have next := made.signed_of_regular total regular.1 nonzero start away
      rcases induction next regular.2 with ⟨later, final⟩
      rw [made.searched, Bracket.after_cons]
      exact ⟨⟨start, later⟩, final⟩

end Search

/-- A solution of a search that never loses the sign change between the ends
of its bracket, and whose status says what the search came to. -/
structure KeepsSignChange (value : Float → Float) (bounds : Bracket)
    (tolerance : Float) (solution : Solution) : Prop where
  records : ∀ record ∈ solution.records,
    SameSign (value record.bracket.a) (value bounds.a) ∧
      SameSign (value record.bracket.b) (value bounds.b)
  residual : solution.status = .residualConverged →
    ∃ root, solution.root? = some root ∧ (value root).abs < tolerance
  bracket : solution.status = .widthConverged ∨
      solution.status = .iterationLimit →
    OppositeSigns (value (bounds.after solution.records).a)
        (value (bounds.after solution.records).b) ∧
      ∀ root, solution.root? = some root →
        root = (bounds.after solution.records).a ∨
          root = (bounds.after solution.records).b
  width : solution.status = .widthConverged →
    ¬(bounds.after solution.records).width > tolerance

theorem strict_sign_change_kept {bounds : Bracket} {config : Config}
    (total : ∀ point, function point = .ok (value point))
    (opposite : OppositeSigns (value bounds.a) (value bounds.b))
    (positive : 0.0 < config.tolerance) :
    ∃ solution, solveUnobserved function bounds config = .ok solution ∧
      ((∀ record ∈ solution.records, Regular value record) →
        KeepsSignChange value bounds config.tolerance solution) := by
  rcases oppositeSigns_iff.mp opposite with ⟨sign, nonzero, left, right⟩
  have accepted : ¬0.0 < value bounds.a * value bounds.b := by
    rw [zero_lt_iff]
    have negative : ∀ sign : SignType, sign ≠ 0 → sign * -sign = -1 := by
      decide
    rcases sign?_mul left right (.inl ⟨nonzero, by simpa using nonzero⟩) with
      product | zero
    · simp [product, negative sign nonzero]
    · simp [zero]
  rcases exists_solution_of_total total accepted with ⟨solution, solved⟩
  refine ⟨solution, solved, fun regular => ?_⟩
  have search := Search.of_solveUnobserved solved
  rcases search.signed total positive nonzero ⟨left, right⟩ regular with
    ⟨signed, final⟩
  constructor
  case records =>
      intro record member
      have same := signed record member
      exact ⟨sameSign_iff.mpr ⟨sign, nonzero, same.a, left⟩,
        sameSign_iff.mpr ⟨-sign, by simpa using nonzero, same.b, right⟩⟩
  case residual =>
      intro ended
      rcases search.small_of_residualConverged ended with
        ⟨last, isLast, small⟩
      have evaluated := search.residual_eq last (List.mem_of_getLast? isLast)
      rw [total, Except.ok.injEq] at evaluated
      refine ⟨last.midpoint, ?_, by rwa [evaluated]⟩
      simp [Solution.root?, Solution.last?, isLast]
  case bracket =>
      intro ended
      have kept := final (by rcases ended with ended | ended <;> simp [ended])
      refine ⟨oppositeSigns_iff.mpr ⟨sign, nonzero, kept.a, kept.b⟩, ?_⟩
      intro root isRoot
      simp only [Solution.root?, Solution.last?, Option.map_eq_some_iff]
        at isRoot
      rcases isRoot with ⟨last, isLast, rfl⟩
      rw [Bracket.after_of_getLast isLast]
      exact last.midpoint_mem_narrowed
  case width =>
      intro ended
      have within := search.isWithin_of_widthConverged ended
      simpa [Bracket.isWithin] using within

def steepLine (point : Float) : Float :=
  10.0 * point - 3.0

theorem strict_sign_change_kept_steepLine :
    let bounds : Bracket := ⟨0.0, 1.0⟩
    let config : Config := ⟨0.3, 10⟩
    let solution : Solution := ⟨[⟨1, ⟨0.0, 1.0⟩, 0.5, .negative, 2.0⟩,
      ⟨2, ⟨0.0, 0.5⟩, 0.25, .positive, -0.5⟩], .widthConverged⟩
    (∀ point, RealFunction.ofTotal steepLine point = .ok (steepLine point)) ∧
      OppositeSigns (steepLine bounds.a) (steepLine bounds.b) ∧
      0.0 < config.tolerance ∧
      (∀ record ∈ solution.records, Regular steepLine record) ∧
      solveUnobserved (.ofTotal steepLine) bounds config = .ok solution ∧
      KeepsSignChange steepLine bounds config.tolerance solution := by
  intro bounds config solution
  have total (point : Float) :
      RealFunction.ofTotal steepLine point = .ok (steepLine point) := rfl
  have opposite : OppositeSigns (steepLine bounds.a) (steepLine bounds.b) :=
    by decide +kernel
  have positive : 0.0 < config.tolerance := by decide +kernel
  have regular : ∀ record ∈ solution.records, Regular steepLine record := by
    simp only [solution, List.forall_mem_cons]
    refine ⟨⟨?_, ?_⟩, ⟨?_, ?_⟩, List.forall_mem_nil _⟩ <;> decide +kernel
  have solved : solveUnobserved (.ofTotal steepLine) bounds config =
      .ok solution :=
    Outcome.eq_ok_of_toOption (by decide +kernel)
  rcases strict_sign_change_kept total opposite positive with
    ⟨found, foundSolved, kept⟩
  rw [solved, Except.ok.injEq] at foundSolved
  subst foundSolved
  exact ⟨total, opposite, positive, regular, solved, kept regular⟩

end Bisection

end RootFinding
