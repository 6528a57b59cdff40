import RootFinding.Proofs.Arithmetic
import RootFinding.Proofs.Bisection.RootCandidate

/-! The signs that a search decides by. They are read off a product, which is
a zero also where it is too small for a float: then two values of one sign pass
for a sign change, and a sign change is not seen. -/

namespace RootFinding

open Float.Model (UnpackedFloat)

/-! Signs of numbers and of their products. -/

theorem Unpacked.sign?_of_rational? {value : UnpackedFloat} {number : ℚ}
    (isNumber : rational? value = some number) :
    sign? value = some (SignType.sign number) := by
  cases value with
  | notANumber => cases isNumber
  | infinity bit => cases isNumber
  | zero bit =>
      cases isNumber
      rw [sign_zero]
      rfl
  | finite bit mantissa exponent positive =>
      cases isNumber
      have magnitude : (0 : ℚ) < mantissa * 2 ^ exponent := by positivity
      cases bit with
      | negative =>
          exact congrArg some (sign_neg (neg_neg_of_pos magnitude)).symm
      | positive => exact congrArg some (sign_pos magnitude).symm

/-- The product of the two numbers is at most half of the least positive float
in size. -/
def Vanishes (left right : Float) : Prop :=
  ∃ leftNumber rightNumber, rational? left = some leftNumber ∧
    rational? right = some rightNumber ∧
    |leftNumber * rightNumber| ≤ 2 ^ (-1075 : ℤ)

section Product

variable {value left right : Float} {number leftNumber rightNumber : ℚ}

theorem sign?_of_rational? (isNumber : rational? value = some number) :
    sign? value = some (SignType.sign number) :=
  Unpacked.sign?_of_rational? isNumber

theorem rational?_of_sign?_eq_zero (zero : sign? value = some 0) :
    rational? value = some 0 := by
  rcases Unpacked.exists_of_sign?_eq_zero zero with ⟨bit, unpacked⟩
  rw [rational?, unpacked]
  rfl

theorem vanishes_iff (leftIs : rational? left = some leftNumber)
    (rightIs : rational? right = some rightNumber) :
    Vanishes left right ↔ |leftNumber * rightNumber| ≤ 2 ^ (-1075 : ℤ) := by
  simp [Vanishes, leftIs, rightIs]

theorem sign?_mul_of_vanishes (vanishes : Vanishes left right) :
    sign? (left * right) = some 0 := by
  rcases vanishes with ⟨leftNumber, rightNumber, leftIs, rightIs, small⟩
  have product : rational? (left * right) = some 0 := by
    rw [rational?_mul leftIs rightIs, Unpacked.rounded_eq_zero_iff.2 small,
      Unpacked.bounded?, if_pos (by simp)]
  rw [sign?_of_rational? product, sign_zero]

/-- A product that does not vanish has the product of the signs, also where it
overflows. -/
theorem sign?_mul_of_not_vanishes
    (leftIs : rational? left = some leftNumber)
    (rightIs : rational? right = some rightNumber)
    (visible : ¬Vanishes left right) :
    sign? (left * right) =
      some (SignType.sign leftNumber * SignType.sign rightNumber) := by
  have finite : left.isFinite = true ∧ right.isFinite = true :=
    ⟨isFinite_iff_rational?.2 ⟨_, leftIs⟩,
      isFinite_iff_rational?.2 ⟨_, rightIs⟩⟩
  rcases sign?_mul (sign?_of_rational? leftIs) (sign?_of_rational? rightIs)
    (.inr finite) with signed | zero
  · exact signed
  · have product := rational?_of_sign?_eq_zero zero
    rw [rational?_mul leftIs rightIs, Unpacked.bounded?,
      Option.ite_none_right_eq_some, Option.some.injEq] at product
    rw [vanishes_iff leftIs rightIs, ← Unpacked.rounded_eq_zero_iff] at visible
    exact absurd product.2 visible

theorem zero_lt_mul_iff (finiteLeft : left.isFinite = true)
    (finiteRight : right.isFinite = true) :
    0.0 < left * right ↔ SameSign left right ∧ ¬Vanishes left right := by
  rcases isFinite_iff_rational?.1 finiteLeft with ⟨leftNumber, leftIs⟩
  rcases isFinite_iff_rational?.1 finiteRight with ⟨rightNumber, rightIs⟩
  rw [zero_lt_iff, sameSign_iff_mul (sign?_of_rational? leftIs)
    (sign?_of_rational? rightIs)]
  by_cases vanishes : Vanishes left right
  · simp [sign?_mul_of_vanishes vanishes, vanishes]
  · simp [sign?_mul_of_not_vanishes leftIs rightIs vanishes, vanishes]

theorem mul_lt_zero_iff (finiteLeft : left.isFinite = true)
    (finiteRight : right.isFinite = true) :
    left * right < 0.0 ↔ OppositeSigns left right ∧ ¬Vanishes left right := by
  rcases isFinite_iff_rational?.1 finiteLeft with ⟨leftNumber, leftIs⟩
  rcases isFinite_iff_rational?.1 finiteRight with ⟨rightNumber, rightIs⟩
  rw [lt_zero_iff, oppositeSigns_iff_mul (sign?_of_rational? leftIs)
    (sign?_of_rational? rightIs)]
  by_cases vanishes : Vanishes left right
  · simp [sign?_mul_of_vanishes vanishes, vanishes]
  · simp [sign?_mul_of_not_vanishes leftIs rightIs vanishes, vanishes]

end Product

namespace Bisection

variable {ε : Type} {function : RealFunction ε} {value : Float → Float}

theorem Iteration.sign_negative_iff_opposite {bracket : Bracket} {index : Nat}
    {record : IterationRecord}
    (made : Iteration function bracket index record)
    (total : ∀ point, function point = .ok (value point))
    (finite : FiniteValues value record) :
    record.sign = .negative ↔
      OppositeSigns (value record.bracket.a) record.residual ∧
        ¬Vanishes (value record.bracket.a) record.residual := by
  rw [made.sign_eq total, SignClass.ofProduct_eq_negative_iff, ← lt_zero_iff,
    ← made.searched, mul_lt_zero_iff finite.a finite.residual]

/-- Signs are the actual ones wherever the product does not vanish. A product
that does counts as a sign change between the bounds, and as none between `a`
and a midpoint. -/
structure DecidesSigns (function : RealFunction ε) (value : Float → Float)
    (bounds : Bracket) : Prop where
  refused : checkSignChange function bounds =
      .error (.noSignChange bounds (value bounds.a) (value bounds.b)) ↔
    SameSign (value bounds.a) (value bounds.b) ∧
      ¬Vanishes (value bounds.a) (value bounds.b)
  accepted : checkSignChange function bounds =
      .ok (value bounds.a, value bounds.b) ↔
    ¬SameSign (value bounds.a) (value bounds.b) ∨
      Vanishes (value bounds.a) (value bounds.b)
  records : ¬SameSign (value bounds.a) (value bounds.b) ∨
      Vanishes (value bounds.a) (value bounds.b) →
    ∀ config, ∃ solution,
      solveUnobserved function bounds config = .ok solution ∧
        ((∀ record ∈ solution.records, record.residual.isFinite = true) →
          ∀ record ∈ solution.records, (record.sign = .negative ↔
            OppositeSigns (value record.bracket.a) record.residual ∧
              ¬Vanishes (value record.bracket.a) record.residual))

theorem signs_actual_unless_vanishing {bounds : Bracket}
    (total : ∀ point, function point = .ok (value point))
    (finiteA : (value bounds.a).isFinite = true)
    (finiteB : (value bounds.b).isFinite = true) :
    DecidesSigns function value bounds := by
  have product := zero_lt_mul_iff finiteA finiteB
  constructor
  case refused =>
      rw [checkSignChange_of_total total, ← product]
      split <;> simp_all
  case accepted =>
      rw [checkSignChange_of_total total, ← not_not (a := Vanishes _ _),
        ← not_and_or, ← product]
      split <;> simp_all
  case records =>
      intro passed config
      rw [← not_not (a := Vanishes _ _), ← not_and_or, ← product] at passed
      have solves : ∃ solution,
          solveUnobserved function bounds config = .ok solution :=
        exists_solution_of_total total passed
      rcases solves with ⟨solution, solved⟩
      refine ⟨solution, solved, fun residuals record member => ?_⟩
      have search := Search.of_solveUnobserved solved
      have finite := search.finiteValues total finiteA finiteB residuals
        record member
      rcases List.mem_iff_getElem.1 member with ⟨made, below, rfl⟩
      have iteration := search.iteration made below
      exact iteration.sign_negative_iff_opposite total finite

def faintStep (point : Float) : Float :=
  if point < 0.3 then 1e-200 else -1e-200

theorem signs_actual_unless_vanishing_faintStep :
    let bounds : Bracket := ⟨0.0, 1.0⟩
    let config : Config := ⟨1e-300, 2⟩
    let solution : Solution := ⟨[⟨1, ⟨0.0, 1.0⟩, 0.5, .positive, -1e-200⟩,
      ⟨2, ⟨0.5, 1.0⟩, 0.75, .positive, -1e-200⟩], .iterationLimit⟩
    (∀ point, RealFunction.ofTotal faintStep point = .ok (faintStep point)) ∧
      (faintStep bounds.a).isFinite = true ∧
      (faintStep bounds.b).isFinite = true ∧
      solveUnobserved (.ofTotal faintStep) bounds config = .ok solution ∧
      (∀ record ∈ solution.records, record.residual.isFinite = true) ∧
      DecidesSigns (.ofTotal faintStep) faintStep bounds := by
  intro bounds config solution
  have total (point : Float) :
      RealFunction.ofTotal faintStep point = .ok (faintStep point) := rfl
  have finiteA : (faintStep bounds.a).isFinite = true := by decide +kernel
  have finiteB : (faintStep bounds.b).isFinite = true := by decide +kernel
  have solved : solveUnobserved (.ofTotal faintStep) bounds config =
      .ok solution :=
    Outcome.eq_ok_of_toOption (by decide +kernel)
  have residuals : ∀ record ∈ solution.records,
      record.residual.isFinite = true := by
    simp only [solution, List.forall_mem_cons]
    refine ⟨?_, ?_, List.forall_mem_nil _⟩ <;> decide +kernel
  exact ⟨total, finiteA, finiteB, solved, residuals,
    signs_actual_unless_vanishing total finiteA finiteB⟩

/-- Two values of one sign are accepted as bounds, and a sign change between
`a` and a midpoint is not seen, where their product underflows. -/
theorem signs_not_always_actual :
    (¬∀ (value : Float → Float) (bounds : Bracket),
      (∀ point, (value point).isFinite = true) →
      (checkSignChange (.ofTotal value) bounds =
          .error (.noSignChange bounds (value bounds.a) (value bounds.b)) ↔
        SameSign (value bounds.a) (value bounds.b))) ∧
    ¬∀ (value : Float → Float) (bounds : Bracket) (config : Config),
      (∀ point, (value point).isFinite = true) →
      ∀ solution, solveUnobserved (.ofTotal value) bounds config =
        .ok solution →
      ∀ record ∈ solution.records, (record.sign = .negative ↔
        OppositeSigns (value record.bracket.a) record.residual) := by
  have finite (point : Float) : (faintStep point).isFinite = true := by
    unfold faintStep
    split <;> decide +kernel
  constructor
  · intro always
    let bounds : Bracket := ⟨0.0, 0.1⟩
    have accepted : checkSignChange (.ofTotal faintStep) bounds =
        .ok (faintStep bounds.a, faintStep bounds.b) :=
      Outcome.eq_ok_of_toOption (by decide +kernel)
    have same : SameSign (faintStep bounds.a) (faintStep bounds.b) := by
      decide +kernel
    have refused := (always faintStep bounds finite).2 same
    rw [accepted] at refused
    cases refused
  · intro always
    let bounds : Bracket := ⟨0.0, 1.0⟩
    let record : IterationRecord := ⟨1, bounds, 0.5, .positive, -1e-200⟩
    have solved : solveUnobserved (.ofTotal faintStep) bounds ⟨1e-300, 1⟩ =
        .ok ⟨[record], .iterationLimit⟩ :=
      Outcome.eq_ok_of_toOption (by decide +kernel)
    have opposite : OppositeSigns (faintStep record.bracket.a)
        record.residual := by
      decide +kernel
    have negative := (always faintStep bounds ⟨1e-300, 1⟩ finite _ solved
      record (List.mem_singleton_self _)).2 opposite
    cases negative

end Bisection

end RootFinding
