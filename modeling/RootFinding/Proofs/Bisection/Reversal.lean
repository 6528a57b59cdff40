import RootFinding.Proofs.Bisection.SignChange
import RootFinding.Proofs.Symmetry

/-! Searches of the same bounds in the other order. Only the value at `a` is
carried along, so that the two searches are not the same by their shape: they
decide alike because the values at both ends keep opposite signs. -/

namespace RootFinding

namespace Bracket

def reversed (bracket : Bracket) : Bracket :=
  ⟨bracket.b, bracket.a⟩

theorem midpoint_reversed (bracket : Bracket) :
    bracket.reversed.midpoint = bracket.midpoint := by
  unfold midpoint
  rw [float_add_comm]
  rfl

theorem width_reversed (bracket : Bracket) :
    bracket.reversed.width = bracket.width :=
  float_abs_sub_comm bracket.a bracket.b

theorem isWithin_reversed (bracket : Bracket) (tolerance : Float) :
    bracket.reversed.isWithin tolerance = bracket.isWithin tolerance := by
  unfold isWithin
  rw [width_reversed]

end Bracket

theorem OppositeSigns.symm {left right : Float}
    (opposite : OppositeSigns left right) : OppositeSigns right left :=
  (Or.symm opposite).imp And.symm And.symm

def SignClass.opposite : SignClass → SignClass
  | .negative => .positive
  | .positive => .negative

theorem SignClass.eq_opposite_iff {sign other : SignClass} :
    other = sign.opposite ↔ (other = .negative ↔ ¬sign = .negative) := by
  cases sign <;> cases other <;> decide

theorem Bracket.narrow_reversed (bracket : Bracket) (middle : Float)
    (sign : SignClass) :
    bracket.reversed.narrow middle sign.opposite =
      (bracket.narrow middle sign).reversed := by
  cases sign <;> rfl

/-- The records of the same iteration in two searches whose bounds are given in
opposite orders. A value of zero counts as positive in both. -/
structure IterationRecord.Mirrors (record other : IterationRecord) :
    Prop where
  index : other.index = record.index
  bracket : other.bracket = record.bracket.reversed
  midpoint : other.midpoint = record.midpoint
  residual : other.residual = record.residual
  sign : (record.residual == 0.0) = false →
    other.sign = record.sign.opposite
  zero : (record.residual == 0.0) = true →
    record.sign = .positive ∧ other.sign = .positive

/-- The two searches leave the same bracket, but for its order. -/
theorem IterationRecord.Mirrors.narrowed {record other : IterationRecord}
    (mirrors : record.Mirrors other)
    (nonzero : (record.residual == 0.0) = false) :
    other.narrowed = record.narrowed.reversed := by
  unfold IterationRecord.narrowed
  rw [mirrors.bracket, mirrors.midpoint, mirrors.sign nonzero,
    Bracket.narrow_reversed]

theorem Bracket.Signed.reversed {value : Float → Float} {bracket : Bracket}
    {left right : SignType} (signed : bracket.Signed value left right) :
    bracket.reversed.Signed value right left :=
  ⟨signed.b, signed.a⟩

namespace Bisection

variable {ε : Type} {function : RealFunction ε} {value : Float → Float}
  {tolerance : Float}

/-- The sign of a regular record is that of the product of the signs. -/
theorem Iteration.sign_eq_negative_iff {bracket : Bracket} {index : Nat}
    {record : IterationRecord} {left right middle : SignType}
    (made : Iteration function bracket index record)
    (total : ∀ point, function point = .ok (value point))
    (regular : Regular value record)
    (signed : bracket.Signed value left right) (nonzero : left ≠ 0)
    (residual : sign? record.residual = some middle) (away : middle ≠ 0) :
    record.sign = .negative ↔ left * middle = -1 := by
  rw [made.sign_eq total, SignClass.ofProduct_eq_negative_iff,
    made.sign?_product regular.product signed.a residual
      (.inl ⟨nonzero, away⟩), Option.some.injEq]

theorem Iteration.sign_eq_positive {bracket : Bracket} {index : Nat}
    {record : IterationRecord}
    (made : Iteration function bracket index record)
    (total : ∀ point, function point = .ok (value point))
    (zero : sign? record.residual = some 0) : record.sign = .positive := by
  cases sign : record.sign with
  | negative =>
      rw [made.sign_eq total, SignClass.ofProduct_eq_negative_iff] at sign
      exact absurd sign (sign?_mul_zero zero)
  | positive => rfl

/-- One iteration on a bracket, and one on the reversed bracket. -/
theorem Iteration.mirrors {bracket : Bracket} {index : Nat}
    {record other : IterationRecord} {sign : SignType}
    (made : Iteration function bracket index record)
    (otherMade : Iteration function bracket.reversed index other)
    (total : ∀ point, function point = .ok (value point))
    (regular : Regular value record) (otherRegular : Regular value other)
    (nonzero : sign ≠ 0) (signed : bracket.Signed value sign (-sign)) :
    record.Mirrors other := by
  have midpoint : other.midpoint = record.midpoint := by
    rw [otherMade.midpoint_eq, made.midpoint_eq, Bracket.midpoint_reversed]
  have residual : other.residual = record.residual := by
    rw [otherMade.residual_eq total, made.residual_eq total, midpoint]
  constructor
  case index => rw [otherMade.index, made.index]
  case bracket => rw [otherMade.searched, made.searched]
  case midpoint => exact midpoint
  case residual => exact residual
  case sign =>
      intro nonzeroResidual
      rcases exists_sign_of_not_isNaN regular.number with ⟨middle, isMiddle⟩
      have away : middle ≠ 0 := by
        rintro rfl
        rw [beq_zero_iff.mpr isMiddle] at nonzeroResidual
        cases nonzeroResidual
      have decided := made.sign_eq_negative_iff total regular signed nonzero
        isMiddle away
      have otherDecided := otherMade.sign_eq_negative_iff total otherRegular
        signed.reversed (by simpa using nonzero)
        (by rwa [residual]) away
      have turned : ∀ sign middle : SignType, sign ≠ 0 → middle ≠ 0 →
          (-sign * middle = -1 ↔ ¬sign * middle = -1) := by
        decide
      rw [turned sign middle nonzero away, ← decided] at otherDecided
      exact SignClass.eq_opposite_iff.mpr otherDecided
  case zero =>
      intro zero
      rw [beq_zero_iff] at zero
      exact ⟨made.sign_eq_positive total zero,
        otherMade.sign_eq_positive total (by rwa [residual])⟩

namespace Search

variable {remaining index : Nat} {bracket : Bracket}
  {records others : List IterationRecord} {status otherStatus : Status}

theorem eq_of_within
    (search : Search function tolerance remaining index bracket records status)
    (within : bracket.isWithin tolerance = true) :
    records = [] ∧ status = .widthConverged := by
  cases search with
  | within _ => exact ⟨rfl, rfl⟩
  | limit wide => simp [wide] at within
  | converged wide _ _ => simp [wide] at within
  | further wide _ _ _ => simp [wide] at within

theorem eq_of_limit
    (search : Search function tolerance 0 index bracket records status)
    (wide : bracket.isWithin tolerance = false) :
    records = [] ∧ status = .iterationLimit := by
  cases search with
  | within within => simp [wide] at within
  | limit _ => exact ⟨rfl, rfl⟩

theorem exists_of_wide
    (search : Search function tolerance (remaining + 1) index bracket records
      status)
    (wide : bracket.isWithin tolerance = false) :
    ∃ record later, records = record :: later ∧
      Iteration function bracket index record ∧
      (record.residual.abs < tolerance ∧ later = [] ∧
          status = .residualConverged ∨
        ¬record.residual.abs < tolerance ∧
          Search function tolerance remaining (index + 1) record.narrowed
            later status) := by
  cases search with
  | within within => simp [wide] at within
  | converged _ made small =>
      exact ⟨_, _, rfl, made, .inl ⟨small, rfl, rfl⟩⟩
  | further _ made large rest =>
      exact ⟨_, _, rfl, made, .inr ⟨large, rest⟩⟩

/-- Two searches of opposite directions stay in step. -/
theorem mirrors
    (search : Search function tolerance remaining index bracket records status)
    (other : Search function tolerance remaining index bracket.reversed others
      otherStatus)
    (total : ∀ point, function point = .ok (value point))
    (positive : 0.0 < tolerance) {sign : SignType} (nonzero : sign ≠ 0)
    (start : bracket.Signed value sign (-sign))
    (regular : ∀ record ∈ records, Regular value record)
    (otherRegular : ∀ record ∈ others, Regular value record) :
    List.Forall₂ IterationRecord.Mirrors records others ∧
      otherStatus = status := by
  induction search generalizing others with
  | within within =>
      rw [← Bracket.isWithin_reversed] at within
      rcases other.eq_of_within within with ⟨rfl, rfl⟩
      exact ⟨.nil, rfl⟩
  | limit wide =>
      rw [← Bracket.isWithin_reversed] at wide
      rcases other.eq_of_limit wide with ⟨rfl, rfl⟩
      exact ⟨.nil, rfl⟩
  | converged wide made small =>
      rw [← Bracket.isWithin_reversed] at wide
      rcases other.exists_of_wide wide with
        ⟨record, later, rfl, otherMade, ended⟩
      rw [List.forall_mem_cons] at regular otherRegular
      have mirrors := made.mirrors otherMade total regular.1 otherRegular.1
        nonzero start
      rw [mirrors.residual] at ended
      rcases ended with ⟨-, rfl, rfl⟩ | ⟨large, -⟩
      · exact ⟨.cons mirrors .nil, rfl⟩
      · exact absurd small large
  | further wide made large rest induction =>
      rw [← Bracket.isWithin_reversed] at wide
      rcases other.exists_of_wide wide with
        ⟨record, later, rfl, otherMade, ended⟩
      rw [List.forall_mem_cons] at regular otherRegular
      have mirrors := made.mirrors otherMade total regular.1 otherRegular.1
        nonzero start
      rw [mirrors.residual] at ended
      rcases ended with ⟨small, -, -⟩ | ⟨-, otherRest⟩
      · exact absurd small large
      · -- A value of zero would have ended both searches.
        have away := fun zero => large (abs_lt_of_zero zero positive)
        have nonzeroResidual := Bool.eq_false_iff.mpr (mt beq_zero_iff.mp away)
        rw [mirrors.narrowed nonzeroResidual] at otherRest
        have next := made.signed_of_regular total regular.1 nonzero start away
        rcases induction otherRest next regular.2 otherRegular.2 with
          ⟨laterMirrors, sameStatus⟩
        exact ⟨.cons mirrors laterMirrors, sameStatus⟩

end Search

/-- Solutions of the same bounds in opposite orders. -/
structure Solution.Mirrors (solution other : Solution) : Prop where
  status : other.status = solution.status
  records :
    List.Forall₂ IterationRecord.Mirrors solution.records other.records

/-- Values of opposite signs pass the sign check. -/
theorem exists_solution_of_oppositeSigns {bounds : Bracket} {config : Config}
    (total : ∀ point, function point = .ok (value point))
    (opposite : OppositeSigns (value bounds.a) (value bounds.b)) :
    ∃ solution, solveUnobserved function bounds config = .ok solution := by
  rcases oppositeSigns_iff.mp opposite with ⟨sign, nonzero, left, right⟩
  refine exists_solution_of_total total ?_
  rw [zero_lt_iff]
  have negative : ∀ sign : SignType, sign ≠ 0 → sign * -sign = -1 := by
    decide
  rcases sign?_mul left right (.inl ⟨nonzero, by simpa using nonzero⟩) with
    product | zero
  · simp [product, negative sign nonzero]
  · simp [zero]

/-- Reversing the bounds mirrors a search that starts with opposite signs. -/
theorem reversed_bounds_mirror {bounds : Bracket} {config : Config}
    (total : ∀ point, function point = .ok (value point))
    (opposite : OppositeSigns (value bounds.a) (value bounds.b))
    (positive : 0.0 < config.tolerance) :
    ∃ solution other,
      solveUnobserved function bounds config = .ok solution ∧
      solveUnobserved function bounds.reversed config = .ok other ∧
      ((∀ record ∈ solution.records, Regular value record) →
        (∀ record ∈ other.records, Regular value record) →
        solution.Mirrors other) := by
  rcases oppositeSigns_iff.mp opposite with ⟨sign, nonzero, left, right⟩
  rcases exists_solution_of_oppositeSigns total opposite with
    ⟨solution, solved⟩
  have otherwise : OppositeSigns (value bounds.reversed.a)
      (value bounds.reversed.b) := opposite.symm
  rcases exists_solution_of_oppositeSigns total otherwise with
    ⟨other, otherSolved⟩
  refine ⟨solution, other, solved, otherSolved, fun regular otherRegular => ?_⟩
  have mirrors := (Search.of_solveUnobserved solved).mirrors
    (Search.of_solveUnobserved otherSolved) total positive nonzero
    ⟨left, right⟩ regular otherRegular
  exact ⟨mirrors.2, mirrors.1⟩

def shiftedLine (point : Float) : Float :=
  point - 0.25

/-- The second midpoint is the root, and counts as positive both ways. -/
theorem reversed_bounds_mirror_shiftedLine :
    let bounds : Bracket := ⟨0.0, 1.0⟩
    let config : Config := ⟨0.1, 10⟩
    let solution : Solution := ⟨[⟨1, ⟨0.0, 1.0⟩, 0.5, .negative, 0.25⟩,
      ⟨2, ⟨0.0, 0.5⟩, 0.25, .positive, 0.0⟩], .residualConverged⟩
    let other : Solution := ⟨[⟨1, ⟨1.0, 0.0⟩, 0.5, .positive, 0.25⟩,
      ⟨2, ⟨0.5, 0.0⟩, 0.25, .positive, 0.0⟩], .residualConverged⟩
    (∀ point,
        RealFunction.ofTotal shiftedLine point = .ok (shiftedLine point)) ∧
      OppositeSigns (shiftedLine bounds.a) (shiftedLine bounds.b) ∧
      0.0 < config.tolerance ∧
      solveUnobserved (.ofTotal shiftedLine) bounds config = .ok solution ∧
      solveUnobserved (.ofTotal shiftedLine) bounds.reversed config =
        .ok other ∧
      (∀ record ∈ solution.records, Regular shiftedLine record) ∧
      (∀ record ∈ other.records, Regular shiftedLine record) ∧
      solution.Mirrors other := by
  intro bounds config solution other
  have total (point : Float) :
      RealFunction.ofTotal shiftedLine point = .ok (shiftedLine point) := rfl
  have opposite : OppositeSigns (shiftedLine bounds.a)
      (shiftedLine bounds.b) := by
    decide +kernel
  have positive : 0.0 < config.tolerance := by decide +kernel
  have solved : solveUnobserved (.ofTotal shiftedLine) bounds config =
      .ok solution :=
    Outcome.eq_ok_of_toOption (by decide +kernel)
  have otherSolved : solveUnobserved (.ofTotal shiftedLine) bounds.reversed
      config = .ok other :=
    Outcome.eq_ok_of_toOption (by decide +kernel)
  have regular : ∀ record ∈ solution.records, Regular shiftedLine record := by
    simp only [solution, List.forall_mem_cons]
    refine ⟨⟨?_, ?_⟩, ⟨?_, ?_⟩, List.forall_mem_nil _⟩ <;> decide +kernel
  have otherRegular : ∀ record ∈ other.records,
      Regular shiftedLine record := by
    simp only [other, List.forall_mem_cons]
    refine ⟨⟨?_, ?_⟩, ⟨?_, ?_⟩, List.forall_mem_nil _⟩ <;> decide +kernel
  rcases reversed_bounds_mirror total opposite positive with
    ⟨found, otherFound, foundSolved, otherFoundSolved, mirrors⟩
  rw [solved, Except.ok.injEq] at foundSolved
  rw [otherSolved, Except.ok.injEq] at otherFoundSolved
  subst foundSolved otherFoundSolved
  exact ⟨total, opposite, positive, solved, otherSolved, regular,
    otherRegular, mirrors regular otherRegular⟩

end Bisection

end RootFinding
