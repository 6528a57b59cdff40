import RootFinding.Proofs.Order
import RootFinding.Proofs.Symmetry
import RootFinding.Proofs.Bisection.Specification

/-! Tolerances that are not positive. No value is small enough for them, and
only a bracket whose ends have met, or whose width is undefined, is narrow
enough. All other searches use up their iterations. -/

namespace RootFinding

section Sizes

variable {value tolerance : Float}

theorem abs_cases (value : Float) :
    value.abs.isNaN = true ∨ value.abs = 0.0 ∨ 0.0 < value.abs := by
  rw [isNaN_iff, zero_lt_iff, sign?, unpack_abs]
  cases unpacked : value.toModel.unpack with
  | notANumber => exact .inl rfl
  | zero sign =>
      have packed := ofModel_pack_unpack value.abs
      rw [unpack_abs, unpacked] at packed
      exact .inr (.inl packed.symm)
  | infinity sign => exact .inr (.inr rfl)
  | finite sign mantissa exponent positive => exact .inr (.inr rfl)

theorem not_abs_lt_of_nonpositive (nonpositive : tolerance ≤ 0.0) :
    ¬value.abs < tolerance := by
  intro small
  have negative := float_lt_of_lt_of_le small nonpositive
  rw [lt_zero_iff] at negative
  rcases abs_cases value with undefined | zero | positive
  · rw [isNaN_iff, negative] at undefined
    cases undefined
  · rw [zero] at negative
    exact absurd negative (by decide)
  · rw [zero_lt_iff, negative] at positive
    cases positive

/-- A size that is not above the tolerance is undefined, or is zero as the
tolerance is. -/
theorem isNaN_or_eq_zero_of_not_lt_abs (nonpositive : tolerance ≤ 0.0)
    (within : ¬tolerance < value.abs) :
    value.abs.isNaN = true ∨ value.abs = 0.0 ∧ ¬tolerance < 0.0 := by
  rcases abs_cases value with undefined | zero | positive
  · exact .inl undefined
  · rw [zero] at within
    exact .inr ⟨zero, within⟩
  · exact absurd (float_lt_of_le_of_lt nonpositive positive) within

end Sizes

namespace Bisection

variable {ε : Type} {function : RealFunction ε} {bounds : Bracket}
  {config : Config} {solution : Solution}

theorem Settles.widthConverged_or_full {tolerance : Float} {limit : Nat}
    {records : List IterationRecord} {status : Status}
    (settles : Settles tolerance limit bounds records status)
    (large : ¬EndsSmall tolerance records) :
    status = .widthConverged ∧ ¬tolerance < (bounds.after records).width ∨
      status = .iterationLimit ∧ records.length = limit := by
  by_cases wide : tolerance < (bounds.after records).width
  · have limited := settles.iterationLimit.2 ⟨large, wide⟩
    exact .inr ⟨limited, settles.full limited⟩
  · exact .inl ⟨settles.widthConverged.2 ⟨large, wide⟩, wide⟩

/-- A solution that no test on values ends, and the test on widths only where
a bracket is degenerate. The widths of a search are those of the bounds and of
the brackets that its records leave. -/
structure LastsToLimit (bounds : Bracket) (config : Config)
    (solution : Solution) : Prop where
  large : solution.status ≠ .residualConverged
  negative : config.tolerance < 0.0 →
    (∀ made ≤ solution.records.length,
      (bounds.after (solution.records.take made)).width.isNaN = false) →
    solution.records.length = config.maxIterations ∧
      solution.status = .iterationLimit
  zero : (config.tolerance == 0.0) = true →
    solution.records.length < config.maxIterations →
    ((bounds.after solution.records).width = 0.0 ∨
        (bounds.after solution.records).width.isNaN = true) ∧
      solution.status = .widthConverged

theorem nonpositive_tolerance_lasts {atA atB : Float}
    (total : ∀ point, ∃ value, function point = .ok value)
    (accepted : checkSignChange function bounds = .ok (atA, atB))
    (nonpositive : config.tolerance ≤ 0.0) :
    ∃ solution, solveUnobserved function bounds config = .ok solution ∧
      LastsToLimit bounds config solution := by
  have succeeds : ∃ solution,
      solveUnobserved function bounds config = .ok solution :=
    exists_solution_of_accepted total accepted
  rcases succeeds with ⟨solution, solved⟩
  refine ⟨solution, solved, ?_⟩
  have describes : Describes function bounds config (.ok solution) :=
    solved ▸ describes_solveUnobserved
  rcases describes with _ | _ | _ | _ | ⟨-, -, -, -, settles⟩
  have large : ¬EndsSmall config.tolerance solution.records := by
    rintro ⟨last, -, small⟩
    exact not_abs_lt_of_nonpositive nonpositive small
  have ended := settles.widthConverged_or_full large
  constructor
  case large => exact fun small => large (settles.residualConverged.1 small)
  case negative =>
      intro negative defined
      rcases ended with ⟨-, within⟩ | ⟨limited, full⟩
      · have number := defined _ le_rfl
        rw [List.take_length] at number
        rcases isNaN_or_eq_zero_of_not_lt_abs nonpositive within with
          undefined | ⟨-, notBelow⟩
        · rw [Bracket.width, undefined] at number
          cases number
        · exact absurd negative notBelow
      · exact ⟨full, limited⟩
  case zero =>
      intro _ fewer
      rcases ended with ⟨converged, within⟩ | ⟨-, full⟩
      · refine ⟨?_, converged⟩
        rcases isNaN_or_eq_zero_of_not_lt_abs nonpositive within with
          undefined | ⟨zero, -⟩
        · exact .inr undefined
        · exact .inl zero
      · exact absurd full fewer.ne

/-- The least positive float and zero have zero for their midpoint. -/
theorem nonpositive_tolerance_lasts_leastBracket :
    let function : RealFunction Empty := .ofTotal id
    let bounds : Bracket := ⟨5e-324, 0.0⟩
    let record : IterationRecord := ⟨1, bounds, 0.0, .positive, 0.0⟩
    let next : IterationRecord := ⟨2, ⟨0.0, 0.0⟩, 0.0, .positive, 0.0⟩
    (∀ point, ∃ value, function point = .ok value) ∧
      checkSignChange function bounds = .ok (5e-324, 0.0) ∧
      (-0.0 : Float) ≤ 0.0 ∧ (-1.0 : Float) ≤ 0.0 ∧
      (solveUnobserved function bounds ⟨-0.0, 2⟩ =
          .ok ⟨[record], .widthConverged⟩ ∧
        LastsToLimit bounds ⟨-0.0, 2⟩ ⟨[record], .widthConverged⟩) ∧
      (solveUnobserved function bounds ⟨-1.0, 2⟩ =
          .ok ⟨[record, next], .iterationLimit⟩ ∧
        LastsToLimit bounds ⟨-1.0, 2⟩ ⟨[record, next], .iterationLimit⟩) := by
  intro function bounds record next
  have total (point : Float) : ∃ value, function point = .ok value :=
    ⟨point, rfl⟩
  have accepted : checkSignChange function bounds = .ok (5e-324, 0.0) :=
    Outcome.eq_ok_of_toOption (by decide +kernel)
  have lasts {tolerance : Float} {solution : Solution}
      (nonpositive : tolerance ≤ 0.0)
      (solved : solveUnobserved function bounds ⟨tolerance, 2⟩ =
        .ok solution) :
      LastsToLimit bounds ⟨tolerance, 2⟩ solution := by
    have made : ∃ found,
        solveUnobserved function bounds ⟨tolerance, 2⟩ = .ok found ∧
          LastsToLimit bounds ⟨tolerance, 2⟩ found :=
      nonpositive_tolerance_lasts total accepted nonpositive
    rcases made with ⟨found, foundSolved, lasts⟩
    rw [solved, Except.ok.injEq] at foundSolved
    exact foundSolved ▸ lasts
  have zero : (-0.0 : Float) ≤ 0.0 := by decide +kernel
  have negative : (-1.0 : Float) ≤ 0.0 := by decide +kernel
  have first : solveUnobserved function bounds ⟨-0.0, 2⟩ =
      .ok ⟨[record], .widthConverged⟩ :=
    Outcome.eq_ok_of_toOption (by decide +kernel)
  have second : solveUnobserved function bounds ⟨-1.0, 2⟩ =
      .ok ⟨[record, next], .iterationLimit⟩ :=
    Outcome.eq_ok_of_toOption (by decide +kernel)
  exact ⟨total, accepted, zero, negative, ⟨first, lasts zero first⟩,
    second, lasts negative second⟩

end Bisection

end RootFinding
