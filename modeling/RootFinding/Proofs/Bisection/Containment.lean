import RootFinding.Proofs.Arithmetic
import RootFinding.Proofs.Bisection.Search

/-! The interval that a search stays in. A midpoint lies between the ends of
its bracket, unless the sum of the ends is past the largest float: then it is
not even finite, and neither is any midpoint after it. -/

namespace RootFinding

/-! Midpoints as numbers. -/

namespace Unpacked

/-- Rounding the sum and the half of it stays between the two numbers. -/
theorem rounded_midpoint_mem {a b : ℚ} (leftIs : IsRepresentable a)
    (rightIs : IsRepresentable b) :
    rounded (rounded (a + b) / 2) ∈ Set.uIcc a b := by
  have between {low high : ℚ} (lowIs : IsRepresentable low)
      (highIs : IsRepresentable high) (ordered : low ≤ high) :
      low ≤ rounded (rounded (low + high) / 2) ∧
        rounded (rounded (low + high) / 2) ≤ high := by
    have least : rounded (2 * low) ≤ rounded (low + high) :=
      rounded_mono (by linarith)
    have greatest : rounded (low + high) ≤ rounded (2 * high) :=
      rounded_mono (by linarith)
    rw [lowIs.two_mul.rounded_eq] at least
    rw [highIs.two_mul.rounded_eq] at greatest
    constructor
    · refine le_of_eq_of_le lowIs.rounded_eq.symm (rounded_mono ?_)
      linarith
    · refine le_of_le_of_eq (rounded_mono ?_) highIs.rounded_eq
      linarith
  rw [Set.mem_uIcc]
  rcases le_total a b with rising | falling
  · exact .inl (between leftIs rightIs rising)
  · rw [add_comm a b]
    exact .inr (between rightIs leftIs falling)

end Unpacked

namespace Bracket

/-- The numbers that the ends of a finite bracket stand for. -/
structure StandsFor (bracket : Bracket) (a b : ℚ) : Prop where
  a : rational? bracket.a = some a
  b : rational? bracket.b = some b

theorem exists_standsFor {bracket : Bracket}
    (finiteA : bracket.a.isFinite = true)
    (finiteB : bracket.b.isFinite = true) :
    ∃ a b, bracket.StandsFor a b := by
  rcases isFinite_iff_rational?.1 finiteA with ⟨a, isA⟩
  rcases isFinite_iff_rational?.1 finiteB with ⟨b, isB⟩
  exact ⟨a, b, isA, isB⟩

/-- The ends are finite, and their sum is not rounded to an infinity. -/
def SumFits (bracket : Bracket) : Prop :=
  ∃ a b, bracket.StandsFor a b ∧ |a + b| < 2 ^ 1024 - 2 ^ 970

/-- The point is finite and between the ends, whichever of them is less. -/
structure Contains (bracket : Bracket) (point : Float) : Prop where
  finite : point.isFinite = true
  between : bracket.a ≤ point ∧ point ≤ bracket.b ∨
    bracket.b ≤ point ∧ point ≤ bracket.a

section Ends

variable {outer bracket : Bracket} {point : Float} {a b low high number : ℚ}

theorem StandsFor.contains_iff (ends : bracket.StandsFor a b)
    (isNumber : rational? point = some number) :
    bracket.Contains point ↔ number ∈ Set.uIcc a b := by
  rw [Set.mem_uIcc, ← le_iff_rational ends.a isNumber,
    ← le_iff_rational isNumber ends.b, ← le_iff_rational ends.b isNumber,
    ← le_iff_rational isNumber ends.a]
  have finite : point.isFinite = true :=
    isFinite_iff_rational?.2 ⟨number, isNumber⟩
  exact ⟨Contains.between, fun between => ⟨finite, between⟩⟩

theorem StandsFor.contains_ends (ends : bracket.StandsFor a b) :
    bracket.Contains bracket.a ∧ bracket.Contains bracket.b :=
  ⟨(ends.contains_iff ends.a).2 Set.left_mem_uIcc,
    (ends.contains_iff ends.b).2 Set.right_mem_uIcc⟩

theorem StandsFor.midpoint (ends : bracket.StandsFor a b)
    (fits : |a + b| < 2 ^ 1024 - 2 ^ 970) :
    rational? bracket.midpoint =
      some (Unpacked.rounded (Unpacked.rounded (a + b) / 2)) := by
  have sum : rational? (bracket.a + bracket.b) =
      some (Unpacked.rounded (a + b)) := by
    rw [rational?_add ends.a ends.b, Unpacked.bounded?,
      if_pos (Unpacked.abs_rounded_lt_limit_iff.2 fits)]
  exact rational?_half sum

theorem SumFits.contains_midpoint (fits : bracket.SumFits) :
    bracket.Contains bracket.midpoint := by
  rcases fits with ⟨a, b, ends, fits⟩
  rw [ends.contains_iff (ends.midpoint fits)]
  exact Unpacked.rounded_midpoint_mem (isRepresentable_of_rational? ends.a)
    (isRepresentable_of_rational? ends.b)

theorem rational?_midpoint_eq_none (overflow : ¬bracket.SumFits) :
    rational? bracket.midpoint = none := by
  refine rational?_div_none 2.0 ?_
  cases isA : rational? bracket.a with
  | none => exact rational?_add_none (.inl isA)
  | some a =>
      cases isB : rational? bracket.b with
      | none => exact rational?_add_none (.inr isB)
      | some b =>
          have large : ¬|a + b| < 2 ^ 1024 - 2 ^ 970 :=
            fun fits => overflow ⟨a, b, ⟨isA, isB⟩, fits⟩
          rw [rational?_add isA isB, Unpacked.bounded?,
            if_neg (mt Unpacked.abs_rounded_lt_limit_iff.1 large)]

/-- The midpoint tells whether the sum of the ends fits. -/
theorem sumFits_iff :
    bracket.SumFits ↔ bracket.midpoint.isFinite = true := by
  refine ⟨fun fits => fits.contains_midpoint.finite, fun finite => ?_⟩
  by_contra overflow
  rcases isFinite_iff_rational?.1 finite with ⟨number, isNumber⟩
  rw [rational?_midpoint_eq_none overflow] at isNumber
  cases isNumber

theorem SumFits.finite_ends (fits : bracket.SumFits) :
    bracket.a.isFinite = true ∧ bracket.b.isFinite = true := by
  rcases fits with ⟨a, b, ends, -⟩
  exact ⟨isFinite_iff_rational?.2 ⟨a, ends.a⟩,
    isFinite_iff_rational?.2 ⟨b, ends.b⟩⟩

theorem Contains.trans (outerEnds : outer.StandsFor low high)
    (containsA : outer.Contains bracket.a)
    (containsB : outer.Contains bracket.b) (inside : bracket.Contains point) :
    outer.Contains point := by
  rcases exists_standsFor containsA.finite containsB.finite with ⟨a, b, ends⟩
  rcases isFinite_iff_rational?.1 inside.finite with ⟨number, isNumber⟩
  rw [outerEnds.contains_iff ends.a] at containsA
  rw [outerEnds.contains_iff ends.b] at containsB
  rw [ends.contains_iff isNumber] at inside
  rw [outerEnds.contains_iff isNumber]
  exact Set.uIcc_subset_uIcc containsA containsB inside

end Ends

end Bracket

/-! Brackets whose ends are small enough for any sum between them. -/

def largestFloat : Float :=
  1.7976931348623157e308

theorem rational?_half_largestFloat :
    rational? (largestFloat / 2.0) =
      some ((2 ^ 53 - 1) / 2 * 2 ^ (971 : ℤ)) := by
  decide +kernel

/-- Neither end is above half of the largest float in size. -/
structure Bracket.Moderate (bracket : Bracket) : Prop where
  a : bracket.a.abs ≤ largestFloat / 2.0
  b : bracket.b.abs ≤ largestFloat / 2.0

section Moderate

variable {outer bracket : Bracket} {a b low high : ℚ}

theorem Bracket.StandsFor.moderate_iff (ends : bracket.StandsFor a b) :
    bracket.Moderate ↔ |a| ≤ (2 ^ 53 - 1) / 2 * 2 ^ (971 : ℤ) ∧
      |b| ≤ (2 ^ 53 - 1) / 2 * 2 ^ (971 : ℤ) := by
  rw [← le_iff_rational (rational?_abs ends.a) rational?_half_largestFloat,
    ← le_iff_rational (rational?_abs ends.b) rational?_half_largestFloat]
  exact ⟨fun moderate => ⟨moderate.a, moderate.b⟩,
    fun ⟨a, b⟩ => ⟨a, b⟩⟩

theorem Bracket.Moderate.inside (moderate : outer.Moderate)
    (outerEnds : outer.StandsFor low high)
    (containsA : outer.Contains bracket.a)
    (containsB : outer.Contains bracket.b) : bracket.Moderate := by
  rcases exists_standsFor containsA.finite containsB.finite with ⟨a, b, ends⟩
  rw [outerEnds.moderate_iff, abs_le, abs_le] at moderate
  rw [outerEnds.contains_iff ends.a] at containsA
  rw [outerEnds.contains_iff ends.b] at containsB
  rw [ends.moderate_iff, abs_le, abs_le]
  have within := Set.uIcc_subset_Icc moderate.1 moderate.2
  exact ⟨within containsA, within containsB⟩

theorem Bracket.Moderate.sizes_fit (moderate : bracket.Moderate)
    (ends : bracket.StandsFor a b) : |a| + |b| < 2 ^ 1024 - 2 ^ 970 := by
  rw [ends.moderate_iff] at moderate
  have unit : (0 : ℚ) < 2 ^ (971 : ℤ) := by positivity
  rw [Unpacked.two_pow_half_place, Unpacked.two_pow_limit, ← sub_mul]
  calc |a| + |b| ≤ (2 ^ 53 - 1) * 2 ^ (971 : ℤ) := by linarith
    _ < (2 ^ 53 - 1 / 2) * 2 ^ (971 : ℤ) :=
      mul_lt_mul_of_pos_right (by norm_num) unit

theorem Bracket.Moderate.sumFits (moderate : bracket.Moderate)
    (ends : bracket.StandsFor a b) : bracket.SumFits :=
  ⟨a, b, ends, (abs_add_le a b).trans_lt (moderate.sizes_fit ends)⟩

end Moderate

/-- The bracket and the midpoint of the record are within the bounds. -/
structure IterationRecord.Inside (record : IterationRecord) (bounds : Bracket) :
    Prop where
  a : bounds.Contains record.bracket.a
  b : bounds.Contains record.bracket.b
  midpoint : bounds.Contains record.midpoint

namespace Bisection

variable {ε : Type} {function : RealFunction ε} {value : Float → Float}
  {tolerance : Float}

section Iteration

variable {outer bracket : Bracket} {index : Nat} {record : IterationRecord}
  {low high : ℚ}

theorem Iteration.inside (made : Iteration function bracket index record)
    (outerEnds : outer.StandsFor low high) (a : outer.Contains bracket.a)
    (b : outer.Contains bracket.b) (fits : bracket.SumFits) :
    record.Inside outer where
  a := made.searched ▸ a
  b := made.searched ▸ b
  midpoint := made.midpoint_eq ▸ .trans outerEnds a b fits.contains_midpoint

/-- A midpoint that is not finite becomes an end of the next bracket. -/
theorem Iteration.not_sumFits_narrowed
    (made : Iteration function bracket index record)
    (overflow : ¬bracket.SumFits) : ¬record.narrowed.SumFits := by
  intro fits
  rcases fits.finite_ends with ⟨finiteA, finiteB⟩
  rw [Bracket.sumFits_iff, ← made.midpoint_eq] at overflow
  rcases record.midpoint_mem_narrowed with same | same
  · exact overflow (same ▸ finiteA)
  · exact overflow (same ▸ finiteB)

end Iteration

namespace Search

variable {remaining index : Nat} {outer bracket : Bracket}
  {records : List IterationRecord} {status : Status} {low high : ℚ}

theorem not_sumFits
    (search : Search function tolerance remaining index bracket records status)
    (overflow : ¬bracket.SumFits) :
    ∀ record ∈ records, ¬record.bracket.SumFits := by
  refine search.forall_records (fun inner => ¬inner.SumFits) overflow
    fun record _ _ _ made standing =>
      ⟨?_, made.not_sumFits_narrowed standing⟩
  rwa [made.searched]

theorem overflow_lasts
    (search : Search function tolerance remaining index bracket records
      status) :
    records.Pairwise fun earlier later =>
      ¬earlier.bracket.SumFits → ¬later.bracket.SumFits := by
  induction search with
  | within _ => exact .nil
  | limit _ => exact .nil
  | converged _ _ _ => exact List.pairwise_singleton ..
  | further _ made _ rest induction =>
      refine .cons (fun later member overflow => ?_) induction
      rw [made.searched] at overflow
      exact rest.not_sumFits (made.not_sumFits_narrowed overflow) later member

theorem inside_of_sumFits
    (search : Search function tolerance remaining index bracket records status)
    (outerEnds : outer.StandsFor low high) (a : outer.Contains bracket.a)
    (b : outer.Contains bracket.b) :
    ∀ record ∈ records, record.bracket.SumFits → record.Inside outer := by
  refine search.forall_records
    (fun inner => inner.SumFits →
      outer.Contains inner.a ∧ outer.Contains inner.b)
    (fun _ => ⟨a, b⟩) fun record _ inner _ made standing => ?_
  rw [made.searched]
  -- Where the sum does not fit, it does not fit in any later record, and
  -- nothing is left to show.
  by_cases fits : inner.SumFits
  · rcases standing fits with ⟨innerA, innerB⟩
    have inside := made.inside outerEnds innerA innerB fits
    exact ⟨fun _ => inside, fun _ =>
      IterationRecord.narrowed_ends inside.a inside.b inside.midpoint⟩
  · exact ⟨fun own => absurd own fits,
      fun next => absurd next (made.not_sumFits_narrowed fits)⟩

/-- No midpoint leaves moderate bounds. -/
theorem inside_of_moderate
    (search : Search function tolerance remaining index bracket records status)
    (outerEnds : outer.StandsFor low high) (moderate : outer.Moderate)
    (a : outer.Contains bracket.a) (b : outer.Contains bracket.b) :
    ∀ record ∈ records, record.Inside outer := by
  refine search.forall_records
    (fun inner => outer.Contains inner.a ∧ outer.Contains inner.b) ⟨a, b⟩
    fun record _ inner _ made ⟨innerA, innerB⟩ => ?_
  rcases Bracket.exists_standsFor innerA.finite innerB.finite with
    ⟨_, _, innerEnds⟩
  have fits : inner.SumFits :=
    (moderate.inside outerEnds innerA innerB).sumFits innerEnds
  have inside := made.inside outerEnds innerA innerB fits
  exact ⟨inside,
    IterationRecord.narrowed_ends inside.a inside.b inside.midpoint⟩

end Search

/-- A search whose records are within the bounds up to the first sum of ends
that overflows, and whose midpoints are not finite from there on. -/
structure LeavesByOverflow (bounds : Bracket)
    (records : List IterationRecord) : Prop where
  inside : ∀ record ∈ records,
    record.Inside bounds ↔ record.bracket.SumFits
  midpoint : ∀ record ∈ records,
    ¬record.bracket.SumFits → record.midpoint.isFinite = false
  lasts : records.Pairwise fun earlier later =>
    ¬earlier.bracket.SumFits → ¬later.bracket.SumFits
  moderate : bounds.Moderate → ∀ record ∈ records, record.Inside bounds

theorem inside_bounds_until_overflow {bounds : Bracket} {config : Config}
    {atA atB : Float} (total : ∀ point, function point = .ok (value point))
    (finiteA : bounds.a.isFinite = true) (finiteB : bounds.b.isFinite = true)
    (accepted : checkSignChange function bounds = .ok (atA, atB)) :
    ∃ solution, solveUnobserved function bounds config = .ok solution ∧
      LeavesByOverflow bounds solution.records := by
  have solves : ∃ solution,
      solveUnobserved function bounds config = .ok solution :=
    exists_solution_of_accepted (fun point => ⟨_, total point⟩) accepted
  rcases solves with ⟨solution, solved⟩
  rcases Bracket.exists_standsFor finiteA finiteB with ⟨a, b, ends⟩
  rcases ends.contains_ends with ⟨containsA, containsB⟩
  have search := Search.of_solveUnobserved solved
  have finite_iff (record) (member : record ∈ solution.records) :
      record.bracket.SumFits ↔ record.midpoint.isFinite = true := by
    rw [Bracket.sumFits_iff, search.midpoint_eq record member]
  refine ⟨solution, solved, ?_⟩
  constructor
  case inside =>
      intro record member
      refine ⟨fun inside => ?_, search.inside_of_sumFits ends containsA
        containsB record member⟩
      exact (finite_iff record member).2 inside.midpoint.finite
  case midpoint =>
      intro record member overflow
      rwa [finite_iff record member, Bool.not_eq_true] at overflow
  case lasts => exact search.overflow_lasts
  case moderate =>
      exact fun moderate =>
        search.inside_of_moderate ends moderate containsA containsB

def farLine (point : Float) : Float :=
  point - 1.6e308

theorem inside_bounds_until_overflow_farLine :
    let bounds : Bracket := ⟨0.0, 1.7e308⟩
    let config : Config := ⟨1e-4, 2⟩
    let solution : Solution :=
      ⟨[⟨1, ⟨0.0, 1.7e308⟩, 0.85e308, .positive, -0.75e308⟩,
        ⟨2, ⟨0.85e308, 1.7e308⟩, 1.0 / 0.0, .negative, 1.0 / 0.0⟩],
        .iterationLimit⟩
    (∀ point, RealFunction.ofTotal farLine point = .ok (farLine point)) ∧
      bounds.a.isFinite = true ∧ bounds.b.isFinite = true ∧
      checkSignChange (.ofTotal farLine) bounds =
        .ok (farLine bounds.a, farLine bounds.b) ∧
      solveUnobserved (.ofTotal farLine) bounds config = .ok solution ∧
      LeavesByOverflow bounds solution.records := by
  intro bounds config solution
  have total (point : Float) :
      RealFunction.ofTotal farLine point = .ok (farLine point) := rfl
  have finiteA : bounds.a.isFinite = true := by decide +kernel
  have finiteB : bounds.b.isFinite = true := by decide +kernel
  have accepted : checkSignChange (.ofTotal farLine) bounds =
      .ok (farLine bounds.a, farLine bounds.b) :=
    Outcome.eq_ok_of_toOption (by decide +kernel)
  have solved : solveUnobserved (.ofTotal farLine) bounds config =
      .ok solution :=
    Outcome.eq_ok_of_toOption (by decide +kernel)
  rcases inside_bounds_until_overflow total finiteA finiteB accepted with
    ⟨found, foundSolved, leaves⟩
  rw [solved, Except.ok.injEq] at foundSolved
  subst foundSolved
  exact ⟨total, finiteA, finiteB, accepted, solved, leaves⟩

/-- The sum of two floats above half of the largest one overflows. -/
theorem inside_bounds_not_always :
    ¬∀ (value : Float → Float) (bounds : Bracket) (config : Config),
      bounds.a.isFinite = true → bounds.b.isFinite = true →
      ∀ values, checkSignChange (.ofTotal value) bounds = .ok values →
      ∀ solution, solveUnobserved (.ofTotal value) bounds config =
        .ok solution →
      ∀ record ∈ solution.records, record.Inside bounds := by
  intro always
  let bounds : Bracket := ⟨0.0, 1.7e308⟩
  let config : Config := ⟨1e-4, 2⟩
  let second : IterationRecord :=
    ⟨2, ⟨0.85e308, 1.7e308⟩, 1.0 / 0.0, .negative, 1.0 / 0.0⟩
  let solution : Solution :=
    ⟨[⟨1, ⟨0.0, 1.7e308⟩, 0.85e308, .positive, -0.75e308⟩, second],
      .iterationLimit⟩
  have accepted : checkSignChange (.ofTotal farLine) bounds =
      .ok (farLine bounds.a, farLine bounds.b) :=
    Outcome.eq_ok_of_toOption (by decide +kernel)
  have solved : solveUnobserved (.ofTotal farLine) bounds config =
      .ok solution :=
    Outcome.eq_ok_of_toOption (by decide +kernel)
  have inside := always farLine bounds config (by decide +kernel)
    (by decide +kernel) _ accepted solution solved second
    (List.mem_cons_of_mem _ (List.mem_cons_self ..))
  have infinite : second.midpoint.isFinite = false := by decide +kernel
  rw [inside.midpoint.finite] at infinite
  cases infinite

end Bisection

end RootFinding
