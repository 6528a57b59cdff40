import RootFinding.Proofs.Bisection.Containment
import RootFinding.Proofs.Bisection.SignChange
import RootFinding.Proofs.Bisection.Specification

/-! Searches without rounding. Every bracket is half as wide as the one before
it, and so the tolerance bounds the number of iterations. -/

namespace RootFinding

namespace Bracket

variable {bracket : Bracket} {a b : ℚ}

/-- The midpoint is computed without rounding. -/
def ExactMidpoint (bracket : Bracket) : Prop :=
  ∃ a b, bracket.StandsFor a b ∧
    rational? bracket.midpoint = some ((a + b) / 2)

/-- The width is computed without rounding. -/
def ExactWidth (bracket : Bracket) : Prop :=
  ∃ a b, bracket.StandsFor a b ∧ rational? bracket.width = some |b - a|

theorem StandsFor.unique {left right : ℚ} (ends : bracket.StandsFor a b)
    (other : bracket.StandsFor left right) : left = a ∧ right = b :=
  ⟨Option.some.inj (other.a.symm.trans ends.a),
    Option.some.inj (other.b.symm.trans ends.b)⟩

theorem ExactMidpoint.eq (exact : bracket.ExactMidpoint)
    (ends : bracket.StandsFor a b) :
    rational? bracket.midpoint = some ((a + b) / 2) := by
  rcases exact with ⟨left, right, other, isMidpoint⟩
  rcases ends.unique other with ⟨rfl, rfl⟩
  exact isMidpoint

theorem ExactWidth.eq (exact : bracket.ExactWidth)
    (ends : bracket.StandsFor a b) :
    rational? bracket.width = some |b - a| := by
  rcases exact with ⟨left, right, other, isWidth⟩
  rcases ends.unique other with ⟨rfl, rfl⟩
  exact isWidth

theorem after_take_succ {bounds : Bracket} {records : List IterationRecord}
    {count : ℕ} (below : count < records.length) :
    bounds.after (records.take (count + 1)) = records[count].narrowed := by
  rw [← List.take_append_getElem below, after, List.getLast?_append]
  rfl

end Bracket

namespace Bisection

variable {ε : Type} {function : RealFunction ε} {tolerance : Float}

/-- Either half of a bracket has half of its width. -/
theorem Iteration.exists_half {bracket : Bracket} {index : ℕ}
    {record : IterationRecord} {a b : ℚ}
    (made : Iteration function bracket index record)
    (ends : bracket.StandsFor a b) (exact : bracket.ExactMidpoint) :
    ∃ left right, record.narrowed.StandsFor left right ∧
      |right - left| = |b - a| / 2 := by
  have middle : rational? record.midpoint = some ((a + b) / 2) := by
    rw [made.midpoint_eq, exact.eq ends]
  have half : |(b - a) / 2| = |b - a| / 2 := by
    rw [abs_div, abs_two]
  unfold IterationRecord.narrowed
  rw [made.searched]
  cases record.sign with
  | negative =>
      refine ⟨a, (a + b) / 2, ⟨ends.a, middle⟩, ?_⟩
      rw [← half]
      congr 1
      ring
  | positive =>
      refine ⟨(a + b) / 2, b, ⟨middle, ends.b⟩, ?_⟩
      rw [← half]
      congr 1
      ring

section Run

variable {index : ℕ} {bounds : Bracket} {records : List IterationRecord}
  {a b : ℚ}

/-- Each of the records halves what the bounds span. -/
theorem Consecutive.exists_span
    (made : Consecutive function tolerance index bounds records)
    (ends : bounds.StandsFor a b)
    (midpoints : ∀ record ∈ records, record.bracket.ExactMidpoint)
    (count : ℕ) (atMost : count ≤ records.length) :
    ∃ left right, (bounds.after (records.take count)).StandsFor left right ∧
      |right - left| = |b - a| / 2 ^ count := by
  induction count with
  | zero => exact ⟨a, b, ends, by rw [pow_zero, div_one]⟩
  | succ count induction =>
      have iteration := made.iteration count atMost
      have exact := midpoints _ (List.getElem_mem atMost)
      rw [iteration.searched] at exact
      rcases induction (Nat.le_of_succ_le atMost) with
        ⟨left, right, standing, span⟩
      rcases iteration.exists_half standing exact with
        ⟨nextLeft, nextRight, next, half⟩
      rw [Bracket.after_take_succ atMost]
      refine ⟨nextLeft, nextRight, next, ?_⟩
      rw [half, span, div_div, ← pow_succ]

theorem Consecutive.width_eq
    (made : Consecutive function tolerance index bounds records)
    (ends : bounds.StandsFor a b)
    (midpoints : ∀ record ∈ records, record.bracket.ExactMidpoint)
    (widths : ∀ record ∈ records, record.bracket.ExactWidth)
    (count : ℕ) (below : count < records.length) :
    rational? records[count].width = some (|b - a| / 2 ^ count) := by
  have iteration := made.iteration count below
  have exact := widths _ (List.getElem_mem below)
  rcases made.exists_span ends midpoints count below.le with
    ⟨left, right, standing, span⟩
  rw [← iteration.searched] at standing
  rw [IterationRecord.width, exact.eq standing, span]

end Run

/-- Records that halve the width `span` of the bounds one after another, and
stop at the first that the tolerance allows. -/
structure Halves (span tolerance : ℚ) (limit : ℕ) (solution : Solution) :
    Prop where
  index : ∀ made (below : made < solution.records.length),
    solution.records[made].index = made + 1
  width : ∀ made (below : made < solution.records.length),
    rational? solution.records[made].width = some (span / 2 ^ made)
  count : ∀ count, span / 2 ^ count ≤ tolerance →
    solution.records.length ≤ count
  status : ∀ count ≤ limit, span / 2 ^ count ≤ tolerance →
    solution.status ≠ .iterationLimit

/-- The widths that a search computes are those of its records, and of the
bracket that is left unless a small value ends the search. -/
theorem exact_search_halves {bounds : Bracket} {config : Config}
    {solution : Solution} {a b bound : ℚ}
    (solved : solveUnobserved function bounds config = .ok solution)
    (ends : bounds.StandsFor a b)
    (tolerance : rational? config.tolerance = some bound)
    (midpoints : ∀ record ∈ solution.records, record.bracket.ExactMidpoint)
    (widths : ∀ record ∈ solution.records, record.bracket.ExactWidth)
    (final : solution.status ≠ .residualConverged →
      (bounds.after solution.records).ExactWidth) :
    Halves |b - a| bound config.maxIterations solution := by
  have describes : Describes function bounds config (.ok solution) :=
    solved ▸ describes_solveUnobserved
  rcases describes with _ | _ | _ | _ | ⟨-, -, -, made, settles⟩
  have width := made.width_eq ends midpoints widths
  have shorter (count : ℕ) (within : |b - a| / 2 ^ count ≤ bound) :
      solution.records.length ≤ count := by
    by_contra more
    have below : count < solution.records.length := not_le.1 more
    have wide : config.tolerance < solution.records[count].width :=
      made.wide _ (List.getElem_mem below)
    rw [lt_iff_rational tolerance (width count below)] at wide
    exact wide.not_ge within
  constructor
  case index =>
      intro count below
      rw [(made.iteration count below).index, add_comm]
  case width => exact width
  case count => exact shorter
  case status =>
      intro count allowed within limit
      -- The limit is reached when the last width that is tested is the first
      -- that is narrow enough.
      have full : count = solution.records.length :=
        le_antisymm (settles.full limit ▸ allowed) (shorter count within)
      rcases made.exists_span ends midpoints _ le_rfl with
        ⟨left, right, standing, span⟩
      rw [List.take_length] at standing
      have isWidth := (final (by rw [limit]; nofun)).eq standing
      have wide : config.tolerance < (bounds.after solution.records).width :=
        (settles.iterationLimit.1 limit).2
      rw [lt_iff_rational tolerance isWidth, span, ← full] at wide
      exact wide.not_ge within

theorem exact_search_halves_steepLine :
    let bounds : Bracket := ⟨0.0, 1.0⟩
    let config : Config := ⟨0.25, 2⟩
    let solution : Solution := ⟨[⟨1, ⟨0.0, 1.0⟩, 0.5, .negative, 2.0⟩,
      ⟨2, ⟨0.0, 0.5⟩, 0.25, .positive, -0.5⟩], .widthConverged⟩
    solveUnobserved (.ofTotal steepLine) bounds config = .ok solution ∧
      bounds.StandsFor 0 1 ∧
      rational? config.tolerance = some (1 / 4) ∧
      (∀ record ∈ solution.records, record.bracket.ExactMidpoint) ∧
      (∀ record ∈ solution.records, record.bracket.ExactWidth) ∧
      (bounds.after solution.records).ExactWidth ∧
      Halves |1 - 0| (1 / 4) config.maxIterations solution := by
  intro bounds config solution
  have solved : solveUnobserved (.ofTotal steepLine) bounds config =
      .ok solution :=
    Outcome.eq_ok_of_toOption (by decide +kernel)
  have first : bounds.StandsFor 0 1 :=
    ⟨by decide +kernel, by decide +kernel⟩
  have second : (⟨0.0, 0.5⟩ : Bracket).StandsFor 0 (1 / 2) :=
    ⟨by decide +kernel, by decide +kernel⟩
  have third : (⟨0.25, 0.5⟩ : Bracket).StandsFor (1 / 4) (1 / 2) :=
    ⟨by decide +kernel, by decide +kernel⟩
  have tolerance : rational? config.tolerance = some (1 / 4) := by
    decide +kernel
  have midpoints : ∀ record ∈ solution.records,
      record.bracket.ExactMidpoint := by
    simp only [solution, List.forall_mem_cons]
    exact ⟨⟨_, _, first, by decide +kernel⟩, ⟨_, _, second, by decide +kernel⟩,
      List.forall_mem_nil _⟩
  have widths : ∀ record ∈ solution.records, record.bracket.ExactWidth := by
    simp only [solution, List.forall_mem_cons]
    exact ⟨⟨_, _, first, by decide +kernel⟩, ⟨_, _, second, by decide +kernel⟩,
      List.forall_mem_nil _⟩
  have final : (bounds.after solution.records).ExactWidth :=
    ⟨_, _, third, by decide +kernel⟩
  exact ⟨solved, first, tolerance, midpoints, widths, final,
    exact_search_halves solved first tolerance midpoints widths
      fun _ => final⟩

end Bisection

end RootFinding
