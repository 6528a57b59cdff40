import RootFinding.Proofs.Bisection.Containment
import RootFinding.Proofs.Bisection.SignChange

/-! Searches of moderate bounds, where no sum and no difference of ends
overflows: every bracket is within every bracket before it, and no wider. -/

namespace RootFinding

namespace Bracket

variable {outer bracket : Bracket} {point : Float} {a b low high : ℚ}

theorem StandsFor.width (ends : bracket.StandsFor a b)
    (fits : |b - a| < 2 ^ 1024 - 2 ^ 970) :
    rational? bracket.width = some |Unpacked.rounded (b - a)| := by
  refine rational?_abs ?_
  rw [rational?_sub ends.b ends.a, Unpacked.bounded?,
    if_pos (Unpacked.abs_rounded_lt_limit_iff.2 fits)]

theorem Moderate.difference_fits (moderate : bracket.Moderate)
    (ends : bracket.StandsFor a b) : |b - a| < 2 ^ 1024 - 2 ^ 970 := by
  rw [abs_sub_comm]
  exact (abs_sub a b).trans_lt (moderate.sizes_fit ends)

/-- Rounding a difference keeps which of two is the less in size. -/
theorem StandsFor.width_le (outerEnds : outer.StandsFor low high)
    (outerFits : |high - low| < 2 ^ 1024 - 2 ^ 970)
    (containsA : outer.Contains bracket.a)
    (containsB : outer.Contains bracket.b) : bracket.width ≤ outer.width := by
  rcases exists_standsFor containsA.finite containsB.finite with ⟨a, b, ends⟩
  rw [outerEnds.contains_iff ends.a] at containsA
  rw [outerEnds.contains_iff ends.b] at containsB
  have shorter : |b - a| ≤ |high - low| :=
    Set.abs_sub_le_of_uIcc_subset_uIcc
      (Set.uIcc_subset_uIcc containsA containsB)
  rw [le_iff_rational (ends.width (shorter.trans_lt outerFits))
    (outerEnds.width outerFits), Unpacked.abs_rounded, Unpacked.abs_rounded]
  exact Unpacked.roundedSize_mono (abs_nonneg _) shorter

theorem Contains.of_le (inside : bracket.Contains point)
    (ends : bracket.StandsFor a b) (rising : bracket.a ≤ bracket.b) :
    bracket.a ≤ point ∧ point ≤ bracket.b := by
  rcases isFinite_iff_rational?.1 inside.finite with ⟨number, isNumber⟩
  rw [le_iff_rational ends.a ends.b] at rising
  rw [le_iff_rational ends.a isNumber, le_iff_rational isNumber ends.b]
  rwa [ends.contains_iff isNumber, Set.uIcc_of_le rising] at inside

theorem Contains.of_ge (inside : bracket.Contains point)
    (ends : bracket.StandsFor a b) (falling : bracket.b ≤ bracket.a) :
    bracket.b ≤ point ∧ point ≤ bracket.a := by
  rcases isFinite_iff_rational?.1 inside.finite with ⟨number, isNumber⟩
  rw [le_iff_rational ends.b ends.a] at falling
  rw [le_iff_rational ends.b isNumber, le_iff_rational isNumber ends.a]
  rwa [ends.contains_iff isNumber, Set.uIcc_of_ge falling] at inside

end Bracket

namespace Bisection

variable {ε : Type} {function : RealFunction ε} {value : Float → Float}
  {tolerance : Float}

namespace Search

variable {remaining index : Nat} {bracket : Bracket}
  {records : List IterationRecord} {status : Status} {a b : ℚ}

/-- The records after one are within its bracket. -/
theorem enclosed
    (search : Search function tolerance remaining index bracket records status)
    (ends : bracket.StandsFor a b) (moderate : bracket.Moderate) :
    records.Pairwise fun earlier later => later.Inside earlier.bracket := by
  -- The bracket of the first record is the bounds of the search that is left.
  induction search generalizing a b with
  | within _ => exact .nil
  | limit _ => exact .nil
  | converged _ _ _ => exact List.pairwise_singleton ..
  | further _ made _ rest induction =>
      rcases ends.contains_ends with ⟨containsA, containsB⟩
      have inside := made.inside ends containsA containsB
        (moderate.sumFits ends)
      rcases IterationRecord.narrowed_ends inside.a inside.b inside.midpoint
        with ⟨nextA, nextB⟩
      rcases Bracket.exists_standsFor nextA.finite nextB.finite with
        ⟨_, _, nextEnds⟩
      refine .cons ?_ (induction nextEnds (moderate.inside ends nextA nextB))
      rw [made.searched]
      exact rest.inside_of_moderate ends moderate nextA nextB

theorem moderate_finite
    (search : Search function tolerance remaining index bracket records status)
    (ends : bracket.StandsFor a b) (moderate : bracket.Moderate) :
    ∀ record ∈ records, record.bracket.Moderate ∧
      ∃ left right, record.bracket.StandsFor left right := by
  intro record member
  rcases ends.contains_ends with ⟨containsA, containsB⟩
  have inside := search.inside_of_moderate ends moderate containsA containsB
    record member
  exact ⟨moderate.inside ends inside.a inside.b,
    Bracket.exists_standsFor inside.a.finite inside.b.finite⟩

theorem narrower
    (search : Search function tolerance remaining index bracket records status)
    (ends : bracket.StandsFor a b) (moderate : bracket.Moderate) :
    records.Pairwise fun earlier later => later.width ≤ earlier.width := by
  refine (search.enclosed ends moderate).imp_of_mem
    fun {earlier later} member _ inside => ?_
  rcases search.moderate_finite ends moderate earlier member with
    ⟨small, _, _, earlierEnds⟩
  exact earlierEnds.width_le (small.difference_fits earlierEnds) inside.a
    inside.b

/-- An order of the ends that midpoints keep is the order of the ends of every
record. -/
theorem oriented
    (search : Search function tolerance remaining index bracket records status)
    (order : Float → Float → Prop) (start : order bracket.a bracket.b)
    (between : ∀ record ∈ records, order record.bracket.a record.bracket.b →
      order record.bracket.a record.midpoint ∧
        order record.midpoint record.bracket.b) :
    ∀ record ∈ records, order record.bracket.a record.bracket.b := by
  refine search.forall_records (fun inner => order inner.a inner.b) start
    fun record member _ _ made standing => ?_
  rw [← made.searched] at standing
  rcases between record member standing with ⟨left, right⟩
  refine ⟨standing, ?_⟩
  unfold IterationRecord.narrowed
  cases record.sign with
  | negative => exact left
  | positive => exact right

theorem oriented_of_moderate
    (search : Search function tolerance remaining index bracket records status)
    (ends : bracket.StandsFor a b) (moderate : bracket.Moderate) :
    bracket.a ≤ bracket.b ∧
        (∀ record ∈ records, record.bracket.a ≤ record.bracket.b) ∨
      bracket.b ≤ bracket.a ∧
        ∀ record ∈ records, record.bracket.b ≤ record.bracket.a := by
  have middle (record) (member : record ∈ records) :
      ∃ left right, record.bracket.StandsFor left right ∧
        record.bracket.Contains record.midpoint := by
    rcases search.moderate_finite ends moderate record member with
      ⟨small, left, right, recordEnds⟩
    rw [search.midpoint_eq record member]
    exact ⟨left, right, recordEnds,
      (small.sumFits recordEnds).contains_midpoint⟩
  have either : bracket.a ≤ bracket.b ∨ bracket.b ≤ bracket.a := by
    rw [le_iff_rational ends.a ends.b, le_iff_rational ends.b ends.a]
    exact le_total a b
  rcases either with rising | falling
  · refine .inl ⟨rising, search.oriented (fun left right => left ≤ right)
      rising fun record member kept => ?_⟩
    rcases middle record member with ⟨_, _, recordEnds, contains⟩
    exact contains.of_le recordEnds kept
  · refine .inr ⟨falling, search.oriented (fun left right => right ≤ left)
      falling fun record member kept => ?_⟩
    rcases middle record member with ⟨_, _, recordEnds, contains⟩
    exact (contains.of_ge recordEnds kept).symm

end Search

/-- One end of the bracket is moved to the midpoint of the record before. -/
def MovesOneEnd (record : IterationRecord) (next : Bracket) : Prop :=
  record.sign = .negative ∧ next = ⟨record.bracket.a, record.midpoint⟩ ∨
    record.sign = .positive ∧ next = ⟨record.midpoint, record.bracket.b⟩

theorem movesOneEnd_narrowed (record : IterationRecord) :
    MovesOneEnd record record.narrowed := by
  unfold MovesOneEnd IterationRecord.narrowed
  cases record.sign with
  | negative => exact .inl ⟨rfl, rfl⟩
  | positive => exact .inr ⟨rfl, rfl⟩

/-- Records of which each is within the brackets of those before it. -/
structure Nests (bounds : Bracket) (records : List IterationRecord) :
    Prop where
  enclosed : records.Pairwise fun earlier later =>
    later.Inside earlier.bracket
  narrower : records.Pairwise fun earlier later =>
    later.width ≤ earlier.width
  next : ∀ made record later, records[made]? = some record →
    records[made + 1]? = some later → MovesOneEnd record later.bracket
  oriented :
    bounds.a ≤ bounds.b ∧
        (∀ record ∈ records, record.bracket.a ≤ record.bracket.b) ∨
      bounds.b ≤ bounds.a ∧
        ∀ record ∈ records, record.bracket.b ≤ record.bracket.a

theorem brackets_nest {bounds : Bracket} {config : Config} {atA atB : Float}
    (total : ∀ point, function point = .ok (value point))
    (finiteA : bounds.a.isFinite = true) (finiteB : bounds.b.isFinite = true)
    (moderate : bounds.Moderate)
    (accepted : checkSignChange function bounds = .ok (atA, atB)) :
    ∃ solution, solveUnobserved function bounds config = .ok solution ∧
      Nests bounds solution.records := by
  have solves : ∃ solution,
      solveUnobserved function bounds config = .ok solution :=
    exists_solution_of_accepted (fun point => ⟨_, total point⟩) accepted
  rcases solves with ⟨solution, solved⟩
  rcases Bracket.exists_standsFor finiteA finiteB with ⟨a, b, ends⟩
  have search := Search.of_solveUnobserved solved
  exact ⟨solution, solved, {
    enclosed := search.enclosed ends moderate
    narrower := search.narrower ends moderate
    next := fun made record later isRecord isLater => by
      rcases List.getElem?_eq_some_iff.1 isRecord with ⟨_, rfl⟩
      rcases List.getElem?_eq_some_iff.1 isLater with ⟨below, rfl⟩
      rw [search.consecutive made below]
      exact movesOneEnd_narrowed _
    oriented := search.oriented_of_moderate ends moderate }⟩

theorem brackets_nest_steepLine :
    let bounds : Bracket := ⟨1.0, 0.0⟩
    let config : Config := ⟨0.3, 10⟩
    let solution : Solution := ⟨[⟨1, ⟨1.0, 0.0⟩, 0.5, .positive, 2.0⟩,
      ⟨2, ⟨0.5, 0.0⟩, 0.25, .negative, -0.5⟩], .widthConverged⟩
    (∀ point, RealFunction.ofTotal steepLine point = .ok (steepLine point)) ∧
      bounds.a.isFinite = true ∧ bounds.b.isFinite = true ∧
      bounds.Moderate ∧
      checkSignChange (.ofTotal steepLine) bounds =
        .ok (steepLine bounds.a, steepLine bounds.b) ∧
      solveUnobserved (.ofTotal steepLine) bounds config = .ok solution ∧
      Nests bounds solution.records := by
  intro bounds config solution
  have total (point : Float) :
      RealFunction.ofTotal steepLine point = .ok (steepLine point) := rfl
  have finiteA : bounds.a.isFinite = true := by decide +kernel
  have finiteB : bounds.b.isFinite = true := by decide +kernel
  have moderate : bounds.Moderate := ⟨by decide +kernel, by decide +kernel⟩
  have accepted : checkSignChange (.ofTotal steepLine) bounds =
      .ok (steepLine bounds.a, steepLine bounds.b) :=
    Outcome.eq_ok_of_toOption (by decide +kernel)
  have solved : solveUnobserved (.ofTotal steepLine) bounds config =
      .ok solution :=
    Outcome.eq_ok_of_toOption (by decide +kernel)
  rcases brackets_nest total finiteA finiteB moderate accepted with
    ⟨found, foundSolved, nests⟩
  rw [solved, Except.ok.injEq] at foundSolved
  subst foundSolved
  exact ⟨total, finiteA, finiteB, moderate, accepted, solved, nests⟩

end Bisection

end RootFinding
