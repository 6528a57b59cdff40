import RootFinding.Proofs.Bisection.Containment
import RootFinding.Proofs.Overflow
import RootFinding.Session.Frame

/-! The points of a curve. Their abscissas rise from one end of the window to
the other, unless the width of the window overflows: then the first of them is
undefined and the others are infinite. -/

namespace RootFinding

open Unpacked

section Numbers

variable {value left right : Float} {number leftNumber rightNumber : ℚ}

theorem rational?_lesser (leftIs : rational? left = some leftNumber)
    (rightIs : rational? right = some rightNumber) :
    rational? (lesser left right) = some (min leftNumber rightNumber) := by
  unfold lesser
  rw [isNaN_eq_false leftIs, if_neg Bool.false_ne_true]
  split_ifs with less
  · rw [lt_iff_rational rightIs leftIs] at less
    rw [rightIs, min_eq_right less.le]
  · rw [lt_iff_rational rightIs leftIs, not_lt] at less
    rw [leftIs, min_eq_left less]

theorem rational?_greater (leftIs : rational? left = some leftNumber)
    (rightIs : rational? right = some rightNumber) :
    rational? (greater left right) = some (max leftNumber rightNumber) := by
  unfold greater
  rw [isNaN_eq_false leftIs, if_neg Bool.false_ne_true]
  split_ifs with less
  · rw [lt_iff_rational leftIs rightIs] at less
    rw [rightIs, max_eq_right less.le]
  · rw [lt_iff_rational leftIs rightIs, not_lt] at less
    rw [leftIs, max_eq_left less]

end Numbers

theorem Unpacked.rounded_le_coarse {exact : ℚ} (nonnegative : 0 ≤ exact) :
    rounded exact ≤ exact * (1001 / 1000) + 1 := by
  have error := (le_abs_self _).trans (abs_roundedSize_sub_le nonnegative)
  have tiny : (2 : ℚ) ^ (-1075 : ℤ) ≤ 1 :=
    zpow_le_one_of_nonpos₀ one_le_two (by decide)
  have part : exact / 2 ^ 53 ≤ exact / 1000 :=
    div_le_div_of_nonneg_left nonnegative (by norm_num) (by norm_num)
  rw [rounded_of_nonneg nonnegative]
  linarith

namespace Frame

/-- The numbers that the ends of a window stand for. -/
structure Spans (range : Float × Float) (low high : ℚ) : Prop where
  first : rational? range.1 = some low
  last : rational? range.2 = some high
  ordered : low ≤ high

theorem spans_window {bounds : Bracket} {a b : ℚ}
    (ends : bounds.StandsFor a b) :
    Spans (window bounds) (rounded (min a b - 1)) (rounded (max a b + 1)) where
  first := rational?_sub_one (rational?_lesser ends.a ends.b)
  last := rational?_add_one (rational?_greater ends.a ends.b)
  ordered := rounded_mono (by
    linarith [min_le_max (a := a) (b := b)])

theorem rational?_index {index : ℕ} (within : index ≤ sampleIntervals) :
    rational? index.toFloat = some (index : ℚ) :=
  rational?_toFloat (lt_of_le_of_lt within (by decide))

theorem rational?_intervals :
    rational? sampleIntervals.toFloat = some 200 :=
  rational?_toFloat (by decide)

/-- The distance of neighbouring abscissas in a window, as it is rounded. -/
def stride (low high : ℚ) : ℚ :=
  rounded (rounded (high - low) / 200)

/-- How far an abscissa is from the first one, as it is rounded. -/
def offset (low high : ℚ) (index : ℕ) : ℚ :=
  rounded (stride low high * index)

section Offsets

variable {low high : ℚ} {index other : ℕ}

theorem stride_nonneg (ordered : low ≤ high) : 0 ≤ stride low high :=
  rounded_nonneg (div_nonneg (rounded_nonneg (sub_nonneg.2 ordered))
    (by norm_num))

theorem offset_nonneg (ordered : low ≤ high) (index : ℕ) :
    0 ≤ offset low high index :=
  rounded_nonneg (mul_nonneg (stride_nonneg ordered) (Nat.cast_nonneg index))

theorem offset_mono (ordered : low ≤ high) (atMost : index ≤ other) :
    offset low high index ≤ offset low high other := by
  have cast : (index : ℚ) ≤ other := by exact_mod_cast atMost
  exact rounded_mono
    (mul_le_mul_of_nonneg_left cast (stride_nonneg ordered))

/-- A width that is made up of its rounded intervals again is not passed by
those of a lesser width. -/
theorem offset_le {bound : ℚ} (ordered : low ≤ high)
    (whole : rounded (rounded (bound / 200) * 200) = bound)
    (widest : rounded (high - low) ≤ bound) (atMost : index ≤ 200) :
    offset low high index ≤ bound := by
  have longest : stride low high ≤ rounded (bound / 200) :=
    rounded_mono (div_le_div_of_nonneg_right widest (by norm_num))
  have count : (index : ℚ) ≤ 200 := by exact_mod_cast atMost
  rw [← whole]
  exact rounded_mono (mul_le_mul longest count (Nat.cast_nonneg index)
    ((stride_nonneg ordered).trans longest))

/-- Before the last abscissa, all roundings together are less than one of the
200 intervals. -/
theorem offset_lt (ordered : low ≤ high) (before : index < 200) :
    offset low high index < high - low + 2 ^ 970 := by
  have span := rounded_le_coarse (sub_nonneg.2 ordered)
  have spanNonneg := rounded_nonneg (sub_nonneg.2 ordered)
  have interval := rounded_le_coarse
    (div_nonneg spanNonneg (by norm_num : (0 : ℚ) ≤ 200))
  have last := rounded_le_coarse
    (mul_nonneg (stride_nonneg ordered) (Nat.cast_nonneg (α := ℚ) 199))
  have upTo := offset_mono ordered (Nat.le_of_lt_succ before)
  have slack : (2 : ℚ) ^ 9 ≤ 2 ^ 970 :=
    pow_le_pow_right₀ one_le_two (by decide)
  change offset low high 199 ≤ _ at last
  change stride low high ≤ _ at interval
  rw [Nat.cast_ofNat] at last
  generalize (2 : ℚ) ^ 970 = place at slack ⊢
  linarith [sub_nonneg.2 ordered]

end Offsets

/-- The width of the window is not rounded to an infinity. -/
def WidthFits (range : Float × Float) : Prop :=
  (range.2 - range.1).isFinite = true

section Abscissas

variable {range : Float × Float} {low high : ℚ} {index other : ℕ}

theorem rational?_width (spans : Spans range low high)
    (fits : WidthFits range) :
    rational? (range.2 - range.1) = some (rounded (high - low)) := by
  rcases isFinite_iff_rational?.1 fits with ⟨width, isWidth⟩
  rw [isWidth]
  rw [rational?_sub spans.last spans.first, bounded?,
    Option.ite_none_right_eq_some] at isWidth
  exact isWidth.2.symm

theorem rational?_stride (spans : Spans range low high)
    (fits : WidthFits range) :
    rational? ((range.2 - range.1) / sampleIntervals.toFloat) =
      some (stride low high) :=
  rational?_div_of_one_le (rational?_width spans fits) rational?_intervals
    (by norm_num)

theorem rational?_largestFloat :
    rational? largestFloat = some ((2 ^ 53 - 1) * 2 ^ (971 : ℤ)) := by
  decide +kernel

theorem rounded_strides {value : Float} {bound : ℚ}
    (isNumber : rational? value = some bound)
    (whole : rational? (value / sampleIntervals.toFloat *
      sampleIntervals.toFloat) = some bound) :
    rounded (rounded (bound / 200) * 200) = bound := by
  have interval := rational?_div_of_one_le isNumber rational?_intervals
    (by norm_num)
  rw [rational?_mul interval rational?_intervals, bounded?,
    Option.ite_none_right_eq_some, Option.some.injEq] at whole
  exact whole.2

theorem rational?_offset (spans : Spans range low high)
    (fits : WidthFits range) (atMost : index ≤ sampleIntervals) :
    rational? ((range.2 - range.1) / sampleIntervals.toFloat *
      index.toFloat) = some (offset low high index) := by
  have isWidth := rational?_width spans fits
  have widest : rounded (high - low) ≤ (2 ^ 53 - 1) * 2 ^ (971 : ℤ) :=
    (le_abs_self _).trans (abs_le_largest isWidth)
  have greatest : offset low high index ≤ (2 ^ 53 - 1) * 2 ^ (971 : ℤ) :=
    offset_le spans.ordered
      (rounded_strides rational?_largestFloat (by decide +kernel)) widest atMost
  have small : |offset low high index| < 2 ^ 1024 := by
    rw [abs_of_nonneg (offset_nonneg spans.ordered index)]
    refine greatest.trans_lt ?_
    rw [two_pow_limit]
    exact mul_lt_mul_of_pos_right (by norm_num) (by positivity)
  rw [rational?_mul (rational?_stride spans fits)
    (rational?_index atMost), bounded?]
  exact if_pos small

theorem number?_abscissa (spans : Spans range low high)
    (fits : WidthFits range) (atMost : index ≤ sampleIntervals) :
    number? (abscissa range index) =
      some (limited (rounded (low + offset low high index))) :=
  number?_add spans.first (rational?_offset spans fits atMost)

/-- Rounding keeps the order of the abscissas, also where the last one
overflows. -/
theorem abscissa_mono (spans : Spans range low high) (fits : WidthFits range)
    (atMost : index ≤ other) (within : other ≤ sampleIntervals) :
    abscissa range index ≤ abscissa range other := by
  rw [le_iff_number]
  refine ⟨_, number?_abscissa spans fits (atMost.trans within), _,
    number?_abscissa spans fits within, ?_⟩
  have further := offset_mono spans.ordered atMost
  exact limited_mono (rounded_mono (by linarith))

theorem isFinite_abscissa (spans : Spans range low high)
    (fits : WidthFits range) (before : index < sampleIntervals) :
    (abscissa range index).isFinite = true := by
  have least := abs_le.1 (abs_le_largest spans.first)
  have greatest := abs_le.1 (abs_le_largest spans.last)
  have short := offset_lt spans.ordered before
  have forward := offset_nonneg spans.ordered index
  have small : |rounded (low + offset low high index)| < 2 ^ 1024 := by
    rw [abs_rounded_lt_limit_iff, abs_lt]
    rw [two_pow_half_place] at short ⊢
    rw [two_pow_limit]
    have unit : (0 : ℚ) < 2 ^ (971 : ℤ) := by positivity
    generalize (2 : ℚ) ^ (971 : ℤ) = place at *
    constructor <;> linarith [least.1, greatest.2]
  have isNumber : rational? (abscissa range index) =
      some (rounded (low + offset low high index)) := by
    rw [abscissa, rational?_add spans.first
      (rational?_offset spans fits before.le), bounded?, if_pos small]
  exact isFinite_iff_rational?.2 ⟨_, isNumber⟩

theorem number?_width_of_overflow (spans : Spans range low high)
    (overflow : ¬WidthFits range) : number? (range.2 - range.1) = some ⊤ := by
  have nonnegative := rounded_nonneg (sub_nonneg.2 spans.ordered)
  have large : 2 ^ 1024 ≤ rounded (high - low) := by
    by_contra small
    rw [not_le, ← abs_of_nonneg nonnegative] at small
    refine overflow (isFinite_iff_rational?.2 ⟨rounded (high - low), ?_⟩)
    rw [rational?_sub spans.last spans.first, bounded?, if_pos small]
  rw [number?_sub spans.last spans.first, limited_of_le large]

theorem number?_abscissa_of_overflow (spans : Spans range low high)
    (overflow : ¬WidthFits range) :
    number? (abscissa range 0) = none ∧
      ∀ index, 0 < index → index ≤ sampleIntervals →
        number? (abscissa range index) = some ⊤ := by
  have infinite := number?_top_div (number?_width_of_overflow spans overflow)
    rational?_intervals (by norm_num)
  constructor
  · have undefined := number?_top_mul_zero infinite (rational?_index
      (Nat.zero_le _))
    exact number?_add_none range.1 undefined
  · intro index positive atMost
    have product := number?_top_mul infinite
      (rational?_index atMost)
      (by exact_mod_cast positive)
    exact number?_add_top spans.first product

theorem rounded_half_largest_add_one :
    rounded ((2 ^ 53 - 1) / 2 * 2 ^ (971 : ℤ) + 1) =
      (2 ^ 53 - 1) / 2 * 2 ^ (971 : ℤ) := by
  have absorbed : rational? (largestFloat / 2.0 + 1.0) =
      some ((2 ^ 53 - 1) / 2 * 2 ^ (971 : ℤ)) := by
    decide +kernel
  rw [rational?_add_one rational?_half_largestFloat] at absorbed
  exact Option.some.inj absorbed

end Abscissas

/-- Neither the width of the window nor its last abscissa is rounded to an
infinity. -/
structure Fits (range : Float × Float) : Prop where
  width : WidthFits range
  last : (abscissa range sampleIntervals).isFinite = true

section Moderate

variable {bounds : Bracket} {a b : ℚ}

theorem moderate_window (ends : bounds.StandsFor a b)
    (moderate : bounds.Moderate) :
    -((2 ^ 53 - 1) / 2 * 2 ^ (971 : ℤ)) ≤ rounded (min a b - 1) ∧
      rounded (max a b + 1) ≤ (2 ^ 53 - 1) / 2 * 2 ^ (971 : ℤ) := by
  have sizes := ends.moderate_iff.1 moderate
  rw [abs_le, abs_le] at sizes
  constructor
  · rw [← rounded_half_largest_add_one, ← rounded_neg]
    refine rounded_mono ?_
    rw [neg_add, ← sub_eq_add_neg]
    exact sub_le_sub_right (le_min sizes.1.1 sizes.2.1) 1
  · refine le_of_le_of_eq (rounded_mono ?_) rounded_half_largest_add_one
    exact add_le_add_left (max_le sizes.1.2 sizes.2.2) 1

/-- The width is at most the largest float, and so is what the last abscissa is
rounded from. -/
theorem Spans.fits {range : Float × Float} {low high half : ℚ}
    (spans : Spans range low high)
    (isHalf : rational? (largestFloat / 2.0) = some half)
    (isLargest : rational? largestFloat = some (half + half))
    (least : -half ≤ low) (greatest : high ≤ half) : Fits range := by
  have ordered := spans.ordered
  have positive : 0 ≤ half := by linarith
  have small {exact : ℚ} (lower : -(half + half) ≤ exact)
      (upper : exact ≤ half + half) : |rounded exact| < 2 ^ 1024 := by
    refine abs_rounded_lt_limit_of_le ?_ (abs_rounded_lt_limit isLargest)
    rw [abs_of_nonneg (add_nonneg positive positive), abs_le]
    exact ⟨lower, upper⟩
  have width : rational? (range.2 - range.1) = some (rounded (high - low)) := by
    rw [rational?_sub spans.last spans.first, bounded?,
      if_pos (small (by linarith) (by linarith))]
  have fits : WidthFits range := isFinite_iff_rational?.2 ⟨_, width⟩
  have forward := offset_nonneg ordered 200
  -- A window above zero is no wider than the half of the largest float.
  have reach : low + offset low high 200 ≤ half + half := by
    rcases le_total low 0 with nonpositive | nonnegative
    · have widest : rounded (high - low) ≤ half + half := by
        rw [← (isRepresentable_of_rational? isLargest).rounded_eq]
        exact rounded_mono (by linarith)
      have whole := rounded_strides isLargest (by
        rw [← isLargest]
        decide +kernel)
      linarith [offset_le ordered whole widest (le_refl 200)]
    · have narrow : rounded (high - low) ≤ half := by
        rw [← (isRepresentable_of_rational? isHalf).rounded_eq]
        exact rounded_mono (by linarith)
      have whole := rounded_strides isHalf (by
        rw [← isHalf]
        decide +kernel)
      linarith [offset_le ordered whole narrow (le_refl 200)]
  have last : rational? (abscissa range sampleIntervals) =
      some (rounded (low + offset low high 200)) := by
    rw [abscissa, rational?_add spans.first
      (rational?_offset spans fits le_rfl), bounded?]
    exact if_pos (small (by linarith) reach)
  exact ⟨fits, isFinite_iff_rational?.2 ⟨_, last⟩⟩

theorem fits_of_moderate (ends : bounds.StandsFor a b)
    (moderate : bounds.Moderate) : Fits (window bounds) := by
  have ⟨least, greatest⟩ := moderate_window ends moderate
  have halves : (2 ^ 53 - 1) / 2 * 2 ^ (971 : ℤ) +
      (2 ^ 53 - 1) / 2 * 2 ^ (971 : ℤ) =
        ((2 ^ 53 - 1) * 2 ^ (971 : ℤ) : ℚ) := by
    ring
  exact (spans_window ends).fits rational?_half_largestFloat
    (halves ▸ rational?_largestFloat) least greatest

end Moderate

/-! Which points there are. -/

section Points

variable {ε : Type} {function : RealFunction ε} {bounds : Bracket}
  {range : Float × Float} {x : Float} {point : Float × Float}

/-- The point is the one that the function gives at an abscissa. -/
structure IsSample (function : RealFunction ε) (range : Float × Float)
    (index : ℕ) (point : Float × Float) : Prop where
  within : index ≤ sampleIntervals
  abscissa : point.1 = abscissa range index
  value : function point.1 = .ok point.2
  finite : point.2.isFinite = true

theorem point?_eq_some_iff :
    point? function x = some point ↔
      point.1 = x ∧ function point.1 = .ok point.2 ∧
        point.2.isFinite = true := by
  rcases point with ⟨abscissa, value⟩
  unfold point?
  cases result : function x with
  | error error =>
      refine iff_of_false nofun ?_
      rintro ⟨rfl, same, -⟩
      rw [result] at same
      cases same
  | ok other =>
      constructor
      · intro drawn
        rw [Option.ite_none_right_eq_some, Option.some.injEq,
          Prod.mk.injEq] at drawn
        rcases drawn with ⟨finite, rfl, rfl⟩
        exact ⟨rfl, result, finite⟩
      · rintro ⟨rfl, same, finite⟩
        rw [result, Except.ok.injEq] at same
        subst same
        exact if_pos finite

theorem isSample_iff {index : ℕ} :
    IsSample function range index point ↔ index ∈ List.range 201 ∧
      point? function (abscissa range index) = some point := by
  rw [point?_eq_some_iff, List.mem_range, Nat.lt_succ_iff]
  exact ⟨fun sample =>
      ⟨sample.within, sample.abscissa, sample.value, sample.finite⟩,
    fun ⟨within, abscissa, value, finite⟩ =>
      ⟨within, abscissa, value, finite⟩⟩

theorem curveOver_eq_filterMap (function : RealFunction ε)
    (range : Float × Float) :
    curveOver function range =
      (List.range 201).filterMap fun index =>
        point? function (abscissa range index) :=
  List.filterMap_map ..

theorem mem_curveOver_iff :
    point ∈ curveOver function range ↔
      ∃ index, IsSample function range index point := by
  rw [curveOver_eq_filterMap, List.mem_filterMap]
  simp only [isSample_iff]

/-- What a list is mapped to stands in the order of the list. -/
theorem forall₂_filterMap {α β : Type} (select : α → Option β)
    (values : List α) :
    List.Forall₂ (fun value selected => select value = some selected)
      (values.filter fun value => (select value).isSome)
      (values.filterMap select) := by
  induction values with
  | nil => exact .nil
  | cons first rest induction =>
      cases selected : select first with
      | none => simpa [selected] using induction
      | some taken => simpa [selected] using induction

theorem pairwise_curveOver_iff {order : Float → Float → Prop} :
    ((curveOver function range).Pairwise fun left right =>
        order left.1 right.1) ↔
      ∀ index other left right, index < other →
        IsSample function range index left →
        IsSample function range other right → order left.1 right.1 := by
  rw [curveOver_eq_filterMap, List.pairwise_filterMap,
    List.pairwise_iff_getElem]
  simp only [isSample_iff, List.getElem_range, List.length_range,
    List.mem_range]
  constructor
  · intro ordered index other left right before ⟨first, leftIs⟩ ⟨second, rightIs⟩
    exact ordered index other first second before left leftIs right rightIs
  · intro ordered index other first second before left leftIs right rightIs
    exact ordered index other left right before ⟨first, leftIs⟩
      ⟨second, rightIs⟩

/-- A curve whose points are the samples in the order of their abscissas. The
abscissas are finite and rise, but for the two ways in which the window can be
too wide: the last abscissa overflows, or the width does, and then the first
abscissa is undefined and the others are infinite. -/
structure RisesUnlessTooWide (function : RealFunction ε) (bounds : Bracket)
    (curve : List (Float × Float)) : Prop where
  samples : ∃ indices : List ℕ, indices.Pairwise (· < ·) ∧
    List.Forall₂ (IsSample function (window bounds)) indices curve ∧
    ∀ index point, IsSample function (window bounds) index point →
      index ∈ indices
  rising : WidthFits (window bounds) →
    curve.Pairwise fun left right => left.1 ≤ right.1
  finite : Fits (window bounds) →
    ∀ point ∈ curve, point.1.isFinite = true
  finite_iff : ∀ index ≤ sampleIntervals,
    (abscissa (window bounds) index).isFinite = true ↔
      WidthFits (window bounds) ∧
        (index = sampleIntervals → Fits (window bounds))
  overflow : ¬WidthFits (window bounds) →
    (abscissa (window bounds) 0).isNaN = true ∧
      ∀ index, 0 < index → index ≤ sampleIntervals →
        number? (abscissa (window bounds) index) = some ⊤
  moderate : bounds.Moderate → Fits (window bounds)

theorem isFinite_abscissa_iff {low high : ℚ} (spans : Spans range low high)
    {index : ℕ} (atMost : index ≤ sampleIntervals) :
    (abscissa range index).isFinite = true ↔
      WidthFits range ∧ (index = sampleIntervals → Fits range) := by
  constructor
  · intro finite
    have fits : WidthFits range := by
      by_contra overflow
      have ⟨undefined, infinite⟩ := number?_abscissa_of_overflow spans overflow
      rcases isFinite_iff_rational?.1 finite with ⟨number, isNumber⟩
      have standing := number?_of_rational? isNumber
      rcases Nat.eq_zero_or_pos index with rfl | positive
      · rw [undefined] at standing
        cases standing
      · rw [infinite index positive atMost] at standing
        cases standing
    exact ⟨fits, fun last => ⟨fits, last ▸ finite⟩⟩
  · rintro ⟨fits, last⟩
    rcases atMost.eq_or_lt with same | before
    · exact same ▸ (last same).last
    · exact isFinite_abscissa spans fits before

theorem curve_rises_unless_too_wide (function : RealFunction ε)
    (records : List IterationRecord) (finiteA : bounds.a.isFinite = true)
    (finiteB : bounds.b.isFinite = true) :
    RisesUnlessTooWide function bounds
      (sample function bounds records).curve := by
  rcases Bracket.exists_standsFor finiteA finiteB with ⟨a, b, ends⟩
  have spans := spans_window ends
  change RisesUnlessTooWide function bounds
    (curveOver function (window bounds))
  constructor
  case samples =>
      let drawn (index : ℕ) : Bool :=
        (point? function (abscissa (window bounds) index)).isSome
      refine ⟨(List.range 201).filter drawn, List.pairwise_lt_range.filter _,
        ?_, fun index point sample => ?_⟩
      · rw [curveOver_eq_filterMap]
        refine .imp (fun _ _ => isSample_iff.2) ?_
        rw [List.forall₂_and_left]
        exact ⟨fun index member => List.mem_of_mem_filter member,
          forall₂_filterMap ..⟩
      · rw [isSample_iff] at sample
        exact List.mem_filter.2 ⟨sample.1, Option.isSome_of_eq_some sample.2⟩
  case rising =>
      intro fits
      rw [pairwise_curveOver_iff]
      intro index other left right before leftSample rightSample
      rw [leftSample.abscissa, rightSample.abscissa]
      exact abscissa_mono spans fits before.le rightSample.within
  case finite =>
      intro fits point member
      rcases mem_curveOver_iff.1 member with ⟨index, sample⟩
      rw [sample.abscissa, isFinite_abscissa_iff spans sample.within]
      exact ⟨fits.width, fun _ => fits⟩
  case finite_iff =>
      exact fun index atMost => isFinite_abscissa_iff spans atMost
  case overflow =>
      intro overflow
      have ⟨undefined, infinite⟩ := number?_abscissa_of_overflow spans overflow
      exact ⟨isNaN_iff_number?.2 undefined, infinite⟩
  case moderate => exact fits_of_moderate ends

theorem curve_rises_unless_too_wide_lastOverflows :
    let bounds : Bracket := ⟨8.443287772013895e307, largestFloat⟩
    let function : RealFunction Empty := .ofTotal fun _ => 1.0
    bounds.a.isFinite = true ∧ bounds.b.isFinite = true ∧
      WidthFits (window bounds) ∧ ¬Fits (window bounds) ∧
      RisesUnlessTooWide function bounds (sample function bounds []).curve := by
  intro bounds function
  have finiteA : bounds.a.isFinite = true := by decide +kernel
  have finiteB : bounds.b.isFinite = true := by decide +kernel
  have width : WidthFits (window bounds) := by
    unfold WidthFits
    decide +kernel
  have infinite : (abscissa (window bounds) sampleIntervals).isFinite = false := by
    decide +kernel
  refine ⟨finiteA, finiteB, width, fun fits => ?_,
    curve_rises_unless_too_wide function [] finiteA finiteB⟩
  rw [fits.last] at infinite
  cases infinite

/-- The width between a very low and a very high bound overflows. The abscissas
are not finite then, and not in order. -/
theorem curve_not_always_rising :
    (¬∀ (value : Float → Float) (bounds : Bracket),
      bounds.a.isFinite = true → bounds.b.isFinite = true →
      ∀ point ∈ (sample (.ofTotal value) bounds []).curve,
        point.1.isFinite = true) ∧
    ¬∀ (value : Float → Float) (bounds : Bracket),
      bounds.a.isFinite = true → bounds.b.isFinite = true →
      (sample (.ofTotal value) bounds []).curve.Pairwise
        fun left right => left.1 ≤ right.1 := by
  let bounds : Bracket := ⟨-1.7e308, 1.7e308⟩
  have finiteA : bounds.a.isFinite = true := by decide +kernel
  have finiteB : bounds.b.isFinite = true := by decide +kernel
  have finite : (1.0 : Float).isFinite = true := by decide +kernel
  have drawn (index : ℕ) (within : index ≤ sampleIntervals) :
      IsSample (.ofTotal fun _ => 1.0) (window bounds) index
        (abscissa (window bounds) index, 1.0) :=
    ⟨within, rfl, rfl, finite⟩
  have first := drawn 0 (by decide)
  have second := drawn 1 (by decide)
  constructor
  · intro always
    have promised := always _ bounds finiteA finiteB _
      (mem_curveOver_iff.2 ⟨0, first⟩)
    have undefined : (abscissa (window bounds) 0).isFinite = false := by
      decide +kernel
    rw [undefined] at promised
    cases promised
  · intro always
    have ordered := pairwise_curveOver_iff.1 (always _ bounds finiteA finiteB)
      0 1 _ _ zero_lt_one first second
    have disordered : ¬abscissa (window bounds) 0 ≤ abscissa (window bounds) 1 :=
      by decide +kernel
    exact disordered ordered

end Points

end Frame

end RootFinding
