import RootFinding.Proofs.Absorption
import RootFinding.Proofs.Session.Curve

/-! The vertical range of a curve. It covers every point, whatever the padding
is rounded to, and has a positive height unless all values are the same one and
absorb the padding. -/

namespace RootFinding

open Unpacked

section Numbers

variable {value padding : Float} {number : ℚ} {size : WithBot (WithTop ℚ)}

theorem exists_size_of_nonneg (isNumber : number? padding = some size)
    (nonnegative : 0 ≤ size) :
    number? padding = some ⊤ ∨
      ∃ finite, 0 ≤ finite ∧ rational? padding = some finite := by
  unfold number? at isNumber
  cases unpacked : padding.toModel.unpack with
  | notANumber => simp [unpacked, Unpacked.number?] at isNumber
  | infinity sign =>
      rw [unpacked] at isNumber
      cases sign with
      | negative =>
          cases isNumber
          exact absurd nonnegative (WithBot.bot_lt_coe _).not_ge
      | positive =>
          left
          rw [number?, unpacked]
          rfl
  | zero sign =>
      right
      exact ⟨0, le_rfl, by rw [rational?, unpacked]; rfl⟩
  | finite sign mantissa exponent positive =>
      right
      rw [unpacked] at isNumber
      cases isNumber
      exact ⟨signed sign (mantissa * 2 ^ exponent),
        by exact_mod_cast nonnegative, by rw [rational?, unpacked]; rfl⟩

/-- A padding that is not negative takes a number down, or leaves it there. -/
theorem exists_number?_sub_le (isValue : rational? value = some number)
    (isNumber : number? padding = some size)
    (nonnegative : 0 ≤ size) :
    ∃ low, number? (value - padding) = some low ∧
      low ≤ (number : WithTop ℚ) := by
  rcases exists_size_of_nonneg isNumber nonnegative with
    infinite | ⟨finite, atLeast, isPadding⟩
  · exact ⟨⊥, number?_sub_top isValue infinite, bot_le⟩
  · refine ⟨_, number?_sub isValue isPadding, ?_⟩
    have kept := (isRepresentable_of_rational? isValue).rounded_eq
    rw [← limited_of_abs_lt (abs_lt_limit isValue)]
    nth_rewrite 2 [← kept]
    exact limited_mono (rounded_mono (sub_le_self _ atLeast))

theorem exists_le_number?_add (isValue : rational? value = some number)
    (isNumber : number? padding = some size)
    (nonnegative : 0 ≤ size) :
    ∃ high, number? (value + padding) = some high ∧
      (number : WithTop ℚ) ≤ high := by
  rcases exists_size_of_nonneg isNumber nonnegative with
    infinite | ⟨finite, atLeast, isPadding⟩
  · exact ⟨⊤, number?_add_top isValue infinite, le_top⟩
  · refine ⟨_, number?_add isValue isPadding, ?_⟩
    have kept := (isRepresentable_of_rational? isValue).rounded_eq
    rw [← limited_of_abs_lt (abs_lt_limit isValue)]
    nth_rewrite 1 [← kept]
    exact limited_mono (rounded_mono (le_add_of_nonneg_right atLeast))

theorem rational?_zero : rational? 0.0 = some 0 := by
  decide +kernel

theorem number?_zero : number? 0.0 = some 0 :=
  number?_of_rational? rational?_zero

theorem rational?_tenth :
    rational? 0.1 = some (3602879701896397 / 36028797018963968) := by
  decide +kernel

end Numbers

namespace Frame

/-- How much a range is widened at each end, given its span. -/
def padding (span : Float) : Float :=
  if span > 0.0 then 0.1 * span else 1.0

theorem padded_eq (low high : Float) :
    padded (low, high) =
      (low - padding (high - low), high + padding (high - low)) :=
  rfl

theorem padding_nonneg (span : Float) :
    ∃ size, number? (padding span) = some size ∧
      0 ≤ size := by
  unfold padding
  split_ifs with wide
  · rw [gt_iff_lt, lt_iff_number] at wide
    rcases wide with ⟨zero, isZero, size, isSize, positive⟩
    rw [number?_zero, Option.some.injEq] at isZero
    subst isZero
    rcases exists_size_of_nonneg isSize positive.le with
      infinite | ⟨finite, nonnegative, isSpan⟩
    · exact ⟨⊤, number?_mul_top rational?_tenth (by norm_num) infinite, le_top⟩
    · refine ⟨_, number?_mul rational?_tenth isSpan, ?_⟩
      have kept : limited (rounded 0) = 0 := by
        rw [rounded_of_nonneg le_rfl, roundedSize_zero]
        exact limited_of_abs_lt (by simp)
      rw [← kept]
      exact limited_mono (rounded_mono (by positivity))
  · refine ⟨_, number?_of_rational? rational?_one, ?_⟩
    exact_mod_cast zero_le_one (α := ℚ)

/-! The least and the greatest of some values. -/

section Extent

variable {values : List Float} {low high : Float}

/-- A fold with a choice between two values gives one of all the values, and
that comes before all of them in the order of the choice. -/
theorem foldl_selects (order : Float → Float → Prop)
    {choose : Float → Float → Float}
    (transitive : ∀ {left middle right},
      order left middle → order middle right → order left right)
    (selects : ∀ left right, left.isFinite = true → right.isFinite = true →
      (choose left right = left ∨ choose left right = right) ∧
        order (choose left right) left ∧ order (choose left right) right)
    {first : Float} {rest : List Float}
    (finite : ∀ value ∈ first :: rest, value.isFinite = true) :
    rest.foldl choose first ∈ first :: rest ∧
      ∀ value ∈ first :: rest, order (rest.foldl choose first) value := by
  induction rest generalizing first with
  | nil =>
      have itself := finite first (List.mem_singleton_self first)
      have ⟨same, left, _⟩ := selects first first itself itself
      rw [or_self] at same
      rw [same] at left
      simpa using left
  | cons next rest induction =>
      simp only [List.forall_mem_cons] at finite
      rcases selects first next finite.1 finite.2.1 with
        ⟨either, beforeFirst, beforeNext⟩
      have chosen : (choose first next).isFinite = true := by
        rcases either with same | same
        · rw [same]
          exact finite.1
        · rw [same]
          exact finite.2.1
      rcases induction (List.forall_mem_cons.2 ⟨chosen, finite.2.2⟩) with
        ⟨member, least⟩
      rw [List.forall_mem_cons] at least
      rw [List.foldl_cons]
      simp only [List.forall_mem_cons]
      refine ⟨?_, transitive least.1 beforeFirst,
        transitive least.1 beforeNext, least.2⟩
      rcases List.mem_cons.1 member with same | later
      · rw [same]
        rcases either with same | same <;> simp [same]
      · exact List.mem_cons_of_mem _ (List.mem_cons_of_mem _ later)

theorem lesser_selects (left right : Float) (finiteLeft : left.isFinite = true)
    (finiteRight : right.isFinite = true) :
    (lesser left right = left ∨ lesser left right = right) ∧
      lesser left right ≤ left ∧ lesser left right ≤ right := by
  rcases isFinite_iff_rational?.1 finiteLeft with ⟨leftNumber, leftIs⟩
  rcases isFinite_iff_rational?.1 finiteRight with ⟨rightNumber, rightIs⟩
  have least := rational?_lesser leftIs rightIs
  refine ⟨?_, (le_iff_rational least leftIs).2 (min_le_left ..),
    (le_iff_rational least rightIs).2 (min_le_right ..)⟩
  unfold lesser
  split_ifs <;> simp

theorem greater_selects (left right : Float)
    (finiteLeft : left.isFinite = true) (finiteRight : right.isFinite = true) :
    (greater left right = left ∨ greater left right = right) ∧
      left ≤ greater left right ∧ right ≤ greater left right := by
  rcases isFinite_iff_rational?.1 finiteLeft with ⟨leftNumber, leftIs⟩
  rcases isFinite_iff_rational?.1 finiteRight with ⟨rightNumber, rightIs⟩
  have greatest := rational?_greater leftIs rightIs
  refine ⟨?_, (le_iff_rational leftIs greatest).2 (le_max_left ..),
    (le_iff_rational rightIs greatest).2 (le_max_right ..)⟩
  unfold greater
  split_ifs <;> simp

/-- The values reach from one of them to another. -/
structure IsExtent (values : List Float) (low high : Float) : Prop where
  lowMember : low ∈ values
  highMember : high ∈ values
  within : ∀ value ∈ values, low ≤ value ∧ value ≤ high

/-- What holds of all values holds of the two ends. -/
theorem IsExtent.ends (extent : IsExtent values low high)
    (property : Float → Prop)
    (holds : ∀ value ∈ values, property value) :
    property low ∧ property high :=
  ⟨holds low extent.lowMember, holds high extent.highMember⟩

theorem extent?_eq_none_iff : extent? values = none ↔ values = [] := by
  cases values <;> simp [extent?]

theorem isExtent_of_extent?
    (finite : ∀ value ∈ values, value.isFinite = true)
    (found : extent? values = some (low, high)) :
    IsExtent values low high := by
  cases values with
  | nil => cases found
  | cons first rest =>
      cases found
      rcases foldl_selects (· ≤ ·) float_le_trans lesser_selects finite with
        ⟨lowMember, least⟩
      rcases foldl_selects (· ≥ ·)
        (fun first second => float_le_trans second first) greater_selects finite
        with ⟨highMember, greatest⟩
      exact ⟨lowMember, highMember,
        fun value member => ⟨least value member, greatest value member⟩⟩

end Extent

/-! The range of a frame. -/

section Range

variable {ε : Type} {function : RealFunction ε} {bounds : Bracket}
  {records : List IterationRecord} {low high : Float}

theorem isFinite_of_mem_values {value : Float}
    (member : value ∈ (sample function bounds records).curve.map Prod.snd) :
    value.isFinite = true := by
  rcases List.mem_map.1 member with ⟨point, drawn, rfl⟩
  rcases mem_curveOver_iff.1 drawn with ⟨index, sample⟩
  exact sample.finite

theorem exists_extent
    (found : (sample function bounds records).yRange = some (low, high)) :
    ∃ least greatest,
      IsExtent ((sample function bounds records).curve.map Prod.snd) least
        greatest ∧ padded (least, greatest) = (low, high) := by
  rcases Option.map_eq_some_iff.1 found with ⟨⟨least, greatest⟩, extent, same⟩
  exact ⟨least, greatest,
    isExtent_of_extent? (fun _ => isFinite_of_mem_values) extent, same⟩

theorem yRange_eq_none_iff :
    (sample function bounds records).yRange = none ↔
      (sample function bounds records).curve = [] := by
  change (extent? _).map padded = none ↔ _
  rw [Option.map_eq_none_iff, extent?_eq_none_iff, List.map_eq_nil_iff]
  rfl

/-- Neither end of the range gets past the value that it is padded from. -/
theorem padded_outside {least greatest : Float} {leastNumber greatestNumber : ℚ}
    (leastIs : rational? least = some leastNumber)
    (greatestIs : rational? greatest = some greatestNumber)
    (range : padded (least, greatest) = (low, high)) :
    low ≤ least ∧ greatest ≤ high := by
  rw [padded_eq, Prod.mk.injEq] at range
  rcases range with ⟨rfl, rfl⟩
  rcases padding_nonneg (greatest - least) with ⟨size, isSize, nonnegative⟩
  simp only [le_iff_number]
  constructor
  · rcases exists_number?_sub_le leastIs isSize nonnegative with
      ⟨lowNumber, lowIs, below⟩
    exact ⟨lowNumber, lowIs, _, number?_of_rational? leastIs, below⟩
  · rcases exists_le_number?_add greatestIs isSize nonnegative with
      ⟨highNumber, highIs, above⟩
    exact ⟨_, number?_of_rational? greatestIs, highNumber, highIs, above⟩

theorem IsExtent.exists_rational
    {least greatest : Float}
    (extent : IsExtent
      ((sample function bounds records).curve.map Prod.snd) least greatest) :
    ∃ leastNumber greatestNumber, rational? least = some leastNumber ∧
      rational? greatest = some greatestNumber ∧
      leastNumber ≤ greatestNumber := by
  rcases isFinite_iff_rational?.1 (isFinite_of_mem_values extent.lowMember)
    with ⟨leastNumber, leastIs⟩
  rcases isFinite_iff_rational?.1 (isFinite_of_mem_values extent.highMember)
    with ⟨greatestNumber, greatestIs⟩
  have ordered := (extent.within greatest extent.highMember).1
  rw [le_iff_rational leastIs greatestIs] at ordered
  exact ⟨leastNumber, greatestNumber, leastIs, greatestIs, ordered⟩

theorem isNaN_of_le {left right : Float} (atMost : left ≤ right) :
    left.isNaN = false ∧ right.isNaN = false := by
  rw [le_iff_number] at atMost
  rcases atMost with ⟨_, leftIs, _, rightIs, -⟩
  rw [← Bool.not_eq_true, ← Bool.not_eq_true, isNaN_iff_number?,
    isNaN_iff_number?, leftIs, rightIs]
  exact ⟨nofun, nofun⟩

theorem exists_extent_inside
    (found : (sample function bounds records).yRange = some (low, high)) :
    ∃ least greatest, low ≤ least ∧ greatest ≤ high ∧
      IsExtent ((sample function bounds records).curve.map Prod.snd) least
        greatest := by
  rcases exists_extent found with ⟨least, greatest, extent, range⟩
  rcases extent.exists_rational with ⟨_, _, leastIs, greatestIs, -⟩
  rcases padded_outside leastIs greatestIs range with ⟨lower, upper⟩
  exact ⟨least, greatest, lower, upper, extent⟩

theorem yRange_within
    (found : (sample function bounds records).yRange = some (low, high))
    {point : Float × Float}
    (member : point ∈ (sample function bounds records).curve) :
    low ≤ point.2 ∧ point.2 ≤ high := by
  rcases exists_extent_inside found with
    ⟨least, greatest, lower, upper, extent⟩
  have within := extent.within point.2 (List.mem_map_of_mem member)
  exact ⟨float_le_trans lower within.1, float_le_trans within.2 upper⟩

theorem curve_eq_nil_of_undefined
    (nowhere : ∀ index ≤ sampleIntervals, ∀ y,
      function (abscissa (window bounds) index) = .ok y →
        y.isFinite = false) :
    (sample function bounds records).curve = [] := by
  refine List.eq_nil_iff_forall_not_mem.2 fun point member => ?_
  rcases mem_curveOver_iff.1 member with ⟨index, sample⟩
  have undefined := nowhere index sample.within point.2
    (sample.abscissa ▸ sample.value)
  rw [sample.finite] at undefined
  cases undefined

/-- The vertical range is there exactly when the curve has points. It covers
them all, and with them the line at zero where they lie on both sides. -/
structure Covers (frame : Frame) : Prop where
  none_iff : frame.yRange = none ↔ frame.curve = []
  defined : ∀ low high, frame.yRange = some (low, high) →
    low.isNaN = false ∧ high.isNaN = false
  within : ∀ low high, frame.yRange = some (low, high) →
    ∀ point ∈ frame.curve, low ≤ point.2 ∧ point.2 ≤ high
  axis : (∃ below ∈ frame.curve, below.2 ≤ 0.0) →
    (∃ above ∈ frame.curve, 0.0 ≤ above.2) → frame.showsXAxis = true

theorem vertical_range_covers (function : RealFunction ε) (bounds : Bracket)
    (records : List IterationRecord) :
    Covers (sample function bounds records) ∧
      ((∀ index ≤ sampleIntervals, ∀ y,
          function (abscissa (window bounds) index) = .ok y →
            y.isFinite = false) →
        (sample function bounds records).showsXAxis = false) := by
  constructor
  · constructor
    case none_iff => exact yRange_eq_none_iff
    case defined =>
        intro low high found
        rcases exists_extent_inside found with ⟨_, _, lower, upper, -⟩
        exact ⟨(isNaN_of_le lower).1, (isNaN_of_le upper).2⟩
    case within => exact fun _ _ found _ member => yRange_within found member
    case axis =>
        rintro ⟨below, belowMember, negative⟩ ⟨above, aboveMember, positive⟩
        cases found : (sample function bounds records).yRange with
        | none =>
            rw [yRange_eq_none_iff] at found
            rw [found] at belowMember
            cases belowMember
        | some range =>
            have low := (yRange_within found belowMember).1
            have high := (yRange_within found aboveMember).2
            rw [showsXAxis, found]
            simpa using ⟨float_le_trans low negative,
              float_le_trans positive high⟩
  · intro nowhere
    rw [showsXAxis, yRange_eq_none_iff.2 (curve_eq_nil_of_undefined nowhere)]
    rfl

/-- A range without a span is widened by one unit. -/
theorem padded_of_equal {least greatest : Float} {number : ℚ}
    (leastIs : rational? least = some number)
    (greatestIs : rational? greatest = some number) :
    padded (least, greatest) = (least - 1.0, greatest + 1.0) := by
  have span : rational? (greatest - least) = some 0 := by
    rw [rational?_sub greatestIs leastIs, sub_self, rounded_of_nonneg le_rfl,
      roundedSize_zero, bounded?, if_pos (by simp)]
  have narrow : ¬greatest - least > 0.0 := by
    rw [gt_iff_lt, lt_iff_rational rational?_zero span]
    exact lt_irrefl 0
  rw [padded_eq, padding, if_neg narrow]

theorem IsExtent.flat {least greatest : Float} {number : ℚ}
    (extent : IsExtent
      ((sample function bounds records).curve.map Prod.snd) least greatest)
    (leastIs : rational? least = some number)
    (greatestIs : rational? greatest = some number) :
    ∀ point ∈ (sample function bounds records).curve,
      rational? point.2 = some number := by
  intro point member
  have value := List.mem_map_of_mem (f := Prod.snd) member
  have within := extent.within point.2 value
  rcases isFinite_iff_rational?.1 (isFinite_of_mem_values value) with
    ⟨other, isOther⟩
  rw [le_iff_rational leastIs isOther,
    le_iff_rational isOther greatestIs] at within
  rw [isOther, le_antisymm within.2 within.1]

/-- The height of the range is positive unless all values are one number that
absorbs a unit. -/
theorem range_positive_iff
    (found : (sample function bounds records).yRange = some (low, high)) :
    low < high ↔
      ¬∃ number, IsAbsorbing number ∧
        ∀ point ∈ (sample function bounds records).curve,
          rational? point.2 = some number := by
  rcases exists_extent found with ⟨least, greatest, extent, range⟩
  rcases extent.exists_rational with
    ⟨leastNumber, greatestNumber, leastIs, greatestIs, ordered⟩
  have unique (number : ℚ)
      (flat : ∀ point ∈ (sample function bounds records).curve,
        rational? point.2 = some number) :
      leastNumber = number ∧ greatestNumber = number := by
    have ends := extent.ends (fun value => rational? value = some number)
      (List.forall_mem_map.2 flat)
    rwa [leastIs, greatestIs, Option.some.injEq, Option.some.injEq] at ends
  rcases ordered.eq_or_lt with rfl | apart
  · rw [padded_of_equal leastIs greatestIs, Prod.mk.injEq] at range
    rcases range with ⟨rfl, rfl⟩
    rw [lt_iff_rational (rational?_sub_one leastIs)
      (rational?_add_one greatestIs),
      rounded_units_lt_iff (isRepresentable_of_rational? leastIs)]
    refine not_congr ⟨fun absorbing => ?_, ?_⟩
    · exact ⟨leastNumber, absorbing, extent.flat leastIs greatestIs⟩
    · rintro ⟨number, absorbing, flat⟩
      rwa [(unique number flat).1]
  · have different : least < greatest :=
      (lt_iff_rational leastIs greatestIs).2 apart
    rcases padded_outside leastIs greatestIs range with ⟨lower, upper⟩
    refine iff_of_true ?_ ?_
    · exact float_lt_of_lt_of_le (float_lt_of_le_of_lt lower different) upper
    · rintro ⟨number, -, flat⟩
      rcases unique number flat with ⟨rfl, same⟩
      exact apart.ne same.symm

theorem yRange_of_flat {value : Float}
    (drawn : (sample function bounds records).curve ≠ [])
    (flat : ∀ point ∈ (sample function bounds records).curve,
      point.2 = value) :
    (sample function bounds records).yRange = some (padded (value, value)) := by
  cases found : (sample function bounds records).yRange with
  | none => exact absurd (yRange_eq_none_iff.1 found) drawn
  | some range =>
      rcases exists_extent found with ⟨least, greatest, extent, same⟩
      rcases extent.ends (· = value) (List.forall_mem_map.2 flat) with
        ⟨rfl, rfl⟩
      rw [same]

/-- Every point of a constant function has its value. -/
theorem yRange_of_constant {value : Float} (finite : value.isFinite = true) :
    (sample (.ofTotal fun _ => value) bounds records).yRange =
      some (padded (value, value)) := by
  have first : IsSample (.ofTotal fun _ => value) (window bounds) 0
      (abscissa (window bounds) 0, value) :=
    ⟨Nat.zero_le _, rfl, rfl, finite⟩
  refine yRange_of_flat
    (List.ne_nil_of_mem (mem_curveOver_iff.2 ⟨0, first⟩)) ?_
  intro point member
  rcases mem_curveOver_iff.1 member with ⟨index, sample⟩
  exact (Except.ok.inj sample.value).symm

theorem range_positive_iff_tiedConstant :
    let frame := sample (.ofTotal fun _ => 9007199254740994.0) ⟨0.0, 1.0⟩ []
    frame.yRange = some (9007199254740992.0, 9007199254740996.0) ∧
      ((9007199254740992.0 : Float) < 9007199254740996.0 ↔
        ¬∃ number, IsAbsorbing number ∧
          ∀ point ∈ frame.curve, rational? point.2 = some number) := by
  intro frame
  have finite : (9007199254740994.0 : Float).isFinite = true := by
    decide +kernel
  have ends : padded (9007199254740994.0, 9007199254740994.0) =
      (9007199254740992.0, 9007199254740996.0) := by
    decide +kernel
  have found : frame.yRange =
      some (9007199254740992.0, 9007199254740996.0) := by
    rw [← ends]
    exact yRange_of_constant finite
  exact ⟨found, range_positive_iff found⟩

/-- The range of a constant function with a very large value has no height. -/
theorem range_not_always_positive :
    ¬∀ (value : Float → Float) (bounds : Bracket) (low high : Float),
      (sample (.ofTotal value) bounds []).yRange = some (low, high) →
        low < high := by
  intro always
  have finite : (1e300 : Float).isFinite = true := by decide +kernel
  have ends : padded (1e300, 1e300) = (1e300, 1e300) := by decide +kernel
  have found : (sample (.ofTotal fun _ => 1e300) ⟨0.0, 1.0⟩ []).yRange =
      some (1e300, 1e300) := by
    rw [← ends]
    exact yRange_of_constant finite
  have level : ¬(1e300 : Float) < 1e300 := by decide +kernel
  exact level (always _ _ _ _ found)

end Range

end Frame

end RootFinding
