import RootFinding.Proofs.Rounding
import RootFinding.Proofs.Sign

/-! The order of floats. Comparisons look at exponents first and significands
second, and come out as the order of the numbers that the floats stand for. -/

namespace RootFinding

open Float.Model (UnpackedFloat)

namespace Unpacked

/-! Magnitudes. -/

section Magnitude

variable {leftMantissa rightMantissa : ℕ} {leftExponent rightExponent : ℤ}

/-- The significands of a greater exponent are all in the upper half. -/
theorem Canonical.lt_of_exponent_lt
    (left : Canonical leftMantissa leftExponent)
    (right : Canonical rightMantissa rightExponent)
    (lower : leftExponent < rightExponent) :
    (leftMantissa * 2 ^ leftExponent : ℚ) <
      rightMantissa * 2 ^ rightExponent := by
  have leading : (2 ^ 52 : ℚ) ≤ rightMantissa := by
    rcases right.leading with leading | least
    · exact_mod_cast leading
    · have := left.least
      omega
  have bits : (leftMantissa : ℚ) < 2 ^ 53 := by exact_mod_cast left.bits
  calc (leftMantissa * 2 ^ leftExponent : ℚ)
      < 2 ^ 53 * 2 ^ leftExponent := by gcongr
    _ = 2 ^ 52 * 2 ^ (leftExponent + 1) := by
        rw [zpow_add_one₀ two_ne_zero]
        ring
    _ ≤ rightMantissa * 2 ^ rightExponent := by
        gcongr
        · norm_num
        · omega

theorem Canonical.compare_eq_cmp
    (left : Canonical leftMantissa leftExponent)
    (right : Canonical rightMantissa rightExponent) :
    (compare leftExponent rightExponent).then
        (compare leftMantissa rightMantissa) =
      cmp (leftMantissa * 2 ^ leftExponent : ℚ)
        (rightMantissa * 2 ^ rightExponent) := by
  rcases lt_trichotomy leftExponent rightExponent with lower | equal | higher
  · rw [compare_lt_iff_lt.mpr lower,
      (cmp_eq_lt_iff _ _).mpr (left.lt_of_exponent_lt right lower)]
    rfl
  · subst equal
    have unit : (0 : ℚ) < 2 ^ leftExponent := by positivity
    have same : compare leftExponent leftExponent = .eq :=
      compare_eq_iff_eq.mpr rfl
    rw [same, cmp_mul_pos_right unit, Nat.strictMono_cast.cmp_map_eq,
      cmp_eq_compare]
    rfl
  · rw [compare_gt_iff_gt.mpr higher,
      (cmp_eq_gt_iff _ _).mpr (right.lt_of_exponent_lt left higher)]
    rfl

end Magnitude

/-! Numbers with a sign. -/

def signed : UnpackedFloat.Sign → ℚ → ℚ
  | .negative, magnitude => -magnitude
  | .positive, magnitude => magnitude

section Signed

variable {left right : ℚ}

theorem cmp_zero_signed (sign : UnpackedFloat.Sign) (above : 0 < right) :
    cmp 0 (signed sign right) =
      match sign with
      | .negative => .gt
      | .positive => .lt := by
  cases sign with
  | negative => exact (cmp_eq_gt_iff _ _).mpr (neg_neg_of_pos above)
  | positive => exact (cmp_eq_lt_iff _ _).mpr above

theorem cmp_signed (leftSign rightSign : UnpackedFloat.Sign)
    (leftAbove : 0 < left) (rightAbove : 0 < right) :
    cmp (signed leftSign left) (signed rightSign right) =
      match leftSign, rightSign with
      | .negative, .negative => (cmp left right).swap
      | .negative, .positive => .lt
      | .positive, .negative => .gt
      | .positive, .positive => cmp left right := by
  have leftBelow := neg_neg_of_pos leftAbove
  have rightBelow := neg_neg_of_pos rightAbove
  have reversed : StrictAnti (Neg.neg : ℚ → ℚ) := fun _ _ => neg_lt_neg
  cases leftSign <;> cases rightSign
  case negative.negative =>
      exact (reversed.cmp_map_eq left right).trans (cmp_swap left right).symm
  case negative.positive =>
      exact (cmp_eq_lt_iff _ _).mpr (leftBelow.trans rightAbove)
  case positive.negative =>
      exact (cmp_eq_gt_iff _ _).mpr (rightBelow.trans leftAbove)
  case positive.positive => rfl

end Signed

/-! The infinities are at the ends of the order. -/

theorem cmp_coe (left right : ℚ) :
    cmp ((left : WithTop ℚ) : WithBot (WithTop ℚ)) (right : WithTop ℚ) =
      cmp left right :=
  (WithBot.coe_strictMono.comp WithTop.coe_strictMono).cmp_map_eq left right

theorem cmp_bot_coe (right : WithTop ℚ) :
    cmp (⊥ : WithBot (WithTop ℚ)) right = .lt :=
  (cmp_eq_lt_iff _ _).mpr (WithBot.bot_lt_coe right)

theorem cmp_coe_bot (left : WithTop ℚ) :
    cmp (left : WithBot (WithTop ℚ)) ⊥ = .gt :=
  (cmp_eq_gt_iff _ _).mpr (WithBot.bot_lt_coe left)

theorem cmp_coe_top (left : ℚ) :
    cmp ((left : WithTop ℚ) : WithBot (WithTop ℚ)) ⊤ = .lt :=
  (cmp_eq_lt_iff _ _).mpr (WithBot.coe_lt_coe.mpr (WithTop.coe_lt_top left))

theorem cmp_top_coe (right : ℚ) :
    cmp ⊤ ((right : WithTop ℚ) : WithBot (WithTop ℚ)) = .gt :=
  (cmp_eq_gt_iff _ _).mpr (WithBot.coe_lt_coe.mpr (WithTop.coe_lt_top right))

def number? : UnpackedFloat → Option (WithBot (WithTop ℚ))
  | .notANumber => none
  | .infinity .negative => some ⊥
  | .infinity .positive => some ⊤
  | .zero _ => some ((0 : ℚ) : WithTop ℚ)
  | .finite sign mantissa exponent _ =>
      some (signed sign (mantissa * 2 ^ exponent) : WithTop ℚ)

/-- A finite number has a canonical significand. -/
def IsCanonical : UnpackedFloat → Prop
  | .finite _ mantissa exponent _ => Canonical mantissa exponent
  | _ => True

theorem isCanonical_unpack (value : Float) :
    IsCanonical value.toModel.unpack := by
  unfold IsCanonical
  split
  · exact unpack_canonical ‹_›
  · trivial

theorem compare_eq_cmp {left right : UnpackedFloat}
    (leftCanonical : IsCanonical left) (rightCanonical : IsCanonical right) :
    left.compare right =
      (number? left).bind fun leftNumber =>
        (number? right).map fun rightNumber => cmp leftNumber rightNumber := by
  have scaled {mantissa : ℕ} (exponent : ℤ) (positive : 0 < mantissa) :
      (0 : ℚ) < mantissa * 2 ^ exponent := by
    positivity
  cases left with
  | notANumber => rfl
  | infinity leftSign =>
      cases right with
      | notANumber => cases leftSign <;> rfl
      | infinity rightSign =>
          cases leftSign <;> cases rightSign <;>
            simp only [number?, Option.bind_some, Option.map_some,
              cmp_self_eq_eq, (cmp_eq_lt_iff _ _).mpr bot_lt_top,
              (cmp_eq_gt_iff _ _).mpr bot_lt_top] <;> rfl
      | zero rightSign =>
          cases leftSign <;>
            simp only [number?, Option.bind_some, Option.map_some,
              cmp_bot_coe, cmp_top_coe] <;> rfl
      | finite rightSign =>
          cases leftSign <;>
            simp only [number?, Option.bind_some, Option.map_some,
              cmp_bot_coe, cmp_top_coe] <;> rfl
  | zero leftSign =>
      cases right with
      | notANumber => rfl
      | infinity rightSign =>
          cases rightSign <;>
            simp only [number?, Option.bind_some, Option.map_some,
              cmp_coe_bot, cmp_coe_top] <;> rfl
      | zero rightSign =>
          simp only [number?, Option.bind_some, Option.map_some,
            cmp_self_eq_eq]
          rfl
      | finite rightSign mantissa exponent positive =>
          simp only [number?, Option.bind_some, Option.map_some, cmp_coe,
            cmp_zero_signed rightSign (scaled exponent positive)]
          cases rightSign <;> rfl
  | finite leftSign leftMantissa leftExponent leftPositive =>
      have leftAbove := scaled leftExponent leftPositive
      cases right with
      | notANumber => cases leftSign <;> rfl
      | infinity rightSign =>
          cases rightSign <;>
            simp only [number?, Option.bind_some, Option.map_some,
              cmp_coe_bot, cmp_coe_top] <;> cases leftSign <;> rfl
      | zero rightSign =>
          simp only [number?, Option.bind_some, Option.map_some, cmp_coe,
            ← cmp_swap (0 : ℚ), cmp_zero_signed leftSign leftAbove]
          cases leftSign <;> rfl
      | finite rightSign rightMantissa rightExponent rightPositive =>
          have rightAbove := scaled rightExponent rightPositive
          simp only [number?, Option.bind_some, Option.map_some, cmp_coe,
            cmp_signed leftSign rightSign leftAbove rightAbove,
            ← Canonical.compare_eq_cmp leftCanonical rightCanonical]
          cases leftSign <;> cases rightSign <;> rfl

end Unpacked

/-- The number that a float stands for, between the two infinities. `NaN`
stands for none. -/
def number? (value : Float) : Option (WithBot (WithTop ℚ)) :=
  Unpacked.number? value.toModel.unpack

section Comparisons

variable {left middle right : Float}

theorem compare_eq_some_iff {ordering : Ordering} :
    left.toModel.unpack.compare right.toModel.unpack = some ordering ↔
      ∃ leftNumber, number? left = some leftNumber ∧
        ∃ rightNumber, number? right = some rightNumber ∧
          cmp leftNumber rightNumber = ordering := by
  rw [Unpacked.compare_eq_cmp (Unpacked.isCanonical_unpack left)
    (Unpacked.isCanonical_unpack right)]
  simp only [Option.bind_eq_some_iff, Option.map_eq_some_iff, number?]

theorem isNaN_iff_number? {value : Float} :
    value.isNaN = true ↔ number? value = none := by
  unfold number?
  change value.toModel.unpack.isNaN = true ↔ _
  cases value.toModel.unpack with
  | infinity sign => cases sign <;> exact iff_of_false nofun nofun
  | _ => simp [UnpackedFloat.isNaN, Unpacked.number?]

theorem lt_iff_number :
    left < right ↔
      ∃ leftNumber, number? left = some leftNumber ∧
        ∃ rightNumber, number? right = some rightNumber ∧
          leftNumber < rightNumber := by
  simp only [lt_iff_compare, compare_eq_some_iff, cmp_eq_lt_iff]

theorem beq_iff_number :
    (left == right) = true ↔
      ∃ leftNumber, number? left = some leftNumber ∧
        number? right = some leftNumber := by
  change (left.toModel.unpack.compare right.toModel.unpack == some .eq) = true ↔
    _
  simp only [beq_iff_eq, compare_eq_some_iff, cmp_eq_eq_iff,
    exists_eq_right']

theorem le_iff_number :
    left ≤ right ↔
      ∃ leftNumber, number? left = some leftNumber ∧
        ∃ rightNumber, number? right = some rightNumber ∧
          leftNumber ≤ rightNumber := by
  have compared : left ≤ right ↔
      left.toModel.unpack.compare right.toModel.unpack = some .lt ∨
        left.toModel.unpack.compare right.toModel.unpack = some .eq := by
    change decide (left.toModel.unpack.le right.toModel.unpack = true) = true ↔
      _
    rw [decide_eq_true_eq, UnpackedFloat.le]
    rcases left.toModel.unpack.compare right.toModel.unpack with _ | ordering
    · simp
    · cases ordering <;> simp
  simp only [compared, compare_eq_some_iff, cmp_eq_lt_iff, cmp_eq_eq_iff,
    le_iff_lt_or_eq]
  constructor
  · rintro (⟨_, leftIs, _, rightIs, less⟩ | ⟨_, leftIs, _, rightIs, equal⟩)
    · exact ⟨_, leftIs, _, rightIs, .inl less⟩
    · exact ⟨_, leftIs, _, rightIs, .inr equal⟩
  · rintro ⟨_, leftIs, _, rightIs, less | equal⟩
    · exact .inl ⟨_, leftIs, _, rightIs, less⟩
    · exact .inr ⟨_, leftIs, _, rightIs, equal⟩

theorem float_le_trans (first : left ≤ middle) (second : middle ≤ right) :
    left ≤ right := by
  rw [le_iff_number] at first second ⊢
  rcases first with ⟨leftNumber, leftIs, middleNumber, middleIs, first⟩
  rcases second with ⟨_, middleIs', rightNumber, rightIs, second⟩
  rw [middleIs, Option.some.injEq] at middleIs'
  subst middleIs'
  exact ⟨leftNumber, leftIs, rightNumber, rightIs, first.trans second⟩

theorem float_lt_of_lt_of_le (less : left < middle) (atMost : middle ≤ right) :
    left < right := by
  rw [lt_iff_number] at less ⊢
  rw [le_iff_number] at atMost
  rcases less with ⟨leftNumber, leftIs, middleNumber, middleIs, less⟩
  rcases atMost with ⟨_, middleIs', rightNumber, rightIs, atMost⟩
  rw [middleIs, Option.some.injEq] at middleIs'
  subst middleIs'
  exact ⟨leftNumber, leftIs, rightNumber, rightIs, less.trans_le atMost⟩

theorem float_lt_of_le_of_lt (atMost : left ≤ middle) (less : middle < right) :
    left < right := by
  rw [lt_iff_number] at less ⊢
  rw [le_iff_number] at atMost
  rcases atMost with ⟨leftNumber, leftIs, middleNumber, middleIs, atMost⟩
  rcases less with ⟨_, middleIs', rightNumber, rightIs, less⟩
  rw [middleIs, Option.some.injEq] at middleIs'
  subst middleIs'
  exact ⟨leftNumber, leftIs, rightNumber, rightIs, atMost.trans_lt less⟩

theorem float_le_of_beq (equal : (left == right) = true) : left ≤ right := by
  rcases beq_iff_number.mp equal with ⟨number, leftIs, rightIs⟩
  exact le_iff_number.mpr ⟨number, leftIs, number, rightIs, le_rfl⟩

end Comparisons

end RootFinding
