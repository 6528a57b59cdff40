import RootFinding.Proofs.Order
import RootFinding.Proofs.RoundedNumber
import RootFinding.Proofs.Symmetry

/-! Arithmetic on floats as arithmetic on rational numbers. What an operation
on finite floats gives is the exact result, rounded, unless that is past the
largest float. -/

namespace RootFinding

open Float.Model (Format UnpackedFloat totalExponent)

namespace Unpacked

open Float.Model.UnpackedFloat

/-! Signs of rational numbers. -/

section Signed

variable {sign left right : UnpackedFloat.Sign} {exact other : ℚ}

@[simp] theorem signed_zero : signed sign 0 = 0 := by
  cases sign
  · exact neg_zero
  · rfl

@[simp] theorem abs_signed : |signed sign exact| = |exact| := by
  cases sign
  · exact abs_neg exact
  · rfl

theorem signed_mul :
    signed (left * right) (exact * other) =
      signed left exact * signed right other := by
  cases left <;> cases right
  · exact (neg_mul_neg exact other).symm
  · exact (neg_mul exact other).symm
  · exact (mul_neg exact other).symm
  · rfl

theorem signed_div :
    signed (left / right) (exact / other) =
      signed left exact / signed right other := by
  cases left <;> cases right
  · exact (neg_div_neg_eq exact other).symm
  · exact (neg_div other exact).symm
  · exact (div_neg exact).symm
  · rfl

theorem signed_neg : signed (-sign) exact = -signed sign exact := by
  cases sign
  · exact (neg_neg exact).symm
  · rfl

theorem rounded_signed :
    rounded (signed sign exact) = signed sign (rounded exact) := by
  cases sign
  · exact rounded_neg exact
  · rfl

end Signed

/-- The number that a finite float stands for. -/
def rational? : UnpackedFloat → Option ℚ
  | .zero _ => some 0
  | .finite sign mantissa exponent _ =>
      some (signed sign (mantissa * 2 ^ exponent))
  | .infinity _ => none
  | .notANumber => none

theorem rational?_withSign {value : UnpackedFloat} {number : ℚ}
    (sign : UnpackedFloat.Sign) (isNumber : rational? value = some number) :
    rational? (withSign sign value) = some (signed sign |number|) := by
  cases value with
  | notANumber => cases isNumber
  | infinity other => cases isNumber
  | zero other =>
      cases isNumber
      simp [withSign, rational?]
  | finite other mantissa exponent positive =>
      cases isNumber
      have magnitude : (0 : ℚ) ≤ mantissa * 2 ^ exponent := by positivity
      simp [withSign, rational?, abs_of_nonneg magnitude]

theorem isCanonical_withSign {value : UnpackedFloat}
    (sign : UnpackedFloat.Sign) (canonical : IsCanonical value) :
    IsCanonical (withSign sign value) := by
  cases value <;> exact canonical

theorem Canonical.isRepresentable {mantissa : ℕ} {exponent : ℤ}
    (sign : UnpackedFloat.Sign) (canonical : Canonical mantissa exponent) :
    IsRepresentable (signed sign (mantissa * 2 ^ exponent)) := by
  have magnitude : (0 : ℚ) ≤ mantissa * 2 ^ exponent := by positivity
  refine ⟨mantissa, exponent, canonical.bits, canonical.least, ?_⟩
  rw [abs_signed, abs_of_nonneg magnitude]

theorem isRepresentable_of_rational? {value : UnpackedFloat} {number : ℚ}
    (canonical : IsCanonical value) (isNumber : rational? value = some number) :
    IsRepresentable number := by
  cases value with
  | notANumber => cases isNumber
  | infinity sign => cases isNumber
  | zero sign =>
      cases isNumber
      exact ⟨0, 0, by decide, by decide, by simp⟩
  | finite sign mantissa exponent positive =>
      cases isNumber
      exact Canonical.isRepresentable sign canonical

/-! Results of operations, before they are packed. -/

/-- The result is the rounded number in its canonical form. -/
structure Rounds (result : UnpackedFloat) (exact : ℚ) : Prop where
  canonical : IsCanonical result
  number : rational? result = some (rounded exact)

theorem Rounds.of_rational? {value : UnpackedFloat} {number : ℚ}
    (canonical : IsCanonical value) (isNumber : rational? value = some number) :
    Rounds value number where
  canonical := canonical
  number := by
    rw [(isRepresentable_of_rational? canonical isNumber).rounded_eq, isNumber]

theorem Canonical.settled {mantissa : ℕ} {exponent : ℤ}
    (canonical : Canonical mantissa exponent) :
    Format.binary64.targetExponent (totalExponent mantissa exponent) =
      exponent := by
  have positive : (0 : ℚ) < mantissa := by
    exact_mod_cast Nat.pos_of_ne_zero canonical.nonzero
  have unit : (0 : ℚ) < 2 ^ exponent := by positivity
  exact (targetExponent_eq (mul_pos positive unit) le_rfl
    (mul_lt_mul_of_pos_right (lt_add_one _) unit)
    canonical.spacing_eq.ge).trans canonical.spacing_eq

theorem carried_full {exponent : ℤ} (least : -1074 ≤ exponent) :
    carried (2 ^ 53) exponent =
      .finite .positive (2 ^ 52) (exponent + 1) (by decide) := by
  have size : (2 ^ 53).log2 = 53 := Nat.log2_two_pow
  have target :
      Format.binary64.targetExponent (totalExponent (2 ^ 53) exponent) =
        exponent + 1 := by
    rw [targetExponent_binary64, totalExponent, size]
    omega
  have shifted : ExtendedMantissa.ofMantissaAndAccuracy (2 ^ 53) .exact >>> 1 =
      ⟨2 ^ 52, false, false⟩ := rfl
  unfold carried shiftToTargetExponent shiftToExponent
  dsimp only
  rw [target, add_sub_cancel_left, Int.toNat_one, shifted]
  rfl

/-- A count that fills the significand, or has the least exponent. -/
theorem carried_number {count : ℕ} {exponent : ℤ} (bits : count ≤ 2 ^ 53)
    (least : -1074 ≤ exponent) (leading : 2 ^ 52 ≤ count ∨ exponent = -1074) :
    IsCanonical (carried count exponent) ∧
      rational? (carried count exponent) = some (count * 2 ^ exponent : ℚ) := by
  rcases Nat.eq_zero_or_pos count with rfl | positive
  · have bottom : exponent = -1074 := leading.resolve_left (by decide)
    have settled : Format.binary64.targetExponent (totalExponent 0 exponent) =
        exponent := by
      rw [targetExponent_binary64, totalExponent, Nat.log2_zero]
      omega
    rw [carried_eq settled]
    exact ⟨trivial, by simp [ofCount, rational?]⟩
  rcases bits.eq_or_lt with rfl | bits
  · rw [carried_full least]
    refine ⟨⟨by decide, by decide, by omega, .inl le_rfl⟩, ?_⟩
    rw [rational?, signed, zpow_add_one₀ two_ne_zero]
    congr 1
    push_cast
    ring
  · have canonical : Canonical count exponent :=
      ⟨positive.ne', bits, least, leading⟩
    rw [carried_eq canonical.settled, ofCount, dif_neg positive.ne']
    exact ⟨canonical, rfl⟩

theorem rounds_nearest {exact : ℚ} (nonnegative : 0 ≤ exact) :
    Rounds (nearest exact) exact := by
  rcases nonnegative.eq_or_lt with rfl | positive
  · rw [nearest_zero]
    exact .of_rational? trivial rfl
  have unit : (0 : ℚ) < 2 ^ spacing exact := by positivity
  have bits : Decimal.nearestEven (exact / 2 ^ spacing exact) ≤ 2 ^ 53 := by
    have below : exact < 2 ^ ((53 : ℕ) + spacing exact) := by
      rw [← log_lt_iff positive]
      unfold spacing
      omega
    rw [zpow_add₀ two_ne_zero, zpow_natCast] at below
    rw [← nearestEven_natCast (2 ^ 53)]
    refine Decimal.nearestEven_mono (div_nonneg nonnegative unit.le) ?_
    rw [div_le_iff₀ unit]
    exact_mod_cast below.le
  have leading :
      2 ^ 52 ≤ Decimal.nearestEven (exact / 2 ^ spacing exact) ∨
        spacing exact = -1074 := by
    refine (max_choice (Int.log 2 exact - 52) (-1074)).imp (fun start => ?_) id
    have above : (2 : ℚ) ^ ((52 : ℕ) + spacing exact) ≤ exact := by
      rw [← le_log_iff positive]
      unfold spacing
      omega
    rw [zpow_add₀ two_ne_zero, zpow_natCast] at above
    rw [← nearestEven_natCast (2 ^ 52)]
    refine Decimal.nearestEven_mono (by positivity) ?_
    rw [le_div_iff₀ unit]
    exact_mod_cast above
  have result := carried_number bits (le_max_right ..) leading
  refine ⟨result.1, ?_⟩
  rw [rounded_of_nonneg nonnegative]
  exact result.2

theorem rounds_withSign {exact : ℚ} (sign : UnpackedFloat.Sign)
    (nonnegative : 0 ≤ exact) :
    Rounds (withSign sign (nearest exact)) (signed sign exact) := by
  have magnitude := rounds_nearest nonnegative
  refine ⟨isCanonical_withSign sign magnitude.canonical, ?_⟩
  rw [rational?_withSign sign magnitude.number, rounded_signed, abs_rounded,
    abs_of_nonneg nonnegative, rounded_of_nonneg nonnegative]

theorem roundWithAccuracy_eq_withSign (format : Format)
    (sign : UnpackedFloat.Sign) (mantissa : ℕ) (exponent : ℤ)
    (accuracy : Accuracy) :
    roundWithAccuracy format sign mantissa exponent accuracy =
      withSign sign
        (roundWithAccuracy format .positive mantissa exponent accuracy) := by
  simp only [roundWithAccuracy]
  split_ifs <;> rfl

theorem rounds_roundWithAccuracy {mantissa : ℕ} {exponent : ℤ}
    {accuracy : Accuracy} {exact : ℚ} (sign : UnpackedFloat.Sign)
    (positive : 0 < exact)
    (represents : Represents (.ofMantissaAndAccuracy mantissa accuracy)
      (exact / 2 ^ exponent))
    (fine : exponent ≤ spacing exact) :
    Rounds (roundWithAccuracy .binary64 sign mantissa exponent accuracy)
      (signed sign exact) := by
  rw [roundWithAccuracy_eq_withSign,
    roundWithAccuracy_eq_nearest positive represents fine]
  exact rounds_withSign sign positive.le

/-! Bits that are moved to the left stand for the same number. -/

theorem decreaseExponent_exponent (mantissa : ℕ) {exponent target : ℤ}
    (lower : target ≤ exponent) :
    (decreaseExponent mantissa exponent target).2 = target := by
  unfold decreaseExponent
  dsimp only
  omega

theorem decreaseExponent_number (mantissa : ℕ) (exponent target : ℤ) :
    ((decreaseExponent mantissa exponent target).1 : ℚ) *
        2 ^ (decreaseExponent mantissa exponent target).2 =
      mantissa * 2 ^ exponent := by
  unfold decreaseExponent
  dsimp only
  rw [Nat.shiftLeft_eq]
  push_cast
  rw [← zpow_natCast, mul_assoc, ← zpow_add₀ two_ne_zero]
  congr 2
  omega

theorem rounds_round {count : ℕ} (sign : UnpackedFloat.Sign)
    (positive : 0 < count) (exponent : ℤ) :
    Rounds (UnpackedFloat.round .binary64 sign count exponent)
      (signed sign (count * 2 ^ exponent)) := by
  have cast : (0 : ℚ) < count := by exact_mod_cast positive
  have unit : (0 : ℚ) < 2 ^ exponent := by positivity
  have log : Int.log 2 ((count : ℚ) * 2 ^ exponent) = count.log2 + exponent :=
    log_eq positive.ne' le_rfl
      (mul_lt_mul_of_pos_right (lt_add_one (count : ℚ)) unit)
  unfold UnpackedFloat.round
  dsimp only
  set target := Format.binary64.targetExponent (totalExponent count exponent)
    with reached
  have same := decreaseExponent_number count exponent target
  set moved := decreaseExponent count exponent target with shifted
  refine rounds_roundWithAccuracy sign (mul_pos cast unit) ?_ ?_
  · rw [← same, mul_div_cancel_right₀ _ (by positivity)]
    exact represents_exact _
  · rw [shifted, decreaseExponent]
    dsimp only
    rw [reached, targetExponent_binary64, totalExponent]
    unfold spacing
    omega

theorem rounds_normalize (mantissa exponent : ℤ)
    (zeroSign : UnpackedFloat.Sign) :
    Rounds (UnpackedFloat.normalize .binary64 mantissa exponent zeroSign)
      (mantissa * 2 ^ exponent) := by
  unfold UnpackedFloat.normalize
  rcases lt_trichotomy mantissa 0 with negative | rfl | positive
  · rw [compare_lt_iff_lt.2 negative]
    have cast : (((-mantissa).toNat : ℕ) : ℚ) = -mantissa := by
      exact_mod_cast Int.toNat_of_nonneg (by omega : 0 ≤ -mantissa)
    have result := rounds_round .negative
      (by omega : 0 < (-mantissa).toNat) exponent
    rwa [signed, cast, neg_mul, neg_neg] at result
  · rw [compare_eq_iff_eq.2 rfl, Int.cast_zero, zero_mul]
    exact .of_rational? trivial rfl
  · rw [compare_gt_iff_gt.2 positive]
    have cast : ((mantissa.toNat : ℕ) : ℚ) = mantissa := by
      exact_mod_cast Int.toNat_of_nonneg positive.le
    have result := rounds_round .positive
      (by omega : 0 < mantissa.toNat) exponent
    rwa [signed, cast] at result

/-! Operations. -/

section Operations

variable {left right : UnpackedFloat} {leftNumber rightNumber : ℚ}

theorem apply_decreaseExponent (sign : UnpackedFloat.Sign) (mantissa : ℕ)
    {exponent target : ℤ} (lower : target ≤ exponent) :
    ((sign.apply (decreaseExponent mantissa exponent target).1 : ℤ) : ℚ) *
        2 ^ target =
      signed sign (mantissa * 2 ^ exponent) := by
  have same := decreaseExponent_number mantissa exponent target
  rw [decreaseExponent_exponent mantissa lower] at same
  rw [← same]
  cases sign <;> simp [Sign.apply, signed]

theorem rounds_add (leftCanonical : IsCanonical left)
    (rightCanonical : IsCanonical right)
    (leftIs : rational? left = some leftNumber)
    (rightIs : rational? right = some rightNumber) :
    Rounds (add .binary64 left right) (leftNumber + rightNumber) := by
  cases left with
  | notANumber => cases leftIs
  | infinity sign => cases leftIs
  | zero leftSign =>
      cases leftIs
      rw [zero_add]
      cases right with
      | notANumber => cases rightIs
      | infinity sign => cases rightIs
      | zero rightSign =>
          cases rightIs
          cases leftSign <;> cases rightSign <;> exact .of_rational? trivial rfl
      | finite => exact .of_rational? rightCanonical rightIs
  | finite leftSign leftMantissa leftExponent =>
      cases right with
      | notANumber => cases rightIs
      | infinity sign => cases rightIs
      | zero rightSign =>
          cases rightIs
          rw [add_zero]
          exact .of_rational? leftCanonical leftIs
      | finite rightSign rightMantissa rightExponent =>
          cases leftIs
          cases rightIs
          rw [← apply_decreaseExponent leftSign leftMantissa
              (min_le_left leftExponent rightExponent),
            ← apply_decreaseExponent rightSign rightMantissa
              (min_le_right leftExponent rightExponent),
            ← add_mul, ← Int.cast_add]
          exact rounds_normalize ..

theorem rounds_sub (leftCanonical : IsCanonical left)
    (rightCanonical : IsCanonical right)
    (leftIs : rational? left = some leftNumber)
    (rightIs : rational? right = some rightNumber) :
    Rounds (sub .binary64 left right) (leftNumber - rightNumber) := by
  cases left with
  | notANumber => cases leftIs
  | infinity sign => cases leftIs
  | zero leftSign =>
      cases leftIs
      rw [zero_sub]
      cases right with
      | notANumber => cases rightIs
      | infinity sign => cases rightIs
      | zero rightSign =>
          cases rightIs
          rw [neg_zero]
          cases leftSign <;> cases rightSign <;> exact .of_rational? trivial rfl
      | finite rightSign =>
          cases rightIs
          rw [← signed_neg]
          exact .of_rational? rightCanonical rfl
  | finite leftSign leftMantissa leftExponent =>
      cases right with
      | notANumber => cases rightIs
      | infinity sign => cases rightIs
      | zero rightSign =>
          cases rightIs
          rw [sub_zero]
          exact .of_rational? leftCanonical leftIs
      | finite rightSign rightMantissa rightExponent =>
          cases leftIs
          cases rightIs
          rw [← apply_decreaseExponent leftSign leftMantissa
              (min_le_left leftExponent rightExponent),
            ← apply_decreaseExponent rightSign rightMantissa
              (min_le_right leftExponent rightExponent),
            ← sub_mul, ← Int.cast_sub]
          exact rounds_normalize ..

/-- A product has bits enough, unless both factors have the least exponent. -/
theorem Canonical.add_le_spacing {leftMantissa rightMantissa : ℕ}
    {leftExponent rightExponent : ℤ}
    (left : Canonical leftMantissa leftExponent)
    (right : Canonical rightMantissa rightExponent) :
    leftExponent + rightExponent ≤
      spacing (leftMantissa * 2 ^ leftExponent *
        (rightMantissa * 2 ^ rightExponent)) := by
  have leftPositive : (1 : ℚ) ≤ leftMantissa := by
    exact_mod_cast Nat.one_le_iff_ne_zero.2 left.nonzero
  have rightPositive : (1 : ℚ) ≤ rightMantissa := by
    exact_mod_cast Nat.one_le_iff_ne_zero.2 right.nonzero
  have enough (bits : (2 : ℚ) ^ 52 ≤ leftMantissa * rightMantissa) :
      leftExponent + rightExponent ≤
        spacing (leftMantissa * 2 ^ leftExponent *
          (rightMantissa * 2 ^ rightExponent)) := by
    refine le_spacing (by positivity) ?_
    calc (2 : ℚ) ^ (leftExponent + rightExponent + 52)
        = 2 ^ 52 * 2 ^ (leftExponent + rightExponent) := by
          rw [zpow_add₀ two_ne_zero, mul_comm]
          rfl
      _ ≤ leftMantissa * rightMantissa *
            2 ^ (leftExponent + rightExponent) := by gcongr
      _ = leftMantissa * 2 ^ leftExponent *
            (rightMantissa * 2 ^ rightExponent) := by
          rw [zpow_add₀ two_ne_zero]
          ring
  rcases left.leading with leading | leftLeast
  · have bits : (2 : ℚ) ^ 52 ≤ leftMantissa := by exact_mod_cast leading
    exact enough
      (bits.trans (le_mul_of_one_le_right (by positivity) rightPositive))
  rcases right.leading with leading | rightLeast
  · have bits : (2 : ℚ) ^ 52 ≤ rightMantissa := by exact_mod_cast leading
    exact enough
      (bits.trans (le_mul_of_one_le_left (by positivity) leftPositive))
  · exact le_trans (by omega) (le_max_right ..)

theorem rounds_mul (leftCanonical : IsCanonical left)
    (rightCanonical : IsCanonical right)
    (leftIs : rational? left = some leftNumber)
    (rightIs : rational? right = some rightNumber) :
    Rounds (mul .binary64 left right) (leftNumber * rightNumber) := by
  cases left with
  | notANumber => cases leftIs
  | infinity sign => cases leftIs
  | zero leftSign =>
      cases leftIs
      rw [zero_mul]
      cases right with
      | notANumber => cases rightIs
      | infinity sign => cases rightIs
      | zero rightSign => exact .of_rational? trivial rfl
      | finite => exact .of_rational? trivial rfl
  | finite leftSign leftMantissa leftExponent leftPositive =>
      cases right with
      | notANumber => cases rightIs
      | infinity sign => cases rightIs
      | zero rightSign =>
          cases rightIs
          rw [mul_zero]
          exact .of_rational? trivial rfl
      | finite rightSign rightMantissa rightExponent rightPositive =>
          cases leftIs
          cases rightIs
          have unit : (0 : ℚ) < 2 ^ (leftExponent + rightExponent) := by
            positivity
          have product : (leftMantissa : ℚ) * 2 ^ leftExponent *
              (rightMantissa * 2 ^ rightExponent) =
                (leftMantissa * rightMantissa : ℕ) *
                  2 ^ (leftExponent + rightExponent) := by
            rw [zpow_add₀ two_ne_zero]
            push_cast
            ring
          have positive : (0 : ℚ) < (leftMantissa * rightMantissa : ℕ) *
              2 ^ (leftExponent + rightExponent) :=
            mul_pos (by exact_mod_cast Nat.mul_pos leftPositive rightPositive)
              unit
          rw [← signed_mul, product]
          refine rounds_roundWithAccuracy _ positive ?_ ?_
          · rw [mul_div_cancel_right₀ _ unit.ne']
            exact represents_exact _
          · rw [← product]
            exact Canonical.add_le_spacing leftCanonical rightCanonical

theorem div_eq_withSign (format : Format)
    (leftSign rightSign : UnpackedFloat.Sign) {leftMantissa rightMantissa : ℕ}
    (leftExponent rightExponent : ℤ) (leftPositive : 0 < leftMantissa)
    (rightPositive : 0 < rightMantissa) :
    div format (.finite leftSign leftMantissa leftExponent leftPositive)
        (.finite rightSign rightMantissa rightExponent rightPositive) =
      withSign (leftSign / rightSign)
        (div format (.finite .positive leftMantissa leftExponent leftPositive)
          (.finite .positive rightMantissa rightExponent rightPositive)) :=
  roundWithAccuracy_eq_withSign ..

theorem rounds_div (leftIs : rational? left = some leftNumber)
    (rightIs : rational? right = some rightNumber)
    (nonzero : rightNumber ≠ 0) :
    Rounds (div .binary64 left right) (leftNumber / rightNumber) := by
  cases right with
  | notANumber => cases rightIs
  | infinity sign => cases rightIs
  | zero rightSign =>
      cases rightIs
      exact absurd rfl nonzero
  | finite rightSign rightMantissa rightExponent rightPositive =>
      cases left with
      | notANumber => cases leftIs
      | infinity sign => cases leftIs
      | zero leftSign =>
          cases leftIs
          rw [zero_div]
          exact .of_rational? trivial rfl
      | finite leftSign leftMantissa leftExponent leftPositive =>
          cases leftIs
          cases rightIs
          rw [← signed_div, div_eq_withSign, div_eq_nearest]
          exact rounds_withSign _ (by positivity)

end Operations

/-! Results are packed. Those that the floats do not reach become infinite. -/

theorem unpack_pack_subnormal {sign : UnpackedFloat.Sign} {mantissa : ℕ}
    {positive : 0 < mantissa} (small : mantissa < 2 ^ 52) :
    unpack .binary64 (pack .binary64
        (.finite sign mantissa (-1074) positive)) =
      .finite sign mantissa (-1074) positive := by
  have size : mantissa.log2 < 52 := (Nat.log2_lt positive.ne').2 small
  have word : (BitVec.ofNat 52 mantissa).toNat = mantissa := by
    rw [BitVec.toNat_ofNat]
    exact Nat.mod_eq_of_lt small
  have fraction : BitVec.ofNat 52 mantissa ≠ 0#52 := fun none => by
    rw [none] at word
    exact positive.ne word
  have top : (0#11 : BitVec 11) ≠ -1#11 := by decide
  have bits : mantissa.log2 + 1 ≠ Format.binary64.mantissaBits := by
    change mantissa.log2 + 1 ≠ 53
    omega
  have bottom : ¬2 ^ 11 ≤ (-1074 + Format.binary64.exponentBias +
      (Format.binary64.mantissaBitsWithoutImplicit : ℕ) : ℤ).toNat + 1 := by
    decide
  unfold pack
  dsimp only
  rw [if_neg bottom, if_neg bits]
  unfold unpack
  simp only [unpackExponent_packComponents, unpackMantissa_packComponents,
    unpackSign_packComponents, Sign.ofBitVec_toBitVec, if_neg top,
    if_true, dif_neg fraction]
  congr 1

theorem unpack_pack_of_canonical {sign : UnpackedFloat.Sign} {mantissa : ℕ}
    {exponent : ℤ} {positive : 0 < mantissa}
    (canonical : Canonical mantissa exponent) (small : exponent ≤ 971) :
    (Float.Model.pack (.finite sign mantissa exponent positive)).unpack =
      .finite sign mantissa exponent positive := by
  by_cases leading : 2 ^ 52 ≤ mantissa
  · exact unpack_pack_of_leading canonical.bits leading canonical.least small
  · obtain rfl := canonical.leading.resolve_left leading
    exact unpack_pack_subnormal (not_le.1 leading)

theorem unpack_infinity (sign : UnpackedFloat.Sign) :
    unpack .binary64 (packComponents .binary64 sign (-1#_) 0) =
      .infinity sign := by
  unfold unpack
  simp

theorem unpack_pack_of_large {sign : UnpackedFloat.Sign} {mantissa : ℕ}
    {exponent : ℤ} {positive : 0 < mantissa} (large : 971 < exponent) :
    (Float.Model.pack (.finite sign mantissa exponent positive)).unpack =
      .infinity sign := by
  have overflow :
      pack .binary64 (.finite sign mantissa exponent positive) =
        packComponents .binary64 sign (-1#_) 0 := by
    refine if_pos ?_
    change 2 ^ 11 ≤ (exponent + 1023 + 52).toNat + 1
    omega
  change unpack .binary64 (pack .binary64 _) = _
  rw [overflow, unpack_infinity]

theorem Canonical.lt_limit_iff {mantissa : ℕ} {exponent : ℤ}
    (canonical : Canonical mantissa exponent) :
    (mantissa * 2 ^ exponent : ℚ) < 2 ^ 1024 ↔ exponent ≤ 971 := by
  constructor
  · intro below
    by_contra large
    have leading : (2 : ℚ) ^ 52 ≤ mantissa := by
      exact_mod_cast canonical.leading.resolve_right (by omega)
    have unit : (0 : ℚ) < 2 ^ (971 : ℤ) := by positivity
    have start : (2 : ℚ) * 2 ^ (971 : ℤ) ≤ 2 ^ exponent := by
      rw [← zpow_one_add₀ two_ne_zero]
      exact zpow_le_zpow_right₀ one_le_two (by omega)
    have reached : (2 : ℚ) ^ 1024 ≤ mantissa * 2 ^ exponent := by
      calc (2 : ℚ) ^ 1024 = 2 ^ 52 * (2 * 2 ^ (971 : ℤ)) := by
            rw [two_pow_limit]
            ring
        _ ≤ (mantissa : ℚ) * 2 ^ exponent :=
            mul_le_mul leading start (mul_nonneg zero_le_two unit.le)
              (Nat.cast_nonneg mantissa)
    exact reached.not_gt below
  · intro small
    have bits : (mantissa : ℚ) < 2 ^ 53 := by exact_mod_cast canonical.bits
    rw [two_pow_limit]
    calc (mantissa * 2 ^ exponent : ℚ) < 2 ^ 53 * 2 ^ exponent := by gcongr
      _ ≤ 2 ^ 53 * 2 ^ (971 : ℤ) := by
          gcongr
          exact one_le_two

/-- The number, where it is below the first power of two past the floats. -/
def bounded? (number : ℚ) : Option ℚ :=
  if |number| < 2 ^ 1024 then some number else none

theorem Rounds.rational?_pack {result : UnpackedFloat} {exact : ℚ}
    (rounds : Rounds result exact) :
    rational? (Float.Model.pack result).unpack = bounded? (rounded exact) := by
  have isNumber := rounds.number
  have canonical := rounds.canonical
  unfold bounded?
  cases result with
  | notANumber => cases isNumber
  | infinity sign => cases isNumber
  | zero sign =>
      injection isNumber with zero
      rw [← zero, abs_zero, if_pos (by positivity)]
      cases sign <;> rfl
  | finite sign mantissa exponent positive =>
      injection isNumber with number
      have magnitude : (0 : ℚ) ≤ mantissa * 2 ^ exponent := by positivity
      have limit := Canonical.lt_limit_iff canonical
      rw [← number, abs_signed, abs_of_nonneg magnitude]
      by_cases small : exponent ≤ 971
      · rw [if_pos (limit.2 small), unpack_pack_of_canonical canonical small]
        rfl
      · rw [if_neg (mt limit.1 small), unpack_pack_of_large (not_le.1 small)]
        rfl

theorem rational?_pack_none {result : UnpackedFloat}
    (notFinite : rational? result = none) :
    rational? (Float.Model.pack result).unpack = none := by
  cases result with
  | notANumber =>
      change rational? (unpack .binary64 (packedNaN .binary64)) = none
      rw [unpack_packedNaN]
      rfl
  | infinity sign =>
      change rational? (unpack .binary64
        (packComponents .binary64 sign (-1#_) 0)) = none
      rw [unpack_infinity]
      rfl
  | zero sign => cases notFinite
  | finite sign mantissa exponent positive => cases notFinite

theorem rational?_add_none {left right : UnpackedFloat}
    (notFinite : rational? left = none ∨ rational? right = none) :
    rational? (UnpackedFloat.add .binary64 left right) = none := by
  cases left with
  | notANumber => cases right <;> rfl
  | infinity leftSign =>
      cases right with
      | infinity rightSign => cases leftSign <;> cases rightSign <;> rfl
      | _ => rfl
  | zero leftSign =>
      cases right with
      | notANumber => rfl
      | infinity rightSign => rfl
      | _ => simp [rational?] at notFinite
  | finite leftSign =>
      cases right with
      | notANumber => rfl
      | infinity rightSign => rfl
      | _ => simp [rational?] at notFinite

theorem rational?_div_none {left : UnpackedFloat} (right : UnpackedFloat)
    (notFinite : rational? left = none) :
    rational? (UnpackedFloat.div .binary64 left right) = none := by
  cases left with
  | notANumber => cases right <;> rfl
  | infinity leftSign =>
      cases right with
      | notANumber => rfl
      | infinity rightSign => rfl
      | zero rightSign => cases leftSign <;> cases rightSign <;> rfl
      | finite rightSign => cases leftSign <;> cases rightSign <;> rfl
  | zero leftSign => cases notFinite
  | finite leftSign => cases notFinite

theorem number?_of_rational? {value : UnpackedFloat} {number : ℚ}
    (isNumber : rational? value = some number) :
    number? value = some (number : WithTop ℚ) := by
  cases value with
  | notANumber => cases isNumber
  | infinity sign => cases isNumber
  | zero sign =>
      cases isNumber
      rfl
  | finite sign mantissa exponent positive =>
      cases isNumber
      rfl

theorem isFinite_iff_rational? {value : UnpackedFloat} :
    value.isFinite = true ↔ ∃ number, rational? value = some number := by
  cases value <;> simp [UnpackedFloat.isFinite, rational?]

end Unpacked

/-- The number that a finite float stands for. -/
def rational? (value : Float) : Option ℚ :=
  Unpacked.rational? value.toModel.unpack

section Arithmetic

variable {value left right : Float} {number leftNumber rightNumber : ℚ}

theorem isFinite_iff_rational? :
    value.isFinite = true ↔ ∃ number, rational? value = some number :=
  Unpacked.isFinite_iff_rational?

theorem lt_iff_rational (leftIs : rational? left = some leftNumber)
    (rightIs : rational? right = some rightNumber) :
    left < right ↔ leftNumber < rightNumber := by
  have leftNumber? : number? left = _ := Unpacked.number?_of_rational? leftIs
  have rightNumber? : number? right = _ := Unpacked.number?_of_rational? rightIs
  simp [lt_iff_number, leftNumber?, rightNumber?]

theorem le_iff_rational (leftIs : rational? left = some leftNumber)
    (rightIs : rational? right = some rightNumber) :
    left ≤ right ↔ leftNumber ≤ rightNumber := by
  have leftNumber? : number? left = _ := Unpacked.number?_of_rational? leftIs
  have rightNumber? : number? right = _ := Unpacked.number?_of_rational? rightIs
  simp [le_iff_number, leftNumber?, rightNumber?]

theorem isRepresentable_of_rational?
    (isNumber : rational? value = some number) :
    Unpacked.IsRepresentable number :=
  Unpacked.isRepresentable_of_rational? (Unpacked.isCanonical_unpack value)
    isNumber

theorem abs_lt_limit (isNumber : rational? value = some number) :
    |number| < 2 ^ 1024 := by
  have packed := (Unpacked.Rounds.of_rational?
    (Unpacked.isCanonical_unpack value) isNumber).rational?_pack
  have exact := (isRepresentable_of_rational? isNumber).rounded_eq
  rw [unpack_pack_unpack, ← rational?, isNumber, exact, Unpacked.bounded?]
    at packed
  by_contra large
  rw [if_neg large] at packed
  cases packed

theorem rational?_abs (isNumber : rational? value = some number) :
    rational? value.abs = some |number| := by
  rw [rational?, unpack_abs]
  exact Unpacked.rational?_withSign .positive isNumber

theorem rational?_add (leftIs : rational? left = some leftNumber)
    (rightIs : rational? right = some rightNumber) :
    rational? (left + right) =
      Unpacked.bounded? (Unpacked.rounded (leftNumber + rightNumber)) :=
  (Unpacked.rounds_add (Unpacked.isCanonical_unpack left)
    (Unpacked.isCanonical_unpack right) leftIs rightIs).rational?_pack

theorem rational?_sub (leftIs : rational? left = some leftNumber)
    (rightIs : rational? right = some rightNumber) :
    rational? (left - right) =
      Unpacked.bounded? (Unpacked.rounded (leftNumber - rightNumber)) :=
  (Unpacked.rounds_sub (Unpacked.isCanonical_unpack left)
    (Unpacked.isCanonical_unpack right) leftIs rightIs).rational?_pack

theorem rational?_mul (leftIs : rational? left = some leftNumber)
    (rightIs : rational? right = some rightNumber) :
    rational? (left * right) =
      Unpacked.bounded? (Unpacked.rounded (leftNumber * rightNumber)) :=
  (Unpacked.rounds_mul (Unpacked.isCanonical_unpack left)
    (Unpacked.isCanonical_unpack right) leftIs rightIs).rational?_pack

theorem rational?_div (leftIs : rational? left = some leftNumber)
    (rightIs : rational? right = some rightNumber)
    (nonzero : rightNumber ≠ 0) :
    rational? (left / right) =
      Unpacked.bounded? (Unpacked.rounded (leftNumber / rightNumber)) :=
  (Unpacked.rounds_div leftIs rightIs nonzero).rational?_pack

theorem rational?_two : rational? 2.0 = some 2 := by
  decide +kernel

/-- A half never overflows. -/
theorem rational?_half (isNumber : rational? value = some number) :
    rational? (value / 2.0) = some (Unpacked.rounded (number / 2)) := by
  have smaller : |number / 2| ≤ |number| := by
    rw [abs_div, abs_two]
    exact half_le_self (abs_nonneg number)
  have small : |Unpacked.rounded (number / 2)| < 2 ^ 1024 := by
    rw [Unpacked.abs_rounded_lt_limit_iff]
    refine smaller.trans_lt ?_
    rw [← Unpacked.abs_rounded_lt_limit_iff,
      (isRepresentable_of_rational? isNumber).rounded_eq]
    exact abs_lt_limit isNumber
  rw [rational?_div isNumber rational?_two two_ne_zero, Unpacked.bounded?,
    if_pos small]

/-! An infinity or a NaN does not become a number again. -/

theorem rational?_add_none
    (notFinite : rational? left = none ∨ rational? right = none) :
    rational? (left + right) = none :=
  Unpacked.rational?_pack_none (Unpacked.rational?_add_none notFinite)

theorem rational?_div_none (right : Float)
    (notFinite : rational? left = none) : rational? (left / right) = none :=
  Unpacked.rational?_pack_none
    (Unpacked.rational?_div_none right.toModel.unpack notFinite)

end Arithmetic

end RootFinding
