import Mathlib
import RootFinding.Decimal.Rounded

/-! Rounding to floats, from the model of their operations. What an operation
gives is determined by the exact value of its result: it is `nearest` of that
value, by whatever bits the operation came to it. -/

namespace RootFinding

open Float.Model (Format UnpackedFloat totalExponent)

namespace Unpacked

open Float.Model.UnpackedFloat

/-! Bits that are kept, and what the dropped ones said. -/

/-- The exact number lies where the round bit and the sticky bit put it. -/
def Represents (extended : ExtendedMantissa) (exact : ℚ) : Prop :=
  match extended with
  | ⟨mantissa, false, false⟩ => exact = mantissa
  | ⟨mantissa, false, true⟩ => mantissa < exact ∧ exact < mantissa + 1 / 2
  | ⟨mantissa, true, false⟩ => exact = mantissa + 1 / 2
  | ⟨mantissa, true, true⟩ => mantissa + 1 / 2 < exact ∧ exact < mantissa + 1

namespace Represents

variable {extended : ExtendedMantissa} {exact : ℚ}

theorem bounds (represents : Represents extended exact) :
    (extended.mantissa : ℚ) ≤ exact ∧ exact < extended.mantissa + 1 := by
  rcases extended with ⟨mantissa, _ | _, _ | _⟩ <;>
    simp only [Represents] at represents ⊢ <;>
    constructor <;> linarith

theorem shiftRightOne (represents : Represents extended exact) :
    Represents extended.shiftRightOne (exact / 2) := by
  rcases extended with ⟨mantissa, roundBit, stickyBit⟩
  have halves : (mantissa : ℚ) =
      2 * (mantissa / 2 : ℕ) + (mantissa % 2 != 0).toNat := by
    have last : (mantissa % 2 != 0).toNat = mantissa % 2 := by
      rcases Nat.mod_two_eq_zero_or_one mantissa with even | odd
      · rw [even]
        rfl
      · rw [odd]
        rfl
    rw [last]
    exact_mod_cast (Nat.div_add_mod mantissa 2).symm
  unfold ExtendedMantissa.shiftRightOne
  generalize (mantissa % 2 != 0) = last at halves ⊢
  cases last <;> cases roundBit <;> cases stickyBit <;>
    simp only [Represents, Bool.or_self, Bool.or_true, Bool.or_false,
      Bool.toNat_false, Bool.toNat_true, Nat.cast_zero, Nat.cast_one]
      at represents halves ⊢
  case false.false.false => linarith
  case true.false.false => linarith
  all_goals constructor <;> linarith

theorem shiftRight (represents : Represents extended exact) (places : ℕ) :
    Represents (extended >>> places) (exact / 2 ^ places) := by
  change Represents (places.repeat ExtendedMantissa.shiftRightOne extended) _
  induction places with
  | zero => simpa [Nat.repeat] using represents
  | succ places shifted =>
      have halved := shifted.shiftRightOne
      rwa [div_div, ← pow_succ] at halved

/-- Rounding looks at no more than the two bits. -/
theorem roundedMantissa (represents : Represents extended exact) :
    extended.roundedMantissa = Decimal.nearestEven exact := by
  have floor : exact.floor.toNat = extended.mantissa := by
    have least : (extended.mantissa : Int) ≤ exact.floor :=
      Rat.le_floor_iff.2 (by exact_mod_cast represents.bounds.1)
    have greatest : exact.floor < extended.mantissa + 1 :=
      Rat.floor_lt_iff.2 (by exact_mod_cast represents.bounds.2)
    omega
  unfold Decimal.nearestEven
  rw [floor]
  rcases extended with ⟨mantissa, _ | _, _ | _⟩ <;>
    simp only [Represents] at represents ⊢
  · rw [if_pos (by linarith)]
    rfl
  · rw [if_pos (by linarith)]
    rfl
  · rw [if_neg (by linarith), if_neg (by linarith)]
    rfl
  · rw [if_neg (by linarith), if_pos (by linarith)]
    rfl

end Represents

theorem represents_exact (mantissa : ℕ) :
    Represents (.ofMantissaAndAccuracy mantissa .exact) mantissa :=
  rfl

theorem represents_fraction (mantissa : ℕ) {part whole : ℕ}
    (below : part < whole) :
    Represents (.ofMantissaAndAccuracy mantissa (accuracyOfFraction part whole))
      (mantissa + part / whole) := by
  have scale : (0 : ℚ) < whole := by
    exact_mod_cast Nat.zero_lt_of_lt below
  have small : (part : ℚ) / whole < 1 := by
    rw [div_lt_one scale]
    exact_mod_cast below
  unfold accuracyOfFraction
  split_ifs with none
  · rw [none, Nat.cast_zero, zero_div, add_zero]
    rfl
  · have large : (0 : ℚ) < part / whole :=
      div_pos (by exact_mod_cast Nat.pos_of_ne_zero none) scale
    rcases order : compare (2 * part) whole with _ | _ | _
    · have half : (part : ℚ) / whole < 1 / 2 := by
        rw [div_lt_div_iff₀ scale two_pos]
        exact_mod_cast (by have := Nat.compare_eq_lt.1 order; omega)
      exact ⟨by linarith, by linarith⟩
    · have half : (part : ℚ) / whole = 1 / 2 := by
        rw [div_eq_div_iff scale.ne' two_ne_zero]
        exact_mod_cast (by have := Nat.compare_eq_eq.1 order; omega)
      rw [half]
      rfl
    · have half : 1 / 2 < (part : ℚ) / whole := by
        rw [div_lt_div_iff₀ two_pos scale]
        exact_mod_cast (by have := Nat.compare_eq_gt.1 order; omega)
      exact ⟨by linarith, by linarith⟩

theorem represents_quotient (numerator : ℕ) {denominator : ℕ}
    (positive : 0 < denominator) :
    Represents (.ofMantissaAndAccuracy (numerator / denominator)
      (accuracyOfFraction (numerator % denominator) denominator))
      (numerator / denominator) := by
  have scale : (denominator : ℚ) ≠ 0 := by exact_mod_cast positive.ne'
  have parts : (numerator : ℚ) / denominator =
      (numerator / denominator : ℕ) +
        (numerator % denominator : ℕ) / (denominator : ℚ) := by
    rw [← mul_right_inj' scale, mul_add, mul_div_cancel₀ _ scale,
      mul_div_cancel₀ _ scale]
    exact_mod_cast (Nat.div_add_mod numerator denominator).symm
  rw [parts]
  exact represents_fraction _ (Nat.mod_lt numerator positive)

/-! The floats around a positive number. -/

theorem le_log_iff {exact : ℚ} (positive : 0 < exact) {exponent : ℤ} :
    exponent ≤ Int.log 2 exact ↔ (2 : ℚ) ^ exponent ≤ exact :=
  (Int.zpow_le_iff_le_log (by norm_num : 1 < 2) positive).symm

theorem log_lt_iff {exact : ℚ} (positive : 0 < exact) {exponent : ℤ} :
    Int.log 2 exact < exponent ↔ exact < (2 : ℚ) ^ exponent :=
  (Int.lt_zpow_iff_log_lt (by norm_num : 1 < 2) positive).symm

/-- The exponent of the last place that a float of this size keeps. -/
def spacing (exact : ℚ) : ℤ :=
  max (Int.log 2 exact - 52) (-1074)

theorem targetExponent_binary64 (exponent : ℤ) :
    Format.binary64.targetExponent exponent = max (exponent - 53) (-1074) :=
  rfl

theorem two_pow_log2_le {mantissa : ℕ} (nonzero : mantissa ≠ 0) :
    (2 : ℚ) ^ mantissa.log2 ≤ mantissa := by
  exact_mod_cast Nat.log2_self_le nonzero

theorem lt_two_pow_log2 (mantissa : ℕ) :
    (mantissa : ℚ) + 1 ≤ 2 ^ (mantissa.log2 + 1) := by
  exact_mod_cast Nat.lt_log2_self

theorem log_eq {mantissa : ℕ} {exponent : ℤ} {exact : ℚ}
    (nonzero : mantissa ≠ 0) (lower : mantissa * (2 : ℚ) ^ exponent ≤ exact)
    (upper : exact < (mantissa + 1) * (2 : ℚ) ^ exponent) :
    Int.log 2 exact = mantissa.log2 + exponent := by
  have unit : (0 : ℚ) < 2 ^ exponent := by positivity
  have leading := mul_le_mul_of_nonneg_right (two_pow_log2_le nonzero) unit.le
  have carry := mul_le_mul_of_nonneg_right (lt_two_pow_log2 mantissa) unit.le
  have positive : 0 < exact :=
    lt_of_lt_of_le (by positivity) (le_trans leading lower)
  have least : (mantissa.log2 : ℤ) + exponent ≤ Int.log 2 exact := by
    rw [le_log_iff positive, zpow_add₀ two_ne_zero, zpow_natCast]
    exact le_trans leading lower
  have greatest :
      Int.log 2 exact < ((mantissa.log2 + 1 : ℕ) : ℤ) + exponent := by
    rw [log_lt_iff positive, zpow_add₀ two_ne_zero, zpow_natCast]
    exact lt_of_lt_of_le upper carry
  omega

/-- The exponent to which bits are rounded is that of the exact number. -/
theorem targetExponent_eq {mantissa : ℕ} {exponent : ℤ} {exact : ℚ}
    (positive : 0 < exact) (lower : mantissa * (2 : ℚ) ^ exponent ≤ exact)
    (upper : exact < (mantissa + 1) * (2 : ℚ) ^ exponent)
    (fine : exponent ≤ spacing exact) :
    Format.binary64.targetExponent (totalExponent mantissa exponent) =
      spacing exact := by
  rw [targetExponent_binary64]
  unfold totalExponent spacing at *
  by_cases zero : mantissa = 0
  · -- No bit is left of a number that is below the unit, so the unit is least.
    rw [zero, Nat.cast_zero, zero_add, one_mul] at upper
    have small := (log_lt_iff positive).2 upper
    rw [zero, Nat.log2_zero]
    omega
  · rw [log_eq zero lower upper]
    omega

def ofCount (count : ℕ) (exponent : ℤ) : UnpackedFloat :=
  if zero : count = 0 then
    .zero .positive
  else
    .finite .positive count exponent (Nat.pos_of_ne_zero zero)

/-- The rounded count may have a bit too many. -/
def carried (count : ℕ) (exponent : ℤ) : UnpackedFloat :=
  let shifted := shiftToTargetExponent .binary64 count exponent .exact
  ofCount shifted.1.mantissa shifted.2

/-- The float nearest to a number that is not negative, a tie going to the even
significand. -/
def nearest (exact : ℚ) : UnpackedFloat :=
  carried (Decimal.nearestEven (exact / 2 ^ spacing exact)) (spacing exact)

theorem roundWithAccuracy_eq_nearest {mantissa : ℕ} {exponent : ℤ}
    {accuracy : Accuracy} {exact : ℚ} (positive : 0 < exact)
    (represents : Represents (.ofMantissaAndAccuracy mantissa accuracy)
      (exact / 2 ^ exponent))
    (fine : exponent ≤ spacing exact) :
    roundWithAccuracy .binary64 .positive mantissa exponent accuracy =
      nearest exact := by
  have unit : (0 : ℚ) < 2 ^ exponent := by positivity
  have kept : (ExtendedMantissa.ofMantissaAndAccuracy mantissa
      accuracy).mantissa = mantissa := by
    unfold ExtendedMantissa.ofMantissaAndAccuracy
    split <;> rfl
  have bounds := represents.bounds
  rw [kept, le_div_iff₀ unit, div_lt_iff₀ unit] at bounds
  have target := targetExponent_eq positive bounds.1 bounds.2 fine
  have reached : exponent + ((spacing exact - exponent).toNat : ℤ) =
      spacing exact := by
    omega
  have shifted := represents.shiftRight (spacing exact - exponent).toNat
  rw [div_div, ← zpow_natCast, ← zpow_add₀ two_ne_zero, reached] at shifted
  unfold roundWithAccuracy shiftToTargetExponent
  rw [target]
  unfold shiftToExponent
  dsimp only
  rw [shifted.roundedMantissa, reached]
  rfl

/-! A number that a float stands for is rounded to that float. -/

theorem nearestEven_natCast (count : ℕ) : Decimal.nearestEven count = count :=
  (represents_exact count).roundedMantissa.symm

theorem nearest_zero : nearest 0 = .zero .positive := by
  unfold nearest
  rw [zero_div]
  have rounded := nearestEven_natCast 0
  rw [Nat.cast_zero] at rounded
  have place : spacing 0 = -52 := by
    unfold spacing
    rw [Int.log_zero_right]
    rfl
  rw [rounded, place]
  rfl

theorem carried_eq {count : ℕ} {exponent : ℤ}
    (settled : Format.binary64.targetExponent (totalExponent count exponent) =
      exponent) :
    carried count exponent = ofCount count exponent := by
  unfold carried shiftToTargetExponent shiftToExponent
  dsimp only
  rw [settled, sub_self, Int.toNat_zero, Nat.cast_zero, add_zero]
  rfl

theorem nearest_eq_finite {mantissa : ℕ} {exponent : ℤ}
    (positive : 0 < mantissa)
    (settled : spacing (mantissa * 2 ^ exponent) = exponent) :
    nearest (mantissa * 2 ^ exponent) =
      .finite .positive mantissa exponent positive := by
  have unit : (0 : ℚ) < 2 ^ exponent := by positivity
  have exact : (0 : ℚ) < mantissa * 2 ^ exponent :=
    mul_pos (by exact_mod_cast positive) unit
  have target := targetExponent_eq exact le_rfl
    (mul_lt_mul_of_pos_right (lt_add_one (mantissa : ℚ)) unit) settled.ge
  unfold nearest
  rw [settled, mul_div_cancel_right₀ _ unit.ne', nearestEven_natCast]
  rw [carried_eq (target.trans settled), ofCount, dif_neg positive.ne']

/-- Significands of floats have 53 bits, or fewer with the least exponent. -/
structure Canonical (mantissa : ℕ) (exponent : ℤ) : Prop where
  nonzero : mantissa ≠ 0
  bits : mantissa < 2 ^ 53
  least : -1074 ≤ exponent
  leading : 2 ^ 52 ≤ mantissa ∨ exponent = -1074

theorem Canonical.spacing_eq {mantissa : ℕ} {exponent : ℤ}
    (canonical : Canonical mantissa exponent) :
    spacing (mantissa * 2 ^ exponent) = exponent := by
  have unit : (0 : ℚ) < 2 ^ exponent := by positivity
  have size := (Nat.log2_lt canonical.nonzero).2 canonical.bits
  have least := canonical.least
  unfold spacing
  rw [log_eq canonical.nonzero le_rfl
    (mul_lt_mul_of_pos_right (lt_add_one (mantissa : ℚ)) unit)]
  rcases canonical.leading with leading | subnormal
  · have := (Nat.le_log2 canonical.nonzero).2 leading
    omega
  · omega

theorem unpack_canonical {bits : BitVec Format.binary64.numBits}
    {sign : UnpackedFloat.Sign} {mantissa : ℕ} {exponent : ℤ}
    {positive : 0 < mantissa}
    (unpacked : unpack .binary64 bits =
      .finite sign mantissa exponent positive) :
    Canonical mantissa exponent := by
  have fraction : (unpackMantissa bits).toNat < 2 ^ 52 :=
    (unpackMantissa bits).isLt
  unfold unpack at unpacked
  dsimp only at unpacked
  split_ifs at unpacked with top zero bottom none
  · injection unpacked with _ mantissa_eq exponent_eq
    subst mantissa_eq exponent_eq
    rw [bottom]
    exact ⟨positive.ne', by omega, by decide, .inr (by decide)⟩
  · injection unpacked with _ mantissa_eq exponent_eq
    have joined : (1#1 ++ unpackMantissa bits).toNat =
        2 ^ 52 + (unpackMantissa bits).toNat := by
      rw [BitVec.toNat_append, Nat.shiftLeft_eq, Nat.mul_comm,
        ← Nat.two_pow_add_eq_or_of_lt fraction]
      rfl
    have biased : (unpackExponent bits).toNat ≠ 0 := fun none =>
      bottom (BitVec.eq_of_toNat_eq none)
    have bias : (Format.binary64.exponentBias : ℤ) = 1023 := rfl
    rw [joined] at mantissa_eq
    rw [bias] at exponent_eq
    exact ⟨positive.ne', by omega, by omega, .inl (by omega)⟩

theorem unpack_pack_of_leading {sign : UnpackedFloat.Sign} {mantissa : ℕ}
    {exponent : ℤ} {positive : 0 < mantissa} (bits : mantissa < 2 ^ 53)
    (leading : 2 ^ 52 ≤ mantissa) (least : -1074 ≤ exponent)
    (greatest : exponent ≤ 971) :
    unpack .binary64 (pack .binary64
        (.finite sign mantissa exponent positive)) =
      .finite sign mantissa exponent positive := by
  have log : mantissa.log2 = 52 :=
    (Nat.log2_eq_iff positive.ne').2 ⟨leading, bits⟩
  have biased : (exponent + Format.binary64.exponentBias +
      (Format.binary64.mantissaBitsWithoutImplicit : ℕ)).toNat =
        (exponent + 1075).toNat := by
    change (exponent + 1023 + 52).toNat = _
    congr 1
    omega
  have exponentBits : (BitVec.ofNat 11 (exponent + 1075).toNat).toNat =
      (exponent + 1075).toNat := by
    rw [BitVec.toNat_ofNat]
    exact Nat.mod_eq_of_lt (by omega)
  have top : BitVec.ofNat 11 (exponent + 1075).toNat ≠ -1#11 := fun ones => by
    rw [ones] at exponentBits
    have : (-1#11).toNat = 2047 := rfl
    omega
  have bottom : BitVec.ofNat 11 (exponent + 1075).toNat ≠ 0#11 := fun zero => by
    rw [zero] at exponentBits
    have : (0#11).toNat = 0 := rfl
    omega
  have fraction : (BitVec.ofNat 52 mantissa).toNat = mantissa - 2 ^ 52 := by
    rw [BitVec.toNat_ofNat]
    omega
  have joined : (1#1 ++ BitVec.ofNat 52 mantissa).toNat = mantissa := by
    rw [BitVec.toNat_append, Nat.shiftLeft_eq, Nat.mul_comm,
      ← Nat.two_pow_add_eq_or_of_lt (BitVec.isLt _), fraction]
    change 2 ^ 52 * 1 + _ = _
    omega
  unfold pack
  dsimp only
  rw [biased, if_neg (by dsimp; omega), if_pos (by rw [log]; rfl)]
  unfold unpack
  simp only [unpackExponent_packComponents, unpackMantissa_packComponents,
    unpackSign_packComponents, Sign.ofBitVec_toBitVec, if_neg top,
    if_neg bottom]
  congr 1
  rw [exponentBits]
  change _ - ((1023 : ℤ) + 52) = _
  omega

theorem nearestEven_ne_zero {exact : ℚ} (large : 1 ≤ exact) :
    Decimal.nearestEven exact ≠ 0 := by
  have whole : (1 : ℤ) ≤ exact.floor :=
    Rat.le_floor_iff.2 (by exact_mod_cast large)
  unfold Decimal.nearestEven
  dsimp only
  split_ifs <;> omega

theorem nearestEven_eq_zero {exact : ℚ} (positive : 0 < exact)
    (small : exact < 1 / 2) :
    Decimal.nearestEven exact = 0 := by
  have represents : Represents ⟨0, false, true⟩ exact := by
    constructor <;> push_cast <;> linarith
  exact represents.roundedMantissa.symm

/-- A carry leaves the leading bit and raises the exponent. -/
theorem exists_carried {count : ℕ} {exponent : ℤ} (nonzero : count ≠ 0)
    (least : -1074 ≤ exponent) :
    ∃ mantissa final positive,
      carried count exponent = .finite .positive mantissa final positive ∧
        exponent ≤ final := by
  set places := (Format.binary64.targetExponent (totalExponent count exponent) -
    exponent).toNat with dropped
  have few : places ≤ count.log2 := by
    rw [dropped, targetExponent_binary64, totalExponent]
    omega
  have bounds := ((represents_exact count).shiftRight places).bounds
  have remains : (1 : ℚ) ≤ count / 2 ^ places := by
    rw [le_div_iff₀ (by positivity), one_mul]
    exact le_trans (pow_le_pow_right₀ one_le_two few) (two_pow_log2_le nonzero)
  set mantissa :=
    (ExtendedMantissa.ofMantissaAndAccuracy count .exact >>> places).mantissa
  have positive : 0 < mantissa := by
    have : (0 : ℚ) < mantissa := by linarith [bounds.2]
    exact_mod_cast this
  refine ⟨mantissa, exponent + places, positive, ?_, by omega⟩
  change ofCount mantissa (exponent + places) = _
  rw [ofCount, dif_neg positive.ne']

/-- A number past the largest float is packed as an infinity. -/
theorem pack_nearest_of_large {exact : ℚ} (large : 2 ^ 1025 ≤ exact) :
    Float.Model.pack (nearest exact) =
      Float.Model.pack (.infinity .positive) := by
  have exact_pos : 0 < exact := lt_of_lt_of_le (by positivity) large
  have size : (1025 : ℤ) ≤ Int.log 2 exact :=
    (le_log_iff exact_pos).2 (by exact_mod_cast large)
  have coarse : spacing exact = Int.log 2 exact - 52 := by
    unfold spacing
    omega
  have many : 1 ≤ exact / 2 ^ spacing exact := by
    rw [le_div_iff₀ (by positivity), one_mul, ← le_log_iff exact_pos]
    omega
  rcases exists_carried (nearestEven_ne_zero many)
    (by omega : -1074 ≤ spacing exact) with
    ⟨mantissa, final, positive, carry, raised⟩
  have overflow : pack .binary64 (.finite .positive mantissa final positive) =
      pack .binary64 (.infinity .positive) := by
    refine if_pos ?_
    change 2 ^ 11 ≤ (final + 1023 + 52).toNat + 1
    omega
  unfold nearest
  rw [carry]
  simp only [Float.Model.pack, overflow]

theorem nearest_of_small {exact : ℚ} (positive : 0 < exact)
    (small : exact < 2 ^ (-1075 : ℤ)) :
    nearest exact = .zero .positive := by
  have size := (log_lt_iff positive).2 small
  have fine : spacing exact = -1074 := by
    unfold spacing
    omega
  have half : exact / 2 ^ (-1074 : ℤ) < 1 / 2 := by
    rw [div_lt_iff₀ (by positivity)]
    refine lt_of_lt_of_eq small ?_
    rw [show (-1075 : ℤ) = -1 + -1074 by rfl, zpow_add₀ two_ne_zero]
    norm_num
  unfold nearest
  rw [fine, nearestEven_eq_zero (by positivity) half]
  rfl

/-! Operations. -/

theorem le_spacing {exponent : ℤ} {exact : ℚ} (positive : 0 < exact)
    (bits : (2 : ℚ) ^ (exponent + 52) ≤ exact) : exponent ≤ spacing exact := by
  have := (le_log_iff positive).2 bits
  unfold spacing
  omega

theorem mul_eq_nearest {left right : ℕ} {leftExponent rightExponent : ℤ}
    (leftPositive : 0 < left) (rightPositive : 0 < right)
    (bits : 2 ^ 52 ≤ left * right) :
    mul .binary64 (.finite .positive left leftExponent leftPositive)
        (.finite .positive right rightExponent rightPositive) =
      nearest (left * 2 ^ leftExponent * (right * 2 ^ rightExponent)) := by
  have unit : (0 : ℚ) < 2 ^ (leftExponent + rightExponent) := by positivity
  have product : (left : ℚ) * 2 ^ leftExponent * (right * 2 ^ rightExponent) =
      (left * right : ℕ) * 2 ^ (leftExponent + rightExponent) := by
    rw [zpow_add₀ two_ne_zero]
    push_cast
    ring
  have positive :
      (0 : ℚ) < (left * right : ℕ) * 2 ^ (leftExponent + rightExponent) :=
    mul_pos (by exact_mod_cast Nat.mul_pos leftPositive rightPositive) unit
  rw [product]
  refine roundWithAccuracy_eq_nearest positive ?_ (le_spacing positive ?_)
  · rw [mul_div_cancel_right₀ _ unit.ne']
    exact represents_exact _
  · rw [zpow_add₀ two_ne_zero, mul_comm]
    exact mul_le_mul_of_nonneg_right (by exact_mod_cast bits) unit.le

/-- The exponents of two numbers tell the size of their quotient, but for one
place. -/
theorem le_log_quotient {left right : ℕ} (leftPositive : 0 < left)
    (rightPositive : 0 < right) (leftExponent rightExponent : ℤ) :
    totalExponent left leftExponent - totalExponent right rightExponent - 1 ≤
      Int.log 2 ((left : ℚ) * 2 ^ leftExponent /
        (right * 2 ^ rightExponent)) := by
  have leftCast : (0 : ℚ) < left := by exact_mod_cast leftPositive
  have rightCast : (0 : ℚ) < right := by exact_mod_cast rightPositive
  have exponents :
      totalExponent left leftExponent - totalExponent right rightExponent - 1 =
        ((left.log2 : ℕ) + leftExponent) -
          ((right.log2 + 1 : ℕ) + rightExponent) := by
    unfold totalExponent
    omega
  rw [exponents, le_log_iff (by positivity), zpow_sub₀ two_ne_zero,
    zpow_add₀ two_ne_zero, zpow_add₀ two_ne_zero, zpow_natCast, zpow_natCast]
  refine div_le_div₀ (by positivity) ?_ (by positivity) ?_
  · exact mul_le_mul_of_nonneg_right (two_pow_log2_le leftPositive.ne')
      (by positivity)
  · refine mul_le_mul_of_nonneg_right ?_ (by positivity)
    linarith [lt_two_pow_log2 right]

theorem div_eq_nearest {left right : ℕ} {leftExponent rightExponent : ℤ}
    (leftPositive : 0 < left) (rightPositive : 0 < right) :
    div .binary64 (.finite .positive left leftExponent leftPositive)
        (.finite .positive right rightExponent rightPositive) =
      nearest (left * 2 ^ leftExponent / (right * 2 ^ rightExponent)) := by
  have leftCast : (0 : ℚ) < left := by exact_mod_cast leftPositive
  have rightCast : (0 : ℚ) < right := by exact_mod_cast rightPositive
  have size := le_log_quotient leftPositive rightPositive leftExponent
    rightExponent
  set exact : ℚ := left * 2 ^ leftExponent / (right * 2 ^ rightExponent)
    with quotient
  set target := min (leftExponent - rightExponent)
    (Format.binary64.targetExponent (totalExponent left leftExponent -
      totalExponent right rightExponent)) with reached
  set places := (leftExponent - rightExponent - target).toNat with shift
  have scaled : exact / 2 ^ target = (left <<< places : ℕ) / right := by
    have exponents : leftExponent = places + target + rightExponent := by
      omega
    rw [quotient, exponents, Nat.shiftLeft_eq, zpow_add₀ two_ne_zero,
      zpow_add₀ two_ne_zero, zpow_natCast]
    push_cast
    field_simp
  have fine : target ≤ spacing exact := by
    rw [reached, targetExponent_binary64]
    unfold spacing
    omega
  refine roundWithAccuracy_eq_nearest (by positivity) ?_ fine
  rw [scaled]
  exact represents_quotient _ rightPositive

theorem ofNat_eq_nearest {count : ℕ} (positive : 0 < count) :
    ofNat .binary64 count = nearest count := by
  have cast : (0 : ℚ) < count := by exact_mod_cast positive
  have order : compare (count : ℤ) 0 = .gt := by
    rw [compare_gt_iff_gt]
    omega
  unfold ofNat ofInt UnpackedFloat.normalize
  rw [order]
  unfold UnpackedFloat.round decreaseExponent
  dsimp only
  rw [Int.toNat_natCast, targetExponent_binary64, totalExponent]
  set places := (0 - max ((count.log2 : ℤ) + 1 + 0 - 53) (-1074)).toNat
    with shift
  have size : Int.log 2 (count : ℚ) = count.log2 := by
    rw [Int.log_natCast, Nat.log2_eq_log_two]
  refine roundWithAccuracy_eq_nearest cast ?_ ?_
  · have scaled :
        (count : ℚ) / 2 ^ (0 - places : ℤ) = (count <<< places : ℕ) := by
      rw [zero_sub, zpow_neg, zpow_natCast, div_inv_eq_mul, Nat.shiftLeft_eq]
      push_cast
      rfl
    rw [scaled]
    exact represents_exact _
  · unfold spacing
    omega

/-! Decimal numbers. Powers of ten that are not worth computing are told by the
exponent alone, and these tests agree with rounding. -/

theorem large_of_exponent {digits : ℕ} {exponent : ℤ} (positive : 0 < digits)
    (huge : 1025 ≤ exponent) : (2 : ℚ) ^ 1025 ≤ digits * 10 ^ exponent := by
  have whole : (1 : ℚ) ≤ digits := by exact_mod_cast positive
  obtain ⟨places, rfl⟩ := Int.eq_ofNat_of_zero_le (by omega : 0 ≤ exponent)
  calc (2 : ℚ) ^ 1025 ≤ 2 ^ places := pow_le_pow_right₀ one_le_two (by omega)
    _ ≤ 10 ^ places := pow_le_pow_left₀ zero_le_two (by norm_num) places
    _ ≤ digits * 10 ^ (places : ℤ) := by
        rw [zpow_natCast]
        exact le_mul_of_one_le_left (by positivity) whole

theorem small_of_exponent {digits : ℕ} {exponent : ℤ}
    (tiny : exponent + digits.log2 + 1 ≤ -1075) (negative : exponent ≤ 0) :
    (digits : ℚ) * 10 ^ exponent < 2 ^ (-1075 : ℤ) := by
  have digitsBound : (digits : ℚ) < 2 ^ (digits.log2 + 1) := by
    linarith [lt_two_pow_log2 digits]
  have powerBound : (10 : ℚ) ^ exponent ≤ 2 ^ exponent := by
    obtain ⟨places, rfl⟩ := Int.exists_eq_neg_ofNat negative
    rw [zpow_neg, zpow_neg, zpow_natCast, zpow_natCast]
    exact inv_anti₀ (by positivity)
      (pow_le_pow_left₀ zero_le_two (by norm_num) places)
  calc (digits : ℚ) * 10 ^ exponent
      < 2 ^ (digits.log2 + 1) * 10 ^ exponent :=
        mul_lt_mul_of_pos_right digitsBound (by positivity)
    _ ≤ 2 ^ (digits.log2 + 1) * 2 ^ exponent :=
        mul_le_mul_of_nonneg_left powerBound (by positivity)
    _ = 2 ^ (exponent + digits.log2 + 1) := by
        rw [← zpow_natCast, ← zpow_add₀ two_ne_zero]
        congr 1
        push_cast
        ring
    _ ≤ 2 ^ (-1075 : ℤ) := zpow_le_zpow_right₀ one_le_two tiny

theorem pack_ofScientific_eq_nearest {digits : ℕ} (positive : 0 < digits)
    (exponent : ℤ) :
    Float.Model.pack (ofScientific .binary64 digits exponent) =
      Float.Model.pack (nearest (digits * 10 ^ exponent)) := by
  have cast : (0 : ℚ) < digits := by exact_mod_cast positive
  have limit : (2 : ℤ) ^ Format.binary64.exponentBits = 2048 := rfl
  unfold ofScientific
  rw [dif_neg positive.ne', limit]
  split_ifs with huge tiny natural
  · rw [pack_nearest_of_large (large_of_exponent positive (by omega))]
  · rw [nearest_of_small (by positivity)
      (small_of_exponent (by omega) (by omega))]
  · obtain ⟨places, rfl⟩ := Int.eq_ofNat_of_zero_le natural
    have bits : 2 ^ 52 ≤ (digits <<< Format.binary64.mantissaBits) *
        10 ^ (places : ℤ).toNat := by
      refine le_trans ?_ (Nat.le_mul_of_pos_right _ (by positivity))
      rw [Nat.shiftLeft_eq]
      exact le_trans (by decide) (Nat.le_mul_of_pos_left _ positive)
    have shift : (Format.binary64.mantissaBits : ℤ) = (53 : ℕ) := rfl
    have scaled : ((digits <<< Format.binary64.mantissaBits : ℕ) : ℚ) *
        2 ^ (-(Format.binary64.mantissaBits : ℤ)) = digits := by
      rw [shift, Nat.shiftLeft_eq, zpow_neg, zpow_natCast]
      push_cast
      exact mul_inv_cancel_right₀ (by positivity) _
    rw [mul_eq_nearest _ _ bits, scaled, zpow_zero, mul_one, Int.toNat_natCast,
      zpow_natCast, Nat.cast_pow, Nat.cast_ofNat]
  · obtain ⟨places, rfl⟩ := Int.exists_eq_neg_ofNat (by omega : exponent ≤ 0)
    rw [div_eq_nearest, neg_neg, Int.toNat_natCast, zpow_zero, mul_one, mul_one,
      zpow_neg, zpow_natCast, ← div_eq_mul_inv, Nat.cast_pow, Nat.cast_ofNat]

end Unpacked

end RootFinding
