import Mathlib
import RootFinding.Proofs.Rounding

/-! Rounding as a function on rational numbers, without a largest float: it
keeps order and signs, and leaves alone what 53 bits can hold. Where the floats
end is a bound on the rounded number, and nothing but the least numbers rounds
to zero. -/

namespace RootFinding

/-- Rounding to a natural number moves a number by at most one half. -/
theorem Decimal.abs_nearestEven_sub_le {exact : ℚ} (nonnegative : 0 ≤ exact) :
    |(nearestEven exact : ℚ) - exact| ≤ 1 / 2 := by
  have whole : 0 ≤ exact.floor :=
    Rat.le_floor_iff.2 (by exact_mod_cast nonnegative)
  have cast : ((exact.floor.toNat : ℕ) : ℚ) = exact.floor := by
    exact_mod_cast Int.toNat_of_nonneg whole
  have below : (exact.floor : ℚ) ≤ exact := Rat.le_floor_iff.1 le_rfl
  have above : exact < exact.floor + 1 := by
    exact_mod_cast Rat.floor_lt_iff.1 (lt_add_one exact.floor)
  unfold nearestEven
  dsimp only
  rw [abs_le]
  split_ifs with small large
  · rw [cast] at small ⊢
    constructor <;> linarith
  · rw [cast] at large
    push_cast
    rw [cast]
    constructor <;> linarith
  · rw [cast] at small large
    have half : exact - exact.floor = 1 / 2 := by linarith
    push_cast
    rw [cast]
    rcases Nat.mod_two_eq_zero_or_one exact.floor.toNat with even | odd
    · rw [even]
      constructor <;> push_cast <;> linarith
    · rw [odd]
      constructor <;> push_cast <;> linarith

theorem Decimal.nearestEven_mono {left right : ℚ} (nonnegative : 0 ≤ left)
    (atMost : left ≤ right) : nearestEven left ≤ nearestEven right := by
  rcases atMost.eq_or_lt with rfl | less
  · rfl
  by_contra greater
  have apart : (nearestEven right : ℚ) + 1 ≤ nearestEven left := by
    exact_mod_cast not_le.1 greater
  have leftNear := abs_le.1 (abs_nearestEven_sub_le nonnegative)
  have rightNear := abs_le.1 (abs_nearestEven_sub_le (nonnegative.trans atMost))
  linarith [leftNear.2, rightNear.1]

namespace Unpacked

open Float.Model.UnpackedFloat

/-! Numbers that are not negative. -/

/-- The nearest multiple of the last place that a float of this size keeps. -/
def roundedSize (exact : ℚ) : ℚ :=
  Decimal.nearestEven (exact / 2 ^ spacing exact) * 2 ^ spacing exact

section Size

variable {exact left right : ℚ} {count : ℕ} {exponent : ℤ}

theorem roundedSize_nonneg (exact : ℚ) : 0 ≤ roundedSize exact := by
  unfold roundedSize
  positivity

theorem roundedSize_zero : roundedSize 0 = 0 := by
  have zero := nearestEven_natCast 0
  rw [Nat.cast_zero] at zero
  unfold roundedSize
  rw [zero_div, zero, Nat.cast_zero, zero_mul]

theorem roundedSize_le (nonnegative : 0 ≤ exact)
    (atMost : exact ≤ count * 2 ^ spacing exact) :
    roundedSize exact ≤ count * 2 ^ spacing exact := by
  have unit : (0 : ℚ) < 2 ^ spacing exact := by positivity
  have bounded := Decimal.nearestEven_mono (div_nonneg nonnegative unit.le)
    ((div_le_iff₀ unit).2 atMost)
  rw [nearestEven_natCast] at bounded
  unfold roundedSize
  gcongr

theorem le_roundedSize (atLeast : count * 2 ^ spacing exact ≤ exact) :
    count * 2 ^ spacing exact ≤ roundedSize exact := by
  have unit : (0 : ℚ) < 2 ^ spacing exact := by positivity
  have bounded := Decimal.nearestEven_mono (Nat.cast_nonneg count)
    ((le_div_iff₀ unit).2 atLeast)
  rw [nearestEven_natCast] at bounded
  unfold roundedSize
  gcongr

theorem spacing_mono (positive : 0 < left) (atMost : left ≤ right) :
    spacing left ≤ spacing right := by
  have log := Int.log_mono_right (b := 2) positive atMost
  unfold spacing
  omega

theorem pow_mul_zpow {place : ℤ} (fine : place ≤ exponent) :
    ((2 ^ (exponent - place).toNat : ℕ) : ℚ) * 2 ^ place = 2 ^ exponent := by
  push_cast
  rw [← zpow_natCast, ← zpow_add₀ two_ne_zero]
  congr 1
  omega

theorem roundedSize_mono (nonnegative : 0 ≤ left) (atMost : left ≤ right) :
    roundedSize left ≤ roundedSize right := by
  rcases nonnegative.eq_or_lt with rfl | positive
  · rw [roundedSize_zero]
    exact roundedSize_nonneg right
  have rightPositive := positive.trans_le atMost
  rcases (spacing_mono positive atMost).eq_or_lt with same | finer
  · unfold roundedSize
    rw [same]
    gcongr
    exact Decimal.nearestEven_mono (by positivity) (by gcongr)
  · -- The power of two at which the greater number starts lies between both.
    have start : spacing right = Int.log 2 right - 52 := by
      unfold spacing at finer ⊢
      omega
    have apart : Int.log 2 left < Int.log 2 right := by
      unfold spacing at finer start
      omega
    have leftPower := pow_mul_zpow (by omega : spacing left ≤ Int.log 2 right)
    have rightPower :=
      pow_mul_zpow (by omega : spacing right ≤ Int.log 2 right)
    have below : left ≤ 2 ^ Int.log 2 right :=
      ((log_lt_iff positive).1 apart).le
    have above : (2 : ℚ) ^ Int.log 2 right ≤ right :=
      (le_log_iff rightPositive).1 le_rfl
    calc roundedSize left
        ≤ (2 ^ (Int.log 2 right - spacing left).toNat : ℕ) *
            2 ^ spacing left := roundedSize_le nonnegative (leftPower ▸ below)
      _ = (2 ^ (Int.log 2 right - spacing right).toNat : ℕ) *
            2 ^ spacing right := leftPower.trans rightPower.symm
      _ ≤ roundedSize right := le_roundedSize (rightPower ▸ above)

theorem spacing_le (nonzero : count ≠ 0) (bits : count < 2 ^ 53)
    (least : -1074 ≤ exponent) : spacing (count * 2 ^ exponent) ≤ exponent := by
  have size := (Nat.log2_lt nonzero).2 bits
  have unit : (0 : ℚ) < 2 ^ exponent := by positivity
  unfold spacing
  rw [log_eq nonzero le_rfl
    (mul_lt_mul_of_pos_right (lt_add_one (count : ℚ)) unit)]
  omega

theorem roundedSize_of_count (bits : count < 2 ^ 53)
    (least : -1074 ≤ exponent) :
    roundedSize (count * 2 ^ exponent) = count * 2 ^ exponent := by
  rcases Nat.eq_zero_or_pos count with rfl | positive
  · rw [Nat.cast_zero, zero_mul, roundedSize_zero]
  have fine := spacing_le positive.ne' bits least
  set place := spacing (count * 2 ^ exponent)
  have whole : (count : ℚ) * 2 ^ exponent =
      (count * 2 ^ (exponent - place).toNat : ℕ) * 2 ^ place := by
    rw [← pow_mul_zpow fine]
    push_cast
    ring
  apply le_antisymm
  · exact (roundedSize_le (by positivity) whole.le).trans whole.ge
  · exact whole.le.trans (le_roundedSize whole.ge)

/-- Half the least float is still rounded to zero. -/
theorem roundedSize_eq_zero_iff (nonnegative : 0 ≤ exact) :
    roundedSize exact = 0 ↔ exact ≤ 2 ^ (-1075 : ℤ) := by
  have halves : (2 : ℚ) ^ (-1074 : ℤ) = 2 * 2 ^ (-1075 : ℤ) := by
    rw [← zpow_one_add₀ two_ne_zero]
    rfl
  constructor
  · intro zero
    by_contra greater
    rw [not_le] at greater
    have positive : 0 < exact := lt_trans (by positivity) greater
    have unit : (0 : ℚ) < 2 ^ spacing exact := by positivity
    have large : 1 / 2 < exact / 2 ^ spacing exact := by
      rw [lt_div_iff₀ unit]
      rcases max_choice (Int.log 2 exact - 52) (-1074) with start | least
      · have power : (2 : ℚ) ^ spacing exact ≤ exact := by
          rw [← le_log_iff positive]
          unfold spacing
          omega
        linarith
      · rw [spacing, least, halves]
        linarith
    have near := abs_le.1
      (Decimal.abs_nearestEven_sub_le (div_nonneg nonnegative unit.le))
    have none : (Decimal.nearestEven (exact / 2 ^ spacing exact) : ℚ) = 0 :=
      (mul_eq_zero_iff_right unit.ne').1 zero
    linarith [near.1]
  · intro atMost
    apply le_antisymm _ (roundedSize_nonneg exact)
    have small : spacing (2 ^ (-1075 : ℤ)) = -1074 := by
      have log : Int.log 2 ((2 : ℚ) ^ (-1075 : ℤ)) = -1075 :=
        Int.log_zpow one_lt_two _
      rw [spacing, log]
      rfl
    have half : (2 : ℚ) ^ (-1075 : ℤ) / 2 ^ (-1074 : ℤ) = (0 : ℕ) + 1 / 2 := by
      rw [halves]
      field_simp
      norm_num
    have tie : Represents ⟨0, true, false⟩ ((0 : ℕ) + 1 / 2) := rfl
    have none : roundedSize (2 ^ (-1075 : ℤ)) = 0 := by
      rw [roundedSize, small, half, ← tie.roundedMantissa]
      exact zero_mul _
    rw [← none]
    exact roundedSize_mono nonnegative atMost

/-- Half of the last place, or of the least float. -/
theorem abs_roundedSize_sub_le {exact : ℚ} (nonnegative : 0 ≤ exact) :
    |roundedSize exact - exact| ≤ exact / 2 ^ 53 + 2 ^ (-1075 : ℤ) := by
  rcases nonnegative.eq_or_lt with rfl | positive
  · rw [roundedSize_zero, sub_self, abs_zero, zero_div, zero_add]
    positivity
  have unit : (0 : ℚ) < 2 ^ spacing exact := by positivity
  have half : |roundedSize exact - exact| ≤ 1 / 2 * 2 ^ spacing exact := by
    have near := Decimal.abs_nearestEven_sub_le
      (div_nonneg nonnegative unit.le)
    rw [← mul_le_mul_iff_left₀ unit] at near
    rwa [← abs_of_pos unit, ← abs_mul, abs_of_pos unit, sub_mul,
      div_mul_cancel₀ _ unit.ne'] at near
  have least : (2 : ℚ) ^ (-1074 : ℤ) = 2 * 2 ^ (-1075 : ℤ) := by
    rw [← zpow_one_add₀ two_ne_zero]
    rfl
  refine half.trans ?_
  rcases max_choice (Int.log 2 exact - 52) (-1074) with start | bottom
  · have place : (2 : ℚ) ^ spacing exact * 2 ^ 52 ≤ exact := by
      rw [← zpow_natCast, ← zpow_add₀ two_ne_zero, ← le_log_iff positive]
      unfold spacing
      omega
    have tiny : (0 : ℚ) < 2 ^ (-1075 : ℤ) := by positivity
    linarith
  · rw [spacing, bottom, least]
    linarith [div_nonneg nonnegative (by positivity : (0 : ℚ) ≤ 2 ^ 53)]

theorem two_pow_limit : (2 : ℚ) ^ 1024 = 2 ^ 53 * 2 ^ (971 : ℤ) := by
  rw [← zpow_natCast, ← zpow_natCast, ← zpow_add₀ two_ne_zero]
  rfl

theorem two_pow_half_place : (2 : ℚ) ^ 970 = 1 / 2 * 2 ^ (971 : ℤ) := by
  rw [← zpow_natCast, one_div, ← zpow_neg_one, ← zpow_add₀ two_ne_zero]
  rfl

theorem roundedSize_limit :
    roundedSize ((2 ^ 53 - 1 / 2) * 2 ^ (971 : ℤ)) = 2 ^ 1024 := by
  have unit : (0 : ℚ) < 2 ^ (971 : ℤ) := by positivity
  have log : Int.log 2 (((2 : ℚ) ^ 53 - 1 / 2) * 2 ^ (971 : ℤ)) =
      (2 ^ 53 - 1).log2 + 971 := by
    refine log_eq (by decide) ?_ ?_
    · gcongr
      norm_num
    · gcongr
      norm_num
  have size : (2 ^ 53 - 1).log2 = 52 := by decide +kernel
  have place : spacing ((2 ^ 53 - 1 / 2) * 2 ^ (971 : ℤ)) = 971 := by
    rw [spacing, log, size]
    rfl
  have tie : Represents ⟨2 ^ 53 - 1, true, false⟩ (2 ^ 53 - 1 / 2) := by
    norm_num [Represents]
  rw [roundedSize, place, mul_div_cancel_right₀ _ unit.ne',
    ← tie.roundedMantissa, two_pow_limit]
  congr 1

/-- Rounding reaches the first power of two past the floats from one half of
the last place below it. -/
theorem roundedSize_lt_limit_iff (nonnegative : 0 ≤ exact) :
    roundedSize exact < 2 ^ 1024 ↔ exact < 2 ^ 1024 - 2 ^ 970 := by
  have unit : (0 : ℚ) < 2 ^ (971 : ℤ) := by positivity
  rw [two_pow_half_place, two_pow_limit, ← sub_mul]
  constructor
  · intro below
    by_contra large
    have start : (0 : ℚ) ≤ (2 ^ 53 - 1 / 2) * 2 ^ (971 : ℤ) :=
      mul_nonneg (by norm_num) unit.le
    have kept := roundedSize_mono start (not_lt.1 large)
    rw [roundedSize_limit, two_pow_limit] at kept
    exact kept.not_gt below
  · intro small
    by_cases lower : exact ≤ (2 ^ 52 : ℕ) * 2 ^ (971 : ℤ)
    · calc roundedSize exact
          ≤ roundedSize ((2 ^ 52 : ℕ) * 2 ^ (971 : ℤ)) :=
            roundedSize_mono nonnegative lower
        _ = (2 ^ 52 : ℕ) * 2 ^ (971 : ℤ) :=
            roundedSize_of_count (by decide) (by decide)
        _ < 2 ^ 53 * 2 ^ (971 : ℤ) := by
            gcongr
            norm_num
    · have positive : 0 < exact := lt_trans (by positivity) (not_le.1 lower)
      have least : 1023 ≤ Int.log 2 exact := by
        rw [le_log_iff positive]
        refine le_of_eq_of_le ?_ (not_le.1 lower).le
        rw [Nat.cast_pow, ← zpow_natCast, Nat.cast_two,
          ← zpow_add₀ two_ne_zero]
        rfl
      have greatest : Int.log 2 exact < (1024 : ℕ) := by
        rw [log_lt_iff positive, zpow_natCast, two_pow_limit]
        refine small.trans ?_
        gcongr
        norm_num
      have place : spacing exact = 971 := by
        unfold spacing
        omega
      have near := abs_le.1
        (Decimal.abs_nearestEven_sub_le (div_nonneg nonnegative unit.le))
      have quotient := (div_lt_iff₀ unit).2 small
      rw [roundedSize, place, mul_lt_mul_iff_left₀ unit]
      linarith [near.2]

end Size

/-! Numbers of either sign. -/

def rounded (exact : ℚ) : ℚ :=
  if exact < 0 then -roundedSize (-exact) else roundedSize exact

/-- What 53 bits hold, with no bound on the size. -/
def IsRepresentable (exact : ℚ) : Prop :=
  ∃ count : ℕ, ∃ exponent : ℤ, count < 2 ^ 53 ∧ -1074 ≤ exponent ∧
    |exact| = count * 2 ^ exponent

section Number

variable {exact left right : ℚ}

theorem rounded_of_nonneg (nonnegative : 0 ≤ exact) :
    rounded exact = roundedSize exact :=
  if_neg nonnegative.not_gt

theorem rounded_nonneg (nonnegative : 0 ≤ exact) :
    0 ≤ rounded exact := by
  rw [rounded_of_nonneg nonnegative]
  exact roundedSize_nonneg exact

theorem rounded_neg (exact : ℚ) : rounded (-exact) = -rounded exact := by
  rcases lt_trichotomy exact 0 with negative | rfl | positive
  · rw [rounded_of_nonneg (neg_nonneg.2 negative.le), rounded, if_pos negative,
      neg_neg]
  · rw [neg_zero, rounded_of_nonneg le_rfl, roundedSize_zero, neg_zero]
  · rw [rounded_of_nonneg positive.le, rounded,
      if_pos (neg_neg_of_pos positive), neg_neg]

theorem abs_rounded (exact : ℚ) : |rounded exact| = roundedSize |exact| := by
  rcases le_total 0 exact with nonnegative | nonpositive
  · rw [rounded_of_nonneg nonnegative, abs_of_nonneg nonnegative,
      abs_of_nonneg (roundedSize_nonneg exact)]
  · rw [← abs_neg, ← rounded_neg, rounded_of_nonneg (neg_nonneg.2 nonpositive),
      abs_of_nonpos nonpositive, abs_of_nonneg (roundedSize_nonneg _)]

theorem rounded_mono (atMost : left ≤ right) :
    rounded left ≤ rounded right := by
  rcases le_total 0 left with leftNonnegative | leftNonpositive
  · rw [rounded_of_nonneg leftNonnegative,
      rounded_of_nonneg (leftNonnegative.trans atMost)]
    exact roundedSize_mono leftNonnegative atMost
  rcases le_total 0 right with rightNonnegative | rightNonpositive
  · have below : 0 ≤ rounded (-left) := by
      rw [rounded_of_nonneg (neg_nonneg.2 leftNonpositive)]
      exact roundedSize_nonneg _
    have above : 0 ≤ rounded right := by
      rw [rounded_of_nonneg rightNonnegative]
      exact roundedSize_nonneg _
    rw [rounded_neg] at below
    linarith
  · have reversed : rounded (-right) ≤ rounded (-left) := by
      rw [rounded_of_nonneg (neg_nonneg.2 rightNonpositive),
        rounded_of_nonneg (neg_nonneg.2 leftNonpositive)]
      exact roundedSize_mono (neg_nonneg.2 rightNonpositive)
        (neg_le_neg atMost)
    rw [rounded_neg, rounded_neg] at reversed
    exact neg_le_neg_iff.1 reversed

theorem IsRepresentable.rounded_eq (representable : IsRepresentable exact) :
    rounded exact = exact := by
  rcases representable with ⟨count, exponent, bits, least, size⟩
  have kept := roundedSize_of_count bits least
  rw [← size] at kept
  rcases le_total 0 exact with nonnegative | nonpositive
  · rwa [abs_of_nonneg nonnegative, ← rounded_of_nonneg nonnegative] at kept
  · rw [abs_of_nonpos nonpositive,
      ← rounded_of_nonneg (neg_nonneg.2 nonpositive), rounded_neg] at kept
    exact neg_injective kept

theorem IsRepresentable.two_mul (representable : IsRepresentable exact) :
    IsRepresentable (2 * exact) := by
  rcases representable with ⟨count, exponent, bits, least, size⟩
  refine ⟨count, exponent + 1, bits, by omega, ?_⟩
  rw [abs_mul, abs_two, size, zpow_add_one₀ two_ne_zero]
  ring

theorem rounded_eq_zero_iff :
    rounded exact = 0 ↔ |exact| ≤ 2 ^ (-1075 : ℤ) := by
  rw [← abs_eq_zero, abs_rounded, roundedSize_eq_zero_iff (abs_nonneg exact)]

theorem abs_rounded_lt_limit_iff :
    |rounded exact| < 2 ^ 1024 ↔ |exact| < 2 ^ 1024 - 2 ^ 970 := by
  rw [abs_rounded, roundedSize_lt_limit_iff (abs_nonneg exact)]

theorem abs_rounded_lt_limit_of_le (smaller : |left| ≤ |right|)
    (fits : |rounded right| < 2 ^ 1024) : |rounded left| < 2 ^ 1024 := by
  rw [abs_rounded_lt_limit_iff] at fits ⊢
  exact smaller.trans_lt fits

end Number

end Unpacked

end RootFinding
