import RootFinding.Proofs.Arithmetic
import RootFinding.Proofs.Decimal.Nearest

/-! Results past the largest float. They are infinite, on the side of the exact
result, and so rounding to floats keeps the order of numbers there too. Some
operations never get there. -/

namespace RootFinding

open Float.Model (Format UnpackedFloat)

namespace Unpacked

open Float.Model.UnpackedFloat

/-- The number, or the infinity that takes its place past the floats. -/
def limited (number : ℚ) : WithBot (WithTop ℚ) :=
  if number ≤ -2 ^ 1024 then ⊥
  else if 2 ^ 1024 ≤ number then ⊤
  else (number : WithTop ℚ)

theorem limited_of_abs_lt {number : ℚ} (small : |number| < 2 ^ 1024) :
    limited number = (number : WithTop ℚ) := by
  rw [abs_lt] at small
  rw [limited, if_neg (not_le.2 small.1), if_neg (not_le.2 small.2)]

theorem limited_of_le {number : ℚ} (large : 2 ^ 1024 ≤ number) :
    limited number = ⊤ := by
  have above : ¬number ≤ -2 ^ 1024 := fun below =>
    absurd (large.trans below) (by norm_num)
  rw [limited, if_neg above, if_pos large]

theorem limited_mono : Monotone limited := by
  intro left right atMost
  by_cases low : left ≤ -2 ^ 1024
  · rw [limited, if_pos low]
    exact bot_le
  by_cases high : 2 ^ 1024 ≤ right
  · rw [limited_of_le high]
    exact le_top
  rw [not_le] at low high
  rw [limited_of_abs_lt (abs_lt.2 ⟨low, atMost.trans_lt high⟩),
    limited_of_abs_lt (abs_lt.2 ⟨low.trans_le atMost, high⟩)]
  exact_mod_cast atMost

theorem Rounds.number?_pack {result : UnpackedFloat} {exact : ℚ}
    (rounds : Rounds result exact) :
    number? (Float.Model.pack result).unpack =
      some (limited (rounded exact)) := by
  have packed := rounds.rational?_pack
  have isNumber := rounds.number
  have canonical := rounds.canonical
  unfold bounded? at packed
  by_cases small : |rounded exact| < 2 ^ 1024
  · rw [if_pos small] at packed
    rw [limited_of_abs_lt small]
    exact number?_of_rational? packed
  cases result with
  | notANumber => cases isNumber
  | infinity sign => cases isNumber
  | zero sign =>
      injection isNumber with zero
      rw [← zero, abs_zero] at small
      exact absurd (by positivity) small
  | finite sign mantissa exponent positive =>
      injection isNumber with number
      have magnitude : (0 : ℚ) ≤ mantissa * 2 ^ exponent := by positivity
      have limit := Canonical.lt_limit_iff canonical
      rw [← number, abs_signed, abs_of_nonneg magnitude] at small
      have large := not_le.1 (mt limit.2 small)
      rw [unpack_pack_of_large large, ← number, limited]
      rw [not_lt] at small
      cases sign with
      | negative => rw [signed, if_pos (neg_le_neg small), number?]
      | positive =>
          have above : ¬(mantissa * 2 ^ exponent : ℚ) ≤ -2 ^ 1024 := by
            rw [not_le]
            exact lt_of_lt_of_le (neg_neg_of_pos (by positivity)) magnitude
          rw [signed, if_neg above, if_pos small, number?]

/-! An operand that is not finite. -/

theorem number?_eq_top_iff {value : UnpackedFloat} :
    number? value = some ⊤ ↔ value = .infinity .positive := by
  have finite (number : ℚ) :
      ((number : WithTop ℚ) : WithBot (WithTop ℚ)) ≠ ⊤ :=
    WithBot.coe_injective.ne WithTop.coe_ne_top
  cases value with
  | notANumber => simp [number?]
  | infinity sign => cases sign <;> simp [number?]
  | zero sign => simpa [number?] using finite 0
  | finite sign => simp [number?, finite]

theorem number?_eq_none_iff {value : UnpackedFloat} :
    number? value = none ↔ value = .notANumber := by
  cases value with
  | infinity sign => cases sign <;> simp [number?]
  | _ => simp [number?]

theorem number?_pack_of_rational?_eq_none {value : UnpackedFloat}
    (notFinite : rational? value = none) :
    number? (Float.Model.pack value).unpack = number? value := by
  cases value with
  | notANumber =>
      change number? (unpack .binary64 (packedNaN .binary64)) = none
      rw [unpack_packedNaN]
      rfl
  | infinity sign =>
      change number? (unpack .binary64
        (packComponents .binary64 sign (-1#_) 0)) = _
      rw [unpack_infinity]
  | zero sign => cases notFinite
  | finite sign => cases notFinite

section Infinite

variable {value : UnpackedFloat} {number : ℚ}

theorem add_infinity (format : Format) (sign : UnpackedFloat.Sign)
    (isNumber : rational? value = some number) :
    add format value (.infinity sign) = .infinity sign := by
  cases value with
  | notANumber => cases isNumber
  | infinity sign => cases isNumber
  | zero other => rfl
  | finite other => rfl

theorem add_notANumber (format : Format) (value : UnpackedFloat) :
    add format value .notANumber = .notANumber := by
  cases value <;> rfl

theorem sub_infinity (format : Format) (sign : UnpackedFloat.Sign)
    (isNumber : rational? value = some number) :
    sub format value (.infinity sign) = .infinity (-sign) := by
  cases value with
  | notANumber => cases isNumber
  | infinity sign => cases isNumber
  | zero other => rfl
  | finite other => rfl

theorem mul_infinity (format : Format)
    (isNumber : rational? value = some number) (positive : 0 < number) :
    mul format value (.infinity .positive) = .infinity .positive ∧
      mul format (.infinity .positive) value = .infinity .positive ∧
      div format (.infinity .positive) value = .infinity .positive := by
  cases value with
  | notANumber => cases isNumber
  | infinity sign => cases isNumber
  | zero sign =>
      cases isNumber
      exact absurd positive (lt_irrefl 0)
  | finite sign mantissa exponent above =>
      cases isNumber
      cases sign with
      | positive => exact ⟨rfl, rfl, rfl⟩
      | negative =>
          have magnitude : (0 : ℚ) ≤ mantissa * 2 ^ exponent := by positivity
          exact absurd positive (neg_nonpos.2 magnitude).not_gt

theorem infinity_mul_zero (format : Format) (sign : UnpackedFloat.Sign)
    (isZero : rational? value = some 0) :
    mul format (.infinity sign) value = .notANumber := by
  cases value with
  | notANumber => cases isZero
  | infinity sign => cases isZero
  | zero sign => rfl
  | finite sign mantissa exponent above =>
      have magnitude : (0 : ℚ) < mantissa * 2 ^ exponent := by positivity
      injection isZero with isZero
      rw [← abs_eq_zero, abs_signed, abs_of_pos magnitude] at isZero
      exact absurd isZero magnitude.ne'

end Infinite

end Unpacked

open Unpacked

section Operations

variable {value left right : Float} {number leftNumber rightNumber : ℚ}

theorem number?_of_rational? (isNumber : rational? value = some number) :
    number? value = some (number : WithTop ℚ) :=
  Unpacked.number?_of_rational? isNumber

theorem isNaN_eq_false (isNumber : rational? value = some number) :
    value.isNaN = false := by
  rw [← Bool.not_eq_true, isNaN_iff_number?, number?_of_rational? isNumber]
  nofun

theorem number?_add (leftIs : rational? left = some leftNumber)
    (rightIs : rational? right = some rightNumber) :
    number? (left + right) =
      some (limited (rounded (leftNumber + rightNumber))) :=
  (rounds_add (isCanonical_unpack left) (isCanonical_unpack right) leftIs
    rightIs).number?_pack

theorem number?_sub (leftIs : rational? left = some leftNumber)
    (rightIs : rational? right = some rightNumber) :
    number? (left - right) =
      some (limited (rounded (leftNumber - rightNumber))) :=
  (rounds_sub (isCanonical_unpack left) (isCanonical_unpack right) leftIs
    rightIs).number?_pack

theorem number?_mul (leftIs : rational? left = some leftNumber)
    (rightIs : rational? right = some rightNumber) :
    number? (left * right) =
      some (limited (rounded (leftNumber * rightNumber))) :=
  (rounds_mul (isCanonical_unpack left) (isCanonical_unpack right) leftIs
    rightIs).number?_pack

/-! Sums, differences, products and quotients with an infinity. -/

theorem unpack_of_number?_eq_top (top : number? left = some ⊤) :
    left.toModel.unpack = .infinity .positive :=
  Unpacked.number?_eq_top_iff.1 top

/-- Rounding leaves a result that is not finite as it is. -/
theorem number?_of_result {result special : UnpackedFloat}
    (same : result = special) (notFinite : Unpacked.rational? special = none)
    (computed : value.toModel = Float.Model.pack result) :
    number? value = Unpacked.number? special := by
  rw [number?, computed, same]
  exact number?_pack_of_rational?_eq_none notFinite

theorem number?_add_top (leftIs : rational? left = some leftNumber)
    (rightIs : number? right = some ⊤) : number? (left + right) = some ⊤ := by
  have sum : UnpackedFloat.add .binary64 left.toModel.unpack
      right.toModel.unpack = .infinity .positive := by
    rw [unpack_of_number?_eq_top rightIs, add_infinity _ _ leftIs]
  exact number?_of_result sum rfl rfl

theorem number?_add_none (left : Float) (rightIs : number? right = none) :
    number? (left + right) = none := by
  have sum : UnpackedFloat.add .binary64 left.toModel.unpack
      right.toModel.unpack = .notANumber := by
    rw [Unpacked.number?_eq_none_iff.1 rightIs, add_notANumber]
  exact number?_of_result sum rfl rfl

theorem number?_sub_top (leftIs : rational? left = some leftNumber)
    (rightIs : number? right = some ⊤) : number? (left - right) = some ⊥ := by
  have difference : UnpackedFloat.sub .binary64 left.toModel.unpack
      right.toModel.unpack = .infinity .negative := by
    rw [unpack_of_number?_eq_top rightIs, sub_infinity _ _ leftIs]
    rfl
  exact number?_of_result difference rfl rfl

theorem number?_mul_top (leftIs : rational? left = some leftNumber)
    (positive : 0 < leftNumber) (rightIs : number? right = some ⊤) :
    number? (left * right) = some ⊤ := by
  have product : UnpackedFloat.mul .binary64 left.toModel.unpack
      right.toModel.unpack = .infinity .positive := by
    rw [unpack_of_number?_eq_top rightIs]
    exact (mul_infinity _ leftIs positive).1
  exact number?_of_result product rfl rfl

theorem number?_top_mul (leftIs : number? left = some ⊤)
    (rightIs : rational? right = some rightNumber)
    (positive : 0 < rightNumber) : number? (left * right) = some ⊤ := by
  have product : UnpackedFloat.mul .binary64 left.toModel.unpack
      right.toModel.unpack = .infinity .positive := by
    rw [unpack_of_number?_eq_top leftIs]
    exact (mul_infinity _ rightIs positive).2.1
  exact number?_of_result product rfl rfl

theorem number?_top_div (leftIs : number? left = some ⊤)
    (rightIs : rational? right = some rightNumber)
    (positive : 0 < rightNumber) : number? (left / right) = some ⊤ := by
  have quotient : UnpackedFloat.div .binary64 left.toModel.unpack
      right.toModel.unpack = .infinity .positive := by
    rw [unpack_of_number?_eq_top leftIs]
    exact (mul_infinity _ rightIs positive).2.2
  exact number?_of_result quotient rfl rfl

theorem number?_top_mul_zero (leftIs : number? left = some ⊤)
    (rightIs : rational? right = some 0) : number? (left * right) = none := by
  have product : UnpackedFloat.mul .binary64 left.toModel.unpack
      right.toModel.unpack = .notANumber := by
    rw [unpack_of_number?_eq_top leftIs, infinity_mul_zero _ _ rightIs]
  exact number?_of_result product rfl rfl

/-! Operations that do not overflow. -/

theorem abs_le_largest (isNumber : rational? value = some number) :
    |number| ≤ (2 ^ 53 - 1) * 2 ^ (971 : ℤ) := by
  have limit := abs_lt_limit isNumber
  have canonical := isCanonical_unpack value
  unfold rational? at isNumber
  cases unpacked : value.toModel.unpack with
  | notANumber => simp [unpacked, Unpacked.rational?] at isNumber
  | infinity sign => simp [unpacked, Unpacked.rational?] at isNumber
  | zero sign =>
      rw [unpacked, Unpacked.rational?, Option.some.injEq] at isNumber
      rw [← isNumber, abs_zero]
      exact mul_nonneg (by norm_num) (by positivity)
  | finite sign mantissa exponent positive =>
      rw [unpacked, Unpacked.rational?, Option.some.injEq] at isNumber
      rw [unpacked] at canonical
      have magnitude : (0 : ℚ) ≤ mantissa * 2 ^ exponent := by positivity
      rw [← isNumber, abs_signed, abs_of_nonneg magnitude] at limit ⊢
      have small := (Canonical.lt_limit_iff canonical).1 limit
      have bits : (mantissa : ℚ) ≤ 2 ^ 53 - 1 := by
        have whole : mantissa + 1 ≤ 2 ^ 53 := canonical.bits
        rw [le_sub_iff_add_le]
        exact_mod_cast whole
      exact mul_le_mul bits (zpow_le_zpow_right₀ one_le_two small)
        (by positivity) (by norm_num)

theorem rational?_one : rational? 1.0 = some 1 := by
  decide +kernel

/-- One unit takes no float past the largest one. -/
theorem abs_rounded_lt_limit_of_unit {moved : ℚ}
    (isNumber : rational? value = some number) (near : |moved - number| ≤ 1) :
    |rounded moved| < 2 ^ 1024 := by
  have large := abs_le_largest isNumber
  have reach : |moved| ≤ |number| + 1 := by
    have triangle := abs_add_le (moved - number) number
    rw [sub_add_cancel] at triangle
    linarith
  rw [abs_rounded_lt_limit_iff, two_pow_half_place, two_pow_limit, ← sub_mul]
  have unit : (2 : ℚ) ^ (1 : ℤ) < 2 ^ (971 : ℤ) :=
    zpow_lt_zpow_right₀ one_lt_two (by decide)
  rw [zpow_one] at unit
  generalize (2 : ℚ) ^ (971 : ℤ) = place at unit large ⊢
  linarith

theorem rational?_sub_one (isNumber : rational? value = some number) :
    rational? (value - 1.0) = some (rounded (number - 1)) := by
  have fits : |rounded (number - 1)| < 2 ^ 1024 :=
    abs_rounded_lt_limit_of_unit isNumber (by
      rw [sub_sub_cancel_left, abs_neg, abs_one])
  rw [rational?_sub isNumber rational?_one, bounded?, if_pos fits]

theorem rational?_add_one (isNumber : rational? value = some number) :
    rational? (value + 1.0) = some (rounded (number + 1)) := by
  have fits : |rounded (number + 1)| < 2 ^ 1024 :=
    abs_rounded_lt_limit_of_unit isNumber (by
      rw [add_sub_cancel_left, abs_one])
  rw [rational?_add isNumber rational?_one, bounded?, if_pos fits]

theorem abs_rounded_lt_limit (isNumber : rational? value = some number) :
    |rounded number| < 2 ^ 1024 := by
  rw [(isRepresentable_of_rational? isNumber).rounded_eq]
  exact abs_lt_limit isNumber

/-- A quotient by one or more never overflows. -/
theorem rational?_div_of_one_le (isNumber : rational? value = some number)
    (divides : rational? right = some rightNumber) (large : 1 ≤ rightNumber) :
    rational? (value / right) = some (rounded (number / rightNumber)) := by
  have positive : 0 < rightNumber := zero_lt_one.trans_le large
  have smaller : |number / rightNumber| ≤ |number| := by
    rw [abs_div, abs_of_pos positive]
    exact div_le_self (abs_nonneg number) large
  have fits := abs_rounded_lt_limit_of_le smaller (abs_rounded_lt_limit isNumber)
  rw [rational?_div isNumber divides positive.ne', bounded?, if_pos fits]

/-- Counts of at most 53 bits are floats. -/
theorem rational?_toFloat {count : ℕ} (bits : count < 2 ^ 53) :
    rational? count.toFloat = some (count : ℚ) := by
  have nearest : count.toFloat = nearestFloat count := by
    have read := Decimal.toFloat_eq_nearestFloat ⟨count, 0⟩
    rwa [Decimal.toRat, zpow_zero, mul_one] at read
  have nonnegative : (0 : ℚ) ≤ count := Nat.cast_nonneg count
  have exact : rounded count = (count : ℚ) := by
    have kept := roundedSize_of_count bits (by decide : (-1074 : ℤ) ≤ 0)
    rwa [zpow_zero, mul_one, ← rounded_of_nonneg nonnegative] at kept
  have small : |(count : ℚ)| < 2 ^ 1024 := by
    rw [abs_of_nonneg nonnegative]
    calc (count : ℚ) < 2 ^ 53 := by exact_mod_cast bits
      _ ≤ 2 ^ 1024 := pow_le_pow_right₀ one_le_two (by decide)
  have packed := (rounds_nearest nonnegative).rational?_pack
  rw [exact, bounded?, if_pos small] at packed
  rw [nearest]
  exact packed

end Operations

end RootFinding
