import RootFinding.Decimal.ExactValue
import RootFinding.Proofs.Rounding

/-! The float of a decimal number is the nearest one to the number itself: two
decimals for the same number stand for the same float, and the exact decimal of
a float stands for that float. -/

namespace RootFinding

open Float.Model (Format UnpackedFloat)

/-- The nearest float to a number that is not negative. -/
def nearestFloat (exact : ℚ) : Float :=
  .ofModel (.pack (Unpacked.nearest exact))

/-! Floats that stand for a number with all bits of the significand in use. -/

def IsNormal (value : Float) (exact : ℚ) : Prop :=
  ∃ mantissa exponent positive,
    value.toModel.unpack = .finite .positive mantissa exponent positive ∧
      2 ^ 52 ≤ mantissa ∧ mantissa * (2 : ℚ) ^ exponent = exact

section Operations

variable {left right : Float} {leftExact rightExact : ℚ}

theorem IsNormal.mul (leftNormal : IsNormal left leftExact)
    (rightNormal : IsNormal right rightExact) :
    left * right = nearestFloat (leftExact * rightExact) := by
  rcases leftNormal with ⟨_, _, _, leftUnpacked, leading, rfl⟩
  rcases rightNormal with ⟨_, _, rightPositive, rightUnpacked, _, rfl⟩
  change Float.ofModel (.pack (UnpackedFloat.mul .binary64 left.toModel.unpack
    right.toModel.unpack)) = _
  rw [leftUnpacked, rightUnpacked, Unpacked.mul_eq_nearest, nearestFloat]
  exact le_trans leading (Nat.le_mul_of_pos_right _ rightPositive)

theorem IsNormal.div (leftNormal : IsNormal left leftExact)
    (rightNormal : IsNormal right rightExact) :
    left / right = nearestFloat (leftExact / rightExact) := by
  rcases leftNormal with ⟨_, _, _, leftUnpacked, _, rfl⟩
  rcases rightNormal with ⟨_, _, _, rightUnpacked, _, rfl⟩
  change Float.ofModel (.pack (UnpackedFloat.div .binary64 left.toModel.unpack
    right.toModel.unpack)) = _
  rw [leftUnpacked, rightUnpacked, Unpacked.div_eq_nearest, nearestFloat]

theorem zero_mul_of_isNormal (leftZero : left.toModel.unpack = .zero .positive)
    (rightNormal : IsNormal right rightExact) :
    left * right = nearestFloat 0 := by
  rcases rightNormal with ⟨_, _, _, rightUnpacked, _⟩
  change Float.ofModel (.pack (UnpackedFloat.mul .binary64 left.toModel.unpack
    right.toModel.unpack)) = _
  rw [leftZero, rightUnpacked, nearestFloat, Unpacked.nearest_zero]
  rfl

theorem zero_div_of_isNormal (leftZero : left.toModel.unpack = .zero .positive)
    (rightNormal : IsNormal right rightExact) :
    left / right = nearestFloat 0 := by
  rcases rightNormal with ⟨_, _, _, rightUnpacked, _⟩
  change Float.ofModel (.pack (UnpackedFloat.div .binary64 left.toModel.unpack
    right.toModel.unpack)) = _
  rw [leftZero, rightUnpacked, nearestFloat, Unpacked.nearest_zero]
  rfl

end Operations

/-- A count of at most 53 bits, moved to the left end of the significand. -/
def aligned (count : ℕ) (exponent : ℤ) : UnpackedFloat :=
  Unpacked.ofCount (count <<< (52 - count.log2))
    (exponent - (52 - count.log2 : ℕ))

theorem exists_aligned {count : ℕ} (positive : 0 < count)
    (bits : count < 2 ^ 53) (exponent : ℤ) :
    ∃ mantissa place, ∃ nonzero : 0 < mantissa,
      aligned count exponent = .finite .positive mantissa place nonzero ∧
        2 ^ 52 ≤ mantissa ∧ mantissa < 2 ^ 53 ∧
          exponent - 52 ≤ place ∧ place ≤ exponent ∧
            mantissa * (2 : ℚ) ^ place = count * 2 ^ exponent := by
  have size : count.log2 ≤ 52 := by
    have := (Nat.log2_lt positive.ne').2 bits
    omega
  have total : 2 ^ count.log2 * 2 ^ (52 - count.log2) = 2 ^ 52 := by
    rw [← pow_add]
    congr 1
    omega
  have leading : 2 ^ 52 ≤ count <<< (52 - count.log2) := by
    rw [Nat.shiftLeft_eq, ← total]
    exact Nat.mul_le_mul_right _ (Nat.log2_self_le positive.ne')
  have nonzero : 0 < count <<< (52 - count.log2) := by omega
  refine ⟨_, _, nonzero, dif_neg nonzero.ne', leading, ?_, by omega, by omega,
    ?_⟩
  · have upper : count < 2 ^ (count.log2 + 1) := Nat.lt_log2_self
    rw [Nat.shiftLeft_eq]
    calc count * 2 ^ (52 - count.log2)
        < 2 ^ (count.log2 + 1) * 2 ^ (52 - count.log2) :=
          Nat.mul_lt_mul_of_pos_right upper (by positivity)
      _ = 2 ^ 53 := by rw [pow_succ, mul_right_comm, total]; rfl
  · rw [Nat.shiftLeft_eq, sub_eq_add_neg, zpow_add₀ two_ne_zero, zpow_neg,
      zpow_natCast]
    push_cast
    field_simp

theorem isNormal_aligned {count : ℕ} (positive : 0 < count)
    (bits : count < 2 ^ 53) {exponent : ℤ} (least : 0 ≤ exponent)
    (greatest : exponent ≤ 22) :
    IsNormal (.ofModel (.pack (aligned count exponent)))
      (count * 2 ^ exponent) := by
  rcases exists_aligned positive bits exponent with
    ⟨mantissa, place, nonzero, unpacked, leading, full, lower, upper, exact⟩
  refine ⟨mantissa, place, nonzero, ?_, leading, exact⟩
  rw [unpacked]
  exact Unpacked.unpack_pack_of_leading full leading (by omega) (by omega)

/-- Each power in the table is a power of five, moved by as many places. -/
theorem isNormal_powerOfTen {exponent : ℕ}
    (listed : exponent < Float.exactlyRepresentablePowersOfTen.size) :
    IsNormal Float.exactlyRepresentablePowersOfTen[exponent]
      (10 ^ exponent) := by
  have table : ∀ exponent : Fin 23,
      Float.exactlyRepresentablePowersOfTen[exponent] =
          .ofModel (.pack (aligned (5 ^ exponent.val) exponent.val)) ∧
        5 ^ exponent.val < 2 ^ 53 := by
    decide +kernel
  have below : exponent < 23 := listed
  have entry := table ⟨exponent, below⟩
  have positive : 0 < 5 ^ exponent := by positivity
  have power : ((5 ^ exponent : ℕ) : ℚ) * 2 ^ (exponent : ℤ) =
      10 ^ exponent := by
    rw [zpow_natCast, Nat.cast_pow, ← mul_pow]
    norm_num
  have normal := isNormal_aligned positive entry.2
    (by omega : (0 : ℤ) ≤ exponent) (by omega)
  rw [power] at normal
  exact entry.1 ▸ normal

theorem isNormal_toFloat {count : ℕ} (positive : 0 < count)
    (bits : count < 2 ^ 53) :
    IsNormal count.toUInt64.toFloat count := by
  have word : count.toUInt64.toNat = count := by
    rw [Nat.toUInt64_eq, UInt64.toNat_ofNat']
    exact Nat.mod_eq_of_lt (by omega)
  rcases exists_aligned positive bits 0 with
    ⟨mantissa, place, nonzero, _, leading, full, lower, upper, exact⟩
  rw [zpow_zero, mul_one] at exact
  have canonical : Unpacked.Canonical mantissa place :=
    ⟨nonzero.ne', full, by omega, .inl leading⟩
  have rounded := Unpacked.ofNat_eq_nearest positive
  rw [← exact, Unpacked.nearest_eq_finite nonzero canonical.spacing_eq]
    at rounded
  refine ⟨mantissa, place, nonzero, ?_, leading, exact⟩
  change UnpackedFloat.unpack .binary64 (UnpackedFloat.pack .binary64
    (UnpackedFloat.ofNat .binary64 count.toUInt64.toNat)) = _
  rw [word, rounded]
  exact Unpacked.unpack_pack_of_leading full leading (by omega) (by omega)

theorem unpack_toFloat_zero :
    (Nat.toUInt64 0).toFloat.toModel.unpack = .zero .positive :=
  UnpackedFloat.unpack_packedZero

namespace Decimal

theorem toFloat_of_small {digits : ℕ} {exponent : ℤ} (bits : digits < 2 ^ 53)
    (listed : exponent.natAbs < 23) :
    toFloat ⟨digits, exponent⟩ = nearestFloat (digits * 10 ^ exponent) := by
  have power := isNormal_powerOfTen listed
  unfold toFloat Float.ofScientific
  dsimp only
  rw [dif_pos ⟨bits, Nat.le_of_lt_succ listed⟩]
  by_cases negative : exponent < 0
  · have quotient : (digits : ℚ) * 10 ^ exponent =
        digits / 10 ^ exponent.natAbs := by
      rw [div_eq_mul_inv, ← zpow_natCast, ← zpow_neg]
      congr 2
      omega
    rw [if_pos (decide_eq_true negative), quotient]
    rcases Nat.eq_zero_or_pos digits with rfl | positive
    · rw [Nat.cast_zero, zero_div]
      exact zero_div_of_isNormal unpack_toFloat_zero power
    · exact (isNormal_toFloat positive bits).div power
  · have product : (digits : ℚ) * 10 ^ exponent =
        digits * 10 ^ exponent.natAbs := by
      rw [← zpow_natCast]
      congr 2
      omega
    rw [if_neg (by simpa using negative), product]
    rcases Nat.eq_zero_or_pos digits with rfl | positive
    · rw [Nat.cast_zero, zero_mul]
      exact zero_mul_of_isNormal unpack_toFloat_zero power
    · exact (isNormal_toFloat positive bits).mul power

theorem toFloat_of_large {digits : ℕ} {exponent : ℤ}
    (large : ¬(digits < 2 ^ 53 ∧ exponent.natAbs < 23)) :
    toFloat ⟨digits, exponent⟩ = nearestFloat (digits * 10 ^ exponent) := by
  have signed : (if decide (exponent < 0) = true then
      Int.negOfNat exponent.natAbs else Int.ofNat exponent.natAbs) =
        exponent := by
    rw [Int.negOfNat_eq, Int.ofNat_eq_natCast]
    split_ifs with negative
    · rw [decide_eq_true_eq] at negative
      omega
    · rw [decide_eq_true_eq] at negative
      omega
  unfold toFloat Float.ofScientific
  dsimp only
  rw [dif_neg fun small => large ⟨small.1, Nat.lt_succ_of_le small.2⟩,
    signed]
  rcases Nat.eq_zero_or_pos digits with rfl | positive
  · rw [Nat.cast_zero, zero_mul, nearestFloat, Unpacked.nearest_zero]
    rfl
  · exact congrArg Float.ofModel
      (Unpacked.pack_ofScientific_eq_nearest positive exponent)

/-- Small numbers are one product or quotient of floats, and all others are
rounded once. -/
theorem toFloat_eq_nearestFloat (decimal : Decimal) :
    decimal.toFloat = nearestFloat decimal.toRat := by
  by_cases small : decimal.digits < 2 ^ 53 ∧ decimal.exponent.natAbs < 23
  · exact toFloat_of_small small.1 small.2
  · exact toFloat_of_large small

end Decimal

/-! Nearest floats have a plus for their sign. -/

theorem unpackSign_pack_ofCount (count : ℕ) (exponent : ℤ) :
    UnpackedFloat.unpackSign (UnpackedFloat.pack .binary64
      (Unpacked.ofCount count exponent)) =
        UnpackedFloat.Sign.positive.toBitVec := by
  unfold Unpacked.ofCount
  split_ifs with zero
  · exact UnpackedFloat.unpackSign_packComponents ..
  · unfold UnpackedFloat.pack
    dsimp only
    split_ifs with overflow normal
    · exact UnpackedFloat.unpackSign_packComponents ..
    · exact UnpackedFloat.unpackSign_packComponents ..
    · exact UnpackedFloat.unpackSign_packComponents ..

theorem abs_unpack {bits : BitVec Format.binary64.numBits}
    (positive : UnpackedFloat.unpackSign bits =
      UnpackedFloat.Sign.positive.toBitVec) :
    (UnpackedFloat.unpack .binary64 bits).abs =
      UnpackedFloat.unpack .binary64 bits := by
  unfold UnpackedFloat.unpack
  dsimp only
  rw [positive, UnpackedFloat.Sign.ofBitVec_toBitVec]
  split_ifs <;> rfl

theorem abs_unpack_nearestFloat (exact : ℚ) :
    (nearestFloat exact).toModel.unpack.abs =
      (nearestFloat exact).toModel.unpack :=
  abs_unpack (unpackSign_pack_ofCount ..)

theorem abs_nearestFloat (exact : ℚ) :
    (nearestFloat exact).abs = nearestFloat exact := by
  have packed :=
    UnpackedFloat.pack_unpack_of_valid (nearestFloat exact).toModel.valid
  change Float.ofModel (.pack (nearestFloat exact).toModel.unpack.abs) = _
  rw [abs_unpack_nearestFloat]
  exact Float.toBits_inj.1 (UInt64.toBitVec_inj.1 packed)

theorem ofFloat_nearestFloat {exact : ℚ}
    (finite : (nearestFloat exact).isFinite = true) :
    ∃ magnitude, ExactValue.ofFloat (nearestFloat exact) =
      .finite false magnitude := by
  have unsigned := abs_unpack_nearestFloat exact
  change (nearestFloat exact).toModel.unpack.isFinite = true at finite
  unfold ExactValue.ofFloat
  cases unpacked : (nearestFloat exact).toModel.unpack with
  | notANumber => simp [unpacked, UnpackedFloat.isFinite] at finite
  | infinity sign => simp [unpacked, UnpackedFloat.isFinite] at finite
  | zero sign =>
      rw [unpacked] at unsigned
      cases unsigned
      exact ⟨_, rfl⟩
  | finite sign mantissa exponent positive =>
      rw [unpacked] at unsigned
      cases unsigned
      exact ⟨_, rfl⟩

/-- The magnitude of a float is rounded to that float. -/
theorem nearestFloat_magnitude {value : Float} {negative : Bool} {magnitude : ℚ}
    (read : ExactValue.ofFloat value = .finite negative magnitude) :
    nearestFloat magnitude = value.abs := by
  change _ = Float.ofModel (.pack value.toModel.unpack.abs)
  unfold ExactValue.ofFloat at read
  split at read
  · cases read
  · cases read
  · rename_i unpacked
    cases read
    rw [unpacked, nearestFloat, Unpacked.nearest_zero]
    rfl
  · rename_i sign mantissa exponent positive unpacked
    cases read
    have canonical := Unpacked.unpack_canonical unpacked
    rw [unpacked, nearestFloat,
      Unpacked.nearest_eq_finite positive canonical.spacing_eq]
    rfl

end RootFinding
