import Mathlib

/-! Operations on floats that treat both signs, or both of their operands,
alike. The sign of a float is a bit of its own, which rounding and packing hand
on unchanged. -/

namespace RootFinding

open Float.Model (Format UnpackedFloat)

namespace Unpacked

open Float.Model.UnpackedFloat

/-- The same number with another sign. `NaN` has no sign to change. -/
def withSign (sign : UnpackedFloat.Sign) : UnpackedFloat → UnpackedFloat
  | .notANumber => .notANumber
  | .infinity _ => .infinity sign
  | .zero _ => .zero sign
  | .finite _ mantissa exponent positive =>
      .finite sign mantissa exponent positive

theorem abs_eq_withSign (value : UnpackedFloat) :
    value.abs = withSign .positive value := by
  cases value <;> rfl

theorem neg_withSign_positive (value : UnpackedFloat) :
    (withSign .positive value).neg = withSign .negative value := by
  cases value <;> rfl

theorem exists_neg_eq_withSign (value : UnpackedFloat) :
    ∃ sign, value.neg = withSign sign value := by
  cases value with
  | notANumber => exact ⟨.positive, rfl⟩
  | infinity sign => exact ⟨_, rfl⟩
  | zero sign => exact ⟨_, rfl⟩
  | finite sign mantissa exponent positive => exact ⟨_, rfl⟩

theorem isFinite_withSign (sign : UnpackedFloat.Sign) (value : UnpackedFloat) :
    (withSign sign value).isFinite = value.isFinite := by
  cases value <;> rfl

theorem unpack_packComponents_withSign (format : Format)
    (sign other : UnpackedFloat.Sign)
    (exponent : BitVec format.exponentBits)
    (significand : BitVec format.mantissaBitsWithoutImplicit) :
    unpack format (packComponents format sign exponent significand) =
      withSign sign
        (unpack format (packComponents format other exponent significand)) := by
  simp only [unpack, unpackExponent_packComponents,
    unpackMantissa_packComponents, unpackSign_packComponents,
    Sign.ofBitVec_toBitVec]
  split_ifs <;> rfl

theorem unpack_pack_withSign (sign : UnpackedFloat.Sign)
    (value : UnpackedFloat) :
    (Float.Model.pack (withSign sign value)).unpack =
      withSign sign (Float.Model.pack value).unpack := by
  cases value with
  | notANumber =>
      change unpack .binary64 (packedNaN .binary64) =
        withSign sign (unpack .binary64 (packedNaN .binary64))
      rw [unpack_packedNaN]
      rfl
  | infinity other => exact unpack_packComponents_withSign ..
  | zero other => exact unpack_packComponents_withSign ..
  | finite other mantissa exponent positive =>
      change unpack .binary64 (pack .binary64 _) =
        withSign sign (unpack .binary64 (pack .binary64 _))
      simp only [withSign, pack]
      split_ifs
      · exact unpack_packComponents_withSign ..
      · exact unpack_packComponents_withSign ..
      · exact unpack_packComponents_withSign ..

/-! Sums and differences. -/

theorem add_symm (format : Format) (left right : UnpackedFloat) :
    add format left right = add format right left := by
  cases left with
  | notANumber => cases right <;> rfl
  | infinity leftSign =>
      cases right with
      | infinity rightSign => cases leftSign <;> cases rightSign <;> rfl
      | _ => rfl
  | zero leftSign =>
      cases right with
      | zero rightSign => cases leftSign <;> cases rightSign <;> rfl
      | _ => rfl
  | finite leftSign leftMantissa leftExponent =>
      cases right with
      | finite rightSign rightMantissa rightExponent =>
          simp only [add, decreaseExponent, min_comm leftExponent,
            Int.add_comm (leftSign.apply _)]
      | _ => rfl

theorem roundWithAccuracy_withSign (format : Format)
    (sign left right : UnpackedFloat.Sign) (mantissa : ℕ) (exponent : ℤ)
    (accuracy : Accuracy) :
    withSign sign (roundWithAccuracy format left mantissa exponent accuracy) =
      withSign sign
        (roundWithAccuracy format right mantissa exponent accuracy) := by
  simp only [roundWithAccuracy]
  split_ifs <;> rfl

theorem normalize_neg_withSign (format : Format)
    (sign zeroSign : UnpackedFloat.Sign) (mantissa exponent : ℤ) :
    withSign sign (UnpackedFloat.normalize format (-mantissa) exponent zeroSign) =
      withSign sign (UnpackedFloat.normalize format mantissa exponent zeroSign) := by
  rcases lt_trichotomy mantissa 0 with negative | rfl | positive
  · have turned : compare (-mantissa) 0 = .gt :=
      compare_gt_iff_gt.mpr (Int.neg_pos_of_neg negative)
    have kept : compare mantissa 0 = .lt := compare_lt_iff_lt.mpr negative
    simp only [UnpackedFloat.normalize, turned, kept]
    exact roundWithAccuracy_withSign ..
  · rfl
  · have turned : compare (-mantissa) 0 = .lt :=
      compare_lt_iff_lt.mpr (Int.neg_neg_of_pos positive)
    have kept : compare mantissa 0 = .gt := compare_gt_iff_gt.mpr positive
    simp only [UnpackedFloat.normalize, turned, kept, Int.neg_neg]
    exact roundWithAccuracy_withSign ..

/-- Both differences of two numbers have the same size. -/
theorem sub_withSign (format : Format) (sign : UnpackedFloat.Sign)
    (left right : UnpackedFloat) :
    withSign sign (sub format left right) =
      withSign sign (sub format right left) := by
  cases left with
  | notANumber => cases right <;> rfl
  | infinity leftSign =>
      cases right with
      | infinity rightSign => cases leftSign <;> cases rightSign <;> rfl
      | _ => rfl
  | zero leftSign =>
      cases right with
      | zero rightSign => cases leftSign <;> cases rightSign <;> rfl
      | _ => rfl
  | finite leftSign leftMantissa leftExponent =>
      cases right with
      | finite rightSign rightMantissa rightExponent =>
          simp only [sub, decreaseExponent, min_comm leftExponent]
          rw [← normalize_neg_withSign, Int.neg_sub]
      | _ => rfl

end Unpacked

theorem ofModel_pack_unpack (value : Float) :
    Float.ofModel (.pack value.toModel.unpack) = value := by
  have packed := UnpackedFloat.pack_unpack_of_valid value.toModel.valid
  exact Float.toBits_inj.1 (UInt64.toBitVec_inj.1 packed)

/-! Sizes. -/

theorem unpack_pack_unpack (value : Float) :
    (Float.Model.pack value.toModel.unpack).unpack = value.toModel.unpack :=
  congrArg (·.toModel.unpack) (ofModel_pack_unpack value)

theorem unpack_abs (value : Float) :
    value.abs.toModel.unpack =
      Unpacked.withSign .positive value.toModel.unpack := by
  change (Float.Model.pack value.toModel.unpack.abs).unpack = _
  rw [Unpacked.abs_eq_withSign, Unpacked.unpack_pack_withSign,
    unpack_pack_unpack]

theorem isFinite_abs (value : Float) : value.abs.isFinite = value.isFinite := by
  change value.abs.toModel.unpack.isFinite = value.toModel.unpack.isFinite
  rw [unpack_abs, Unpacked.isFinite_withSign]

theorem isFinite_neg (value : Float) : (-value).isFinite = value.isFinite := by
  change (Float.Model.pack value.toModel.unpack.neg).unpack.isFinite =
    value.toModel.unpack.isFinite
  rcases Unpacked.exists_neg_eq_withSign value.toModel.unpack with ⟨sign, neg⟩
  rw [neg, Unpacked.unpack_pack_withSign, unpack_pack_unpack,
    Unpacked.isFinite_withSign]

/-- A float with a plus for its sign is its own size. -/
theorem abs_of_positive {value : Float}
    (positive : Unpacked.withSign .positive value.toModel.unpack =
      value.toModel.unpack) : value.abs = value := by
  change Float.ofModel (.pack value.toModel.unpack.abs) = value
  rw [Unpacked.abs_eq_withSign, positive, ofModel_pack_unpack]

theorem neg_abs_of_negative {value : Float}
    (negative : Unpacked.withSign .negative value.toModel.unpack =
      value.toModel.unpack) : -value.abs = value := by
  change Float.ofModel (.pack value.abs.toModel.unpack.neg) = value
  rw [unpack_abs, Unpacked.neg_withSign_positive, negative, ofModel_pack_unpack]

theorem float_add_comm (left right : Float) : left + right = right + left := by
  change Float.ofModel (.pack (UnpackedFloat.add ..)) =
    Float.ofModel (.pack (UnpackedFloat.add ..))
  rw [Unpacked.add_symm]

theorem float_abs_sub_comm (left right : Float) :
    (left - right).abs = (right - left).abs := by
  change Float.ofModel (.pack
      (Float.Model.pack (UnpackedFloat.sub ..)).unpack.abs) =
    Float.ofModel (.pack (Float.Model.pack (UnpackedFloat.sub ..)).unpack.abs)
  rw [Unpacked.abs_eq_withSign, Unpacked.abs_eq_withSign,
    ← Unpacked.unpack_pack_withSign, ← Unpacked.unpack_pack_withSign,
    Unpacked.sub_withSign]

end RootFinding
