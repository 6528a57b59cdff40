import Mathlib

/-! The signs of floats, from the model of their operations. Comparisons with
zero tell the sign of a number, and the sign of a product is the product of the
signs, unless the product of two numbers that are not zero underflows to it. -/

namespace RootFinding

open Float.Model (Format UnpackedFloat)

namespace Unpacked

open Float.Model.UnpackedFloat

def signType : UnpackedFloat.Sign → SignType
  | .negative => -1
  | .positive => 1

def sign? : UnpackedFloat → Option SignType
  | .notANumber => none
  | .zero _ => some 0
  | .infinity sign => some (signType sign)
  | .finite sign _ _ _ => some (signType sign)

theorem signType_mul (left right : UnpackedFloat.Sign) :
    signType (left * right) = signType left * signType right := by
  cases left <;> cases right <;> rfl

theorem exists_of_sign?_eq_zero {value : UnpackedFloat}
    (zero : sign? value = some 0) : ∃ bit, value = .zero bit := by
  have nonzero (bit : UnpackedFloat.Sign) : signType bit ≠ 0 := by
    cases bit <;> decide
  cases value with
  | notANumber => cases zero
  | zero bit => exact ⟨bit, rfl⟩
  | infinity bit => exact absurd (Option.some.inj zero) (nonzero bit)
  | finite bit => exact absurd (Option.some.inj zero) (nonzero bit)

/-! Results are packed into 64 bits and unpacked again. -/

/-- Components are read back with their sign, or as a zero. -/
theorem sign?_unpack_packComponents (format : Format)
    (sign : UnpackedFloat.Sign) (exponent : BitVec format.exponentBits)
    (significand : BitVec format.mantissaBitsWithoutImplicit)
    (number : exponent = -1#_ → significand = 0#_) :
    sign? (unpack format (packComponents format sign exponent significand)) =
        some (signType sign) ∨
      sign? (unpack format (packComponents format sign exponent significand)) =
        some 0 := by
  simp only [unpack, unpackExponent_packComponents,
    unpackMantissa_packComponents, unpackSign_packComponents,
    Sign.ofBitVec_toBitVec]
  by_cases top : exponent = -1#_
  · simp [top, number top, sign?]
  · rw [if_neg top]
    split
    · split
      · exact .inr rfl
      · exact .inl rfl
    · exact .inl rfl

/-- Packing keeps the sign, or gives a zero. -/
theorem sign?_unpack_pack {value : UnpackedFloat} {sign : SignType}
    (signed : sign? value = some sign) :
    sign? (Float.Model.pack value).unpack = some sign ∨
      sign? (Float.Model.pack value).unpack = some 0 := by
  cases value with
  | notANumber => cases signed
  | zero bit => cases bit <;> exact .inr rfl
  | infinity bit =>
      cases signed
      exact sign?_unpack_packComponents .binary64 bit _ _ fun _ => rfl
  | finite bit significand exponent positive =>
      cases signed
      change sign? (unpack .binary64 (pack .binary64 _)) = _ ∨
        sign? (unpack .binary64 (pack .binary64 _)) = _
      dsimp only [pack]
      split_ifs with overflow normal
      · exact sign?_unpack_packComponents .binary64 bit _ _ fun _ => rfl
      · -- An exponent of ones would have overflowed.
        refine sign?_unpack_packComponents .binary64 bit _ _ fun top => ?_
        have exponentBits := congrArg BitVec.toNat top
        simp only [BitVec.toNat_ofNat, BitVec.neg_one_eq_allOnes,
          BitVec.toNat_allOnes] at exponentBits
        omega
      · refine sign?_unpack_packComponents .binary64 bit _ _ fun top => ?_
        exact absurd top (by decide)

theorem sign?_roundWithAccuracy (format : Format) (sign : UnpackedFloat.Sign)
    (significand : Nat) (exponent : Int) (accuracy : Accuracy) :
    sign? (roundWithAccuracy format sign significand exponent accuracy) =
        some (signType sign) ∨
      sign? (roundWithAccuracy format sign significand exponent accuracy) =
        some 0 := by
  dsimp only [roundWithAccuracy]
  split
  · exact .inr rfl
  · exact .inl rfl

/-- A product is undefined only where one factor is infinite and the other a
zero. -/
theorem sign?_mul (format : Format) {left right : UnpackedFloat}
    {leftSign rightSign : SignType} (leftSigned : sign? left = some leftSign)
    (rightSigned : sign? right = some rightSign)
    (defined : leftSign ≠ 0 ∧ rightSign ≠ 0 ∨
      left.isFinite = true ∧ right.isFinite = true) :
    sign? (mul format left right) = some (leftSign * rightSign) ∨
      sign? (mul format left right) = some 0 := by
  cases left with
  | notANumber => cases leftSigned
  | zero leftBit =>
      cases leftSigned
      cases right with
      | notANumber => cases rightSigned
      | zero rightBit => exact .inr rfl
      | infinity rightBit => simp [isFinite] at defined
      | finite rightBit => exact .inr rfl
  | infinity leftBit =>
      cases leftSigned
      cases right with
      | notANumber => cases rightSigned
      | zero rightBit =>
          cases rightSigned
          simp [isFinite] at defined
      | infinity rightBit =>
          cases rightSigned
          rw [← signType_mul]
          exact .inl rfl
      | finite rightBit =>
          cases rightSigned
          rw [← signType_mul]
          exact .inl rfl
  | finite leftBit =>
      cases leftSigned
      cases right with
      | notANumber => cases rightSigned
      | zero rightBit => exact .inr rfl
      | infinity rightBit =>
          cases rightSigned
          rw [← signType_mul]
          exact .inl rfl
      | finite rightBit =>
          cases rightSigned
          rw [← signType_mul]
          exact sign?_roundWithAccuracy ..

/-- A product with a zero is a zero, or undefined where the other factor is
infinite or undefined. -/
theorem sign?_mul_zero (format : Format) (left : UnpackedFloat)
    {right : UnpackedFloat} (zero : sign? right = some 0) :
    mul format left right = .notANumber ∨
      sign? (mul format left right) = some 0 := by
  rcases exists_of_sign?_eq_zero zero with ⟨bit, rfl⟩
  cases left with
  | notANumber => exact .inl rfl
  | zero leftBit => exact .inr rfl
  | infinity leftBit => exact .inl rfl
  | finite leftBit => exact .inr rfl

/-! A comparison with zero is decided by the sign. -/

def ordering : SignType → Ordering
  | .neg => .lt
  | .zero => .eq
  | .pos => .gt

theorem compare_zero (value : UnpackedFloat) :
    value.compare (.zero .positive) = (sign? value).map ordering := by
  cases value with
  | notANumber => rfl
  | zero bit => rfl
  | infinity bit => cases bit <;> rfl
  | finite bit => cases bit <;> rfl

theorem zero_compare (value : UnpackedFloat) :
    UnpackedFloat.compare (.zero .positive) value =
      (sign? value).map fun sign => ordering (-sign) := by
  cases value with
  | notANumber => rfl
  | zero bit => rfl
  | infinity bit => cases bit <;> rfl
  | finite bit => cases bit <;> rfl

end Unpacked

/-- The sign of a float. `NaN` has none. -/
def sign? (value : Float) : Option SignType :=
  Unpacked.sign? value.toModel.unpack

theorem lt_iff_compare {left right : Float} :
    left < right ↔
      left.toModel.unpack.compare right.toModel.unpack = some .lt := by
  change decide (left.toModel.unpack.lt right.toModel.unpack = true) = true ↔ _
  simp [UnpackedFloat.lt]

theorem lt_zero_iff {value : Float} :
    value < 0.0 ↔ sign? value = some (-1) := by
  have compared := Unpacked.compare_zero value.toModel.unpack
  rw [lt_iff_compare]
  change value.toModel.unpack.compare (.zero .positive) = some .lt ↔ _
  rw [compared, ← sign?]
  rcases sign? value with _ | sign
  · simp
  · cases sign <;> decide

theorem zero_lt_iff {value : Float} :
    0.0 < value ↔ sign? value = some 1 := by
  have compared := Unpacked.zero_compare value.toModel.unpack
  rw [lt_iff_compare]
  change UnpackedFloat.compare (.zero .positive) value.toModel.unpack =
    some .lt ↔ _
  rw [compared, ← sign?]
  rcases sign? value with _ | sign
  · simp
  · cases sign <;> decide

theorem beq_zero_iff {value : Float} :
    (value == 0.0) = true ↔ sign? value = some 0 := by
  have compared := Unpacked.compare_zero value.toModel.unpack
  change (value.toModel.unpack.compare (.zero .positive) == some .eq) = true ↔
    _
  rw [compared, ← sign?]
  rcases sign? value with _ | sign
  · simp
  · cases sign <;> decide

theorem isNaN_iff {value : Float} :
    value.isNaN = true ↔ sign? value = none := by
  change value.toModel.unpack.isNaN = true ↔ _
  unfold sign?
  cases value.toModel.unpack <;>
    simp [Unpacked.sign?, UnpackedFloat.isNaN]

theorem exists_sign_of_not_isNaN {value : Float}
    (number : value.isNaN = false) : ∃ sign, sign? value = some sign := by
  rw [← Option.isSome_iff_exists, Option.isSome_iff_ne_none, ne_eq,
    ← isNaN_iff, number]
  simp

theorem exists_sign_of_isFinite {value : Float}
    (finite : value.isFinite = true) : ∃ sign, sign? value = some sign := by
  change value.toModel.unpack.isFinite = true at finite
  unfold sign?
  cases unpacked : value.toModel.unpack with
  | notANumber => simp [unpacked, UnpackedFloat.isFinite] at finite
  | zero bit => exact ⟨_, rfl⟩
  | infinity bit => exact ⟨_, rfl⟩
  | finite bit => exact ⟨_, rfl⟩

theorem sign?_mul {left right : Float} {leftSign rightSign : SignType}
    (leftSigned : sign? left = some leftSign)
    (rightSigned : sign? right = some rightSign)
    (defined : leftSign ≠ 0 ∧ rightSign ≠ 0 ∨
      left.isFinite = true ∧ right.isFinite = true) :
    sign? (left * right) = some (leftSign * rightSign) ∨
      sign? (left * right) = some 0 := by
  rcases Unpacked.sign?_mul .binary64 leftSigned rightSigned defined with
    signed | zero
  · exact Unpacked.sign?_unpack_pack signed
  · exact .inr ((Unpacked.sign?_unpack_pack zero).elim id id)

theorem sign?_mul_zero {left right : Float} (zero : sign? right = some 0) :
    sign? (left * right) ≠ some (-1) := by
  have undefined : sign? (.ofModel (.pack .notANumber)) = none := by
    change Unpacked.sign? (UnpackedFloat.unpack .binary64
      (UnpackedFloat.packedNaN .binary64)) = none
    rw [UnpackedFloat.unpack_packedNaN]
    rfl
  have packed : left * right = .ofModel (.pack (UnpackedFloat.mul .binary64
    left.toModel.unpack right.toModel.unpack)) := rfl
  rcases Unpacked.sign?_mul_zero .binary64 left.toModel.unpack zero with
    noNumber | zeroProduct
  · rw [packed, noNumber, undefined]
    nofun
  · have kept : sign? (left * right) = some 0 :=
      (Unpacked.sign?_unpack_pack zeroProduct).elim id id
    rw [kept]
    decide

/-- The size of a zero is below every positive bound. -/
theorem abs_lt_of_zero {value bound : Float} (zero : sign? value = some 0)
    (positive : 0.0 < bound) : value.abs < bound := by
  rcases Unpacked.exists_of_sign?_eq_zero zero with ⟨bit, unpacked⟩
  have absolute : value.abs.toModel.unpack = .zero .positive := by
    change (Float.Model.pack value.toModel.unpack.abs).unpack = _
    rw [unpacked, UnpackedFloat.abs]
    rfl
  rw [lt_iff_compare] at positive ⊢
  rwa [absolute]

/-! Two numbers that are not zero. -/

def SameSign (left right : Float) : Prop :=
  left < 0.0 ∧ right < 0.0 ∨ 0.0 < left ∧ 0.0 < right

def OppositeSigns (left right : Float) : Prop :=
  left < 0.0 ∧ 0.0 < right ∨ 0.0 < left ∧ right < 0.0

instance (left right : Float) : Decidable (SameSign left right) :=
  inferInstanceAs (Decidable (_ ∧ _ ∨ _ ∧ _))

instance (left right : Float) : Decidable (OppositeSigns left right) :=
  inferInstanceAs (Decidable (_ ∧ _ ∨ _ ∧ _))

theorem sameSign_iff {left right : Float} :
    SameSign left right ↔
      ∃ sign, sign ≠ 0 ∧ sign? left = some sign ∧ sign? right = some sign := by
  simp only [SameSign, lt_zero_iff, zero_lt_iff]
  constructor
  · rintro (⟨leftSigned, rightSigned⟩ | ⟨leftSigned, rightSigned⟩)
    · exact ⟨-1, by decide, leftSigned, rightSigned⟩
    · exact ⟨1, by decide, leftSigned, rightSigned⟩
  · rintro ⟨sign, nonzero, leftSigned, rightSigned⟩
    cases sign with
    | neg => exact .inl ⟨leftSigned, rightSigned⟩
    | zero => exact absurd rfl nonzero
    | pos => exact .inr ⟨leftSigned, rightSigned⟩

theorem sameSign_iff_mul {left right : Float} {leftSign rightSign : SignType}
    (leftSigned : sign? left = some leftSign)
    (rightSigned : sign? right = some rightSign) :
    SameSign left right ↔ leftSign * rightSign = 1 := by
  have same : ∀ left right : SignType,
      (left = -1 ∧ right = -1 ∨ left = 1 ∧ right = 1) ↔ left * right = 1 := by
    decide
  simpa only [SameSign, lt_zero_iff, zero_lt_iff, leftSigned, rightSigned,
    Option.some.injEq] using same leftSign rightSign

theorem oppositeSigns_iff_mul {left right : Float}
    {leftSign rightSign : SignType} (leftSigned : sign? left = some leftSign)
    (rightSigned : sign? right = some rightSign) :
    OppositeSigns left right ↔ leftSign * rightSign = -1 := by
  have opposite : ∀ left right : SignType,
      (left = -1 ∧ right = 1 ∨ left = 1 ∧ right = -1) ↔ left * right = -1 := by
    decide
  simpa only [OppositeSigns, lt_zero_iff, zero_lt_iff, leftSigned, rightSigned,
    Option.some.injEq] using opposite leftSign rightSign

theorem oppositeSigns_iff {left right : Float} :
    OppositeSigns left right ↔
      ∃ sign, sign ≠ 0 ∧ sign? left = some sign ∧
        sign? right = some (-sign) := by
  simp only [OppositeSigns, lt_zero_iff, zero_lt_iff]
  constructor
  · rintro (⟨leftSigned, rightSigned⟩ | ⟨leftSigned, rightSigned⟩)
    · exact ⟨-1, by decide, leftSigned, rightSigned⟩
    · exact ⟨1, by decide, leftSigned, rightSigned⟩
  · rintro ⟨sign, nonzero, leftSigned, rightSigned⟩
    cases sign with
    | neg => exact .inl ⟨leftSigned, rightSigned⟩
    | zero => exact absurd rfl nonzero
    | pos => exact .inr ⟨leftSigned, rightSigned⟩

end RootFinding
