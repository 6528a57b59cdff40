import Mathlib
import RootFinding.Json.Codec
import RootFinding.Proofs.Decimal.Plain
import RootFinding.Proofs.Json.Text
import RootFinding.Proofs.Symmetry

/-! Numbers of JSON. The numeral that a finite float is written as is one that
JSON allows, and its value is the float, with the sign of a zero. Counts are
written by their digits. -/

namespace RootFinding

namespace Numeral

/-- A zero after the point does not change the number. -/
theorem pointZero_toRat (numeral : Numeral) :
    (toDecimal { numeral with
      fraction := some (numeral.fraction.getD ['0']) }).toRat =
        numeral.toDecimal.toRat := by
  rcases numeral with ⟨whole, fraction, exponent⟩
  cases fraction with
  | some digits => rfl
  | none =>
      simp only [toDecimal, mantissa, Decimal.toRat, Option.getD_some,
        Option.getD_none, List.append_nil, Nat.ofDigitChars_append,
        Nat.ofDigitChars_cons, Nat.ofDigitChars_nil, List.length_singleton,
        List.length_nil]
      push_cast
      rw [sub_zero, zpow_sub_one₀ (by norm_num)]
      simp
      ring

end Numeral

namespace Decimal

/-! Written digits start with a zero only if the number is zero. -/

theorem head_toDigits_ne_zero {count : ℕ} (nonzero : count ≠ 0) :
    (Nat.toDigits 10 count).head? ≠ some '0' := by
  induction count using Nat.strong_induction_on with
  | _ count smaller =>
      rcases Nat.lt_or_ge count 10 with single | several
      · rw [Nat.toDigits_of_lt_base single]
        intro zero
        have digit : ∀ value < 10, value ≠ 0 → Nat.digitChar value ≠ '0' := by
          decide
        exact digit count single nonzero (Option.some.inj zero)
      · have front := smaller (count / 10) (by omega) (by omega)
        rw [Nat.toDigits_of_base_le (by decide) several,
          List.head?_append_of_ne_nil _ Nat.toDigits_ne_nil]
        exact front

/-- A zero has no exponent left. -/
def IsReduced (decimal : Decimal) : Prop :=
  decimal.digits = 0 → decimal.exponent = 0

theorem trimmedWithin_digits_ne_zero (steps : ℕ) {decimal : Decimal}
    (nonzero : decimal.digits ≠ 0) :
    (trimmedWithin steps decimal).digits ≠ 0 := by
  induction steps generalizing decimal with
  | zero => exact nonzero
  | succ steps kept =>
      unfold trimmedWithin
      split_ifs with tens
      · exact kept (by dsimp only; omega)
      · exact nonzero

theorem trimmed_isReduced (decimal : Decimal) : decimal.trimmed.IsReduced := by
  unfold trimmed
  split_ifs with zero
  · exact fun _ => rfl
  · exact fun digits =>
      absurd digits (trimmedWithin_digits_ne_zero _ zero)

theorem shortest_isReduced (tie : Tie) (readsBack : Decimal → Bool)
    (magnitude : ℚ) : (shortest tie readsBack magnitude).IsReduced := by
  unfold shortest
  split_ifs
  · exact fun _ => rfl
  · exact trimmed_isReduced _

/-! An exponent part whose sign is that of its value. -/

theorem value_ofInt {sign : Option Sign} {value : ℤ}
    (signed : sign = some .minus ↔ value < 0) :
    (ExponentPart.ofInt sign value).value = value := by
  unfold ExponentPart.value ExponentPart.ofInt
  simp only [Nat.ofDigitChars_ten_toDigits, signed]
  split_ifs <;> omega

theorem ofInt_isRegular (sign : Option Sign) (value : ℤ) :
    (ExponentPart.ofInt sign value).IsRegular where
  mark_eq := .inl rfl
  digits_ne_nil := Nat.toDigits_ne_nil
  all_digits _ member :=
    Nat.isDigit_of_mem_toDigits (by decide) (by decide) member

section Scientific

variable {sign : ℤ → Option Sign}

theorem scientific_fraction (decimal : Decimal) :
    (decimal.scientific sign).fraction.getD [] = decimal.digitChars.drop 1 := by
  unfold scientific
  dsimp only
  split_ifs with empty
  · exact empty.symm
  · rfl

theorem scientific_toDecimal (decimal : Decimal)
    (signed : ∀ exponent, sign exponent = some .minus ↔ exponent < 0) :
    (decimal.scientific sign).toDecimal = decimal := by
  have read : Nat.ofDigitChars 10 decimal.digitChars 0 = decimal.digits :=
    Nat.ofDigitChars_ten_toDigits
  have digits : (decimal.scientific sign).mantissa = decimal.digitChars := by
    unfold Numeral.mantissa
    rw [scientific_fraction]
    exact List.take_append_drop 1 _
  have exponent : ((decimal.scientific sign).exponent.map
      ExponentPart.value).getD 0 = decimal.leadingExponent :=
    value_ofInt (signed decimal.leadingExponent)
  have length : 0 < decimal.digitChars.length :=
    List.length_pos_iff.2 decimal.digitChars_ne_nil
  unfold Numeral.toDecimal
  rw [digits, exponent, scientific_fraction, read, List.length_drop]
  unfold leadingExponent
  have same : decimal.exponent + decimal.digitChars.length - 1 -
      (decimal.digitChars.length - 1 : ℕ) = decimal.exponent := by
    omega
  rw [same]

theorem scientific_isRegular (decimal : Decimal) :
    (decimal.scientific sign).IsRegular where
  whole_digits _ member :=
    isDigit_of_mem_digitChars (List.mem_of_mem_take member)
  fraction_digits digit member := by
    rw [scientific_fraction] at member
    exact isDigit_of_mem_digitChars (List.mem_of_mem_drop member)
  exponent_regular _ member := by
    cases member
    exact ofInt_isRegular _ _

theorem scientific_isStrict (decimal : Decimal) :
    (decimal.scientific sign).isStrict = true := by
  have length : 0 < decimal.digitChars.length :=
    List.length_pos_iff.2 decimal.digitChars_ne_nil
  have one : (decimal.digitChars.take 1).length = 1 := by
    rw [List.length_take]
    omega
  refine Numeral.isStrict_iff.2 ⟨?_, .inr one, ?_⟩
  · exact List.length_pos_iff.1 (one ▸ Nat.zero_lt_one)
  · unfold scientific
    dsimp only
    split_ifs with empty
    · exact nofun
    · exact fun equal => empty (Option.some.inj equal)

end Scientific

/-- Without an exponent part only the digits of zero may start with a zero, and
then no other digit stands in front of the point. -/
theorem positional_whole {decimal : Decimal} (reduced : decimal.IsReduced) :
    decimal.positional.whole.head? ≠ some '0' ∨
      decimal.positional.whole.length = 1 := by
  unfold positional
  dsimp only
  rcases eq_or_ne decimal.digits 0 with zero | nonzero
  · have exponent := reduced zero
    right
    simp [digitChars, zero, exponent]
  · have front := head_toDigits_ne_zero nonzero
    split_ifs with whole few
    · left
      rw [List.head?_append_of_ne_nil _ decimal.digitChars_ne_nil]
      exact front
    · left
      have count : decimal.digitChars.length - (-decimal.exponent).toNat ≠ 0 := by
        omega
      rw [List.head?_take, if_neg count]
      exact front
    · exact .inr rfl

theorem positional_fraction (decimal : Decimal) :
    decimal.positional.fraction ≠ some [] := by
  unfold positional
  dsimp only
  split_ifs with whole few
  · exact nofun
  · intro empty
    have dropped := List.drop_eq_nil_iff.1 (Option.some.inj empty)
    omega
  · intro empty
    exact decimal.digitChars_ne_nil
      (List.append_eq_nil_iff.1 (Option.some.inj empty)).2

end Decimal

namespace Json

open Decimal

theorem numberStyle_signed (exponent : ℤ) :
    numberStyle.exponentSign exponent = some .minus ↔ exponent < 0 := by
  unfold numberStyle
  dsimp only
  split_ifs with negative
  · simp [negative]
  · simp [negative]

section LayOut

variable (decimal : Decimal)

theorem layOut_eq :
    numberStyle.layOut decimal =
      if numberStyle.isPositional decimal.leadingExponent then
        { decimal.positional with
          fraction := some (decimal.positional.fraction.getD ['0']) }
      else
        decimal.scientific numberStyle.exponentSign :=
  rfl

theorem layOut_toRat :
    (numberStyle.layOut decimal).toDecimal.toRat = decimal.toRat := by
  rw [layOut_eq]
  split_ifs with positional
  · exact (Numeral.pointZero_toRat _).trans (positional_toDecimal_toRat decimal)
  · rw [scientific_toDecimal decimal numberStyle_signed]

theorem layOut_isRegular : (numberStyle.layOut decimal).IsRegular := by
  rw [layOut_eq]
  split_ifs with positional
  · have plain := decimal.positional_isPlain
    refine ⟨plain.whole_digits, fun digit member => ?_, fun part member => ?_⟩
    · have written := plain.fraction_digits digit
      cases fraction : decimal.positional.fraction with
      | some digits =>
          simp only [fraction, Option.getD_some] at member written
          exact written member
      | none =>
          simp only [fraction, Option.getD_none, Option.getD_some,
            List.mem_singleton] at member
          rw [member]
          rfl
    · rw [plain.exponent_eq] at member
      cases member
  · exact scientific_isRegular decimal

theorem layOut_isStrict (reduced : decimal.IsReduced) :
    (numberStyle.layOut decimal).isStrict = true := by
  rw [layOut_eq]
  split_ifs with positional
  · refine Numeral.isStrict_iff.2 ⟨decimal.positional_isPlain.whole_ne_nil,
      positional_whole reduced, fun equal => ?_⟩
    have empty := Option.some.inj equal
    cases fraction : decimal.positional.fraction with
    | some digits =>
        rw [fraction, Option.getD_some] at empty
        exact decimal.positional_fraction (fraction.trans (congrArg some empty))
    | none =>
        rw [fraction] at empty
        cases empty
  · exact scientific_isStrict decimal

end LayOut

/-! Floats. The numeral is that of the size, and the sign goes in front. -/

section Floats

variable {value : Float} {negative : Bool} {magnitude : ℚ}

theorem numeral_toFloat
    (read : ExactValue.ofFloat value = .finite negative magnitude) :
    (numberStyle.numeral value magnitude).toDecimal.toFloat = value.abs :=
  (toFloat_eq_of_toRat_eq (layOut_toRat _)).trans
    (shortest_toFloat read numberStyle.tie)

theorem signed_abs
    (read : ExactValue.ofFloat value = .finite negative magnitude) :
    (if negative then -value.abs else value.abs) = value := by
  have signed : ∀ sign, Unpacked.withSign sign value.toModel.unpack =
      value.toModel.unpack →
        (if ExactValue.isNegative sign then -value.abs else value.abs) =
          value := by
    intro sign same
    cases sign with
    | negative => exact neg_abs_of_negative same
    | positive => exact abs_of_positive same
  unfold ExactValue.ofFloat at read
  split at read
  · cases read
  · cases read
  · rename_i sign unpacked
    cases read
    exact signed sign (by rw [unpacked]; rfl)
  · rename_i sign mantissa exponent positive unpacked
    cases read
    exact signed sign (by rw [unpacked]; rfl)

theorem isFinite_iff :
    value.isFinite = true ↔
      ∃ negative magnitude,
        ExactValue.ofFloat value = .finite negative magnitude := by
  change value.toModel.unpack.isFinite = true ↔ _
  unfold ExactValue.ofFloat
  cases value.toModel.unpack with
  | notANumber => exact ⟨nofun, nofun⟩
  | infinity sign => exact ⟨nofun, nofun⟩
  | zero sign => exact ⟨fun _ => ⟨_, _, rfl⟩, fun _ => rfl⟩
  | finite sign mantissa exponent positive =>
      exact ⟨fun _ => ⟨_, _, rfl⟩, fun _ => rfl⟩

theorem ofFloat_isReadable (value : Float) : (ofFloat value).IsReadable := by
  unfold ofFloat
  split
  · rename_i negative magnitude read
    have written : Token.IsReadable
        (.number negative (numberStyle.numeral value magnitude)) :=
      ⟨layOut_isRegular _, layOut_isStrict _ (shortest_isReduced _ _ _)⟩
    exact List.forall_mem_singleton.2 written
  · exact List.forall_mem_singleton.2 trivial
  · exact List.forall_mem_singleton.2 trivial

theorem toFloat_ofFloat (finite : value.isFinite = true) :
    toFloat? (ofFloat value) = some value := by
  rcases isFinite_iff.1 finite with ⟨negative, magnitude, read⟩
  have size : (numberStyle.numeral value magnitude).toDecimal.toFloat =
      value.abs := numeral_toFloat read
  simp only [ofFloat, read, toFloat?, size, isFinite_abs, finite, if_true,
    signed_abs read]

theorem ofFloat_eq_null (infinite : value.isFinite = false) :
    ofFloat value = .null := by
  have unread : ∀ negative magnitude,
      ExactValue.ofFloat value ≠ .finite negative magnitude :=
    fun negative magnitude read =>
      Bool.eq_false_iff.1 infinite (isFinite_iff.2 ⟨_, _, read⟩)
  unfold ofFloat
  split
  · rename_i negative magnitude read
    exact absurd read (unread negative magnitude)
  · rfl
  · rfl

theorem isFinite_of_toFloat? {json : Json} (read : toFloat? json = some value) :
    value.isFinite = true := by
  unfold toFloat? at read
  split at read
  · rename_i negative numeral
    dsimp only at read
    split_ifs at read with finite minus
    · cases read
      exact (isFinite_neg _).trans finite
    · cases read
      exact finite
  · cases read

end Floats

/-! Counts. -/

theorem toCount_ofCount {count : ℕ} (small : count < countBound) :
    toCount? (ofCount count) = some count := by
  simp only [ofCount, toCount?, Nat.ofDigitChars_ten_toDigits, small, if_true]

theorem lt_of_toCount? {json : Json} {count : ℕ}
    (read : toCount? json = some count) : count < countBound := by
  unfold toCount? at read
  split at read
  · dsimp only at read
    split_ifs at read with small
    cases read
    exact small
  · cases read

theorem ofCount_isReadable (count : ℕ) : (ofCount count).IsReadable := by
  have regular : Numeral.IsRegular ⟨Nat.toDigits 10 count, none, none⟩ := {
    whole_digits := fun _ member =>
      Nat.isDigit_of_mem_toDigits (by decide) (by decide) member
    fraction_digits := nofun
    exponent_regular := nofun }
  have front : (Nat.toDigits 10 count).head? ≠ some '0' ∨
      (Nat.toDigits 10 count).length = 1 := by
    rcases eq_or_ne count 0 with rfl | nonzero
    · exact .inr rfl
    · exact .inl (head_toDigits_ne_zero nonzero)
  have written : Token.IsReadable
      (.number false ⟨Nat.toDigits 10 count, none, none⟩) :=
    ⟨regular, Numeral.isStrict_iff.2 ⟨Nat.toDigits_ne_nil, front, nofun⟩⟩
  exact List.forall_mem_singleton.2 written

end Json

end RootFinding
