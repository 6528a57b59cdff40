import RootFinding.Decimal.Style
import RootFinding.Proofs.Decimal.Nearest

/-! Plain numerals: digits, and after a point more digits. The plain text of a
finite float without a sign is such a numeral, and its value is the float. -/

namespace RootFinding

namespace Decimal

/-! Moving zeros between the digits and the exponent keeps the number. -/

theorem trimmedWithin_toRat (steps : ℕ) (decimal : Decimal) :
    (trimmedWithin steps decimal).toRat = decimal.toRat := by
  induction steps generalizing decimal with
  | zero => rfl
  | succ steps kept =>
      unfold trimmedWithin
      split_ifs with zero
      · have tens : (decimal.digits : ℚ) = (decimal.digits / 10 : ℕ) * 10 := by
          have := Nat.div_add_mod decimal.digits 10
          rw [zero, add_zero, mul_comm] at this
          exact_mod_cast this.symm
        rw [kept, toRat, toRat, tens, zpow_add_one₀ (by norm_num)]
        ring
      · rfl

theorem trimmed_toRat (decimal : Decimal) :
    decimal.trimmed.toRat = decimal.toRat := by
  unfold trimmed
  split_ifs with zero
  · simp [toRat, zero]
  · exact trimmedWithin_toRat _ decimal

theorem toFloat_eq_of_toRat_eq {left right : Decimal}
    (same : left.toRat = right.toRat) : left.toFloat = right.toFloat := by
  rw [toFloat_eq_nearestFloat, toFloat_eq_nearestFloat, same]

end Decimal

namespace Numeral

/-- Digits in front of the point, if there is one, and no exponent part. -/
structure IsPlain (numeral : Numeral) : Prop where
  whole_ne_nil : numeral.whole ≠ []
  whole_digits : ∀ digit ∈ numeral.whole, digit.isDigit = true
  fraction_digits : ∀ digit ∈ numeral.fraction.getD [], digit.isDigit = true
  exponent_eq : numeral.exponent = none

end Numeral

namespace Decimal

theorem digitChars_ne_nil (decimal : Decimal) : decimal.digitChars ≠ [] :=
  Nat.toDigits_ne_nil

theorem isDigit_of_mem_digitChars {decimal : Decimal} {digit : Char}
    (member : digit ∈ decimal.digitChars) : digit.isDigit = true :=
  Nat.isDigit_of_mem_toDigits (by decide) (by decide) member

theorem isDigit_of_mem_zeros {count : ℕ} {digit : Char}
    (member : digit ∈ List.replicate count '0') : digit.isDigit = true := by
  rw [List.eq_of_mem_replicate member]
  rfl

theorem positional_isPlain (decimal : Decimal) :
    decimal.positional.IsPlain := by
  unfold positional
  dsimp only
  split_ifs with whole few
  · refine ⟨?_, fun digit member => ?_, by simp, rfl⟩
    · exact List.append_ne_nil_of_left_ne_nil decimal.digitChars_ne_nil _
    · exact (List.mem_append.1 member).elim isDigit_of_mem_digitChars
        isDigit_of_mem_zeros
  · -- The point stands among the digits.
    refine ⟨?_, fun digit member => ?_, fun digit member => ?_, rfl⟩
    · rw [ne_eq, List.take_eq_nil_iff, not_or]
      exact ⟨by omega, decimal.digitChars_ne_nil⟩
    · exact isDigit_of_mem_digitChars (List.mem_of_mem_take member)
    · exact isDigit_of_mem_digitChars (List.mem_of_mem_drop member)
  · -- The point stands before all digits.
    refine ⟨List.cons_ne_nil _ _, fun digit member => ?_,
      fun digit member => ?_, rfl⟩
    · rw [List.mem_singleton.1 member]
      rfl
    · exact (List.mem_append.1 member).elim isDigit_of_mem_zeros
        isDigit_of_mem_digitChars

theorem toDecimal_fraction (whole fraction : List Char) :
    Numeral.toDecimal ⟨whole, some fraction, none⟩ =
      ⟨Nat.ofDigitChars 10 (whole ++ fraction) 0, -fraction.length⟩ := by
  simp [Numeral.toDecimal, Numeral.mantissa]

theorem positional_toDecimal_toRat (decimal : Decimal) :
    decimal.positional.toDecimal.toRat = decimal.toRat := by
  have read : Nat.ofDigitChars 10 decimal.digitChars 0 = decimal.digits :=
    Nat.ofDigitChars_ten_toDigits
  unfold positional
  dsimp only
  split_ifs with whole few
  · obtain ⟨zeros, exponent⟩ := Int.eq_ofNat_of_zero_le whole
    simp only [Numeral.toDecimal, Numeral.mantissa, toRat, exponent,
      Option.getD_none, List.append_nil, Nat.ofDigitChars_append,
      Nat.ofDigitChars_replicate_zero, read]
    simp [mul_comm]
  · rw [toDecimal_fraction, List.take_append_drop, read, List.length_drop]
    congr 2
    omega
  · rw [toDecimal_fraction, List.singleton_append, Nat.ofDigitChars_cons,
      Nat.ofDigitChars_append, Nat.ofDigitChars_replicate_zero,
      List.length_append, List.length_replicate]
    simp only [Char.reduceToNat, Nat.mul_zero, Nat.sub_self, Nat.add_zero, read]
    congr 2
    omega

/-! The search for the shortest decimal. -/

theorem readsBack_of_neighbour? {tie : Tie} {readsBack : Decimal → Bool}
    {magnitude : ℚ} {count : ℕ} {decimal : Decimal}
    (found : neighbour? tie readsBack magnitude count = some decimal) :
    readsBack decimal = true := by
  unfold neighbour? at found
  dsimp only at found
  split at found
  · rename_i lower upper
    rw [← Option.some.inj found]
    split
    · exact upper
    · exact lower
  · rename_i lower _
    rw [← Option.some.inj found]
    exact lower
  · rename_i _ upper
    rw [← Option.some.inj found]
    exact upper
  · cases found

/-- Magnitudes of floats have a power of two for their denominator. -/
theorem exists_den_eq (mantissa : ℕ) (exponent : ℤ) :
    ∃ places, ((mantissa : ℚ) * 2 ^ exponent).den = 2 ^ places := by
  rcases le_total 0 exponent with natural | negative
  · obtain ⟨shift, rfl⟩ := Int.eq_ofNat_of_zero_le natural
    refine ⟨0, ?_⟩
    rw [zpow_natCast]
    exact_mod_cast Rat.den_natCast (mantissa * 2 ^ shift)
  · obtain ⟨shift, rfl⟩ := Int.exists_eq_neg_ofNat negative
    have divides : ((mantissa : ℚ) * 2 ^ (-(shift : ℤ))).den ∣ 2 ^ shift := by
      have quotient : (mantissa : ℚ) * 2 ^ (-(shift : ℤ)) =
          Rat.divInt mantissa (2 ^ shift : ℕ) := by
        rw [Rat.divInt_eq_div, zpow_neg, zpow_natCast, ← div_eq_mul_inv]
        push_cast
        rfl
      rw [quotient]
      exact_mod_cast Rat.den_dvd mantissa (2 ^ shift : ℕ)
    rcases (Nat.dvd_prime_pow Nat.prime_two).1 divides with ⟨places, _, den⟩
    exact ⟨places, den⟩

theorem ofDyadic_toRat {magnitude : ℚ} (nonnegative : 0 ≤ magnitude)
    {places : ℕ} (den : magnitude.den = 2 ^ places) :
    (ofDyadic magnitude).toRat = magnitude := by
  have num : ((magnitude.num.natAbs : ℕ) : ℚ) = magnitude.num := by
    rw [← Int.cast_natCast, Int.natAbs_of_nonneg (Rat.num_nonneg.2 nonnegative)]
  have ten : (10 : ℚ) ^ places = 5 ^ places * 2 ^ places := by
    rw [← mul_pow]
    norm_num
  calc (ofDyadic magnitude).toRat
      = magnitude.num * 5 ^ places / 10 ^ places := by
        simp [ofDyadic, toRat, den, num, Nat.log2_two_pow, div_eq_mul_inv]
    _ = magnitude.num / magnitude.den := by
        rw [ten, den]
        push_cast
        field_simp
    _ = magnitude := magnitude.num_div_den

theorem exists_eq_of_ofFloat {value : Float} {negative : Bool} {magnitude : ℚ}
    (read : ExactValue.ofFloat value = .finite negative magnitude) :
    ∃ mantissa : ℕ, ∃ exponent : ℤ, magnitude = mantissa * 2 ^ exponent := by
  unfold ExactValue.ofFloat at read
  split at read
  · cases read
  · cases read
  · cases read
    exact ⟨0, 0, by simp⟩
  · cases read
    exact ⟨_, _, rfl⟩

/-- The search ends with a number that reads back, and so does the exact
expansion that stands in for it. -/
theorem shortest_toFloat {value : Float} {negative : Bool} {magnitude : ℚ}
    (read : ExactValue.ofFloat value = .finite negative magnitude) (tie : Tie) :
    (shortest tie (fun candidate => candidate.toFloat = value.abs)
      magnitude).toFloat = value.abs := by
  unfold shortest
  split_ifs with zero
  · rw [toFloat_eq_nearestFloat, ← nearestFloat_magnitude read, zero]
    congr 1
    simp [toRat]
  · rw [toFloat_eq_of_toRat_eq (trimmed_toRat _)]
    cases found : (List.range 17).findSome? fun index =>
      neighbour? tie (fun candidate => candidate.toFloat = value.abs)
        magnitude (index + 1) with
    | some decimal =>
        rcases List.exists_of_findSome?_eq_some found with ⟨index, _, hit⟩
        exact of_decide_eq_true (readsBack_of_neighbour? hit)
    | none =>
        rcases exists_eq_of_ofFloat read with ⟨mantissa, exponent, exact⟩
        rcases exists_den_eq mantissa exponent with ⟨places, den⟩
        have nonnegative : 0 ≤ magnitude := exact ▸ by positivity
        rw [Option.getD_none, toFloat_eq_nearestFloat,
          ofDyadic_toRat nonnegative (exact ▸ den), nearestFloat_magnitude read]

end Decimal

/-- The plain text of a finite float that a decimal number stands for is a
plain numeral, which reads back. -/
theorem exists_plain_numeral {decimal : Decimal}
    (finite : decimal.toFloat.isFinite = true) :
    ∃ numeral : Numeral, numeral.IsPlain ∧
      NumberStyle.plain.text decimal.toFloat = numeral.text ∧
        numeral.toFloat? = some decimal.toFloat := by
  rw [Decimal.toFloat_eq_nearestFloat] at finite ⊢
  rcases ofFloat_nearestFloat finite with ⟨magnitude, read⟩
  set value := nearestFloat decimal.toRat
  have unsigned : value.abs = value := abs_nearestFloat _
  set shortest := Decimal.shortest .up
    (fun candidate => candidate.toFloat = value.abs) magnitude with chosen
  have plain := shortest.positional_isPlain
  refine ⟨shortest.positional, plain, ?_, ?_⟩
  · unfold NumberStyle.text
    rw [read]
    exact String.empty_append
  · have digits : shortest.positional.mantissa ≠ [] :=
      List.append_ne_nil_of_left_ne_nil plain.whole_ne_nil _
    have same :=
      Decimal.toFloat_eq_of_toRat_eq shortest.positional_toDecimal_toRat
    rw [Numeral.toFloat?, if_neg digits, same, chosen,
      Decimal.shortest_toFloat read, unsigned]

end RootFinding
