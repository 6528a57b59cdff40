import RootFinding.Proofs.RoundedNumber

/-! Numbers that one unit more or less does not move. From `2 ^ 53` on a float
keeps no odd numbers, and what lies halfway between two floats is rounded to
the multiple of four. -/

namespace RootFinding

namespace Decimal

variable {exact : ℚ} {count : ℕ}

theorem nearestEven_eq_of_near (nonnegative : 0 ≤ exact)
    (near : |exact - count| < 1 / 2) : nearestEven exact = count := by
  have rounds := abs_nearestEven_sub_le nonnegative
  have together : |(nearestEven exact : ℚ) - count| < 1 := by
    rw [← sub_add_sub_cancel _ exact]
    exact (abs_add_le _ _).trans_lt (by linarith)
  have whole : |(nearestEven exact : ℤ) - count| < 1 := by
    exact_mod_cast together
  have same := Int.abs_lt_one_iff.1 whole
  omega

theorem nearestEven_half (count : ℕ) :
    nearestEven (count + 1 / 2) = count + count % 2 := by
  have tie : Unpacked.Represents ⟨count, true, false⟩ (count + 1 / 2) := rfl
  rw [← tie.roundedMantissa]
  rfl

end Decimal

namespace Unpacked

variable {exact number : ℚ} {count : ℕ}

theorem isRepresentable_natCast (atMost : count ≤ 2 ^ 53) :
    IsRepresentable count := by
  rcases atMost.eq_or_lt with rfl | bits
  · refine ⟨2 ^ 52, 1, by decide, by decide, ?_⟩
    norm_num
  · refine ⟨count, 0, bits, by decide, ?_⟩
    rw [abs_of_nonneg (Nat.cast_nonneg count), zpow_zero, mul_one]

theorem one_le_spacing (large : 2 ^ 53 ≤ exact) : 1 ≤ spacing exact := by
  have positive : 0 < exact := lt_of_lt_of_le (by norm_num) large
  have log : 53 ≤ Int.log 2 exact := by
    rw [le_log_iff positive]
    exact large
  unfold spacing
  omega

/-- A number that 53 bits hold is a multiple of its last place. -/
theorem IsRepresentable.exists_multiple (representable : IsRepresentable exact)
    (positive : 0 < exact) {place : ℤ} (fine : place ≤ spacing exact) :
    ∃ count : ℕ, exact = count * 2 ^ place := by
  rcases representable with ⟨count, exponent, bits, least, size⟩
  rw [abs_of_pos positive] at size
  have nonzero : count ≠ 0 := by
    rintro rfl
    rw [Nat.cast_zero, zero_mul] at size
    exact positive.ne' size
  have within := fine.trans (size ▸ spacing_le nonzero bits least)
  refine ⟨count * 2 ^ (exponent - place).toNat, ?_⟩
  rw [size, ← pow_mul_zpow within]
  push_cast
  ring

/-- One unit is a quarter of the last place, or a half that is tied. -/
theorem roundedSize_of_unit (representable : IsRepresentable number)
    (fourfold : number = 4 * count) (large : 2 ^ 53 < number)
    (unit : |exact - number| = 1) (place : spacing exact ≤ spacing number) :
    roundedSize exact = number := by
  have more : 2 ^ 51 + 1 ≤ count := by
    rw [fourfold] at large
    have whole : 2 ^ 53 < 4 * count := by exact_mod_cast large
    omega
  have above : (2 : ℚ) ^ 53 + 4 ≤ number := by
    have cast : (2 : ℚ) ^ 51 + 1 ≤ count := by exact_mod_cast more
    linarith
  have near := abs_le.1 unit.le
  have exactLarge : (2 : ℚ) ^ 53 ≤ exact := by linarith
  have nonnegative : 0 ≤ exact := le_trans (by norm_num) exactLarge
  rcases (one_le_spacing exactLarge).eq_or_lt with two | coarse
  · rw [roundedSize, ← two, zpow_one]
    have half : Decimal.nearestEven (exact / 2) = 2 * count := by
      rcases eq_or_eq_neg_of_abs_eq unit with up | down
      · have tie : exact / 2 = (2 * count : ℕ) + 1 / 2 := by
          push_cast
          linarith
        rw [tie, Decimal.nearestEven_half]
        omega
      · have tie : exact / 2 = (2 * count - 1 : ℕ) + 1 / 2 := by
          rw [Nat.cast_sub (by omega)]
          push_cast
          linarith
        rw [tie, Decimal.nearestEven_half]
        omega
    rw [half, fourfold]
    push_cast
    ring
  · have positive : 0 < number := lt_trans (by norm_num) large
    rcases representable.exists_multiple positive place with ⟨places, multiple⟩
    have size : (0 : ℚ) < 2 ^ spacing exact := by positivity
    have quarter : (2 : ℚ) ^ (2 : ℤ) ≤ 2 ^ spacing exact :=
      zpow_le_zpow_right₀ one_le_two coarse
    have close : |exact / 2 ^ spacing exact - places| < 1 / 2 := by
      have scaled : exact / 2 ^ spacing exact - places =
          (exact - number) / 2 ^ spacing exact := by
        rw [sub_div, multiple, mul_div_cancel_right₀ _ size.ne']
      rw [scaled, abs_div, unit, abs_of_pos size, div_lt_div_iff₀ size two_pos]
      norm_num at quarter
      linarith
    rw [roundedSize, Decimal.nearestEven_eq_of_near
      (div_nonneg nonnegative size.le) close, multiple]

/-- An odd number is no power of two, so that one unit more than an even one
starts no new power. -/
theorem spacing_add_one_le (even : number = 2 * count)
    (large : 2 ^ 53 < number) : spacing (number + 1) ≤ spacing number := by
  have positive : 0 < number := lt_trans (by norm_num) large
  have start := one_le_spacing (large.le.trans (lt_add_one number).le)
  have next : (0 : ℚ) < number + 1 := by linarith
  have power : (2 : ℚ) ^ Int.log 2 (number + 1) ≤ number := by
    have below := (le_log_iff next).1 (le_refl (Int.log 2 (number + 1)))
    obtain ⟨half, isHalf⟩ : ∃ half : ℕ,
        Int.log 2 (number + 1) = (half + 1 : ℕ) := by
      refine ⟨(Int.log 2 (number + 1) - 1).toNat, ?_⟩
      unfold spacing at start
      omega
    rw [isHalf, zpow_natCast, even] at below ⊢
    have whole : 2 ^ (half + 1) ≤ 2 * count + 1 := by exact_mod_cast below
    have fewer : 2 ^ (half + 1) ≤ 2 * count := by
      rw [pow_succ] at whole ⊢
      omega
    exact_mod_cast fewer
  have log := (le_log_iff positive).2 power
  unfold spacing
  omega

/-- The number is a multiple of four above `2 ^ 53` in size. -/
def IsAbsorbing (number : ℚ) : Prop :=
  2 ^ 53 < |number| ∧ ∃ multiple : ℤ, number = 4 * multiple

theorem isAbsorbing_neg : IsAbsorbing (-number) ↔ IsAbsorbing number := by
  unfold IsAbsorbing
  rw [abs_neg, (Equiv.neg ℤ).surjective.exists]
  simp

theorem IsAbsorbing.rounded_eq (absorbing : IsAbsorbing number)
    (representable : IsRepresentable number) (nonnegative : 0 ≤ number) :
    rounded (number - 1) = number ∧ rounded (number + 1) = number := by
  rcases absorbing with ⟨large, multiple, fourfold⟩
  rw [abs_of_nonneg nonnegative] at large
  obtain ⟨count, rfl⟩ : ∃ count : ℕ, multiple = count := by
    refine Int.eq_ofNat_of_zero_le ?_
    rw [fourfold] at nonnegative
    exact_mod_cast nonneg_of_mul_nonneg_right nonnegative four_pos
  rw [Int.cast_natCast] at fourfold
  have below : 0 < number - 1 := by linarith [(by norm_num : (1 : ℚ) ≤ 2 ^ 53)]
  have double : number = 2 * (2 * count : ℕ) := by
    rw [fourfold]
    push_cast
    ring
  constructor
  · rw [rounded_of_nonneg below.le]
    refine roundedSize_of_unit representable fourfold large ?_
      (spacing_mono below (sub_le_self _ zero_le_one))
    rw [sub_sub_cancel_left, abs_neg, abs_one]
  · rw [rounded_of_nonneg (add_nonneg nonnegative zero_le_one)]
    refine roundedSize_of_unit representable fourfold large ?_
      (spacing_add_one_le double large)
    rw [add_sub_cancel_left, abs_one]

theorem rounded_sub_one_le (representable : IsRepresentable number) :
    rounded (number - 1) ≤ number :=
  le_of_le_of_eq (rounded_mono (sub_le_self _ zero_le_one))
    representable.rounded_eq

theorem le_rounded_add_one (representable : IsRepresentable number) :
    number ≤ rounded (number + 1) :=
  le_of_eq_of_le representable.rounded_eq.symm
    (rounded_mono (le_add_of_nonneg_right zero_le_one))

/-- Up to `2 ^ 53` the next natural number is a float. -/
theorem rounded_units_lt_of_le (representable : IsRepresentable number)
    (nonnegative : 0 ≤ number) (small : number ≤ 2 ^ 53) :
    rounded (number - 1) < rounded (number + 1) := by
  rcases small.eq_or_lt with rfl | less
  · have whole : (2 : ℚ) ^ 53 - 1 = (2 ^ 53 - 1 : ℕ) := by norm_num
    have below : rounded (2 ^ 53 - 1) = 2 ^ 53 - 1 := by
      rw [whole]
      exact (isRepresentable_natCast (by decide)).rounded_eq
    rw [below]
    exact (sub_one_lt _).trans_le (le_rounded_add_one representable)
  · have next : number < (⌊number⌋₊ + 1 : ℕ) := by
      push_cast
      exact Nat.lt_floor_add_one number
    have reached : ((⌊number⌋₊ + 1 : ℕ) : ℚ) ≤ number + 1 := by
      push_cast
      linarith [Nat.floor_le nonnegative]
    have atMost : ⌊number⌋₊ + 1 ≤ 2 ^ 53 := by
      rw [Nat.succ_le_iff, Nat.floor_lt nonnegative]
      exact_mod_cast less
    calc rounded (number - 1) ≤ number := rounded_sub_one_le representable
      _ < (⌊number⌋₊ + 1 : ℕ) := next
      _ = rounded (⌊number⌋₊ + 1 : ℕ) :=
        (isRepresentable_natCast atMost).rounded_eq.symm
      _ ≤ rounded (number + 1) := rounded_mono reached

/-- Above `2 ^ 53` an even number that is no multiple of four is moved to the
next one that is. -/
theorem rounded_units_lt_of_not_absorbing
    (representable : IsRepresentable number) (large : 2 ^ 53 < number)
    (moves : ¬IsAbsorbing number) :
    rounded (number - 1) < rounded (number + 1) := by
  have positive : 0 < number := lt_trans (by norm_num) large
  have start := one_le_spacing large.le
  have notFourfold (multiple : ℤ) : number ≠ 4 * multiple := fun fourfold =>
    moves ⟨large.trans_eq (abs_of_pos positive).symm, multiple, fourfold⟩
  have place : spacing number = 1 := by
    by_contra other
    have coarse : 2 ≤ spacing number := by omega
    rcases representable.exists_multiple positive coarse with ⟨count, multiple⟩
    refine notFourfold count ?_
    rw [multiple, Int.cast_natCast, mul_comm]
    norm_num
  rcases representable.exists_multiple positive start with ⟨count, double⟩
  rw [zpow_one, mul_comm] at double
  have odd : count % 2 = 1 := by
    rcases Nat.mod_two_eq_zero_or_one count with even | odd
    · refine absurd ?_ (notFourfold (count / 2 : ℕ))
      have halves : count = 2 * (count / 2) := by omega
      rw [double, Int.cast_natCast]
      nth_rewrite 1 [halves]
      push_cast
      ring
    · exact odd
  have samePlace : spacing (number + 1) = 1 :=
    le_antisymm (place ▸ spacing_add_one_le double large)
      (one_le_spacing (large.le.trans (lt_add_one number).le))
  have tie : (number + 1) / 2 = count + 1 / 2 := by
    rw [double]
    ring
  have up : rounded (number + 1) = number + 2 := by
    rw [rounded_of_nonneg (add_nonneg positive.le zero_le_one), roundedSize,
      samePlace, zpow_one, tie, Decimal.nearestEven_half, odd, double]
    push_cast
    ring
  rw [up]
  exact (rounded_sub_one_le representable).trans_lt (by linarith)

/-- One unit less and one more are rounded to different numbers, unless the
number absorbs them both. -/
theorem rounded_units_lt_iff (representable : IsRepresentable number) :
    rounded (number - 1) < rounded (number + 1) ↔ ¬IsAbsorbing number := by
  have magnitude {size : ℚ} (sizeIs : IsRepresentable size)
      (nonnegative : 0 ≤ size) :
      rounded (size - 1) < rounded (size + 1) ↔ ¬IsAbsorbing size := by
    constructor
    · intro less absorbing
      have kept := absorbing.rounded_eq sizeIs nonnegative
      rw [kept.1, kept.2] at less
      exact lt_irrefl _ less
    · intro moves
      rcases le_or_gt size (2 ^ 53) with small | large
      · exact rounded_units_lt_of_le sizeIs nonnegative small
      · exact rounded_units_lt_of_not_absorbing sizeIs large moves
  rcases le_total 0 number with nonnegative | nonpositive
  · exact magnitude representable nonnegative
  · have opposite : IsRepresentable (-number) := by
      unfold IsRepresentable
      rwa [abs_neg]
    rw [← isAbsorbing_neg, ← magnitude opposite (neg_nonneg.2 nonpositive),
      ← neg_add', neg_add_eq_sub, ← neg_sub number, rounded_neg, rounded_neg,
      neg_lt_neg_iff]

end Unpacked

end RootFinding
