import TenantReporting.Binary64.Basic

/-!
# The sign of a rounded integer

The number nearest to an integer has the sign of the integer: it is zero for zero only
(`of_int_is_zero`), below zero for a negative integer only (`of_int_is_below_zero`), and never
missing. An integer is never so small that its significand is rounded to nothing.
-/

namespace TenantReporting.Binary64

/-- A rounded quotient is not below the quotient of natural numbers. -/
theorem le_rounded_quotient (numerator denominator : Nat) :
    numerator / denominator ≤ roundedQuotient numerator denominator := by
  unfold roundedQuotient
  dsimp only
  split <;> omega

/-- At the exponent that is estimated for a positive integer it has a significand of at least 53
bits. -/
theorem significand_of_estimate {n : Nat} (h : n ≠ 0) :
    Nat.pow 2 52 ≤ (scaled n 1 ((n.log2 : Int) - 52)).1 / (scaled n 1 ((n.log2 : Int) - 52)).2 := by
  have hlog : 2 ^ n.log2 ≤ n := Nat.log2_self_le h
  unfold scaled
  simp only [Nat.pow_eq]
  split
  next hexponent =>
    have hsplit : n.log2 = 52 + ((n.log2 : Int) - 52).toNat := by omega
    rw [Nat.one_mul, Nat.le_div_iff_mul_le (Nat.pow_pos Nat.zero_lt_two)]
    calc 2 ^ 52 * 2 ^ ((n.log2 : Int) - 52).toNat
        = 2 ^ n.log2 := by rw [← Nat.pow_add, ← hsplit]
      _ ≤ n := hlog
  next hexponent =>
    have hsplit : 52 = n.log2 + (-((n.log2 : Int) - 52)).toNat := by omega
    rw [Nat.div_one]
    calc 2 ^ 52
        = 2 ^ n.log2 * 2 ^ (-((n.log2 : Int) - 52)).toNat := by rw [← Nat.pow_add, ← hsplit]
      _ ≤ n * 2 ^ (-((n.log2 : Int) - 52)).toNat := Nat.mul_le_mul_right _ hlog

/-- The exponent of a positive integer is the estimated one, which is far above the least. -/
theorem exponent_of_natural {n : Nat} (h : n ≠ 0) : exponentOf n 1 = (n.log2 : Int) - 52 := by
  have hestimate : (n.log2 : Int) - (Nat.log2 1 : Int) - 52 = (n.log2 : Int) - 52 := by
    rw [show Nat.log2 1 = 0 from by decide]
    omega
  unfold exponentOf
  dsimp only
  rw [hestimate, if_neg (Nat.not_lt.2 (significand_of_estimate h)), leastExponent]
  omega

/-- A positive integer is rounded to a number with a significand, if not to infinity. -/
theorem of_fraction_natural (negative : Bool) {n : Nat} (h : n ≠ 0) :
    ofFraction negative n 1 = .infinite negative ∨
      ∃ significand exponent, significand ≠ 0 ∧
        ofFraction negative n 1 = .finite negative significand exponent := by
  have hpositive : 0 < Nat.pow 2 52 := Nat.pow_pos Nat.zero_lt_two
  have hsignificand := Nat.lt_of_lt_of_le hpositive (Nat.le_trans (significand_of_estimate h)
    (le_rounded_quotient (scaled n 1 ((n.log2 : Int) - 52)).1 (scaled n 1 ((n.log2 : Int) - 52)).2))
  have hnumber (parts : Nat × Int) (hparts : parts.1 ≠ 0) :
      (if greatestExponent < parts.2 then infinite negative
        else finite negative parts.1 parts.2) = .infinite negative ∨
        ∃ significand exponent, significand ≠ 0 ∧
          (if greatestExponent < parts.2 then infinite negative
            else finite negative parts.1 parts.2) = .finite negative significand exponent := by
    split
    · exact .inl rfl
    · exact .inr ⟨_, _, hparts, rfl⟩
  -- Rounding may carry into the next exponent, and then the significand is a power of two.
  unfold ofFraction
  rw [if_neg h, exponent_of_natural h]
  dsimp only
  split
  · exact hnumber (_, _) (Nat.ne_of_gt hsignificand)
  · exact hnumber (_, _) (Nat.ne_of_gt hpositive)

/-- An integer is zero, or it is rounded to a number of its sign that is not zero. -/
theorem of_int_cases (n : Int) :
    n = 0 ∧ ofInt n = .zero ∨
      n ≠ 0 ∧ (ofInt n = .infinite (n < 0) ∨
        ∃ significand exponent, significand ≠ 0 ∧
          ofInt n = .finite (n < 0) significand exponent) := by
  by_cases h : n = 0
  · subst h
    exact .inl ⟨rfl, rfl⟩
  · exact .inr ⟨h, of_fraction_natural (n < 0) (Int.natAbs_ne_zero.2 h)⟩

/-- Only zero is rounded to zero. -/
theorem of_int_is_zero (n : Int) : (ofInt n).isZero = decide (n = 0) := by
  rcases of_int_cases n with ⟨rfl, heq⟩ | ⟨hn, heq | ⟨significand, exponent, hsignificand, heq⟩⟩
  · rfl
  · rw [heq, decide_eq_false hn]
    rfl
  · rw [heq, decide_eq_false hn]
    unfold isZero
    split
    next hzero => exact absurd (Binary64.finite.inj hzero).2.1 hsignificand
    next => rfl

/-- Only negative integers are rounded to numbers below zero. -/
theorem of_int_is_below_zero (n : Int) : (ofInt n).isBelowZero = decide (n < 0) := by
  rcases of_int_cases n with ⟨rfl, heq⟩ | ⟨_, heq | ⟨significand, exponent, hsignificand, heq⟩⟩
  · rfl
  · rw [heq]
    rfl
  · rw [heq]
    simp [isBelowZero, hsignificand]

/-- An integer is rounded to a number. -/
theorem of_int_ne_missing (n : Int) : ofInt n ≠ .notANumber := by
  rcases of_int_cases n with ⟨_, heq⟩ | ⟨_, heq | ⟨_, _, _, heq⟩⟩
  all_goals
    rw [heq]
    nofun

end TenantReporting.Binary64
