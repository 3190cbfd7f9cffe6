import Mathlib.Algebra.Order.Ring.Rat
import Mathlib.Tactic.Ring
import TenantReporting.Binary64.Basic

/-!
# Integral numbers

A finite number stands for a rational number, its value. It is read as an integer exactly if its
value is that integer (`to_int_eq_some_iff`).
-/

namespace TenantReporting.Binary64

/-- The rational number that a finite number stands for. -/
def value? : Binary64 → Option ℚ
  | .finite negative significand exponent =>
    some ((if negative then -1 else 1) * significand * 2 ^ exponent)
  | _ => none

/-- A magnitude with a sign is the integer `n` exactly if the magnitude has this sign and size. -/
theorem signed_eq_iff (negative : Bool) (magnitude : ℚ) (n : Int) :
    (if negative then -1 else 1) * magnitude = (n : ℚ) ↔
      magnitude = ((if negative then -n else n : Int) : ℚ) := by
  cases negative with
  | true =>
      simp only [if_true]
      push_cast
      constructor
      · intro h
        rw [← h]
        ring
      · intro h
        rw [h]
        ring
  | false => simp

/-- The integer that a magnitude is with a sign is `n` exactly if the magnitude is `n` with this
sign. -/
theorem with_sign_eq_iff (negative : Bool) (magnitude : Nat) (n : Int) :
    (if negative then -(magnitude : Int) else magnitude) = n ↔
      (magnitude : Int) = if negative then -n else n := by
  cases negative with
  | true =>
      simp only [if_true]
      omega
  | false => simp

/-- A fraction with a power of two below is an integer exactly if the numerator is a multiple. -/
theorem dyadic_eq_iff (significand power : Nat) (n : Int) :
    (significand : ℚ) * 2 ^ (-(power : Int)) = (n : ℚ) ↔
      (significand : Int) = n * 2 ^ power := by
  rw [zpow_neg, zpow_natCast, mul_inv_eq_iff_eq_mul₀ (pow_ne_zero power two_ne_zero)]
  norm_cast

/-- Exactly the numbers with the value of an integer are read as this integer. -/
theorem to_int_eq_some_iff {number : Binary64} {n : Int} :
    number.toInt? = some n ↔ number.value? = some (n : ℚ) := by
  cases number with
  | notANumber | infinite => simp [toInt?, value?]
  | finite negative significand exponent =>
      rw [toInt?, value?, Option.some.injEq, mul_assoc, signed_eq_iff]
      generalize htarget : (if negative then -n else n : Int) = target
      dsimp only
      split
      next hexponent =>
        obtain ⟨power, rfl⟩ := Int.eq_ofNat_of_zero_le hexponent
        rw [Option.some.injEq, with_sign_eq_iff, htarget, zpow_natCast]
        norm_cast
      next hexponent =>
        obtain ⟨power, hpower⟩ : ∃ power : Nat, exponent = -(power : Int) :=
          ⟨(-exponent).toNat, by omega⟩
        subst hpower
        rw [neg_neg, Int.toNat_natCast, dyadic_eq_iff]
        split
        next hdivides =>
          obtain ⟨quotient, rfl⟩ := Nat.dvd_of_mod_eq_zero hdivides
          have hquotient : Nat.pow 2 power * quotient / Nat.pow 2 power = quotient :=
            Nat.mul_div_cancel_left quotient (Nat.pow_pos Nat.zero_lt_two)
          have hunit : (2 : Int) ^ power ≠ 0 := pow_ne_zero power two_ne_zero
          rw [Option.some.injEq, with_sign_eq_iff, htarget, hquotient, Nat.cast_mul, Nat.pow_eq,
            Nat.cast_pow, Nat.cast_ofNat, mul_comm, mul_left_inj' hunit]
        next hdivides =>
          refine iff_of_false (Option.some_ne_none n).symm fun hmultiple ↦ hdivides ?_
          have hdvd : ((2 ^ power : Nat) : Int) ∣ significand :=
            ⟨target, by rw [hmultiple, Nat.cast_pow, Nat.cast_ofNat, mul_comm]⟩
          exact Nat.mod_eq_zero_of_dvd (Int.natCast_dvd_natCast.1 hdvd)

end TenantReporting.Binary64
