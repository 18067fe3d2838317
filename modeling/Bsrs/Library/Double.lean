import Mathlib.Algebra.Order.Field.Basic
import Mathlib.Algebra.Order.Ring.Rat
import Mathlib.Data.Nat.Log
import Mathlib.Tactic.Linarith
import Mathlib.Tactic.Positivity
import Mathlib.Tactic.Ring

/-! The finite doubles, and the conversion of integers to them. -/

namespace Bsrs.Library

/-- A finite double: a significand of 53 bits scaled by a power of two. The sign of a zero is left out,
as comparisons do not tell the zeros apart. -/
structure Double where
  significand : Int
  exponent : Int
  bounded : significand.natAbs < 2 ^ 53
  ranged : -1074 ≤ exponent ∧ exponent ≤ 971

namespace Double

def value (double : Double) : ℚ :=
  double.significand * (2 : ℚ) ^ double.exponent

/-- IEEE equality of finite doubles. -/
def eq (first second : Double) : Bool :=
  first.value = second.value

end Double

/-- The quotient rounded to the nearest integer, ties to even. -/
def roundHalfEven (n step : Nat) : Nat :=
  if 2 * (n % step) < step ∨ (2 * (n % step) = step ∧ n / step % 2 = 0) then n / step
  else n / step + 1

theorem roundHalfEven_le (n step : Nat) : roundHalfEven n step ≤ n / step + 1 := by
  unfold roundHalfEven
  split <;> omega

theorem roundHalfEven_of_dvd {n step : Nat} (positive : 0 < step) (divides : step ∣ n) :
    roundHalfEven n step = n / step := by
  rw [roundHalfEven, if_pos]
  left
  rw [Nat.mod_eq_zero_of_dvd divides]
  omega

/-- The bits of `n` below the 53 highest. -/
def excess (n : Nat) : Nat :=
  Nat.log 2 n - 52

theorem lt_two_pow_excess (n : Nat) : n < 2 ^ (53 + excess n) :=
  (Nat.lt_pow_succ_log_self (by decide) n).trans_le
    (Nat.pow_le_pow_right (by decide) (by unfold excess; omega))

theorem two_pow_excess_le {n : Nat} (some : 0 < excess n) : 2 ^ (52 + excess n) ≤ n := by
  have nonzero : n ≠ 0 := by
    rintro rfl
    simp [excess] at some
  refine (Nat.pow_le_pow_right (by decide) ?_).trans (Nat.pow_log_le_self 2 nonzero)
  unfold excess at some ⊢
  omega

theorem rounded_le (n : Nat) : roundHalfEven n (2 ^ excess n) ≤ 2 ^ 53 := by
  have below : n / 2 ^ excess n < 2 ^ 53 := by
    rw [Nat.div_lt_iff_lt_mul (by positivity), ← Nat.pow_add]
    exact lt_two_pow_excess n
  have step := roundHalfEven_le n (2 ^ excess n)
  omega

theorem excess_le {n : Nat} (fits : n ≤ 2 ^ 64) : excess n ≤ 12 := by
  have log : Nat.log 2 n ≤ 64 := by
    calc Nat.log 2 n ≤ Nat.log 2 (2 ^ 64) := Nat.log_mono_right fits
      _ = 64 := Nat.log_pow (by decide) 64
  unfold excess
  omega

namespace Double

/-- `as f64` of an integer of at most 64 bits: the nearest double, ties to even. A significand rounded up
to 54 bits is a power of two. -/
def ofNat (n : Nat) (fits : n ≤ 2 ^ 64) : Double :=
  if carry : roundHalfEven n (2 ^ excess n) = 2 ^ 53 then
    ⟨2 ^ 52, excess n + 1, by decide, by have := excess_le fits; omega⟩
  else
    ⟨roundHalfEven n (2 ^ excess n), excess n, by
      have := rounded_le n
      simp only [Int.natAbs_natCast]
      omega, by have := excess_le fits; omega⟩

theorem value_ofNat (n : Nat) (fits : n ≤ 2 ^ 64) :
    (ofNat n fits).value = roundHalfEven n (2 ^ excess n) * 2 ^ excess n := by
  unfold ofNat
  split
  · rename_i carry
    rw [carry, value]
    push_cast
    rw [zpow_add₀ (by norm_num), zpow_natCast]
    ring
  · simp [value]

/-- `as f64` of a negative or positive integer of at most 64 bits. -/
def ofInt (n : Int) (fits : n.natAbs ≤ 2 ^ 64) : Double :=
  let magnitude := ofNat n.natAbs fits
  { magnitude with
    significand := n.sign * magnitude.significand
    bounded := by
      rw [Int.natAbs_mul]
      have sign : n.sign.natAbs ≤ 1 := by
        rcases lt_trichotomy n 0 with negative | rfl | positive
        · simp [Int.sign_eq_neg_one_of_neg negative]
        · simp
        · simp [Int.sign_eq_one_of_pos positive]
      calc n.sign.natAbs * magnitude.significand.natAbs
          ≤ 1 * magnitude.significand.natAbs := Nat.mul_le_mul_right _ sign
        _ < 2 ^ 53 := by rw [one_mul]; exact magnitude.bounded }

theorem value_ofInt (n : Int) (fits : n.natAbs ≤ 2 ^ 64) :
    (ofInt n fits).value = n.sign * (ofNat n.natAbs fits).value := by
  simp only [ofInt, value]
  push_cast
  ring

/-- An integer is divisible by the bits its double has no place for, if it is a double's value. -/
theorem dvd_of_value {n : Nat} {double : Double} (same : double.value = n) : 2 ^ excess n ∣ n := by
  rcases Nat.eq_zero_or_pos (excess n) with none | some
  · rw [none]
    exact one_dvd n
  · have high := two_pow_excess_le some
    have scaled : (double.significand : ℚ) * 2 ^ double.exponent = n := same
    by_cases large : (excess n : Int) ≤ double.exponent
    · obtain ⟨shift, exponent⟩ := Int.eq_ofNat_of_zero_le (by omega : 0 ≤ double.exponent)
      rw [exponent, zpow_natCast] at scaled
      have integral : double.significand * 2 ^ shift = n := by exact_mod_cast scaled
      have divides : (2 : Int) ^ excess n ∣ n := by
        rw [← integral]
        exact Dvd.dvd.mul_left (pow_dvd_pow 2 (by omega)) _
      exact_mod_cast divides
    · exfalso
      have size : |(double.significand : ℚ)| < 2 ^ 53 := by
        have bounded := double.bounded
        have cast : (double.significand.natAbs : ℚ) < 2 ^ 53 := by exact_mod_cast bounded
        rwa [Nat.cast_natAbs, Int.cast_abs] at cast
      have less : (n : ℚ) < 2 ^ (52 + excess n) := by
        calc (n : ℚ) = double.significand * 2 ^ double.exponent := scaled.symm
          _ ≤ |(double.significand : ℚ)| * 2 ^ double.exponent :=
              mul_le_mul_of_nonneg_right (le_abs_self _) (zpow_nonneg (by norm_num) _)
          _ < 2 ^ 53 * 2 ^ double.exponent :=
              mul_lt_mul_of_pos_right size (zpow_pos (by norm_num) _)
          _ ≤ 2 ^ 53 * 2 ^ ((excess n : Int) - 1) :=
              mul_le_mul_of_nonneg_left (zpow_le_zpow_right₀ (by norm_num) (by omega)) (by positivity)
          _ = 2 ^ (52 + excess n) := by
              rw [zpow_sub₀ (by norm_num), zpow_natCast, pow_add]
              ring
      have below : n < 2 ^ (52 + excess n) := by exact_mod_cast less
      omega

/-- An integer that is a double's value converts to that value. -/
theorem value_ofNat_of_value {n : Nat} (fits : n ≤ 2 ^ 64) {double : Double}
    (same : double.value = n) : (ofNat n fits).value = n := by
  have divides := dvd_of_value same
  rw [value_ofNat, roundHalfEven_of_dvd (by positivity) divides]
  exact_mod_cast Nat.div_mul_cancel divides

def neg (double : Double) : Double :=
  { double with
    significand := -double.significand
    bounded := by rw [Int.natAbs_neg]; exact double.bounded }

theorem value_neg (double : Double) : double.neg.value = -double.value := by
  simp [neg, value]

/-- An integer that a double equals converts to that double. -/
theorem value_ofInt_of_value {n : Int} (fits : n.natAbs ≤ 2 ^ 64) {double : Double}
    (same : double.value = n) : (ofInt n fits).value = n := by
  have magnitude : ∃ other : Double, other.value = n.natAbs := by
    rcases le_total 0 n with positive | negative
    · exact ⟨double, by rw [same, Nat.cast_natAbs, abs_of_nonneg positive]⟩
    · exact ⟨double.neg, by rw [value_neg, same, Nat.cast_natAbs, abs_of_nonpos negative, Int.cast_neg]⟩
  obtain ⟨other, equals⟩ := magnitude
  rw [value_ofInt, value_ofNat_of_value fits equals]
  rw [← Int.cast_natCast, ← Int.cast_mul, Int.sign_mul_natAbs]

end Double

end Bsrs.Library
