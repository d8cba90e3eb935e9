import Mathlib.Data.Int.Log
import Mathlib.Data.Rat.Floor

/-! Binary floating-point rounding of rationals: to nearest, ties to even, with a given number
of significant bits.  The exponent range is unbounded. -/

namespace SeedCracking.Rounding

def roundEven (x : ℚ) : ℤ :=
  let n := ⌊x⌋
  if x - n < 1 / 2 then n else if 1 / 2 < x - n then n + 1 else n + n % 2

@[simp] theorem roundEven_intCast (n : ℤ) : roundEven n = n := by
  simp [roundEven]

def roundBinary (prec : ℕ) (x : ℚ) : ℚ :=
  let e : ℤ := prec - 1 - Int.log 2 |x|
  roundEven (x * 2 ^ e) / 2 ^ e

def float32 : ℚ → ℚ := roundBinary 24

def float64 : ℚ → ℚ := roundBinary 53

theorem roundBinary_of_lt {prec : ℕ} {m : ℕ} (hm : m < 2 ^ prec) (e : ℤ) :
    roundBinary prec (m * 2 ^ e) = m * 2 ^ e := by
  have htwo : (2 : ℚ) ≠ 0 := two_ne_zero
  rcases Nat.eq_zero_or_pos m with rfl | hpos
  · simp [roundBinary, roundEven]
  have hx : (0 : ℚ) < m * 2 ^ e := mul_pos (Nat.cast_pos.mpr hpos) (zpow_pos two_pos e)
  have hlt : (m : ℚ) * 2 ^ e < 2 ^ (prec + e) := by
    rw [zpow_add₀ htwo, zpow_natCast]
    exact mul_lt_mul_of_pos_right (by exact_mod_cast hm) (zpow_pos two_pos e)
  have hlog : Int.log 2 (m * 2 ^ e : ℚ) < prec + e :=
    (Int.lt_zpow_iff_log_lt one_lt_two hx).mp (by exact_mod_cast hlt)
  obtain ⟨d, hd⟩ : ∃ d : ℕ, e + (prec - 1 - Int.log 2 (m * 2 ^ e : ℚ)) = d :=
    Int.eq_ofNat_of_zero_le (by omega)
  have hint : (m : ℚ) * 2 ^ e * 2 ^ ((prec : ℤ) - 1 - Int.log 2 (m * 2 ^ e : ℚ)) =
      ((m * 2 ^ d : ℕ) : ℤ) := by
    rw [mul_assoc, ← zpow_add₀ htwo, hd, zpow_natCast]
    push_cast
    rfl
  have hne : (2 : ℚ) ^ ((prec : ℤ) - 1 - Int.log 2 (m * 2 ^ e : ℚ)) ≠ 0 := zpow_ne_zero _ htwo
  rw [roundBinary, abs_of_pos hx, hint, roundEven_intCast, ← hint, mul_div_cancel_right₀ _ hne]

theorem float32_of_lt {m : ℕ} (hm : m < 2 ^ 24) (e : ℤ) : float32 (m * 2 ^ e) = m * 2 ^ e :=
  roundBinary_of_lt hm e

theorem float64_of_lt {m : ℕ} (hm : m < 2 ^ 53) (e : ℤ) : float64 (m * 2 ^ e) = m * 2 ^ e :=
  roundBinary_of_lt hm e

end SeedCracking.Rounding
