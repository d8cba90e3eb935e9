import SeedCracking.Rounding.Binary
import Mathlib.Algebra.Order.Floor.Ring

/-! Rounding keeps the order, and is off by at most one part in `2^prec`. -/

namespace SeedCracking.Rounding

theorem roundEven_cases (x : ℚ) :
    roundEven x = ⌊x⌋ ∧ x - ⌊x⌋ ≤ 1 / 2 ∨ roundEven x = ⌊x⌋ + 1 ∧ 1 / 2 ≤ x - ⌊x⌋ := by
  rw [roundEven]
  split
  case isTrue hlt => exact .inl ⟨rfl, hlt.le⟩
  case isFalse hge =>
    split
    case isTrue hgt => exact .inr ⟨rfl, hgt.le⟩
    case isFalse hle =>
      rcases Int.emod_two_eq ⌊x⌋ with heven | hodd
      · exact .inl ⟨by rw [heven, add_zero], not_lt.mp hle⟩
      · exact .inr ⟨by rw [hodd], not_lt.mp hge⟩

theorem abs_roundEven_sub_le (x : ℚ) : |(roundEven x : ℚ) - x| ≤ 1 / 2 := by
  have hfloor := Int.floor_le x
  have hceil := Int.lt_floor_add_one x
  rw [abs_le]
  rcases roundEven_cases x with ⟨h, hx⟩ | ⟨h, hx⟩
  · rw [h]
    constructor <;> linarith
  · rw [h]
    push_cast
    constructor <;> linarith

theorem roundEven_eq {x : ℚ} {n : ℤ} (h : |x - n| < 1 / 2) : roundEven x = n := by
  have hround := abs_le.mp (abs_roundEven_sub_le x)
  have hclose := abs_lt.mp h
  have hlo : (n : ℚ) - 1 < roundEven x := by linarith
  have hhi : (roundEven x : ℚ) < n + 1 := by linarith
  have hlo' : n - 1 < roundEven x := by exact_mod_cast hlo
  have hhi' : roundEven x < n + 1 := by exact_mod_cast hhi
  omega

theorem roundEven_mono {x y : ℚ} (h : x ≤ y) : roundEven x ≤ roundEven y := by
  have hfloor : ⌊x⌋ ≤ ⌊y⌋ := Int.floor_mono h
  rcases roundEven_cases x with ⟨hx, -⟩ | ⟨hx, hx'⟩
  · rcases roundEven_cases y with ⟨hy, -⟩ | ⟨hy, -⟩ <;> omega
  · rcases roundEven_cases y with ⟨hy, hy'⟩ | ⟨hy, -⟩
    · rcases hfloor.lt_or_eq with hlt | heq
      · omega
      -- both are halfway between the same two integers
      · rw [← heq] at hy'
        rw [show x = y by linarith]
    · omega

theorem roundEven_le {x : ℚ} {n : ℤ} (h : x ≤ n) : roundEven x ≤ n := by
  have hmono := roundEven_mono h
  rwa [roundEven_intCast] at hmono

theorem le_roundEven {x : ℚ} {n : ℤ} (h : n ≤ x) : n ≤ roundEven x := by
  have hmono := roundEven_mono h
  rwa [roundEven_intCast] at hmono

section Binary

variable (prec : ℕ) {x y : ℚ}

theorem log_eq {k : ℤ} (hlo : 2 ^ k ≤ x) (hhi : x < 2 ^ (k + 1)) : Int.log 2 x = k := by
  have hpos : 0 < x := (zpow_pos two_pos k).trans_le hlo
  have hle : k ≤ Int.log 2 x := (Int.zpow_le_iff_le_log one_lt_two hpos).mp (by exact_mod_cast hlo)
  have hlt : Int.log 2 x < k + 1 :=
    (Int.lt_zpow_iff_log_lt one_lt_two hpos).mp (by exact_mod_cast hhi)
  omega

theorem roundBinary_eq {k : ℤ} (hlo : 2 ^ k ≤ x) (hhi : x < 2 ^ (k + 1)) :
    roundBinary prec x = roundEven (x * 2 ^ (prec - 1 - k)) / 2 ^ (prec - 1 - k) := by
  have hpos : 0 < x := (zpow_pos two_pos k).trans_le hlo
  rw [roundBinary, abs_of_pos hpos, log_eq hlo hhi]

theorem roundBinary_near {k n : ℤ} (hlo : 2 ^ k ≤ x) (hhi : x < 2 ^ (k + 1))
    (hnear : |x * 2 ^ ((prec : ℤ) - 1 - k) - n| < 1 / 2) :
    roundBinary prec x = n / 2 ^ ((prec : ℤ) - 1 - k) := by
  rw [roundBinary_eq prec hlo hhi, roundEven_eq hnear]

theorem abs_roundBinary_sub_le (x : ℚ) : |roundBinary prec x - x| ≤ |x| / 2 ^ prec := by
  rcases eq_or_ne x 0 with rfl | hne
  · simp [roundBinary, roundEven]
  have hpos : 0 < |x| := abs_pos.mpr hne
  have hlog : (2 : ℚ) ^ Int.log 2 |x| ≤ |x| := by
    exact_mod_cast Int.zpow_log_le_self (b := 2) one_lt_two hpos
  rw [roundBinary]
  generalize hk : Int.log 2 |x| = k at hlog
  generalize he : (prec : ℤ) - 1 - k = e
  have hscale : (0 : ℚ) < 2 ^ e := zpow_pos two_pos e
  have hulp : 2 ^ k / 2 ^ prec * 2 ^ e = (1 / 2 : ℚ) := by
    rw [← he, ← zpow_natCast, ← zpow_sub₀ two_ne_zero, ← zpow_add₀ two_ne_zero,
      show k - (prec : ℤ) + (prec - 1 - k) = -1 by ring]
    norm_num
  have herror : |(roundEven (x * 2 ^ e) : ℚ) - x * 2 ^ e| ≤ |x| / 2 ^ prec * 2 ^ e :=
    calc |(roundEven (x * 2 ^ e) : ℚ) - x * 2 ^ e| ≤ 1 / 2 := abs_roundEven_sub_le _
      _ = 2 ^ k / 2 ^ prec * 2 ^ e := hulp.symm
      _ ≤ |x| / 2 ^ prec * 2 ^ e := by gcongr
  have hsub : (roundEven (x * 2 ^ e) : ℚ) / 2 ^ e - x =
      ((roundEven (x * 2 ^ e) : ℚ) - x * 2 ^ e) / 2 ^ e := by
    field_simp
  rw [hsub, abs_div, abs_of_pos hscale, div_le_iff₀ hscale]
  exact herror

/-! Rounding does not leave the powers of two around a number. -/

theorem roundBinary_le_zpow {k : ℤ} (hlo : 2 ^ k ≤ x) (hhi : x < 2 ^ (k + 1)) :
    roundBinary prec x ≤ 2 ^ (k + 1) := by
  have hscale : (0 : ℚ) < 2 ^ ((prec : ℤ) - 1 - k) := zpow_pos two_pos _
  have htop : (2 : ℚ) ^ (k + 1) * 2 ^ ((prec : ℤ) - 1 - k) = ((2 ^ prec : ℤ) : ℚ) := by
    push_cast
    rw [← zpow_add₀ two_ne_zero, ← zpow_natCast]
    congr 1
    ring
  have hround : roundEven (x * 2 ^ ((prec : ℤ) - 1 - k)) ≤ 2 ^ prec := by
    apply roundEven_le
    rw [← htop]
    exact mul_le_mul_of_nonneg_right hhi.le hscale.le
  rw [roundBinary_eq prec hlo hhi, div_le_iff₀ hscale, htop]
  exact_mod_cast hround

theorem zpow_le_roundBinary (hprec : 0 < prec) {k : ℤ} (hlo : 2 ^ k ≤ x) (hhi : x < 2 ^ (k + 1)) :
    2 ^ k ≤ roundBinary prec x := by
  have hscale : (0 : ℚ) < 2 ^ ((prec : ℤ) - 1 - k) := zpow_pos two_pos _
  have hbottom : (2 : ℚ) ^ k * 2 ^ ((prec : ℤ) - 1 - k) = ((2 ^ (prec - 1) : ℤ) : ℚ) := by
    push_cast
    rw [← zpow_add₀ two_ne_zero, ← zpow_natCast]
    congr 1
    omega
  have hround : 2 ^ (prec - 1) ≤ roundEven (x * 2 ^ ((prec : ℤ) - 1 - k)) := by
    apply le_roundEven
    rw [← hbottom]
    exact mul_le_mul_of_nonneg_right hlo hscale.le
  rw [roundBinary_eq prec hlo hhi, le_div_iff₀ hscale, hbottom]
  exact_mod_cast hround

theorem roundBinary_mono (hprec : 0 < prec) (hx : 0 < x) (h : x ≤ y) :
    roundBinary prec x ≤ roundBinary prec y := by
  have hy : 0 < y := hx.trans_le h
  have hlog : Int.log 2 x ≤ Int.log 2 y := Int.log_mono_right hx h
  have hxlo : (2 : ℚ) ^ Int.log 2 x ≤ x := by
    exact_mod_cast Int.zpow_log_le_self (b := 2) one_lt_two hx
  have hxhi : x < (2 : ℚ) ^ (Int.log 2 x + 1) := by
    exact_mod_cast Int.lt_zpow_succ_log_self (b := 2) one_lt_two x
  have hylo : (2 : ℚ) ^ Int.log 2 y ≤ y := by
    exact_mod_cast Int.zpow_log_le_self (b := 2) one_lt_two hy
  have hyhi : y < (2 : ℚ) ^ (Int.log 2 y + 1) := by
    exact_mod_cast Int.lt_zpow_succ_log_self (b := 2) one_lt_two y
  rcases hlog.lt_or_eq with hlt | heq
  · have hbetween : (2 : ℚ) ^ (Int.log 2 x + 1) ≤ 2 ^ Int.log 2 y :=
      zpow_le_zpow_right₀ one_le_two (by omega)
    exact (roundBinary_le_zpow prec hxlo hxhi).trans
      (hbetween.trans (zpow_le_roundBinary prec hprec hylo hyhi))
  · rw [heq] at hxlo hxhi
    have hscale : (0 : ℚ) < 2 ^ ((prec : ℤ) - 1 - Int.log 2 y) := zpow_pos two_pos _
    have hround := roundEven_mono (mul_le_mul_of_nonneg_right h hscale.le)
    rw [roundBinary_eq prec hxlo hxhi, roundBinary_eq prec hylo hyhi]
    gcongr

end Binary

end SeedCracking.Rounding
