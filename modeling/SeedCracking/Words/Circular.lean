import SeedCracking.Words.Basic
import Mathlib.Data.Int.ModEq
import Mathlib.Tactic.Ring

/-! How far apart two machine words are on the circle of all words of their width. -/

namespace SeedCracking.Words

variable {w : Nat}

/-- The shorter of the two ways around. -/
def circDist (x y : BitVec w) : Nat := min (x - y).toNat (y - x).toNat

theorem circDist_comm (x y : BitVec w) : circDist x y = circDist y x := Nat.min_comm _ _

theorem circDist_of_lt {x y : BitVec w} (h : x.toNat < y.toNat) :
    circDist x y = min (2 ^ w - (y.toNat - x.toNat)) (y.toNat - x.toNat) := by
  rw [circDist, BitVec.toNat_sub_of_lt (BitVec.lt_def.mpr h),
    BitVec.toNat_sub_of_le (BitVec.le_def.mpr h.le)]

theorem toNat_sub_emod (x y : BitVec w) :
    ((x - y).toNat : Int) = ((x.toNat : Int) - y.toNat) % (2 : Int) ^ w := by
  have hy := y.isLt
  have hsum : ((2 ^ w - y.toNat + x.toNat : Nat) : Int) = (x.toNat - y.toNat) + 2 ^ w := by
    push_cast [hy.le]
    ring
  rw [BitVec.toNat_sub, Int.natCast_mod, hsum, Nat.cast_pow, Nat.cast_ofNat, Int.add_emod_right]

theorem emod_le_self {a m : Int} (ha : 0 ≤ a) (hm : 0 ≤ m) : a % m ≤ a := by
  rw [Int.emod_def]
  exact Int.sub_le_self a (Int.mul_nonneg hm (Int.ediv_nonneg ha hm))

theorem circDist_le {x y : BitVec w} {δ : Int} (h : x.toNat ≡ y.toNat + δ [ZMOD 2 ^ w]) :
    circDist x y ≤ δ.natAbs := by
  have hpos : (0 : Int) ≤ 2 ^ w := by positivity
  rcases Int.le_total 0 δ with hδ | hδ
  · refine (Nat.min_le_left _ _).trans ?_
    have hsub : ((x - y).toNat : Int) = δ % 2 ^ w := by
      rw [toNat_sub_emod, ← Int.ModEq]
      simpa using h.sub_right (y.toNat : Int)
    have hle : δ % 2 ^ w ≤ δ := emod_le_self hδ hpos
    omega
  · refine (Nat.min_le_right _ _).trans ?_
    have hsub : ((y - x).toNat : Int) = (-δ) % 2 ^ w := by
      have hneg := h.neg.add_right (y.toNat : Int)
      rw [toNat_sub_emod, ← Int.ModEq]
      simpa [sub_eq_add_neg, add_comm, add_left_comm] using hneg
    have hle : (-δ) % 2 ^ w ≤ -δ := emod_le_self (by omega) hpos
    omega

theorem exists_step (x y : BitVec w) :
    ∃ δ : Int, δ.natAbs = circDist x y ∧ x.toNat ≡ y.toNat + δ [ZMOD 2 ^ w] := by
  rcases Nat.le_total (x - y).toNat (y - x).toNat with hle | hle
  · refine ⟨(x - y).toNat, by rw [circDist, Nat.min_eq_left hle, Int.natAbs_natCast], ?_⟩
    rw [toNat_sub_emod]
    have h := (Int.mod_modEq ((x.toNat : Int) - y.toNat) (2 ^ w)).symm.add_left (y.toNat : Int)
    rwa [add_sub_cancel] at h
  · refine ⟨-(y - x).toNat, by rw [circDist, Nat.min_eq_right hle, Int.natAbs_neg,
      Int.natAbs_natCast], ?_⟩
    rw [toNat_sub_emod]
    have h := (Int.mod_modEq ((y.toNat : Int) - x.toNat) (2 ^ w)).symm.neg.add_left (y.toNat : Int)
    rwa [neg_sub, add_sub_cancel] at h

theorem toNat_add_modEq (x y : BitVec w) :
    ((x + y).toNat : Int) ≡ x.toNat + y.toNat [ZMOD 2 ^ w] := by
  rw [BitVec.toNat_add, Int.natCast_mod, Nat.cast_pow, Nat.cast_ofNat, Nat.cast_add]
  exact Int.mod_modEq _ _

theorem circDist_add_le (x y u v : BitVec w) :
    circDist (x + u) (y + v) ≤ circDist x y + circDist u v := by
  obtain ⟨δ, hδ, hx⟩ := exists_step x y
  obtain ⟨ε, hε, hu⟩ := exists_step u v
  have hstep : ((x + u).toNat : Int) ≡ (y + v).toNat + (δ + ε) [ZMOD 2 ^ w] :=
    calc ((x + u).toNat : Int) ≡ x.toNat + u.toNat [ZMOD 2 ^ w] := toNat_add_modEq x u
      _ ≡ (y.toNat + δ) + (v.toNat + ε) [ZMOD 2 ^ w] := hx.add hu
      _ = (y.toNat + v.toNat) + (δ + ε) := by ring
      _ ≡ (y + v).toNat + (δ + ε) [ZMOD 2 ^ w] := (toNat_add_modEq y v).symm.add_right _
  calc circDist (x + u) (y + v) ≤ (δ + ε).natAbs := circDist_le hstep
    _ ≤ δ.natAbs + ε.natAbs := Int.natAbs_add_le δ ε
    _ = circDist x y + circDist u v := by rw [hδ, hε]

theorem toNat_rotateLeft_eq (x : BitVec w) {r : Nat} (hr : r < w) :
    (x.rotateLeft r).toNat = 2 ^ r * (x.setWidth (w - r)).toNat + x.toNat / 2 ^ (w - r) := by
  have hx := x.isLt
  have hpow : 2 ^ w = 2 ^ (w - r) * 2 ^ r := by rw [← Nat.pow_add, Nat.sub_add_cancel hr.le]
  have hhigh : x.toNat / 2 ^ (w - r) < 2 ^ r := Nat.div_lt_of_lt_mul (hpow ▸ hx)
  rw [BitVec.toNat_rotateLeft, Nat.mod_eq_of_lt hr, Nat.shiftLeft_eq, Nat.shiftRight_eq_div_pow,
    BitVec.toNat_setWidth, hpow, Nat.mul_mod_mul_right, Nat.mul_comm _ (2 ^ r),
    ← Nat.two_pow_add_eq_or_of_lt hhigh]

theorem natAbs_two_pow_mul (r : Nat) (z : Int) : (2 ^ r * z : Int).natAbs = 2 ^ r * z.natAbs := by
  rw [Int.natAbs_mul, Int.natAbs_pow]
  rfl

theorem circDist_rotateLeft_le (x y : BitVec w) {r : Nat} (hr : r < w) :
    circDist (x.rotateLeft r) (y.rotateLeft r) ≤
      2 ^ r * circDist (x.setWidth (w - r)) (y.setWidth (w - r)) + (2 ^ r - 1) := by
  obtain ⟨δ, hδ, hlow⟩ := exists_step (x.setWidth (w - r)) (y.setWidth (w - r))
  have hpow : 2 ^ w = 2 ^ (w - r) * 2 ^ r := by rw [← Nat.pow_add, Nat.sub_add_cancel hr.le]
  have hxhigh : x.toNat / 2 ^ (w - r) < 2 ^ r := Nat.div_lt_of_lt_mul (hpow ▸ x.isLt)
  have hyhigh : y.toNat / 2 ^ (w - r) < 2 ^ r := Nat.div_lt_of_lt_mul (hpow ▸ y.isLt)
  have hmod : (2 : Int) ^ r * 2 ^ (w - r) = 2 ^ w := by
    rw [← pow_add, Nat.add_sub_cancel' hr.le]
  have hx := toNat_rotateLeft_eq x hr
  have hy := toNat_rotateLeft_eq y hr
  generalize x.toNat / 2 ^ (w - r) = a at *
  generalize y.toNat / 2 ^ (w - r) = b at *
  have hshift : (2 : Int) ^ r * (x.setWidth (w - r)).toNat ≡
      2 ^ r * ((y.setWidth (w - r)).toNat + δ) [ZMOD 2 ^ w] := hmod ▸ hlow.mul_left'
  have hstep : ((x.rotateLeft r).toNat : Int) ≡
      (y.rotateLeft r).toNat + (2 ^ r * δ + (a - b)) [ZMOD 2 ^ w] :=
    calc ((x.rotateLeft r).toNat : Int) = 2 ^ r * (x.setWidth (w - r)).toNat + a := by
          rw [hx]
          push_cast
          rfl
      _ ≡ 2 ^ r * ((y.setWidth (w - r)).toNat + δ) + a [ZMOD 2 ^ w] := hshift.add_right _
      _ = (y.rotateLeft r).toNat + (2 ^ r * δ + (a - b)) := by
          rw [hy]
          push_cast
          ring
  have hhigh : ((a : Int) - b).natAbs ≤ 2 ^ r - 1 := by omega
  calc circDist (x.rotateLeft r) (y.rotateLeft r) ≤ (2 ^ r * δ + (a - b) : Int).natAbs :=
        circDist_le hstep
    _ ≤ (2 ^ r * δ : Int).natAbs + ((a : Int) - b).natAbs := Int.natAbs_add_le _ _
    _ = 2 ^ r * δ.natAbs + ((a : Int) - b).natAbs := by
        rw [natAbs_two_pow_mul]
    _ ≤ _ := by
        rw [hδ]
        exact Nat.add_le_add_left hhigh _

theorem natAbs_sub_lt_of_div_eq {a b c : Nat} (hc : 0 < c) (h : a / c = b / c) :
    ((a : Int) - b).natAbs < c := by
  have ha := Nat.div_add_mod a c
  have hb := Nat.div_add_mod b c
  have halt := Nat.mod_lt a hc
  have hblt := Nat.mod_lt b hc
  rw [h] at ha
  generalize c * (b / c) = q at ha hb
  omega

theorem div_two_pow_eq {a b j : Nat} (h : ∀ i, j ≤ i → a.testBit i = b.testBit i) :
    a / 2 ^ j = b / 2 ^ j := by
  apply Nat.eq_of_testBit_eq
  intro i
  rw [Nat.testBit_div_two_pow, Nat.testBit_div_two_pow]
  exact h _ (Nat.le_add_left j i)

theorem circDist_le_of_agree {x y : BitVec w} {j m k : Nat} (hmk : m ≤ k)
    (hlow : ∀ i, j ≤ i → i < m → x.getLsbD i = y.getLsbD i)
    (hhigh : ∀ i, k ≤ i → x.getLsbD i = y.getLsbD i) :
    circDist x y ≤ 2 ^ m * (2 ^ (k - m) - 1) + (2 ^ j - 1) := by
  have hlow' : x.toNat % 2 ^ m / 2 ^ j = y.toNat % 2 ^ m / 2 ^ j := by
    apply div_two_pow_eq
    intro i hi
    rw [Nat.testBit_mod_two_pow, Nat.testBit_mod_two_pow]
    by_cases him : i < m
    · rw [BitVec.testBit_toNat, BitVec.testBit_toNat, hlow i hi him]
    · rw [decide_eq_false him, Bool.false_and, Bool.false_and]
  have hhigh' : x.toNat / 2 ^ m / 2 ^ (k - m) = y.toNat / 2 ^ m / 2 ^ (k - m) := by
    rw [Nat.div_div_eq_div_mul, Nat.div_div_eq_div_mul, ← Nat.pow_add, Nat.add_sub_cancel' hmk]
    apply div_two_pow_eq
    intro i hi
    rw [BitVec.testBit_toNat, BitVec.testBit_toNat, hhigh i hi]
  have hl := natAbs_sub_lt_of_div_eq (Nat.two_pow_pos j) hlow'
  have hh := natAbs_sub_lt_of_div_eq (Nat.two_pow_pos (k - m)) hhigh'
  have hx := Nat.div_add_mod x.toNat (2 ^ m)
  have hy := Nat.div_add_mod y.toNat (2 ^ m)
  generalize x.toNat / 2 ^ m = a at *
  generalize y.toNat / 2 ^ m = b at *
  generalize x.toNat % 2 ^ m = c at *
  generalize y.toNat % 2 ^ m = d at *
  have hstep : (x.toNat : Int) ≡ y.toNat + (2 ^ m * ((a : Int) - b) + ((c : Int) - d)) [ZMOD 2 ^ w] := by
    rw [← hx, ← hy]
    push_cast
    ring_nf
    rfl
  calc circDist x y ≤ (2 ^ m * ((a : Int) - b) + ((c : Int) - d)).natAbs := circDist_le hstep
    _ ≤ (2 ^ m * ((a : Int) - b)).natAbs + ((c : Int) - d).natAbs := Int.natAbs_add_le _ _
    _ = 2 ^ m * ((a : Int) - b).natAbs + ((c : Int) - d).natAbs := by
        rw [natAbs_two_pow_mul]
    _ ≤ 2 ^ m * (2 ^ (k - m) - 1) + (2 ^ j - 1) :=
        Nat.add_le_add (Nat.mul_le_mul_left _ (Nat.le_sub_one_of_lt hh)) (Nat.le_sub_one_of_lt hl)

theorem circDist_ofInt_le (x : BitVec w) (t : Int) :
    circDist x (BitVec.ofInt w t) ≤ ((x.toNat : Int) - t).natAbs := by
  have ht : ((BitVec.ofInt w t).toNat : Int) ≡ t [ZMOD 2 ^ w] := by
    have hpos : (0 : Int) < 2 ^ w := by positivity
    rw [BitVec.toNat_ofInt, Nat.cast_pow, Nat.cast_ofNat,
      Int.toNat_of_nonneg (Int.emod_nonneg _ hpos.ne')]
    exact Int.mod_modEq _ _
  apply circDist_le
  have h := ht.symm.add_right ((x.toNat : Int) - t)
  rwa [add_sub_cancel] at h

theorem circDist_zero_le (x : BitVec w) :
    circDist x 0 ≤ x.toNat ∧ circDist x 0 ≤ 2 ^ w - x.toNat := by
  have hx := x.isLt
  constructor
  · have h := circDist_ofInt_le x 0
    rwa [Int.sub_zero, Int.natAbs_natCast] at h
  · have h := circDist_ofInt_le x (2 ^ w : Nat)
    have hzero : BitVec.ofInt w (2 ^ w : Nat) = 0 := by
      apply BitVec.eq_of_toNat_eq
      simp
    rw [hzero] at h
    omega

/-- Between two words on different sides of a threshold lies the threshold or zero. -/
theorem circDist_threshold {x y : BitVec w} {t : Int} {d : Nat} (hd : circDist y x < d)
    (hne : ¬ ((y.toNat : Int) < t ↔ (x.toNat : Int) < t)) :
    circDist x 0 < d ∨ circDist x (BitVec.ofInt w t) < d := by
  have hx := x.isLt
  have hy := y.isLt
  obtain ⟨hlow, hhigh⟩ := circDist_zero_le x
  have ht := circDist_ofInt_le x t
  rcases Nat.lt_trichotomy x.toNat y.toNat with hlt | heq | hgt
  · rw [circDist_comm, circDist_of_lt hlt] at hd
    omega
  · omega
  · rw [circDist_of_lt hgt] at hd
    omega

end SeedCracking.Words
