import SeedCracking.Blocks.Ranking
import SeedCracking.Words.Circular

/-! How far the draws of a prefix are from those of the state. -/

namespace SeedCracking.Blocks

open Words Xoroshiro

def out (ITER : Nat) (seedlo seedhi xv : BitVec 64) : BitVec 64 :=
  let s := State.next^[ITER] ⟨xv, 0⟩
  (State.mk (seedlo ^^^ s.lo) (seedhi ^^^ s.hi)).output

theorem get_eq_out (ITER : Nat) (seedlo seedhi xv : BitVec 64) (p : ℚ) :
    get ITER seedlo seedhi xv p = decide (toFloat (out ITER seedlo seedhi xv) < p) := rfl

theorem get_iff_toNat_lt (ITER : Nat) (seedlo seedhi xv : BitVec 64) (p : ℚ) :
    get ITER seedlo seedhi xv p = true ↔
      ((out ITER seedlo seedhi xv).toNat : Int) < ⌈p * 2 ^ 24⌉ * 2 ^ 40 := by
  rw [get_eq_out, decide_eq_true_eq, out, toFloat_output, draw]
  generalize (State.output _) = x
  rw [div_lt_iff₀ (by positivity), BitVec.toNat_ushiftRight, Nat.shiftRight_eq_div_pow,
    ← Int.cast_natCast, ← Int.lt_ceil, Int.natCast_div]
  exact Int.ediv_lt_iff_lt_mul (by decide)

section Prefix

variable (n : Nat) (A B : BitVec 64)

/-! The words that a prefix is scored with. -/

def seedlo : BitVec 64 :=
  (prefixOf n A B).1 <<< (64 - n) ||| (prefixOf n A B).2.1 <<< (64 - 17 - n)

def seedhi : BitVec 64 := (prefixOf n A B).2.2 <<< (64 - 17 - n)

theorem prefixEntry_score (mode : Nat) (xvs : List Observation) :
    (prefixEntry mode xvs n A B).score = fit mode xvs (seedlo n A B) (seedhi n A B) := rfl

variable {n} (hn : n ≤ 21)

include hn

theorem seedhi_bit {i : Nat} (hlow : 47 - n ≤ i) (h47 : i < 47) :
    (seedhi n A B).getLsbD i = B.getLsbD i := by
  rw [seedhi, BitVec.getLsbD_shiftLeft, prefixOf, field_bit hn, decide_eq_true (by omega),
    decide_eq_false (by omega), decide_eq_true (by omega),
    show 47 - n + (i - (64 - 17 - n)) = i by omega, Bool.not_false, Bool.true_and, Bool.true_and,
    Bool.true_and]

theorem seedlo_bit_low {i : Nat} (hlow : 47 - n ≤ i) (h47 : i < 47) :
    (seedlo n A B).getLsbD i = A.getLsbD i := by
  have hw1 : ((prefixOf n A B).1 <<< (64 - n)).getLsbD i = false := by
    rw [BitVec.getLsbD_shiftLeft, prefixOf_w1_bit hn A B (by omega)]
    by_cases hlt : i < 64 - n
    · simp [hlt]
    · rw [decide_eq_false (show ¬ n - 17 ≤ i - (64 - n) by omega), Bool.false_and, Bool.and_false]
  rw [seedlo, BitVec.getLsbD_or, hw1, Bool.false_or]
  exact seedhi_bit B A hn hlow h47

theorem seedlo_bit_high {i : Nat} (hlow : 64 - n ≤ i) (h47 : 47 ≤ i) :
    (seedlo n A B).getLsbD i = A.getLsbD i := by
  by_cases hi : i < 64
  · have hw2 : ((prefixOf n A B).2.1 <<< (64 - 17 - n)).getLsbD i = false := by
      rw [BitVec.getLsbD_shiftLeft, prefixOf, field_bit hn,
        decide_eq_false (show ¬ i - (64 - 17 - n) < n by omega), Bool.false_and, Bool.and_false]
    rw [seedlo, BitVec.getLsbD_or, hw2, Bool.or_false, BitVec.getLsbD_shiftLeft,
      prefixOf_w1_bit hn A B (by omega), decide_eq_true hi, decide_eq_false (by omega),
      decide_eq_true (show n - 17 ≤ i - (64 - n) by omega),
      show i - (64 - n) + 64 - n = i by omega, Bool.not_false, Bool.true_and, Bool.true_and,
      Bool.true_and]
  · rw [BitVec.getLsbD_of_ge _ i (by omega), BitVec.getLsbD_of_ge A i (by omega)]

theorem two_pow_scale : 2 ^ (64 - n) = 2 ^ 17 * 2 ^ (47 - n) := by
  rw [← Nat.pow_add]
  congr 1
  omega

theorem circDist_word_lt {x y : BitVec 64}
    (hlow : ∀ i, 47 - n ≤ i → i < 47 → x.getLsbD i = y.getLsbD i)
    (hhigh : ∀ i, 64 - n ≤ i → 47 ≤ i → x.getLsbD i = y.getLsbD i) :
    circDist x y < 2 ^ (64 - n) := by
  have hword : circDist x y ≤ 2 ^ 47 * (2 ^ (max 47 (64 - n) - 47) - 1) + (2 ^ (47 - n) - 1) :=
    circDist_le_of_agree (Nat.le_max_left _ _) hlow fun i hi =>
      hhigh i ((Nat.le_max_right _ _).trans hi) ((Nat.le_max_left _ _).trans hi)
  have hpos : 0 < 2 ^ (47 - n) := Nat.two_pow_pos _
  have hle : 2 ^ (47 - n) ≤ 2 ^ 47 := Nat.pow_le_pow_right (by decide) (Nat.sub_le _ _)
  rcases Nat.le_total n 17 with h17 | h17
  · have hgap : 2 ^ 47 * 2 ^ (max 47 (64 - n) - 47) = 2 ^ (64 - n) := by
      rw [← Nat.pow_add]
      congr 1
      omega
    rw [Nat.mul_sub, hgap] at hword
    have hgap_le : 2 ^ 47 ≤ 2 ^ (64 - n) := Nat.pow_le_pow_right (by decide) (by omega)
    omega
  -- from level 17 on all bits from 47 up are known
  · have hgap : max 47 (64 - n) - 47 = 0 := by omega
    rw [hgap] at hword
    rw [two_pow_scale hn]
    omega

omit hn in
theorem circDist_setWidth_le {x y : BitVec 64}
    (h : ∀ i, 47 - n ≤ i → i < 47 → x.getLsbD i = y.getLsbD i) :
    circDist (x.setWidth 47) (y.setWidth 47) ≤ 2 ^ (47 - n) - 1 := by
  have hagree := circDist_le_of_agree (x := x.setWidth 47) (y := y.setWidth 47) (j := 47 - n)
    (Nat.le_refl 47) (fun i hi hlt => by simpa [hlt] using h i hi hlt)
    fun i hi => by simp [Nat.not_lt.mpr hi]
  simpa using hagree

theorem circDist_rotated_lt {s t : State}
    (hlo : ∀ i, 47 - n ≤ i → i < 47 → s.lo.getLsbD i = t.lo.getLsbD i)
    (hhi : ∀ i, 47 - n ≤ i → i < 47 → s.hi.getLsbD i = t.hi.getLsbD i) :
    circDist ((s.lo + s.hi).rotateLeft 17) ((t.lo + t.hi).rotateLeft 17) < 2 * 2 ^ (64 - n) := by
  have hsum : circDist ((s.lo + s.hi).setWidth 47) ((t.lo + t.hi).setWidth 47) ≤
      (2 ^ (47 - n) - 1) + (2 ^ (47 - n) - 1) := by
    rw [BitVec.setWidth_add _ _ (by decide), BitVec.setWidth_add _ _ (by decide)]
    exact (circDist_add_le _ _ _ _).trans
      (Nat.add_le_add (circDist_setWidth_le hlo) (circDist_setWidth_le hhi))
  have hrot : circDist ((s.lo + s.hi).rotateLeft 17) ((t.lo + t.hi).rotateLeft 17) ≤
      2 ^ 17 * circDist ((s.lo + s.hi).setWidth 47) ((t.lo + t.hi).setWidth 47) + (2 ^ 17 - 1) :=
    circDist_rotateLeft_le _ _ (by decide)
  have hpos : 0 < 2 ^ (47 - n) := Nat.two_pow_pos _
  rw [two_pow_scale hn]
  omega

theorem circDist_output {s t : State}
    (hlo : ∀ i, 47 - n ≤ i → i < 47 → s.lo.getLsbD i = t.lo.getLsbD i)
    (hlo' : ∀ i, 64 - n ≤ i → 47 ≤ i → s.lo.getLsbD i = t.lo.getLsbD i)
    (hhi : ∀ i, 47 - n ≤ i → i < 47 → s.hi.getLsbD i = t.hi.getLsbD i) :
    circDist s.output t.output < 3 * 2 ^ (64 - n) :=
  calc circDist s.output t.output ≤
        circDist ((s.lo + s.hi).rotateLeft 17) ((t.lo + t.hi).rotateLeft 17) +
          circDist s.lo t.lo := circDist_add_le _ _ _ _
    _ < 2 * 2 ^ (64 - n) + 2 ^ (64 - n) :=
        Nat.add_lt_add (circDist_rotated_lt hn hlo hhi) (circDist_word_lt hn hlo hlo')
    _ = 3 * 2 ^ (64 - n) := by ring

/-- The words of a prefix and those of its state give outputs that are close to each other, and a
draw that falls on different sides of a probability is read close to zero or to the threshold. -/
theorem out_prefixOf (ITER : Nat) (xv : BitVec 64) :
    circDist (out ITER (seedlo n A B) (seedhi n A B) xv) (out ITER A B xv) < 3 * 2 ^ (64 - n) ∧
    ∀ p, get ITER (seedlo n A B) (seedhi n A B) xv p ≠ get ITER A B xv p →
      circDist (out ITER A B xv) 0 < 3 * 2 ^ (64 - n) ∨
      circDist (out ITER A B xv) (BitVec.ofInt 64 (⌈p * 2 ^ 24⌉ * 2 ^ 40)) < 3 * 2 ^ (64 - n) := by
  have hxor : ∀ {x y : BitVec 64} (z : BitVec 64) {i : Nat}, x.getLsbD i = y.getLsbD i →
      (x ^^^ z).getLsbD i = (y ^^^ z).getLsbD i := by
    intro x y z i h
    rw [BitVec.getLsbD_xor, BitVec.getLsbD_xor, h]
  have hclose : circDist (out ITER (seedlo n A B) (seedhi n A B) xv) (out ITER A B xv) <
      3 * 2 ^ (64 - n) :=
    circDist_output hn (fun i hi h47 => hxor _ (seedlo_bit_low A B hn hi h47))
      (fun i hi h47 => hxor _ (seedlo_bit_high A B hn hi h47))
      fun i hi h47 => hxor _ (seedhi_bit A B hn hi h47)
  refine ⟨hclose, fun p hne => circDist_threshold hclose ?_⟩
  rw [← get_iff_toNat_lt, ← get_iff_toNat_lt]
  exact fun h => hne (Bool.eq_iff_iff.mpr h)

end Prefix

theorem out_prefixOf_last : circDist (out 2 (seedlo 21 0 0) (seedhi 21 0 0) 1) (out 2 0 0 1) <
    3 * 2 ^ 43 :=
  (out_prefixOf 0 0 (n := 21) (Nat.le_refl 21) 2 1).1

end SeedCracking.Blocks
