import SeedCracking.Kernel.BruteKernel
import SeedCracking.Kernel.Scalar

/-! Each lane of a batch is the search on single bits of its own guess. -/

namespace SeedCracking.Kernel

open StraightLine Words Xoroshiro

theorem countrZero_two_pow (k : Nat) : countrZero (2 ^ k) = k := by
  induction k with
  | zero => rw [Nat.pow_zero, countrZero, if_neg (by decide), if_pos (by decide)]
  | succ k ih =>
    have hpos : 0 < 2 ^ k := Nat.two_pow_pos k
    rw [countrZero, if_neg (by omega), if_neg (by omega), Nat.pow_succ,
      Nat.mul_div_cancel _ (by decide), ih]

theorem lanePattern_bit {i j : Nat} (hj : j < 64) : (lanePattern i).getLsbD j = j.testBit i := by
  have hround : ∀ (r : BitVec 64) n k, n < 64 →
      (r ||| ((BitVec.ofNat 64 n >>> i) &&& 1) <<< n).getLsbD k =
        (r.getLsbD k || (decide (k = n) && n.testBit i)) := by
    intro r n k hn
    rw [getLsbD_or_bit _ _ hn, BitVec.getLsbD_ushiftRight, BitVec.getLsbD_ofNat, Nat.add_zero]
    by_cases hi : i < 64
    · simp [hi]
    · have hlt : n < 2 ^ i := Nat.lt_of_lt_of_le hn (Nat.pow_le_pow_right (Nat.zero_lt_two) (show 6 ≤ i by omega))
      simp [hi, Nat.testBit_lt_two_pow hlt]
  rw [lanePattern, getLsbD_foldl_range hround, decide_eq_true hj, Bool.true_and,
    BitVec.ofNat_eq_ofNat, BitVec.getLsbD_zero, Bool.false_or]

theorem testBit_word_index (n : Nat) {i : Nat} (h : 6 ≤ i) :
    (n / 64).testBit (i - 6) = n.testBit i := by
  rw [show (64 : Nat) = 2 ^ 6 from rfl, Nat.testBit_div_two_pow, Nat.sub_add_cancel h]

theorem testBit_bit_index (n : Nat) {i : Nat} (h : i < 6) : (n % 64).testBit i = n.testBit i := by
  rw [show (64 : Nat) = 2 ^ 6 from rfl, Nat.testBit_mod_two_pow, decide_eq_true h, Bool.true_and]

section Lane

variable {k : Nat} {base : Nat} (j : Fin (64 * 2 ^ k))

theorem lane_lt_two_pow : j.val < 2 ^ (6 + k) := by
  have hj := j.isLt
  rw [Nat.pow_add]
  exact hj

theorem splat_bit {size : Nat} (c : Bool) (j : Fin (64 * size)) :
    (splat c : Simd size).bit j = c := by
  cases c with
  | true =>
    have h := (Simd.lane j).bit_compl 0
    rw [(Simd.lane j).bit_zero] at h
    exact h
  | false => exact (Simd.lane j).bit_zero

theorem testBit_batch (hbase : 2 ^ (6 + k) ∣ base) (i : Nat) :
    (base + j.val).testBit i = if i < 6 + k then j.val.testBit i else base.testBit i := by
  obtain ⟨q, rfl⟩ := hbase
  rw [Nat.testBit_two_pow_mul_add _ (lane_lt_two_pow j), Nat.testBit_two_pow_mul]
  by_cases h : i < 6 + k
  · rw [if_pos h, if_pos h]
  · rw [if_neg h, if_neg h, decide_eq_true (by omega), Bool.true_and]

theorem guessPlane_bit (hbase : 2 ^ (6 + k) ∣ base) (i : Fin 64) :
    (guessPlane (BitVec.ofNat 64 base) i : Simd (2 ^ k)).bit j = (base + j.val).testBit i := by
  have hi := i.isLt
  rw [guessPlane, countrZero_two_pow]
  by_cases hhigh : 6 + k ≤ i.val
  · rw [if_pos hhigh, testBit_batch j hbase, if_neg (show ¬ i.val < 6 + k by omega), splat_bit, and_one_bne_zero,
      BitVec.getLsbD_ushiftRight, BitVec.getLsbD_ofNat, Nat.add_zero, decide_eq_true hi,
      Bool.true_and]
  · rw [if_neg hhigh, testBit_batch j hbase, if_pos (show i.val < 6 + k by omega)]
    by_cases hmid : 6 ≤ i.val
    · rw [if_pos hmid, Simd.bit]
      rw [← testBit_word_index _ hmid, Nat.testBit, Nat.and_comm]
      simp only
      cases hb : (j.val / 64) >>> (i.val - 6) &&& 1 != 0 with
      | true =>
        rw [if_pos rfl, BitVec.getLsbD_not, BitVec.ofNat_eq_ofNat, BitVec.getLsbD_zero]
        simp [Nat.mod_lt]
      | false => rw [if_neg (by decide), BitVec.ofNat_eq_ofNat, BitVec.getLsbD_zero]
    · rw [if_neg hmid, Simd.bit, Simd.broadcast, lanePattern_bit (Nat.mod_lt _ (by decide)),
        testBit_bit_index _ (show i.val < 6 by omega)]

theorem outPlane_bit {size : Nat} (j : Fin (64 * size)) (nextlong : BitVec 64) (i : Fin 64) :
    (outPlane nextlong i : Simd size).bit j = nextlong.getLsbD i := by
  rw [outPlane, splat_bit, and_one_bne_zero, BitVec.getLsbD_ushiftRight, Nat.add_zero]

theorem inputPlanes_bit (hbase : 2 ^ (6 + k) ∣ base) (nextlong1 nextlong2 : BitVec 64)
    (v : Plane) :
    (inputPlanes nextlong1 nextlong2 (BitVec.ofNat 64 base) v : Simd (2 ^ k)).bit j =
      scalarInput nextlong1 nextlong2 (base + j.val) v := by
  have hzero : (0 : Simd (2 ^ k)).bit j = false := (Simd.lane j).bit_zero
  cases v with
  | S1 t i => cases t <;> first | exact hzero | exact outPlane_bit j nextlong1 i
  | S2 t i => cases t <;> first | exact hzero | exact outPlane_bit j nextlong2 i
  | guess_bits i => exact guessPlane_bit j hbase i

/-- Lane `j` of the batch at `base` runs the generated section on the guess `base + j`. -/
theorem planes_bit (hbase : 2 ^ (6 + k) ∣ base) (nextlong1 nextlong2 : BitVec 64) (v : Plane) :
    (planes nextlong1 nextlong2 (BitVec.ofNat 64 base) v : Simd (2 ^ k)).bit j =
      scalarPlanes nextlong1 nextlong2 (base + j.val) v := by
  have h := exec_lane reconstruction (Simd.lane j)
    (inputPlanes nextlong1 nextlong2 (BitVec.ofNat 64 base)) v
  simp only [Simd.lane_bit, inputPlanes_bit j hbase] at h
  exact h

end Lane

end SeedCracking.Kernel
