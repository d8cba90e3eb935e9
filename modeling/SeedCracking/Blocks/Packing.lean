import SeedCracking.Blocks.Beam
import SeedCracking.Lists.Basic

/-! What `solve` returns: a mask of the known bits, then one candidate for each beam entry. -/

namespace SeedCracking.Blocks

open SeedCracking.Lists Words

def push (a b : BitVec 64) : BitVec 128 :=
  ofBits fun i : Fin 128 =>
    if i.val < 64 then (a >>> i.val) &&& 1 != 0 else (b >>> (i.val - 64)) &&& 1 != 0

section Masks

variable (iters : Nat)

def itermask : BitVec 64 := (1#64 <<< iters) - 1#64

def km0 : BitVec 64 := itermask iters <<< (64 - iters) ||| itermask iters <<< (64 - iters - 17)

def km1 : BitVec 64 := itermask iters <<< (64 - iters - 17)

def c0 (e : BeamEntry) : BitVec 64 := e.w1 <<< (64 - iters) ||| e.w2 <<< (64 - iters - 17)

def c1 (e : BeamEntry) : BitVec 64 := e.w3 <<< (64 - iters - 17)

def candidate (e : BeamEntry) : Option (BitVec 128) :=
  if c0 iters e &&& ~~~km0 iters = 0 ∧ c1 iters e &&& ~~~km1 iters = 0 then
    some (push (c0 iters e) (c1 iters e))
  else none

end Masks

/-- The mask and the candidates for one list of observations; nothing for an empty one. -/
def solve (xvs : List Observation) (mode : Nat) : Option (List (BitVec 128)) :=
  if xvs.length = 0 then some []
  else do
    let (iters, cur) := beam mode xvs
    let candidates ← cur.mapM (candidate iters)
    return push (km0 iters) (km1 iters) :: candidates

theorem push_bit_low (a b : BitVec 64) {i : Nat} (hi : i < 64) :
    (push a b).getLsbD i = a.getLsbD i := by
  have h := getLsbD_ofBits (fun i : Fin 128 => if i.val < 64 then (a >>> i.val) &&& 1 != 0
    else (b >>> (i.val - 64)) &&& 1 != 0) ⟨i, by omega⟩
  rw [push, h, if_pos hi, and_one_bne_zero, BitVec.getLsbD_ushiftRight, Nat.add_zero]

theorem push_bit_high (a b : BitVec 64) {i : Nat} (hi : i < 64) :
    (push a b).getLsbD (64 + i) = b.getLsbD i := by
  have h := getLsbD_ofBits (fun i : Fin 128 => if i.val < 64 then (a >>> i.val) &&& 1 != 0
    else (b >>> (i.val - 64)) &&& 1 != 0) ⟨64 + i, by omega⟩
  rw [push, h, if_neg (Nat.not_lt.mpr (Nat.le_add_right 64 i)), and_one_bne_zero,
    BitVec.getLsbD_ushiftRight, Nat.add_zero, Nat.add_sub_cancel_left]

section Level

variable {n : Nat}

theorem itermask_bit (hn : n ≤ 21) (i : Nat) : (itermask n).getLsbD i = decide (i < n) := by
  have hpow : 2 ^ n ≤ 2 ^ 21 := Nat.pow_le_pow_right (by decide) hn
  have hpos : 0 < 2 ^ n := Nat.two_pow_pos n
  have hnat : (itermask n).toNat = 2 ^ n - 1 := by
    rw [itermask, BitVec.toNat_sub, BitVec.toNat_shiftLeft, Nat.shiftLeft_eq, BitVec.toNat_ofNat]
    omega
  rw [← BitVec.testBit_toNat, hnat, Nat.testBit_two_pow_sub_one]

theorem km1_bit (hn : n ≤ 21) {i : Nat} (hi : i < 64) :
    (km1 n).getLsbD i = decide (47 - n ≤ i ∧ i < 47) := by
  rw [km1, BitVec.getLsbD_shiftLeft, itermask_bit hn, decide_eq_true hi, Bool.true_and,
    ← decide_not, ← Bool.decide_and, decide_eq_decide]
  omega

theorem km0_bit (hn : n ≤ 21) {i : Nat} (hi : i < 64) :
    (km0 n).getLsbD i = decide (64 - n ≤ i ∨ 47 - n ≤ i ∧ i < 47) := by
  rw [km0, BitVec.getLsbD_or, ← km1, km1_bit hn hi, BitVec.getLsbD_shiftLeft, itermask_bit hn,
    decide_eq_true hi, Bool.true_and, ← decide_not, ← Bool.decide_and, ← Bool.decide_or,
    decide_eq_decide]
  omega

variable {e : BeamEntry} (h : e.Shape n)

include h

theorem BeamEntry.Shape.w1_bit_of_le {i : Nat} (hi : n ≤ i) : e.w1.getLsbD i = false := by
  rw [← BitVec.testBit_toNat]
  exact Nat.testBit_lt_two_pow (Nat.lt_of_lt_of_le h.w1 (Nat.pow_le_pow_right (by decide) hi))

theorem BeamEntry.Shape.w1_bit_pad {i : Nat} (hi : i < n - 17) : e.w1.getLsbD i = false := by
  obtain ⟨q, hq⟩ := h.w1_pad
  rw [← BitVec.testBit_toNat, hq, Nat.testBit_two_pow_mul, decide_eq_false (Nat.not_le.mpr hi),
    Bool.false_and]

theorem BeamEntry.Shape.w2_bit_of_le {i : Nat} (hi : n ≤ i) : e.w2.getLsbD i = false := by
  rw [← BitVec.testBit_toNat]
  exact Nat.testBit_lt_two_pow (Nat.lt_of_lt_of_le h.w2 (Nat.pow_le_pow_right (by decide) hi))

theorem BeamEntry.Shape.w3_bit_of_le {i : Nat} (hi : n ≤ i) : e.w3.getLsbD i = false := by
  rw [← BitVec.testBit_toNat]
  exact Nat.testBit_lt_two_pow (Nat.lt_of_lt_of_le h.w3 (Nat.pow_le_pow_right (by decide) hi))

theorem c0_bit_high (hn : n ≤ 21) {i : Nat} (hi : i < 64) (h47 : 47 ≤ i) :
    (c0 n e).getLsbD i = (decide (64 - n ≤ i) && e.w1.getLsbD (i - (64 - n))) := by
  have hw2 : e.w2.getLsbD (i - (64 - n - 17)) = false := h.w2_bit_of_le (by omega)
  rw [c0, BitVec.getLsbD_or, BitVec.getLsbD_shiftLeft, BitVec.getLsbD_shiftLeft, hw2,
    Bool.and_false, Bool.or_false, decide_eq_true hi, Bool.true_and, ← decide_not,
    decide_eq_decide.mpr Nat.not_lt]

theorem c0_bit_low (hn : n ≤ 21) {i : Nat} (h47 : i < 47) :
    (c0 n e).getLsbD i = (decide (47 - n ≤ i) && e.w2.getLsbD (i - (47 - n))) := by
  have hw1 : (!decide (i < 64 - n) && e.w1.getLsbD (i - (64 - n))) = false := by
    by_cases hlt : i < 64 - n
    · rw [decide_eq_true hlt]
      rfl
    · rw [h.w1_bit_pad (by omega), Bool.and_false]
  have hi : i < 64 := by omega
  have hshift : 64 - n - 17 = 47 - n := by omega
  rw [c0, BitVec.getLsbD_or, BitVec.getLsbD_shiftLeft, BitVec.getLsbD_shiftLeft,
    decide_eq_true hi, Bool.true_and, Bool.true_and, hw1, Bool.false_or, hshift, ← decide_not,
    decide_eq_decide.mpr Nat.not_lt]

omit h in
theorem c1_bit (e : BeamEntry) {i : Nat} (hi : i < 64) :
    (c1 n e).getLsbD i = (decide (47 - n ≤ i) && e.w3.getLsbD (i - (47 - n))) := by
  have hshift : 64 - n - 17 = 47 - n := by omega
  rw [c1, BitVec.getLsbD_shiftLeft, decide_eq_true hi, Bool.true_and, hshift, ← decide_not,
    decide_eq_decide.mpr Nat.not_lt]

theorem c0_and_not_km0 (hn : n ≤ 21) : c0 n e &&& ~~~km0 n = 0 := by
  apply eq_of_forall_bit
  intro i
  have hi := i.isLt
  rw [BitVec.getLsbD_and, BitVec.getLsbD_not, decide_eq_true hi, Bool.true_and, km0_bit hn hi,
    BitVec.ofNat_eq_ofNat, BitVec.getLsbD_zero]
  by_cases h47 : 47 ≤ i.val
  · rw [c0_bit_high h hn hi h47]
    by_cases hlow : 64 - n ≤ i.val
    · rw [decide_eq_true (Or.inl hlow), Bool.not_true, Bool.and_false]
    · rw [decide_eq_false hlow, Bool.false_and, Bool.false_and]
  · rw [c0_bit_low h hn (Nat.not_le.mp h47)]
    by_cases hlow : 47 - n ≤ i.val
    · rw [decide_eq_true (Or.inr ⟨hlow, Nat.not_le.mp h47⟩), Bool.not_true, Bool.and_false]
    · rw [decide_eq_false hlow, Bool.false_and, Bool.false_and]

theorem c1_and_not_km1 (hn : n ≤ 21) : c1 n e &&& ~~~km1 n = 0 := by
  apply eq_of_forall_bit
  intro i
  have hi := i.isLt
  rw [BitVec.getLsbD_and, BitVec.getLsbD_not, decide_eq_true hi, Bool.true_and, km1_bit hn hi,
    BitVec.ofNat_eq_ofNat, BitVec.getLsbD_zero, c1_bit e hi]
  by_cases h47 : i.val < 47
  · by_cases hlow : 47 - n ≤ i.val
    · rw [decide_eq_true (show 47 - n ≤ i.val ∧ i.val < 47 from ⟨hlow, h47⟩), Bool.not_true,
        Bool.and_false]
    · rw [decide_eq_false hlow, Bool.false_and, Bool.false_and]
  · rw [h.w3_bit_of_le (by omega), Bool.and_false, Bool.false_and]

theorem candidate_eq (hn : n ≤ 21) : candidate n e = some (push (c0 n e) (c1 n e)) :=
  if_pos ⟨c0_and_not_km0 h hn, c1_and_not_km1 h hn⟩

end Level

theorem solve_eq {xvs : List Observation} (hxvs : xvs ≠ []) (mode : Nat) :
    solve xvs mode = some (push (km0 (beam mode xvs).1) (km1 (beam mode xvs).1) ::
      (beam mode xvs).2.map fun e => push (c0 (beam mode xvs).1 e) (c1 (beam mode xvs).1 e)) := by
  obtain ⟨-, hle, hshape⟩ := beam_shape mode xvs
  have hlen : xvs.length ≠ 0 := mt List.length_eq_zero_iff.mp hxvs
  rw [solve, if_neg hlen]
  change ((beam mode xvs).2.mapM (candidate (beam mode xvs).1)).bind _ = _
  rw [mapM_eq_some fun e he => candidate_eq (hshape e he) hle]
  rfl

theorem solve_nil (mode : Nat) : solve [] mode = some [] := rfl

def prefixOf (n : Nat) (A B : BitVec 64) : BitVec 64 × BitVec 64 × BitVec 64 :=
  ((A >>> (64 - min n 17)) <<< (n - min n 17), (A >>> (47 - n)) &&& itermask n,
    (B >>> (47 - n)) &&& itermask n)

def AgreesOn (mask x y : BitVec 128) : Prop :=
  ∀ i : Fin 128, mask.getLsbD i = true → x.getLsbD i = y.getLsbD i

theorem agreesOn_halves (mask x : BitVec 128) (A B : BitVec 64) :
    AgreesOn mask x (push A B) ↔
      (∀ i < 64, mask.getLsbD i = true → x.getLsbD i = A.getLsbD i) ∧
        ∀ i < 64, mask.getLsbD (64 + i) = true → x.getLsbD (64 + i) = B.getLsbD i := by
  constructor
  · intro h
    constructor
    · intro i hi hm
      rw [← push_bit_low A B hi]
      exact h ⟨i, by omega⟩ hm
    · intro i hi hm
      rw [← push_bit_high A B hi]
      exact h ⟨64 + i, by omega⟩ hm
  · rintro ⟨hlow, hhigh⟩ ⟨i, hi⟩ hm
    by_cases h64 : i < 64
    · rw [push_bit_low A B h64]
      exact hlow i h64 hm
    · obtain ⟨j, rfl⟩ := Nat.exists_eq_add_of_le (Nat.not_lt.mp h64)
      have hj : j < 64 := by omega
      rw [push_bit_high A B hj]
      exact hhigh j hj hm

theorem agreesOn_push (m0 m1 a b A B : BitVec 64) :
    AgreesOn (push m0 m1) (push a b) (push A B) ↔
      (∀ i < 64, m0.getLsbD i = true → a.getLsbD i = A.getLsbD i) ∧
        ∀ i < 64, m1.getLsbD i = true → b.getLsbD i = B.getLsbD i := by
  rw [agreesOn_halves]
  refine and_congr (forall₂_congr fun i hi => ?_) (forall₂_congr fun i hi => ?_)
  · rw [push_bit_low _ _ hi, push_bit_low _ _ hi]
  · rw [push_bit_high _ _ hi, push_bit_high _ _ hi]

section Prefix

variable {n : Nat} (hn : n ≤ 21)

include hn

theorem prefixOf_w1_bit (A B : BitVec 64) {j : Nat} (hj : j < 64) :
    (prefixOf n A B).1.getLsbD j = (decide (n - 17 ≤ j) && A.getLsbD (j + 64 - n)) := by
  have hsub : n - min n 17 = n - 17 := by omega
  rw [prefixOf, hsub, BitVec.getLsbD_shiftLeft, BitVec.getLsbD_ushiftRight, decide_eq_true hj,
    Bool.true_and, ← decide_not, decide_eq_decide.mpr Nat.not_lt]
  by_cases hle : n - 17 ≤ j
  · rw [show 64 - min n 17 + (j - (n - 17)) = j + 64 - n by omega]
  · rw [decide_eq_false hle, Bool.false_and, Bool.false_and]

theorem field_bit (X : BitVec 64) (j : Nat) :
    ((X >>> (47 - n)) &&& itermask n).getLsbD j = (decide (j < n) && X.getLsbD (47 - n + j)) := by
  rw [BitVec.getLsbD_and, BitVec.getLsbD_ushiftRight, itermask_bit hn, Bool.and_comm]

variable {e : BeamEntry} (h : e.Shape n)

include h

theorem w1_eq_prefix_iff (A B : BitVec 64) :
    e.w1 = (prefixOf n A B).1 ↔
      ∀ i < 64, 47 ≤ i → 64 - n ≤ i → (c0 n e).getLsbD i = A.getLsbD i := by
  constructor
  · intro hw1 i hi h47 hlow
    rw [c0_bit_high h hn hi h47, hw1, prefixOf_w1_bit hn A B (by omega), decide_eq_true hlow,
      decide_eq_true (by omega), show i - (64 - n) + 64 - n = i by omega, Bool.true_and,
      Bool.true_and]
  · intro hbits
    apply eq_of_forall_bit
    intro j
    have hj := j.isLt
    rw [prefixOf_w1_bit hn A B hj]
    by_cases hpad : n - 17 ≤ j.val
    · by_cases hjn : j.val < n
      · have hbit := hbits (j + 64 - n) (by omega) (by omega) (by omega)
        rw [c0_bit_high h hn (by omega) (by omega), decide_eq_true (by omega),
          show j.val + 64 - n - (64 - n) = j.val by omega, Bool.true_and] at hbit
        rw [hbit, decide_eq_true hpad, Bool.true_and]
      · rw [h.w1_bit_of_le (Nat.not_lt.mp hjn), BitVec.getLsbD_of_ge A _ (by omega),
          Bool.and_false]
    · rw [h.w1_bit_pad (Nat.not_le.mp hpad), decide_eq_false hpad, Bool.false_and]

theorem w2_eq_prefix_iff (A : BitVec 64) :
    e.w2 = (A >>> (47 - n)) &&& itermask n ↔
      ∀ i < 47, 47 - n ≤ i → (c0 n e).getLsbD i = A.getLsbD i := by
  constructor
  · intro hw2 i hi hlow
    rw [c0_bit_low h hn hi, hw2, field_bit hn, decide_eq_true hlow, decide_eq_true (by omega),
      show 47 - n + (i - (47 - n)) = i by omega, Bool.true_and, Bool.true_and]
  · intro hbits
    apply eq_of_forall_bit
    intro j
    rw [field_bit hn]
    by_cases hjn : j.val < n
    · have hbit := hbits (47 - n + j) (by omega) (by omega)
      rw [c0_bit_low h hn (by omega), decide_eq_true (by omega),
        show 47 - n + j.val - (47 - n) = j.val by omega, Bool.true_and] at hbit
      rw [hbit, decide_eq_true hjn, Bool.true_and]
    · rw [h.w2_bit_of_le (Nat.not_lt.mp hjn), decide_eq_false hjn, Bool.false_and]

theorem w3_eq_prefix_iff (B : BitVec 64) :
    e.w3 = (B >>> (47 - n)) &&& itermask n ↔
      ∀ i < 47, 47 - n ≤ i → (c1 n e).getLsbD i = B.getLsbD i := by
  constructor
  · intro hw3 i hi hlow
    rw [c1_bit e (by omega), hw3, field_bit hn, decide_eq_true hlow, decide_eq_true (by omega),
      show 47 - n + (i - (47 - n)) = i by omega, Bool.true_and, Bool.true_and]
  · intro hbits
    apply eq_of_forall_bit
    intro j
    rw [field_bit hn]
    by_cases hjn : j.val < n
    · have hbit := hbits (47 - n + j) (by omega) (by omega)
      rw [c1_bit e (by omega), decide_eq_true (by omega),
        show 47 - n + j.val - (47 - n) = j.val by omega, Bool.true_and] at hbit
      rw [hbit, decide_eq_true hjn, Bool.true_and]
    · rw [h.w3_bit_of_le (Nat.not_lt.mp hjn), decide_eq_false hjn, Bool.false_and]

theorem agreesOn_mask_iff (A B : BitVec 64) :
    AgreesOn (push (km0 n) (km1 n)) (push (c0 n e) (c1 n e)) (push A B) ↔
      (e.w1, e.w2, e.w3) = prefixOf n A B := by
  rw [agreesOn_push, Prod.ext_iff, Prod.ext_iff]
  simp only
  rw [w1_eq_prefix_iff hn h, prefixOf, w2_eq_prefix_iff hn h, w3_eq_prefix_iff hn h]
  constructor
  · rintro ⟨hlow, hhigh⟩
    refine ⟨fun i hi h47 hle => hlow i hi ?_, fun i hi hle => hlow i (by omega) ?_,
      fun i hi hle => hhigh i (by omega) ?_⟩
    · rw [km0_bit hn hi, decide_eq_true (Or.inl hle)]
    · rw [km0_bit hn (by omega), decide_eq_true (Or.inr ⟨hle, hi⟩)]
    · rw [km1_bit hn (by omega), decide_eq_true ⟨hle, hi⟩]
  · rintro ⟨hw1, hw2, hw3⟩
    constructor
    · intro i hi hm
      rw [km0_bit hn hi, decide_eq_true_eq] at hm
      by_cases h47 : 47 ≤ i
      · exact hw1 i hi h47 (by omega)
      · exact hw2 i (by omega) (by omega)
    · intro i hi hm
      rw [km1_bit hn hi, decide_eq_true_eq] at hm
      exact hw3 i hm.2 hm.1

end Prefix

theorem exists_agreesOn_iff (mode : Nat) (xvs : List Observation) (A B : BitVec 64) :
    (∃ x ∈ (beam mode xvs).2.map fun e =>
        push (c0 (beam mode xvs).1 e) (c1 (beam mode xvs).1 e),
      AgreesOn (push (km0 (beam mode xvs).1) (km1 (beam mode xvs).1)) x (push A B)) ↔
      ∃ e ∈ (beam mode xvs).2, (e.w1, e.w2, e.w3) = prefixOf (beam mode xvs).1 A B := by
  obtain ⟨-, hle, hshape⟩ := beam_shape mode xvs
  constructor
  · rintro ⟨x, hx, hagree⟩
    obtain ⟨e, he, rfl⟩ := List.mem_map.mp hx
    exact ⟨e, he, (agreesOn_mask_iff hle (hshape e he) A B).mp hagree⟩
  · rintro ⟨e, he, hfields⟩
    exact ⟨_, List.mem_map_of_mem he, (agreesOn_mask_iff hle (hshape e he) A B).mpr hfields⟩

end SeedCracking.Blocks
