import Mathlib.Data.Fintype.Card
import Mathlib.Data.Nat.Bitwise
import Mathlib.Tactic.NormNum

/-! Rotations, shifts and carries of machine words, read bit by bit. -/

namespace SeedCracking.Words

instance neZero_width : NeZero 64 := ⟨by decide⟩

variable {w : Nat}

theorem getLsbD_rotateLeft (x : BitVec w) (r i : Fin w) :
    (x.rotateLeft r).getLsbD i = x.getLsbD (i - r : Fin w) := by
  have hi := i.isLt
  have hr := r.isLt
  have hsub : (i - r : Fin w).val = (w - r.val + i.val) % w := rfl
  rw [BitVec.getLsbD_rotateLeft, Nat.mod_eq_of_lt hr, hsub]
  by_cases h : i.val < r.val
  · rw [decide_eq_true h, cond_true, Nat.mod_eq_of_lt (by omega)]
  · rw [decide_eq_false h, cond_false, decide_eq_true hi, Bool.true_and,
      show w - r.val + i.val = (i.val - r.val) + w by omega, Nat.add_mod_right,
      Nat.mod_eq_of_lt (by omega)]

theorem rotateLeft_xor (x y : BitVec w) (r : Fin w) :
    (x ^^^ y).rotateLeft r = x.rotateLeft r ^^^ y.rotateLeft r := by
  apply BitVec.eq_of_getLsbD_eq
  intro i hi
  have h := fun z : BitVec w => getLsbD_rotateLeft z r ⟨i, hi⟩
  simp only at h
  rw [BitVec.getLsbD_xor, h, h, h, BitVec.getLsbD_xor]

theorem xor_xor_xor_comm (a b c d : BitVec w) :
    (a ^^^ b) ^^^ (c ^^^ d) = (a ^^^ c) ^^^ (b ^^^ d) := by ac_rfl

theorem xor_xor_xor_comm₃ (a b c a' b' c' : BitVec w) :
    (a ^^^ a') ^^^ (b ^^^ b') ^^^ (c ^^^ c') = (a ^^^ b ^^^ c) ^^^ (a' ^^^ b' ^^^ c') := by ac_rfl

theorem getLsbD_shiftLeft (x : BitVec w) (r i : Fin w) :
    (x <<< r.val).getLsbD i = (decide (r ≤ i) && x.getLsbD (i - r : Fin w)) := by
  have hi := i.isLt
  rw [BitVec.getLsbD_shiftLeft, decide_eq_true hi, Bool.true_and]
  by_cases h : r ≤ i
  · have hlt : ¬ i.val < r.val := Nat.not_lt.mpr h
    rw [decide_eq_true h, decide_eq_false hlt, Fin.sub_val_of_le h, Bool.not_false]
  · have hlt : i.val < r.val := Nat.lt_of_not_le h
    rw [decide_eq_false h, decide_eq_true hlt, Bool.not_true, Bool.false_and, Bool.false_and]

theorem eq_of_forall_bit {x y : BitVec w} (h : ∀ i : Fin w, x.getLsbD i = y.getLsbD i) : x = y :=
  BitVec.eq_of_getLsbD_eq fun i hi => h ⟨i, hi⟩

def ofBits (f : Fin w → Bool) : BitVec w := BitVec.ofNat w (Nat.ofBits f)

@[simp] theorem getLsbD_ofBits (f : Fin w → Bool) (i : Fin w) : (ofBits f).getLsbD i = f i := by
  rw [ofBits, BitVec.getLsbD_ofNat, decide_eq_true i.isLt, Bool.true_and,
    Nat.testBit_ofBits_lt f i i.isLt]

theorem getLsbD_foldl_range {step : BitVec w → Nat → BitVec w} {b : Nat → Bool} {n : Nat}
    (h : ∀ r i k, i < n → (step r i).getLsbD k = (r.getLsbD k || (decide (k = i) && b i)))
    (r : BitVec w) (k : Nat) :
    ((List.range n).foldl step r).getLsbD k = (r.getLsbD k || (decide (k < n) && b k)) := by
  induction n with
  | zero => simp
  | succ n ih =>
    rw [List.range_succ, List.foldl_append, List.foldl_cons, List.foldl_nil, h _ _ _ (by omega),
      ih fun r i k hi => h r i k (by omega)]
    by_cases hk : k = n
    · subst hk
      simp
    · have hlt : decide (k < n + 1) = decide (k < n) := decide_eq_decide.mpr (by omega)
      rw [hlt, decide_eq_false hk, Bool.false_and, Bool.or_false]

theorem getLsbD_or_bit (r v : BitVec w) {i : Nat} (hi : i < w) (k : Nat) :
    (r ||| (v &&& 1) <<< i).getLsbD k = (r.getLsbD k || (decide (k = i) && v.getLsbD 0)) := by
  rw [BitVec.getLsbD_or, BitVec.getLsbD_shiftLeft, BitVec.getLsbD_and]
  by_cases hk : k = i
  · subst hk
    have hw : 0 < w := by omega
    simp [hi, hw]
  · by_cases hlt : k < i
    · simp [hlt, hk]
    · have hne : k - i ≠ 0 := by omega
      simp [hk, hne]

theorem and_one_bne_zero (x : BitVec 64) : (x &&& 1 != 0) = x.getLsbD 0 := by
  have hbit : (x &&& 1).getLsbD 0 = x.getLsbD 0 := by
    rw [BitVec.getLsbD_and, show (1 : BitVec 64).getLsbD 0 = true from rfl, Bool.and_true]
  cases h : x.getLsbD 0 with
  | true =>
    rw [bne_iff_ne]
    intro h0
    rw [h0] at hbit
    rw [← hbit] at h
    cases h
  | false =>
    rw [bne_eq_false_iff_eq]
    apply BitVec.eq_of_getLsbD_eq
    intro i hi
    rw [BitVec.getLsbD_and, show (1 : BitVec 64) = 1#64 from rfl, BitVec.getLsbD_one]
    by_cases h0 : i = 0
    · subst h0
      rw [h, Bool.false_and]
      rfl
    · simp [h0]

def xorshift (s : Nat) (x : BitVec w) : BitVec w := x ^^^ x >>> s

theorem xorshift_xorshift (s : Nat) (x : BitVec w) :
    xorshift s (xorshift s x) = xorshift (s + s) x := by
  apply BitVec.eq_of_getLsbD_eq
  intro i _
  simp only [xorshift, BitVec.getLsbD_xor, BitVec.getLsbD_ushiftRight, Nat.add_assoc]
  cases x.getLsbD i <;> cases x.getLsbD (s + i) <;> simp

theorem xorshift_of_width_le {s : Nat} (h : w ≤ s) (x : BitVec w) : xorshift s x = x := by
  apply BitVec.eq_of_getLsbD_eq
  intro i _
  simp [xorshift, BitVec.getLsbD_of_ge x (s + i) (by omega)]

/-- Two more xorshifts undo one whose fourfold shift leaves the word. -/
theorem xorshift_cancel {s : Nat} (h : w ≤ 4 * s) (x : BitVec w) :
    xorshift (s + s) (xorshift s (xorshift s x)) = x := by
  rw [xorshift_xorshift, xorshift_xorshift, xorshift_of_width_le (by omega)]

theorem xorshift_cancel' {s : Nat} (h : w ≤ 4 * s) (x : BitVec w) :
    xorshift s (xorshift (s + s) (xorshift s x)) = x := by
  rw [← xorshift_xorshift, xorshift_xorshift, xorshift_cancel h]

theorem mul_cancel {a b : BitVec w} (h : a * b = 1#w) (x : BitVec w) : x * a * b = x := by
  rw [BitVec.mul_assoc, h, BitVec.mul_one]

end SeedCracking.Words
