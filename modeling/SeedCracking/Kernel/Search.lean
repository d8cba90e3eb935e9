import SeedCracking.Kernel.Batch
import SeedCracking.Lists.Basic

/-! A complete run of the search is the search on single bits over all `2^40` guesses. -/

namespace SeedCracking.Kernel

open SeedCracking.Lists StraightLine Words Xoroshiro

theorem scalarReport_eq (nextlong1 nextlong2 : BitVec 64) (guess : Nat) :
    scalarReport nextlong1 nextlong2 guess =
      let s := scalarState nextlong1 nextlong2 guess
      if s.outputs = (nextlong1, nextlong2) then
        foundCandidate s.lo s.hi (BitVec.ofNat 64 guess) ::
          if unstafford13 s.hi - unstafford13 s.lo = goldenRatio then
            [foundWorldSeed (unstafford13 s.lo ^^^ silverRatio)]
          else []
      else [] :=
  check_eq nextlong1 nextlong2 (BitVec.ofNat 64 guess) (scalarState nextlong1 nextlong2 guess)

theorem scalarReport_eq_nil {nextlong1 nextlong2 : BitVec 64} {guess : Nat}
    (h : (scalarState nextlong1 nextlong2 guess).outputs ≠ (nextlong1, nextlong2)) :
    scalarReport nextlong1 nextlong2 guess = [] := by
  rw [scalarReport_eq]
  exact if_neg h

section Batch

variable {k base : Nat} (hbase : 2 ^ (6 + k) ∣ base) (nextlong1 nextlong2 : BitVec 64)

include hbase

/-- A batch sends what its guesses send one by one, whichever lanes share it. -/
theorem searchBatch_eq (hk : k ≤ 24) :
    searchBatch (2 ^ k) nextlong1 nextlong2 (BitVec.ofNat 64 base) =
      some ((List.range (64 * 2 ^ k)).flatMap fun j =>
        scalarReport nextlong1 nextlong2 (base + j)) := by
  have hfast := bruteKernel_eq hbase nextlong1 nextlong2 false
  have hfull := bruteKernel_eq hbase nextlong1 nextlong2 true
  simp only at hfast hfull
  by_cases hok : (∃ j : Fin (64 * 2 ^ k),
      (scalarState nextlong1 nextlong2 (base + j)).output = nextlong1) ∧
      ∃ j : Fin (64 * 2 ^ k), (scalarState nextlong1 nextlong2 (base + j)).next.output = nextlong2
  · rw [searchBatch, hfast.2 hok, hfull.2 hok, report_eq hbase nextlong1 nextlong2 hk]
    rfl
  · have hnil : ∀ j ∈ List.range (64 * 2 ^ k), scalarReport nextlong1 nextlong2 (base + j) = [] := by
      intro j hj
      apply scalarReport_eq_nil
      intro hout
      rw [State.outputs, Prod.mk.injEq] at hout
      have hj' : j < 64 * 2 ^ k := List.mem_range.mp hj
      exact hok ⟨⟨⟨j, hj'⟩, hout.1⟩, ⟨⟨j, hj'⟩, hout.2⟩⟩
    rw [searchBatch, hfast.1 hok, List.flatMap_eq_nil_iff.mpr hnil]
    rfl

theorem searchBatch_eq_none (hk : 25 ≤ k) {guess : Nat} (hle : base ≤ guess)
    (hlt : guess < base + 2 ^ (6 + k))
    (hout : (scalarState nextlong1 nextlong2 guess).outputs = (nextlong1, nextlong2)) :
    searchBatch (2 ^ k) nextlong1 nextlong2 (BitVec.ofNat 64 base) = none := by
  have hfast := bruteKernel_eq hbase nextlong1 nextlong2 false
  have hfull := bruteKernel_eq hbase nextlong1 nextlong2 true
  simp only at hfast hfull
  have hj : guess - base < 64 * 2 ^ k := by
    rw [Nat.pow_add] at hlt
    omega
  have hguess : base + (guess - base) = guess := by omega
  rw [State.outputs, Prod.mk.injEq, ← hguess] at hout
  have hok : (∃ j : Fin (64 * 2 ^ k),
      (scalarState nextlong1 nextlong2 (base + j)).output = nextlong1) ∧
      ∃ j : Fin (64 * 2 ^ k),
        (scalarState nextlong1 nextlong2 (base + j)).next.output = nextlong2 :=
    ⟨⟨⟨_, hj⟩, hout.1⟩, ⟨⟨_, hj⟩, hout.2⟩⟩
  have hpow : 2 ^ 25 ≤ 2 ^ k := Nat.pow_le_pow_right (by decide) hk
  have hbits : 2 ^ 31 ≤ simdBits (2 ^ k) := by
    simp only [simdBits]
    omega
  rw [searchBatch, hfast.2 hok, hfull.2 hok, report, forInt_eq_none _ hbits]
  rfl

end Batch

theorem batchesFrom_eq {k : Nat} (hk : k ≤ 34) {q : Nat} (hq : q ≤ 2 ^ (34 - k)) :
    batchesFrom (2 ^ k) (2 ^ (6 + k) * q) =
      (List.range' q (2 ^ (34 - k) - q)).map fun q => 2 ^ (6 + k) * q := by
  have hpos : 0 < 2 ^ (6 + k) := Nat.two_pow_pos _
  have hsize : (2 : Nat) ^ k ≠ 0 := (Nat.two_pow_pos k).ne'
  have htotal : (2 : Nat) ^ 40 = 2 ^ (6 + k) * 2 ^ (34 - k) := by
    rw [← Nat.pow_add]
    congr 1
    omega
  have hbits : simdBits (2 ^ k) = 2 ^ (6 + k) := (Nat.pow_add 2 6 k).symm
  induction h : 2 ^ (34 - k) - q generalizing q with
  | zero =>
    have hqe : q = 2 ^ (34 - k) := by omega
    rw [batchesFrom, if_neg hsize, hqe, htotal, if_neg (Nat.lt_irrefl _)]
    rfl
  | succ d ih =>
    have hlt : 2 ^ (6 + k) * q < 2 ^ 40 := by
      rw [htotal]
      exact Nat.mul_lt_mul_of_pos_left (by omega) hpos
    rw [batchesFrom, if_neg hsize, if_pos hlt, hbits, ← Nat.mul_succ, ih (by omega) (by omega)]
    rfl

theorem batchesFrom_zero {k : Nat} (hk : k ≤ 34) :
    batchesFrom (2 ^ k) 0 = (List.range (2 ^ (34 - k))).map fun q => 2 ^ (6 + k) * q := by
  have h := batchesFrom_eq hk (Nat.zero_le (2 ^ (34 - k)))
  rw [Nat.mul_zero, Nat.sub_zero] at h
  rw [h, List.range_eq_range']

def batchOf (k guess : Nat) : Nat := 2 ^ (6 + k) * (guess / 2 ^ (6 + k))

theorem dvd_batchOf (k guess : Nat) : 2 ^ (6 + k) ∣ batchOf k guess := Nat.dvd_mul_right _ _

theorem batchOf_le (k guess : Nat) : batchOf k guess ≤ guess := Nat.mul_div_le _ _

theorem lt_batchOf_add (k guess : Nat) : guess < batchOf k guess + 2 ^ (6 + k) := by
  have hmod := Nat.div_add_mod guess (2 ^ (6 + k))
  have hlt := Nat.mod_lt guess (Nat.two_pow_pos (6 + k))
  rw [batchOf]
  omega

theorem batchOf_mem {k guess : Nat} (hk : k ≤ 34) (h : guess < 2 ^ 40) :
    batchOf k guess ∈ batchesFrom (2 ^ k) 0 := by
  have htotal : (2 : Nat) ^ 40 = 2 ^ (6 + k) * 2 ^ (34 - k) := by
    rw [← Nat.pow_add]
    congr 1
    omega
  rw [batchesFrom_zero hk]
  refine List.mem_map_of_mem (List.mem_range.mpr (Nat.div_lt_of_lt_mul ?_))
  rw [← htotal]
  exact h

theorem kernelName_eq {k : Nat} (hk : k ≤ 24) (nextlong1 nextlong2 : BitVec 64) :
    kernelName (2 ^ k) nextlong1 nextlong2 =
      some ((List.range (2 ^ 40)).flatMap (scalarReport nextlong1 nextlong2) : Multiset Update) := by
  have htotal : (2 : Nat) ^ 40 = 2 ^ (6 + k) * 2 ^ (34 - k) := by
    rw [← Nat.pow_add]
    congr 1
    omega
  have hbatch : ∀ i ∈ batchesFrom (2 ^ k) 0,
      searchBatch (2 ^ k) nextlong1 nextlong2 (BitVec.ofNat 64 i) =
        some ((List.range (2 ^ (6 + k))).flatMap fun j =>
          scalarReport nextlong1 nextlong2 (i + j)) := by
    intro i hi
    rw [batchesFrom_zero (by omega)] at hi
    obtain ⟨q, -, rfl⟩ := List.mem_map.mp hi
    rw [searchBatch_eq (Nat.dvd_mul_right _ q) nextlong1 nextlong2 hk, Nat.pow_add]
  rw [kernelName, mapM_eq_some hbatch, batchesFrom_zero (by omega), Option.bind_eq_bind,
    Option.bind_some, List.map_map, ← List.flatMap_def, htotal, ← flatMap_range_mul]
  rfl

theorem crackFP_eq (cpu : Cpu) (nextlong1 nextlong2 : BitVec 64) :
    crackFP cpu nextlong1 nextlong2 =
      some ((List.range (2 ^ 40)).flatMap (scalarReport nextlong1 nextlong2) : Multiset Update) := by
  unfold crackFP
  split
  · exact kernelName_eq (k := 3) (by decide) nextlong1 nextlong2
  · split
    · exact kernelName_eq (k := 2) (by decide) nextlong1 nextlong2
    · exact kernelName_eq (k := 1) (by decide) nextlong1 nextlong2

theorem kernelName_eq_none {k : Nat} (hk : 25 ≤ k) (hk' : k ≤ 34) {s : State}
    {nextlong1 nextlong2 : BitVec 64} (h : s.outputs = (nextlong1, nextlong2)) :
    kernelName (2 ^ k) nextlong1 nextlong2 = none := by
  have hout : (scalarState nextlong1 nextlong2 (trueGuess s)).outputs = (nextlong1, nextlong2) := by
    rw [scalarState_trueGuess h, h]
  have hbatch := searchBatch_eq_none (dvd_batchOf k (trueGuess s)) nextlong1 nextlong2 hk
    (batchOf_le k (trueGuess s)) (lt_batchOf_add k (trueGuess s)) hout
  rw [kernelName, mapM_eq_none (batchOf_mem hk' (trueGuess_lt s)) hbatch]
  rfl

end SeedCracking.Kernel
