import SeedCracking.Kernel.Correctness
import SeedCracking.Threads.Interleaving

/-! The loop over the batches, shared among threads. -/

namespace SeedCracking.Kernel

open SeedCracking.Lists Threads Xoroshiro

variable {τ : Type} [Fintype τ] [DecidableEq τ]

/-- A run of the loop: every batch is searched by one thread, a thread sends what its batches
send, one batch after the other, and the threads interleave. -/
structure ParallelRun (τ : Type) [Fintype τ] [DecidableEq τ] (size : Nat)
    (nextlong1 nextlong2 : BitVec 64) where
  batches : τ → List Nat
  calls : List (τ × Update)
  shared : ∑ t, (batches t : Multiset Nat) = batchesFrom size 0
  sends : ∀ t, ((batches t).mapM fun i =>
    searchBatch size nextlong1 nextlong2 (BitVec.ofNat 64 i)).map List.flatten =
      some (ofThread t calls)

section Reports

variable (k : Nat) (nextlong1 nextlong2 : BitVec 64)

def batchReport (i : Nat) : List Update :=
  (List.range (2 ^ (6 + k))).flatMap fun j => scalarReport nextlong1 nextlong2 (i + j)

theorem head?_scalarReport {guess : Nat} {u : Update}
    (h : (scalarReport nextlong1 nextlong2 guess).head? = some u) :
    ∃ lo hi guess, u = foundCandidate lo hi guess := by
  rw [scalarReport_eq] at h
  simp only at h
  split at h
  case isTrue => exact ⟨_, _, _, (Option.some.inj h).symm⟩
  case isFalse => cases h

theorem mem_scalarReport {guess : Nat} {u : Update} (h : u ∈ scalarReport nextlong1 nextlong2 guess) :
    (∃ lo hi guess, u = foundCandidate lo hi guess) ∨ ∃ w, u = foundWorldSeed w := by
  rw [scalarReport_eq] at h
  simp only at h
  split at h
  case isTrue =>
    rcases List.mem_cons.mp h with rfl | h
    · exact .inl ⟨_, _, _, rfl⟩
    · split at h
      case isTrue => exact .inr ⟨_, List.mem_singleton.mp h⟩
      case isFalse => cases h
  case isFalse => cases h

theorem head?_flatMap {α β : Type} {p : β → Prop} {f : α → List β} {l : List α}
    (hf : ∀ a b, (f a).head? = some b → p b) {b : β} (h : (l.flatMap f).head? = some b) : p b := by
  induction l with
  | nil => cases h
  | cons a l ih =>
    rw [List.flatMap_cons, List.head?_append] at h
    cases ha : (f a).head? with
    | some b' =>
      rw [ha, Option.some_or] at h
      exact hf a b (ha.trans h)
    | none =>
      rw [ha, Option.none_or] at h
      exact ih h

end Reports

theorem worldSeed?_eq_some {u : Update} {w : BitVec 64} :
    worldSeed? u = some w ↔ u = foundWorldSeed w := by
  constructor
  · intro h
    rw [worldSeed?] at h
    split at h
    case h_1 =>
      split at h
      case isTrue hu => exact Option.some.inj h ▸ hu
      case isFalse => cases h
    case h_2 => cases h
  · rintro rfl
    exact worldSeed?_foundWorldSeed w

theorem foundWorldSeed_ne_foundCandidate {w lo hi guess : BitVec 64} :
    foundWorldSeed w ≠ foundCandidate lo hi guess := by
  simp [foundWorldSeed, foundCandidate]

section Runs

variable {k : Nat} (hk : k ≤ 24) {nextlong1 nextlong2 : BitVec 64}

include hk

theorem searchBatch_batch {i : Nat} (hi : i ∈ batchesFrom (2 ^ k) 0) :
    searchBatch (2 ^ k) nextlong1 nextlong2 (BitVec.ofNat 64 i) =
      some (batchReport k nextlong1 nextlong2 i) := by
  rw [batchesFrom_zero (by omega)] at hi
  obtain ⟨q, -, rfl⟩ := List.mem_map.mp hi
  rw [searchBatch_eq (Nat.dvd_mul_right _ q) nextlong1 nextlong2 hk, batchReport, Nat.pow_add]

variable (r : ParallelRun τ (2 ^ k) nextlong1 nextlong2)

omit hk in
theorem ParallelRun.mem_batchesFrom {t : τ} {i : Nat} (hi : i ∈ r.batches t) :
    i ∈ batchesFrom (2 ^ k) 0 := by
  have hle : (r.batches t : Multiset Nat) ≤ ∑ t, (r.batches t : Multiset Nat) :=
    Finset.single_le_sum (fun _ _ => Multiset.zero_le _) (Finset.mem_univ t)
  rw [r.shared] at hle
  exact Multiset.mem_coe.mp (Multiset.mem_of_le hle (Multiset.mem_coe.mpr hi))

theorem ParallelRun.ofThread_calls (t : τ) :
    ofThread t r.calls = (r.batches t).flatMap (batchReport k nextlong1 nextlong2) := by
  have hsends := r.sends t
  rw [mapM_eq_some fun i hi => searchBatch_batch hk (r.mem_batchesFrom hi), Option.map_some] at hsends
  rw [← Option.some.inj hsends, List.flatMap_def]

theorem ParallelRun.mem_calls {c : τ × Update} (h : c ∈ r.calls) :
    (∃ lo hi guess, c.2 = foundCandidate lo hi guess) ∨ ∃ w, c.2 = foundWorldSeed w := by
  obtain ⟨t, u⟩ := c
  rw [← mem_ofThread, r.ofThread_calls hk] at h
  obtain ⟨i, -, hu⟩ := List.mem_flatMap.mp h
  obtain ⟨j, -, hu⟩ := List.mem_flatMap.mp hu
  exact mem_scalarReport nextlong1 nextlong2 hu

theorem ParallelRun.head?_ofThread {t : τ} {u : Update}
    (h : (ofThread t r.calls).head? = some u) : ∃ lo hi guess, u = foundCandidate lo hi guess := by
  rw [r.ofThread_calls hk] at h
  refine head?_flatMap (p := fun u => ∃ lo hi guess, u = foundCandidate lo hi guess)
    (fun i u hu => ?_) h
  exact head?_flatMap (fun j u hu => head?_scalarReport nextlong1 nextlong2 hu) hu

theorem ParallelRun.sent : kernelName (2 ^ k) nextlong1 nextlong2 =
    some (r.calls.map Prod.snd : Multiset Update) := by
  have hsum := sum_flatMap Finset.univ r.batches r.shared (batchReport k nextlong1 nextlong2)
  simp only [← r.ofThread_calls hk, sum_ofThread] at hsum
  rw [kernelName, mapM_eq_some fun i hi => searchBatch_batch hk hi, hsum, List.flatMap_def]
  rfl

theorem ParallelRun.mem_calls_foundWorldSeed (w : BitVec 64) :
    foundWorldSeed w ∈ r.calls.map Prod.snd ↔
      (ofWorldSeed w).outputs = (nextlong1, nextlong2) := by
  have hsent := r.sent hk
  rw [kernelName_eq hk] at hsent
  rw [← Multiset.mem_coe, ← Option.some.inj hsent, Multiset.mem_coe, ← mem_worldSeeds,
    List.mem_filterMap]
  simp only [worldSeed?_eq_some, exists_eq_right]

def sequentialRun (nextlong1 nextlong2 : BitVec 64) :
    ParallelRun Unit (2 ^ k) nextlong1 nextlong2 where
  batches _ := batchesFrom (2 ^ k) 0
  calls := ((batchesFrom (2 ^ k) 0).flatMap (batchReport k nextlong1 nextlong2)).map ((), ·)
  shared := by simp
  sends t := by
    rw [mapM_eq_some fun i hi => searchBatch_batch hk hi, Option.map_some, ← List.flatMap_def]
    simp [ofThread, List.filter_map]

def ParallelRun.alone (t : τ) (nextlong1 nextlong2 : BitVec 64) :
    ParallelRun τ (2 ^ k) nextlong1 nextlong2 where
  batches t' := if t' = t then batchesFrom (2 ^ k) 0 else []
  calls := ((batchesFrom (2 ^ k) 0).flatMap (batchReport k nextlong1 nextlong2)).map (t, ·)
  shared := by
    have hterm : ∀ t', ((if t' = t then batchesFrom (2 ^ k) 0 else [] : List Nat) :
        Multiset Nat) = if t' = t then (batchesFrom (2 ^ k) 0 : Multiset Nat) else 0 := by
      intro t'
      split <;> rfl
    simp [hterm]
  sends t' := by
    by_cases ht : t' = t
    · subst ht
      rw [if_pos rfl, mapM_eq_some fun i hi => searchBatch_batch hk hi, Option.map_some,
        ← List.flatMap_def]
      simp [ofThread, List.filter_map, Function.comp_def]
    · rw [if_neg ht]
      simp [ofThread, List.filter_map, Function.comp_def, Ne.symm ht]

end Runs

end SeedCracking.Kernel
