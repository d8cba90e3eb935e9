import SeedCracking.Kernel.Search

/-! What a run of the search reports, as sets of generator states and of world seeds. -/

namespace SeedCracking.Kernel

open StraightLine Words Xoroshiro

def candidate? (u : Update) : Option (BitVec 64 × BitVec 64 × BitVec 64) :=
  match u.args with
  | [lo, hi, guess] => if u = foundCandidate lo hi guess then some (lo, hi, guess) else none
  | _ => none

def worldSeed? (u : Update) : Option (BitVec 64) :=
  match u.args with
  | [w] => if u = foundWorldSeed w then some w else none
  | _ => none

@[simp] theorem candidate?_foundCandidate (lo hi guess : BitVec 64) :
    candidate? (foundCandidate lo hi guess) = some (lo, hi, guess) := by
  simp [candidate?, foundCandidate]

@[simp] theorem candidate?_foundWorldSeed (w : BitVec 64) :
    candidate? (foundWorldSeed w) = none := rfl

@[simp] theorem worldSeed?_foundCandidate (lo hi guess : BitVec 64) :
    worldSeed? (foundCandidate lo hi guess) = none := rfl

@[simp] theorem worldSeed?_foundWorldSeed (w : BitVec 64) :
    worldSeed? (foundWorldSeed w) = some w := by
  simp [worldSeed?, foundWorldSeed]

/-- The plain search: every guess on its own, reported when both outputs agree. -/
def scalarSearch (nextlong1 nextlong2 : BitVec 64) : List (BitVec 64 × BitVec 64 × BitVec 64) :=
  (List.range (2 ^ 40)).filterMap fun guess =>
    let s := scalarState nextlong1 nextlong2 guess
    if s.outputs = (nextlong1, nextlong2) then some (s.lo, s.hi, BitVec.ofNat 64 guess) else none

section Reports

variable (nextlong1 nextlong2 : BitVec 64)

theorem scalarReport_candidates (guess : Nat) :
    (scalarReport nextlong1 nextlong2 guess).filterMap candidate? =
      let s := scalarState nextlong1 nextlong2 guess
      (if s.outputs = (nextlong1, nextlong2) then
        some (s.lo, s.hi, BitVec.ofNat 64 guess) else none).toList := by
  rw [scalarReport_eq]
  simp only
  split
  · split <;> simp
  · rfl

theorem candidates_eq_scalarSearch :
    ((List.range (2 ^ 40)).flatMap (scalarReport nextlong1 nextlong2)).filterMap candidate? =
      scalarSearch nextlong1 nextlong2 := by
  rw [List.filterMap_flatMap]
  simp only [scalarReport_candidates]
  rw [scalarSearch, List.filterMap_eq_flatMap_toList]

theorem mem_scalarSearch (lo hi : BitVec 64) :
    (∃ guess, (lo, hi, guess) ∈ scalarSearch nextlong1 nextlong2) ↔
      (State.mk lo hi).outputs = (nextlong1, nextlong2) := by
  constructor
  · rintro ⟨guess, h⟩
    obtain ⟨g, -, hg⟩ := List.mem_filterMap.mp h
    generalize scalarState nextlong1 nextlong2 g = s at hg
    simp only at hg
    split at hg
    case isTrue hout =>
      cases hg
      exact hout
    case isFalse => cases hg
  · intro h
    refine ⟨BitVec.ofNat 64 (trueGuess ⟨lo, hi⟩), List.mem_filterMap.mpr ⟨trueGuess ⟨lo, hi⟩, ?_, ?_⟩⟩
    · exact List.mem_range.mpr (trueGuess_lt _)
    · simp only [scalarState_trueGuess h]
      exact if_pos h

theorem mem_worldSeeds (w : BitVec 64) :
    w ∈ ((List.range (2 ^ 40)).flatMap (scalarReport nextlong1 nextlong2)).filterMap worldSeed? ↔
      (ofWorldSeed w).outputs = (nextlong1, nextlong2) := by
  have hreport : ∀ guess, w ∈ (scalarReport nextlong1 nextlong2 guess).filterMap worldSeed? ↔
      (scalarState nextlong1 nextlong2 guess).outputs = (nextlong1, nextlong2) ∧
        ofWorldSeed w = scalarState nextlong1 nextlong2 guess := by
    intro guess
    rw [ofWorldSeed_eq_iff, scalarReport_eq]
    simp only
    split
    · split <;> simp_all [eq_comm]
    · simp_all
  simp only [List.filterMap_flatMap, List.mem_flatMap, hreport]
  constructor
  · rintro ⟨guess, -, hout, hw⟩
    rw [hw, hout]
  · intro h
    refine ⟨trueGuess (ofWorldSeed w), List.mem_range.mpr (trueGuess_lt _), ?_, ?_⟩
    · rw [scalarState_trueGuess h, h]
    · rw [scalarState_trueGuess h]

end Reports

theorem trueGuess_testBit (s : State) {n : Nat} {a : Assign Plane} (h : guessed[n]? = some a) :
    (trueGuess s).testBit n = stateBit s a.target := by
  have hn : n < 40 := (List.getElem?_eq_some_iff.mp h).1
  rw [trueGuess, Nat.testBit_ofBits_lt _ _ hn]
  simp only [h, Option.map_some, Option.getD_some]

section Batch

variable {s : State} {nextlong1 nextlong2 : BitVec 64} (h : s.outputs = (nextlong1, nextlong2))
  (k : Nat)

def trueLane (s : State) (k : Nat) : Fin (64 * 2 ^ k) :=
  ⟨trueGuess s - batchOf k (trueGuess s), by
    have hlt := lt_batchOf_add k (trueGuess s)
    rw [Nat.pow_add] at hlt
    exact Nat.sub_lt_left_of_lt_add (batchOf_le k (trueGuess s)) hlt⟩

theorem batchOf_add_trueLane (s : State) :
    batchOf k (trueGuess s) + (trueLane s k).val = trueGuess s :=
  Nat.add_sub_of_le (batchOf_le k (trueGuess s))

include h

theorem bruteKernel_trueGuess :
    bruteKernel (2 ^ k) nextlong1 nextlong2 false (BitVec.ofNat 64 (batchOf k (trueGuess s))) =
      some (true, []) := by
  have hlane : scalarState nextlong1 nextlong2 (batchOf k (trueGuess s) + (trueLane s k).val) = s := by
    rw [batchOf_add_trueLane, scalarState_trueGuess h]
  have hout := Prod.mk.inj h
  refine (bruteKernel_eq (dvd_batchOf k (trueGuess s)) nextlong1 nextlong2 false).2 ⟨?_, ?_⟩
  · exact ⟨trueLane s k, by rw [hlane, hout.1]⟩
  · exact ⟨trueLane s k, by rw [hlane, hout.2]⟩

end Batch

section Results

variable {k : Nat} (hk : k ≤ 24) (nextlong1 nextlong2 : BitVec 64)

include hk

/-- The announced world seeds are those whose generator starts with the two outputs. -/
theorem kernelName_worldSeeds :
    ∃ r, kernelName (2 ^ k) nextlong1 nextlong2 = some r ∧
      ∀ w, w ∈ r.filterMap worldSeed? ↔ (ofWorldSeed w).outputs = (nextlong1, nextlong2) := by
  refine ⟨_, kernelName_eq hk nextlong1 nextlong2, fun w => ?_⟩
  rw [Multiset.filterMap_coe, Multiset.mem_coe]
  exact mem_worldSeeds nextlong1 nextlong2 w

/-- The reported candidates are the preimages of the two outputs, and each preimage has its
true guess, whose batch passes both early returns. -/
theorem kernelName_candidates :
    (∃ r, kernelName (2 ^ k) nextlong1 nextlong2 = some r ∧
      ∀ lo hi, (∃ guess, (lo, hi, guess) ∈ r.filterMap candidate?) ↔
        (State.mk lo hi).outputs = (nextlong1, nextlong2)) ∧
    ∀ s : State, s.outputs = (nextlong1, nextlong2) → ∃ guess < 2 ^ 40,
      (∀ n a, guessed[n]? = some a → guess.testBit n = stateBit s a.target) ∧
      (∀ i, scalarPlanes nextlong1 nextlong2 guess (S1_lo i) = s.lo.getLsbD i) ∧
      (∀ i, scalarPlanes nextlong1 nextlong2 guess (S1_hi i) = s.hi.getLsbD i) ∧
      ∃ base ∈ batchesFrom (2 ^ k) 0, base ≤ guess ∧ guess < base + simdBits (2 ^ k) ∧
        bruteKernel (2 ^ k) nextlong1 nextlong2 false (BitVec.ofNat 64 base) = some (true, []) := by
  constructor
  · refine ⟨_, kernelName_eq hk nextlong1 nextlong2, fun lo hi => ?_⟩
    rw [Multiset.filterMap_coe, candidates_eq_scalarSearch]
    exact mem_scalarSearch nextlong1 nextlong2 lo hi
  · intro s h
    refine ⟨trueGuess s, trueGuess_lt s, fun n a hn => trueGuess_testBit s hn,
      fun i => scalarPlanes_trueGuess h (S1_lo i), fun i => scalarPlanes_trueGuess h (S1_hi i),
      batchOf k (trueGuess s), batchOf_mem (by omega) (trueGuess_lt s),
      batchOf_le k (trueGuess s), ?_, bruteKernel_trueGuess h k⟩
    rw [simdBits, ← show 2 ^ (6 + k) = 64 * 2 ^ k from Nat.pow_add 2 6 k]
    exact lt_batchOf_add k (trueGuess s)

/-- Every vector width the loop counters can serve does the search on single bits, lane by
lane and batch by batch, and so the three builds agree. -/
theorem kernelName_refines_scalarSearch :
    (kernelName (2 ^ k) nextlong1 nextlong2).map (Multiset.filterMap candidate?) =
      some (scalarSearch nextlong1 nextlong2 : Multiset _) ∧
    (∀ base, 2 ^ (6 + k) ∣ base →
      searchBatch (2 ^ k) nextlong1 nextlong2 (BitVec.ofNat 64 base) =
        some ((List.range (64 * 2 ^ k)).flatMap fun j =>
          scalarReport nextlong1 nextlong2 (base + j)) ∧
      ∀ j : Fin (64 * 2 ^ k),
        (∀ i : Fin 64, (guessPlane (BitVec.ofNat 64 base) i : Simd (2 ^ k)).bit j =
          (base + j.val).testBit i) ∧
        let m : Plane → Simd (2 ^ k) := planes nextlong1 nextlong2 (BitVec.ofNat 64 base)
        laneWord (fun i => m (S1_lo i)) j = (scalarState nextlong1 nextlong2 (base + j)).lo ∧
          laneWord (fun i => m (S1_hi i)) j = (scalarState nextlong1 nextlong2 (base + j)).hi) ∧
    ∀ cpu, crackFP cpu nextlong1 nextlong2 = kernelName (2 ^ k) nextlong1 nextlong2 := by
  refine ⟨?_, fun base hbase => ⟨searchBatch_eq hbase nextlong1 nextlong2 hk, fun j =>
    ⟨guessPlane_bit j hbase, laneWords_eq hbase nextlong1 nextlong2 j⟩⟩, fun cpu => ?_⟩
  · rw [kernelName_eq hk, Option.map_some, Multiset.filterMap_coe, candidates_eq_scalarSearch]
  · rw [crackFP_eq, kernelName_eq hk]

end Results

theorem kernelName_worldSeeds_baseline :
    ∃ r, kernelName (2 ^ 1) 0 0 = some r ∧
      ∀ w, w ∈ r.filterMap worldSeed? ↔ (ofWorldSeed w).outputs = (0, 0) :=
  kernelName_worldSeeds (by decide) 0 0

theorem kernelName_candidates_baseline :
    (∃ r, kernelName (2 ^ 1) 0 0 = some r ∧
      ∀ lo hi, (∃ guess, (lo, hi, guess) ∈ r.filterMap candidate?) ↔
        (State.mk lo hi).outputs = (0, 0)) ∧
    ∃ guess < 2 ^ 40,
      (∀ n a, guessed[n]? = some a → guess.testBit n = stateBit ⟨0, 0⟩ a.target) ∧
      (∀ i, scalarPlanes 0 0 guess (S1_lo i) = (0#64).getLsbD i) ∧
      (∀ i, scalarPlanes 0 0 guess (S1_hi i) = (0#64).getLsbD i) ∧
      ∃ base ∈ batchesFrom (2 ^ 1) 0, base ≤ guess ∧ guess < base + simdBits (2 ^ 1) ∧
        bruteKernel (2 ^ 1) 0 0 false (BitVec.ofNat 64 base) = some (true, []) :=
  have h := kernelName_candidates (k := 1) (by decide) 0 0
  ⟨h.1, h.2 ⟨0, 0⟩ (by decide)⟩

theorem kernelName_refines_scalarSearch_avx2 :
    (kernelName (2 ^ 2) 0 0).map (Multiset.filterMap candidate?) =
      some (scalarSearch 0 0 : Multiset _) :=
  (kernelName_refines_scalarSearch (by decide) 0 0).1

/-- With `2^31` lanes or more the `int` counter of the transposition overflows.  The true guess
of the state `(2^14, 0)` is `2^31`, and the batch that holds it has no report. -/
theorem kernelName_counter_overflow :
    (kernelName (2 ^ 25) 2147500032 9804336425292873728).map (Multiset.filterMap candidate?) ≠
        some (scalarSearch 2147500032 9804336425292873728 : Multiset _) ∧
      (kernelName (2 ^ 26) 2147500032 9804336425292873728).map (Multiset.filterMap candidate?) ≠
        some (scalarSearch 2147500032 9804336425292873728 : Multiset _) := by
  have h : (State.mk 0x4000 0).outputs = (2147500032, 9804336425292873728) := by decide
  constructor
  · rw [kernelName_eq_none (by decide) (by decide) h]
    exact Option.some_ne_none _ ∘ Eq.symm
  · rw [kernelName_eq_none (by decide) (by decide) h]
    exact Option.some_ne_none _ ∘ Eq.symm

end SeedCracking.Kernel
