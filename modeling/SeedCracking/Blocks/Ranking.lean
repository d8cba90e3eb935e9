import SeedCracking.Blocks.Levels
import SeedCracking.Sorting.Stable

/-! Which states the beam search loses. -/

namespace SeedCracking.Blocks

open Sorting Words

variable {n : Nat}

theorem half_field (hn : n ≤ 20) (X : BitVec 64) :
    ((X >>> (47 - (n + 1))) &&& itermask (n + 1)) >>> 1 = (X >>> (47 - n)) &&& itermask n := by
  apply eq_of_forall_bit
  intro j
  rw [BitVec.getLsbD_ushiftRight, field_bit (by omega), field_bit (by omega),
    show 47 - (n + 1) + (1 + j.val) = 47 - n + j by omega]
  congr 1
  exact decide_eq_decide.mpr (by omega)

theorem half_prefixOf (hn : n ≤ 20) (A B : BitVec 64) :
    ((prefixOf (n + 1) A B).1 >>> 1, (prefixOf (n + 1) A B).2.1 >>> 1,
      (prefixOf (n + 1) A B).2.2 >>> 1) = prefixOf n A B := by
  refine Prod.ext ?_ (Prod.ext (half_field hn A) (half_field hn B))
  apply eq_of_forall_bit
  intro j
  have hj := j.isLt
  rw [BitVec.getLsbD_ushiftRight, prefixOf_w1_bit (by omega) A B hj]
  by_cases hlast : j.val = 63
  · rw [BitVec.getLsbD_of_ge _ (1 + j.val) (by omega), BitVec.getLsbD_of_ge A _ (by omega),
      Bool.and_false]
  · rw [prefixOf_w1_bit (by omega) A B (by omega),
      show 1 + j.val + 64 - (n + 1) = j + 64 - n by omega]
    congr 1
    exact decide_eq_decide.mpr (by omega)

theorem prefixOf_w1_even (h17 : 17 ≤ n) (hn : n ≤ 20) (A B : BitVec 64) :
    (prefixOf (n + 1) A B).1.toNat % 2 = 0 := by
  have hbit := prefixOf_w1_bit (n := n + 1) (by omega) A B (j := 0) (by decide)
  rw [decide_eq_false (by omega), Bool.false_and, ← BitVec.testBit_toNat, Nat.testBit_zero,
    decide_eq_false_iff_not] at hbit
  omega

section Preceding

variable (mode : Nat) (xvs : List Observation)

def prefixEntry (n : Nat) (A B : BitVec 64) : BeamEntry :=
  scored mode xvs ⟨n, (prefixOf n A B).1, (prefixOf n A B).2.1, (prefixOf n A B).2.2, 0⟩

/-- How many generated entries come before an entry in the order of score and position. -/
def preceding (entries : List BeamEntry) (e : BeamEntry) : Nat :=
  entries.zipIdx.countP fun b =>
    b.1.score < e.score ∨ b.1.score = e.score ∧ b.2 < entries.idxOf e

variable {mode xvs}

theorem eq_prefixEntry {e : BeamEntry} {A B : BitVec 64} (hn : n ≤ 20)
    (he : e ∈ generated mode xvs n) (h : e.fields = prefixOf (n + 1) A B) :
    e = prefixEntry mode xvs (n + 1) A B := by
  have hnbits := (generated_shape hn e he).nbits
  obtain ⟨⟨nbits, w1, w2, w3, score⟩, -, rfl⟩ := List.mem_map.mp he
  obtain rfl : nbits = n + 1 := hnbits
  rw [prefixEntry, ← h]
  rfl

theorem mem_level_succ (hn : n ≤ 20) {e : BeamEntry} : e ∈ level mode xvs (n + 1) ↔
    e ∈ generated mode xvs n ∧ preceding (generated mode xvs n) e < keep := by
  have hnodup : (generated mode xvs n).Nodup :=
    (generated_nodup hn (level_nodup (by omega))).of_map
  have hcount : ∀ i, (generated mode xvs n)[i]? = some e →
      (generated mode xvs n).zipIdx.countP
        (before (fun a b : BeamEntry => decide (a.score ≤ b.score)) · (e, i)) =
      preceding (generated mode xvs n) e := by
    intro i hi
    obtain ⟨hlt, rfl⟩ := List.getElem?_eq_some_iff.mp hi
    rw [preceding, hnodup.idxOf_getElem]
    apply List.countP_congr
    intro b _
    simp only [before, Bool.and_eq_true, Bool.or_eq_true, Bool.not_eq_true', decide_eq_true_eq,
      decide_eq_false_iff_not]
    omega
  have hsort := mem_take_mergeSort (fun a b : BeamEntry => decide (a.score ≤ b.score))
    (by simp only [decide_eq_true_eq]; omega)
    (by simp only [Bool.or_eq_true, decide_eq_true_eq]; omega) (generated mode xvs n) keep e
  refine hsort.trans ⟨?_, ?_⟩
  · rintro ⟨i, hi, hlt⟩
    exact ⟨List.mem_of_getElem? hi, hcount i hi ▸ hlt⟩
  · rintro ⟨he, hlt⟩
    obtain ⟨i, hi⟩ := List.getElem?_of_mem he
    exact ⟨i, hi, (hcount i hi).symm ▸ hlt⟩

/-- One round loses a prefix only by ranking. -/
theorem prefix_level_succ (hn : n ≤ 20) (A B : BitVec 64) :
    (∃ e ∈ level mode xvs (n + 1), e.fields = prefixOf (n + 1) A B) ↔
      (∃ e ∈ level mode xvs n, e.fields = prefixOf n A B) ∧
        preceding (generated mode xvs n) (prefixEntry mode xvs (n + 1) A B) < keep := by
  have hshape : ∀ e ∈ level mode xvs n, e.Shape n := level_shape (by omega)
  constructor
  · rintro ⟨e, he, hfields⟩
    rw [mem_level_succ hn] at he
    obtain rfl := eq_prefixEntry hn he.1 hfields
    refine ⟨?_, he.2⟩
    obtain ⟨e₁, he₁, hscored⟩ := List.mem_map.mp he.1
    obtain ⟨e₀, he₀, he₁⟩ := List.mem_flatMap.mp he₁
    have hfields₁ : e₁.fields = prefixOf (n + 1) A B := by
      rw [← hfields, ← hscored]
      rfl
    have hhalf := ((mem_next_fields hn (hshape e₀ he₀) _).mp ⟨e₁, he₁, hfields₁⟩).1
    rw [half_prefixOf hn] at hhalf
    exact ⟨e₀, he₀, hhalf.symm⟩
  · rintro ⟨⟨e₀, he₀, hfields⟩, hlt⟩
    obtain ⟨e₁, he₁, hfields₁⟩ := (mem_next_fields hn (hshape e₀ he₀) (prefixOf (n + 1) A B)).mpr
      ⟨(half_prefixOf hn A B).trans hfields.symm, fun h17 => prefixOf_w1_even h17 hn A B⟩
    have hmem : scored mode xvs e₁ ∈ generated mode xvs n :=
      List.mem_map_of_mem (List.mem_flatMap.mpr ⟨e₀, he₀, he₁⟩)
    have heq := eq_prefixEntry hn hmem hfields₁
    refine ⟨scored mode xvs e₁, (mem_level_succ hn).mpr ⟨hmem, ?_⟩, hfields₁⟩
    rw [heq]
    exact hlt

theorem prefix_level (hn : n ≤ 21) (A B : BitVec 64) :
    (∃ e ∈ level mode xvs n, e.fields = prefixOf n A B) ↔
      ∀ k < n, preceding (generated mode xvs k) (prefixEntry mode xvs (k + 1) A B) < keep := by
  induction n with
  | zero =>
    refine iff_of_true ⟨_, List.mem_singleton_self _, ?_⟩ (by simp)
    simp [BeamEntry.fields, prefixOf, itermask, BitVec.ushiftRight_eq_zero]
  | succ n ih =>
    rw [prefix_level_succ (by omega), ih (by omega), Nat.forall_lt_succ_right]

/-- A state agrees with a returned candidate exactly when no round has ranked its prefix out,
wherever the loop has left. -/
theorem agrees_iff_preceding {xvs : List Observation} (hxvs : xvs ≠ []) (mode : Nat)
    (A B : BitVec 64) :
    ∃ mask candidates, solve xvs mode = some (mask :: candidates) ∧
      ((∃ x ∈ candidates, AgreesOn mask x (push A B)) ↔
        ∀ k < (beam mode xvs).1,
          preceding (generated mode xvs k) (prefixEntry mode xvs (k + 1) A B) < keep) := by
  obtain ⟨-, hle, -⟩ := beam_shape mode xvs
  refine ⟨_, _, solve_eq hxvs mode, ?_⟩
  rw [← prefix_level hle, ← beam_level]
  exact exists_agreesOn_iff mode xvs A B

theorem agrees_iff_preceding_one : ∃ mask candidates,
    solve [⟨0, 1 / 2, true⟩] 1 = some (mask :: candidates) ∧
      ((∃ x ∈ candidates, AgreesOn mask x (push 0 0)) ↔ ∀ k < (beam 1 [⟨0, 1 / 2, true⟩]).1,
        preceding (generated 1 [⟨0, 1 / 2, true⟩] k)
          (prefixEntry 1 [⟨0, 1 / 2, true⟩] (k + 1) 0 0) < keep) :=
  agrees_iff_preceding (List.cons_ne_nil _ _) 1 0 0

end Preceding

end SeedCracking.Blocks
