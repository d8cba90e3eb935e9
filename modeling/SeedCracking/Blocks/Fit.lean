import SeedCracking.Blocks.Truncation
import Mathlib.Algebra.Order.BigOperators.Group.List

/-! When the beam search keeps a state that fits the observations. -/

namespace SeedCracking.Blocks

open SeedCracking.Lists Words Xoroshiro

def iterOf (mode : Nat) : Nat := if mode ≤ 3 then 0 else if mode = 4 then 1 else 2

def weight (mode : Nat) (o : Observation) : Int := if mode = 5 ∧ o.ret = true then 50 else 1

theorem weight_pos (mode : Nat) (o : Observation) : 0 < weight mode o := by
  rw [weight]
  split <;> decide

theorem fit_eq {mode : Nat} (hmode : mode ≤ 5) (xvs : List Observation) (lo hi : BitVec 64) :
    fit mode xvs lo hi = (xvs.map fun o => miss (iterOf mode) lo hi o * weight mode o).sum := by
  rw [fit, iterOf]
  by_cases h3 : mode ≤ 3
  · have h5 : mode ≠ 5 := by omega
    simp [h3, weight, h5]
  · by_cases h4 : mode = 4
    · simp [h4, weight]
    · obtain rfl : mode = 5 := by omega
      simp [weight]

theorem miss_cases (ITER : Nat) (lo hi : BitVec 64) (o : Observation) :
    miss ITER lo hi o = 0 ∨ miss ITER lo hi o = 1 := by
  rw [miss]
  split
  case isTrue => exact .inr rfl
  case isFalse => exact .inl rfl

theorem fit_eq_zero {mode : Nat} (hmode : mode ≤ 5) {xvs : List Observation} {lo hi : BitVec 64} :
    fit mode xvs lo hi = 0 ↔ ∀ o ∈ xvs, get (iterOf mode) lo hi o.xv o.p = o.ret := by
  have hterm : ∀ o, miss (iterOf mode) lo hi o * weight mode o = 0 ↔
      get (iterOf mode) lo hi o.xv o.p = o.ret := by
    intro o
    rw [Int.mul_eq_zero, or_iff_left (weight_pos mode o).ne', miss]
    simp
  have hnonneg : ∀ o, 0 ≤ miss (iterOf mode) lo hi o * weight mode o := by
    intro o
    have hweight := (weight_pos mode o).le
    rcases miss_cases (iterOf mode) lo hi o with h | h <;> simp [h, hweight]
  rw [fit_eq hmode]
  simp only [← hterm]
  constructor
  · intro hsum o ho
    refine List.all_zero_of_le_zero_le_of_sum_eq_zero ?_ hsum (List.mem_map_of_mem ho)
    simp only [List.mem_map]
    rintro _ ⟨o, -, rfl⟩
    exact hnonneg o
  · intro hzero
    rw [List.map_congr_left hzero]
    simp

theorem fit_bounds {mode : Nat} (hmode : mode ≤ 5) (xvs : List Observation) (lo hi : BitVec 64) :
    0 ≤ fit mode xvs lo hi ∧ fit mode xvs lo hi ≤ 50 * xvs.length := by
  have hterm : ∀ o, 0 ≤ miss (iterOf mode) lo hi o * weight mode o ∧
      miss (iterOf mode) lo hi o * weight mode o ≤ 50 := by
    intro o
    have hweight : 0 < weight mode o ∧ weight mode o ≤ 50 := by
      rw [weight]
      split <;> decide
    rcases miss_cases (iterOf mode) lo hi o with h | h
    · simp [h]
    · rw [h]
      omega
  rw [fit_eq hmode]
  induction xvs with
  | nil => simp
  | cons o xvs ih =>
    have hhead := hterm o
    simp only [List.map_cons, List.sum_cons, List.length_cons]
    omega

section Prefix

variable (mode : Nat) (xvs : List Observation) (n : Nat) (A B : BitVec 64)

def Close (ITER : Nat) (o : Observation) : Prop :=
  circDist (out ITER A B o.xv) 0 < 3 * 2 ^ (64 - n) ∨
    circDist (out ITER A B o.xv) (BitVec.ofInt 64 (⌈o.p * 2 ^ 24⌉ * 2 ^ 40)) < 3 * 2 ^ (64 - n)

instance (ITER : Nat) (o : Observation) : Decidable (Close n A B ITER o) :=
  inferInstanceAs (Decidable (_ ∨ _))

/-- What the observations that a prefix may get wrong cost. -/
def slack : Int :=
  (xvs.map fun o => if Close n A B (iterOf mode) o then weight mode o else 0).sum

variable {n} (hn : n ≤ 21)

include hn

theorem get_of_not_close {ITER : Nat} {o : Observation} (h : ¬ Close n A B ITER o) :
    get ITER (seedlo n A B) (seedhi n A B) o.xv o.p = get ITER A B o.xv o.p := by
  have hxor : ∀ {x y : BitVec 64} (z : BitVec 64) {i : Nat}, x.getLsbD i = y.getLsbD i →
      (x ^^^ z).getLsbD i = (y ^^^ z).getLsbD i := by
    intro x y z i h
    rw [BitVec.getLsbD_xor, BitVec.getLsbD_xor, h]
  have hclose : circDist (out ITER (seedlo n A B) (seedhi n A B) o.xv) (out ITER A B o.xv) <
      3 * 2 ^ (64 - n) :=
    circDist_output hn (fun i hi h47 => hxor _ (seedlo_bit_low A B hn hi h47))
      (fun i hi h47 => hxor _ (seedlo_bit_high A B hn hi h47))
      fun i hi h47 => hxor _ (seedhi_bit A B hn hi h47)
  by_contra hne
  refine h (circDist_threshold hclose ?_)
  rw [← get_iff_toNat_lt, ← get_iff_toNat_lt]
  exact fun hiff => hne (Bool.eq_iff_iff.mpr hiff)

theorem abs_miss_sub_le (o : Observation) :
    |miss (iterOf mode) (seedlo n A B) (seedhi n A B) o * weight mode o -
        miss (iterOf mode) A B o * weight mode o| ≤
      if Close n A B (iterOf mode) o then weight mode o else 0 := by
  split
  case isTrue =>
    have hweight := (weight_pos mode o).le
    rcases miss_cases (iterOf mode) (seedlo n A B) (seedhi n A B) o with h | h <;>
      rcases miss_cases (iterOf mode) A B o with h' | h' <;>
      simp [h, h', abs_of_nonneg hweight, hweight]
  case isFalse h =>
    rw [miss, miss, get_of_not_close A B hn h, sub_self, abs_zero]

theorem abs_fit_sub_le {mode : Nat} (hmode : mode ≤ 5) :
    |fit mode xvs (seedlo n A B) (seedhi n A B) - fit mode xvs A B| ≤ slack mode xvs n A B := by
  rw [fit_eq hmode, fit_eq hmode, slack]
  exact abs_sum_sub_sum_le fun o _ => abs_miss_sub_le mode A B hn o

end Prefix

theorem preceding_lt_countP {entries : List BeamEntry} {e : BeamEntry} (he : e ∈ entries) :
    preceding entries e < entries.countP fun b => b.score ≤ e.score := by
  have hmem : (e, entries.idxOf e) ∈ entries.zipIdx := by
    rw [List.mem_zipIdx_iff_getElem?]
    exact List.getElem?_idxOf he
  have hfst : (entries.countP fun b => b.score ≤ e.score) =
      entries.zipIdx.countP fun b => b.1.score ≤ e.score := by
    conv_lhs => rw [← List.zipIdx_map_fst 0 entries, List.countP_map]
    rfl
  rw [preceding, hfst]
  refine countP_lt_countP ?_ hmem (by simp) (by simp)
  simp only [decide_eq_true_eq]
  rintro b - (hlt | ⟨heq, -⟩)
  · exact hlt.le
  · exact heq.le

theorem prefixEntry_mem_generated {mode : Nat} {xvs : List Observation} {n : Nat} (hn : n ≤ 20)
    {A B : BitVec 64} (hkept : ∃ e ∈ level mode xvs n, e.fields = prefixOf n A B) :
    prefixEntry mode xvs (n + 1) A B ∈ generated mode xvs n := by
  obtain ⟨e₀, he₀, hfields⟩ := hkept
  have hshape : e₀.Shape n := level_shape (by omega) e₀ he₀
  obtain ⟨e₁, he₁, hfields₁⟩ := (mem_next_fields hn hshape (prefixOf (n + 1) A B)).mpr
    ⟨(half_prefixOf hn A B).trans hfields.symm, fun h17 => prefixOf_w1_even h17 hn A B⟩
  have hmem : scored mode xvs e₁ ∈ generated mode xvs n :=
    List.mem_map_of_mem (List.mem_flatMap.mpr ⟨e₀, he₀, he₁⟩)
  rw [← eq_prefixEntry hn hmem hfields₁]
  exact hmem

theorem level_zeros {mode : Nat} (hmode : mode ≤ 5) {xvs : List Observation}
    (hfit : fit mode xvs 0 0 = 0) (n : Nat) :
    ∃ rest, level mode xvs n = ⟨n, 0, 0, 0, 0⟩ :: rest := by
  induction n with
  | zero => exact ⟨[], rfl⟩
  | succ n ih =>
    obtain ⟨rest, hrest⟩ := ih
    have hnext : ∃ t, (⟨n, 0, 0, 0, 0⟩ : BeamEntry).next = ⟨n + 1, 0, 0, 0, 0⟩ :: t := by
      rw [BeamEntry.next]
      split <;> exact ⟨_, rfl⟩
    have hscored : scored mode xvs ⟨n + 1, 0, 0, 0, 0⟩ = ⟨n + 1, 0, 0, 0, 0⟩ := by
      simpa [scored] using hfit
    obtain ⟨t, ht⟩ := hnext
    obtain ⟨l₁, l₂, hsort, -, hbefore⟩ := @List.mergeSort_cons _
      (fun a b : BeamEntry => decide (a.score ≤ b.score))
      (by simp only [decide_eq_true_eq]; omega)
      (by simp only [Bool.or_eq_true, decide_eq_true_eq]; omega) ⟨n + 1, 0, 0, 0, 0⟩
      ((t ++ rest.flatMap BeamEntry.next).map (scored mode xvs))
    have hgenerated : generated mode xvs n =
        ⟨n + 1, 0, 0, 0, 0⟩ :: (t ++ rest.flatMap BeamEntry.next).map (scored mode xvs) := by
      rw [generated, hrest, List.flatMap_cons, ht, List.cons_append, List.map_cons, hscored]
    -- nothing has a score below zero
    obtain rfl : l₁ = [] := by
      refine List.eq_nil_iff_forall_not_mem.mpr fun b hb => ?_
      have hmem : b ∈ generated mode xvs n := by
        rw [hgenerated, ← List.mem_mergeSort, hsort]
        exact List.mem_append_left _ hb
      obtain ⟨e, -, rfl⟩ := List.mem_map.mp hmem
      have hscore : 0 ≤ (scored mode xvs e).score := (fit_bounds hmode xvs _ _).1
      have hlt := hbefore _ hb
      simp only [Bool.not_eq_true', decide_eq_false_iff_not] at hlt
      exact hlt hscore
    refine ⟨l₂.take (keep - 1), ?_⟩
    rw [level, beamRound, ← generated, hgenerated, hsort]
    rfl

/-- Round `n` loses the prefix of a state: it was kept until then, and is not kept after it. -/
def Lost (mode : Nat) (xvs : List Observation) (A B : BitVec 64) (n : Nat) : Prop :=
  (∃ e ∈ level mode xvs n, e.fields = prefixOf n A B) ∧
    ¬ ∃ e ∈ level mode xvs (n + 1), e.fields = prefixOf (n + 1) A B

section Lost

variable {mode : Nat} (xvs : List Observation) (A B : BitVec 64)

theorem prefix_not_kept_iff {n : Nat} (hn : n ≤ 21) :
    (¬ ∃ e ∈ level mode xvs n, e.fields = prefixOf n A B) ↔ ∃ k < n, Lost mode xvs A B k := by
  constructor
  · intro hnot
    induction n with
    | zero =>
      have hkept : ∃ e ∈ level mode xvs 0, e.fields = prefixOf 0 A B :=
        (prefix_level hn A B).mpr fun k hk => absurd hk (Nat.not_lt_zero k)
      exact absurd hkept hnot
    | succ n ih =>
      by_cases hkept : ∃ e ∈ level mode xvs n, e.fields = prefixOf n A B
      · exact ⟨n, Nat.lt_succ_self n, hkept, hnot⟩
      · obtain ⟨k, hk, hlost⟩ := ih (by omega) hkept
        exact ⟨k, by omega, hlost⟩
  · rintro ⟨k, hk, hlost⟩ hkept
    rw [prefix_level hn] at hkept
    exact hlost.2 ((prefix_level (by omega) A B).mpr fun j hj => hkept j (by omega))

/-- A round loses a prefix only to more entries than are kept, none of which fits worse than the
prefix may. -/
theorem Lost.rivals (hmode : mode ≤ 5) {n : Nat} (hn : n ≤ 20) (h : Lost mode xvs A B n) :
    keep < (generated mode xvs n).countP fun e =>
      e.score ≤ fit mode xvs A B + slack mode xvs (n + 1) A B := by
  obtain ⟨hkept, hnot⟩ := h
  rw [prefix_level_succ hn] at hnot
  have hkeep : keep ≤ preceding (generated mode xvs n) (prefixEntry mode xvs (n + 1) A B) :=
    Nat.le_of_not_lt fun hlt => hnot ⟨hkept, hlt⟩
  have hgenerated := prefixEntry_mem_generated hn hkept
  refine (hkeep.trans_lt (preceding_lt_countP hgenerated)).trans_le ?_
  have hscore : (prefixEntry mode xvs (n + 1) A B).score ≤
      fit mode xvs A B + slack mode xvs (n + 1) A B := by
    have hfit := abs_le.mp (abs_fit_sub_le (n := n + 1) xvs A B (by omega) hmode)
    rw [prefixEntry_score]
    omega
  refine List.countP_mono_left fun b _ hb => ?_
  rw [decide_eq_true_eq] at hb ⊢
  exact hb.trans hscore

/-- A state agrees with no candidate when some round has lost its prefix, which it can lose only to
entries that fit hardly worse. -/
theorem agrees_or_rivals (hmode : mode ≤ 5) {xvs : List Observation} (hxvs : xvs ≠ []) :
    (∀ n ≤ 21, |(prefixEntry mode xvs n A B).score - fit mode xvs A B| ≤ slack mode xvs n A B) ∧
    ∃ mask candidates, solve xvs mode = some (mask :: candidates) ∧
      ((¬ ∃ x ∈ candidates, AgreesOn mask x (push A B)) ↔
        ∃ n < (beam mode xvs).1, Lost mode xvs A B n) ∧
      ∀ n < (beam mode xvs).1, Lost mode xvs A B n →
        keep < (generated mode xvs n).countP fun e =>
          e.score ≤ fit mode xvs A B + slack mode xvs (n + 1) A B := by
  obtain ⟨-, hle, -⟩ := beam_shape mode xvs
  refine ⟨fun n hn => abs_fit_sub_le xvs A B hn hmode, _, _, solve_eq hxvs mode, ?_,
    fun n hn hlost => hlost.rivals xvs A B hmode (by omega)⟩
  rw [← prefix_not_kept_iff xvs A B hle, ← beam_level]
  exact not_congr (exists_agreesOn_iff mode xvs A B)

end Lost

theorem field_shiftLeft {n : Nat} (hn : n ≤ 21) {x : BitVec 64} (hx : x.toNat < 2 ^ n) :
    ((x <<< (47 - n)) >>> (47 - n)) &&& itermask n = x := by
  apply eq_of_forall_bit
  intro j
  have hj := j.isLt
  rw [field_bit hn, BitVec.getLsbD_shiftLeft]
  by_cases hlt : j.val < n
  · rw [decide_eq_true hlt, decide_eq_true (by omega), decide_eq_false (by omega),
      Nat.add_sub_cancel_left]
    rfl
  · have hzero : x.getLsbD j = false := by
      rw [← BitVec.testBit_toNat]
      exact Nat.testBit_eq_false_of_lt (hx.trans_le (Nat.pow_le_pow_right (by decide) (by omega)))
    rw [decide_eq_false hlt, hzero]
    rfl

theorem exists_lost (mode : Nat) (xvs : List Observation) :
    ∃ A B, ∃ n < (beam mode xvs).1, Lost mode xvs A B n := by
  obtain ⟨h7, hle, -⟩ := beam_shape mode xvs
  simp only [← prefix_not_kept_iff xvs _ _ hle]
  by_contra hnone
  have hall : ∀ A B, ∃ e ∈ level mode xvs (beam mode xvs).1,
      e.fields = prefixOf (beam mode xvs).1 A B :=
    fun A B => not_not.mp fun hnot => hnone ⟨A, B, hnot⟩
  let word (j : Nat) : BitVec 64 := BitVec.ofNat 64 j <<< (47 - (beam mode xvs).1)
  have hword {j : Nat} (hj : j < 32) :
      (word j >>> (47 - (beam mode xvs).1)) &&& itermask (beam mode xvs).1 = BitVec.ofNat 64 j := by
    have hpow : 2 ^ 7 ≤ 2 ^ (beam mode xvs).1 := Nat.pow_le_pow_right (by decide) h7
    refine field_shiftLeft hle ?_
    rw [BitVec.toNat_ofNat]
    omega
  let f (i : Nat) := prefixOf (beam mode xvs).1 (word (i / 32)) (word (i % 32))
  have hsub : (Finset.range 1024).image f ⊆
      ((level mode xvs (beam mode xvs).1).map BeamEntry.fields).toFinset := by
    intro t ht
    obtain ⟨i, -, rfl⟩ := Finset.mem_image.mp ht
    obtain ⟨e, he, hfields⟩ := hall (word (i / 32)) (word (i % 32))
    exact List.mem_toFinset.mpr (List.mem_map.mpr ⟨e, he, hfields⟩)
  have hinj : Set.InjOn f (Finset.range 1024) := by
    intro i hi j hj hij
    have hi := Finset.mem_range.mp hi
    have hj := Finset.mem_range.mp hj
    simp only [f, prefixOf, Prod.mk.injEq] at hij
    have hhigh := hij.2.1
    have hlow := hij.2.2
    rw [hword (by omega), hword (by omega)] at hhigh hlow
    have hhigh := congrArg BitVec.toNat hhigh
    have hlow := congrArg BitVec.toNat hlow
    rw [BitVec.toNat_ofNat, BitVec.toNat_ofNat] at hhigh hlow
    omega
  have hcard := (Finset.card_le_card hsub).trans (List.toFinset_card_le _)
  rw [Finset.card_image_of_injOn hinj, Finset.card_range, List.length_map,
    length_level (by omega) hle, keep] at hcard
  omega

theorem agrees_or_rivals_lost : ∃ A B, ∃ n < (beam 1 [⟨0, 1 / 2, true⟩]).1,
    Lost 1 [⟨0, 1 / 2, true⟩] A B n ∧
      keep < (generated 1 [⟨0, 1 / 2, true⟩] n).countP fun e => e.score ≤
        fit 1 [⟨0, 1 / 2, true⟩] A B + slack 1 [⟨0, 1 / 2, true⟩] (n + 1) A B := by
  obtain ⟨A, B, n, hn, hlost⟩ := exists_lost 1 [⟨0, 1 / 2, true⟩]
  obtain ⟨-, mask, candidates, -, -, hrivals⟩ :=
    agrees_or_rivals A B (show 1 ≤ 5 by decide) (List.cons_ne_nil ⟨0, 1 / 2, true⟩ [])
  exact ⟨A, B, n, hn, hlost, hrivals n hn hlost⟩

end SeedCracking.Blocks
