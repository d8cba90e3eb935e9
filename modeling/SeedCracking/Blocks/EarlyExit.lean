import SeedCracking.Blocks.Fit
import SeedCracking.Blocks.Observations
import SeedCracking.Rounding.Order
import Mathlib.Tactic.Linarith

/-! After which round the beam search leaves its loop. -/

namespace SeedCracking.Blocks

open SeedCracking.Lists Rounding
open Std (TreeMap TreeSet)

theorem float64_natCast {n : ℕ} (hn : n < 2 ^ 53) : float64 n = n := by
  have h := float64_of_lt hn 0
  rwa [zpow_zero, mul_one] at h

theorem float64_ninetyFive : float64 (95 / 100) = 8556839292003942 / 2 ^ 53 := by
  have hround : roundEven (95 / 100 * 2 ^ (53 : ℤ)) = 8556839292003942 := by
    apply roundEven_eq
    norm_num [abs_lt]
  have h := roundBinary_eq 53 (x := 95 / 100) (k := -1) (by norm_num) (by norm_num)
  rw [show ((53 : ℕ) : ℤ) - 1 - -1 = 53 by norm_num, hround] at h
  rw [float64, h]
  norm_num

theorem le_float64_iff {front back : ℕ} (hfront : front < 2 ^ 53) (hback : back < 2 ^ 48) :
    float64 (float64 back * float64 (95 / 100)) ≤ float64 front ↔ 19 * back ≤ 20 * front := by
  have hback' : (back : ℚ) < 281474976710656 := by exact_mod_cast hback
  rw [float64_natCast hfront, float64_natCast (lt_trans hback (by norm_num)), float64_ninetyFive]
  rcases Nat.eq_zero_or_pos back with rfl | hpos
  · simp [float64, roundBinary, roundEven]
  have hpos' : (0 : ℚ) < back := Nat.cast_pos.mpr hpos
  constructor
  · intro h
    by_contra hlt
    have hgap : (20 : ℚ) * front + 1 ≤ 19 * back := by exact_mod_cast Nat.lt_of_not_le hlt
    have herror := (abs_le.mp (abs_roundBinary_sub_le 53
      (back * (8556839292003942 / 2 ^ 53) : ℚ))).1
    rw [abs_of_pos (by positivity)] at herror
    rw [float64] at h
    norm_num at h herror
    linarith
  · intro h
    have hle : (19 : ℚ) * back ≤ 20 * front := by exact_mod_cast h
    have hmono := roundBinary_mono 53 (by decide)
      (x := (back * (8556839292003942 / 2 ^ 53) : ℚ)) (y := front) (by positivity) (by
        norm_num
        linarith)
    exact hmono.trans_eq (float64_natCast hfront)

section Loop

variable {mode : Nat} {xvs : List Observation}

theorem level_succ_score {n : Nat} {e : BeamEntry} (he : e ∈ level mode xvs (n + 1)) :
    ∃ lo hi, e.score = fit mode xvs lo hi := by
  obtain ⟨-, -, e₁, -, rfl⟩ := mem_beamRound he
  exact ⟨_, _, rfl⟩

theorem level_ne_nil (n : Nat) : level mode xvs n ≠ [] := by
  induction n with
  | zero => exact List.cons_ne_nil _ _
  | succ n ih => exact beamRound_ne_nil ih

theorem level_succ_sorted (n : Nat) :
    (level mode xvs (n + 1)).Pairwise fun a b => a.score ≤ b.score := by
  have htrans : ∀ a b c : BeamEntry, decide (a.score ≤ b.score) = true →
      decide (b.score ≤ c.score) = true → decide (a.score ≤ c.score) = true := by
    simp only [decide_eq_true_eq]
    omega
  have htotal : ∀ a b : BeamEntry,
      (decide (a.score ≤ b.score) || decide (b.score ≤ a.score)) = true := by
    simp only [Bool.or_eq_true, decide_eq_true_eq]
    omega
  have hsorted := List.pairwise_mergeSort htrans htotal (generated mode xvs n)
  refine (hsorted.sublist (List.take_sublist keep _)).imp fun {a b} h => ?_
  exact of_decide_eq_true h

theorem score_le_iff (hmode : mode ≤ 5) (hlen : xvs.length < 2 ^ 42) {n : Nat} {e e' : BeamEntry}
    (he : e ∈ level mode xvs (n + 1)) (he' : e' ∈ level mode xvs (n + 1)) :
    float64 (float64 e'.score * float64 (95 / 100)) ≤ float64 e.score ↔
      19 * e'.score ≤ 20 * e.score := by
  have hscore : ∀ b ∈ level mode xvs (n + 1), ∃ s : ℕ, s < 2 ^ 48 ∧ b.score = s := by
    intro b hb
    obtain ⟨lo, hi, h⟩ := level_succ_score hb
    have hbounds := fit_bounds hmode xvs lo hi
    exact ⟨b.score.toNat, by omega, by omega⟩
  obtain ⟨front, hfront, hf⟩ := hscore e he
  obtain ⟨back, hback, hb⟩ := hscore e' he'
  have hiff := le_float64_iff (hfront.trans (by norm_num)) hback
  rw [hf, hb, Int.cast_natCast, Int.cast_natCast, hiff]
  omega

def WithinFivePercent (entries : List BeamEntry) : Prop :=
  ∀ e ∈ entries, ∀ e' ∈ entries, 19 * e'.score ≤ 20 * e.score

theorem levelled_iff (hmode : mode ≤ 5) (hlen : xvs.length < 2 ^ 42) {n : Nat} :
    levelled (level mode xvs (n + 1)) = true ↔ WithinFivePercent (level mode xvs (n + 1)) := by
  have hne : level mode xvs (n + 1) ≠ [] := beamRound_ne_nil (level_ne_nil n)
  have hfront := List.head?_eq_some_head hne
  have hback := List.getLast?_eq_some_getLast hne
  have hbounds {b : BeamEntry} (hb : b ∈ level mode xvs (n + 1)) :=
    pairwise_bounds (fun a : BeamEntry => le_refl a.score) (level_succ_sorted n) hfront hback hb
  rw [levelled, hfront, hback]
  simp only [ge_iff_le, decide_eq_true_eq]
  rw [score_le_iff hmode hlen (List.head_mem hne) (List.getLast_mem hne)]
  constructor
  · rintro h e he e' he'
    have hlo := (hbounds he).1
    have hhi := (hbounds he').2
    omega
  · intro h
    exact h _ (List.head_mem hne) _ (List.getLast_mem hne)

theorem beamLoop_succ (fuel iters : Nat) :
    beamLoop mode xvs (fuel + 1) iters (level mode xvs iters) =
      if iters > 6 ∧ levelled (level mode xvs (iters + 1)) = true then (iters, level mode xvs iters)
      else beamLoop mode xvs fuel (iters + 1) (level mode xvs (iters + 1)) := rfl

theorem beamLoop_first (fuel iters : Nat) :
    ∃ n, (beamLoop mode xvs fuel iters (level mode xvs iters)).1 = n ∧ iters ≤ n ∧
      n ≤ iters + fuel ∧
      (n < iters + fuel → n > 6 ∧ levelled (level mode xvs (n + 1)) = true) ∧
      ∀ m, iters ≤ m → m < n → ¬ (m > 6 ∧ levelled (level mode xvs (m + 1)) = true) := by
  induction fuel generalizing iters with
  | zero => exact ⟨iters, rfl, le_rfl, le_rfl, by omega, by omega⟩
  | succ fuel ih =>
    rw [beamLoop_succ]
    by_cases h : iters > 6 ∧ levelled (level mode xvs (iters + 1)) = true
    · rw [if_pos h]
      exact ⟨iters, rfl, le_rfl, by omega, fun _ => h, by omega⟩
    · rw [if_neg h]
      obtain ⟨n, hn, hle, hlast, hexit, hbefore⟩ := ih (iters + 1)
      refine ⟨n, hn, by omega, by omega, fun hlt => hexit (by omega), fun m hm hlt => ?_⟩
      rcases hm.lt_or_eq with hm | rfl
      · exact hbefore m hm hlt
      · exact h

theorem beam_first (hmode : mode ≤ 5) (hlen : xvs.length < 2 ^ 42) :
    ∃ n, beam mode xvs = (n, level mode xvs n) ∧ 7 ≤ n ∧ n ≤ 21 ∧
      (n < 21 → WithinFivePercent (level mode xvs (n + 1))) ∧
      ∀ m, 7 ≤ m → m < n → ¬ WithinFivePercent (level mode xvs (m + 1)) := by
  obtain ⟨h7, h21, -⟩ := beam_shape mode xvs
  obtain ⟨n, hn, -, -, hexit, hbefore⟩ := @beamLoop_first mode xvs 21 0
  obtain rfl : (beam mode xvs).1 = n := hn
  refine ⟨_, Prod.ext rfl beam_level, h7, h21, fun hlt => ?_, fun m hm hlt => ?_⟩
  · exact (levelled_iff hmode hlen).mp (hexit (by omega)).2
  · have hnot : ¬ levelled (level mode xvs (m + 1)) = true :=
      fun h => hbefore m (Nat.zero_le m) hlt ⟨by omega, h⟩
    rwa [levelled_iff hmode hlen] at hnot

end Loop

theorem length_box (r : Nat) (p : Point) : (box r p).length = (2 * r + 1) ^ 3 := by
  simp only [box, offsets, List.length_flatMap, List.length_map, List.length_range, List.map_const',
    List.sum_replicate, nsmul_eq_mul, Nat.cast_id]
  ring

theorem veinPush_length (mode : Nat) (xv : BitVec 64) (it : Option BlockType) :
    (veinPush mode xv it).length ≤ 1 := by
  rw [veinPush]
  split
  case isTrue => exact Nat.le_refl 1
  case isFalse => exact Nat.zero_le 1

theorem orePush_length (mode : Nat) (xv : BitVec 64) (it : Option BlockType) :
    (orePush mode xv it).length ≤ 1 := by
  unfold orePush
  split
  case isTrue => split <;> simp
  case isFalse => exact Nat.zero_le 1

theorem rawPush_length (mode : Nat) (xv : BitVec 64) (it : Option BlockType) :
    (rawPush mode xv it).length ≤ 1 := by
  unfold rawPush
  split
  case isTrue => split <;> simp
  case isFalse => exact Nat.zero_le 1

theorem bedrockRule_length (mode : Nat) (b : Point × BlockType) :
    (bedrockRule mode b).length ≤ 1 := by
  simp only [bedrockRule]
  split_ifs <;> simp

theorem deepslateRule_length (mode : Nat) (b : Point × BlockType) :
    (deepslateRule mode b).length ≤ 1 := by
  simp only [deepslateRule]
  split_ifs <;> simp

theorem atVein_length {push : Nat → BitVec 64 → Option BlockType → List Observation} {mode : Nat}
    (hpush : ∀ xv it, (push mode xv it).length ≤ 1) (find : Point → Option BlockType) (p : Point) :
    (atVein push mode find p).length ≤ 1 := by
  rw [atVein]
  split
  case isTrue => exact hpush _ _
  case isFalse => exact Nat.zero_le 1

section Length

variable (entries : List BlockEntry) (mode : Nat)

theorem length_blocksOf : (blocksOf entries).toList.length ≤ entries.length := by
  have hround : ∀ (m : BlockMap) (e : BlockEntry),
      (m.insert e.point (.ofInt e.typ)).size ≤ m.size + 1 := fun m e => TreeMap.size_insert_le
  have hsize := foldl_le_add TreeMap.size hround entries ∅
  rw [TreeMap.size_emptyc] at hsize
  rw [TreeMap.length_toList]
  exact hsize.trans (by omega)

theorem length_maybe_veins :
    (scan (blocksOf entries) mode).maybe_veins.toList.length ≤ 343 * entries.length := by
  have hround : ∀ (s : Scan) (b : Point × BlockType),
      (scanBlock mode s b).maybe_veins.size ≤ s.maybe_veins.size + 343 := by
    intro s b
    have hinsert : ∀ (t : TreeSet Point pointCmp) q, (t.insert q).size ≤ t.size + 1 :=
      fun t q => TreeSet.size_insert_le
    have hbox := foldl_le_add TreeSet.size hinsert (box 3 b.1) s.maybe_veins
    rw [length_box] at hbox
    rw [scanBlock]
    simp only
    split
    case isTrue => exact hbox
    case isFalse => exact Nat.le_add_right _ _
  have hsize := foldl_le_add (fun s : Scan => s.maybe_veins.size) hround (blocksOf entries).toList
    ⟨[], [], ∅⟩
  have hblocks := length_blocksOf entries
  rw [TreeSet.length_toList, scan]
  simp only [TreeSet.size_emptyc] at hsize
  omega

def channelLevel (k : Fin 5) (n : Nat) : List BeamEntry :=
  level (k + 1) (observations entries mode k) n

theorem length_observations (k : Fin 5) :
    (observations entries mode k).length ≤ 343 * entries.length := by
  have hblocks := length_blocksOf entries
  have hveins := length_maybe_veins entries mode
  have hvein {push : Nat → BitVec 64 → Option BlockType → List Observation}
      (hpush : ∀ xv it, (push mode xv it).length ≤ 1) :=
    length_flatMap_le (atVein_length hpush fun q => (blocksOf entries)[q]?)
      (scan (blocksOf entries) mode).maybe_veins.toList
  match k with
  | 0 =>
    have h := length_flatMap_le (bedrockRule_length mode) (blocksOf entries).toList
    change (scan _ mode).xvs1.length ≤ _
    rw [scan_xvs1]
    omega
  | 1 =>
    have h := length_flatMap_le (deepslateRule_length mode) (blocksOf entries).toList
    change (scan _ mode).xvs2.length ≤ _
    rw [scan_xvs2]
    omega
  | 2 =>
    have h := hvein (veinPush_length mode)
    change (veins _ mode).xvs3.length ≤ _
    rw [veins_xvs3]
    omega
  | 3 =>
    have h := hvein (orePush_length mode)
    change (veins _ mode).xvs4.length ≤ _
    rw [veins_xvs4]
    omega
  | 4 =>
    have h := hvein (rawPush_length mode)
    change (veins _ mode).xvs5.length ≤ _
    rw [veins_xvs5]
    omega

/-- The round after which the search of a list ends, for every collection of fewer than `2^31`
blocks. -/
theorem channel_first_levelled (hlen : entries.length < 2 ^ 31) (k : Fin 5) :
    ∃ n, beam (k + 1) (observations entries mode k) = (n, channelLevel entries mode k n) ∧
      7 ≤ n ∧ n ≤ 21 ∧ (n < 21 → WithinFivePercent (channelLevel entries mode k (n + 1))) ∧
      ∀ m, 7 ≤ m → m < n → ¬ WithinFivePercent (channelLevel entries mode k (m + 1)) := by
  have hxvs := length_observations entries mode k
  have hk := k.isLt
  exact beam_first (by omega) (by omega)

end Length

theorem channel_first_levelled_bedrock :
    ∃ n, beam 1 (observations [⟨0, -60, 0, 0⟩] 1 0) = (n, channelLevel [⟨0, -60, 0, 0⟩] 1 0 n) ∧
      7 ≤ n ∧ n ≤ 21 :=
  have ⟨n, hbeam, hlo, hhi, _⟩ := channel_first_levelled [⟨0, -60, 0, 0⟩] 1 (by decide) 0
  ⟨n, hbeam, hlo, hhi⟩

end SeedCracking.Blocks
