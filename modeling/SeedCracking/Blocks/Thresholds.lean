import SeedCracking.Blocks.Truncation
import SeedCracking.Blocks.Usable
import SeedCracking.Rounding.Order
import Mathlib.Tactic.IntervalCases

/-! The odds that the thresholds stand for, and what their rounding changes. -/

namespace SeedCracking.Blocks

open SeedCracking.Lists Rounding
open List (Forall₂)
open Std (TreeSet)

/-- The odds of a block at height `y`. -/
def odds (k : Fin 5) (y : Int) (ret : Bool) : ℚ :=
  match k with
  | 0 => (-59 - y) / 5
  | 1 => (8 - y) / 8
  | 2 => 7 / 10
  -- the richness of a vein varies between these two
  | 3 => if ret then 3 / 10 else 1 / 10
  | 4 => 1 / 50

def Alike (p q : ℚ) : Prop := ⌈p * 2 ^ 24⌉ = ⌈q * 2 ^ 24⌉

theorem Alike.get_eq {p q : ℚ} (h : Alike p q) (ITER : Nat) (seedlo seedhi xv : BitVec 64) :
    get ITER seedlo seedhi xv p = get ITER seedlo seedhi xv q := by
  rw [Bool.eq_iff_iff, get_iff_toNat_lt, get_iff_toNat_lt, h]

section Decimal

variable {x : ℚ}

theorem ceil_eq {n : ℤ} (hlo : n - 1 < x) (hhi : x ≤ n) : ⌈x⌉ = n :=
  Int.ceil_eq_iff.mpr ⟨hlo, hhi⟩

theorem alike_float64 {n : ℤ} (hpos : 0 < x) (hone : x ≤ 1) (hlo : n - 7 / 8 ≤ x * 2 ^ 24)
    (hhi : x * 2 ^ 24 ≤ n - 1 / 8) : Alike (float64 x) x := by
  have herror := abs_le.mp (abs_roundBinary_sub_le 53 x)
  rw [abs_of_pos hpos] at herror
  have hx : ⌈x * 2 ^ 24⌉ = n := ceil_eq (by linarith) (by linarith)
  rw [Alike, hx, float64]
  apply ceil_eq
  · linarith
  · linarith

theorem float32_float64 {k n : ℤ} (hlo : 2 ^ k ≤ x - x / 2 ^ 53)
    (hhi : x + x / 2 ^ 53 < 2 ^ (k + 1))
    (hnear : |x * 2 ^ (23 - k) - n| < 1 / 2 - x / 2 ^ 53 * 2 ^ (23 - k)) :
    float32 (float64 x) = n / 2 ^ (23 - k) := by
  have hpos : 0 < x := by
    have htwo : (0 : ℚ) < 2 ^ k := zpow_pos two_pos k
    linarith
  have hscale : (0 : ℚ) < 2 ^ (23 - k) := zpow_pos two_pos _
  have herror := abs_roundBinary_sub_le 53 x
  rw [abs_of_pos hpos] at herror
  have hbounds := abs_le.mp herror
  rw [float32, float64]
  generalize roundBinary 53 x = y at herror hbounds
  have hprec : ((24 : ℕ) : ℤ) - 1 - k = 23 - k := by norm_num
  rw [roundBinary_near 24 (k := k) (n := n) (by linarith) (by linarith), hprec]
  rw [hprec]
  calc |y * 2 ^ (23 - k) - n|
      = |(x * 2 ^ (23 - k) - n) + (y - x) * 2 ^ (23 - k)| := by ring_nf
    _ ≤ |x * 2 ^ (23 - k) - n| + |(y - x) * 2 ^ (23 - k)| := abs_add_le _ _
    _ = |x * 2 ^ (23 - k) - n| + |y - x| * 2 ^ (23 - k) := by rw [abs_mul, abs_of_pos hscale]
    _ ≤ |x * 2 ^ (23 - k) - n| + x / 2 ^ 53 * 2 ^ (23 - k) := by gcongr
    _ < 1 / 2 := by linarith

theorem alike_float32 {q : ℚ} {k n m : ℤ} (hlo : 2 ^ k ≤ x - x / 2 ^ 53)
    (hhi : x + x / 2 ^ 53 < 2 ^ (k + 1))
    (hnear : |x * 2 ^ (23 - k) - n| < 1 / 2 - x / 2 ^ 53 * 2 ^ (23 - k))
    (hthr : m - 1 < (n / 2 ^ (23 - k) : ℚ) * 2 ^ 24) (hthr' : (n / 2 ^ (23 - k) : ℚ) * 2 ^ 24 ≤ m)
    (hq : m - 1 < q * 2 ^ 24) (hq' : q * 2 ^ 24 ≤ m) : Alike (float32 (float64 x)) q := by
  rw [Alike, float32_float64 hlo hhi hnear, ceil_eq hthr hthr', ceil_eq hq hq']

end Decimal

theorem alike_bedrockThr {y : Int} (hlo : -63 ≤ y) (hhi : y ≤ -60) (ret : Bool) :
    Alike (bedrockThr y) (odds 0 y ret) := by
  rw [odds]
  interval_cases y
  · refine alike_float32 (x := 0.8) (k := -1) (n := 13421773) (m := 13421773) ?_ ?_ ?_ ?_ ?_ ?_ ?_
    all_goals norm_num [abs_lt]
  · refine alike_float32 (x := 0.6) (k := -1) (n := 10066330) (m := 10066330) ?_ ?_ ?_ ?_ ?_ ?_ ?_
    all_goals norm_num [abs_lt]
  · refine alike_float32 (x := 0.4) (k := -2) (n := 13421773) (m := 6710887) ?_ ?_ ?_ ?_ ?_ ?_ ?_
    all_goals norm_num [abs_lt]
  · refine alike_float32 (x := 0.19999999999999996) (k := -3) (n := 13421773) (m := 3355444)
      ?_ ?_ ?_ ?_ ?_ ?_ ?_
    all_goals norm_num [abs_lt]

theorem deepslateThr_eq {y : Int} (hlo : 1 ≤ y) (hhi : y ≤ 7) (ret : Bool) :
    deepslateThr y = odds 1 y ret := by
  have hexact (m : ℕ) (hm : m < 2 ^ 24) :
      float32 (float64 (m * 2 ^ (-3 : ℤ))) = m * 2 ^ (-3 : ℤ) := by
    rw [float64_of_lt (Nat.lt_trans hm (by decide)), float32_of_lt hm]
  obtain ⟨i, hi, rfl⟩ : ∃ i : ℕ, i < 7 ∧ y = i + 1 := ⟨(y - 1).toNat, by omega, by omega⟩
  have hindex : ((i : Int) + 1 - 1).toNat = i := by omega
  have hthr : ([0.875, 0.75, 0.625, 0.5, 0.375, 0.25, 0.125] : List ℚ).getD i 0 =
      ((7 - i : ℕ) : ℚ) * 2 ^ (-3 : ℤ) := by
    clear hlo hhi hindex
    interval_cases i <;> norm_num
  rw [deepslateThr, hindex, hthr, hexact _ (by omega), odds, Nat.cast_sub (by omega)]
  push_cast
  ring

theorem alike_vein (y : Int) (ret : Bool) : Alike (float64 0.7) (odds 2 y ret) := by
  have h := alike_float64 (x := 0.7) (n := 11744052) (by norm_num) (by norm_num) (by norm_num)
    (by norm_num)
  norm_num [odds] at h ⊢
  exact h

theorem alike_ore (y : Int) : Alike (float64 0.3) (odds 3 y true) := by
  have h := alike_float64 (x := 0.3) (n := 5033165) (by norm_num) (by norm_num) (by norm_num)
    (by norm_num)
  norm_num [odds] at h ⊢
  exact h

theorem alike_filler (y : Int) : Alike (float64 0.1) (odds 3 y false) := by
  have h := alike_float64 (x := 0.1) (n := 1677722) (by norm_num) (by norm_num) (by norm_num)
    (by norm_num)
  norm_num [odds] at h ⊢
  exact h

theorem alike_raw (y : Int) (ret : Bool) : Alike (float64 0.02) (odds 4 y ret) := by
  have h := alike_float64 (x := 0.02) (n := 335545) (by norm_num) (by norm_num) (by norm_num)
    (by norm_num)
  norm_num [odds] at h ⊢
  exact h

def Tells (find : Point → Option BlockType) (k : Fin 5) (p : Point) (ret : Bool) : Prop :=
  let vein := (∃ q, find q = some .RAW ∧ p ∈ box 3 q) ∧ confirmed find p
  match k with
  | 0 => (-63 ≤ p.2.1 ∧ p.2.1 ≤ -60) ∧ find p = some (if ret then .BEDROCK else .DEEPSLATE)
  | 1 => (1 ≤ p.2.1 ∧ p.2.1 ≤ 7) ∧ find p = some (if ret then .DEEPSLATE else .STONE)
  | 2 => vein ∧ ret = isVein (find p)
  | 3 => vein ∧ if ret then find p = some .RAW ∨ find p = some .ORE else find p = some .FILL
  | 4 => vein ∧ find p = some (if ret then .RAW else .ORE)

structure Idealized (entries : List BlockEntry) (k : Fin 5) (o ideal : Observation) : Prop where
  xv_eq : ideal.xv = o.xv
  ret_eq : ideal.ret = o.ret
  position : ∃ p, Tells (typeAt entries) k p o.ret ∧ o.xv = getSeed p.1 p.2.1 p.2.2 ∧
    ideal.p = odds k p.2.1 o.ret
  alike : Alike o.p ideal.p

section Idealized

variable {entries : List BlockEntry} {k : Fin 5} {o ideal : Observation}

theorem exists_idealized {p : Point} (hp : Tells (typeAt entries) k p o.ret)
    (hxv : o.xv = getSeed p.1 p.2.1 p.2.2) (halike : Alike o.p (odds k p.2.1 o.ret)) :
    ∃ ideal, Idealized entries k o ideal :=
  ⟨{ o with p := odds k p.2.1 o.ret }, rfl, rfl, ⟨p, hp, hxv, rfl⟩, halike⟩

theorem Idealized.miss_eq (h : Idealized entries k o ideal) (ITER : Nat)
    (seedlo seedhi : BitVec 64) : miss ITER seedlo seedhi ideal = miss ITER seedlo seedhi o := by
  rw [miss, miss, h.xv_eq, h.ret_eq, h.alike.get_eq]

end Idealized

section Rules

variable {entries : List BlockEntry} {mode : Nat} {o : Observation}

theorem idealized_bedrockRule {p : Point} {typ : BlockType} (hp : typeAt entries p = some typ)
    (ho : o ∈ bedrockRule mode (p, typ)) : ∃ ideal, Idealized entries 0 o ideal := by
  simp only [bedrockRule] at ho
  split_ifs at ho with hheight htyp htyp
  · obtain rfl := List.mem_singleton.mp ho
    exact exists_idealized ⟨hheight.2, htyp ▸ hp⟩ rfl
      (alike_bedrockThr hheight.2.1 hheight.2.2 _)
  · obtain rfl := List.mem_singleton.mp ho
    exact exists_idealized ⟨hheight.2, htyp ▸ hp⟩ rfl
      (alike_bedrockThr hheight.2.1 hheight.2.2 _)
  · cases ho
  · cases ho

theorem idealized_deepslateRule {p : Point} {typ : BlockType} (hp : typeAt entries p = some typ)
    (ho : o ∈ deepslateRule mode (p, typ)) : ∃ ideal, Idealized entries 1 o ideal := by
  have halike {y : Int} (hlo : 1 ≤ y) (hhi : y ≤ 7) (ret : Bool) :
      Alike (deepslateThr y) (odds 1 y ret) := by rw [Alike, deepslateThr_eq hlo hhi ret]
  simp only [deepslateRule] at ho
  split_ifs at ho with hheight htyp htyp
  · obtain rfl := List.mem_singleton.mp ho
    exact exists_idealized ⟨hheight.2, htyp ▸ hp⟩ rfl (halike hheight.2.1 hheight.2.2 _)
  · obtain rfl := List.mem_singleton.mp ho
    exact exists_idealized ⟨hheight.2, htyp ▸ hp⟩ rfl (halike hheight.2.1 hheight.2.2 _)
  · cases ho
  · cases ho

section Vein

variable {p : Point} (hp : inVein entries p)
include hp

theorem idealized_veinPush (ho : o ∈ veinPush mode (getSeed p.1 p.2.1 p.2.2) (typeAt entries p)) :
    ∃ ideal, Idealized entries 2 o ideal := by
  rw [veinPush] at ho
  split at ho
  case isTrue =>
    obtain rfl := List.mem_singleton.mp ho
    exact exists_idealized ⟨hp, rfl⟩ rfl (alike_vein _ _)
  case isFalse => cases ho

theorem idealized_orePush (ho : o ∈ orePush mode (getSeed p.1 p.2.1 p.2.2) (typeAt entries p)) :
    ∃ ideal, Idealized entries 3 o ideal := by
  unfold orePush at ho
  split at ho
  case isTrue =>
    split at ho
    next htyp =>
      obtain rfl := List.mem_singleton.mp ho
      exact exists_idealized ⟨hp, .inl htyp⟩ rfl (alike_ore _)
    next htyp =>
      obtain rfl := List.mem_singleton.mp ho
      exact exists_idealized ⟨hp, .inr htyp⟩ rfl (alike_ore _)
    next htyp =>
      obtain rfl := List.mem_singleton.mp ho
      exact exists_idealized ⟨hp, htyp⟩ rfl (alike_filler _)
    next => cases ho
  case isFalse => cases ho

theorem idealized_rawPush (ho : o ∈ rawPush mode (getSeed p.1 p.2.1 p.2.2) (typeAt entries p)) :
    ∃ ideal, Idealized entries 4 o ideal := by
  unfold rawPush at ho
  split at ho
  case isTrue =>
    split at ho
    next htyp =>
      obtain rfl := List.mem_singleton.mp ho
      exact exists_idealized ⟨hp, htyp⟩ rfl (alike_raw _ _)
    next htyp =>
      obtain rfl := List.mem_singleton.mp ho
      exact exists_idealized ⟨hp, htyp⟩ rfl (alike_raw _ _)
    next => cases ho
  case isFalse => cases ho

end Vein

theorem mem_blocks {rule : Point × BlockType → List Observation}
    (ho : o ∈ (blocksOf entries).toList.flatMap rule) :
    ∃ p typ, typeAt entries p = some typ ∧ o ∈ rule (p, typ) := by
  obtain ⟨⟨p, typ⟩, hp, ho⟩ := List.mem_flatMap.mp ho
  exact ⟨p, typ, (mem_blocksOf entries).mp hp, ho⟩

theorem mem_veins {push : Nat → BitVec 64 → Option BlockType → List Observation}
    (ho : o ∈ (scan (blocksOf entries) mode).maybe_veins.toList.flatMap
      (atVein push mode fun q => (blocksOf entries)[q]?)) :
    ∃ p, inVein entries p ∧ o ∈ push mode (getSeed p.1 p.2.1 p.2.2) (typeAt entries p) := by
  rw [find_blocksOf] at ho
  obtain ⟨p, hp, ho⟩ := List.mem_flatMap.mp ho
  rw [TreeSet.mem_toList, mem_maybe_veins] at hp
  simp only [blocksOf_find] at hp
  rw [atVein] at ho
  split at ho
  case isTrue hconf => exact ⟨p, ⟨hp, hconf⟩, ho⟩
  case isFalse => cases ho

end Rules

theorem idealized_observations (entries : List BlockEntry) (mode : Nat) (k : Fin 5)
    {o : Observation} (ho : o ∈ observations entries mode k) :
    ∃ ideal, Idealized entries k o ideal := by
  match k with
  | 0 =>
    change o ∈ (scan _ mode).xvs1 at ho
    rw [scan_xvs1] at ho
    obtain ⟨p, typ, hp, ho⟩ := mem_blocks ho
    exact idealized_bedrockRule hp ho
  | 1 =>
    change o ∈ (scan _ mode).xvs2 at ho
    rw [scan_xvs2] at ho
    obtain ⟨p, typ, hp, ho⟩ := mem_blocks ho
    exact idealized_deepslateRule hp ho
  | 2 =>
    change o ∈ (veins _ mode).xvs3 at ho
    rw [veins_xvs3] at ho
    obtain ⟨p, hp, ho⟩ := mem_veins ho
    exact idealized_veinPush hp ho
  | 3 =>
    change o ∈ (veins _ mode).xvs4 at ho
    rw [veins_xvs4] at ho
    obtain ⟨p, hp, ho⟩ := mem_veins ho
    exact idealized_orePush hp ho
  | 4 =>
    change o ∈ (veins _ mode).xvs5 at ho
    rw [veins_xvs5] at ho
    obtain ⟨p, hp, ho⟩ := mem_veins ho
    exact idealized_rawPush hp ho

section Solve

variable {entries : List BlockEntry} {k : Fin 5} {xvs ideals : List Observation}
  (h : Forall₂ (Idealized entries k) xvs ideals)
include h

theorem fit_idealized (mode : Nat) : fit mode ideals = fit mode xvs := by
  funext seedlo seedhi
  have hsum (ITER : Nat) (weight : Bool → Int) :
      ideals.map (fun o => miss ITER seedlo seedhi o * weight o.ret) =
        xvs.map fun o => miss ITER seedlo seedhi o * weight o.ret := by
    induction h with
    | nil => rfl
    | cons ho _ ih => rw [List.map_cons, List.map_cons, ho.miss_eq, ho.ret_eq, ih]
  have hone (ITER : Nat) :
      ideals.map (miss ITER seedlo seedhi) = xvs.map (miss ITER seedlo seedhi) := by
    simpa using hsum ITER fun _ => 1
  rw [fit, fit, hone, hone, hsum 2 fun ret => if ret then 50 else 1]

theorem solve_idealized (mode : Nat) : solve ideals mode = solve xvs mode := by
  have hscored : scored mode ideals = scored mode xvs := by
    funext e
    rw [scored, fit_idealized h, scored]
  have hround : beamRound mode ideals = beamRound mode xvs := by
    funext cur
    rw [beamRound, hscored, beamRound]
  have hloop : ∀ fuel iters cur,
      beamLoop mode ideals fuel iters cur = beamLoop mode xvs fuel iters cur := by
    intro fuel
    induction fuel with
    | zero => exact fun _ _ => rfl
    | succ fuel ih =>
      intro iters cur
      simp only [beamLoop, hround, ih]
  rw [solve, solve, h.length_eq, beam, hloop, beam]

end Solve

/-- The decimals of the thresholds, and what rounding them to doubles and floats leaves of them,
never matter: with the exact odds of its positions every list gives the same scores and the same
result. -/
theorem solve_exact_odds (entries : List BlockEntry) (mode : Nat) (k : Fin 5) :
    ∃ ideals, Forall₂ (Idealized entries k) (observations entries mode k) ideals ∧
      fit (k + 1) ideals = fit (k + 1) (observations entries mode k) ∧
      solve ideals (k + 1) = solve (observations entries mode k) (k + 1) := by
  choose! ideal hideal using fun o => @idealized_observations entries mode k o
  have h : Forall₂ (Idealized entries k) (observations entries mode k)
      ((observations entries mode k).map ideal) := by
    rw [List.forall₂_map_right_iff, List.forall₂_same]
    exact hideal
  exact ⟨_, h, fit_idealized h _, solve_idealized h _⟩

end SeedCracking.Blocks
