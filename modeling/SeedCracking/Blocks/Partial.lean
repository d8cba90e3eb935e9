import SeedCracking.Blocks.Veins

/-! What missing entries do to the observations. -/

namespace SeedCracking.Blocks

open SeedCracking.Lists
open List (SublistForall₂)

def Part (find find' : Point → Option BlockType) : Prop :=
  ∀ p typ, find p = some typ → find' p = some typ

/-- An observation, or that of a vein position whose own entry is missing: it counts as skipped. -/
def Missed (find find' : Point → Option BlockType) (k : Fin 5) (o o' : Observation) : Prop :=
  o = o' ∨ k.val = 2 ∧ ∃ p, find p = none ∧ isVein (find' p) = true ∧ o.xv = seedAt p ∧
    o = { o' with ret := false }

variable {find find' : Point → Option BlockType}

theorem sublistForall₂_missed (k : Fin 5) (l : List Observation) :
    SublistForall₂ (Missed find find' k) l l := by
  induction l with
  | nil => exact .nil
  | cons o l ih => exact .cons (.inl rfl) ih

def Spares (k : Fin 5) (push : BitVec 64 → Option BlockType → List Observation) : Prop :=
  ∀ find find' : Point → Option BlockType, ∀ p, find p = none →
    SublistForall₂ (Missed find find' k) (push (seedAt p) none) (push (seedAt p) (find' p))

theorem spares_veinPush (mode : Nat) : Spares 2 (veinPush mode) := by
  intro find find' p hp
  rw [veinPush, veinPush]
  split
  case isTrue =>
    refine .cons ?_ .nil
    cases hvein : isVein (find' p) with
    | true => exact .inr ⟨rfl, p, hp, hvein, rfl, rfl⟩
    | false => exact .inl rfl
  case isFalse => exact .nil

theorem spares_orePush (mode : Nat) : Spares 3 (orePush mode) := by
  intro find find' p _
  have hnone : orePush mode (seedAt p) none = [] := by simp [orePush]
  rw [hnone]
  exact .nil

theorem spares_rawPush (mode : Nat) : Spares 4 (rawPush mode) := by
  intro find find' p _
  have hnone : rawPush mode (seedAt p) none = [] := by simp [rawPush]
  rw [hnone]
  exact .nil

section Part

variable (h : Part find find')
include h

theorem Part.adj_le (typ : BlockType) (p : Point) : adj find typ p ≤ adj find' typ p := by
  refine List.countP_mono_left fun q _ hq => ?_
  rw [decide_eq_true_eq] at hq ⊢
  exact h q typ hq

theorem Part.confirmed_mono {p : Point} (hconf : confirmed find p) : confirmed find' p := by
  have hore := h.adj_le .ORE p
  have hfill := h.adj_le .FILL p
  have hraw := h.adj_le .RAW p
  obtain ⟨h18, hfiller, hother⟩ := hconf
  refine ⟨by omega, by omega, ?_⟩
  omega

theorem Part.sublist_atVein {push : Nat → BitVec 64 → Option BlockType → List Observation}
    {mode : Nat} {k : Fin 5} (hpush : Spares k (push mode)) (p : Point) :
    SublistForall₂ (Missed find find' k) (atVein push mode find p)
      (atVein push mode find' p) := by
  rw [atVein]
  split
  case isTrue hconf =>
    rw [atVein, if_pos (h.confirmed_mono hconf)]
    cases hp : find p with
    | none => exact hpush find find' p hp
    | some typ =>
      rw [h p typ hp]
      exact sublistForall₂_missed k _
  case isFalse => exact .nil

end Part

section Observations

variable {entries entries' : List BlockEntry} (h : Part (typeAt entries) (typeAt entries'))
include h

theorem Part.sublist_blocks (k : Fin 5) (rule : Point × BlockType → List Observation) :
    SublistForall₂ (Missed (typeAt entries) (typeAt entries') k)
      ((blocksOf entries).toList.flatMap rule)
      ((blocksOf entries').toList.flatMap rule) := by
  refine sublistForall₂_flatMap (toList_sublist fun p typ => ?_) fun b _ =>
    sublistForall₂_missed k (rule b)
  rw [blocksOf_find, blocksOf_find]
  exact h p typ

theorem Part.sublist_veins {push : Nat → BitVec 64 → Option BlockType → List Observation}
    {mode : Nat} {k : Fin 5} (hpush : Spares k (push mode)) :
    SublistForall₂ (Missed (typeAt entries) (typeAt entries') k)
      ((scan (blocksOf entries) mode).maybe_veins.toList.flatMap
        (atVein push mode fun q => (blocksOf entries)[q]?))
      ((scan (blocksOf entries') mode).maybe_veins.toList.flatMap
        (atVein push mode fun q => (blocksOf entries')[q]?)) := by
  rw [find_blocksOf, find_blocksOf]
  refine sublistForall₂_flatMap (toList_sublist_set fun p => ?_) fun p _ => h.sublist_atVein hpush p
  simp only [mem_maybe_veins, blocksOf_find]
  rintro ⟨q, hq, hp⟩
  exact ⟨q, h q .RAW hq, hp⟩

theorem Part.sublist_observations (mode : Nat) (k : Fin 5) :
    SublistForall₂ (Missed (typeAt entries) (typeAt entries') k) (observations entries mode k)
      (observations entries' mode k) := by
  match k with
  | 0 =>
    change SublistForall₂ _ (scan _ mode).xvs1 (scan _ mode).xvs1
    rw [scan_xvs1, scan_xvs1]
    exact h.sublist_blocks 0 _
  | 1 =>
    change SublistForall₂ _ (scan _ mode).xvs2 (scan _ mode).xvs2
    rw [scan_xvs2, scan_xvs2]
    exact h.sublist_blocks 1 _
  | 2 =>
    change SublistForall₂ _ (veins _ mode).xvs3 (veins _ mode).xvs3
    rw [veins_xvs3, veins_xvs3]
    exact h.sublist_veins (spares_veinPush mode)
  | 3 =>
    change SublistForall₂ _ (veins _ mode).xvs4 (veins _ mode).xvs4
    rw [veins_xvs4, veins_xvs4]
    exact h.sublist_veins (spares_orePush mode)
  | 4 =>
    change SublistForall₂ _ (veins _ mode).xvs5 (veins _ mode).xvs5
    rw [veins_xvs5, veins_xvs5]
    exact h.sublist_veins (spares_rawPush mode)

theorem Part.fit_le {mode : Nat} {k : Fin 5} (hk : k ≠ 2) (lo hi : BitVec 64) :
    fit (k + 1) (observations entries mode k) lo hi ≤
      fit (k + 1) (observations entries' mode k) lo hi := by
  have hmode : k.val + 1 ≤ 5 := k.isLt
  rw [fit_eq hmode, fit_eq hmode]
  have hnonneg : ∀ o, 0 ≤ miss (iterOf (k + 1)) lo hi o * weight (k + 1) o := by
    intro o
    have hweight := weight_pos (k + 1) o
    rcases miss_cases (iterOf (k + 1)) lo hi o with hmiss | hmiss
    · simp [hmiss]
    · rw [hmiss]
      omega
  refine SublistForall₂.sum_le_sum ?_ (by simp [hnonneg])
  rw [List.sublistForall₂_map_left_iff, List.sublistForall₂_map_right_iff]
  obtain ⟨l, hl, hsub⟩ := List.sublistForall₂_iff.mp (h.sublist_observations mode k)
  refine List.sublistForall₂_iff.mpr ⟨l, hl.imp fun o o' ho => ?_, hsub⟩
  rw [ho.resolve_right fun hmissed => hk (Fin.ext hmissed.1)]

/-- Without some of the entries a run has fewer observations, in the same order, and each is one of
the whole; only a vein position whose entry is missing is taken for one that the vein skipped. -/
theorem observations_of_part (mode : Nat) (k : Fin 5) :
    SublistForall₂ (Missed (typeAt entries) (typeAt entries') k) (observations entries mode k)
        (observations entries' mode k) ∧
      (k ≠ 2 → ∀ lo hi, fit (k + 1) (observations entries mode k) lo hi ≤
        fit (k + 1) (observations entries' mode k) lo hi) :=
  ⟨h.sublist_observations mode k, h.fit_le⟩

end Observations

theorem observations_of_part_vein :
    let part : List BlockEntry := ⟨-1, 0, 0, 3⟩ :: cluster.eraseIdx 6
    let whole : List BlockEntry := ⟨-1, 0, 0, 3⟩ :: cluster
    SublistForall₂ (Missed (typeAt part) (typeAt whole) 2) (observations part 31 2)
        (observations whole 31 2) ∧
      ⟨seedAt (0, 1, 1), Rounding.float64 0.7, false⟩ ∈ observations part 31 2 ∧
      typeAt whole (0, 1, 1) = some .FILL := by
  intro part whole
  have hpart : Part (typeAt part) (typeAt whole) := by
    have hwhole : ∀ e ∈ part, typeAt whole e.point = some (.ofInt e.typ) := by decide
    intro p typ hp
    obtain ⟨e, he, rfl, rfl⟩ := mem_of_typeAt hp
    exact hwhole e he
  refine ⟨(observations_of_part hpart 31 2).1, ?_, rfl⟩
  rw [observations_vein]
  refine List.mem_map.mpr ⟨(0, 1, 1), ?_, rfl⟩
  exact (mem_veinPositions part).mpr ⟨⟨(0, 0, 0), rfl, by decide⟩, by decide⟩

end SeedCracking.Blocks
