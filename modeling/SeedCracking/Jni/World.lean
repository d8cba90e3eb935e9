import SeedCracking.Blocks.Placed
import SeedCracking.Blocks.WorldSeed
import SeedCracking.Collector.Border
import SeedCracking.Collector.Session

/-! Worlds whose blocks a generator state has placed. -/

namespace SeedCracking.Jni

open Blocks Words Xoroshiro
open Collector hiding State

def types (world : Point → Block) (p : Point) : Option BlockType :=
  (STATES_FULL (world p)).map BlockType.ofInt

def gradientWorld (I : State) (p : Point) : Block :=
  if -63 ≤ p.2.1 ∧ p.2.1 ≤ -60 then
    if positionalDraw I bedrockKey 0 p < (-59 - p.2.1) / 5 then .BEDROCK else .DEEPSLATE
  else if 1 ≤ p.2.1 ∧ p.2.1 ≤ 7 then
    if positionalDraw I deepslateKey 0 p < (8 - p.2.1) / 8 then .DEEPSLATE else .STONE
  else .other

theorem draw_iff_of_type {d : Prop} [Decidable d] {b b' : Block} {typ typ' : BlockType}
    {ret : Bool} (hb : (STATES_FULL b).map BlockType.ofInt = some typ)
    (hb' : (STATES_FULL b').map BlockType.ofInt = some typ') (hne : typ ≠ typ')
    (h : (STATES_FULL (if d then b else b')).map BlockType.ofInt =
      some (if ret then typ else typ')) : d ↔ ret = true := by
  by_cases hd : d
  · rw [if_pos hd, hb, Option.some.injEq] at h
    cases ret with
    | true => exact iff_of_true hd rfl
    | false => exact absurd h hne
  · rw [if_neg hd, hb', Option.some.injEq] at h
    cases ret with
    | true => exact absurd h.symm hne
    | false => exact iff_of_false hd Bool.false_ne_true

section Gradients

variable {I : State} {p : Point} {ret : Bool}

theorem drawAt_bedrock (hy : -63 ≤ p.2.1 ∧ p.2.1 ≤ -60)
    (h : types (gradientWorld I) p = some (if ret then .BEDROCK else .DEEPSLATE)) :
    drawAt I 0 p < odds 0 p.2.1 ret ↔ ret = true := by
  rw [types, gradientWorld, if_pos hy] at h
  exact draw_iff_of_type rfl rfl (by decide) h

theorem drawAt_deepslate (hy : 1 ≤ p.2.1 ∧ p.2.1 ≤ 7)
    (h : types (gradientWorld I) p = some (if ret then .DEEPSLATE else .STONE)) :
    drawAt I 1 p < odds 1 p.2.1 ret ↔ ret = true := by
  rw [types, gradientWorld, if_neg (by omega), if_pos hy] at h
  exact draw_iff_of_type rfl rfl (by decide) h

theorem gradientWorld_above (hy : 8 ≤ p.2.1) : gradientWorld I p = .other := by
  rw [gradientWorld, if_neg (by omega), if_neg (by omega)]

end Gradients

instance (r : Nat) (p q : Point) : Decidable (near r p q) := inferInstanceAs (Decidable (_ ∧ _))

/-- The gradients of a state, and some blocks around a position. -/
def veinWorld (I : State) (centre : Point) (blocks : Point → Block) (p : Point) : Block :=
  if near 1 p centre then blocks p else gradientWorld I p

/-- A block as the draws of a vein position allow it. -/
def Follows (I : State) (p : Point) (it : Option BlockType) : Prop :=
  (positionalDraw I oreKey 0 p < 7 / 10 ↔ isVein it = true) ∧
    (it = some .RAW ∨ it = some .ORE → positionalDraw I oreKey 1 p < 3 / 10) ∧
    (it = some .FILL → ¬ positionalDraw I oreKey 1 p < 1 / 10) ∧
    (it = some .RAW → positionalDraw I oreKey 2 p < 1 / 50) ∧
    (it = some .ORE → ¬ positionalDraw I oreKey 2 p < 1 / 50)

instance (I : State) (p : Point) (it : Option BlockType) : Decidable (Follows I p it) :=
  inferInstanceAs (Decidable (_ ∧ _))

section Vein

variable {I : State} {centre p : Point} {blocks : Point → Block}

theorem veinWorld_far (h : ¬ near 1 p centre) : veinWorld I centre blocks p = gradientWorld I p :=
  if_neg h

theorem near_of_isSome (hy : 8 ≤ p.2.1)
    (h : (types (veinWorld I centre blocks) p).isSome = true) : near 1 p centre := by
  by_contra hfar
  rw [types, veinWorld_far hfar, gradientWorld_above hy] at h
  cases h

theorem near_of_visible (hheight : 12 ≤ centre.2.1) (hp : near 3 p centre) (hint : Interior 1 p)
    {d : Point} (hd : d ∈ cube)
    (hsome : (types (veinWorld I centre blocks) (moved p d)).isSome = true) :
    near 1 (p.1 + d.1, p.2.1 + d.2.1, p.2.2 + d.2.2) centre := by
  obtain ⟨hx, hy, hz⟩ := mem_cube hd
  have hmoved : moved p d = (p.1 + d.1, p.2.1 + d.2.1, p.2.2 + d.2.2) := by
    rw [moved, hint.int32_add (by simp) (mem_offsets.mpr hx),
      hint.int32_add (by simp) (mem_offsets.mpr hy), hint.int32_add (by simp) (mem_offsets.mpr hz)]
  have hheight' := abs_le.mp hp.2.1
  have hdy := abs_le.mp hy
  rw [hmoved] at hsome
  exact near_of_isSome (by simp only; omega) hsome

/-- Seen from outside, a cube with a raw block in its centre only is no vein. -/
theorem near_of_confirmed (hheight : 12 ≤ centre.2.1) (hint : Interior 4 centre)
    (hraw : ∀ q, types (veinWorld I centre blocks) q = some .RAW → q = centre)
    (hp : near 3 p centre) (hconf : confirmed (types (veinWorld I centre blocks)) p) :
    near 1 p centre := by
  have hint' : Interior 1 p := hint.of_near hp
  by_contra hfar
  have hnone : adj (types (veinWorld I centre blocks)) .RAW p = 0 := by
    refine List.countP_eq_zero.mpr fun q hq htyp => hfar ?_
    obtain rfl := hraw q (of_decide_eq_true htyp)
    obtain ⟨hx, hy, hz⟩ := hint'.mem_box.mp hq
    exact ⟨abs_sub_comm p.1 _ ▸ hx, abs_sub_comm p.2.1 _ ▸ hy, abs_sub_comm p.2.2 _ ▸ hz⟩
  -- what is visible lies in the layer that faces the position
  have hlayer (c : Point → Bool) (hc : cube.countP c ≤ 9)
      (h : ∀ d ∈ cube, near 1 (p.1 + d.1, p.2.1 + d.2.1, p.2.2 + d.2.2) centre → c d = true) :
      False := by
    have hvisible : visible (types (veinWorld I centre blocks)) p ≤ cube.countP c :=
      visible_le_countP fun d hd hsome => h d hd (near_of_visible hheight hp hint' hd hsome)
    have hweight := raw_of_confirmed hconf (hvisible.trans hc)
    omega
  simp only [near, abs_le] at hfar hlayer
  have hside : p.1 < centre.1 - 1 ∨ centre.1 + 1 < p.1 ∨ p.2.1 < centre.2.1 - 1 ∨
      centre.2.1 + 1 < p.2.1 ∨ p.2.2 < centre.2.2 - 1 ∨ centre.2.2 + 1 < p.2.2 := by
    omega
  rcases hside with h | h | h | h | h | h
  · exact hlayer (fun d => 0 < d.1) (by decide) fun d _ hd => decide_eq_true (by omega)
  · exact hlayer (fun d => d.1 < 0) (by decide) fun d _ hd => decide_eq_true (by omega)
  · exact hlayer (fun d => 0 < d.2.1) (by decide) fun d _ hd => decide_eq_true (by omega)
  · exact hlayer (fun d => d.2.1 < 0) (by decide) fun d _ hd => decide_eq_true (by omega)
  · exact hlayer (fun d => 0 < d.2.2) (by decide) fun d _ hd => decide_eq_true (by omega)
  · exact hlayer (fun d => d.2.2 < 0) (by decide) fun d _ hd => decide_eq_true (by omega)

theorem placed_veinWorld (hheight : 12 ≤ centre.2.1) (hint : Interior 4 centre)
    (hraw : ∀ q, types (veinWorld I centre blocks) q = some .RAW → q = centre)
    (hfollows : ∀ p, near 1 p centre → Follows I p (types (veinWorld I centre blocks) p)) :
    Placed I (types (veinWorld I centre blocks)) := by
  intro k p ret htells
  have hgradient (hy : p.2.1 < 8) :
      types (veinWorld I centre blocks) p = types (gradientWorld I) p := by
    have hfar : ¬ near 1 p centre := by
      rintro ⟨-, hnear, -⟩
      have hnear := abs_le.mp hnear
      omega
    rw [types, types, veinWorld_far hfar]
  have hvein (h : (∃ q, types (veinWorld I centre blocks) q = some .RAW ∧ p ∈ box 3 q) ∧
      confirmed (types (veinWorld I centre blocks)) p) :
      Follows I p (types (veinWorld I centre blocks) p) := by
    obtain ⟨⟨q, hq, hbox⟩, hconf⟩ := h
    obtain rfl := hraw q hq
    have hint3 : Interior 3 q := fun n hn => by have := hint n hn; omega
    exact hfollows p (near_of_confirmed hheight hint hraw (hint3.mem_box.mp hbox) hconf)
  match k with
  | 0 => exact drawAt_bedrock htells.1 (hgradient (by have := htells.1.2; omega) ▸ htells.2)
  | 1 => exact drawAt_deepslate htells.1 (hgradient (by have := htells.1.2; omega) ▸ htells.2)
  | 2 =>
    obtain ⟨h, rfl⟩ := htells
    exact (hvein h).1
  | 3 =>
    obtain ⟨h, htyp⟩ := htells
    obtain ⟨-, hore, hfill, -⟩ := hvein h
    cases ret with
    | true => exact iff_of_true (hore htyp) rfl
    | false => exact iff_of_false (hfill htyp) Bool.false_ne_true
  | 4 =>
    obtain ⟨h, htyp⟩ := htells
    obtain ⟨-, -, -, hraw', hore⟩ := hvein h
    cases ret with
    | true => exact iff_of_true (hraw' htyp) rfl
    | false => exact iff_of_false (hore htyp) Bool.false_ne_true

end Vein

def COPPER_VEIN : List Block :=
  [.GRANITE, .GRANITE, .GRANITE, .GRANITE, .COPPER_ORE, .GRANITE, .GRANITE, .GRANITE, .other,
    .other, .GRANITE, .COPPER_ORE, .other, .RAW_COPPER_BLOCK, .GRANITE, .GRANITE, .GRANITE, .other,
    .GRANITE, .GRANITE, .COPPER_ORE, .GRANITE, .GRANITE, .GRANITE, .GRANITE, .COPPER_ORE, .GRANITE]

def copperWorld : Point → Block := veinWorld (worldState 0) (1, 23, 10) fun p =>
  COPPER_VEIN.getD (9 * p.1 + 3 * (p.2.1 - 22) + (p.2.2 - 9)).toNat .other

theorem interior_copper (r : Nat) (hr : r ≤ 4) : Interior r (1, 23, 10) := by
  simp only [Interior, List.forall_mem_cons, List.not_mem_nil, false_imp_iff, implies_true,
    and_true]
  omega

theorem follows_copper :
    ∀ p ∈ box 1 (1, 23, 10), Follows (worldState 0) p (types copperWorld p) := by
  decide +kernel

theorem raw_copper (q : Point) (h : types copperWorld q = some .RAW) : q = (1, 23, 10) := by
  have hcube : ∀ q ∈ box 1 (1, 23, 10), types copperWorld q = some .RAW → q = (1, 23, 10) := by
    decide
  by_cases hnear : near 1 q (1, 23, 10)
  · exact hcube q ((interior_copper 1 (by decide)).mem_box.mpr hnear) h
  · rw [types, copperWorld, veinWorld_far hnear, gradientWorld] at h
    split_ifs at h <;> exact absurd h (by decide)

theorem placed_copperWorld : Placed (worldState 0) (types copperWorld) :=
  placed_veinWorld (by decide) (interior_copper 4 (Nat.le_refl _)) raw_copper fun p hp =>
    follows_copper p ((interior_copper 1 (by decide)).mem_box.mpr hp)

section Copper

variable {chunks : List ChunkPos} (h : ⟨0, 0⟩ ∈ chunks)
include h

theorem typeAt_copper {p : Point} (hp : p ∈ (⟨0, 0⟩ : ChunkPos).points)
    (hrecorded : recorded p.2.1 (copperWorld p) = true ∨ types copperWorld p = none) :
    typeAt (entriesOf recorded copperWorld chunks) p = types copperWorld p := by
  ext typ
  rw [typeAt_entriesOf]
  refine ⟨fun htyp => htyp.2.2, fun htyp => ⟨⟨_, h, hp⟩, ?_, htyp⟩⟩
  refine hrecorded.resolve_right fun hnone => ?_
  cases hnone.symm.trans htyp

theorem typeAt_cube_copper {p : Point} (hp : p ∈ box 1 (1, 23, 10)) :
    typeAt (entriesOf recorded copperWorld chunks) p = types copperWorld p := by
  have hrecorded : ∀ p ∈ box 1 (1, 23, 10),
      recorded p.2.1 (copperWorld p) = true ∨ types copperWorld p = none := by decide
  refine typeAt_copper h (ChunkPos.mem_points.mpr ?_) (hrecorded p hp)
  obtain ⟨hx, hy, hz⟩ := (interior_copper 1 (by decide)).mem_box.mp hp
  simp only [abs_le] at hx hy hz
  simp only
  omega

theorem typeAt_raw_copper :
    typeAt (entriesOf recorded copperWorld chunks) (1, 23, 10) = some .RAW :=
  (typeAt_cube_copper h (by decide)).trans (by decide)

theorem inVein_copper : inVein (entriesOf recorded copperWorld chunks) (1, 23, 10) := by
  have hadj (typ : BlockType) :
      adj (typeAt (entriesOf recorded copperWorld chunks)) typ (1, 23, 10) =
        adj (types copperWorld) typ (1, 23, 10) :=
    List.countP_congr fun q hq => by rw [typeAt_cube_copper h hq]
  refine ⟨⟨_, typeAt_raw_copper h, by decide⟩, ?_⟩
  rw [confirmed, hadj, hadj, hadj]
  decide

theorem typeAt_bedrock_copper :
    typeAt (entriesOf recorded copperWorld chunks) (0, -63, 0) = some .BEDROCK := by
  have hbedrock : copperWorld (0, -63, 0) = .BEDROCK := by decide +kernel
  rw [typeAt_copper h (ChunkPos.mem_points.mpr (by decide)) (.inl (by rw [hbedrock]; rfl)), types,
    hbedrock]
  rfl

theorem typeAt_deepslate_copper :
    typeAt (entriesOf recorded copperWorld chunks) (0, 1, 0) = some .DEEPSLATE := by
  have hdeepslate : copperWorld (0, 1, 0) = .DEEPSLATE := by decide +kernel
  rw [typeAt_copper h (ChunkPos.mem_points.mpr (by decide)) (.inl (by rw [hdeepslate]; rfl)),
    types, hdeepslate]
  rfl

theorem observations_copper (k : Fin 5) :
    observations (entriesOf recorded copperWorld chunks) 31 k ≠ [] := by
  rw [observations_ne_nil]
  match k with
  | 0 => exact ⟨by decide, _, by decide, by decide, .inl (typeAt_bedrock_copper h)⟩
  | 1 => exact ⟨by decide, _, by decide, by decide, .inl (typeAt_deepslate_copper h)⟩
  | 2 => exact ⟨by decide, _, inVein_copper h⟩
  | 3 => exact ⟨by decide, _, inVein_copper h, by rw [typeAt_raw_copper h]; rfl⟩
  | 4 => exact ⟨by decide, _, inVein_copper h, .inl (typeAt_raw_copper h)⟩

end Copper

end SeedCracking.Jni
