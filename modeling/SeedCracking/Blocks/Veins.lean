import SeedCracking.Blocks.Usable

/-! How the lists of the three vein channels depend on each other. -/

namespace SeedCracking.Blocks

open SeedCracking.Lists Rounding Std Words

def isOre (it : Option BlockType) : Bool :=
  it = some .RAW ∨ it = some .ORE

def seedAt (p : Point) : BitVec 64 := getSeed p.1 p.2.1 p.2.2

section Pushes

variable (xv : BitVec 64) (it : Option BlockType)

theorem orePush_xv : (orePush 31 xv it).map Observation.xv = if isVein it then [xv] else [] := by
  cases it with
  | none => rfl
  | some typ => cases typ <;> rfl

theorem orePush_true : ((orePush 31 xv it).filter Observation.ret).map Observation.xv =
    if isOre it then [xv] else [] := by
  cases it with
  | none => rfl
  | some typ => cases typ <;> rfl

theorem rawPush_xv : (rawPush 31 xv it).map Observation.xv = if isOre it then [xv] else [] := by
  cases it with
  | none => rfl
  | some typ => cases typ <;> rfl

end Pushes

section Positions

variable (entries : List BlockEntry)

def veinPositions : List Point :=
  (scan (blocksOf entries) 31).maybe_veins.toList.filter (confirmed (typeAt entries))

theorem veinPositions_nodup : (veinPositions entries).Nodup := by
  refine List.Nodup.filter _ (TreeSet.distinct_toList.imp ?_)
  rintro p _ hp rfl
  exact hp ReflCmp.compare_self

theorem mem_veinPositions {p : Point} : p ∈ veinPositions entries ↔ inVein entries p := by
  simp only [veinPositions, List.mem_filter, TreeSet.mem_toList, mem_maybe_veins, blocksOf_find,
    decide_eq_true_eq, inVein]

theorem flatMap_atVein (push : Nat → BitVec 64 → Option BlockType → List Observation) :
    (scan (blocksOf entries) 31).maybe_veins.toList.flatMap
        (atVein push 31 fun q => (blocksOf entries)[q]?) =
      (veinPositions entries).flatMap fun p => push 31 (seedAt p) (typeAt entries p) := by
  rw [veinPositions, flatMap_filter, find_blocksOf]
  simp only [decide_eq_true_eq]
  rfl

theorem observations_vein : observations entries 31 2 =
    (veinPositions entries).map
      fun p => ⟨seedAt p, float64 0.7, isVein (typeAt entries p)⟩ := by
  change (veins _ 31).xvs3 = _
  rw [veins_xvs3, flatMap_atVein, List.map_eq_flatMap]
  rfl

theorem observations_ore : observations entries 31 3 =
    (veinPositions entries).flatMap fun p => orePush 31 (seedAt p) (typeAt entries p) := by
  change (veins _ 31).xvs4 = _
  rw [veins_xvs4, flatMap_atVein]

theorem observations_raw : observations entries 31 4 =
    (veinPositions entries).flatMap fun p => rawPush 31 (seedAt p) (typeAt entries p) := by
  change (veins _ 31).xvs5 = _
  rw [veins_xvs5, flatMap_atVein]

theorem vein_true : ((observations entries 31 2).filter Observation.ret).map Observation.xv =
    ((veinPositions entries).filter fun p => isVein (typeAt entries p)).map seedAt := by
  rw [observations_vein, List.filter_map, List.map_map]
  rfl

theorem ore_xv : (observations entries 31 3).map Observation.xv =
    ((veinPositions entries).filter fun p => isVein (typeAt entries p)).map seedAt := by
  rw [observations_ore, List.map_flatMap, map_filter]
  simp only [orePush_xv]

theorem ore_true : ((observations entries 31 3).filter Observation.ret).map Observation.xv =
    ((veinPositions entries).filter fun p => isOre (typeAt entries p)).map seedAt := by
  rw [observations_ore, List.filter_flatMap, List.map_flatMap, map_filter]
  simp only [orePush_true]

theorem raw_xv : (observations entries 31 4).map Observation.xv =
    ((veinPositions entries).filter fun p => isOre (typeAt entries p)).map seedAt := by
  rw [observations_raw, List.map_flatMap, map_filter]
  simp only [rawPush_xv]

end Positions

def near (r : Nat) (p q : Point) : Prop :=
  |p.1 - q.1| ≤ r ∧ |p.2.1 - q.2.1| ≤ r ∧ |p.2.2 - q.2.2| ≤ r

/-- Coordinates to which an `int` of at most `r` can be added. -/
def Interior (r : Nat) (p : Point) : Prop :=
  ∀ n ∈ [p.1, p.2.1, p.2.2], -2 ^ 31 + r ≤ n ∧ n + r < 2 ^ 31

def neighbourhood (p : Point) : List Point :=
  (offsets 1).flatMap fun dx => (offsets 1).flatMap fun dy => (offsets 1).map fun dz =>
    (p.1 + dx, p.2.1 + dy, p.2.2 + dz)

def count (find : Point → Option BlockType) (typ : BlockType) (p : Point) : Nat :=
  (neighbourhood p).countP fun q => find q = some typ

def Surrounded (find : Point → Option BlockType) (p : Point) : Prop :=
  18 ≤ count find .ORE p + count find .FILL p + 3 * count find .RAW p ∧
    0 < count find .FILL p ∧ 0 < count find .ORE p + count find .RAW p

instance (find : Point → Option BlockType) (p : Point) : Decidable (Surrounded find p) :=
  inferInstanceAs (Decidable (_ ∧ _))

/-- A coordinate near a raw block whose neighbourhood is that of a vein. -/
def VeinAt (find : Point → Option BlockType) (p : Point) : Prop :=
  (∃ q, find q = some .RAW ∧ near 3 p q) ∧ Surrounded find p

theorem Interior.int32_add {r : Nat} {p : Point} (h : Interior r p) {n : Int}
    (hn : n ∈ [p.1, p.2.1, p.2.2]) {d : Int} (hd : d ∈ offsets r) : int32 (n + d) = n + d := by
  obtain ⟨hlo, hhi⟩ := h n hn
  have hd := abs_le.mp (mem_offsets.mp hd)
  exact int32_of_range (by omega) (by omega)

theorem Interior.mem_box {r : Nat} {p q : Point} (h : Interior r q) :
    p ∈ box r q ↔ near r p q := by
  simp only [box, List.mem_flatMap, List.mem_map]
  constructor
  · rintro ⟨dx, hx, dy, hy, dz, hz, rfl⟩
    rw [h.int32_add (by simp) hx, h.int32_add (by simp) hy, h.int32_add (by simp) hz]
    simp only [near, add_sub_cancel_left]
    exact ⟨mem_offsets.mp hx, mem_offsets.mp hy, mem_offsets.mp hz⟩
  · rintro ⟨hx, hy, hz⟩
    have hx := mem_offsets.mpr hx
    have hy := mem_offsets.mpr hy
    have hz := mem_offsets.mpr hz
    refine ⟨_, hx, _, hy, _, hz, ?_⟩
    rw [h.int32_add (by simp) hx, h.int32_add (by simp) hy, h.int32_add (by simp) hz]
    simp

theorem Interior.box_eq {p : Point} (h : Interior 1 p) : box 1 p = neighbourhood p := by
  refine List.flatMap_congr fun dx hx => List.flatMap_congr fun dy hy =>
    List.map_congr_left fun dz hz => ?_
  rw [h.int32_add (by simp) hx, h.int32_add (by simp) hy, h.int32_add (by simp) hz]

theorem Interior.of_near {r r' : Nat} {p q : Point} (h : Interior (r + r') q) (hp : near r p q) :
    Interior r' p := by
  obtain ⟨hx, hy, hz⟩ := hp
  rw [abs_le] at hx hy hz
  simp only [Interior, List.forall_mem_cons, List.not_mem_nil, false_imp_iff, implies_true,
    and_true] at h ⊢
  omega

section Nested

variable {entries : List BlockEntry}

theorem inVein_iff (hraw : ∀ q, typeAt entries q = some .RAW → Interior 4 q) (p : Point) :
    inVein entries p ↔ VeinAt (typeAt entries) p := by
  have hadj (hp : Interior 1 p) : confirmed (typeAt entries) p ↔ Surrounded (typeAt entries) p := by
    simp only [confirmed, Surrounded, adj, count, hp.box_eq]
    omega
  constructor
  · rintro ⟨⟨q, hq, hp⟩, hconf⟩
    have hnear := (Interior.mem_box fun n hn => by have := hraw q hq n hn; omega).mp hp
    exact ⟨⟨q, hq, hnear⟩, (hadj ((hraw q hq).of_near hnear)).mp hconf⟩
  · rintro ⟨⟨q, hq, hnear⟩, hcount⟩
    have hp := (Interior.mem_box fun n hn => by have := hraw q hq n hn; omega).mpr hnear
    exact ⟨⟨q, hq, hp⟩, (hadj ((hraw q hq).of_near hnear)).mpr hcount⟩

/-- There is a vein draw for each coordinate of a vein, if no sum overflows around a raw block; an
ore draw for each of these that a vein replaced; and a raw draw for each of those that became
ore. -/
theorem veins_nested (entries : List BlockEntry) : ∃ ps : List Point,
    ps.Nodup ∧
    ((∀ q, typeAt entries q = some .RAW → Interior 4 q) →
      ∀ p, p ∈ ps ↔ VeinAt (typeAt entries) p) ∧
    observations entries 31 2 =
      ps.map (fun p => ⟨seedAt p, float64 0.7, isVein (typeAt entries p)⟩) ∧
    (observations entries 31 3).map Observation.xv =
      (ps.filter fun p => isVein (typeAt entries p)).map seedAt ∧
    (observations entries 31 4).map Observation.xv =
      (ps.filter fun p => isOre (typeAt entries p)).map seedAt ∧
    ((observations entries 31 2).filter Observation.ret).map Observation.xv =
      (observations entries 31 3).map Observation.xv ∧
    ((observations entries 31 3).filter Observation.ret).map Observation.xv =
      (observations entries 31 4).map Observation.xv :=
  ⟨veinPositions entries, veinPositions_nodup entries,
    fun hraw p => (mem_veinPositions entries).trans (inVein_iff hraw p),
    observations_vein entries, ore_xv entries, raw_xv entries,
    (vein_true entries).trans (ore_xv entries).symm,
    (ore_true entries).trans (raw_xv entries).symm⟩

end Nested

def cluster : List BlockEntry :=
  [⟨0, 0, 0, 1⟩, ⟨1, 0, 0, 1⟩, ⟨0, 1, 0, 1⟩, ⟨0, 0, 1, 1⟩, ⟨1, 1, 0, 1⟩, ⟨1, 0, 1, 3⟩, ⟨0, 1, 1, 3⟩,
    ⟨1, 1, 1, 3⟩]

theorem veins_nested_cluster : ∃ ps : List Point, ps.Nodup ∧ (0, 0, 0) ∈ ps ∧
    observations cluster 31 2 =
      ps.map fun p => ⟨seedAt p, float64 0.7, isVein (typeAt cluster p)⟩ := by
  have hraw : ∀ q, typeAt cluster q = some .RAW → Interior 4 q := by
    intro q hq
    obtain ⟨e, he, rfl, -⟩ := mem_of_typeAt hq
    have hcluster : ∀ e ∈ cluster, ∀ n ∈ [e.x, e.y, e.z], -2 ^ 31 + 4 ≤ n ∧ n + 4 < 2 ^ 31 := by
      decide
    exact hcluster e he
  obtain ⟨ps, hnodup, hmem, hvein, -⟩ := veins_nested cluster
  have hcount : Surrounded (typeAt cluster) (0, 0, 0) := by decide
  exact ⟨ps, hnodup, (hmem hraw _).mpr ⟨⟨(0, 0, 0), rfl, by simp [near]⟩, hcount⟩, hvein⟩

def seam : List BlockEntry :=
  [⟨2147483647, 0, 0, 1⟩, ⟨2147483647, 0, 1, 1⟩, ⟨2147483647, 0, -1, 1⟩, ⟨2147483647, 1, 0, 1⟩,
    ⟨2147483647, 1, 1, 1⟩, ⟨-2147483648, 0, 0, 3⟩, ⟨-2147483648, 0, 1, 3⟩, ⟨-2147483648, 0, -1, 3⟩]

theorem not_veinAt_seam (p : Point) : ¬ VeinAt (typeAt seam) p := by
  rintro ⟨⟨q, hq, hnear⟩, -, hfill, -⟩
  obtain ⟨r, hr, htyp⟩ := List.countP_pos_iff.mp hfill
  obtain ⟨e, he, rfl, hraw⟩ := mem_of_typeAt hq
  obtain ⟨e', he', rfl, hfiller⟩ := mem_of_typeAt (of_decide_eq_true htyp)
  have hraws : ∀ e ∈ seam, BlockType.ofInt e.typ = .RAW → e.x = 2147483647 := by decide
  have hfillers : ∀ e ∈ seam, BlockType.ofInt e.typ = .FILL → e.x = -2147483648 := by decide
  have hx := hraws e he hraw
  have hx' := hfillers e' he' hfiller
  simp only [neighbourhood, List.mem_flatMap, List.mem_map, BlockEntry.point, Prod.mk.injEq] at hr
  obtain ⟨dx, hdx, _, _, _, _, hsum, -⟩ := hr
  have hdx := abs_le.mp (mem_offsets.mp hdx)
  have hnear := abs_le.mp hnear.1
  simp only [BlockEntry.point] at hnear
  omega

/-- Across the seam the sums wrap around, and the vein loop takes the two groups for one vein. -/
theorem not_veins_nested : ¬ ∀ entries : List BlockEntry, ∃ ps : List Point,
    ps.Nodup ∧ (∀ p, p ∈ ps ↔ VeinAt (typeAt entries) p) ∧
      observations entries 31 2 =
        ps.map fun p => ⟨seedAt p, float64 0.7, isVein (typeAt entries p)⟩ := by
  intro h
  obtain ⟨ps, -, hmem, hvein⟩ := h seam
  obtain rfl : ps = [] := List.eq_nil_iff_forall_not_mem.mpr
    fun p hp => not_veinAt_seam p ((hmem p).mp hp)
  have hfound : inVein seam (-2147483648, 0, 0) :=
    ⟨⟨(2147483647, 0, 0), rfl, by decide⟩, by decide⟩
  exact (observations_ne_nil seam 31 2).mpr ⟨by decide, _, hfound⟩ hvein

end SeedCracking.Blocks
