import SeedCracking.Blocks.Veins
import SeedCracking.Collector.Scan

/-! What the vein loop sees beyond the scanned chunks. -/

namespace SeedCracking.Collector

open Blocks SeedCracking.Lists Words

def visible (find : Point → Option BlockType) (p : Point) : Nat :=
  (box 1 p).countP fun q => (find q).isSome

theorem adj_le_visible (find : Point → Option BlockType) (p : Point) :
    adj find .ORE p + adj find .FILL p + adj find .RAW p ≤ visible find p := by
  apply countP_add_add_le
  intro q _
  cases find q with
  | none => simp
  | some typ => cases typ <;> simp

/-- The more of a neighbourhood is hidden, the more raw blocks a vein needs. -/
theorem raw_of_confirmed {find : Point → Option BlockType} {p : Point} {n : Nat}
    (h : confirmed find p) (hn : visible find p ≤ n) : 18 ≤ n + 2 * adj find .RAW p := by
  have hsum := adj_le_visible find p
  have h18 := h.1
  omega

def cube : List Point := neighbourhood (0, 0, 0)

def moved (p d : Point) : Point := (int32 (p.1 + d.1), int32 (p.2.1 + d.2.1), int32 (p.2.2 + d.2.2))

theorem box_eq_map (p : Point) : box 1 p = cube.map (moved p) := by
  simp only [box, cube, neighbourhood, List.map_flatMap, List.map_map, Int.zero_add]
  rfl

theorem mem_cube {d : Point} (hd : d ∈ cube) : |d.1| ≤ 1 ∧ |d.2.1| ≤ 1 ∧ |d.2.2| ≤ 1 := by
  revert d
  decide

theorem visible_le_countP {find : Point → Option BlockType} {p : Point} {c : Point → Bool}
    (h : ∀ d ∈ cube, (find (moved p d)).isSome = true → c d = true) :
    visible find p ≤ cube.countP c := by
  rw [visible, box_eq_map, List.countP_map]
  exact List.countP_mono_left h

def IntPoint (p : Point) : Prop := ∀ n ∈ [p.1, p.2.1, p.2.2], -2 ^ 31 ≤ n ∧ n < 2 ^ 31

theorem intPoint_of_mem_box {r : Nat} {p q : Point} (h : p ∈ box r q) : IntPoint p := by
  simp only [box, List.mem_flatMap, List.mem_map] at h
  obtain ⟨dx, -, dy, -, dz, -, rfl⟩ := h
  simp only [IntPoint, List.forall_mem_cons, List.not_mem_nil, false_imp_iff, implies_true,
    and_true]
  exact ⟨int32_range _, int32_range _, int32_range _⟩

section Border

variable {world : Point → Block} {chunks : List ChunkPos} {p : Point}

theorem covered_of_isSome
    (h : (typeAt (entriesOf recorded world chunks) p).isSome = true) : Covered chunks p := by
  obtain ⟨typ, htyp⟩ := Option.isSome_iff_exists.mp h
  exact (typeAt_entriesOf.mp htyp).1

theorem int32_add_cases {n d : Int} (hn : -2 ^ 31 ≤ n ∧ n < 2 ^ 31) (hd : |d| ≤ 1) :
    int32 (n + d) = n + d ∨ n = 2 ^ 31 - 1 ∧ d = 1 ∧ int32 (n + d) = -2 ^ 31 ∨
      n = -2 ^ 31 ∧ d = -1 ∧ int32 (n + d) = 2 ^ 31 - 1 := by
  rw [abs_le] at hd
  rw [int32, Int.bmod_def]
  omega

theorem visible_le_nine (hp : IntPoint p) (hy : p.2.1 < -63 ∨ 50 < p.2.1) :
    visible (typeAt (entriesOf recorded world chunks)) p ≤ 9 := by
  have hpy := hp p.2.1 (by simp)
  rcases hy with hy | hy
  · refine (visible_le_countP (c := fun d => 0 < d.2.1) ?_).trans (by decide)
    intro d hd hsome
    obtain ⟨pos, -, hq⟩ := covered_of_isSome hsome
    have hheight := (ChunkPos.mem_points.mp hq).2.1
    have hsum := int32_add_cases hpy (mem_cube hd).2.1
    simp only [moved, decide_eq_true_eq] at hheight ⊢
    omega
  · refine (visible_le_countP (c := fun d => d.2.1 < 0) ?_).trans (by decide)
    intro d hd hsome
    obtain ⟨pos, -, hq⟩ := covered_of_isSome hsome
    have hheight := (ChunkPos.mem_points.mp hq).2.1
    have hsum := int32_add_cases hpy (mem_cube hd).2.1
    simp only [moved, decide_eq_true_eq] at hheight ⊢
    omega

def inward (x : Int) : Int := if x % 16 = 15 then -1 else 1

theorem inward_cases (x : Int) : inward x = -1 ∨ inward x = 1 := by
  rw [inward]
  split <;> simp

theorem inward_chunk {x d n : Int} (hx : -2 ^ 31 ≤ x ∧ x < 2 ^ 31) (hd : d = 0 ∨ d = inward x) :
    16 * n ≤ int32 (x + d) ∧ int32 (x + d) < 16 * n + 16 ↔ 16 * n ≤ x ∧ x < 16 * n + 16 := by
  have hsum : int32 (x + d) = x + d := by
    rw [inward] at hd
    split at hd
    case isTrue => exact int32_of_range (by omega) (by omega)
    case isFalse => exact int32_of_range (by omega) (by omega)
  rw [hsum]
  rw [inward] at hd
  split at hd <;> omega

/-- At a position that is not scanned, at least the four columns of its chunk are hidden. -/
theorem visible_le_fifteen (hp : IntPoint p) (hcov : ¬ Covered chunks p) :
    visible (typeAt (entriesOf recorded world chunks)) p ≤ 15 := by
  by_cases hy : -63 ≤ p.2.1 ∧ p.2.1 ≤ 50
  · refine (visible_le_countP (c := fun d => ¬ ((d.1 = 0 ∨ d.1 = inward p.1) ∧
      (d.2.2 = 0 ∨ d.2.2 = inward p.2.2))) ?_).trans ?_
    · intro d _ hsome
      obtain ⟨pos, hpos, hq⟩ := covered_of_isSome hsome
      rw [ChunkPos.mem_points] at hq
      rw [decide_eq_true_eq]
      rintro ⟨hx, hz⟩
      refine hcov ⟨pos, hpos, ChunkPos.mem_points.mpr ⟨?_, hy, ?_⟩⟩
      · exact (inward_chunk (hp p.1 (by simp)) hx).mp hq.1
      · exact (inward_chunk (hp p.2.2 (by simp)) hz).mp hq.2.2
    · rcases inward_cases p.1 with hx | hx <;> rcases inward_cases p.2.2 with hz | hz <;>
        rw [hx, hz] <;> decide
  · exact (visible_le_nine hp (by omega)).trans (by decide)

theorem exists_covered_near {typ : BlockType}
    (h : adj (typeAt (entriesOf recorded world chunks)) typ p ≠ 0) :
    ∃ q ∈ box 1 p, Covered chunks q ∧ (Interior 1 p → near 1 q p) := by
  obtain ⟨q, hq, htyp⟩ := List.countP_pos_iff.mp (Nat.pos_of_ne_zero h)
  rw [decide_eq_true_eq] at htyp
  exact ⟨q, hq, (typeAt_entriesOf.mp htyp).1, fun hinterior => hinterior.mem_box.mp hq⟩

/-- The vein loop comes to a position and pushes a draw for it to `xvs3`. -/
def Pushed (entries : List BlockEntry) (mode : Nat) (p : Point) : Prop :=
  p ∈ (scan (blocksOf entries) mode).maybe_veins ∧
    ∃ s, (veinStep mode (fun q => (blocksOf entries)[q]?) s p).xvs3 ≠ s.xvs3

theorem pushed_iff {entries : List BlockEntry} {mode : Nat} :
    Pushed entries mode p ↔ mode &&& 4 ≠ 0 ∧ inVein entries p := by
  have hsome : Nonempty Veins := ⟨⟨[], [], []⟩⟩
  simp only [Pushed, veinStep_eq, mem_maybe_veins, blocksOf_find, inVein, atVein]
  by_cases hconf : confirmed (typeAt entries) p
  · simp [hconf, veinPush_ne_nil, and_comm]
  · simp [hconf]

/-- A position with a vein draw lies in a scanned chunk, unless there are at least two raw blocks
around it, or five where it is not at a height that is scanned. -/
theorem covered_of_pushed {mode : Nat} (hp : Pushed (entriesOf recorded world chunks) mode p) :
    (Covered chunks p ∨ 2 ≤ adj (typeAt (entriesOf recorded world chunks)) .RAW p) ∧
    (-63 ≤ p.2.1 ∧ p.2.1 ≤ 50 ∨ 5 ≤ adj (typeAt (entriesOf recorded world chunks)) .RAW p) ∧
    ∃ q ∈ box 1 p, Covered chunks q ∧ (Interior 1 p → near 1 q p) := by
  obtain ⟨-, ⟨_, -, hbox⟩, hconf⟩ := pushed_iff.mp hp
  have hint := intPoint_of_mem_box hbox
  refine ⟨?_, ?_, exists_covered_near hconf.2.1⟩
  · by_cases hcov : Covered chunks p
    · exact .inl hcov
    · have hraw := raw_of_confirmed hconf (visible_le_fifteen hint hcov)
      exact .inr (by omega)
  · by_cases hy : -63 ≤ p.2.1 ∧ p.2.1 ≤ 50
    · exact .inl hy
    · have hnine : visible (typeAt (entriesOf recorded world chunks)) p ≤ 9 :=
        visible_le_nine hint (by omega)
      have hraw := raw_of_confirmed hconf hnine
      exact .inr (by omega)

end Border

instance (chunks : List ChunkPos) (p : Point) : Decidable (Covered chunks p) :=
  decidable_of_iff (∃ pos ∈ chunks, (16 * pos.x ≤ p.1 ∧ p.1 < 16 * pos.x + 16) ∧
    (-63 ≤ p.2.1 ∧ p.2.1 ≤ 50) ∧ 16 * pos.z ≤ p.2.2 ∧ p.2.2 < 16 * pos.z + 16)
    (by simp only [Covered, ChunkPos.mem_points])

def corner (p : Point) : Block :=
  if p = (-1, 0, 0) ∨ p = (0, 0, -1) then .RAW_IRON_BLOCK else .GRANITE

def cornerChunks : List ChunkPos := [⟨-1, -1⟩, ⟨-1, 0⟩, ⟨0, -1⟩]

theorem typeAt_corner {p : Point} {typ : BlockType} :
    typeAt (entriesOf recorded corner cornerChunks) p = some typ ↔
      Covered cornerChunks p ∧ (STATES_FULL (corner p)).map BlockType.ofInt = some typ := by
  have hrecorded : recorded p.2.1 (corner p) = true := by
    rw [corner]
    split <;> rfl
  rw [typeAt_entriesOf, hrecorded]
  simp

theorem adj_corner (typ : BlockType) (p : Point) :
    adj (typeAt (entriesOf recorded corner cornerChunks)) typ p = (box 1 p).countP fun q =>
      Covered cornerChunks q ∧ (STATES_FULL (corner q)).map BlockType.ofInt = some typ := by
  simp only [adj, typeAt_corner]

theorem pushed_corner : Pushed (entriesOf recorded corner cornerChunks) 31 (0, 0, 0) := by
  have hraw : typeAt (entriesOf recorded corner cornerChunks) (-1, 0, 0) = some .RAW :=
    typeAt_corner.mpr (by decide)
  refine pushed_iff.mpr ⟨by decide, ⟨_, hraw, by decide⟩, ?_⟩
  rw [confirmed, adj_corner, adj_corner, adj_corner]
  decide

theorem not_covered_of_pushed : ¬ ∀ (world : Point → Block) (chunks : List ChunkPos) (mode : Nat)
    (p : Point), Pushed (entriesOf recorded world chunks) mode p → Covered chunks p := by
  intro h
  have hcov := h corner cornerChunks 31 _ pushed_corner
  revert hcov
  decide

theorem covered_of_pushed_corner :
    2 ≤ adj (typeAt (entriesOf recorded corner cornerChunks)) .RAW (0, 0, 0) :=
  (covered_of_pushed pushed_corner).1.resolve_left (by decide)

end SeedCracking.Collector
