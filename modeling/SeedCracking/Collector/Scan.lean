import SeedCracking.Blocks.Observations

/-! What scanning a chunk records. -/

namespace SeedCracking.Collector

open Blocks

inductive Block
  | BEDROCK
  | RAW_IRON_BLOCK
  | RAW_COPPER_BLOCK
  | DEEPSLATE_IRON_ORE
  | COPPER_ORE
  | TUFF
  | GRANITE
  | STONE
  | DEEPSLATE
  | other
  deriving DecidableEq

/-! The constants of `block_type`, as the bindings give them. -/

namespace BedrockNative

def BEDROCK : Int := 0
def RAW : Int := 1
def ORE : Int := 2
def FILL : Int := 3
def STONE : Int := 4
def DEEPSLATE : Int := 5

end BedrockNative

def STATES : Block → Option Int
  | .BEDROCK => some BedrockNative.BEDROCK
  | .RAW_IRON_BLOCK | .RAW_COPPER_BLOCK => some BedrockNative.RAW
  | .DEEPSLATE_IRON_ORE | .COPPER_ORE => some BedrockNative.ORE
  | .TUFF | .GRANITE => some BedrockNative.FILL
  | _ => none

def STATES_FULL : Block → Option Int
  | .STONE => some BedrockNative.STONE
  | .DEEPSLATE => some BedrockNative.DEEPSLATE
  | b => STATES b

/-- The filter of `scanChunk`. -/
def recorded (y : Int) (b : Block) : Bool :=
  (STATES b).isSome || (1 ≤ y && y ≤ 7 && (STATES_FULL b).isSome)

@[ext] structure ChunkPos where
  x : Int
  z : Int
  deriving DecidableEq

def ChunkPos.points (pos : ChunkPos) : List Point :=
  (List.range 16).flatMap fun x : Nat => (List.range 16).flatMap fun z : Nat =>
    (List.range 114).map fun y : Nat => (16 * pos.x + x, (y : Int) - 63, 16 * pos.z + z)

/-- What is recorded for the block at a position, if it passes a filter. -/
def entryAt (keep : Int → Block → Bool) (world : Point → Block) (p : Point) : Option BlockEntry :=
  if keep p.2.1 (world p) then (STATES_FULL (world p)).map fun typ => ⟨p.1, p.2.1, p.2.2, typ⟩
  else none

def chunkEntries (keep : Int → Block → Bool) (world : Point → Block) (pos : ChunkPos) :
    List BlockEntry :=
  pos.points.filterMap (entryAt keep world)

def entriesOf (keep : Int → Block → Bool) (world : Point → Block) (chunks : List ChunkPos) :
    List BlockEntry :=
  chunks.flatMap (chunkEntries keep world)

def full (_ : Int) (b : Block) : Bool := (STATES_FULL b).isSome

/-- Whether a position lies in one of the chunks, at a height that is scanned. -/
def Covered (chunks : List ChunkPos) (p : Point) : Prop := ∃ pos ∈ chunks, p ∈ pos.points

theorem ChunkPos.mem_points {pos : ChunkPos} {p : Point} :
    p ∈ pos.points ↔ (16 * pos.x ≤ p.1 ∧ p.1 < 16 * pos.x + 16) ∧ (-63 ≤ p.2.1 ∧ p.2.1 ≤ 50) ∧
      16 * pos.z ≤ p.2.2 ∧ p.2.2 < 16 * pos.z + 16 := by
  simp only [ChunkPos.points, List.mem_flatMap, List.mem_map, List.mem_range]
  constructor
  · rintro ⟨x, hx, z, hz, y, hy, rfl⟩
    simp only
    omega
  · rintro ⟨⟨hx0, hx1⟩, ⟨hy0, hy1⟩, hz0, hz1⟩
    refine ⟨(p.1 - 16 * pos.x).toNat, by omega, (p.2.2 - 16 * pos.z).toNat, by omega,
      (p.2.1 + 63).toNat, by omega, ?_⟩
    ext
    · simp only
      omega
    · simp only
      omega
    · simp only
      omega

theorem ChunkPos.points_ne_nil (pos : ChunkPos) : pos.points ≠ [] := by
  have hp : (16 * pos.x, 0, 16 * pos.z) ∈ pos.points := by
    rw [ChunkPos.mem_points]
    simp
  exact List.ne_nil_of_mem hp

theorem ChunkPos.eq_of_mem_points {pos pos' : ChunkPos} {p : Point} (h : p ∈ pos.points)
    (h' : p ∈ pos'.points) : pos = pos' := by
  rw [ChunkPos.mem_points] at h h'
  ext
  · omega
  · omega

theorem ChunkPos.points_nodup (pos : ChunkPos) : pos.points.Nodup := by
  rw [ChunkPos.points, List.nodup_flatMap]
  refine ⟨fun x _ => List.nodup_flatMap.mpr ⟨fun z _ => ?_, ?_⟩, ?_⟩
  · refine List.Nodup.map (fun y y' h => ?_) List.nodup_range
    simpa using h
  · refine List.nodup_range.imp fun {z z'} hz => ?_
    change List.Disjoint _ _
    rw [List.disjoint_left]
    intro p hp hp'
    simp only [List.mem_map] at hp hp'
    obtain ⟨y, -, rfl⟩ := hp
    obtain ⟨y', -, h⟩ := hp'
    simp only [Prod.mk.injEq] at h
    omega
  · refine List.nodup_range.imp fun {x x'} hx => ?_
    change List.Disjoint _ _
    rw [List.disjoint_left]
    intro p hp hp'
    simp only [List.mem_flatMap, List.mem_map] at hp hp'
    obtain ⟨z, -, y, -, rfl⟩ := hp
    obtain ⟨z', -, y', -, h⟩ := hp'
    simp only [Prod.mk.injEq] at h
    omega

variable {keep : Int → Block → Bool} {world : Point → Block} {chunks : List ChunkPos}

theorem entryAt_point {p : Point} {e : BlockEntry} (h : entryAt keep world p = some e) :
    e.point = p := by
  rw [entryAt] at h
  split at h
  case isTrue =>
    obtain ⟨typ, -, rfl⟩ := Option.map_eq_some_iff.mp h
    rfl
  case isFalse => cases h

theorem mem_entriesOf {e : BlockEntry} :
    e ∈ entriesOf keep world chunks ↔ Covered chunks e.point ∧
      keep e.point.2.1 (world e.point) = true ∧ STATES_FULL (world e.point) = some e.typ := by
  simp only [entriesOf, List.mem_flatMap, chunkEntries, List.mem_filterMap, entryAt, Covered]
  constructor
  · rintro ⟨pos, hpos, p, hp, hkeep⟩
    split at hkeep
    case isTrue h =>
      obtain ⟨typ, htyp, rfl⟩ := Option.map_eq_some_iff.mp hkeep
      exact ⟨⟨pos, hpos, hp⟩, h, htyp⟩
    case isFalse => cases hkeep
  · rintro ⟨⟨pos, hpos, hp⟩, h, htyp⟩
    refine ⟨pos, hpos, e.point, hp, ?_⟩
    rw [if_pos h, htyp]
    rfl

theorem typeAt_entriesOf {p : Point} {typ : BlockType} :
    typeAt (entriesOf keep world chunks) p = some typ ↔ Covered chunks p ∧
      keep p.2.1 (world p) = true ∧ (STATES_FULL (world p)).map BlockType.ofInt = some typ := by
  have hfun : ∀ e ∈ entriesOf keep world chunks, ∀ e' ∈ entriesOf keep world chunks,
      e.point = e'.point → e.typ = e'.typ := by
    intro e he e' he' hp
    have h := (mem_entriesOf.mp he).2.2
    rw [hp, (mem_entriesOf.mp he').2.2] at h
    exact (Option.some.inj h).symm
  rw [typeAt_eq_some_iff hfun]
  constructor
  · rintro ⟨e, he, rfl, rfl⟩
    obtain ⟨hcov, hkeep, htyp⟩ := mem_entriesOf.mp he
    exact ⟨hcov, hkeep, by rw [htyp]; rfl⟩
  · rintro ⟨hcov, hkeep, htyp⟩
    obtain ⟨n, hn, rfl⟩ := Option.map_eq_some_iff.mp htyp
    exact ⟨⟨p.1, p.2.1, p.2.2, n⟩, mem_entriesOf.mpr ⟨hcov, hkeep, hn⟩, rfl, rfl⟩

end SeedCracking.Collector
