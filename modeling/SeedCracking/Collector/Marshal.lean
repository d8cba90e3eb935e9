import SeedCracking.Collector.Recorded
import SeedCracking.Memory.Bytes

/-! How the entries get from `startCracking` to `bedrockseed$crack`. -/

namespace SeedCracking.Collector

open Blocks Memory Transition

abbrev Layout := List (String × Nat)

def LAYOUT : Layout := [("x", 4), ("y", 4), ("z", 4), ("typ", 4)]

def Layout.byteSize (l : Layout) : Nat := (l.map Prod.snd).sum

def Layout.byteOffset (l : Layout) (name : String) : Nat :=
  ((l.takeWhile fun member => member.1 ≠ name).map Prod.snd).sum

def alignUp (offset align : Nat) : Nat := (offset + align - 1) / align * align

/-- Where the compiler puts a member after `offset` bytes: each is aligned to its size. -/
def offsetof (name : String) : Layout → Nat → Nat
  | [], offset => offset
  | (member, size) :: rest, offset =>
    if member = name then alignUp offset size
    else offsetof name rest (alignUp offset size + size)

def block_entry : Layout := [("x", 4), ("y", 4), ("z", 4), ("typ", 4)]

def sizeof_block_entry : Nat :=
  alignUp (block_entry.foldl (fun offset member => alignUp offset member.2 + member.2) 0) 4

/-- The bindings and the compiler agree, and the members follow each other without gaps. -/
theorem layout_eq : sizeof_block_entry = 16 ∧ LAYOUT.byteSize = 16 ∧
    ["x", "y", "z", "typ"].map LAYOUT.byteOffset = [0, 4, 8, 12] ∧
    ["x", "y", "z", "typ"].map (fun name => offsetof name block_entry 0) = [0, 4, 8, 12] := by
  decide

structure MemorySegment where
  address : Nat
  byteSize : Nat

/-- What an arena gives for `allocateArray`. -/
structure Allocated (elementCount : Nat) extends MemorySegment where
  byteSize_eq : byteSize = LAYOUT.byteSize * elementCount
  aligned : address % 4 = 0

def MemorySegment.asSlice (segment : MemorySegment) (offset : Nat) : Option MemorySegment :=
  if offset ≤ segment.byteSize then some ⟨segment.address + offset, segment.byteSize - offset⟩
  else none

/-- An access out of bounds, or that is not aligned, throws. -/
def MemorySegment.set (order : ByteOrder) (segment : MemorySegment) (offset : Nat) (value : Int)
    (m : Mem) : Option Mem :=
  if offset + 4 ≤ segment.byteSize ∧ (segment.address + offset) % 4 = 0 then
    some (store order m (segment.address + offset) (BitVec.ofInt (8 * 4) value))
  else none

section Bindings

variable (order : ByteOrder) (struct : MemorySegment) (fieldValue : Int) (m : Mem)

def block_entry_x : Option Mem := struct.set order (LAYOUT.byteOffset "x") fieldValue m

def block_entry_y : Option Mem := struct.set order (LAYOUT.byteOffset "y") fieldValue m

def block_entry_z : Option Mem := struct.set order (LAYOUT.byteOffset "z") fieldValue m

def block_entry_typ : Option Mem := struct.set order (LAYOUT.byteOffset "typ") fieldValue m

def block_entry_asSlice (array : MemorySegment) (index : Nat) : Option MemorySegment :=
  array.asSlice (LAYOUT.byteSize * index)

end Bindings

def copyEntry (order : ByteOrder) (entries : MemorySegment) (i : Nat) (blockData : BlockEntry)
    (m : Mem) : Option Mem := do
  let entry ← block_entry_asSlice entries i
  let m ← block_entry_x order entry blockData.x m
  let m ← block_entry_y order entry blockData.y m
  let m ← block_entry_z order entry blockData.z m
  block_entry_typ order entry blockData.typ m

def copyEntries (order : ByteOrder) (entries : MemorySegment) :
    Nat → List BlockEntry → Mem → Option Mem
  | _, [], m => some m
  | i, blockData :: data, m => do
    let m ← copyEntry order entries i blockData m
    copyEntries order entries (i + 1) data m

def readInt (order : ByteOrder) (m : Mem) (a : Nat) : Int := (load order 4 m a).toInt

def readEntry (order : ByteOrder) (m : Mem) (entry : Nat) : BlockEntry where
  x := readInt order m (entry + offsetof "x" block_entry 0)
  y := readInt order m (entry + offsetof "y" block_entry 0)
  z := readInt order m (entry + offsetof "z" block_entry 0)
  typ := readInt order m (entry + offsetof "typ" block_entry 0)

def readEntries (order : ByteOrder) (m : Mem) (entries size : Nat) : List BlockEntry :=
  (List.range size).map fun entry_idx =>
    readEntry order m (entries + sizeof_block_entry * entry_idx)

def words (e : BlockEntry) : List (BitVec (8 * 4)) := [e.x, e.y, e.z, e.typ].map (BitVec.ofInt _)

variable (order : ByteOrder)

theorem set_eq {segment : MemorySegment} {offset : Nat} (hsize : offset + 4 ≤ segment.byteSize)
    (haligned : (segment.address + offset) % 4 = 0) (value : Int) (m : Mem) :
    segment.set order offset value m =
      some (store order m (segment.address + offset) (BitVec.ofInt (8 * 4) value)) :=
  if_pos ⟨hsize, haligned⟩

theorem copyEntry_eq {n : Nat} (entries : Allocated n) {i : Nat} (hi : i < n) (e : BlockEntry)
    (m : Mem) : copyEntry order entries.toMemorySegment i e m =
      some (storeAll order m (entries.address + 16 * i) (words e)) := by
  have hsize : entries.byteSize = 16 * n := entries.byteSize_eq
  have haligned := entries.aligned
  have hslice : block_entry_asSlice entries.toMemorySegment i =
      some ⟨entries.address + 16 * i, entries.byteSize - 16 * i⟩ := by
    refine if_pos ?_
    change 16 * i ≤ entries.byteSize
    omega
  have hset : ∀ (offset : Nat) (value : Int) (m : Mem), offset ≤ 12 → offset % 4 = 0 →
      MemorySegment.set order ⟨entries.address + 16 * i, entries.byteSize - 16 * i⟩ offset value m =
        some (store order m (entries.address + 16 * i + offset) (BitVec.ofInt (8 * 4) value)) := by
    intro offset value m hoffset hmod
    exact set_eq order (by simp only; omega) (by simp only; omega) value m
  obtain ⟨-, -, hoffset, -⟩ := layout_eq
  simp only [List.map_cons, List.map_nil, List.cons.injEq, and_true] at hoffset
  obtain ⟨hx, hy, hz, htyp⟩ := hoffset
  simp only [copyEntry, hslice, block_entry_x, block_entry_y, block_entry_z, block_entry_typ, hx,
    hy, hz, htyp, Option.bind_eq_bind, Option.bind_some]
  rw [hset 0 _ _ (by omega) rfl, Option.bind_some, hset 4 _ _ (by omega) rfl, Option.bind_some,
    hset 8 _ _ (by omega) rfl, Option.bind_some, hset 12 _ _ (by omega) rfl]
  rfl

theorem length_words (e : BlockEntry) : (words e).length = 4 := rfl

theorem length_flatMap_words (data : List BlockEntry) :
    (data.flatMap words).length = 4 * data.length := by
  induction data with
  | nil => rfl
  | cons e data ih =>
    rw [List.flatMap_cons, List.length_append, length_words, ih, List.length_cons]
    omega

theorem copyEntries_eq {n : Nat} (entries : Allocated n) (data : List BlockEntry) {i : Nat}
    (hi : i + data.length ≤ n) (m : Mem) :
    copyEntries order entries.toMemorySegment i data m =
      some (storeAll order m (entries.address + 16 * i) (data.flatMap words)) := by
  induction data generalizing i m with
  | nil => rfl
  | cons e data ih =>
    rw [List.length_cons] at hi
    rw [copyEntries, copyEntry_eq order entries (by omega), Option.bind_eq_bind, Option.bind_some,
      ih (by omega), List.flatMap_cons, storeAll_append, length_words]
    congr 2

def toInt32 (e : BlockEntry) : BlockEntry where
  x := (BitVec.ofInt (8 * 4) e.x).toInt
  y := (BitVec.ofInt (8 * 4) e.y).toInt
  z := (BitVec.ofInt (8 * 4) e.z).toInt
  typ := (BitVec.ofInt (8 * 4) e.typ).toInt

theorem readEntry_eq (m : Mem) (a : Nat) : readEntry order m a =
    ⟨readInt order m (a + 4 * 0), readInt order m (a + 4 * 1), readInt order m (a + 4 * 2),
      readInt order m (a + 4 * 3)⟩ := by
  obtain ⟨-, -, -, hoffset⟩ := layout_eq
  simp only [List.map_cons, List.map_nil, List.cons.injEq, and_true] at hoffset
  obtain ⟨hx, hy, hz, htyp⟩ := hoffset
  rw [readEntry, hx, hy, hz, htyp]

theorem readEntry_congr {m m' : Mem} {a : Nat} (h : ∀ b, a ≤ b → b < a + 16 → m' b = m b) :
    readEntry order m' a = readEntry order m a := by
  have hint : ∀ i < 4, readInt order m' (a + 4 * i) = readInt order m (a + 4 * i) := by
    intro i hi
    rw [readInt, readInt, load_congr order fun b hlo hhi => h b (by omega) (by omega)]
  rw [readEntry_eq, readEntry_eq, hint 0 (by decide), hint 1 (by decide), hint 2 (by decide),
    hint 3 (by decide)]

theorem readEntry_storeAll (m : Mem) (a : Nat) (e : BlockEntry) :
    readEntry order (storeAll order m a (words e)) a = toInt32 e := by
  have hint : ∀ i, (hi : i < 4) →
      readInt order (storeAll order m a (words e)) (a + 4 * i) = ((words e)[i]).toInt :=
    fun i hi => congrArg BitVec.toInt (load_storeAll order m a (words e) hi)
  rw [readEntry_eq, hint 0 (by decide), hint 1 (by decide), hint 2 (by decide), hint 3 (by decide)]
  rfl

theorem readEntries_storeAll (m : Mem) (a : Nat) (data : List BlockEntry) :
    readEntries order (storeAll order m a (data.flatMap words)) a data.length =
      data.map toInt32 := by
  have hsize : sizeof_block_entry = 16 := layout_eq.1
  induction data generalizing m a with
  | nil => rfl
  | cons e data ih =>
    have hrest := ih (storeAll order m a (words e)) (a + 16)
    rw [readEntries, hsize] at hrest ⊢
    rw [List.flatMap_cons, storeAll_append, length_words, List.length_cons,
      List.range_succ_eq_map, List.map_cons, List.map_map, List.map_cons, ← hrest]
    congr 1
    · refine (readEntry_congr order fun b _ hb => ?_).trans (readEntry_storeAll order m a e)
      exact storeAll_frame order _ _ (.inl hb)
    · refine List.map_congr_left fun i _ => ?_
      have haddress : a + 16 * (i + 1) = a + 16 + 16 * i := by omega
      exact congrArg (readEntry order _) haddress

/-- A chunk within the bounds of an `int`. -/
def ChunkPos.Inside (pos : ChunkPos) : Prop :=
  (-2 ^ 27 ≤ pos.x ∧ pos.x < 2 ^ 27) ∧ -2 ^ 27 ≤ pos.z ∧ pos.z < 2 ^ 27

theorem typ_bounds {b : Block} {typ : Int} (h : STATES_FULL b = some typ) : 0 ≤ typ ∧ typ ≤ 5 := by
  cases b with
  | other => cases h
  | _ =>
    cases h
    decide

theorem toInt32_of_recorded {world : Point → Block} {entries : List BlockEntry}
    (h : Recorded world ChunkPos.Inside entries) : entries.map toInt32 = entries := by
  have hint : ∀ n : Int, -2 ^ 31 ≤ n → n < 2 ^ 31 → (BitVec.ofInt (8 * 4) n).toInt = n := by
    intro n hlo hhi
    rw [BitVec.toInt_ofInt]
    exact Int.bmod_eq_of_le (by omega) (by omega)
  refine (List.map_congr_left fun e he => ?_).trans (List.map_id entries)
  obtain ⟨pos, ⟨⟨hx0, hx1⟩, hz0, hz1⟩, hmem⟩ := h.mem_entriesOf he
  obtain ⟨⟨pos', hpos', hp⟩, -, htyp⟩ := mem_entriesOf.mp hmem
  obtain rfl := List.mem_singleton.mp hpos'
  obtain ⟨⟨hx, hx'⟩, ⟨hy, hy'⟩, hz, hz'⟩ := ChunkPos.mem_points.mp hp
  simp only [BlockEntry.point] at hx hx' hy hy' hz hz'
  have htyp' := typ_bounds htyp
  rw [toInt32, hint e.x (by omega) (by omega), hint e.y (by omega) (by omega),
    hint e.z (by omega) (by omega), hint e.typ (by omega) (by omega)]
  rfl

theorem exists_copyEntries {world : Point → Block} {data : List BlockEntry}
    (h : Recorded world ChunkPos.Inside data) (order : ByteOrder) (entries : Allocated data.length)
    (m : Mem) :
    ∃ m', copyEntries order entries.toMemorySegment 0 data m = some m' ∧
      (∀ b, b < entries.address ∨ entries.address + entries.byteSize ≤ b → m' b = m b) ∧
      readEntries order m' entries.address data.length = data := by
  have hlength : 0 + data.length ≤ data.length := Nat.le_of_eq (Nat.zero_add _)
  refine ⟨_, copyEntries_eq order entries data hlength m, fun b hb => ?_, ?_⟩
  · refine storeAll_frame order m _ ?_
    have hsize : entries.byteSize = 16 * data.length := entries.byteSize_eq
    rw [length_flatMap_words]
    omega
  · exact (readEntries_storeAll order m _ data).trans (toInt32_of_recorded h)

/-- In every run over chunks within the bounds, the loop writes the entries of a call without an
exception and changes nothing but their array, which `bedrockseed$crack` reads as it was. -/
theorem cracks_marshalled (world : Point → Block) :
    EveryState (step world) (Submits ChunkPos.Inside) init fun s => ∀ data ∈ s.cracks,
      ∀ (order : ByteOrder) (entries : Allocated data.length) (m : Mem),
        ∃ m', copyEntries order entries.toMemorySegment 0 data m = some m' ∧
          (∀ b, b < entries.address ∨ entries.address + entries.byteSize ≤ b → m' b = m b) ∧
          readEntries order m' entries.address data.length = data := by
  intro s hs data hdata order entries m
  exact exists_copyEntries (cracks_truthful world ChunkPos.Inside s hs data hdata) order entries m

theorem row_inside : ∀ pos ∈ row, pos.Inside := by
  intro pos hpos
  simp only [row, TARGET_CHUNKS, List.mem_map, List.mem_range] at hpos
  obtain ⟨n, hn, rfl⟩ := hpos
  simp only [ChunkPos.Inside]
  omega

theorem reaches_called_row_inside {world : Point → Block} :
    Reaches (step world) (Submits ChunkPos.Inside) init (called world row) :=
  reaches_called_row (submits_start row_inside) fun _ _ h => submits_of_working h.working

theorem cracks_marshalled_row : ∃ s data,
    Reaches (step fun _ => .BEDROCK) (Submits ChunkPos.Inside) init s ∧ data ∈ s.cracks ∧
      data = entriesOf recorded (fun _ => .BEDROCK) row ∧
      ∀ entries : Allocated data.length, ∃ m',
        copyEntries .BIG_ENDIAN entries.toMemorySegment 0 data (fun _ => 0) = some m' ∧
          readEntries .BIG_ENDIAN m' entries.address data.length = data := by
  have hreach : Reaches (step fun _ => .BEDROCK) (Submits ChunkPos.Inside) init
      (called (fun _ => .BEDROCK) row) := reaches_called_row_inside
  have hdata : entriesOf recorded (fun _ => .BEDROCK) row ∈
      (called (fun _ => .BEDROCK) row).cracks := by simp [called]
  refine ⟨_, _, hreach, hdata, rfl, fun entries => ?_⟩
  obtain ⟨m', hcopy, -, hread⟩ :=
    cracks_marshalled _ _ hreach _ hdata .BIG_ENDIAN entries fun _ => 0
  exact ⟨m', hcopy, hread⟩

end SeedCracking.Collector
