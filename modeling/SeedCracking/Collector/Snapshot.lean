import SeedCracking.Collector.Session

/-! What the entries that are cracked contain. -/

namespace SeedCracking.Collector

open Blocks Transition

variable (world : Point → Block)

/-- The entries of enough chunks that have been scanned to the end. -/
def Complete (scans : List ChunkPos) (entries : List BlockEntry) : Prop :=
  ∃ chunks : Finset ChunkPos, TARGET_CHUNKS ≤ chunks.card ∧
    ∀ pos ∈ chunks, pos ∈ scans ∧ chunkEntries recorded world pos ⊆ entries

def CracksComplete (s : State) : Prop := ∀ entries ∈ s.cracks, Complete world s.scans entries

/-- What `data.clear()` removes belongs to no chunk that counts as scanned or is being scanned,
and is not about to be copied. -/
structure Disposable (s : State) : Prop where
  scanned : ∀ pos ∈ s.scannedChunks, chunkEntries recorded world pos = []
  scanning : ∀ pos done todo, s.worker = .scanning pos todo → done ++ todo = pos.points →
    done.filterMap (entryAt recorded world) = []
  startCracking : s.worker = .startCracking → s.data = []

def ClearsDisposable (s : State) : Act → Prop
  | .client => s.client = .stopping .data → Disposable world s
  | _ => True

def Worker.Sound (scannedChunks : Finset ChunkPos) (data : List BlockEntry)
    (scans : List ChunkPos) : Worker → Prop
  | .scanning pos todo =>
    ∃ done, done ++ todo = pos.points ∧ done.filterMap (entryAt recorded world) ⊆ data
  | .startCracking => Complete world scans data
  -- a stop during the copy leaves nothing to read
  | .copying size entries => ∃ snapshot, Complete world scans snapshot ∧
      snapshot.length = size ∧ entries <+: snapshot ∧ (data = snapshot ∨ data = [])
  | .stopping pc entries => Complete world scans entries ∧ (pc = .data → scannedChunks = ∅)
  | .crack entries => Complete world scans entries
  | _ => True

structure Sound (s : State) : Prop where
  scanned : ∀ pos ∈ s.scannedChunks, pos ∈ s.scans ∧ chunkEntries recorded world pos ⊆ s.data
  worker : s.worker.Sound world s.scannedChunks s.data s.scans
  cracks : CracksComplete world s

variable {world} {s s' : State}

theorem Complete.mono {scans scans' : List ChunkPos} {entries : List BlockEntry}
    (h : Complete world scans entries) (hscans : scans ⊆ scans') :
    Complete world scans' entries := by
  obtain ⟨chunks, hcard, hchunks⟩ := h
  exact ⟨chunks, hcard, fun pos hpos => ⟨hscans (hchunks pos hpos).1, (hchunks pos hpos).2⟩⟩

theorem sound_init : Sound world init where
  scanned := by simp [init]
  worker := trivial
  cracks := by simp [CracksComplete, init]

theorem Sound.complete (h : Sound world s) (hcard : TARGET_CHUNKS ≤ s.scannedChunks.card) :
    Complete world s.scans s.data :=
  ⟨s.scannedChunks, hcard, h.scanned⟩

theorem Worker.Sound.clear_scannedChunks {scannedChunks : Finset ChunkPos}
    {data : List BlockEntry} {scans : List ChunkPos} {w : Worker}
    (h : w.Sound world scannedChunks data scans) : w.Sound world ∅ data scans := by
  cases w with
  | stopping pc entries => exact ⟨h.1, fun _ => rfl⟩
  | _ => exact h

theorem Worker.Sound.clear_data (h : s.worker.Sound world s.scannedChunks s.data s.scans)
    (hd : Disposable world s) : s.worker.Sound world s.scannedChunks [] s.scans := by
  cases hw : s.worker with
  | scanning pos todo =>
    rw [hw] at h
    obtain ⟨done, hdone, -⟩ := h
    exact ⟨done, hdone, by rw [hd.scanning pos done todo hw hdone]; simp⟩
  | startCracking =>
    rw [hw, hd.startCracking hw] at h
    exact h
  | copying size entries =>
    rw [hw] at h
    obtain ⟨snapshot, hcomplete, hlen, hpre, -⟩ := h
    exact ⟨snapshot, hcomplete, hlen, hpre, .inr rfl⟩
  | _ =>
    rw [hw] at h
    exact h

theorem Sound.client (h : Sound world s) (hok : ClearsDisposable world s .client)
    (hs : ClientStep s s') : Sound world s' := by
  cases hs with
  | quiet | startCollecting => exact ⟨h.scanned, h.worker, h.cracks⟩
  | stopping pc hpc =>
    cases pc with
    | collecting => exact ⟨h.scanned, h.worker, h.cracks⟩
    | scannedChunks =>
      exact ⟨by simp [StopCollecting.run], h.worker.clear_scannedChunks, h.cracks⟩
    | data =>
      have hd := hok hpc
      refine ⟨fun pos hpos => ⟨(h.scanned pos hpos).1, ?_⟩, h.worker.clear_data hd, h.cracks⟩
      rw [hd.scanned pos hpos]
      simp

theorem Sound.scan_point (h : Sound world s) {pos : ChunkPos} {p : Point} {todo : List Point}
    (hw : s.worker = .scanning pos (p :: todo)) :
    Sound world { s with
      data := s.data ++ (entryAt recorded world p).toList
      worker := .scanning pos todo } := by
  have hworker := h.worker
  rw [hw] at hworker
  obtain ⟨done, hdone, hsub⟩ := hworker
  refine ⟨fun pos hpos => ⟨(h.scanned pos hpos).1, ?_⟩, ⟨done ++ [p], ?_, ?_⟩, h.cracks⟩
  · exact List.Subset.trans (h.scanned pos hpos).2 (List.subset_append_left _ _)
  · rw [List.append_assoc]
    exact hdone
  · rw [List.filterMap_append, List.append_subset]
    refine ⟨List.Subset.trans hsub (List.subset_append_left _ _), ?_⟩
    refine List.Subset.trans ?_ (List.subset_append_right _ _)
    cases hp : entryAt recorded world p with
    | none => simp [hp]
    | some e => simp [hp]

theorem Sound.scan_end (h : Sound world s) {pos : ChunkPos} (hw : s.worker = .scanning pos []) :
    Sound world { s with
      scannedChunks := insert pos s.scannedChunks
      scans := s.scans ++ [pos]
      worker := .onChunkScanned } := by
  have hworker := h.worker
  rw [hw] at hworker
  obtain ⟨done, hdone, hsub⟩ := hworker
  rw [List.append_nil] at hdone
  have hscans : s.scans ⊆ s.scans ++ [pos] := List.subset_append_left _ _
  refine ⟨fun pos' hpos => ?_, trivial, fun entries he => (h.cracks entries he).mono hscans⟩
  rcases Finset.mem_insert.mp hpos with rfl | hpos
  · exact ⟨by simp, by rw [chunkEntries, ← hdone]; exact hsub⟩
  · exact ⟨hscans (h.scanned pos' hpos).1, (h.scanned pos' hpos).2⟩

theorem Sound.get (h : Sound world s) {size : Nat} {entries : List BlockEntry} {e : BlockEntry}
    (hw : s.worker = .copying size entries) (he : s.data[entries.length]? = some e) :
    Sound world { s with worker := .copying size (entries ++ [e]) } := by
  have hworker := h.worker
  rw [hw] at hworker
  obtain ⟨snapshot, hcomplete, hlen, ⟨rest, hrest⟩, hdata⟩ := hworker
  have hsnap : s.data = entries ++ rest := by
    refine (hdata.resolve_right fun hnil => ?_).trans hrest.symm
    rw [hnil] at he
    cases he
  rw [hsnap, List.getElem?_append_right le_rfl, Nat.sub_self, ← List.head?_eq_getElem?] at he
  obtain ⟨tail, rfl⟩ := List.head?_eq_some_iff.mp he
  have hpre : entries ++ [e] <+: snapshot := ⟨tail, by rw [← hrest]; simp⟩
  exact ⟨h.scanned, ⟨snapshot, hcomplete, hlen, hpre, hdata⟩, h.cracks⟩

theorem Sound.copied (h : Sound world s) {size : Nat} {entries : List BlockEntry}
    (hw : s.worker = .copying size entries) (hsize : size ≤ entries.length) :
    Complete world s.scans entries := by
  have hworker := h.worker
  rw [hw] at hworker
  obtain ⟨snapshot, hcomplete, rfl, hpre, -⟩ := hworker
  rw [hpre.eq_of_length_le hsize]
  exact hcomplete

theorem Sound.workerStep (h : Sound world s) (hs : WorkerStep world s s') : Sound world s' := by
  have hworker := h.worker
  cases hs with
  | check pos =>
    refine ⟨h.scanned, ?_, h.cracks⟩
    simp only
    split <;> trivial
  | getChunk pos => exact ⟨h.scanned, ⟨[], rfl, by simp⟩, h.cracks⟩
  | scan pos p todo hw => exact h.scan_point hw
  | mark pos hw => exact h.scan_end hw
  | enough hw hcard => exact ⟨h.scanned, h.complete hcard, h.cracks⟩
  | few => exact ⟨h.scanned, trivial, h.cracks⟩
  | size hw =>
    rw [hw] at hworker
    exact ⟨h.scanned, ⟨s.data, hworker, rfl, List.nil_prefix, .inl rfl⟩, h.cracks⟩
  | get size entries e hw he => exact h.get hw he
  | outOfBounds => exact ⟨h.scanned, trivial, h.cracks⟩
  | copied size entries hw hsize => exact ⟨h.scanned, ⟨h.copied hw hsize, nofun⟩, h.cracks⟩
  | stopping pc entries hw =>
    rw [hw] at hworker
    obtain ⟨hcomplete, hscanned⟩ := hworker
    cases pc with
    | collecting => exact ⟨h.scanned, ⟨hcomplete, nofun⟩, h.cracks⟩
    | scannedChunks => exact ⟨by simp [StopCollecting.run], ⟨hcomplete, fun _ => rfl⟩, h.cracks⟩
    | data => exact ⟨by simp [StopCollecting.run, hscanned rfl], hcomplete, h.cracks⟩
  | crack entries hw =>
    rw [hw] at hworker
    refine ⟨h.scanned, trivial, fun e he => ?_⟩
    rcases List.mem_append.mp he with he | he
    · exact h.cracks e he
    · exact List.mem_singleton.mp he ▸ hworker

theorem Sound.step {a : Act} (h : Sound world s) (hok : ClearsDisposable world s a)
    (hs : step world s a = some s') : Sound world s' := by
  cases a with
  | client => exact h.client hok (clientStep_cases hs)
  | worker => exact h.workerStep (workerStep_cases hs)
  | take =>
    obtain ⟨pos, queue, -, -, rfl⟩ := takeTask_cases hs
    exact ⟨h.scanned, trivial, h.cracks⟩
  | returned =>
    obtain ⟨-, rfl⟩ := returnTask_cases hs
    exact ⟨h.scanned, trivial, h.cracks⟩
  | fail =>
    obtain ⟨-, rfl⟩ := failTask_cases hs
    exact ⟨h.scanned, trivial, h.cracks⟩
  | _ =>
    obtain ⟨-, rfl⟩ := begin_cases hs
    exact ⟨h.scanned, h.worker, h.cracks⟩

/-- Where the client never empties `data` under a chunk that counts or is about to be copied,
whatever is cracked is complete. -/
theorem cracksComplete_of_clearsDisposable (world : Point → Block) :
    EveryState (step world) (ClearsDisposable world) init (CracksComplete world) :=
  EveryState.of_invariant sound_init (fun _ _ _ h => h.step) fun _ h => h.cracks

theorem ClearsDisposable.of_undisturbed {a : Act} (h : Undisturbed s a) :
    ClearsDisposable world s a := by
  cases a with
  | client => exact fun hclient => absurd hclient (h.client .data)
  | _ => trivial

theorem cracksComplete_row : ∃ s,
    Reaches (step fun _ => .BEDROCK) (ClearsDisposable fun _ => .BEDROCK) init s ∧
      s.cracks = [entriesOf recorded (fun _ => .BEDROCK) row] ∧
      CracksComplete (fun _ => .BEDROCK) s := by
  have h : Reaches (step fun _ => .BEDROCK) (ClearsDisposable fun _ => .BEDROCK) init _ :=
    reaches_called_row trivial fun _ _ => ClearsDisposable.of_undisturbed
  exact ⟨_, h, rfl, cracksComplete_of_clearsDisposable _ _ h⟩

theorem reaches_crack_nil {chunks : List ChunkPos} (hnodup : chunks.Nodup)
    (hlen : chunks.length = TARGET_CHUNKS) : Reaches (step world) Unrestricted init
      { init with
        starts := 1
        scans := chunks
        cracks := [[]]
        stale := true
        worker := .cracking } := by
  refine (Reaches.of_started trivial (fun _ _ _ => trivial)
    (reaches_queued.trans (reaches_startCracking hnodup hlen))).trans ?_
  -- the stop
  refine .head (a := .stop) trivial rfl ?_
  refine .head (a := .client) trivial rfl ?_
  refine .head (a := .client) trivial rfl ?_
  refine .head (a := .client) trivial rfl ?_
  refine .head (a := .client) trivial rfl ?_
  -- the rest of the task
  refine .head (a := .worker) trivial rfl ?_
  refine .head (a := .worker) trivial rfl ?_
  refine .head (a := .worker) trivial rfl ?_
  refine .head (a := .worker) trivial rfl ?_
  refine .head (a := .worker) trivial rfl ?_
  exact .single (a := .worker) trivial rfl

theorem chunkEntries_bedrock (pos : ChunkPos) :
    chunkEntries recorded (fun _ => .BEDROCK) pos ≠ [] := by
  obtain ⟨p, hp⟩ := List.exists_mem_of_ne_nil _ pos.points_ne_nil
  have he : (⟨p.1, p.2.1, p.2.2, BedrockNative.BEDROCK⟩ : BlockEntry) ∈
      chunkEntries recorded (fun _ => .BEDROCK) pos := List.mem_filterMap.mpr ⟨p, hp, rfl⟩
  exact List.ne_nil_of_mem he

theorem not_cracksComplete : ¬ EveryState (step fun _ => .BEDROCK) Unrestricted init
    (CracksComplete fun _ => .BEDROCK) := by
  intro h
  obtain ⟨chunks, hcard, hchunks⟩ :=
    h _ (reaches_crack_nil row_nodup row_length) [] (List.mem_singleton.mpr rfl)
  have hpos : 0 < chunks.card := Nat.lt_of_lt_of_le (by decide) hcard
  obtain ⟨pos, hmem⟩ := Finset.card_pos.mp hpos
  exact chunkEntries_bedrock pos (List.subset_nil.mp (hchunks pos hmem).2)

end SeedCracking.Collector
