import SeedCracking.Collector.Duplicates

/-! What exactly is cracked in a session without stops, on every schedule. -/

namespace SeedCracking.Collector

open Blocks Kernel Smt Transition

variable (world : Point → Block)

/-- The entries are those of the chunks, in any order and any number. -/
def Matches (chunks : Finset ChunkPos) (entries : List BlockEntry) : Prop :=
  ∀ e, e ∈ entries ↔ ∃ pos ∈ chunks, e ∈ chunkEntries recorded world pos

/-- The entries of enough chunks, all of which have been scanned. -/
def Snapshot (scans : List ChunkPos) (entries : List BlockEntry) : Prop :=
  ∃ chunks : Finset ChunkPos, TARGET_CHUNKS ≤ chunks.card ∧ (∀ pos ∈ chunks, pos ∈ scans) ∧
    Matches world chunks entries

def Fresh (s : State) : Prop := s.data = [] ∧ s.scannedChunks = ∅ ∧ s.worker.started = false

def EveryFreshSession (ok : State → Act → Prop) (P : State → Prop) : Prop :=
  ∀ s₀, Reaches (step world) Unrestricted init s₀ → Fresh s₀ → EveryState (step world) ok s₀ P

def Worker.Exact (scannedChunks : Finset ChunkPos) (data : List BlockEntry)
    (scans : List ChunkPos) : Worker → Prop
  | .scanning pos todo => ∃ done, done ++ todo = pos.points ∧ ∀ e, e ∈ data ↔
      (∃ pos ∈ scannedChunks, e ∈ chunkEntries recorded world pos) ∨
        e ∈ done.filterMap (entryAt recorded world)
  | .startCracking => TARGET_CHUNKS ≤ scannedChunks.card ∧ Matches world scannedChunks data
  | .copying size entries => TARGET_CHUNKS ≤ scannedChunks.card ∧
      Matches world scannedChunks data ∧ size = data.length ∧ entries <+: data
  | .stopping pc entries => Snapshot world scans entries ∧ (pc = .data → scannedChunks = ∅)
  | .crack entries => Snapshot world scans entries ∧ Matches world scannedChunks data
  | _ => Matches world scannedChunks data

structure Exact (s : State) : Prop where
  scanned : ∀ pos ∈ s.scannedChunks, pos ∈ s.scans
  worker : s.worker.Exact world s.scannedChunks s.data s.scans

variable {world} {s s' : State}

theorem matches_nil : Matches world ∅ [] := by simp [Matches]

theorem Snapshot.mono {scans scans' : List ChunkPos} {entries : List BlockEntry}
    (h : Snapshot world scans entries) (hscans : scans ⊆ scans') :
    Snapshot world scans' entries := by
  obtain ⟨chunks, hcard, hchunks, hmatches⟩ := h
  exact ⟨chunks, hcard, fun pos hpos => hscans (hchunks pos hpos), hmatches⟩

theorem Fresh.exact (h : Fresh s) : Exact world s := by
  obtain ⟨hdata, hscanned, hstarted⟩ := h
  refine ⟨by simp [hscanned], ?_⟩
  rw [hdata, hscanned]
  cases hw : s.worker with
  | idle | check => exact matches_nil
  | _ =>
    rw [hw] at hstarted
    cases hstarted

theorem Exact.scan_point (h : Exact world s) {pos : ChunkPos} {p : Point} {todo : List Point}
    (hw : s.worker = .scanning pos (p :: todo)) :
    Exact world { s with
      data := s.data ++ (entryAt recorded world p).toList
      worker := .scanning pos todo } := by
  have hworker := h.worker
  rw [hw] at hworker
  obtain ⟨done, hdone, hdata⟩ := hworker
  refine ⟨h.scanned, done ++ [p], by rw [List.append_assoc]; exact hdone, fun e => ?_⟩
  have hlast : e ∈ [p].filterMap (entryAt recorded world) ↔
      e ∈ (entryAt recorded world p).toList := by
    rw [List.filterMap_eq_flatMap_toList, List.flatMap_singleton]
  rw [List.mem_append, hdata, List.filterMap_append, List.mem_append, hlast, or_assoc]

theorem Exact.scan_end (h : Exact world s) {pos : ChunkPos} (hw : s.worker = .scanning pos []) :
    Exact world { s with
      scannedChunks := insert pos s.scannedChunks
      scans := s.scans ++ [pos]
      worker := .onChunkScanned } := by
  have hworker := h.worker
  rw [hw] at hworker
  obtain ⟨done, hdone, hdata⟩ := hworker
  rw [List.append_nil] at hdone
  refine ⟨fun pos' hpos => ?_, fun e => ?_⟩
  · rcases Finset.mem_insert.mp hpos with rfl | hpos
    · simp
    · exact List.mem_append_left _ (h.scanned pos' hpos)
  · rw [hdata, hdone, Finset.exists_mem_insert, or_comm]
    rfl

theorem Exact.get (h : Exact world s) {size : Nat} {entries : List BlockEntry} {e : BlockEntry}
    (hw : s.worker = .copying size entries) (he : s.data[entries.length]? = some e) :
    Exact world { s with worker := .copying size (entries ++ [e]) } := by
  have hworker := h.worker
  rw [hw] at hworker
  obtain ⟨hcard, hmatches, hsize, ⟨rest, hrest⟩⟩ := hworker
  rw [← hrest, List.getElem?_append_right le_rfl, Nat.sub_self, ← List.head?_eq_getElem?] at he
  obtain ⟨tail, rfl⟩ := List.head?_eq_some_iff.mp he
  exact ⟨h.scanned, hcard, hmatches, hsize, tail, by rw [← hrest]; simp⟩

theorem Exact.copied (h : Exact world s) {size : Nat} {entries : List BlockEntry}
    (hw : s.worker = .copying size entries) (hsize : size ≤ entries.length) :
    Snapshot world s.scans entries := by
  have hworker := h.worker
  rw [hw] at hworker
  obtain ⟨hcard, hmatches, rfl, hpre⟩ := hworker
  rw [hpre.eq_of_length_le hsize]
  exact ⟨s.scannedChunks, hcard, h.scanned, hmatches⟩

theorem Exact.workerStep (h : Exact world s) (hs : WorkerStep world s s') : Exact world s' := by
  have hworker := h.worker
  cases hs with
  | check pos hw =>
    rw [hw] at hworker
    refine ⟨h.scanned, ?_⟩
    simp only
    split <;> exact hworker
  | getChunk pos hw =>
    rw [hw] at hworker
    exact ⟨h.scanned, [], rfl, fun e => (hworker e).trans (by simp)⟩
  | scan pos p todo hw => exact h.scan_point hw
  | mark pos hw => exact h.scan_end hw
  | enough hw hcard =>
    rw [hw] at hworker
    exact ⟨h.scanned, hcard, hworker⟩
  | few hw =>
    rw [hw] at hworker
    exact ⟨h.scanned, hworker⟩
  | size hw =>
    rw [hw] at hworker
    exact ⟨h.scanned, hworker.1, hworker.2, rfl, List.nil_prefix⟩
  | get size entries e hw he => exact h.get hw he
  | outOfBounds size entries hw =>
    rw [hw] at hworker
    exact ⟨h.scanned, hworker.2.1⟩
  | copied size entries hw hsize => exact ⟨h.scanned, h.copied hw hsize, nofun⟩
  | stopping pc entries hw =>
    rw [hw] at hworker
    obtain ⟨hsnapshot, hscanned⟩ := hworker
    cases pc with
    | collecting => exact ⟨h.scanned, hsnapshot, nofun⟩
    | scannedChunks => exact ⟨by simp [StopCollecting.run], hsnapshot, fun _ => rfl⟩
    | data =>
      refine ⟨h.scanned, hsnapshot, ?_⟩
      rw [StopCollecting.run, hscanned rfl]
      exact matches_nil
  | crack entries hw =>
    rw [hw] at hworker
    exact ⟨h.scanned, hworker.2⟩

theorem Exact.step {a : Act} (h : Exact world s) (hok : NoStop s a)
    (hs : step world s a = some s') : Exact world s' := by
  have hworker := h.worker
  cases a with
  | client =>
    cases clientStep_cases hs with
    | quiet | startCollecting => exact ⟨h.scanned, h.worker⟩
    | stopping pc hc => exact absurd hc (hok pc)
  | worker => exact h.workerStep (workerStep_cases hs)
  | take =>
    obtain ⟨_, _, hw, -, rfl⟩ := takeTask_cases hs
    rw [hw] at hworker
    exact ⟨h.scanned, hworker⟩
  | returned =>
    obtain ⟨hw, rfl⟩ := returnTask_cases hs
    rw [hw] at hworker
    exact ⟨h.scanned, hworker⟩
  | fail =>
    obtain ⟨-, rfl⟩ := failTask_cases hs
    rcases failTask_worker hs with ⟨pos, hw⟩ | hw
    · rw [hw] at hworker
      exact ⟨h.scanned, hworker⟩
    · rw [hw] at hworker
      exact ⟨h.scanned, hworker.2⟩
  | _ =>
    obtain ⟨-, rfl⟩ := begin_cases hs
    exact ⟨h.scanned, h.worker⟩

theorem Matches.mem_iff {chunks : Finset ChunkPos} {entries : List BlockEntry}
    (h : Matches world chunks entries) {order : List ChunkPos} (horder : order.toFinset = chunks)
    (e : BlockEntry) : e ∈ entries ↔ e ∈ entriesOf recorded world order := by
  rw [h e, ← horder, entriesOf, List.mem_flatMap]
  simp only [List.mem_toFinset]

theorem consistent_entriesOf (chunks : List ChunkPos) :
    Consistent (entriesOf recorded world chunks) := by
  intro e he e' he' hp
  have h := (mem_entriesOf.mp he).2.2
  rw [hp, (mem_entriesOf.mp he').2.2] at h
  exact (Option.some.inj h).symm

/-- On every schedule a call has the entries of enough chunks that have been scanned, and does what
it would do with these chunks scanned in any order, each any number of times. -/
theorem crack_of_chunks (world : Point → Block) :
    EveryFreshSession world NoStop fun s => ∀ entries, s.worker = .crack entries →
      ∃ chunks : Finset ChunkPos, TARGET_CHUNKS ≤ chunks.card ∧ (∀ pos ∈ chunks, pos ∈ s.scans) ∧
        Matches world chunks entries ∧
        ∀ order : List ChunkPos, order.toFinset = chunks →
          ∀ (cpu : Cpu) (z3 : Solver Unknown 64) mode, bedrockseedCrack cpu z3 entries mode =
            bedrockseedCrack cpu z3 (entriesOf recorded world order) mode := by
  intro s₀ _ hfresh
  refine EveryState.of_invariant hfresh.exact (fun _ _ _ => Exact.step) fun s h entries hw => ?_
  have hworker := h.worker
  rw [hw] at hworker
  obtain ⟨chunks, hcard, hscans, hmatches⟩ := hworker.1
  refine ⟨chunks, hcard, hscans, hmatches, fun order horder cpu z3 mode => ?_⟩
  apply bedrockseedCrack_of_typeAt
  exact typeAt_of_same (consistent_entriesOf order) (hmatches.mem_iff horder)

theorem crack_of_chunks_row : ∃ s, Reaches (step fun _ => .BEDROCK) NoStop init s ∧
    s.worker = .crack (entriesOf recorded (fun _ => .BEDROCK) row) ∧
    ∃ chunks : Finset ChunkPos, TARGET_CHUNKS ≤ chunks.card ∧ (∀ pos ∈ chunks, pos ∈ s.scans) ∧
      Matches (fun _ => .BEDROCK) chunks (entriesOf recorded (fun _ => .BEDROCK) row) := by
  have hrun : Reaches (step fun _ => .BEDROCK) NoStop init (calling (fun _ => .BEDROCK) row) :=
    Reaches.of_started nofun (fun _ _ h => h.client)
      (reaches_queued.trans (reaches_calling row_nodup row_length))
  obtain ⟨chunks, hcard, hscans, hmatches, -⟩ :=
    crack_of_chunks _ init .refl ⟨rfl, rfl, rfl⟩ _ hrun _ rfl
  exact ⟨_, hrun, rfl, chunks, hcard, hscans, hmatches⟩

end SeedCracking.Collector
