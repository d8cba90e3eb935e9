import SeedCracking.Collector.Manager

/-! A session that no stop disturbs. -/

namespace SeedCracking.Collector

open Blocks Transition

/-- Client and worker go on, no stop is under way, none has completed during the task, and the task
finds its chunk unmarked. -/
structure Undisturbed (s : State) (a : Act) : Prop where
  working : Working s a
  stale : s.stale = false
  client : ∀ pc, s.client ≠ .stopping pc
  unmarked : a = .worker → ∀ pos, s.worker = .getChunk pos → pos ∉ s.scannedChunks

structure Reads (stale : Bool) (s : State) (a : Act) : Prop where
  worker : a = .worker
  client : s.client = .idle
  stale_eq : s.stale = stale
  scanning : ∃ pos todo, s.worker = .scanning pos todo

theorem Reads.undisturbed {s : State} {a : Act} (h : Reads false s a) : Undisturbed s a := by
  obtain ⟨rfl, hclient, hstale, pos, todo, hw⟩ := h
  exact ⟨trivial, hstale, by simp [hclient], by simp [hw]⟩

theorem Reads.noCommand {stale : Bool} {s : State} {a : Act} (h : Reads stale s a) :
    NoCommand s a := by
  obtain ⟨rfl, -⟩ := h
  trivial

theorem Reads.noStop {stale : Bool} {s : State} {a : Act} (h : Reads stale s a)
    (pc : StopCollecting) : s.client ≠ .stopping pc := by
  simp [h.client]

variable {world : Point → Block}

theorem scan_points {s : State} {pos : ChunkPos} {todo : List Point} (hclient : s.client = .idle)
    (hw : s.worker = .scanning pos todo) :
    Reaches (step world) (Reads s.stale) s { s with
      data := s.data ++ todo.filterMap (entryAt recorded world)
      worker := .scanning pos [] } := by
  induction todo generalizing s with
  | nil =>
    rw [List.filterMap_nil, List.append_nil, ← hw]
    exact .refl
  | cons p todo ih =>
    have hadd : step world s .worker = some { s with
        data := s.data ++ (entryAt recorded world p).toList
        worker := .scanning pos todo } := by
      simp [step, workerStep, hw]
    refine .head ⟨rfl, hclient, rfl, _, _, hw⟩ hadd ?_
    rw [List.filterMap_eq_flatMap_toList, List.flatMap_cons, ← List.append_assoc,
      ← List.filterMap_eq_flatMap_toList]
    exact ih (s := { s with
      data := s.data ++ (entryAt recorded world p).toList
      worker := .scanning pos todo }) hclient rfl

section Steps

variable {s : State} (hstale : s.stale = false)
include hstale

theorem submit_range {range : List ChunkPos} (hclient : s.client = .scanChunk range)
    (hcollecting : s.collecting = true) (hnew : ∀ pos ∈ range, pos ∉ s.scannedChunks) :
    Reaches (step world) Undisturbed s
      { s with queue := s.queue ++ range, client := .idle } := by
  induction range generalizing s with
  | nil =>
    refine .single (a := .client) ⟨trivial, hstale, by simp [hclient], by simp⟩ ?_
    simp [step, clientStep, hclient]
  | cons pos range ih =>
    rw [List.append_cons]
    have hcontains : step world s .client = some { s with client := .contains pos range } := by
      simp [step, clientStep, hclient, hcollecting]
    refine .head (a := .client) ⟨trivial, hstale, by simp [hclient], by simp⟩ hcontains ?_
    have hsubmit : step world { s with client := .contains pos range } .client =
        some { s with client := .submit pos range } := by
      simp [step, clientStep, hnew pos List.mem_cons_self]
    refine .head (a := .client) ⟨trivial, hstale, by simp, by simp⟩ hsubmit ?_
    refine .head (a := .client) ⟨trivial, hstale, by simp, by simp⟩ rfl ?_
    exact ih (s := { s with queue := s.queue ++ [pos], client := .scanChunk range })
      hstale rfl hcollecting fun pos' hpos => hnew pos' (List.mem_cons_of_mem _ hpos)

variable (hclient : s.client = .idle)
include hclient

theorem undisturbed_worker (hw : ∀ pos, s.worker = .getChunk pos → pos ∉ s.scannedChunks) :
    Undisturbed s .worker :=
  ⟨trivial, hstale, by simp [hclient], fun _ => hw⟩

theorem take_task {pos : ChunkPos} {queue : List ChunkPos} (hw : s.worker = .idle)
    (hqueue : s.queue = pos :: queue) (hcollecting : s.collecting = true) :
    Reaches (step world) Undisturbed s { s with
      stale := false
      queue := queue
      worker := .getChunk pos } := by
  have htake : step world s .take = some { s with
      stale := false
      queue := queue
      worker := .check pos } := by
    simp [step, takeTask, hw, hqueue]
  refine .head (a := .take) ⟨trivial, hstale, by simp [hclient], by simp⟩ htake ?_
  have hcheck : step world { s with stale := false, queue := queue, worker := .check pos } .worker =
      some { s with stale := false, queue := queue, worker := .getChunk pos } := by
    simp [step, workerStep, hcollecting]
  exact .single (undisturbed_worker rfl hclient (by simp)) hcheck

theorem scan_task {pos : ChunkPos} {queue : List ChunkPos} (hw : s.worker = .idle)
    (hqueue : s.queue = pos :: queue) (hcollecting : s.collecting = true)
    (hnew : pos ∉ s.scannedChunks) :
    Reaches (step world) Undisturbed s { s with
      scannedChunks := insert pos s.scannedChunks
      data := s.data ++ chunkEntries recorded world pos
      scans := s.scans ++ [pos]
      stale := false
      queue := queue
      worker := .onChunkScanned } := by
  refine (take_task hstale hclient hw hqueue hcollecting).trans ?_
  refine .head (a := .worker) (undisturbed_worker rfl hclient ?_) rfl ?_
  · rintro _ ⟨⟩
    exact hnew
  refine .trans ((scan_points (s := { s with
    stale := false
    queue := queue
    worker := .scanning pos pos.points }) hclient rfl).mono fun _ _ => Reads.undisturbed) ?_
  exact .single (a := .worker) (undisturbed_worker rfl hclient (by simp)) rfl

theorem scan_tasks {chunks queue : List ChunkPos} (hw : s.worker = .idle)
    (hqueue : s.queue = chunks ++ queue) (hcollecting : s.collecting = true)
    (hnew : ∀ pos ∈ chunks, pos ∉ s.scannedChunks) (hnodup : chunks.Nodup)
    (hfew : s.scannedChunks.card + chunks.length < TARGET_CHUNKS) :
    Reaches (step world) Undisturbed s { s with
      scannedChunks := s.scannedChunks ∪ chunks.toFinset
      data := s.data ++ entriesOf recorded world chunks
      scans := s.scans ++ chunks
      queue := queue } := by
  induction chunks generalizing s with
  | nil =>
    obtain ⟨fields, history, _, client, worker⟩ := s
    obtain rfl : _ = queue := hqueue
    simp only [List.toFinset_nil, Finset.union_empty, entriesOf, List.flatMap_nil, List.append_nil]
    exact .refl
  | cons pos chunks ih =>
    have hcard : (insert pos s.scannedChunks).card ≤ s.scannedChunks.card + 1 :=
      Finset.card_insert_le pos s.scannedChunks
    obtain ⟨hpos, hnodup⟩ := List.nodup_cons.mp hnodup
    rw [List.length_cons] at hfew
    refine .trans (scan_task hstale hclient hw hqueue hcollecting (hnew pos List.mem_cons_self)) ?_
    refine .head (a := .worker) (undisturbed_worker rfl hclient (by simp)) rfl ?_
    rw [if_neg (by simp only; omega)]
    have hrest := ih (s := { s with
      scannedChunks := insert pos s.scannedChunks
      data := s.data ++ chunkEntries recorded world pos
      scans := s.scans ++ [pos]
      stale := false
      queue := chunks ++ queue
      worker := .idle }) rfl hclient rfl rfl hcollecting (fun pos' hpos' => ?_) hnodup
      (by simp only; omega)
    · obtain ⟨fields, ⟨starts, scans, cracks, stale⟩, _, client, worker⟩ := s
      obtain rfl : stale = false := hstale
      obtain rfl : worker = .idle := hw
      simp only [List.append_assoc, List.singleton_append, Finset.insert_union] at hrest
      simp only [entriesOf, List.flatMap_cons, List.toFinset_cons, Finset.union_insert]
      exact hrest
    · rw [Finset.mem_insert, not_or]
      refine ⟨?_, hnew pos' (List.mem_cons_of_mem _ hpos')⟩
      rintro rfl
      exact hpos hpos'

theorem copy_data {entries rest : List BlockEntry} (hw : s.worker = .copying s.data.length entries)
    (hdata : entries ++ rest = s.data) :
    Reaches (step world) Undisturbed s { s with worker := .stopping .collecting s.data } := by
  induction rest generalizing s entries with
  | nil =>
    rw [List.append_nil] at hdata
    refine .single (a := .worker) (undisturbed_worker hstale hclient (by simp [hw])) ?_
    simp [step, workerStep, hw, hdata]
  | cons e rest ih =>
    have hget : step world s .worker =
        some { s with worker := .copying s.data.length (entries ++ [e]) } := by
      simp [step, workerStep, hw, ← hdata]
    refine .head (undisturbed_worker hstale hclient (by simp [hw])) hget ?_
    exact ih (s := { s with worker := .copying s.data.length (entries ++ [e]) }) hstale hclient rfl
      (by rw [← hdata]; simp)

theorem crack_data (hw : s.worker = .startCracking) :
    Reaches (step world) Undisturbed s { s with
      collecting := false
      scannedChunks := ∅
      data := []
      worker := .crack s.data } := by
  have hsize : step world s .worker = some { s with worker := .copying s.data.length [] } := by
    simp [step, workerStep, hw]
  refine .head (undisturbed_worker hstale hclient (by simp [hw])) hsize ?_
  refine .trans (copy_data (s := { s with worker := .copying s.data.length [] }) hstale hclient
    rfl rfl) ?_
  refine .head (a := .worker) (undisturbed_worker hstale hclient (by simp)) rfl ?_
  refine .head (a := .worker) (undisturbed_worker hstale hclient ?_) rfl ?_
  · simp [StopCollecting.next]
  refine .single (a := .worker) (undisturbed_worker hstale hclient ?_) rfl
  simp [StopCollecting.next]

end Steps

variable {chunks : List ChunkPos}

def started (chunks : List ChunkPos) : State := { init with client := .start chunks }

def collected (world : Point → Block) (chunks queue : List ChunkPos) : State :=
  { init with
    collecting := true
    scannedChunks := chunks.toFinset
    data := entriesOf recorded world chunks
    starts := 1
    scans := chunks
    queue := queue }

def calling (world : Point → Block) (chunks : List ChunkPos) : State :=
  { init with
    starts := 1
    scans := chunks
    worker := .crack (entriesOf recorded world chunks) }

def called (world : Point → Block) (chunks : List ChunkPos) : State :=
  { calling world chunks with
    cracks := [entriesOf recorded world chunks]
    worker := .cracking }

theorem Reaches.of_started {ok : State → Act → Prop} {s : State} (hstart : ok init (.start chunks))
    (hok : ∀ s a, Undisturbed s a → ok s a)
    (h : Reaches (step world) Undisturbed (started chunks) s) : Reaches (step world) ok init s :=
  .head hstart rfl (h.mono hok)

theorem reaches_queued :
    Reaches (step world) Undisturbed (started chunks) (collected world [] chunks) := by
  refine .head (a := .client) ⟨trivial, rfl, by simp [started], by simp⟩ rfl ?_
  refine .head (a := .client) ⟨trivial, rfl, by simp [started, init], by simp⟩ rfl ?_
  exact submit_range (s := { collected world [] [] with client := .scanChunk chunks })
    rfl rfl rfl (by simp [collected])

theorem reaches_collected {queue : List ChunkPos} (hnodup : chunks.Nodup)
    (hfew : chunks.length < TARGET_CHUNKS) :
    Reaches (step world) Undisturbed (collected world [] (chunks ++ queue))
      (collected world chunks queue) := by
  have h : Reaches (step world) Undisturbed (collected world [] (chunks ++ queue)) _ :=
    scan_tasks rfl rfl rfl rfl rfl (by simp [collected]) hnodup (by simpa [collected] using hfew)
  simpa [collected, entriesOf] using h

theorem reaches_startCracking (hnodup : chunks.Nodup) (hlen : chunks.length = TARGET_CHUNKS) :
    Reaches (step world) Undisturbed (collected world [] chunks)
      { collected world chunks [] with worker := .startCracking } := by
  obtain rfl | ⟨front, last, rfl⟩ := chunks.eq_nil_or_concat
  · cases hlen
  rw [List.concat_eq_append] at hnodup hlen ⊢
  have hcard : (front ++ [last]).toFinset.card = TARGET_CHUNKS := by
    rw [List.toFinset_card_of_nodup hnodup, hlen]
  have hset : insert last front.toFinset = (front ++ [last]).toFinset := by
    simp
  have hfew : front.length < TARGET_CHUNKS := by
    rw [← hlen]
    simp
  obtain ⟨hfront, -, hdisjoint⟩ := List.nodup_append.mp hnodup
  have hnew : last ∉ (collected world front [last]).scannedChunks := by
    intro hmem
    exact hdisjoint last (List.mem_toFinset.mp hmem) last (List.mem_singleton_self last) rfl
  have hlast : Reaches (step world) Undisturbed (collected world front [last]) _ :=
    scan_task rfl rfl rfl rfl rfl hnew
  refine (reaches_collected hfront hfew).trans (hlast.trans ?_)
  refine .single (a := .worker) (undisturbed_worker rfl rfl (by simp [collected])) ?_
  simp only [step, workerStep, collected, init, hset, hcard, le_refl, if_true, entriesOf,
    List.flatMap_append, List.flatMap_singleton]

theorem reaches_calling (hnodup : chunks.Nodup) (hlen : chunks.length = TARGET_CHUNKS) :
    Reaches (step world) Undisturbed (collected world [] chunks) (calling world chunks) :=
  (reaches_startCracking hnodup hlen).trans (crack_data rfl rfl rfl)

theorem reaches_called (hnodup : chunks.Nodup) (hlen : chunks.length = TARGET_CHUNKS) :
    Reaches (step world) Undisturbed (collected world [] chunks) (called world chunks) :=
  (reaches_calling hnodup hlen).trans
    (.single (a := .worker) (undisturbed_worker rfl rfl (by simp [calling])) rfl)

def row : List ChunkPos := (List.range TARGET_CHUNKS).map fun n : Nat => ⟨n, 0⟩

theorem row_nodup : row.Nodup := by
  refine List.Nodup.map ?_ List.nodup_range
  intro m n h
  simpa using h

theorem row_length : row.length = TARGET_CHUNKS := by
  simp [row]

theorem reaches_called_row {ok : State → Act → Prop} (hstart : ok init (.start row))
    (hok : ∀ s a, Undisturbed s a → ok s a) :
    Reaches (step world) ok init (called world row) :=
  Reaches.of_started hstart hok (reaches_queued.trans (reaches_called row_nodup row_length))

end SeedCracking.Collector
