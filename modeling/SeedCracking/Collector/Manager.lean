import SeedCracking.Collector.Scan
import SeedCracking.Transition.Runs
import Mathlib.Data.Finset.Card

/-! `BlockDataManager` as the steps of the client thread and of the worker. -/

namespace SeedCracking.Collector

open Blocks Transition

def TARGET_CHUNKS : Nat := (2 * 16 + 1) * (2 * 16 + 1)

/-- The operations of `stopCollecting`, in order. -/
inductive StopCollecting
  | collecting
  | scannedChunks
  | data
  deriving DecidableEq

inductive Client
  | idle
  | start (range : List ChunkPos)
  | startCollecting (range : List ChunkPos)
  | scanChunk (range : List ChunkPos)
  | contains (pos : ChunkPos) (range : List ChunkPos)
  | submit (pos : ChunkPos) (range : List ChunkPos)
  | stop
  | stopping (pc : StopCollecting)
  deriving DecidableEq

/-- The worker, in a task that scans a chunk and then in `startCracking`. -/
inductive Worker
  | idle
  | check (pos : ChunkPos)
  | getChunk (pos : ChunkPos)
  | scanning (pos : ChunkPos) (todo : List Point)
  | onChunkScanned
  | startCracking
  | copying (size : Nat) (entries : List BlockEntry)
  | stopping (pc : StopCollecting) (entries : List BlockEntry)
  | crack (entries : List BlockEntry)
  | cracking

def Worker.started : Worker → Bool
  | .idle | .check _ => false
  | _ => true

@[ext] structure Fields where
  collecting : Bool
  scannedChunks : Finset ChunkPos
  data : List BlockEntry

/-- What has happened so far. No step reads it. -/
structure History where
  starts : Nat
  /-- The chunks that have been scanned to the end. -/
  scans : List ChunkPos
  /-- The entries of each call of `bedrockseed$crack`. -/
  cracks : List (List BlockEntry)
  /-- Whether a stop has completed since the worker's task passed its check. -/
  stale : Bool

structure State extends Fields, History where
  queue : List ChunkPos
  client : Client
  worker : Worker

def init : State where
  collecting := false
  scannedChunks := ∅
  data := []
  starts := 0
  scans := []
  cracks := []
  stale := false
  queue := []
  client := .idle
  worker := .idle

inductive Act
  | start (range : List ChunkPos)
  | stop
  | chunkLoad (pos : ChunkPos)
  | client
  | take
  | worker
  /-- The native call comes back.  One that ends the program never does. -/
  | returned
  /-- The chunk is not loaded, or the entries cannot be allocated. -/
  | fail

def StopCollecting.run : StopCollecting → Fields → Fields
  | .collecting, f => { f with collecting := false }
  | .scannedChunks, f => { f with scannedChunks := ∅ }
  | .data, f => { f with data := [] }

def StopCollecting.next : StopCollecting → Option StopCollecting
  | .collecting => some .scannedChunks
  | .scannedChunks => some .data
  | .data => none

def clientStep (s : State) : Option State :=
  match s.client with
  | .idle => none
  | .start range =>
    some { s with client := if s.collecting then .idle else .startCollecting range }
  | .startCollecting range =>
    some { s with collecting := true, starts := s.starts + 1, client := .scanChunk range }
  | .scanChunk [] => some { s with client := .idle }
  | .scanChunk (pos :: range) =>
    some { s with client := if s.collecting then .contains pos range else .scanChunk range }
  | .contains pos range =>
    some { s with
      client := if pos ∈ s.scannedChunks then .scanChunk range else .submit pos range }
  | .submit pos range => some { s with queue := s.queue ++ [pos], client := .scanChunk range }
  | .stop => some { s with client := if s.collecting then .stopping .collecting else .idle }
  | .stopping pc =>
    some { s with
      toFields := pc.run s.toFields
      client := match pc.next with
        | some pc => .stopping pc
        | none => .idle
      stale := match pc.next with
        | some _ => s.stale
        | none => s.worker.started }

def takeTask (s : State) : Option State :=
  match s.worker, s.queue with
  | .idle, pos :: queue => some { s with queue := queue, worker := .check pos, stale := false }
  | _, _ => none

def workerStep (world : Point → Block) (s : State) : Option State :=
  match s.worker with
  | .idle => none
  | .check pos => some { s with worker := if s.collecting then .getChunk pos else .idle }
  | .getChunk pos => some { s with worker := .scanning pos pos.points }
  | .scanning pos (p :: todo) =>
    some { s with data := s.data ++ (entryAt recorded world p).toList, worker := .scanning pos todo }
  | .scanning pos [] =>
    some { s with
      scannedChunks := insert pos s.scannedChunks
      scans := s.scans ++ [pos]
      worker := .onChunkScanned }
  | .onChunkScanned =>
    some { s with
      worker := if TARGET_CHUNKS ≤ s.scannedChunks.card then .startCracking else .idle }
  | .startCracking => some { s with worker := .copying s.data.length [] }
  | .copying size entries =>
    if entries.length < size then
      match s.data[entries.length]? with
      | some e => some { s with worker := .copying size (entries ++ [e]) }
      -- out of bounds: the exception ends the task
      | none => some { s with worker := .idle }
    else some { s with worker := .stopping .collecting entries }
  | .stopping pc entries =>
    some { s with
      toFields := pc.run s.toFields
      worker := match pc.next with
        | some pc => .stopping pc entries
        | none => .crack entries }
  | .crack entries => some { s with cracks := s.cracks ++ [entries], worker := .cracking }
  | .cracking => none

def returnTask (s : State) : Option State :=
  match s.worker with
  | .cracking => some { s with worker := .idle }
  | _ => none

def failTask (s : State) : Option State :=
  match s.worker with
  | .getChunk _ | .startCracking => some { s with worker := .idle }
  | _ => none

def begin (s : State) (client : Client) : Option State :=
  match s.client with
  | .idle => some { s with client := client }
  | _ => none

def step (world : Point → Block) (s : State) : Act → Option State
  | .start range => begin s (.start range)
  | .stop => begin s .stop
  | .chunkLoad pos => begin s (.scanChunk [pos])
  | .client => clientStep s
  | .take => takeTask s
  | .worker => workerStep world s
  | .returned => returnTask s
  | .fail => failTask s

/-! ### What a step can do -/

variable {s s' : State}

theorem begin_cases {client : Client} (h : begin s client = some s') :
    s.client = .idle ∧ s' = { s with client := client } := by
  rw [begin] at h
  split at h
  case h_1 hidle => exact ⟨hidle, (Option.some.inj h).symm⟩
  case h_2 => cases h

inductive ClientStep (s : State) : State → Prop
  | quiet (client : Client) (queue : List ChunkPos) (hold : ∀ pc, s.client ≠ .stopping pc)
      (hnew : ∀ pc, client = .stopping pc → pc = .collecting) :
      ClientStep s { s with client := client, queue := queue }
  | startCollecting (range : List ChunkPos) (hc : s.client = .startCollecting range) :
      ClientStep s { s with
        collecting := true
        starts := s.starts + 1
        client := .scanChunk range }
  | stopping (pc : StopCollecting) (hc : s.client = .stopping pc) :
      ClientStep s { s with
        toFields := pc.run s.toFields
        client := match pc.next with
          | some pc => .stopping pc
          | none => .idle
        stale := match pc.next with
          | some _ => s.stale
          | none => s.worker.started }

theorem clientStep_cases (h : clientStep s = some s') : ClientStep s s' := by
  cases hc : s.client with
  | idle => simp only [clientStep, hc, reduceCtorEq] at h
  | start range =>
    simp only [clientStep, hc] at h
    exact Option.some.inj h ▸ .quiet _ s.queue (by simp [hc]) (by split <;> simp)
  | startCollecting range =>
    simp only [clientStep, hc] at h
    exact Option.some.inj h ▸ .startCollecting range hc
  | scanChunk range =>
    cases range with
    | nil =>
      simp only [clientStep, hc] at h
      exact Option.some.inj h ▸ .quiet _ s.queue (by simp [hc]) nofun
    | cons pos range =>
      simp only [clientStep, hc] at h
      exact Option.some.inj h ▸ .quiet _ s.queue (by simp [hc]) (by split <;> simp)
  | contains pos range =>
    simp only [clientStep, hc] at h
    exact Option.some.inj h ▸ .quiet _ s.queue (by simp [hc]) (by split <;> simp)
  | submit pos range =>
    simp only [clientStep, hc] at h
    exact Option.some.inj h ▸ .quiet _ _ (by simp [hc]) nofun
  | stop =>
    simp only [clientStep, hc] at h
    exact Option.some.inj h ▸ .quiet _ s.queue (by simp [hc]) (by split <;> simp)
  | stopping pc =>
    simp only [clientStep, hc] at h
    exact Option.some.inj h ▸ .stopping pc hc

theorem takeTask_cases (h : takeTask s = some s') :
    ∃ pos queue, s.worker = .idle ∧ s.queue = pos :: queue ∧
      s' = { s with queue := queue, worker := .check pos, stale := false } := by
  rw [takeTask] at h
  split at h
  case h_1 pos queue hworker hqueue =>
    exact ⟨pos, queue, hworker, hqueue, (Option.some.inj h).symm⟩
  case h_2 => cases h

inductive WorkerStep (world : Point → Block) (s : State) : State → Prop
  | check (pos : ChunkPos) (hw : s.worker = .check pos) : WorkerStep world s
      { s with worker := if s.collecting then .getChunk pos else .idle }
  | getChunk (pos : ChunkPos) (hw : s.worker = .getChunk pos) : WorkerStep world s
      { s with worker := .scanning pos pos.points }
  | scan (pos : ChunkPos) (p : Point) (todo : List Point) (hw : s.worker = .scanning pos (p :: todo)) :
      WorkerStep world s { s with
        data := s.data ++ (entryAt recorded world p).toList
        worker := .scanning pos todo }
  | mark (pos : ChunkPos) (hw : s.worker = .scanning pos []) : WorkerStep world s { s with
      scannedChunks := insert pos s.scannedChunks
      scans := s.scans ++ [pos]
      worker := .onChunkScanned }
  | enough (hw : s.worker = .onChunkScanned) (hcard : TARGET_CHUNKS ≤ s.scannedChunks.card) :
      WorkerStep world s { s with worker := .startCracking }
  | few (hw : s.worker = .onChunkScanned) (hcard : ¬ TARGET_CHUNKS ≤ s.scannedChunks.card) :
      WorkerStep world s { s with worker := .idle }
  | size (hw : s.worker = .startCracking) :
      WorkerStep world s { s with worker := .copying s.data.length [] }
  | get (size : Nat) (entries : List BlockEntry) (e : BlockEntry)
      (hw : s.worker = .copying size entries) (he : s.data[entries.length]? = some e) :
      WorkerStep world s { s with worker := .copying size (entries ++ [e]) }
  | outOfBounds (size : Nat) (entries : List BlockEntry) (hw : s.worker = .copying size entries) :
      WorkerStep world s { s with worker := .idle }
  | copied (size : Nat) (entries : List BlockEntry) (hw : s.worker = .copying size entries)
      (hsize : size ≤ entries.length) :
      WorkerStep world s { s with worker := .stopping .collecting entries }
  | stopping (pc : StopCollecting) (entries : List BlockEntry) (hw : s.worker = .stopping pc entries) :
      WorkerStep world s { s with
        toFields := pc.run s.toFields
        worker := match pc.next with
          | some pc => .stopping pc entries
          | none => .crack entries }
  | crack (entries : List BlockEntry) (hw : s.worker = .crack entries) :
      WorkerStep world s { s with cracks := s.cracks ++ [entries], worker := .cracking }

theorem workerStep_cases {world : Point → Block} (h : workerStep world s = some s') :
    WorkerStep world s s' := by
  cases hw : s.worker with
  | idle | cracking => simp only [workerStep, hw, reduceCtorEq] at h
  | check pos =>
    simp only [workerStep, hw] at h
    exact Option.some.inj h ▸ .check pos hw
  | getChunk pos =>
    simp only [workerStep, hw] at h
    exact Option.some.inj h ▸ .getChunk pos hw
  | scanning pos todo =>
    cases todo with
    | nil =>
      simp only [workerStep, hw] at h
      exact Option.some.inj h ▸ .mark pos hw
    | cons p todo =>
      simp only [workerStep, hw] at h
      exact Option.some.inj h ▸ .scan pos p todo hw
  | onChunkScanned =>
    simp only [workerStep, hw] at h
    split at h
    case isTrue hcard => exact Option.some.inj h ▸ .enough hw hcard
    case isFalse hcard => exact Option.some.inj h ▸ .few hw hcard
  | startCracking =>
    simp only [workerStep, hw] at h
    exact Option.some.inj h ▸ .size hw
  | copying size entries =>
    simp only [workerStep, hw] at h
    split at h
    case isTrue =>
      split at h
      case h_1 e he => exact Option.some.inj h ▸ .get size entries e hw he
      case h_2 => exact Option.some.inj h ▸ .outOfBounds size entries hw
    case isFalse hge => exact Option.some.inj h ▸ .copied size entries hw (Nat.le_of_not_lt hge)
  | stopping pc entries =>
    simp only [workerStep, hw] at h
    exact Option.some.inj h ▸ .stopping pc entries hw
  | crack entries =>
    simp only [workerStep, hw] at h
    exact Option.some.inj h ▸ .crack entries hw

theorem workerStep_frame {world : Point → Block} (h : WorkerStep world s s') :
    s'.client = s.client ∧ s'.stale = s.stale ∧
      (s.collecting = false → s'.collecting = false) := by
  cases h with
  | stopping pc entries =>
    cases pc with
    | collecting => exact ⟨rfl, rfl, fun _ => rfl⟩
    | _ => exact ⟨rfl, rfl, id⟩
  | _ => exact ⟨rfl, rfl, id⟩

theorem returnTask_cases (h : returnTask s = some s') :
    s.worker = .cracking ∧ s' = { s with worker := .idle } := by
  rw [returnTask] at h
  split at h
  case h_1 hworker => exact ⟨hworker, (Option.some.inj h).symm⟩
  case h_2 => cases h

theorem failTask_cases (h : failTask s = some s') :
    s.worker.started = true ∧ s' = { s with worker := .idle } := by
  rw [failTask] at h
  split at h
  case h_1 hworker => exact ⟨by rw [hworker]; rfl, (Option.some.inj h).symm⟩
  case h_2 hworker => exact ⟨by rw [hworker]; rfl, (Option.some.inj h).symm⟩
  case h_3 => cases h

theorem failTask_worker (h : failTask s = some s') :
    (∃ pos, s.worker = .getChunk pos) ∨ s.worker = .startCracking := by
  rw [failTask] at h
  split at h
  case h_1 pos hworker => exact .inl ⟨pos, hworker⟩
  case h_2 hworker => exact .inr hworker
  case h_3 => cases h

/-! ### Kinds of runs -/

def Working (_ : State) : Act → Prop
  | .client | .take | .worker => True
  | _ => False

/-- Client and worker go on, all chunks are loaded, and the entries can be allocated. -/
def Proceeds (_ : State) : Act → Prop
  | .client | .take | .worker | .returned => True
  | _ => False

def NoCommand (_ : State) : Act → Prop
  | .client | .take | .worker | .returned | .fail => True
  | _ => False

theorem proceeds_of_working {a : Act} (h : Working s a) : Proceeds s a := by
  cases a with
  | client | take | worker => trivial
  | _ => exact h.elim

end SeedCracking.Collector
