import SeedCracking.Collector.Session

/-! What a task does after a stop. -/

namespace SeedCracking.Collector

open Blocks Transition

/-- The operation that completes a stop leaves nothing behind, and no operation of a task that
passed its check before a completed stop changes a field. -/
def Isolated (s : State) (a : Act) (s' : State) : Prop :=
  match a with
  | .client => s.client = .stopping .data → s'.scannedChunks = ∅ ∧ s'.data = []
  | .worker | .fail => s.stale = true → s'.toFields = s.toFields
  | _ => True

def Worker.Ending : Worker → Prop
  | .startCracking => True
  | .copying size entries => size ≤ entries.length
  | .stopping pc _ => pc = .collecting
  | _ => False

/-- A stop completes only when the worker is not scanning and has marked no chunk since the marks
were removed; a start succeeds only when no earlier task is ending; and the chunk of an earlier
task is no longer loaded. -/
def KeepsApart (s : State) : Act → Prop
  | .client =>
    (s.client = .stopping .data →
      s.scannedChunks = ∅ ∧ ∀ pos todo, s.worker ≠ .scanning pos todo) ∧
    (∀ range, s.client = .startCollecting range → s.stale = true → ¬ s.worker.Ending)
  | .worker => s.stale = true → ∀ pos, s.worker ≠ .getChunk pos
  | _ => True

def Worker.Harmless (collecting : Bool) (w : Worker) : Prop :=
  (∀ pos todo, w ≠ .scanning pos todo) ∧ (w.Ending → collecting = false)

structure Apart (s : State) : Prop where
  client : ∀ pc, s.client = .stopping pc → pc ≠ .collecting → s.collecting = false
  scannedChunks : s.stale = true → s.scannedChunks = ∅
  data : s.stale = true → s.data = []
  worker : s.stale = true → s.worker.Harmless s.collecting

variable {world : Point → Block} {s s' : State}

theorem apart_init : Apart init := ⟨nofun, nofun, nofun, nofun⟩

theorem Worker.Harmless.idle {collecting : Bool} : Worker.Harmless collecting .idle :=
  ⟨nofun, nofun⟩

theorem Worker.Harmless.clear {collecting : Bool} {w : Worker} (h : w.Harmless collecting) :
    w.Harmless false := ⟨h.1, fun _ => rfl⟩

theorem Apart.client_step (h : Apart s) (hok : KeepsApart s .client) (hs : ClientStep s s') :
    Apart s' := by
  cases hs with
  | quiet client queue hold hnew =>
    exact ⟨fun pc hc hne => absurd (hnew pc hc) hne, h.scannedChunks, h.data, h.worker⟩
  | startCollecting range hc =>
    refine ⟨nofun, h.scannedChunks, h.data, fun hstale => ⟨(h.worker hstale).1, fun hending => ?_⟩⟩
    exact absurd hending (hok.2 range hc hstale)
  | stopping pc hc =>
    cases pc with
    | collecting =>
      exact ⟨fun _ _ _ => rfl, h.scannedChunks, h.data, fun hstale => (h.worker hstale).clear⟩
    | scannedChunks =>
      exact ⟨fun _ _ _ => h.client _ hc nofun, fun _ => rfl, h.data, h.worker⟩
    | data =>
      obtain ⟨hscanned, hscanning⟩ := hok.1 hc
      have hflag := h.client _ hc nofun
      exact ⟨nofun, fun _ => hscanned, fun _ => rfl, fun _ => ⟨hscanning, fun _ => hflag⟩⟩

theorem Apart.stale_step (h : Apart s) (hstale : s.stale = true)
    (hok : ∀ pos, s.worker ≠ .getChunk pos) (hs : WorkerStep world s s') :
    s'.toFields = s.toFields ∧ s'.worker.Harmless s.collecting := by
  obtain ⟨hscanning, hending⟩ := h.worker hstale
  have hscanned := h.scannedChunks hstale
  have hdata := h.data hstale
  cases hs with
  | check pos =>
    refine ⟨rfl, ?_⟩
    simp only
    split <;> exact ⟨nofun, nofun⟩
  | getChunk pos hw => exact absurd hw (hok pos)
  | scan pos p todo hw => exact absurd hw (hscanning pos _)
  | mark pos hw => exact absurd hw (hscanning pos _)
  | enough hw hcard =>
    rw [hscanned] at hcard
    exact absurd hcard (by decide)
  | size hw => exact ⟨rfl, nofun, fun _ => hending (hw ▸ trivial)⟩
  | get size entries e hw he =>
    rw [hdata] at he
    cases he
  | copied size entries hw hsize => exact ⟨rfl, nofun, fun _ => hending (by rw [hw]; exact hsize)⟩
  | stopping pc entries hw =>
    cases pc with
    | collecting => exact ⟨Fields.ext (hending (hw ▸ rfl)).symm rfl rfl, nofun, nofun⟩
    | scannedChunks => exact ⟨Fields.ext rfl hscanned.symm rfl, nofun, nofun⟩
    | data => exact ⟨Fields.ext rfl rfl hdata.symm, nofun, nofun⟩
  | crack => exact ⟨rfl, nofun, nofun⟩
  | few | outOfBounds => exact ⟨rfl, .idle⟩

theorem Apart.worker_step (h : Apart s) (hok : KeepsApart s .worker) (hs : WorkerStep world s s') :
    Apart s' := by
  obtain ⟨hclient, hstale, hflag⟩ := workerStep_frame hs
  have hstep (hst : s'.stale = true) := h.stale_step (hstale ▸ hst) (hok (hstale ▸ hst)) hs
  refine ⟨fun pc hpc hne => hflag (h.client pc (hclient ▸ hpc) hne), fun hst => ?_, fun hst => ?_,
    fun hst => ?_⟩
  · rw [(hstep hst).1]
    exact h.scannedChunks (hstale ▸ hst)
  · rw [(hstep hst).1]
    exact h.data (hstale ▸ hst)
  · rw [(hstep hst).1]
    exact (hstep hst).2

theorem Apart.step {a : Act} (h : Apart s) (hok : KeepsApart s a)
    (hs : step world s a = some s') : Apart s' := by
  cases a with
  | client => exact h.client_step hok (clientStep_cases hs)
  | worker => exact h.worker_step hok (workerStep_cases hs)
  | take =>
    obtain ⟨pos, queue, -, -, rfl⟩ := takeTask_cases hs
    exact ⟨h.client, nofun, nofun, nofun⟩
  | returned =>
    obtain ⟨-, rfl⟩ := returnTask_cases hs
    exact ⟨h.client, h.scannedChunks, h.data, fun _ => .idle⟩
  | fail =>
    obtain ⟨-, rfl⟩ := failTask_cases hs
    exact ⟨h.client, h.scannedChunks, h.data, fun _ => .idle⟩
  | _ =>
    obtain ⟨-, rfl⟩ := begin_cases hs
    exact ⟨nofun, h.scannedChunks, h.data, h.worker⟩

theorem Apart.isolated {a : Act} (h : Apart s) (hok : KeepsApart s a)
    (hs : Collector.step world s a = some s') : Isolated s a s' := by
  cases a with
  | client =>
    intro hclient
    cases clientStep_cases hs with
    | quiet client queue hold => exact absurd hclient (hold .data)
    | startCollecting range hc => cases hclient.symm.trans hc
    | stopping pc hc =>
      cases hclient.symm.trans hc
      exact ⟨(hok.1 hclient).1, rfl⟩
  | worker => exact fun hstale => (h.stale_step hstale (hok hstale) (workerStep_cases hs)).1
  | fail =>
    obtain ⟨-, rfl⟩ := failTask_cases hs
    exact fun _ => rfl
  | _ => trivial

/-- Runs that keep apart a stop and the task under way, and a start and the task before it. -/
theorem isolated_of_keepsApart (world : Point → Block) :
    EveryStep (step world) KeepsApart init Isolated :=
  EveryStep.of_invariant apart_init (fun _ _ _ h => h.step) fun _ _ _ h => h.isolated

theorem KeepsApart.of_undisturbed {a : Act} (h : Undisturbed s a) : KeepsApart s a := by
  have hstale : s.stale ≠ true := by simp [h.stale]
  cases a with
  | client =>
    exact ⟨fun hclient => absurd hclient (h.client .data), fun _ _ hst => absurd hst hstale⟩
  | worker => exact fun hst => absurd hst hstale
  | _ => trivial

theorem reaches_stale (pos : ChunkPos) : Reaches (step world) KeepsApart init
    { init with
      starts := 1
      stale := true
      worker := .getChunk pos } := by
  have hqueued : Reaches (step world) Undisturbed (started [pos]) (collected world [] [pos]) :=
    reaches_queued
  have htaken := hqueued.trans (take_task rfl rfl rfl rfl rfl)
  refine (Reaches.of_started trivial (fun _ _ => KeepsApart.of_undisturbed) htaken).trans ?_
  -- the stop
  refine .head (a := .stop) trivial rfl ?_
  refine .head (a := .client) ⟨nofun, nofun⟩ rfl ?_
  refine .head (a := .client) ⟨nofun, nofun⟩ rfl ?_
  refine .head (a := .client) ⟨nofun, nofun⟩ rfl ?_
  exact .single (a := .client) ⟨fun _ => ⟨rfl, nofun⟩, nofun⟩ rfl

theorem isolated_unloaded : ∃ s s', Reaches (step fun _ => .BEDROCK) KeepsApart init s ∧
    s.stale = true ∧ step (fun _ => .BEDROCK) s .fail = some s' ∧ s'.toFields = s.toFields := by
  have h : Reaches (step fun _ => .BEDROCK) KeepsApart init _ := reaches_stale ⟨0, 0⟩
  exact ⟨_, _, h, rfl, rfl, isolated_of_keepsApart _ _ .fail _ h trivial rfl rfl⟩

theorem not_isolated : ¬ EveryStep (step fun _ => .BEDROCK) Unrestricted init Isolated := by
  intro h
  obtain ⟨p, todo, hpoints⟩ := List.exists_cons_of_ne_nil (ChunkPos.points_ne_nil ⟨0, 0⟩)
  have hreach : Reaches (step fun _ => .BEDROCK) Unrestricted init
      { init with starts := 1, stale := true, worker := .scanning ⟨0, 0⟩ (p :: todo) } := by
    rw [← hpoints]
    exact (reaches_stale ⟨0, 0⟩).unrestricted.trans (.single (a := .worker) trivial rfl)
  have hfields := h _ .worker _ hreach trivial rfl rfl
  exact List.cons_ne_nil _ _ (congrArg Fields.data hfields)

end SeedCracking.Collector
