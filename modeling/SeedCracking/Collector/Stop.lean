import SeedCracking.Collector.Drain
import SeedCracking.Collector.Recorded

/-! What comes of the `stop` command. -/

namespace SeedCracking.Collector

open Blocks Transition

def Worker.marks : Worker → Finset ChunkPos
  | .getChunk pos | .scanning pos _ => {pos}
  | _ => ∅

/-- The worker has cleared the flag itself, and empties or has emptied the other fields. -/
structure Overtaken (s : State) : Prop where
  collecting : s.collecting = false
  worker : s.worker.Emptying s.scannedChunks s.data ∨
    s.worker.emptied = true ∧ s.scannedChunks = ∅ ∧ s.data = []

def MarksOnly (marks : Finset ChunkPos) (s : State) : Prop :=
  s.scannedChunks ∪ s.worker.marks ⊆ marks

inductive Stopping (s : State) : Prop
  | asked (hclient : s.client = .stop) (h : s.collecting = true ∨ Overtaken s)
  | refused (hclient : s.client = .idle) (h : Overtaken s)
  | flag (hclient : s.client = .stopping .collecting)
  | marks (hclient : s.client = .stopping .scannedChunks) (hcollecting : s.collecting = false)

/-- A stop that has removed the marks, when the task under way had some chunks to mark. -/
structure Stopped (world : Point → Block) (marks : Finset ChunkPos) (s : State) : Prop where
  collecting : s.collecting = false
  marksOnly : MarksOnly marks s
  client : s.client = .stopping .data ∨ s.client = .idle ∧
    ∀ e ∈ s.data, ∃ pos ∈ marks, e ∈ chunkEntries recorded world pos

variable {world : Point → Block} {marks : Finset ChunkPos} {s s' : State}

theorem Overtaken.worker_step (h : Overtaken s) (hs : WorkerStep world s s') : Overtaken s' := by
  obtain ⟨hcollecting, hworker⟩ := h
  cases hs with
  | check pos hw =>
    rw [hw] at hworker
    obtain ⟨-, hscanned, hdata⟩ := hworker.resolve_left id
    refine ⟨hcollecting, .inr ⟨?_, hscanned, hdata⟩⟩
    simp only [hcollecting, Bool.false_eq_true, if_false]
    rfl
  | stopping pc entries hw =>
    rw [hw] at hworker
    cases pc with
    | collecting => simp [Worker.Emptying, Worker.emptied] at hworker
    | scannedChunks => exact ⟨hcollecting, .inl rfl⟩
    | data =>
      have hscanned : s.scannedChunks = ∅ := hworker.resolve_right nofun
      exact ⟨hcollecting, .inl ⟨hscanned, rfl⟩⟩
  | crack entries hw =>
    rw [hw] at hworker
    exact ⟨hcollecting, .inr ⟨rfl, hworker.resolve_right nofun⟩⟩
  | getChunk pos hw | scan pos p todo hw | mark pos hw | enough hw | few hw | size hw
  | get size entries e hw | outOfBounds size entries hw | copied size entries hw =>
    simp [hw, Worker.Emptying, Worker.emptied] at hworker

theorem collecting_step (hs : WorkerStep world s s') :
    s'.collecting = s.collecting ∨ Overtaken s' := by
  cases hs with
  | stopping pc entries =>
    cases pc with
    | collecting => exact .inr ⟨rfl, .inl trivial⟩
    | _ => exact .inl rfl
  | _ => exact .inl rfl

theorem Overtaken.take_step (h : Overtaken s) (hs : takeTask s = some s') : Overtaken s' := by
  obtain ⟨pos, queue, hw, -, rfl⟩ := takeTask_cases hs
  obtain ⟨hcollecting, hworker⟩ := h
  rw [hw] at hworker
  exact ⟨hcollecting, .inr ⟨rfl, (hworker.resolve_left id).2⟩⟩

theorem Overtaken.return_step (h : Overtaken s) (hs : returnTask s = some s') : Overtaken s' := by
  obtain ⟨hw, rfl⟩ := returnTask_cases hs
  obtain ⟨hcollecting, hworker⟩ := h
  rw [hw] at hworker
  exact ⟨hcollecting, .inr ⟨rfl, (hworker.resolve_left id).2⟩⟩

theorem Overtaken.not_fails (h : Overtaken s) : failTask s ≠ some s' := by
  intro hs
  have hworker := h.worker
  rcases failTask_worker hs with ⟨pos, hw⟩ | hw
  · simp [hw, Worker.Emptying, Worker.emptied] at hworker
  · simp [hw, Worker.Emptying, Worker.emptied] at hworker

theorem Stopping.frame (h : Stopping s) (hclient : s'.client = s.client)
    (hcollecting : s'.collecting = s.collecting ∨ Overtaken s')
    (hover : Overtaken s → Overtaken s') : Stopping s' := by
  cases h with
  | asked hc h =>
    refine .asked (hclient.trans hc) ?_
    rcases h with h | h
    · exact hcollecting.imp_left fun hsame => hsame.trans h
    · exact .inr (hover h)
  | refused hc h => exact .refused (hclient.trans hc) (hover h)
  | flag hc => exact .flag (hclient.trans hc)
  | marks hc h =>
    refine .marks (hclient.trans hc) ?_
    rcases hcollecting with hsame | hover
    · exact hsame.trans h
    · exact hover.collecting

theorem Stopping.client_step (h : Stopping s) (hs : clientStep s = some s') :
    Stopping s' ∨ s.client = .stopping .scannedChunks ∧ Stopped world s.worker.marks s' := by
  cases h with
  | asked hclient h =>
    simp only [clientStep, hclient, Option.some.injEq] at hs
    subst hs
    by_cases hflag : s.collecting = true
    · rw [if_pos hflag]
      exact .inl (.flag rfl)
    · rw [if_neg hflag]
      obtain ⟨hcollecting, hworker⟩ := h.resolve_left hflag
      exact .inl (.refused rfl ⟨hcollecting, hworker⟩)
  | refused hclient => simp only [clientStep, hclient, reduceCtorEq] at hs
  | flag hclient =>
    simp only [clientStep, hclient, Option.some.injEq] at hs
    subst hs
    exact .inl (.marks rfl rfl)
  | marks hclient hcollecting =>
    simp only [clientStep, hclient, Option.some.injEq] at hs
    subst hs
    refine .inr ⟨hclient, hcollecting, ?_, .inl rfl⟩
    simp [MarksOnly, StopCollecting.run]

theorem MarksOnly.worker_step (h : MarksOnly marks s) (hcollecting : s.collecting = false)
    (hs : WorkerStep world s s') : MarksOnly marks s' := by
  rw [MarksOnly] at h ⊢
  cases hs with
  | check pos hw => simpa [hw, hcollecting, Worker.marks] using h
  | mark pos hw =>
    rw [hw] at h
    simpa [Worker.marks, Finset.insert_subset_iff, Finset.union_subset_iff, and_comm] using h
  | stopping pc entries hw =>
    rw [hw] at h
    cases pc with
    | scannedChunks => simp [StopCollecting.run, StopCollecting.next, Worker.marks]
    | _ => exact h
  | getChunk pos hw | scan pos p todo hw | enough hw | few hw | size hw | get size entries e hw
  | outOfBounds size entries hw | copied size entries hw | crack entries hw =>
    rw [hw] at h
    exact h

theorem MarksOnly.mem_of_scanning {pos : ChunkPos} {todo : List Point} (h : MarksOnly marks s)
    (hw : s.worker = .scanning pos todo) : pos ∈ marks := by
  rw [MarksOnly, hw] at h
  exact h (Finset.mem_union_right _ (Finset.mem_singleton_self pos))

theorem Stopped.worker_step (h : Stopped world marks s)
    (htruthful : Truthful world (fun _ => True) s) (hs : WorkerStep world s s') :
    Stopped world marks s' := by
  obtain ⟨hsame, -, hflag⟩ := workerStep_frame hs
  refine ⟨hflag h.collecting, h.marksOnly.worker_step h.collecting hs, ?_⟩
  rw [hsame]
  refine h.client.imp_right fun ⟨hclient, hdata⟩ => ⟨hclient, ?_⟩
  cases hs with
  | scan pos p todo hw =>
    intro e he
    rcases List.mem_append.mp he with he | he
    · exact hdata e he
    · have hp : p ∈ pos.points := htruthful.scanning pos _ hw List.mem_cons_self
      exact ⟨pos, h.marksOnly.mem_of_scanning hw,
        List.mem_filterMap.mpr ⟨p, hp, Option.mem_toList.mp he⟩⟩
  | stopping pc entries =>
    cases pc with
    | data => exact nofun
    | _ => exact hdata
  | _ => exact hdata

theorem Stopped.client_step (h : Stopped world marks s) (hs : clientStep s = some s') :
    Stopped world marks s' := by
  obtain ⟨hcollecting, hmarks, hclient | ⟨hclient, -⟩⟩ := h
  · simp only [clientStep, hclient, Option.some.injEq] at hs
    subst hs
    exact ⟨hcollecting, hmarks, .inr ⟨rfl, fun _ he => absurd he List.not_mem_nil⟩⟩
  · simp only [clientStep, hclient, reduceCtorEq] at hs

theorem Stopped.frame (h : Stopped world marks s) (hclient : s'.client = s.client)
    (hfields : s'.toFields = s.toFields) (hworker : s'.worker.marks = ∅) :
    Stopped world marks s' := by
  obtain ⟨hcollecting, hmarks, hdata⟩ := h
  refine ⟨?_, ?_, ?_⟩
  · rw [hfields]
    exact hcollecting
  · rw [MarksOnly, hfields, hworker, Finset.union_empty]
    exact Finset.subset_union_left.trans hmarks
  · rw [hclient, hfields]
    exact hdata

structure Halting (world : Point → Block) (s : State) : Prop where
  truthful : Truthful world (fun _ => True) s
  stopping : Stopping s

structure Halted (world : Point → Block) (s₂ : State) (a : Act) (s : State) : Prop where
  act : a = .client
  client : s₂.client = .stopping .scannedChunks
  truthful : Truthful world (fun _ => True) s
  stopped : Stopped world s₂.worker.marks s

theorem Halting.step {a : Act} (h : Halting world s) (hok : NoCommand s a)
    (hs : Collector.step world s a = some s') : Halting world s' ∨ Halted world s a s' := by
  have htruthful := h.truthful.step (fun _ _ => trivial) hs
  cases a with
  | client =>
    exact (h.stopping.client_step hs).imp (fun hstopping => ⟨htruthful, hstopping⟩)
      fun ⟨hclient, hstopped⟩ => ⟨rfl, hclient, htruthful, hstopped⟩
  | worker =>
    have hworker := workerStep_cases hs
    exact .inl ⟨htruthful, h.stopping.frame (workerStep_frame hworker).1 (collecting_step hworker)
      fun hover => hover.worker_step hworker⟩
  | take =>
    refine .inl ⟨htruthful, h.stopping.frame ?_ (.inl ?_) fun hover => hover.take_step hs⟩
    all_goals
      obtain ⟨_, _, -, -, rfl⟩ := takeTask_cases hs
      rfl
  | returned =>
    refine .inl ⟨htruthful, h.stopping.frame ?_ (.inl ?_) fun hover => hover.return_step hs⟩
    all_goals
      obtain ⟨-, rfl⟩ := returnTask_cases hs
      rfl
  | fail =>
    refine .inl ⟨htruthful, h.stopping.frame ?_ (.inl ?_) fun hover => absurd hs hover.not_fails⟩
    all_goals
      obtain ⟨-, rfl⟩ := failTask_cases hs
      rfl
  | _ => exact hok.elim

theorem Halted.step {s₂ : State} {a₂ a : Act} (h : Halted world s₂ a₂ s) (hok : NoCommand s a)
    (hs : Collector.step world s a = some s') : Halted world s₂ a₂ s' := by
  refine ⟨h.act, h.client, h.truthful.step (fun _ _ => trivial) hs, ?_⟩
  cases a with
  | client => exact h.stopped.client_step hs
  | worker => exact h.stopped.worker_step h.truthful (workerStep_cases hs)
  | take =>
    obtain ⟨_, _, -, -, rfl⟩ := takeTask_cases hs
    exact h.stopped.frame rfl rfl rfl
  | returned =>
    obtain ⟨-, rfl⟩ := returnTask_cases hs
    exact h.stopped.frame rfl rfl rfl
  | fail =>
    obtain ⟨-, rfl⟩ := failTask_cases hs
    exact h.stopped.frame rfl rfl rfl
  | _ => exact hok.elim

theorem Stopping.empty (h : Stopping s) (hresting : Resting s) :
    s.collecting = false ∧ s.scannedChunks = ∅ ∧ s.data = [] := by
  obtain ⟨hidle, hrest⟩ := hresting
  cases h with
  | asked hclient | flag hclient | marks hclient => cases hidle.symm.trans hclient
  | refused _ hover =>
    obtain ⟨hcollecting, hworker⟩ := hover
    rcases hrest with ⟨hw, -⟩ | hw
    · rw [hw] at hworker
      exact ⟨hcollecting, (hworker.resolve_left id).2⟩
    · rw [hw] at hworker
      exact ⟨hcollecting, (hworker.resolve_left id).2⟩

/-- A stop comes to its end whatever fails.  Nothing is left, or a chunk that the worker was in when
the marks were removed. -/
theorem stops (world : Point → Block) : EveryState (step world) Unrestricted init fun s =>
    s.collecting = true → ∀ s₁, step world s .stop = some s₁ →
      Terminates (step world) NoCommand s₁ ∧
      EveryState (step world) NoCommand s₁ fun s' => Final (step world) Working s' →
        Resting s' ∧ s'.collecting = false ∧
          (s'.scannedChunks = ∅ ∧ s'.data = [] ∨
            ∃ s₂ s₃, Reaches (step world) NoCommand s₁ s₂ ∧
              s₂.client = .stopping .scannedChunks ∧ step world s₂ .client = some s₃ ∧
              Reaches (step world) NoCommand s₃ s' ∧ s'.scannedChunks ⊆ s₂.worker.marks ∧
              ∀ e ∈ s'.data, ∃ pos ∈ s₂.worker.marks, e ∈ chunkEntries recorded world pos) := by
  intro s hs hcollecting s₁ hstop
  refine ⟨terminates_noCommand world s₁, fun s' hs' hfinal => ?_⟩
  obtain ⟨-, rfl⟩ := begin_cases hstop
  have hsubmits : Reaches (step world) (Submits fun _ => True) init s :=
    hs.mono fun _ _ _ _ _ => trivial
  have htruthful : Truthful world (fun _ => True) s :=
    hsubmits.invariant truthful_init fun _ _ _ => Truthful.step
  have hasked : Halting world { s with client := .stop } :=
    ⟨htruthful.step (a := .stop) nofun hstop, .asked rfl (.inl hcollecting)⟩
  have hresting := resting_of_final hfinal
  refine ⟨hresting, ?_⟩
  rcases hs'.passes hasked (fun _ _ _ => Halting.step) fun _ _ _ _ _ => Halted.step with
    hhalting | ⟨s₂, a, s₃, hs₂, hclear, hs₃, rfl, hclient, -, hstopped⟩
  · obtain ⟨hflag, hempty⟩ := hhalting.stopping.empty hresting
    exact ⟨hflag, .inl hempty⟩
  · obtain ⟨hflag, hmarks, hnext | ⟨-, hdata⟩⟩ := hstopped
    · cases hresting.client.symm.trans hnext
    · exact ⟨hflag, .inr ⟨s₂, s₃, hs₂, hclient, hclear, hs₃,
        Finset.subset_union_left.trans hmarks, hdata⟩⟩

def fetching (pos : ChunkPos) : State :=
  { collected (fun _ => .BEDROCK) [] [] with worker := .getChunk pos }

def leftBehind (pos : ChunkPos) : State :=
  { init with
    scannedChunks := {pos}
    data := chunkEntries recorded (fun _ => .BEDROCK) pos
    starts := 1
    scans := [pos]
    stale := true }

theorem reaches_leftBehind (pos : ChunkPos) : Reaches (step fun _ => .BEDROCK) NoCommand
    { fetching pos with client := .stop } (leftBehind pos) := by
  -- the stop
  refine .head (a := .client) trivial rfl ?_
  refine .head (a := .client) trivial rfl ?_
  refine .head (a := .client) trivial rfl ?_
  refine .head (a := .client) trivial rfl ?_
  -- the rest of the task
  refine .head (a := .worker) trivial rfl ?_
  refine .trans ((scan_points rfl rfl).mono fun _ _ => Reads.noCommand) ?_
  refine .head (a := .worker) trivial rfl ?_
  refine .single (a := .worker) trivial ?_
  rfl

theorem stops_scanning : ∃ s₁ s', Reaches (step fun _ => .BEDROCK) NoCommand s₁ s' ∧
    Final (step fun _ => .BEDROCK) Working s' ∧ s'.scannedChunks = {⟨0, 0⟩} ∧ ∃ s₂ s₃,
      Reaches (step fun _ => .BEDROCK) NoCommand s₁ s₂ ∧ s₂.client = .stopping .scannedChunks ∧
      step (fun _ => .BEDROCK) s₂ .client = some s₃ ∧
      Reaches (step fun _ => .BEDROCK) NoCommand s₃ s' ∧ s'.scannedChunks ⊆ s₂.worker.marks := by
  have hqueued : Reaches (step fun _ => .BEDROCK) Undisturbed (started [⟨0, 0⟩])
      (collected (fun _ => .BEDROCK) [] [⟨0, 0⟩]) := reaches_queued
  have htaken : Reaches (step fun _ => .BEDROCK) Undisturbed (started [⟨0, 0⟩])
      (fetching ⟨0, 0⟩) := hqueued.trans (take_task rfl rfl rfl rfl rfl)
  have hfetching : Reaches (step fun _ => .BEDROCK) Unrestricted init (fetching ⟨0, 0⟩) :=
    Reaches.of_started trivial (fun _ _ _ => trivial) htaken
  have hfinal : Final (step fun _ => .BEDROCK) Working (leftBehind ⟨0, 0⟩) := by
    intro a hok
    cases a with
    | client | take | worker => rfl
    | _ => exact hok.elim
  obtain ⟨-, -, ⟨hscanned, -⟩ | ⟨s₂, s₃, hs₂, hclient, hclear, hs₃, hmarks, -⟩⟩ :=
    (stops _ _ hfetching rfl _ rfl).2 _ (reaches_leftBehind ⟨0, 0⟩) hfinal
  · exact absurd hscanned (Finset.singleton_ne_empty _)
  · exact ⟨_, _, reaches_leftBehind ⟨0, 0⟩, hfinal, rfl, s₂, s₃, hs₂, hclient, hclear, hs₃, hmarks⟩

end SeedCracking.Collector
