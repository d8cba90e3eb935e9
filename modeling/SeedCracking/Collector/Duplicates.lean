import SeedCracking.Blocks.Invariance
import SeedCracking.Collector.Session

/-! Whether a chunk is collected twice. -/

namespace SeedCracking.Collector

open Blocks Transition

def EverySession (world : Point → Block) (ok : State → Act → Prop) (P : State → Prop) : Prop :=
  ∀ s₀, Reaches (step world) Unrestricted init s₀ → s₀.data = [] → s₀.scannedChunks = ∅ →
    EveryState (step world) ok s₀ P

def NoDuplicates (s : State) : Prop := (s.data.map BlockEntry.point).Nodup

def NoStop (s : State) (_ : Act) : Prop := ∀ pc, s.client ≠ .stopping pc

/-- No stop is under way, and a task that gets its chunk finds it unmarked. -/
def Unmarked (s : State) (a : Act) : Prop :=
  NoStop s a ∧ (a = .worker → ∀ pos, s.worker = .getChunk pos → pos ∉ s.scannedChunks)

def Worker.Source (scannedChunks : Finset ChunkPos) (p : Point) (w : Worker) : Prop :=
  (∃ pos ∈ scannedChunks, p ∈ pos.points) ∨
    match w with
    | .scanning pos todo => ∃ done, done ++ todo = pos.points ∧ p ∈ done
    | .stopping pc _ => pc = .data
    | _ => False

def State.InOrder (s : State) : Prop :=
  ∀ pos todo, s.worker = .scanning pos todo → ∃ done, done ++ todo = pos.points

structure Distinct (s : State) : Prop where
  nodup : NoDuplicates s
  source : ∀ e ∈ s.data, s.worker.Source s.scannedChunks e.point
  inOrder : s.InOrder
  unmarked : ∀ pos todo, s.worker = .scanning pos todo → pos ∉ s.scannedChunks

variable {world : Point → Block} {s s' : State}

theorem inOrder_step {a : Act} (h : s.InOrder) (hs : step world s a = some s') : s'.InOrder := by
  cases a with
  | client =>
    cases clientStep_cases hs with
    | quiet | startCollecting | stopping => exact h
  | worker =>
    cases workerStep_cases hs with
    | check =>
      intro pos todo hw
      simp only at hw
      split at hw <;> cases hw
    | getChunk pos =>
      rintro _ _ ⟨⟩
      exact ⟨[], rfl⟩
    | scan pos p todo hw =>
      rintro _ _ ⟨⟩
      obtain ⟨done, hdone⟩ := h _ _ hw
      exact ⟨done ++ [p], by rw [List.append_assoc]; exact hdone⟩
    | stopping pc =>
      intro pos todo hw
      cases pc <;> cases hw
    | _ => exact nofun
  | take =>
    obtain ⟨_, _, -, -, rfl⟩ := takeTask_cases hs
    exact nofun
  | returned =>
    obtain ⟨-, rfl⟩ := returnTask_cases hs
    exact nofun
  | fail =>
    obtain ⟨-, rfl⟩ := failTask_cases hs
    exact nofun
  | _ =>
    obtain ⟨-, rfl⟩ := begin_cases hs
    exact h

theorem inOrder (world : Point → Block) :
    EveryState (step world) Unrestricted init State.InOrder :=
  EveryState.of_invariant nofun (fun _ _ _ h _ => inOrder_step h) fun _ h => h

theorem Distinct.begin (horder : s.InOrder) (hdata : s.data = []) (hscanned : s.scannedChunks = ∅) :
    Distinct s where
  nodup := by simp [NoDuplicates, hdata]
  source := by simp [hdata]
  inOrder := horder
  unmarked := by simp [hscanned]

theorem Distinct.fresh (h : Distinct s) {pos : ChunkPos} {p : Point} {todo : List Point}
    (hw : s.worker = .scanning pos (p :: todo)) : ∀ e ∈ s.data, e.point ≠ p := by
  rintro e he rfl
  obtain ⟨done, hdone⟩ := h.inOrder _ _ hw
  have hmem : e.point ∈ pos.points := by
    rw [← hdone]
    simp
  have hsource := h.source e he
  rw [hw] at hsource
  rcases hsource with ⟨pos', hpos', hp⟩ | ⟨done', hdone', hp⟩
  · obtain rfl := ChunkPos.eq_of_mem_points hmem hp
    exact h.unmarked _ _ hw hpos'
  · have hnodup := pos.points_nodup
    rw [← hdone', List.nodup_append] at hnodup
    exact hnodup.2.2 _ hp _ List.mem_cons_self rfl

section Scan

variable (h : Distinct s) {pos : ChunkPos} {p : Point} {todo : List Point}
  (hw : s.worker = .scanning pos (p :: todo))

include h hw

theorem Distinct.scan_nodup :
    ((s.data ++ (entryAt recorded world p).toList).map BlockEntry.point).Nodup := by
  have hpoint : ∀ e ∈ (entryAt recorded world p).toList, e.point = p :=
    fun e he => entryAt_point (Option.mem_toList.mp he)
  rw [List.map_append, List.nodup_append]
  refine ⟨h.nodup, ?_, ?_⟩
  · cases entryAt recorded world p with
    | none => exact List.nodup_nil
    | some e => exact List.nodup_singleton _
  · simp only [List.mem_map]
    rintro _ ⟨e, he, rfl⟩ _ ⟨e', he', rfl⟩
    rw [hpoint e' he']
    exact h.fresh hw e he

theorem Distinct.scan_source : ∀ e ∈ s.data ++ (entryAt recorded world p).toList,
    Worker.Source s.scannedChunks e.point (.scanning pos todo) := by
  obtain ⟨done, hdone⟩ := h.inOrder _ _ hw
  have hdone' : (done ++ [p]) ++ todo = pos.points := by
    rw [List.append_assoc]
    exact hdone
  intro e he
  rcases List.mem_append.mp he with he | he
  · have hsource := h.source e he
    rw [hw] at hsource
    refine hsource.imp_right ?_
    rintro ⟨done'', hdone'', hp⟩
    obtain rfl := List.append_cancel_right (hdone''.trans hdone.symm)
    exact ⟨_, hdone', List.mem_append_left _ hp⟩
  · have hp : e.point = p := entryAt_point (Option.mem_toList.mp he)
    exact .inr ⟨_, hdone', by simp [hp]⟩

theorem Distinct.scan (horder : State.InOrder { s with
      data := s.data ++ (entryAt recorded world p).toList
      worker := .scanning pos todo }) : Distinct { s with
      data := s.data ++ (entryAt recorded world p).toList
      worker := .scanning pos todo } where
  nodup := h.scan_nodup hw
  source := h.scan_source hw
  inOrder := horder
  unmarked := by
    rintro _ _ ⟨⟩
    exact h.unmarked _ _ hw

end Scan

theorem Distinct.source_mark (h : Distinct s) {pos : ChunkPos} (hw : s.worker = .scanning pos []) :
    ∀ e ∈ s.data, Worker.Source (insert pos s.scannedChunks) e.point .onChunkScanned := by
  intro e he
  have hsource := h.source e he
  rw [hw] at hsource
  rcases hsource with ⟨pos', hpos', hp⟩ | ⟨done, hdone, hp⟩
  · exact .inl ⟨pos', Finset.mem_insert_of_mem hpos', hp⟩
  · rw [List.append_nil] at hdone
    exact .inl ⟨pos, Finset.mem_insert_self pos _, hdone ▸ hp⟩

def Worker.between : Worker → Bool
  | .scanning _ _ | .stopping _ _ => false
  | _ => true

theorem Distinct.move (h : Distinct s) (hw : s.worker.between = true)
    (hfields : s'.toFields = s.toFields) (horder : s'.InOrder)
    (hunmarked : ∀ pos todo, s'.worker = .scanning pos todo → pos ∉ s.scannedChunks) :
    Distinct s' := by
  have hdata : s'.data = s.data := by rw [hfields]
  have hscanned : s'.scannedChunks = s.scannedChunks := by rw [hfields]
  refine ⟨?_, fun e he => ?_, horder, ?_⟩
  · rw [NoDuplicates, hdata]
    exact h.nodup
  · rw [hdata] at he
    rcases h.source e he with hmarked | hworker
    · exact .inl (hscanned ▸ hmarked)
    · cases hcase : s.worker <;> simp [hcase, Worker.between] at hw hworker
  · rw [hscanned]
    exact hunmarked

theorem Distinct.worker (h : Distinct s) (hs : WorkerStep world s s') (horder : s'.InOrder)
    (hunmarked : ∀ pos, s.worker = .getChunk pos → pos ∉ s.scannedChunks) : Distinct s' := by
  cases hs with
  | check pos hw => exact h.move (by rw [hw]; rfl) rfl horder (by split <;> exact nofun)
  | getChunk pos hw =>
    refine h.move (by rw [hw]; rfl) rfl horder ?_
    rintro _ _ ⟨⟩
    exact hunmarked pos hw
  | scan pos p todo hw => exact h.scan hw horder
  | mark pos hw => exact ⟨h.nodup, h.source_mark hw, horder, nofun⟩
  | enough hw | few hw | size hw | get size entries e hw | outOfBounds size entries hw
  | crack entries hw => exact h.move (by rw [hw]; rfl) rfl horder nofun
  | copied size entries hw => exact h.move (by rw [hw]; rfl) rfl horder nofun
  | stopping pc entries hw =>
    cases pc with
    | collecting =>
      refine ⟨h.nodup, fun e he => ?_, horder, nofun⟩
      have hsource := h.source e he
      rw [hw] at hsource
      exact hsource.imp_right nofun
    | scannedChunks => exact ⟨h.nodup, fun _ _ => .inr rfl, horder, nofun⟩
    | data => exact ⟨List.nodup_nil, nofun, horder, nofun⟩

theorem Distinct.step {a : Act} (h : Distinct s) (hok : Unmarked s a)
    (hs : step world s a = some s') : Distinct s' := by
  have horder := inOrder_step h.inOrder hs
  cases a with
  | client =>
    cases clientStep_cases hs with
    | quiet | startCollecting => exact ⟨h.nodup, h.source, horder, h.unmarked⟩
    | stopping pc hc => exact absurd hc (hok.1 pc)
  | worker => exact h.worker (workerStep_cases hs) horder (hok.2 rfl)
  | take =>
    obtain ⟨_, _, hw, -, rfl⟩ := takeTask_cases hs
    exact h.move (by rw [hw]; rfl) rfl horder nofun
  | returned =>
    obtain ⟨hw, rfl⟩ := returnTask_cases hs
    exact h.move (by rw [hw]; rfl) rfl horder nofun
  | fail =>
    obtain ⟨-, rfl⟩ := failTask_cases hs
    have hbetween : s.worker.between = true := by
      rcases failTask_worker hs with ⟨pos, hw⟩ | hw
      · rw [hw]; rfl
      · rw [hw]; rfl
    exact h.move hbetween rfl horder nofun
  | _ =>
    obtain ⟨-, rfl⟩ := begin_cases hs
    exact ⟨h.nodup, h.source, horder, h.unmarked⟩

/-- Where no task scans a chunk that has been marked since it was queued, no position has two
entries. -/
theorem noDuplicates_of_unmarked (world : Point → Block) :
    EverySession world Unmarked NoDuplicates := by
  intro s₀ hs₀ hdata hscanned
  have horder := inOrder world s₀ hs₀
  exact EveryState.of_invariant (Distinct.begin horder hdata hscanned)
    (fun _ _ _ => Distinct.step) fun _ => Distinct.nodup

theorem noDuplicates_of_unmarked_pair : ∃ s,
    Reaches (step fun _ => .BEDROCK) Unmarked init s ∧
      s.data = entriesOf recorded (fun _ => .BEDROCK) [⟨0, 0⟩, ⟨1, 0⟩] ∧ NoDuplicates s := by
  have hunmarked : ∀ s a, Undisturbed s a → Unmarked s a := fun s a h => ⟨h.client, h.unmarked⟩
  have hscanned : Reaches (step fun _ => .BEDROCK) Undisturbed
      (collected (fun _ => .BEDROCK) [] ([⟨0, 0⟩, ⟨1, 0⟩] ++ []))
      (collected (fun _ => .BEDROCK) [⟨0, 0⟩, ⟨1, 0⟩] []) :=
    reaches_collected (by decide) (by simp [TARGET_CHUNKS])
  have hstart : Unmarked init (.start [⟨0, 0⟩, ⟨1, 0⟩]) := ⟨nofun, nofun⟩
  have hrun := Reaches.of_started hstart hunmarked (reaches_queued.trans hscanned)
  exact ⟨_, hrun, rfl, noDuplicates_of_unmarked _ init .refl rfl rfl _ hrun⟩

theorem noStop_of_idle {s : State} {a : Act} (h : s.client = .idle) : NoStop s a := by
  intro pc
  simp [h]

theorem reaches_twice (pos : ChunkPos) :
    Reaches (step world) NoStop init (collected world [pos, pos] []) := by
  have hnoStop : ∀ s a, Undisturbed s a → NoStop s a := fun s a h => h.client
  have hqueued : Reaches (step world) NoStop init (collected world [] [pos]) :=
    Reaches.of_started (noStop_of_idle rfl) hnoStop reaches_queued
  have hload : Reaches (step world) NoStop (collected world [] [pos])
      (collected world [] ([pos] ++ [pos])) := by
    refine .head (a := .chunkLoad pos) (noStop_of_idle rfl) rfl ?_
    exact (submit_range (s := { collected world [] [pos] with client := .scanChunk [pos] })
      rfl rfl rfl (by simp [collected])).mono hnoStop
  have hfirst : Reaches (step world) NoStop (collected world [] ([pos] ++ [pos]))
      (collected world [pos] [pos]) :=
    (reaches_collected (List.nodup_singleton pos) (by simp [TARGET_CHUNKS])).mono hnoStop
  refine hqueued.trans (hload.trans (hfirst.trans ?_))
  refine .trans ((take_task (s := collected world [pos] [pos]) rfl rfl rfl rfl rfl).mono hnoStop) ?_
  refine .head (a := .worker) (noStop_of_idle rfl) rfl ?_
  refine .trans (.mono (fun _ _ h => Reads.noStop h) (scan_points rfl rfl)) ?_
  refine .head (a := .worker) (noStop_of_idle rfl) rfl ?_
  refine .single (a := .worker) (noStop_of_idle rfl) ?_
  simp [step, workerStep, collected, init, entriesOf, chunkEntries, TARGET_CHUNKS]

theorem not_noDuplicates : ¬ EverySession (fun _ => .BEDROCK) NoStop NoDuplicates := by
  intro h
  have hnodup := h init .refl rfl rfl _ (reaches_twice ⟨0, 0⟩)
  have hmem : ⟨0, 0, 0, 0⟩ ∈ entriesOf recorded (fun _ => .BEDROCK) [⟨0, 0⟩] := by
    rw [mem_entriesOf]
    refine ⟨⟨_, List.mem_singleton_self _, ?_⟩, rfl, rfl⟩
    simp [BlockEntry.point, ChunkPos.mem_points]
  rw [NoDuplicates, collected, entriesOf, List.flatMap_cons, List.map_append,
    List.nodup_append] at hnodup
  have hpoint := List.mem_map_of_mem (f := BlockEntry.point) hmem
  rw [entriesOf, List.flatMap_singleton] at hpoint
  exact hnodup.2.2 _ hpoint _ (by simpa using hpoint) rfl

/-- Chunks in another order, or scanned again, give the same run. -/
theorem crack_of_same_chunks {chunks chunks' : List ChunkPos}
    (hsame : ∀ pos, pos ∈ chunks' ↔ pos ∈ chunks) (cpu : Kernel.Cpu) (z3 : Smt.Solver Unknown 64)
    (mode : Nat) : bedrockseedCrack cpu z3 (entriesOf recorded world chunks') mode =
      bedrockseedCrack cpu z3 (entriesOf recorded world chunks) mode := by
  have htype : typeAt (entriesOf recorded world chunks') =
      typeAt (entriesOf recorded world chunks) := by
    funext p
    apply Option.ext
    intro typ
    rw [typeAt_entriesOf, typeAt_entriesOf]
    simp only [Covered, hsame]
  exact bedrockseedCrack_of_typeAt htype cpu z3 mode

end SeedCracking.Collector
