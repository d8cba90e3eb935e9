import SeedCracking.Blocks.Partial
import SeedCracking.Collector.Session

/-! What is cracked however the client and the worker interleave. -/

namespace SeedCracking.Collector

open Blocks SeedCracking.Lists Transition
open List (SublistForall₂)

def Client.range : Client → List ChunkPos
  | .start range | .startCollecting range | .scanChunk range => range
  | .contains pos range | .submit pos range => pos :: range
  | _ => []

def Worker.range : Worker → List ChunkPos
  | .check pos | .getChunk pos | .scanning pos _ => [pos]
  | _ => []

def State.positions (s : State) : List ChunkPos := s.client.range ++ (s.queue ++ s.worker.range)

def Act.submitted : Act → List ChunkPos
  | .start range => range
  | .chunkLoad pos => [pos]
  | _ => []

/-- Only these chunks are near the player or loaded. -/
def Submits (P : ChunkPos → Prop) (_ : State) (a : Act) : Prop := ∀ pos ∈ a.submitted, P pos

variable {world : Point → Block} {s s' : State}

theorem clientStep_positions (h : clientStep s = some s') : s'.positions ⊆ s.positions := by
  cases hc : s.client with
  | idle => simp only [clientStep, hc, reduceCtorEq] at h
  | start range =>
    simp only [clientStep, hc] at h
    obtain rfl := Option.some.inj h
    simp only [State.positions, hc]
    split
    case isTrue => exact List.subset_append_right _ _
    case isFalse => exact List.Subset.refl _
  | startCollecting range =>
    simp only [clientStep, hc] at h
    obtain rfl := Option.some.inj h
    simp only [State.positions, hc]
    exact List.Subset.refl _
  | scanChunk range =>
    cases range with
    | nil =>
      simp only [clientStep, hc] at h
      obtain rfl := Option.some.inj h
      simp only [State.positions, hc]
      exact List.Subset.refl _
    | cons pos range =>
      simp only [clientStep, hc] at h
      obtain rfl := Option.some.inj h
      simp only [State.positions, hc]
      split
      case isTrue => exact List.Subset.refl _
      case isFalse => exact List.subset_cons_self _ _
  | contains pos range =>
    simp only [clientStep, hc] at h
    obtain rfl := Option.some.inj h
    simp only [State.positions, hc]
    split
    case isTrue => exact List.subset_cons_self _ _
    case isFalse => exact List.Subset.refl _
  | submit pos range =>
    simp only [clientStep, hc] at h
    obtain rfl := Option.some.inj h
    intro pos' hpos
    simp only [State.positions, hc, Client.range, List.mem_append, List.mem_cons,
      List.not_mem_nil, or_false] at hpos ⊢
    grind
  | stop =>
    simp only [clientStep, hc] at h
    obtain rfl := Option.some.inj h
    simp only [State.positions, hc]
    split <;> exact List.Subset.refl _
  | stopping pc =>
    simp only [clientStep, hc] at h
    obtain rfl := Option.some.inj h
    simp only [State.positions, hc]
    cases pc <;> exact List.Subset.refl _

theorem WorkerStep.positions (h : WorkerStep world s s') :
    s'.queue = s.queue ∧ s'.worker.range ⊆ s.worker.range := by
  cases h with
  | check pos hw =>
    rw [hw]
    refine ⟨rfl, ?_⟩
    simp only
    split
    case isTrue => exact List.Subset.refl _
    case isFalse => exact List.nil_subset _
  | getChunk pos hw | scan pos p todo hw =>
    rw [hw]
    exact ⟨rfl, List.Subset.refl _⟩
  | stopping pc => cases pc <;> exact ⟨rfl, List.nil_subset _⟩
  | _ => exact ⟨rfl, List.nil_subset _⟩

theorem positions_step {a : Act} (h : step world s a = some s') :
    s'.positions ⊆ a.submitted ++ s.positions := by
  cases a with
  | client => exact clientStep_positions h
  | worker =>
    have hs := workerStep_cases h
    obtain ⟨hqueue, hrange⟩ := hs.positions
    rw [State.positions, (workerStep_frame hs).1, hqueue]
    exact append_subset_append_right _ (append_subset_append_right _ hrange)
  | take =>
    obtain ⟨pos, queue, hw, hqueue, rfl⟩ := takeTask_cases h
    intro pos' hpos
    simp only [Act.submitted, State.positions, hw, hqueue, Worker.range, List.mem_append,
      List.mem_cons, List.not_mem_nil, or_false, false_or] at hpos ⊢
    grind
  | returned =>
    obtain ⟨-, rfl⟩ := returnTask_cases h
    exact append_subset_append_right _ (append_subset_append_right _ (List.nil_subset _))
  | fail =>
    obtain ⟨-, rfl⟩ := failTask_cases h
    exact append_subset_append_right _ (append_subset_append_right _ (List.nil_subset _))
  | start range =>
    obtain ⟨-, rfl⟩ := begin_cases h
    exact append_subset_append_right _ (List.subset_append_right _ _)
  | chunkLoad pos =>
    obtain ⟨-, rfl⟩ := begin_cases h
    exact append_subset_append_right _ (List.subset_append_right _ _)
  | stop =>
    obtain ⟨-, rfl⟩ := begin_cases h
    exact List.subset_append_right _ _

/-- What a scan of some of the chunks records. -/
def Recorded (world : Point → Block) (P : ChunkPos → Prop) (entries : List BlockEntry) : Prop :=
  ∀ e ∈ entries, ∃ pos, P pos ∧ e ∈ chunkEntries recorded world pos

def Worker.entries : Worker → List BlockEntry
  | .copying _ entries | .stopping _ entries | .crack entries => entries
  | _ => []

structure Truthful (world : Point → Block) (P : ChunkPos → Prop) (s : State) : Prop where
  positions : ∀ pos ∈ s.positions, P pos
  scanning : ∀ pos todo, s.worker = .scanning pos todo → todo ⊆ pos.points
  data : Recorded world P s.data
  entries : Recorded world P s.worker.entries
  cracks : ∀ entries ∈ s.cracks, Recorded world P entries

variable {P : ChunkPos → Prop}

theorem recorded_nil : Recorded world P [] := by simp [Recorded]

theorem Recorded.append {l l' : List BlockEntry} (h : Recorded world P l)
    (h' : Recorded world P l') : Recorded world P (l ++ l') := by
  intro e he
  rcases List.mem_append.mp he with he | he
  · exact h e he
  · exact h' e he

theorem recorded_entryAt {pos : ChunkPos} {p : Point} (hP : P pos) (hp : p ∈ pos.points) :
    Recorded world P (entryAt recorded world p).toList := by
  intro e he
  exact ⟨pos, hP, List.mem_filterMap.mpr ⟨p, hp, Option.mem_toList.mp he⟩⟩

theorem truthful_init : Truthful world P init where
  positions := by simp [State.positions, init, Client.range, Worker.range]
  scanning := nofun
  data := recorded_nil
  entries := recorded_nil
  cracks := by simp [init]

theorem Truthful.client (h : Truthful world P s) (hpos : ∀ pos ∈ s'.positions, P pos)
    (hs : ClientStep s s') : Truthful world P s' := by
  cases hs with
  | quiet | startCollecting => exact ⟨hpos, h.scanning, h.data, h.entries, h.cracks⟩
  | stopping pc =>
    cases pc with
    | collecting | scannedChunks => exact ⟨hpos, h.scanning, h.data, h.entries, h.cracks⟩
    | data => exact ⟨hpos, h.scanning, recorded_nil, h.entries, h.cracks⟩

theorem Truthful.scan_point (h : Truthful world P s) {pos : ChunkPos} {p : Point}
    {todo : List Point} (hw : s.worker = .scanning pos (p :: todo)) :
    Recorded world P (s.data ++ (entryAt recorded world p).toList) := by
  have hpos : pos ∈ s.positions := by simp [State.positions, hw, Worker.range]
  have hp : p ∈ pos.points := h.scanning pos _ hw List.mem_cons_self
  exact h.data.append (recorded_entryAt (h.positions pos hpos) hp)

theorem Truthful.workerStep (h : Truthful world P s) (hpos : ∀ pos ∈ s'.positions, P pos)
    (hs : WorkerStep world s s') : Truthful world P s' := by
  have hentries := h.entries
  cases hs with
  | check pos =>
    refine ⟨hpos, ?_, h.data, ?_, h.cracks⟩
    · simp only
      split <;> exact nofun
    · simp only
      split <;> exact recorded_nil
  | getChunk pos =>
    refine ⟨hpos, ?_, h.data, recorded_nil, h.cracks⟩
    rintro _ _ ⟨⟩
    exact List.Subset.refl _
  | scan pos p todo hw =>
    refine ⟨hpos, ?_, h.scan_point hw, recorded_nil, h.cracks⟩
    rintro _ _ ⟨⟩
    exact List.subset_of_cons_subset (h.scanning pos _ hw)
  | get size entries e hw he =>
    rw [hw] at hentries
    refine ⟨hpos, nofun, h.data, hentries.append ?_, h.cracks⟩
    intro e' he'
    obtain rfl := List.mem_singleton.mp he'
    exact h.data e' (List.mem_of_getElem? he)
  | copied size entries hw =>
    rw [hw] at hentries
    exact ⟨hpos, nofun, h.data, hentries, h.cracks⟩
  | stopping pc entries hw =>
    rw [hw] at hentries
    cases pc with
    | collecting | scannedChunks => exact ⟨hpos, nofun, h.data, hentries, h.cracks⟩
    | data => exact ⟨hpos, nofun, recorded_nil, hentries, h.cracks⟩
  | crack entries hw =>
    rw [hw] at hentries
    refine ⟨hpos, nofun, h.data, recorded_nil, fun entries' he => ?_⟩
    rcases List.mem_append.mp he with he | he
    · exact h.cracks entries' he
    · exact List.mem_singleton.mp he ▸ hentries
  | _ => exact ⟨hpos, nofun, h.data, recorded_nil, h.cracks⟩

theorem Truthful.step {a : Act} (h : Truthful world P s) (hok : Submits P s a)
    (hs : step world s a = some s') : Truthful world P s' := by
  have hpos : ∀ pos ∈ s'.positions, P pos := by
    intro pos hpos
    rcases List.mem_append.mp (positions_step hs hpos) with hsub | hold
    · exact hok pos hsub
    · exact h.positions pos hold
  cases a with
  | client => exact h.client hpos (clientStep_cases hs)
  | worker => exact h.workerStep hpos (workerStep_cases hs)
  | take =>
    obtain ⟨pos, queue, -, -, rfl⟩ := takeTask_cases hs
    exact ⟨hpos, nofun, h.data, recorded_nil, h.cracks⟩
  | returned =>
    obtain ⟨-, rfl⟩ := returnTask_cases hs
    exact ⟨hpos, nofun, h.data, recorded_nil, h.cracks⟩
  | fail =>
    obtain ⟨-, rfl⟩ := failTask_cases hs
    exact ⟨hpos, nofun, h.data, recorded_nil, h.cracks⟩
  | _ =>
    obtain ⟨-, rfl⟩ := begin_cases hs
    exact ⟨hpos, h.scanning, h.data, h.entries, h.cracks⟩

theorem cracks_truthful (world : Point → Block) (P : ChunkPos → Prop) :
    EveryState (Collector.step world) (Submits P) init fun s =>
      ∀ entries ∈ s.cracks, Recorded world P entries :=
  EveryState.of_invariant truthful_init (fun _ _ _ => Truthful.step) fun _ => Truthful.cracks

theorem Recorded.mem_entriesOf {entries : List BlockEntry} (h : Recorded world P entries)
    {e : BlockEntry} (he : e ∈ entries) :
    ∃ pos, P pos ∧ e ∈ entriesOf recorded world [pos] := by
  obtain ⟨pos, hP, hmem⟩ := h e he
  exact ⟨pos, hP, List.mem_flatMap.mpr ⟨pos, List.mem_singleton_self pos, hmem⟩⟩

theorem Recorded.typeAt_world {entries : List BlockEntry} (h : Recorded world P entries)
    {p : Point} {typ : BlockType} (htyp : typeAt entries p = some typ) :
    (∃ e ∈ entries, e.point = p) ∧ (STATES_FULL (world p)).map BlockType.ofInt = some typ := by
  have hworld : ∀ e ∈ entries, STATES_FULL (world e.point) = some e.typ := by
    intro e he
    obtain ⟨pos, -, hmem⟩ := h.mem_entriesOf he
    exact (Collector.mem_entriesOf.mp hmem).2.2
  have hfun : ∀ e ∈ entries, ∀ e' ∈ entries, e.point = e'.point → e.typ = e'.typ := by
    intro e he e' he' hp
    have hsame := hworld e he
    rw [hp, hworld e' he'] at hsame
    exact (Option.some.inj hsame).symm
  obtain ⟨e, he, rfl, rfl⟩ := (typeAt_eq_some_iff hfun).mp htyp
  exact ⟨⟨e, he, rfl⟩, by rw [hworld e he]; rfl⟩

theorem Recorded.part {entries : List BlockEntry} (h : Recorded world P entries)
    {chunks : List ChunkPos} (hcov : ∀ e ∈ entries, Covered chunks e.point) :
    Part (typeAt entries) (typeAt (entriesOf full world chunks)) := by
  intro p typ htyp
  obtain ⟨⟨e, he, rfl⟩, hworld⟩ := h.typeAt_world htyp
  rw [typeAt_entriesOf]
  refine ⟨hcov e he, ?_, hworld⟩
  obtain ⟨n, hn, -⟩ := Option.map_eq_some_iff.mp hworld
  rw [full, hn]
  rfl

theorem Recorded.covered {entries : List BlockEntry} (h : Recorded world P entries) :
    ∃ chunks : List ChunkPos, (∀ pos ∈ chunks, P pos) ∧ ∀ e ∈ entries, Covered chunks e.point := by
  induction entries with
  | nil => exact ⟨[], by simp, by simp⟩
  | cons e entries ih =>
    obtain ⟨chunks, hP, hcov⟩ := ih fun e' he => h e' (List.mem_cons_of_mem _ he)
    obtain ⟨pos, hpos, hmem⟩ := h.mem_entriesOf List.mem_cons_self
    obtain ⟨pos', hpos', hpoint⟩ := (Collector.mem_entriesOf.mp hmem).1
    obtain rfl := List.mem_singleton.mp hpos'
    refine ⟨pos' :: chunks, List.forall_mem_cons.mpr ⟨hpos, hP⟩, ?_⟩
    refine List.forall_mem_cons.mpr ⟨⟨pos', List.mem_cons_self, hpoint⟩, fun e' he => ?_⟩
    obtain ⟨pos, hmem, hp⟩ := hcov e' he
    exact ⟨pos, List.mem_cons_of_mem _ hmem, hp⟩

/-- The observations of a call are among those that all blocks of submitted chunks give; a stop can
only lose some, and have a vein position count as skipped. -/
theorem cracks_recorded (world : Point → Block) (P : ChunkPos → Prop) :
    EveryState (Collector.step world) (Submits P) init fun s => ∀ entries ∈ s.cracks,
      ∃ chunks : List ChunkPos, (∀ pos ∈ chunks, P pos) ∧ ∀ loaded, chunks ⊆ loaded → ∀ mode k,
        SublistForall₂ (Missed (typeAt entries) (typeAt (entriesOf full world loaded)) k)
          (observations entries mode k) (observations (entriesOf full world loaded) mode k) := by
  intro s hs entries he
  have hrec := cracks_truthful world P s hs entries he
  obtain ⟨chunks, hP, hcov⟩ := hrec.covered
  refine ⟨chunks, hP, fun loaded hsub mode k => ?_⟩
  refine (hrec.part fun e hmem => ?_).sublist_observations mode k
  obtain ⟨pos, hpos, hp⟩ := hcov e hmem
  exact ⟨pos, hsub hpos, hp⟩

theorem submits_of_working {a : Act} (h : Working s a) : Submits P s a := by
  cases a with
  | client | take | worker => simp [Submits, Act.submitted]
  | _ => exact h.elim

theorem submits_start {range : List ChunkPos} (h : ∀ pos ∈ range, P pos) :
    Submits P s (.start range) := h

theorem cracks_recorded_row : ∃ s, Reaches (Collector.step fun _ => .BEDROCK)
    (Submits (· ∈ row)) init s ∧ ∃ entries ∈ s.cracks,
      entries = entriesOf recorded (fun _ => .BEDROCK) row ∧
      ∃ chunks : List ChunkPos, chunks ⊆ row ∧ ∀ k,
        SublistForall₂ (Missed (typeAt entries) (typeAt (entriesOf full (fun _ => .BEDROCK) row)) k)
          (observations entries 31 k)
          (observations (entriesOf full (fun _ => .BEDROCK) row) 31 k) := by
  have hrun : Reaches (Collector.step fun _ => .BEDROCK) (Submits (· ∈ row)) init
      (called (fun _ => .BEDROCK) row) :=
    reaches_called_row (submits_start fun _ => id) fun _ _ h => submits_of_working h.working
  have hentries : entriesOf recorded (fun _ => .BEDROCK) row ∈
      (called (fun _ => .BEDROCK) row).cracks := by simp [called]
  obtain ⟨chunks, hsub, hmissed⟩ := cracks_recorded _ (· ∈ row) _ hrun _ hentries
  exact ⟨_, hrun, _, hentries, rfl, chunks, hsub, hmissed row hsub 31⟩

end SeedCracking.Collector
