import SeedCracking.Collector.Session

/-! What the `progress` command shows. -/

namespace SeedCracking.Collector

open Blocks Transition

/-- A command reports the flag of one moment and the count of a later one. -/
def progress (flag count : State) : Except String (Nat × List Nat) :=
  if flag.collecting then
    .ok (count.scannedChunks.card, [count.scannedChunks.card, TARGET_CHUNKS])
  else .error "commands.bedrockcrack.notStarted"

/-- The entries can be allocated. -/
def Allocates (s : State) : Act → Prop
  | .fail => s.worker ≠ .startCracking
  | _ => True

def Worker.Bounded (card length : Nat) : Worker → Prop
  | .onChunkScanned | .startCracking | .stopping .collecting _ | .stopping .scannedChunks _ => True
  | .copying size _ => TARGET_CHUNKS ≤ card → size ≤ length
  | _ => card < TARGET_CHUNKS

def Worker.marking : Worker → Bool
  | .getChunk _ | .scanning _ _ => true
  | _ => false

def Client.Bounded (s : State) : Client → Prop
  | .stopping .scannedChunks => s.collecting = false
  -- the task that had passed its check marks a chunk after the marks are removed
  | .stopping .data => s.collecting = false ∧ s.scannedChunks.card + s.worker.marking.toNat ≤ 1
  | _ => True

structure Bounded (s : State) : Prop where
  card : s.scannedChunks.card ≤ TARGET_CHUNKS
  worker : s.worker.Bounded s.scannedChunks.card s.data.length
  client : s.client.Bounded s

variable {world : Point → Block} {s s' : State}

theorem bounded_init : Bounded init where
  card := by simp [init]
  worker := by simp [init, Worker.Bounded, TARGET_CHUNKS]
  client := trivial

theorem Client.Bounded.frame {client : Client} (h : client.Bounded s)
    (hcollecting : s.collecting = false → s'.collecting = false)
    (hcard : s.collecting = false → s'.scannedChunks.card + s'.worker.marking.toNat ≤
      s.scannedChunks.card + s.worker.marking.toNat) : client.Bounded s' := by
  cases client with
  | stopping pc =>
    cases pc with
    | collecting => trivial
    | scannedChunks => exact hcollecting h
    | data => exact ⟨hcollecting h.1, Nat.le_trans (hcard h.1) h.2⟩
  | _ => trivial

theorem WorkerStep.marking_le (hs : WorkerStep world s s') (hcollecting : s.collecting = false) :
    s'.scannedChunks.card + s'.worker.marking.toNat ≤
      s.scannedChunks.card + s.worker.marking.toNat := by
  cases hs with
  | check pos hw => simp [hw, hcollecting, Worker.marking]
  | mark pos hw =>
    rw [hw]
    exact Finset.card_insert_le pos s.scannedChunks
  | stopping pc entries hw =>
    cases pc <;> simp [hw, StopCollecting.run, StopCollecting.next, Worker.marking]
  | getChunk pos hw | scan pos p todo hw | enough hw | few hw | size hw | get size entries e hw
  | outOfBounds size entries hw | copied size entries hw | crack entries hw =>
    rw [hw]
    exact Nat.le_refl _

theorem Worker.Bounded.of_card_lt {w : Worker} {card length : Nat} (h : card < TARGET_CHUNKS) :
    w.Bounded card length := by
  cases w with
  | onChunkScanned | startCracking => trivial
  | copying size entries => exact fun hcard => absurd h (Nat.not_lt.mpr hcard)
  | stopping pc entries =>
    cases pc with
    | data => exact h
    | _ => trivial
  | _ => exact h

theorem Bounded.client_step (h : Bounded s) (hs : ClientStep s s') : Bounded s' := by
  have hclient := h.client
  cases hs with
  | quiet client queue hold hnew =>
    refine ⟨h.card, h.worker, ?_⟩
    cases client with
    | stopping pc =>
      obtain rfl := hnew pc rfl
      trivial
    | _ => trivial
  | startCollecting => exact ⟨h.card, h.worker, trivial⟩
  | stopping pc hc =>
    rw [hc] at hclient
    cases pc with
    | collecting => exact ⟨h.card, h.worker, rfl⟩
    | scannedChunks =>
      refine ⟨by simp [StopCollecting.run],
        .of_card_lt (by simp [StopCollecting.run, TARGET_CHUNKS]), hclient, ?_⟩
      simpa [StopCollecting.run] using Bool.toNat_le s.worker.marking
    | data =>
      have hcard : s.scannedChunks.card < TARGET_CHUNKS :=
        Nat.lt_of_le_of_lt (Nat.le_trans (Nat.le_add_right _ _) hclient.2) (by decide)
      exact ⟨h.card, .of_card_lt hcard, trivial⟩

theorem copying_cases {size : Nat} {entries : List BlockEntry}
    (hw : s.worker = .copying size entries) (hs : workerStep world s = some s') :
    (∃ e, entries.length < size ∧ s' = { s with worker := .copying size (entries ++ [e]) }) ∨
    (entries.length < size ∧ s.data.length ≤ entries.length ∧ s' = { s with worker := .idle }) ∨
    (size ≤ entries.length ∧ s' = { s with worker := .stopping .collecting entries }) := by
  simp only [workerStep, hw] at hs
  split at hs
  case isTrue hlt =>
    split at hs
    case h_1 e _ => exact .inl ⟨e, hlt, (Option.some.inj hs).symm⟩
    case h_2 hnone =>
      exact .inr (.inl ⟨hlt, List.getElem?_eq_none_iff.mp hnone, (Option.some.inj hs).symm⟩)
  case isFalse hge => exact .inr (.inr ⟨Nat.le_of_not_lt hge, (Option.some.inj hs).symm⟩)

theorem Bounded.copying_step (h : Bounded s) {size : Nat} {entries : List BlockEntry}
    (hw : s.worker = .copying size entries) (hs : workerStep world s = some s') :
    s'.worker.Bounded s.scannedChunks.card s.data.length := by
  have hworker := h.worker
  rw [hw] at hworker
  rcases copying_cases hw hs with ⟨e, -, rfl⟩ | ⟨hlt, hdata, rfl⟩ | ⟨-, rfl⟩
  · exact hworker
  · refine Nat.lt_of_not_le fun hcard => ?_
    have hsize := hworker hcard
    omega
  · trivial

theorem Bounded.worker_step (h : Bounded s) (hstep : workerStep world s = some s') :
    Bounded s' := by
  have hs := workerStep_cases hstep
  have hworker := h.worker
  obtain ⟨hsame, -, hflag⟩ := workerStep_frame hs
  have hclient : s'.client.Bounded s' := by
    rw [hsame]
    exact h.client.frame hflag hs.marking_le
  cases hs with
  | check pos hw =>
    rw [hw] at hworker
    exact ⟨h.card, .of_card_lt hworker, hclient⟩
  | mark pos hw =>
    rw [hw] at hworker
    exact ⟨Nat.le_trans (Finset.card_insert_le pos s.scannedChunks) hworker, trivial, hclient⟩
  | enough => exact ⟨h.card, trivial, hclient⟩
  | few hw hcard => exact ⟨h.card, Nat.lt_of_not_le hcard, hclient⟩
  | size => exact ⟨h.card, fun _ => Nat.le_refl _, hclient⟩
  | get size entries e hw => exact ⟨h.card, h.copying_step hw hstep, hclient⟩
  | outOfBounds size entries hw => exact ⟨h.card, h.copying_step hw hstep, hclient⟩
  | copied => exact ⟨h.card, trivial, hclient⟩
  | stopping pc entries hw =>
    rw [hw] at hworker
    cases pc with
    | collecting => exact ⟨h.card, trivial, hclient⟩
    | scannedChunks =>
      have hzero : (∅ : Finset ChunkPos).card < TARGET_CHUNKS := by simp [TARGET_CHUNKS]
      exact ⟨Nat.le_of_lt hzero, hzero, hclient⟩
    | data => exact ⟨h.card, hworker, hclient⟩
  | getChunk pos hw | scan pos p todo hw | crack entries hw =>
    rw [hw] at hworker
    exact ⟨h.card, hworker, hclient⟩

theorem Bounded.step {a : Act} (h : Bounded s) (hok : Allocates s a)
    (hs : step world s a = some s') : Bounded s' := by
  have hworker := h.worker
  cases a with
  | client => exact h.client_step (clientStep_cases hs)
  | worker => exact h.worker_step hs
  | take =>
    obtain ⟨_, _, hw, -, rfl⟩ := takeTask_cases hs
    rw [hw] at hworker
    refine ⟨h.card, hworker, h.client.frame id fun _ => ?_⟩
    rw [hw]
    exact Nat.le_refl _
  | returned =>
    obtain ⟨hw, rfl⟩ := returnTask_cases hs
    rw [hw] at hworker
    exact ⟨h.card, hworker, h.client.frame id fun _ => Nat.add_le_add_left (Nat.zero_le _) _⟩
  | fail =>
    obtain ⟨-, rfl⟩ := failTask_cases hs
    obtain ⟨pos, hw⟩ := (failTask_worker hs).resolve_right hok
    rw [hw] at hworker
    refine ⟨h.card, hworker, h.client.frame id fun _ => ?_⟩
    exact Nat.le_add_right _ _
  | _ =>
    obtain ⟨-, rfl⟩ := begin_cases hs
    exact ⟨h.card, h.worker, trivial⟩

theorem bounded (world : Point → Block) : EveryState (step world) Allocates init Bounded :=
  EveryState.of_invariant bounded_init (fun _ _ _ => Bounded.step) fun _ h => h

/-- Whatever starts and stops come between, the command never shows more chunks than the target,
and fewer while the worker waits for a task. -/
theorem progress_le_target (world : Point → Block) :
    EveryState (step world) Allocates init fun flag =>
      EveryState (step world) Allocates flag fun count => ∀ n args,
        progress flag count = .ok (n, args) →
          n ≤ TARGET_CHUNKS ∧ args = [n, TARGET_CHUNKS] ∧
            (count.worker = .idle → n < TARGET_CHUNKS) := by
  intro flag hflag count hcount n args h
  have hbounded := bounded world count (hflag.trans hcount)
  rw [progress] at h
  split at h
  case isTrue =>
    obtain ⟨rfl, rfl⟩ := Prod.mk.inj (Except.ok.inj h)
    refine ⟨hbounded.card, rfl, fun hw => ?_⟩
    have hworker := hbounded.worker
    rw [hw] at hworker
    exact hworker
  case isFalse => cases h

theorem allocates_of_working {a : Act} (h : Working s a) : Allocates s a := by
  cases a with
  | client | take | worker => trivial
  | _ => exact h.elim

theorem progress_le_target_row : ∃ s, Reaches (step fun _ => .BEDROCK) Allocates init s ∧
    progress s s = .ok (TARGET_CHUNKS, [TARGET_CHUNKS, TARGET_CHUNKS]) ∧ s.worker ≠ .idle := by
  have hrun : Reaches (step fun _ => .BEDROCK) Allocates init
      { collected (fun _ => .BEDROCK) row [] with worker := .startCracking } :=
    Reaches.of_started trivial (fun _ _ h => allocates_of_working h.working)
      (reaches_queued.trans (reaches_startCracking row_nodup row_length))
  have hcard : row.toFinset.card = TARGET_CHUNKS := by
    rw [List.toFinset_card_of_nodup row_nodup, row_length]
  have hshown := progress_le_target _ _ hrun _ .refl TARGET_CHUNKS [TARGET_CHUNKS, TARGET_CHUNKS]
  simp only [progress, collected, hcard, if_true, forall_const] at hshown
  refine ⟨_, hrun, by simp only [progress, collected, hcard, if_true], fun hidle => ?_⟩
  exact absurd (hshown.2.2 hidle) (Nat.lt_irrefl _)

end SeedCracking.Collector
