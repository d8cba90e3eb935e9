import SeedCracking.Collector.Progress

/-! How a session ends when the client gives no further command. -/

namespace SeedCracking.Collector

open Blocks Transition

/-- Neither the client nor the worker has anything to do, unless a native call comes back. -/
structure Resting (s : State) : Prop where
  client : s.client = .idle
  worker : s.worker = .idle ∧ s.queue = [] ∨ s.worker = .cracking

variable {world : Point → Block} {s s' : State}

/-! ### Every session comes to an end -/

def Client.rank : Client → Nat
  | .start range => 3 * range.length + 3
  | .startCollecting range => 3 * range.length + 2
  | .scanChunk range => 3 * range.length + 1
  | .contains _ range => 3 * range.length + 3
  | .submit _ range => 3 * range.length + 2
  | .stop => 4
  | .stopping .collecting => 3
  | .stopping .scannedChunks => 2
  | .stopping .data => 1
  | .idle => 0

def Worker.rank : Worker → Nat × Nat
  | .check _ => (11, 0)
  | .getChunk _ => (10, 0)
  | .scanning _ todo => (9, todo.length)
  | .onChunkScanned => (8, 0)
  | .startCracking => (7, 0)
  | .copying size entries => (6, size - entries.length)
  | .stopping .collecting _ => (5, 0)
  | .stopping .scannedChunks _ => (4, 0)
  | .stopping .data _ => (3, 0)
  | .crack _ => (2, 0)
  | .cracking => (1, 0)
  | .idle => (0, 0)

def State.rank (s : State) : Nat × Nat × Nat × Nat :=
  (s.client.rank, s.queue.length, s.worker.rank)

theorem clientStep_rank (h : clientStep s = some s') : s'.client.rank < s.client.rank := by
  cases hc : s.client with
  | idle => simp only [clientStep, hc, reduceCtorEq] at h
  | start range =>
    simp only [clientStep, hc, Option.some.injEq] at h
    rw [← h]
    simp only
    split <;> simp [Client.rank]
  | startCollecting range | contains pos range | submit pos range =>
    simp only [clientStep, hc, Option.some.injEq] at h
    rw [← h]
    simp only
    repeat' split
    all_goals simp [Client.rank]
  | scanChunk range =>
    cases range with
    | nil =>
      simp only [clientStep, hc, Option.some.injEq] at h
      rw [← h]
      simp [Client.rank]
    | cons pos range =>
      simp only [clientStep, hc, Option.some.injEq] at h
      rw [← h]
      simp only
      split
      · simp only [Client.rank, List.length_cons]
        omega
      · simp only [Client.rank, List.length_cons]
        omega
  | stop =>
    simp only [clientStep, hc, Option.some.injEq] at h
    rw [← h]
    simp only
    split <;> simp [Client.rank]
  | stopping pc =>
    simp only [clientStep, hc, Option.some.injEq] at h
    rw [← h]
    cases pc <;> simp [Client.rank, StopCollecting.next]

theorem workerStep_rank (h : workerStep world s = some s') :
    s'.queue = s.queue ∧ Prod.Lex (· < ·) (· < ·) s'.worker.rank s.worker.rank := by
  cases workerStep_cases h with
  | check pos hw =>
    rw [hw]
    refine ⟨rfl, ?_⟩
    simp only
    split
    case isTrue => exact .left _ _ (by decide)
    case isFalse => exact .left _ _ (by decide)
  | scan pos p todo hw =>
    rw [hw]
    exact ⟨rfl, .right _ (Nat.lt_succ_self _)⟩
  | get size entries e hw | outOfBounds size entries hw | copied size entries hw =>
    rw [hw]
    rcases copying_cases hw h with ⟨e, hlt, heq⟩ | ⟨-, -, heq⟩ | ⟨-, heq⟩
    · rw [heq]
      refine ⟨rfl, .right _ ?_⟩
      rw [List.length_append, List.length_singleton]
      omega
    · rw [heq]
      exact ⟨rfl, .left _ _ (by decide)⟩
    · rw [heq]
      exact ⟨rfl, .left _ _ (by decide)⟩
  | stopping pc entries hw =>
    rw [hw]
    cases pc with
    | _ => exact ⟨rfl, .left _ _ (by decide)⟩
  | getChunk pos hw | mark pos hw | enough hw | few hw | size hw | crack entries hw =>
    rw [hw]
    exact ⟨rfl, .left _ _ (by decide)⟩

theorem failTask_rank (h : failTask s = some s') :
    s'.queue = s.queue ∧ Prod.Lex (· < ·) (· < ·) s'.worker.rank s.worker.rank := by
  obtain ⟨-, rfl⟩ := failTask_cases h
  refine ⟨rfl, ?_⟩
  rcases failTask_worker h with ⟨pos, hw⟩ | hw
  · rw [hw]
    exact .left _ _ (by decide)
  · rw [hw]
    exact .left _ _ (by decide)

theorem NoCommand.rank_lt {a : Act} (hok : NoCommand s a) (hs : step world s a = some s') :
    Prod.Lex (· < ·) (Prod.Lex (· < ·) (Prod.Lex (· < ·) (· < ·))) s'.rank s.rank := by
  have hworker (hclient : s'.client = s.client)
      (h : s'.queue = s.queue ∧ Prod.Lex (· < ·) (· < ·) s'.worker.rank s.worker.rank) :
      Prod.Lex (· < ·) (Prod.Lex (· < ·) (Prod.Lex (· < ·) (· < ·))) s'.rank s.rank := by
    rw [State.rank, State.rank, hclient, h.1]
    exact .right _ (.right _ h.2)
  cases a with
  | client => exact .left _ _ (clientStep_rank hs)
  | take =>
    obtain ⟨pos, queue, -, hqueue, rfl⟩ := takeTask_cases hs
    refine .right _ (.left _ _ ?_)
    rw [hqueue]
    exact Nat.lt_succ_self _
  | worker => exact hworker (workerStep_frame (workerStep_cases hs)).1 (workerStep_rank hs)
  | returned =>
    obtain ⟨hw, rfl⟩ := returnTask_cases hs
    refine hworker rfl ⟨rfl, ?_⟩
    rw [hw]
    exact .left _ _ (by decide)
  | fail =>
    refine hworker ?_ (failTask_rank hs)
    obtain ⟨-, rfl⟩ := failTask_cases hs
    rfl
  | _ => exact hok.elim

theorem terminates_noCommand (world : Point → Block) (s : State) :
    Terminates (step world) NoCommand s :=
  Terminates.of_rank State.rank (fun _ _ _ => NoCommand.rank_lt) s

theorem resting_of_final (h : Final (step world) Working s) : Resting s := by
  have hclient : clientStep s = none := h .client trivial
  have hworker : workerStep world s = none := h .worker trivial
  have htake : takeTask s = none := h .take trivial
  refine ⟨?_, ?_⟩
  · cases hc : s.client with
    | idle => rfl
    | scanChunk range => cases range <;> simp [clientStep, hc] at hclient
    | _ => simp [clientStep, hc] at hclient
  · cases hw : s.worker with
    | idle =>
      refine .inl ⟨rfl, ?_⟩
      cases hqueue : s.queue with
      | nil => rfl
      | cons pos queue => simp [takeTask, hw, hqueue] at htake
    | cracking => exact .inr rfl
    | scanning pos todo => cases todo <;> simp [workerStep, hw] at hworker
    | copying size entries =>
      simp only [workerStep, hw] at hworker
      split at hworker
      case isTrue => split at hworker <;> cases hworker
      case isFalse => cases hworker
    | _ => simp [workerStep, hw] at hworker

/-! ### What it has done -/

def Client.pending : Client → Finset ChunkPos
  | .scanChunk range => range.toFinset
  | .contains pos range | .submit pos range => insert pos range.toFinset
  | _ => ∅

def Client.submitting : Client → Bool
  | .idle | .scanChunk _ | .contains _ _ | .submit _ _ => true
  | _ => false

def Worker.pending : Worker → Finset ChunkPos
  | .check pos | .getChunk pos | .scanning pos _ => {pos}
  | _ => ∅

def State.pending (s : State) : Finset ChunkPos :=
  s.worker.pending ∪ (s.queue.toFinset ∪ s.client.pending)

/-- The worker collects, with enough chunks exactly when it knows it. -/
def Worker.Filling (card length : Nat) : Worker → Prop
  | .idle | .check _ | .getChunk _ | .scanning _ _ => card < TARGET_CHUNKS
  | .onChunkScanned => True
  | .startCracking | .stopping .collecting _ => TARGET_CHUNKS ≤ card
  | .copying size _ => TARGET_CHUNKS ≤ card ∧ size ≤ length
  | _ => False

def Worker.Emptying (scannedChunks : Finset ChunkPos) (data : List BlockEntry) : Worker → Prop
  | .stopping .scannedChunks _ => True
  | .stopping .data _ => scannedChunks = ∅
  | .crack _ => scannedChunks = ∅ ∧ data = []
  | _ => False

def Worker.emptied : Worker → Bool
  | .cracking | .idle | .check _ => true
  | _ => false

/-- Where the worker is on its way through some chunks. -/
inductive Drain (chunks : Finset ChunkPos) (cracks : List (List BlockEntry)) (s : State) : Prop
  | starting (range : List ChunkPos)
      (hclient : s.client = .start range ∨ s.client = .startCollecting range)
      (hcollecting : s.collecting = false) (hcracks : s.cracks = cracks)
      (hchunks : range.toFinset = chunks) (hscanned : s.scannedChunks = ∅)
      (hworker : s.worker = .idle) (hqueue : s.queue = [])
  | filling (hclient : s.client.submitting = true) (hcollecting : s.collecting = true)
      (hcracks : s.cracks = cracks) (hchunks : s.scannedChunks ∪ s.pending = chunks)
      (hworker : s.worker.Filling s.scannedChunks.card s.data.length)
  | emptying (hclient : s.client.submitting = true) (hcollecting : s.collecting = false)
      (hcracks : s.cracks = cracks) (henough : TARGET_CHUNKS ≤ chunks.card)
      (hworker : s.worker.Emptying s.scannedChunks s.data)
  | emptied (hclient : s.client.submitting = true) (hcollecting : s.collecting = false)
      (hscanned : s.scannedChunks = ∅) (hdata : s.data = [])
      (hcracks : ∃ entries, s.cracks = cracks ++ [entries]) (henough : TARGET_CHUNKS ≤ chunks.card)
      (hworker : s.worker.emptied = true)

section Drain

variable {chunks : Finset ChunkPos} {cracks : List (List BlockEntry)}

/-- A client that submits chunks puts them into the queue, or finds that they have been scanned, or
that nothing is collected. -/
theorem submitting_step (hclient : s.client.submitting = true) (h : clientStep s = some s') :
    s'.client.submitting = true ∧
      (∃ client queue, s' = { s with client := client, queue := queue }) ∧
      (s.collecting = true →
        s'.scannedChunks ∪ s'.pending = s.scannedChunks ∪ s.pending) := by
  cases hc : s.client with
  | scanChunk range =>
    cases range with
    | nil =>
      simp only [clientStep, hc, Option.some.injEq] at h
      subst h
      exact ⟨rfl, ⟨_, _, rfl⟩, fun _ => by simp [State.pending, hc, Client.pending]⟩
    | cons pos range =>
      simp only [clientStep, hc, Option.some.injEq] at h
      subst h
      refine ⟨?_, ⟨_, _, rfl⟩, fun hcollecting => ?_⟩
      · simp only
        split <;> rfl
      · simp [State.pending, hc, hcollecting, Client.pending]
  | contains pos range =>
    simp only [clientStep, hc, Option.some.injEq] at h
    subst h
    refine ⟨?_, ⟨_, _, rfl⟩, fun _ => ?_⟩
    · simp only
      split <;> rfl
    · simp only [State.pending, hc]
      split
      case isTrue hpos =>
        ext p
        simp only [Client.pending, Finset.mem_union, Finset.mem_insert, List.mem_toFinset]
        constructor
        · tauto
        · rintro (hp | hp | hp | rfl | hp)
          · exact .inl hp
          · exact .inr (.inl hp)
          · exact .inr (.inr (.inl hp))
          · exact .inl hpos
          · exact .inr (.inr (.inr hp))
      case isFalse => rfl
  | submit pos range =>
    simp only [clientStep, hc, Option.some.injEq] at h
    subst h
    refine ⟨rfl, ⟨_, _, rfl⟩, fun _ => ?_⟩
    ext p
    simp only [State.pending, hc, Client.pending, Finset.mem_union, Finset.mem_insert,
      List.mem_toFinset, List.mem_append, List.mem_singleton]
    tauto
  | idle => simp only [clientStep, hc, reduceCtorEq] at h
  | start range | startCollecting range | stop | stopping pc =>
    rw [hc] at hclient
    cases hclient

theorem Drain.client_step (h : Drain chunks cracks s) (hstep : clientStep s = some s') :
    Drain chunks cracks s' := by
  cases h with
  | starting range hclient hcollecting hcracks hchunks hscanned hworker hqueue =>
    rcases hclient with hc | hc
    · simp only [clientStep, hc, hcollecting, Option.some.injEq] at hstep
      subst hstep
      exact .starting range (.inr rfl) hcollecting hcracks hchunks hscanned hworker hqueue
    · simp only [clientStep, hc, Option.some.injEq] at hstep
      subst hstep
      refine .filling rfl rfl hcracks ?_ ?_
      · simp [State.pending, hworker, hqueue, hscanned, Worker.pending, Client.pending, hchunks]
      · simp [hworker, hscanned, Worker.Filling, TARGET_CHUNKS]
  | filling hclient hcollecting hcracks hchunks hworker =>
    obtain ⟨hclient', ⟨client, queue, rfl⟩, hsame⟩ := submitting_step hclient hstep
    exact .filling hclient' hcollecting hcracks ((hsame hcollecting).trans hchunks) hworker
  | emptying hclient hcollecting hcracks henough hworker =>
    obtain ⟨hclient', ⟨client, queue, rfl⟩, -⟩ := submitting_step hclient hstep
    exact .emptying hclient' hcollecting hcracks henough hworker
  | emptied hclient hcollecting hscanned hdata hcracks henough hworker =>
    obtain ⟨hclient', ⟨client, queue, rfl⟩, -⟩ := submitting_step hclient hstep
    exact .emptied hclient' hcollecting hscanned hdata hcracks henough hworker

theorem insert_union_pending (pos : ChunkPos) (scannedChunks rest : Finset ChunkPos) :
    insert pos scannedChunks ∪ (∅ ∪ rest) = scannedChunks ∪ ({pos} ∪ rest) := by
  rw [Finset.empty_union, Finset.insert_union, ← Finset.insert_eq, Finset.union_insert]

theorem Drain.filling_step (hclient : s.client.submitting = true)
    (hcollecting : s.collecting = true) (hcracks : s.cracks = cracks)
    (hchunks : s.scannedChunks ∪ s.pending = chunks)
    (hworker : s.worker.Filling s.scannedChunks.card s.data.length)
    (hstep : workerStep world s = some s') : Drain chunks cracks s' := by
  rw [State.pending] at hchunks
  cases workerStep_cases hstep with
  | check pos hw =>
    rw [hw] at hchunks hworker
    simp only [hcollecting, if_true]
    exact .filling hclient hcollecting hcracks hchunks hworker
  | mark pos hw =>
    rw [hw] at hchunks
    exact .filling hclient hcollecting hcracks ((insert_union_pending _ _ _).trans hchunks) trivial
  | enough hw hcard =>
    rw [hw] at hchunks
    exact .filling hclient hcollecting hcracks hchunks hcard
  | few hw hcard =>
    rw [hw] at hchunks
    exact .filling hclient hcollecting hcracks hchunks (Nat.lt_of_not_le hcard)
  | size hw =>
    rw [hw] at hchunks hworker
    exact .filling hclient hcollecting hcracks hchunks ⟨hworker, Nat.le_refl _⟩
  | get size entries e hw | outOfBounds size entries hw | copied size entries hw =>
    rw [hw] at hchunks hworker
    rcases copying_cases hw hstep with ⟨e, -, heq⟩ | ⟨hlt, hdata, -⟩ | ⟨-, heq⟩
    · exact heq ▸ .filling hclient hcollecting hcracks hchunks hworker
    · have hsize := hworker.2
      omega
    · exact heq ▸ .filling hclient hcollecting hcracks hchunks hworker.1
  | stopping pc entries hw =>
    rw [hw] at hworker
    cases pc with
    | collecting =>
      have hsub : s.scannedChunks.card ≤ chunks.card := by
        rw [← hchunks]
        exact Finset.card_le_card Finset.subset_union_left
      exact .emptying hclient rfl hcracks (Nat.le_trans hworker hsub) trivial
    | scannedChunks | data => exact hworker.elim
  | crack entries hw =>
    rw [hw] at hworker
    exact hworker.elim
  | getChunk pos hw | scan pos p todo hw =>
    rw [hw] at hchunks hworker
    exact .filling hclient hcollecting hcracks hchunks hworker

theorem Drain.emptying_step (hclient : s.client.submitting = true)
    (hcollecting : s.collecting = false) (hcracks : s.cracks = cracks)
    (henough : TARGET_CHUNKS ≤ chunks.card) (hworker : s.worker.Emptying s.scannedChunks s.data)
    (hstep : WorkerStep world s s') : Drain chunks cracks s' := by
  cases hstep with
  | stopping pc entries hw =>
    rw [hw] at hworker
    cases pc with
    | collecting => exact hworker.elim
    | scannedChunks => exact .emptying hclient hcollecting hcracks henough rfl
    | data => exact .emptying hclient hcollecting hcracks henough ⟨hworker, rfl⟩
  | crack entries hw =>
    rw [hw] at hworker
    exact .emptied hclient hcollecting hworker.1 hworker.2 ⟨entries, by rw [hcracks]⟩ henough rfl
  | check pos hw | getChunk pos hw | scan pos p todo hw | mark pos hw | enough hw | few hw | size hw
  | get size entries e hw | outOfBounds size entries hw | copied size entries hw =>
    rw [hw] at hworker
    exact hworker.elim

theorem Drain.emptied_step (hclient : s.client.submitting = true)
    (hcollecting : s.collecting = false) (hscanned : s.scannedChunks = ∅) (hdata : s.data = [])
    (hcracks : ∃ entries, s.cracks = cracks ++ [entries]) (henough : TARGET_CHUNKS ≤ chunks.card)
    (hworker : s.worker.emptied = true) (hstep : WorkerStep world s s') :
    Drain chunks cracks s' := by
  cases hstep with
  | check pos hw =>
    simp only [hcollecting, Bool.false_eq_true, if_false]
    exact .emptied hclient hcollecting hscanned hdata hcracks henough rfl
  | getChunk pos hw | scan pos p todo hw | mark pos hw | enough hw | few hw | size hw
  | get size entries e hw | outOfBounds size entries hw | copied size entries hw
  | stopping pc entries hw | crack entries hw =>
    rw [hw] at hworker
    cases hworker

theorem Drain.worker_step (h : Drain chunks cracks s) (hstep : workerStep world s = some s') :
    Drain chunks cracks s' := by
  cases h with
  | starting range hclient hcollecting hcracks hchunks hscanned hworker hqueue =>
    simp [workerStep, hworker] at hstep
  | filling hclient hcollecting hcracks hchunks hworker =>
    exact Drain.filling_step hclient hcollecting hcracks hchunks hworker hstep
  | emptying hclient hcollecting hcracks henough hworker =>
    exact Drain.emptying_step hclient hcollecting hcracks henough hworker (workerStep_cases hstep)
  | emptied hclient hcollecting hscanned hdata hcracks henough hworker =>
    exact Drain.emptied_step hclient hcollecting hscanned hdata hcracks henough hworker
      (workerStep_cases hstep)

theorem Drain.take_step (h : Drain chunks cracks s) (hstep : takeTask s = some s') :
    Drain chunks cracks s' := by
  obtain ⟨pos, queue, hw, hqueue, rfl⟩ := takeTask_cases hstep
  cases h with
  | starting range hclient hcollecting hcracks hchunks hscanned hworker hempty =>
    rw [hempty] at hqueue
    cases hqueue
  | filling hclient hcollecting hcracks hchunks hworker =>
    rw [hw] at hworker
    refine .filling hclient hcollecting hcracks ?_ hworker
    rw [← hchunks]
    simp [State.pending, hw, hqueue, Worker.pending]
  | emptying hclient hcollecting hcracks henough hworker =>
    rw [hw] at hworker
    exact hworker.elim
  | emptied hclient hcollecting hscanned hdata hcracks henough =>
    exact .emptied hclient hcollecting hscanned hdata hcracks henough rfl

theorem Drain.return_step (h : Drain chunks cracks s) (hstep : returnTask s = some s') :
    Drain chunks cracks s' := by
  obtain ⟨hw, rfl⟩ := returnTask_cases hstep
  cases h with
  | starting range hclient hcollecting hcracks hchunks hscanned hworker =>
    cases hw.symm.trans hworker
  | filling hclient hcollecting hcracks hchunks hworker =>
    rw [hw] at hworker
    exact hworker.elim
  | emptying hclient hcollecting hcracks henough hworker =>
    rw [hw] at hworker
    exact hworker.elim
  | emptied hclient hcollecting hscanned hdata hcracks henough =>
    exact .emptied hclient hcollecting hscanned hdata hcracks henough rfl

theorem Drain.step {a : Act} (h : Drain chunks cracks s) (hok : Proceeds s a)
    (hs : step world s a = some s') : Drain chunks cracks s' := by
  cases a with
  | client => exact h.client_step hs
  | take => exact h.take_step hs
  | worker => exact h.worker_step hs
  | returned => exact h.return_step hs
  | _ => exact hok.elim

/-- What is left of the chunks: enough of them have been cracked once and nothing is collected any
more, or all of them count as scanned. -/
def Drained (chunks : Finset ChunkPos) (cracks : List (List BlockEntry)) (s : State) : Prop :=
  if TARGET_CHUNKS ≤ chunks.card then
    (∃ entries, s.cracks = cracks ++ [entries]) ∧ s.collecting = false ∧
      s.scannedChunks = ∅ ∧ s.data = []
  else s.cracks = cracks ∧ s.collecting = true ∧ s.scannedChunks = chunks ∧ s.worker = .idle

theorem Drain.drained (h : Drain chunks cracks s) (hresting : Resting s) :
    Drained chunks cracks s := by
  obtain ⟨hc, hrest⟩ := hresting
  rw [Drained]
  cases h with
  | starting range hclient =>
    rw [hc] at hclient
    rcases hclient with hclient | hclient <;> cases hclient
  | filling hclient hcollecting hcracks hchunks hworker =>
    rcases hrest with ⟨hw, hqueue⟩ | hw
    · rw [hw] at hworker
      have hscanned : s.scannedChunks = chunks := by
        simpa [State.pending, hc, hw, hqueue, Worker.pending, Client.pending] using hchunks
      rw [← hscanned, if_neg (Nat.not_le.mpr hworker)]
      exact ⟨hcracks, hcollecting, rfl, hw⟩
    · rw [hw] at hworker
      exact hworker.elim
  | emptying hclient hcollecting hcracks henough hworker =>
    rcases hrest with ⟨hw, -⟩ | hw
    · rw [hw] at hworker
      exact hworker.elim
    · rw [hw] at hworker
      exact hworker.elim
  | emptied hclient hcollecting hscanned hdata hcracks henough =>
    rw [if_pos henough]
    exact ⟨hcracks, hcollecting, hscanned, hdata⟩

end Drain

/-- Without further commands every run comes to an end, whatever fails.  While something is
collected and the client at most submits chunks, it ends, if nothing fails, at rest, having called
once if the chunks are enough and not at all otherwise; or in that call, if it does not return. -/
theorem drains (world : Point → Block) : (∀ s, Terminates (step world) NoCommand s) ∧
    EveryState (step world) Allocates init fun s =>
      s.worker = .idle → s.collecting = true → s.client.submitting = true →
        EveryState (step world) Proceeds s fun s' => Final (step world) Working s' →
          Resting s' ∧ Drained (s.scannedChunks ∪ s.pending) s.cracks s' := by
  refine ⟨terminates_noCommand world, fun s hs hw hcollecting hclient s' hs' hfinal => ?_⟩
  have hfew := (bounded world s hs).worker
  have hfilling : Drain (s.scannedChunks ∪ s.pending) s.cracks s := by
    refine .filling hclient hcollecting rfl rfl ?_
    rw [hw] at hfew ⊢
    exact hfew
  have hresting := resting_of_final hfinal
  exact ⟨hresting, (hs'.invariant hfilling fun _ _ _ => Drain.step).drained hresting⟩

theorem final_called {chunks : List ChunkPos} :
    Final (step world) Working (called world chunks) := by
  intro a hok
  cases a with
  | client | take | worker => rfl
  | _ => exact hok.elim

theorem drains_row : ∃ s s', Reaches (step fun _ => .BEDROCK) Allocates init s ∧
    s.queue = row ∧ Reaches (step fun _ => .BEDROCK) Proceeds s s' ∧
      Final (step fun _ => .BEDROCK) Working s' ∧
      Resting s' ∧ Drained (s.scannedChunks ∪ s.pending) s.cracks s' := by
  have hnodup := row_nodup
  have hlen := row_length
  generalize row = chunks at hnodup hlen ⊢
  have hqueued : Reaches (step fun _ => .BEDROCK) Allocates init
      (collected (fun _ => .BEDROCK) [] chunks) :=
    Reaches.of_started trivial (fun _ _ h => allocates_of_working h.working) reaches_queued
  have hcalled : Reaches (step fun _ => .BEDROCK) Proceeds (collected (fun _ => .BEDROCK) [] chunks)
      (called (fun _ => .BEDROCK) chunks) :=
    (reaches_called hnodup hlen).mono fun _ _ h => proceeds_of_working h.working
  have hfinal : Final (step fun _ => .BEDROCK) Working (called (fun _ => .BEDROCK) chunks) :=
    final_called
  exact ⟨_, _, hqueued, rfl, hcalled, hfinal, (drains _).2 _ hqueued rfl rfl rfl _ hcalled hfinal⟩

end SeedCracking.Collector
