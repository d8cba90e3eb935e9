import SeedCracking.Collector.Drain
import SeedCracking.Collector.Exact
import Mathlib.Data.Finset.Prod
import Mathlib.Data.Int.Interval

/-! What comes of the `start` command. -/

namespace SeedCracking.Collector

open Blocks Transition

def ChunkPos.Around (pos : ChunkPos) (radius : Nat) (c : ChunkPos) : Prop :=
  |c.x - pos.x| ≤ radius ∧ |c.z - pos.z| ≤ radius

theorem ChunkPos.card_around {pos : ChunkPos} {radius : Nat} {chunks : Finset ChunkPos}
    (h : ∀ c, c ∈ chunks ↔ pos.Around radius c) :
    chunks.card = (2 * radius + 1) * (2 * radius + 1) := by
  have hmem (c : ChunkPos) : c ∈ chunks ↔
      (c.x, c.z) ∈ Finset.Icc (pos.x - radius) (pos.x + radius) ×ˢ
        Finset.Icc (pos.z - radius) (pos.z + radius) := by
    simp only [h, Around, abs_le, Finset.mem_product, Finset.mem_Icc]
    omega
  have hcard (a : Int) : (Finset.Icc (a - radius) (a + radius)).card = 2 * radius + 1 := by
    rw [Int.card_Icc]
    omega
  refine Eq.trans ?_ (congrArg₂ (· * ·) (hcard pos.x) (hcard pos.z))
  rw [← Finset.card_product]
  refine Finset.card_nbij' (fun c => (c.x, c.z)) (fun p => ⟨p.1, p.2⟩) ?_ ?_ ?_ ?_
  · exact fun c hc => (hmem c).mp hc
  · exact fun p hp => (hmem ⟨p.1, p.2⟩).mpr hp
  · exact fun _ _ => rfl
  · exact fun _ _ => rfl

theorem ChunkPos.target_le_iff {pos : ChunkPos} {radius : Nat} {chunks : Finset ChunkPos}
    (h : ∀ c, c ∈ chunks ↔ pos.Around radius c) : TARGET_CHUNKS ≤ chunks.card ↔ 16 ≤ radius := by
  rw [card_around h, TARGET_CHUNKS, Nat.mul_self_le_mul_self_iff]
  omega

/-- Nothing is collected, and neither the client nor the worker has anything to do. -/
structure Quiet (s : State) : Prop where
  client : s.client = .idle
  worker : s.worker = .idle
  queue : s.queue = []
  collecting : s.collecting = false
  scannedChunks : s.scannedChunks = ∅
  data : s.data = []

/-- The same, but for a call that has not come back. -/
structure InCall (s : State) : Prop where
  client : s.client = .idle
  worker : s.worker = .cracking
  collecting : s.collecting = false
  scannedChunks : s.scannedChunks = ∅
  data : s.data = []

/-- The entries of enough of the chunks, and all of theirs. -/
def Called (world : Point → Block) (chunks : Finset ChunkPos) (entries : List BlockEntry) : Prop :=
  ∃ scanned ⊆ chunks, TARGET_CHUNKS ≤ scanned.card ∧ Matches world scanned entries

def Worker.called : Worker → Option (List BlockEntry)
  | .stopping _ entries | .crack entries => some entries
  | _ => none

structure Session (world : Point → Block) (chunks : Finset ChunkPos)
    (cracks : List (List BlockEntry)) (s : State) : Prop where
  drain : Drain chunks cracks s
  exact : Exact world s
  called : ∀ entries, s.worker.called = some entries → Called world chunks entries
  cracked : ∀ entries, s.cracks = cracks ++ [entries] → Called world chunks entries

section Session

variable {world : Point → Block} {chunks : Finset ChunkPos} {cracks : List (List BlockEntry)}
  {s s' : State}

theorem Drain.not_stopping (h : Drain chunks cracks s) (pc : StopCollecting) :
    s.client ≠ .stopping pc := by
  intro hc
  cases h with
  | starting range hclient => rcases hclient with hclient | hclient <;> cases hc.symm.trans hclient
  | filling hclient | emptying hclient | emptied hclient =>
    rw [hc] at hclient
    cases hclient

theorem Session.copied (h : Session world chunks cracks s) {size : Nat} {entries : List BlockEntry}
    (hw : s.worker = .copying size entries) (hsize : size ≤ entries.length) :
    Called world chunks entries := by
  have hworker := h.exact.worker
  rw [hw] at hworker
  obtain ⟨hcard, hmatches, rfl, hpre⟩ := hworker
  refine ⟨s.scannedChunks, ?_, hcard, hpre.eq_of_length_le hsize ▸ hmatches⟩
  cases h.drain with
  | starting _ _ _ _ _ _ hidle => cases hw.symm.trans hidle
  | filling _ _ _ hchunks => exact hchunks ▸ Finset.subset_union_left
  | emptying _ _ _ _ hemptying =>
    rw [hw] at hemptying
    exact hemptying.elim
  | emptied _ _ _ _ _ _ hemptied =>
    rw [hw] at hemptied
    cases hemptied

theorem Session.quiet_step (h : Session world chunks cracks s) (hdrain : Drain chunks cracks s')
    (hexact : Exact world s') (hcalled : s'.worker.called = none) (hcracks : s'.cracks = s.cracks) :
    Session world chunks cracks s' := by
  refine ⟨hdrain, hexact, fun entries he => ?_, fun entries he => h.cracked entries ?_⟩
  · rw [hcalled] at he
    cases he
  · rw [← hcracks, he]

theorem Session.worker_step (h : Session world chunks cracks s)
    (hstep : Collector.step world s .worker = some s') : Session world chunks cracks s' := by
  have hdrain := h.drain.worker_step hstep
  have hexact := h.exact.step (a := .worker) h.drain.not_stopping hstep
  cases workerStep_cases hstep with
  | copied size entries hw hsize =>
    refine ⟨hdrain, hexact, ?_, h.cracked⟩
    rintro _ ⟨⟩
    exact h.copied hw hsize
  | stopping pc entries hw =>
    have hcalled : Called world chunks entries := h.called entries (by rw [hw]; rfl)
    refine ⟨hdrain, hexact, fun entries' he => ?_, h.cracked⟩
    cases pc <;> cases he <;> exact hcalled
  | crack entries hw =>
    have hcalled : Called world chunks entries := h.called entries (by rw [hw]; rfl)
    refine ⟨hdrain, hexact, nofun, fun entries' he => ?_⟩
    have hlast := congrArg List.getLast? he
    rw [List.getLast?_concat, List.getLast?_concat] at hlast
    exact Option.some.inj hlast ▸ hcalled
  | check pos hw =>
    refine h.quiet_step hdrain hexact ?_ rfl
    simp only
    split <;> rfl
  | getChunk | scan | mark | enough | few | size | get | outOfBounds =>
    exact h.quiet_step hdrain hexact rfl rfl

theorem Session.step {a : Act} (h : Session world chunks cracks s) (hok : Proceeds s a)
    (hstep : Collector.step world s a = some s') : Session world chunks cracks s' := by
  have hdrain := h.drain.step hok hstep
  have hexact := h.exact.step (a := a) h.drain.not_stopping hstep
  cases a with
  | client =>
    cases clientStep_cases hstep with
    | quiet | startCollecting => exact ⟨hdrain, hexact, h.called, h.cracked⟩
    | stopping pc hc => exact absurd hc (h.drain.not_stopping pc)
  | take =>
    obtain ⟨_, _, -, -, rfl⟩ := takeTask_cases hstep
    exact h.quiet_step hdrain hexact rfl rfl
  | worker => exact h.worker_step hstep
  | returned =>
    obtain ⟨-, rfl⟩ := returnTask_cases hstep
    exact h.quiet_step hdrain hexact rfl rfl
  | _ => exact hok.elim

theorem Quiet.session (h : Quiet s) (range : List ChunkPos) :
    Session world range.toFinset s.cracks { s with client := .start range } := by
  have hexact : Exact world s := Fresh.exact ⟨h.data, h.scannedChunks, by rw [h.worker]; rfl⟩
  refine ⟨?_, ⟨hexact.scanned, hexact.worker⟩, fun entries he => ?_, fun entries he => ?_⟩
  · exact .starting range (.inl rfl) h.collecting rfl rfl h.scannedChunks h.worker h.queue
  · simp only [h.worker] at he
    cases he
  · exact absurd he (by simp)

theorem Called.matches {entries : List BlockEntry} (h : Called world chunks entries)
    (hcard : chunks.card ≤ TARGET_CHUNKS) : Matches world chunks entries := by
  obtain ⟨scanned, hsub, henough, hmatches⟩ := h
  exact Finset.eq_of_subset_of_card_le hsub (hcard.trans henough) ▸ hmatches

theorem Quiet.of_final (h : Quiet s) {pos : ChunkPos} {renderDistance : Nat} {range : List ChunkPos}
    (hrange : ∀ c, c ∈ range ↔ pos.Around renderDistance c)
    (hs : Reaches (Collector.step world) Proceeds { s with client := .start range } s')
    (hfinal : Final (Collector.step world) Working s') :
    if 16 ≤ renderDistance then
      (Quiet s' ∨ InCall s') ∧ ∃ entries, s'.cracks = s.cracks ++ [entries] ∧
        Called world range.toFinset entries
    else s'.client = .idle ∧ s'.worker = .idle ∧ s'.queue = [] ∧ s'.collecting = true ∧
      s'.cracks = s.cracks ∧ s'.scannedChunks = range.toFinset := by
  have hmem (c : ChunkPos) : c ∈ range.toFinset ↔ pos.Around renderDistance c :=
    List.mem_toFinset.trans (hrange c)
  have hsession : Session world range.toFinset s.cracks s' :=
    hs.invariant (h.session range) fun _ _ _ => Session.step
  have hresting := resting_of_final hfinal
  have hdrained := hsession.drain.drained hresting
  obtain ⟨hc, hrest⟩ := hresting
  rw [Drained] at hdrained
  simp only [ChunkPos.target_le_iff hmem] at hdrained
  split at hdrained
  case isTrue hfar =>
    obtain ⟨⟨entries, hcracks⟩, hcollecting, hscanned, hdata⟩ := hdrained
    rw [if_pos hfar]
    refine ⟨?_, entries, hcracks, hsession.cracked entries hcracks⟩
    rcases hrest with ⟨hw, hqueue⟩ | hw
    · exact .inl ⟨hc, hw, hqueue, hcollecting, hscanned, hdata⟩
    · exact .inr ⟨hc, hw, hcollecting, hscanned, hdata⟩
  case isFalse hnear =>
    obtain ⟨hcracks, hcollecting, hscanned, hw⟩ := hdrained
    rw [if_neg hnear]
    refine ⟨hc, hw, ?_, hcollecting, hcracks, hscanned⟩
    rcases hrest with ⟨-, hqueue⟩ | hcracking
    · exact hqueue
    · cases hw.symm.trans hcracking

end Session

section Range

variable (world : Point → Block) (rangeClosed : ChunkPos → Nat → List ChunkPos)
  (hrange : ∀ pos radius c, c ∈ rangeClosed pos radius ↔ pos.Around radius c)
include hrange

/-- A session that is started with nothing left over and not disturbed ends, and calls exactly once,
on every schedule, if chunks are rendered far enough: with all blocks of enough chunks, and at a
distance of sixteen of all chunks.  Otherwise it waits for more, with all chunks scanned. -/
theorem start_cracks : EveryState (step world) Unrestricted init fun s =>
    Quiet s → ∀ (pos : ChunkPos) (renderDistance : Nat) (s₁ : State),
      step world s (.start (rangeClosed pos renderDistance)) = some s₁ →
        let range := (rangeClosed pos renderDistance).toFinset
        Terminates (step world) NoCommand s₁ ∧
        EveryState (step world) Proceeds s₁ fun s' => Final (step world) Working s' →
          if 16 ≤ renderDistance then
            (Quiet s' ∨ InCall s') ∧ ∃ entries, s'.cracks = s.cracks ++ [entries] ∧
              Called world range entries ∧ (renderDistance = 16 → Matches world range entries)
          else s'.client = .idle ∧ s'.worker = .idle ∧ s'.queue = [] ∧ s'.collecting = true ∧
            s'.cracks = s.cracks ∧ s'.scannedChunks = range := by
  intro s _ hquiet pos renderDistance s₁ hstart range
  refine ⟨terminates_noCommand world s₁, fun s' hs' hfinal => ?_⟩
  obtain ⟨-, rfl⟩ := begin_cases hstart
  have hend := hquiet.of_final (hrange pos renderDistance) hs' hfinal
  split at hend
  case isTrue hfar =>
    obtain ⟨hrest, entries, hcracks, hcalled⟩ := hend
    rw [if_pos hfar]
    refine ⟨hrest, entries, hcracks, hcalled, ?_⟩
    rintro rfl
    refine hcalled.matches (Nat.le_of_eq ?_)
    rw [ChunkPos.card_around fun c => List.mem_toFinset.trans (hrange pos 16 c)]
    rfl
  case isFalse hnear =>
    rw [if_neg hnear]
    exact hend

end Range

def ChunkPos.square (pos : ChunkPos) (radius : Nat) : List ChunkPos :=
  (List.range (2 * radius + 1)).flatMap fun z : Nat =>
    (List.range (2 * radius + 1)).map fun x : Nat => ⟨pos.x - radius + x, pos.z - radius + z⟩

theorem ChunkPos.mem_square (pos : ChunkPos) (radius : Nat) (c : ChunkPos) :
    c ∈ pos.square radius ↔ pos.Around radius c := by
  simp only [square, Around, abs_le, List.mem_flatMap, List.mem_map, List.mem_range]
  constructor
  · rintro ⟨z, hz, x, hx, rfl⟩
    simp only
    omega
  · rintro ⟨⟨hx, hx'⟩, hz, hz'⟩
    refine ⟨(c.z - (pos.z - radius)).toNat, by omega, (c.x - (pos.x - radius)).toNat, by omega, ?_⟩
    apply ChunkPos.ext
    · simp only
      omega
    · simp only
      omega

theorem ChunkPos.length_square (pos : ChunkPos) (radius : Nat) :
    (pos.square radius).length = (2 * radius + 1) * (2 * radius + 1) := by
  simp [square, List.length_flatMap, List.map_const']

theorem ChunkPos.square_nodup (pos : ChunkPos) (radius : Nat) : (pos.square radius).Nodup := by
  rw [← Multiset.coe_nodup, ← Multiset.toFinset_card_eq_card_iff_nodup, Multiset.coe_card,
    length_square]
  have hmem (c : ChunkPos) :
      c ∈ (pos.square radius : Multiset ChunkPos).toFinset ↔ pos.Around radius c := by
    rw [Multiset.mem_toFinset, Multiset.mem_coe, mem_square]
  exact card_around hmem

theorem quiet_init : Quiet init := ⟨rfl, rfl, rfl, rfl, rfl, rfl⟩

theorem start_cracks_square : ∃ s' entries,
    Reaches (step fun _ => .BEDROCK) Proceeds (started (ChunkPos.square ⟨0, 0⟩ 16)) s' ∧
      Final (step fun _ => .BEDROCK) Working s' ∧
      s'.worker = .cracking ∧ s'.cracks = init.cracks ++ [entries] ∧
      Matches (fun _ => .BEDROCK) (ChunkPos.square ⟨0, 0⟩ 16).toFinset entries := by
  have hcalled : Reaches (step fun _ => .BEDROCK) Proceeds (started (ChunkPos.square ⟨0, 0⟩ 16))
      (called (fun _ => .BEDROCK) (ChunkPos.square ⟨0, 0⟩ 16)) :=
    (reaches_queued.trans (reaches_called (ChunkPos.square_nodup _ _)
      (ChunkPos.length_square _ _))).mono fun _ _ h => proceeds_of_working h.working
  have hend := (start_cracks (fun _ => .BEDROCK) ChunkPos.square ChunkPos.mem_square init .refl
    quiet_init ⟨0, 0⟩ 16 _ rfl).2 _ hcalled final_called
  rw [if_pos (Nat.le_refl 16)] at hend
  obtain ⟨-, entries, hcracks, -, hmatches⟩ := hend
  exact ⟨_, entries, hcalled, final_called, rfl, hcracks, hmatches rfl⟩

end SeedCracking.Collector
