import SeedCracking.Collector.Manager

/-! How often `bedrockseed$crack` is called. -/

namespace SeedCracking.Collector

open Blocks Transition

def Worker.calling : Worker → Bool
  | .stopping .scannedChunks _ | .stopping .data _ | .crack _ => true
  | _ => false

/-- The task has passed its check and has not cleared the flag. -/
def Worker.live : Worker → Bool
  | .getChunk _ | .scanning _ _ | .onChunkScanned | .startCracking | .copying _ _
  | .stopping .collecting _ => true
  | _ => false

/-- The calls so far, and those that may follow without another start. -/
def State.calls (s : State) : Nat :=
  s.cracks.length + s.worker.calling.toNat + (s.collecting || s.worker.live).toNat

variable {world : Point → Block} {s s' : State}

theorem calls_idle (s : State) : { s with worker := .idle }.calls ≤ s.calls := by
  cases hflag : s.collecting <;> simp [State.calls, Worker.calling, Worker.live, hflag]
  omega

theorem ClientStep.calls_le (h : ClientStep s s') : s'.calls + s.starts ≤ s.calls + s'.starts := by
  cases h with
  | quiet => exact le_rfl
  | startCollecting =>
    have hbit := Bool.toNat_le (s.collecting || s.worker.live)
    simp only [State.calls, Bool.true_or, Bool.toNat_true]
    omega
  | stopping pc =>
    cases pc with
    | collecting =>
      cases hlive : s.worker.live <;> simp [State.calls, StopCollecting.run, hlive]
    | scannedChunks | data => exact le_rfl

theorem WorkerStep.calls_le (h : WorkerStep world s s') :
    s'.calls + s.starts ≤ s.calls + s'.starts := by
  cases h with
  | check pos hw =>
    cases hflag : s.collecting <;> simp [State.calls, hw, hflag, Worker.calling, Worker.live]
  | few | outOfBounds => exact Nat.add_le_add_right (calls_idle s) _
  | getChunk pos hw | scan pos p todo hw | mark pos hw | enough hw | size hw
  | get size entries e hw | copied size entries hw =>
    simp [State.calls, hw, Worker.calling, Worker.live]
  | stopping pc entries hw =>
    cases pc <;> simp [State.calls, hw, Worker.calling, Worker.live, StopCollecting.run,
      StopCollecting.next]
  | crack entries hw => simp [State.calls, hw, Worker.calling, Worker.live, Nat.add_right_comm]

theorem step_calls_le {a : Act} (h : step world s a = some s') :
    s'.calls + s.starts ≤ s.calls + s'.starts := by
  cases a with
  | client => exact (clientStep_cases h).calls_le
  | worker => exact (workerStep_cases h).calls_le
  | take =>
    obtain ⟨pos, queue, hw, -, rfl⟩ := takeTask_cases h
    simp [State.calls, hw, Worker.calling, Worker.live]
  | returned =>
    obtain ⟨-, rfl⟩ := returnTask_cases h
    exact Nat.add_le_add_right (calls_idle s) _
  | fail =>
    obtain ⟨-, rfl⟩ := failTask_cases h
    exact Nat.add_le_add_right (calls_idle s) _
  | _ =>
    obtain ⟨-, rfl⟩ := begin_cases h
    exact le_rfl

variable {ok : State → Act → Prop}

/-- A run makes at most as many calls as it has starts, but for the one that may be due when it
begins. -/
theorem calls_le (h : Reaches (step world) ok s s') :
    s'.calls + s.starts ≤ s.calls + s'.starts :=
  h.credit fun _ _ _ _ hs => step_calls_le hs

theorem cracks_le_calls (s : State) : s.cracks.length ≤ s.calls := by
  rw [State.calls, Nat.add_assoc]
  exact Nat.le_add_right _ _

theorem cracking_cracks {a : Act} (hw : s.worker = .cracking) (h : step world s a = some s') :
    s'.cracks = s.cracks := by
  cases a with
  | client =>
    cases clientStep_cases h with
    | quiet | startCollecting | stopping => rfl
  | worker =>
    cases workerStep_cases h with
    | crack entries hcrack => cases hw.symm.trans hcrack
    | _ => rfl
  | take =>
    obtain ⟨_, _, -, -, rfl⟩ := takeTask_cases h
    rfl
  | returned =>
    obtain ⟨-, rfl⟩ := returnTask_cases h
    rfl
  | fail =>
    obtain ⟨-, rfl⟩ := failTask_cases h
    rfl
  | _ =>
    obtain ⟨-, rfl⟩ := begin_cases h
    rfl

def State.cracked (s : State) : Act → Option (List BlockEntry)
  | .worker =>
    match s.worker with
    | .crack entries => some entries
    | _ => none
  | _ => none

theorem cracked_cases {a : Act} {entries : List BlockEntry} (h : s.cracked a = some entries) :
    a = .worker ∧ s.worker = .crack entries := by
  cases a with
  | worker =>
    rw [State.cracked] at h
    split at h
    case h_1 hw => exact ⟨rfl, Option.some.inj h ▸ hw⟩
    case h_2 => cases h
  | _ => cases h

theorem cracks_step {a : Act} (h : step world s a = some s') :
    s'.cracks = s.cracks ++ (s.cracked a).toList := by
  cases a with
  | client =>
    cases clientStep_cases h with
    | quiet | startCollecting | stopping => exact (List.append_nil _).symm
  | worker =>
    cases workerStep_cases h with
    | crack entries hw =>
      rw [State.cracked, hw]
      rfl
    | check pos hw | getChunk pos hw | scan pos p todo hw | mark pos hw | enough hw | few hw
    | size hw | get size entries e hw | outOfBounds size entries hw | copied size entries hw
    | stopping pc entries hw =>
      rw [State.cracked, hw]
      exact (List.append_nil _).symm
  | take =>
    obtain ⟨_, _, -, -, rfl⟩ := takeTask_cases h
    exact (List.append_nil _).symm
  | returned =>
    obtain ⟨-, rfl⟩ := returnTask_cases h
    exact (List.append_nil _).symm
  | fail =>
    obtain ⟨-, rfl⟩ := failTask_cases h
    exact (List.append_nil _).symm
  | _ =>
    obtain ⟨-, rfl⟩ := begin_cases h
    exact (List.append_nil _).symm

/-- There are never more calls than starts, no two calls overlap, and after a task has cleared
the flag for its call there is no second one without another start. -/
theorem cracks_le_starts (world : Point → Block) :
    EveryState (step world) Unrestricted init (fun s => s.cracks.length ≤ s.starts) ∧
    EveryStep (step world) Unrestricted init
      (fun s _ s' => s.worker = .cracking → s'.cracks = s.cracks) ∧
    EveryState (step world) Unrestricted init fun s => ∀ entries,
      s.worker = .stopping .scannedChunks entries → s.collecting = false →
      EveryState (step world) Unrestricted s fun s' =>
        s'.starts = s.starts → s'.cracks.length ≤ s.cracks.length + 1 := by
  refine ⟨fun s h => ?_, fun s a s' _ _ hs hw => cracking_cracks hw hs, ?_⟩
  · have hcalls := calls_le h
    refine (cracks_le_calls s).trans ?_
    simpa [State.calls, init, Worker.calling, Worker.live] using hcalls
  · intro s _ entries hw hflag s' h hstarts
    have hcalls := calls_le h
    rw [hstarts, Nat.add_le_add_iff_right] at hcalls
    have hdue : s.calls = s.cracks.length + 1 := by
      simp [State.calls, hw, hflag, Worker.calling, Worker.live]
    exact (cracks_le_calls s').trans (hdue ▸ hcalls)

end SeedCracking.Collector
