import SeedCracking.Collector.Marshal
import SeedCracking.Jni.Native
import SeedCracking.Jni.World

/-! From the blocks of a world to its seed. -/

namespace SeedCracking.Jni

open Blocks Kernel Memory Smt Threads Transition Xoroshiro
open Collector hiding State

section Scores

variable {world : Point → Block} {P : ChunkPos → Prop} {I : State} {entries : List BlockEntry}

theorem fit_of_recorded (h : Recorded world P entries) (hplaced : Placed I (types world))
    (k : Fin 5) :
    fit (k + 1) (observations entries 31 k) (channelState I k).lo (channelState I k).hi ≤
      missing (types world) entries k :=
  fit_le_missing (fun _ _ htyp => (h.typeAt_world htyp).2) hplaced k

/-- In no run does a block speak against the state that has placed it; a vein position can do so
only when its own block is missing. -/
theorem cracks_fit (hplaced : Placed I (types world)) :
    EveryState (Collector.step world) Unrestricted init fun s => ∀ entries ∈ s.cracks, ∀ k : Fin 5,
      fit (k + 1) (observations entries 31 k) (channelState I k).lo (channelState I k).hi ≤
        missing (types world) entries k := by
  intro s hs entries he
  have hsubmits : Reaches (Collector.step world) (Submits fun _ => True) init s :=
    hs.mono fun _ _ _ _ _ => trivial
  exact fit_of_recorded (cracks_truthful world _ s hsubmits entries he) hplaced

end Scores

theorem row_zero : (⟨0, 0⟩ : ChunkPos) ∈ row :=
  List.mem_map.mpr ⟨0, List.mem_range.mpr (by decide), rfl⟩

theorem cracks_copper : entriesOf recorded copperWorld row ∈ (called copperWorld row).cracks := by
  simp [called]

theorem cracks_fit_copper : ∃ s, Reaches (Collector.step copperWorld) Unrestricted init s ∧
    ∃ entries ∈ s.cracks, ∀ k : Fin 5, observations entries 31 k ≠ [] ∧
      fit (k + 1) (observations entries 31 k) (channelState (worldState 0) k).lo
        (channelState (worldState 0) k).hi ≤ missing (types copperWorld) entries k := by
  have hrun : Reaches (Collector.step copperWorld) Unrestricted init (called copperWorld row) :=
    reaches_called_row trivial fun _ _ _ => trivial
  exact ⟨_, hrun, _, cracks_copper, fun k => ⟨observations_copper row_zero k,
    cracks_fit placed_copperWorld _ hrun _ cracks_copper k⟩⟩

/-- Some search has observations and loses the state's prefix, in a round where more entries than
are kept score no worse than the missing blocks and the unknown bits explain. -/
def Crowded (find : Point → Option BlockType) (entries : List BlockEntry) (I : State)
    (k : Fin 5) : Prop :=
  let xvs := observations entries 31 k
  let s := channelState I k
  xvs ≠ [] ∧ ∃ n < (beam (k + 1) xvs).1, Lost (k + 1) xvs s.lo s.hi n ∧
    keep < (generated (k + 1) xvs n).countP fun e =>
      e.score ≤ missing find entries k + slack (k + 1) xvs (n + 1) s.lo s.hi

theorem crowded_of_rivalled {find : Point → Option BlockType} {entries : List BlockEntry}
    {I : State} {k : Fin 5}
    (hfit : fit (k + 1) (observations entries 31 k) (channelState I k).lo (channelState I k).hi ≤
      missing find entries k)
    (h : Rivalled (k + 1) (observations entries 31 k) (channelState I k)) :
    Crowded find entries I k := by
  obtain ⟨hne, n, hn, hlost, hrivals⟩ := h
  refine ⟨hne, n, hn, hlost, hrivals.trans_le (List.countP_mono_left fun e _ he => ?_)⟩
  rw [decide_eq_true_eq] at he ⊢
  omega

section Recovery

variable {τ : Type} [DecidableEq τ]

/-- What can come of a call in the world of a seed: a channel is too crowded, or all beams have kept
another state as well, or the run throws, or the solver gives up, or Java is told this seed and no
seed of another state. -/
def Recovered (cpu : Cpu) (z3 : Solver Unknown 64) (world : Point → Block) (w : BitVec 64)
    (data : List BlockEntry) (vm : Jvm τ) (caller : τ) (calls : List (τ × Update)) : Prop :=
  (∃ k, Crowded (types world) data (worldState w) k) ∨
  (∃ I, I ≠ worldState w ∧ Kept (observations data 31) I) ∨
  Throws cpu z3 data 31 ∨
  (caller, callOf ⟨"commands.bedrockcrack.Z3Failed", false, []⟩) ∈ received vm calls ∨
  (∃ t, (t, callOf (foundWorldSeed w)) ∈ received vm calls) ∧
    ∀ t w', (t, callOf (foundWorldSeed w')) ∈ received vm calls → worldState w' = worldState w

variable [Fintype τ] {world : Point → Block} {w : BitVec 64} {z3 : Solver Unknown 64}

section Call

variable {data : List BlockEntry} {vm : Jvm τ} {caller : τ} {calls : List (τ × Update)} {cpu : Cpu}

theorem recovered_of_recorded {P : ChunkPos → Prop} (hrec : Recorded world P data)
    (hplaced : Placed (worldState w) (types world)) (hsound : z3.Sound) (hright : z3.Right)
    (hattached : vm.attached caller = true) (hcall : NativeCall caller cpu z3 data 31 calls) :
    Recovered cpu z3 world w data vm caller calls := by
  by_cases hcrowded : ∃ k, Crowded (types world) data (worldState w) k
  · exact .inl hcrowded
  by_cases hother : ∃ I, I ≠ worldState w ∧ Kept (observations data 31) I
  · exact .inr (.inl hother)
  have hkept : Kept (observations data 31) (worldState w) := by
    refine kept_of_not_rivalled fun k hrivalled => hcrowded ⟨k, ?_⟩
    exact crowded_of_rivalled (fit_of_recorded hrec hplaced k) hrivalled
  refine .inr (.inr (received_of_only hattached hcall hsound hright (by decide) (by decide) hkept
    fun I hI => ?_))
  by_contra hne
  exact hother ⟨I, hne, hI⟩

end Call

/-- Whatever the client and the worker do in between, and whichever threads share the search: what
is cracked in the world of a seed reaches the native code, which recovers the seed. -/
theorem seed_received (hplaced : Placed (worldState w) (types world)) (hsound : z3.Sound)
    (hright : z3.Right) (cpu : Cpu) :
    EveryState (Collector.step world) (Submits ChunkPos.Inside) init fun s => ∀ data ∈ s.cracks,
      ∀ (order : ByteOrder) (entries : Allocated data.length) (m : Mem),
        ∃ m', copyEntries order entries.toMemorySegment 0 data m = some m' ∧
          ∀ (vm : Jvm τ) (caller : τ) (calls : List (τ × Update)), vm.attached caller = true →
            NativeCall caller cpu z3 (readEntries order m' entries.address data.length) 31 calls →
              Recovered cpu z3 world w data vm caller calls := by
  intro s hs data hdata order entries m
  have hrec := cracks_truthful world ChunkPos.Inside s hs data hdata
  obtain ⟨m', hcopied, -, hread⟩ := exists_copyEntries hrec order entries m
  refine ⟨m', hcopied, fun vm caller calls hattached hcall => ?_⟩
  rw [hread] at hcall
  exact recovered_of_recorded hrec hplaced hsound hright hattached hcall

end Recovery

theorem not_throws_copper {chunks : List ChunkPos} (h : ⟨0, 0⟩ ∈ chunks) :
    ¬ Throws ⟨false, false⟩ Solver.ideal (entriesOf recorded copperWorld chunks) 31 :=
  not_throws_of_usable _ _ (by decide) (by decide) (Solver.ideal_interprets _)
    ((observations_ne_nil _ 31 0).mp (observations_copper h 0))

/-- In the world with the vein all five searches have observations, and the call does not throw. -/
theorem seed_received_copper : ∃ s, Reaches (Collector.step copperWorld) (Submits ChunkPos.Inside)
    init s ∧ ∃ data ∈ s.cracks, (∀ k, observations data 31 k ≠ []) ∧
      ¬ Throws ⟨false, false⟩ Solver.ideal data 31 ∧
      ∀ (entries : Allocated data.length) (m : Mem),
        ∃ m', copyEntries .LITTLE_ENDIAN entries.toMemorySegment 0 data m = some m' ∧
          ∀ calls, NativeCall () ⟨false, false⟩ Solver.ideal
              (readEntries .LITTLE_ENDIAN m' entries.address data.length) 31 calls →
            Recovered ⟨false, false⟩ Solver.ideal copperWorld 0 data ⟨fun _ => true, []⟩ ()
              calls := by
  have hrun : Reaches (Collector.step copperWorld) (Submits ChunkPos.Inside) init
      (called copperWorld row) := reaches_called_row_inside
  refine ⟨_, hrun, _, cracks_copper, observations_copper row_zero, not_throws_copper row_zero,
    fun entries m => ?_⟩
  obtain ⟨m', hcopied, hrecovered⟩ := seed_received (τ := Unit) placed_copperWorld
    Solver.ideal_sound Solver.ideal_right ⟨false, false⟩ _ hrun _ cracks_copper .LITTLE_ENDIAN
    entries m
  exact ⟨m', hcopied, fun calls => hrecovered ⟨fun _ => true, []⟩ () calls rfl⟩

end SeedCracking.Jni
