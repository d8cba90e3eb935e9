import SeedCracking.Blocks.Fit
import SeedCracking.Blocks.Usable
import SeedCracking.Kernel.Parallel

/-! What a run of `bedrockseed$crack` says about the world seed. -/

namespace SeedCracking.Blocks

open Kernel Smt Words Xoroshiro

/-- The generator state that a world seed gives `RandomState.random`. -/
def worldState (w : BitVec 64) : State := forkPositional (ofWorldSeed w)

theorem worldState_eq_iff {w : BitVec 64} {I : State} :
    worldState w = I ↔ (ofWorldSeed w).outputs = (I.lo, I.hi) := by
  rw [worldState, forkPositional, State.outputs, State.ext_iff, Prod.mk.injEq]

theorem crackFP_announces (cpu : Cpu) (I : State) :
    ∃ seeds, crackFP cpu I.lo I.hi = some seeds ∧
      ∀ w, foundWorldSeed w ∈ seeds ↔ worldState w = I := by
  refine ⟨_, crackFP_eq cpu I.lo I.hi, fun w => ?_⟩
  rw [Multiset.mem_coe, worldState_eq_iff, ← mem_worldSeeds, List.mem_filterMap]
  simp only [worldSeed?_eq_some, exists_eq_right]

theorem assignment_eq (I : Unknown → BitVec 64) : assignment ⟨I .I0, I .I1⟩ = I := by
  funext v
  cases v with
  | I0 => rfl
  | I1 => rfl

section Run

variable (cpu : Cpu) {z3 : Solver Unknown 64} (entries : List BlockEntry) {mode : Nat}

def verdict (update : String) (args : List (BitVec 64)) : List Update :=
  searchUpdates ++ [⟨update, false, args⟩]

/-- How a run ends: the solver gives up; or no world seed has a state that every beam has kept;
or the run searches from such a state, and announces exactly the world seeds that give it; or
it throws. -/
theorem crack_cases (hsound : z3.Sound) (hright : z3.Right) (h1 : 1 ≤ mode) (h31 : mode ≤ 31) :
    let run := Run.outcome [] (bedrockseedCrack cpu z3 entries mode)
    (run = (.ok .failed, verdict "commands.bedrockcrack.Z3Failed" [])) ∨
    (run = (.ok .failed, verdict "commands.bedrockcrack.Z3Unsat" []) ∧
      ∀ I, ¬ Kept (observations entries mode) I) ∨
    (∃ I seeds, run = (.ok (.searched (some seeds)),
        verdict "commands.bedrockcrack.crackedRandomStateRandom" [I.lo, I.hi]) ∧
      Kept (observations entries mode) I ∧
      ∀ w, foundWorldSeed w ∈ seeds ↔ worldState w = I) ∨
    run = (.error .exception, searchUpdates) := by
  intro run
  have hrun : run = Run.outcome ([] ++ searchUpdates)
      (crackState cpu z3 (clauses (solutions entries mode))) :=
    bedrockseedCrack_eq cpu z3 entries [] h1 h31
  rw [List.nil_append] at hrun
  rcases crackState_cases cpu z3 searchUpdates (clauses (solutions entries mode)) with
    ⟨-, h⟩ | ⟨hunsat, h⟩ | ⟨hsat, i0, i1, h0, h1', h⟩ | ⟨-, -, h⟩
  · exact .inl (hrun.trans h)
  · refine .inr (.inl ⟨hrun.trans h, fun I hkept => ?_⟩)
    exact check_ne_unsat hsound hkept hunsat
  · obtain ⟨M, hM, hnumeral⟩ := hright _ hsat
    obtain ⟨seeds, hseeds, hannounced⟩ := crackFP_announces cpu ⟨i0, i1⟩
    refine .inr (.inr (.inl ⟨⟨i0, i1⟩, seeds, hrun.trans (hseeds ▸ h), ?_, hannounced⟩))
    rw [← hnumeral _ _ h0, ← hnumeral _ _ h1', ← clauses_solved_hold, assignment_eq]
    exact hM
  · exact .inr (.inr (.inr (hrun.trans h)))

end Run

/-- Some round of a search loses the state's prefix, to more entries than are kept, none of which
fits the observations much worse than the state. -/
def Rivalled (mode : Nat) (xvs : List Observation) (s : State) : Prop :=
  xvs ≠ [] ∧ ∃ n < (beam mode xvs).1, Lost mode xvs s.lo s.hi n ∧
    keep < (generated mode xvs n).countP fun e =>
      e.score ≤ fit mode xvs s.lo s.hi + slack mode xvs (n + 1) s.lo s.hi

theorem kept_of_not_rivalled {xvs : Fin 5 → List Observation} {I : State}
    (h : ∀ k : Fin 5, ¬ Rivalled (k + 1) (xvs k) (channelState I k)) : Kept xvs I := by
  intro k hk
  have hmode : k.val + 1 ≤ 5 := by omega
  obtain ⟨-, hle, -⟩ := beam_shape (k + 1) (xvs k)
  rw [beam_level]
  by_contra hnot
  obtain ⟨n, hn, hlost⟩ := (prefix_not_kept_iff (xvs k) _ _ hle).mp hnot
  exact h k ⟨hk, n, hn, hlost, hlost.rivals _ _ _ hmode (by omega)⟩

end SeedCracking.Blocks
