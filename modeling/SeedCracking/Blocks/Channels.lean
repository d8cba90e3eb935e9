import SeedCracking.Blocks.Crack

/-! What the beams and the formula have to do with the generator states of the five channels. -/

namespace SeedCracking.Blocks

open Kernel Smt Xoroshiro

theorem miss_eq_zero (ITER : Nat) (lo hi : BitVec 64) (o : Observation) {weight : Int}
    (hweight : weight ≠ 0) : miss ITER lo hi o * weight = 0 ↔ get ITER lo hi o.xv o.p = o.ret := by
  rw [Int.mul_eq_zero, or_iff_left hweight, miss]
  simp

/-- `get<ITER>` on a stepped state tests draw `ITER + 1` of the positional generator, and the
searches of modes up to 3, 4 and 5 test its first three draws. -/
theorem get_draws (xv : BitVec 64) (p : ℚ) :
    (∀ (ITER : Nat) (L H : BitVec 64), let s := State.next^[ITER] ⟨L, H⟩
      get ITER s.lo s.hi xv p = true ↔ draw (State.next^[ITER] ⟨L ^^^ xv, H⟩) < p) ∧
    ∀ I : State,
      let O : Expr → BitVec 64 := Term.eval (assignment I)
      let s : State := ⟨O O4 ^^^ xv, O O5⟩
      (get 0 (O O4) (O O5) xv p = true ↔ draw s < p) ∧
      (get 1 (O O6) (O O7) xv p = true ↔ draw s.next < p) ∧
      (get 2 (O O8) (O O9) xv p = true ↔ draw s.next.next < p) ∧
      ∀ ret, (∀ mode ≤ 3, fit mode [⟨xv, p, ret⟩] (O O4) (O O5) = 0 ↔
          get 0 (O O4) (O O5) xv p = ret) ∧
        (fit 4 [⟨xv, p, ret⟩] (O O6) (O O7) = 0 ↔ get 1 (O O6) (O O7) xv p = ret) ∧
        (fit 5 [⟨xv, p, ret⟩] (O O8) (O O9) = 0 ↔ get 2 (O O8) (O O9) xv p = ret) := by
  refine ⟨fun ITER L H => get_iterate ITER L H xv p, fun I => ?_⟩
  intro O s
  have h6 : State.mk (O O6) (O O7) = (State.mk (O O4) (O O5)).next := step_eval _ O4 O5
  have h8 : State.mk (O O8) (O O9) = (State.mk (O O4) (O O5)).next.next := by
    rw [← h6]
    exact step_eval _ O6 O7
  have h0 := get_iterate 0 (O O4) (O O5) xv p
  have h1 := get_iterate 1 (O O4) (O O5) xv p
  have h2 := get_iterate 2 (O O4) (O O5) xv p
  simp only [Function.iterate_succ_apply, Function.iterate_zero_apply] at h0 h1 h2
  rw [← h6] at h1
  rw [← h8] at h2
  refine ⟨h0, h1, h2, fun ret => ⟨fun mode hmode => ?_, ?_, ?_⟩⟩
  · have h := miss_eq_zero 0 (O O4) (O O5) ⟨xv, p, ret⟩ Int.one_ne_zero
    simpa [fit, hmode] using h
  · have h := miss_eq_zero 1 (O O6) (O O7) ⟨xv, p, ret⟩ Int.one_ne_zero
    simpa [fit] using h
  · have hweight : (if ret then 50 else 1 : Int) ≠ 0 := by cases ret <;> decide
    have h := miss_eq_zero 2 (O O8) (O O9) ⟨xv, p, ret⟩ hweight
    simpa [fit] using h

/-- For every channel that has observations the beam has kept the prefix of its state. -/
def Kept (xvs : Fin 5 → List Observation) (I : State) : Prop :=
  ∀ k, xvs k ≠ [] → ∃ e ∈ (beam (k + 1) (xvs k)).2,
    (e.w1, e.w2, e.w3) =
      prefixOf (beam (k + 1) (xvs k)).1 (channelState I k).lo (channelState I k).hi

/-- The clauses of the beams' results, read on a state: every beam has kept its prefix. -/
theorem clauses_solved_hold (xvs : Fin 5 → List Observation) (I : State) :
    (∀ φ ∈ clauses fun k => solved (xvs k) (k + 1), φ.Holds (assignment I)) ↔ Kept xvs I := by
  rw [clauses_hold]
  refine forall_congr' fun k => ?_
  by_cases hxvs : xvs k = []
  · simp [hxvs, solved, solve_nil]
  · rw [solved_eq hxvs, ← exists_agreesOn_iff]
    constructor
    · exact fun h _ => h _ _ rfl
    · rintro h mask candidates heq
      obtain ⟨rfl, rfl⟩ := List.cons.inj heq
      exact h hxvs

section Refuted

variable {z3 : Solver Unknown 64} {entries : List BlockEntry} {mode : Nat}

theorem check_ne_unsat (hz3 : z3.Sound) {I : State} (h : Kept (observations entries mode) I) :
    z3.check (clauses (solutions entries mode)) ≠ .unsat := by
  intro hunsat
  exact hz3 _ hunsat ⟨assignment I, (clauses_solved_hold _ I).mpr h⟩

theorem not_mem_Z3Unsat (cpu : Cpu) (hz3 : z3.Sound) (h1 : 1 ≤ mode) (h31 : mode ≤ 31) {I : State}
    (h : Kept (observations entries mode) I) :
    ⟨"commands.bedrockcrack.Z3Unsat", false, []⟩ ∉
      (Run.outcome [] (bedrockseedCrack cpu z3 entries mode)).2 := by
  have hne := check_ne_unsat hz3 h
  rw [bedrockseedCrack_eq cpu z3 entries [] h1 h31]
  rcases crackState_cases cpu z3 ([] ++ searchUpdates) (clauses (solutions entries mode)) with
    ⟨-, hrun⟩ | ⟨hunsat, -⟩ | ⟨-, i0, i1, -, -, hrun⟩ | ⟨-, -, hrun⟩
  · rw [hrun]
    simp [searchUpdates]
  · exact absurd hunsat hne
  · rw [hrun]
    simp [searchUpdates]
  · rw [hrun]
    simp [searchUpdates]

end Refuted

/-- The formula says that each result has a candidate that agrees with its channel's state on
the mask, that is, that each beam has kept the state's prefix. -/
theorem clauses_characterise (I : State) :
    (∀ sol : Fin 5 → List (BitVec 128), (∀ φ ∈ clauses sol, φ.Holds (assignment I)) ↔
      ∀ k mask candidates, sol k = mask :: candidates → ∃ x ∈ candidates,
        AgreesOn mask x (push (channelState I k).lo (channelState I k).hi)) ∧
    (∀ xvs : Fin 5 → List Observation, ∃ sol : Fin 5 → List (BitVec 128),
      (∀ k, solve (xvs k) (k + 1) = some (sol k)) ∧
      ((∀ φ ∈ clauses sol, φ.Holds (assignment I)) ↔
        ∀ k, xvs k ≠ [] → ∃ e ∈ (beam (k + 1) (xvs k)).2, (e.w1, e.w2, e.w3) =
          prefixOf (beam (k + 1) (xvs k)).1 (channelState I k).lo (channelState I k).hi)) ∧
    ∀ (cpu : Cpu) (z3 : Solver Unknown 64) (entries : List BlockEntry) (mode : Nat), z3.Sound →
      1 ≤ mode → mode ≤ 31 → Kept (observations entries mode) I →
      ⟨"commands.bedrockcrack.Z3Unsat", false, []⟩ ∉
        (Run.outcome [] (bedrockseedCrack cpu z3 entries mode)).2 := by
  refine ⟨clauses_hold I, fun xvs => ?_, fun cpu z3 entries mode hz3 h1 h31 hkept => ?_⟩
  · exact ⟨fun k => solved (xvs k) (k + 1), fun k => solve_eq_solved _ _, clauses_solved_hold xvs I⟩
  · exact not_mem_Z3Unsat cpu hz3 h1 h31 hkept

end SeedCracking.Blocks
