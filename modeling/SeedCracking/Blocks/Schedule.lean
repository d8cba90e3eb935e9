import SeedCracking.Blocks.Packing
import SeedCracking.Threads.ParallelFor

/-! The search with its scores computed by several threads. -/

namespace SeedCracking.Blocks

open Threads

variable {τ : Type} [Fintype τ] [DecidableEq τ] (mode : Nat) (xvs : List Observation)

def scoreOf (e : BeamEntry) : Int := (scored mode xvs e).score

def BeamEntry.setScore (score : Int) (e : BeamEntry) : BeamEntry := { e with score := score }

theorem independent_scoreOf : Independent (scoreOf mode xvs) BeamEntry.setScore where
  compute_put _ _ := rfl
  put_put _ _ := rfl

def parallelScored (next : List BeamEntry) (r : ParallelFor τ next.length) : List BeamEntry :=
  (Loop.run (scoreOf mode xvs) BeamEntry.setScore ⟨next, fun _ => none⟩ r.accesses).cells

theorem parallelScored_eq (next : List BeamEntry) (r : ParallelFor τ next.length) :
    parallelScored mode xvs next r = next.map (scored mode xvs) :=
  r.run_cells (independent_scoreOf mode xvs) next _

def parallelRound (cur : List BeamEntry) (r : ParallelFor τ (cur.flatMap BeamEntry.next).length) :
    List BeamEntry :=
  ((parallelScored mode xvs (cur.flatMap BeamEntry.next) r).mergeSort
    fun a b => a.score ≤ b.score).take keep

theorem parallelRound_eq (cur : List BeamEntry)
    (r : ParallelFor τ (cur.flatMap BeamEntry.next).length) :
    parallelRound mode xvs cur r = beamRound mode xvs cur := by
  rw [parallelRound, parallelScored_eq, beamRound]

/-- The rounds from `iters` on, of which `fuel` are left, each shared among the threads in some
way. -/
inductive ParallelLoop (τ : Type) [Fintype τ] [DecidableEq τ] (mode : Nat)
    (xvs : List Observation) : (fuel iters : Nat) → List BeamEntry → Nat × List BeamEntry → Prop
  | done (iters : Nat) (cur : List BeamEntry) : ParallelLoop τ mode xvs 0 iters cur (iters, cur)
  | exit (fuel iters : Nat) (cur : List BeamEntry)
      (r : ParallelFor τ (cur.flatMap BeamEntry.next).length)
      (hlevelled : iters > 6 ∧ levelled (parallelRound mode xvs cur r) = true) :
      ParallelLoop τ mode xvs (fuel + 1) iters cur (iters, cur)
  | round (fuel iters : Nat) (cur : List BeamEntry) {out : Nat × List BeamEntry}
      (r : ParallelFor τ (cur.flatMap BeamEntry.next).length)
      (hlevelled : ¬ (iters > 6 ∧ levelled (parallelRound mode xvs cur r) = true))
      (hrest : ParallelLoop τ mode xvs fuel (iters + 1) (parallelRound mode xvs cur r) out) :
      ParallelLoop τ mode xvs (fuel + 1) iters cur out

inductive ParallelSolve (τ : Type) [Fintype τ] [DecidableEq τ] (xvs : List Observation)
    (mode : Nat) : Option (List (BitVec 128)) → Prop
  | empty (hxvs : xvs.length = 0) : ParallelSolve τ xvs mode (some [])
  | search {iters : Nat} {cur : List BeamEntry} (hxvs : ¬ xvs.length = 0)
      (hloop : ParallelLoop τ mode xvs 21 0 [⟨0, 0, 0, 0, 0⟩] (iters, cur)) :
      ParallelSolve τ xvs mode do
        let candidates ← cur.mapM (candidate iters)
        return push (km0 iters) (km1 iters) :: candidates

section Loop

variable {mode xvs}

theorem ParallelLoop.eq {fuel iters : Nat} {cur : List BeamEntry} {out : Nat × List BeamEntry}
    (h : ParallelLoop τ mode xvs fuel iters cur out) : out = beamLoop mode xvs fuel iters cur := by
  induction h with
  | done => rfl
  | exit fuel iters cur r hlevelled =>
    rw [parallelRound_eq] at hlevelled
    rw [beamLoop]
    exact (if_pos hlevelled).symm
  | round fuel iters cur r hlevelled _ ih =>
    rw [parallelRound_eq] at hlevelled ih
    rw [ih, beamLoop]
    exact (if_neg hlevelled).symm

variable (mode xvs) in
theorem parallelLoop_beamLoop [Inhabited τ] (fuel iters : Nat) (cur : List BeamEntry) :
    ParallelLoop τ mode xvs fuel iters cur (beamLoop mode xvs fuel iters cur) := by
  induction fuel generalizing iters cur with
  | zero => exact .done iters cur
  | succ fuel ih =>
    have r : ParallelFor τ (cur.flatMap BeamEntry.next).length := .sequential _
    rw [beamLoop]
    split
    case isTrue hlevelled =>
      rw [← parallelRound_eq mode xvs cur r] at hlevelled
      exact .exit fuel iters cur r hlevelled
    case isFalse hlevelled =>
      rw [← parallelRound_eq mode xvs cur r] at hlevelled ⊢
      exact .round fuel iters cur r hlevelled (ih _ _)

end Loop

/-- Whichever threads score the entries of each round, and in whatever order they load and store
them, the search has the result of the sequential one. -/
theorem parallelSolve_iff [Inhabited τ] (result : Option (List (BitVec 128))) :
    ParallelSolve τ xvs mode result ↔ result = solve xvs mode := by
  rw [solve]
  constructor
  · intro h
    cases h with
    | empty hxvs => rw [if_pos hxvs]
    | search hxvs hloop =>
      rw [if_neg hxvs, beam, ← hloop.eq]
  · rintro rfl
    split
    case isTrue hxvs => exact .empty hxvs
    case isFalse hxvs => exact .search hxvs (parallelLoop_beamLoop mode xvs 21 0 _)

end SeedCracking.Blocks
