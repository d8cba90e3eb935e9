import SeedCracking.Blocks.Constraints
import SeedCracking.Blocks.Observations
import SeedCracking.Kernel.BruteKernel

/-! One run of `bedrockseed$crack`. -/

namespace SeedCracking.Blocks

open Kernel Smt Xoroshiro

inductive Stop
  | assertion
  | exception

abbrev Run := ExceptT Stop (StateM (List Update))

def sendUpdate (update : String) (onlyLog : Bool) (args : List (BitVec 64)) : Run Unit :=
  modifyGet fun log => ((), log ++ [⟨update, onlyLog, args⟩])

def asserted {α : Type} : Option α → Run α
  | some a => pure a
  | none => throw .assertion

def getNumeral : Option (BitVec 64) → Run (BitVec 64)
  | some x => pure x
  | none => throw .exception

inductive Result
  | failed
  | searched (updates : Option (Multiset Update))

def crackState (cpu : Cpu) (z3 : Solver Unknown 64) (assertions : List (Formula Unknown 64)) :
    Run Result := do
  match z3.check assertions with
  | .unknown =>
    sendUpdate "commands.bedrockcrack.Z3Failed" false []
    return .failed
  | .unsat =>
    sendUpdate "commands.bedrockcrack.Z3Unsat" false []
    return .failed
  | .sat =>
    let i0 ← getNumeral (z3.eval assertions .I0)
    let i1 ← getNumeral (z3.eval assertions .I1)
    sendUpdate "commands.bedrockcrack.crackedRandomStateRandom" false [i0, i1]
    return .searched (crackFP cpu i0 i1)

def bedrockseedCrack (cpu : Cpu) (z3 : Solver Unknown 64) (entries : List BlockEntry)
    (mode : Nat) : Run Result := do
  asserted (if 1 ≤ mode ∧ mode ≤ 31 then some () else none)
  let xvs := observations entries mode
  let sol1 ← asserted (solve (xvs 0) 1)
  sendUpdate "commands.bedrockcrack.completedBitSearch1" false []
  let sol2 ← asserted (solve (xvs 1) 2)
  sendUpdate "commands.bedrockcrack.completedBitSearch2" false []
  let sol3 ← asserted (solve (xvs 2) 3)
  sendUpdate "commands.bedrockcrack.completedBitSearch3" false []
  let sol4 ← asserted (solve (xvs 3) 4)
  sendUpdate "commands.bedrockcrack.completedBitSearch4" false []
  let sol5 ← asserted (solve (xvs 4) 5)
  sendUpdate "commands.bedrockcrack.completedBitSearch5" false []
  let assertions := clauses ![sol1, sol2, sol3, sol4, sol5]
  sendUpdate "commands.bedrockcrack.startingZ3Search" false []
  crackState cpu z3 assertions

def Run.outcome {α : Type} (log : List Update) (x : Run α) : Except Stop α × List Update :=
  x.run.run log

section Outcome

variable {α β : Type} (log : List Update)

@[simp] theorem Run.outcome_asserted (a : α) :
    Run.outcome log (asserted (some a)) = (.ok a, log) := rfl

theorem Run.outcome_bind (x : Run α) (f : α → Run β) :
    Run.outcome log (x >>= f) =
      match Run.outcome log x with
      | (.ok a, log') => Run.outcome log' (f a)
      | (.error stop, log') => (.error stop, log') := by
  rw [Run.outcome, ExceptT.run_bind, StateT.run_bind]
  rw [Run.outcome]
  rcases x.run.run log with ⟨_ | a, log'⟩ <;> rfl

@[simp] theorem Run.outcome_sendUpdate (update : String) (onlyLog : Bool)
    (args : List (BitVec 64)) :
    Run.outcome log (sendUpdate update onlyLog args) = (.ok (), log ++ [⟨update, onlyLog, args⟩]) :=
  rfl

end Outcome

/-- A run throws, which nothing on the native side catches. -/
def Throws (cpu : Cpu) (z3 : Solver Unknown 64) (entries : List BlockEntry) (mode : Nat) : Prop :=
  (Run.outcome [] (bedrockseedCrack cpu z3 entries mode)).1 = .error .exception

def solved (xvs : List Observation) (mode : Nat) : List (BitVec 128) := (solve xvs mode).getD []

theorem solve_eq_solved (xvs : List Observation) (mode : Nat) :
    solve xvs mode = some (solved xvs mode) := by
  by_cases h : xvs = []
  · subst h
    rfl
  · rw [solved, solve_eq h]
    rfl

theorem solved_eq {xvs : List Observation} (h : xvs ≠ []) (mode : Nat) :
    solved xvs mode = push (km0 (beam mode xvs).1) (km1 (beam mode xvs).1) ::
      (beam mode xvs).2.map fun e => push (c0 (beam mode xvs).1 e) (c1 (beam mode xvs).1 e) := by
  rw [solved, solve_eq h]
  rfl

def solutions (entries : List BlockEntry) (mode : Nat) (k : Fin 5) : List (BitVec 128) :=
  solved (observations entries mode k) (k + 1)

def searchUpdates : List Update :=
  ["commands.bedrockcrack.completedBitSearch1", "commands.bedrockcrack.completedBitSearch2",
    "commands.bedrockcrack.completedBitSearch3", "commands.bedrockcrack.completedBitSearch4",
    "commands.bedrockcrack.completedBitSearch5", "commands.bedrockcrack.startingZ3Search"].map
    fun update => ⟨update, false, []⟩

section Run

variable (cpu : Cpu) (z3 : Solver Unknown 64) (entries : List BlockEntry) {mode : Nat}
  (log : List Update)

theorem bedrockseedCrack_eq (h1 : 1 ≤ mode) (h31 : mode ≤ 31) :
    Run.outcome log (bedrockseedCrack cpu z3 entries mode) =
      Run.outcome (log ++ searchUpdates) (crackState cpu z3 (clauses (solutions entries mode))) := by
  have hsol : ![solved (observations entries mode 0) 1, solved (observations entries mode 1) 2,
      solved (observations entries mode 2) 3, solved (observations entries mode 3) 4,
      solved (observations entries mode 4) 5] = solutions entries mode := by
    funext k
    match k with
    | 0 | 1 | 2 | 3 | 4 => rfl
  rw [bedrockseedCrack, if_pos ⟨h1, h31⟩]
  simp only [solve_eq_solved, Run.outcome_bind, Run.outcome_asserted, Run.outcome_sendUpdate, hsol,
    List.append_assoc]
  rfl

variable (assertions : List (Formula Unknown 64))

theorem crackState_cases :
    (z3.check assertions = .unknown ∧ Run.outcome log (crackState cpu z3 assertions) =
      (.ok .failed, log ++ [⟨"commands.bedrockcrack.Z3Failed", false, []⟩])) ∨
    (z3.check assertions = .unsat ∧ Run.outcome log (crackState cpu z3 assertions) =
      (.ok .failed, log ++ [⟨"commands.bedrockcrack.Z3Unsat", false, []⟩])) ∨
    (z3.check assertions = .sat ∧ ∃ i0 i1, z3.eval assertions .I0 = some i0 ∧
      z3.eval assertions .I1 = some i1 ∧ Run.outcome log (crackState cpu z3 assertions) =
        (.ok (.searched (crackFP cpu i0 i1)),
          log ++ [⟨"commands.bedrockcrack.crackedRandomStateRandom", false, [i0, i1]⟩])) ∨
    (z3.check assertions = .sat ∧ (∃ v, z3.eval assertions v = none) ∧
      Run.outcome log (crackState cpu z3 assertions) = (.error .exception, log)) := by
  rw [crackState]
  cases z3.check assertions with
  | unknown => exact Or.inl ⟨rfl, rfl⟩
  | unsat => exact Or.inr (Or.inl ⟨rfl, rfl⟩)
  | sat =>
    cases h0 : z3.eval assertions .I0 with
    | none => exact Or.inr (Or.inr (Or.inr ⟨rfl, ⟨.I0, h0⟩, rfl⟩))
    | some i0 =>
      cases h1 : z3.eval assertions .I1 with
      | none => exact Or.inr (Or.inr (Or.inr ⟨rfl, ⟨.I1, h1⟩, rfl⟩))
      | some i1 => exact Or.inr (Or.inr (Or.inl ⟨rfl, i0, i1, rfl, rfl, rfl⟩))

end Run

end SeedCracking.Blocks
