import SeedCracking.Lists.Basic

/-! Quantifier-free formulas over bit-vectors and the interface of a solver for them. -/

universe u

namespace SeedCracking.Smt

variable {σ : Type u} {w : Nat}

inductive Term (σ : Type u) (w : Nat) : Type u
  | const : σ → Term σ w
  | val : BitVec w → Term σ w
  | xor : Term σ w → Term σ w → Term σ w
  | and : Term σ w → Term σ w → Term σ w
  | add : Term σ w → Term σ w → Term σ w
  | shl : Term σ w → Term σ w → Term σ w
  | rotateLeft : Term σ w → Nat → Term σ w

instance : XorOp (Term σ w) := ⟨.xor⟩
instance : AndOp (Term σ w) := ⟨.and⟩
instance : Add (Term σ w) := ⟨.add⟩

def Term.eval (I : σ → BitVec w) : Term σ w → BitVec w
  | .const v => I v
  | .val x => x
  | .xor s t => s.eval I ^^^ t.eval I
  | .and s t => s.eval I &&& t.eval I
  | .add s t => s.eval I + t.eval I
  | .shl s t => s.eval I <<< t.eval I
  | .rotateLeft s n => (s.eval I).rotateLeft n

def Term.Occurs (v : σ) : Term σ w → Prop
  | .const v' => v' = v
  | .val _ => False
  | .xor s t | .and s t | .add s t | .shl s t => s.Occurs v ∨ t.Occurs v
  | .rotateLeft s _ => s.Occurs v

section Term

variable (I : σ → BitVec w)

@[simp] theorem Term.eval_const (v : σ) : (Term.const v).eval I = I v := rfl
@[simp] theorem Term.eval_val (x : BitVec w) : (Term.val x : Term σ w).eval I = x := rfl
@[simp] theorem Term.eval_xor (s t : Term σ w) : (s ^^^ t).eval I = s.eval I ^^^ t.eval I := rfl
@[simp] theorem Term.eval_and (s t : Term σ w) : (s &&& t).eval I = s.eval I &&& t.eval I := rfl
@[simp] theorem Term.eval_add (s t : Term σ w) : (s + t).eval I = s.eval I + t.eval I := rfl
@[simp] theorem Term.eval_shl (s t : Term σ w) : (s.shl t).eval I = s.eval I <<< t.eval I := rfl
@[simp] theorem Term.eval_rotateLeft (s : Term σ w) (n : Nat) :
    (s.rotateLeft n).eval I = (s.eval I).rotateLeft n := rfl

variable (v : σ)

@[simp] theorem Term.occurs_const (v' : σ) : (Term.const v' : Term σ w).Occurs v ↔ v' = v := Iff.rfl
@[simp] theorem Term.occurs_val (x : BitVec w) : ¬ (Term.val x : Term σ w).Occurs v := id
@[simp] theorem Term.occurs_xor (s t : Term σ w) :
    (s ^^^ t).Occurs v ↔ s.Occurs v ∨ t.Occurs v := Iff.rfl
@[simp] theorem Term.occurs_and (s t : Term σ w) :
    (s &&& t).Occurs v ↔ s.Occurs v ∨ t.Occurs v := Iff.rfl
@[simp] theorem Term.occurs_add (s t : Term σ w) :
    (s + t).Occurs v ↔ s.Occurs v ∨ t.Occurs v := Iff.rfl
@[simp] theorem Term.occurs_shl (s t : Term σ w) :
    (s.shl t).Occurs v ↔ s.Occurs v ∨ t.Occurs v := Iff.rfl
@[simp] theorem Term.occurs_rotateLeft (s : Term σ w) (n : Nat) :
    (s.rotateLeft n).Occurs v ↔ s.Occurs v := Iff.rfl

end Term

inductive Formula (σ : Type u) (w : Nat) : Type u
  | bool : Bool → Formula σ w
  | eq : Term σ w → Term σ w → Formula σ w
  | and : Formula σ w → Formula σ w → Formula σ w
  | or : Formula σ w → Formula σ w → Formula σ w

def Formula.Holds (I : σ → BitVec w) : Formula σ w → Prop
  | .bool b => b = true
  | .eq s t => s.eval I = t.eval I
  | .and φ ψ => φ.Holds I ∧ ψ.Holds I
  | .or φ ψ => φ.Holds I ∨ ψ.Holds I

def Formula.Occurs (v : σ) : Formula σ w → Prop
  | .bool _ => False
  | .eq s t => s.Occurs v ∨ t.Occurs v
  | .and φ ψ | .or φ ψ => φ.Occurs v ∨ ψ.Occurs v

theorem Formula.holds_foldl_or {α : Type} (I : σ → BitVec w) (f : α → Formula σ w) (l : List α)
    (φ : Formula σ w) :
    (l.foldl (fun φ a => .or φ (f a)) φ).Holds I ↔ φ.Holds I ∨ ∃ a ∈ l, (f a).Holds I :=
  Lists.foldl_or (Formula.Holds I) (fun _ _ => Iff.rfl) l φ

theorem Formula.occurs_foldl_or {α : Type} (v : σ) (f : α → Formula σ w) (l : List α)
    (φ : Formula σ w) :
    (l.foldl (fun φ a => .or φ (f a)) φ).Occurs v ↔ φ.Occurs v ∨ ∃ a ∈ l, (f a).Occurs v :=
  Lists.foldl_or (Formula.Occurs v) (fun _ _ => Iff.rfl) l φ

inductive CheckResult
  | unsat
  | sat
  | unknown

/-- A solver: its verdict on a list of assertions, and after `sat` the numeral that its model
gives a constant, if it gives one. -/
structure Solver (σ : Type u) (w : Nat) where
  check : List (Formula σ w) → CheckResult
  eval : List (Formula σ w) → σ → Option (BitVec w)

def Solver.Sound (z : Solver σ w) : Prop :=
  ∀ φs, z.check φs = .unsat → ¬ ∃ I, ∀ φ ∈ φs, φ.Holds I

/-- No assertion is no constraint, and the model interprets only constants of the assertions. -/
structure Solver.Partial (z : Solver σ w) : Prop where
  check_nil : z.check [] = .sat
  occurs_of_numeral : ∀ φs v, z.check φs = .sat → (z.eval φs v).isSome = true →
    ∃ φ ∈ φs, φ.Occurs v

/-- The model of these assertions interprets all their constants.  Of assertions in general this
is not to be expected: a constant may be simplified away. -/
def Solver.Interprets (z : Solver σ w) (φs : List (Formula σ w)) : Prop :=
  z.check φs = .sat → ∀ v, (∃ φ ∈ φs, φ.Occurs v) → (z.eval φs v).isSome = true

/-- After `sat` some interpretation with the given numerals satisfies the assertions. -/
def Solver.Right (z : Solver σ w) : Prop :=
  ∀ φs, z.check φs = .sat →
    ∃ I, (∀ φ ∈ φs, φ.Holds I) ∧ ∀ v x, z.eval φs v = some x → I v = x

open Classical in
noncomputable def Solver.ideal : Solver σ w where
  check φs := if ∃ I, ∀ φ ∈ φs, φ.Holds I then .sat else .unsat
  eval φs v :=
    if h : (∃ I, ∀ φ ∈ φs, φ.Holds I) ∧ ∃ φ ∈ φs, φ.Occurs v then some (h.1.choose v) else none

theorem Solver.ideal_check_sat {φs : List (Formula σ w)} :
    Solver.ideal.check φs = .sat ↔ ∃ I, ∀ φ ∈ φs, φ.Holds I := by
  simp only [Solver.ideal]
  split <;> simp_all

theorem Solver.ideal_sound : (Solver.ideal : Solver σ w).Sound := by
  intro φs hcheck hsat
  rw [← Solver.ideal_check_sat, hcheck] at hsat
  cases hsat

theorem Solver.ideal_right : (Solver.ideal : Solver σ w).Right := by
  intro φs hcheck
  have hsat := Solver.ideal_check_sat.mp hcheck
  refine ⟨hsat.choose, hsat.choose_spec, fun v x heval => ?_⟩
  simp only [Solver.ideal] at heval
  split at heval
  case isTrue => exact Option.some.inj heval
  case isFalse => cases heval

theorem Solver.ideal_partial : (Solver.ideal : Solver σ w).Partial where
  check_nil := Solver.ideal_check_sat.mpr ⟨fun _ => 0, fun _ h => absurd h List.not_mem_nil⟩
  occurs_of_numeral := by
    intro φs v _ hsome
    simp only [Solver.ideal] at hsome
    split at hsome
    case isTrue h => exact h.2
    case isFalse => cases hsome

theorem Solver.ideal_interprets (φs : List (Formula σ w)) :
    (Solver.ideal : Solver σ w).Interprets φs := by
  intro hcheck v hoccurs
  simp [Solver.ideal, Solver.ideal_check_sat.mp hcheck, hoccurs]

end SeedCracking.Smt
