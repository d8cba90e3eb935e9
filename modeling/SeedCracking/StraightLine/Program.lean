import Mathlib.Algebra.Ring.BooleanRing
import Mathlib.Logic.Function.Basic
import Mathlib.Data.Nat.Bitwise

/-! Straight-line programs of bitwise assignments.  The same program text runs on
single bits and on vectors of bits; a `Lane` is a projection of the second onto
the first. -/

universe u v

namespace SeedCracking.StraightLine

/-- The bitwise operations a plane of bits offers, whatever its width. -/
class BitPlane (α : Type u) extends XorOp α, AndOp α, OrOp α, Complement α, Zero α

instance : BitPlane Bool where
  xor := Bool.xor
  and := and
  or := or
  complement := not
  zero := false

@[simp] theorem bool_xor (a b : Bool) : a ^^^ b = (a ^^ b) := rfl
@[simp] theorem bool_and (a b : Bool) : a &&& b = (a && b) := rfl
@[simp] theorem bool_or (a b : Bool) : a ||| b = (a || b) := rfl
@[simp] theorem bool_compl (a : Bool) : ~~~a = !a := rfl
@[simp] theorem bool_zero : (0 : Bool) = false := rfl

structure Lane (α : Type u) [BitPlane α] where
  bit : α → Bool
  bit_xor : ∀ a b, bit (a ^^^ b) = (bit a ^^ bit b)
  bit_and : ∀ a b, bit (a &&& b) = (bit a && bit b)
  bit_or : ∀ a b, bit (a ||| b) = (bit a || bit b)
  bit_compl : ∀ a, bit (~~~a) = !bit a
  bit_zero : bit 0 = false

attribute [simp] Lane.bit_xor Lane.bit_and Lane.bit_or Lane.bit_compl Lane.bit_zero

inductive Expr (V : Type v) : Type v
  | var : V → Expr V
  | xor : Expr V → Expr V → Expr V
  | and : Expr V → Expr V → Expr V
  | or : Expr V → Expr V → Expr V
  deriving DecidableEq

instance : Coe V (Expr V) := ⟨.var⟩
instance : XorOp (Expr V) := ⟨.xor⟩
instance : AndOp (Expr V) := ⟨.and⟩
instance : OrOp (Expr V) := ⟨.or⟩

section Expr

variable {V : Type v} {α : Type u} [BitPlane α]

def Expr.eval (m : V → α) : Expr V → α
  | .var v => m v
  | .xor a b => a.eval m ^^^ b.eval m
  | .and a b => a.eval m &&& b.eval m
  | .or a b => a.eval m ||| b.eval m

def Expr.vars : Expr V → List V
  | .var v => [v]
  | .xor a b => a.vars ++ b.vars
  | .and a b => a.vars ++ b.vars
  | .or a b => a.vars ++ b.vars

@[simp] theorem Expr.eval_var (m : V → α) (v : V) : (Expr.var v).eval m = m v := rfl

@[simp] theorem Expr.eval_xor (m : V → α) (a b : Expr V) :
    (a ^^^ b).eval m = a.eval m ^^^ b.eval m := rfl

@[simp] theorem Expr.eval_and (m : V → α) (a b : Expr V) :
    (a &&& b).eval m = a.eval m &&& b.eval m := rfl

@[simp] theorem Expr.eval_or (m : V → α) (a b : Expr V) :
    (a ||| b).eval m = a.eval m ||| b.eval m := rfl

theorem Expr.eval_congr (e : Expr V) {m n : V → α} (h : ∀ v ∈ e.vars, m v = n v) :
    e.eval m = e.eval n := by
  induction e with
  | var v => exact h v (by simp [Expr.vars])
  | xor a b iha ihb | and a b iha ihb | or a b iha ihb =>
    simp only [Expr.vars, List.mem_append] at h
    simp only [Expr.eval]
    rw [iha fun v hv => h v (.inl hv), ihb fun v hv => h v (.inr hv)]

theorem Expr.eval_lane (e : Expr V) (ℓ : Lane α) (m : V → α) :
    ℓ.bit (e.eval m) = e.eval fun v => ℓ.bit (m v) := by
  induction e with
  | var v => rfl
  | xor a b iha ihb => simp [Expr.eval, iha, ihb]
  | and a b iha ihb => simp [Expr.eval, iha, ihb]
  | or a b iha ihb => simp [Expr.eval, iha, ihb]

end Expr

structure Assign (V : Type v) where
  target : V
  value : Expr V
  deriving DecidableEq

abbrev Program (V : Type v) := List (Assign V)

section Exec

variable {V : Type v} {α : Type u} [DecidableEq V] [BitPlane α]

def Assign.exec (s : Assign V) (m : V → α) : V → α :=
  Function.update m s.target (s.value.eval m)

def exec (m : V → α) : Program V → V → α
  | [] => m
  | s :: p => exec (s.exec m) p

theorem Assign.exec_lane (s : Assign V) (ℓ : Lane α) (m : V → α) :
    (fun v => ℓ.bit (s.exec m v)) = s.exec fun v => ℓ.bit (m v) := by
  funext v
  by_cases h : v = s.target
  · subst h
    simp [Assign.exec, Expr.eval_lane]
  · simp [Assign.exec, Function.update_of_ne h]

/-- A lane of a run is the run of that lane. -/
theorem exec_lane (p : Program V) (ℓ : Lane α) (m : V → α) (v : V) :
    ℓ.bit (exec m p v) = exec (fun w => ℓ.bit (m w)) p v := by
  induction p generalizing m with
  | nil => rfl
  | cons s p ih => rw [exec, ih, exec, s.exec_lane]

end Exec

def Assign.Holds {V : Type v} {α : Type u} [BitPlane α] (s : Assign V) (m : V → α) : Prop :=
  m s.target = s.value.eval m

section Schedule

variable {V : Type v} {α : Type u} [DecidableEq V] [BitPlane α]

/-- Every plane is assigned once, and only planes that are already known are read.
The known planes are the set bits of a number, so that the check computes. -/
def scheduled (code : V → Nat) : Nat → Program V → Bool
  | _, [] => true
  | known, s :: p =>
    s.value.vars.all (fun v => known.testBit (code v)) && !known.testBit (code s.target) &&
      scheduled code (known ||| 1 <<< code s.target) p

theorem testBit_insert (known i j : Nat) :
    (known ||| 1 <<< i).testBit j = true ↔ j = i ∨ known.testBit j = true := by
  rw [Nat.testBit_or, Nat.one_shiftLeft, Nat.testBit_two_pow]
  simp only [Bool.or_eq_true, decide_eq_true_eq]
  constructor
  · rintro (h | h)
    · exact .inr h
    · exact .inl h.symm
  · rintro (h | h)
    · exact .inr h.symm
    · exact .inl h

omit [DecidableEq V] in
theorem scheduled_cons {code : V → Nat} {known : Nat} {s : Assign V} {p : Program V}
    (h : scheduled code known (s :: p) = true) :
    (∀ v ∈ s.value.vars, known.testBit (code v) = true) ∧
      known.testBit (code s.target) = false ∧
      scheduled code (known ||| 1 <<< code s.target) p = true := by
  simp only [scheduled, Bool.and_eq_true, List.all_eq_true, Bool.not_eq_true'] at h
  exact ⟨h.1.1, h.1.2, h.2⟩

def Agree (code : V → Nat) (known : Nat) (m n : V → α) : Prop :=
  ∀ v, known.testBit (code v) = true → m v = n v

theorem exec_step_agree {code : V → Nat} {known : Nat} {s : Assign V} {m n : V → α}
    (hcode : Function.Injective code)
    (hreads : ∀ v ∈ s.value.vars, known.testBit (code v) = true)
    (hs : s.Holds n) (h : Agree code known m n) :
    Agree code (known ||| 1 <<< code s.target) (s.exec m) n := by
  intro v hv
  by_cases hvt : v = s.target
  · subst hvt
    rw [Assign.exec, Function.update_self, hs]
    exact s.value.eval_congr fun w hw => h w (hreads w hw)
  · rw [Assign.exec, Function.update_of_ne hvt]
    rcases (testBit_insert _ _ _).mp hv with heq | hk
    · exact absurd (hcode heq) hvt
    · exact h v hk

def knownAfter (code : V → Nat) (known : Nat) : Program V → Nat
  | [] => known
  | s :: p => knownAfter code (known ||| 1 <<< code s.target) p

/-- A solution of all the equations that agrees with the inputs is what the run computes. -/
theorem exec_agree {code : V → Nat} (hcode : Function.Injective code) {known : Nat}
    {p : Program V} (hp : scheduled code known p = true) {m n : V → α}
    (hn : ∀ s ∈ p, s.Holds n) (h : Agree code known m n) :
    Agree code (knownAfter code known p) (exec m p) n := by
  induction p generalizing known m with
  | nil => exact h
  | cons s p ih =>
    obtain ⟨hreads, -, hrest⟩ := scheduled_cons hp
    have hs := exec_step_agree hcode hreads (hn s (by simp)) h
    exact ih hrest (fun t ht => hn t (List.mem_cons_of_mem s ht)) hs

theorem exec_known {code : V → Nat} {known : Nat} {p : Program V}
    (hp : scheduled code known p = true) (m : V → α) :
    Agree code known (exec m p) m := by
  induction p generalizing known m with
  | nil => exact fun _ _ => rfl
  | cons s p ih =>
    obtain ⟨-, hfresh, hrest⟩ := scheduled_cons hp
    intro v hv
    rw [exec, ih hrest _ v ((testBit_insert _ _ _).mpr (.inr hv)), Assign.exec,
      Function.update_of_ne]
    rintro rfl
    rw [hv] at hfresh
    cases hfresh

theorem exec_holds {code : V → Nat} {known : Nat} {p : Program V}
    (hp : scheduled code known p = true) (m : V → α) :
    ∀ s ∈ p, s.Holds (exec m p) := by
  induction p generalizing known m with
  | nil => simp
  | cons s p ih =>
    obtain ⟨hreads, hfresh, hrest⟩ := scheduled_cons hp
    intro t ht
    rcases List.mem_cons.mp ht with rfl | ht
    · have hkeep := exec_known hrest (t.exec m)
      have htarget := hkeep t.target ((testBit_insert _ _ _).mpr (.inl rfl))
      rw [Assign.Holds, exec, htarget, Assign.exec, Function.update_self]
      apply t.value.eval_congr
      intro v hv
      rw [← Assign.exec, hkeep v ((testBit_insert _ _ _).mpr (.inr (hreads v hv))), Assign.exec,
        Function.update_of_ne]
      rintro rfl
      rw [hreads _ hv] at hfresh
      cases hfresh
    · exact ih hrest _ t ht

end Schedule

end SeedCracking.StraightLine
