import SeedCracking.StraightLine.Program
import Mathlib.Algebra.BigOperators.Ring.Finset
import Mathlib.Algebra.Field.ZMod

/-! Consequences of exclusive-or equations, decided by elimination over GF(2).
A linear form is a bitmask of planes. -/

universe v

open Finset

namespace SeedCracking.StraightLine

def parity (b : Bool) : ZMod 2 := if b then 1 else 0

theorem parity_xor (a b : Bool) : parity (a ^^ b) = parity a + parity b := by
  cases a <;> cases b <;> decide

theorem parity_injective : Function.Injective parity := by
  intro a b
  cases a <;> cases b <;> decide

variable {V : Type v} [Fintype V] (code : V → Nat)

/-- The value of a linear form: the parity of the planes whose bit is set. -/
def formValue (m : V → Bool) (f : Nat) : ZMod 2 :=
  ∑ v, if f.testBit (code v) then parity (m v) else 0

@[simp] theorem formValue_zero (m : V → Bool) : formValue code m 0 = 0 := by
  simp [formValue]

theorem formValue_xor (m : V → Bool) (f g : Nat) :
    formValue code m (f ^^^ g) = formValue code m f + formValue code m g := by
  rw [formValue, formValue, formValue, ← sum_add_distrib]
  refine sum_congr rfl fun v _ => ?_
  rw [Nat.testBit_xor]
  cases f.testBit (code v) <;> cases g.testBit (code v) <;> simp
  exact (CharTwo.add_self_eq_zero _).symm

theorem formValue_single {code : V → Nat} (hcode : Function.Injective code) (m : V → Bool)
    (v : V) : formValue code m (1 <<< code v) = parity (m v) := by
  classical
  rw [formValue, Nat.one_shiftLeft]
  calc
    (∑ w, if (2 ^ code v).testBit (code w) then parity (m w) else 0)
        = ∑ w, if v = w then parity (m w) else 0 := by
      refine sum_congr rfl fun w _ => ?_
      rw [Nat.testBit_two_pow]
      simp only [decide_eq_true_eq, hcode.eq_iff]
    _ = parity (m v) := by simp

/-- The form of an expression that is a chain of exclusive ors, when each plane stands for
the form `f` gives it. -/
def Expr.form (f : V → Nat) : Expr V → Option Nat
  | .var v => some (f v)
  | .xor a b => do return (← a.form f) ^^^ (← b.form f)
  | .and _ _ => none
  | .or _ _ => none

def Assign.form (f : V → Nat) (s : Assign V) : Option Nat :=
  (s.value.form f).map (f s.target ^^^ ·)

def Represents (code : V → Nat) (m : V → Bool) (f : V → Nat) : Prop :=
  ∀ v, formValue code m (f v) = parity (m v)

section Forms

variable {code : V → Nat} {m : V → Bool} {f : V → Nat}

theorem represents_single (hcode : Function.Injective code) (m : V → Bool) :
    Represents code m fun v => 1 <<< code v := formValue_single hcode m

theorem Expr.formValue_form (hf : Represents code m f) {e : Expr V} {g : Nat}
    (h : e.form f = some g) : formValue code m g = parity (e.eval m) := by
  induction e generalizing g with
  | var v =>
    cases h
    exact hf v
  | xor a b iha ihb =>
    simp only [Expr.form, Option.pure_def, Option.bind_eq_bind, Option.bind_eq_some_iff] at h
    obtain ⟨ga, ha, gb, hb, hg⟩ := h
    cases hg
    rw [formValue_xor, iha ha, ihb hb, ← parity_xor]
    rfl
  | and a b => cases h
  | or a b => cases h

theorem Assign.holds_iff (hf : Represents code m f) {s : Assign V} {g : Nat}
    (h : s.form f = some g) : s.Holds m ↔ formValue code m g = 0 := by
  obtain ⟨g, hg, rfl⟩ := Option.map_eq_some_iff.mp h
  rw [formValue_xor, hf, Expr.formValue_form hf hg, Assign.Holds, CharTwo.add_eq_zero,
    parity_injective.eq_iff]

def Assign.balanced (f : V → Nat) (s : Assign V) : Bool :=
  match s.form f with
  | some g => g == 0
  | none => false

omit [Fintype V] in
theorem Assign.form_of_balanced {s : Assign V} (h : s.balanced f = true) :
    s.form f = some 0 := by
  unfold Assign.balanced at h
  split at h
  case h_1 g hg => rw [hg, beq_iff_eq.mp h]
  case h_2 => cases h

theorem Assign.holds_of_balanced (hf : Represents code m f) {s : Assign V}
    (h : s.balanced f = true) : s.Holds m := by
  rw [Assign.holds_iff hf (Assign.form_of_balanced h), formValue_zero]

end Forms

def pivots (p : Program V) : List (Nat × Nat) :=
  p.filterMap fun s => (s.form fun v => 1 <<< code v).map fun g => (code s.target, g)

def eliminate : List (Nat × Nat) → Nat → Nat
  | [], g => g
  | (pivot, e) :: es, g => eliminate es (bif g.testBit pivot then g ^^^ e else g)

/-- The goal reduces to `0 = 0` by substitution. -/
def entails (es : List (Nat × Nat)) (goal : Assign V) : Bool :=
  match goal.form fun v => 1 <<< code v with
  | some g => eliminate es g == 0
  | none => false

theorem formValue_eliminate {m : V → Bool} {es : List (Nat × Nat)}
    (hes : ∀ e ∈ es, formValue code m e.2 = 0) (g : Nat) :
    formValue code m (eliminate es g) = formValue code m g := by
  induction es generalizing g with
  | nil => rfl
  | cons e es ih =>
    obtain ⟨pivot, e⟩ := e
    have he := hes (pivot, e) (by simp)
    rw [eliminate, ih fun e he => hes e (List.mem_cons_of_mem _ he)]
    cases g.testBit pivot with
    | true => rw [cond_true, formValue_xor, he, add_zero]
    | false => rw [cond_false]

theorem eliminate_eq_foldl (es : List (Nat × Nat)) (g : Nat) :
    eliminate es g = es.foldl (fun g e => g ^^^ (g >>> e.1 % 2) * e.2) g := by
  induction es generalizing g with
  | nil => rfl
  | cons e es ih =>
    obtain ⟨pivot, e⟩ := e
    rw [eliminate, ih, List.foldl_cons, Nat.shiftRight_eq_div_pow, ← Nat.toNat_testBit]
    congr 1
    cases g.testBit pivot with
    | true => rw [cond_true, Bool.toNat_true, Nat.one_mul]
    | false => rw [cond_false, Bool.toNat_false, Nat.zero_mul, Nat.xor_zero]

theorem pivots_zero {code : V → Nat} (hcode : Function.Injective code) {m : V → Bool}
    {p : Program V} (hp : ∀ s ∈ p, s.Holds m) :
    ∀ e ∈ pivots code p, formValue code m e.2 = 0 := by
  intro e he
  obtain ⟨s, hs, hse⟩ := List.mem_filterMap.mp he
  obtain ⟨g, hg, rfl⟩ := Option.map_eq_some_iff.mp hse
  exact (Assign.holds_iff (represents_single hcode m) hg).mp (hp s hs)

/-- Elimination is sound: an entailed equation holds wherever the program's equations do. -/
theorem entails_sound {code : V → Nat} (hcode : Function.Injective code) {m : V → Bool}
    {p : Program V} (hp : ∀ s ∈ p, s.Holds m) {goal : Assign V}
    (h : entails code (pivots code p) goal = true) : goal.Holds m := by
  unfold entails at h
  split at h
  case h_1 g hg =>
    rw [Assign.holds_iff (represents_single hcode m) hg,
      ← formValue_eliminate code (pivots_zero hcode hp), beq_iff_eq.mp h, formValue_zero]
  case h_2 => cases h

end SeedCracking.StraightLine
