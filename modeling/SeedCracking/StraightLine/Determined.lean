import SeedCracking.StraightLine.Linear

/-! Which planes of a solution of a program's equations are determined by others.  A plane
becomes known from an assignment when all planes that it reads are, or, where the assignment is
a chain of exclusive ors, when it is the only one of its planes that is not. -/

universe v

open Finset

namespace SeedCracking.StraightLine

variable {V : Type v} (code : V → Nat)

def determines (known : Nat) (s : Assign V) : Option Nat :=
  if s.value.vars.all fun v => known.testBit (code v) then some (code s.target)
  else match s.form fun v => 1 <<< code v with
    | some g =>
      let rest := g ^^^ (g &&& known)
      if rest = 1 <<< rest.log2 then some rest.log2 else none
    | none => none

def pass : Program V → Nat → Nat
  | [], known => known
  | s :: p, known =>
    match determines code known s with
    | some i => pass p (known ||| 1 <<< i)
    | none => pass p known

def closure (p : Program V) : (passes known : Nat) → Nat
  | 0, known => known
  | passes + 1, known => closure p passes (pass code p known)

variable {code} [Fintype V] {m n : V → Bool} {known : Nat}

theorem formValue_congr {f : Nat} (h : Agree code f m n) :
    formValue code m f = formValue code n f := by
  refine sum_congr rfl fun v _ => ?_
  cases hv : f.testBit (code v) with
  | true => rw [h v hv]
  | false => rfl

omit [Fintype V] in
theorem Agree.and_right (h : Agree code known m n) (g : Nat) : Agree code (g &&& known) m n := by
  intro v hv
  rw [Nat.testBit_and, Bool.and_eq_true] at hv
  exact h v hv.2

omit [Fintype V] in
theorem Agree.insert (h : Agree code known m n) {i : Nat} (hi : ∀ v, code v = i → m v = n v) :
    Agree code (known ||| 1 <<< i) m n := by
  intro v hv
  rcases (testBit_insert _ _ _).mp hv with hvi | hv
  · exact hi v hvi
  · exact h v hv

section Sound

variable (hcode : Function.Injective code)
include hcode

theorem determines_agree {s : Assign V} (hm : s.Holds m) (hn : s.Holds n)
    (h : Agree code known m n) {i : Nat} (hi : determines code known s = some i) :
    Agree code (known ||| 1 <<< i) m n := by
  rw [determines] at hi
  split at hi
  case isTrue hreads =>
    cases hi
    refine h.insert fun v hv => ?_
    obtain rfl := hcode hv
    rw [List.all_eq_true] at hreads
    rw [hm, hn]
    exact s.value.eval_congr fun w hw => h w (hreads w hw)
  case isFalse =>
    split at hi
    case h_1 g hg =>
      have hzero := (Assign.holds_iff (represents_single hcode m) hg).mp hm
      have hzero' := (Assign.holds_iff (represents_single hcode n) hg).mp hn
      have hvalue : formValue code m (g ^^^ (g &&& known)) =
          formValue code n (g ^^^ (g &&& known)) := by
        rw [formValue_xor, formValue_xor, hzero, hzero', formValue_congr (h.and_right g)]
      generalize g ^^^ (g &&& known) = rest at *
      simp only at hi
      split at hi
      case isTrue hrest =>
        cases hi
        refine h.insert fun v hv => ?_
        rw [hrest, ← hv, formValue_single hcode, formValue_single hcode] at hvalue
        exact parity_injective hvalue
      case isFalse => cases hi
    case h_2 => cases hi

theorem pass_agree {p : Program V} (hm : ∀ s ∈ p, s.Holds m) (hn : ∀ s ∈ p, s.Holds n)
    (h : Agree code known m n) : Agree code (pass code p known) m n := by
  induction p generalizing known with
  | nil => exact h
  | cons s p ih =>
    have hrest : ∀ {known}, Agree code known m n → Agree code (pass code p known) m n :=
      ih (fun t ht => hm t (List.mem_cons_of_mem s ht)) fun t ht => hn t (List.mem_cons_of_mem s ht)
    rw [pass]
    split
    case h_1 i hi =>
      exact hrest (determines_agree hcode (hm s List.mem_cons_self) (hn s List.mem_cons_self) h hi)
    case h_2 => exact hrest h

theorem closure_agree {p : Program V} (hm : ∀ s ∈ p, s.Holds m) (hn : ∀ s ∈ p, s.Holds n)
    (passes : Nat) (h : Agree code known m n) : Agree code (closure code p passes known) m n := by
  induction passes generalizing known with
  | zero => exact h
  | succ passes ih => exact ih (pass_agree hcode hm hn h)

end Sound

end SeedCracking.StraightLine
