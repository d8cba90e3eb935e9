import SeedCracking.StraightLine.Program
import Mathlib.Data.List.FinRange

/-! Bit-serial addition of arrays of planes, and its agreement in every lane with the
addition of the words the lane holds. -/

universe u

namespace SeedCracking.StraightLine

variable {α : Type u} [BitPlane α] {w : Nat}

def addStep (x y carry : α) : α × α :=
  (x ^^^ y ^^^ carry, (x &&& y) ||| (x &&& carry) ||| (y &&& carry))

def carryInto (x y : Fin w → α) : Nat → α
  | 0 => 0
  | i + 1 => if h : i < w then (addStep (x ⟨i, h⟩) (y ⟨i, h⟩) (carryInto x y i)).2 else 0

def addPlanes (x y : Fin w → α) (i : Fin w) : α :=
  (addStep (x i) (y i) (carryInto x y i)).1

theorem carryInto_lane (ℓ : Lane α) (x y : Fin w → α) (i : Nat) :
    ℓ.bit (carryInto x y i) = carryInto (fun j => ℓ.bit (x j)) (fun j => ℓ.bit (y j)) i := by
  induction i with
  | zero => exact ℓ.bit_zero
  | succ i ih =>
    by_cases h : i < w
    · simp [carryInto, h, addStep, ih]
    · simp [carryInto, h]

theorem addPlanes_lane (ℓ : Lane α) (x y : Fin w → α) (i : Fin w) :
    ℓ.bit (addPlanes x y i) = addPlanes (fun j => ℓ.bit (x j)) (fun j => ℓ.bit (y j)) i := by
  simp [addPlanes, addStep, carryInto_lane]

theorem carryInto_word (x y : BitVec w) {i : Nat} (h : i ≤ w) :
    carryInto (fun j : Fin w => x.getLsbD j) (fun j : Fin w => y.getLsbD j) i =
      BitVec.carry i x y false := by
  induction i with
  | zero => exact BitVec.carry_zero.symm
  | succ i ih =>
    rw [BitVec.carry_succ, carryInto, dif_pos (show i < w by omega), ih (by omega)]
    rfl

theorem addPlanes_word (x y : BitVec w) (i : Fin w) :
    addPlanes (fun j : Fin w => x.getLsbD j) (fun j : Fin w => y.getLsbD j) i =
      (x + y).getLsbD i := by
  rw [addPlanes, carryInto_word x y i.isLt.le, BitVec.getLsbD_add i.isLt, ← Bool.xor_assoc]
  rfl

section Loop

variable (x y : Fin w → α)

def addRound (s : (Fin w → α) × α) (i : Fin w) : (Fin w → α) × α :=
  let step := addStep (x i) (y i) s.2
  (Function.update s.1 i step.1, step.2)

def addLoop (sum : Fin w → α) : Fin w → α := ((List.finRange w).foldl (addRound x y) (sum, 0)).1

structure AddedTo (n : Nat) (s : (Fin w → α) × α) : Prop where
  sum : ∀ i : Fin w, i < n → s.1 i = addPlanes x y i
  carry : s.2 = carryInto x y n

variable {x y}

theorem AddedTo.round {s : (Fin w → α) × α} {i : Fin w} (h : AddedTo x y i s) :
    AddedTo x y (i + 1) (addRound x y s i) where
  sum j hj := by
    change Function.update s.1 i (addStep (x i) (y i) s.2).1 j = addPlanes x y j
    by_cases hji : j = i
    · subst hji
      rw [Function.update_self, h.carry, addPlanes]
    · rw [Function.update_of_ne hji]
      exact h.sum j (by omega)
  carry := by
    rw [carryInto, dif_pos i.isLt, addRound, h.carry]

theorem addedTo_take (sum : Fin w → α) {n : Nat} (hn : n ≤ w) :
    AddedTo x y n (((List.finRange w).take n).foldl (addRound x y) (sum, 0)) := by
  induction n with
  | zero => exact ⟨nofun, rfl⟩
  | succ n ih =>
    have hlt : n < w := hn
    rw [List.take_add_one, List.foldl_append, List.getElem?_eq_getElem (by simpa using hlt),
      List.getElem_finRange]
    exact (ih hlt.le).round (i := ⟨n, hlt⟩)

theorem addLoop_eq (sum : Fin w → α) : addLoop x y sum = addPlanes x y := by
  have h := addedTo_take (x := x) (y := y) sum (Nat.le_refl w)
  rw [List.take_of_length_le (by simp)] at h
  funext i
  exact h.sum i i.isLt

end Loop

end SeedCracking.StraightLine
