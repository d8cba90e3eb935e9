import SeedCracking.StraightLine.Program
import SeedCracking.Words.Basic
import Mathlib.Data.List.FinRange

/-! Vectors of 64-bit words as planes.  A vector of `n` words has `64 * n` lanes: lane `j`
is bit `j % 64` of word `j / 64`. -/

namespace SeedCracking.StraightLine

@[ext] structure Simd (n : Nat) where
  word : Fin n → BitVec 64

namespace Simd

variable {n : Nat}

instance : BitPlane (Simd n) where
  xor a b := ⟨fun k => a.word k ^^^ b.word k⟩
  and a b := ⟨fun k => a.word k &&& b.word k⟩
  or a b := ⟨fun k => a.word k ||| b.word k⟩
  complement a := ⟨fun k => ~~~a.word k⟩
  zero := ⟨fun _ => 0⟩

@[simp] theorem word_xor (a b : Simd n) (k : Fin n) : (a ^^^ b).word k = a.word k ^^^ b.word k := rfl
@[simp] theorem word_and (a b : Simd n) (k : Fin n) : (a &&& b).word k = a.word k &&& b.word k := rfl
@[simp] theorem word_or (a b : Simd n) (k : Fin n) : (a ||| b).word k = a.word k ||| b.word k := rfl
@[simp] theorem word_compl (a : Simd n) (k : Fin n) : (~~~a).word k = ~~~a.word k := rfl
@[simp] theorem word_zero (k : Fin n) : (0 : Simd n).word k = 0 := rfl

def broadcast (x : BitVec 64) : Simd n := ⟨fun _ => x⟩

/-- Indexed access; a vector has no word outside its size. -/
def get (a : Simd n) (k : Nat) : BitVec 64 := if h : k < n then a.word ⟨k, h⟩ else 0

def reduceOr (a : Simd n) : BitVec 64 := (List.finRange n).foldl (fun r k => r ||| a.word k) 0

theorem lane_word_lt (j : Fin (64 * n)) : j.val / 64 < n :=
  Nat.div_lt_of_lt_mul j.isLt

def bit (j : Fin (64 * n)) (a : Simd n) : Bool := (a.word ⟨j / 64, lane_word_lt j⟩).getLsbD (j % 64)

theorem bit_eq_get (j : Fin (64 * n)) (a : Simd n) : a.bit j = (a.get (j / 64)).getLsbD (j % 64) := by
  rw [bit, get, dif_pos (lane_word_lt j)]

def lane (j : Fin (64 * n)) : Lane (Simd n) where
  bit := bit j
  bit_xor a b := by simp [bit]
  bit_and a b := by simp [bit]
  bit_or a b := by simp [bit]
  bit_compl a := by simp [bit, Nat.mod_lt]
  bit_zero := by simp [bit]

@[simp] theorem lane_bit (j : Fin (64 * n)) (a : Simd n) : (lane j).bit a = a.bit j := rfl

theorem foldl_or_bit (l : List (Fin n)) (a : Simd n) (r : BitVec 64) (b : Nat) :
    (l.foldl (fun r k => r ||| a.word k) r).getLsbD b =
      (r.getLsbD b || l.any fun k => (a.word k).getLsbD b) := by
  induction l generalizing r with
  | nil => simp
  | cons k l ih => rw [List.foldl_cons, ih, BitVec.getLsbD_or, List.any_cons, Bool.or_assoc]

theorem reduceOr_eq_zero_iff (a : Simd n) : a.reduceOr = 0 ↔ ∀ j, a.bit j = false := by
  constructor
  · intro h j
    have hb := congrArg (fun x : BitVec 64 => x.getLsbD (j % 64)) h
    simp only [reduceOr, foldl_or_bit, BitVec.ofNat_eq_ofNat, BitVec.getLsbD_zero, Bool.false_or,
      List.any_eq_false] at hb
    exact Bool.eq_false_iff.mpr (hb ⟨j / 64, lane_word_lt j⟩ (List.mem_finRange _))
  · intro h
    apply Words.eq_of_forall_bit
    intro b
    simp only [reduceOr, foldl_or_bit, BitVec.ofNat_eq_ofNat, BitVec.getLsbD_zero, Bool.false_or,
      List.any_eq_false]
    intro k _
    have hk := k.isLt
    have hj := h ⟨64 * k + b, by omega⟩
    have hdiv : (64 * k.val + b.val) / 64 = k.val := by omega
    have hmod : (64 * k.val + b.val) % 64 = b.val := by omega
    simp only [bit, hdiv, hmod] at hj
    rw [hj]
    decide

end Simd

end SeedCracking.StraightLine
