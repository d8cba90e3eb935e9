import SeedCracking.Rounding.Binary
import SeedCracking.Xoroshiro.Generator

/-! The random draws of the world generator at a block position. -/

namespace SeedCracking.Blocks

open Rounding Xoroshiro

/-- The 64-bit number a block position is hashed to: the first product is a 32-bit one, the
second a 64-bit one. -/
def getSeed (x y z : Int) : BitVec 64 :=
  let seed := (BitVec.ofInt 32 x * 3129871#32).signExtend 64 ^^^ (BitVec.ofInt 64 z * 116129781#64) ^^^
    (BitVec.ofInt 32 y).signExtend 64
  (seed * seed * 42317861#64 + seed * 11#64).sshiftRight 16

def toFloat (out : BitVec 64) : ℚ :=
  float32 (float64 (float64 (out >>> 40).toNat * 2 ^ (-24 : ℤ)))

/-- Whether the draw after `ITER` steps is below `p`.  Only `(xv, 0)` is stepped here: the seed
has already been. -/
def get (ITER : Nat) (seedlo seedhi xv : BitVec 64) (p : ℚ) : Bool :=
  let s := State.next^[ITER] ⟨xv, 0⟩
  let out := (State.mk (seedlo ^^^ s.lo) (seedhi ^^^ s.hi)).output
  toFloat out < p

def draw (s : State) : ℚ := (s.output >>> 40).toNat / 2 ^ 24

theorem toFloat_output (s : State) : toFloat s.output = draw s := by
  have hlt : (s.output >>> 40).toNat < 2 ^ 24 := by
    rw [BitVec.toNat_ushiftRight, Nat.shiftRight_eq_div_pow]
    exact Nat.div_lt_of_lt_mul s.output.isLt
  have hlt' : (s.output >>> 40).toNat < 2 ^ 53 := Nat.lt_trans hlt (by decide)
  have hint : float64 ((s.output >>> 40).toNat : ℚ) = (s.output >>> 40).toNat := by
    have h := float64_of_lt hlt' 0
    rwa [zpow_zero, mul_one] at h
  rw [toFloat, hint, float64_of_lt hlt', float32_of_lt hlt, draw, zpow_neg, div_eq_mul_inv]
  norm_cast

theorem xor_zero_hi (L H xv : BitVec 64) :
    State.mk L H ^^^ State.mk xv 0 = State.mk (L ^^^ xv) H := by
  apply State.ext
  · rfl
  · exact BitVec.xor_zero

/-- A stepped seed tests a later draw of the generator that starts from the seed and `xv`. -/
theorem get_iterate (ITER : Nat) (L H xv : BitVec 64) (p : ℚ) :
    let s := State.next^[ITER] ⟨L, H⟩
    get ITER s.lo s.hi xv p = true ↔ draw (State.next^[ITER] ⟨L ^^^ xv, H⟩) < p := by
  intro s
  have hxor : State.mk (s.lo ^^^ (State.next^[ITER] ⟨xv, 0⟩).lo)
      (s.hi ^^^ (State.next^[ITER] ⟨xv, 0⟩).hi) = State.next^[ITER] ⟨L ^^^ xv, H⟩ := by
    rw [← xor_zero_hi L H xv, State.iterate_next_xor]
    rfl
  simp only [get, hxor, toFloat_output, decide_eq_true_eq]

/-- One constraint on the generator: the draw at `xv` was below `p`, or was not. -/
structure Observation where
  xv : BitVec 64
  p : ℚ
  ret : Bool
  deriving DecidableEq

end SeedCracking.Blocks
