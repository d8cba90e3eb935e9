import Mathlib.Algebra.Group.Int.Defs
import Mathlib.Algebra.Group.Nat.Defs
import Mathlib.Data.List.Range

/-! 32-bit signed integers: their sums, and the loop `for (int j = 0; j < bound; ++j)`.  Stepping
the counter past its largest value is undefined, and the loop then has no result. -/

universe u

namespace SeedCracking.Words

/-- What a sum of `int`s comes to, wrapped around as compiled code does it. -/
def int32 (n : Int) : Int := n.bmod (2 ^ 32)

theorem int32_range (n : Int) : -2 ^ 31 ≤ int32 n ∧ int32 n < 2 ^ 31 := by
  rw [int32, Int.bmod_def]
  omega

theorem int32_of_range {n : Int} (hlo : -2 ^ 31 ≤ n) (hhi : n < 2 ^ 31) : int32 n = n := by
  rw [int32, Int.bmod_def]
  omega

variable {β : Type u}

def forIntFrom (body : Nat → β) (bound j : Nat) : Option (List β) :=
  if j < bound then
    if j + 1 < 2 ^ 31 then (body j :: ·) <$> forIntFrom body bound (j + 1) else none
  else some []
termination_by bound - j

def forInt (body : Nat → β) (bound : Nat) : Option (List β) := forIntFrom body bound 0

theorem forIntFrom_eq_some (body : Nat → β) {bound : Nat} (hb : bound < 2 ^ 31) {j : Nat}
    (hj : j ≤ bound) :
    forIntFrom body bound j = some ((List.range' j (bound - j)).map body) := by
  induction h : bound - j generalizing j with
  | zero =>
    rw [forIntFrom, if_neg (by omega)]
    rfl
  | succ d ih =>
    rw [forIntFrom, if_pos (by omega), if_pos (by omega), ih (by omega) (by omega)]
    rfl

theorem forIntFrom_eq_none (body : Nat → β) {bound : Nat} (hb : 2 ^ 31 ≤ bound) {j : Nat}
    (hj : j < 2 ^ 31) : forIntFrom body bound j = none := by
  induction h : 2 ^ 31 - 1 - j generalizing j with
  | zero => rw [forIntFrom, if_pos (by omega), if_neg (by omega)]
  | succ d ih =>
    rw [forIntFrom, if_pos (by omega), if_pos (by omega), ih (by omega) (by omega)]
    rfl

theorem forInt_eq_some (body : Nat → β) {bound : Nat} (hb : bound < 2 ^ 31) :
    forInt body bound = some ((List.range bound).map body) := by
  rw [forInt, forIntFrom_eq_some body hb (Nat.zero_le _), Nat.sub_zero, List.range_eq_range']

/-- A bound the counter cannot reach makes the loop undefined. -/
theorem forInt_eq_none (body : Nat → β) {bound : Nat} (hb : 2 ^ 31 ≤ bound) :
    forInt body bound = none :=
  forIntFrom_eq_none body hb (by decide)

end SeedCracking.Words
