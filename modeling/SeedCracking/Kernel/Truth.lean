import SeedCracking.Kernel.Reconstruction
import SeedCracking.Xoroshiro.Generator

/-! The planes a generator state really has, and the proof that they satisfy every
assignment of the generated section. -/

namespace SeedCracking.Kernel

open StraightLine Words Xoroshiro

def bits (s : State) : Track → Fin 64 → Bool
  | .lo, i => s.lo.getLsbD i
  | .hi, i => s.hi.getLsbD i
  | .ca, i => BitVec.carry (i + 1) s.lo s.hi false
  | .is, i => (s.lo + s.hi).getLsbD i
  | .cb, i => BitVec.carry (i + 1) ((s.lo + s.hi).rotateLeft 17) s.lo false
  | .out, i => s.output.getLsbD i

def stateBit (s : State) : Plane → Bool
  | .S1 t i => bits s t i
  | .S2 t i => bits s.next t i
  | .guess_bits _ => false

/-- The guess that holds the true values of the guessed planes. -/
def trueGuess (s : State) : Nat :=
  Nat.ofBits fun i : Fin 40 => (guessed[i.val]?.map fun a => stateBit s a.target).getD false

def truth (s : State) : Plane → Bool
  | .S1 t i => bits s t i
  | .S2 t i => bits s.next t i
  | .guess_bits i => (trueGuess s).testBit i

theorem trueGuess_lt (s : State) : trueGuess s < 2 ^ 40 := Nat.ofBits_lt_two_pow _

def carryIn (f : Fin 64 → Bool) (i : Fin 64) : Bool := if i = 0 then false else f (i - 1)

@[simp] theorem carryIn_zero (f : Fin 64 → Bool) : carryIn f 0 = false := rfl

theorem carryIn_of_ne (f : Fin 64 → Bool) {i : Fin 64} (h : i ≠ 0) : carryIn f i = f (i - 1) :=
  if_neg h

theorem carryIn_carry (x y : BitVec 64) (i : Fin 64) :
    carryIn (fun j => BitVec.carry (j + 1) x y false) i = BitVec.carry i x y false := by
  by_cases h : i = 0
  · subst h
    exact BitVec.carry_zero.symm
  · have hi : (i - 1 : Fin 64).val + 1 = i.val := by omega
    rw [carryIn_of_ne _ h, hi]

theorem carryIn_ca (s : State) (i : Fin 64) :
    carryIn (bits s .ca) i = BitVec.carry i s.lo s.hi false := carryIn_carry _ _ i

theorem carryIn_cb (s : State) (i : Fin 64) :
    carryIn (bits s .cb) i = BitVec.carry i ((s.lo + s.hi).rotateLeft 17) s.lo false :=
  carryIn_carry _ _ i

theorem rotated_sum_bit (s : State) (i : Fin 64) :
    ((s.lo + s.hi).rotateLeft 17).getLsbD i = bits s .is (i + 47) := by
  have hrot := getLsbD_rotateLeft (s.lo + s.hi) 17 i
  rw [show i - 17 = i + 47 by omega] at hrot
  exact hrot

theorem bits_is (s : State) (i : Fin 64) :
    bits s .is i = (bits s .lo i ^^ bits s .hi i ^^ carryIn (bits s .ca) i) := by
  rw [carryIn_ca, Bool.xor_assoc]
  exact BitVec.getLsbD_add i.isLt s.lo s.hi

theorem bits_out (s : State) (i : Fin 64) :
    bits s .out i = (bits s .lo i ^^ bits s .is (i + 47) ^^ carryIn (bits s .cb) i) := by
  rw [carryIn_cb, Bool.xor_comm (bits s .lo i), Bool.xor_assoc, ← rotated_sum_bit]
  exact BitVec.getLsbD_add i.isLt ((s.lo + s.hi).rotateLeft 17) s.lo

theorem bits_next_lo (s : State) (i : Fin 64) :
    bits s.next .lo i =
      (bits s .lo (i + 15) ^^ (bits s .lo i ^^ bits s .hi i) ^^
        (decide (21 ≤ i) && (bits s .lo (i - 21) ^^ bits s .hi (i - 21)))) :=
  s.next_lo_bit i

theorem bits_next_hi (s : State) (i : Fin 64) :
    bits s.next .hi i = (bits s .lo (i + 36) ^^ bits s .hi (i + 36)) :=
  s.next_hi_bit i

theorem bits_ca (s : State) (i : Fin 64) :
    bits s .ca i = ((carryIn (bits s .ca) i && bits s .lo i) ||
      (bits s .lo i && bits s .hi i) || (carryIn (bits s .ca) i && bits s .hi i)) := by
  rw [carryIn_ca]
  simp only [bits]
  rw [BitVec.carry_succ]
  cases s.lo.getLsbD i <;> cases s.hi.getLsbD i <;> simp [Bool.atLeastTwo]

theorem bits_cb (s : State) (i : Fin 64) :
    bits s .cb i = ((carryIn (bits s .cb) i && bits s .is (i + 47)) ||
      (bits s .is (i + 47) && bits s .lo i) || (carryIn (bits s .cb) i && bits s .lo i)) := by
  rw [carryIn_cb, ← rotated_sum_bit]
  simp only [bits]
  rw [BitVec.carry_succ]
  cases ((s.lo + s.hi).rotateLeft 17).getLsbD i <;> cases s.lo.getLsbD i <;>
    simp [Bool.atLeastTwo]

end SeedCracking.Kernel
