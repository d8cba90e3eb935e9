import SeedCracking.Words.Basic

/-! The xoroshiro128++ generator and the finalizer that seeds it. -/

namespace SeedCracking.Xoroshiro

open Words

@[ext] structure State where
  lo : BitVec 64
  hi : BitVec 64
  deriving DecidableEq

def State.output (s : State) : BitVec 64 := (s.lo + s.hi).rotateLeft 17 + s.lo

def State.next (s : State) : State :=
  let t := s.lo ^^^ s.hi
  ⟨s.lo.rotateLeft 49 ^^^ t ^^^ t <<< 21, t.rotateLeft 28⟩

theorem State.next_lo (s : State) :
    s.next.lo = s.lo.rotateLeft 49 ^^^ (s.lo ^^^ s.hi) ^^^ (s.lo ^^^ s.hi) <<< 21 := rfl

theorem State.next_hi (s : State) : s.next.hi = (s.lo ^^^ s.hi).rotateLeft 28 := rfl

def State.outputs (s : State) : BitVec 64 × BitVec 64 := (s.output, s.next.output)

theorem State.next_lo_bit (s : State) (i : Fin 64) :
    s.next.lo.getLsbD i =
      (s.lo.getLsbD (i + 15 : Fin 64) ^^ (s.lo.getLsbD i ^^ s.hi.getLsbD i) ^^
        (decide (21 ≤ i) &&
          (s.lo.getLsbD (i - 21 : Fin 64) ^^ s.hi.getLsbD (i - 21 : Fin 64)))) := by
  have hrot := getLsbD_rotateLeft s.lo 49 i
  have hshift := getLsbD_shiftLeft (s.lo ^^^ s.hi) 21 i
  rw [show i - 49 = i + 15 by omega] at hrot
  rw [BitVec.getLsbD_xor] at hshift
  rw [State.next_lo, BitVec.getLsbD_xor, BitVec.getLsbD_xor, BitVec.getLsbD_xor]
  exact congr (congrArg _ (congrArg (· ^^ _) hrot)) hshift

theorem State.next_hi_bit (s : State) (i : Fin 64) :
    s.next.hi.getLsbD i =
      (s.lo.getLsbD (i + 36 : Fin 64) ^^ s.hi.getLsbD (i + 36 : Fin 64)) := by
  have hrot := getLsbD_rotateLeft (s.lo ^^^ s.hi) 28 i
  rw [show i - 28 = i + 36 by omega, BitVec.getLsbD_xor] at hrot
  exact hrot

instance : XorOp State := ⟨fun s t => ⟨s.lo ^^^ t.lo, s.hi ^^^ t.hi⟩⟩

@[simp] theorem State.xor_lo (s t : State) : (s ^^^ t).lo = s.lo ^^^ t.lo := rfl
@[simp] theorem State.xor_hi (s t : State) : (s ^^^ t).hi = s.hi ^^^ t.hi := rfl

theorem State.next_xor (s t : State) : (s ^^^ t).next = s.next ^^^ t.next := by
  have ht : (s ^^^ t).lo ^^^ (s ^^^ t).hi = (s.lo ^^^ s.hi) ^^^ (t.lo ^^^ t.hi) :=
    xor_xor_xor_comm s.lo t.lo s.hi t.hi
  have h49 : (s.lo ^^^ t.lo).rotateLeft 49 = s.lo.rotateLeft 49 ^^^ t.lo.rotateLeft 49 :=
    rotateLeft_xor s.lo t.lo 49
  apply State.ext
  · rw [State.xor_lo, State.next_lo, State.next_lo, State.next_lo, ht, State.xor_lo, h49,
      BitVec.shiftLeft_xor_distrib, xor_xor_xor_comm₃]
  · rw [State.xor_hi, State.next_hi, State.next_hi, State.next_hi, ht]
    exact rotateLeft_xor (s.lo ^^^ s.hi) (t.lo ^^^ t.hi) 28

theorem State.iterate_next_xor (n : Nat) (s t : State) :
    State.next^[n] (s ^^^ t) = State.next^[n] s ^^^ State.next^[n] t := by
  induction n generalizing s t with
  | zero => rfl
  | succ n ih => simp only [Function.iterate_succ_apply, State.next_xor, ih]

/-- Stafford's variant 13 finalizer. -/
def mix (z : BitVec 64) : BitVec 64 :=
  let z := (z ^^^ z >>> 30) * 0xbf58476d1ce4e5b9#64
  let z := (z ^^^ z >>> 27) * 0x94d049bb133111eb#64
  z ^^^ z >>> 31

def goldenRatio : BitVec 64 := 0x9e3779b97f4a7c15#64

def silverRatio : BitVec 64 := 7640891576956012809#64

def ofWorldSeed (w : BitVec 64) : State :=
  ⟨mix (w ^^^ silverRatio), mix ((w ^^^ silverRatio) + goldenRatio)⟩

end SeedCracking.Xoroshiro
