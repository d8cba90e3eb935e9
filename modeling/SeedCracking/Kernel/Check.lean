import SeedCracking.Update
import SeedCracking.Xoroshiro.Generator

/-! The scalar test of one candidate and the world seed it announces. -/

namespace SeedCracking.Kernel

open Words Xoroshiro

def unstafford13 (x : BitVec 64) : BitVec 64 :=
  let x := x ^^^ x >>> 31
  let x := x ^^^ x >>> 62
  let x := x * 3573116690164977347#64
  let x := x ^^^ x >>> 27
  let x := x ^^^ x >>> 54
  let x := x * 10871156337175269513#64
  let x := x ^^^ x >>> 30
  x ^^^ x >>> 60

def foundCandidate (lo hi guess : BitVec 64) : Update :=
  ⟨"commands.bedrockcrack.foundCandidate", true, [lo, hi, guess]⟩

def foundWorldSeed (w : BitVec 64) : Update :=
  ⟨"commands.bedrockcrack.foundWorldSeed", false, [w]⟩

def check (nextlong1 nextlong2 lo hi guess : BitVec 64) : List Update :=
  let sum0 := lo + hi
  let testOut1 := sum0.rotateLeft 17 + lo
  let t := hi ^^^ lo
  let lo2 := lo.rotateLeft 49 ^^^ t ^^^ (t <<< 21)
  let hi2 := t.rotateLeft 28
  let sum1 := lo2 + hi2
  let testOut2 := sum1.rotateLeft 17 + lo2
  if testOut1 = nextlong1 ∧ testOut2 = nextlong2 then
    foundCandidate lo hi guess ::
      if unstafford13 hi - unstafford13 lo = 0x9e3779b97f4a7c15#64 then
        [foundWorldSeed (unstafford13 lo ^^^ 7640891576956012809#64)]
      else []
  else []

theorem unstafford13_eq (x : BitVec 64) :
    unstafford13 x =
      xorshift (30 + 30) (xorshift 30 (xorshift (27 + 27) (xorshift 27
        (xorshift (31 + 31) (xorshift 31 x) * 3573116690164977347#64)) *
          10871156337175269513#64)) := rfl

theorem mix_eq (z : BitVec 64) :
    mix z = xorshift 31 (xorshift 27 (xorshift 30 z * 0xbf58476d1ce4e5b9#64) *
      0x94d049bb133111eb#64) := rfl

theorem unstafford13_mix (z : BitVec 64) : unstafford13 (mix z) = z := by
  rw [unstafford13_eq, mix_eq, xorshift_cancel (by decide), mul_cancel (by decide),
    xorshift_cancel (by decide), mul_cancel (by decide), xorshift_cancel (by decide)]

theorem mix_unstafford13 (x : BitVec 64) : mix (unstafford13 x) = x := by
  rw [unstafford13_eq, mix_eq, xorshift_cancel' (by decide), mul_cancel (by decide),
    xorshift_cancel' (by decide), mul_cancel (by decide), xorshift_cancel' (by decide)]

theorem check_eq (nextlong1 nextlong2 guess : BitVec 64) (s : State) :
    check nextlong1 nextlong2 s.lo s.hi guess =
      if s.outputs = (nextlong1, nextlong2) then
        foundCandidate s.lo s.hi guess ::
          if unstafford13 s.hi - unstafford13 s.lo = goldenRatio then
            [foundWorldSeed (unstafford13 s.lo ^^^ silverRatio)]
          else []
      else [] := by
  unfold check
  simp only [BitVec.xor_comm s.hi s.lo]
  refine if_congr ?_ rfl rfl
  rw [State.outputs, Prod.mk.injEq]
  rfl

theorem ofWorldSeed_eq_iff (w : BitVec 64) (s : State) :
    ofWorldSeed w = s ↔
      unstafford13 s.hi - unstafford13 s.lo = goldenRatio ∧ unstafford13 s.lo ^^^ silverRatio = w := by
  constructor
  · rintro rfl
    simp only [ofWorldSeed, unstafford13_mix]
    constructor
    · rw [BitVec.add_comm, BitVec.add_sub_cancel]
    · rw [BitVec.xor_assoc, BitVec.xor_self, BitVec.xor_zero]
  · rintro ⟨hdiff, rfl⟩
    have hlo : (unstafford13 s.lo ^^^ silverRatio) ^^^ silverRatio = unstafford13 s.lo := by
      rw [BitVec.xor_assoc, BitVec.xor_self, BitVec.xor_zero]
    have hhi : unstafford13 s.lo + goldenRatio = unstafford13 s.hi := by
      rw [← hdiff, BitVec.add_comm, BitVec.sub_add_cancel]
    rw [ofWorldSeed, hlo, hhi, mix_unstafford13, mix_unstafford13]

end SeedCracking.Kernel
