import SeedCracking.Kernel.Batch

/-! The tests of a batch and the comparisons of `check`, lane by lane. -/

namespace SeedCracking.Kernel

open StraightLine Words Xoroshiro

def testOut1 (lo hi : BitVec 64) : BitVec 64 :=
  let sum0 := lo + hi
  sum0.rotateLeft 17 + lo

def testOut2 (lo hi : BitVec 64) : BitVec 64 :=
  let t := hi ^^^ lo
  let lo2 := lo.rotateLeft 49 ^^^ t ^^^ (t <<< 21)
  let hi2 := t.rotateLeft 28
  let sum1 := lo2 + hi2
  sum1.rotateLeft 17 + lo2

theorem testOut2_eq (s : State) : testOut2 s.lo s.hi = s.next.output := by
  simp only [testOut2, BitVec.xor_comm s.hi s.lo]
  rfl

theorem check_ne_nil_iff (nextlong1 nextlong2 lo hi guess : BitVec 64) :
    check nextlong1 nextlong2 lo hi guess ≠ [] ↔
      testOut1 lo hi = nextlong1 ∧ testOut2 lo hi = nextlong2 := by
  change (if testOut1 lo hi = nextlong1 ∧ testOut2 lo hi = nextlong2 then _ else _) ≠ [] ↔ _
  split
  case isTrue h => exact iff_of_true (List.cons_ne_nil _ _) h
  case isFalse h => exact iff_of_false (· rfl) h

section Loops

variable {α : Type} [BitPlane α]

/-- The two `ADD` loops and the loop over the output planes.  `Sum1` and `Sum2` are what the
arrays hold before. -/
def okLoop (Sum1 Sum2 lo hi out : Fin 64 → α) : α :=
  let Sum1 := addLoop lo hi Sum1
  let Sum2 := addLoop (fun i => Sum1 (Fin.ofNat 64 ((i + 64 - 17) % 64))) lo Sum2
  agreement Sum2 out

theorem okLoop_eq (Sum1 Sum2 lo hi out : Fin 64 → α) :
    okLoop Sum1 Sum2 lo hi out = outputTest lo hi out := by
  have hindex : ∀ i : Fin 64, Fin.ofNat 64 ((i.val + 64 - 17) % 64) = i - 17 := by decide
  simp only [okLoop, addLoop_eq, hindex]
  rfl

end Loops

theorem laneWord_congr {size : Nat} {x y : Fin 64 → Simd size} {j : Fin (64 * size)}
    (h : ∀ i, (y i).bit j = (x i).bit j) : laneWord y j = laneWord x j := by
  rw [laneWord_eq, laneWord_eq]
  simp only [h]

/-- For arbitrary planes, bit `j` of `ok` compares the words that the transposition assembles
for lane `j`, whatever the other lanes hold. -/
theorem okLoop_bit {size : Nat} (Sum1 Sum2 lo hi : Fin 64 → Simd size) (nextlong : BitVec 64)
    (j : Fin (64 * size)) :
    okLoop Sum1 Sum2 lo hi (outPlane nextlong) = outputTest lo hi (outPlane nextlong) ∧
    ((okLoop Sum1 Sum2 lo hi (outPlane nextlong)).bit j = true ↔
      (laneWord lo j + laneWord hi j).rotateLeft 17 + laneWord lo j = nextlong) ∧
    ∀ Sum1' Sum2' lo' hi' : Fin 64 → Simd size,
      (∀ i, (lo' i).bit j = (lo i).bit j) → (∀ i, (hi' i).bit j = (hi i).bit j) →
      laneWord lo' j = laneWord lo j ∧ laneWord hi' j = laneWord hi j ∧
        (okLoop Sum1' Sum2' lo' hi' (outPlane nextlong)).bit j =
          (okLoop Sum1 Sum2 lo hi (outPlane nextlong)).bit j := by
  have hbit : ∀ Sum1 Sum2 lo hi : Fin 64 → Simd size,
      (okLoop Sum1 Sum2 lo hi (outPlane nextlong)).bit j = true ↔
        (State.mk (laneWord lo j) (laneWord hi j)).output = nextlong := by
    intro Sum1 Sum2 lo hi
    rw [okLoop_eq, outputTest_bit, laneWord_outPlane]
  refine ⟨okLoop_eq _ _ _ _ _, hbit Sum1 Sum2 lo hi, fun Sum1' Sum2' lo' hi' hlo hhi => ?_⟩
  have hlo' : laneWord lo' j = laneWord lo j := laneWord_congr hlo
  have hhi' : laneWord hi' j = laneWord hi j := laneWord_congr hhi
  refine ⟨hlo', hhi', Bool.eq_iff_iff.mpr ?_⟩
  rw [hbit, hbit, hlo', hhi']

theorem okLoop_bit_one :
    (okLoop (fun _ => 0) (fun _ => 0) (fun _ => Simd.broadcast 1) (fun _ => 0)
        (outPlane 0 : Fin 64 → Simd 1)).bit 1 =
      (okLoop (fun _ => 0) (fun _ => 0) (fun _ => 0) (fun _ => 0)
        (outPlane 0 : Fin 64 → Simd 1)).bit 1 :=
  ((okLoop_bit (fun _ => 0) (fun _ => 0) (fun _ => 0) (fun _ => 0) 0 1).2.2 (fun _ => 0)
    (fun _ => 0) (fun _ => Simd.broadcast 1) (fun _ => 0) (fun _ => rfl) fun _ => rfl).2.2

section Batch

variable {size : Nat} (nextlong1 nextlong2 guess : BitVec 64) (j : Fin (64 * size))

theorem secondTest_iff_testOut2 :
    let m : Plane → Simd size := planes nextlong1 nextlong2 guess
    (outputTest (fun i => m (S2_lo i)) (fun i => m (S2_hi i)) fun i => m (S2_out i)).bit j = true ↔
      testOut2 (laneState m j).lo (laneState m j).hi = nextlong2 := by
  intro m
  rw [testOut2_eq]
  exact secondTest_iff nextlong1 nextlong2 guess j

/-- Right or wrong, a guess leads to a second state that is the successor of the first, and the
second test of its lane is the second comparison of `check`. -/
theorem planes_next :
    let m : Plane → Simd size := planes nextlong1 nextlong2 guess
    let lo := laneWord (fun i => m (S1_lo i)) j
    let hi := laneWord (fun i => m (S1_hi i)) j
    let t := lo ^^^ hi
    laneWord (fun i => m (S2_lo i)) j = lo.rotateLeft 49 ^^^ t ^^^ (t <<< 21) ∧
    laneWord (fun i => m (S2_hi i)) j = t.rotateLeft 28 ∧
    ((outputTest (fun i => m (S2_lo i)) (fun i => m (S2_hi i)) fun i => m (S2_out i)).bit j = true ↔
      testOut2 lo hi = nextlong2) := by
  intro m lo hi t
  have hnext : State.mk (laneWord (fun i => m (S2_lo i)) j) (laneWord (fun i => m (S2_hi i)) j) =
      (laneState m j).next := laneState_next (inputPlanes nextlong1 nextlong2 guess) j
  obtain ⟨hlo, hhi⟩ := State.mk.inj hnext
  refine ⟨hlo, hhi, ?_⟩
  change _ ↔ testOut2 (laneState m j).lo (laneState m j).hi = nextlong2
  exact secondTest_iff_testOut2 nextlong1 nextlong2 guess j

theorem check_ne_nil_iff_tests :
    let m : Plane → Simd size := planes nextlong1 nextlong2 guess
    check nextlong1 nextlong2 (laneState m j).lo (laneState m j).hi
        (guess + BitVec.ofNat 64 j) ≠ [] ↔
      (outputTest (fun i => m (S1_lo i)) (fun i => m (S1_hi i)) fun i => m (S1_out i)).bit j = true ∧
      (outputTest (fun i => m (S2_lo i)) (fun i => m (S2_hi i)) fun i => m (S2_out i)).bit j =
        true := by
  intro m
  rw [check_ne_nil_iff]
  exact and_congr (firstTest_iff nextlong1 nextlong2 guess j).symm
    (secondTest_iff_testOut2 nextlong1 nextlong2 guess j).symm

theorem bruteKernel_of_check
    (h : check nextlong1 nextlong2
      (laneState (planes nextlong1 nextlong2 guess : Plane → Simd size) j).lo
      (laneState (planes nextlong1 nextlong2 guess : Plane → Simd size) j).hi
      (guess + BitVec.ofNat 64 j) ≠ []) :
    bruteKernel size nextlong1 nextlong2 false guess = some (true, []) := by
  obtain ⟨h1, h2⟩ := (check_ne_nil_iff _ _ _ _ _).mp h
  rw [testOut2_eq] at h2
  exact (bruteKernel_of_tests nextlong1 nextlong2 guess false).2 ⟨⟨j, h1⟩, ⟨j, h2⟩⟩

end Batch

end SeedCracking.Kernel
