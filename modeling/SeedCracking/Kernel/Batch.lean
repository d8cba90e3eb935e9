import SeedCracking.Kernel.Lanes

/-! The two tests and the report of a batch, lane by lane. -/

namespace SeedCracking.Kernel

open StraightLine Words Xoroshiro

section Tests

variable {α : Type} [BitPlane α]

theorem foldl_agreement_lane (ℓ : Lane α) (sum out : Fin 64 → α) (l : List (Fin 64)) (ok : α) :
    ℓ.bit (l.foldl (fun ok i => ok &&& ~~~(sum i ^^^ out i)) ok) =
      l.foldl (fun ok i => ok &&& ~~~(ℓ.bit (sum i) ^^^ ℓ.bit (out i))) (ℓ.bit ok) := by
  induction l generalizing ok with
  | nil => rfl
  | cons i l ih =>
    rw [List.foldl_cons, ih, List.foldl_cons]
    simp

theorem agreement_lane (ℓ : Lane α) (sum out : Fin 64 → α) :
    ℓ.bit (agreement sum out) = agreement (fun i => ℓ.bit (sum i)) fun i => ℓ.bit (out i) := by
  rw [agreement, foldl_agreement_lane, ℓ.bit_compl, ℓ.bit_zero]
  rfl

theorem outputTest_lane (ℓ : Lane α) (lo hi out : Fin 64 → α) :
    ℓ.bit (outputTest lo hi out) =
      outputTest (fun i => ℓ.bit (lo i)) (fun i => ℓ.bit (hi i)) fun i => ℓ.bit (out i) := by
  simp only [outputTest, agreement_lane, addPlanes_lane]

theorem agreement_iff (sum out : Fin 64 → Bool) :
    agreement sum out = true ↔ ∀ i, sum i = out i := by
  have hfold : ∀ (l : List (Fin 64)) (ok : Bool),
      l.foldl (fun ok i => ok &&& ~~~(sum i ^^^ out i)) ok = true ↔
        ok = true ∧ ∀ i ∈ l, sum i = out i := by
    intro l
    induction l with
    | nil => simp
    | cons i l ih =>
      intro ok
      rw [List.foldl_cons, ih]
      simp [and_assoc]
  rw [agreement, hfold]
  simp

theorem outputTest_iff (s : State) (nextlong : BitVec 64) :
    outputTest (bits s .lo) (bits s .hi) (fun i => nextlong.getLsbD i) = true ↔
      s.output = nextlong := by
  have hsum : ∀ i, addPlanes (bits s .lo) (bits s .hi) i = (s.lo + s.hi).getLsbD i :=
    addPlanes_word s.lo s.hi
  have hrot : ∀ i : Fin 64, (s.lo + s.hi).getLsbD (i - 17 : Fin 64) =
      ((s.lo + s.hi).rotateLeft 17).getLsbD i :=
    fun i => (getLsbD_rotateLeft (s.lo + s.hi) 17 i).symm
  have hout : ∀ i, addPlanes (fun i : Fin 64 => ((s.lo + s.hi).rotateLeft 17).getLsbD i)
      (bits s .lo) i = s.output.getLsbD i := addPlanes_word ((s.lo + s.hi).rotateLeft 17) s.lo
  simp only [outputTest, hsum, hrot, agreement_iff, hout]
  exact ⟨eq_of_forall_bit, fun h i => by rw [h]⟩

end Tests

theorem laneWord_bit {size : Nat} (x : Fin 64 → Simd size) (j : Fin (64 * size)) (i : Fin 64) :
    (laneWord x j).getLsbD i = (x i).bit j := by
  have hround : ∀ (r : BitVec 64) n b, n < 64 →
      (r ||| (((x (Fin.ofNat 64 n)).get (j / 64) >>> (j.val % 64)) &&& 1) <<< n).getLsbD b =
        (r.getLsbD b || (decide (b = n) && (x (Fin.ofNat 64 n)).bit j)) := by
    intro r n b hn
    rw [getLsbD_or_bit _ _ hn, BitVec.getLsbD_ushiftRight, Nat.add_zero, ← Simd.bit_eq_get]
  have hi : Fin.ofNat 64 i.val = i := Fin.ext (Nat.mod_eq_of_lt i.isLt)
  rw [laneWord, getLsbD_foldl_range hround, hi, decide_eq_true i.isLt, Bool.true_and,
    BitVec.ofNat_eq_ofNat, BitVec.getLsbD_zero, Bool.false_or]

theorem laneWord_eq {size : Nat} (x : Fin 64 → Simd size) (j : Fin (64 * size)) :
    laneWord x j = ofBits fun i => (x i).bit j := by
  apply eq_of_forall_bit
  intro i
  rw [laneWord_bit, getLsbD_ofBits]

theorem laneWord_outPlane {size : Nat} (nextlong : BitVec 64) (j : Fin (64 * size)) :
    laneWord (outPlane nextlong : Fin 64 → Simd size) j = nextlong := by
  apply eq_of_forall_bit
  intro i
  rw [laneWord_bit, outPlane_bit]

theorem outputTest_bit {size : Nat} (lo hi out : Fin 64 → Simd size) (j : Fin (64 * size)) :
    (outputTest lo hi out).bit j = true ↔
      (State.mk (laneWord lo j) (laneWord hi j)).output = laneWord out j := by
  have h := outputTest_lane (Simd.lane j) lo hi out
  simp only [Simd.lane_bit, ← laneWord_bit] at h
  rw [h]
  exact outputTest_iff ⟨laneWord lo j, laneWord hi j⟩ (laneWord out j)

section Lane

variable {size : Nat}

/-- The state whose words the transposition assembles for a lane. -/
def laneState (m : Plane → Simd size) (j : Nat) : State :=
  ⟨laneWord (fun i => m (S1_lo i)) j, laneWord (fun i => m (S1_hi i)) j⟩

theorem laneState_eq (m : Plane → Simd size) (j : Fin (64 * size)) :
    laneState m j = stateOf (fun i => (m (S1_lo i)).bit j) fun i => (m (S1_hi i)).bit j := by
  rw [laneState, laneWord_eq, laneWord_eq, stateOf]

theorem laneState_next (m : Plane → Simd size) (j : Fin (64 * size)) :
    State.mk (laneWord (fun i => exec m reconstruction (S2_lo i)) j)
        (laneWord (fun i => exec m reconstruction (S2_hi i)) j) =
      (laneState (exec m reconstruction) j).next := by
  have hlane : ∀ v, (exec m reconstruction v).bit j =
      exec (fun w => (m w).bit j) reconstruction v := exec_lane reconstruction (Simd.lane j) m
  rw [laneState_eq, laneWord_eq, laneWord_eq, ← stateOf]
  simp only [hlane]
  exact exec_next fun w => (m w).bit j

variable (nextlong1 nextlong2 guess : BitVec 64) (j : Fin (64 * size))

theorem planes_input {v : Plane} (hv : isInput v = true) :
    (planes nextlong1 nextlong2 guess v : Simd size) =
      inputPlanes nextlong1 nextlong2 guess v :=
  exec_known reconstruction_scheduled _ v (by rw [inputMask_testBit, hv])

theorem firstTest_iff :
    let m : Plane → Simd size := planes nextlong1 nextlong2 guess
    (outputTest (fun i => m (S1_lo i)) (fun i => m (S1_hi i)) fun i => m (S1_out i)).bit j = true ↔
      (laneState m j).output = nextlong1 := by
  intro m
  have hout : (fun i => m (S1_out i)) = outPlane nextlong1 :=
    funext fun i => planes_input nextlong1 nextlong2 guess rfl
  rw [outputTest_bit, hout, laneWord_outPlane, laneState]

theorem secondTest_iff :
    let m : Plane → Simd size := planes nextlong1 nextlong2 guess
    (outputTest (fun i => m (S2_lo i)) (fun i => m (S2_hi i)) fun i => m (S2_out i)).bit j = true ↔
      (laneState m j).next.output = nextlong2 := by
  intro m
  have hout : (fun i => m (S2_out i)) = outPlane nextlong2 :=
    funext fun i => planes_input nextlong1 nextlong2 guess rfl
  have hnext := laneState_next (inputPlanes nextlong1 nextlong2 guess) j
  rw [outputTest_bit, hout, laneWord_outPlane]
  exact Eq.congr_left (congrArg State.output hnext)

theorem bruteKernel_of_tests (full : Bool) :
    let m : Plane → Simd size := planes nextlong1 nextlong2 guess
    let ok1 := ∃ j : Fin (64 * size), (laneState m j).output = nextlong1
    let ok2 := ∃ j : Fin (64 * size), (laneState m j).next.output = nextlong2
    (¬ (ok1 ∧ ok2) → bruteKernel size nextlong1 nextlong2 full guess = some (false, [])) ∧
    (ok1 ∧ ok2 → bruteKernel size nextlong1 nextlong2 full guess =
      if full then (report nextlong1 nextlong2 m guess).map (true, ·) else some (true, [])) := by
  intro m ok1 ok2
  have hpass : ∀ {a : Simd size} {p : Fin (64 * size) → Prop},
      (∀ j, a.bit j = true ↔ p j) → (a.reduceOr = 0 ↔ ¬ ∃ j, p j) := by
    intro a p h
    simp only [Simd.reduceOr_eq_zero_iff, not_exists, ← h, Bool.not_eq_true]
  have h1 := hpass (firstTest_iff nextlong1 nextlong2 guess)
  have h2 := hpass (secondTest_iff nextlong1 nextlong2 guess)
  unfold bruteKernel
  constructor
  · intro hno
    by_cases hok1 : ok1
    · have hok2 : ¬ ok2 := fun h => hno ⟨hok1, h⟩
      simp only [h1, h2]
      rw [if_neg (not_not.mpr hok1), if_pos hok2]
    · simp only [h1]
      rw [if_pos hok1]
  · rintro ⟨hok1, hok2⟩
    simp only [h1, h2]
    rw [if_neg (not_not.mpr hok1), if_neg (not_not.mpr hok2)]
    cases full with
    | true => cases report nextlong1 nextlong2 m guess <;> rfl
    | false => rfl

end Lane

def scalarReport (nextlong1 nextlong2 : BitVec 64) (guess : Nat) : List Update :=
  check nextlong1 nextlong2 (scalarState nextlong1 nextlong2 guess).lo
    (scalarState nextlong1 nextlong2 guess).hi (BitVec.ofNat 64 guess)

section Batch

variable {k base : Nat} (hbase : 2 ^ (6 + k) ∣ base) (nextlong1 nextlong2 : BitVec 64)

include hbase

theorem laneState_planes (j : Fin (64 * 2 ^ k)) :
    laneState (planes nextlong1 nextlong2 (BitVec.ofNat 64 base) : Plane → Simd (2 ^ k)) j =
      scalarState nextlong1 nextlong2 (base + j) := by
  simp only [laneState_eq, planes_bit j hbase]
  rfl

theorem laneWords_eq (j : Fin (64 * 2 ^ k)) :
    let m : Plane → Simd (2 ^ k) := planes nextlong1 nextlong2 (BitVec.ofNat 64 base)
    laneWord (fun i => m (S1_lo i)) j = (scalarState nextlong1 nextlong2 (base + j)).lo ∧
      laneWord (fun i => m (S1_hi i)) j = (scalarState nextlong1 nextlong2 (base + j)).hi := by
  rw [← laneState_planes hbase]
  exact ⟨rfl, rfl⟩

theorem report_eq (hk : k ≤ 24) :
    report nextlong1 nextlong2
        (planes nextlong1 nextlong2 (BitVec.ofNat 64 base) : Plane → Simd (2 ^ k))
        (BitVec.ofNat 64 base) =
      some ((List.range (64 * 2 ^ k)).flatMap fun j =>
        scalarReport nextlong1 nextlong2 (base + j)) := by
  have hpow : 2 ^ k ≤ 2 ^ 24 := Nat.pow_le_pow_right (by decide) hk
  have hbits : simdBits (2 ^ k) < 2 ^ 31 := by
    simp only [simdBits]
    omega
  rw [report, forInt_eq_some _ hbits, Option.bind_eq_bind, Option.bind_some, forInt_eq_some _ hbits,
    Option.bind_eq_bind, Option.bind_some, List.flatMap_def]
  refine congrArg (fun l : List (List Update) => some l.flatten) (List.map_congr_left ?_)
  intro j hj
  have hj' : j < 64 * 2 ^ k := List.mem_range.mp hj
  have hwords := laneWords_eq hbase nextlong1 nextlong2 ⟨j, hj'⟩
  rw [List.getD_eq_getElem?_getD, List.getElem?_map,
    List.getElem?_range (show j < simdBits (2 ^ k) from hj'), Option.map_some,
    Option.getD_some, scalarReport, ← hwords.1, ← hwords.2, BitVec.ofNat_add]

theorem bruteKernel_eq (full : Bool) :
    let ok1 := ∃ j : Fin (64 * 2 ^ k),
      (scalarState nextlong1 nextlong2 (base + j)).output = nextlong1
    let ok2 := ∃ j : Fin (64 * 2 ^ k),
      (scalarState nextlong1 nextlong2 (base + j)).next.output = nextlong2
    (¬ (ok1 ∧ ok2) →
      bruteKernel (2 ^ k) nextlong1 nextlong2 full (BitVec.ofNat 64 base) = some (false, [])) ∧
    (ok1 ∧ ok2 →
      bruteKernel (2 ^ k) nextlong1 nextlong2 full (BitVec.ofNat 64 base) =
        if full then
          (report nextlong1 nextlong2
            (planes nextlong1 nextlong2 (BitVec.ofNat 64 base) : Plane → Simd (2 ^ k))
            (BitVec.ofNat 64 base)).map (true, ·)
        else some (true, [])) := by
  have h := @bruteKernel_of_tests (2 ^ k) nextlong1 nextlong2 (BitVec.ofNat 64 base) full
  simp only [laneState_planes hbase] at h
  exact h

end Batch

end SeedCracking.Kernel
