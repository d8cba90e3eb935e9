import SeedCracking.Kernel.Complete

/-! The search on single bits: one guess at a time through the generated section. -/

namespace SeedCracking.Kernel

open StraightLine Words Xoroshiro

def scalarInput (nextlong1 nextlong2 : BitVec 64) (guess : Nat) : Plane → Bool
  | .S1 .out i => nextlong1.getLsbD i
  | .S2 .out i => nextlong2.getLsbD i
  | .guess_bits i => guess.testBit i
  | _ => false

def scalarPlanes (nextlong1 nextlong2 : BitVec 64) (guess : Nat) : Plane → Bool :=
  exec (scalarInput nextlong1 nextlong2 guess) reconstruction

def stateOf (lo hi : Fin 64 → Bool) : State := ⟨ofBits lo, ofBits hi⟩

def scalarState (nextlong1 nextlong2 : BitVec 64) (guess : Nat) : State :=
  stateOf (fun i => scalarPlanes nextlong1 nextlong2 guess (S1_lo i))
    (fun i => scalarPlanes nextlong1 nextlong2 guess (S1_hi i))

def inputMask : Nat :=
  (2 ^ 64 - 1) <<< (S1_out 0).code ||| (2 ^ 64 - 1) <<< (S2_out 0).code |||
    (2 ^ 64 - 1) <<< (guess_bits 0).code

def isInput : Plane → Bool
  | .S1 .out _ => true
  | .S2 .out _ => true
  | .guess_bits _ => true
  | _ => false

theorem block_testBit (k j : Nat) :
    ((2 ^ 64 - 1) <<< k).testBit j = decide (k ≤ j ∧ j < k + 64) := by
  rw [Nat.testBit_shiftLeft, Nat.testBit_two_pow_sub_one, ← Bool.decide_and]
  exact decide_eq_decide.mpr (by omega)

theorem inputMask_testBit (v : Plane) : inputMask.testBit v.code = isInput v := by
  simp only [inputMask, Nat.testBit_or, block_testBit]
  cases v with
  | S1 t i => cases t <;> simp [Plane.code, Track.code, isInput] <;> omega
  | S2 t i => cases t <;> simp [Plane.code, Track.code, isInput] <;> omega
  | guess_bits i => simp [Plane.code, Track.code, isInput]; omega

theorem reconstruction_scheduled : scheduled Plane.code inputMask reconstruction = true := by
  decide +kernel

theorem reconstruction_knownAfter :
    knownAfter Plane.code inputMask reconstruction = 2 ^ 832 - 1 := by
  decide +kernel

theorem Plane.code_lt (v : Plane) : v.code < 832 := by
  cases v with
  | S1 t i | S2 t i =>
    have ht := t.code_lt
    simp only [Plane.code]
    omega
  | guess_bits i => simp only [Plane.code]; omega

theorem reconstruction_assigns (v : Plane) :
    (knownAfter Plane.code inputMask reconstruction).testBit v.code = true := by
  rw [reconstruction_knownAfter, Nat.testBit_two_pow_sub_one, decide_eq_true v.code_lt]

theorem scalarPlanes_input (nextlong1 nextlong2 : BitVec 64) (guess : Nat) {v : Plane}
    (hv : isInput v = true) :
    scalarPlanes nextlong1 nextlong2 guess v = scalarInput nextlong1 nextlong2 guess v :=
  exec_known reconstruction_scheduled _ v (by rw [inputMask_testBit, hv])

theorem scalarInput_agree {s : State} {nextlong1 nextlong2 : BitVec 64}
    (h : s.outputs = (nextlong1, nextlong2)) :
    Agree Plane.code inputMask (scalarInput nextlong1 nextlong2 (trueGuess s)) (truth s) := by
  cases h
  intro v hv
  rw [inputMask_testBit] at hv
  cases v with
  | S1 t i => cases t <;> first | rfl | cases hv
  | S2 t i => cases t <;> first | rfl | cases hv
  | guess_bits i => rfl

theorem scalarPlanes_trueGuess {s : State} {nextlong1 nextlong2 : BitVec 64}
    (h : s.outputs = (nextlong1, nextlong2)) (v : Plane) :
    scalarPlanes nextlong1 nextlong2 (trueGuess s) v = truth s v :=
  exec_agree Plane.code_injective reconstruction_scheduled (truth_holds s) (scalarInput_agree h) v
    (reconstruction_assigns v)

theorem stateOf_bits (s : State) : stateOf (bits s .lo) (bits s .hi) = s := by
  apply State.ext
  · exact eq_of_forall_bit fun i => getLsbD_ofBits (bits s .lo) i
  · exact eq_of_forall_bit fun i => getLsbD_ofBits (bits s .hi) i

theorem scalarState_trueGuess {s : State} {nextlong1 nextlong2 : BitVec 64}
    (h : s.outputs = (nextlong1, nextlong2)) :
    scalarState nextlong1 nextlong2 (trueGuess s) = s := by
  have hlo := fun i => scalarPlanes_trueGuess h (S1_lo i)
  have hhi := fun i => scalarPlanes_trueGuess h (S1_hi i)
  simp only [scalarState, hlo, hhi]
  exact stateOf_bits s

def nextLoRule (i : Fin 64) : Assign Plane :=
  ⟨S2_lo i,
    if 21 ≤ i then
      S1_lo (i + 15) ^^^ (S1_lo i ^^^ S1_hi i) ^^^ (S1_lo (i - 21) ^^^ S1_hi (i - 21))
    else S1_lo (i + 15) ^^^ (S1_lo i ^^^ S1_hi i)⟩

def nextHiRule (i : Fin 64) : Assign Plane :=
  ⟨S2_hi i, S1_lo (i + 36) ^^^ S1_hi (i + 36)⟩

theorem nextLoRule_holds {m : Plane → Bool} {i : Fin 64} (h : (nextLoRule i).Holds m) :
    m (S2_lo i) = (m (S1_lo (i + 15)) ^^ (m (S1_lo i) ^^ m (S1_hi i)) ^^
      (decide (21 ≤ i) && (m (S1_lo (i - 21)) ^^ m (S1_hi (i - 21))))) := by
  simp only [Assign.Holds, nextLoRule] at h
  by_cases hi : 21 ≤ i
  · simpa [hi] using h
  · simpa [hi] using h

theorem nextHiRule_holds {m : Plane → Bool} {i : Fin 64} (h : (nextHiRule i).Holds m) :
    m (S2_hi i) = (m (S1_lo (i + 36)) ^^ m (S1_hi (i + 36))) := h

theorem reconstruction_entails_next :
    ((List.finRange 64).map nextLoRule ++ (List.finRange 64).map nextHiRule).all
      (entails Plane.code (pivots Plane.code reconstruction.reverse)) = true := by
  unfold entails
  simp only [eliminate_eq_foldl]
  decide +kernel

theorem bits_stateOf_lo (lo hi : Fin 64 → Bool) (i : Fin 64) : bits (stateOf lo hi) .lo i = lo i :=
  getLsbD_ofBits lo i

theorem bits_stateOf_hi (lo hi : Fin 64 → Bool) (i : Fin 64) : bits (stateOf lo hi) .hi i = hi i :=
  getLsbD_ofBits hi i

theorem exec_nextRule (m : Plane → Bool) {a : Assign Plane}
    (ha : a ∈ (List.finRange 64).map nextLoRule ++ (List.finRange 64).map nextHiRule) :
    a.Holds (exec m reconstruction) := by
  have hrun := exec_holds reconstruction_scheduled m
  refine entails_sound Plane.code_injective (fun s hs => hrun s (List.mem_reverse.mp hs)) ?_
  exact List.all_eq_true.mp reconstruction_entails_next a ha

theorem exec_next (m : Plane → Bool) :
    stateOf (fun i => exec m reconstruction (S2_lo i)) (fun i => exec m reconstruction (S2_hi i)) =
      (stateOf (fun i => exec m reconstruction (S1_lo i))
        fun i => exec m reconstruction (S1_hi i)).next := by
  apply State.ext
  · apply eq_of_forall_bit
    intro i
    have hmem : nextLoRule i ∈
        (List.finRange 64).map nextLoRule ++ (List.finRange 64).map nextHiRule :=
      List.mem_append_left _ (List.mem_map_of_mem (List.mem_finRange i))
    have hnext := bits_next_lo (stateOf (fun i => exec m reconstruction (S1_lo i))
      fun i => exec m reconstruction (S1_hi i)) i
    simp only [bits_stateOf_lo, bits_stateOf_hi] at hnext
    exact (getLsbD_ofBits _ i).trans
      ((nextLoRule_holds (exec_nextRule m hmem)).trans hnext.symm)
  · apply eq_of_forall_bit
    intro i
    have hmem : nextHiRule i ∈
        (List.finRange 64).map nextLoRule ++ (List.finRange 64).map nextHiRule :=
      List.mem_append_right _ (List.mem_map_of_mem (List.mem_finRange i))
    have hnext := bits_next_hi (stateOf (fun i => exec m reconstruction (S1_lo i))
      fun i => exec m reconstruction (S1_hi i)) i
    simp only [bits_stateOf_lo, bits_stateOf_hi] at hnext
    exact (getLsbD_ofBits _ i).trans
      ((nextHiRule_holds (exec_nextRule m hmem)).trans hnext.symm)

section Next

variable (nextlong1 nextlong2 : BitVec 64) (guess : Nat)

theorem scalarPlanes_lo (i : Fin 64) :
    scalarPlanes nextlong1 nextlong2 guess (S1_lo i) =
      bits (scalarState nextlong1 nextlong2 guess) .lo i := by
  rw [scalarState, bits_stateOf_lo]

theorem scalarPlanes_hi (i : Fin 64) :
    scalarPlanes nextlong1 nextlong2 guess (S1_hi i) =
      bits (scalarState nextlong1 nextlong2 guess) .hi i := by
  rw [scalarState, bits_stateOf_hi]

theorem scalarPlanes_next_lo (i : Fin 64) :
    scalarPlanes nextlong1 nextlong2 guess (S2_lo i) =
      bits (scalarState nextlong1 nextlong2 guess).next .lo i := by
  simp only [scalarState, scalarPlanes]
  rw [← exec_next, bits_stateOf_lo]

theorem scalarPlanes_next_hi (i : Fin 64) :
    scalarPlanes nextlong1 nextlong2 guess (S2_hi i) =
      bits (scalarState nextlong1 nextlong2 guess).next .hi i := by
  simp only [scalarState, scalarPlanes]
  rw [← exec_next, bits_stateOf_hi]

end Next

end SeedCracking.Kernel
