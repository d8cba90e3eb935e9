import SeedCracking.Kernel.Correctness
import SeedCracking.StraightLine.Determined

/-! Under how many guesses one generator state is reported. -/

namespace SeedCracking.Kernel

open StraightLine Words Xoroshiro

/-! ### The planes that a state determines -/

def stateMask : Nat :=
  (2 ^ 64 - 1) <<< (S1_lo 0).code ||| (2 ^ 64 - 1) <<< (S1_hi 0).code |||
    (2 ^ 64 - 1) <<< (S1_out 0).code ||| (2 ^ 64 - 1) <<< (S2_lo 0).code |||
    (2 ^ 64 - 1) <<< (S2_hi 0).code ||| (2 ^ 64 - 1) <<< (S2_out 0).code

def isState : Plane → Bool
  | .S1 .lo _ | .S1 .hi _ | .S1 .out _ => true
  | .S2 .lo _ | .S2 .hi _ | .S2 .out _ => true
  | _ => false

theorem stateMask_testBit (v : Plane) : stateMask.testBit v.code = isState v := by
  simp only [stateMask, Nat.testBit_or, block_testBit]
  cases v with
  | S1 t i => cases t <;> simp [Plane.code, Track.code, isState] <;> omega
  | S2 t i => cases t <;> simp [Plane.code, Track.code, isState] <;> omega
  | guess_bits i => simp [Plane.code, Track.code, isState]; omega

def maskable : List Nat := [22, 23, 24, 25, 29, 30, 31, 33, 34, 36, 37, 38]

/-- The guessed bits that determine the others: `S1_ca[29]`, `S1_ca[12]`, `S1_is[63]`,
`S2_ca[32]` and `S2_ca[14]`. -/
def selectors : List Nat := [22, 24, 25, 33, 34]

theorem selectors_lt : ∀ i ∈ selectors, i < 64 := by decide

def guessMask (l : List Nat) : Nat :=
  l.foldl (fun mask i => mask ||| 1 <<< ((guess_bits 0).code + i)) 0

def determined (l : List Nat) : Nat :=
  closure Plane.code reconstruction 3 (stateMask ||| guessMask l)

theorem determined_guesses :
    (∀ i < 40, i ∉ maskable → (determined []).testBit (768 + i) = true) ∧
      ∀ i < 40, (determined selectors).testBit (768 + i) = true := by
  decide +kernel

theorem guessMask_testBit (l : List Nat) (j : Nat) :
    (guessMask l).testBit j = true ↔ ∃ i ∈ l, j = 768 + i := by
  have hfold : ∀ mask : Nat, (l.foldl (fun mask i => mask ||| 1 <<< (768 + i)) mask).testBit j =
      true ↔ mask.testBit j = true ∨ ∃ i ∈ l, j = 768 + i := by
    induction l with
    | nil => simp
    | cons i l ih =>
      intro mask
      rw [List.foldl_cons, ih, testBit_insert, List.exists_mem_cons_iff]
      tauto
  have h := hfold 0
  rw [Nat.zero_testBit] at h
  exact h.trans (or_iff_right Bool.false_ne_true)

section Guesses

variable {nextlong1 nextlong2 : BitVec 64} {guess guess' : Nat}
  (h : scalarState nextlong1 nextlong2 guess = scalarState nextlong1 nextlong2 guess')

include h

theorem stateMask_agree : Agree Plane.code stateMask (scalarPlanes nextlong1 nextlong2 guess)
    (scalarPlanes nextlong1 nextlong2 guess') := by
  intro v hv
  rw [stateMask_testBit] at hv
  cases v with
  | S1 t i =>
    cases t with
    | lo => rw [scalarPlanes_lo, scalarPlanes_lo, h]
    | hi => rw [scalarPlanes_hi, scalarPlanes_hi, h]
    | out => rw [scalarPlanes_input _ _ _ rfl, scalarPlanes_input _ _ _ rfl]; rfl
    | _ => cases hv
  | S2 t i =>
    cases t with
    | lo => rw [scalarPlanes_next_lo, scalarPlanes_next_lo, h]
    | hi => rw [scalarPlanes_next_hi, scalarPlanes_next_hi, h]
    | out => rw [scalarPlanes_input _ _ _ rfl, scalarPlanes_input _ _ _ rfl]; rfl
    | _ => cases hv
  | guess_bits i => cases hv

theorem determined_agree {l : List Nat}
    (hl : Agree Plane.code (guessMask l) (scalarPlanes nextlong1 nextlong2 guess)
      (scalarPlanes nextlong1 nextlong2 guess')) :
    Agree Plane.code (determined l) (scalarPlanes nextlong1 nextlong2 guess)
      (scalarPlanes nextlong1 nextlong2 guess') := by
  refine closure_agree Plane.code_injective (exec_holds reconstruction_scheduled _)
    (exec_holds reconstruction_scheduled _) 3 fun v hv => ?_
  rw [Nat.testBit_or, Bool.or_eq_true] at hv
  exact hv.elim (stateMask_agree h v) (hl v)

theorem testBit_eq_of_determined {l : List Nat}
    (hl : Agree Plane.code (guessMask l) (scalarPlanes nextlong1 nextlong2 guess)
      (scalarPlanes nextlong1 nextlong2 guess')) {i : Nat} (hi : i < 40)
    (hdet : (determined l).testBit (768 + i) = true) : guess.testBit i = guess'.testBit i := by
  have hplane := determined_agree h hl (guess_bits ⟨i, by omega⟩) hdet
  rwa [scalarPlanes_input _ _ _ rfl, scalarPlanes_input _ _ _ rfl] at hplane

theorem testBit_eq_of_not_maskable {i : Nat} (hi : i < 40) (hfree : i ∉ maskable) :
    guess.testBit i = guess'.testBit i := by
  refine testBit_eq_of_determined h (l := []) (fun v hv => ?_) hi (determined_guesses.1 i hi hfree)
  simp [guessMask] at hv

/-- Guesses for one state that agree on the selectors are the same. -/
theorem guess_eq_of_selectors (hlt : guess < 2 ^ 40) (hlt' : guess' < 2 ^ 40)
    (hsel : ∀ i ∈ selectors, guess.testBit i = guess'.testBit i) : guess = guess' := by
  have hl : Agree Plane.code (guessMask selectors) (scalarPlanes nextlong1 nextlong2 guess)
      (scalarPlanes nextlong1 nextlong2 guess') := by
    intro v hv
    obtain ⟨i, hi, hcode⟩ := (guessMask_testBit _ _).mp hv
    have hlt : i < 64 := selectors_lt i hi
    obtain rfl : v = guess_bits ⟨i, hlt⟩ := Plane.code_injective hcode
    rw [scalarPlanes_input _ _ _ rfl, scalarPlanes_input _ _ _ rfl]
    exact hsel i hi
  apply Nat.eq_of_testBit_eq
  intro i
  by_cases hi : i < 40
  · exact testBit_eq_of_determined h hl hi (determined_guesses.2 i hi)
  · have hpow : 2 ^ 40 ≤ 2 ^ i := Nat.pow_le_pow_right (by decide) (Nat.not_lt.mp hi)
    rw [Nat.testBit_lt_two_pow (Nat.lt_of_lt_of_le hlt hpow),
      Nat.testBit_lt_two_pow (Nat.lt_of_lt_of_le hlt' hpow)]

end Guesses

/-! ### The reports of one state -/

section Reports

variable (nextlong1 nextlong2 : BitVec 64)

theorem length_guesses_le (s : State) :
    ((List.range (2 ^ 40)).filter fun guess =>
      scalarState nextlong1 nextlong2 guess = s).length ≤ 32 := by
  have hmem : ∀ {guess}, guess ∈ (List.range (2 ^ 40)).filter (fun guess =>
      decide (scalarState nextlong1 nextlong2 guess = s)) →
      guess < 2 ^ 40 ∧ scalarState nextlong1 nextlong2 guess = s := by
    intro guess hguess
    rw [List.mem_filter, List.mem_range, decide_eq_true_eq] at hguess
    exact hguess
  have hnodup : (((List.range (2 ^ 40)).filter fun guess =>
      decide (scalarState nextlong1 nextlong2 guess = s)).map
        fun guess (j : Fin selectors.length) => guess.testBit selectors[j]).Nodup := by
    refine List.Nodup.map_on ?_ (List.nodup_range.filter _)
    intro guess hguess guess' hguess' heq
    obtain ⟨hlt, hs⟩ := hmem hguess
    obtain ⟨hlt', hs'⟩ := hmem hguess'
    refine guess_eq_of_selectors (hs.trans hs'.symm) hlt hlt' fun i hi => ?_
    obtain ⟨j, hj, rfl⟩ := List.mem_iff_getElem.mp hi
    exact congrFun heq ⟨j, hj⟩
  have hcard := hnodup.length_le_card
  rw [List.length_map] at hcard
  exact hcard.trans (by simp [selectors])

theorem countP_guesses_le {s : State} {p : Nat → Bool}
    (hp : ∀ guess, p guess = true → scalarState nextlong1 nextlong2 guess = s) :
    (List.range (2 ^ 40)).countP p ≤ 32 := by
  refine (List.countP_mono_left (q := fun guess => scalarState nextlong1 nextlong2 guess = s)
    fun guess _ hguess => decide_eq_true (hp guess hguess)).trans ?_
  rw [List.countP_eq_length_filter]
  exact length_guesses_le nextlong1 nextlong2 s

def seedOf (guess : Nat) : Option (BitVec 64) :=
  let s := scalarState nextlong1 nextlong2 guess
  if s.outputs = (nextlong1, nextlong2) ∧ unstafford13 s.hi - unstafford13 s.lo = goldenRatio then
    some (unstafford13 s.lo ^^^ silverRatio)
  else none

theorem seedOf_eq_some_iff {guess : Nat} {w : BitVec 64} :
    seedOf nextlong1 nextlong2 guess = some w ↔
      (scalarState nextlong1 nextlong2 guess).outputs = (nextlong1, nextlong2) ∧
        ofWorldSeed w = scalarState nextlong1 nextlong2 guess := by
  rw [ofWorldSeed_eq_iff, seedOf]
  split
  case isTrue h => simp [h]
  case isFalse h =>
    refine iff_of_false nofun fun ⟨hout, hdiff, _⟩ => h ⟨hout, hdiff⟩

theorem scalarReport_worldSeeds (guess : Nat) :
    (scalarReport nextlong1 nextlong2 guess).filterMap worldSeed? =
      (seedOf nextlong1 nextlong2 guess).toList := by
  rw [scalarReport_eq, seedOf]
  by_cases hout : (scalarState nextlong1 nextlong2 guess).outputs = (nextlong1, nextlong2)
  · rw [if_pos hout, List.filterMap_cons_none (worldSeed?_foundCandidate _ _ _)]
    split
    case isTrue hdiff => rw [if_pos ⟨hout, hdiff⟩]; simp
    case isFalse hdiff => rw [if_neg fun h => hdiff h.2]; simp
  · rw [if_neg hout, if_neg fun h => hout h.1]
    rfl

theorem worldSeeds_eq :
    ((List.range (2 ^ 40)).flatMap (scalarReport nextlong1 nextlong2)).filterMap worldSeed? =
      (List.range (2 ^ 40)).filterMap (seedOf nextlong1 nextlong2) := by
  rw [List.filterMap_flatMap]
  simp only [scalarReport_worldSeeds]
  rw [List.filterMap_eq_flatMap_toList]

theorem count_worldSeeds_le (w : BitVec 64) :
    ((List.range (2 ^ 40)).filterMap (seedOf nextlong1 nextlong2)).count w ≤ 32 := by
  rw [List.count_filterMap]
  refine countP_guesses_le nextlong1 nextlong2 (s := ofWorldSeed w) fun guess hguess => ?_
  exact ((seedOf_eq_some_iff nextlong1 nextlong2).mp (eq_of_beq hguess)).2.symm

def candidateOf (guess : Nat) : Option (BitVec 64 × BitVec 64 × BitVec 64) :=
  let s := scalarState nextlong1 nextlong2 guess
  if s.outputs = (nextlong1, nextlong2) then some (s.lo, s.hi, BitVec.ofNat 64 guess) else none

theorem scalarSearch_eq : scalarSearch nextlong1 nextlong2 =
    (List.range (2 ^ 40)).filterMap (candidateOf nextlong1 nextlong2) := rfl

theorem candidateOf_eq_some_iff {guess : Nat} {c : BitVec 64 × BitVec 64 × BitVec 64} :
    candidateOf nextlong1 nextlong2 guess = some c ↔
      (scalarState nextlong1 nextlong2 guess).outputs = (nextlong1, nextlong2) ∧
        scalarState nextlong1 nextlong2 guess = ⟨c.1, c.2.1⟩ ∧ BitVec.ofNat 64 guess = c.2.2 := by
  rw [candidateOf, State.ext_iff]
  split
  case isTrue h => simp [h, Prod.ext_iff, and_assoc]
  case isFalse h => exact iff_of_false nofun fun h' => h h'.1

theorem mem_scalarSearch_iff {c : BitVec 64 × BitVec 64 × BitVec 64} :
    c ∈ scalarSearch nextlong1 nextlong2 ↔
      ∃ guess < 2 ^ 40, candidateOf nextlong1 nextlong2 guess = some c := by
  simp only [scalarSearch_eq, List.mem_filterMap, List.mem_range]

theorem ofNat_injOn {g g' : Nat} (hg : g < 2 ^ 40) (hg' : g' < 2 ^ 40)
    (h : BitVec.ofNat 64 g = BitVec.ofNat 64 g') : g = g' := by
  have hnat := congrArg BitVec.toNat h
  rw [BitVec.toNat_ofNat, BitVec.toNat_ofNat] at hnat
  omega

theorem scalarSearch_nodup : (scalarSearch nextlong1 nextlong2).Nodup := by
  rw [scalarSearch_eq, List.Nodup, List.pairwise_filterMap]
  refine List.nodup_range.imp_of_mem ?_
  rintro g g' hg hg' hne c hc _ hc' rfl
  have hguess := ((candidateOf_eq_some_iff _ _).mp hc).2.2
  have hguess' := ((candidateOf_eq_some_iff _ _).mp hc').2.2
  exact hne (ofNat_injOn (List.mem_range.mp hg) (List.mem_range.mp hg')
    (hguess.trans hguess'.symm))

theorem countP_candidates_le (lo hi : BitVec 64) :
    (scalarSearch nextlong1 nextlong2).countP (fun c => c.1 = lo ∧ c.2.1 = hi) ≤ 32 := by
  rw [scalarSearch_eq, List.countP_filterMap]
  refine countP_guesses_le nextlong1 nextlong2 (s := ⟨lo, hi⟩) fun guess hguess => ?_
  cases hc : candidateOf nextlong1 nextlong2 guess with
  | none =>
    rw [hc] at hguess
    cases hguess
  | some c =>
    rw [hc, Option.map_some, Option.getD_some, decide_eq_true_eq] at hguess
    obtain ⟨rfl, rfl⟩ := hguess
    exact ((candidateOf_eq_some_iff _ _).mp hc).2.1

variable {nextlong1 nextlong2}

theorem candidates_of_state {lo hi guess guess' : BitVec 64}
    (h : (lo, hi, guess) ∈ scalarSearch nextlong1 nextlong2)
    (h' : (lo, hi, guess') ∈ scalarSearch nextlong1 nextlong2) :
    (∀ i < 40, i ∉ maskable → guess.getLsbD i = guess'.getLsbD i) ∧
      ((∀ i ∈ selectors, guess.getLsbD i = guess'.getLsbD i) → guess = guess') := by
  obtain ⟨g, hg, hc⟩ := (mem_scalarSearch_iff _ _).mp h
  obtain ⟨g', hg', hc'⟩ := (mem_scalarSearch_iff _ _).mp h'
  obtain ⟨-, hs, rfl⟩ := (candidateOf_eq_some_iff _ _).mp hc
  obtain ⟨-, hs', rfl⟩ := (candidateOf_eq_some_iff _ _).mp hc'
  have hbit : ∀ (g : Nat) {i : Nat}, i < 64 → (BitVec.ofNat 64 g).getLsbD i = g.testBit i := by
    intro g i hi
    rw [BitVec.getLsbD_ofNat, decide_eq_true hi, Bool.true_and]
  constructor
  · intro i hi hfree
    have hlt : i < 64 := Nat.lt_trans hi (by decide)
    rw [hbit g hlt, hbit g' hlt]
    exact testBit_eq_of_not_maskable (hs.trans hs'.symm) hi hfree
  · intro heq
    have hguess : g = g' := by
      refine guess_eq_of_selectors (hs.trans hs'.symm) hg hg' fun i hi => ?_
      rw [← hbit g (selectors_lt i hi), ← hbit g' (selectors_lt i hi)]
      exact heq i hi
    rw [hguess]

end Reports

/-- A run reports no candidate twice, and one generator state under at most 32 guesses, which
differ only in the maskable bits and not in the selectors alone; so it announces no world seed
more than 32 times. -/
theorem kernelName_multiplicity {k : Nat} (hk : k ≤ 24) (nextlong1 nextlong2 : BitVec 64) :
    ∃ r, kernelName (2 ^ k) nextlong1 nextlong2 = some r ∧
      (r.filterMap candidate?).Nodup ∧
      (∀ lo hi, (r.filterMap candidate?).countP (fun c => c.1 = lo ∧ c.2.1 = hi) ≤ 32) ∧
      (∀ lo hi guess guess', (lo, hi, guess) ∈ r.filterMap candidate? →
        (lo, hi, guess') ∈ r.filterMap candidate? →
        (∀ i < 40, i ∉ maskable → guess.getLsbD i = guess'.getLsbD i) ∧
          ((∀ i ∈ selectors, guess.getLsbD i = guess'.getLsbD i) → guess = guess')) ∧
      ∀ w, (r.filterMap worldSeed?).count w ≤ 32 := by
  refine ⟨_, kernelName_eq hk nextlong1 nextlong2, ?_⟩
  rw [Multiset.filterMap_coe, Multiset.filterMap_coe, candidates_eq_scalarSearch, worldSeeds_eq]
  refine ⟨Multiset.coe_nodup.mpr (scalarSearch_nodup nextlong1 nextlong2), fun lo hi => ?_,
    fun lo hi guess guess' h h' =>
      candidates_of_state (Multiset.mem_coe.mp h) (Multiset.mem_coe.mp h'), fun w => ?_⟩
  · rw [Multiset.coe_countP]
    exact countP_candidates_le nextlong1 nextlong2 lo hi
  · rw [Multiset.coe_count]
    exact count_worldSeeds_le nextlong1 nextlong2 w

theorem kernelName_multiplicity_baseline :
    ∃ r, kernelName (2 ^ 1) 0 0 = some r ∧
      (r.filterMap candidate?).Nodup ∧
      (∀ lo hi, (r.filterMap candidate?).countP (fun c => c.1 = lo ∧ c.2.1 = hi) ≤ 32) ∧
      (∀ lo hi guess guess', (lo, hi, guess) ∈ r.filterMap candidate? →
        (lo, hi, guess') ∈ r.filterMap candidate? →
        (∀ i < 40, i ∉ maskable → guess.getLsbD i = guess'.getLsbD i) ∧
          ((∀ i ∈ selectors, guess.getLsbD i = guess'.getLsbD i) → guess = guess')) ∧
      ∀ w, (r.filterMap worldSeed?).count w ≤ 32 :=
  kernelName_multiplicity (by decide) 0 0

/-! ### World seed 1 -/

def seedOnePlanes : Nat :=
  [0x492b8d6066c09227, 0x1ac046dda8e86e2a, 0x18000fc1e0c0fe2e,
    0x63ebd43e0fa90051, 0x08781f4000808607, 0xf1a7acb2676359fe,
    0x001c9cf55548318c, 0xdce28fc0d53ebcbb, 0x00009fc1d57831b8,
    0xdcff2cb62a86ee47, 0x007c1dfddc0831fc, 0x5988f20331d7eb8a,
    0x0000005b39dbb569].foldr
    (fun word planes => planes <<< 64 ||| word) 0

def planeMask (l : List Plane) : Nat := l.foldl (fun mask v => mask ||| 1 <<< v.code) 0

/-- Planes that can be flipped together: a carry that two equal bits absorb soon after, with the
sums and carries on the way.  Lane `c` flips the sets that the bits of `c` select. -/
def flips : List (BitVec 64 × Nat) :=
  [(0xaaaaaaaa, planeMask [S1_ca 29, S1_ca 30, S1_ca 31, S1_ca 32, S1_is 30, S1_is 31, S1_is 32,
      S1_is 33, S1_cb 46, S1_cb 47, S1_cb 48, S1_cb 49, guess_bits 22, guess_bits 30]),
    (0xcccccccc, planeMask [S1_ca 12, S1_ca 13, S1_ca 14, S1_ca 15, S1_is 13, S1_is 14, S1_is 15,
      S1_is 16, S1_cb 29, S1_cb 30, S1_cb 31, S1_cb 32, guess_bits 23, guess_bits 24,
      guess_bits 31]),
    (0xf0f0f0f0, planeMask [S1_ca 62, S1_is 63, S1_cb 15, guess_bits 25]),
    (0xff00ff00, planeMask [S2_ca 32, S2_is 33, S2_cb 49, guess_bits 33, guess_bits 37]),
    (0xffff0000, planeMask [S2_ca 14, S2_ca 15, S2_is 15, S2_is 16, S2_cb 31, S2_cb 32,
      guess_bits 34, guess_bits 38])]

def flipped (v : Plane) : Simd 1 :=
  flips.foldl (fun x f => if f.2.testBit v.code then x ^^^ Simd.broadcast f.1 else x)
    (splat (seedOnePlanes.testBit v.code))

theorem flipped_holds : ∀ a ∈ reconstruction,
    (flipped a.target).word 0 = (a.value.eval flipped).word 0 := by
  decide +kernel

theorem flipped_words : ∀ i : Fin 64,
    (flipped (S1_lo i)).word 0 = (splat ((ofWorldSeed 1).lo.getLsbD i) : Simd 1).word 0 ∧
    (flipped (S1_hi i)).word 0 = (splat ((ofWorldSeed 1).hi.getLsbD i) : Simd 1).word 0 ∧
    (flipped (S1_out i)).word 0 = (splat ((ofWorldSeed 1).output.getLsbD i) : Simd 1).word 0 ∧
    (flipped (S2_out i)).word 0 =
      (splat ((ofWorldSeed 1).next.output.getLsbD i) : Simd 1).word 0 ∧
    (40 ≤ i.val → (flipped (guess_bits i)).word 0 = (splat false : Simd 1).word 0) := by
  decide +kernel

def flippedGuess (c : Fin (64 * 1)) : Nat :=
  Nat.ofBits fun i : Fin 40 => (flipped (guess_bits ⟨i, by omega⟩)).bit c

theorem flippedGuess_lt (c : Fin (64 * 1)) : flippedGuess c < 2 ^ 40 := Nat.ofBits_lt_two_pow _

theorem flippedGuess_values :
    (((List.finRange (64 * 1)).take 32).map flippedGuess).Nodup ∧
      flippedGuess 0 = 391812724073 ∧ flippedGuess 4 = 391846278505 := by
  decide +kernel

section SeedOne

variable (c : Fin (64 * 1))

theorem bit_congr {x y : Simd 1} (h : x.word 0 = y.word 0) : x.bit c = y.bit c := by
  have hxy : x = y := Simd.ext (funext fun k => by rwa [Subsingleton.elim k 0])
  rw [hxy]

theorem flipped_lo (i : Fin 64) : (flipped (S1_lo i)).bit c = (ofWorldSeed 1).lo.getLsbD i :=
  (bit_congr c (flipped_words i).1).trans (splat_bit _ c)

theorem flipped_hi (i : Fin 64) : (flipped (S1_hi i)).bit c = (ofWorldSeed 1).hi.getLsbD i :=
  (bit_congr c (flipped_words i).2.1).trans (splat_bit _ c)

theorem flipped_out (i : Fin 64) : (flipped (S1_out i)).bit c = (ofWorldSeed 1).output.getLsbD i :=
  (bit_congr c (flipped_words i).2.2.1).trans (splat_bit _ c)

theorem flipped_next_out (i : Fin 64) :
    (flipped (S2_out i)).bit c = (ofWorldSeed 1).next.output.getLsbD i :=
  (bit_congr c (flipped_words i).2.2.2.1).trans (splat_bit _ c)

theorem flippedGuess_testBit (i : Fin 64) :
    (flippedGuess c).testBit i = (flipped (guess_bits i)).bit c := by
  rcases Nat.lt_or_ge i.val 40 with hi | hi
  · exact Nat.testBit_ofBits_lt _ _ hi
  · rw [flippedGuess, Nat.testBit_ofBits_ge _ _ hi]
    exact ((bit_congr c ((flipped_words i).2.2.2.2 hi)).trans (splat_bit _ c)).symm

variable {nextlong1 nextlong2 : BitVec 64} (h : (ofWorldSeed 1).outputs = (nextlong1, nextlong2))

include h

theorem scalarInput_flippedGuess : Agree Plane.code inputMask
    (scalarInput nextlong1 nextlong2 (flippedGuess c)) fun v => (flipped v).bit c := by
  cases h
  intro v hv
  rw [inputMask_testBit] at hv
  cases v with
  | S1 t i =>
    cases t with
    | out => exact (flipped_out c i).symm
    | _ => cases hv
  | S2 t i =>
    cases t with
    | out => exact (flipped_next_out c i).symm
    | _ => cases hv
  | guess_bits i => exact flippedGuess_testBit c i

theorem scalarState_flippedGuess :
    scalarState nextlong1 nextlong2 (flippedGuess c) = ofWorldSeed 1 := by
  have hplane : ∀ v, scalarPlanes nextlong1 nextlong2 (flippedGuess c) v = (flipped v).bit c := by
    intro v
    refine exec_agree Plane.code_injective reconstruction_scheduled (fun a ha => ?_)
      (scalarInput_flippedGuess c h) v (reconstruction_assigns v)
    exact (bit_congr c (flipped_holds a ha)).trans (a.value.eval_lane (Simd.lane c) flipped)
  rw [← stateOf_bits (ofWorldSeed 1), scalarState]
  simp only [hplane, flipped_lo, flipped_hi]
  rfl

theorem seedOf_flippedGuess : seedOf nextlong1 nextlong2 (flippedGuess c) = some 1 := by
  have hstate := scalarState_flippedGuess c h
  exact (seedOf_eq_some_iff _ _).mpr ⟨hstate ▸ h, hstate.symm⟩

theorem candidateOf_flippedGuess : candidateOf nextlong1 nextlong2 (flippedGuess c) =
    some ((ofWorldSeed 1).lo, (ofWorldSeed 1).hi, BitVec.ofNat 64 (flippedGuess c)) := by
  have hstate := scalarState_flippedGuess c h
  exact (candidateOf_eq_some_iff _ _).mpr ⟨hstate ▸ h, hstate, rfl⟩

omit c in
theorem count_seedOne :
    ((List.range (2 ^ 40)).filterMap (seedOf nextlong1 nextlong2)).count 1 = 32 := by
  refine Nat.le_antisymm (count_worldSeeds_le nextlong1 nextlong2 1) ?_
  have hsub : ((List.finRange (64 * 1)).take 32).map flippedGuess ⊆
      (List.range (2 ^ 40)).filter fun guess => seedOf nextlong1 nextlong2 guess == some 1 := by
    intro guess hguess
    obtain ⟨c, -, rfl⟩ := List.mem_map.mp hguess
    rw [List.mem_filter, List.mem_range, seedOf_flippedGuess c h]
    exact ⟨flippedGuess_lt c, beq_self_eq_true _⟩
  have hle := (List.subperm_of_subset flippedGuess_values.1 hsub).length_le
  rw [← List.countP_eq_length_filter, ← List.count_filterMap] at hle
  exact hle

end SeedOne

/-- World seed 1 is announced 32 times, as often as a world seed can be. -/
theorem kernelName_seedOne :
    ∃ r, kernelName (2 ^ 1) 17413076366490032638 6451672561743293322 = some r ∧
      (∃ lo hi, (lo, hi, 391812724073) ∈ r.filterMap candidate? ∧
        (lo, hi, 391846278505) ∈ r.filterMap candidate?) ∧
      (r.filterMap worldSeed?).count 1 = 32 := by
  have h : (ofWorldSeed 1).outputs = (17413076366490032638, 6451672561743293322) := by
    decide
  refine ⟨_, kernelName_eq (by decide) _ _, ⟨(ofWorldSeed 1).lo, (ofWorldSeed 1).hi, ?_⟩, ?_⟩
  · rw [Multiset.filterMap_coe, candidates_eq_scalarSearch]
    constructor
    · refine Multiset.mem_coe.mpr ((mem_scalarSearch_iff _ _).mpr ⟨_, flippedGuess_lt 0, ?_⟩)
      rw [candidateOf_flippedGuess 0 h, flippedGuess_values.2.1]
      rfl
    · refine Multiset.mem_coe.mpr ((mem_scalarSearch_iff _ _).mpr ⟨_, flippedGuess_lt 4, ?_⟩)
      rw [candidateOf_flippedGuess 4 h, flippedGuess_values.2.2]
      rfl
  · rw [Multiset.filterMap_coe, worldSeeds_eq, Multiset.coe_count]
    exact count_seedOne h

end SeedCracking.Kernel
