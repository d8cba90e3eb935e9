import SeedCracking.Blocks.Crack

/-! What the observations of a run do not depend on: the order and the number of the entries, and
the bits of the mode that belong to other channels. -/

namespace SeedCracking.Blocks

open Kernel SeedCracking.Lists Smt Std

def Consistent (entries : List BlockEntry) : Prop :=
  ∀ e ∈ entries, ∀ e' ∈ entries, e.point = e'.point → e.typ = e'.typ

section Entries

variable {entries entries' : List BlockEntry}

theorem Consistent.of_same (h : Consistent entries) (hsame : ∀ e, e ∈ entries' ↔ e ∈ entries) :
    Consistent entries' :=
  fun e he e' he' => h e ((hsame e).mp he) e' ((hsame e').mp he')

theorem typeAt_of_same (h : Consistent entries) (hsame : ∀ e, e ∈ entries' ↔ e ∈ entries) :
    typeAt entries' = typeAt entries := by
  funext p
  apply Option.ext
  intro typ
  rw [typeAt_eq_some_iff (h.of_same hsame), typeAt_eq_some_iff h]
  simp only [hsame]

theorem observations_of_typeAt (h : typeAt entries' = typeAt entries) (mode : Nat) :
    observations entries' mode = observations entries mode := by
  have hfind : ∀ p : Point, (blocksOf entries')[p]? = (blocksOf entries)[p]? := by
    intro p
    rw [blocksOf_find, blocksOf_find, h]
  have hlist := toList_congr hfind
  have hscan : scan (blocksOf entries') mode = scan (blocksOf entries) mode := by
    rw [scan, hlist, scan]
  have hveins : veins (blocksOf entries') mode = veins (blocksOf entries) mode := by
    rw [veins, hscan, find_blocksOf, h, veins, find_blocksOf]
  rw [observations, hscan, hveins]
  rfl

theorem bedrockseedCrack_of_typeAt (h : typeAt entries' = typeAt entries) (cpu : Cpu)
    (z3 : Solver Unknown 64) (mode : Nat) :
    bedrockseedCrack cpu z3 entries' mode = bedrockseedCrack cpu z3 entries mode := by
  rw [bedrockseedCrack, observations_of_typeAt h, bedrockseedCrack]

/-- Entries in another order, or repeated, give the same lists, the same results and the same
run. -/
theorem run_of_same_entries (h : Consistent entries) (hsame : ∀ e, e ∈ entries' ↔ e ∈ entries)
    (mode : Nat) :
    (∀ k, observations entries' mode k = observations entries mode k) ∧
    (∀ k, solve (observations entries' mode k) (k + 1) =
      solve (observations entries mode k) (k + 1)) ∧
    ∀ (cpu : Cpu) (z3 : Solver Unknown 64),
      bedrockseedCrack cpu z3 entries' mode = bedrockseedCrack cpu z3 entries mode := by
  have htype := typeAt_of_same h hsame
  have hobs := observations_of_typeAt htype mode
  refine ⟨fun k => congrFun hobs k, fun k => ?_, fun cpu z3 => ?_⟩
  · rw [hobs]
  · exact bedrockseedCrack_of_typeAt htype cpu z3 mode

theorem run_of_same_entries_swap :
    solve (observations [⟨1, 0, 0, 2⟩, ⟨0, 0, 0, 1⟩, ⟨1, 0, 0, 2⟩] 31 4) 5 =
      solve (observations [⟨0, 0, 0, 1⟩, ⟨1, 0, 0, 2⟩] 31 4) 5 := by
  have hconsistent : Consistent [⟨0, 0, 0, 1⟩, ⟨1, 0, 0, 2⟩] := by
    intro e he e' he' hp
    simp only [List.mem_cons, List.not_mem_nil, or_false] at he he'
    rcases he with rfl | rfl <;> rcases he' with rfl | rfl
    · rfl
    · cases hp
    · cases hp
    · rfl
  exact (run_of_same_entries hconsistent (by simp [or_comm]) 31).2.1 4

end Entries

section Mode

variable (mode : Nat)

theorem and_bit_ne_zero (i : Nat) : mode &&& 2 ^ i ≠ 0 ↔ mode.testBit i = true := by
  rw [Nat.and_two_pow]
  cases mode.testBit i <;> simp

theorem bedrockRule_mode (b : Point × BlockType) :
    bedrockRule mode b = if mode.testBit 0 then bedrockRule 31 b else [] := by
  simp only [bedrockRule, ite_and, ← and_bit_ne_zero]
  rfl

theorem deepslateRule_mode (b : Point × BlockType) :
    deepslateRule mode b = if mode.testBit 1 then deepslateRule 31 b else [] := by
  simp only [deepslateRule, ite_and, ← and_bit_ne_zero]
  rfl

theorem veinPush_mode (xv : BitVec 64) (it : Option BlockType) :
    veinPush mode xv it = if mode.testBit 2 then veinPush 31 xv it else [] := by
  simp only [veinPush, ← and_bit_ne_zero]
  rfl

theorem orePush_mode (xv : BitVec 64) (it : Option BlockType) :
    orePush mode xv it = if mode.testBit 3 then orePush 31 xv it else [] := by
  simp only [orePush, ← and_bit_ne_zero]
  rfl

theorem rawPush_mode (xv : BitVec 64) (it : Option BlockType) :
    rawPush mode xv it = if mode.testBit 4 then rawPush 31 xv it else [] := by
  simp only [rawPush, ← and_bit_ne_zero]
  rfl

theorem atVein_mode {push : Nat → BitVec 64 → Option BlockType → List Observation} {c : Prop}
    [Decidable c] (h : ∀ xv it, push mode xv it = if c then push 31 xv it else [])
    (find : Point → Option BlockType) (p : Point) :
    atVein push mode find p = if c then atVein push 31 find p else [] := by
  rw [atVein, atVein, h]
  by_cases hc : c
  · simp only [hc, if_true]
  · simp only [hc, if_false, ite_self]

theorem maybe_veins_mode (blocks : BlockMap) (mode' : Nat) :
    (scan blocks mode).maybe_veins = (scan blocks mode').maybe_veins := by
  have h : ∀ mode, (scan blocks mode).maybe_veins = blocks.toList.foldl (fun t b =>
      if b.2 = .RAW then (box 3 b.1).foldl (fun t q => t.insert q) t else t) ∅ :=
    fun mode => (List.foldl_hom Scan.maybe_veins fun _ _ => rfl).symm
  rw [h, h]

/-- Each bit of the mode selects its own list and no other. -/
theorem observations_mode (entries : List BlockEntry) (k : Fin 5) :
    observations entries mode k = if mode.testBit k then observations entries 31 k else [] := by
  have hveins := maybe_veins_mode mode (blocksOf entries) 31
  match k with
  | 0 =>
    change (scan _ mode).xvs1 = if mode.testBit 0 then (scan _ 31).xvs1 else []
    rw [scan_xvs1, scan_xvs1]
    exact flatMap_if (bedrockRule_mode mode) _
  | 1 =>
    change (scan _ mode).xvs2 = if mode.testBit 1 then (scan _ 31).xvs2 else []
    rw [scan_xvs2, scan_xvs2]
    exact flatMap_if (deepslateRule_mode mode) _
  | 2 =>
    change (veins _ mode).xvs3 = if mode.testBit 2 then (veins _ 31).xvs3 else []
    rw [veins_xvs3, veins_xvs3, hveins]
    exact flatMap_if (atVein_mode mode (veinPush_mode mode) _) _
  | 3 =>
    change (veins _ mode).xvs4 = if mode.testBit 3 then (veins _ 31).xvs4 else []
    rw [veins_xvs4, veins_xvs4, hveins]
    exact flatMap_if (atVein_mode mode (orePush_mode mode) _) _
  | 4 =>
    change (veins _ mode).xvs5 = if mode.testBit 4 then (veins _ 31).xvs5 else []
    rw [veins_xvs5, veins_xvs5, hveins]
    exact flatMap_if (atVein_mode mode (rawPush_mode mode) _) _

end Mode

end SeedCracking.Blocks
