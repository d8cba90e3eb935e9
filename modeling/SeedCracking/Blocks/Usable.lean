import SeedCracking.Blocks.Channels
import SeedCracking.Blocks.Fit

/-! When a run of `bedrockseed$crack` has anything to work on. -/

namespace SeedCracking.Blocks

open Kernel Smt Std Words Xoroshiro

def inVein (entries : List BlockEntry) (p : Point) : Prop :=
  (∃ q, typeAt entries q = some .RAW ∧ p ∈ box 3 q) ∧ confirmed (typeAt entries) p

/-- Some position gives an observation for a channel that the mode selects. -/
def Usable (entries : List BlockEntry) (mode : Nat) : Fin 5 → Prop
  | 0 => mode &&& 1 ≠ 0 ∧ ∃ p : Point, -63 ≤ p.2.1 ∧ p.2.1 ≤ -60 ∧
      (typeAt entries p = some .BEDROCK ∨ typeAt entries p = some .DEEPSLATE)
  | 1 => mode &&& 2 ≠ 0 ∧ ∃ p : Point, 1 ≤ p.2.1 ∧ p.2.1 ≤ 7 ∧
      (typeAt entries p = some .DEEPSLATE ∨ typeAt entries p = some .STONE)
  | 2 => mode &&& 4 ≠ 0 ∧ ∃ p, inVein entries p
  | 3 => mode &&& 8 ≠ 0 ∧ ∃ p, inVein entries p ∧ isVein (typeAt entries p) = true
  | 4 => mode &&& 16 ≠ 0 ∧ ∃ p, inVein entries p ∧
      (typeAt entries p = some .RAW ∨ typeAt entries p = some .ORE)

theorem mem_offsets {r : Nat} {d : Int} : d ∈ offsets r ↔ |d| ≤ r := by
  rw [offsets, List.mem_map, abs_le]
  constructor
  · rintro ⟨n, hn, rfl⟩
    have hlt := List.mem_range.mp hn
    omega
  · rintro ⟨hlo, hhi⟩
    exact ⟨(d + r).toNat, List.mem_range.mpr (by omega), by omega⟩

section Lists

variable (entries : List BlockEntry) (mode : Nat)

theorem mem_blocksOf {p : Point} {typ : BlockType} :
    (p, typ) ∈ (blocksOf entries).toList ↔ typeAt entries p = some typ := by
  rw [TreeMap.mem_toList_iff_getElem?_eq_some, blocksOf_find]

theorem flatMap_blocks_ne_nil {rule : Point × BlockType → List Observation} :
    (blocksOf entries).toList.flatMap rule ≠ [] ↔
      ∃ p typ, typeAt entries p = some typ ∧ rule (p, typ) ≠ [] := by
  rw [ne_eq, List.flatMap_eq_nil_iff]
  simp only [not_forall, Prod.exists, mem_blocksOf, exists_prop]

theorem flatMap_veins_ne_nil {push : Nat → BitVec 64 → Option BlockType → List Observation} :
    (scan (blocksOf entries) mode).maybe_veins.toList.flatMap
        (atVein push mode fun q => (blocksOf entries)[q]?) ≠ [] ↔
      ∃ p, inVein entries p ∧ push mode (getSeed p.1 p.2.1 p.2.2) (typeAt entries p) ≠ [] := by
  rw [ne_eq, List.flatMap_eq_nil_iff, find_blocksOf]
  simp only [not_forall, TreeSet.mem_toList, mem_maybe_veins, blocksOf_find, exists_prop,
    atVein, inVein]
  refine exists_congr fun p => ?_
  by_cases hconf : confirmed (typeAt entries) p
  · simp [hconf]
  · simp [hconf]

theorem bedrockRule_ne_nil {p : Point} {typ : BlockType} :
    bedrockRule mode (p, typ) ≠ [] ↔
      mode &&& 1 ≠ 0 ∧ -63 ≤ p.2.1 ∧ p.2.1 ≤ -60 ∧ (typ = .BEDROCK ∨ typ = .DEEPSLATE) := by
  rw [bedrockRule, ne_eq, ite_eq_right_iff, Classical.not_imp, and_assoc, and_assoc]
  cases typ <;> simp

theorem deepslateRule_ne_nil {p : Point} {typ : BlockType} :
    deepslateRule mode (p, typ) ≠ [] ↔
      mode &&& 2 ≠ 0 ∧ 1 ≤ p.2.1 ∧ p.2.1 ≤ 7 ∧ (typ = .DEEPSLATE ∨ typ = .STONE) := by
  rw [deepslateRule, ne_eq, ite_eq_right_iff, Classical.not_imp, and_assoc, and_assoc]
  cases typ <;> simp

theorem veinPush_ne_nil {xv : BitVec 64} {it : Option BlockType} :
    veinPush mode xv it ≠ [] ↔ mode &&& 4 ≠ 0 := by
  simp [veinPush]

theorem orePush_ne_nil {xv : BitVec 64} {it : Option BlockType} :
    orePush mode xv it ≠ [] ↔ mode &&& 8 ≠ 0 ∧ isVein it = true := by
  cases it with
  | none => simp [orePush, isVein]
  | some typ => cases typ <;> simp [orePush, isVein]

theorem rawPush_ne_nil {xv : BitVec 64} {it : Option BlockType} :
    rawPush mode xv it ≠ [] ↔ mode &&& 16 ≠ 0 ∧ (it = some .RAW ∨ it = some .ORE) := by
  cases it with
  | none => simp [rawPush]
  | some typ => cases typ <;> simp [rawPush]

theorem exists_block_iff {m : Prop} {lo hi : Int} {a b : BlockType} :
    (∃ p typ, typeAt entries p = some typ ∧ m ∧ lo ≤ p.2.1 ∧ p.2.1 ≤ hi ∧ (typ = a ∨ typ = b)) ↔
      m ∧ ∃ p : Point, lo ≤ p.2.1 ∧ p.2.1 ≤ hi ∧
        (typeAt entries p = some a ∨ typeAt entries p = some b) := by
  constructor
  · rintro ⟨p, typ, htyp, hm, hlo, hhi, rfl | rfl⟩
    · exact ⟨hm, p, hlo, hhi, Or.inl htyp⟩
    · exact ⟨hm, p, hlo, hhi, Or.inr htyp⟩
  · rintro ⟨hm, p, hlo, hhi, htyp | htyp⟩
    · exact ⟨p, a, htyp, hm, hlo, hhi, Or.inl rfl⟩
    · exact ⟨p, b, htyp, hm, hlo, hhi, Or.inr rfl⟩

theorem observations_ne_nil (k : Fin 5) :
    observations entries mode k ≠ [] ↔ Usable entries mode k := by
  match k with
  | 0 =>
    change (scan (blocksOf entries) mode).xvs1 ≠ [] ↔ _
    simp only [scan_xvs1, flatMap_blocks_ne_nil, bedrockRule_ne_nil]
    exact exists_block_iff entries
  | 1 =>
    change (scan (blocksOf entries) mode).xvs2 ≠ [] ↔ _
    simp only [scan_xvs2, flatMap_blocks_ne_nil, deepslateRule_ne_nil]
    exact exists_block_iff entries
  | 2 =>
    change (veins (blocksOf entries) mode).xvs3 ≠ [] ↔ _
    simp only [veins_xvs3, flatMap_veins_ne_nil, veinPush_ne_nil, exists_and_right]
    exact and_comm
  | 3 =>
    change (veins (blocksOf entries) mode).xvs4 ≠ [] ↔ _
    simp only [veins_xvs4, flatMap_veins_ne_nil, orePush_ne_nil, and_left_comm, exists_and_left]
    rfl
  | 4 =>
    change (veins (blocksOf entries) mode).xvs5 ≠ [] ↔ _
    simp only [veins_xvs5, flatMap_veins_ne_nil, rawPush_ne_nil, and_left_comm, exists_and_left]
    rfl

end Lists

theorem not_usable_nil (mode : Nat) (k : Fin 5) : ¬ Usable [] mode k := by
  have hvein : ∀ p, ¬ inVein [] p := by
    rintro p ⟨⟨q, hq, -⟩, -⟩
    cases hq
  match k with
  | 0 | 1 =>
    rintro ⟨-, p, -, -, hp | hp⟩
    · cases hp
    · cases hp
  | 2 => exact fun ⟨_, p, hp⟩ => hvein p hp
  | 3 | 4 => exact fun ⟨_, p, hp, _⟩ => hvein p hp

theorem clauses_ne_nil_of_solved {sol : Fin 5 → List (BitVec 128)} {k : Fin 5}
    {mask : BitVec 128} {candidates : List (BitVec 128)} (hk : sol k = mask :: candidates)
    (hne : candidates ≠ []) (v : Unknown) : ∃ φ ∈ clauses sol, φ.Occurs v := by
  refine ⟨constrain mask candidates (target k).1 (target k).2, ?_, constrain_occurs hne k v⟩
  refine List.mem_flatMap.mpr ⟨k, List.mem_finRange k, ?_⟩
  rw [hk]
  exact List.mem_singleton_self _

theorem solutions_occurs {entries : List BlockEntry} {mode : Nat} {k : Fin 5}
    (h : observations entries mode k ≠ []) (v : Unknown) :
    ∃ φ ∈ clauses (solutions entries mode), φ.Occurs v := by
  refine clauses_ne_nil_of_solved (solved_eq h (k + 1)) ?_ v
  exact mt List.map_eq_nil_iff.mp (beam_ne_nil (k + 1) (observations entries mode k))

theorem clauses_eq_nil {entries : List BlockEntry} {mode : Nat}
    (h : ∀ k, observations entries mode k = []) : clauses (solutions entries mode) = [] := by
  rw [clauses, List.flatMap_eq_nil_iff]
  intro k _
  rw [solutions, h k]
  rfl

section Run

variable (cpu : Cpu) {z3 : Solver Unknown 64} (entries : List BlockEntry) {mode : Nat}
  (h1 : 1 ≤ mode) (h31 : mode ≤ 31)

include h1 h31

theorem throws_of_not_usable (hz3 : z3.Partial) (h : ∀ k, ¬ Usable entries mode k) :
    Throws cpu z3 entries mode := by
  have hnil : clauses (solutions entries mode) = [] := by
    apply clauses_eq_nil
    intro k
    exact not_ne_iff.mp (mt (observations_ne_nil entries mode k).mp (h k))
  have hopen : z3.eval [] .I0 = none := by
    cases heval : z3.eval [] .I0 with
    | none => rfl
    | some i0 =>
      have hsome : (z3.eval [] .I0).isSome = true := by rw [heval]; rfl
      obtain ⟨φ, hφ, -⟩ := hz3.occurs_of_numeral [] .I0 hz3.check_nil hsome
      cases hφ
  rw [Throws, bedrockseedCrack_eq cpu z3 entries [] h1 h31, hnil]
  rcases crackState_cases cpu z3 ([] ++ searchUpdates) [] with
    ⟨hcheck, -⟩ | ⟨hcheck, -⟩ | ⟨-, i0, i1, hi0, -⟩ | ⟨-, -, hrun⟩
  · cases hz3.check_nil.symm.trans hcheck
  · cases hz3.check_nil.symm.trans hcheck
  · cases hopen.symm.trans hi0
  · rw [hrun]

theorem Throws.leavesOpen (h : Throws cpu z3 entries mode) :
    z3.check (clauses (solutions entries mode)) = .sat ∧
      ∃ v, z3.eval (clauses (solutions entries mode)) v = none := by
  rw [Throws, bedrockseedCrack_eq cpu z3 entries [] h1 h31] at h
  rcases crackState_cases cpu z3 ([] ++ searchUpdates) (clauses (solutions entries mode)) with
    ⟨-, hrun⟩ | ⟨-, hrun⟩ | ⟨-, i0, i1, -, -, hrun⟩ | ⟨hsat, hopen, -⟩
  · cases h.symm.trans (congrArg Prod.fst hrun)
  · cases h.symm.trans (congrArg Prod.fst hrun)
  · cases h.symm.trans (congrArg Prod.fst hrun)
  · exact ⟨hsat, hopen⟩

theorem not_throws_of_usable (hown : z3.Interprets (clauses (solutions entries mode))) {k : Fin 5}
    (h : Usable entries mode k) : ¬ Throws cpu z3 entries mode := by
  intro hthrows
  obtain ⟨hsat, v, hv⟩ := hthrows.leavesOpen cpu entries h1 h31
  have hoccurs := solutions_occurs ((observations_ne_nil entries mode k).mpr h)
  have hsome := hown hsat v (hoccurs v)
  rw [hv] at hsome
  cases hsome

/-- Without an observation a run throws.  It throws only then, where the model of a satisfiable
formula interprets the constants of the run's own clauses. -/
theorem not_throws_iff_usable (hz3 : z3.Partial) :
    ((∀ k, ¬ Usable entries mode k) → Throws cpu z3 entries mode) ∧
    (z3.Interprets (clauses (solutions entries mode)) →
      (¬ Throws cpu z3 entries mode ↔ ∃ k, Usable entries mode k)) := by
  have hthrows := throws_of_not_usable cpu entries h1 h31 hz3
  refine ⟨hthrows, fun hown => ⟨fun h => ?_, ?_⟩⟩
  · by_contra hnone
    exact h (hthrows (not_exists.mp hnone))
  · rintro ⟨k, hk⟩
    exact not_throws_of_usable cpu entries h1 h31 hown hk

end Run

theorem usable_bedrock : Usable [⟨0, -63, 0, 0⟩] 1 0 :=
  ⟨by decide, (0, -63, 0), by decide, by decide, .inl rfl⟩

theorem observations_bedrock :
    observations [⟨0, -63, 0, 0⟩] 1 0 = [⟨getSeed 0 (-63) 0, bedrockThr (-63), true⟩] := by
  change (scan _ 1).xvs1 = _
  rw [scan_xvs1]
  rfl

/-- The state whose fork is zero in the bedrock channel draws zero everywhere. -/
theorem kept_bedrock : Kept (observations [⟨0, -63, 0, 0⟩] 1) bedrockKey := by
  have hchannel : channelState bedrockKey 0 = ⟨0, 0⟩ := by decide
  have hfit : fit 1 (observations [⟨0, -63, 0, 0⟩] 1 0) 0 0 = 0 := by
    rw [observations_bedrock]
    decide +kernel
  intro k hk
  match k with
  | 0 =>
    obtain ⟨rest, hrest⟩ := level_zeros (by decide) hfit
      (beam 1 (observations [⟨0, -63, 0, 0⟩] 1 0)).1
    rw [← beam_level] at hrest
    refine ⟨_, hrest ▸ List.mem_cons_self, ?_⟩
    rw [hchannel]
    simp [prefixOf]
  | 1 | 2 | 3 | 4 =>
    obtain ⟨hmode, -⟩ := (observations_ne_nil _ _ _).mp hk
    exact absurd rfl hmode

theorem clauses_characterise_bedrock : ⟨"commands.bedrockcrack.Z3Unsat", false, []⟩ ∉
    (Run.outcome []
      (bedrockseedCrack ⟨false, false⟩ Solver.ideal [⟨0, -63, 0, 0⟩] 1)).2 :=
  (clauses_characterise bedrockKey).2.2 ⟨false, false⟩ Solver.ideal [⟨0, -63, 0, 0⟩] 1
    Solver.ideal_sound (by decide) (by decide) kept_bedrock

theorem not_throws_iff_usable_bedrock :
    ¬ Throws ⟨false, false⟩ Solver.ideal [⟨0, -63, 0, 0⟩] 1 ∧
      Throws ⟨false, false⟩ Solver.ideal [] 1 :=
  ⟨((not_throws_iff_usable ⟨false, false⟩ [⟨0, -63, 0, 0⟩] (by decide) (by decide)
      Solver.ideal_partial).2 (Solver.ideal_interprets _)).mpr ⟨0, usable_bedrock⟩,
    (not_throws_iff_usable ⟨false, false⟩ [] (by decide) (by decide)
      Solver.ideal_partial).1 (not_usable_nil 1)⟩

theorem throws_on_nil :
    (Solver.ideal : Solver Unknown 64).Partial ∧ Throws ⟨false, false⟩ Solver.ideal [] 31 :=
  ⟨Solver.ideal_partial, throws_of_not_usable ⟨false, false⟩ [] (by decide) (by decide)
    Solver.ideal_partial (not_usable_nil 31)⟩

end SeedCracking.Blocks
