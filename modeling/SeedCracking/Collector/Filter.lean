import SeedCracking.Blocks.Usable
import SeedCracking.Collector.Scan

/-! Whether the collector drops anything that an observation rule would use. -/

namespace SeedCracking.Collector

open Blocks SeedCracking.Lists Std

def kept (y : Int) (typ : BlockType) : Bool :=
  (typ ≠ .STONE && typ ≠ .DEEPSLATE) || (1 ≤ y && y ≤ 7)

theorem recorded_eq_kept {y : Int} {b : Block} {typ : BlockType}
    (h : (STATES_FULL b).map BlockType.ofInt = some typ) : recorded y b = kept y typ := by
  cases b with
  | other => cases h
  | _ =>
    cases h
    simp [recorded, kept, STATES, STATES_FULL, BlockType.ofInt, BedrockNative.BEDROCK,
      BedrockNative.RAW, BedrockNative.ORE, BedrockNative.FILL, BedrockNative.STONE,
      BedrockNative.DEEPSLATE]

section Drop

variable (world : Point → Block) (chunks : List ChunkPos)

theorem typeAt_recorded (p : Point) :
    typeAt (entriesOf recorded world chunks) p =
      (typeAt (entriesOf full world chunks) p).filter (kept p.2.1) := by
  apply Option.ext
  intro typ
  rw [Option.filter_eq_some_iff, typeAt_entriesOf, typeAt_entriesOf]
  constructor
  · rintro ⟨hcov, hrec, htyp⟩
    rw [recorded_eq_kept htyp] at hrec
    obtain ⟨n, hn, -⟩ := Option.map_eq_some_iff.mp htyp
    exact ⟨⟨hcov, by rw [full, hn]; rfl, htyp⟩, hrec⟩
  · rintro ⟨⟨hcov, -, htyp⟩, hkept⟩
    exact ⟨hcov, by rw [recorded_eq_kept htyp, hkept], htyp⟩

theorem typeAt_recorded_eq {typ : BlockType} (h : ∀ y, kept y typ = true) (p : Point) :
    typeAt (entriesOf recorded world chunks) p = some typ ↔
      typeAt (entriesOf full world chunks) p = some typ := by
  rw [typeAt_recorded, Option.filter_eq_some_iff, h, and_iff_left rfl]

theorem blocksOf_recorded :
    (blocksOf (entriesOf recorded world chunks)).toList =
      (blocksOf (entriesOf full world chunks)).toList.filter fun b => kept b.1.2.1 b.2 := by
  have hfind : ∀ q : Point, (blocksOf (entriesOf recorded world chunks))[q]? =
      (blocksOf (entriesOf full world chunks))[q]?.filter (kept q.2.1) := by
    intro q
    rw [blocksOf_find, blocksOf_find, typeAt_recorded]
  exact toList_eq_filter hfind

theorem confirmed_recorded (p : Point) :
    confirmed (typeAt (entriesOf recorded world chunks)) p ↔
      confirmed (typeAt (entriesOf full world chunks)) p := by
  have hadj : ∀ typ, (∀ y, kept y typ = true) →
      adj (typeAt (entriesOf recorded world chunks)) typ p =
        adj (typeAt (entriesOf full world chunks)) typ p := by
    intro typ htyp
    refine List.countP_congr fun q _ => ?_
    rw [decide_eq_true_eq, decide_eq_true_eq, typeAt_recorded_eq world chunks htyp]
  rw [confirmed, confirmed, hadj .ORE fun _ => rfl, hadj .FILL fun _ => rfl, hadj .RAW fun _ => rfl]

theorem maybe_veins_recorded (mode : Nat) :
    (scan (blocksOf (entriesOf recorded world chunks)) mode).maybe_veins.toList =
      (scan (blocksOf (entriesOf full world chunks)) mode).maybe_veins.toList := by
  apply TreeSet.Equiv.toList_eq
  apply TreeSet.Equiv.of_forall_mem_iff
  intro p
  have hraw := @typeAt_recorded_eq world chunks .RAW fun _ => rfl
  simp only [mem_maybe_veins, blocksOf_find, hraw]

theorem atVein_recorded (push : Nat → BitVec 64 → Option BlockType → List Observation)
    (hpush : ∀ mode xv, push mode xv (some .STONE) = push mode xv none ∧
      push mode xv (some .DEEPSLATE) = push mode xv none) (mode : Nat) :
    atVein push mode (typeAt (entriesOf recorded world chunks)) =
      atVein push mode (typeAt (entriesOf full world chunks)) := by
  funext p
  rw [atVein, atVein, typeAt_recorded]
  refine if_congr (confirmed_recorded world chunks p) ?_ rfl
  cases typeAt (entriesOf full world chunks) p with
  | none => rfl
  | some typ =>
    rw [Option.filter_some]
    split
    case isTrue => rfl
    case isFalse h =>
      cases typ with
      | STONE => exact (hpush mode _).1.symm
      | DEEPSLATE => exact (hpush mode _).2.symm
      | _ => exact absurd rfl h

theorem observations_recorded (mode : Nat) {k : Fin 5} (hk : k ≠ 0) :
    observations (entriesOf recorded world chunks) mode k =
      observations (entriesOf full world chunks) mode k := by
  have hvein := atVein_recorded world chunks veinPush (by simp [veinPush, isVein]) mode
  have hore := atVein_recorded world chunks orePush (by simp [orePush]) mode
  have hraw := atVein_recorded world chunks rawPush (by simp [rawPush]) mode
  have hcases : ∀ k : Fin 5, k ≠ 0 → k = 1 ∨ k = 2 ∨ k = 3 ∨ k = 4 := by decide
  rcases hcases k hk with rfl | rfl | rfl | rfl
  · change (scan _ mode).xvs2 = (scan _ mode).xvs2
    rw [scan_xvs2, scan_xvs2, blocksOf_recorded, flatMap_filter_eq_iff]
    rintro ⟨p, typ⟩ - hdrop
    by_contra hne
    obtain ⟨-, hlo, hhi, -⟩ := (deepslateRule_ne_nil mode).mp hne
    simp [kept, hlo, hhi] at hdrop
  · change (veins _ mode).xvs3 = (veins _ mode).xvs3
    rw [veins_xvs3, veins_xvs3, find_blocksOf, find_blocksOf, hvein, maybe_veins_recorded]
  · change (veins _ mode).xvs4 = (veins _ mode).xvs4
    rw [veins_xvs4, veins_xvs4, find_blocksOf, find_blocksOf, hore, maybe_veins_recorded]
  · change (veins _ mode).xvs5 = (veins _ mode).xvs5
    rw [veins_xvs5, veins_xvs5, find_blocksOf, find_blocksOf, hraw, maybe_veins_recorded]

def FloorDeepslate (p : Point) : Prop :=
  Covered chunks p ∧ -63 ≤ p.2.1 ∧ p.2.1 ≤ -60 ∧ world p = .DEEPSLATE

theorem typeAt_full_deepslate {p : Point} :
    typeAt (entriesOf full world chunks) p = some .DEEPSLATE ↔
      Covered chunks p ∧ world p = .DEEPSLATE := by
  rw [typeAt_entriesOf]
  cases world p <;> simp [full, STATES_FULL, STATES, BlockType.ofInt, BedrockNative.BEDROCK,
      BedrockNative.RAW, BedrockNative.ORE, BedrockNative.FILL, BedrockNative.STONE,
      BedrockNative.DEEPSLATE]

theorem observations_recorded_bedrock (mode : Nat) :
    observations (entriesOf recorded world chunks) mode 0 =
        observations (entriesOf full world chunks) mode 0 ↔
      mode &&& 1 = 0 ∨ ∀ p, ¬ FloorDeepslate world chunks p := by
  change (scan _ mode).xvs1 = (scan _ mode).xvs1 ↔ _
  rw [scan_xvs1, scan_xvs1, blocksOf_recorded, flatMap_filter_eq_iff]
  constructor
  · intro h
    by_contra hno
    obtain ⟨hmode, hfloor⟩ := not_or.mp hno
    obtain ⟨p, hp⟩ := not_forall_not.mp hfloor
    obtain ⟨hcov, hlo, hhi, hp⟩ := hp
    have hmem := (mem_blocksOf _).mpr ((typeAt_full_deepslate world chunks).mpr ⟨hcov, hp⟩)
    refine (bedrockRule_ne_nil mode).mpr ⟨hmode, hlo, hhi, Or.inr rfl⟩ (h _ hmem ?_)
    have h1 : ¬ 1 ≤ p.2.1 := by omega
    simp [kept, h1]
  · rintro h ⟨p, typ⟩ hmem hdrop
    by_contra hne
    obtain ⟨hmode, hlo, hhi, rfl | rfl⟩ := (bedrockRule_ne_nil mode).mp hne
    · cases hdrop
    · obtain ⟨hcov, hp⟩ := (typeAt_full_deepslate world chunks).mp ((mem_blocksOf _).mp hmem)
      rcases h with h | h
      · exact hmode h
      · exact h p ⟨hcov, hlo, hhi, hp⟩

/-- The collector drops only unused blocks exactly when the bedrock channel is off or the floor
has no deepslate. -/
theorem collector_agrees_iff (mode : Nat) :
    (∀ k, observations (entriesOf recorded world chunks) mode k =
        observations (entriesOf full world chunks) mode k) ↔
      mode &&& 1 = 0 ∨ ∀ p, ¬ FloorDeepslate world chunks p := by
  rw [← observations_recorded_bedrock world chunks mode]
  constructor
  · exact fun h => h 0
  · intro h k
    by_cases hk : k = 0
    · rw [hk, h]
    · exact observations_recorded world chunks mode hk

end Drop

theorem collector_drops_deepslate :
    let world : Point → Block := fun p => if p = (0, -63, 0) then .DEEPSLATE else .other
    observations (entriesOf recorded world [⟨0, 0⟩]) 1 0 ≠
      observations (entriesOf full world [⟨0, 0⟩]) 1 0 := by
  intro world h
  rcases (observations_recorded_bedrock world [⟨0, 0⟩] 1).mp h with hmode | hfloor
  · cases hmode
  · refine hfloor (0, -63, 0) ⟨⟨⟨0, 0⟩, List.mem_singleton_self _, ?_⟩, by decide, by decide, rfl⟩
    rw [ChunkPos.mem_points]
    decide

end SeedCracking.Collector
