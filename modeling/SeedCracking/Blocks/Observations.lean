import SeedCracking.Blocks.Draw
import SeedCracking.Lists.Basic
import SeedCracking.Words.IntLoop
import Mathlib.Data.Fin.VecNotation

/-! The five lists of observations that the collected blocks give. -/

namespace SeedCracking.Blocks

open SeedCracking.Lists Rounding Std Words

inductive BlockType
  | BEDROCK
  | RAW
  | ORE
  | FILL
  | STONE
  | DEEPSLATE
  | other (n : Int)
  deriving DecidableEq

def BlockType.ofInt : Int → BlockType
  | 0 => BEDROCK
  | 1 => RAW
  | 2 => ORE
  | 3 => FILL
  | 4 => STONE
  | 5 => DEEPSLATE
  | n => other n

structure BlockEntry where
  x : Int
  y : Int
  z : Int
  typ : Int

abbrev Point := Int × Int × Int

def pointCmp : Point → Point → Ordering :=
  compareLex (compareOn (·.1)) (compareLex (compareOn (·.2.1)) (compareOn (·.2.2)))

instance : TransCmp pointCmp := inferInstanceAs (TransCmp (compareLex _ _))

instance : LawfulEqCmp pointCmp where
  eq_of_compare := by
    rintro ⟨x, y, z⟩ ⟨x', y', z'⟩ h
    simp only [pointCmp, compareLex, compareOn, Ordering.then_eq_eq, Std.compare_eq_iff_eq] at h
    obtain ⟨rfl, rfl, rfl⟩ := h
    rfl

abbrev BlockMap := TreeMap Point BlockType pointCmp

def BlockEntry.point (e : BlockEntry) : Point := (e.x, e.y, e.z)

def blocksOf (entries : List BlockEntry) : BlockMap :=
  entries.foldl (fun blocks e => blocks.insert e.point (.ofInt e.typ)) ∅

def offsets (r : Nat) : List Int := (List.range (2 * r + 1)).map fun d : Nat => (d : Int) - r

/-- The positions around a position, in `int` arithmetic. -/
def box (r : Nat) (p : Point) : List Point :=
  (offsets r).flatMap fun dx => (offsets r).flatMap fun dy => (offsets r).map fun dz =>
    (int32 (p.1 + dx), int32 (p.2.1 + dy), int32 (p.2.2 + dz))

/-! ### The loop over the blocks -/

def bedrockThr (y : Int) : ℚ :=
  float32 (float64 ([0.8, 0.6, 0.4, 0.19999999999999996].getD (y + 63).toNat 0))

def deepslateThr (y : Int) : ℚ :=
  float32 (float64 ([0.875, 0.75, 0.625, 0.5, 0.375, 0.25, 0.125].getD (y - 1).toNat 0))

def bedrockRule (mode : Nat) (b : Point × BlockType) : List Observation :=
  let ((x, y, z), typ) := b
  if mode &&& 1 ≠ 0 ∧ -63 ≤ y ∧ y ≤ -60 then
    if typ = .BEDROCK then [⟨getSeed x y z, bedrockThr y, true⟩]
    else if typ = .DEEPSLATE then [⟨getSeed x y z, bedrockThr y, false⟩]
    else []
  else []

def deepslateRule (mode : Nat) (b : Point × BlockType) : List Observation :=
  let ((x, y, z), typ) := b
  if mode &&& 2 ≠ 0 ∧ 1 ≤ y ∧ y ≤ 7 then
    if typ = .DEEPSLATE then [⟨getSeed x y z, deepslateThr y, true⟩]
    else if typ = .STONE then [⟨getSeed x y z, deepslateThr y, false⟩]
    else []
  else []

structure Scan where
  xvs1 : List Observation
  xvs2 : List Observation
  maybe_veins : TreeSet Point pointCmp

def scanBlock (mode : Nat) (s : Scan) (b : Point × BlockType) : Scan where
  xvs1 := s.xvs1 ++ bedrockRule mode b
  xvs2 := s.xvs2 ++ deepslateRule mode b
  -- only boxes around raw ore blocks are investigated for being parts of veins
  maybe_veins :=
    if b.2 = .RAW then (box 3 b.1).foldl (fun s q => s.insert q) s.maybe_veins else s.maybe_veins

def scan (blocks : BlockMap) (mode : Nat) : Scan :=
  blocks.toList.foldl (scanBlock mode) ⟨[], [], ∅⟩

/-! ### The loop over the possible vein positions -/

def adj (find : Point → Option BlockType) (typ : BlockType) (p : Point) : Nat :=
  (box 1 p).countP fun q => find q = some typ

structure Veins where
  xvs3 : List Observation
  xvs4 : List Observation
  xvs5 : List Observation

def rawStep (mode : Nat) (xv : BitVec 64) (it : Option BlockType) (s : Veins) : Veins :=
  if mode &&& 16 ≠ 0 then
    match it with
    | none => s
    | some typ =>
      if typ = .RAW ∨ typ = .ORE then
        { s with xvs5 := s.xvs5 ++ [⟨xv, float64 0.02, typ = .RAW⟩] }
      else s
  else s

/-- Filler against ore, then the next step. -/
def oreStep (mode : Nat) (xv : BitVec 64) (it : Option BlockType) (s : Veins) : Veins :=
  if mode &&& 8 ≠ 0 then
    match it with
    | none => s -- not needed by the next step either
    | some typ =>
      let s :=
        if typ = .RAW ∨ typ = .ORE then { s with xvs4 := s.xvs4 ++ [⟨xv, float64 0.3, true⟩] }
        else if typ = .FILL then { s with xvs4 := s.xvs4 ++ [⟨xv, float64 0.1, false⟩] }
        else s
      rawStep mode xv it s
  else rawStep mode xv it s

def isVein (it : Option BlockType) : Bool :=
  it = some .RAW ∨ it = some .ORE ∨ it = some .FILL

def veinStep (mode : Nat) (find : Point → Option BlockType) (s : Veins) (p : Point) : Veins :=
  let adj_ore := adj find .ORE p
  let adj_filler := adj find .FILL p
  let adj_raw := adj find .RAW p
  if adj_ore + adj_filler + 3 * adj_raw < 18 then s
  else if adj_filler = 0 ∨ adj_ore = 0 ∧ adj_raw = 0 then s
  else
    let xv := getSeed p.1 p.2.1 p.2.2
    let it := find p
    let s :=
      if mode &&& 4 ≠ 0 then { s with xvs3 := s.xvs3 ++ [⟨xv, float64 0.7, isVein it⟩] } else s
    oreStep mode xv it s

def veins (blocks : BlockMap) (mode : Nat) : Veins :=
  (scan blocks mode).maybe_veins.toList.foldl (veinStep mode fun q => blocks[q]?) ⟨[], [], []⟩

def observations (entries : List BlockEntry) (mode : Nat) : Fin 5 → List Observation :=
  let blocks := blocksOf entries
  ![(scan blocks mode).xvs1, (scan blocks mode).xvs2, (veins blocks mode).xvs3,
    (veins blocks mode).xvs4, (veins blocks mode).xvs5]

/-! ### The lists in closed form -/

/-- The type of the last entry at a position. -/
def typeAt (entries : List BlockEntry) (p : Point) : Option BlockType :=
  (entries.reverse.find? fun e => e.point = p).map fun e => .ofInt e.typ

theorem blocksOf_find (entries : List BlockEntry) (p : Point) :
    (blocksOf entries)[p]? = typeAt entries p := by
  have h := getElem?_foldl_insert BlockEntry.point (fun e => BlockType.ofInt e.typ) entries
    (∅ : BlockMap) p
  rw [TreeMap.getElem?_emptyc, Option.or_none] at h
  exact h

theorem find_blocksOf (entries : List BlockEntry) :
    (fun q => (blocksOf entries)[q]?) = typeAt entries :=
  funext (blocksOf_find entries)

theorem mem_of_typeAt {entries : List BlockEntry} {p : Point} {typ : BlockType}
    (h : typeAt entries p = some typ) :
    ∃ e ∈ entries, e.point = p ∧ BlockType.ofInt e.typ = typ := by
  obtain ⟨e, he, htyp⟩ := Option.map_eq_some_iff.mp h
  have hp := List.find?_some he
  exact ⟨e, List.mem_reverse.mp (List.mem_of_find?_eq_some he), of_decide_eq_true hp, htyp⟩

theorem typeAt_eq_some_iff {entries : List BlockEntry}
    (hfun : ∀ e ∈ entries, ∀ e' ∈ entries, e.point = e'.point → e.typ = e'.typ) {p : Point}
    {typ : BlockType} :
    typeAt entries p = some typ ↔ ∃ e ∈ entries, e.point = p ∧ BlockType.ofInt e.typ = typ := by
  refine ⟨mem_of_typeAt, ?_⟩
  rintro ⟨e, he, rfl, rfl⟩
  rw [typeAt, Option.map_eq_some_iff]
  cases hfind : entries.reverse.find? fun e' => e'.point = e.point with
  | none => exact absurd (List.find?_eq_none.mp hfind e (List.mem_reverse.mpr he)) (by simp)
  | some e' =>
    have he' := List.mem_reverse.mp (List.mem_of_find?_eq_some hfind)
    have hp := List.find?_some hfind
    exact ⟨e', rfl, congrArg BlockType.ofInt (hfun e' he' e he (of_decide_eq_true hp))⟩

/-- Enough vein blocks of both kinds lie around a position. -/
def confirmed (find : Point → Option BlockType) (p : Point) : Prop :=
  18 ≤ adj find .ORE p + adj find .FILL p + 3 * adj find .RAW p ∧
    adj find .FILL p ≠ 0 ∧ (adj find .ORE p ≠ 0 ∨ adj find .RAW p ≠ 0)

instance (find : Point → Option BlockType) (p : Point) : Decidable (confirmed find p) :=
  inferInstanceAs (Decidable (_ ∧ _))

def veinPush (mode : Nat) (xv : BitVec 64) (it : Option BlockType) : List Observation :=
  if mode &&& 4 ≠ 0 then [⟨xv, float64 0.7, isVein it⟩] else []

def orePush (mode : Nat) (xv : BitVec 64) (it : Option BlockType) : List Observation :=
  if mode &&& 8 ≠ 0 then
    match it with
    | some .RAW | some .ORE => [⟨xv, float64 0.3, true⟩]
    | some .FILL => [⟨xv, float64 0.1, false⟩]
    | _ => []
  else []

def rawPush (mode : Nat) (xv : BitVec 64) (it : Option BlockType) : List Observation :=
  if mode &&& 16 ≠ 0 then
    match it with
    | some .RAW => [⟨xv, float64 0.02, true⟩]
    | some .ORE => [⟨xv, float64 0.02, false⟩]
    | _ => []
  else []

def atVein (push : Nat → BitVec 64 → Option BlockType → List Observation) (mode : Nat)
    (find : Point → Option BlockType) (p : Point) : List Observation :=
  if confirmed find p then push mode (getSeed p.1 p.2.1 p.2.2) (find p) else []

section Closed

variable (blocks : BlockMap) (mode : Nat)

theorem scan_xvs1 : (scan blocks mode).xvs1 = blocks.toList.flatMap (bedrockRule mode) :=
  foldl_append Scan.xvs1 (fun _ _ => rfl) blocks.toList ⟨[], [], ∅⟩

theorem scan_xvs2 : (scan blocks mode).xvs2 = blocks.toList.flatMap (deepslateRule mode) :=
  foldl_append Scan.xvs2 (fun _ _ => rfl) blocks.toList ⟨[], [], ∅⟩

theorem mem_scanBlock (s : Scan) (b : Point × BlockType) (p : Point) :
    p ∈ (scanBlock mode s b).maybe_veins ↔ p ∈ s.maybe_veins ∨ b.2 = .RAW ∧ p ∈ box 3 b.1 := by
  have hround : ∀ (t : TreeSet Point pointCmp) q, p ∈ t.insert q ↔ p ∈ t ∨ q = p := by
    intro t q
    rw [TreeSet.mem_insert, LawfulEqCmp.compare_eq_iff_eq, or_comm]
  have hbox := foldl_or (p ∈ ·) hround (box 3 b.1) s.maybe_veins
  rw [scanBlock]
  simp only
  split
  case isTrue h => simp [hbox, h]
  case isFalse h => simp [h]

theorem mem_maybe_veins (p : Point) :
    p ∈ (scan blocks mode).maybe_veins ↔ ∃ q, blocks[q]? = some .RAW ∧ p ∈ box 3 q := by
  rw [scan, foldl_or (p ∈ Scan.maybe_veins ·) fun s b => mem_scanBlock mode s b p]
  constructor
  · rintro (hp | ⟨⟨q, typ⟩, hq, rfl, hp⟩)
    · exact absurd hp TreeSet.not_mem_emptyc
    · exact ⟨q, TreeMap.mem_toList_iff_getElem?_eq_some.mp hq, hp⟩
  · rintro ⟨q, hq, hp⟩
    exact Or.inr ⟨(q, .RAW), TreeMap.mem_toList_iff_getElem?_eq_some.mpr hq, rfl, hp⟩

theorem rawStep_eq (xv : BitVec 64) (it : Option BlockType) (s : Veins) :
    rawStep mode xv it s = { s with xvs5 := s.xvs5 ++ rawPush mode xv it } := by
  by_cases hmode : mode &&& 16 = 0
  · simp [rawStep, rawPush, hmode]
  · cases it with
    | none => simp [rawStep, rawPush]
    | some typ => cases typ <;> simp [rawStep, rawPush, hmode]

theorem oreStep_eq (xv : BitVec 64) (it : Option BlockType) (s : Veins) :
    oreStep mode xv it s =
      { s with xvs4 := s.xvs4 ++ orePush mode xv it, xvs5 := s.xvs5 ++ rawPush mode xv it } := by
  by_cases hmode : mode &&& 8 = 0
  · simp [oreStep, orePush, hmode, rawStep_eq]
  · cases it with
    -- the early exit skips nothing: without a block there is no raw observation either
    | none => simp [oreStep, orePush, hmode, rawPush]
    | some typ => cases typ <;> simp [oreStep, orePush, hmode, rawStep_eq]

theorem veinStep_eq (find : Point → Option BlockType) (s : Veins) (p : Point) :
    veinStep mode find s p =
      ⟨s.xvs3 ++ atVein veinPush mode find p, s.xvs4 ++ atVein orePush mode find p,
        s.xvs5 ++ atVein rawPush mode find p⟩ := by
  by_cases hconf : confirmed find p
  · have h18 := Nat.not_lt.mpr hconf.1
    have hboth := hconf.2
    simp only [atVein, if_pos hconf, veinStep]
    rw [if_neg h18, if_neg (by omega), oreStep_eq, veinPush]
    split <;> simp
  · have hskip : veinStep mode find s p = s := by
      rw [confirmed] at hconf
      rw [veinStep]
      simp only
      split
      case isTrue => rfl
      case isFalse h18 => rw [if_pos (by omega)]
    simp [hskip, atVein, hconf]

theorem veins_xvs3 : (veins blocks mode).xvs3 =
    (scan blocks mode).maybe_veins.toList.flatMap (atVein veinPush mode fun q => blocks[q]?) :=
  foldl_append Veins.xvs3 (fun s p => congrArg Veins.xvs3 (veinStep_eq mode _ s p)) _ ⟨[], [], []⟩

theorem veins_xvs4 : (veins blocks mode).xvs4 =
    (scan blocks mode).maybe_veins.toList.flatMap (atVein orePush mode fun q => blocks[q]?) :=
  foldl_append Veins.xvs4 (fun s p => congrArg Veins.xvs4 (veinStep_eq mode _ s p)) _ ⟨[], [], []⟩

theorem veins_xvs5 : (veins blocks mode).xvs5 =
    (scan blocks mode).maybe_veins.toList.flatMap (atVein rawPush mode fun q => blocks[q]?) :=
  foldl_append Veins.xvs5 (fun s p => congrArg Veins.xvs5 (veinStep_eq mode _ s p)) _ ⟨[], [], []⟩

end Closed

end SeedCracking.Blocks
