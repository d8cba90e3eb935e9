import SeedCracking.Blocks.Partial
import SeedCracking.Blocks.Thresholds

/-! How well a generator state fits the blocks that it has placed. -/

namespace SeedCracking.Blocks

open SeedCracking.Lists Xoroshiro

def channelKey : Fin 5 → State := ![bedrockKey, deepslateKey, oreKey, oreKey, oreKey]

def positionalDraw (I key : State) (n : Nat) (p : Point) : ℚ :=
  let s := forkPositional (I ^^^ key)
  draw (State.next^[n] ⟨s.lo ^^^ seedAt p, s.hi⟩)

def drawAt (I : State) (k : Fin 5) : Point → ℚ :=
  positionalDraw I (channelKey k) (iterOf (k + 1))

/-- What every block tells is true of its draw.  Where a search takes blocks for a vein, the state
has placed one. -/
def Placed (I : State) (find : Point → Option BlockType) : Prop :=
  ∀ k p ret, Tells find k p ret → (drawAt I k p < odds k p.2.1 ret ↔ ret = true)

theorem channelState_eq (I : State) (k : Fin 5) :
    channelState I k = State.next^[iterOf (k + 1)] (forkPositional (I ^^^ channelKey k)) := by
  match k with
  | 0 | 1 | 2 | 3 | 4 => rfl

theorem get_channelState (I : State) (k : Fin 5) (p : Point) (thr : ℚ) :
    get (iterOf (k + 1)) (channelState I k).lo (channelState I k).hi (seedAt p) thr = true ↔
      drawAt I k p < thr := by
  rw [channelState_eq]
  exact get_iterate _ _ _ (seedAt p) thr

section Part

variable {find find' : Point → Option BlockType} (h : Part find find')
include h

theorem Part.vein {p : Point} (hvein : (∃ q, find q = some .RAW ∧ p ∈ box 3 q) ∧ confirmed find p) :
    (∃ q, find' q = some .RAW ∧ p ∈ box 3 q) ∧ confirmed find' p := by
  obtain ⟨⟨q, hraw, hbox⟩, hconf⟩ := hvein
  exact ⟨⟨q, h q .RAW hraw, hbox⟩, h.confirmed_mono hconf⟩

/-- Only a missing block of a vein tells something else than it does in the whole. -/
theorem Part.tells {k : Fin 5} {p : Point} {ret : Bool} (htells : Tells find k p ret)
    (hknown : k.val = 2 → find p = none → isVein (find' p) = false) : Tells find' k p ret := by
  match k with
  | 0 => exact ⟨htells.1, h p _ htells.2⟩
  | 1 => exact ⟨htells.1, h p _ htells.2⟩
  | 2 =>
    obtain ⟨hvein, rfl⟩ := htells
    refine ⟨h.vein hvein, ?_⟩
    cases hp : find p with
    | none =>
      rw [hknown rfl hp]
      rfl
    | some typ => rw [h p typ hp]
  | 3 =>
    obtain ⟨hvein, htyp⟩ := htells
    refine ⟨h.vein hvein, ?_⟩
    cases ret with
    | true => exact htyp.imp (h p _) (h p _)
    | false => exact h p _ htyp
  | 4 => exact ⟨h.vein htells.1, h p _ htells.2⟩

end Part

section Score

variable {I : State} {find : Point → Option BlockType} {entries : List BlockEntry}

/-- The vein positions whose block is missing. -/
def missing (find : Point → Option BlockType) (entries : List BlockEntry) (k : Fin 5) : Nat :=
  if k.val = 2 then
    (veinPositions entries).countP fun p => typeAt entries p = none ∧ isVein (find p) = true
  else 0

theorem get_of_tells (hplaced : Placed I find) {k : Fin 5} {p : Point} {ret : Bool} {thr : ℚ}
    (htells : Tells find k p ret) (halike : Alike thr (odds k p.2.1 ret)) :
    get (iterOf (k + 1)) (channelState I k).lo (channelState I k).hi (seedAt p) thr = ret := by
  rw [halike.get_eq, Bool.eq_iff_iff, get_channelState]
  exact hplaced k p ret htells

theorem fit_vein_le (h : Part (typeAt entries) find) (hplaced : Placed I find) :
    fit 3 (observations entries 31 2) (channelState I 2).lo (channelState I 2).hi ≤
      missing find entries 2 := by
  have hmissing : missing find entries 2 = (veinPositions entries).countP fun p =>
      typeAt entries p = none ∧ isVein (find p) = true := if_pos rfl
  rw [fit_eq (by decide), observations_vein, List.map_map, hmissing]
  refine sum_map_le_countP fun p hp => ?_
  rw [Function.comp_apply, weight, if_neg (by simp), mul_one]
  split
  case isTrue =>
    rcases miss_cases (iterOf 3) (channelState I 2).lo (channelState I 2).hi
      ⟨seedAt p, Rounding.float64 0.7, isVein (typeAt entries p)⟩ with hmiss | hmiss <;>
      simp [hmiss]
  case isFalse hknown =>
    have htells : Tells (typeAt entries) 2 p (isVein (typeAt entries p)) :=
      ⟨(mem_veinPositions entries).mp hp, rfl⟩
    have htells' := h.tells htells fun _ hnone => by simpa [hnone] using hknown
    have hget : get (iterOf 3) (channelState I 2).lo (channelState I 2).hi (seedAt p)
        (Rounding.float64 0.7) = isVein (typeAt entries p) :=
      get_of_tells hplaced htells' (alike_vein p.2.1 _)
    simp [miss, hget]

theorem fit_le_missing (h : Part (typeAt entries) find) (hplaced : Placed I find) (k : Fin 5) :
    fit (k + 1) (observations entries 31 k) (channelState I k).lo (channelState I k).hi ≤
      missing find entries k := by
  by_cases hk : k.val = 2
  · obtain rfl : k = 2 := Fin.ext hk
    exact fit_vein_le h hplaced
  · have hmode : k.val + 1 ≤ 5 := k.isLt
    refine le_of_eq_of_le ((fit_eq_zero hmode).mpr fun o ho => ?_) (Int.natCast_nonneg _)
    obtain ⟨ideal, hideal⟩ := idealized_observations entries 31 k ho
    obtain ⟨p, htells, hxv, hodds⟩ := hideal.position
    have htells' := h.tells htells fun h2 => absurd h2 hk
    have halike := hideal.alike
    rw [hodds] at halike
    rw [hxv]
    exact get_of_tells hplaced htells' halike

end Score

end SeedCracking.Blocks
