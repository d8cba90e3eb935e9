import SeedCracking.Blocks.Draw
import Mathlib.Data.List.Sort

/-! The beam search for the known bits of one channel. -/

namespace SeedCracking.Blocks

open Rounding

structure BeamEntry where
  nbits : Nat
  w1 : BitVec 64
  w2 : BitVec 64
  w3 : BitVec 64
  score : Int

def BeamEntry.next (e : BeamEntry) : List BeamEntry :=
  if e.nbits < 17 then
    (List.range 8).map fun i =>
      ⟨e.nbits + 1, 2 * e.w1 + BitVec.ofNat 64 (i / 4), 2 * e.w2 + BitVec.ofNat 64 (i / 2 % 2),
        2 * e.w3 + BitVec.ofNat 64 (i % 2), 0⟩
  else
    (List.range 4).map fun i =>
      ⟨e.nbits + 1, 2 * e.w1, 2 * e.w2 + BitVec.ofNat 64 (i / 2 % 2),
        2 * e.w3 + BitVec.ofNat 64 (i % 2), 0⟩

section Score

variable (mode : Nat) (xvs : List Observation)

def miss (ITER : Nat) (seedlo seedhi : BitVec 64) (o : Observation) : Int :=
  if get ITER seedlo seedhi o.xv o.p != o.ret then 1 else 0

def fit (seedlo seedhi : BitVec 64) : Int :=
  if mode ≤ 3 then (xvs.map (miss 0 seedlo seedhi)).sum
  else if mode = 4 then (xvs.map (miss 1 seedlo seedhi)).sum
  else if mode = 5 then
    -- increased weight of the rare class
    (xvs.map fun o => miss 2 seedlo seedhi o * if o.ret then 50 else 1).sum
  else 0

def scored (e : BeamEntry) : BeamEntry :=
  let seedlo := e.w1 <<< (64 - e.nbits) ||| e.w2 <<< (64 - 17 - e.nbits)
  let seedhi := e.w3 <<< (64 - 17 - e.nbits)
  { e with score := fit mode xvs seedlo seedhi }

def keep : Nat := 1000

/-- One round: expand, score, sort stably and cut. -/
def beamRound (cur : List BeamEntry) : List BeamEntry :=
  (((cur.flatMap BeamEntry.next).map (scored mode xvs)).mergeSort
    fun a b => a.score ≤ b.score).take keep

/-- No point in continuing: `front.score >= back.score * 0.95`, compared as doubles. -/
def levelled (next : List BeamEntry) : Bool :=
  match next.head?, next.getLast? with
  | some front, some back =>
    float64 front.score ≥ float64 (float64 back.score * float64 (95 / 100))
  | _, _ => false

def beamLoop : (fuel iters : Nat) → List BeamEntry → Nat × List BeamEntry
  | 0, iters, cur => (iters, cur)
  | fuel + 1, iters, cur =>
    let next := beamRound mode xvs cur
    if iters > 6 ∧ levelled next then (iters, cur) else beamLoop fuel (iters + 1) next

def beam : Nat × List BeamEntry := beamLoop mode xvs 21 0 [⟨0, 0, 0, 0, 0⟩]

end Score

/-- What every entry of level `n` looks like: three numbers below `2^n`, of which the first
ends in zeros from level 17 on. -/
structure BeamEntry.Shape (n : Nat) (e : BeamEntry) : Prop where
  nbits : e.nbits = n
  w1 : e.w1.toNat < 2 ^ n
  w1_pad : 2 ^ (n - 17) ∣ e.w1.toNat
  w2 : e.w2.toNat < 2 ^ n
  w3 : e.w3.toNat < 2 ^ n

theorem toNat_append_bit {n b : Nat} {w : BitVec 64} (hn : n ≤ 20) (hw : w.toNat < 2 ^ n)
    (hb : b < 2) : (2 * w + BitVec.ofNat 64 b).toNat = 2 * w.toNat + b := by
  have hpow : 2 ^ n ≤ 2 ^ 20 := Nat.pow_le_pow_right (by decide) hn
  have htwo : (2 : BitVec 64).toNat = 2 := rfl
  rw [BitVec.toNat_add, BitVec.toNat_mul, BitVec.toNat_ofNat, htwo]
  omega

theorem toNat_double {n : Nat} {w : BitVec 64} (hn : n ≤ 20) (hw : w.toNat < 2 ^ n) :
    (2 * w).toNat = 2 * w.toNat := by
  have h := toNat_append_bit (b := 0) hn hw (by decide)
  rwa [BitVec.ofNat_eq_ofNat, BitVec.add_zero] at h

theorem toNat_append_bit_lt {n b : Nat} {w : BitVec 64} (hn : n ≤ 20) (hw : w.toNat < 2 ^ n)
    (hb : b < 2) : (2 * w + BitVec.ofNat 64 b).toNat < 2 ^ (n + 1) := by
  rw [toNat_append_bit hn hw hb, Nat.pow_succ]
  omega

theorem BeamEntry.Shape.next {n : Nat} {e : BeamEntry} (h : e.Shape n) (hn : n ≤ 20)
    {e' : BeamEntry} (he' : e' ∈ e.next) : e'.Shape (n + 1) := by
  have hnbits := h.nbits
  have hbit : ∀ i : Nat, i % 2 < 2 := fun i => Nat.mod_lt i (by decide)
  rw [BeamEntry.next] at he'
  split at he'
  case isTrue hlt =>
    obtain ⟨i, hi, rfl⟩ := List.mem_map.mp he'
    have hi4 : i / 4 < 2 := Nat.div_lt_of_lt_mul (List.mem_range.mp hi)
    have hpad : n + 1 - 17 = 0 := by omega
    refine ⟨congrArg (· + 1) hnbits, toNat_append_bit_lt hn h.w1 hi4, ?_,
      toNat_append_bit_lt hn h.w2 (hbit _), toNat_append_bit_lt hn h.w3 (hbit _)⟩
    rw [hpad]
    exact Nat.one_dvd _
  case isFalse hge =>
    obtain ⟨i, hi, rfl⟩ := List.mem_map.mp he'
    have hw1 := toNat_double hn h.w1
    have hpad : n + 1 - 17 = (n - 17) + 1 := by omega
    refine ⟨congrArg (· + 1) hnbits, ?_, ?_,
      toNat_append_bit_lt hn h.w2 (hbit _), toNat_append_bit_lt hn h.w3 (hbit _)⟩
    · have hlt := h.w1
      rw [hw1, Nat.pow_succ]
      omega
    · rw [hpad, hw1, Nat.pow_succ, Nat.mul_comm]
      exact Nat.mul_dvd_mul_left 2 h.w1_pad

theorem BeamEntry.Shape.scored {n : Nat} {e : BeamEntry} (h : e.Shape n) (mode : Nat)
    (xvs : List Observation) : (Blocks.scored mode xvs e).Shape n :=
  ⟨h.nbits, h.w1, h.w1_pad, h.w2, h.w3⟩

section Loop

variable {mode : Nat} {xvs : List Observation}

theorem mem_beamRound {cur : List BeamEntry} {e : BeamEntry} (he : e ∈ beamRound mode xvs cur) :
    ∃ e₀ ∈ cur, ∃ e₁ ∈ e₀.next, scored mode xvs e₁ = e := by
  have hsort := List.mem_mergeSort.mp (List.mem_of_mem_take he)
  obtain ⟨e₁, he₁, rfl⟩ := List.mem_map.mp hsort
  obtain ⟨e₀, he₀, he₁⟩ := List.mem_flatMap.mp he₁
  exact ⟨e₀, he₀, e₁, he₁, rfl⟩

theorem beamRound_shape {cur : List BeamEntry} {n : Nat} (hn : n ≤ 20)
    (h : ∀ e ∈ cur, e.Shape n) : ∀ e ∈ beamRound mode xvs cur, e.Shape (n + 1) := by
  intro e he
  obtain ⟨e₀, he₀, e₁, he₁, rfl⟩ := mem_beamRound he
  exact ((h e₀ he₀).next hn he₁).scored mode xvs

theorem beamLoop_shape {fuel iters : Nat} {cur : List BeamEntry} (hfuel : fuel + iters = 21)
    (h : ∀ e ∈ cur, e.Shape iters) :
    7 ≤ (beamLoop mode xvs fuel iters cur).1 ∧ (beamLoop mode xvs fuel iters cur).1 ≤ 21 ∧
      ∀ e ∈ (beamLoop mode xvs fuel iters cur).2,
        e.Shape (beamLoop mode xvs fuel iters cur).1 := by
  induction fuel generalizing iters cur with
  | zero => exact ⟨by simp only [beamLoop]; omega, by simp only [beamLoop]; omega, h⟩
  | succ fuel ih =>
    rw [beamLoop]
    split
    case isTrue hexit => exact ⟨hexit.1, by omega, h⟩
    case isFalse => exact ih (by omega) (beamRound_shape (by omega) h)

theorem next_ne_nil (e : BeamEntry) : e.next ≠ [] := by
  rw [BeamEntry.next]
  split <;> exact List.cons_ne_nil _ _

theorem beamRound_ne_nil {cur : List BeamEntry} (h : cur ≠ []) : beamRound mode xvs cur ≠ [] := by
  obtain ⟨e, l, rfl⟩ := List.exists_cons_of_ne_nil h
  have hexpand : ((e :: l).flatMap BeamEntry.next).map (scored mode xvs) ≠ [] := by
    simp [next_ne_nil]
  have hpos := List.length_pos_of_ne_nil hexpand
  apply List.ne_nil_of_length_pos
  rw [beamRound, List.length_take, List.length_mergeSort]
  exact lt_min (by decide) hpos

theorem beamLoop_ne_nil {fuel iters : Nat} {cur : List BeamEntry} (h : cur ≠ []) :
    (beamLoop mode xvs fuel iters cur).2 ≠ [] := by
  induction fuel generalizing iters cur with
  | zero => exact h
  | succ fuel ih =>
    rw [beamLoop]
    split
    case isTrue => exact h
    case isFalse => exact ih (beamRound_ne_nil h)

theorem beam_ne_nil (mode : Nat) (xvs : List Observation) : (beam mode xvs).2 ≠ [] :=
  beamLoop_ne_nil (List.cons_ne_nil _ _)

theorem beam_shape (mode : Nat) (xvs : List Observation) :
    7 ≤ (beam mode xvs).1 ∧ (beam mode xvs).1 ≤ 21 ∧
      ∀ e ∈ (beam mode xvs).2, e.Shape (beam mode xvs).1 := by
  apply beamLoop_shape rfl
  intro e he
  rw [List.mem_singleton.mp he]
  exact ⟨rfl, by decide, by decide, by decide, by decide⟩

end Loop

end SeedCracking.Blocks
