import SeedCracking.Blocks.Packing

/-! What the beam search has kept after each round, and what it returns whichever round it leaves
after. -/

namespace SeedCracking.Blocks

open Words

deriving instance DecidableEq for BeamEntry

def BeamEntry.fields (e : BeamEntry) : BitVec 64 × BitVec 64 × BitVec 64 := (e.w1, e.w2, e.w3)

section Levels

variable (mode : Nat) (xvs : List Observation)

def level : Nat → List BeamEntry
  | 0 => [⟨0, 0, 0, 0, 0⟩]
  | n + 1 => beamRound mode xvs (level n)

def generated (n : Nat) : List BeamEntry :=
  ((level mode xvs n).flatMap BeamEntry.next).map (scored mode xvs)

variable {mode xvs}

theorem beamLoop_level (fuel iters : Nat) :
    (beamLoop mode xvs fuel iters (level mode xvs iters)).2 =
      level mode xvs (beamLoop mode xvs fuel iters (level mode xvs iters)).1 := by
  induction fuel generalizing iters with
  | zero => rfl
  | succ fuel ih =>
    rw [beamLoop]
    split
    case isTrue => rfl
    case isFalse => exact ih (iters + 1)

theorem beam_level : (beam mode xvs).2 = level mode xvs (beam mode xvs).1 :=
  beamLoop_level 21 0

theorem level_shape {n : Nat} (hn : n ≤ 21) : ∀ e ∈ level mode xvs n, e.Shape n := by
  induction n with
  | zero =>
    intro e he
    rw [List.mem_singleton.mp he]
    exact ⟨rfl, by decide, by decide, by decide, by decide⟩
  | succ n ih => exact beamRound_shape (by omega) (ih (by omega))

theorem generated_shape {n : Nat} (hn : n ≤ 20) : ∀ e ∈ generated mode xvs n, e.Shape (n + 1) := by
  intro e he
  obtain ⟨e₁, he₁, rfl⟩ := List.mem_map.mp he
  obtain ⟨e₀, he₀, he₁⟩ := List.mem_flatMap.mp he₁
  exact ((level_shape (by omega) e₀ he₀).next hn he₁).scored mode xvs

end Levels

theorem half_append_bit {n b : Nat} {w : BitVec 64} (hn : n ≤ 20) (hw : w.toNat < 2 ^ n)
    (hb : b < 2) : (2 * w + BitVec.ofNat 64 b) >>> 1 = w := by
  apply BitVec.eq_of_toNat_eq
  rw [BitVec.toNat_ushiftRight, toNat_append_bit hn hw hb, Nat.shiftRight_eq_div_pow]
  omega

theorem append_bit_half {x w : BitVec 64} (h : x >>> 1 = w) :
    2 * w + BitVec.ofNat 64 (x.toNat % 2) = x := by
  have hx := x.isLt
  have htwo : (2 : BitVec 64).toNat = 2 := rfl
  apply BitVec.eq_of_toNat_eq
  rw [← h, BitVec.toNat_add, BitVec.toNat_mul, BitVec.toNat_ushiftRight, BitVec.toNat_ofNat,
    Nat.shiftRight_eq_div_pow, htwo]
  omega

theorem double_half {n : Nat} {w : BitVec 64} (hn : n ≤ 20) (hw : w.toNat < 2 ^ n) :
    (2 * w) >>> 1 = w ∧ (2 * w).toNat % 2 = 0 := by
  have hhalf := half_append_bit (b := 0) hn hw (by decide)
  rw [BitVec.add_zero] at hhalf
  refine ⟨hhalf, ?_⟩
  rw [toNat_double hn hw, Nat.mul_mod_right]

theorem index_bits (a : Nat) {b c : Nat} (hb : b < 2) (hc : c < 2) :
    (4 * a + 2 * b + c) / 4 = a ∧ (4 * a + 2 * b + c) / 2 % 2 = b ∧
      (4 * a + 2 * b + c) % 2 = c := by
  omega

section Children

variable {n : Nat} (hn : n ≤ 20) {e : BeamEntry} (h : e.Shape n)

include hn h

theorem fields_of_mem_next {e' : BeamEntry} (he' : e' ∈ e.next) :
    (e'.w1 >>> 1, e'.w2 >>> 1, e'.w3 >>> 1) = e.fields ∧ (17 ≤ n → e'.w1.toNat % 2 = 0) := by
  have hbit : ∀ i : Nat, i % 2 < 2 := fun i => Nat.mod_lt i (by decide)
  rw [BeamEntry.next, h.nbits] at he'
  split at he'
  case isTrue hlt =>
    obtain ⟨i, hi, rfl⟩ := List.mem_map.mp he'
    have hi4 : i / 4 < 2 := Nat.div_lt_of_lt_mul (List.mem_range.mp hi)
    refine ⟨?_, fun h17 => by omega⟩
    rw [half_append_bit hn h.w1 hi4, half_append_bit hn h.w2 (hbit _),
      half_append_bit hn h.w3 (hbit _), BeamEntry.fields]
  case isFalse =>
    obtain ⟨i, hi, rfl⟩ := List.mem_map.mp he'
    obtain ⟨hhalf, heven⟩ := double_half hn h.w1
    refine ⟨?_, fun _ => heven⟩
    rw [hhalf, half_append_bit hn h.w2 (hbit _), half_append_bit hn h.w3 (hbit _),
      BeamEntry.fields]

omit hn in
theorem mem_next_of_fields {w1 w2 w3 : BitVec 64} (h1 : w1 >>> 1 = e.w1) (h2 : w2 >>> 1 = e.w2)
    (h3 : w3 >>> 1 = e.w3) (heven : 17 ≤ n → w1.toNat % 2 = 0) :
    ∃ e' ∈ e.next, e'.fields = (w1, w2, w3) := by
  have hbit : ∀ i : Nat, i % 2 < 2 := fun i => Nat.mod_lt i (by decide)
  have hw1 := append_bit_half h1
  have hw2 := append_bit_half h2
  have hw3 := append_bit_half h3
  rw [BeamEntry.next, h.nbits]
  split
  case isTrue =>
    obtain ⟨hi1, hi2, hi3⟩ := index_bits (w1.toNat % 2) (hbit w2.toNat) (hbit w3.toNat)
    have hi : 4 * (w1.toNat % 2) + 2 * (w2.toNat % 2) + w3.toNat % 2 < 8 := by omega
    refine ⟨_, List.mem_map_of_mem (List.mem_range.mpr hi), ?_⟩
    rw [BeamEntry.fields, hi1, hi2, hi3, hw1, hw2, hw3]
  case isFalse h17 =>
    rw [heven (Nat.not_lt.mp h17), BitVec.add_zero] at hw1
    obtain ⟨-, hi2, hi3⟩ := index_bits 0 (hbit w2.toNat) (hbit w3.toNat)
    have hi : 4 * 0 + 2 * (w2.toNat % 2) + w3.toNat % 2 < 4 := by omega
    refine ⟨_, List.mem_map_of_mem (List.mem_range.mpr hi), ?_⟩
    rw [BeamEntry.fields, hi2, hi3, hw1, hw2, hw3]

theorem mem_next_fields (t : BitVec 64 × BitVec 64 × BitVec 64) :
    (∃ e' ∈ e.next, e'.fields = t) ↔
      (t.1 >>> 1, t.2.1 >>> 1, t.2.2 >>> 1) = e.fields ∧ (17 ≤ n → t.1.toNat % 2 = 0) := by
  constructor
  · rintro ⟨e', he', rfl⟩
    exact fields_of_mem_next hn h he'
  · obtain ⟨w1, w2, w3⟩ := t
    rintro ⟨hhalf, heven⟩
    simp only [BeamEntry.fields, Prod.mk.injEq] at hhalf
    exact mem_next_of_fields h hhalf.1 hhalf.2.1 hhalf.2.2 heven

theorem next_fields_nodup : (e.next.map BeamEntry.fields).Nodup := by
  have hbit : ∀ i : Nat, i % 2 < 2 := fun i => Nat.mod_lt i (by decide)
  have heq : ∀ {w b b'}, w.toNat < 2 ^ n → b < 2 → b' < 2 →
      2 * w + BitVec.ofNat 64 b = 2 * w + BitVec.ofNat 64 b' → b = b' := by
    intro w b b' hw hb hb' heq
    have hnat := congrArg BitVec.toNat heq
    rwa [toNat_append_bit hn hw hb, toNat_append_bit hn hw hb', Nat.add_left_cancel_iff] at hnat
  rw [BeamEntry.next]
  split
  case isTrue =>
    rw [List.map_map]
    refine List.Nodup.map_on ?_ List.nodup_range
    intro i hi j hj hij
    simp only [Function.comp_apply, BeamEntry.fields, Prod.mk.injEq] at hij
    have hi4 : i / 4 < 2 := Nat.div_lt_of_lt_mul (List.mem_range.mp hi)
    have hj4 : j / 4 < 2 := Nat.div_lt_of_lt_mul (List.mem_range.mp hj)
    have h1 := heq h.w1 hi4 hj4 hij.1
    have h2 := heq h.w2 (hbit _) (hbit _) hij.2.1
    have h3 := heq h.w3 (hbit _) (hbit _) hij.2.2
    omega
  case isFalse =>
    rw [List.map_map]
    refine List.Nodup.map_on ?_ List.nodup_range
    intro i hi j hj hij
    simp only [Function.comp_apply, BeamEntry.fields, Prod.mk.injEq] at hij
    rw [List.mem_range] at hi hj
    have h2 := heq h.w2 (hbit _) (hbit _) hij.2.1
    have h3 := heq h.w3 (hbit _) (hbit _) hij.2.2
    omega

omit hn in
theorem length_next : e.next.length = if n < 17 then 8 else 4 := by
  rw [BeamEntry.next, h.nbits]
  split
  case isTrue => rfl
  case isFalse => rfl

end Children

section Distinct

variable {mode : Nat} {xvs : List Observation} {n : Nat}

theorem fields_generated : (generated mode xvs n).map BeamEntry.fields =
    (level mode xvs n).flatMap fun e => e.next.map BeamEntry.fields := by
  rw [generated, List.map_map, List.map_flatMap]
  rfl

theorem generated_nodup (hn : n ≤ 20) (h : ((level mode xvs n).map BeamEntry.fields).Nodup) :
    ((generated mode xvs n).map BeamEntry.fields).Nodup := by
  have hshape : ∀ e ∈ level mode xvs n, e.Shape n := level_shape (by omega)
  rw [fields_generated, List.nodup_flatMap]
  refine ⟨fun e he => next_fields_nodup hn (hshape e he), ?_⟩
  refine (List.pairwise_map.mp h).imp_of_mem ?_
  intro e e' he he' hne
  change List.Disjoint _ _
  rw [List.disjoint_left]
  intro t ht ht'
  have hhalf := ((mem_next_fields hn (hshape e he) t).mp (List.mem_map.mp ht)).1
  have hhalf' := ((mem_next_fields hn (hshape e' he') t).mp (List.mem_map.mp ht')).1
  exact hne (hhalf.symm.trans hhalf')

theorem level_nodup (hn : n ≤ 21) : ((level mode xvs n).map BeamEntry.fields).Nodup := by
  induction n with
  | zero => exact List.nodup_singleton _
  | succ n ih =>
    have hgenerated := generated_nodup (by omega) (ih (by omega))
    have hperm := (List.mergeSort_perm (generated mode xvs n)
      fun a b => a.score ≤ b.score).map BeamEntry.fields
    exact (hperm.nodup_iff.mpr hgenerated).sublist ((List.take_sublist _ _).map _)

theorem length_generated (hn : n ≤ 20) : (generated mode xvs n).length =
    (level mode xvs n).length * if n < 17 then 8 else 4 := by
  have hshape : ∀ e ∈ level mode xvs n, e.Shape n := level_shape (by omega)
  rw [generated, List.length_map, List.length_flatMap, List.map_congr_left
    fun e he => length_next (hshape e he), List.map_const', List.sum_replicate_nat]

theorem length_level_succ (hn : n ≤ 20) : (level mode xvs (n + 1)).length =
    min keep ((level mode xvs n).length * if n < 17 then 8 else 4) := by
  rw [← length_generated hn, level, beamRound, List.length_take, List.length_mergeSort]
  rfl

/-- From the fourth round on there are as many entries as are kept. -/
theorem length_level (h4 : 4 ≤ n) (hn : n ≤ 21) : (level mode xvs n).length = keep := by
  induction n, h4 using Nat.le_induction with
  | base =>
    have h0 : (level mode xvs 0).length = 1 := rfl
    rw [length_level_succ (by decide), length_level_succ (by decide), length_level_succ (by decide),
      length_level_succ (by decide), h0]
    rfl
  | succ n h4 ih =>
    rw [length_level_succ (by omega), ih (by omega)]
    split
    case isTrue => rfl
    case isFalse => rfl

end Distinct

section Packed

variable {n : Nat}

def packed (n : Nat) (e : BeamEntry) : BitVec 128 := push (c0 n e) (c1 n e)

theorem packed_fields (hn : n ≤ 21) {e e' : BeamEntry} (h : e.Shape n) (h' : e'.Shape n)
    (heq : packed n e = packed n e') : e.fields = e'.fields := by
  have hself := (agreesOn_mask_iff hn h' (c0 n e') (c1 n e')).mp fun _ _ => rfl
  have hother := (agreesOn_mask_iff hn h (c0 n e') (c1 n e')).mp
    fun i _ => congrArg (BitVec.getLsbD · i) heq
  exact hother.trans hself.symm

theorem packed_nodup {l : List BeamEntry} (hn : n ≤ 21) (hshape : ∀ e ∈ l, e.Shape n)
    (h : (l.map BeamEntry.fields).Nodup) : (l.map (packed n)).Nodup := by
  rw [List.Nodup, List.pairwise_map] at h ⊢
  refine h.imp_of_mem ?_
  intro e e' he he' hne heq
  exact hne (packed_fields hn (hshape e he) (hshape e' he') heq)

theorem push_and_not {a b m0 m1 : BitVec 64} (ha : a &&& ~~~m0 = 0) (hb : b &&& ~~~m1 = 0) :
    push a b &&& ~~~push m0 m1 = 0 := by
  have hbit : ∀ {x m : BitVec 64} {i : Nat}, x &&& ~~~m = 0 → i < 64 →
      (x.getLsbD i && !m.getLsbD i) = false := by
    intro x m i hx hi
    have h := congrArg (BitVec.getLsbD · i) hx
    simpa [hi] using h
  apply eq_of_forall_bit
  rintro ⟨i, hi⟩
  rw [BitVec.getLsbD_and, BitVec.getLsbD_not, decide_eq_true hi, Bool.true_and,
    BitVec.ofNat_eq_ofNat, BitVec.getLsbD_zero]
  by_cases h64 : i < 64
  · rw [push_bit_low _ _ h64, push_bit_low _ _ h64]
    exact hbit ha h64
  · obtain ⟨j, rfl⟩ := Nat.exists_eq_add_of_le (Nat.not_lt.mp h64)
    have hj : j < 64 := by omega
    rw [push_bit_high _ _ hj, push_bit_high _ _ hj]
    exact hbit hb hj

theorem fields_disjoint (hn : n ≤ 21) {e : BeamEntry} (h : e.Shape n) :
    e.w1 <<< (64 - n) &&& e.w2 <<< (64 - n - 17) = 0 := by
  apply eq_of_forall_bit
  intro i
  rw [BitVec.getLsbD_and, BitVec.getLsbD_shiftLeft, BitVec.getLsbD_shiftLeft,
    BitVec.ofNat_eq_ofNat, BitVec.getLsbD_zero]
  by_cases h47 : 47 ≤ i.val
  · rw [h.w2_bit_of_le (by omega), Bool.and_false, Bool.and_false]
  · by_cases hlt : i.val < 64 - n
    · simp [hlt]
    · rw [h.w1_bit_pad (by omega), Bool.and_false, Bool.false_and]

structure Leaves (mode : Nat) (xvs : List Observation) (n : Nat) : Prop where
  shape : ∀ e ∈ level mode xvs n, e.Shape n
  asserts : ∀ e ∈ level mode xvs n, c0 n e &&& ~~~km0 n = 0 ∧ c1 n e &&& ~~~km1 n = 0
  disjoint : ∀ e ∈ level mode xvs n, e.w1 <<< (64 - n) &&& e.w2 <<< (64 - n - 17) = 0
  length : ((level mode xvs n).map (packed n)).length = 1000
  nodup : ((level mode xvs n).map (packed n)).Nodup
  subset : ∀ x ∈ (level mode xvs n).map (packed n), x &&& ~~~push (km0 n) (km1 n) = 0
  shifts : ∀ s ∈ [(n : Int), 64 - n, 64 - n - 17], 0 ≤ s ∧ s ≤ 63

variable {mode : Nat} {xvs : List Observation}

theorem leaves (h7 : 7 ≤ n) (hn : n ≤ 21) : Leaves mode xvs n where
  shape := level_shape hn
  asserts e he := ⟨c0_and_not_km0 (level_shape hn e he) hn, c1_and_not_km1 (level_shape hn e he) hn⟩
  disjoint e he := fields_disjoint hn (level_shape hn e he)
  length := by rw [List.length_map, length_level (by omega) hn, keep]
  nodup := packed_nodup hn (level_shape hn) (level_nodup hn)
  subset := by
    intro x hx
    obtain ⟨e, he, rfl⟩ := List.mem_map.mp hx
    exact push_and_not (c0_and_not_km0 (level_shape hn e he) hn)
      (c1_and_not_km1 (level_shape hn e he) hn)
  shifts := by
    simp only [List.forall_mem_cons, List.not_mem_nil, false_imp_iff, implies_true, and_true]
    omega

/-- Whichever of the rounds 7 to 21 the loop leaves after, the candidates are well-formed; and
it does leave after one of these. -/
theorem solve_wellFormed {xvs : List Observation} (hxvs : xvs ≠ []) (mode : Nat) :
    (∀ n, 7 ≤ n → n ≤ 21 → Leaves mode xvs n) ∧
    (∃ n, 7 ≤ n ∧ n ≤ 21 ∧ beam mode xvs = (n, level mode xvs n) ∧
      solve xvs mode = some (push (km0 n) (km1 n) :: (level mode xvs n).map (packed n))) ∧
    ∀ k < 21, ∀ e ∈ generated mode xvs k,
      ∀ s ∈ [64 - (e.nbits : Int), 64 - 17 - e.nbits], 0 ≤ s ∧ s ≤ 63 := by
  obtain ⟨h7, hle, -⟩ := beam_shape mode xvs
  refine ⟨fun n => leaves, ⟨_, h7, hle, Prod.ext rfl beam_level, ?_⟩, ?_⟩
  · rw [← beam_level]
    exact solve_eq hxvs mode
  · intro k hk e he
    have hnbits := (generated_shape (by omega) e he).nbits
    simp only [List.forall_mem_cons, List.not_mem_nil, false_imp_iff, implies_true, and_true]
    omega

theorem solve_wellFormed_one : ∃ n, 7 ≤ n ∧ n ≤ 21 ∧
    beam 1 [⟨0, 1 / 2, true⟩] = (n, level 1 [⟨0, 1 / 2, true⟩] n) ∧
    solve [⟨0, 1 / 2, true⟩] 1 = some (push (km0 n) (km1 n) ::
      (level 1 [⟨0, 1 / 2, true⟩] n).map (packed n)) :=
  (solve_wellFormed (List.cons_ne_nil _ _) 1).2.1

end Packed

end SeedCracking.Blocks
