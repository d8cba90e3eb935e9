import Mathlib.Data.List.Sort

/-! Which elements a stable sort puts first. -/

universe u

namespace SeedCracking.Sorting

open List (zipIdxLE zipIdxLE_trans zipIdxLE_total)

variable {α : Type u}

theorem mem_take_iff_countP {r : α → α → Bool} (hirr : ∀ a, r a a = false)
    (hasymm : ∀ a b, r a b = true → r b a = false) {l : List α}
    (hl : l.Pairwise fun a b => r a b = true) {a : α} (ha : a ∈ l) (n : Nat) :
    a ∈ l.take n ↔ l.countP (r · a) < n := by
  induction l generalizing n with
  | nil => cases ha
  | cons b l ih =>
    rw [List.pairwise_cons] at hl
    cases n with
    | zero => simp
    | succ n =>
      rw [List.take_succ_cons, List.mem_cons, List.countP_cons]
      rcases List.mem_cons.mp ha with rfl | hmem
      · have hzero : l.countP (r · a) = 0 := by
          rw [List.countP_eq_zero]
          intro c hc
          rw [hasymm a c (hl.1 c hc)]
          exact Bool.false_ne_true
        simp [hirr, hzero]
      · have hba : r b a = true := hl.1 a hmem
        have hne : a ≠ b := by
          rintro rfl
          rw [hirr] at hba
          cases hba
        simp [hba, hne, ih hl.2 hmem]

section Stable

variable (le : α → α → Bool)

/-- Whether a numbered element comes before another: it is smaller, or equal and numbered
lower. -/
def before (a b : α × Nat) : Bool := le a.1 b.1 && (!le b.1 a.1 || decide (a.2 < b.2))

theorem before_irrefl (a : α × Nat) : before le a a = false := by
  simp [before]

theorem before_asymm (a b : α × Nat) (h : before le a b = true) : before le b a = false := by
  simp only [before, Bool.and_eq_true, Bool.or_eq_true, Bool.not_eq_true', decide_eq_true_eq,
    Bool.and_eq_false_iff, Bool.or_eq_false_iff, Bool.not_eq_false', decide_eq_false_iff_not] at h ⊢
  rcases h with ⟨hab, hba | hlt⟩
  · exact .inl hba
  · exact .inr ⟨hab, by omega⟩

theorem before_of_zipIdxLE {a b : α × Nat} (h : zipIdxLE le a b = true) (hne : a.2 ≠ b.2) :
    before le a b = true := by
  rw [zipIdxLE] at h
  rw [before]
  split at h
  case isTrue hab =>
    split at h
    case isTrue hba =>
      rw [decide_eq_true_eq] at h
      simp [hab, Nat.lt_of_le_of_ne h hne]
    case isFalse hba => simp [hab, hba]
  case isFalse => cases h

variable (htrans : ∀ a b c, le a b = true → le b c = true → le a c = true)
  (htotal : ∀ a b, (le a b || le b a) = true)

include htrans htotal

theorem pairwise_before (l : List α) :
    (l.zipIdx.mergeSort (zipIdxLE le)).Pairwise fun a b => before le a b = true := by
  have hsorted := List.pairwise_mergeSort (zipIdxLE_trans htrans) (zipIdxLE_total htotal) l.zipIdx
  have hperm := (List.mergeSort_perm l.zipIdx (zipIdxLE le)).map Prod.snd
  have hnodup : ((l.zipIdx.mergeSort (zipIdxLE le)).map Prod.snd).Nodup := by
    rw [hperm.nodup_iff, List.zipIdx_map_snd]
    exact List.nodup_range'
  refine (hsorted.and (List.pairwise_map.mp hnodup)).imp ?_
  rintro a b ⟨h, hne⟩
  exact before_of_zipIdxLE le h hne

/-- The first `n` elements of a stable sort are those with fewer than `n` before them. -/
theorem mem_take_mergeSort (l : List α) (n : Nat) (a : α) :
    a ∈ (l.mergeSort le).take n ↔
      ∃ i, l[i]? = some a ∧ l.zipIdx.countP (before le · (a, i)) < n := by
  have hperm := List.mergeSort_perm l.zipIdx (zipIdxLE le)
  have hplace : ∀ b ∈ l.zipIdx, b ∈ (l.zipIdx.mergeSort (zipIdxLE le)).take n ↔
      l.zipIdx.countP (before le · b) < n := by
    intro b hb
    rw [← hperm.countP_eq]
    exact mem_take_iff_countP (before_irrefl le) (before_asymm le) (pairwise_before le htrans htotal l)
      (hperm.mem_iff.mpr hb) n
  rw [← List.mergeSort_zipIdx, ← List.map_take, List.mem_map]
  constructor
  · rintro ⟨⟨a, i⟩, htake, rfl⟩
    have hmem := hperm.mem_iff.mp (List.mem_of_mem_take htake)
    exact ⟨i, List.mem_zipIdx_iff_getElem?.mp hmem, (hplace _ hmem).mp htake⟩
  · rintro ⟨i, hi, hlt⟩
    have hmem : (a, i) ∈ l.zipIdx := List.mem_zipIdx_iff_getElem?.mpr hi
    exact ⟨(a, i), (hplace _ hmem).mpr hlt, rfl⟩

end Stable

end SeedCracking.Sorting
