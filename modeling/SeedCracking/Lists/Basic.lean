import Mathlib.Data.Int.Log
import Mathlib.Data.List.Flatten
import Mathlib.Data.List.Forall2
import Mathlib.Data.List.Range

/-! Loops over lists, and the ordered containers they fill. -/

universe u v w

namespace SeedCracking.Lists

variable {α : Type u} {β : Type v} {σ : Type w}

theorem mapM_eq_some {f : α → Option β} {g : α → β} {l : List α}
    (h : ∀ a ∈ l, f a = some (g a)) : l.mapM f = some (l.map g) := by
  induction l with
  | nil => rfl
  | cons a l ih =>
    rw [List.mapM_cons, h a (by simp), ih fun b hb => h b (List.mem_cons_of_mem a hb)]
    rfl

theorem mapM_eq_none {f : α → Option β} {l : List α} {a : α} (ha : a ∈ l)
    (h : f a = none) : l.mapM f = none := by
  induction l with
  | nil => cases ha
  | cons b l ih =>
    rw [List.mapM_cons]
    rcases List.mem_cons.mp ha with rfl | ha
    · rw [h]
      rfl
    · rw [ih ha]
      cases f b <;> rfl

theorem flatMap_range_mul (n m : Nat) (f : Nat → List β) :
    ((List.range m).flatMap fun q => (List.range n).flatMap fun j => f (n * q + j)) =
      (List.range (n * m)).flatMap f := by
  induction m with
  | zero => rfl
  | succ m ih =>
    rw [List.range_succ, List.flatMap_append, ih, Nat.mul_succ, List.range_add,
      List.flatMap_append, List.flatMap_map, List.flatMap_singleton]

theorem getElem?_foldl_set (f : Nat → α) (l : List α) (n k : Nat) :
    ((List.range n).foldl (fun l i => l.set i (f i)) l)[k]? =
      if k < n then l[k]?.map fun _ => f k else l[k]? := by
  induction n with
  | zero => rfl
  | succ n ih =>
    rw [List.range_succ, List.foldl_append, List.foldl_cons, List.foldl_nil, List.getElem?_set', ih]
    by_cases hk : n = k
    · subst hk
      rw [if_pos rfl, if_neg (Nat.lt_irrefl n), if_pos (Nat.lt_succ_self n)]
      rfl
    · have hlt : k < n + 1 ↔ k < n := by omega
      simp only [hk, hlt, if_false]

theorem flatMap_filter_eq_iff (p : α → Bool) (f : α → List β) (l : List α) :
    (l.filter p).flatMap f = l.flatMap f ↔ ∀ a ∈ l, p a = false → f a = [] := by
  induction l with
  | nil => simp
  | cons a l ih =>
    cases hp : p a with
    | true => simp [hp, ih]
    | false =>
      have hlen : ((l.filter p).flatMap f).length ≤ (l.flatMap f).length :=
        (List.filter_sublist.flatMap f).length_le
      constructor
      · intro h
        rw [List.filter_cons_of_neg (by simp [hp]), List.flatMap_cons] at h
        have hsum := congrArg List.length h
        rw [List.length_append] at hsum
        have hnil : f a = [] := List.eq_nil_of_length_eq_zero (by omega)
        rw [hnil, List.nil_append] at h
        intro b hb hpb
        rcases List.mem_cons.mp hb with rfl | hb
        · exact hnil
        · exact ih.mp h b hb hpb
      · intro h
        rw [List.filter_cons_of_neg (by simp [hp]), List.flatMap_cons, h a List.mem_cons_self hp,
          List.nil_append]
        exact ih.mpr fun b hb => h b (List.mem_cons_of_mem a hb)

theorem flatMap_filter (p : α → Bool) (f : α → List β) (l : List α) :
    (l.filter p).flatMap f = l.flatMap fun a => if p a then f a else [] := by
  induction l with
  | nil => rfl
  | cons a l ih =>
    cases hp : p a with
    | true => simp [hp, ih]
    | false => simp [hp, ih]

theorem map_filter (p : α → Bool) (f : α → β) (l : List α) :
    (l.filter p).map f = l.flatMap fun a => if p a then [f a] else [] := by
  rw [List.map_eq_flatMap, flatMap_filter]

theorem flatMap_if {c : Prop} [Decidable c] {f g : α → List β}
    (h : ∀ a, f a = if c then g a else []) (l : List α) :
    l.flatMap f = if c then l.flatMap g else [] := by
  rw [funext h]
  by_cases hc : c
  · simp only [hc, if_true]
  · simp only [hc, if_false]
    exact List.flatMap_eq_nil_iff.mpr fun _ _ => rfl

theorem countP_add_add_le {p q r s : α → Bool} (l : List α)
    (h : ∀ a ∈ l, (p a).toNat + (q a).toNat + (r a).toNat ≤ (s a).toNat) :
    l.countP p + l.countP q + l.countP r ≤ l.countP s := by
  induction l with
  | nil => exact Nat.le_refl _
  | cons a l ih =>
    have hhead := h a List.mem_cons_self
    have htail := ih fun b hb => h b (List.mem_cons_of_mem a hb)
    have hbit : ∀ b : Bool, (if b = true then 1 else 0) = b.toNat := by decide
    simp only [List.countP_cons, hbit]
    omega

theorem sum_map_le_countP {α : Type*} {f : α → Int} {p : α → Bool} {l : List α}
    (h : ∀ a ∈ l, f a ≤ if p a then 1 else 0) : (l.map f).sum ≤ l.countP p := by
  induction l with
  | nil => simp
  | cons a l ih =>
    obtain ⟨ha, hl⟩ := List.forall_mem_cons.mp h
    have hrest := ih hl
    rw [List.map_cons, List.sum_cons, List.countP_cons]
    split at ha
    case isTrue hp =>
      rw [if_pos hp]
      omega
    case isFalse hp =>
      rw [if_neg hp]
      omega

theorem countP_lt_countP {p q : α → Bool} {l : List α} (h : ∀ a ∈ l, p a = true → q a = true)
    {a : α} (ha : a ∈ l) (hp : p a = false) (hq : q a = true) : l.countP p < l.countP q := by
  induction l with
  | nil => cases ha
  | cons b l ih =>
    have hl : ∀ c ∈ l, p c = true → q c = true := fun c hc => h c (List.mem_cons_of_mem b hc)
    rw [List.countP_cons, List.countP_cons]
    rcases List.mem_cons.mp ha with rfl | ha
    · have hle := List.countP_mono_left hl
      rw [hp, hq]
      exact Nat.lt_succ_of_le hle
    · have hlt := ih hl ha
      have hb := h b List.mem_cons_self
      split
      case isTrue hpb =>
        rw [if_pos (hb hpb)]
        exact Nat.succ_lt_succ hlt
      case isFalse => exact Nat.lt_of_lt_of_le hlt (Nat.le_add_right _ _)

theorem abs_sum_sub_sum_le {f g d : α → Int} {l : List α} (h : ∀ a ∈ l, |f a - g a| ≤ d a) :
    |(l.map f).sum - (l.map g).sum| ≤ (l.map d).sum := by
  induction l with
  | nil => simp
  | cons a l ih =>
    have hhead := h a List.mem_cons_self
    have htail := ih fun b hb => h b (List.mem_cons_of_mem a hb)
    simp only [List.map_cons, List.sum_cons]
    calc |f a + (l.map f).sum - (g a + (l.map g).sum)|
        = |(f a - g a) + ((l.map f).sum - (l.map g).sum)| := by congr 1; omega
      _ ≤ |f a - g a| + |(l.map f).sum - (l.map g).sum| := abs_add_le _ _
      _ ≤ d a + (l.map d).sum := Int.add_le_add hhead htail

theorem foldl_append (get : σ → List β) {step : σ → α → σ} {f : α → List β}
    (h : ∀ s a, get (step s a) = get s ++ f a) (l : List α) (s : σ) :
    get (l.foldl step s) = get s ++ l.flatMap f := by
  induction l generalizing s with
  | nil => simp
  | cons a l ih => rw [List.foldl_cons, ih, h, List.flatMap_cons, List.append_assoc]

theorem foldl_or (p : σ → Prop) {step : σ → α → σ} {q : α → Prop}
    (h : ∀ s a, p (step s a) ↔ p s ∨ q a) (l : List α) (s : σ) :
    p (l.foldl step s) ↔ p s ∨ ∃ a ∈ l, q a := by
  induction l generalizing s with
  | nil => simp
  | cons a l ih =>
    rw [List.foldl_cons, ih, h]
    simp [or_assoc]

theorem foldl_le_add (size : σ → Nat) {step : σ → α → σ} {c : Nat}
    (h : ∀ s a, size (step s a) ≤ size s + c) (l : List α) (s : σ) :
    size (l.foldl step s) ≤ size s + c * l.length := by
  induction l generalizing s with
  | nil => simp
  | cons a l ih =>
    have hhead := h s a
    have htail := ih (step s a)
    rw [List.foldl_cons, List.length_cons, Nat.mul_succ]
    omega

theorem length_flatMap_le {f : α → List β} {c : Nat} (h : ∀ a, (f a).length ≤ c) (l : List α) :
    (l.flatMap f).length ≤ c * l.length := by
  induction l with
  | nil => simp
  | cons a l ih =>
    have hhead := h a
    rw [List.flatMap_cons, List.length_append, List.length_cons, Nat.mul_succ]
    omega

theorem pairwise_bounds {r : α → α → Prop} (hrefl : ∀ a, r a a) {l : List α} (hl : l.Pairwise r)
    {a z : α} (ha : l.head? = some a) (hz : l.getLast? = some z) {b : α} (hb : b ∈ l) :
    r a b ∧ r b z := by
  constructor
  · obtain ⟨l, rfl⟩ := List.head?_eq_some_iff.mp ha
    rcases List.mem_cons.mp hb with rfl | hb
    · exact hrefl b
    · exact (List.pairwise_cons.mp hl).1 b hb
  · obtain ⟨l, rfl⟩ := List.getLast?_eq_some_iff.mp hz
    rcases List.mem_append.mp hb with hb | hb
    · exact (List.pairwise_append.mp hl).2.2 b hb z (List.mem_singleton_self z)
    · rw [List.mem_singleton.mp hb]
      exact hrefl z

theorem append_subset_append_right (l : List α) {l₁ l₂ : List α} (h : l₁ ⊆ l₂) :
    l ++ l₁ ⊆ l ++ l₂ :=
  List.append_subset.mpr ⟨List.subset_append_left l l₂, List.subset_append_of_subset_right l h⟩

section Sublists

open List (SublistForall₂)

variable {R : β → β → Prop}

theorem sublistForall₂_append {l₁ m₁ l₂ m₂ : List β} (h₁ : SublistForall₂ R l₁ m₁)
    (h₂ : SublistForall₂ R l₂ m₂) : SublistForall₂ R (l₁ ++ l₂) (m₁ ++ m₂) := by
  induction h₁ with
  | @nil m₁ =>
    induction m₁ with
    | nil => exact h₂
    | cons b m₁ ih => exact .cons_right ih
  | cons hr _ ih => exact .cons hr ih
  | cons_right _ ih => exact .cons_right ih

theorem sublistForall₂_flatMap {l l' : List α} {f g : α → List β} (h : l.Sublist l')
    (hfg : ∀ a ∈ l, SublistForall₂ R (f a) (g a)) :
    SublistForall₂ R (l.flatMap f) (l'.flatMap g) := by
  induction h with
  | slnil => exact .nil
  | cons a _ ih =>
    have hskip : SublistForall₂ R [] (g a) := .nil
    exact sublistForall₂_append hskip (ih hfg)
  | cons_cons a _ ih =>
    rw [List.forall_mem_cons] at hfg
    exact sublistForall₂_append hfg.1 (ih hfg.2)

end Sublists

section Ordered

open Std

variable {κ : Type u} {cmp : κ → κ → Ordering} [TransCmp cmp] [LawfulEqCmp cmp] [DecidableEq κ]

theorem getElem?_foldl_insert (key : α → κ) (val : α → β) (l : List α) (m : TreeMap κ β cmp)
    (k : κ) :
    (l.foldl (fun m a => m.insert (key a) (val a)) m)[k]? =
      ((l.reverse.find? fun a => key a = k).map val).or m[k]? := by
  induction l generalizing m with
  | nil => rfl
  | cons a l ih =>
    rw [List.foldl_cons, ih, List.reverse_cons, List.find?_append, TreeMap.getElem?_insert]
    simp only [LawfulEqCmp.compare_eq_iff_eq]
    cases l.reverse.find? fun a => key a = k with
    | some b => rfl
    | none =>
      by_cases hk : key a = k
      · simp [hk]
      · simp [hk]

omit [DecidableEq κ] in
theorem toList_congr {m m' : TreeMap κ β cmp} (h : ∀ k : κ, m'[k]? = m[k]?) :
    m'.toList = m.toList :=
  TreeMap.Equiv.toList_eq (TreeMap.Equiv.of_forall_constGet?_eq h)

omit [DecidableEq κ] in
theorem toList_eq_filter {m m' : TreeMap κ β cmp} {p : κ → β → Bool}
    (h : ∀ k, m'[k]? = m[k]?.filter (p k)) : m'.toList = m.toList.filter fun a => p a.1 a.2 := by
  rw [← TreeMap.toList_filter]
  apply toList_congr
  intro k
  rw [h, TreeMap.getElem?_filter']

omit [DecidableEq κ] in
theorem toList_sublist {m m' : TreeMap κ β cmp}
    (h : ∀ (k : κ) (v : β), m'[k]? = some v → m[k]? = some v) : m'.toList.Sublist m.toList := by
  have hfilter : ∀ k : κ, m'[k]? = m[k]?.filter fun _ => m'[k]?.isSome := by
    intro k
    cases hk : m'[k]? with
    | none => simp
    | some v => rw [h k v hk, Option.isSome_some, Option.filter_some, if_pos rfl]
  rw [toList_eq_filter (p := fun k _ => m'[k]?.isSome) hfilter]
  exact List.filter_sublist

omit [DecidableEq κ] in
theorem toList_sublist_set {t t' : TreeSet κ cmp} (h : ∀ k, k ∈ t' → k ∈ t) :
    t'.toList.Sublist t.toList := by
  have hfilter : t'.toList = (t.filter t'.contains).toList := by
    apply TreeSet.Equiv.toList_eq
    apply TreeSet.Equiv.of_forall_mem_iff
    intro k
    simp only [TreeSet.mem_filter, TreeSet.get_eq, exists_prop, TreeSet.contains_iff_mem]
    exact ⟨fun hk => ⟨h k hk, hk⟩, And.right⟩
  rw [hfilter, TreeSet.toList_filter]
  exact List.filter_sublist

end Ordered

end SeedCracking.Lists
