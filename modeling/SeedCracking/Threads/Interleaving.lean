import Mathlib.Algebra.BigOperators.Group.Finset.Piecewise
import Mathlib.Algebra.Order.Group.Multiset
import Mathlib.Data.Fintype.Basic
import Mathlib.Data.Multiset.Bind

/-! Events of several threads, in the order in which they happen. -/

universe u v w

namespace SeedCracking.Threads

variable {τ : Type u} {β : Type v} {γ : Type w} [DecidableEq τ]

def ofThread (t : τ) (l : List (τ × β)) : List β := (l.filter (·.1 = t)).map Prod.snd

section OfThread

variable (t : τ) (c : τ × β) (l : List (τ × β))

@[simp] theorem ofThread_nil : ofThread t ([] : List (τ × β)) = [] := rfl

theorem ofThread_cons :
    ofThread t (c :: l) = if c.1 = t then c.2 :: ofThread t l else ofThread t l := by
  by_cases h : c.1 = t
  · simp [ofThread, h]
  · simp [ofThread, h]

@[simp] theorem ofThread_cons_self (b : β) : ofThread t ((t, b) :: l) = b :: ofThread t l := by
  simp [ofThread]

theorem ofThread_cons_ne {t' : τ} (h : t' ≠ t) (b : β) :
    ofThread t ((t', b) :: l) = ofThread t l := by
  rw [ofThread_cons, if_neg h]

theorem ofThread_append (l' : List (τ × β)) :
    ofThread t (l ++ l') = ofThread t l ++ ofThread t l' := by
  simp [ofThread]

theorem mem_ofThread (b : β) : b ∈ ofThread t l ↔ (t, b) ∈ l := by
  simp [ofThread]

theorem sum_ofThread [Fintype τ] :
    ∑ t, (ofThread t l : Multiset β) = (l.map Prod.snd : List β) := by
  induction l with
  | nil => simp
  | cons c l ih =>
    have hhead : ∀ t, (ofThread t (c :: l) : Multiset β) =
        (if c.1 = t then {c.2} else 0) + (ofThread t l : Multiset β) := by
      intro t
      rw [ofThread_cons]
      split
      case isTrue => rfl
      case isFalse => rw [zero_add]
    rw [Finset.sum_congr rfl fun t _ => hhead t, Finset.sum_add_distrib, ih, Finset.sum_ite_eq,
      if_pos (Finset.mem_univ _)]
    rfl

end OfThread

/-- Jobs that are shared among threads do what they do one after the other. -/
theorem sum_flatMap {ι : Type w} [DecidableEq ι] (s : Finset ι) {α : Type u} (jobs : ι → List α)
    {l : List α} (h : ∑ i ∈ s, (jobs i : Multiset α) = l) (f : α → List β) :
    ∑ i ∈ s, ((jobs i).flatMap f : Multiset β) = (l.flatMap f : List β) := by
  have hbind : ∀ s : Finset ι, ∑ i ∈ s, ((jobs i).flatMap f : Multiset β) =
      (∑ i ∈ s, (jobs i : Multiset α)).bind fun a => (f a : Multiset β) := by
    intro s
    induction s using Finset.induction_on with
    | empty => rfl
    | insert i s hi ih =>
      rw [Finset.sum_insert hi, Finset.sum_insert hi, ih, Multiset.add_bind, Multiset.coe_bind]
  rw [hbind, h, Multiset.coe_bind]

/-- The first events of the threads that are not ready before theirs. -/
def firsts : (ready : τ → Bool) → List (τ × β) → List (τ × β)
  | _, [] => []
  | ready, c :: l =>
    if ready c.1 then firsts ready l else c :: firsts (Function.update ready c.1 true) l

def rest : (ready : τ → Bool) → List (τ × β) → List (τ × β)
  | _, [] => []
  | ready, c :: l =>
    if ready c.1 then c :: rest ready l else rest (Function.update ready c.1 true) l

section Firsts

variable (ready : τ → Bool) (l : List (τ × β))

theorem firsts_add_rest : (firsts ready l : Multiset (τ × β)) + rest ready l = l := by
  induction l generalizing ready with
  | nil => rfl
  | cons c l ih =>
    rw [firsts, rest]
    split
    case isTrue =>
      rw [← Multiset.cons_coe, Multiset.add_cons, ih, Multiset.cons_coe]
    case isFalse =>
      rw [← Multiset.cons_coe, Multiset.cons_add, ih, Multiset.cons_coe]

theorem ofThread_firsts (t : τ) :
    ofThread t (firsts ready l) = (ofThread t l).take (if ready t then 0 else 1) := by
  induction l generalizing ready with
  | nil => simp [firsts]
  | cons c l ih =>
    obtain ⟨t', b⟩ := c
    rw [firsts]
    by_cases ht : t' = t
    · subst ht
      cases hready : ready t' with
      | true => simp [hready, ih]
      | false => simp [ih]
    · rw [ofThread_cons_ne t l ht]
      cases hready : ready t' with
      | true => simp [ih]
      | false => simp [ofThread_cons_ne t _ ht, ih, Function.update_of_ne (Ne.symm ht)]

theorem length_firsts [Fintype τ] : (firsts ready l).length =
    (Finset.univ.filter fun t => ready t = false ∧ ofThread t l ≠ []).card := by
  have hlength : ∀ t, (ofThread t (firsts ready l)).length =
      if ready t = false ∧ ofThread t l ≠ [] then 1 else 0 := by
    intro t
    rw [ofThread_firsts, List.length_take]
    cases hready : ready t with
    | true => simp
    | false =>
      cases ofThread t l with
      | nil => simp
      | cons b l => simp
  have hsum := congrArg Multiset.card (sum_ofThread (firsts ready l))
  rw [Multiset.card_sum, Multiset.coe_card, List.length_map] at hsum
  simp only [Multiset.coe_card, hlength] at hsum
  rw [Finset.card_filter, hsum]

theorem rest_append {l : List (τ × β)} (h : ∀ c ∈ l, ready c.1 = true) (l' : List (τ × β)) :
    rest ready (l ++ l') = l ++ rest ready l' := by
  induction l with
  | nil => rfl
  | cons c l ih =>
    rw [List.forall_mem_cons] at h
    rw [List.cons_append, rest, if_pos h.1, ih h.2, List.cons_append]

end Firsts

end SeedCracking.Threads
