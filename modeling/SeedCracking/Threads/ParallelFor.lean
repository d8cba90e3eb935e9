import SeedCracking.Threads.Interleaving

/-! A loop whose iterations are shared among threads, and load and store their own cell only. -/

universe u v w

namespace SeedCracking.Threads

inductive Access
  | load (i : Nat)
  | store (i : Nat)
  deriving DecidableEq

def body (i : Nat) : List Access := [.load i, .store i]

variable {τ : Type u} [DecidableEq τ] {α : Type v} {σ : Type w}

/-- The shared cells, and what each thread has computed from the last one that it has loaded. -/
structure Loop (τ : Type u) (α : Type v) (σ : Type w) where
  cells : List α
  computed : τ → Option σ

section Step

variable (compute : α → σ) (put : σ → α → α)

def Loop.step (s : Loop τ α σ) (c : τ × Access) : Loop τ α σ :=
  match c.2 with
  | .load i => { s with computed := Function.update s.computed c.1 (s.cells[i]?.map compute) }
  | .store i =>
    match s.computed c.1 with
    | some x => { s with cells := s.cells.modify i (put x) }
    | none => s

def Loop.run (s : Loop τ α σ) (accesses : List (τ × Access)) : Loop τ α σ :=
  accesses.foldl (Loop.step compute put) s

def iterate (a : α) : α := put (compute a) a

end Step

structure ParallelFor (τ : Type u) [Fintype τ] [DecidableEq τ] (length : Nat) where
  iterations : τ → List Nat
  accesses : List (τ × Access)
  shared : ∑ t, (iterations t : Multiset Nat) = List.range length
  program : ∀ t, ofThread t accesses = (iterations t).flatMap body

section Correct

variable (compute : α → σ) (put : σ → α → α) (cells : List α)

def Resumes (computed : Option σ) (program : List Access) : Prop :=
  ∃ l : List Nat, program = l.flatMap body ∨
    ∃ i, program = .store i :: l.flatMap body ∧ computed = cells[i]?.map compute

variable {compute put cells}

theorem Resumes.load {computed : Option σ} {i : Nat} {program : List Access}
    (h : Resumes compute cells computed (.load i :: program)) :
    Resumes compute cells (cells[i]?.map compute) program := by
  obtain ⟨l, h | ⟨j, h, -⟩⟩ := h
  · cases l with
    | nil => cases h
    | cons j l =>
      obtain ⟨hload, rfl⟩ := List.cons.inj h
      obtain rfl := Access.load.inj hload
      exact ⟨l, .inr ⟨i, rfl, rfl⟩⟩
  · cases h

theorem Resumes.store {computed : Option σ} {i : Nat} {program : List Access}
    (h : Resumes compute cells computed (.store i :: program)) :
    computed = cells[i]?.map compute ∧ Resumes compute cells computed program := by
  obtain ⟨l, h | ⟨j, h, hcomputed⟩⟩ := h
  · cases l with
    | nil => cases h
    | cons j l => cases h
  · obtain ⟨hstore, rfl⟩ := List.cons.inj h
    obtain rfl := Access.store.inj hstore
    exact ⟨hcomputed, l, .inl rfl⟩

def Midway (compute : α → σ) (put : σ → α → α) (cells : List α) (s : Loop τ α σ) : Prop :=
  ∀ i : Nat, s.cells[i]? = cells[i]? ∨ s.cells[i]? = cells[i]?.map (iterate compute put)

/-- What is computed does not depend on what is stored, of which only the last counts. -/
structure Independent (compute : α → σ) (put : σ → α → α) : Prop where
  compute_put : ∀ x a, compute (put x a) = compute a
  put_put : ∀ x a, put x (put x a) = put x a

variable (hind : Independent compute put) {s : Loop τ α σ}
include hind

omit [DecidableEq τ] in
theorem Midway.load (h : Midway compute put cells s) (i : Nat) :
    s.cells[i]?.map compute = cells[i]?.map compute := by
  rcases h i with h | h
  · rw [h]
  · rw [h, Option.map_map]
    congr 1
    funext a
    exact hind.compute_put _ a

theorem Midway.store (h : Midway compute put cells s) {t : τ} {i : Nat}
    (hcomputed : s.computed t = cells[i]?.map compute) (j : Nat) :
    (s.step compute put (t, .store i)).cells[j]? =
      if i = j then cells[j]?.map (iterate compute put) else s.cells[j]? := by
  rw [Loop.step]
  cases hi : cells[i]? with
  | none =>
    rw [hi, Option.map_none] at hcomputed
    simp only [hcomputed]
    split
    case isTrue hij =>
      subst hij
      rcases h i with h | h <;> simp [h, hi]
    case isFalse => rfl
  | some a =>
    rw [hi, Option.map_some] at hcomputed
    simp only [hcomputed, List.getElem?_modify]
    split
    case isTrue hij =>
      subst hij
      rcases h i with h | h
      · rw [h, hi]
        rfl
      · rw [h, hi]
        exact congrArg some (hind.put_put _ a)
    case isFalse => simp

theorem Midway.getElem?_run (h : Midway compute put cells s) {accesses : List (τ × Access)}
    (hresumes : ∀ t, Resumes compute cells (s.computed t) (ofThread t accesses)) (j : Nat) :
    (s.run compute put accesses).cells[j]? =
      if Access.store j ∈ accesses.map Prod.snd then cells[j]?.map (iterate compute put)
      else s.cells[j]? := by
  induction accesses generalizing s with
  | nil => rfl
  | cons c accesses ih =>
    obtain ⟨t, access⟩ := c
    have hown := hresumes t
    rw [ofThread_cons_self] at hown
    have hother : ∀ t', t' ≠ t → Resumes compute cells (s.computed t') (ofThread t' accesses) := by
      intro t' ht'
      have hrest := hresumes t'
      rwa [ofThread_cons_ne t' accesses (Ne.symm ht')] at hrest
    cases access with
    | load i =>
      have hmidway : Midway compute put cells (s.step compute put (t, .load i)) := h
      refine (ih hmidway fun t' => ?_).trans ?_
      · by_cases ht : t' = t
        · subst ht
          simp only [Loop.step, Function.update_self, h.load hind]
          exact hown.load
        · simp only [Loop.step, Function.update_of_ne ht]
          exact hother t' ht
      · simp only [List.map_cons, List.mem_cons, reduceCtorEq, false_or]
        rfl
    | store i =>
      obtain ⟨hcomputed, hown⟩ := hown.store
      have hcells := h.store hind hcomputed
      have hsame : (s.step compute put (t, .store i)).computed = s.computed := by
        rw [Loop.step]
        simp only
        split <;> rfl
      have hmidway : Midway compute put cells (s.step compute put (t, .store i)) := by
        intro j
        rw [hcells]
        split
        case isTrue => exact .inr rfl
        case isFalse => exact h j
      refine (ih hmidway fun t' => ?_).trans ?_
      · rw [hsame]
        by_cases ht : t' = t
        · exact ht ▸ hown
        · exact hother t' ht
      · rw [hcells]
        simp only [List.map_cons, List.mem_cons, Access.store.injEq]
        by_cases hlater : Access.store j ∈ accesses.map Prod.snd
        · simp [hlater]
        · simp [hlater, eq_comm]

end Correct

section ParallelFor

variable [Fintype τ] {compute : α → σ} {put : σ → α → α}

theorem ParallelFor.store_mem {length : Nat} (r : ParallelFor τ length) {i : Nat}
    (hi : i < length) : Access.store i ∈ r.accesses.map Prod.snd := by
  have hmem : i ∈ ∑ t, (r.iterations t : Multiset Nat) := by
    rw [r.shared]
    exact List.mem_range.mpr hi
  obtain ⟨t, -, ht⟩ := Multiset.mem_sum.mp hmem
  have hstore : Access.store i ∈ ofThread t r.accesses := by
    rw [r.program, List.mem_flatMap]
    exact ⟨i, ht, by simp [body]⟩
  exact List.mem_map.mpr ⟨_, (mem_ofThread t r.accesses _).mp hstore, rfl⟩

/-- However the iterations are shared and their accesses interleave, every cell ends as after its
own iteration. -/
theorem ParallelFor.run_cells (hind : Independent compute put) (cells : List α)
    (r : ParallelFor τ cells.length) (computed : τ → Option σ) :
    (Loop.run compute put ⟨cells, computed⟩ r.accesses).cells =
      cells.map (iterate compute put) := by
  apply List.ext_getElem?
  intro i
  have hmidway : Midway compute put cells ⟨cells, computed⟩ := fun _ => .inl rfl
  rw [hmidway.getElem?_run hind (fun t => ⟨_, .inl (r.program t)⟩), List.getElem?_map]
  split
  case isTrue => rfl
  case isFalse hstore =>
    have hnone : cells[i]? = none :=
      List.getElem?_eq_none (Nat.le_of_not_lt fun hi => hstore (r.store_mem hi))
    rw [hnone]
    rfl

def ParallelFor.sequential [Inhabited τ] (length : Nat) : ParallelFor τ length where
  iterations t := if t = default then List.range length else []
  accesses := ((List.range length).flatMap body).map (default, ·)
  shared := by
    have hterm : ∀ t : τ, ((if t = default then List.range length else [] : List Nat) :
        Multiset Nat) = if t = default then (List.range length : Multiset Nat) else 0 := by
      intro t
      split <;> rfl
    simp [hterm]
  program t := by
    by_cases ht : t = default
    · subst ht
      simp [ofThread, List.filter_map, Function.comp_def]
    · simp [ofThread, List.filter_map, Function.comp_def, Ne.symm ht, ht]

end ParallelFor

end SeedCracking.Threads
