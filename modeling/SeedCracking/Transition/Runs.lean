import Mathlib.Logic.Relation

/-! Runs of a step function whose steps all meet a condition. -/

universe u v

namespace SeedCracking.Transition

variable {σ : Type u} {α : Type v} (step : σ → α → Option σ)

section Runs

variable (ok : σ → α → Prop)

def Move (s s' : σ) : Prop := ∃ a, ok s a ∧ step s a = some s'

def Reaches : σ → σ → Prop := Relation.ReflTransGen (Move step ok)

def EveryState (init : σ) (P : σ → Prop) : Prop := ∀ s, Reaches step ok init s → P s

def EveryStep (init : σ) (P : σ → α → σ → Prop) : Prop :=
  ∀ s a s', Reaches step ok init s → ok s a → step s a = some s' → P s a s'

/-- No run from here goes on for ever. -/
def Terminates (s : σ) : Prop := Acc (fun s' s => Move step ok s s') s

def Final (s : σ) : Prop := ∀ a, ok s a → step s a = none

end Runs

def Unrestricted (_ : σ) (_ : α) : Prop := True

variable {step} {ok ok' : σ → α → Prop} {init s s' s'' : σ} {a : α}

theorem Reaches.refl : Reaches step ok s s := Relation.ReflTransGen.refl

theorem Reaches.trans (h : Reaches step ok s s') (h' : Reaches step ok s' s'') :
    Reaches step ok s s'' := Relation.ReflTransGen.trans h h'

theorem Reaches.single (hok : ok s a) (hs : step s a = some s') : Reaches step ok s s' :=
  Relation.ReflTransGen.single ⟨a, hok, hs⟩

theorem Reaches.head (hok : ok s a) (hs : step s a = some s') (h : Reaches step ok s' s'') :
    Reaches step ok s s'' := (Reaches.single hok hs).trans h

theorem Reaches.mono (hok : ∀ s a, ok s a → ok' s a) (h : Reaches step ok s s') :
    Reaches step ok' s s' := by
  refine Relation.ReflTransGen.mono ?_ _ _ h
  rintro s s' ⟨a, ha, hs⟩
  exact ⟨a, hok s a ha, hs⟩

theorem Reaches.unrestricted (h : Reaches step ok s s') : Reaches step Unrestricted s s' :=
  h.mono fun _ _ _ => trivial

theorem Reaches.invariant {Inv : σ → Prop} (h : Reaches step ok init s) (hinit : Inv init)
    (hstep : ∀ s a s', Inv s → ok s a → step s a = some s' → Inv s') : Inv s := by
  induction h with
  | refl => exact hinit
  | tail _ hmove ih =>
    obtain ⟨a, hok, hs⟩ := hmove
    exact hstep _ a _ ih hok hs

/-- An invariant that a step can end, and what holds of the run from that step on. -/
theorem Reaches.passes {Inv : σ → Prop} {Inv' : σ → α → σ → Prop} (h : Reaches step ok init s)
    (hinit : Inv init)
    (hstep : ∀ s a s', Inv s → ok s a → step s a = some s' → Inv s' ∨ Inv' s a s')
    (hstep' : ∀ s₁ a₁ s a s', Inv' s₁ a₁ s → ok s a → step s a = some s' → Inv' s₁ a₁ s') :
    Inv s ∨ ∃ s₁ a s₂, Reaches step ok init s₁ ∧ step s₁ a = some s₂ ∧ Reaches step ok s₂ s ∧
      Inv' s₁ a s := by
  induction h with
  | refl => exact .inl hinit
  | tail hrun hmove ih =>
    obtain ⟨a, hok, hs⟩ := hmove
    rcases ih with hinv | ⟨s₁, a₁, s₂, hrun₁, hs₁, hrun₂, hinv⟩
    · exact (hstep _ a _ hinv hok hs).imp_right fun hinv' => ⟨_, a, _, hrun, hs, .refl, hinv'⟩
    · exact .inr ⟨s₁, a₁, s₂, hrun₁, hs₁, hrun₂.trans (.single hok hs),
        hstep' s₁ a₁ _ a _ hinv hok hs⟩

theorem Reaches.credit {spent earned : σ → Nat} (h : Reaches step ok s s')
    (hstep : ∀ s a s', ok s a → step s a = some s' →
      spent s' + earned s ≤ spent s + earned s') :
    spent s' + earned s ≤ spent s + earned s' := by
  induction h with
  | refl => exact Nat.le_refl _
  | tail _ hmove ih =>
    obtain ⟨a, hok, hs⟩ := hmove
    have hlast := hstep _ a _ hok hs
    omega

theorem Terminates.of_rank {γ : Type*} [WellFoundedRelation γ] (rank : σ → γ)
    (hstep : ∀ s a s', ok s a → step s a = some s' → WellFoundedRelation.rel (rank s') (rank s))
    (s : σ) : Terminates step ok s := by
  refine Subrelation.accessible ?_ ((InvImage.wf rank WellFoundedRelation.wf).apply s)
  rintro s' s ⟨a, hok, hs⟩
  exact hstep s a s' hok hs

theorem EveryState.of_invariant {Inv P : σ → Prop} (hinit : Inv init)
    (hstep : ∀ s a s', Inv s → ok s a → step s a = some s' → Inv s') (hP : ∀ s, Inv s → P s) :
    EveryState step ok init P := by
  intro s h
  exact hP s (h.invariant hinit hstep)

section Simulation

variable {σ' : Type u} {α' : Type v} {step' : σ' → α' → Option σ'} {okₛ : σ' → α' → Prop}
  (f : σ → σ') (g : α → α')
  (hstep : ∀ s a s', ok s a → step s a = some s' →
    okₛ (f s) (g a) ∧ step' (f s) (g a) = some (f s'))
include hstep

theorem Reaches.simulates (h : Reaches step ok s s') : Reaches step' okₛ (f s) (f s') := by
  induction h with
  | refl => exact .refl
  | tail _ hmove ih =>
    obtain ⟨a, hok, hs⟩ := hmove
    obtain ⟨hok', hs'⟩ := hstep _ a _ hok hs
    exact ih.trans (.single hok' hs')

end Simulation

theorem EveryStep.of_invariant {Inv : σ → Prop} {P : σ → α → σ → Prop} (hinit : Inv init)
    (hstep : ∀ s a s', Inv s → ok s a → step s a = some s' → Inv s')
    (hP : ∀ s a s', Inv s → ok s a → step s a = some s' → P s a s') :
    EveryStep step ok init P := by
  intro s a s' h
  exact hP s a s' (h.invariant hinit hstep)

end SeedCracking.Transition
