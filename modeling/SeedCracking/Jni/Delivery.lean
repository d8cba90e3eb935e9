import SeedCracking.Jni.SendUpdate
import SeedCracking.Kernel.Parallel

/-! Which messages of the search reach Java. -/

namespace SeedCracking.Jni

open Kernel Threads Xoroshiro

variable {τ : Type} [DecidableEq τ]

theorem run_invoked_rest (vm : Jvm τ) (calls : List (τ × Update)) :
    (run vm calls).invoked =
      vm.invoked ++ (rest vm.attached calls).map fun c => (c.1, callOf c.2) := by
  induction calls generalizing vm with
  | nil => simp [run, rest]
  | cons c calls ih =>
    rw [run, List.foldl_cons, ← run, ih, rest]
    cases h : vm.attached c.1 with
    | true => simp [sendUpdate_attached vm c.1 c.2 h]
    | false => simp [sendUpdate_detached vm c.1 c.2 h]

theorem callOf_injective : Function.Injective callOf := by
  rintro ⟨update, onlyLog, args⟩ ⟨update', onlyLog', args'⟩ h
  have hbox : Function.Injective fun arg : BitVec 64 => some arg.toInt := by
    intro x y hxy
    exact BitVec.eq_of_toInt_eq (Option.some.inj hxy)
  simp only [callOf, JavaCall.mk.injEq, hbox.list_map.eq_iff] at h
  obtain ⟨rfl, rfl, rfl⟩ := h
  rfl

section Search

variable [Fintype τ] {k : Nat} (hk : k ≤ 24) {nextlong1 nextlong2 : BitVec 64} (vm : Jvm τ)
  (r : ParallelRun τ (2 ^ k) nextlong1 nextlong2)

include hk

theorem foundCandidate_of_mem_firsts {c : τ × Update} (hc : c ∈ firsts vm.attached r.calls) :
    ∃ lo hi guess, c.2 = foundCandidate lo hi guess := by
  obtain ⟨t, u⟩ := c
  rw [← mem_ofThread, ofThread_firsts] at hc
  refine r.head?_ofThread hk (t := t) ?_
  split at hc
  case isTrue => simp at hc
  case isFalse =>
    rw [List.take_one] at hc
    simpa using hc

theorem mem_rest_foundWorldSeed (w : BitVec 64) :
    (∃ t, (t, foundWorldSeed w) ∈ rest vm.attached r.calls) ↔
      (ofWorldSeed w).outputs = (nextlong1, nextlong2) := by
  have hsplit : ∀ c, c ∈ r.calls ↔
      c ∈ firsts vm.attached r.calls ∨ c ∈ rest vm.attached r.calls := by
    intro c
    rw [← Multiset.mem_coe, ← firsts_add_rest vm.attached, Multiset.mem_add, Multiset.mem_coe,
      Multiset.mem_coe]
  have hfirsts : ∀ t, (t, foundWorldSeed w) ∉ firsts vm.attached r.calls := by
    intro t ht
    obtain ⟨lo, hi, guess, h⟩ := foundCandidate_of_mem_firsts hk vm r ht
    exact foundWorldSeed_ne_foundCandidate h
  rw [← r.mem_calls_foundWorldSeed hk w, List.mem_map]
  constructor
  · rintro ⟨t, ht⟩
    exact ⟨_, (hsplit _).mpr (.inr ht), rfl⟩
  · rintro ⟨⟨t, u⟩, ht, rfl⟩
    exact ⟨t, ((hsplit _).mp ht).resolve_left (hfirsts t)⟩

/-- Whatever threads share the search and whichever of them are attached, each detached thread
that sends anything loses one message; it is a candidate, and every world seed is announced. -/
theorem worldSeeds_delivered :
    ∃ (delivered : List (τ × JavaCall)) (lost : Multiset Update),
      (run vm r.calls).invoked = vm.invoked ++ delivered ∧
      (kernelName (2 ^ k) nextlong1 nextlong2).map (Multiset.map callOf) =
        some ((delivered.map Prod.snd : Multiset JavaCall) + lost.map callOf) ∧
      lost.card = (Finset.univ.filter fun t =>
        vm.attached t = false ∧ ofThread t r.calls ≠ []).card ∧
      (∀ u ∈ lost, ∃ lo hi guess, u = foundCandidate lo hi guess) ∧
      ∀ w, (∃ t, (t, callOf (foundWorldSeed w)) ∈ delivered) ↔
        (ofWorldSeed w).outputs = (nextlong1, nextlong2) := by
  refine ⟨_, ((firsts vm.attached r.calls).map Prod.snd : List Update),
    run_invoked_rest vm r.calls, ?_, ?_, ?_, fun w => ?_⟩
  · rw [r.sent hk, Option.map_some, List.map_map]
    have hsplit := congrArg (Multiset.map fun c => callOf c.2) (firsts_add_rest vm.attached r.calls)
    rw [Multiset.map_add] at hsplit
    simp only [Multiset.map_coe, List.map_map]
    rw [add_comm]
    exact congrArg some hsplit.symm
  · rw [Multiset.coe_card, List.length_map, length_firsts]
  · intro u hu
    obtain ⟨c, hc, rfl⟩ := List.mem_map.mp (Multiset.mem_coe.mp hu)
    exact foundCandidate_of_mem_firsts hk vm r hc
  · rw [← mem_rest_foundWorldSeed hk vm r w]
    simp [callOf_injective.eq_iff]

end Search

theorem worldSeeds_delivered_detached :
    ∃ (delivered : List (Unit × JavaCall)) (lost : Multiset Update),
      (run (⟨fun _ => false, []⟩ : Jvm Unit)
        (sequentialRun (k := 1) (by decide) (ofWorldSeed 0).output
          (ofWorldSeed 0).next.output).calls).invoked = [] ++ delivered ∧
      (kernelName (2 ^ 1) (ofWorldSeed 0).output (ofWorldSeed 0).next.output).map
        (Multiset.map callOf) =
        some ((delivered.map Prod.snd : Multiset JavaCall) + lost.map callOf) ∧
      ∃ t, (t, callOf (foundWorldSeed 0)) ∈ delivered := by
  obtain ⟨delivered, lost, hrun, hsent, -, -, hseeds⟩ := worldSeeds_delivered (k := 1) (by decide)
    (⟨fun _ => false, []⟩ : Jvm Unit)
    (sequentialRun (k := 1) (by decide) (ofWorldSeed 0).output (ofWorldSeed 0).next.output)
  exact ⟨delivered, lost, hrun, hsent, (hseeds 0).mpr rfl⟩

end SeedCracking.Jni
