import SeedCracking.Blocks.Veins
import SeedCracking.Blocks.WorldSeed
import SeedCracking.Jni.Delivery

/-! What Java receives from a call of `bedrockseed$crack`. -/

namespace SeedCracking.Jni

open Blocks Kernel Smt Threads Xoroshiro

variable {τ : Type} [Fintype τ] [DecidableEq τ]

def vectorSize (cpu : Cpu) : Nat := if cpu.avx512f then 3 else if cpu.avx2 then 2 else 1

theorem vectorSize_le (cpu : Cpu) : vectorSize cpu ≤ 24 := by
  rw [vectorSize]
  split_ifs <;> decide

/-- A call of `bedrockseed$crack` by a thread: it sends the updates of the run, and if the run gets
to the search, threads share it. -/
inductive NativeCall (caller : τ) (cpu : Cpu) (z3 : Solver Unknown 64) (entries : List BlockEntry)
    (mode : Nat) : List (τ × Update) → Prop
  | ended {end_ : Except Stop Result} {log : List Update}
      (hrun : Run.outcome [] (bedrockseedCrack cpu z3 entries mode) = (end_, log))
      (hend : ∀ updates, end_ ≠ .ok (.searched updates)) :
      NativeCall caller cpu z3 entries mode (log.map (caller, ·))
  | searched {updates : Option (Multiset Update)} {log : List Update} (I : State)
      (hrun : Run.outcome [] (bedrockseedCrack cpu z3 entries mode) =
        (.ok (.searched updates), log))
      (hlast : log.getLast? =
        some ⟨"commands.bedrockcrack.crackedRandomStateRandom", false, [I.lo, I.hi]⟩)
      (search : ParallelRun τ (2 ^ vectorSize cpu) I.lo I.hi) :
      NativeCall caller cpu z3 entries mode (log.map (caller, ·) ++ search.calls)

section Log

variable {τ : Type} {caller : τ}

theorem mem_log {t : τ} {u : Update} {log : List Update} :
    (t, callOf u) ∈ log.map (fun u => (caller, callOf u)) ↔ t = caller ∧ u ∈ log := by
  simp only [List.mem_map, Prod.mk.injEq, callOf_injective.eq_iff]
  constructor
  · rintro ⟨u', hu, rfl, rfl⟩
    exact ⟨rfl, hu⟩
  · rintro ⟨rfl, hu⟩
    exact ⟨u, hu, rfl, rfl⟩

variable [DecidableEq τ]

def received (vm : Jvm τ) (calls : List (τ × Update)) : List (τ × JavaCall) :=
  (rest vm.attached calls).map fun c => (c.1, callOf c.2)

variable {vm : Jvm τ} (hattached : vm.attached caller = true) (log : List Update)
include hattached

theorem received_append (calls : List (τ × Update)) :
    received vm (log.map (caller, ·) ++ calls) =
      log.map (fun u => (caller, callOf u)) ++ received vm calls := by
  have hready : ∀ c ∈ log.map (caller, ·), vm.attached c.1 = true := by
    intro c hc
    obtain ⟨u, -, rfl⟩ := List.mem_map.mp hc
    exact hattached
  rw [received, rest_append vm.attached hready, List.map_append, List.map_map, received]
  rfl

theorem received_log :
    received vm (log.map (caller, ·)) = log.map fun u => (caller, callOf u) := by
  have hnil : received vm ([] : List (τ × Update)) = [] := rfl
  have h := received_append hattached log []
  rwa [List.append_nil, hnil, List.append_nil] at h

end Log

section Call

variable {caller : τ} {cpu : Cpu} {z3 : Solver Unknown 64} {entries : List BlockEntry} {mode : Nat}
  {calls : List (τ × Update)}

theorem NativeCall.cases (h : NativeCall caller cpu z3 entries mode calls) (hsound : z3.Sound)
    (hright : z3.Right) (h1 : 1 ≤ mode) (h31 : mode ≤ 31) :
    (calls = (verdict "commands.bedrockcrack.Z3Failed" []).map (caller, ·)) ∨
    (calls = (verdict "commands.bedrockcrack.Z3Unsat" []).map (caller, ·) ∧
      ∀ I, ¬ Kept (observations entries mode) I) ∨
    (∃ I, ∃ search : ParallelRun τ (2 ^ vectorSize cpu) I.lo I.hi,
      calls = (verdict "commands.bedrockcrack.crackedRandomStateRandom" [I.lo, I.hi]).map
        (caller, ·) ++ search.calls ∧ Kept (observations entries mode) I) ∨
    calls = searchUpdates.map (caller, ·) ∧ Throws cpu z3 entries mode := by
  have hcases := crack_cases cpu entries hsound hright h1 h31
  cases h with
  | ended hrun hend =>
    simp only [hrun, Prod.mk.injEq] at hcases
    rcases hcases with ⟨-, rfl⟩ | ⟨⟨-, rfl⟩, hnone⟩ | ⟨I, seeds, ⟨rfl, -⟩, -⟩ | ⟨hend', rfl⟩
    · exact .inl rfl
    · exact .inr (.inl ⟨rfl, hnone⟩)
    · exact absurd rfl (hend _)
    · exact .inr (.inr (.inr ⟨rfl, by rw [Throws, hrun, hend']⟩))
  | searched I hrun hlast search =>
    simp only [hrun, Prod.mk.injEq, reduceCtorEq, false_and, or_false, false_or,
      Except.ok.injEq] at hcases
    obtain ⟨I', seeds, ⟨-, rfl⟩, hkept, -⟩ := hcases
    have hargs : [I'.lo, I'.hi] = [I.lo, I.hi] := by
      rw [verdict, List.getLast?_concat] at hlast
      exact congrArg Update.args (Option.some.inj hlast)
    obtain ⟨hlo, hhi⟩ : I'.lo = I.lo ∧ I'.hi = I.hi := by simpa using hargs
    obtain rfl : I' = I := State.ext hlo hhi
    exact .inr (.inr (.inl ⟨I', search, rfl, hkept⟩))

theorem NativeCall.head?_ofThread (h : NativeCall caller cpu z3 entries mode calls) {t : τ}
    (ht : t ≠ caller) {u : Update} (hu : (ofThread t calls).head? = some u) :
    ∃ lo hi guess, u = foundCandidate lo hi guess := by
  have hlog : ∀ log : List Update, ofThread t (log.map (caller, ·)) = [] := by
    intro log
    simp [ofThread, List.filter_map, Function.comp_def, Ne.symm ht]
  cases h with
  | ended =>
    rw [hlog] at hu
    cases hu
  | searched I hrun hlast search =>
    rw [ofThread_append, hlog, List.nil_append] at hu
    exact search.head?_ofThread (vectorSize_le cpu) hu

theorem foundWorldSeed_not_mem_verdict {w : BitVec 64} {update : String} {args : List (BitVec 64)}
    (h : update ≠ "commands.bedrockcrack.foundWorldSeed") :
    foundWorldSeed w ∉ verdict update args := by
  simp [foundWorldSeed, verdict, searchUpdates, Ne.symm h]

theorem foundWorldSeed_not_mem_searchUpdates {w : BitVec 64} :
    foundWorldSeed w ∉ searchUpdates := by
  simp [foundWorldSeed, searchUpdates]

section Search

variable {vm : Jvm τ} {I : State} (search : ParallelRun τ (2 ^ vectorSize cpu) I.lo I.hi)

theorem mem_received_search (w : BitVec 64) :
    (∃ t, (t, callOf (foundWorldSeed w)) ∈ received vm search.calls) ↔ worldState w = I := by
  rw [worldState_eq_iff, ← mem_rest_foundWorldSeed (vectorSize_le cpu) vm search w]
  simp [received, callOf_injective.eq_iff]

theorem unsat_not_mem_search (t : τ) :
    (t, callOf ⟨"commands.bedrockcrack.Z3Unsat", false, []⟩) ∉ received vm search.calls := by
  intro hmem
  simp only [received, List.mem_map, Prod.mk.injEq, callOf_injective.eq_iff] at hmem
  obtain ⟨c, hc, -, hu⟩ := hmem
  have hcalls : c ∈ search.calls := by
    rw [← Multiset.mem_coe, ← firsts_add_rest vm.attached, Multiset.mem_add]
    exact .inr (Multiset.mem_coe.mpr hc)
  rcases search.mem_calls (vectorSize_le cpu) hcalls with ⟨lo, hi, guess, h⟩ | ⟨w, h⟩
  · simp [hu, foundCandidate] at h
  · simp [hu, foundWorldSeed] at h

end Search

variable {vm : Jvm τ} (hattached : vm.attached caller = true)
  (h : NativeCall caller cpu z3 entries mode calls) (hsound : z3.Sound) (hright : z3.Right)
  (h1 : 1 ≤ mode) (h31 : mode ≤ 31)

include hattached h hsound hright h1 h31

/-- What the messages mean to Java: an announced world seed has the reported state, which every
beam has kept; `Z3Unsat` arrives only when no state has been kept by all of them. -/
theorem received_sound :
    (run vm calls).invoked = vm.invoked ++ received vm calls ∧
    (∀ t w, (t, callOf (foundWorldSeed w)) ∈ received vm calls →
      Kept (observations entries mode) (worldState w) ∧
      (verdict "commands.bedrockcrack.crackedRandomStateRandom"
        [(worldState w).lo, (worldState w).hi]).map (fun u => (caller, callOf u)) <+:
          received vm calls) ∧
    ∀ t, (t, callOf ⟨"commands.bedrockcrack.Z3Unsat", false, []⟩) ∈ received vm calls →
      ∀ I, ¬ Kept (observations entries mode) I := by
  refine ⟨run_invoked_rest vm calls, ?_⟩
  rcases h.cases hsound hright h1 h31 with
    rfl | ⟨rfl, hnone⟩ | ⟨I, search, rfl, hkept⟩ | ⟨rfl, -⟩
  · simp only [received_log hattached, mem_log]
    refine ⟨fun t w hw => ?_, fun t hunsat => ?_⟩
    · exact absurd hw.2 (foundWorldSeed_not_mem_verdict (by decide))
    · simp [verdict, searchUpdates] at hunsat
  · simp only [received_log hattached, mem_log]
    refine ⟨fun t w hw => ?_, fun _ _ => hnone⟩
    exact absurd hw.2 (foundWorldSeed_not_mem_verdict (by decide))
  · rw [received_append hattached]
    simp only [List.mem_append, mem_log]
    refine ⟨fun t w hw => ?_, fun t hunsat => ?_⟩
    · have hsearch := hw.resolve_left fun hlog =>
        foundWorldSeed_not_mem_verdict (by decide) hlog.2
      obtain rfl := (mem_received_search search w).mp ⟨t, hsearch⟩
      exact ⟨hkept, List.prefix_append _ _⟩
    · rcases hunsat with hunsat | hunsat
      · simp [verdict, searchUpdates] at hunsat
      · exact absurd hunsat (unsat_not_mem_search search t)
  · simp only [received_log hattached, mem_log]
    refine ⟨fun t w hw => ?_, fun t hunsat => ?_⟩
    · exact absurd hw.2 foundWorldSeed_not_mem_searchUpdates
    · simp [searchUpdates] at hunsat

theorem received_of_only {w : BitVec 64} (hw : Kept (observations entries mode) (worldState w))
    (honly : ∀ I, Kept (observations entries mode) I → I = worldState w) :
    Throws cpu z3 entries mode ∨
    (caller, callOf ⟨"commands.bedrockcrack.Z3Failed", false, []⟩) ∈ received vm calls ∨
    (∃ t, (t, callOf (foundWorldSeed w)) ∈ received vm calls) ∧
      ∀ t w', (t, callOf (foundWorldSeed w')) ∈ received vm calls →
        worldState w' = worldState w := by
  rcases h.cases hsound hright h1 h31 with
    rfl | ⟨rfl, hnone⟩ | ⟨I, search, rfl, hkept⟩ | ⟨-, hthrows⟩
  · refine .inr (.inl ?_)
    rw [received_log hattached, mem_log]
    exact ⟨rfl, List.mem_append_right _ (List.mem_singleton_self _)⟩
  · exact absurd hw (hnone _)
  · refine .inr (.inr ?_)
    obtain rfl := honly I hkept
    rw [received_append hattached]
    simp only [List.mem_append, mem_log]
    refine ⟨?_, fun t w' hw' => ?_⟩
    · have hannounced : ∃ t, (t, callOf (foundWorldSeed w)) ∈ received vm search.calls :=
        (mem_received_search search w).mpr rfl
      exact hannounced.imp fun _ => .inr
    · have hsearch := hw'.resolve_left fun hlog =>
        foundWorldSeed_not_mem_verdict (by decide) hlog.2
      exact (mem_received_search search w').mp ⟨t, hsearch⟩
  · exact .inl hthrows

/-- Java is told a world seed, and no seed of another state, unless some search loses its state to
rivals, or all beams have kept another state as well, or the run throws, or the solver gives up. -/
theorem received_or_rivalled (w : BitVec 64) :
    (∃ k : Fin 5, Rivalled (k + 1) (observations entries mode k) (channelState (worldState w) k)) ∨
    (∃ I, I ≠ worldState w ∧ Kept (observations entries mode) I) ∨
    Throws cpu z3 entries mode ∨
    (caller, callOf ⟨"commands.bedrockcrack.Z3Failed", false, []⟩) ∈ received vm calls ∨
    (∃ t, (t, callOf (foundWorldSeed w)) ∈ received vm calls) ∧
      ∀ t w', (t, callOf (foundWorldSeed w')) ∈ received vm calls →
        worldState w' = worldState w := by
  by_cases hrivals : ∃ k : Fin 5, Rivalled (k + 1) (observations entries mode k)
      (channelState (worldState w) k)
  · exact .inl hrivals
  by_cases hother : ∃ I, I ≠ worldState w ∧ Kept (observations entries mode) I
  · exact .inr (.inl hother)
  refine .inr (.inr (received_of_only hattached h hsound hright h1 h31
    (kept_of_not_rivalled (not_exists.mp hrivals)) fun I hI => ?_))
  by_contra hne
  exact hother ⟨I, hne, hI⟩

end Call

theorem exists_nativeCall (caller : τ) (cpu : Cpu) (z3 : Solver Unknown 64)
    (entries : List BlockEntry) {mode : Nat} (h1 : 1 ≤ mode) (h31 : mode ≤ 31) :
    ∃ calls, NativeCall caller cpu z3 entries mode calls := by
  have hrun := bedrockseedCrack_eq cpu z3 entries [] h1 h31
  rcases crackState_cases cpu z3 ([] ++ searchUpdates) (clauses (solutions entries mode)) with
    ⟨-, hend⟩ | ⟨-, hend⟩ | ⟨-, i0, i1, -, -, hend⟩ | ⟨-, -, hend⟩
  · exact ⟨_, .ended (hrun.trans hend) nofun⟩
  · exact ⟨_, .ended (hrun.trans hend) nofun⟩
  · refine ⟨_, .searched ⟨i0, i1⟩ (hrun.trans hend) ?_
      (.alone (vectorSize_le cpu) caller i0 i1)⟩
    rw [List.getLast?_concat]
  · exact ⟨_, .ended (hrun.trans hend) nofun⟩

def sample : List BlockEntry := ⟨0, -63, 0, 0⟩ :: ⟨0, 4, 0, 5⟩ :: cluster

theorem observations_sample (k : Fin 5) : observations sample 31 k ≠ [] := by
  have hvein : inVein sample (0, 0, 0) := ⟨⟨(0, 0, 0), rfl, by decide⟩, by decide⟩
  rw [observations_ne_nil]
  match k with
  | 0 => exact ⟨by decide, (0, -63, 0), by decide, by decide, .inl rfl⟩
  | 1 => exact ⟨by decide, (0, 4, 0), by decide, by decide, .inl rfl⟩
  | 2 => exact ⟨by decide, _, hvein⟩
  | 3 => exact ⟨by decide, _, hvein, rfl⟩
  | 4 => exact ⟨by decide, _, hvein, .inl rfl⟩

theorem not_throws_sample : ¬ Throws ⟨false, false⟩ Solver.ideal sample 31 :=
  not_throws_of_usable _ _ (by decide) (by decide) (Solver.ideal_interprets _)
    ((observations_ne_nil sample 31 0).mp (observations_sample 0))

theorem received_sound_sample : ∃ calls,
    NativeCall () ⟨false, false⟩ Solver.ideal sample 31 calls ∧
    ∀ t w, (t, callOf (foundWorldSeed w)) ∈ received ⟨fun _ => true, []⟩ calls →
      Kept (observations sample 31) (worldState w) := by
  obtain ⟨calls, hcall⟩ := exists_nativeCall () ⟨false, false⟩ Solver.ideal sample
    (show 1 ≤ 31 by decide) (by decide)
  have hattached : (⟨fun _ => true, []⟩ : Jvm Unit).attached () = true := rfl
  have h := received_sound hattached hcall Solver.ideal_sound Solver.ideal_right (by decide)
    (by decide)
  exact ⟨calls, hcall, fun t w hw => (h.2.1 t w hw).1⟩

theorem received_or_rivalled_sample : ∃ calls,
    NativeCall () ⟨false, false⟩ Solver.ideal sample 31 calls ∧
    (∀ k, observations sample 31 k ≠ []) ∧
    ((∃ k : Fin 5, Rivalled (k + 1) (observations sample 31 k) (channelState (worldState 0) k)) ∨
    (∃ I, I ≠ worldState 0 ∧ Kept (observations sample 31) I) ∨
    ((), callOf ⟨"commands.bedrockcrack.Z3Failed", false, []⟩) ∈
      received ⟨fun _ => true, []⟩ calls ∨
    (∃ t, (t, callOf (foundWorldSeed 0)) ∈ received ⟨fun _ => true, []⟩ calls) ∧
      ∀ t w, (t, callOf (foundWorldSeed w)) ∈ received ⟨fun _ => true, []⟩ calls →
        worldState w = worldState 0) := by
  obtain ⟨calls, hcall⟩ := exists_nativeCall () ⟨false, false⟩ Solver.ideal sample
    (show 1 ≤ 31 by decide) (by decide)
  have hattached : (⟨fun _ => true, []⟩ : Jvm Unit).attached () = true := rfl
  refine ⟨calls, hcall, observations_sample, ?_⟩
  rcases received_or_rivalled hattached hcall Solver.ideal_sound Solver.ideal_right (by decide)
    (by decide) 0 with hrivalled | hother | hthrows | hfailed | htold
  · exact .inl hrivalled
  · exact .inr (.inl hother)
  · exact absurd hthrows not_throws_sample
  · exact .inr (.inr (.inl hfailed))
  · exact .inr (.inr (.inr htold))

end SeedCracking.Jni
