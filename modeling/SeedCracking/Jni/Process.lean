import SeedCracking.Collector.Calls
import SeedCracking.Collector.Start
import SeedCracking.Jni.Recovery

/-! The collector, the native code and the virtual machine together. -/

namespace SeedCracking.Jni

open Blocks Kernel Memory Smt Threads Transition Xoroshiro
open Collector hiding State

structure Process (τ : Type) where
  collector : Collector.State
  vm : Jvm τ
  /-- The messages sent so far. No step reads them. -/
  calls : List (τ × Update)

variable {τ : Type}

def Process.init (attached : τ → Bool) : Process τ := ⟨Collector.init, ⟨attached, []⟩, []⟩

/-- A step of the collector, and the messages that native code sends in it. A call sends all of
its messages in the step that begins it: no other step touches the virtual machine. -/
def Process.step [DecidableEq τ] (world : Point → Block) (p : Process τ)
    (a : Act × List (τ × Update)) : Option (Process τ) :=
  (Collector.step world p.collector a.1).map fun s => ⟨s, run p.vm a.2, p.calls ++ a.2⟩

theorem Process.step_cases [DecidableEq τ] {world : Point → Block} {p p' : Process τ}
    {a : Act × List (τ × Update)} (h : p.step world a = some p') :
    Collector.step world p.collector a.1 = some p'.collector ∧ p'.vm = run p.vm a.2 ∧
      p'.calls = p.calls ++ a.2 := by
  obtain ⟨s, hs, rfl⟩ := Option.map_eq_some_iff.mp h
  exact ⟨hs, rfl, rfl⟩

variable [Fintype τ] [DecidableEq τ] (caller : τ) (cpu : Cpu) (z3 : Solver Unknown 64)

/-- A call runs on the entries as the loop has written them; nothing else sends messages. -/
def Process.Executes (p : Process τ) (a : Act × List (τ × Update)) : Prop :=
  match p.collector.cracked a.1 with
  | some data =>
    ∃ (order : ByteOrder) (entries : Allocated data.length) (m m' : Mem),
      copyEntries order entries.toMemorySegment 0 data m = some m' ∧
      NativeCall caller cpu z3 (readEntries order m' entries.address data.length) 31 a.2
  | none => a.2 = []

/-- A call that throws never comes back: the exception ends the program. -/
def Returns (s : Collector.State) (act : Act) : Prop :=
  act = .returned → ∀ data, s.cracks.getLast? = some data → ¬ Throws cpu z3 data 31

def Process.Runs (ok : Collector.State → Act → Prop) (p : Process τ)
    (a : Act × List (τ × Update)) : Prop :=
  (ok p.collector a.1 ∧ Returns cpu z3 p.collector a.1) ∧ p.Executes caller cpu z3 a

variable {caller cpu z3} {world : Point → Block} {ok : Collector.State → Act → Prop}
  {p p' p'' : Process τ} {a : Act × List (τ × Update)}

theorem recorded_of_cracked {s : Collector.State} (h : Truthful world ChunkPos.Inside s) {act : Act}
    {data : List BlockEntry} (hcracked : s.cracked act = some data) :
    Recorded world ChunkPos.Inside data := by
  have hentries := h.entries
  rw [(cracked_cases hcracked).2] at hentries
  exact hentries

theorem exists_allocated (n : Nat) : Nonempty (Allocated n) :=
  ⟨⟨⟨0, LAYOUT.byteSize * n⟩, rfl, rfl⟩⟩

theorem Process.exists_executes (h : Truthful world ChunkPos.Inside p.collector) (act : Act) :
    ∃ calls, p.Executes caller cpu z3 (act, calls) := by
  cases hcracked : p.collector.cracked act with
  | none => exact ⟨[], by simp only [Executes, hcracked]⟩
  | some data =>
    obtain ⟨entries⟩ := exists_allocated data.length
    obtain ⟨m', hcopied, -⟩ := exists_copyEntries (recorded_of_cracked h hcracked)
      .LITTLE_ENDIAN entries fun _ => 0
    obtain ⟨calls, hcall⟩ := exists_nativeCall caller cpu z3
      (readEntries .LITTLE_ENDIAN m' entries.address data.length) (show 1 ≤ 31 by decide)
      (by decide)
    refine ⟨calls, ?_⟩
    simp only [Executes, hcracked]
    exact ⟨.LITTLE_ENDIAN, entries, fun _ => 0, m', hcopied, hcall⟩

theorem Process.exists_run (h : Truthful world ChunkPos.Inside p.collector)
    (hsubmits : ∀ s act, ok s act → Submits ChunkPos.Inside s act) {s : Collector.State}
    (hs : Reaches (Collector.step world) (fun s act => ok s act ∧ Returns cpu z3 s act)
      p.collector s) :
    ∃ p', Reaches (Process.step world) (Process.Runs caller cpu z3 ok) p p' ∧ p'.collector = s := by
  induction hs with
  | refl => exact ⟨p, .refl, rfl⟩
  | @tail s s' hs hmove ih =>
    obtain ⟨act, hok, hstep⟩ := hmove
    obtain ⟨p', hp', rfl⟩ := ih
    have htruthful : Truthful world ChunkPos.Inside p'.collector :=
      Reaches.invariant hs h fun s act s' h' hok' => h'.step (hsubmits s act hok'.1)
    obtain ⟨calls, hcalls⟩ := Process.exists_executes htruthful act
    refine ⟨⟨s', run p'.vm calls, p'.calls ++ calls⟩, hp'.trans (.single ⟨hok, hcalls⟩ ?_), rfl⟩
    rw [Process.step, hstep, Option.map_some]

/-- The collector reaches in the process just what it reaches alone, when the calls that throw do
not come back. -/
theorem Process.reaches_iff (attached : τ → Bool) (s : Collector.State) :
    Reaches (Collector.step world) (fun s act => Submits ChunkPos.Inside s act ∧
        Returns cpu z3 s act) Collector.init s ↔
      ∃ p, Reaches (Process.step world) (Process.Runs caller cpu z3 (Submits ChunkPos.Inside))
        (.init attached) p ∧ p.collector = s := by
  constructor
  · exact Process.exists_run (p := .init attached) truthful_init fun _ _ => id
  · rintro ⟨p, hp, rfl⟩
    exact hp.simulates Process.collector Prod.fst fun p a p' hok hs =>
      ⟨hok.1, (Process.step_cases hs).1⟩

structure Sent (τ : Type) where
  vm : Jvm τ
  calls : List (τ × Update)

def Sent.received (c : Sent τ) : List (τ × JavaCall) := Jni.received c.vm c.calls

/-- What comes between two states: native calls with these entries, which send these messages. -/
structure Process.Since (caller : τ) (cpu : Cpu) (z3 : Solver Unknown 64) (p p' : Process τ)
    (made : List (List BlockEntry)) (sent : List (Sent τ)) : Prop where
  cracks : p'.collector.cracks = p.collector.cracks ++ made
  calls : p'.calls = p.calls ++ sent.flatMap Sent.calls
  vm : p'.vm = run p.vm (sent.flatMap Sent.calls)
  invoked : p'.vm.invoked = p.vm.invoked ++ sent.flatMap Sent.received
  each : List.Forall₂ (fun data c => c.vm.attached caller = true ∧
    NativeCall caller cpu z3 data 31 c.calls) made sent

structure Process.Follows (world : Point → Block) (caller : τ) (cpu : Cpu) (z3 : Solver Unknown 64)
    (p p' : Process τ) : Prop where
  truthful : Truthful world ChunkPos.Inside p'.collector
  attached : p'.vm.attached caller = true
  since : ∃ made sent, p.Since caller cpu z3 p' made sent

theorem Process.Follows.refl (h : Truthful world ChunkPos.Inside p.collector)
    (hattached : p.vm.attached caller = true) : p.Follows world caller cpu z3 p :=
  ⟨h, hattached, [], [], by simp, by simp, rfl, by simp, .nil⟩

theorem Process.Since.step {made : List (List BlockEntry)} {sent : List (Sent τ)}
    (h : p.Since caller cpu z3 p' made sent)
    (htruthful : Truthful world ChunkPos.Inside p'.collector)
    (hattached : p'.vm.attached caller = true) (hexec : p'.Executes caller cpu z3 a)
    (hs : p'.step world a = some p'') :
    ∃ made sent, p.Since caller cpu z3 p'' made sent := by
  obtain ⟨hstep, hvm, hcalls⟩ := Process.step_cases hs
  have hcracks := cracks_step hstep
  rw [Executes] at hexec
  split at hexec
  case h_1 data hcracked =>
    obtain ⟨order, entries, m, m', hcopied, hcall⟩ := hexec
    obtain ⟨_, hcopied', -, hread⟩ := exists_copyEntries (recorded_of_cracked htruthful hcracked)
      order entries m
    obtain rfl := Option.some.inj (hcopied.symm.trans hcopied')
    rw [hread] at hcall
    refine ⟨made ++ [data], sent ++ [⟨p'.vm, a.2⟩], ?_, ?_, ?_, ?_, ?_⟩
    · rw [hcracks, hcracked, h.cracks, List.append_assoc, Option.toList_some]
    · rw [hcalls, h.calls, List.append_assoc, List.flatMap_append, List.flatMap_singleton]
    · rw [hvm, h.vm, List.flatMap_append, List.flatMap_singleton, run, run, run, List.foldl_append]
    · rw [hvm, run_invoked_rest, h.invoked, List.append_assoc, List.flatMap_append,
        List.flatMap_singleton]
      rfl
    · exact List.rel_append h.each (.cons ⟨hattached, hcall⟩ .nil)
  case h_2 hcracked =>
    rw [hexec] at hvm hcalls
    rw [hcracked, Option.toList_none, List.append_nil] at hcracks
    rw [List.append_nil] at hcalls
    have hsame : p''.vm = p'.vm := hvm
    refine ⟨made, sent, ?_, ?_, ?_, ?_, h.each⟩
    · rw [hcracks, h.cracks]
    · rw [hcalls, h.calls]
    · rw [hsame, h.vm]
    · rw [hsame, h.invoked]

theorem Process.Follows.step (h : p.Follows world caller cpu z3 p')
    (hok : Process.Runs caller cpu z3 (Submits ChunkPos.Inside) p' a)
    (hs : p'.step world a = some p'') : p.Follows world caller cpu z3 p'' := by
  obtain ⟨made, sent, hsince⟩ := h.since
  obtain ⟨hstep, hvm, -⟩ := Process.step_cases hs
  refine ⟨h.truthful.step hok.1.1 hstep, ?_, hsince.step h.truthful h.attached hok.2 hs⟩
  rw [hvm, run_attached, h.attached, Bool.true_or]

theorem Process.follows (h : Truthful world ChunkPos.Inside p.collector)
    (hattached : p.vm.attached caller = true)
    (hs : Reaches (Process.step world) (Process.Runs caller cpu z3 (Submits ChunkPos.Inside))
      p p') : p.Follows world caller cpu z3 p' :=
  hs.invariant (.refl h hattached) fun _ _ _ => Process.Follows.step

theorem head?_ofThread_sent {made : List (List BlockEntry)} {sent : List (Sent τ)}
    (h : List.Forall₂ (fun data (c : Sent τ) => c.vm.attached caller = true ∧
      NativeCall caller cpu z3 data 31 c.calls) made sent) {t : τ} (ht : t ≠ caller) {u : Update}
    (hu : (ofThread t (sent.flatMap Sent.calls)).head? = some u) :
    ∃ lo hi guess, u = foundCandidate lo hi guess := by
  induction h with
  | nil => cases hu
  | cons hcall _ ih =>
    rw [List.flatMap_cons, ofThread_append, List.head?_append, Option.or_eq_some_iff] at hu
    rcases hu with hu | ⟨-, hu⟩
    · exact hcall.2.head?_ofThread ht hu
    · exact ih hu

/-- However often native code is called, a thread that is detached at first loses one message in
all, a candidate; everything else arrives, each thread's messages in their order. -/
theorem process_delivers {attached : τ → Bool} (hcaller : attached caller = true)
    (world : Point → Block) (cpu : Cpu) (z3 : Solver Unknown 64) :
    EveryState (Process.step world) (Process.Runs caller cpu z3 (Submits ChunkPos.Inside))
      (.init attached) fun p =>
        (∀ t, ofThread t p.vm.invoked =
          ((ofThread t p.calls).drop (if attached t then 0 else 1)).map callOf) ∧
        (∀ t u, attached t = false → (ofThread t p.calls).head? = some u →
          ∃ lo hi guess, u = foundCandidate lo hi guess) ∧
        p.calls.length ≤ p.vm.invoked.length +
          (Finset.univ.filter fun t => attached t = false).card := by
  intro p hp
  obtain ⟨made, sent, hsince⟩ := (Process.follows truthful_init hcaller hp).since
  have hcalls : p.calls = sent.flatMap Sent.calls := hsince.calls
  have hvm : p.vm = run ⟨attached, []⟩ p.calls := hcalls ▸ hsince.vm
  refine ⟨fun t => ?_, fun t u ht hu => ?_, ?_⟩
  · have hinvoked := run_invoked ⟨attached, []⟩ p.calls t
    rw [← hvm, List.filter_nil, List.nil_append] at hinvoked
    rw [ofThread, ofThread, hinvoked, ← List.map_drop, List.map_map, List.map_map]
    rfl
  · rw [hcalls] at hu
    refine head?_ofThread_sent hsince.each ?_ hu
    rintro rfl
    exact absurd hcaller (by simp [ht])
  · have hsplit := congrArg Multiset.card (firsts_add_rest attached p.calls)
    simp only [Multiset.card_add, Multiset.coe_card, length_firsts] at hsplit
    rw [hvm, run_invoked_rest, List.nil_append, List.length_map, ← hsplit, Nat.add_comm]
    refine Nat.add_le_add_left (Finset.card_le_card fun t ht => ?_) _
    simp only [Finset.mem_filter] at ht ⊢
    exact ⟨ht.1, ht.2.1⟩

section Recovery

variable {w : BitVec 64} (hplaced : Placed (worldState w) (types world)) (hsound : z3.Sound)
  (hright : z3.Right)
include hplaced hsound hright

theorem Process.Since.recovered {made : List (List BlockEntry)} {sent : List (Sent τ)}
    (h : p.Since caller cpu z3 p' made sent)
    (htruthful : Truthful world ChunkPos.Inside p'.collector) :
    List.Forall₂ (fun data c => Recovered cpu z3 world w data c.vm caller c.calls) made sent := by
  have hrec : ∀ data ∈ made, Recorded world ChunkPos.Inside data := by
    intro data hdata
    refine htruthful.cracks data ?_
    rw [h.cracks]
    exact List.mem_append_right _ hdata
  refine ((List.forall₂_and_left _ _).mpr ⟨hrec, h.each⟩).imp fun data c hc => ?_
  exact recovered_of_recorded hc.1 hplaced hsound hright hc.2.1 hc.2.2

/-- In every run of the mod in the world of a seed, what Java has received is what has come of the
calls so far, one after the other. -/
theorem process_recovers {attached : τ → Bool} (hcaller : attached caller = true) (cpu : Cpu) :
    EveryState (Process.step world) (Process.Runs caller cpu z3 (Submits ChunkPos.Inside))
      (.init attached) fun p => ∃ sent : List (Sent τ),
        p.calls = sent.flatMap Sent.calls ∧ p.vm.invoked = sent.flatMap Sent.received ∧
        List.Forall₂ (fun data c => Recovered cpu z3 world w data c.vm caller c.calls)
          p.collector.cracks sent := by
  intro p hp
  have hfollows := Process.follows truthful_init hcaller hp
  obtain ⟨made, sent, hsince⟩ := hfollows.since
  have hcracks : p.collector.cracks = made := hsince.cracks
  refine ⟨sent, hsince.calls, hsince.invoked, hcracks ▸ ?_⟩
  exact hsince.recovered hplaced hsound hright hfollows.truthful

end Recovery

theorem returns_of_working {s : Collector.State} {act : Act} (h : Working s act) :
    Returns cpu z3 s act := by
  rintro rfl
  exact h.elim

theorem exists_process_row (caller : τ) (attached : τ → Bool) : ∃ p,
    Reaches (Process.step copperWorld)
      (Process.Runs caller ⟨false, false⟩ Solver.ideal (Submits ChunkPos.Inside))
      (.init attached) p ∧ p.collector.cracks = [entriesOf recorded copperWorld row] := by
  have hrun : Reaches (Collector.step copperWorld) (fun s act => Submits ChunkPos.Inside s act ∧
      Returns ⟨false, false⟩ Solver.ideal s act) Collector.init (called copperWorld row) :=
    reaches_called_row ⟨submits_start row_inside, nofun⟩ fun _ _ h =>
      ⟨submits_of_working h.working, returns_of_working h.working⟩
  have hprocess : ∃ p, Reaches (Process.step copperWorld)
      (Process.Runs caller ⟨false, false⟩ Solver.ideal (Submits ChunkPos.Inside))
      (.init attached) p ∧ p.collector = called copperWorld row :=
    (Process.reaches_iff attached (called copperWorld row)).mp hrun
  obtain ⟨p, hp, hcollector⟩ := hprocess
  refine ⟨p, hp, ?_⟩
  rw [hcollector]
  simp [called]

theorem process_delivers_detached : ∃ p,
    Reaches (Process.step copperWorld)
      (Process.Runs true ⟨false, false⟩ Solver.ideal (Submits ChunkPos.Inside)) (.init id) p ∧
    p.collector.cracks ≠ [] ∧ ∀ t, ofThread t p.vm.invoked =
      ((ofThread t p.calls).drop (if id t then 0 else 1)).map callOf := by
  obtain ⟨p, hp, hcracks⟩ := exists_process_row true id
  have hcaller : (id : Bool → Bool) true = true := rfl
  exact ⟨p, hp, hcracks ▸ List.cons_ne_nil _ _, (process_delivers hcaller _ _ _ p hp).1⟩

theorem process_recovers_copper : ∃ p,
    Reaches (Process.step copperWorld)
      (Process.Runs () ⟨false, false⟩ Solver.ideal (Submits ChunkPos.Inside))
      (.init fun _ => true) p ∧ ∃ data, p.collector.cracks = [data] ∧
      (∀ k, observations data 31 k ≠ []) ∧ ∃ sent : List (Sent Unit),
        p.calls = sent.flatMap Sent.calls ∧ p.vm.invoked = sent.flatMap Sent.received ∧
        List.Forall₂ (fun data c =>
            Recovered ⟨false, false⟩ Solver.ideal copperWorld 0 data c.vm () c.calls)
          [data] sent := by
  obtain ⟨p, hp, hcracks⟩ := exists_process_row () fun _ => true
  have hcaller : (fun _ : Unit => true) () = true := rfl
  obtain ⟨sent, hcalls, hinvoked, hrecovered⟩ := process_recovers placed_copperWorld
    Solver.ideal_sound Solver.ideal_right hcaller _ p hp
  rw [hcracks] at hrecovered
  exact ⟨p, hp, _, hcracks, observations_copper row_zero, sent, hcalls, hinvoked, hrecovered⟩

end SeedCracking.Jni
