import SeedCracking.Blocks.Packing
import SeedCracking.Smt.BitVector
import Mathlib.Data.Fin.VecNotation

/-! The formula over the unknown state `(I0, I1)` that the five results are turned into. -/

namespace SeedCracking.Blocks

open Smt Words Xoroshiro

inductive Unknown
  | I0
  | I1
  deriving DecidableEq

abbrev Expr := Term Unknown 64

def Rnd (S0 S1 : Expr) : Expr := (S0 + S1).rotateLeft 17 + S0

def Step (S0 S1 : Expr) : Expr × Expr :=
  let S12 := S0 ^^^ S1
  (S0.rotateLeft 49 ^^^ S12 ^^^ S12.shl (.val 21), S12.rotateLeft 28)

def I0 : Expr := .const .I0
def I1 : Expr := .const .I1
def S0 : Expr := I0 ^^^ .val 13544455532117611141
def S1 : Expr := I1 ^^^ .val 14185350335435586452
def T0 : Expr := I0 ^^^ .val 10411719568726253007
def T1 : Expr := I1 ^^^ .val 14964796469053385315
def V0 : Expr := I0 ^^^ .val 11207227798492025197
def V1 : Expr := I1 ^^^ .val 3091299299654006625
def O0 : Expr := Rnd S0 S1
def S2 : Expr := (Step S0 S1).1
def S3 : Expr := (Step S0 S1).2
def O1 : Expr := Rnd S2 S3
def O2 : Expr := Rnd T0 T1
def T2 : Expr := (Step T0 T1).1
def T3 : Expr := (Step T0 T1).2
def O3 : Expr := Rnd T2 T3
def O4 : Expr := Rnd V0 V1
def V2 : Expr := (Step V0 V1).1
def V3 : Expr := (Step V0 V1).2
def O5 : Expr := Rnd V2 V3
def O6 : Expr := (Step O4 O5).1
def O7 : Expr := (Step O4 O5).2
def O8 : Expr := (Step O6 O7).1
def O9 : Expr := (Step O6 O7).2

def lowHalf (x : BitVec 128) : BitVec 64 :=
  (List.range 64).foldl (fun r i => if x.getLsbD i then r ||| 1#64 <<< i else r) 0

def highHalf (x : BitVec 128) : BitVec 64 :=
  (List.range' 64 64).foldl (fun r i => if x.getLsbD i then r ||| 1#64 <<< (i - 64) else r) 0

/-- Some candidate agrees with `(v0, v1)` on the mask. -/
def constrain (mask : BitVec 128) (candidates : List (BitVec 128)) (v0 v1 : Expr) :
    Formula Unknown 64 :=
  let v0_masked := v0 &&& .val (lowHalf mask)
  let v1_masked := v1 &&& .val (highHalf mask)
  candidates.foldl (fun clause cur =>
    let masked := cur &&& mask
    .or clause (.and (.eq v0_masked (.val (lowHalf masked))) (.eq v1_masked (.val (highHalf masked)))))
    (.bool false)

def target : Fin 5 → Expr × Expr := ![(O0, O1), (O2, O3), (O4, O5), (O6, O7), (O8, O9)]

def clausesOf (sol : List (BitVec 128)) (v : Expr × Expr) : List (Formula Unknown 64) :=
  match sol with
  | [] => []
  | mask :: candidates => [constrain mask candidates v.1 v.2]

def clauses (sol : Fin 5 → List (BitVec 128)) : List (Formula Unknown 64) :=
  (List.finRange 5).flatMap fun k => clausesOf (sol k) (target k)

def assignment (I : State) : Unknown → BitVec 64
  | .I0 => I.lo
  | .I1 => I.hi

def bedrockKey : State := ⟨13544455532117611141, 14185350335435586452⟩
def deepslateKey : State := ⟨10411719568726253007, 14964796469053385315⟩
def oreKey : State := ⟨11207227798492025197, 3091299299654006625⟩

/-- `forkPositional`: the first two outputs are the seed of a positional generator. -/
def forkPositional (s : State) : State := ⟨s.output, s.next.output⟩

def channelState (I : State) : Fin 5 → State :=
  ![forkPositional (I ^^^ bedrockKey), forkPositional (I ^^^ deepslateKey),
    forkPositional (I ^^^ oreKey), (forkPositional (I ^^^ oreKey)).next,
    (forkPositional (I ^^^ oreKey)).next.next]

section Eval

variable (I : Unknown → BitVec 64)

theorem Rnd_eval (s t : Expr) : (Rnd s t).eval I = (State.mk (s.eval I) (t.eval I)).output := rfl

theorem Step_eval_lo (s t : Expr) :
    (Step s t).1.eval I = (State.mk (s.eval I) (t.eval I)).next.lo := rfl

theorem Step_eval_hi (s t : Expr) :
    (Step s t).2.eval I = (State.mk (s.eval I) (t.eval I)).next.hi := rfl

end Eval

theorem fork_eval (I : Unknown → BitVec 64) (s t : Expr) :
    State.mk ((Rnd s t).eval I) ((Rnd (Step s t).1 (Step s t).2).eval I) =
      forkPositional ⟨s.eval I, t.eval I⟩ := by
  rw [Rnd_eval, Rnd_eval, Step_eval_lo, Step_eval_hi]
  rfl

theorem step_eval (I : Unknown → BitVec 64) (s t : Expr) :
    State.mk ((Step s t).1.eval I) ((Step s t).2.eval I) = (State.mk (s.eval I) (t.eval I)).next := by
  rw [Step_eval_lo, Step_eval_hi]

theorem target_eval (I : State) (k : Fin 5) :
    State.mk ((target k).1.eval (assignment I)) ((target k).2.eval (assignment I)) =
      channelState I k := by
  have hO4 := fork_eval (assignment I) V0 V1
  have hO6 := step_eval (assignment I) O4 O5
  have hO8 := step_eval (assignment I) O6 O7
  match k with
  | 0 => exact fork_eval (assignment I) S0 S1
  | 1 => exact fork_eval (assignment I) T0 T1
  | 2 => exact hO4
  | 3 => exact hO6.trans (congrArg State.next hO4)
  | 4 => exact hO8.trans (congrArg State.next (hO6.trans (congrArg State.next hO4)))

theorem getLsbD_setBit (r : BitVec 64) {i : Nat} (hi : i < 64) (c : Bool) (k : Nat) :
    (if c then r ||| 1#64 <<< i else r).getLsbD k = (r.getLsbD k || (decide (k = i) && c)) := by
  cases c with
  | false => rw [if_neg (by decide), Bool.and_false, Bool.or_false]
  | true =>
    have h := getLsbD_or_bit r 1#64 hi k
    rw [BitVec.ofNat_eq_ofNat, BitVec.and_self] at h
    rw [if_pos rfl, h]
    rfl

theorem lowHalf_bit (x : BitVec 128) {k : Nat} (hk : k < 64) :
    (lowHalf x).getLsbD k = x.getLsbD k := by
  have hround : ∀ (r : BitVec 64) i k, i < 64 →
      (if x.getLsbD i then r ||| 1#64 <<< i else r).getLsbD k =
        (r.getLsbD k || (decide (k = i) && x.getLsbD i)) :=
    fun r i k hi => getLsbD_setBit r hi (x.getLsbD i) k
  rw [lowHalf, getLsbD_foldl_range hround, decide_eq_true hk, Bool.true_and,
    BitVec.ofNat_eq_ofNat, BitVec.getLsbD_zero, Bool.false_or]

theorem highHalf_bit (x : BitVec 128) {k : Nat} (hk : k < 64) :
    (highHalf x).getLsbD k = x.getLsbD (64 + k) := by
  have hround : ∀ (r : BitVec 64) i k, i < 64 →
      (if x.getLsbD (64 + i) then r ||| 1#64 <<< (64 + i - 64) else r).getLsbD k =
        (r.getLsbD k || (decide (k = i) && x.getLsbD (64 + i))) := by
    intro r i k hi
    rw [Nat.add_sub_cancel_left]
    exact getLsbD_setBit r hi (x.getLsbD (64 + i)) k
  rw [highHalf, List.range'_eq_map_range, List.foldl_map, getLsbD_foldl_range hround,
    decide_eq_true hk, Bool.true_and, BitVec.ofNat_eq_ofNat, BitVec.getLsbD_zero, Bool.false_or]

theorem masked_eq_iff {a m c : BitVec 64} {mask x : Nat → Bool}
    (hm : ∀ i < 64, m.getLsbD i = mask i) (hc : ∀ i < 64, c.getLsbD i = (x i && mask i)) :
    a &&& m = c ↔ ∀ i < 64, mask i = true → x i = a.getLsbD i := by
  constructor
  · intro h i hi hmask
    have hbit := congrArg (fun y : BitVec 64 => y.getLsbD i) h
    simp only [BitVec.getLsbD_and, hm i hi, hc i hi, hmask, Bool.and_true] at hbit
    exact hbit.symm
  · intro h
    apply eq_of_forall_bit
    intro i
    have hi := i.isLt
    rw [BitVec.getLsbD_and, hm i hi, hc i hi]
    cases hmask : mask i with
    | false => rw [Bool.and_false, Bool.and_false]
    | true => rw [h i hi hmask]

theorem constrain_holds (I : Unknown → BitVec 64) (mask : BitVec 128)
    (candidates : List (BitVec 128)) (v0 v1 : Expr) :
    (constrain mask candidates v0 v1).Holds I ↔
      ∃ x ∈ candidates, AgreesOn mask x (push (v0.eval I) (v1.eval I)) := by
  have hx : ∀ x : BitVec 128,
      (v0.eval I &&& lowHalf mask = lowHalf (x &&& mask) ∧
        v1.eval I &&& highHalf mask = highHalf (x &&& mask)) ↔
      AgreesOn mask x (push (v0.eval I) (v1.eval I)) := by
    intro x
    rw [agreesOn_halves]
    refine and_congr (masked_eq_iff (fun i hi => lowHalf_bit mask hi) fun i hi => ?_)
      (masked_eq_iff (fun i hi => highHalf_bit mask hi) fun i hi => ?_)
    · rw [lowHalf_bit _ hi, BitVec.getLsbD_and]
    · rw [highHalf_bit _ hi, BitVec.getLsbD_and]
  rw [constrain]
  simp only [Formula.holds_foldl_or, Formula.Holds, Bool.false_eq_true, false_or, Term.eval_and,
    Term.eval_val, hx]

theorem clausesOf_hold (I : Unknown → BitVec 64) (sol : List (BitVec 128)) (v : Expr × Expr) :
    (∀ φ ∈ clausesOf sol v, φ.Holds I) ↔ ∀ mask candidates, sol = mask :: candidates →
      ∃ x ∈ candidates, AgreesOn mask x (push (v.1.eval I) (v.2.eval I)) := by
  cases sol with
  | nil => simp [clausesOf]
  | cons mask candidates =>
    simp only [clausesOf, List.mem_singleton, forall_eq, constrain_holds, List.cons.injEq]
    exact ⟨fun h mask' cands' heq => heq.1 ▸ heq.2 ▸ h, fun h => h mask candidates ⟨rfl, rfl⟩⟩

theorem clauses_hold (I : State) (sol : Fin 5 → List (BitVec 128)) :
    (∀ φ ∈ clauses sol, φ.Holds (assignment I)) ↔
      ∀ k mask candidates, sol k = mask :: candidates → ∃ x ∈ candidates,
        AgreesOn mask x (push (channelState I k).lo (channelState I k).hi) := by
  have hk : ∀ k, (∀ φ ∈ clausesOf (sol k) (target k), φ.Holds (assignment I)) ↔
      ∀ mask candidates, sol k = mask :: candidates → ∃ x ∈ candidates,
        AgreesOn mask x (push (channelState I k).lo (channelState I k).hi) := by
    intro k
    rw [clausesOf_hold, ← target_eval]
  rw [← forall_congr' hk]
  simp only [clauses, List.mem_flatMap, List.mem_finRange, true_and]
  exact ⟨fun h k φ hφ => h φ ⟨k, hφ⟩, fun h φ ⟨k, hφ⟩ => h k φ hφ⟩

theorem target_occurs (k : Fin 5) (v : Unknown) :
    (target k).1.Occurs v ∨ (target k).2.Occurs v := by
  have hrnd : ∀ s t : Expr, s.Occurs v ∨ t.Occurs v → (Rnd s t).Occurs v :=
    fun s t h => Or.inl h
  have hstep : ∀ s t : Expr, s.Occurs v ∨ t.Occurs v → (Step s t).1.Occurs v :=
    fun s t h => Or.inl (Or.inr h)
  have hS : S0.Occurs v ∨ S1.Occurs v := by cases v <;> simp [S0, S1, I0, I1]
  have hT : T0.Occurs v ∨ T1.Occurs v := by cases v <;> simp [T0, T1, I0, I1]
  have hV : V0.Occurs v ∨ V1.Occurs v := by cases v <;> simp [V0, V1, I0, I1]
  have hO4 : O4.Occurs v := hrnd V0 V1 hV
  have hO6 : O6.Occurs v := hstep O4 O5 (Or.inl hO4)
  match k with
  | 0 => exact Or.inl (hrnd S0 S1 hS)
  | 1 => exact Or.inl (hrnd T0 T1 hT)
  | 2 => exact Or.inl hO4
  | 3 => exact Or.inl hO6
  | 4 => exact Or.inl (hstep O6 O7 (Or.inl hO6))

theorem constrain_occurs {mask : BitVec 128} {candidates : List (BitVec 128)}
    (h : candidates ≠ []) (k : Fin 5) (v : Unknown) :
    (constrain mask candidates (target k).1 (target k).2).Occurs v := by
  obtain ⟨x, l, rfl⟩ := List.exists_cons_of_ne_nil h
  rw [constrain, Formula.occurs_foldl_or]
  refine Or.inr ⟨x, List.mem_cons_self, ?_⟩
  rcases target_occurs k v with hv | hv
  · exact Or.inl (Or.inl (Or.inl hv))
  · exact Or.inr (Or.inl (Or.inl hv))

end SeedCracking.Blocks
