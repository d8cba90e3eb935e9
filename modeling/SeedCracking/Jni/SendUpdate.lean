import SeedCracking.Lists.Basic
import SeedCracking.Update
import Mathlib.Logic.Function.Basic

/-! Sending updates to Java from native threads. -/

namespace SeedCracking.Jni

structure JavaCall where
  update : String
  onlyLog : Bool
  args : List (Option Int)
  deriving DecidableEq

inductive JniResult
  | JNI_OK
  | JNI_EDETACHED
  | JNI_EVERSION
  deriving DecidableEq

/-- The virtual machine: which threads are attached to it, and what they have invoked. -/
structure Jvm (τ : Type) where
  attached : τ → Bool
  invoked : List (τ × JavaCall)

variable {τ : Type} [DecidableEq τ]

def Jvm.GetEnv (vm : Jvm τ) (t : τ) : JniResult :=
  if vm.attached t then .JNI_OK else .JNI_EDETACHED

def Jvm.AttachCurrentThread (vm : Jvm τ) (t : τ) : JniResult × Jvm τ :=
  (.JNI_OK, { vm with attached := Function.update vm.attached t true })

def Jvm.DetachCurrentThread (vm : Jvm τ) (t : τ) : Jvm τ :=
  { vm with attached := Function.update vm.attached t false }

def Jvm.CallStaticVoidMethod (vm : Jvm τ) (env : τ) (call : JavaCall) : Jvm τ :=
  { vm with invoked := vm.invoked ++ [(env, call)] }

/-- The environment of the calling thread if there is one, and `didAttach`. -/
def getEnv (vm : Jvm τ) (t : τ) : Option τ × Bool × Jvm τ :=
  match vm.GetEnv t with
  | .JNI_EVERSION => (none, false, vm)
  | .JNI_EDETACHED =>
    let (result, vm) := vm.AttachCurrentThread t
    if result ≠ .JNI_OK then (none, false, vm)
    -- the environment just obtained is not returned
    else (none, true, vm)
  | .JNI_OK => (some t, false, vm)

/-- `Long.valueOf((jlong) arg)`. -/
def boxArg (arg : BitVec 64) : Int := arg.toInt

def boxArgs (args : List (BitVec 64)) : List (Option Int) :=
  let objs := args.map boxArg
  (List.range args.length).foldl (fun array i => array.set i objs[i]?)
    (List.replicate args.length none)

def sendUpdate (vm : Jvm τ) (t : τ) (u : Update) : Jvm τ :=
  let (env, didAttach, vm) := getEnv vm t
  match env with
  | none => vm
  | some env =>
    let vm := vm.CallStaticVoidMethod env ⟨u.update, u.onlyLog, boxArgs u.args⟩
    if didAttach then vm.DetachCurrentThread t else vm

def run (vm : Jvm τ) (calls : List (τ × Update)) : Jvm τ :=
  calls.foldl (fun vm c => sendUpdate vm c.1 c.2) vm

def callOf (u : Update) : JavaCall := ⟨u.update, u.onlyLog, u.args.map fun arg => some arg.toInt⟩

theorem boxArgs_eq (args : List (BitVec 64)) : boxArgs args = args.map fun arg => some arg.toInt := by
  apply List.ext_getElem?
  intro k
  rw [boxArgs, Lists.getElem?_foldl_set fun i => (args.map boxArg)[i]?]
  by_cases hk : k < args.length
  · simp [hk, boxArg]
  · simp [hk]

section Call

variable (vm : Jvm τ) (t : τ) (u : Update)

theorem sendUpdate_attached (h : vm.attached t = true) :
    sendUpdate vm t u = { vm with invoked := vm.invoked ++ [(t, callOf u)] } := by
  simp [sendUpdate, getEnv, Jvm.GetEnv, h, Jvm.CallStaticVoidMethod, boxArgs_eq, callOf]

theorem sendUpdate_detached (h : vm.attached t = false) :
    sendUpdate vm t u = { vm with attached := Function.update vm.attached t true } := by
  simp [sendUpdate, getEnv, Jvm.GetEnv, h, Jvm.AttachCurrentThread]

end Call

/-- A call delivers its update: one invocation more, and no thread attached or detached. -/
def Delivers (vm : Jvm τ) (t : τ) (u : Update) : Prop :=
  (sendUpdate vm t u).invoked = vm.invoked ++ [(t, callOf u)] ∧
    (sendUpdate vm t u).attached = vm.attached

theorem delivers_iff (vm : Jvm τ) (t : τ) (u : Update) : Delivers vm t u ↔ vm.attached t = true := by
  cases h : vm.attached t with
  | true =>
    rw [Delivers, sendUpdate_attached vm t u h]
    simp
  | false =>
    rw [Delivers, sendUpdate_detached vm t u h]
    simp

def AllDelivered : Jvm τ → List (τ × Update) → Prop
  | _, [] => True
  | vm, c :: calls => Delivers vm c.1 c.2 ∧ AllDelivered (sendUpdate vm c.1 c.2) calls

/-- A sequence of calls is delivered exactly when its threads are attached from the start. -/
theorem allDelivered_iff (vm : Jvm τ) (calls : List (τ × Update)) :
    AllDelivered vm calls ↔ ∀ c ∈ calls, vm.attached c.1 = true := by
  induction calls generalizing vm with
  | nil => simp [AllDelivered]
  | cons c calls ih =>
    rw [AllDelivered, ih, List.forall_mem_cons]
    refine and_congr_left' (delivers_iff vm c.1 c.2) |>.trans ?_
    refine and_congr_right fun h => ?_
    rw [sendUpdate_attached vm c.1 c.2 h]

theorem run_attached (vm : Jvm τ) (calls : List (τ × Update)) (t : τ) :
    (run vm calls).attached t = (vm.attached t || calls.any fun c => c.1 = t) := by
  induction calls generalizing vm with
  | nil => simp [run]
  | cons c calls ih =>
    rw [run, List.foldl_cons, ← run, ih, List.any_cons]
    cases h : vm.attached c.1 with
    | true =>
      rw [sendUpdate_attached vm c.1 c.2 h]
      by_cases hc : c.1 = t
      · simp [hc ▸ h]
      · simp [hc]
    | false =>
      rw [sendUpdate_detached vm c.1 c.2 h]
      by_cases hc : c.1 = t
      · simp [hc]
      · simp [hc, Function.update_of_ne (Ne.symm hc)]

/-- Each thread that is detached at the start loses its first update and no other. -/
theorem run_invoked (vm : Jvm τ) (calls : List (τ × Update)) (t : τ) :
    (run vm calls).invoked.filter (·.1 = t) = vm.invoked.filter (·.1 = t) ++
      ((calls.filter (·.1 = t)).drop (if vm.attached t then 0 else 1)).map
        fun c => (c.1, callOf c.2) := by
  induction calls generalizing vm with
  | nil => simp [run]
  | cons c calls ih =>
    rw [run, List.foldl_cons, ← run, ih]
    cases h : vm.attached c.1 with
    | true =>
      rw [sendUpdate_attached vm c.1 c.2 h]
      by_cases hc : c.1 = t
      · subst hc
        simp [h]
      · simp [hc]
    | false =>
      rw [sendUpdate_detached vm c.1 c.2 h]
      by_cases hc : c.1 = t
      · subst hc
        simp [h]
      · simp [hc, Function.update_of_ne (Ne.symm hc)]

theorem sendUpdate_lost :
    let vm : Jvm Unit := ⟨fun _ => false, []⟩
    let u : Update := ⟨"commands.bedrockcrack.foundWorldSeed", false, [0]⟩
    ¬ AllDelivered vm [((), u)] ∧ (sendUpdate vm () u).invoked = [] ∧
      (sendUpdate vm () u).attached () = true := by
  intro vm u
  refine ⟨fun h => ?_, rfl, rfl⟩
  cases h.1.1

end SeedCracking.Jni
