import SeedCracking.Kernel.Check
import SeedCracking.Kernel.Reconstruction
import SeedCracking.StraightLine.Adder
import SeedCracking.StraightLine.Simd
import SeedCracking.Words.IntLoop
import Mathlib.Data.BitVec

/-! The vectorised search.  `size` is `simd::size()`, the number of words of a vector. -/

namespace SeedCracking.Kernel

open StraightLine Words

/-- `SIMD_BITS`, the number of guesses in a batch. -/
def simdBits (size : Nat) : Nat := 64 * size

def countrZero (x : Nat) : Nat :=
  if x = 0 then 64 else if x % 2 = 1 then 0 else countrZero (x / 2) + 1

section Planes

variable {size : Nat}

/-- A condition spread over all lanes: `cond ? ~simd{} : simd{}`. -/
def splat (c : Bool) : Simd size := if c then ~~~0 else 0

def lanePattern (i : Nat) : BitVec 64 :=
  (List.range 64).foldl (fun x j => x ||| ((BitVec.ofNat 64 j >>> i) &&& 1) <<< j) 0

def guessPlane (guess : BitVec 64) (i : Fin 64) : Simd size :=
  if 6 + countrZero size ≤ i.val then splat ((guess >>> i.val) &&& 1 != 0)
  else if 6 ≤ i.val then
    ⟨fun j => if (j.val >>> (i.val - 6)) &&& 1 != 0 then ~~~0 else 0⟩
  else Simd.broadcast (lanePattern i)

def outPlane (nextlong : BitVec 64) (i : Fin 64) : Simd size :=
  splat ((nextlong >>> i.val) &&& 1 != 0)

/-- The planes before the generated section.  The source leaves the others uninitialised. -/
def inputPlanes (nextlong1 nextlong2 guess : BitVec 64) : Plane → Simd size
  | .S1 .out i => outPlane nextlong1 i
  | .S2 .out i => outPlane nextlong2 i
  | .guess_bits i => guessPlane guess i
  | _ => 0

def planes (nextlong1 nextlong2 guess : BitVec 64) : Plane → Simd size :=
  exec (inputPlanes nextlong1 nextlong2 guess) reconstruction

end Planes

section Tests

variable {α : Type} [BitPlane α]

def agreement (sum out : Fin 64 → α) : α :=
  (List.finRange 64).foldl (fun ok i => ok &&& ~~~(sum i ^^^ out i)) (~~~0)

/-- The lanes in which `rotl(lo + hi, 17) + lo` is the expected output. -/
def outputTest (lo hi out : Fin 64 → α) : α :=
  let sum1 := addPlanes lo hi
  -- plane `(i + 64 - 17) % 64`
  let sum2 := addPlanes (fun i => sum1 (i - 17)) lo
  agreement sum2 out

end Tests

section Report

variable {size : Nat}

def laneWord (x : Fin 64 → Simd size) (j : Nat) : BitVec 64 :=
  (List.range 64).foldl
    (fun r i => r ||| (((x (Fin.ofNat 64 i)).get (j / 64) >>> (j % 64)) &&& 1) <<< i) 0

/-- Transpose the two words of all lanes, then check each lane. -/
def report (nextlong1 nextlong2 : BitVec 64) (m : Plane → Simd size) (guess : BitVec 64) :
    Option (List Update) := do
  let result ← forInt (fun j => (laneWord (fun i => m (S1_lo i)) j, laneWord (fun i => m (S1_hi i)) j))
    (simdBits size)
  let updates ← forInt (fun j => check nextlong1 nextlong2 (result.getD j 0).1 (result.getD j 0).2
    (guess + BitVec.ofNat 64 j)) (simdBits size)
  return updates.flatten

/-- One batch.  Without `full` only whether some lane passed each of the two tests. -/
def bruteKernel (size : Nat) (nextlong1 nextlong2 : BitVec 64) (full : Bool) (guess : BitVec 64) :
    Option (Bool × List Update) :=
  let m : Plane → Simd size := planes nextlong1 nextlong2 guess
  let ok := outputTest (fun i => m (S1_lo i)) (fun i => m (S1_hi i)) fun i => m (S1_out i)
  if ok.reduceOr = 0 then some (false, [])
  else
    let ok := outputTest (fun i => m (S2_lo i)) (fun i => m (S2_hi i)) fun i => m (S2_out i)
    if ok.reduceOr = 0 then some (false, [])
    else if full then do
      let updates ← report nextlong1 nextlong2 m guess
      return (true, updates)
    else some (true, [])

end Report

/-- The loop body of the search: a batch is run again in full once a lane has passed. -/
def searchBatch (size : Nat) (nextlong1 nextlong2 guess : BitVec 64) : Option (List Update) := do
  let (x, _) ← bruteKernel size nextlong1 nextlong2 false guess
  if x then
    let (_, updates) ← bruteKernel size nextlong1 nextlong2 true guess
    return updates
  else return []

/-- The loop counters `i = 0; i < 2^40; i += SIMD_BITS`. -/
def batchesFrom (size i : Nat) : List Nat :=
  if size = 0 then []
  else if i < 2 ^ 40 then i :: batchesFrom size (i + simdBits size) else []
termination_by 2 ^ 40 - i
decreasing_by simp only [simdBits]; omega

/-- One run of the search.  The batches are shared among threads, so the messages come in
no particular order. -/
def kernelName (size : Nat) (nextlong1 nextlong2 : BitVec 64) : Option (Multiset Update) := do
  let updates ← (batchesFrom size 0).mapM fun i =>
    searchBatch size nextlong1 nextlong2 (BitVec.ofNat 64 i)
  return (updates.flatten : Multiset Update)

/-! ### The three builds

Each is compiled for its own vector extension, which fixes the width of `simd`. -/

def crackFP_baseline : BitVec 64 → BitVec 64 → Option (Multiset Update) := kernelName 2

def crackFP_avx2 : BitVec 64 → BitVec 64 → Option (Multiset Update) := kernelName 4

def crackFP_avx512 : BitVec 64 → BitVec 64 → Option (Multiset Update) := kernelName 8

structure Cpu where
  avx512f : Bool
  avx2 : Bool

def crackFP (cpu : Cpu) (nextlong1 nextlong2 : BitVec 64) : Option (Multiset Update) :=
  if cpu.avx512f then crackFP_avx512 nextlong1 nextlong2
  else if cpu.avx2 then crackFP_avx2 nextlong1 nextlong2
  else crackFP_baseline nextlong1 nextlong2

end SeedCracking.Kernel
