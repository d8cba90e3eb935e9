import SeedCracking.Words.Basic

/-! Memory as bytes, with words of any number of bytes in either byte order. -/

namespace SeedCracking.Memory

open Words

abbrev Mem := Nat → BitVec 8

inductive ByteOrder
  | BIG_ENDIAN
  | LITTLE_ENDIAN
  deriving DecidableEq

def ByteOrder.lane (order : ByteOrder) (n i : Nat) : Nat :=
  match order with
  | .BIG_ENDIAN => n - 1 - i
  | .LITTLE_ENDIAN => i

theorem ByteOrder.lane_lt (order : ByteOrder) {n i : Nat} (hi : i < n) : order.lane n i < n := by
  cases order with
  | BIG_ENDIAN => simp only [lane]; omega
  | LITTLE_ENDIAN => exact hi

theorem ByteOrder.lane_lane (order : ByteOrder) {n i : Nat} (hi : i < n) :
    order.lane n (order.lane n i) = i := by
  cases order with
  | BIG_ENDIAN => simp only [lane]; omega
  | LITTLE_ENDIAN => rfl

section Word

variable (order : ByteOrder) {n : Nat}

def store (m : Mem) (a : Nat) (w : BitVec (8 * n)) : Mem := fun b =>
  if a ≤ b ∧ b < a + n then w.extractLsb' (8 * order.lane n (b - a)) 8 else m b

variable (n) in
def load (m : Mem) (a : Nat) : BitVec (8 * n) :=
  ofBits fun j : Fin (8 * n) => (m (a + order.lane n (j / 8))).getLsbD (j % 8)

theorem load_bit (m : Mem) (a : Nat) {j : Nat} (hj : j < 8 * n) :
    (load order n m a).getLsbD j = (m (a + order.lane n (j / 8))).getLsbD (j % 8) :=
  getLsbD_ofBits _ ⟨j, hj⟩

theorem store_frame (m : Mem) {a b : Nat} (w : BitVec (8 * n)) (h : b < a ∨ a + n ≤ b) :
    store order m a w b = m b := by
  rw [store, if_neg (by omega)]

theorem load_store (m : Mem) (a : Nat) (w : BitVec (8 * n)) :
    load order n (store order m a w) a = w := by
  apply eq_of_forall_bit
  intro j
  have hbyte : j.val / 8 < n := by omega
  have hlane := order.lane_lt hbyte
  rw [load_bit order _ _ j.isLt, store, if_pos (by omega), Nat.add_sub_cancel_left,
    order.lane_lane hbyte, BitVec.getLsbD_extractLsb', Nat.div_add_mod]
  simp [Nat.mod_lt]

theorem load_congr {m m' : Mem} {a : Nat} (h : ∀ b, a ≤ b → b < a + n → m' b = m b) :
    load order n m' a = load order n m a := by
  apply eq_of_forall_bit
  intro j
  have hlane := order.lane_lt (show j.val / 8 < n by omega)
  rw [load_bit order _ _ j.isLt, load_bit order _ _ j.isLt, h _ (by omega) (by omega)]

end Word

section Words

variable (order : ByteOrder) {n : Nat}

def storeAll (m : Mem) (a : Nat) : List (BitVec (8 * n)) → Mem
  | [] => m
  | w :: ws => storeAll (store order m a w) (a + n) ws

theorem storeAll_append (m : Mem) (a : Nat) (ws ws' : List (BitVec (8 * n))) :
    storeAll order m a (ws ++ ws') =
      storeAll order (storeAll order m a ws) (a + n * ws.length) ws' := by
  induction ws generalizing m a with
  | nil => rfl
  | cons w ws ih =>
    rw [List.cons_append, storeAll, ih, storeAll, List.length_cons]
    congr 1
    rw [Nat.mul_succ]
    omega

theorem storeAll_frame (m : Mem) {a b : Nat} (ws : List (BitVec (8 * n)))
    (h : b < a ∨ a + n * ws.length ≤ b) : storeAll order m a ws b = m b := by
  induction ws generalizing m a with
  | nil => rfl
  | cons w ws ih =>
    rw [List.length_cons, Nat.mul_succ] at h
    rw [storeAll, ih _ (by omega), store_frame order m w (by omega)]

theorem load_storeAll (m : Mem) (a : Nat) (ws : List (BitVec (8 * n))) {i : Nat}
    (hi : i < ws.length) : load order n (storeAll order m a ws) (a + n * i) = ws[i] := by
  induction ws generalizing m a i with
  | nil => cases hi
  | cons w ws ih =>
    cases i with
    | zero =>
      rw [storeAll, Nat.mul_zero, Nat.add_zero, List.getElem_cons_zero]
      rw [load_congr order fun b _ hb => storeAll_frame order _ ws (.inl hb)]
      exact load_store order m a w
    | succ i =>
      have h := ih (store order m a w) (a + n) (Nat.lt_of_succ_lt_succ hi)
      rw [storeAll, List.getElem_cons_succ, ← h]
      congr 1
      rw [Nat.mul_succ]
      omega

end Words

end SeedCracking.Memory
