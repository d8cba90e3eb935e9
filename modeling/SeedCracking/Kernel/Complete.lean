import SeedCracking.Kernel.Truth

/-! The generated section on single bits: under the true guess it reconstructs the state,
and under any guess its second state is the successor of its first. -/

namespace SeedCracking.Kernel

open StraightLine Xoroshiro

def atom (v : Plane) : Nat := 1 <<< v.code

def carryForm (f : Fin 64 → Nat) (i : Fin 64) : Nat := if i = 0 then 0 else f (i - 1)

def trackForm (lo hi ca cb : Fin 64 → Nat) : Track → Fin 64 → Nat
  | .lo, i => lo i
  | .hi, i => hi i
  | .ca, i => ca i
  | .is, i => lo i ^^^ hi i ^^^ carryForm ca i
  | .cb, i => cb i
  | .out, i => lo i ^^^ (lo (i + 47) ^^^ hi (i + 47) ^^^ carryForm ca (i + 47)) ^^^ carryForm cb i

def nextLoForm (lo hi : Fin 64 → Nat) (i : Fin 64) : Nat :=
  lo (i + 15) ^^^ (lo i ^^^ hi i) ^^^ (if 21 ≤ i then lo (i - 21) ^^^ hi (i - 21) else 0)

def nextHiForm (lo hi : Fin 64 → Nat) (i : Fin 64) : Nat := lo (i + 36) ^^^ hi (i + 36)

def stateForm : Plane → Nat
  | .S1 t i =>
    trackForm (fun j => atom (S1_lo j)) (fun j => atom (S1_hi j)) (fun j => atom (S1_ca j))
      (fun j => atom (S1_cb j)) t i
  | .S2 t i =>
    trackForm (nextLoForm (fun j => atom (S1_lo j)) fun j => atom (S1_hi j))
      (nextHiForm (fun j => atom (S1_lo j)) fun j => atom (S1_hi j)) (fun j => atom (S2_ca j))
      (fun j => atom (S2_cb j)) t i
  | .guess_bits _ => 0

def planeForm : Plane → Nat
  | .S1 t i => stateForm (.S1 t i)
  | .S2 t i => stateForm (.S2 t i)
  | .guess_bits i => (guessed[i.val]?.map fun a => stateForm a.target).getD 0

section Forms

variable {value : Nat → ZMod 2} {s : State} {lo hi ca cb : Fin 64 → Nat}

theorem trackForm_value (hzero : value 0 = 0) (hxor : ∀ f g, value (f ^^^ g) = value f + value g)
    (hlo : ∀ i, value (lo i) = parity (bits s .lo i)) (hhi : ∀ i, value (hi i) = parity (bits s .hi i))
    (hca : ∀ i, value (ca i) = parity (bits s .ca i)) (hcb : ∀ i, value (cb i) = parity (bits s .cb i))
    (t : Track) (i : Fin 64) : value (trackForm lo hi ca cb t i) = parity (bits s t i) := by
  have hcarry : ∀ {f : Fin 64 → Nat} {b : Fin 64 → Bool}, (∀ j, value (f j) = parity (b j)) →
      ∀ j, value (carryForm f j) = parity (carryIn b j) := by
    intro f b h j
    by_cases hj : j = 0
    · simp [carryForm, carryIn, hj, hzero, parity]
    · simp [carryForm, carryIn, hj, h]
  have his : ∀ j, value (lo j ^^^ hi j ^^^ carryForm ca j) = parity (bits s .is j) := by
    intro j
    rw [bits_is, parity_xor, parity_xor, hxor, hxor, hlo, hhi, hcarry hca]
  cases t with
  | lo => exact hlo i
  | hi => exact hhi i
  | ca => exact hca i
  | is => exact his i
  | cb => exact hcb i
  | out => rw [bits_out, parity_xor, parity_xor, trackForm, hxor, hxor, hlo, his, hcarry hcb]

theorem nextLoForm_value (hzero : value 0 = 0) (hxor : ∀ f g, value (f ^^^ g) = value f + value g)
    (hlo : ∀ i, value (lo i) = parity (bits s .lo i)) (hhi : ∀ i, value (hi i) = parity (bits s .hi i))
    (i : Fin 64) : value (nextLoForm lo hi i) = parity (bits s.next .lo i) := by
  by_cases h : 21 ≤ i
  · rw [bits_next_lo, nextLoForm, if_pos h, decide_eq_true h, Bool.true_and]
    simp only [hxor, parity_xor, hlo, hhi]
  · rw [bits_next_lo, nextLoForm, if_neg h, decide_eq_false h, Bool.false_and, Bool.xor_false]
    simp only [hxor, parity_xor, hlo, hhi, hzero, add_zero]

theorem nextHiForm_value (hxor : ∀ f g, value (f ^^^ g) = value f + value g)
    (hlo : ∀ i, value (lo i) = parity (bits s .lo i)) (hhi : ∀ i, value (hi i) = parity (bits s .hi i))
    (i : Fin 64) : value (nextHiForm lo hi i) = parity (bits s.next .hi i) := by
  rw [bits_next_hi, nextHiForm, hxor, parity_xor, hlo, hhi]

end Forms

theorem stateForm_value (s : State) (v : Plane) (hv : ∀ i, v ≠ guess_bits i) :
    formValue Plane.code (truth s) (stateForm v) = parity (truth s v) := by
  have hatom := represents_single Plane.code_injective (truth s)
  have hzero := formValue_zero Plane.code (truth s)
  have hxor := formValue_xor Plane.code (truth s)
  cases v with
  | S1 t i =>
    exact trackForm_value hzero hxor (fun j => hatom (S1_lo j)) (fun j => hatom (S1_hi j))
      (fun j => hatom (S1_ca j)) (fun j => hatom (S1_cb j)) t i
  | S2 t i =>
    have hlo : ∀ j, _ = parity (bits s .lo j) := fun j => hatom (S1_lo j)
    have hhi : ∀ j, _ = parity (bits s .hi j) := fun j => hatom (S1_hi j)
    exact trackForm_value hzero hxor (nextLoForm_value hzero hxor hlo hhi)
      (nextHiForm_value hxor hlo hhi) (fun j => hatom (S2_ca j)) (fun j => hatom (S2_cb j)) t i
  | guess_bits i => exact absurd rfl (hv i)

theorem guessed_target : ∀ a ∈ guessed, ∀ i, a.target ≠ guess_bits i := by
  simp [guessed]

theorem guessed_length : guessed.length = 40 := by decide

theorem truth_eq_stateBit (s : State) {v : Plane} (hv : ∀ i, v ≠ guess_bits i) :
    truth s v = stateBit s v := by
  cases v with
  | S1 t i => rfl
  | S2 t i => rfl
  | guess_bits i => exact absurd rfl (hv i)

theorem truth_guess_bits (s : State) (i : Fin 64) :
    truth s (guess_bits i) = (guessed[i.val]?.map fun a => truth s a.target).getD false := by
  rw [truth, trueGuess]
  by_cases h : i.val < 40
  · rw [Nat.testBit_ofBits_lt _ _ h]
    have hlt : i.val < guessed.length := by rw [guessed_length]; exact h
    simp only [List.getElem?_eq_getElem hlt, Option.map_some, Option.getD_some]
    rw [truth_eq_stateBit s (guessed_target _ (List.getElem_mem hlt))]
  · rw [Nat.testBit_ofBits_ge _ _ (by omega),
      List.getElem?_eq_none (by rw [guessed_length]; omega)]
    rfl

theorem planeForm_represents (s : State) : Represents Plane.code (truth s) planeForm := by
  intro v
  cases v with
  | S1 t i => exact stateForm_value s (.S1 t i) fun _ h => by cases h
  | S2 t i => exact stateForm_value s (.S2 t i) fun _ h => by cases h
  | guess_bits i =>
    rw [planeForm, truth_guess_bits]
    cases h : guessed[i.val]? with
    | none => exact formValue_zero _ _
    | some a => exact stateForm_value s a.target (guessed_target a (List.mem_of_getElem? h))

def carryRule (S : Track → Fin 64 → Plane) : Track → Fin 64 → Option (Expr Plane)
  | .ca, 0 => some (S .lo 0 &&& S .hi 0)
  | .ca, i =>
    some ((S .ca (i - 1) &&& S .lo i) ||| (S .lo i &&& S .hi i) ||| (S .ca (i - 1) &&& S .hi i))
  | .cb, 0 => some (S .is 47 &&& S .lo 0)
  | .cb, i =>
    some ((S .cb (i - 1) &&& S .is (i + 47)) ||| (S .is (i + 47) &&& S .lo i) |||
      (S .cb (i - 1) &&& S .lo i))
  | _, _ => none

def isCarryRule (a : Assign Plane) : Bool :=
  match a.target with
  | .S1 t i => carryRule .S1 t i == some a.value
  | .S2 t i => carryRule .S2 t i == some a.value
  | .guess_bits _ => false

theorem carryRule_holds {S : Track → Fin 64 → Plane} {m : Plane → Bool} {s : State}
    (hS : ∀ t i, m (S t i) = bits s t i) {t : Track} {i : Fin 64} {e : Expr Plane}
    (h : carryRule S t i = some e) : m (S t i) = e.eval m := by
  unfold carryRule at h
  split at h
  case h_1 =>
    cases h
    simp [hS, bits_ca s 0]
  case h_2 hi =>
    cases h
    rw [hS, bits_ca s i, carryIn_of_ne _ hi]
    simp [hS]
  case h_3 =>
    cases h
    simp [hS, bits_cb s 0]
  case h_4 hi =>
    cases h
    rw [hS, bits_cb s i, carryIn_of_ne _ hi]
    simp [hS]
  case h_5 => cases h

theorem holds_of_isCarryRule (s : State) {a : Assign Plane} (h : isCarryRule a = true) :
    a.Holds (truth s) := by
  obtain ⟨v, e⟩ := a
  cases v with
  | S1 t i => exact carryRule_holds (s := s) (fun _ _ => rfl) (beq_iff_eq.mp h)
  | S2 t i => exact carryRule_holds (s := s.next) (fun _ _ => rfl) (beq_iff_eq.mp h)
  | guess_bits i => cases h

theorem reconstruction_rules :
    reconstruction.all (fun a => a.balanced planeForm || isCarryRule a) = true := by
  decide +kernel

theorem truth_holds (s : State) : ∀ a ∈ reconstruction, a.Holds (truth s) := by
  intro a ha
  have h := List.all_eq_true.mp reconstruction_rules a ha
  rcases Bool.or_eq_true_iff.mp h with hlin | hcarry
  · exact Assign.holds_of_balanced (planeForm_represents s) hlin
  · exact holds_of_isCarryRule s hcarry

end SeedCracking.Kernel
