import SeedCracking.StraightLine.Linear
import SeedCracking.Words.Basic
import Mathlib.Tactic.DeriveFintype

namespace SeedCracking.Kernel

open StraightLine

/-- The arrays kept for each of the two generator states: its two words, the carries of
`lo + hi`, that sum, the carries of the second addition and the output. -/
inductive Track
  | lo | hi | ca | is | cb | out
  deriving DecidableEq

instance : Fintype Track where
  elems := {.lo, .hi, .ca, .is, .cb, .out}
  complete t := by cases t <;> decide

inductive Plane
  | S1 (t : Track) (i : Fin 64)
  | S2 (t : Track) (i : Fin 64)
  | guess_bits (i : Fin 64)
  deriving DecidableEq, Fintype

abbrev S1_lo := Plane.S1 .lo
abbrev S1_hi := Plane.S1 .hi
abbrev S1_ca := Plane.S1 .ca
abbrev S1_is := Plane.S1 .is
abbrev S1_cb := Plane.S1 .cb
abbrev S1_out := Plane.S1 .out
abbrev S2_lo := Plane.S2 .lo
abbrev S2_hi := Plane.S2 .hi
abbrev S2_ca := Plane.S2 .ca
abbrev S2_is := Plane.S2 .is
abbrev S2_cb := Plane.S2 .cb
abbrev S2_out := Plane.S2 .out
abbrev guess_bits := Plane.guess_bits

def Track.code : Track → Nat
  | .lo => 0
  | .hi => 1
  | .ca => 2
  | .is => 3
  | .cb => 4
  | .out => 5

def Plane.code : Plane → Nat
  | .S1 t i => 64 * t.code + i
  | .S2 t i => 64 * (6 + t.code) + i
  | .guess_bits i => 768 + i

theorem Track.code_injective : Function.Injective Track.code := by
  intro a b
  cases a <;> cases b <;> decide

theorem Track.code_lt (t : Track) : t.code < 6 := by cases t <;> decide

theorem Plane.code_injective : Function.Injective Plane.code := by
  intro a b h
  cases a with
  | S1 s i | S2 s i =>
    have hs := s.code_lt
    cases b with
    | S1 t j | S2 t j =>
      have ht := t.code_lt
      simp only [Plane.code] at h
      first
        | omega
        | have hst : s = t := Track.code_injective (by omega)
          have hij : i = j := Fin.ext (by omega)
          rw [hst, hij]
    | guess_bits j => simp only [Plane.code] at h; omega
  | guess_bits i =>
    cases b with
    | S1 t j | S2 t j =>
      have ht := t.code_lt
      simp only [Plane.code] at h
      omega
    | guess_bits j =>
      simp only [Plane.code] at h
      rw [show i = j from Fin.ext (by omega)]

end SeedCracking.Kernel
