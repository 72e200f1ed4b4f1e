import Mathlib.Data.Bool.Basic

/-!
# Shifting a word out over three pins

A device on three pins takes in the data pin when the clock pin rises, and works with what it has
taken in once the strobe pin rises. Its driver moves the pins one setting after another.

* `sampled` — the bits that the device takes in
* `Latches` — the settings send these bits, strobe once, and move the clock no more
* `sampled_flatMap` — a settled way to send one bit sends any number of them
-/

namespace SerialFc.Lib.ShiftOut

structure Pins where
  data : Bool
  clock : Bool
  strobe : Bool
  deriving DecidableEq, Repr

/-- What the device takes in while the pins go from `prev` through the settings. -/
def sampled : Pins → List Pins → List Bool
  | _, [] => []
  | prev, p :: ps => if !prev.clock && p.clock then p.data :: sampled p ps else sampled p ps

/-- The last setting, `prev` if there is none. -/
def final (prev : Pins) (ps : List Pins) : Pins := (prev :: ps).getLast (List.cons_ne_nil prev ps)

@[simp] theorem final_nil (prev : Pins) : final prev [] = prev := rfl

@[simp] theorem final_cons (prev p : Pins) (ps : List Pins) : final prev (p :: ps) = final p ps :=
  List.getLast_cons (List.cons_ne_nil p ps)

theorem final_append (prev : Pins) (ps qs : List Pins) :
    final prev (ps ++ qs) = final (final prev ps) qs := by
  induction ps generalizing prev with
  | nil => rfl
  | cons p ps ih => rw [List.cons_append, final_cons, final_cons, ih]

theorem sampled_append (prev : Pins) (ps qs : List Pins) :
    sampled prev (ps ++ qs) = sampled prev ps ++ sampled (final prev ps) qs := by
  induction ps generalizing prev with
  | nil => rfl
  | cons p ps ih =>
    rw [List.cons_append, sampled, sampled, final_cons, ih]
    split <;> rfl

/-- The settings send one bit and leave the clock low. -/
structure Sends (ps : List Pins) (bit : Bool) : Prop where
  sampled : ∀ prev : Pins, prev.clock = false → sampled prev ps = [bit]
  low : ∀ prev : Pins, (final prev ps).clock = false
  still : ∀ p ∈ ps, p.strobe = false

/-- Bits that are sent one after another. -/
theorem sampled_flatMap {pulse : Bool → List Pins} (h : ∀ bit, Sends (pulse bit) bit)
    (bits : List Bool) {prev : Pins} (hlow : prev.clock = false) :
    sampled prev (bits.flatMap pulse) = bits ∧ (final prev (bits.flatMap pulse)).clock = false := by
  induction bits generalizing prev with
  | nil => exact ⟨rfl, hlow⟩
  | cons bit bits ih =>
    obtain ⟨hrest, hlast⟩ := ih ((h bit).low prev)
    rw [List.flatMap_cons, sampled_append, final_append, (h bit).sampled prev hlow, hrest]
    exact ⟨rfl, hlast⟩

/-- While the clock stays low nothing is taken in. -/
theorem sampled_low (prev : Pins) {ps : List Pins} (h : ∀ p ∈ ps, p.clock = false) :
    sampled prev ps = [] := by
  induction ps generalizing prev with
  | nil => rfl
  | cons p ps ih =>
    rw [sampled, h p List.mem_cons_self, Bool.and_false]
    exact ih p fun q hq => h q (List.mem_cons_of_mem p hq)

/-- The settings send the bits, then strobe once, with no clock pulse from then on. -/
def Latches (prev : Pins) (ps : List Pins) (bits : List Bool) : Prop :=
  ∃ shifted strobe rest, ps = shifted ++ strobe :: rest ∧
    (∀ p ∈ shifted, p.strobe = false) ∧ strobe.strobe = true ∧ (∀ p ∈ rest, p.strobe = false) ∧
    sampled prev shifted = bits ∧ sampled (final prev shifted) (strobe :: rest) = []

/-- Settings that lower the clock, send the bits and strobe. -/
theorem latches_of_pulses {pulse : Bool → List Pins} (h : ∀ bit, Sends (pulse bit) bit)
    (bits : List Bool) (prev : Pins) {lowered : List Pins} {strobe : Pins} {rest : List Pins}
    (hlowered : sampled prev lowered = [] ∧ (final prev lowered).clock = false ∧
      ∀ p ∈ lowered, p.strobe = false)
    (hstrobe : strobe.strobe = true ∧ strobe.clock = false)
    (hrest : ∀ p ∈ rest, p.strobe = false ∧ p.clock = false) :
    Latches prev (lowered ++ bits.flatMap pulse ++ strobe :: rest) bits := by
  obtain ⟨hnone, hlow, hquiet⟩ := hlowered
  obtain ⟨hbits, hend⟩ := sampled_flatMap h bits hlow
  refine ⟨lowered ++ bits.flatMap pulse, strobe, rest, rfl, fun p hp => ?_, hstrobe.1,
    fun p hp => (hrest p hp).1, ?_, ?_⟩
  · rcases List.mem_append.mp hp with hp | hp
    · exact hquiet p hp
    · obtain ⟨bit, _, hmem⟩ := List.mem_flatMap.mp hp
      exact (h bit).still p hmem
  · rw [sampled_append, hnone, hbits, List.nil_append]
  · refine sampled_low _ fun p hp => ?_
    rcases List.mem_cons.mp hp with rfl | hp
    · exact hstrobe.2
    · exact (hrest p hp).2

end SerialFc.Lib.ShiftOut
