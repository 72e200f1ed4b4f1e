import Mathlib.Data.Bool.Basic

/-!
# Holding a sender off

A receiver with a buffer of limited size holds its sender off while the buffer is over a mark. One
mechanism for that has a switch, a bit that says that it holds the sender at present, and a line
that invites the sender while it is up.

* `Holdoff` — the bit is set only while the mechanism is switched on and its line is down, and it
  is set whenever the buffer is over the mark
-/

namespace SerialFc.Lib

structure Holdoff (enabled held up : Bool) (full : Prop) : Prop where
  enabled_of_held : held = true → enabled = true
  down_of_held : held = true → up = false
  held_of_over : full → enabled = true → held = true

namespace Holdoff

variable {enabled held up : Bool} {full full' : Prop}

/-- The mechanism holds the sender. -/
theorem hold (h : enabled = true) : Holdoff enabled true false full :=
  ⟨fun _ => h, fun _ => rfl, fun _ _ => rfl⟩

/-- The mechanism lets the sender go on. -/
theorem release (up : Bool) (h : ¬full) : Holdoff enabled false up full :=
  ⟨nofun, nofun, fun hover => absurd hover h⟩

/-- A mechanism that is switched off does nothing. -/
theorem off (up : Bool) (h : enabled = false) : Holdoff enabled false up full :=
  ⟨nofun, nofun, fun _ hon => nomatch h.symm.trans hon⟩

theorem held_eq_false (h : Holdoff enabled held up full) (hoff : enabled = false) :
    held = false := by
  cases hheld : held with
  | false => rfl
  | true => exact nomatch hoff.symm.trans (h.enabled_of_held hheld)

/-- The line may do anything while the mechanism is switched off. -/
theorem of_off (h : Holdoff enabled held up full) (hoff : enabled = false) (up' : Bool) :
    Holdoff enabled held up' full := by
  rw [h.held_eq_false hoff]
  exact off up' hoff

/-- Taking the line down is always safe. -/
theorem lower (h : Holdoff enabled held up full) : Holdoff enabled held false full :=
  ⟨h.enabled_of_held, fun _ => rfl, h.held_of_over⟩

/-- The buffer gets emptier, or the mark goes up. -/
theorem drain (h : Holdoff enabled held up full) (himp : full' → full) :
    Holdoff enabled held up full' :=
  ⟨h.enabled_of_held, h.down_of_held, fun hover => h.held_of_over (himp hover)⟩

/-- The buffer gets fuller, or the mark goes down: the bit has to be set beforehand. -/
theorem fill (h : Holdoff enabled held up full)
    (hbefore : full' → enabled = true → held = true) : Holdoff enabled held up full' :=
  ⟨h.enabled_of_held, h.down_of_held, hbefore⟩

end Holdoff

end SerialFc.Lib
