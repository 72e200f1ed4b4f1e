import SerialFc.Model.Uart

/-!
# A chip with a record of what is written to it

`Traced U` is a chip `U` that does what it did, and keeps the register writes in the order in which
the driver makes them. What the driver sends is stated about any chip by putting this around it.
-/

namespace SerialFc

/-- The register writes, in the order in which they were made. -/
structure Traced (U : Type) where
  chip : U
  written : List (Reg × UInt8)
  deriving DecidableEq, Repr

namespace Traced

variable {U : Type}

/-- Nothing is written yet. -/
def start (chip : U) : Traced U := ⟨chip, []⟩

/-- What was written to the transmit holding register. -/
def sent (t : Traced U) : List UInt8 :=
  (t.written.filter fun w => w.1 = .data).map Prod.snd

instance [Uart U] : Uart (Traced U) where
  Input := Uart.Input U
  evolve x t := { t with chip := Uart.evolve x t.chip }
  read r t := ((Uart.read r t.chip).1, { t with chip := (Uart.read r t.chip).2 })
  write r v t := ⟨Uart.write r v t.chip, t.written ++ [(r, v)]⟩
  modemChanges t := Uart.modemChanges t.chip
  modemChanges_read_msr t h := Uart.modemChanges_read_msr t.chip h
  modemChanges_read r t := Uart.modemChanges_read r t.chip
  modemChanges_write r v t := Uart.modemChanges_write r v t.chip

variable [Uart U]

@[simp] theorem sent_read (r : Reg) (t : Traced U) : (Uart.read r t).2.sent = t.sent := rfl

@[simp] theorem sent_evolve (x : Uart.Input (Traced U)) (t : Traced U) :
    (Uart.evolve x t).sent = t.sent := rfl

/-- What goes to the holding register is sent, -/
@[simp] theorem sent_write_data (v : UInt8) (t : Traced U) :
    (Uart.write .data v t).sent = t.sent ++ [v] := by
  simp [sent, Uart.write]

/-- and what goes elsewhere is not. -/
theorem sent_write_of_ne {r : Reg} (hr : r ≠ .data) (v : UInt8) (t : Traced U) :
    (Uart.write r v t).sent = t.sent := by
  simp [sent, Uart.write, hr]

end Traced

end SerialFc
