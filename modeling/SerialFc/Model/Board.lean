import SerialFc.Model.Uart

/-!
# A chip on its board

`Board U` is a chip `U` whose modem control register holds what was last written to it, as every
chip of the family does. Register 4 shows the level of the transmit FIFO instead while bit 7 of ACR
is set, which only a write to ICR changes. The board keeps the characters that were written to the
holding register, each with the state of RTS at that moment.
-/

namespace SerialFc

/-- `additional` says that register 4 shows the level of the transmit FIFO. -/
structure Board (U : Type) where
  chip : U
  mcr : UInt8
  additional : Bool
  sent : List (UInt8 × Bool)
  deriving DecidableEq, Repr

namespace Board

variable {U : Type}

/-- MCR is cleared by a reset. -/
def start (chip : U) : Board U := ⟨chip, 0, false, []⟩

/-- RTS is asserted. -/
def rts (b : Board U) : Bool := has b.mcr mcrRts

instance [Uart U] : Uart (Board U) where
  Input := Uart.Input U
  evolve x b := { b with chip := Uart.evolve x b.chip }
  read r b :=
    (if r = .mcr ∧ b.additional = false then b.mcr else (Uart.read r b.chip).1,
      { b with chip := (Uart.read r b.chip).2 })
  write r v b :=
    { chip := Uart.write r v b.chip
      mcr := if r = .mcr then v else b.mcr
      additional := if r = .lsr then has v 0x80 else b.additional
      sent := if r = .data then b.sent ++ [(v, b.rts)] else b.sent }
  modemChanges b := Uart.modemChanges b.chip
  modemChanges_read_msr b h := Uart.modemChanges_read_msr b.chip (by simpa using h)
  modemChanges_read r b := Uart.modemChanges_read r b.chip
  modemChanges_write r v b := Uart.modemChanges_write r v b.chip

variable [Uart U]

@[simp] theorem mcr_read (r : Reg) (b : Board U) : (Uart.read r b).2.mcr = b.mcr := rfl

@[simp] theorem additional_read (r : Reg) (b : Board U) :
    (Uart.read r b).2.additional = b.additional := rfl

@[simp] theorem sent_read (r : Reg) (b : Board U) : (Uart.read r b).2.sent = b.sent := rfl

theorem sent_write_of_ne {r : Reg} (hr : r ≠ .data) (v : UInt8) (b : Board U) :
    (Uart.write r v b).sent = b.sent := if_neg hr

theorem additional_write_of_ne {r : Reg} (hr : r ≠ .lsr) (v : UInt8) (b : Board U) :
    (Uart.write r v b).additional = b.additional := if_neg hr

/-- What was written can be read back. -/
theorem read_mcr {b : Board U} (h : b.additional = false) : (Uart.read .mcr b).1 = b.mcr :=
  if_pos ⟨rfl, h⟩

end Board

end SerialFc
