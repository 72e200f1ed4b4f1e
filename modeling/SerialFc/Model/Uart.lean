import SerialFc.Model.Flags

/-!
# The UART seen from the driver

The driver reaches the chip through `SerialReadUChar` and `SerialWriteUChar` only. A chip is a
type with these two operations and with what the lines, the modem and the clock do to it
(`evolve`). A register read may change the chip (RBR, IIR, LSR and MSR do).

The only law asked of every chip is that reading MSR uses up the changes it reports: a chip
carries finitely many modem changes at a time.
-/

namespace SerialFc

/-- A chip with 16550 registers. -/
class Uart (U : Type) where
  /-- What happens to the chip from outside. -/
  Input : Type
  evolve : Input → U → U
  read : Reg → U → UInt8 × U
  write : Reg → UInt8 → U → U
  /-- How many modem changes the chip can still report before it is touched from outside. -/
  modemChanges : U → Nat
  modemChanges_read_msr : ∀ u, has (read .msr u).1 msrDelta = true →
    modemChanges (read .msr u).2 < modemChanges u
  modemChanges_read : ∀ r u, modemChanges (read r u).2 ≤ modemChanges u
  modemChanges_write : ∀ r v u, modemChanges (write r v u) ≤ modemChanges u

end SerialFc
