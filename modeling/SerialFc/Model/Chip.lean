import SerialFc.Model.Uart
import Mathlib.Data.List.Basic

/-!
# A chip to run on

A small 16C950: a receive FIFO whose frames carry their line status, a transmit FIFO, modem lines,
and interrupts with the usual priorities. It is one instance of `Uart`; the driver's model does not
depend on it.
-/

namespace SerialFc

/-- A received character and the line status that is shown while it is at the head of the FIFO. -/
structure Frame where
  data : UInt8
  status : UInt8
  deriving DecidableEq, Repr

/-- `sent` is a record of what was written to the holding register, with the ninth bit that SPR
gave it. -/
structure Chip where
  ier : UInt8
  lcr : UInt8
  mcr : UInt8
  spr : UInt8
  msr : UInt8
  overrun : Bool
  received : List Frame
  transmit : List UInt8
  thrPending : Bool
  sent : List (UInt8 × Bool)
  deriving DecidableEq, Repr

namespace Chip

/-- After a reset, with interrupts on as `SerialReset` leaves them. -/
def idle : Chip where
  ier := ierAll
  lcr := 0x03
  mcr := 0
  spr := 0
  msr := msrCts ||| msrDsr ||| msrDcd
  overrun := false
  received := []
  transmit := []
  thrPending := false
  sent := []

inductive Input
  /-- A character comes in. -/
  | receive (f : Frame)
  /-- One that came in found the FIFO full. -/
  | lose
  /-- So many characters go out. -/
  | shift (n : Nat)
  /-- The modem lines change. -/
  | modem (msr : UInt8)

/-- The status of the character at the head. -/
def headStatus (c : Chip) : UInt8 :=
  match c.received with
  | [] => 0
  | f :: _ => lsrDr ||| f.status

def lineStatus (c : Chip) : UInt8 :=
  c.headStatus ||| (if c.overrun then lsrOe else 0)
    ||| (if c.transmit.isEmpty then lsrThre ||| lsrTemt else 0)

/-- The cause of highest priority. -/
def cause (c : Chip) : UInt8 :=
  if has c.lineStatus (lsrOe ||| lsrPe ||| lsrFe ||| lsrBi) then iirRls
  else if !c.received.isEmpty then iirRda
  else if c.thrPending then iirThr
  else if has c.msr msrDelta then iirMs
  else iirNoInterruptPending

/-- The holding register has just become empty. -/
def raiseThr (c : Chip) : Chip :=
  if has c.ier 0x02 && c.transmit.isEmpty then { c with thrPending := true } else c

def evolve : Input → Chip → Chip
  | .receive f, c => { c with received := c.received ++ [f] }
  | .lose, c => { c with overrun := true }
  | .shift n, c =>
    if c.transmit.isEmpty then c else { c with transmit := c.transmit.drop n }.raiseThr
  | .modem msr, c => { c with msr := msr }

def read : Reg → Chip → UInt8 × Chip
  | .data, c => ((c.received.head?.map Frame.data).getD 0, { c with received := c.received.tail })
  | .ier, c => (c.ier, c)
  | .iir, c => (c.cause, if c.cause = iirThr then { c with thrPending := false } else c)
  | .lcr, c => (c.lcr, c)
  | .mcr, c => (c.mcr, c)
  | .lsr, c => (c.lineStatus, { c with overrun := false })
  | .msr, c => (c.msr, { c with msr := c.msr &&& ~~~msrDelta })
  | .spr, c => (c.spr, c)
  | .txtrg, c => (c.transmit.length.toUInt8, c)

/-- Switching the transmit interrupt on while the holding register is empty raises it. -/
def writeIer (v : UInt8) (c : Chip) : Chip :=
  if has c.ier 0x02 then { c with ier := v } else { c with ier := v }.raiseThr

def write : Reg → UInt8 → Chip → Chip
  | .data, v, c =>
    { c with
      transmit := c.transmit ++ [v]
      thrPending := false
      sent := c.sent ++ [(v, has c.spr 0x01)] }
  | .ier, v, c => c.writeIer v
  | .lcr, v, c => { c with lcr := v }
  | .mcr, v, c => { c with mcr := v }
  | .spr, v, c => { c with spr := v }
  | _, _, c => c

/-- The chip carries at most one modem change. -/
def modemChanges (c : Chip) : Nat := if has c.msr msrDelta then 1 else 0

theorem has_and_not (v mask : UInt8) : has (v &&& ~~~mask) mask = false := by
  have h : v &&& ~~~mask &&& mask = 0 := by
    rw [UInt8.and_assoc]
    simp
  simp [has, h]

instance : Uart Chip where
  Input := Input
  evolve := evolve
  read := read
  write := write
  modemChanges := modemChanges
  modemChanges_read_msr c h := by
    have hdelta : has c.msr msrDelta = true := h
    simp [modemChanges, read, hdelta, has_and_not]
  modemChanges_read r c := by
    cases r with
    | msr => simp [read, modemChanges, has_and_not]
    | iir =>
      simp only [read]
      split <;> exact Nat.le_refl _
    | _ => exact Nat.le_refl _
  modemChanges_write r v c := by
    have hraise (c : Chip) : modemChanges c.raiseThr = modemChanges c := by
      unfold raiseThr
      split <;> rfl
    cases r with
    | ier =>
      simp only [write, writeIer]
      split
      · exact Nat.le_refl _
      · exact Nat.le_of_eq (hraise _)
    | _ => exact Nat.le_refl _

end Chip

end SerialFc
