import Mathlib.Data.List.Basic

/-!
# Registers, hold reasons and handshake words

The constants of `serial.h` and `ntddser.h`. Registers are named, not numbered; the bit masks of
the status registers and of the handshake words are the numbers of the source. The words the
driver keeps for itself (`TXHolding`, `RXHolding`, `RefCount`) are records with one field a bit.
-/

namespace SerialFc

/-! ## Registers -/

/-- The registers the modelled code touches. `data` is RBR when read and THR when written, `iir`
is FCR when written, `lsr` is the 16C950's ICR when written. -/
inductive Reg
  | data | ier | iir | lcr | mcr | lsr | msr | spr | txtrg
  deriving DecidableEq, Repr

/-- LSR: data ready, overrun, parity, framing, break, holding register empty, transmitter empty. -/
def lsrDr : UInt8 := 0x01
def lsrOe : UInt8 := 0x02
def lsrPe : UInt8 := 0x04
def lsrFe : UInt8 := 0x08
def lsrBi : UInt8 := 0x10
def lsrThre : UInt8 := 0x20
def lsrTemt : UInt8 := 0x40

/-- MSR: what has changed since it was last read, then the lines themselves. -/
def msrDcts : UInt8 := 0x01
def msrDdsr : UInt8 := 0x02
def msrTeri : UInt8 := 0x04
def msrDdcd : UInt8 := 0x08
def msrCts : UInt8 := 0x10
def msrDsr : UInt8 := 0x20
def msrDcd : UInt8 := 0x80

/-- The four change bits, cleared when MSR is read. -/
def msrDelta : UInt8 := 0x0f

/-- IIR: the causes of an interrupt. -/
def iirMs : UInt8 := 0x00
def iirNoInterruptPending : UInt8 := 0x01
def iirThr : UInt8 := 0x02
def iirRda : UInt8 := 0x04
def iirRls : UInt8 := 0x06
def iirCti : UInt8 := 0x0c
def iirMustBeZero : UInt8 := 0x30
/-- `SERIAL_IIR_FIFOS_ENABLED`, which the ISR clears before it looks at the cause. -/
def iirFifosEnabled : UInt8 := 0xc0

/-- `SERIAL_IIR_RLS | RDA | CTI | THR | MS`: what the ISR keeps of IIR. -/
def iirCauses : UInt8 := 0x0e

/-- All four interrupts. -/
def ierAll : UInt8 := 0x0f
def mcrDtr : UInt8 := 0x01
def mcrRts : UInt8 := 0x02
/-- The gate of the interrupt line. -/
def mcrOut2 : UInt8 := 0x08
/-- `SERIAL_LCR_BREAK`. -/
def lcrBreak : UInt8 := 0x40

/-- `v & mask` as a truth value. -/
def has (v mask : UInt8) : Bool := v &&& mask != 0

/-- A bit that was set is there. -/
theorem has_or_self (v : UInt8) {mask : UInt8} (hmask : mask ≠ 0) :
    has (v ||| mask) mask = true := by
  have habsorb : (v ||| mask) &&& mask = mask := by
    apply UInt8.toBitVec_inj.mp
    ext i
    simp
    grind
  unfold has
  rw [habsorb]
  simpa using hmask

/-! ## Escape codes of `IOCTL_SERIAL_LSRMST_INSERT` -/

/-- What follows the escape character in the data. -/
def lsrmstEscape : UInt8 := 0
def lsrmstLsrData : UInt8 := 1
def lsrmstLsrNodata : UInt8 := 2
def lsrmstMst : UInt8 := 3

/-! ## Events of the wait mask -/

/-- `SERIAL_EV_…`. -/
def evRxChar : UInt32 := 0x001
def evRxFlag : UInt32 := 0x002
def evTxEmpty : UInt32 := 0x004
def evCts : UInt32 := 0x008
def evDsr : UInt32 := 0x010
def evRlsd : UInt32 := 0x020
def evBreak : UInt32 := 0x040
def evErr : UInt32 := 0x080
def evRing : UInt32 := 0x100
def evRx80Full : UInt32 := 0x400

/-- The events `IOCTL_SERIAL_SET_WAIT_MASK` accepts. -/
def evAll : UInt32 := 0x1fff

/-- `SERIAL_PURGE_…`. -/
def purgeTxAbort : UInt32 := 1
def purgeRxAbort : UInt32 := 2
def purgeRxClear : UInt32 := 8
def purgeAll : UInt32 := 0xf

/-- `v & mask` as a truth value, on 32-bit words. -/
def has32 (v mask : UInt32) : Bool := v &&& mask != 0

/-! ## Why transmission or reception is held -/

/-- `TXHolding`. -/
structure TxHolding where
  cts : Bool
  dsr : Bool
  dcd : Bool
  xoff : Bool
  brk : Bool
  deriving DecidableEq, Repr

namespace TxHolding

def none : TxHolding := ⟨false, false, false, false, false⟩

/-- `TXHolding != 0`. -/
def any (t : TxHolding) : Bool := t.cts || t.dsr || t.dcd || t.xoff || t.brk

/-- `TXHolding & ~SERIAL_TX_XOFF`. -/
def anyButXoff (t : TxHolding) : Bool := t.cts || t.dsr || t.dcd || t.brk

/-- `TXHolding == SERIAL_TX_XOFF`. -/
def onlyXoff (t : TxHolding) : Bool := t.xoff && !t.anyButXoff

end TxHolding

/-- `RXHolding`. -/
structure RxHolding where
  dtr : Bool
  xoff : Bool
  rts : Bool
  dsr : Bool
  deriving DecidableEq, Repr

namespace RxHolding

def none : RxHolding := ⟨false, false, false, false⟩

/-- `RXHolding != 0`. -/
def any (t : RxHolding) : Bool := t.dtr || t.xoff || t.rts || t.dsr

end RxHolding

/-! ## Handshake, special characters, timeouts -/

/-- `SERIAL_HANDFLOW`. -/
structure HandFlow where
  controlHandShake : UInt32
  flowReplace : UInt32
  xonLimit : Nat
  xoffLimit : Nat
  deriving DecidableEq, Repr

namespace HandFlow

variable (h : HandFlow)

/-- `SERIAL_DTR_MASK`. -/
def dtrMask : UInt32 := h.controlHandShake &&& 0x03
/-- `SERIAL_DTR_HANDSHAKE`. -/
def dtrHandshake : Bool := h.dtrMask == 0x02
/-- `SERIAL_OUT_HANDSHAKEMASK`: a line holds transmission. -/
def outHandshake : Bool := has32 h.controlHandShake 0x38
def ctsHandshake : Bool := has32 h.controlHandShake 0x08
def dsrHandshake : Bool := has32 h.controlHandShake 0x10
def dcdHandshake : Bool := has32 h.controlHandShake 0x20
/-- Characters that come in while DSR is down are dropped. -/
def dsrSensitivity : Bool := has32 h.controlHandShake 0x40
/-- `SERIAL_ERROR_ABORT`. -/
def errorAbort : Bool := has32 h.controlHandShake 0x80000000

/-- XON/XOFF received holds transmission. -/
def autoTransmit : Bool := has32 h.flowReplace 0x01
/-- XON/XOFF is sent to hold the other side. -/
def autoReceive : Bool := has32 h.flowReplace 0x02
def errorChar : Bool := has32 h.flowReplace 0x04
def nullStripping : Bool := has32 h.flowReplace 0x08
def breakChar : Bool := has32 h.flowReplace 0x10
/-- `SERIAL_RTS_MASK`. -/
def rtsMask : UInt32 := h.flowReplace &&& 0xc0
def rtsControl : Bool := h.rtsMask == 0x40
def rtsHandshake : Bool := h.rtsMask == 0x80
/-- `SERIAL_TRANSMIT_TOGGLE`: RTS is up only while something is sent. -/
def transmitToggle : Bool := h.rtsMask == 0xc0
/-- `SERIAL_XOFF_CONTINUE`: an XOFF that is sent does not hold transmission. -/
def xoffContinue : Bool := has32 h.flowReplace 0x80000000

end HandFlow

/-- `SERIAL_CHARS`. -/
structure SpecialChars where
  xonChar : UInt8
  xoffChar : UInt8
  errorChar : UInt8
  breakChar : UInt8
  eventChar : UInt8
  deriving DecidableEq, Repr

/-- `MAXULONG`. -/
def maxUlong : UInt32 := 0xffffffff

/-- `SERIAL_TIMEOUTS`. -/
structure Timeouts where
  readIntervalTimeout : UInt32
  readTotalTimeoutMultiplier : UInt32
  readTotalTimeoutConstant : UInt32
  writeTotalTimeoutMultiplier : UInt32
  writeTotalTimeoutConstant : UInt32
  deriving DecidableEq, Repr

end SerialFc
