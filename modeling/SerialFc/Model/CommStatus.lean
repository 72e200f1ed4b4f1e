import SerialFc.Model.Driver

/-!
# `SerialGetCommStatus`

The record that `IOCTL_SERIAL_GET_COMMSTATUS` fills in. `none` stands for the NULL write request
that would be dereferenced.
-/

namespace SerialFc

/-! ## Hold reasons -/

def txWaitingForCts : UInt32 := 0x01
def txWaitingForDsr : UInt32 := 0x02
def txWaitingForDcd : UInt32 := 0x04
def txWaitingForXon : UInt32 := 0x08
def txWaitingXoffSent : UInt32 := 0x10
def txWaitingOnBreak : UInt32 := 0x20
def rxWaitingForDsr : UInt32 := 0x40

/-- `reasons |= reason`, if `b`. -/
def orIf (b : Bool) (reason reasons : UInt32) : UInt32 := if b then reasons ||| reason else reasons

/-- What holds transmission, as `HoldReasons` tells it. -/
def txHoldReasons (t : TxHolding) : UInt32 :=
  if t.any then
    orIf t.brk txWaitingOnBreak (orIf t.xoff txWaitingForXon (orIf t.dcd txWaitingForDcd
      (orIf t.dsr txWaitingForDsr (orIf t.cts txWaitingForCts 0))))
  else 0

/-- A receiver that has sent XOFF is told as a transmitter that waits for it to be sent. -/
def holdReasons (t : TxHolding) (r : RxHolding) : UInt32 :=
  orIf r.xoff txWaitingXoffSent (orIf r.dsr rxWaitingForDsr (txHoldReasons t))

/-! ## The status -/

/-- `SERIAL_STATUS`. -/
structure SerialStatus where
  errors : UInt32
  holdReasons : UInt32
  amountInInQueue : UInt32
  amountInOutQueue : UInt32
  eofReceived : Bool
  waitForImmediate : Bool
  deriving DecidableEq, Repr

namespace Extension

variable {U : Type} [Uart U]

/-- `AmountInOutQueue`. While `WriteLength` is not zero, what it has come down from the length of
the current write is taken off. -/
def amountInOutQueue (e : Extension U) : Option UInt32 :=
  if e.tx.writeLength = 0 then some (.ofInt e.totalCharsQueued)
  else (e.current .write).map fun r =>
    .ofInt e.totalCharsQueued - (.ofNat r.length - .ofNat e.tx.writeLength)

/-- The record as it is filled in, and the port after `ErrorWord` has been cleared. -/
def serialGetCommStatus (e : Extension U) : Option (SerialStatus × Extension U) :=
  e.amountInOutQueue.map fun amount =>
    ({ errors := e.ev.errorWord
       holdReasons := holdReasons e.tx.txHolding e.rx.rxHolding
       amountInInQueue := .ofNat e.rx.charsInInterruptBuffer
       amountInOutQueue := amount
       eofReceived := false
       waitForImmediate := e.tx.transmitImmediate }, e.ioctlGetCommStatus)

end Extension

end SerialFc
