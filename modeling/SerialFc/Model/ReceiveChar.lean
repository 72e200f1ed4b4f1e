import SerialFc.Model.Extension

/-!
# Storing a received character

`SerialPutChar` of `isr.c` and what it needs of `modmflow.c`: the modem-control lines,
`SerialProdXonXoff` and `SerialHandleModemUpdate`. All of it runs with the interrupt lock held.

`SerialPutChar` calls `SerialHandleModemUpdate` (with DSR sensitivity on) and
`SerialHandleModemUpdate` calls `SerialPutChar` (with an escape character set). The recursion
goes one level deeper only when MSR reports a change, so it is bounded by the changes the chip
carries. `putCharWith` and `modemUpdateWith` are the two bodies with the call to the other as a
parameter.
-/

namespace SerialFc

open Lib

variable {U : Type} [Uart U]

namespace Extension

/-! ## Modem-control lines -/

/-- Does FastcomGetCardType say PCIe? Its DTR line belongs to RS485. -/
def isPcie (e : Extension U) : Bool := e.cfg.cardType == .pcie

def updateReg (r : Reg) (f : UInt8 → UInt8) (e : Extension U) : Extension U :=
  (e.readReg r).2.writeReg r (f (e.readReg r).1)

def serialSetDtr (e : Extension U) : Extension U :=
  if e.isPcie then e else e.updateReg .mcr (· ||| mcrDtr)

def serialClrDtr (e : Extension U) : Extension U :=
  if e.isPcie then e else e.updateReg .mcr (· &&& ~~~mcrDtr)

def serialSetRts (e : Extension U) : Extension U := e.updateReg .mcr (· ||| mcrRts)

def serialClrRts (e : Extension U) : Extension U := e.updateReg .mcr (· &&& ~~~mcrRts)

/-! ## XON and XOFF -/

/-- Makes an XON (or an XOFF) character the one to send. -/
def setSpecial (sendXon : Bool) (e : Extension U) : Extension U :=
  { e with tx := { e.tx with sendXonChar := sendXon, sendXoffChar := !sendXon } }

def serialProdXonXoff (sendXon : Bool) (e : Extension U) : Extension U :=
  if !e.tx.sendXonChar && !e.tx.sendXoffChar && e.tx.holdingEmpty then
    e.retickle.setSpecial sendXon
  else
    e.setSpecial sendXon

/-! ## Events -/

def addHistory (events : UInt32) (e : Extension U) : Extension U :=
  { e with ev := { e.ev with historyMask := e.ev.historyMask ||| events } }

/-- One event of the wait mask: `IsrWaitMask & event`, and what it stands for has happened. -/
def addEvent (event : UInt32) (happened : Bool) (e : Extension U) : Extension U :=
  if has32 e.ev.isrWaitMask event && happened then e.addHistory event else e

/-- `*IrpMaskLocation = HistoryMask` and what goes with it: the wait request has its answer and
its completion is queued. -/
def answerWait (e : Extension U) : Extension U :=
  ({ e with ev := { e.ev with irpMaskLocation := false, historyMask := 0 } }.modifyCurrent .wait
    fun r => { r with eventMask := some e.ev.historyMask, information := 4 })
    |>.serialInsertQueueDpc .commWait

/-- `if (IrpMaskLocation && HistoryMask)`. -/
def answerWaitIfDue (e : Extension U) : Extension U :=
  if e.ev.irpMaskLocation && e.ev.historyMask != 0 then e.answerWait else e

/-- With `SERIAL_ERROR_ABORT`, an error aborts every read and write. -/
def abortOnError (e : Extension U) : Extension U :=
  if e.handFlow.errorAbort then e.serialInsertQueueDpc .commError else e

/-! ## Storing -/

def setCountSinceXoff (n : Nat) (e : Extension U) : Extension U :=
  { e with tx := { e.tx with countSinceXoff := n } }

/-- One more character since the XOFF counter began. -/
def countXoff (e : Extension U) : Extension U :=
  if e.tx.countSinceXoff = 0 then e
  else if e.tx.countSinceXoff = 1 then
    ((e.setCountSinceXoff 0).modifyCurrent .xoff fun r =>
      { r with status := .success, information := 0 }).serialInsertQueueDpc .xoffCountComplete
  else e.setCountSinceXoff (e.tx.countSinceXoff - 1)

/-- The ISR's pointers back on the empty interrupt buffer. -/
def resetRing (e : Extension U) : Extension U :=
  { e with rx := { e.rx with
    readBufferBase := .ring
    currentCharSlot := 0
    firstReadableChar := 0
    lastCharSlot := e.rx.bufferSize - 1
    charsInInterruptBuffer := 0 } }

/-- `*CurrentCharSlot = c` in the reader's buffer. -/
def putUser (c : UInt8) (e : Extension U) : Extension U :=
  { e with
    rx := { e.rx with readByIsr := e.rx.readByIsr + 1 }
    stream := e.stream ++ [Fifo.Op.put c] }.modifyCurrent .read fun r =>
      { r with systemBuffer := r.systemBuffer.set e.rx.currentCharSlot c }

/-- The reader's buffer is full: the read is satisfied. -/
def satisfyRead (e : Extension U) : Extension U :=
  (e.resetRing.modifyCurrent .read fun r => { r with information := r.length })
    |>.serialInsertQueueDpc .completeRead

/-- The character goes to the reader's buffer. -/
def storeUser (c : UInt8) (e : Extension U) : Extension U :=
  if e.rx.currentCharSlot = e.rx.lastCharSlot then (e.putUser c).satisfyRead
  else { e.putUser c with
    rx := { (e.putUser c).rx with currentCharSlot := e.rx.currentCharSlot + 1 } }

/-- `BufferSize - XoffLimit <= CharsInInterruptBuffer + 1`. -/
def reachesXoffLimit (e : Extension U) : Bool :=
  e.rx.bufferSize - e.handFlow.xoffLimit ≤ e.rx.charsInInterruptBuffer + 1

def setRxDtr (b : Bool) (e : Extension U) : Extension U :=
  e.putRxHolding { e.rx.rxHolding with dtr := b }

def setRxRts (b : Bool) (e : Extension U) : Extension U :=
  e.putRxHolding { e.rx.rxHolding with rts := b }

def setRxXoff (b : Bool) (e : Extension U) : Extension U :=
  e.putRxHolding { e.rx.rxHolding with xoff := b }

def holdDtr (e : Extension U) : Extension U :=
  if e.handFlow.dtrHandshake && !e.rx.rxHolding.dtr && e.reachesXoffLimit then
    (e.setRxDtr true).serialClrDtr
  else e

def holdRts (e : Extension U) : Extension U :=
  if e.handFlow.rtsHandshake && !e.rx.rxHolding.rts && e.reachesXoffLimit then
    (e.setRxRts true).serialClrRts
  else e

def holdXoff (e : Extension U) : Extension U :=
  if e.handFlow.autoReceive && !e.rx.rxHolding.xoff && e.reachesXoffLimit then
    (e.setRxXoff true).serialProdXonXoff false
  else e

/-- The character goes to the slot `CurrentCharSlot` of the interrupt buffer. The slot moves on
here rather than after the event of `raise80Full`, which does not look at it. -/
def putRing (c : UInt8) (e : Extension U) : Extension U :=
  { e with
    rx := { e.rx with
      interruptReadBuffer := e.rx.interruptReadBuffer.set e.rx.currentCharSlot c
      charsInInterruptBuffer := e.rx.charsInInterruptBuffer + 1
      currentCharSlot :=
        if e.rx.currentCharSlot = e.rx.lastCharSlot then 0 else e.rx.currentCharSlot + 1 }
    stream := e.stream ++ [Fifo.Op.put c] }

def answerWaitIfWaiting (e : Extension U) : Extension U :=
  if e.ev.irpMaskLocation then e.answerWait else e

/-- The interrupt buffer has just become four fifths full. -/
def raise80Full (e : Extension U) : Extension U :=
  if e.rx.charsInInterruptBuffer = e.rx.bufferSizePt8 && has32 e.ev.isrWaitMask evRx80Full then
    (e.addHistory evRx80Full).answerWaitIfWaiting
  else e

/-- `SERIAL_ERROR_CHAR` at a buffer overrun: the newest character is overwritten. If the read
path has copied every counted character out already, the overwritten slot is not read again. -/
def overwriteLast (e : Extension U) : Extension U :=
  { e with
    rx := { e.rx with
      interruptReadBuffer := e.rx.interruptReadBuffer.set
        (if e.rx.currentCharSlot = 0 then e.rx.bufferSize - 1 else e.rx.currentCharSlot - 1)
        e.cfg.specialChars.errorChar }
    stream :=
      if e.pc.taken < e.rx.charsInInterruptBuffer then
        e.stream ++ [Fifo.Op.replaceLast e.cfg.specialChars.errorChar]
      else e.stream }

def countBufferOverrun (e : Extension U) : Extension U :=
  { e with ev := { e.ev with
    bufferOverrunErrorCount := e.ev.bufferOverrunErrorCount + 1
    errorWord := e.ev.errorWord ||| 0x08 } }

def overwriteIfErrorChar (e : Extension U) : Extension U :=
  if e.handFlow.errorChar then e.overwriteLast else e

/-- The interrupt buffer is full and the character is dropped. -/
def overrun (e : Extension U) : Extension U :=
  e.countBufferOverrun.overwriteIfErrorChar.abortOnError

def storeRingOrOverrun (c : UInt8) (e : Extension U) : Extension U :=
  if e.rx.charsInInterruptBuffer < e.rx.bufferSize then (e.putRing c).raise80Full else e.overrun

/-- The character goes to the interrupt buffer, after the handshakes that hold the sender off. -/
def storeRing (c : UInt8) (e : Extension U) : Extension U :=
  e.holdDtr.holdRts.holdXoff.storeRingOrOverrun c

/-- To the buffer the ISR is pointed at. -/
def deliver (c : UInt8) (e : Extension U) : Extension U :=
  if e.rx.readBufferBase = .user then e.storeUser c else e.storeRing c

def storeChar (c : UInt8) (e : Extension U) : Extension U := e.countXoff.deliver c

/-! ## `SerialPutChar` and `SerialHandleModemUpdate` -/

/-- With DSR low the character is dropped. -/
def storeUnlessDsr (c : UInt8) (e : Extension U) : Extension U :=
  if e.rx.rxHolding.dsr then e else e.storeChar c

/-- `SerialPutChar`, given `SerialHandleModemUpdate(Extension, FALSE)`. -/
def putCharWith (update : Extension U → Extension U) (c : UInt8) (e : Extension U) :
    Extension U :=
  if e.handFlow.dsrSensitivity then (update e).storeUnlessDsr c else e.storeChar c

/-- The escape sequence of a modem-status change. -/
def insertMst (put : UInt8 → Extension U → Extension U) (modemStatus : UInt8)
    (e : Extension U) : Extension U :=
  if e.cfg.escapeChar != 0 && has modemStatus msrDelta then
    put modemStatus (put lsrmstMst (put e.cfg.escapeChar e))
  else e

/-- The bit `SERIAL_RX_DSR` of `RXHolding` follows the DSR line. -/
def followDsr (modemStatus : UInt8) (e : Extension U) : Extension U :=
  e.putRxHolding { e.rx.rxHolding with
    dsr := e.handFlow.dsrSensitivity && !has modemStatus msrDsr }

def modemEvents (modemStatus : UInt8) (e : Extension U) : Extension U :=
  if e.ev.isrWaitMask != 0 then
    e.addEvent evCts (has modemStatus msrDcts)
      |>.addEvent evDsr (has modemStatus msrDdsr)
      |>.addEvent evRing (has modemStatus msrTeri)
      |>.addEvent evRlsd (has modemStatus msrDdcd)
      |>.answerWaitIfDue
  else e

/-- The out-handshake bits of `TXHolding` follow the modem lines. -/
def followModem (modemStatus : UInt8) (e : Extension U) : Extension U :=
  e.putHolding { e.tx.txHolding with
    cts := e.handFlow.ctsHandshake && !has modemStatus msrCts
    dsr := e.handFlow.dsrHandshake && !has modemStatus msrDsr
    dcd := e.handFlow.dcdHandshake && !has modemStatus msrDcd }

def clearModemHolding (e : Extension U) : Extension U :=
  e.putHolding { e.tx.txHolding with dcd := false, dsr := false, cts := false }

/-- `!TXHolding && (TransmitImmediate || WriteLength) && HoldingEmpty`. -/
def canRestart (e : Extension U) : Bool :=
  !e.tx.txHolding.any && (e.tx.transmitImmediate || e.tx.writeLength != 0) && e.tx.holdingEmpty

/-- Re-enables the interrupts so that transmission begins again. -/
def restartTransmit (e : Extension U) : Extension U :=
  if e.canRestart then e.retickle else e

/-- `old` is `OldTXHolding`: transmission has just come to a halt. -/
def toggleOnHold (old : TxHolding) (e : Extension U) : Extension U :=
  if !old.any && e.tx.txHolding.any && e.handFlow.transmitToggle then e.insertStartTimerLowerRts
  else e

/-- `old` is `OldTXHolding`: transmission has just become possible. -/
def restartOnRelease (doingTx : Bool) (old : TxHolding) (e : Extension U) : Extension U :=
  if !doingTx && old.any && !e.tx.txHolding.any then e.restartTransmit else e

/-- The transmit part of `SerialHandleModemUpdate`. -/
def modemHolding (doingTx : Bool) (old : TxHolding) (modemStatus : UInt8) (e : Extension U) :
    Extension U :=
  if e.handFlow.outHandshake then
    (e.followModem modemStatus).toggleOnHold old |>.restartOnRelease doingTx old
  else if e.tx.txHolding.dcd || e.tx.txHolding.dsr || e.tx.txHolding.cts then
    e.clearModemHolding.restartOnRelease doingTx old
  else e

/-- `SerialHandleModemUpdate`, given `SerialPutChar`. Returns the modem status it read. -/
def modemUpdateWith (put : UInt8 → Extension U → Extension U) (doingTx : Bool)
    (e : Extension U) : UInt8 × Extension U :=
  ((e.readReg .msr).1,
    (e.readReg .msr).2.insertMst put (e.readReg .msr).1
      |>.followDsr (e.readReg .msr).1
      |>.modemEvents (e.readReg .msr).1
      |>.modemHolding doingTx e.tx.txHolding (e.readReg .msr).1)

/-- `SerialHandleModemUpdate` with the recursion cut after `n` levels. -/
def handleModemUpdateN : Nat → Bool → Extension U → UInt8 × Extension U
  | 0, doingTx, e => e.modemUpdateWith (fun _ e => e) doingTx
  | n + 1, doingTx, e =>
    e.modemUpdateWith (putCharWith fun e => (handleModemUpdateN n false e).2) doingTx

/-- `SerialHandleModemUpdate`. -/
def serialHandleModemUpdate (doingTx : Bool) (e : Extension U) : UInt8 × Extension U :=
  e.handleModemUpdateN (Uart.modemChanges e.uart) doingTx

/-- `SerialPutChar`. -/
def serialPutChar (c : UInt8) (e : Extension U) : Extension U :=
  e.putCharWith (fun e => (e.serialHandleModemUpdate false).2) c

end Extension

end SerialFc
