import SerialFc.Model.ReceiveChar

/-!
# The interrupt service routine

`SerialISR` of `isr.c` for an opened port: line status, reception, transmission. The loops of the
source run until the chip is quiet, so `receiveLoop` and `isrLoop` carry fuel and answer `none`
when it runs out; nothing else depends on it.
-/

namespace SerialFc

variable {U : Type} [Uart U]

namespace Extension

def addError (error : UInt32) (e : Extension U) : Extension U :=
  { e with ev := { e.ev with errorWord := e.ev.errorWord ||| error } }

/-- `ReceivedCount++` and `READ_RECEIVE_BUFFER`. -/
def readReceiveBuffer (e : Extension U) : UInt8 × Extension U :=
  { e with ev := { e.ev with receivedCount := e.ev.receivedCount + 1 } }.readReg .data

/-! ## Line status -/

/-- Reads a character and stores it as it is. -/
def putReceiveBuffer (e : Extension U) : Extension U :=
  e.readReceiveBuffer.2.serialPutChar e.readReceiveBuffer.1

def putIfData (lineStatus : UInt8) (e : Extension U) : Extension U :=
  if has lineStatus lsrDr then e.putReceiveBuffer else e

/-- The escape sequence of a line-status report, with the character at the head of the FIFO. -/
def insertLsr (lineStatus : UInt8) (e : Extension U) : Extension U :=
  if e.cfg.escapeChar != 0 then
    e.serialPutChar e.cfg.escapeChar
      |>.serialPutChar (if has lineStatus lsrDr then lsrmstLsrData else lsrmstLsrNodata)
      |>.serialPutChar lineStatus
      |>.putIfData lineStatus
  else e

def discardIfData (lineStatus : UInt8) (e : Extension U) : Extension U :=
  if has lineStatus lsrDr then e.readReceiveBuffer.2 else e

/-- Puts `ErrorChar` in place of the character at the head of the FIFO. -/
def replaceByErrorChar (lineStatus : UInt8) (e : Extension U) : Extension U :=
  (e.serialPutChar e.cfg.specialChars.errorChar).discardIfData lineStatus

def countOverrunError (e : Extension U) : Extension U :=
  { e with ev := { e.ev with
    serialOverrunErrorCount := e.ev.serialOverrunErrorCount + 1
    errorWord := e.ev.errorWord ||| 0x04 } }

def countParityError (e : Extension U) : Extension U :=
  { e with ev := { e.ev with
    parityErrorCount := e.ev.parityErrorCount + 1
    errorWord := e.ev.errorWord ||| 0x10 } }

def countFrameError (e : Extension U) : Extension U :=
  { e with ev := { e.ev with
    frameErrorCount := e.ev.frameErrorCount + 1
    errorWord := e.ev.errorWord ||| 0x02 } }

def lsrOverrun (lineStatus : UInt8) (e : Extension U) : Extension U :=
  if has lineStatus lsrOe then
    if e.handFlow.errorChar then e.countOverrunError.replaceByErrorChar lineStatus
    else e.countOverrunError.putIfData lineStatus
  else e

def replaceIfErrorChar (lineStatus : UInt8) (e : Extension U) : Extension U :=
  if e.handFlow.errorChar then e.replaceByErrorChar lineStatus else e

def lsrParity (lineStatus : UInt8) (e : Extension U) : Extension U :=
  if has lineStatus lsrPe then e.countParityError.replaceIfErrorChar lineStatus else e

def lsrFraming (lineStatus : UInt8) (e : Extension U) : Extension U :=
  if has lineStatus lsrFe then e.countFrameError.replaceIfErrorChar lineStatus else e

def putBreakChar (e : Extension U) : Extension U :=
  if e.handFlow.breakChar then e.serialPutChar e.cfg.specialChars.breakChar else e

def lsrBreakOrError (lineStatus : UInt8) (e : Extension U) : Extension U :=
  if has lineStatus lsrBi then (e.addError 0x01).putBreakChar
  else (e.lsrParity lineStatus).lsrFraming lineStatus

def lsrEvents (lineStatus : UInt8) (e : Extension U) : Extension U :=
  if e.ev.isrWaitMask != 0 then
    e.addEvent evErr (has lineStatus (lsrOe ||| lsrPe ||| lsrFe))
      |>.addEvent evBreak (has lineStatus lsrBi)
      |>.answerWaitIfDue
  else e

/-- The test that `READ_LINE_STATUS` has not hidden a transmit interrupt. -/
def lsrRestart (lineStatus : UInt8) (e : Extension U) : Extension U :=
  if has lineStatus lsrThre && (e.tx.writeLength != 0 || e.tx.transmitImmediate) then e.retickle
  else e

/-- What `SerialProcessLSR` does when some bit besides THRE, TEMT and DR is set. -/
def lsrErrors (lineStatus : UInt8) (e : Extension U) : Extension U :=
  e.insertLsr lineStatus
    |>.lsrOverrun lineStatus
    |>.lsrBreakOrError lineStatus
    |>.abortOnError
    |>.lsrEvents lineStatus
    |>.lsrRestart lineStatus

def setHoldingEmpty (b : Bool) (e : Extension U) : Extension U :=
  { e with tx := { e.tx with holdingEmpty := b } }

/-- Some bit besides THRE, TEMT and DR. -/
def lineError (lineStatus : UInt8) : Bool := has lineStatus (~~~(lsrThre ||| lsrTemt ||| lsrDr))

/-- `SerialProcessLSR` once it has read LSR. -/
def processLineStatus (lineStatus : UInt8) (e : Extension U) : Extension U :=
  if lineError lineStatus then
    (e.setHoldingEmpty (has lineStatus lsrThre)).lsrErrors lineStatus
  else e.setHoldingEmpty (has lineStatus lsrThre)

/-- `SerialProcessLSR`. Returns the line status it read. -/
def serialProcessLsr (e : Extension U) : UInt8 × Extension U :=
  ((e.readReg .lsr).1, (e.readReg .lsr).2.processLineStatus (e.readReg .lsr).1)

/-! ## Reception -/

def toggleTimer (e : Extension U) : Extension U :=
  if e.handFlow.transmitToggle then e.insertStartTimerLowerRts else e

def setTxXoff (b : Bool) (e : Extension U) : Extension U :=
  e.putHolding { e.tx.txHolding with xoff := b }

/-- An XON or XOFF character has come in under `SERIAL_AUTO_TRANSMIT`. -/
def receiveFlowChar (c : UInt8) (e : Extension U) : Extension U :=
  if c = e.cfg.specialChars.xoffChar then (e.setTxXoff true).toggleTimer else e.setTxXoff false

def receiveEvents (c : UInt8) (e : Extension U) : Extension U :=
  if e.ev.isrWaitMask != 0 then
    e.addEvent evRxChar true
      |>.addEvent evRxFlag (e.cfg.specialChars.eventChar == c)
      |>.answerWaitIfDue
  else e

def putNinthBit (ninthBit : UInt8) (e : Extension U) : Extension U :=
  if e.cfg.nineBit then e.serialPutChar ninthBit else e

/-- The escape character was received: mark it as data. -/
def putEscaped (c : UInt8) (e : Extension U) : Extension U :=
  if e.cfg.escapeChar != 0 && e.cfg.escapeChar == c then e.serialPutChar lsrmstEscape else e

/-- What becomes of the received character `c`. -/
def receiveChar (c ninthBit : UInt8) (e : Extension U) : Extension U :=
  if c = 0 && e.handFlow.nullStripping then e
  else if e.handFlow.autoTransmit &&
      (c = e.cfg.specialChars.xonChar || c = e.cfg.specialChars.xoffChar) then
    e.receiveFlowChar c
  else (e.receiveEvents c).serialPutChar c |>.putNinthBit ninthBit |>.putEscaped c

/-- With `NineBit`, the line status before the character is read. -/
def readNinthBit (e : Extension U) : UInt8 × Extension U :=
  if e.cfg.nineBit then (((e.readReg .lsr).1 &&& 0x04) >>> 2, (e.readReg .lsr).2) else (0, e)

/-- The receive loop's body up to `ReceiveDoLineStatus`. -/
def receiveOne (e : Extension U) : Extension U :=
  let ninthBit := e.readNinthBit
  let received := ninthBit.2.readReceiveBuffer
  received.2.receiveChar (received.1 &&& e.cfg.validDataMask) ninthBit.1

/-- The UART has been pulled out: IIR reads a bit that is always zero. -/
def uartRemoved (e : Extension U) : Bool × Extension U :=
  if e.cfg.uartRemovalDetect then
    (has (e.readReg .iir).1 iirMustBeZero, (e.readReg .iir).2)
  else (false, e)

def receiveLoop : Nat → Extension U → Option (Extension U)
  | 0, _ => none
  | n + 1, e =>
    let removed := e.receiveOne.uartRemoved
    let lsr := removed.2.serialProcessLsr
    if removed.1 then some removed.2
    else if !has lsr.1 lsrDr then some lsr.2
    else if lineError lsr.1 && lsr.2.cfg.escapeChar != 0 then some lsr.2
    else receiveLoop n lsr.2

/-! ## Transmission -/

/-- `FastcomGetTxFifoFillFSCC`: the transmit FIFO level of a 16C950. Register 4 shows it while
bit 7 of ACR is set, and ACR is written through ICR with its index in SPR. -/
def fastcomGetTxFifoFillFscc (e : Extension U) : UInt8 × Extension U :=
  let origLcr := e.readReg .lcr
  let fill := (origLcr.2.writeReg .lcr 0 |>.writeReg .spr 0
    |>.writeReg .lsr (e.cfg.acr ||| 0x80)).readReg .mcr
  (fill.1, fill.2.writeReg .spr 0 |>.writeReg .lsr e.cfg.acr |>.writeReg .lcr origLcr.1)

/-- `value = sizeof(ULONG)`, then `room_left` if it is not negative. -/
def roomLeft (fifoSize : Nat) (fill : UInt8) : Nat :=
  if fill.toNat ≤ fifoSize then fifoSize - fill.toNat else 4

/-- `FastcomGetTxFifoSpace`. -/
def fastcomGetTxFifoSpace (e : Extension U) : Nat × Extension U :=
  match e.cfg.cardType with
  | .pci => (roomLeft 64 (e.readReg .txtrg).1, (e.readReg .txtrg).2)
  | .pcie => (roomLeft 256 (e.readReg .txtrg).1, (e.readReg .txtrg).2)
  | .fscc => (roomLeft 128 e.fastcomGetTxFifoFillFscc.1, e.fastcomGetTxFifoFillFscc.2)
  | .other => (4, e)

/-- `WRITE_TRANSMIT_FIFO_HOLDING`. -/
def writeTransmitFifo : List UInt8 → Extension U → Extension U
  | [], e => e
  | b :: bytes, e => writeTransmitFifo bytes (e.writeReg .data b)

def addTransmitted (n : Nat) (e : Extension U) : Extension U :=
  { e with ev := { e.ev with transmittedCount := e.ev.transmittedCount + n } }

/-- Writes one special character, raising and later lowering RTS in toggle mode. -/
def writeSpecial (c : UInt8) (e : Extension U) : Extension U :=
  if e.handFlow.transmitToggle then
    (e.serialSetRts.addTransmitted 1).writeReg .data c |>.insertStartTimerLowerRts
  else (e.addTransmitted 1).writeReg .data c

def logWire (w : Wire) (e : Extension U) : Extension U := { e with wire := e.wire ++ [w] }

/-- The XON has gone: nothing is held by XOFF any more, on either side. -/
def xonSent (e : Extension U) : Extension U :=
  { e with
    tx := { e.tx with
      sendXonChar := false
      holdingEmpty := false
      txHolding := { e.tx.txHolding with xoff := false } }
    rx := { e.rx with rxHolding := { e.rx.rxHolding with xoff := false } } }

def transmitXon (e : Extension U) : Extension U :=
  (e.writeSpecial e.cfg.specialChars.xonChar).logWire (.xon e.cfg.specialChars.xonChar)
    |>.xonSent

/-- Without `SERIAL_XOFF_CONTINUE` sending an XOFF holds transmission as receiving one does. -/
def holdAfterXoff (e : Extension U) : Extension U :=
  if e.handFlow.xoffContinue then e else (e.setTxXoff true).toggleTimer

def xoffSent (e : Extension U) : Extension U :=
  { e with tx := { e.tx with sendXoffChar := false, holdingEmpty := false } }

def transmitXoff (e : Extension U) : Extension U :=
  (e.writeSpecial e.cfg.specialChars.xoffChar).logWire (.xoff e.cfg.specialChars.xoffChar)
    |>.holdAfterXoff
    |>.xoffSent

/-- The immediate character has gone; its completion is queued. -/
def immediateSent (e : Extension U) : Extension U :=
  { e with
    tx := { e.tx with transmitImmediate := false, holdingEmpty := false }
    wire := e.wire ++ [Wire.immediate e.tx.immediateChar] }.serialInsertQueueDpc .completeImmediate

def transmitImmediateChar (e : Extension U) : Extension U :=
  (e.writeSpecial e.tx.immediateChar).immediateSent

/-- Moves the write pointer over the bytes just written. -/
def movePointer (amountToWrite : Nat) (e : Extension U) : Extension U :=
  { e with
    tx := { e.tx with
      holdingEmpty := false
      writeCurrentChar := e.tx.writeCurrentChar.drop amountToWrite
      writeLength := e.tx.writeLength - amountToWrite }
    wire := e.wire ++ (e.tx.writeCurrentChar.take amountToWrite).map Wire.data }

/-- When nothing is left the write is given its length and its completion is queued. -/
def advanceWrite (amountToWrite : Nat) (e : Extension U) : Extension U :=
  if e.tx.writeLength - amountToWrite = 0 then
    ((e.movePointer amountToWrite).modifyCurrent .write fun r =>
      { r with information := if r.isWrite then r.length else 1 })
      |>.serialInsertQueueDpc .completeWrite
  else e.movePointer amountToWrite

/-- How many bytes of the write go out at this interrupt. -/
def amountToWrite (e : Extension U) : Nat × Extension U :=
  if e.cfg.fifoPresent then
    (min (min e.fastcomGetTxFifoSpace.1 e.cfg.txFifoAmount) e.tx.writeLength,
      e.fastcomGetTxFifoSpace.2)
  else (1, e)

def writeSpr (v : UInt8) (e : Extension U) : Extension U :=
  if e.cfg.nineBit then e.writeReg .spr v else e

/-- A chunk on the plain path: with `NineBit` its first byte is sent as MARK and the others as
SPACE. -/
def writeChunk (mark : UInt8) : List UInt8 → Extension U → Extension U
  | [], e => e
  | b :: bytes, e => writeChunk 0 bytes ((e.writeSpr mark).writeReg .data b)

/-- Writes a chunk to the holding register. -/
def writeBytes (bytes : List UInt8) (e : Extension U) : Extension U :=
  if e.handFlow.transmitToggle then
    (e.serialSetRts.addTransmitted bytes.length).writeTransmitFifo bytes
      |>.insertStartTimerLowerRts
  else (e.addTransmitted bytes.length).writeChunk 1 bytes

def transmitData (e : Extension U) : Extension U :=
  e.amountToWrite.2.writeBytes (e.tx.writeCurrentChar.take e.amountToWrite.1)
    |>.advanceWrite e.amountToWrite.1

/-- The choice of what to send. -/
def transmitNext (e : Extension U) : Extension U :=
  if e.tx.sendXonChar && !e.tx.txHolding.anyButXoff then e.transmitXon
  else if e.tx.sendXoffChar && !e.tx.txHolding.any then e.transmitXoff
  else if e.tx.transmitImmediate && (!e.tx.txHolding.any || e.tx.txHolding.onlyXoff) then
    e.transmitImmediateChar
  else if !e.tx.txHolding.any then e.transmitData
  else e

/-- Something is waiting to be sent, held or not. -/
def toSend (e : Extension U) : Bool :=
  e.tx.writeLength != 0 || e.tx.transmitImmediate || e.tx.sendXoffChar || e.tx.sendXonChar

def setEmptiedTransmit (e : Extension U) : Extension U :=
  { e with tx := { e.tx with emptiedTransmit := true } }

def updateBeforeTransmit (e : Extension U) : Extension U :=
  if e.handFlow.outHandshake then (e.serialHandleModemUpdate true).2 else e

/-- The case `SERIAL_IIR_THR`. -/
def transmit (e : Extension U) : Extension U :=
  if e.toSend then
    (e.setHoldingEmpty true).setEmptiedTransmit.updateBeforeTransmit.transmitNext
  else e.setHoldingEmpty true

/-! ## The routine -/

def isrCase (fuel : Nat) (interruptIdReg : UInt8) (e : Extension U) : Option (Extension U) :=
  let cause := interruptIdReg &&& iirCauses
  if cause = iirRls then some e.serialProcessLsr.2
  else if cause = iirRda ∨ cause = iirCti then e.receiveLoop fuel
  else if cause = iirThr then some e.transmit
  else if cause = iirMs then some (e.serialHandleModemUpdate false).2
  else some e

/-- The test before the ISR leaves: is there something to send that the interrupts did not
bring up? -/
def mustTransmit (lineStatus : UInt8) (e : Extension U) : Bool :=
  has lineStatus lsrThre && !e.tx.txHolding.any
    && (e.tx.writeLength != 0 || e.tx.transmitImmediate)

/-- The end of the ISR's loop: serve the next cause, or look at the transmitter once more before
leaving. -/
def isrLoop : Nat → Extension U → Option (Extension U)
  | 0, _ => none
  | n + 1, e =>
    let iir := e.readReg .iir
    let lsr := iir.2.serialProcessLsr
    if !has iir.1 iirNoInterruptPending then (iir.2.isrCase n iir.1).bind (isrLoop n)
    else if lsr.2.mustTransmit lsr.1 then isrLoop n lsr.2.transmit
    else some lsr.2

/-- `SerialISR`. -/
def serialIsr (fuel : Nat) (e : Extension U) : Option (Extension U) :=
  let iir := e.readReg .iir
  if has iir.1 iirNoInterruptPending then some iir.2
  else (iir.2.isrCase fuel iir.1).bind (isrLoop fuel)

end Extension

end SerialFc
