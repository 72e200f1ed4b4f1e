import SerialFc.Model.Isr

/-!
# Flow control from outside the ISR

The routines of `modmflow.c` that I/O controls, DPCs and the read path run with the interrupt
lock held, and `SerialProcessEmptyTransmit` of `write.c`.
-/

namespace SerialFc

variable {U : Type} [Uart U]

namespace Extension

/-! ## RTS in toggle mode -/

/-- `CurrentWriteRequest || TransmitImmediate || !IsQueueEmpty(WriteQueue) && !TXHolding`. -/
def transmitPending (e : Extension U) : Bool :=
  (e.current .write).isSome || e.tx.transmitImmediate
    || (!e.isQueueEmpty .writeQueue && !e.tx.txHolding.any)

/-- Both THRE and TEMT. -/
def transmitterIdle (lineStatus : UInt8) : Bool :=
  lineStatus &&& (lsrThre ||| lsrTemt) == lsrThre ||| lsrTemt

def addTryingToLowerRts (n : Int) (e : Extension U) : Extension U :=
  { e with tx := { e.tx with countOfTryingToLowerRts := e.tx.countOfTryingToLowerRts + n } }

/-- RTS goes down if the line status says that everything has been sent; otherwise the driver
looks again a character time later. -/
def lowerRtsOrRetry (lineStatus : UInt8) (e : Extension U) : Extension U :=
  if transmitterIdle lineStatus then e.serialClrRts else e.insertStartTimerLowerRts

def tryToLowerRts (e : Extension U) : Extension U :=
  if e.handFlow.transmitToggle && !(e.tx.txHolding.brk || e.transmitPending) then
    e.serialProcessLsr.2.lowerRtsOrRetry e.serialProcessLsr.1
  else e

/-- `SerialPerhapsLowerRTS`. -/
def serialPerhapsLowerRts (e : Extension U) : Extension U :=
  e.tryToLowerRts.addTryingToLowerRts (-1)

/-! ## Break, XON and XOFF by I/O control -/

def raiseRtsInToggle (e : Extension U) : Extension U :=
  if e.handFlow.transmitToggle then e.serialSetRts else e

def setTxBreak (b : Bool) (e : Extension U) : Extension U :=
  e.putHolding { e.tx.txHolding with brk := b }

def serialTurnOnBreak (e : Extension U) : Extension U :=
  (e.raiseRtsInToggle.updateReg .lcr (· ||| lcrBreak)).setTxBreak true

/-- The break is over: transmission begins again, or RTS may go down. -/
def restartOrLowerRts (e : Extension U) : Extension U :=
  if e.canRestart then e.retickle else (e.addTryingToLowerRts 1).serialPerhapsLowerRts

def serialTurnOffBreak (e : Extension U) : Extension U :=
  if e.tx.txHolding.brk then
    (e.updateReg .lcr (· &&& ~~~lcrBreak)).setTxBreak false |>.restartOrLowerRts
  else e

def serialPretendXoff (e : Extension U) : Extension U := (e.setTxXoff true).toggleTimer

def serialPretendXon (e : Extension U) : Extension U :=
  if e.tx.txHolding.any then (e.setTxXoff false).restartTransmit else e

/-! ## The interrupt buffer has got room -/

def releaseDtr (e : Extension U) : Extension U :=
  if e.rx.rxHolding.dtr then (e.setRxDtr false).serialSetDtr else e

def releaseRts (e : Extension U) : Extension U :=
  if e.rx.rxHolding.rts then (e.setRxRts false).serialSetRts else e

/-- The XOFF bit itself is cleared when the XON goes out. -/
def releaseXoff (e : Extension U) : Extension U :=
  if e.rx.rxHolding.xoff then e.serialProdXonXoff true else e

/-- `SerialHandleReducedIntBuffer`. -/
def serialHandleReducedIntBuffer (e : Extension U) : Extension U :=
  if e.rx.rxHolding.any && e.rx.charsInInterruptBuffer ≤ e.handFlow.xonLimit then
    e.releaseDtr.releaseRts.releaseXoff
  else e

/-! ## New handshaking -/

/-- `BufferSize - New.XoffLimit > CharsInInterruptBuffer`. -/
def belowNewLimit (new : HandFlow) (e : Extension U) : Bool :=
  e.rx.bufferSize - new.xoffLimit > e.rx.charsInInterruptBuffer

/-- Input handshaking by DTR is switched on. -/
def setupDtrHandshake (new : HandFlow) (e : Extension U) : Extension U :=
  if e.belowNewLimit new then
    if e.rx.rxHolding.dtr then
      if e.rx.charsInInterruptBuffer > new.xonLimit then (e.setRxDtr false).serialSetDtr else e
    else e.serialSetDtr
  else (e.setRxDtr true).serialClrDtr

def setupDtr (new : HandFlow) (e : Extension U) : Extension U :=
  if e.handFlow.dtrMask != new.dtrMask then
    if new.dtrMask != 0 then
      if new.dtrHandshake then e.setupDtrHandshake new else (e.setRxDtr false).serialSetDtr
    else (e.setRxDtr false).serialClrDtr
  else e

/-- Input handshaking by RTS is switched on. -/
def setupRtsHandshake (new : HandFlow) (e : Extension U) : Extension U :=
  if e.belowNewLimit new then
    if e.rx.rxHolding.rts then
      if e.rx.charsInInterruptBuffer > new.xonLimit then (e.setRxRts false).serialSetRts else e
    else e.serialSetRts
  else (e.setRxRts true).serialClrRts

def putHandFlow (h : HandFlow) (e : Extension U) : Extension U :=
  { e with cfg := { e.cfg with handFlow := h } }

/-- `HandFlow.FlowReplace` says toggle before the line status is processed, which needs it. -/
def enterToggle (e : Extension U) : Extension U :=
  e.putHandFlow { e.handFlow with
    flowReplace := (e.handFlow.flowReplace &&& ~~~0xc0) ||| 0xc0 }

def raiseOrLowerRts (lineStatus : UInt8) (e : Extension U) : Extension U :=
  if !transmitterIdle lineStatus || e.transmitPending then e.serialSetRts
  else (e.addTryingToLowerRts 1).serialPerhapsLowerRts

/-- `SERIAL_TRANSMIT_TOGGLE` is switched on. -/
def setupToggle (e : Extension U) : Extension U :=
  if e.tx.txHolding.brk then e.serialSetRts
  else e.serialProcessLsr.2.raiseOrLowerRts e.serialProcessLsr.1

def setupRts (new : HandFlow) (e : Extension U) : Extension U :=
  if e.handFlow.rtsMask != new.rtsMask then
    if new.rtsHandshake then e.setupRtsHandshake new
    else if new.rtsControl then (e.setRxRts false).serialSetRts
    else if new.transmitToggle then (e.setRxRts false).enterToggle.setupToggle
    else (e.setRxRts false).serialClrRts
  else e

def setupAutoReceive (new : HandFlow) (e : Extension U) : Extension U :=
  if e.handFlow.autoReceive != new.autoReceive then
    if new.autoReceive then
      if e.belowNewLimit new then e else (e.setRxXoff true).serialProdXonXoff false
    else if e.rx.rxHolding.xoff then (e.setRxXoff false).serialProdXonXoff true
    else e
  else e

def setupAutoTransmit (new : HandFlow) (e : Extension U) : Extension U :=
  if e.handFlow.autoTransmit != new.autoTransmit && !new.autoTransmit && e.tx.txHolding.xoff then
    (e.setTxXoff false).serialProdXonXoff true
  else e

/-- `SerialSetupNewHandFlow`, for an opened port. -/
def serialSetupNewHandFlow (new : HandFlow) (e : Extension U) : Extension U :=
  (e.setupDtr new).setupRts new
    |>.setupAutoReceive new
    |>.setupAutoTransmit new
    |>.putHandFlow new

/-- On a PCIe card the DTR line is taken, and `SerialSetHandFlow` ignores what is asked of it. -/
def handFlowForCard (new : HandFlow) (e : Extension U) : HandFlow :=
  if e.isPcie then { new with controlHandShake := new.controlHandShake &&& ~~~0x03 } else new

/-- `SerialSetHandFlow`. -/
def serialSetHandFlow (new : HandFlow) (e : Extension U) : Extension U :=
  ((e.serialSetupNewHandFlow (e.handFlowForCard new)).serialHandleModemUpdate false).2

/-! ## The transmitter has run dry -/

/-- `SerialProcessEmptyTransmit`. -/
def serialProcessEmptyTransmit (e : Extension U) : Extension U :=
  if has32 e.ev.isrWaitMask evTxEmpty && e.tx.emptiedTransmit && !e.tx.transmitImmediate
      && (e.current .write).isNone && e.isQueueEmpty .writeQueue then
    (e.addHistory evTxEmpty).answerWaitIfWaiting.addTryingToLowerRts 1
      |>.serialPerhapsLowerRts
  else e

end Extension

end SerialFc
