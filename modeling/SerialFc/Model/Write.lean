import SerialFc.Model.Completion

/-!
# Writes, XOFF counters and immediate characters

`write.c` and `immediat.c`. An XOFF counter first goes through the write queue as a write of one
byte, its XOFF character; when that is sent the request lives on as `CurrentXoffRequest` until
enough characters have come in, its timer expires, it is cancelled or another write starts.
-/

namespace SerialFc

variable {U : Type} [Uart U]

/-- What a write sends: its buffer, or the `XoffChar` field of an XOFF counter. -/
def Request.payload (r : Request) : List UInt8 :=
  match r.body with
  | .xoffCounter _ _ c => [c]
  | _ => r.systemBuffer

namespace Extension

/-! ## Writes and the ISR -/

/-- The transmitter may be idle: make it interrupt. -/
def startTransmit (e : Extension U) : Extension U :=
  if !e.tx.transmitImmediate && e.tx.holdingEmpty then e.retickle else e

/-- The ISR's pointer and count. -/
def giveWrite (r : Request) (e : Extension U) : Extension U :=
  { e with
    tx := { e.tx with
      writeLength := if r.isWrite then r.length else 1
      writeCurrentChar := r.payload }
    wire := e.wire ++ [Wire.started r.id r.payload] }

/-- `SerialGiveWriteToIsr`. -/
def serialGiveWriteToIsr (e : Extension U) : Extension U :=
  match e.current .write with
  | none => e.crash
  | some r =>
    ((e.giveWrite r).modifyCurrent .write (·.putReference true .isr)).startTransmit.raiseRtsInToggle

def setWriteLength (n : Nat) (e : Extension U) : Extension U :=
  { e with tx := { e.tx with writeLength := n } }

/-- `SerialGrabWriteFromIsr`. -/
def serialGrabWriteFromIsr (e : Extension U) : Extension U :=
  if e.tx.writeLength = 0 then e
  else
    (e.modifyCurrent .write fun r =>
        { r with information := if r.isWrite then r.length - e.tx.writeLength else 0 })
      |>.clearReference .write .isr
      |>.setWriteLength 0

/-! ## XOFF counters -/

/-- `SerialGrabXoffFromIsr`. -/
def serialGrabXoffFromIsr (e : Extension U) : Extension U :=
  if e.tx.countSinceXoff = 0 then e else (e.setCountSinceXoff 0).clearReference .xoff .isr

/-- `SerialGiveXoffToIsr`. -/
def serialGiveXoffToIsr (counter : Nat) (e : Extension U) : Extension U :=
  (e.setCountSinceXoff counter).modifyCurrent .xoff (·.putReference true .isr)

/-- `SerialTryToCompleteCurrent` for `CurrentXoffRequest`. -/
def tryToCompleteXoff (synchRoutine : Extension U → Extension U)
    (statusToUse : NtStatus) (totalTimer : Option TimerId) (refType : Ref) (e : Extension U) :
    Extension U :=
  e.serialTryToCompleteCurrent synchRoutine statusToUse .xoff none totalTimer
    (completeCurrent .xoff) refType

/-- `SerialCompleteXoff`. -/
def serialCompleteXoff (e : Extension U) : Extension U :=
  e.tryToCompleteXoff id .success (some .xoffCount) .isr

/-- `SerialTimeoutXoff`, which passes no timer at all. -/
def serialTimeoutXoff (e : Extension U) : Extension U :=
  e.tryToCompleteXoff serialGrabXoffFromIsr .serialCounterTimeout none .totalTimer

/-- `SerialCancelCurrentXoff`. -/
def serialCancelCurrentXoff (e : Extension U) : Extension U :=
  e.tryToCompleteXoff serialGrabXoffFromIsr .cancelled (some .xoffCount) .cancel

/-- A write starts while an XOFF counter is pending. -/
def killXoff (e : Extension U) : Extension U :=
  match e.current .xoff with
  | none => e
  | some r =>
    if r.refCount.isZero then e
    else
      (e.modifyCurrent .xoff fun r => { r.putReference true .xoffRef with information := 0 })
        |>.tryToCompleteXoff serialGrabXoffFromIsr .serialMoreWrites (some .xoffCount)
          .xoffRef

/-- The request moves from one slot to the other; what was there is left to itself. -/
def moveToXoff (r : Request) (e : Extension U) : Extension U :=
  ({ e with abandoned := e.abandoned ++ (e.current .xoff).toList }.setCurrent .write none).setCurrent
    .xoff (some r.serialSetCancelRoutine)

def armXoffTimer (timeout : Nat) (e : Extension U) : Extension U :=
  if timeout = 0 then e else e.setTimerWithReference .xoff .xoffCount .totalTimer

/-- The XOFF counter's write part is done: the request becomes `CurrentXoffRequest`. -/
def holdXoffRequest (r : Request) (timeout counter : Nat) (e : Extension U) : Extension U :=
  ((e.moveToXoff r).serialGiveXoffToIsr counter).armXoffTimer timeout

/-! ## Starting and ending writes -/

/-- `WriteTotalTimeoutConstant || WriteTotalTimeoutMultiplier`. -/
def useWriteTimer (e : Extension U) : Bool :=
  e.cfg.timeouts.writeTotalTimeoutConstant != 0 || e.cfg.timeouts.writeTotalTimeoutMultiplier != 0

/-- The total timer of a write or of an immediate character. -/
def armWriteTimer (slot : Slot) (timer : TimerId) (e : Extension U) : Extension U :=
  if e.useWriteTimer then e.setTimerWithReference slot timer .totalTimer else e

/-- `SERIAL_INIT_REFERENCE` and `SerialSetCancelRoutine`. -/
def initRequest (slot : Slot) (e : Extension U) : Extension U :=
  e.modifyCurrent slot fun r => { r with refCount := .zero }.serialSetCancelRoutine

/-- `SerialStartWrite`. -/
def serialStartWrite (e : Extension U) : Extension U :=
  (e.killXoff.initRequest .write).armWriteTimer .write .writeRequestTotal
    |>.serialGiveWriteToIsr

/-- An XOFF counter that has been sent is held; any other request goes on to its completion. -/
def holdIfXoff (r : Request) (e : Extension U) : Extension U :=
  match r.body with
  | .xoffCounter timeout counter _ =>
    if r.status ≠ NtStatus.success ∨ r.cancelled then e else e.holdXoffRequest r timeout counter
  | _ => e

def emptyTransmitIfNone (e : Extension U) : Extension U :=
  if (e.current .write).isSome then e else e.serialProcessEmptyTransmit

/-- `SerialGetNextWrite`. A flush never waits in the write queue: `SerialFlush` serves it. -/
def serialGetNextWrite (e : Extension U) : Extension U :=
  match e.current .write with
  | none => e.crash
  | some r =>
    ((e.addCharsQueued (-charsQueued r)).holdIfXoff r).serialGetNextRequest .write .writeQueue true
      |>.emptyTransmitIfNone

/-- `SerialTryToCompleteCurrent` as every write routine calls it. -/
def tryToCompleteWrite (synchRoutine : Extension U → Extension U)
    (statusToUse : NtStatus) (refType : Ref) (e : Extension U) : Extension U :=
  e.serialTryToCompleteCurrent synchRoutine statusToUse .write none (some .writeRequestTotal)
    (fun e => e.serialGetNextWrite.startNew .write serialStartWrite) refType

/-- `SerialCompleteWrite`. -/
def serialCompleteWrite (e : Extension U) : Extension U :=
  e.tryToCompleteWrite id .success .isr

/-- `SerialCancelCurrentWrite`. -/
def serialCancelCurrentWrite (e : Extension U) : Extension U :=
  e.tryToCompleteWrite serialGrabWriteFromIsr .cancelled .cancel

/-- `SerialWriteTimeout`. -/
def serialWriteTimeout (e : Extension U) : Extension U :=
  e.tryToCompleteWrite serialGrabWriteFromIsr .timeout .totalTimer

/-! ## Immediate characters -/

def giveImmediate (c : UInt8) (e : Extension U) : Extension U :=
  { e with tx := { e.tx with transmitImmediate := true, immediateChar := c } }

def startImmediate (e : Extension U) : Extension U :=
  if e.tx.writeLength = 0 && e.tx.holdingEmpty then e.retickle else e

/-- `SerialGiveImmediateToIsr`. -/
def serialGiveImmediateToIsr (c : UInt8) (e : Extension U) : Extension U :=
  ((e.giveImmediate c).modifyCurrent .immediate (·.putReference true .isr)).startImmediate

def dropImmediate (e : Extension U) : Extension U :=
  { e with tx := { e.tx with transmitImmediate := false } }

/-- `SerialGrabImmediateFromIsr`. -/
def serialGrabImmediateFromIsr (e : Extension U) : Extension U :=
  if e.tx.transmitImmediate then e.dropImmediate.clearReference .immediate .isr else e

/-- `SerialStartImmediate`. -/
def serialStartImmediate (c : UInt8) (e : Extension U) : Extension U :=
  (e.modifyCurrent .immediate fun r => { r with status := .pending }).initRequest .immediate
    |>.armWriteTimer .immediate .immediateTotal
    |>.serialGiveImmediateToIsr c

/-- `SerialGetNextImmediate`: there is no queue to fetch from. -/
def serialGetNextImmediate (e : Extension U) : Extension U :=
  match e.current .immediate with
  | none => e.crash
  | some r =>
    ((e.addCharsQueued (-1)).setCurrent .immediate none).serialProcessEmptyTransmit
      |>.serialCompleteRequest r

/-- `SerialTryToCompleteCurrent` as every immediate-character routine calls it. -/
def tryToCompleteImmediate (synchRoutine : Extension U → Extension U)
    (statusToUse : NtStatus) (refType : Ref) (e : Extension U) : Extension U :=
  e.serialTryToCompleteCurrent synchRoutine statusToUse .immediate none (some .immediateTotal)
    serialGetNextImmediate refType

/-- `SerialCompleteImmediate`. -/
def serialCompleteImmediate (e : Extension U) : Extension U :=
  e.tryToCompleteImmediate id .success .isr

/-- `SerialCancelImmediate`. -/
def serialCancelImmediate (e : Extension U) : Extension U :=
  e.tryToCompleteImmediate serialGrabImmediateFromIsr .cancelled .cancel

/-- `SerialTimeoutImmediate`. -/
def serialTimeoutImmediate (e : Extension U) : Extension U :=
  e.tryToCompleteImmediate serialGrabImmediateFromIsr .timeout .totalTimer

end Extension

end SerialFc
