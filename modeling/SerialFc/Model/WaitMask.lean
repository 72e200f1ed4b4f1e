import SerialFc.Model.Completion

/-!
# Wait masks

`waitmask.c`. A request to wait becomes `CurrentWaitRequest` and leaves `CurrentMaskRequest` free
at once, so that a later request can change the mask under it.
-/

namespace SerialFc

variable {U : Type} [Uart U]

namespace Extension

def setMaskLocation (b : Bool) (e : Extension U) : Extension U :=
  { e with ev := { e.ev with irpMaskLocation := b } }

/-- The wait is over without an event. -/
def endWait (e : Extension U) : Extension U :=
  if e.ev.irpMaskLocation then
    ((e.setMaskLocation false).modifyCurrent .wait fun r =>
      { r with eventMask := some 0, information := 4 }).serialInsertQueueDpc .commWait
  else e

def setWaitMask (mask : UInt32) (e : Extension U) : Extension U :=
  { e with ev := { e.ev with
    historyMask := e.ev.historyMask &&& mask
    isrWaitMask := mask } }

/-- `SerialFinishOldWait`. -/
def serialFinishOldWait (mask : UInt32) (e : Extension U) : Extension U :=
  e.endWait.setWaitMask mask

/-- No event has happened yet: the ISR will answer. -/
def giveWait (e : Extension U) : Extension U :=
  { e with
    tx := { e.tx with emptiedTransmit := false }
    ev := { e.ev with irpMaskLocation := true } }

/-- Events have happened already: they are the answer. -/
def answerFromHistory (e : Extension U) : Extension U :=
  ({ e with ev := { e.ev with historyMask := 0 } }.modifyCurrent .wait fun r =>
    { r with eventMask := some e.ev.historyMask, information := 4, status := .success })
    |>.serialInsertQueueDpc .commWait

/-- `SerialGiveWaitToIsr`. -/
def serialGiveWaitToIsr (e : Extension U) : Extension U :=
  if e.ev.historyMask = 0 then (e.modifyCurrent .wait (·.putReference true .isr)).giveWait
  else (e.modifyCurrent .wait (·.putReference true .isr)).answerFromHistory

/-- `SerialGrabWaitFromIsr`. -/
def serialGrabWaitFromIsr (e : Extension U) : Extension U :=
  if e.ev.irpMaskLocation then
    ((e.setMaskLocation false).modifyCurrent .wait fun r =>
      { r with eventMask := some 0, information := 4 }).clearReference .wait .isr
  else e

def nextMask (status : NtStatus) (e : Extension U) : Extension U :=
  (e.modifyCurrent .mask fun r => { r with status := status })
    |>.serialGetNextRequest .mask .maskQueue true

/-- A request to wait is accepted. -/
def startWait (r : Request) (e : Extension U) : Extension U :=
  ((e.setCurrent .mask none).setCurrent .wait
      (some { r with refCount := .zero }.serialSetCancelRoutine)).serialGiveWaitToIsr
    |>.serialGetNextRequest .mask .maskQueue false

/-- One round of the loop of `SerialStartMask`. -/
def startMaskOne (e : Extension U) : Extension U :=
  match e.current .mask with
  | none => e.crash
  | some r =>
    match r.body with
    | .setWaitMask mask => (e.serialFinishOldWait mask).nextMask .success
    | _ =>
      if e.ev.isrWaitMask = 0 || (e.current .wait).isSome then e.nextMask .invalidParameter
      else e.startWait r

def startMaskLoop : Nat → Extension U → Extension U
  | 0, e => e
  | n + 1, e => e.startMaskOne.startNew .mask (startMaskLoop n)

/-- `SerialStartMask`. The loop ends with the queue, if not before. -/
def serialStartMask (e : Extension U) : Extension U :=
  startMaskLoop ((e.queue .maskQueue).waiting.length + 1) e

/-- `SerialTryToCompleteCurrent` for `CurrentWaitRequest`. -/
def tryToCompleteWait (synchRoutine : Extension U → Extension U)
    (statusToUse : NtStatus) (refType : Ref) (e : Extension U) : Extension U :=
  e.serialTryToCompleteCurrent synchRoutine statusToUse .wait none none (completeCurrent .wait)
    refType

/-- `SerialCancelWait`. -/
def serialCancelWait (e : Extension U) : Extension U :=
  e.tryToCompleteWait serialGrabWaitFromIsr .cancelled .cancel

/-- `SerialCompleteWait`. -/
def serialCompleteWait (e : Extension U) : Extension U :=
  e.tryToCompleteWait id .success .isr

end Extension

end SerialFc
