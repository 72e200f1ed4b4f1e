import SerialFc.Model.FlowControl

/-!
# Fetching, completing and cancelling requests

The shared request machinery of `utils.c`. A routine that takes `WDFREQUEST *CurrentOpRequest`
takes the slot here, and the synchronized, start and get-next routines are functions.
-/

namespace SerialFc

open Lib

variable {U : Type} [Uart U]

namespace Extension

/-- `SerialCompleteRequest`. For a read, the bytes it reports leave the driver here. -/
def serialCompleteRequest (r : Request) (e : Extension U) : Extension U :=
  { e with
    done := e.done ++ [r]
    stream := if r.isRead then e.stream ++ [Fifo.Op.take r.information] else e.stream }

/-! ## Queues -/

def putQueue (q : QueueId) (v : IoQueue) (e : Extension U) : Extension U :=
  { e with queue := Function.update e.queue q v }

/-- `WdfIoQueueRetrieveNextRequest`: fails while the queue is stopped or empty. -/
def retrieveNextRequest (q : QueueId) (slot : Slot) (e : Extension U) : Extension U :=
  match (e.queue q).started, (e.queue q).waiting with
  | true, r :: waiting =>
    (e.putQueue q { e.queue q with waiting := waiting }).setCurrent slot
      (some { r with origin := some q })
  | _, _ => e.setCurrent slot none

/-- `SerialGetNextRequest`. The next request, if any, is in the slot afterwards. -/
def serialGetNextRequest (slot : Slot) (q : QueueId) (completeCurrent : Bool)
    (e : Extension U) : Extension U :=
  match e.current slot with
  | some r =>
    if completeCurrent then (e.retrieveNextRequest q slot).serialCompleteRequest r
    else e.retrieveNextRequest q slot
  | none => e.retrieveNextRequest q slot

/-- `WdfIoQueuePurge`: the waiting requests are cancelled and new ones are refused. A request of the
queue that the driver holds and that can be cancelled is cancelled too, in a step of its own. -/
def wdfIoQueuePurge (q : QueueId) (e : Extension U) : Extension U :=
  { e.putQueue q ⟨[], false, false⟩ with
    canceledOnQueue := e.canceledOnQueue ++ (e.queue q).waiting }

/-- `WdfIoQueueStart`. -/
def wdfIoQueueStart (q : QueueId) (e : Extension U) : Extension U :=
  e.putQueue q { e.queue q with accepting := true, started := true }

/-! ## `SerialTryToCompleteCurrent` -/

def clearReference (slot : Slot) (ref : Ref) (e : Extension U) : Extension U :=
  e.modifyCurrent slot (·.putReference false ref)

/-- One timer of `SerialRundownIrpRefs`: its bit goes if the timer could be stopped, or if this is
the timer's own callback. -/
def rundownTimer (slot : Slot) (timer : Option TimerId) (ref refType : Ref) (e : Extension U) :
    Extension U :=
  match timer with
  | none => e
  | some t =>
    if (e.serialCancelTimer t).1 || refType == ref then
      (e.serialCancelTimer t).2.clearReference slot ref
    else (e.serialCancelTimer t).2

/-- The cancel routine in `SerialRundownIrpRefs`: this is the routine itself, or it is unmarked. -/
def rundownCancel (slot : Slot) (refType : Ref) (e : Extension U) : Extension U :=
  if refType = .cancel then
    e.modifyCurrent slot fun r => { r.putReference false .cancel with cancelRoutine := false }
  else e.modifyCurrent slot fun r => (r.serialClearCancelRoutine true).2

/-- `SerialRundownIrpRefs`. -/
def serialRundownIrpRefs (slot : Slot) (intervalTimer totalTimer : Option TimerId)
    (refType : Ref) (e : Extension U) : Extension U :=
  (e.rundownCancel slot refType).rundownTimer slot intervalTimer .intTimer refType
    |>.rundownTimer slot totalTimer .totalTimer refType

/-- The status and information a request is completed with. What a cancelled read holds is lost. -/
def giveStatus (slot : Slot) (statusToUse : NtStatus) (e : Extension U) : Extension U :=
  match e.current slot with
  | none => e.crash
  | some r =>
    if statusToUse = .cancelled then
      { e.setCurrent slot (some { r with status := statusToUse, information := 0 }) with
        stream := if r.isRead then e.stream ++ [Fifo.Op.drop r.information] else e.stream }
    else e.setCurrent slot (some { r with status := statusToUse })

/-- `GetNextRequest == NULL`: the slot is emptied and its request completed. -/
def completeCurrent (slot : Slot) (e : Extension U) : Extension U :=
  match e.current slot with
  | none => e.crash
  | some r => (e.setCurrent slot none).serialCompleteRequest r

/-- The last part of `SerialTryToCompleteCurrent`: with no reference left the request is completed
and the next one is started. -/
def completeIfUnreferenced (slot : Slot) (statusToUse : NtStatus)
    (finish : Extension U → Extension U) (e : Extension U) : Extension U :=
  match e.current slot with
  | none => e.crash
  | some r => if r.refCount.isZero then finish (e.giveStatus slot statusToUse) else e

/-- The first lines of `SerialTryToCompleteCurrent`: a caller that stands for the ISR, or for the
next write, gives its own reference up. -/
def dropOwnReference (slot : Slot) (refType : Ref) (e : Extension U) : Extension U :=
  if refType = .isr ∨ refType = .xoffRef then e.clearReference slot refType else e

def markCancelled (slot : Slot) (statusToUse : NtStatus) (e : Extension U) : Extension U :=
  if statusToUse = .cancelled then e.modifyCurrent slot fun r => { r with cancelled := true }
  else e

/-- Takes the request back from every agent that can be stopped. `synchRoutine` is `id` where the
source passes NULL. -/
def stopAgents (synchRoutine : Extension U → Extension U) (statusToUse : NtStatus) (slot : Slot)
    (intervalTimer totalTimer : Option TimerId) (refType : Ref) (e : Extension U) : Extension U :=
  (synchRoutine (e.dropOwnReference slot refType)).serialRundownIrpRefs slot intervalTimer
      totalTimer refType
    |>.markCancelled slot statusToUse

/-- `SerialTryToCompleteCurrent`. `finish` is `GetNextRequest` followed by `Starter`, or
`completeCurrent` where the source passes NULL for them. -/
def serialTryToCompleteCurrent (synchRoutine : Extension U → Extension U)
    (statusToUse : NtStatus) (slot : Slot) (intervalTimer totalTimer : Option TimerId)
    (finish : Extension U → Extension U) (refType : Ref) (e : Extension U) : Extension U :=
  match e.current slot with
  | none => e.crash
  | some _ =>
    (e.stopAgents synchRoutine statusToUse slot intervalTimer totalTimer refType)
      |>.completeIfUnreferenced slot statusToUse finish

/-- Runs `starter` if a request was fetched. -/
def startNew (slot : Slot) (starter : Extension U → Extension U) (e : Extension U) :
    Extension U :=
  if (e.current slot).isSome then starter e else e

/-- Sets a timer and, if it was not in the queue already, the reference bit that goes with it. -/
def setTimerWithReference (slot : Slot) (timer : TimerId) (ref : Ref) (e : Extension U) :
    Extension U :=
  if (e.serialSetTimer timer).1 then (e.serialSetTimer timer).2
  else (e.serialSetTimer timer).2.modifyCurrent slot (·.putReference true ref)

/-! ## `SerialStartOrQueue` -/

/-- The change of `TotalCharsQueued` a request stands for. -/
def charsQueued (r : Request) : Int :=
  match r.body with
  | .write _ => r.length
  | .immediateChar _ | .xoffCounter _ _ _ => 1
  | _ => 0

def addCharsQueued (n : Int) (e : Extension U) : Extension U :=
  { e with totalCharsQueued := e.totalCharsQueued + n }

/-- `WdfRequestForwardToIoQueue`, with the error path of its caller. -/
def forwardToIoQueue (r : Request) (q : QueueId) (e : Extension U) : Extension U :=
  if (e.queue q).accepting then
    e.putQueue q { e.queue q with waiting := (e.queue q).waiting ++ [r] }
  else e.serialCompleteRequest { r with status := .invalidDeviceState, information := 0 }

/-- `SerialStartOrQueue`. -/
def serialStartOrQueue (r : Request) (q : QueueId) (slot : Slot)
    (starter : Extension U → Extension U) (e : Extension U) : Extension U :=
  if e.isQueueEmpty q && (e.current slot).isNone then
    starter ((e.addCharsQueued (charsQueued r)).setCurrent slot (some r))
  else (e.addCharsQueued (charsQueued r)).forwardToIoQueue r q

/-- `SerialEvtCanceledOnQueue`. -/
def serialEvtCanceledOnQueue (r : Request) (e : Extension U) : Extension U :=
  (e.addCharsQueued (-charsQueued r)).serialCompleteRequest
    { r with status := .cancelled, information := 0 }

/-- `SerialCompleteIfError`: is the request to be refused? -/
def serialCompleteIfError (e : Extension U) : Bool :=
  e.handFlow.errorAbort && e.ev.errorWord != 0

/-! ## Purging -/

/-- The current request's own cancel routine is called, unless somebody else is cancelling it
already. -/
def cancelCurrent (slot : Slot) (cancelRoutine : Extension U → Extension U) (e : Extension U) :
    Extension U :=
  match e.current slot with
  | none => e
  | some r =>
    if (r.serialClearCancelRoutine false).1 && r.cancelRoutine then
      cancelRoutine (e.setCurrent slot (some (r.serialClearCancelRoutine false).2))
    else e.setCurrent slot (some (r.serialClearCancelRoutine false).2)

/-- `SerialPurgeRequests`. -/
def serialPurgeRequests (q : QueueId) (slot : Slot) (cancelRoutine : Extension U → Extension U)
    (e : Extension U) : Extension U :=
  (e.wdfIoQueuePurge q).cancelCurrent slot cancelRoutine

/-- `SerialFlushRequests`. -/
def serialFlushRequests (q : QueueId) (slot : Slot) (cancelRoutine : Extension U → Extension U)
    (e : Extension U) : Extension U :=
  (e.serialPurgeRequests q slot cancelRoutine).wdfIoQueueStart q

end Extension

end SerialFc
