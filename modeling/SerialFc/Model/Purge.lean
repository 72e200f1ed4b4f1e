import SerialFc.Model.Read
import SerialFc.Model.Write

/-!
# Purges

`purge.c`, and `SerialCommError` of `error.c`, which aborts everything in the same way.
-/

namespace SerialFc

variable {U : Type} [Uart U]

namespace Extension

def abortWrites (e : Extension U) : Extension U :=
  e.serialFlushRequests .writeQueue .write serialCancelCurrentWrite

def abortXoff (e : Extension U) : Extension U :=
  e.serialFlushRequests .writeQueue .xoff serialCancelCurrentXoff

def abortReads (e : Extension U) : Extension U :=
  e.serialFlushRequests .readQueue .read serialCancelCurrentRead

def purgeTx (mask : UInt32) (e : Extension U) : Extension U :=
  if has32 mask purgeTxAbort then e.abortWrites.abortXoff else e

def purgeRx (mask : UInt32) (e : Extension U) : Extension U :=
  if has32 mask purgeRxAbort then e.abortReads else e

def purgeBuffer (mask : UInt32) (e : Extension U) : Extension U :=
  if has32 mask purgeRxClear then e.serialPurgeInterruptBuff else e

/-- What one purge request does. -/
def purge (r : Request) (e : Extension U) : Extension U :=
  match r.body with
  | .purge mask => ((e.purgeTx mask).purgeRx mask).purgeBuffer mask
  | _ => e

/-- One round of the loop of `SerialStartPurge`. -/
def startPurgeOne (e : Extension U) : Extension U :=
  match e.current .purge with
  | none => e.crash
  | some r =>
    ((e.purge r).modifyCurrent .purge fun r => { r with status := .success, information := 0 })
      |>.serialGetNextRequest .purge .purgeQueue true

def startPurgeLoop : Nat → Extension U → Extension U
  | 0, e => e
  | n + 1, e => e.startPurgeOne.startNew .purge (startPurgeLoop n)

/-- `SerialStartPurge`. The loop ends with the queue, if not before. -/
def serialStartPurge (e : Extension U) : Extension U :=
  startPurgeLoop ((e.queue .purgeQueue).waiting.length + 1) e

/-- `SerialCommError`. -/
def serialCommError (e : Extension U) : Extension U := e.abortWrites.abortReads

end Extension

end SerialFc
