import SerialFc.Lib.Pool
import SerialFc.Lib.Run

/-!
# Writes and flushes

Which write is current, which wait in `WriteQueue`, and what `SerialFlush` waits for. The framework
counts a request as retrieved from `WriteQueue` only if `SerialGetNextRequest` took it from there; a
write that `SerialStartOrQueue` starts comes from the default queue.

The callbacks run one at a time. `SerialFlush` is not one of them: others may run while
`WdfIoQueueStopSynchronously` waits.
-/

namespace SerialFc

open Lib

/-- `writeLength` is what is left to send. -/
structure WriteRequest where
  number : Nat
  writeLength : Nat
  retrieved : Bool
  deriving DecidableEq, Repr

/-- The writes have numbers of a pool, in the order in which they come; a write that is completed
gives its number back. `flushes` has one entry for every `SerialFlush` that waits: the writes with
lower numbers were submitted before it. -/
structure FlushState where
  writeQueue : List WriteRequest
  stopped : Bool
  currentWriteRequest : Option WriteRequest
  flushes : List Nat
  writes : Pool
  deriving DecidableEq, Repr

namespace FlushState

def idle : FlushState := ⟨[], false, none, [], .empty⟩

/-- `SerialStartOrQueue` for a write. The queue takes requests while it is stopped. -/
def serialStartOrQueue (length : Nat) (s : FlushState) : FlushState :=
  let request := ⟨s.writes.alloc.1, length, false⟩
  if s.writeQueue = [] ∧ s.currentWriteRequest = none then
    { s with currentWriteRequest := some request, writes := s.writes.alloc.2 }
  else { s with writeQueue := s.writeQueue ++ [request], writes := s.writes.alloc.2 }

/-- `WdfIoQueueRetrieveNextRequest`. A stopped queue has no more entries. -/
def retrieveNextRequest (s : FlushState) : FlushState :=
  match s.stopped, s.writeQueue with
  | false, next :: waiting =>
    { s with currentWriteRequest := some { next with retrieved := true }, writeQueue := waiting }
  | _, _ => { s with currentWriteRequest := none }

def complete (request : WriteRequest) (s : FlushState) : FlushState :=
  { s with writes := s.writes.free (some request.number) }

/-- `SerialGetNextRequest`, with the old request completed. -/
def serialGetNextRequest (s : FlushState) : FlushState :=
  match s.currentWriteRequest with
  | none => s.retrieveNextRequest
  | some old => s.retrieveNextRequest.complete old

/-- A transmit interrupt sends some of the current write. -/
def transmit (amountToWrite : Nat) (s : FlushState) : FlushState :=
  { s with
    currentWriteRequest := s.currentWriteRequest.map fun w =>
      { w with writeLength := w.writeLength - amountToWrite } }

/-- Does the driver have a request that it retrieved from `WriteQueue`? -/
def ownsRetrieved (s : FlushState) : Bool :=
  s.currentWriteRequest.any WriteRequest.retrieved

inductive Event
  | write (length : Nat)
  | transmit (amountToWrite : Nat)
  /-- `SerialCompleteWrite`: everything was sent. -/
  | completeWrite
  /-- The current write is cancelled or times out. -/
  | cancelCurrent
  /-- The write that waits in place `i` is cancelled. -/
  | cancelQueued (i : Nat)
  /-- `SerialFlush` calls `WdfIoQueueStopSynchronously`. -/
  | flushStop
  /-- In the `i`th flush that call returns; it starts the queue and completes its request. -/
  | flushStart (i : Nat)
  deriving DecidableEq, Repr

def step : Event → FlushState → Option FlushState
  | .write length, s => some (s.serialStartOrQueue length)
  | .transmit amountToWrite, s => some (s.transmit amountToWrite)
  | .completeWrite, s =>
    if s.currentWriteRequest.any (·.writeLength == 0) then some s.serialGetNextRequest else none
  | .cancelCurrent, s =>
    if s.currentWriteRequest.isSome then some s.serialGetNextRequest else none
  | .cancelQueued i, s =>
    s.writeQueue[i]?.map fun w => { s with writeQueue := s.writeQueue.eraseIdx i }.complete w
  | .flushStop, s => some { s with stopped := true, flushes := s.flushes ++ [s.writes.allocated] }
  | .flushStart i, s =>
    if i < s.flushes.length ∧ s.ownsRetrieved = false then
      some { s with stopped := false, flushes := s.flushes.eraseIdx i }
    else none

end FlushState

end SerialFc
