import SerialFc.Model.Open
import SerialFc.Lib.Pool

/-!
# The receive ring and its successors

Who has which pool buffer: `IOCTL_SERIAL_SET_QUEUE_SIZE` allocates the new ring and sends it through
the read queue in the context of its request, `SerialResizeBuffer` puts it in place of the old one,
and `SerialEvtCanceledOnQueue` is told when a request leaves the queue in another way. The bytes in
the buffers are not looked at here.
-/

namespace SerialFc

open Lib

/-- The control codes that `SerialStartOrQueue` and `SerialEvtCanceledOnQueue` tell apart. -/
inductive ControlCode
  | setQueueSize | immediateChar | xoffCounter
  deriving DecidableEq, Repr

/-- A request of the read queue and its context. A read has no control code; `ioctlCode` is what the
context says, and a context starts out as zeroes. -/
structure ReadRequest where
  ioControlCode : Option ControlCode
  ioctlCode : Option ControlCode
  inSize : Nat
  type3InputBuffer : Option Nat
  deriving DecidableEq, Repr

namespace ReadRequest

def read : ReadRequest := ⟨none, none, 0, none⟩

def setQueueSize (inSize newBuffer : Nat) : ReadRequest :=
  ⟨some .setQueueSize, none, inSize, some newBuffer⟩

/-- `MajorFunction == IRP_MJ_READ` -/
def isRead (r : ReadRequest) : Bool := r.ioControlCode.isNone

/-- `SerialStartOrQueue` notes the control code of the requests that count as characters. -/
def noteIoctlCode (r : ReadRequest) : ReadRequest :=
  if r.ioControlCode = some .immediateChar ∨ r.ioControlCode = some .xoffCounter then
    { r with ioctlCode := r.ioControlCode }
  else r

end ReadRequest

/-- `accepting` says whether `ReadQueue` takes requests: not from a purge until it is started. -/
structure RingState where
  interruptReadBuffer : Option Nat
  bufferSize : Nat
  readQueue : List ReadRequest
  accepting : Bool
  currentReadRequest : Option ReadRequest
  pool : Pool
  deriving DecidableEq, Repr

namespace RingState

/-- Before the port is opened. -/
def closed : RingState := ⟨none, 0, [], true, none, .empty⟩

def exFreePool (b : Option Nat) (s : RingState) : RingState := { s with pool := s.pool.free b }

/-- `SerialResizeBuffer`. No request makes the ring smaller. -/
def serialResizeBuffer (r : ReadRequest) (s : RingState) : RingState :=
  if r.inSize ≤ s.bufferSize then s.exFreePool r.type3InputBuffer
  else
    { s with
      interruptReadBuffer := r.type3InputBuffer
      bufferSize := r.inSize }.exFreePool s.interruptReadBuffer

/-- `SerialStartRead` with the requests that wait. A resize is over at once and the next request
is started; a read stays until `completeRead`, which may follow directly. -/
def serialStartRead : List ReadRequest → ReadRequest → RingState → RingState
  | [], r, s =>
    if r.isRead then { s with readQueue := [], currentReadRequest := some r }
    else { s.serialResizeBuffer r with readQueue := [], currentReadRequest := none }
  | next :: waiting, r, s =>
    if r.isRead then { s with readQueue := next :: waiting, currentReadRequest := some r }
    else serialStartRead waiting next (s.serialResizeBuffer r)

/-- `SerialStartOrQueue`. A request that the queue does not take is completed with an error. -/
def serialStartOrQueue (r : ReadRequest) (s : RingState) : RingState :=
  if s.readQueue = [] ∧ s.currentReadRequest = none then serialStartRead [] r.noteIoctlCode s
  else if s.accepting then { s with readQueue := s.readQueue ++ [r.noteIoctlCode] }
  else s

/-- `IOCTL_SERIAL_SET_QUEUE_SIZE`; `memory` says whether there is pool memory. -/
def ioctlSetQueueSize (inSize : Nat) (memory : Bool) (s : RingState) : RingState :=
  if inSize ≤ s.bufferSize then s
  else if !memory then s
  else { s with pool := s.pool.alloc.2 }.serialStartOrQueue (.setQueueSize inSize s.pool.alloc.1)

/-- `SerialEvtCanceledOnQueue`. A read has nothing to give back. -/
def serialEvtCanceledOnQueue (r : ReadRequest) (s : RingState) : RingState :=
  if r.isRead then s
  else if r.ioctlCode = some .setQueueSize then s.exFreePool r.type3InputBuffer
  else s

/-- `SerialGetNextRequest` and the starter: the current read is complete. -/
def serialCompleteRead (s : RingState) : RingState :=
  match s.readQueue with
  | [] => { s with currentReadRequest := none }
  | next :: waiting => serialStartRead waiting next s

/-- The receive ring of a new handle. -/
def create (size : Nat) (s : RingState) : RingState :=
  { s with
    interruptReadBuffer := some s.pool.alloc.1
    bufferSize := size
    pool := s.pool.alloc.2 }

/-- The end of `SerialFileCloseWorker`. -/
def serialFileCloseWorker (s : RingState) : RingState :=
  { s with bufferSize := 0, interruptReadBuffer := none }.exFreePool s.interruptReadBuffer

inductive Event
  | create (size : Nat)
  | read
  | setQueueSize (inSize : Nat) (memory : Bool)
  /-- The current read gets its characters, times out or is cancelled. -/
  | completeRead
  /-- The request that waits in place `i` is cancelled. -/
  | cancelQueued (i : Nat)
  /-- `WdfIoQueuePurge` of `SerialPurgeRequests`. -/
  | purge
  /-- `WdfIoQueueStart` of `SerialFlushRequests`. -/
  | start
  | close
  deriving DecidableEq, Repr

/-- Requests come in while a handle is open, and a handle is closed once they are complete. -/
def step : Event → RingState → Option RingState
  | .create size, s => if s.interruptReadBuffer = none then some (s.create size) else none
  | .read, s => if s.interruptReadBuffer ≠ none then some (s.serialStartOrQueue .read) else none
  | .setQueueSize inSize memory, s =>
    if s.interruptReadBuffer ≠ none then some (s.ioctlSetQueueSize inSize memory) else none
  | .completeRead, s =>
    if s.currentReadRequest ≠ none then some s.serialCompleteRead else none
  | .cancelQueued i, s =>
    s.readQueue[i]?.map fun r =>
      { s with readQueue := s.readQueue.eraseIdx i }.serialEvtCanceledOnQueue r
  | .purge, s =>
    some (s.readQueue.foldl (fun s r => s.serialEvtCanceledOnQueue r)
      { s with readQueue := [], accepting := false })
  | .start, s => some { s with accepting := true }
  | .close, s =>
    if s.interruptReadBuffer ≠ none ∧ s.readQueue = [] ∧ s.currentReadRequest = none then
      some s.serialFileCloseWorker
    else none

end RingState

end SerialFc
