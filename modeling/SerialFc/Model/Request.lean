import SerialFc.Model.Flags

/-!
# Requests, timers and queues of the framework

`REQUEST_CONTEXT` together with what the framework keeps about the request, and the two framework
objects the driver relies on.

* a request is marked cancelable or not; once its cancellation is being delivered, unmarking fails
* a timer is in the timer queue, or has expired with its callback still to run, or neither
* a manual queue holds waiting requests and hands them out while it is started
-/

namespace SerialFc

inductive NtStatus
  | success | pending | cancelled | timeout | invalidParameter | invalidDeviceState
  | bufferTooSmall | serialMoreWrites | serialCounterTimeout
  deriving DecidableEq, Repr

/-! ## Reference bits -/

/-- The values of `RefType`. -/
inductive Ref
  | isr | cancel | totalTimer | intTimer | xoffRef
  deriving DecidableEq, Repr

/-- `RefCount`, one flag for each `SERIAL_REF_*` bit. -/
structure RefCount where
  isr : Bool
  cancel : Bool
  totalTimer : Bool
  intTimer : Bool
  xoffRef : Bool
  deriving DecidableEq, Repr

namespace RefCount

/-- `SERIAL_INIT_REFERENCE`. -/
def zero : RefCount := ⟨false, false, false, false, false⟩

/-- `SERIAL_SET_REFERENCE` (with `true`) and `SERIAL_CLEAR_REFERENCE` (with `false`). -/
def put (c : RefCount) (b : Bool) : Ref → RefCount
  | .isr => { c with isr := b }
  | .cancel => { c with cancel := b }
  | .totalTimer => { c with totalTimer := b }
  | .intTimer => { c with intTimer := b }
  | .xoffRef => { c with xoffRef := b }

/-- `SERIAL_REFERENCE_COUNT(..) == 0`. -/
def isZero (c : RefCount) : Bool :=
  !(c.isr || c.cancel || c.totalTimer || c.intTimer || c.xoffRef)

end RefCount

/-! ## Queues, slots, timers -/

inductive QueueId
  | readQueue | writeQueue | maskQueue | purgeQueue
  deriving DecidableEq, Repr

/-- The `Current..Request` fields of the extension. -/
inductive Slot
  | read | write | mask | purge | wait | immediate | xoff
  deriving DecidableEq, Repr

inductive TimerId
  | readRequestTotal | readRequestInterval | writeRequestTotal | immediateTotal | xoffCount
  | lowerRts
  deriving DecidableEq, Repr

inductive DpcId
  | completeRead | completeWrite | completeImmediate | commWait | xoffCountComplete
  | commError | startTimerLowerRts
  deriving DecidableEq, Repr

structure Timer where
  /-- The timer is in the system's timer queue. -/
  queued : Bool
  /-- It has expired and its callback has not run yet. -/
  fired : Bool
  deriving DecidableEq, Repr

/-- A timer whose callback can still run. -/
def Timer.live (t : Timer) : Bool := t.queued || t.fired

def Timer.off : Timer := ⟨false, false⟩

/-! ## Requests -/

/-- Major function, control code and input of a request. -/
inductive Body
  | read
  | write (payload : List UInt8)
  | immediateChar (c : UInt8)
  | xoffCounter (timeout : Nat) (counter : Nat) (xoffChar : UInt8)
  | setQueueSize (inSize : Nat)
  | setWaitMask (mask : UInt32)
  | waitOnMask
  | purge (mask : UInt32)
  deriving DecidableEq, Repr

/-- How far the cancellation of a request has come: `armed` after
`WdfRequestMarkCancelable`, `delivering` once the framework has taken the cancel routine to call
it, `none` before, and after the routine has run or was unmarked. -/
inductive Cancelable
  | none | armed | delivering
  deriving DecidableEq, Repr

structure Request where
  id : Nat
  body : Body
  /-- The manual queue the driver retrieved the request from, if any. -/
  origin : Option QueueId
  length : Nat
  systemBuffer : List UInt8
  information : Nat
  status : NtStatus
  refCount : RefCount
  /-- `CancelRoutine != NULL`. -/
  cancelRoutine : Bool
  cancelled : Bool
  cancelable : Cancelable
  /-- The request has been cancelled by its sender. -/
  ioCanceled : Bool
  /-- The event word put in a wait-on-mask request's buffer. -/
  eventMask : Option UInt32
  deriving DecidableEq, Repr

namespace Request

/-- A request as the framework delivers it. -/
def new (id : Nat) (body : Body) (length : Nat) (systemBuffer : List UInt8) : Request where
  id := id
  body := body
  origin := none
  length := length
  systemBuffer := systemBuffer
  information := 0
  status := .success
  refCount := .zero
  cancelRoutine := false
  cancelled := false
  cancelable := .none
  ioCanceled := false
  eventMask := none

/-- `MajorFunction == IRP_MJ_READ`. -/
def isRead (r : Request) : Bool := r.body == .read

/-- `MajorFunction == IRP_MJ_WRITE`. -/
def isWrite (r : Request) : Bool :=
  match r.body with
  | .write _ => true
  | _ => false

def putReference (b : Bool) (ref : Ref) (r : Request) : Request :=
  { r with refCount := r.refCount.put b ref }

/-- `SerialSetCancelRoutine`. Marking a request that was already cancelled hands its cancel
routine to the framework at once. -/
def serialSetCancelRoutine (r : Request) : Request :=
  { r with
    cancelable := if r.ioCanceled then .delivering else .armed
    refCount := r.refCount.put true .cancel
    cancelRoutine := true }

/-- `SerialClearCancelRoutine`, with the status it returns (`true` for success). -/
def serialClearCancelRoutine (clearReference : Bool) (r : Request) : Bool × Request :=
  if r.refCount.cancel then
    if r.cancelable = .delivering then (false, r)
    else
      (true, { r with
        cancelable := .none
        cancelRoutine := false
        refCount := if clearReference then r.refCount.put false .cancel else r.refCount })
  else (true, r)

end Request

/-- A manual I/O queue. -/
structure IoQueue where
  waiting : List Request
  accepting : Bool
  started : Bool
  deriving DecidableEq, Repr

def IoQueue.empty : IoQueue := ⟨[], true, true⟩

end SerialFc
