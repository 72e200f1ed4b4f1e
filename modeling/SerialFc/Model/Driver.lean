import SerialFc.Model.Purge
import SerialFc.Model.WaitMask

/-!
# The driver as a step function

One step is one of these, in any order that the locks permit.

* the chip changes by itself, a timer expires, the clock moves, a sender cancels a request: always
* one pass of the ISR, or the next piece of a read that is being started: always
* a framework callback (I/O, DPC, timer, cancel): when no other callback is under way, since the
  framework runs them one at a time; `SerialStartRead` is the only one that the model cuts

A callback runs only if the framework has reason to call it (`enabled`).
-/

namespace SerialFc

variable {U : Type} [Uart U]

/-! ## Callbacks -/

inductive Callback
  | evtIoRead (length : Nat)
  | evtIoWrite (payload : List UInt8)
  | immediateChar (c : UInt8)
  | xoffCounter (timeout counter : Nat) (xoffChar : UInt8)
  | setQueueSize (inSize : Nat)
  | setWaitMask (mask : UInt32)
  | waitOnMask
  | purge (mask : UInt32)
  | setTimeouts (t : Timeouts)
  | setChars (chars : SpecialChars)
  | setHandFlow (h : HandFlow)
  | lsrmstInsert (escapeChar : UInt8)
  | setXon
  | setXoff
  | setBreakOn
  | setBreakOff
  | setDtr (b : Bool)
  | setRts (b : Bool)
  | getModemStatus
  | getCommStatus
  | flushStop
  | flushStart
  | dpc (d : DpcId)
  | timer (t : TimerId)
  | cancelRoutine (s : Slot)
  | cancelAbandoned (i : Nat)
  | canceledOnQueue (i : Nat)

namespace Extension

/-- May the framework call back now? `WdfIoQueueStopSynchronously` returns, and `SerialFlush` goes
on to start the queue, when the driver owns no request of the queue. -/
def enabled (e : Extension U) : Callback → Bool
  | .dpc d => e.dpc d
  | .timer t => (e.timer t).fired
  | .cancelRoutine s =>
    match e.current s with
    | some r => r.cancelable == .delivering
    | none => false
  | .cancelAbandoned i =>
    match e.abandoned[i]? with
    | some r => r.cancelable == .delivering
    | none => false
  | .canceledOnQueue i => i < e.canceledOnQueue.length
  | .flushStart => e.flushing != 0 && e.owned.all fun r => r.origin != some .writeQueue
  | _ => true

def takeId (e : Extension U) : Extension U := { e with nextId := e.nextId + 1 }

/-- A request reaches the driver: `SerialCompleteIfError` first. -/
def accept (body : Body) (length : Nat) (systemBuffer : List UInt8)
    (k : Request → Extension U → Extension U) (e : Extension U) : Extension U :=
  if e.serialCompleteIfError then
    e.takeId.serialCompleteRequest
      { Request.new e.nextId body length systemBuffer with status := .cancelled }
  else k (Request.new e.nextId body length systemBuffer) e.takeId

/-- The request is completed at once with `status`. -/
def refuse (status : NtStatus) (r : Request) (e : Extension U) : Extension U :=
  e.serialCompleteRequest { r with status := status }

/-- `SerialEvtIoRead`. There is no buffer to retrieve for an empty read. -/
def serialEvtIoRead (length : Nat) (e : Extension U) : Extension U :=
  e.accept .read length (List.replicate length 0) fun r e =>
    if length = 0 then e.refuse .bufferTooSmall r
    else e.serialStartOrQueue r .readQueue .read serialStartRead

/-- `SerialEvtIoWrite`. There is no buffer to retrieve for an empty write. -/
def serialEvtIoWrite (payload : List UInt8) (e : Extension U) : Extension U :=
  e.accept (.write payload) payload.length payload fun r e =>
    if payload.length = 0 then e.refuse .bufferTooSmall r
    else e.serialStartOrQueue r .writeQueue .write serialStartWrite

def ioctlImmediateChar (c : UInt8) (e : Extension U) : Extension U :=
  e.accept (.immediateChar c) 0 [c] fun r e =>
    if (e.current .immediate).isSome then e.refuse .invalidParameter r
    else ((e.setCurrent .immediate (some r)).addCharsQueued 1).serialStartImmediate c

def ioctlXoffCounter (timeout counter : Nat) (xoffChar : UInt8) (e : Extension U) :
    Extension U :=
  e.accept (.xoffCounter timeout counter xoffChar) 0 [] fun r e =>
    if counter = 0 then e.refuse .invalidParameter r
    else e.serialStartOrQueue r .writeQueue .write serialStartWrite

def ioctlSetQueueSize (inSize : Nat) (e : Extension U) : Extension U :=
  e.accept (.setQueueSize inSize) 0 [] fun r e =>
    if inSize ≤ e.rx.bufferSize then e.refuse .success r
    else e.serialStartOrQueue r .readQueue .read serialStartRead

def ioctlSetWaitMask (mask : UInt32) (e : Extension U) : Extension U :=
  e.accept (.setWaitMask mask) 0 [] fun r e =>
    if has32 mask (~~~evAll) then e.refuse .invalidParameter r
    else e.serialStartOrQueue r .maskQueue .mask serialStartMask

def ioctlWaitOnMask (e : Extension U) : Extension U :=
  e.accept .waitOnMask 0 [] fun r e =>
    e.serialStartOrQueue r .maskQueue .mask serialStartMask

def ioctlPurge (mask : UInt32) (e : Extension U) : Extension U :=
  e.accept (.purge mask) 0 [] fun r e =>
    if mask = 0 ∨ has32 mask (~~~purgeAll) then e.refuse .invalidParameter r
    else e.serialStartOrQueue r .purgeQueue .purge serialStartPurge

def ioctlSetTimeouts (t : Timeouts) (e : Extension U) : Extension U :=
  if t.readIntervalTimeout = maxUlong ∧ t.readTotalTimeoutMultiplier = maxUlong
      ∧ t.readTotalTimeoutConstant = maxUlong then e
  else { e with cfg := { e.cfg with timeouts := t } }

def ioctlSetChars (chars : SpecialChars) (e : Extension U) : Extension U :=
  if e.cfg.escapeChar ≠ 0 ∧
      (e.cfg.escapeChar = chars.xonChar ∨ e.cfg.escapeChar = chars.xoffChar) then e
  else { e with cfg := { e.cfg with specialChars := chars } }

/-- `SERIAL_CONTROL_INVALID` and `SERIAL_FLOW_INVALID`, both DTR modes at once, the limits, and no
error replacement while characters are escaped. -/
def handFlowRefused (h : HandFlow) (e : Extension U) : Bool :=
  has32 h.controlHandShake 0x7fffff84 || has32 h.flowReplace 0x7fffff20 || h.dtrMask == 0x03
    || h.xonLimit > e.rx.bufferSize || h.xoffLimit > e.rx.bufferSize
    || (e.cfg.escapeChar != 0 && h.errorChar)

def ioctlSetHandFlow (h : HandFlow) (e : Extension U) : Extension U :=
  if e.handFlowRefused h then e else e.serialSetHandFlow h

def ioctlLsrmstInsert (escapeChar : UInt8) (e : Extension U) : Extension U :=
  if escapeChar ≠ 0 ∧ (escapeChar = e.cfg.specialChars.xoffChar
      ∨ escapeChar = e.cfg.specialChars.xonChar ∨ e.handFlow.errorChar) then e
  else { e with cfg := { e.cfg with escapeChar := escapeChar } }

def ioctlSetDtr (b : Bool) (e : Extension U) : Extension U :=
  if e.handFlow.dtrHandshake then e else if b then e.serialSetDtr else e.serialClrDtr

def ioctlSetRts (b : Bool) (e : Extension U) : Extension U :=
  if e.handFlow.rtsHandshake || e.handFlow.transmitToggle then e
  else if b then e.serialSetRts else e.serialClrRts

/-- The requests an I/O control completes at once are not tracked. -/
def ioctlSimple (f : Extension U → Extension U) (e : Extension U) : Extension U :=
  if e.serialCompleteIfError then e else f e

/-- `SerialGetCommStatus` clears the error word. It is the one control allowed after an error. -/
def ioctlGetCommStatus (e : Extension U) : Extension U :=
  { e with ev := { e.ev with errorWord := 0 } }

/-! ## DPCs, timers, cancel routines -/

/-- `SerialStartTimerLowerRTS`. -/
def serialStartTimerLowerRts (e : Extension U) : Extension U :=
  if (e.serialSetTimer .lowerRts).1 then
    (e.serialSetTimer .lowerRts).2.addTryingToLowerRts (-1)
  else (e.serialSetTimer .lowerRts).2

def takeDpc (d : DpcId) (e : Extension U) : Extension U :=
  { e with dpc := Function.update e.dpc d false }

def dpcRoutine (e : Extension U) : DpcId → Extension U
  | .completeRead => e.serialCompleteRead
  | .completeWrite => e.serialCompleteWrite
  | .completeImmediate => e.serialCompleteImmediate
  | .commWait => e.serialCompleteWait
  | .xoffCountComplete => e.serialCompleteXoff
  | .commError => e.serialCommError
  | .startTimerLowerRts => e.serialStartTimerLowerRts

def runDpc (d : DpcId) (e : Extension U) : Extension U := (e.takeDpc d).dpcRoutine d

def takeTimer (t : TimerId) (e : Extension U) : Extension U :=
  { e with timer := Function.update e.timer t { e.timer t with fired := false } }

def timerRoutine (e : Extension U) : TimerId → Extension U
  | .readRequestTotal => e.serialReadTimeout
  | .readRequestInterval => e.serialIntervalReadTimeout
  | .writeRequestTotal => e.serialWriteTimeout
  | .immediateTotal => e.serialTimeoutImmediate
  | .xoffCount => e.serialTimeoutXoff
  | .lowerRts => e.serialPerhapsLowerRts

def runTimer (t : TimerId) (e : Extension U) : Extension U := (e.takeTimer t).timerRoutine t

def cancelRoutine (e : Extension U) : Slot → Extension U
  | .read => e.serialCancelCurrentRead
  | .write => e.serialCancelCurrentWrite
  | .immediate => e.serialCancelImmediate
  | .wait => e.serialCancelWait
  | .xoff => e.serialCancelCurrentXoff
  | .mask | .purge => e

/-- The cancel routine of the request in a slot. The framework's mark is gone when it runs. -/
def runCancelRoutine (s : Slot) (e : Extension U) : Extension U :=
  (e.modifyCurrent s fun r => { r with cancelable := .none }).cancelRoutine s

/-- The cancel routine of an XOFF counter that has lost its slot works on whatever request is
there now. -/
def runCancelAbandoned (i : Nat) (e : Extension U) : Extension U :=
  { e with abandoned := e.abandoned.modify i fun r => { r with cancelable := .none }
  }.serialCancelCurrentXoff

def runCanceledOnQueue (i : Nat) (e : Extension U) : Extension U :=
  match e.canceledOnQueue[i]? with
  | none => e
  | some r =>
    { e with canceledOnQueue := e.canceledOnQueue.eraseIdx i }.serialEvtCanceledOnQueue r

/-! ## Flush -/

def flushStop (e : Extension U) : Extension U :=
  { e.putQueue .writeQueue { e.queue .writeQueue with started := false } with
    flushing := e.flushing + 1 }

def flushStart (e : Extension U) : Extension U :=
  { e.wdfIoQueueStart .writeQueue with flushing := e.flushing - 1 }

def callback (e : Extension U) : Callback → Extension U
  | .evtIoRead n => e.serialEvtIoRead n
  | .evtIoWrite payload => e.serialEvtIoWrite payload
  | .immediateChar c => e.ioctlImmediateChar c
  | .xoffCounter t n c => e.ioctlXoffCounter t n c
  | .setQueueSize n => e.ioctlSetQueueSize n
  | .setWaitMask m => e.ioctlSetWaitMask m
  | .waitOnMask => e.ioctlWaitOnMask
  | .purge m => e.ioctlPurge m
  | .setTimeouts t => e.ioctlSimple (ioctlSetTimeouts t)
  | .setChars c => e.ioctlSimple (ioctlSetChars c)
  | .setHandFlow h => e.ioctlSimple (ioctlSetHandFlow h)
  | .lsrmstInsert c => e.ioctlSimple (ioctlLsrmstInsert c)
  | .setXon => e.ioctlSimple serialPretendXon
  | .setXoff => e.ioctlSimple serialPretendXoff
  | .setBreakOn => e.ioctlSimple serialTurnOnBreak
  | .setBreakOff => e.ioctlSimple serialTurnOffBreak
  | .setDtr b => e.ioctlSimple (ioctlSetDtr b)
  | .setRts b => e.ioctlSimple (ioctlSetRts b)
  | .getModemStatus => e.ioctlSimple fun e => (e.serialHandleModemUpdate false).2
  | .getCommStatus => e.ioctlGetCommStatus
  | .flushStop => e.flushStop
  | .flushStart => e.flushStart
  | .dpc d => e.runDpc d
  | .timer t => e.runTimer t
  | .cancelRoutine s => e.runCancelRoutine s
  | .cancelAbandoned i => e.runCancelAbandoned i
  | .canceledOnQueue i => e.runCanceledOnQueue i

end Extension

/-! ## Steps -/

inductive Label (Input : Type)
  | hardware (x : Input)
  | isr (fuel : Nat)
  | expire (t : TimerId)
  | tick (n : Nat)
  | cancel (s : Slot)
  | cancelAbandoned (i : Nat)
  | cancelWaiting (q : QueueId) (i : Nat)
  | readStep
  | callback (c : Callback)

namespace Request

/-- The sender cancels: a request that is marked cancelable gets its cancel routine called. -/
def markCanceled (r : Request) : Request :=
  { r with
    ioCanceled := true
    cancelable := if r.cancelable = .armed then .delivering else r.cancelable }

end Request

namespace Extension

/-- The sender of a waiting request cancels it. -/
def cancelWaiting (q : QueueId) (i : Nat) (e : Extension U) : Option (Extension U) :=
  (e.queue q).waiting[i]?.map fun r =>
    { e.putQueue q { e.queue q with waiting := (e.queue q).waiting.eraseIdx i } with
      canceledOnQueue := e.canceledOnQueue ++ [r] }

/-- One step. Nothing follows a bugcheck. -/
def step (l : Label (Uart.Input U)) (e : Extension U) : Option (Extension U) :=
  if e.bugcheck then none
  else
    match l with
    | .hardware x => some { e with uart := Uart.evolve x e.uart }
    | .isr fuel => e.serialIsr fuel
    | .expire t =>
      if (e.timer t).queued then some { e with timer := Function.update e.timer t ⟨false, true⟩ }
      else none
    | .tick n => some { e with clock := e.clock + n }
    | .cancel s =>
      (e.current s).map fun r => e.setCurrent s (some r.markCanceled)
    | .cancelAbandoned i => some { e with abandoned := e.abandoned.modify i (·.markCanceled) }
    | .cancelWaiting q i => e.cancelWaiting q i
    | .readStep => if e.pc = .idle then none else some e.serialStartReadStep
    | .callback c => if e.pc = .idle ∧ e.enabled c then some (e.callback c) else none

/-- What each step does, and when it can be taken. -/
inductive Fires (e : Extension U) : Label (Uart.Input U) → Extension U → Prop
  | hardware (x : Uart.Input U) : Fires e (.hardware x) { e with uart := Uart.evolve x e.uart }
  | isr {fuel : Nat} {e' : Extension U} (hisr : e.serialIsr fuel = some e') :
    Fires e (.isr fuel) e'
  | expire {t : TimerId} (hqueued : (e.timer t).queued = true) :
    Fires e (.expire t) { e with timer := Function.update e.timer t ⟨false, true⟩ }
  | tick (n : Nat) : Fires e (.tick n) { e with clock := e.clock + n }
  | cancel {s : Slot} {r : Request} (hr : e.current s = some r) :
    Fires e (.cancel s) (e.setCurrent s (some r.markCanceled))
  | cancelAbandoned (i : Nat) :
    Fires e (.cancelAbandoned i) { e with abandoned := e.abandoned.modify i (·.markCanceled) }
  | cancelWaiting {q : QueueId} {i : Nat} {r : Request} (hr : (e.queue q).waiting[i]? = some r) :
    Fires e (.cancelWaiting q i)
      { e.putQueue q { e.queue q with waiting := (e.queue q).waiting.eraseIdx i } with
        canceledOnQueue := e.canceledOnQueue ++ [r] }
  | readStep (hpc : e.pc ≠ .idle) : Fires e .readStep e.serialStartReadStep
  | callback {c : Callback} (hpc : e.pc = .idle) (hc : e.enabled c = true) :
    Fires e (.callback c) (e.callback c)

theorem fires_of_step {l : Label (Uart.Input U)} {e e' : Extension U} (h : step l e = some e') :
    e.Fires l e' := by
  unfold step at h
  split at h
  · cases h
  cases l with
  | hardware x =>
    cases h
    exact .hardware x
  | isr fuel => exact .isr h
  | expire t =>
    obtain ⟨hqueued, ⟨⟩⟩ := Option.ite_none_right_eq_some.mp h
    exact .expire hqueued
  | tick n =>
    cases h
    exact .tick n
  | cancel s =>
    obtain ⟨r, hr, rfl⟩ := Option.map_eq_some_iff.mp h
    exact .cancel hr
  | cancelAbandoned i =>
    cases h
    exact .cancelAbandoned i
  | cancelWaiting q i =>
    obtain ⟨r, hr, rfl⟩ := Option.map_eq_some_iff.mp h
    exact .cancelWaiting hr
  | readStep =>
    obtain ⟨hpc, ⟨⟩⟩ := Option.ite_none_left_eq_some.mp h
    exact .readStep hpc
  | callback c =>
    obtain ⟨⟨hpc, hc⟩, ⟨⟩⟩ := Option.ite_none_right_eq_some.mp h
    exact .callback hpc hc

/-- No read is being started when the framework calls back. -/
theorem callback_of_step {c : Callback} {e e' : Extension U}
    (h : step (.callback c) e = some e') :
    e.pc = .idle ∧ e.enabled c = true ∧ e' = e.callback c := by
  cases fires_of_step h with
  | callback hpc hc => exact ⟨hpc, hc, rfl⟩

/-- The port as `SerialDeviceFileCreateWorker` leaves it, with an interrupt buffer of `size`. -/
def opened (u : U) (cfg : Config) (size : Nat) : Extension U where
  uart := u
  cfg := { cfg with
    escapeChar := 0
    handFlow := { cfg.handFlow with xoffLimit := size / 8, xonLimit := size / 2 } }
  rx :=
    { interruptReadBuffer := List.replicate size 0
      bufferSize := size
      bufferSizePt8 := 3 * (size / 4) + size / 16
      readBufferBase := .ring
      firstReadableChar := 0
      currentCharSlot := 0
      lastCharSlot := size - 1
      charsInInterruptBuffer := 0
      numberNeededForRead := 0
      readByIsr := 0
      countOnLastRead := 0
      lastReadTime := 0
      intervalTime := 0
      rxHolding := .none }
  tx :=
    { writeLength := 0
      writeCurrentChar := []
      transmitImmediate := false
      immediateChar := 0
      sendXonChar := false
      sendXoffChar := false
      txHolding := .none
      holdingEmpty := true
      emptiedTransmit := false
      countSinceXoff := 0
      countOfTryingToLowerRts := 0 }
  ev :=
    { isrWaitMask := 0
      historyMask := 0
      irpMaskLocation := false
      errorWord := 0
      receivedCount := 0
      transmittedCount := 0
      serialOverrunErrorCount := 0
      bufferOverrunErrorCount := 0
      parityErrorCount := 0
      frameErrorCount := 0 }
  current := fun _ => none
  timer := fun _ => .off
  dpc := fun _ => false
  queue := fun _ => .empty
  flushing := 0
  canceledOnQueue := []
  abandoned := []
  done := []
  nextId := 0
  totalCharsQueued := 0
  clock := 0
  pc := .idle
  bugcheck := false
  wire := []
  stream := []

end Extension

end SerialFc
