import SerialFc.Model.Configure
import SerialFc.Model.Open
import Mathlib.Algebra.Group.Nat.Defs

/-!
# One handle after the other

The configuration outlives the handles. `SerialEvtDeviceAdd` sets it up, a creation brings a receive
ring with limits of its own and switches the escape character off, the requests of the handle change
what they are about, and a close leaves all of it but the ring. What the UART is left with when a
handle is opened or closed is open here.
-/

namespace SerialFc

variable {U : Type} [Uart U]

namespace Extension

/-- The end of `SerialResizeBuffer`: `numberMoved` characters are in the new buffer when
`SerialUpdateAndSwitchToNew` puts it in place of one that is smaller. -/
def serialResizeBuffer (numberMoved : Nat) (newBuffer : List UInt8) (e : Extension U) :
    Extension U :=
  if newBuffer.length ≤ e.rx.bufferSize then e
  else e.serialUpdateAndSwitchToNew numberMoved newBuffer

omit [Uart U] in
/-- The end of `SerialFileCloseWorker`. -/
def freeRing (uart : U) (e : Extension U) : Extension U :=
  { e with
    uart := uart
    rx := { e.rx with interruptReadBuffer := [], bufferSize := 0, rxHolding := .none }
    tx := { e.tx with txHolding := .none } }

omit [Uart U] in
/-- The receive ring of a creation that fails later on. -/
def sizeRing (size : Nat) (e : Extension U) : Extension U :=
  { e with rx := { e.rx with bufferSize := size } }

end Extension

namespace Machine

/-- `IOCTL_SERIAL_LSRMST_INSERT` -/
def controlLsrmstInsert (input : ControlInput) (m : Machine U) : Answer (Machine U) :=
  let escapeChar := input.byteAt 0
  if escapeChar ≠ 0 ∧ (escapeChar = m.ext.cfg.specialChars.xoffChar
      ∨ escapeChar = m.ext.cfg.specialChars.xonChar ∨ m.ext.handFlow.errorChar) then
    m.refuse .invalidParameter
  else (m.mapExt fun e => { e with cfg := { e.cfg with escapeChar := escapeChar } }).succeed

end Machine

/-- `resources` is what creations and closes have done; its `bufferSize` is that of the ring the
last creation got. -/
structure Lifetime (U : Type) where
  machine : Machine U
  resources : OpenState

inductive LifetimeLabel (U : Type)
  | create (c : CreateConditions) (uart : Fitted U)
  | setChars (input : ControlInput)
  | setHandFlow (input : ControlInput)
  | lsrmstInsert (input : ControlInput)
  | resize (numberMoved : Nat) (newBuffer : List UInt8)
  | close (connected : Bool) (uart : Fitted U)

/-- The size of a buffer is a `ULONG`. -/
def ulongLimit : Nat := 2 ^ 32

namespace Lifetime

/-- A handle is open. -/
def isOpen (l : Lifetime U) : Bool := l.resources.openHandles != 0

def ext (l : Lifetime U) : Extension (Fitted U) := l.machine.ext

def putExt (e : Extension (Fitted U)) (l : Lifetime U) : Lifetime U :=
  { l with machine := { l.machine with ext := e } }

/-- After `SerialEvtDeviceAdd` and `SerialEvtPrepareHardware`. -/
def added (uart : Fitted U) (cfg : Config) : Lifetime U where
  machine :=
    { ext := Extension.opened uart
        { cfg with
          handFlow := ⟨0x01, 0x40, 0, 0⟩
          specialChars := ⟨0x11, 0x13, 0, 0, 0⟩ } 0
      wmi := ⟨1200, 7, .even, .one, 0x11, 0x13⟩
      eofChar := 0 }
  resources := .idle cfg.cardType

/-- `SerialDeviceFileCreateWorker`. The limits and the escape character are set before the last
reason to fail. -/
def serialDeviceFileCreateWorker (c : CreateConditions) (uart : Fitted U) (l : Lifetime U) :
    Lifetime U :=
  let created := l.resources.serialDeviceFileCreateWorker c
  let size := created.2.bufferSize
  match created.1 with
  | .success | .notSupported =>
    { l.putExt (.opened uart l.ext.cfg size) with resources := created.2 }
  | .insufficientResources | .stopIdleFailure =>
    { l.putExt (l.ext.sizeRing size) with resources := created.2 }

/-- A request comes through an open handle, and is refused after an error that is to be cleared
first. -/
def request (control : Machine U → Answer (Machine U)) (l : Lifetime U) : Option (Lifetime U) :=
  if !l.isOpen then none
  else if l.ext.serialCompleteIfError then some l
  else
    match control l.machine with
    | .completed _ m | .started m => some { l with machine := m }
    | .fault => none

/-- `SerialFileCloseWorker` -/
def serialFileCloseWorker (connected : Bool) (uart : Fitted U) (l : Lifetime U) : Lifetime U :=
  { l.putExt (l.ext.freeRing uart) with resources := l.resources.serialFileCloseWorker connected }

def step (label : LifetimeLabel U) (l : Lifetime U) : Option (Lifetime U) :=
  match label with
  | .create c uart => if l.isOpen then none else some (l.serialDeviceFileCreateWorker c uart)
  | .setChars input => l.request (·.withInput 6 input (Machine.controlSetChars input))
  | .setHandFlow input => l.request (·.withInput 16 input (Machine.controlSetHandFlow input))
  | .lsrmstInsert input => l.request (·.withInput 1 input (Machine.controlLsrmstInsert input))
  | .resize numberMoved newBuffer =>
    if l.isOpen ∧ newBuffer.length < ulongLimit then
      some (l.putExt (l.ext.serialResizeBuffer numberMoved newBuffer))
    else none
  | .close connected uart =>
    if l.isOpen then some (l.serialFileCloseWorker connected uart) else none

end Lifetime

end SerialFc
