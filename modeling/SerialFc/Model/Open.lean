import SerialFc.Model.Extension
import SerialFc.Lib.Run

/-!
# Opening and closing

What `SerialDeviceFileCreateWorker` acquires and `SerialFileCloseWorker` gives back: the receive
ring, a reference that keeps the device powered, and the marks that say the port is in use. The
framework lets one handle be open at a time.
-/

namespace SerialFc

open Lib

/-- `MmQuerySystemSize` -/
inductive SystemSize
  | large | medium | small
  deriving DecidableEq, Repr

/-- The sizes of a ring, one tried after the other. -/
def SystemSize.bufferSizes : SystemSize → List Nat
  | .large => [4096, 1024, 128]
  | .medium => [1024, 128]
  | .small => [128]

/-- What a creation meets: which sizes there is pool memory for, whether `WdfDeviceStopIdle`
succeeds, and whether the other driver of an FSCC card has the port. -/
structure CreateConditions where
  systemSize : SystemSize
  pool : Nat → Bool
  stopIdle : Bool
  openedInSync : Bool

inductive CreateStatus
  | success | insufficientResources | stopIdleFailure | notSupported
  deriving DecidableEq, Repr

/-- `ringsAllocated` and `powerReferences` count what the pool and the framework have given out,
`openHandles` the creations that succeeded and were not closed yet. -/
structure OpenState where
  card : CardType
  interruptReadBuffer : Option Nat
  bufferSize : Nat
  isBusy : Bool
  deviceIsOpened : Bool
  staticStopRemove : Bool
  ringsAllocated : Nat
  powerReferences : Int
  openHandles : Nat
  deriving DecidableEq, Repr

namespace OpenState

/-- Before the first creation. -/
def idle (card : CardType) : OpenState := ⟨card, none, 0, false, false, true, 0, 0, 0⟩

/-- The receive ring of a new handle; what the pointer was before is not looked at. -/
def allocateRing (c : CreateConditions) (p : OpenState) : OpenState :=
  match c.systemSize.bufferSizes.find? c.pool with
  | some size =>
    { p with
      interruptReadBuffer := some size
      bufferSize := size
      ringsAllocated := p.ringsAllocated + 1 }
  | none => { p with interruptReadBuffer := none, bufferSize := 128 }

/-- `SerialDeviceFileCreateWorker` -/
def serialDeviceFileCreateWorker (c : CreateConditions) (p : OpenState) : CreateStatus × OpenState :=
  let p := p.allocateRing c
  if p.interruptReadBuffer.isNone then (.insufficientResources, p)
  else if !c.stopIdle then (.stopIdleFailure, p)
  else
    let p := { p with powerReferences := p.powerReferences + 1, isBusy := true }
    if p.card = .fscc ∧ c.openedInSync = true then (.notSupported, p)
    else
      (.success, { p with
        staticStopRemove := false
        deviceIsOpened := true
        openHandles := p.openHandles + 1 })

/-- `SerialFileCloseWorker`; without interrupts, after a surprise removal, the hardware and its marks
are left alone. -/
def serialFileCloseWorker (connected : Bool) (p : OpenState) : OpenState :=
  let p := if connected then { p with deviceIsOpened := false, isBusy := false } else p
  let p := { p with
    bufferSize := 0
    ringsAllocated := if p.interruptReadBuffer.isSome then p.ringsAllocated - 1 else p.ringsAllocated
    interruptReadBuffer := none }
  { p with
    powerReferences := p.powerReferences - 1
    staticStopRemove := true
    openHandles := p.openHandles - 1 }

inductive Event
  | create (c : CreateConditions)
  | close (connected : Bool)

def step : Event → OpenState → Option OpenState
  | .create c, p =>
    if p.openHandles = 0 then some (p.serialDeviceFileCreateWorker c).2 else none
  | .close connected, p =>
    if p.openHandles ≠ 0 then some (p.serialFileCloseWorker connected) else none

end OpenState

end SerialFc
