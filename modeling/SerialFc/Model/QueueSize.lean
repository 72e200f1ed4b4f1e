import SerialFc.Model.Driver

/-!
# Requests for a larger ring

`IOCTL_SERIAL_SET_QUEUE_SIZE` allocates the new ring while it is in the context of the caller, and
sends the request through the read queue only then. The steps here are those of the driver, and the
same request with either outcome of the allocation.
-/

namespace SerialFc

open Extension

/-- The driver's steps, and a request to resize. -/
inductive ResizeLabel (Input : Type)
  | driver (l : Label Input)
  | setQueueSize (inSize : Nat) (memory : Bool)

namespace Extension

variable {U : Type} [Uart U]

/-- `IOCTL_SERIAL_SET_QUEUE_SIZE`; `memory` says what `ExAllocatePool2` finds. Without memory the
status is still that of the input buffer. -/
def ioctlSetQueueSizeWith (inSize : Nat) (memory : Bool) (e : Extension U) : Extension U :=
  e.accept (.setQueueSize inSize) 0 [] fun r e =>
    if inSize ≤ e.rx.bufferSize then e.refuse .success r
    else if !memory then e.refuse .success r
    else e.serialStartOrQueue r .readQueue .read serialStartRead

def resizeStep : ResizeLabel (Uart.Input U) → Extension U → Option (Extension U)
  | .driver l, e => e.step l
  | .setQueueSize inSize memory, e =>
    if e.bugcheck = false ∧ e.pc = .idle then some (e.ioctlSetQueueSizeWith inSize memory) else none

end Extension

end SerialFc
