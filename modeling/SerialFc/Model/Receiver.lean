import SerialFc.Model.Uart

/-!
# A receive FIFO with its line status

`Receiver U` puts a receive FIFO in front of a chip `U`. Each frame carries its own errors, which
LSR shows while the frame is at the head and which a read of LSR clears. Frames arrive while the
driver works: the next batch of `arrivals` is there when RBR, LSR or IIR is read, which is the only
way to find out. No other interrupt is raised; all other registers are those of `U`.
-/

namespace SerialFc

/-- A frame as it comes in, with what was wrong about it. -/
structure ReceivedFrame where
  data : UInt8
  overrun : Bool
  parity : Bool
  framing : Bool
  deriving DecidableEq, Repr

/-- The errors of a frame as LSR shows them. -/
def lineErrors (overrun parity framing : Bool) : UInt8 :=
  (if overrun then lsrOe else 0) ||| (if parity then lsrPe else 0)
    ||| (if framing then lsrFe else 0)

namespace ReceivedFrame

/-- Some error belongs to the frame. -/
def flagged (f : ReceivedFrame) : Bool := f.overrun || f.parity || f.framing

/-- Its errors, in the bits of LSR. -/
def flags (f : ReceivedFrame) : UInt8 := lineErrors f.overrun f.parity f.framing

end ReceivedFrame

/-- `seen` says that LSR was read while the head was where it is, `reads` is a record of what each
read of RBR took. From `trigger` frames on, the interrupt for data is no timeout. -/
structure ReceiveFifo where
  frames : List ReceivedFrame
  seen : Bool
  trigger : Nat
  arrivals : List (List ReceivedFrame)
  reads : List (Option ReceivedFrame)
  deriving DecidableEq, Repr

namespace ReceiveFifo

/-- Nothing has been read, and the head has not been looked at. -/
def start (frames : List ReceivedFrame) (trigger : Nat) (arrivals : List (List ReceivedFrame)) :
    ReceiveFifo := ⟨frames, false, trigger, arrivals, []⟩

/-- The frames that are there by now. An empty batch lets nothing arrive. -/
def arrive (r : ReceiveFifo) : ReceiveFifo :=
  { r with frames := r.frames ++ r.arrivals.headD [], arrivals := r.arrivals.tail }

/-- LSR, if it is read now: data, and the errors of the head unless they were seen. -/
def lineStatus (r : ReceiveFifo) : UInt8 :=
  match r.frames with
  | [] => 0
  | f :: _ => lsrDr ||| (if r.seen then 0 else f.flags)

/-- IIR, if it is read now. Errors come before data, and data comes before a timeout. -/
def interruptId (r : ReceiveFifo) : UInt8 :=
  match r.frames with
  | [] => iirNoInterruptPending
  | f :: _ =>
    if f.flagged && !r.seen then iirRls
    else if r.trigger ≤ r.frames.length then iirRda
    else iirCti

/-- The errors of the head are gone after that. -/
def readLsr (r : ReceiveFifo) : UInt8 × ReceiveFifo :=
  (r.arrive.lineStatus, { r.arrive with seen := !r.arrive.frames.isEmpty })

def readIir (r : ReceiveFifo) : UInt8 × ReceiveFifo := (r.arrive.interruptId, r.arrive)

/-- The head is taken. The next one shows its errors again. -/
def pop (r : ReceiveFifo) : Option ReceivedFrame × ReceiveFifo :=
  match r.frames with
  | [] => (none, { r with reads := r.reads ++ [none] })
  | f :: frames => (some f, { r with frames, seen := false, reads := r.reads ++ [some f] })

/-- RBR -/
def readData (r : ReceiveFifo) : Option ReceivedFrame × ReceiveFifo := r.arrive.pop

end ReceiveFifo

/-- The chip that sends, and the FIFO that receives. -/
structure Receiver (U : Type) where
  chip : U
  receive : ReceiveFifo

namespace Receiver

variable {U : Type} [Uart U]

/-- An empty FIFO shows what `U` has in RBR. -/
def read : Reg → Receiver U → UInt8 × Receiver U
  | .data, r => (r.receive.readData.1.elim (Uart.read .data r.chip).1 ReceivedFrame.data,
      { r with receive := r.receive.readData.2 })
  | .lsr, r => (r.receive.readLsr.1, { r with receive := r.receive.readLsr.2 })
  | .iir, r => (r.receive.readIir.1, { r with receive := r.receive.readIir.2 })
  | reg, r => ((Uart.read reg r.chip).1, { r with chip := (Uart.read reg r.chip).2 })

instance : Uart (Receiver U) where
  Input := Uart.Input U
  evolve x r := { r with chip := Uart.evolve x r.chip }
  read := read
  write reg v r := { r with chip := Uart.write reg v r.chip }
  modemChanges r := Uart.modemChanges r.chip
  modemChanges_read_msr r h := Uart.modemChanges_read_msr r.chip h
  modemChanges_read reg r := by
    cases reg with
    | data | lsr | iir => exact Nat.le_refl _
    | _ => exact Uart.modemChanges_read _ r.chip
  modemChanges_write reg v r := Uart.modemChanges_write reg v r.chip

end Receiver

end SerialFc
