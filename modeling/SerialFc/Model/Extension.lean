import SerialFc.Lib.Fifo
import SerialFc.Model.Uart
import SerialFc.Model.Request
import Mathlib.Logic.Function.Basic

/-!
# The device extension

The state of one opened port: the fields of `SERIAL_DEVICE_EXTENSION` that the modelled code
reads or writes, grouped by what they are about, the requests and framework objects it owns, and
how far `SerialStartRead` has come (it is the one routine whose pieces the ISR may cut).

Two fields are only a record of what happened and are read by no operation: `wire` lists what was
written to the transmit holding register, `stream` what happened to the received bytes.
-/

namespace SerialFc

open Lib

/-! ## Groups of fields -/

inductive CardType
  | pci | pcie | fscc | other
  deriving DecidableEq, Repr

/-- What only the I/O controls change. -/
structure Config where
  cardType : CardType
  fifoPresent : Bool
  txFifoAmount : Nat
  nineBit : Bool
  validDataMask : UInt8
  uartRemovalDetect : Bool
  acr : UInt8
  escapeChar : UInt8
  handFlow : HandFlow
  specialChars : SpecialChars
  timeouts : Timeouts
  deriving DecidableEq, Repr

/-- A port with a FIFO, no handshaking and no timeouts. -/
def Config.plain : Config where
  cardType := .other
  fifoPresent := true
  txFifoAmount := 16
  nineBit := false
  validDataMask := 0xff
  uartRemovalDetect := false
  acr := 0
  escapeChar := 0
  handFlow := ⟨0, 0, 0, 0⟩
  specialChars := ⟨0x11, 0x13, 0, 0, 0⟩
  timeouts := ⟨0, 0, 0, 0, 0⟩

/-- What `ReadBufferBase` points to. -/
inductive Base
  | ring | user
  deriving DecidableEq, Repr

/-- The receive side. `firstReadableChar` is an offset in the interrupt buffer; `currentCharSlot`
and `lastCharSlot` are offsets in the buffer `readBufferBase` points to. -/
structure Rx where
  interruptReadBuffer : List UInt8
  bufferSize : Nat
  bufferSizePt8 : Nat
  readBufferBase : Base
  firstReadableChar : Nat
  currentCharSlot : Nat
  lastCharSlot : Nat
  charsInInterruptBuffer : Nat
  numberNeededForRead : Nat
  readByIsr : Nat
  countOnLastRead : Int
  lastReadTime : Nat
  intervalTime : Nat
  rxHolding : RxHolding
  deriving DecidableEq, Repr

/-- The transmit side. `writeCurrentChar` is the memory from the pointer on. -/
structure Tx where
  writeLength : Nat
  writeCurrentChar : List UInt8
  transmitImmediate : Bool
  immediateChar : UInt8
  sendXonChar : Bool
  sendXoffChar : Bool
  txHolding : TxHolding
  holdingEmpty : Bool
  emptiedTransmit : Bool
  countSinceXoff : Nat
  countOfTryingToLowerRts : Int
  deriving DecidableEq, Repr

/-- Wait-mask events, errors and counters. `irpMaskLocation` tells whether the pointer is set; it
then points into the buffer of the current wait request. -/
structure Events where
  isrWaitMask : UInt32
  historyMask : UInt32
  irpMaskLocation : Bool
  errorWord : UInt32
  receivedCount : Nat
  transmittedCount : Nat
  serialOverrunErrorCount : Nat
  bufferOverrunErrorCount : Nat
  parityErrorCount : Nat
  frameErrorCount : Nat
  deriving DecidableEq, Repr

/-! ## Where `SerialStartRead` stands -/

/-- The local flags of `SerialStartRead`. -/
structure ReadStart where
  returnWithWhatsPresent : Bool
  os2ssreturn : Bool
  crunchDownToOne : Bool
  useTotalTimer : Bool
  useIntervalTimer : Bool
  deriving DecidableEq, Repr

/-- The next piece of `SerialStartRead` (or of `SerialResizeBuffer` inside it) to run. The numbers
are the local variables of the copy loops. -/
inductive ReadPc
  | idle
  | start
  | sample (l : ReadStart)
  | copy (l : ReadStart) (numberOfCharsToGet : Nat)
  | copyRest (l : ReadStart) (numberOfCharsToGet firstTryNumberToGet : Nat)
  | copied (l : ReadStart) (charsCopied : Nat)
  | arm (l : ReadStart)
  | move (numberOfCharsMoved : Nat)
  | moveRest (numberOfCharsMoved firstTryNumberToGet : Nat) (newBuffer : List UInt8)
  | moved (numberOfCharsMoved : Nat) (newBuffer : List UInt8)
  deriving DecidableEq, Repr

namespace ReadPc

/-- Characters already copied out of the interrupt buffer but still counted in
`CharsInInterruptBuffer`. -/
def taken : ReadPc → Nat
  | .copyRest _ _ first => first
  | .copied _ n => n
  | .moveRest _ first _ => first
  | .moved n _ => n
  | _ => 0

end ReadPc

/-! ## The transmit log -/

/-- What goes out through the transmit holding register, and which request the data bytes that
follow come from. -/
inductive Wire
  | started (id : Nat) (payload : List UInt8)
  | data (b : UInt8)
  | immediate (b : UInt8)
  | xon (b : UInt8)
  | xoff (b : UInt8)
  deriving DecidableEq, Repr

/-! ## The extension -/

structure Extension (U : Type) where
  uart : U
  cfg : Config
  rx : Rx
  tx : Tx
  ev : Events
  current : Slot → Option Request
  timer : TimerId → Timer
  dpc : DpcId → Bool
  queue : QueueId → IoQueue
  /-- Flushes between stopping and starting the write queue. -/
  flushing : Nat
  /-- Requests cancelled while waiting, with `EvtIoCanceledOnQueue` still to run. -/
  canceledOnQueue : List Request
  /-- Requests whose slot was overwritten before they were completed. -/
  abandoned : List Request
  /-- Completed requests, in completion order. -/
  done : List Request
  nextId : Nat
  totalCharsQueued : Int
  clock : Nat
  pc : ReadPc
  /-- A NULL request was dereferenced; nothing runs any more. -/
  bugcheck : Bool
  wire : List Wire
  stream : List (Fifo.Op UInt8)

namespace Extension

variable {U : Type} [Uart U]

/-- The flow-control word, `Extension->HandFlow`. -/
abbrev handFlow (e : Extension U) : HandFlow := e.cfg.handFlow

/-! ## Registers -/

def readReg (r : Reg) (e : Extension U) : UInt8 × Extension U :=
  ((Uart.read r e.uart).1, { e with uart := (Uart.read r e.uart).2 })

def writeReg (r : Reg) (v : UInt8) (e : Extension U) : Extension U :=
  { e with uart := Uart.write r v e.uart }

def disableAllInterrupts (e : Extension U) : Extension U := e.writeReg .ier 0

def enableAllInterrupts (e : Extension U) : Extension U := e.writeReg .ier ierAll

/-- `DISABLE_ALL_INTERRUPTS` then `ENABLE_ALL_INTERRUPTS`: makes the chip raise the transmit
interrupt again if the holding register is empty. -/
def retickle (e : Extension U) : Extension U := e.disableAllInterrupts.enableAllInterrupts

/-! ## Requests, DPCs and timers -/

def crash (e : Extension U) : Extension U := { e with bugcheck := true }

/-- Writes to the context of the request in a slot. -/
def modifyCurrent (s : Slot) (f : Request → Request) (e : Extension U) : Extension U :=
  match e.current s with
  | some r => { e with current := Function.update e.current s (some (f r)) }
  | none => e.crash

def setCurrent (s : Slot) (r : Option Request) (e : Extension U) : Extension U :=
  { e with current := Function.update e.current s r }

/-- `SerialInsertQueueDpc`. -/
def serialInsertQueueDpc (d : DpcId) (e : Extension U) : Extension U :=
  { e with dpc := Function.update e.dpc d true }

/-- `SerialInsertQueueDpc(StartTimerLowerRTSDpc) ? CountOfTryingToLowerRTS++ : 0`. -/
def insertStartTimerLowerRts (e : Extension U) : Extension U :=
  if e.dpc .startTimerLowerRts then e
  else
    { e.serialInsertQueueDpc .startTimerLowerRts with
      tx := { e.tx with countOfTryingToLowerRts := e.tx.countOfTryingToLowerRts + 1 } }

/-- `SerialSetTimer`: was the timer in the timer queue already? -/
def serialSetTimer (t : TimerId) (e : Extension U) : Bool × Extension U :=
  ((e.timer t).queued,
    { e with timer := Function.update e.timer t { e.timer t with queued := true } })

/-- `SerialCancelTimer`: was the timer still in the timer queue? -/
def serialCancelTimer (t : TimerId) (e : Extension U) : Bool × Extension U :=
  ((e.timer t).queued,
    { e with timer := Function.update e.timer t { e.timer t with queued := false } })

/-! ## Queues -/

/-- Requests in the hands of the driver: the slots and what fell out of them. -/
def owned (e : Extension U) : List Request :=
  [e.current .read, e.current .write, e.current .mask, e.current .purge, e.current .wait,
    e.current .immediate, e.current .xoff].filterMap id ++ e.abandoned

/-- `IsQueueEmpty`: no request waits in the queue and the driver owns none it retrieved from it. -/
def isQueueEmpty (q : QueueId) (e : Extension U) : Bool :=
  (e.queue q).waiting.isEmpty && e.owned.all (fun r => r.origin != some q)

def putHolding (t : TxHolding) (e : Extension U) : Extension U :=
  { e with tx := { e.tx with txHolding := t } }

def putRxHolding (t : RxHolding) (e : Extension U) : Extension U :=
  { e with rx := { e.rx with rxHolding := t } }

/-! ## Writing to a request changes nothing else -/

section ModifyCurrent

omit [Uart U]

variable (e : Extension U) (s : Slot) (f : Request → Request)

@[simp] theorem uart_modifyCurrent : (e.modifyCurrent s f).uart = e.uart := by
  unfold modifyCurrent
  split <;> rfl

@[simp] theorem cfg_modifyCurrent : (e.modifyCurrent s f).cfg = e.cfg := by
  unfold modifyCurrent
  split <;> rfl

@[simp] theorem rx_modifyCurrent : (e.modifyCurrent s f).rx = e.rx := by
  unfold modifyCurrent
  split <;> rfl

@[simp] theorem tx_modifyCurrent : (e.modifyCurrent s f).tx = e.tx := by
  unfold modifyCurrent
  split <;> rfl

@[simp] theorem ev_modifyCurrent : (e.modifyCurrent s f).ev = e.ev := by
  unfold modifyCurrent
  split <;> rfl

@[simp] theorem timer_modifyCurrent : (e.modifyCurrent s f).timer = e.timer := by
  unfold modifyCurrent
  split <;> rfl

@[simp] theorem dpc_modifyCurrent : (e.modifyCurrent s f).dpc = e.dpc := by
  unfold modifyCurrent
  split <;> rfl

@[simp] theorem queue_modifyCurrent : (e.modifyCurrent s f).queue = e.queue := by
  unfold modifyCurrent
  split <;> rfl

@[simp] theorem flushing_modifyCurrent : (e.modifyCurrent s f).flushing = e.flushing := by
  unfold modifyCurrent
  split <;> rfl

@[simp] theorem canceledOnQueue_modifyCurrent : (e.modifyCurrent s f).canceledOnQueue = e.canceledOnQueue := by
  unfold modifyCurrent
  split <;> rfl

@[simp] theorem abandoned_modifyCurrent : (e.modifyCurrent s f).abandoned = e.abandoned := by
  unfold modifyCurrent
  split <;> rfl

@[simp] theorem done_modifyCurrent : (e.modifyCurrent s f).done = e.done := by
  unfold modifyCurrent
  split <;> rfl

@[simp] theorem nextId_modifyCurrent : (e.modifyCurrent s f).nextId = e.nextId := by
  unfold modifyCurrent
  split <;> rfl

@[simp] theorem totalCharsQueued_modifyCurrent : (e.modifyCurrent s f).totalCharsQueued = e.totalCharsQueued := by
  unfold modifyCurrent
  split <;> rfl

@[simp] theorem clock_modifyCurrent : (e.modifyCurrent s f).clock = e.clock := by
  unfold modifyCurrent
  split <;> rfl

@[simp] theorem pc_modifyCurrent : (e.modifyCurrent s f).pc = e.pc := by
  unfold modifyCurrent
  split <;> rfl

@[simp] theorem wire_modifyCurrent : (e.modifyCurrent s f).wire = e.wire := by
  unfold modifyCurrent
  split <;> rfl

@[simp] theorem stream_modifyCurrent : (e.modifyCurrent s f).stream = e.stream := by
  unfold modifyCurrent
  split <;> rfl

theorem current_setCurrent (t : Slot) (v : Option Request) :
    (e.setCurrent s v).current t = if t = s then v else e.current t := by
  show Function.update e.current s v t = _
  rw [Function.update_apply]

variable {e s}

theorem modifyCurrent_of_some {r : Request} (h : e.current s = some r) :
    e.modifyCurrent s f = e.setCurrent s (some (f r)) := by
  unfold modifyCurrent
  rw [h]
  rfl

theorem modifyCurrent_of_none (h : e.current s = none) : e.modifyCurrent s f = e.crash := by
  unfold modifyCurrent
  rw [h]

theorem current_modifyCurrent (e : Extension U) (s : Slot) (t : Slot) :
    (e.modifyCurrent s f).current t = if t = s then (e.current s).map f else e.current t := by
  cases h : e.current s with
  | none =>
    rw [modifyCurrent_of_none f h]
    split
    · next ht => rw [ht]; exact h
    · rfl
  | some r =>
    rw [modifyCurrent_of_some f h, current_setCurrent]
    rfl

end ModifyCurrent

end Extension

end SerialFc
