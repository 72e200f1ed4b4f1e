import SerialFc.Model.Driver

/-!
# Lowering RTS, and closing the port

What the step function takes in one step, a port takes in pieces here: the DPC that starts the
timer for lowering RTS leaves its queue before it runs, it gives up its count only after the call
that starts the timer has answered, and the timer leaves its queue before its callback runs.
`SerialFileCloseWorker` comes to its polling loop in the middle of any of that.

* `CloseStage` — how far `SerialFileCloseWorker` has come
* `closedIsr` — the ISR once the port is not open any more
* `Port.step` — the driver with these pieces
-/

namespace SerialFc

variable {U : Type} [Uart U]

/-- What `SerialFileCloseWorker` has done last. -/
inductive CloseStage
  | opened
  | setNotOpened
  | breakOff
  | marked
  | drained
  | dtrDown
  | closed
  deriving DecidableEq, Repr

namespace Extension

/-! ## The ISR of a port that is not open -/

/-- The cause is served, and what it brought is thrown away. Unlike in the ISR of an open port, bits
that should be zero stay in the code and lead to the default case. -/
def quietCause (interruptIdReg : UInt8) (e : Extension U) : Extension U :=
  let cause := interruptIdReg &&& ~~~iirFifosEnabled
  if cause = iirRls then (e.readReg .lsr).2
  else if cause = iirRda ∨ cause = iirCti then (e.readReg .data).2
  else if cause = iirThr then e.setHoldingEmpty true
  else if cause = iirMs then (e.readReg .msr).2
  else e

/-- Serves causes until the chip calms down. -/
def quietLoop : Nat → UInt8 → Extension U → Option (Extension U)
  | 0, _, _ => none
  | n + 1, interruptIdReg, e =>
    let iir := (e.quietCause interruptIdReg).readReg .iir
    if has iir.1 iirNoInterruptPending then some iir.2 else quietLoop n iir.1 iir.2

/-- `SerialISR` while `DeviceIsOpened` is false. -/
def closedIsr (fuel : Nat) (e : Extension U) : Option (Extension U) :=
  let iir := e.readReg .iir
  if has iir.1 iirNoInterruptPending then some iir.2 else quietLoop fuel iir.1 iir.2

/-! ## `SerialMarkClose` -/

/-- `SerialDisableUART`. -/
def serialDisableUart (e : Extension U) : Extension U :=
  let e := e.updateReg .mcr (· &&& ~~~mcrOut2)
  if e.cfg.fifoPresent then e.writeReg .iir 0 else e

/-- The end of `SerialFileCloseWorker`: RTS is forced down, and nothing is held any more. -/
def endClose (e : Extension U) : Extension U :=
  (e.serialClrRts.putRxHolding .none).putHolding .none

end Extension

/-! ## The port -/

/-- `running` instances of `SerialStartTimerLowerRTS` are before their timer call, `undoing` ones
have found the timer in its queue and are to take back their count, and `expired` expiries of
`LowerRTSTimer` are before their `SerialPerhapsLowerRTS`. -/
structure Port (U : Type) where
  ext : Extension U
  stage : CloseStage
  running : Nat
  undoing : Nat
  expired : Nat

inductive PortLabel (Input : Type)
  | driver (l : Label Input)
  | takeStartTimerDpc
  | setLowerRtsTimer
  | serialDecrementRtsCounter
  | expireLowerRts
  | perhapsLowerRts
  | setNotOpened
  | turnOffBreak
  | readLineStatus
  | markClose
  | sendXon
  | clrDtr
  | clrRts

/-- The steps of the driver that go on after the last handle is closed: no request comes any
more. -/
def Label.afterClose {Input : Type} : Label Input → Bool
  | .hardware _ | .isr _ | .expire _ | .tick _ | .callback (.dpc _) | .callback (.timer _) => true
  | _ => false

/-- The steps that the port takes in pieces. -/
def Label.inPieces {Input : Type} : Label Input → Bool
  | .expire .lowerRts | .callback (.dpc .startTimerLowerRts) | .callback (.timer .lowerRts) => true
  | _ => false

namespace Port

/-- The port changes by what happens to the extension. -/
def put (p : Port U) (e : Extension U) : Port U := { p with ext := e }

def goTo (stage : CloseStage) (e : Extension U) (p : Port U) : Port U :=
  { p with ext := e, stage := stage }

/-- `DeviceIsOpened` decides which half of the ISR runs. -/
def driverStep (l : Label (Uart.Input U)) (p : Port U) : Option (Extension U) :=
  if p.stage = .opened then p.ext.step l
  else
    match l with
    | .isr fuel => p.ext.closedIsr fuel
    | l => if l.afterClose then p.ext.step l else none

/-- `SerialStartTimerLowerRTS` up to the answer of `SerialSetTimer`. -/
def setLowerRtsTimer (p : Port U) : Port U :=
  let answer := p.ext.serialSetTimer .lowerRts
  { p with
    ext := answer.2
    running := p.running - 1
    undoing := if answer.1 then p.undoing + 1 else p.undoing }

/-- `if (RXHolding & SERIAL_RX_XOFF)`: poll until the holding register is empty, then write. -/
def sendXon (p : Port U) : Port U :=
  if p.ext.rx.rxHolding.xoff then
    let lsr := p.ext.readReg .lsr
    if has lsr.1 lsrThre then
      p.goTo .drained (lsr.2.writeReg .data lsr.2.cfg.specialChars.xonChar)
    else p.put lsr.2
  else p.goTo .drained p.ext

/-- One step. The close worker goes through its stages in order; everything else interleaves. -/
def step (l : PortLabel (Uart.Input U)) (p : Port U) : Option (Port U) :=
  if p.ext.bugcheck then none
  else
    match l with
    | .driver l => if l.inPieces then none else (p.driverStep l).map p.put
    | .takeStartTimerDpc =>
      if p.ext.dpc .startTimerLowerRts then
        some { p with ext := p.ext.takeDpc .startTimerLowerRts, running := p.running + 1 }
      else none
    | .setLowerRtsTimer => if p.running ≠ 0 then some p.setLowerRtsTimer else none
    | .serialDecrementRtsCounter =>
      if p.undoing ≠ 0 then
        some { p with ext := p.ext.addTryingToLowerRts (-1), undoing := p.undoing - 1 }
      else none
    | .expireLowerRts =>
      if (p.ext.timer .lowerRts).queued then
        some { p with ext := (p.ext.serialCancelTimer .lowerRts).2, expired := p.expired + 1 }
      else none
    | .perhapsLowerRts =>
      if p.expired ≠ 0 then
        some { p with ext := p.ext.serialPerhapsLowerRts, expired := p.expired - 1 }
      else none
    | .setNotOpened =>
      if p.stage = .opened ∧ p.ext.pc = .idle then some (p.goTo .setNotOpened p.ext) else none
    | .turnOffBreak =>
      if p.stage = .setNotOpened then some (p.goTo .breakOff p.ext.serialTurnOffBreak) else none
    | .readLineStatus =>
      if p.stage = .breakOff ∨ p.stage = .drained then some (p.put (p.ext.readReg .lsr).2)
      else none
    | .markClose =>
      if p.stage = .breakOff then some (p.goTo .marked p.ext.serialDisableUart) else none
    | .sendXon => if p.stage = .marked then some p.sendXon else none
    | .clrDtr =>
      if p.stage = .drained then some (p.goTo .dtrDown p.ext.serialClrDtr) else none
    | .clrRts =>
      -- the polling loop: it is left when the counter has come down to zero
      if p.stage = .dtrDown ∧ p.ext.tx.countOfTryingToLowerRts = 0 then
        some (p.goTo .closed p.ext.endClose)
      else none

/-- The port when it has just been opened. -/
def opened (u : U) (cfg : Config) (size : Nat) : Port U where
  ext := .opened u cfg size
  stage := .opened
  running := 0
  undoing := 0
  expired := 0

end Port

end SerialFc
