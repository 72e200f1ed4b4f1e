import SerialFc.Model.Configure

/-!
# Control codes that read the configuration

The cases of `SerialEvtIoDeviceControl` that read back what `Configure` sets, and the `FastcomGet*`
routines of `utils.c`. An indexed register of a 16C950 is read through the address of LSR while
bit 6 of ACR is set.
-/

namespace SerialFc

/-! ## Settings of the card -/

namespace Device

variable (d : Device)

def readIcr : UInt8 :=
  if !d.hw.hidden d.card && has (d.hw.icr acrOffset) 0x40 then d.hw.icr d.hw.spr else 0

/-- LCR is put away, and ACR lets the indexed registers be read. -/
def openIcr : Device := (d.writeReg .lcr 0).icrStore acrOffset (d.acr ||| 0x40)

def icrFetch (index : UInt8) : UInt8 × Device :=
  ((d.writeReg .spr index).readIcr, d.writeReg .spr index)

def closeIcr (origLcr : UInt8) : Device := (d.icrStore acrOffset d.acr).writeReg .lcr origLcr

/-- One indexed register is read. -/
def fsccFetch (index : UInt8) : UInt8 × Device :=
  let fetched := d.openIcr.icrFetch index
  (fetched.1, fetched.2.closeIcr (d.readReg .lcr))

/-- `none` stands for `STATUS_NOT_SUPPORTED`. On the other cards the trigger cannot be read. -/
def fastcomGetTxTrigger : Option UInt32 × Device :=
  match d.card with
  | .pci | .pcie => (some d.txTrigger, d)
  | .fscc => (some ((d.fsccFetch ttlOffset).1 &&& 0x7f).toUInt32, (d.fsccFetch ttlOffset).2)
  | .other => (none, d)

def fastcomGetRxTrigger : Option UInt32 × Device :=
  match d.card with
  | .pci | .pcie => (some d.rxTrigger, d)
  | .fscc => (some ((d.fsccFetch rtlOffset).1 &&& 0x7f).toUInt32, (d.fsccFetch rtlOffset).2)
  | .other => (none, d)

def fastcomGetRs485Pci : Bool := has (d.readReg .fctr) 0x20

def fastcomGetRs485Fscc : Bool :=
  has d.acr 0x10 && has32 d.hw.bar2 (if d.channel = 1 then 0x00400000 else 0x00040000)

def fastcomGetRs485 : Option Bool :=
  match d.card with
  | .pci | .pcie => some d.fastcomGetRs485Pci
  | .fscc => some d.fastcomGetRs485Fscc
  | .other => none

def fastcomGetTermination : Option Bool :=
  match d.card with
  | .pcie => some (!has (d.readReg .mpiolvl) (d.channelMask 0x1))
  | _ => none

/-- On an unknown card the buffer is not written, though the request succeeds. -/
def fastcomGetEchoCancel : Option Bool :=
  match d.card with
  | .pci => some (has (d.readReg .mpiolvl) 0x80)
  | .pcie => some (has (d.readReg .mpiolvlh) (d.channelMask 0x1))
  | .fscc => some (has32 d.hw.bar2 (if d.channel = 1 then 0x00100000 else 0x00010000))
  | .other => none

def fastcomGetIsochronous : Option Int × Device :=
  match d.card with
  | .fscc => (isochronousMode (d.fsccFetch cksOffset).1, (d.fsccFetch cksOffset).2)
  | _ => (none, d)

def fastcomGetExternalTransmitFscc : UInt32 × Device :=
  let ext := d.openIcr.icrFetch extOffset
  let exth := ext.2.icrFetch exthOffset
  ((exth.1 &&& 0x1f).toUInt32 <<< 8 + ext.1.toUInt32, exth.2.closeIcr (d.readReg .lcr))

def fastcomGetExternalTransmit : Option UInt32 × Device :=
  match d.card with
  | .fscc => (some d.fastcomGetExternalTransmitFscc.1, d.fastcomGetExternalTransmitFscc.2)
  | _ => (none, d)

def fastcomGetFrameLength : Option UInt32 × Device :=
  match d.card with
  | .fscc =>
    if d.fsccGetFrev < 0x20 then (none, d)
    else (some ((d.fsccFetch flrOffset).1.toUInt32 + 1), (d.fsccFetch flrOffset).2)
  | _ => (none, d)

def fastcomGet9Bit : Option Bool × Device :=
  match d.card with
  | .fscc => (some (has (d.fsccFetch nmrOffset).1 0x01), (d.fsccFetch nmrOffset).2)
  | _ => (none, d)

end Device

/-! ## Requests -/

inductive Setting
  | lineControl | timeouts | chars | handFlow | baudRate | modemControl
  | rs485 | echoCancel | termination | sampleRate | txTrigger | rxTrigger
  | isochronous | externalTransmit | frameLength | nineBit | fixedBaudRate
  deriving DecidableEq, Repr

/-- What is written to the output buffer. -/
inductive Value
  | line (wordLength parity stopBits : UInt8)
  | timeouts (t : Timeouts)
  | chars (eofChar : UInt8) (chars : SpecialChars)
  | handFlow (h : HandFlow)
  | ulong (v : UInt32)
  | long (v : Int)
  | boolean (b : Bool)
  deriving DecidableEq, Repr

/-- The setting that a control code is about, where there is a control code to read it back. -/
def ConfigCode.setting : ConfigCode → Option Setting
  | .setBaudRate => some .baudRate
  | .setModemControl => some .modemControl
  | .setLineControl => some .lineControl
  | .setTimeouts => some .timeouts
  | .setChars => some .chars
  | .setHandFlow => some .handFlow
  | .enableRs485 | .disableRs485 => some .rs485
  | .enableEchoCancel | .disableEchoCancel => some .echoCancel
  | .enableTermination | .disableTermination => some .termination
  | .setSampleRate => some .sampleRate
  | .setTxTrigger => some .txTrigger
  | .setRxTrigger => some .rxTrigger
  | .enableIsochronous | .disableIsochronous => some .isochronous
  | .enableExternalTransmit | .disableExternalTransmit => some .externalTransmit
  | .setFrameLength => some .frameLength
  | .enable9Bit | .disable9Bit => some .nineBit
  | .enableFixedBaudRate | .disableFixedBaudRate => some .fixedBaudRate
  | _ => none

namespace Machine

variable {U : Type} [Uart U]

def lineWordLength (lineControl : UInt8) : UInt8 := (lineControl &&& 0x03) + 5

/-- The buffer was zeroed, which is what other patterns leave. -/
def lineParity (lineControl : UInt8) : UInt8 :=
  let parity := lineControl &&& 0x38
  if parity = 0x08 then 1
  else if parity = 0x18 then 2
  else if parity = 0x28 then 3
  else if parity = 0x38 then 4
  else 0

def lineStopBits (lineControl : UInt8) : UInt8 :=
  if has lineControl 0x04 then if lineWordLength lineControl = 5 then 1 else 2 else 0

/-- `SERIAL_LINE_CONTROL` for `Extension->LineControl`. -/
def lineValue (lineControl : UInt8) : Value :=
  .line (lineWordLength lineControl) (lineParity lineControl) (lineStopBits lineControl)

/-- With a fixed baud rate the answer is always 9600. -/
def baudValue (d : Device) : Value :=
  .ulong (if d.fixedBaudRate ≠ 0xffffffff then 9600 else d.currentBaud)

/-- A routine of the card that may read through other registers. -/
def answer {α : Type} (f : α → Value) (result : Option α × Device) (m : Machine U) :
    Option Value × Machine U := (result.1.map f, m.setDevice result.2)

/-- A request that reads a setting and gets as far as its case, with an output buffer that is large
enough. `none` says that nothing was written there. -/
def getControl (s : Setting) (m : Machine U) : Option Value × Machine U :=
  match s with
  | .lineControl => (some (lineValue m.device.lineControl), m)
  | .timeouts => (some (.timeouts m.ext.cfg.timeouts), m)
  | .chars => (some (.chars m.eofChar m.ext.cfg.specialChars), m)
  | .handFlow => (some (.handFlow m.ext.handFlow), m)
  | .baudRate => (some (baudValue m.device), m)
  | .modemControl =>
    (some (.ulong (m.ext.readReg .mcr).1.toUInt32), m.mapExt fun e => (e.readReg .mcr).2)
  | .rs485 => (m.device.fastcomGetRs485.map .boolean, m)
  | .echoCancel => (m.device.fastcomGetEchoCancel.map .boolean, m)
  | .termination => (m.device.fastcomGetTermination.map .boolean, m)
  | .sampleRate => (some (.ulong m.device.sampleRate), m)
  | .txTrigger => m.answer .ulong m.device.fastcomGetTxTrigger
  | .rxTrigger => m.answer .ulong m.device.fastcomGetRxTrigger
  | .isochronous => m.answer .long m.device.fastcomGetIsochronous
  | .externalTransmit => m.answer .ulong m.device.fastcomGetExternalTransmit
  | .frameLength => m.answer .ulong m.device.fastcomGetFrameLength
  | .nineBit => m.answer .boolean m.device.fastcomGet9Bit
  | .fixedBaudRate => (some (.ulong m.device.fixedBaudRate), m)

/-- The value that a request sets; on a PCIe card the DTR mode is ignored. -/
def valueSet (code : ConfigCode) (input : ControlInput) (m : Machine U) : Value :=
  match code with
  | .setLineControl => .line (input.byteAt 2) (input.byteAt 1) (input.byteAt 0)
  | .setTimeouts => .timeouts (timeoutsAt input)
  | .setChars => .chars (input.byteAt 0) (charsAt input)
  | .setHandFlow => .handFlow (m.ext.handFlowForCard (handFlowAt input))
  | .enableRs485 | .enableEchoCancel | .enableTermination | .enable9Bit => .boolean true
  | .disableRs485 | .disableEchoCancel | .disableTermination | .disable9Bit => .boolean false
  | .enableIsochronous => .long (Device.toLong (input.ulongAt 0))
  | .disableIsochronous => .long (-1)
  | .disableExternalTransmit => .ulong 0
  | .disableFixedBaudRate => .ulong 0xffffffff
  | _ => .ulong (input.ulongAt 0)

/-- `SerialEvtIoDeviceControl` for a request that reads a setting. One that is refused writes
nothing. -/
def serialEvtIoDeviceControlGet (s : Setting) (m : Machine U) : Option Value × Machine U :=
  if !m.device.deviceIsOpened then (none, m)
  else if m.ext.serialCompleteIfError then (none, m)
  else m.getControl s

end Machine

/-! ## Sequences of requests -/

inductive Exchange
  | change (code : ConfigCode) (input : ControlInput) (s : Surroundings)
  | read (s : Setting)

namespace Machine

variable {U : Type} [Uart U]

/-- The next request that changes or reads a setting. -/
def exchange : Exchange → Machine U → Option (Machine U)
  | .change code input s, m =>
    if code.setting = none then none
    else
      match m.serialEvtIoDeviceControl code input s with
      | .completed _ m => some m
      | .started m => some m
      | .fault => none
  | .read s, m => some (m.serialEvtIoDeviceControlGet s).2

/-- The request is completed with a success status. -/
def Succeeds (code : ConfigCode) (input : ControlInput) (s : Surroundings) (m m' : Machine U) :
    Prop :=
  ∃ status, status.ok = true ∧ m.serialEvtIoDeviceControl code input s = .completed status m'

/-- A change of the setting that succeeds. -/
def Changes (s : Setting) : Exchange → Machine U → Prop
  | .change code input surroundings, m =>
    code.setting = some s ∧ ∃ m', m.Succeeds code input surroundings m'
  | .read _, _ => False

end Machine

end SerialFc
