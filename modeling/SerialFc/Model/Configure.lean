import SerialFc.Model.BoardSettings
import SerialFc.Model.Driver
import SerialFc.Model.LineControl

/-!
# Control codes that configure the port

The cases of `SerialEvtIoDeviceControl` that set, enable or disable something, for any input
buffer. The requests that are started or queued (`IOCTL_SERIAL_SET_QUEUE_SIZE`,
`IOCTL_SERIAL_SET_WAIT_MASK`) and what they, the modem lines and the handshake do is that of
`Driver`; the settings of the card are those of `BoardSettings`.
-/

namespace SerialFc

/-! ## The port on its card -/

/-- `chip` receives and sends; `device` has the registers that configure it, those of the card, and
what the device extension says about them. -/
structure Fitted (U : Type) where
  chip : U
  device : Device

namespace Fitted

variable {U : Type} [Uart U]

/-- With DLAB set the first two registers are the divisor latch. -/
def read : Reg → Fitted U → UInt8 × Fitted U
  | .data, f =>
    if f.device.hw.dlab then (f.device.hw.dll, f)
    else ((Uart.read .data f.chip).1, { f with chip := (Uart.read .data f.chip).2 })
  | .ier, f => (f.device.readReg .ier, f)
  | .lcr, f => (f.device.readReg .lcr, f)
  | .mcr, f => (f.device.readReg .mcr, f)
  | .spr, f => (f.device.hw.spr, f)
  | r, f => ((Uart.read r f.chip).1, { f with chip := (Uart.read r f.chip).2 })

/-- The chip hears of every write that is not for the divisor latch. -/
def write : Reg → UInt8 → Fitted U → Fitted U
  | .data, v, f =>
    if f.device.hw.dlab then { f with device := f.device.writeReg .data v }
    else { f with chip := Uart.write .data v f.chip }
  | .ier, v, f =>
    ⟨if f.device.hw.dlab then f.chip else Uart.write .ier v f.chip, f.device.writeReg .ier v⟩
  | .iir, v, f => ⟨Uart.write .iir v f.chip, f.device.writeReg .fcr v⟩
  | .lcr, v, f => ⟨Uart.write .lcr v f.chip, f.device.writeReg .lcr v⟩
  | .mcr, v, f => ⟨Uart.write .mcr v f.chip, f.device.writeReg .mcr v⟩
  | .lsr, v, f => ⟨Uart.write .lsr v f.chip, f.device.writeReg .lsr v⟩
  | .msr, v, f => { f with chip := Uart.write .msr v f.chip }
  | .spr, v, f => ⟨Uart.write .spr v f.chip, f.device.writeReg .spr v⟩
  | .txtrg, v, f => ⟨Uart.write .txtrg v f.chip, f.device.writeReg .txtrg v⟩

instance : Uart (Fitted U) where
  Input := Uart.Input U
  evolve x f := { f with chip := Uart.evolve x f.chip }
  read := read
  write := write
  modemChanges f := Uart.modemChanges f.chip
  modemChanges_read_msr f h := Uart.modemChanges_read_msr f.chip h
  modemChanges_read r f := by
    cases r with
    | data =>
      simp only [read]
      split
      · exact Nat.le_refl _
      · exact Uart.modemChanges_read _ f.chip
    | ier | lcr | mcr | spr => exact Nat.le_refl _
    | _ => exact Uart.modemChanges_read _ f.chip
  modemChanges_write r v f := by
    cases r with
    | data | ier =>
      simp only [write]
      split
      · exact Nat.le_refl _
      · exact Uart.modemChanges_write _ v f.chip
    | _ => exact Uart.modemChanges_write _ v f.chip

end Fitted

/-- The fields of `WmiCommData` that the control codes set. -/
structure WmiCommData where
  baudRate : UInt32
  bitsPerByte : UInt8
  parity : WmiParity
  stopBits : WmiStop
  xonCharacter : UInt8
  xoffCharacter : UInt8
  deriving DecidableEq, Repr

/-- The device extension. `eofChar` is the field of `SpecialChars` that nothing else reads. -/
structure Machine (U : Type) where
  ext : Extension (Fitted U)
  wmi : WmiCommData
  eofChar : UInt8

/-! ## Requests -/

inductive ConfigCode
  | setBaudRate | setModemControl | setFifoControl | setLineControl | setTimeouts | setChars
  | setDtr | setRts | setXoff | setXon | setBreakOn | setBreakOff | setQueueSize | setWaitMask
  | setHandFlow
  | enableRs485 | disableRs485 | enableEchoCancel | disableEchoCancel
  | enableTermination | disableTermination | setSampleRate | setTxTrigger | setRxTrigger
  | setClockRate | setClockBits | enableIsochronous | disableIsochronous
  | enableExternalTransmit | disableExternalTransmit | setFrameLength | enable9Bit | disable9Bit
  | enableFixedBaudRate | disableFixedBaudRate
  deriving DecidableEq, Repr

/-- The input buffer and where it lies. -/
structure ControlInput where
  buffer : List UInt8
  address : UInt64
  deriving DecidableEq, Repr

namespace ControlInput

def byteAt (offset : Nat) (input : ControlInput) : UInt8 := input.buffer.getD offset 0

def ulongAt (offset : Nat) (input : ControlInput) : UInt32 :=
  (input.byteAt offset).toUInt32 ||| (input.byteAt (offset + 1)).toUInt32 <<< 8
    ||| (input.byteAt (offset + 2)).toUInt32 <<< 16 ||| (input.byteAt (offset + 3)).toUInt32 <<< 24

end ControlInput

inductive ControlStatus
  | ofSetting (status : SettingStatus)
  | bufferTooSmall | cancelled | invalidDeviceRequest | invalidDeviceState
  deriving DecidableEq, Repr

/-- `NT_SUCCESS` -/
def ControlStatus.ok : ControlStatus → Bool
  | .ofSetting status => status.ok
  | _ => false

/-- The request is completed with a status, or it has been started or queued, or the processor has
divided by zero. -/
inductive Answer (M : Type)
  | completed (status : ControlStatus) (m : M)
  | started (m : M)
  | fault

namespace Machine

variable {U : Type} [Uart U]

def succeed (m : Machine U) : Answer (Machine U) := .completed (.ofSetting .success) m

def refuse (status : SettingStatus) (m : Machine U) : Answer (Machine U) :=
  .completed (.ofSetting status) m

/-- `WdfRequestRetrieveInputBuffer`. -/
def withInput (size : Nat) (input : ControlInput) (k : Machine U → Answer (Machine U))
    (m : Machine U) : Answer (Machine U) :=
  if input.buffer.length < size then .completed .bufferTooSmall m else k m

def device (m : Machine U) : Device := m.ext.uart.device

def setDevice (d : Device) (m : Machine U) : Machine U :=
  { m with ext := { m.ext with uart := { m.ext.uart with device := d } } }

def mapExt (f : Extension (Fitted U) → Extension (Fitted U)) (m : Machine U) : Machine U :=
  { m with ext := f m.ext }

/-- A routine of the card with its status. -/
def setting (result : SettingStatus × Device) (m : Machine U) : Answer (Machine U) :=
  .completed (.ofSetting result.1) (m.setDevice result.2)

/-! ## Line -/

/-- A fixed baud rate overrides that of the request. -/
def chosenBaudRate (input : ControlInput) (m : Machine U) : UInt32 :=
  if m.device.fixedBaudRate ≠ 0xffffffff then m.device.fixedBaudRate else input.ulongAt 0

def controlSetBaudRate (stack : UInt16) (input : ControlInput) (m : Machine U) :
    Answer (Machine U) :=
  let baudRate := m.chosenBaudRate input
  let divisor := m.device.serialGetDivisorFromBaud stack baudRate
  if divisor.1.ok then
    match { m.device with currentBaud := baudRate }.serialSetBaud divisor.2 with
    | none => .fault
    | some d => .completed (.ofSetting divisor.1)
        { m.setDevice d with wmi := { m.wmi with baudRate := baudRate } }
  else m.refuse divisor.1

/-- `SerialSetLineControl`. -/
def serialSetLineControl (m : Machine U) : Machine U :=
  m.mapExt (·.writeReg .lcr m.device.lineControl)

def controlSetLineControl (input : ControlInput) (m : Machine U) : Answer (Machine U) :=
  let word := input.byteAt 2
  match LineControl.wordLength word with
  | none => m.refuse .invalidParameter
  | some (data, mask) =>
    let m := { m with wmi := { m.wmi with bitsPerByte := word } }
    match LineControl.parity (input.byteAt 1) with
    | none => m.refuse .invalidParameter
    | some (wmiParity, parity) =>
      let m := { m with wmi := { m.wmi with parity := wmiParity } }
      match LineControl.stopBits data (input.byteAt 0) with
      | none => m.refuse .invalidParameter
      | some (wmiStop, stop) =>
        let m := { m with wmi := { m.wmi with stopBits := wmiStop } }
        let lineControl := (m.device.lineControl &&& lcrBreak) ||| (data ||| parity ||| stop)
        let m := m.setDevice { m.device with lineControl := lineControl }
        (m.mapExt fun e => { e with cfg := { e.cfg with validDataMask := mask } })
          |>.serialSetLineControl.succeed

/-! ## What the application chooses -/

def timeoutsAt (input : ControlInput) : Timeouts where
  readIntervalTimeout := input.ulongAt 0
  readTotalTimeoutMultiplier := input.ulongAt 4
  readTotalTimeoutConstant := input.ulongAt 8
  writeTotalTimeoutMultiplier := input.ulongAt 12
  writeTotalTimeoutConstant := input.ulongAt 16

def controlSetTimeouts (input : ControlInput) (m : Machine U) : Answer (Machine U) :=
  let t := timeoutsAt input
  if t.readIntervalTimeout = maxUlong ∧ t.readTotalTimeoutMultiplier = maxUlong
      ∧ t.readTotalTimeoutConstant = maxUlong then m.refuse .invalidParameter
  else (m.mapExt fun e => { e with cfg := { e.cfg with timeouts := t } }).succeed

/-- The first of the six characters is `EofChar`. -/
def charsAt (input : ControlInput) : SpecialChars where
  errorChar := input.byteAt 1
  breakChar := input.byteAt 2
  eventChar := input.byteAt 3
  xonChar := input.byteAt 4
  xoffChar := input.byteAt 5

def controlSetChars (input : ControlInput) (m : Machine U) : Answer (Machine U) :=
  let chars := charsAt input
  if m.ext.cfg.escapeChar ≠ 0 ∧
      (m.ext.cfg.escapeChar = chars.xonChar ∨ m.ext.cfg.escapeChar = chars.xoffChar) then
    m.refuse .invalidParameter
  else
    let wmi := { m.wmi with xonCharacter := chars.xonChar, xoffCharacter := chars.xoffChar }
    let ext := { m.ext with cfg := { m.ext.cfg with specialChars := chars } }
    succeed ⟨ext, wmi, input.byteAt 0⟩

def handFlowAt (input : ControlInput) : HandFlow where
  controlHandShake := input.ulongAt 0
  flowReplace := input.ulongAt 4
  xonLimit := (input.ulongAt 8).toNat
  xoffLimit := (input.ulongAt 12).toNat

/-- The limits are `LONG`s. -/
def controlSetHandFlow (input : ControlInput) (m : Machine U) : Answer (Machine U) :=
  let h := handFlowAt input
  if Device.toLong (input.ulongAt 8) < 0 ∨ Device.toLong (input.ulongAt 12) < 0
      ∨ m.ext.handFlowRefused h then m.refuse .invalidParameter
  else (m.mapExt (·.serialSetHandFlow h)).succeed

/-- DTR is the application's unless it is used for the handshake. -/
def controlSetDtr (m : Machine U) : Answer (Machine U) :=
  if m.ext.handFlow.dtrHandshake then m.refuse .invalidParameter
  else (m.mapExt Extension.serialSetDtr).succeed

def controlSetRts (m : Machine U) : Answer (Machine U) :=
  if m.ext.handFlow.rtsHandshake || m.ext.handFlow.transmitToggle then
    m.refuse .invalidParameter
  else (m.mapExt Extension.serialSetRts).succeed

/-- What `SerialStartOrQueue` answers: a queue that is being purged takes no requests. -/
def startOrQueue (q : QueueId) (slot : Slot) (f : Extension (Fitted U) → Extension (Fitted U))
    (m : Machine U) : Answer (Machine U) :=
  if m.ext.isQueueEmpty q && (m.ext.current slot).isNone || (m.ext.queue q).accepting then
    .started (m.mapExt f)
  else .completed .invalidDeviceState (m.mapExt f)

/-- Without memory the request is completed with the status it has so far. -/
def controlSetQueueSize (pool : Bool) (input : ControlInput) (m : Machine U) :
    Answer (Machine U) :=
  let inSize := (input.ulongAt 0).toNat
  if inSize ≤ m.ext.rx.bufferSize then m.succeed
  else if !pool then m.succeed
  else m.startOrQueue .readQueue .read (Extension.ioctlSetQueueSize inSize)

def controlSetWaitMask (input : ControlInput) (m : Machine U) : Answer (Machine U) :=
  if has32 (input.ulongAt 0) (~~~evAll) then m.refuse .invalidParameter
  else m.startOrQueue .maskQueue .mask (Extension.ioctlSetWaitMask (input.ulongAt 0))

/-! ## Settings of the card -/

/-- `FastcomSetRS485` of a 16C950 changes ACR, which the ISR uses too. -/
def controlRs485 (enable : Bool) (m : Machine U) : Answer (Machine U) :=
  let d := m.device.fastcomSetRs485 enable
  ((m.setDevice d).mapExt fun e => { e with cfg := { e.cfg with acr := d.acr } }).succeed

/-- The status of `FastcomEnable9Bit` and of `FastcomDisable9Bit` is dropped. -/
def control9Bit (enable : Bool) (m : Machine U) : Answer (Machine U) :=
  let d := (m.device.fastcomSet9Bit enable).2
  ((m.setDevice d).mapExt fun e => { e with cfg := { e.cfg with nineBit := d.nineBit } }).succeed

def clockBitsAt (input : ControlInput) : List UInt8 :=
  (List.range 20).map fun i => input.byteAt (4 + i)

def controlSetClockBits (pool : Bool) (input : ControlInput) (m : Machine U) :
    Answer (Machine U) :=
  match m.device.card with
  | .fscc => m.withInput 24 input fun m =>
    m.setting (m.device.fastcomSetClockBitsFscc pool (input.ulongAt 0) (clockBitsAt input))
  | .pci => m.withInput 8 input fun m =>
    m.setting (m.device.fastcomSetClockBitsPci (input.ulongAt 0) (input.ulongAt 4))
  | _ => m.refuse .notSupported

/-! ## The request -/

/-- The switch of `SerialEvtIoDeviceControl`. The modem control word is not read: what goes to MCR
is the address of the buffer. -/
def control (code : ConfigCode) (input : ControlInput) (s : Surroundings) (m : Machine U) :
    Answer (Machine U) :=
  match code with
  | .setBaudRate => m.withInput 4 input (controlSetBaudRate s.stack input)
  | .setModemControl => m.withInput 4 input fun m =>
    (m.mapExt (·.writeReg .mcr input.address.toUInt8)).succeed
  | .setFifoControl => m.withInput 4 input fun m =>
    (m.mapExt (·.writeReg .iir (input.byteAt 0))).succeed
  | .setLineControl => m.withInput 3 input (controlSetLineControl input)
  | .setTimeouts => m.withInput 20 input (controlSetTimeouts input)
  | .setChars => m.withInput 6 input (controlSetChars input)
  | .setDtr => m.controlSetDtr
  | .setRts => m.controlSetRts
  | .setXoff => (m.mapExt Extension.serialPretendXoff).succeed
  | .setXon => (m.mapExt Extension.serialPretendXon).succeed
  | .setBreakOn => (m.mapExt Extension.serialTurnOnBreak).succeed
  | .setBreakOff => (m.mapExt Extension.serialTurnOffBreak).succeed
  | .setQueueSize => m.withInput 8 input (controlSetQueueSize s.pool input)
  | .setWaitMask => m.withInput 4 input (controlSetWaitMask input)
  | .setHandFlow => m.withInput 16 input (controlSetHandFlow input)
  | .enableRs485 => m.controlRs485 true
  | .disableRs485 => m.controlRs485 false
  | .enableEchoCancel => (m.setDevice (m.device.fastcomSetEchoCancel true)).succeed
  | .disableEchoCancel => (m.setDevice (m.device.fastcomSetEchoCancel false)).succeed
  | .enableTermination => m.setting (m.device.fastcomSetTermination true)
  | .disableTermination => m.setting (m.device.fastcomSetTermination false)
  | .setSampleRate => m.withInput 4 input fun m =>
    m.setting (m.device.fastcomSetSampleRate (input.ulongAt 0))
  | .setTxTrigger => m.withInput 4 input fun m =>
    m.setting (m.device.fastcomSetTxTrigger (input.ulongAt 0))
  | .setRxTrigger => m.withInput 4 input fun m =>
    m.setting (m.device.fastcomSetRxTrigger (input.ulongAt 0))
  | .setClockRate => m.refuse .notSupported
  | .setClockBits => m.controlSetClockBits s.pool input
  | .enableIsochronous => m.withInput 4 input fun m =>
    m.setting (m.device.fastcomSetIsochronous (Device.toLong (input.ulongAt 0)))
  | .disableIsochronous => m.setting (m.device.fastcomSetIsochronous (-1))
  | .enableExternalTransmit => m.withInput 4 input fun m =>
    m.setting (m.device.fastcomSetExternalTransmit (input.ulongAt 0))
  | .disableExternalTransmit => m.setting (m.device.fastcomSetExternalTransmit 0)
  | .setFrameLength => m.withInput 4 input fun m =>
    m.setting (m.device.fastcomSetFrameLength (input.ulongAt 0))
  | .enable9Bit => m.control9Bit true
  | .disable9Bit => m.control9Bit false
  | .enableFixedBaudRate => m.withInput 4 input fun m =>
    (m.setDevice (m.device.fastcomSetFixedBaudRate (input.ulongAt 0))).succeed
  | .disableFixedBaudRate => (m.setDevice (m.device.fastcomSetFixedBaudRate 0xffffffff)).succeed

/-- `SerialEvtIoDeviceControl`, with `SerialCompleteIfError`. -/
def serialEvtIoDeviceControl (code : ConfigCode) (input : ControlInput) (s : Surroundings)
    (m : Machine U) : Answer (Machine U) :=
  if !m.device.deviceIsOpened then .completed .invalidDeviceRequest m
  else if m.ext.serialCompleteIfError then .completed .cancelled m
  else m.control code input s

end Machine

end SerialFc
