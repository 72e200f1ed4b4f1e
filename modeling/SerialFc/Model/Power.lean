import SerialFc.Model.BoardSettings
import SerialFc.Model.LineControl
import SerialFc.Lib.Run

/-!
# Start, power down and power up

`SerialFcInit` and its two parts, what `SerialInitController`, `SerialMarkOpen` and `SerialReset` do
to the registers, the power callbacks of `power.c`, and the I/O controls that change the
configuration of an open port.

`SerialSetupNewHandFlow` and the ISR move DTR and RTS, the two low bits of MCR, and no other bit
here; they may do so at any time.
-/

namespace SerialFc

open Lib

/-- `DEFAULT_FSCC_CLOCK_BITS` -/
def defaultFsccClockBits : List UInt8 :=
  [0x0f, 0x61, 0xe5, 0x00, 0x00, 0x00, 0x00, 0x00, 0x00, 0x00, 0x00, 0x18, 0x16, 0x40, 0x01, 0x04,
    0x00, 0xff, 0xff, 0xff]

/-- `DEFAULT_335_CLOCK_BITS` -/
def default335ClockBits : UInt32 := 1049473

/-- The values of `CONFIG_DATA`, from the registry, that are used here. -/
structure ConfigData where
  clockRate : UInt32
  rs485 : Bool
  sampleRate : UInt32
  txTrigger : UInt32
  rxTrigger : UInt32
  termination : Bool
  echoCancel : Bool
  isochronous : Int
  frameLength : UInt32
  nineBit : Bool
  fixedBaudRate : UInt32
  deriving DecidableEq, Repr

namespace Device

variable (d : Device)

/-! ## `SerialFcInit` -/

def fastcomInitGpio : Device :=
  match d.card with
  | .pci =>
    if d.deviceId = 0x0004 ∨ d.deviceId = 0x0002 then d.writeReg .mpiosel 0x00
    else (d.writeReg .mpiosel 0xc0).writeReg .mpioinv 0xc0
  | .pcie => (d.writeReg .mpiosel 0x00).writeReg .mpioselh 0x00
  | _ => d

def fastcomInitTriggers : Device :=
  match d.card with
  | .pci | .pcie =>
    let newFctr := d.readReg .fctr ||| 0xc0
    (d.writeReg .fcr 0x01).writeReg .fctr newFctr
  | .fscc =>
    -- LCR keeps `0xbf`, so that EFR is what the address of FCR means from now on.
    let d := ((d.writeReg .fcr 0x01).writeReg .lcr 0xbf).writeReg .fcr 0x10
    { d with acr := 0x00 }
  | .other => d

/-- The configuration that the device extension remembers. -/
def shadows : ConfigData where
  clockRate := d.clockRate
  rs485 := d.rs485
  sampleRate := d.sampleRate
  txTrigger := d.txTrigger
  rxTrigger := d.rxTrigger
  termination := d.termination
  echoCancel := d.echoCancel
  isochronous := d.isochronous
  frameLength := d.frameLength
  nineBit := d.nineBit
  fixedBaudRate := d.fixedBaudRate

def initClock (pool : Bool) : Device :=
  match d.card with
  | .fscc => (d.fastcomSetClockBitsFscc pool 18432000 defaultFsccClockBits).2
  | .pci => (d.fastcomSetClockBitsPci 18432000 default335ClockBits).2
  | .pcie => { d with clockRate := 125000000 }
  | .other => d

/-- The settings, one after the other. No routine looks at a value that another one remembers. -/
def initSettings (config : ConfigData) : Device :=
  let d := d.fastcomSetRs485 config.rs485
  let d := (d.fastcomSetSampleRate config.sampleRate).2
  let d := (d.fastcomSetTxTrigger config.txTrigger).2
  let d := (d.fastcomSetRxTrigger config.rxTrigger).2
  let d := (d.fastcomSetTermination config.termination).2
  let d := d.fastcomSetEchoCancel config.echoCancel
  let d := (d.fastcomSetIsochronous config.isochronous).2
  let d := (d.fastcomSetFrameLength config.frameLength).2
  let d := (d.fastcomSet9Bit config.nineBit).2
  d.fastcomSetFixedBaudRate config.fixedBaudRate

/-- Without `PConfigData` the remembered values are used. -/
def serialFcInit (pool : Bool) (config : Option ConfigData) : Device :=
  (d.fastcomInitGpio.fastcomInitTriggers.initClock pool).initSettings (config.getD d.shadows)

/-! ## Reset, open and close -/

/-- The FIFOs are switched off and on again. -/
def resetFifo : Device :=
  if d.fifoPresent then
    (d.writeReg .fcr 0).writeReg .fcr
      (fcrEnable ||| d.rxFifoTrigger ||| fcrRcvrReset ||| fcrTxmtReset)
  else d

def serialSetLineControl : Device := d.writeReg .lcr d.lineControl

def serialReset (stack : UInt16) : Option Device := do
  let d := d.writeReg .mcr (d.readReg .mcr &&& ~~~mcrOut2)
  let d := d.resetFifo
  let d := d.writeReg .lcr (d.readReg .lcr &&& ~~~(lcrDlab ||| lcrBreak))
  let d := d.serialSetLineControl
  let d ← d.serialSetBaud (d.serialGetDivisorFromBaud stack d.currentBaud).2
  return d.writeReg .ier ierAll

def serialDisableUart : Device :=
  let d := d.writeReg .mcr (d.readReg .mcr &&& ~~~mcrOut2)
  if d.fifoPresent then d.writeReg .fcr 0 else d

def setDeviceIsOpened (opened reopen : Bool) : Device :=
  { d with deviceIsOpened := opened, state := { d.state with reopen := reopen } }

/-- `SerialClrRTS` and `SerialClrDTR` come last. Seven data bits and even parity are the default. -/
def serialInitController (around : Surroundings) (config : ConfigData) : Option Device := do
  let d := { d with clockRate := config.clockRate, rxFifoTrigger := 0xc0 }
  let d := d.serialFcInit around.pool (some config)
  let d := { d with lineControl := 0x1a, currentBaud := 1200 }
  let d := (d.setDeviceIsOpened false false).writeReg .ier 0
  let d := d.writeReg .mcr 0
  let d ← d.serialReset around.stack
  let d := d.serialDisableUart.setDeviceIsOpened false false
  return d.writeReg .mcr (d.readReg .mcr &&& ~~~(mcrRts ||| mcrDtr))

def fsccIsOpenedInSync : Bool := has32 d.hw.bar2 (0x40000000 <<< UInt32.ofNat d.channel)

def fsccEnableAsync : Device :=
  let bit := 0x01000000 <<< UInt32.ofNat d.channel
  if has32 d.hw.bar2 bit then d else d.writeBar2 (d.hw.bar2 ||| bit)

/-- The device is opened, unless the other driver of an FSCC card has it. -/
def serialDeviceFileOpen (stack : UInt16) : Option Device := do
  if d.card = .fscc ∧ d.fsccIsOpenedInSync = true then none
  else
    let d := if d.card = .fscc then d.fsccEnableAsync else d
    let d ← d.serialReset stack
    return { d.writeReg .mcr (d.readReg .mcr ||| mcrOut2) with deviceIsOpened := true }

/-! ## Power -/

/-- The middle of `SerialEvtDeviceD0Entry`: the FIFOs, what was saved, and whether the device was
open. -/
def restoreRegisters : Device :=
  let d := if d.fifoPresent then d.resetFifo else d.writeReg .fcr 0
  let d := (d.writeReg .ier d.state.ier).writeReg .lcr d.state.lcr
  if d.state.reopen then
    let d := (d.setDeviceIsOpened true false).writeReg .mcr (d.state.mcr ||| mcrOut2)
    (d.writeReg .ier 0).writeReg .ier ierAll
  else d

/-- The order of the register accesses is that of the source; a register that is only read, to
clear stale interrupts, is left out. -/
def serialEvtDeviceD0Entry (around : Surroundings) : Option Device := do
  let d := (d.writeReg .mcr 0).writeReg .ier 0
  let d ← d.serialSetBaud (d.serialGetDivisorFromBaud around.stack d.currentBaud).2
  return d.restoreRegisters.serialFcInit around.pool none

def serialSaveDeviceState : Device :=
  { d with
    state := { d.state with
      ier := d.readReg .ier
      mcr := d.readReg .mcr
      lcr := d.readReg .lcr } }

/-- `SerialDrainUART` only waits. -/
def serialEvtDeviceD0Exit : Device :=
  if d.deviceIsOpened then
    (d.setDeviceIsOpened false true).serialDisableUart.serialSaveDeviceState
  else d.setDeviceIsOpened false false

/-- The registers of the port and of its board go to their reset values. -/
def losePower (reset : Hardware) : Device := { d with hw := reset }

def powerCycle (reset : Hardware) (around : Surroundings) : Option Device :=
  (d.serialEvtDeviceD0Exit.losePower reset).serialEvtDeviceD0Entry around

/-! ## I/O controls -/

inductive Ioctl
  | setBaudRate (baudRate : UInt32)
  | setLineControl (wordLength parity stopBits : UInt8)
  | setRs485 (enable : Bool)
  | setEchoCancel (enable : Bool)
  | setTermination (enable : Bool)
  | setSampleRate (value : UInt32)
  | setTxTrigger (value : UInt32)
  | setRxTrigger (value : UInt32)
  | setClockRate (value : UInt32)
  | setClockBits (frequency : UInt32) (clockBitsFscc : List UInt8) (clockBits335 : UInt32)
  | setIsochronous (mode : Int)
  | setExternalTransmit (numFrames : UInt32)
  | setFrameLength (numChars : UInt32)
  | set9Bit (enable : Bool)
  | setFixedBaudRate (rate : UInt32)
  deriving DecidableEq, Repr

/-- A fixed baud rate takes the place of the one that is asked for. -/
def effectiveBaud (baudRate : UInt32) : UInt32 :=
  if d.fixedBaudRate ≠ 0xffffffff then d.fixedBaudRate else baudRate

/-- What `SerialEvtIoDeviceControl` does for each of them; `none` is a division by zero. -/
def serialEvtIoDeviceControl (around : Surroundings) : Ioctl → Option (SettingStatus × Device)
  | .setBaudRate baudRate =>
    let baudRate := d.effectiveBaud baudRate
    let (status, divisor) := d.serialGetDivisorFromBaud around.stack baudRate
    if status.ok then
      ({ d with currentBaud := baudRate }.serialSetBaud divisor).map fun d => (status, d)
    else some (status, d)
  | .setLineControl wordLength parity stopBits =>
    match LineControl.lineControlBits wordLength parity stopBits with
    | none => some (.invalidParameter, d)
    | some bits =>
      let d := { d with lineControl := d.lineControl &&& lcrBreak ||| bits }
      some (.success, d.serialSetLineControl)
  | .setRs485 enable => some (.success, d.fastcomSetRs485 enable)
  | .setEchoCancel enable => some (.success, d.fastcomSetEchoCancel enable)
  | .setTermination enable => some (d.fastcomSetTermination enable)
  | .setSampleRate value => some (d.fastcomSetSampleRate value)
  | .setTxTrigger value => some (d.fastcomSetTxTrigger value)
  | .setRxTrigger value => some (d.fastcomSetRxTrigger value)
  | .setClockRate _ => some (.notSupported, d)
  | .setClockBits frequency clockBitsFscc clockBits335 =>
    match d.card with
    | .fscc => some (d.fastcomSetClockBitsFscc around.pool frequency clockBitsFscc)
    | .pci => some (d.fastcomSetClockBitsPci frequency clockBits335)
    | _ => some (.notSupported, d)
  | .setIsochronous mode => some (d.fastcomSetIsochronous mode)
  | .setExternalTransmit numFrames => some (d.fastcomSetExternalTransmit numFrames)
  | .setFrameLength numChars => some (d.fastcomSetFrameLength numChars)
  | .set9Bit enable => some (.success, (d.fastcomSet9Bit enable).2)
  | .setFixedBaudRate rate => some (.success, d.fastcomSetFixedBaudRate rate)

/-- DTR and RTS become what `lines` has in its two low bits. -/
def moveLines (lines : UInt8) : Device :=
  d.writeReg .mcr (d.readReg .mcr &&& ~~~0x03 ||| lines &&& 0x03)

inductive Event
  | ioctl (around : Surroundings) (i : Ioctl)
  | lines (lines : UInt8)

def step : Event → Device → Option Device
  | .ioctl around i, d => (d.serialEvtIoDeviceControl around i).map Prod.snd
  | .lines lines, d => some (d.moveLines lines)

/-- The device is started and then opened. -/
def start (around : Surroundings) (config : ConfigData) : Option Device := do
  let d ← d.serialInitController around config
  let d ← d.serialEvtDeviceD0Entry around
  d.serialDeviceFileOpen around.stack

end SerialFc.Device
