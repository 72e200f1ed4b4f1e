import SerialFc.Model.Power

/-!
# Divisions

What `SerialGetCharTime`, `PCIeSetBaudRate` and `SerialGetDivisorFromBaud` divide by, and which of
the driver's callbacks run them. A step that divides by zero leaves no state.
-/

namespace SerialFc

open Lib

namespace Device

variable (d : Device)

/-! ## The three routines -/

/-- `SerialGetCharTime` -/
def charTimeDivisors : List UInt32 := [d.currentBaud]

/-- `PCIeSetBaudRate` -/
def pcieDivisors (value : UInt32) : List UInt32 :=
  d.sampleRate ::
    if value > pcieInputFreq / d.sampleRate then [] else [value * d.sampleRate]

/-- `SerialGetDivisorFromBaud` divides twice, after it has rejected what would overflow. -/
def divisorsFromBaud (desiredBaud : UInt32) : List UInt32 :=
  let denominator := desiredBaud * d.sampleRate
  if d.card = .pcie then []
  else if toLong desiredBaud ≤ 0 then []
  else if toLong denominator < toLong desiredBaud then []
  else [100, denominator, denominator]

def setBaudDivisors : List UInt32 :=
  if d.card = .pcie then d.pcieDivisors d.currentBaud else []

/-! ## The callbacks -/

/-- `SupportedBaudRates` -/
def supportedBaudRates : List UInt32 :=
  [75, 110, 135, 150, 300, 600, 1200, 1800, 2400, 4800, 7200, 9600, 14400, 19200, 38400, 56000,
    57600, 115200, 128000]

/-- What the present baud rate is divided by when it is programmed again. -/
def programDivisors : List UInt32 := d.divisorsFromBaud d.currentBaud ++ d.setBaudDivisors

/-- The registers at the end of `SerialEvtFileClose`; without interrupts they are left alone. A
break is not part of what is modelled here. -/
def serialEvtFileClose (connected : Bool) : Device :=
  let d :=
    if connected then
      let d := (d.setDeviceIsOpened false false).serialDisableUart
      d.writeReg .mcr (d.readReg .mcr &&& ~~~(mcrDtr ||| mcrRts))
    else d
  if d.card = .fscc then
    d.writeBar2 (d.hw.bar2 &&& ~~~(0x01000000 <<< UInt32.ofNat d.channel))
  else d

/-- What may happen to a device. The registers may get lost at any time. -/
inductive Op
  | initController (around : Surroundings) (config : ConfigData)
  | d0Entry (around : Surroundings)
  | d0Exit
  | losePower (hw : Hardware)
  | fileOpen (stack : UInt16)
  | fileClose (connected : Bool)
  | ioctl (around : Surroundings) (i : Ioctl)
  | lines (lines : UInt8)
  | startTimerLowerRts

/-- The settings of the registry, with the default baud rate. -/
def afterFcInit (around : Surroundings) (config : ConfigData) : Device :=
  { ({ d with clockRate := config.clockRate, rxFifoTrigger := 0xc0 } : Device).serialFcInit
      around.pool (some config) with
    lineControl := 0x1a
    currentBaud := 1200 }

/-- Everything that an operation divides by. -/
def Op.divisors : Op → List UInt32
  | .initController around config =>
    let d := d.afterFcInit around config
    supportedBaudRates.flatMap d.divisorsFromBaud ++ d.programDivisors
  | .d0Entry _ => d.programDivisors
  | .d0Exit => if d.deviceIsOpened then d.charTimeDivisors else []
  | .losePower _ => []
  | .fileOpen _ =>
    if d.card = .fscc ∧ d.fsccIsOpenedInSync = true then [] else d.programDivisors
  | .fileClose connected => if connected then d.charTimeDivisors else []
  | .ioctl around (.setBaudRate baudRate) =>
    let baudRate := d.effectiveBaud baudRate
    d.divisorsFromBaud baudRate ++
      if (d.serialGetDivisorFromBaud around.stack baudRate).1.ok then
        { d with currentBaud := baudRate }.setBaudDivisors
      else []
  | .ioctl _ _ => []
  | .lines _ => []
  | .startTimerLowerRts => d.charTimeDivisors

def Op.step : Op → Device → Option Device
  | .initController around config, d => d.serialInitController around config
  | .d0Entry around, d => d.serialEvtDeviceD0Entry around
  | .d0Exit, d => some d.serialEvtDeviceD0Exit
  | .losePower hw, d => some (d.losePower hw)
  | .fileOpen stack, d => d.serialDeviceFileOpen stack
  | .fileClose connected, d => some (d.serialEvtFileClose connected)
  | .ioctl around i, d => (d.serialEvtIoDeviceControl around i).map Prod.snd
  | .lines v, d => some (d.moveLines v)
  | .startTimerLowerRts, d => some d

end Device

end SerialFc
