import SerialFc.Model.Hardware

/-!
# The settings of a card

The `FastcomSet*` routines of `utils.c`, with the values they check, and the baud rate. Each routine
of a family of cards comes before the one that calls it by the type of the card and, if it did not
fail, remembers the value.
-/

namespace SerialFc.Device

variable (d : Device)

/-! ## The window of a 16C950 -/

/-- LCR is put away while `body` uses the indexed registers. -/
def fsccWindow (body : Device → Device) : Device :=
  (body (d.writeReg .lcr 0)).writeReg .lcr (d.readReg .lcr)

def icrStore (index v : UInt8) : Device := (d.writeReg .spr index).writeReg .lsr v

/-! ## Sampling rate -/

def fastcomSetSampleRatePci (value : UInt32) : SettingStatus × Device :=
  if value ≠ 8 ∧ value ≠ 16 then (.invalidParameter, d)
  else
    (.success, d.writeReg .mode8x
      (withBits (value == 8) (d.channelMask 1) (d.readReg .mode8x)))

def fastcomSetSampleRatePcie (value : UInt32) : SettingStatus × Device :=
  if value ≠ 4 ∧ value ≠ 8 ∧ value ≠ 16 then (.invalidParameter, d)
  else
    let new4xMode := withBits (value == 4) (d.channelMask 1) (d.readReg .mode4x)
    let new8xMode := withBits (value == 8) (d.channelMask 1) (d.readReg .mode8x)
    (.success, (d.writeReg .mode4x new4xMode).writeReg .mode8x new8xMode)

def fastcomSetSampleRateFscc (value : UInt32) : SettingStatus × Device :=
  if value < 4 ∨ value > 16 then (.invalidParameter, d)
  else (.success, d.fsccWindow (·.icrStore tcrOffset value.toUInt8))

def fastcomSetSampleRate (value : UInt32) : SettingStatus × Device :=
  let (status, d) :=
    match d.card with
    | .pci => d.fastcomSetSampleRatePci value
    | .pcie => d.fastcomSetSampleRatePcie value
    | .fscc => d.fastcomSetSampleRateFscc value
    | .other => (.success, d)
  (status, if status.ok then { d with sampleRate := value } else d)

/-! ## Triggers -/

/-- `limit` and `reg` are what tells the PCI and PCIe routines of both triggers apart. -/
def fastcomSetTriggerExar (limit : UInt32) (reg : BoardReg) (value : UInt32) :
    SettingStatus × Device :=
  if value > limit then (.invalidParameter, d)
  else (.success, d.writeReg reg value.toUInt8)

def fastcomSetTriggerFscc (index : UInt8) (value : UInt32) : SettingStatus × Device :=
  if value > 127 then (.invalidParameter, d)
  else (.success, d.fsccWindow (·.icrStore index value.toUInt8))

def fastcomSetTxTrigger (value : UInt32) : SettingStatus × Device :=
  let (status, d) :=
    match d.card with
    | .pci => d.fastcomSetTriggerExar 64 .txtrg value
    | .pcie => d.fastcomSetTriggerExar 255 .txtrg value
    | .fscc => d.fastcomSetTriggerFscc ttlOffset value
    | .other => (.notSupported, d)
  (status, if status.ok then { d with txTrigger := value } else d)

def fastcomSetRxTrigger (value : UInt32) : SettingStatus × Device :=
  let (status, d) :=
    match d.card with
    | .pci => d.fastcomSetTriggerExar 64 .rxtrg value
    | .pcie => d.fastcomSetTriggerExar 255 .rxtrg value
    | .fscc => d.fastcomSetTriggerFscc rtlOffset value
    | .other => (.notSupported, d)
  (status, if status.ok then { d with rxTrigger := value } else d)

/-! ## RS-485, termination and echo cancel -/

/-- The pin that puts the transmitters into RS-485 mode is active low. -/
def fastcomSetRs485Pci (enable : Bool) : Device :=
  let newMcr := withBits enable 0x03 (d.readReg .mcr)
  let newFctr := withBits enable 0x20 (d.readReg .fctr)
  let newMpioLvl := withBits (!enable) (d.channelMask 0x8) (d.readReg .mpiolvl)
  ((d.writeReg .mcr newMcr).writeReg .mpiolvl newMpioLvl).writeReg .fctr newFctr

def fastcomSetRs485Pcie (enable : Bool) : Device :=
  let newMcr := withBits enable 0x04 (d.readReg .mcr)
  let newFctr := withBits enable 0x20 (d.readReg .fctr)
  (d.writeReg .mcr newMcr).writeReg .fctr newFctr

def fastcomSetRs485Fscc (enable : Bool) : Device :=
  let newFcr := withBits32 enable (if d.channel = 1 then 0x00400000 else 0x00040000) d.hw.bar2
  d.fsccWindow fun d =>
    let d := { d.writeReg .spr acrOffset with acr := withBits enable 0x10 d.acr }
    (d.writeReg .lsr d.acr).writeBar2 newFcr

def fastcomSetRs485 (enable : Bool) : Device :=
  { (match d.card with
    | .pci => d.fastcomSetRs485Pci enable
    | .pcie => d.fastcomSetRs485Pcie enable
    | .fscc => d.fastcomSetRs485Fscc enable
    | .other => d) with rs485 := enable }

/-- The pin is active low. -/
def fastcomSetTerminationPcie (enable : Bool) : Device :=
  d.writeReg .mpiolvl (withBits (!enable) (d.channelMask 0x1) (d.readReg .mpiolvl))

def fastcomSetTermination (enable : Bool) : SettingStatus × Device :=
  match d.card with
  | .pcie => (.success, { d.fastcomSetTerminationPcie enable with termination := enable })
  | _ => (.notSupported, d)

def fastcomSetEchoCancelPci (enable : Bool) : Device :=
  d.writeReg .mpiolvl (withBits enable 0x80 (d.readReg .mpiolvl))

def fastcomSetEchoCancelPcie (enable : Bool) : Device :=
  d.writeReg .mpiolvlh (withBits enable (d.channelMask 0x1) (d.readReg .mpiolvlh))

def fastcomSetEchoCancelFscc (enable : Bool) : Device :=
  d.writeBar2 (withBits32 enable (if d.channel = 1 then 0x00100000 else 0x00010000) d.hw.bar2)

def fastcomSetEchoCancel (enable : Bool) : Device :=
  { (match d.card with
    | .pci => d.fastcomSetEchoCancelPci enable
    | .pcie => d.fastcomSetEchoCancelPcie enable
    | .fscc => d.fastcomSetEchoCancelFscc enable
    | .other => d) with echoCancel := enable }

/-! ## What only the FSCC cards have -/

def fastcomSetIsochronousFscc (mode : Int) : SettingStatus × Device :=
  if mode > 10 ∨ mode < -1 then (.invalidParameter, d)
  else
    (.success, d.fsccWindow fun d =>
      (d.icrStore mdmOffset (newMdm mode)).icrStore cksOffset (newCks mode))

def fastcomSetIsochronous (mode : Int) : SettingStatus × Device :=
  let (status, d) :=
    match d.card with
    | .fscc => d.fastcomSetIsochronousFscc mode
    | _ => (.notSupported, d)
  (status, if status.ok then { d with isochronous := mode } else d)

def fastcomSetExternalTransmitFscc (numFrames : UInt32) : SettingStatus × Device :=
  if numFrames > 8191 then (.invalidParameter, d)
  else
    (.success, d.fsccWindow fun d =>
      (d.icrStore exthOffset (numFrames >>> 8).toUInt8).icrStore extOffset numFrames.toUInt8)

/-- Nothing in the device extension remembers this setting. -/
def fastcomSetExternalTransmit (numFrames : UInt32) : SettingStatus × Device :=
  match d.card with
  | .fscc => d.fastcomSetExternalTransmitFscc numFrames
  | _ => (.notSupported, d)

def fastcomSetFrameLengthFscc (numChars : UInt32) : SettingStatus × Device :=
  if numChars = 0 ∨ numChars > 256 then (.invalidParameter, d)
  else if d.fsccGetFrev < 0x20 then (.notSupported, d)
  else (.success, d.fsccWindow (·.icrStore flrOffset (numChars.toUInt8 - 1)))

def fastcomSetFrameLength (numChars : UInt32) : SettingStatus × Device :=
  let (status, d) :=
    match d.card with
    | .fscc => d.fastcomSetFrameLengthFscc numChars
    | _ => (.notSupported, d)
  (status, if status.ok then { d with frameLength := numChars } else d)

def fastcomSet9BitFscc (enable : Bool) : Device :=
  d.fsccWindow (·.icrStore nmrOffset (if enable then 0x01 else 0x00))

def fastcomSet9Bit (enable : Bool) : SettingStatus × Device :=
  match d.card with
  | .fscc => (.success, { d.fastcomSet9BitFscc enable with nineBit := enable })
  | _ => (.notSupported, { d with nineBit := false })

def fastcomSetFixedBaudRate (rate : UInt32) : Device := { d with fixedBaudRate := rate }

/-! ## Clock bits -/

/-- `DISABLE_XTAL` is not defined: byte 15 says whether the card has a crystal. -/
def withXtal (clockBits : List UInt8) : List UInt8 :=
  let xtal :=
    if (d.fsccGetPdev = 0x0f ∧ d.fsccGetPrev ≤ 6) ∨ d.fsccGetPdev = 0x16 then (· &&& 0xfb)
    else (· ||| (0x04 : UInt8))
  clockBits.modify 15 xtal

/-- The bits of `clock_bits[19]` down to `clock_bits[0]`, each byte from its bit 7 down. -/
def clockBitsFscc (clockBits : List UInt8) : List Bool :=
  clockBits.reverse.flatMap fun byte =>
    (List.range 8).reverse.map fun j => byte.toNat.testBit j

/-- The words of one bit: data, clock up, clock down. What the last word left is kept. -/
def clockWords (dta clk : UInt32) : UInt32 → List Bool → List UInt32
  | _, [] => []
  | v, bit :: bits =>
    let up := withBits32 bit dta v ||| clk
    up :: (up &&& ~~~clk) :: clockWords dta clk (up &&& ~~~clk) bits

def fastcomSetClockBitsFscc (pool : Bool) (frequency : UInt32) (clockBits : List UInt8) :
    SettingStatus × Device :=
  if !pool then (.unsuccessful, d)
  else
    let shift (v : UInt32) := if d.channel = 1 then v <<< 8 else v
    let strb := shift 0x8
    let dta := shift 0x1
    let clk := shift 0x2
    let orig := d.hw.bar2
    let base := orig &&& 0xfffff0f0
    let words := base :: clockWords dta clk base (clockBitsFscc (d.withXtal clockBits))
      ++ [(base ||| strb) &&& ~~~clk, orig]
    (.success, { words.foldl writeBar2 d with clockRate := frequency })

/-- Sends the upper bits of a 24-bit word; `data` is what the pins show. -/
def sendClockBits : Nat → UInt32 → UInt8 → Device → UInt8 × Device
  | 0, _, data, d => (data, d)
  | n + 1, tempValue, data, d =>
    let data := withBits (has32 tempValue 0x800000) mpioSdta data
    let d := d.writeReg .mpiolvl data
    let data := data ||| mpioSclk
    let d := d.writeReg .mpiolvl data
    let data := data &&& mpioSdta
    sendClockBits n (tempValue <<< 1) data (d.writeReg .mpiolvl data)

/-- The strobe, and the pins back to what they were. -/
def strobeClockBits (saved data : UInt8) : Device :=
  let data := data &&& 0xf8 ||| mpioSstb
  let d := d.writeReg .mpiolvl data
  let d := d.writeReg .mpiolvl (data &&& ~~~mpioSstb)
  d.writeReg .mpiolvl saved

def fastcomSetClockBitsPci (frequency clockBits : UInt32) : SettingStatus × Device :=
  let saved := d.readReg .mpiolvl
  let sent := sendClockBits 24 (clockBits &&& 0x00ffffff) saved d
  (.success, { sent.2.strobeClockBits saved sent.1 with clockRate := frequency })

/-! ## Baud rate -/

/-- `WRITE_DIVISOR_LATCH` -/
def writeDivisorLatch (divisor : UInt16) : Device :=
  let lineControl := d.readReg .lcr
  let d := d.writeReg .lcr (lineControl ||| lcrDlab)
  let d := d.writeReg .data divisor.toUInt8
  let d := d.writeReg .ier (divisor >>> 8).toUInt8
  d.writeReg .lcr lineControl

/-- A `ULONG` read as a `LONG`. -/
def toLong (v : UInt32) : Int := v.toBitVec.toInt

/-- The divisor that `SerialGetDivisorFromBaud` works out on other cards than PCIe, where -1 is an
invalid baud rate. -/
def calculatedDivisor (clockRate sampleRate desiredBaud : UInt32) : UInt16 :=
  let denominator := desiredBaud * sampleRate
  if toLong desiredBaud ≤ 0 then 0xffff
  else if toLong denominator < toLong desiredBaud then 0xffff
  else
    let maxRemain := clockRate / 100
    let remainder := clockRate % denominator
    let divisor := (clockRate / denominator).toUInt16
    let divisor := if remainder * 2 > clockRate ∧ desiredBaud ≠ 110 then divisor + 1 else divisor
    let divisor :=
      if toLong desiredBaud ≥ 9600 ∧ remainder ≥ maxRemain ∧ remainder + maxRemain < clockRate
      then 0xffff else divisor
    let divisor := if denominator > clockRate then 0xffff else divisor
    if clockRate = 1843200 then
      if desiredBaud = 56000 then 2 else divisor
    else if clockRate = 3072000 then
      if desiredBaud = 14400 then 13 else divisor
    else if clockRate = 4233600 then
      if desiredBaud = 9600 then 28
      else if desiredBaud = 14400 then 18
      else if desiredBaud = 19200 then 14
      else if desiredBaud = 38400 then 7
      else if desiredBaud = 56000 then 5
      else divisor
    else if clockRate = 8000000 then
      if desiredBaud = 14400 then 35
      else if desiredBaud = 56000 then 9
      else divisor
    else divisor

/-- On a PCIe card `*AppropriateDivisor` stays what it was, `stack`. -/
def serialGetDivisorFromBaud (stack : UInt16) (desiredBaud : UInt32) : SettingStatus × UInt16 :=
  if d.card = .pcie then (.one, stack)
  else
    let divisor := calculatedDivisor d.clockRate d.sampleRate desiredBaud
    (if divisor = 0xffff then .invalidParameter else .success, divisor)

def pcieInputFreq : UInt32 := 125000000

/-- The divisor of a PCIe card, in sixteenths. -/
def pcieDivisor (value sampleRate : UInt32) : UInt32 := pcieInputFreq * 16 / (value * sampleRate)

/-- A zero sampling rate or baud rate is divided by. -/
def pcieSetBaudRate (value : UInt32) : Option (SettingStatus × Device) :=
  if d.sampleRate = 0 then none
  else if value > pcieInputFreq / d.sampleRate then some (.invalidParameter, d)
  else if value * d.sampleRate = 0 then none
  else
    let origLcr := d.readReg .lcr
    let d := d.writeReg .lcr (origLcr ||| lcrDlab)
    let divisor := pcieDivisor value d.sampleRate
    let dld := d.readReg .fcr &&& 0xf0 ||| (divisor &&& 0xf).toUInt8
    let d := d.writeReg .ier (divisor >>> 12).toUInt8
    let d := d.writeReg .data (divisor >>> 4).toUInt8
    let d := d.writeReg .fcr dld
    some (.success, d.writeReg .lcr origLcr)

def serialSetBaud (appropriate : UInt16) : Option Device :=
  let d := d.writeDivisorLatch appropriate
  if d.card = .pcie then (d.pcieSetBaudRate d.currentBaud).map Prod.snd else some d

end SerialFc.Device
