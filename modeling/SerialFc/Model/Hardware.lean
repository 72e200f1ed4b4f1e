import SerialFc.Model.Indexed

/-!
# The registers that a power cycle loses

The registers of the three families of cards, as the configuration routines reach them, and the
part of the device extension that these routines read and write. What the address of a register
means depends on LCR: with DLAB set the first two are the divisor latch, and on a 16C950 `0xbf`
brings in registers of the 650 family.

The clock generator of a card hangs on pins that the driver moves one by one: it takes in the data
pin when the clock pin rises, and works with what it has taken in once the strobe pin rises.
-/

namespace SerialFc

def lcrDlab : UInt8 := 0x80
def fcrEnable : UInt8 := 0x01
def fcrRcvrReset : UInt8 := 0x02
def fcrTxmtReset : UInt8 := 0x04

/-- The registers of `utils.c`, under the names of their offsets. `lsr` is ICR when written. -/
inductive BoardReg
  | data | ier | fcr | lcr | mcr | lsr | spr
  | fctr | txtrg | rxtrg | mode8x | mode4x
  | mpiolvl | mpioinv | mpiosel | mpiolvlh | mpioselh
  deriving DecidableEq, Repr

/-- `shifted` is what the clock generator has taken in, the latest bit first; `programmed` is what
it works with. -/
@[ext] structure Hardware where
  ier : UInt8
  fcr : UInt8
  lcr : UInt8
  mcr : UInt8
  spr : UInt8
  dll : UInt8
  dlm : UInt8
  dld : UInt8
  efr : UInt8
  icr : UInt8 → UInt8
  fctr : UInt8
  txtrg : UInt8
  rxtrg : UInt8
  mode8x : UInt8
  mode4x : UInt8
  mpiolvl : UInt8
  mpioinv : UInt8
  mpiosel : UInt8
  mpiolvlh : UInt8
  mpioselh : UInt8
  bar2 : UInt32
  shifted : List Bool
  programmed : List Bool

def mpioSdta : UInt8 := 0x01
def mpioSclk : UInt8 := 0x02
def mpioSstb : UInt8 := 0x04

namespace Hardware

variable (hw : Hardware)

/-- The pins of the clock generator move. -/
def drive (width : Nat) (sdta sclkRises sstbRises : Bool) : Hardware :=
  let shifted := if sclkRises then sdta :: hw.shifted else hw.shifted
  { hw with
    shifted := shifted
    programmed := if sstbRises then shifted.take width else hw.programmed }

/-- The clock generator of a PCI card hangs on MPIO pins; the PCIe cards have none. -/
def writeMpiolvl (card : CardType) (v : UInt8) : Hardware :=
  let rises (pin : UInt8) := card == .pci && has v pin && !has hw.mpiolvl pin
  { hw.drive 24 (has v mpioSdta) (rises mpioSclk) (rises mpioSstb) with mpiolvl := v }

/-- The first two addresses are the divisor latch. -/
def dlab : Bool := has hw.lcr lcrDlab

/-- Other registers of the 16C950 take over some addresses. -/
def hidden (card : CardType) : Bool := card == .fscc && hw.lcr == 0xbf

def write (card : CardType) (r : BoardReg) (v : UInt8) : Hardware :=
  match r with
  | .data => { hw with dll := if hw.dlab then v else hw.dll }
  | .ier =>
    { hw with
      dlm := if hw.dlab then v else hw.dlm
      ier := if hw.dlab then hw.ier else v }
  | .fcr =>
    let toDld := card != .fscc && hw.dlab
    { hw with
      efr := if hw.hidden card then v else hw.efr
      dld := if toDld then v else hw.dld
      fcr := if hw.hidden card || toDld then hw.fcr else v }
  | .lcr => { hw with lcr := v }
  | .mcr => { hw with mcr := if hw.hidden card then hw.mcr else v }
  | .lsr =>
    { hw with
      icr :=
        if card == .fscc && !hw.hidden card then Function.update hw.icr hw.spr v else hw.icr }
  | .spr => { hw with spr := if hw.hidden card then hw.spr else v }
  | .fctr => { hw with fctr := v }
  | .txtrg => { hw with txtrg := v }
  | .rxtrg => { hw with rxtrg := v }
  | .mode8x => { hw with mode8x := v }
  | .mode4x => { hw with mode4x := v }
  | .mpiolvl => hw.writeMpiolvl card v
  | .mpioinv => { hw with mpioinv := v }
  | .mpiosel => { hw with mpiosel := v }
  | .mpiolvlh => { hw with mpiolvlh := v }
  | .mpioselh => { hw with mpioselh := v }

/-- Registers that the configuration routines never read are not told apart here. -/
def read (card : CardType) (r : BoardReg) : UInt8 :=
  match r with
  | .ier => if hw.dlab then hw.dlm else hw.ier
  | .fcr => if hw.dlab then hw.dld else 0
  | .lcr => hw.lcr
  | .mcr => if hw.hidden card then 0 else hw.mcr
  | .fctr => hw.fctr
  | .mode8x => hw.mode8x
  | .mode4x => hw.mode4x
  | .mpiolvl => hw.mpiolvl
  | .mpiolvlh => hw.mpiolvlh
  | _ => 0

/-- A write to the port of the board, with the pins of the clock generator of either channel. -/
def writeBar2 (channel : Nat) (v : UInt32) : Hardware :=
  let pin (mask : UInt32) := if channel = 1 then mask <<< 8 else mask
  { hw.drive 160 (has32 v (pin 0x1)) (has32 v (pin 0x2) && !has32 hw.bar2 (pin 0x2))
      (has32 v (pin 0x8) && !has32 hw.bar2 (pin 0x8)) with bar2 := v }

end Hardware

/-! ## The device -/

/-- `SERIAL_DEVICE_STATE` -/
structure DeviceState where
  ier : UInt8
  mcr : UInt8
  lcr : UInt8
  reopen : Bool
  deriving DecidableEq, Repr

/-- A port: its registers, and what the device extension says about its configuration. `vstr` is a
read-only register of the board. `fixedBaudRate` is an `int`, with -1 for none. -/
structure Device where
  hw : Hardware
  vstr : UInt32
  deviceId : UInt16
  channel : Nat
  fifoPresent : Bool
  rxFifoTrigger : UInt8
  clockRate : UInt32
  sampleRate : UInt32
  txTrigger : UInt32
  rxTrigger : UInt32
  rs485 : Bool
  termination : Bool
  echoCancel : Bool
  isochronous : Int
  frameLength : UInt32
  nineBit : Bool
  fixedBaudRate : UInt32
  currentBaud : UInt32
  lineControl : UInt8
  acr : UInt8
  deviceIsOpened : Bool
  state : DeviceState

/-- What a call cannot know beforehand: what lies on the stack where `AppropriateDivisor` is put,
and whether there is pool memory. -/
structure Surroundings where
  stack : UInt16
  pool : Bool
  deriving DecidableEq, Repr

/-- `1` is what `SerialGetDivisorFromBaud` returns on a PCIe card; `NT_SUCCESS` accepts it. -/
inductive SettingStatus
  | success | one | invalidParameter | notSupported | unsuccessful
  deriving DecidableEq, Repr

/-- `NT_SUCCESS` -/
def SettingStatus.ok : SettingStatus → Bool
  | .success | .one => true
  | _ => false

def fastcomGetCardType (deviceId : UInt16) : CardType :=
  if deviceId = 0x0004 ∨ deviceId = 0x0002 ∨ deviceId = 0x000a ∨ deviceId = 0x000b then .pci
  else if deviceId = 0x0020 ∨ deviceId = 0x0021 then .pcie
  else if deviceId = 0x0f ∨ (0x14 ≤ deviceId ∧ deviceId ≤ 0x1f) ∨ (0x22 ≤ deviceId ∧ deviceId ≤ 0x27)
  then .fscc
  else .other

namespace Device

variable (d : Device)

def card : CardType := fastcomGetCardType d.deviceId

def readReg (r : BoardReg) : UInt8 := d.hw.read d.card r

def writeReg (r : BoardReg) (v : UInt8) : Device := { d with hw := d.hw.write d.card r v }

def writeBar2 (v : UInt32) : Device := { d with hw := d.hw.writeBar2 d.channel v }

@[simp] theorem card_writeReg (r : BoardReg) (v : UInt8) : (d.writeReg r v).card = d.card := rfl

/-- `FsccGetFrev` and its kin read the parts of one register. -/
def fsccGetFrev : UInt8 := UInt8.ofNat (d.vstr.toNat % 256)

def fsccGetPrev : UInt8 := UInt8.ofNat (d.vstr.toNat / 256 % 256)

def fsccGetPdev : UInt16 := UInt16.ofNat (d.vstr.toNat / 65536)

/-- `1 << Channel` and the like, as an `UCHAR`. -/
def channelMask (n : Nat) : UInt8 := UInt8.ofNat (n <<< d.channel)

end Device

/-- `new = enable ? current | mask : current & ~mask` -/
def withBits (enable : Bool) (mask current : UInt8) : UInt8 :=
  if enable then current ||| mask else current &&& ~~~mask

def withBits32 (enable : Bool) (mask current : UInt32) : UInt32 :=
  if enable then current ||| mask else current &&& ~~~mask

end SerialFc
