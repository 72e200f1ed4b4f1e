import SerialFc.Model.BoardSettings

/-!
# How the clock bits go out

`FastcomSetClockBitsFSCC` and `FastcomSetClockBitsPCI` write by write: the array of words that the
first one fills and sends in one go, and the values that the second one gives the pins.
-/

namespace SerialFc

/-! ## FSCC cards -/

/-- `data` and `data_index`. -/
structure ClockArray where
  data : Vector UInt32 323
  dataIndex : Nat
  deriving DecidableEq

namespace ClockArray

/-- Pool memory is zeroed. -/
def allocated : ClockArray := ⟨Vector.replicate 323 0, 0⟩

/-- `data[data_index++] = v`, which must not leave the array. -/
def put (v : UInt32) (a : ClockArray) : Option ClockArray :=
  if h : a.dataIndex < 323 then some ⟨a.data.set a.dataIndex v h, a.dataIndex + 1⟩ else none

/-- What `WRITE_PORT_BUFFER_ULONG` sends. -/
def words (a : ClockArray) : List UInt32 := a.data.toList.take a.dataIndex

end ClockArray

/-- One turn of the inner loop: `new_fcr_value` and the array. -/
def putClockBit (dta clk : UInt32) (s : UInt32 × ClockArray) (bit : Bool) :
    Option (UInt32 × ClockArray) := do
  let up := withBits32 bit dta s.1 ||| clk
  let a ← s.2.put up
  let a ← a.put (up &&& ~~~clk)
  return (up &&& ~~~clk, a)

def putClockByte (dta clk : UInt32) (s : UInt32 × ClockArray) (byte : UInt8) :
    Option (UInt32 × ClockArray) :=
  (List.range 8).reverse.foldlM (fun s j => putClockBit dta clk s ((byte >>> j.toUInt8) &&& 1 != 0)) s

namespace Device

variable (d : Device)

/-- `strb_value`, `dta_value` and `clk_value` of a channel. -/
def clockMask (v : UInt32) : UInt32 := if d.channel = 1 then v <<< 8 else v

/-- The array that `FastcomSetClockBitsFSCC` fills. -/
def clockArray (clockBits : List UInt8) : Option ClockArray := do
  let origFcrValue := d.hw.bar2
  let newFcrValue := origFcrValue &&& 0xfffff0f0
  let bytes := d.withXtal clockBits
  let a ← ClockArray.allocated.put newFcrValue
  let s ← (List.range 20).reverse.foldlM
    (fun s i => putClockByte (d.clockMask 0x1) (d.clockMask 0x2) s (bytes.getD i 0)) (newFcrValue, a)
  let a ← s.2.put ((newFcrValue ||| d.clockMask 0x8) &&& ~~~d.clockMask 0x2)
  a.put origFcrValue

/-! ## PCI cards -/

/-- The values that the loop of `FastcomSetClockBitsPCI` writes. -/
def sendClockValues : Nat → UInt32 → UInt8 → List UInt8
  | 0, _, _ => []
  | n + 1, tempValue, data =>
    let bit := withBits (has32 tempValue 0x800000) mpioSdta data
    let up := bit ||| mpioSclk
    let down := up &&& mpioSdta
    bit :: up :: down :: sendClockValues n (tempValue <<< 1) down

/-- What the loop leaves in `data`. -/
def lastClockValue (saved : UInt8) (values : List UInt8) : UInt8 := values.getLast?.getD saved

/-- All that `FastcomSetClockBitsPCI` writes to MPIOLVL. -/
def clockValues (clockBits : UInt32) (saved : UInt8) : List UInt8 :=
  let sent := sendClockValues 24 (clockBits &&& 0x00ffffff) saved
  let strobe := lastClockValue saved sent &&& 0xf8 ||| mpioSstb
  sent ++ [strobe, strobe &&& ~~~mpioSstb, saved]

end Device

end SerialFc
