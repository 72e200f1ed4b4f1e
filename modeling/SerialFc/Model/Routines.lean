import SerialFc.Model.ReadBack
import SerialFc.Model.Power

/-!
# The routines of a FSCC port

The routines of `utils.c` that get by the indexed registers of a 16C950 at what it can do, one call
after the other with no interrupt in between: those that set a feature, those that get it, the one
that reads the level of the transmit FIFO and the one that initialises the triggers.
-/

namespace SerialFc

namespace Device

variable (d : Device)

/-- The address of MCR, which shows `level` while bit 7 of ACR is set. -/
def readTfl (level : UInt8) : UInt8 :=
  if !d.hw.hidden d.card && has (d.hw.icr acrOffset) 0x80 then level else d.readReg .mcr

/-- `FastcomGetTxFifoFillFSCC`, with `level` bytes in the FIFO. -/
def fastcomGetTxFifoFillFscc (level : UInt8) : UInt8 × Device :=
  let shown := (d.writeReg .lcr 0).icrStore acrOffset (d.acr ||| 0x80)
  (shown.readTfl level, shown.closeIcr (d.readReg .lcr))

end Device

/-! ## Features -/

inductive Feature
  | sampleRate | txTrigger | rxTrigger | rs485 | isochronous | externalTransmit | frameLength
  | nineBit
  deriving DecidableEq, Repr

/-- The routine that gets a feature. `none` says that it writes no value. -/
def Feature.get : Feature → Device → Option Value × Device
  | .sampleRate, d => (some (.ulong d.sampleRate), d)
  | .txTrigger, d => (d.fastcomGetTxTrigger.1.map .ulong, d.fastcomGetTxTrigger.2)
  | .rxTrigger, d => (d.fastcomGetRxTrigger.1.map .ulong, d.fastcomGetRxTrigger.2)
  | .rs485, d => (d.fastcomGetRs485.map .boolean, d)
  | .isochronous, d => (d.fastcomGetIsochronous.1.map .long, d.fastcomGetIsochronous.2)
  | .externalTransmit, d =>
    (d.fastcomGetExternalTransmit.1.map .ulong, d.fastcomGetExternalTransmit.2)
  | .frameLength, d => (d.fastcomGetFrameLength.1.map .ulong, d.fastcomGetFrameLength.2)
  | .nineBit, d => (d.fastcomGet9Bit.1.map .boolean, d.fastcomGet9Bit.2)

/-! ## Calls -/

inductive FsccRoutine
  | setSampleRate (value : UInt32)
  | setTxTrigger (value : UInt32)
  | setRxTrigger (value : UInt32)
  | setRs485 (enable : Bool)
  | setIsochronous (mode : Int)
  | setExternalTransmit (numFrames : UInt32)
  | setFrameLength (numChars : UInt32)
  | set9Bit (enable : Bool)
  | get (f : Feature)
  | getTxFifoFill (level : UInt8)
  | initTriggers
  deriving DecidableEq

namespace FsccRoutine

/-- The feature that a routine sets, and to what. -/
def sets : FsccRoutine → Option (Feature × Value)
  | setSampleRate value => some (.sampleRate, .ulong value)
  | setTxTrigger value => some (.txTrigger, .ulong value)
  | setRxTrigger value => some (.rxTrigger, .ulong value)
  | setRs485 enable => some (.rs485, .boolean enable)
  | setIsochronous mode => some (.isochronous, .long mode)
  | setExternalTransmit numFrames => some (.externalTransmit, .ulong numFrames)
  | setFrameLength numChars => some (.frameLength, .ulong numChars)
  | set9Bit enable => some (.nineBit, .boolean enable)
  | _ => none

/-- The status and the device, for the routines that set something. -/
def perform : FsccRoutine → Device → SettingStatus × Device
  | setSampleRate value, d => d.fastcomSetSampleRate value
  | setTxTrigger value, d => d.fastcomSetTxTrigger value
  | setRxTrigger value, d => d.fastcomSetRxTrigger value
  | setRs485 enable, d => (.success, d.fastcomSetRs485 enable)
  | setIsochronous mode, d => d.fastcomSetIsochronous mode
  | setExternalTransmit numFrames, d => d.fastcomSetExternalTransmit numFrames
  | setFrameLength numChars, d => d.fastcomSetFrameLength numChars
  | set9Bit enable, d => d.fastcomSet9Bit enable
  | get f, d => (.success, (f.get d).2)
  | getTxFifoFill level, d => (.success, (d.fastcomGetTxFifoFillFscc level).2)
  | initTriggers, d => (.success, d.fastcomInitTriggers)

end FsccRoutine

/-- A port, and what each feature was successfully set to last. -/
structure Port950 where
  device : Device
  last : Feature → Option Value

namespace Port950

/-- What is remembered after a call. -/
def remember (r : FsccRoutine) (p : Port950) : Feature → Option Value :=
  match r.sets with
  | some (f, v) => if (r.perform p.device).1.ok then Function.update p.last f (some v) else p.last
  | none => p.last

/-- One call. -/
def step (r : FsccRoutine) (p : Port950) : Option Port950 :=
  some ⟨(r.perform p.device).2, p.remember r⟩

end Port950

end SerialFc
