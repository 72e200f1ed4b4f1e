import SerialFc.Properties.CardSettings
import Mathlib.Algebra.Group.Nat.Defs

/-!
# The baud rate of a PCIe port

`IOCTL_SERIAL_SET_BAUD_RATE` on a PCIe port goes through two routines: `SerialGetDivisorFromBaud`,
which does nothing there, and `PCIeSetBaudRate`, whose status `SerialSetBaud` drops.

* `latchSixteenths` — DLM, DLL and the low nibble of DLD as one fixed-point number
* `programsExactly_iff` — for which baud rates the number is the exact divisor
-/

namespace SerialFc

/-- The divisor in sixteenths: DLM, DLL and the low nibble of DLD. -/
def latchSixteenths (hw : Hardware) : Nat :=
  hw.dlm.toNat * 4096 + hw.dll.toNat * 16 + (hw.dld &&& 0x0f).toNat

/-- The divisor that a baud rate takes, in sixteenths and rounded down. -/
def exactSixteenths (baudRate sampleRate : UInt32) : Nat :=
  125000000 * 16 / (baudRate.toNat * sampleRate.toNat)

namespace Device

/-- Either the request fails and changes neither the baud rate nor the divisor, or it succeeds with
the exact divisor, which is one that the latch can hold. -/
def ProgramsExactly (around : Surroundings) (baudRate : UInt32) (d : Device) : Prop :=
  ∃ status d', d.serialEvtIoDeviceControl around (.setBaudRate baudRate) = some (status, d') ∧
    ((status.ok = false ∧ d'.currentBaud = d.currentBaud ∧
        (d'.hw.dlm, d'.hw.dll, d'.hw.dld) = (d.hw.dlm, d.hw.dll, d.hw.dld)) ∨
      (status.ok = true ∧ d'.currentBaud = baudRate ∧
        latchSixteenths d'.hw = exactSixteenths baudRate d.sampleRate ∧
        16 ≤ exactSixteenths baudRate d.sampleRate ∧
        exactSixteenths baudRate d.sampleRate < 2 ^ 20 ∧
        d'.hw.dld &&& 0xf0 = d.hw.dld &&& 0xf0 ∧ d'.hw.lcr = d.hw.lcr))

theorem high_nibble (v w : UInt8) : (v &&& 0xf0 ||| w &&& 0x0f) &&& 0xf0 = v &&& 0xf0 := by
  apply UInt8.toBitVec_inj.mp
  ext i hi
  have hi' : i = 0 ∨ i = 1 ∨ i = 2 ∨ i = 3 ∨ i = 4 ∨ i = 5 ∨ i = 6 ∨ i = 7 := by omega
  rcases hi' with rfl | rfl | rfl | rfl | rfl | rfl | rfl | rfl <;> simp

theorem low_nibble (v w : UInt8) : (v &&& 0xf0 ||| w &&& 0x0f) &&& 0x0f = w &&& 0x0f := by
  apply UInt8.toBitVec_inj.mp
  ext i hi
  have hi' : i = 0 ∨ i = 1 ∨ i = 2 ∨ i = 3 ∨ i = 4 ∨ i = 5 ∨ i = 6 ∨ i = 7 := by omega
  rcases hi' with rfl | rfl | rfl | rfl | rfl | rfl | rfl | rfl <;> simp

theorem toUInt8_nibble (v : UInt32) : (v &&& 0xf).toUInt8 = v.toUInt8 &&& 0x0f := by
  apply UInt8.toBitVec_inj.mp
  simp [UInt32.toUInt8_and]

/-- A number of at most 20 bits is the one that its three registers hold. -/
theorem sixteenths_of_lt {v : UInt32} (h : v.toNat < 2 ^ 20) :
    (v >>> 12).toUInt8.toNat * 4096 + (v >>> 4).toUInt8.toNat * 16 +
      (v.toUInt8 &&& 0x0f).toNat = v.toNat := by
  have hnibble : (v.toUInt8 &&& 0x0f).toNat = v.toNat % 256 % 16 := by
    rw [UInt8.toNat_and]
    exact (Nat.and_two_pow_sub_one_eq_mod _ 4).trans (by rw [UInt32.toNat_toUInt8])
  rw [hnibble]
  simp only [UInt32.toNat_toUInt8, UInt32.toNat_shiftRight, UInt32.toNat_ofNat,
    Nat.shiftRight_eq_div_pow, Nat.reducePow, Nat.reduceMod] at *
  omega

/-- Up to the highest rate the product does not overflow. -/
theorem toNat_pcieDivisor {baudRate sampleRate : UInt32}
    (h : baudRate.toNat * sampleRate.toNat ≤ 125000000) :
    (pcieDivisor baudRate sampleRate).toNat = exactSixteenths baudRate sampleRate := by
  have hclock : (pcieInputFreq * 16).toNat = 125000000 * 16 := by decide
  unfold pcieDivisor exactSixteenths
  rw [UInt32.toNat_div, hclock, UInt32.toNat_mul, Nat.mod_eq_of_lt (by omega)]

/-- The comparison of `PCIeSetBaudRate` is exact. -/
theorem tooHigh_iff {baudRate sampleRate : UInt32} (hrate : sampleRate ≠ 0) :
    baudRate > pcieInputFreq / sampleRate ↔ 125000000 < baudRate.toNat * sampleRate.toNat := by
  have hpos : 0 < sampleRate.toNat :=
    Nat.pos_of_ne_zero fun h => hrate (UInt32.toNat_inj.mp h)
  have hclock : pcieInputFreq.toNat = 125000000 := rfl
  rw [gt_iff_lt, UInt32.lt_iff_toNat_lt, UInt32.toNat_div, hclock, Nat.div_lt_iff_lt_mul hpos]

/-- `SerialGetDivisorFromBaud` returns 1, which is a success. -/
theorem setBaudRate_pcie {d : Device} (hcard : d.card = .pcie)
    (hfixed : d.fixedBaudRate = 0xffffffff) (around : Surroundings) (baudRate : UInt32) :
    d.serialEvtIoDeviceControl around (.setBaudRate baudRate) =
      (({ d with currentBaud := baudRate } : Device).serialSetBaud around.stack).map
        fun d => (.one, d) := by
  have heffective : d.effectiveBaud baudRate = baudRate := by
    unfold effectiveBaud
    exact if_neg (fun h => h hfixed)
  simp [serialEvtIoDeviceControl, heffective, serialGetDivisorFromBaud, hcard, SettingStatus.ok]

theorem ProgramsExactly.bounds {d : Device} (hcard : d.card = .pcie)
    (hfixed : d.fixedBaudRate = 0xffffffff) {around : Surroundings} {baudRate : UInt32}
    (h : d.ProgramsExactly around baudRate) :
    1908 ≤ baudRate.toNat * d.sampleRate.toNat ∧
      baudRate.toNat * d.sampleRate.toNat ≤ 125000000 := by
  obtain ⟨status, d', hrun, hall⟩ := h
  rw [setBaudRate_pcie hcard hfixed] at hrun
  obtain ⟨e, hset, heq⟩ := Option.map_eq_some_iff.mp hrun
  cases heq
  have hdefined : ({ d with currentBaud := baudRate } : Device).BaudDefined :=
    baudDefined_of_some (by exact hcard) hset
  have hprod : baudRate.toNat * d.sampleRate.toNat ≠ 0 := by
    refine Nat.mul_ne_zero (fun h => hdefined.baud_ne_zero (UInt32.toNat_inj.mp h)) fun h => ?_
    exact hdefined.1 (UInt32.toNat_inj.mp h)
  rcases hall with ⟨hfail, -⟩ | ⟨-, -, -, hlow, hhigh, -⟩
  · exact absurd hfail (by decide)
  · unfold exactSixteenths at hlow hhigh
    generalize baudRate.toNat * d.sampleRate.toNat = p at hprod hlow hhigh ⊢
    constructor
    · by_contra hlt
      have hle : 125000000 * 16 / 1907 ≤ 125000000 * 16 / p :=
        Nat.div_le_div_left (by omega) (by omega)
      omega
    · have := Nat.mul_le_of_le_div _ _ _ hlow
      omega

theorem programsExactly_of_bounds {d : Device} (hcard : d.card = .pcie)
    (hfixed : d.fixedBaudRate = 0xffffffff) (around : Surroundings) {baudRate : UInt32}
    (hlow : 1908 ≤ baudRate.toNat * d.sampleRate.toNat)
    (hhigh : baudRate.toNat * d.sampleRate.toNat ≤ 125000000) :
    d.ProgramsExactly around baudRate := by
  have hbaud : baudRate ≠ 0 := by
    rintro rfl
    simp at hlow
  have hne : d.sampleRate ≠ 0 := by
    intro h
    simp [h] at hlow
  have hcontrol := setBaudRate_pcie hcard hfixed around baudRate
  rw [serialSetBaud_pcie (d := { d with currentBaud := baudRate }) hcard (.of_ne_zero hne hbaud),
    Option.map_some] at hcontrol
  have hlatch : pcieLatch around.stack d.hw.dld baudRate d.sampleRate =
      ((pcieDivisor baudRate d.sampleRate >>> 12).toUInt8,
        (pcieDivisor baudRate d.sampleRate >>> 4).toUInt8,
        d.hw.dld &&& 0xf0 ||| (pcieDivisor baudRate d.sampleRate &&& 0xf).toUInt8) := by
    unfold pcieLatch
    exact if_neg (by rw [tooHigh_iff hne]; omega)
  have hdivisor := toNat_pcieDivisor hhigh
  have hbits : exactSixteenths baudRate d.sampleRate < 2 ^ 20 := by
    have hle : exactSixteenths baudRate d.sampleRate ≤ 125000000 * 16 / 1908 :=
      Nat.div_le_div_left hlow (by omega)
    omega
  refine ⟨.one, _, hcontrol, .inr ⟨rfl, rfl, ?_, ?_, hbits, ?_, rfl⟩⟩
  · show _ * 4096 + _ * 16 + (_ &&& (0x0f : UInt8)).toNat = _
    rw [hlatch, toUInt8_nibble, low_nibble, sixteenths_of_lt (by rw [hdivisor]; exact hbits),
      hdivisor]
  · exact (Nat.le_div_iff_mul_le (by omega)).mpr (by omega)
  · show (pcieLatch around.stack d.hw.dld baudRate d.sampleRate).2.2 &&& 0xf0 = _
    rw [hlatch, toUInt8_nibble, high_nibble]

/-- **Baud rate of a PCIe port.** With no fixed baud rate, the request does what it has to do if
and only if the product of baud rate and sampling rate is neither above the clock nor so low that
the divisor takes more than 20 bits. -/
theorem programsExactly_iff {d : Device} (hcard : d.card = .pcie)
    (hfixed : d.fixedBaudRate = 0xffffffff) (around : Surroundings) (baudRate : UInt32) :
    d.ProgramsExactly around baudRate ↔
      1908 ≤ baudRate.toNat * d.sampleRate.toNat ∧
        baudRate.toNat * d.sampleRate.toNat ≤ 125000000 :=
  ⟨fun h => h.bounds hcard hfixed, fun h => programsExactly_of_bounds hcard hfixed around h.1 h.2⟩

/-- A PCIe port after it was opened, with the default settings. -/
def pciePort : Device where
  hw := ⟨0x0f, 0xc1, 0x1a, 0x08, 0, 0x5d, 0x19, 0x01, 0, fun _ => 0, 0xc0, 32, 32, 0, 0, 0x01, 0, 0,
    0, 0, 0, [], []⟩
  vstr := 0
  deviceId := 0x0020
  channel := 0
  fifoPresent := true
  rxFifoTrigger := 0xc0
  clockRate := 125000000
  sampleRate := 16
  txTrigger := 32
  rxTrigger := 32
  rs485 := false
  termination := false
  echoCancel := false
  isochronous := 0
  frameLength := 0
  nineBit := false
  fixedBaudRate := 0xffffffff
  currentBaud := 1200
  lineControl := 0x1a
  acr := 0
  deviceIsOpened := true
  state := ⟨0, 0, 0, false⟩

theorem programsExactly_iff_9600 : pciePort.ProgramsExactly ⟨0, true⟩ 9600 :=
  (programsExactly_iff rfl rfl _ _).mpr (by decide)

/-- Ten million baud succeeds, with what lay on the stack as the divisor. -/
theorem not_programsExactly_tooHigh : ¬pciePort.ProgramsExactly ⟨0x1234, true⟩ 10000000 :=
  fun h => absurd (h.bounds rfl rfl) (by decide)

end Device
end SerialFc
