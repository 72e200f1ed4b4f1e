import SerialFc.Properties.OpenPort
import Mathlib.Data.Rat.Defs
import Mathlib.Tactic.FieldSimp
import Mathlib.Tactic.Positivity

/-!
# The settings over a power cycle

`SerialEvtDeviceD0Exit`, the loss of all registers, and `SerialEvtDeviceD0Entry`.

* `Programmed` — what the hardware is programmed for, setting by setting
* `Restorable` — a condition on the port before the power cycle
* `restored_iff_restorable` — the power cycle changes no setting if and only if it is met
-/

namespace SerialFc

open Lib

namespace Device

/-! ## What is programmed -/

/-- The sampling rate that the registers stand for. -/
def programmedRate (d : Device) : Nat :=
  match d.card with
  | .pci => if has d.hw.mode8x (d.channelMask 1) then 8 else 16
  | .pcie =>
    if has d.hw.mode4x (d.channelMask 1) then 4
    else if has d.hw.mode8x (d.channelMask 1) then 8
    else 16
  | _ => if d.hw.icr tcrOffset = 0 then 16 else (d.hw.icr tcrOffset).toNat

/-- The divisor that the latch stands for, in sixteenths. -/
def programmedDivisor (d : Device) : Nat :=
  (d.hw.dlm.toNat * 256 + d.hw.dll.toNat) * 16 +
    if d.card = .pcie then (d.hw.dld &&& 0x0f).toNat else 0

/-- The clock frequency: a PCIe card has one, the others have what the clock generator makes of its
bits. -/
def programmedClock (frequency : List Bool → ℚ) (d : Device) : ℚ :=
  if d.card = .pcie then 125000000 else frequency d.hw.programmed

/-- What the hardware is programmed for, setting by setting. What a card does not have counts as
off. -/
structure Programmed where
  clock : List Bool
  sampleRate : Nat
  lineRate : ℚ
  lcr : UInt8
  triggerTables : UInt8
  txTrigger : UInt8
  rxTrigger : UInt8
  rs485 : Bool × Bool
  termination : Bool
  echoCancel : Bool
  isochronous : UInt8 × UInt8
  externalTransmit : UInt8 × UInt8
  frameLength : UInt8
  nineBit : UInt8

def programmed (frequency : List Bool → ℚ) (d : Device) : Programmed where
  clock := if d.card = .pcie then [] else d.hw.programmed
  sampleRate := d.programmedRate
  lineRate := d.programmedClock frequency * 16 / (d.programmedRate * d.programmedDivisor)
  lcr := d.hw.lcr
  triggerTables := d.hw.fctr &&& 0xc0
  txTrigger := if d.card = .fscc then d.hw.icr ttlOffset else d.hw.txtrg
  rxTrigger := if d.card = .fscc then d.hw.icr rtlOffset else d.hw.rxtrg
  rs485 :=
    match d.card with
    | .pci => (has d.hw.fctr 0x20, has d.hw.mpiolvl (d.channelMask 0x8))
    | .pcie => (has d.hw.fctr 0x20, has d.hw.mcr 0x04)
    | _ => (has (d.hw.icr acrOffset) 0x10,
        has32 d.hw.bar2 (if d.channel = 1 then 0x00400000 else 0x00040000))
  termination := d.card == .pcie && has d.hw.mpiolvl (d.channelMask 1)
  echoCancel :=
    match d.card with
    | .pci => has d.hw.mpiolvl 0x80
    | .pcie => has d.hw.mpiolvlh (d.channelMask 1)
    | _ => has32 d.hw.bar2 (if d.channel = 1 then 0x00100000 else 0x00010000)
  isochronous := if d.card = .fscc then (d.hw.icr cksOffset, d.hw.icr mdmOffset) else (0, 0)
  externalTransmit := if d.card = .fscc then (d.hw.icr exthOffset, d.hw.icr extOffset) else (0, 0)
  frameLength := if d.card = .fscc then d.hw.icr flrOffset else 0
  nineBit := if d.card = .fscc then d.hw.icr nmrOffset else 0

/-- The power cycle ends, with everything programmed as before it and LCR as the user has it. -/
def Restored (frequency : List Bool → ℚ) (reset : Hardware) (around : Surroundings) (d : Device) :
    Prop :=
  ∃ d', d.powerCycle reset around = some d' ∧
    d'.programmed frequency = d.programmed frequency ∧ d'.hw.lcr = d.lineControl

/-- A PCI port works with the default clock bits, its divisor latch goes with the clock rate, the
sampling rate and the baud rate that are remembered, and the pin of echo cancel says what is
remembered of it; the divisor latch of a PCIe port is that of its sampling rate and baud rate. An
FSCC port is never restored. -/
def Restorable (reset : Hardware) (around : Surroundings) (d : Device) : Prop :=
  (d.card = .pci ∧ d.hw.programmed = sentBits 24 default335ClockBits ∧
    (d.hw.dlm.toNat * 256 + d.hw.dll.toNat =
      (calculatedDivisor d.clockRate d.sampleRate d.currentBaud).toNat) ∧
    has d.hw.mpiolvl 0x80 = d.echoCancel) ∨
  (d.card = .pcie ∧
    (d.hw.dlm, d.hw.dll, d.hw.dld &&& 0x0f) =
      ((pcieLatch around.stack reset.dld d.currentBaud d.sampleRate).1,
        (pcieLatch around.stack reset.dld d.currentBaud d.sampleRate).2.1,
        (pcieLatch around.stack reset.dld d.currentBaud d.sampleRate).2.2 &&& 0x0f))

instance (reset : Hardware) (around : Surroundings) (d : Device) :
    Decidable (Restorable reset around d) :=
  inferInstanceAs (Decidable (_ ∨ _))

/-! ## The power cycle of an open port -/

theorem serialEvtDeviceD0Exit_exar {d : Device} (hcard : d.card = .pci ∨ d.card = .pcie)
    (hdlab : d.hw.dlab = false) (hopen : d.deviceIsOpened = true) (reset : Hardware) :
    ∃ ier mcr, d.serialEvtDeviceD0Exit.losePower reset = { d with
      hw := reset
      deviceIsOpened := false
      state := ⟨ier, mcr, d.hw.lcr, true⟩ } := by
  let d₀ : Device := { d with deviceIsOpened := false, state := { d.state with reopen := true } }
  obtain ⟨fcr, hdisable⟩ := serialDisableUart_exar (d := d₀) hcard hdlab
  have hexit : d.serialEvtDeviceD0Exit = d₀.serialDisableUart.serialSaveDeviceState := by
    simp only [serialEvtDeviceD0Exit, hopen, if_true]
    rfl
  rw [hexit, hdisable]
  exact ⟨_, _, rfl⟩

theorem lineRate_inj {f r : ℚ} (hf : 0 < f) (hr : 0 < r) {m n : Nat} :
    f * 16 / (r * m) = f * 16 / (r * n) ↔ m = n := by
  have hne : f * 16 ≠ 0 := by positivity
  constructor
  · intro h
    have hinv : r * (m : ℚ) = r * n := inv_injective (mul_left_cancel₀ hne h)
    exact_mod_cast mul_left_cancel₀ hr.ne' hinv
  · rintro rfl
    rfl

theorem programmedRate_pos (d : Device) : 0 < d.programmedRate := by
  unfold programmedRate
  split
  · split <;> decide
  · split
    · decide
    · split <;> decide
  · split
    · decide
    · next h =>
      by_contra hzero
      exact h (UInt8.toNat_inj.mp (Nat.le_zero.mp (Nat.not_lt.mp hzero)))

/-- On a PCI card nothing but the clock bits, the divisor latch and the pin of echo cancel can
differ after a power cycle. -/
theorem restored_iff_pci {reset : Hardware} (hreset : AtReset reset) {frequency : List Bool → ℚ}
    (hfreq : ∀ bits, 0 < frequency bits) {d : Device} (h : OpenPort reset d) (hcard : d.card = .pci)
    (around : Surroundings) :
    Restored frequency reset around d ↔
      d.hw.programmed = sentBits 24 default335ClockBits ∧
      d.hw.dlm.toNat * 256 + d.hw.dll.toNat =
        (calculatedDivisor d.clockRate d.sampleRate d.currentBaud).toNat ∧
      has d.hw.mpiolvl 0x80 = d.echoCancel := by
  have hdlab : d.hw.dlab = false := by
    unfold Hardware.dlab
    rw [h.line]
    exact h.noDlab
  have hs := h.pci hcard
  -- the cycle: what D0 exit saves and D0 entry puts back
  obtain ⟨ier, mcr, hexit⟩ := serialEvtDeviceD0Exit_exar (.inl hcard) hdlab h.opened reset
  have hready : PciReady reset { d with
      hw := reset, deviceIsOpened := false, state := ⟨ier, mcr, d.hw.lcr, true⟩ } :=
    ⟨hcard, hreset.pins, hreset.noDlab, hs.txLimit, hs.rxLimit, fun _ _ => rfl⟩
  obtain ⟨d', hentry, heq, hs', hecho, hclock, hlcr, hdlm, hdll⟩ := hready.entered hdlab around
  have hcycle : d.powerCycle reset around = some d' := by
    unfold powerCycle
    rw [hexit]
    exact hentry
  have hcard' : d'.card = .pci := by
    rw [heq]
    exact hcard
  have hchannel : d'.channel = d.channel := by rw [heq]
  have hmask (n : Nat) : d'.channelMask n = d.channelMask n := by
    unfold channelMask
    rw [hchannel]
  -- the sample rate and the latch afterwards
  have hrate : d'.programmedRate = d.programmedRate := by
    simp only [programmedRate, hcard, hcard', hmask, hs.rate]
    exact congrArg (if · then 8 else 16) hs'.rate
  have hdivisor : d'.programmedDivisor =
      (calculatedDivisor d.clockRate d.sampleRate d.currentBaud).toNat * 16 := by
    have hne : d.card ≠ .pcie := by rw [hcard]; nofun
    have hlatch := latch_toNat (calculatedDivisor d.clockRate d.sampleRate d.currentBaud)
    simp only [programmedDivisor, hcard', hdlm, hdll, latchFor]
    rw [if_neg (by exact hne)]
    exact congrArg (· * 16) hlatch
  have hbefore : d.programmedDivisor = (d.hw.dlm.toNat * 256 + d.hw.dll.toNat) * 16 := by
    simp [programmedDivisor, hcard]
  -- the level of the pin is the setting's, unless channel 4 shares it with echo cancel
  have hlevel (hpin : has d.hw.mpiolvl 0x80 = d.echoCancel) :
      has d'.hw.mpiolvl (d.channelMask 8) = has d.hw.mpiolvl (d.channelMask 8) := by
    by_cases hfour : d.channel = 4
    · have hpins : d.channelMask 8 = 0x80 := by simp [channelMask, hfour]
      rw [hpins, hecho, hpin]
    · exact (hs'.level hfour).trans (hs.level hfour).symm
  have hpos : (0 : ℚ) < d.programmedRate := by exact_mod_cast d.programmedRate_pos
  -- only three fields of `Programmed` are not settled by this
  have hsame : d'.programmed frequency = d.programmed frequency ↔
      d'.hw.programmed = d.hw.programmed ∧ d'.programmedDivisor = d.programmedDivisor ∧
        has d'.hw.mpiolvl 0x80 = has d.hw.mpiolvl 0x80 := by
    constructor
    · intro hall
      have hbits : d'.hw.programmed = d.hw.programmed := by
        simpa [programmed, hcard, hcard'] using congrArg Programmed.clock hall
      refine ⟨hbits, ?_, ?_⟩
      · have hline := congrArg Programmed.lineRate hall
        simp only [programmed, programmedClock, hcard, hcard', hrate, hbits] at hline
        exact (lineRate_inj (hfreq _) hpos).mp hline
      · simpa [programmed, hcard, hcard'] using congrArg Programmed.echoCancel hall
    · rintro ⟨hbits, hdiv, hpin⟩
      have hlev := hlevel (hpin.symm.trans hecho)
      have hline : d'.hw.lcr = d.hw.lcr := hlcr
      have hfctr : has d'.hw.fctr 0x20 = has d.hw.fctr 0x20 := hs'.rs485.trans hs.rs485.symm
      have htx : d'.hw.txtrg = d.hw.txtrg := hs'.tx.trans hs.tx.symm
      have hrx : d'.hw.rxtrg = d.hw.rxtrg := hs'.rx.trans hs.rx.symm
      have hkind : (CardType.pci == .pcie) = false := rfl
      simp [programmed, programmedClock, hcard, hcard', hkind, hrate, hbits, hdiv, hpin, hmask, hlev,
        hs.triggers, hs'.triggers, hfctr, htx, hrx, hline]
  constructor
  · rintro ⟨e, he, hall, -⟩
    cases he.symm.trans hcycle
    obtain ⟨hbits, hdiv, hpin⟩ := hsame.mp hall
    refine ⟨hbits.symm.trans hclock, ?_, hpin.symm.trans hecho⟩
    omega
  · rintro ⟨hbits, hdiv, hpin⟩
    refine ⟨d', hcycle, hsame.mpr ⟨hclock.trans hbits.symm, ?_, hecho.trans hpin.symm⟩, ?_⟩
    · omega
    · exact hlcr.trans h.line

theorem sixteenths_inj {a b c a' b' c' : UInt8} :
    (a.toNat * 256 + b.toNat) * 16 + (c &&& 0x0f).toNat =
        (a'.toNat * 256 + b'.toNat) * 16 + (c' &&& 0x0f).toNat ↔
      (a, b, c &&& 0x0f) = (a', b', c' &&& 0x0f) := by
  have hb := b.toNat_lt
  have hb' := b'.toNat_lt
  have hc : (c &&& 0x0f).toNat ≤ 15 := by
    rw [UInt8.toNat_and]
    exact Nat.and_le_right
  have hc' : (c' &&& 0x0f).toNat ≤ 15 := by
    rw [UInt8.toNat_and]
    exact Nat.and_le_right
  simp only [Prod.mk.injEq, ← UInt8.toNat_inj]
  omega

/-- On a PCIe card nothing but the divisor latch can differ after a power cycle. -/
theorem restored_iff_pcie {reset : Hardware} (hreset : AtReset reset) {frequency : List Bool → ℚ}
    {d : Device} (h : OpenPort reset d) (hcard : d.card = .pcie) (around : Surroundings) :
    Restored frequency reset around d ↔
      (d.hw.dlm, d.hw.dll, d.hw.dld &&& 0x0f) =
        ((pcieLatch around.stack reset.dld d.currentBaud d.sampleRate).1,
          (pcieLatch around.stack reset.dld d.currentBaud d.sampleRate).2.1,
          (pcieLatch around.stack reset.dld d.currentBaud d.sampleRate).2.2 &&& 0x0f) := by
  have hdlab : d.hw.dlab = false := by
    unfold Hardware.dlab
    rw [h.line]
    exact h.noDlab
  have hs := (h.pcie hcard).settings
  -- the cycle: what D0 exit saves and D0 entry puts back
  obtain ⟨ier, mcr, hexit⟩ := serialEvtDeviceD0Exit_exar (.inr hcard) hdlab h.opened reset
  have hready : PcieReady { d with
      hw := reset, deviceIsOpened := false, state := ⟨ier, mcr, d.hw.lcr, true⟩ } :=
    ⟨hcard, hreset.noDlab, hs.txLimit, hs.rxLimit, hs.rate⟩
  obtain ⟨d', hentry, heq, hs', hlcr, hdlm, hdll, hdld⟩ :=
    hready.entered (h.pcie hcard).baud hdlab around
  have hcycle : d.powerCycle reset around = some d' := by
    unfold powerCycle
    rw [hexit]
    exact hentry
  have hcard' : d'.card = .pcie := by
    rw [heq]
    exact hcard
  have hlatch : (d'.hw.dlm, d'.hw.dll, d'.hw.dld) =
      pcieLatch around.stack reset.dld d.currentBaud d.sampleRate := by
    rw [hdlm, hdll, hdld]
    simp only [latchFor]
    rw [if_pos (by exact hcard)]
  have hchannel : d'.channel = d.channel := by rw [heq]
  have hmask (n : Nat) : d'.channelMask n = d.channelMask n := by
    unfold channelMask
    rw [hchannel]
  -- the sample rate afterwards
  have h4x : has d'.hw.mode4x (d.channelMask 1) = has d.hw.mode4x (d.channelMask 1) :=
    hs'.rate4x.trans hs.rate4x.symm
  have h8x : has d'.hw.mode8x (d.channelMask 1) = has d.hw.mode8x (d.channelMask 1) :=
    hs'.rate8x.trans hs.rate8x.symm
  have hrate : d'.programmedRate = d.programmedRate := by
    simp only [programmedRate, hcard, hcard', hmask, h4x, h8x]
  have hpos : (0 : ℚ) < d.programmedRate := by exact_mod_cast d.programmedRate_pos
  -- nothing but the divisor is left to compare
  have hsame : d'.programmed frequency = d.programmed frequency ↔
      d'.programmedDivisor = d.programmedDivisor := by
    constructor
    · intro hall
      have hline := congrArg Programmed.lineRate hall
      simp only [programmed, programmedClock, hcard, hcard', hrate, if_true] at hline
      exact (lineRate_inj (by norm_num) hpos).mp hline
    · intro hdiv
      have hline : d'.hw.lcr = d.hw.lcr := hlcr
      have hfctr : has d'.hw.fctr 0x20 = has d.hw.fctr 0x20 := hs'.rs485.trans hs.rs485.symm
      have hdriver : has d'.hw.mcr 0x04 = has d.hw.mcr 0x04 := hs'.driver.trans hs.driver.symm
      have hterm : has d'.hw.mpiolvl (d.channelMask 1) = has d.hw.mpiolvl (d.channelMask 1) :=
        hs'.termination.trans hs.termination.symm
      have hecho : has d'.hw.mpiolvlh (d.channelMask 1) = has d.hw.mpiolvlh (d.channelMask 1) :=
        hs'.echo.trans hs.echo.symm
      have htx : d'.hw.txtrg = d.hw.txtrg := hs'.tx.trans hs.tx.symm
      have hrx : d'.hw.rxtrg = d.hw.rxtrg := hs'.rx.trans hs.rx.symm
      simp [programmed, programmedClock, hcard, hcard', hrate, hdiv, hmask, hs.triggers,
        hs'.triggers, hfctr, hdriver, hterm, hecho, htx, hrx, hline]
  have hdivisor : d'.programmedDivisor = d.programmedDivisor ↔
      (d'.hw.dlm, d'.hw.dll, d'.hw.dld &&& 0x0f) = (d.hw.dlm, d.hw.dll, d.hw.dld &&& 0x0f) := by
    simp only [programmedDivisor, hcard, hcard', if_true]
    exact sixteenths_inj
  rw [← hlatch]
  constructor
  · rintro ⟨e, he, hall, -⟩
    cases he.symm.trans hcycle
    exact (hdivisor.mp (hsame.mp hall)).symm
  · intro hall
    exact ⟨d', hcycle, hsame.mpr (hdivisor.mpr hall.symm), hlcr.trans h.line⟩

/-- On an FSCC card LCR ends as `0xbf`. -/
theorem not_restored_fscc {reset : Hardware} {frequency : List Bool → ℚ} {d : Device}
    (h : OpenPort reset d) (hcard : d.card = .fscc) (around : Surroundings) :
    ¬Restored frequency reset around d := by
  rintro ⟨d', hcycle, -, hline⟩
  have hexit : SamePort d (d.serialEvtDeviceD0Exit.losePower reset) := by
    unfold serialEvtDeviceD0Exit
    split
    · unfold serialDisableUart
      dsimp only
      split <;> exact ⟨rfl, rfl⟩
    · exact ⟨rfl, rfl⟩
  simp only [powerCycle, serialEvtDeviceD0Entry, Option.bind_eq_bind, Option.bind_eq_some_iff,
    Option.pure_def, Option.some.injEq] at hcycle
  obtain ⟨e, hset, rfl⟩ := hcycle
  have hid : SamePort d e.restoreRegisters := by
    have hbaud := sameLine_serialSetBaud hset
    exact hexit.trans (.trans ⟨hbaud.deviceId, hbaud.lineControl⟩ (samePort_restoreRegisters e))
  have hkind : e.restoreRegisters.card = .fscc :=
    (congrArg fastcomGetCardType hid.deviceId).trans hcard
  rw [lcr_serialFcInit_fscc hkind] at hline
  have hbit := h.noDlab
  rw [← hline] at hbit
  exact absurd hbit (by decide)

/-- **Power cycle.** On an open port, whatever I/O controls came before, everything is programmed
after a power cycle as before it if and only if the port is restorable. -/
theorem restored_iff_restorable {reset : Hardware} (hreset : AtReset reset)
    {frequency : List Bool → ℚ} (hfreq : ∀ bits, 0 < frequency bits) {vstr : UInt32}
    {deviceId : UInt16} {channel : Nat} {fifoPresent : Bool} {first : Surroundings}
    {config : ConfigData} {d₀ d : Device} {es : List Event}
    (hstart : (fresh reset vstr deviceId channel fifoPresent).start first config = some d₀)
    (hrun : run step es d₀ = some d) (hcard : d.card ≠ .other) (around : Surroundings) :
    Restored frequency reset around d ↔ Restorable reset around d := by
  have hopen : OpenPort reset d :=
    run_invariant (fun _ _ _ hstep h => OpenPort.step hstep h) hrun (openPort_start hreset hstart)
  unfold Restorable
  cases hkind : d.card with
  | pci =>
    rw [restored_iff_pci hreset hfreq hopen hkind]
    simp
  | pcie =>
    rw [restored_iff_pcie hreset hopen hkind]
    simp
  | fscc =>
    refine iff_of_false (not_restored_fscc hopen hkind around) ?_
    simp
  | other => exact absurd hkind hcard

/-- A PCI port that was opened and set to 9600 baud. -/
theorem restored_iff_restorable_pci :
    ∃ d₀ d, (fresh zeroHardware 0 0x0004 0 true).start calm plainConfig = some d₀ ∧
      run step [.ioctl calm (.setBaudRate 9600)] d₀ = some d ∧
      Restored (fun _ => 18432000) zeroHardware calm d := by
  have hreached : (((fresh zeroHardware 0 0x0004 0 true).start calm plainConfig).bind
      (run step [.ioctl calm (.setBaudRate 9600)])).any
        (fun d => decide (d.card ≠ .other ∧ Restorable zeroHardware calm d)) = true := by
    decide +kernel
  obtain ⟨d, hd, hcond⟩ := (Option.any_eq_true _ _).mp hreached
  obtain ⟨d₀, hstart, hrun⟩ := Option.bind_eq_some_iff.mp hd
  have hcond := of_decide_eq_true hcond
  exact ⟨d₀, d, hstart, hrun, (restored_iff_restorable atReset_zeroHardware
    (fun _ => by norm_num) hstart hrun hcond.1 calm).mpr hcond.2⟩

/-- An FSCC port that was just opened comes back with LCR `0xbf`. -/
theorem fscc_not_restored :
    ∃ d, (fresh zeroHardware 0 0x000f 0 true).start calm plainConfig = some d ∧
      (d.powerCycle zeroHardware calm).map (·.hw.lcr) = some 0xbf ∧
      ¬Restored (fun _ => 18432000) zeroHardware calm d := by
  have hopened : ((fresh zeroHardware 0 0x000f 0 true).start calm plainConfig).any
      (fun d => decide (d.card = .fscc ∧
        (d.powerCycle zeroHardware calm).map (·.hw.lcr) = some 0xbf)) = true := by
    decide +kernel
  obtain ⟨d, hstart, hd⟩ := (Option.any_eq_true _ _).mp hopened
  obtain ⟨hcard, hlcr⟩ := of_decide_eq_true hd
  exact ⟨d, hstart, hlcr,
    not_restored_fscc (openPort_start atReset_zeroHardware hstart) hcard calm⟩

end Device
end SerialFc
