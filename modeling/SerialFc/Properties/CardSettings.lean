import SerialFc.Model.Power

/-!
# What the settings of a card become

Each `FastcomSet*` routine of a PCI or PCIe card as one change of the registers, and from these what
`SerialFcInit`, the baud rate and `SerialEvtDeviceD0Entry` leave.

* `sendClockBits_spec` — the clock generator has taken in the word, its highest bit first
* `serialSetBaud_present` — the divisor latch after the present baud rate was set
* `serialEvtDeviceD0Entry_eq` — the registers with which `SerialFcInit` begins
-/

namespace SerialFc

/-! ## Bits -/

theorem withBits_true_and_self (mask v : UInt8) : withBits true mask v &&& mask = mask := by
  apply UInt8.toBitVec_inj.mp
  ext i
  simp [withBits]
  grind

/-- The bits that were written are read. -/
theorem has_withBits_self (enable : Bool) (mask v : UInt8) :
    has (withBits enable mask v) mask = (enable && mask != 0) := by
  unfold withBits has
  cases enable with
  | true =>
    have h : (v ||| mask) &&& mask = mask := withBits_true_and_self mask v
    simp [h]
  | false =>
    have h : v &&& ~~~mask &&& mask = 0 := by rw [UInt8.and_assoc]; simp
    simp [h]

theorem withBits_and_of_disjoint {mask k : UInt8} (h : mask &&& k = 0) (enable : Bool) (v : UInt8) :
    withBits enable mask v &&& k = v &&& k := by
  have hbit (i : Nat) (hi : i < 8) : (mask.toBitVec[i] && k.toBitVec[i]) = false := by
    have := congrArg (fun x : UInt8 => x.toBitVec[i]) h
    simpa using this
  apply UInt8.toBitVec_inj.mp
  ext i hi
  have := hbit i hi
  cases enable <;> simp [withBits] <;> grind

/-- The others are read as before. -/
theorem has_withBits_of_disjoint {mask k : UInt8} (h : mask &&& k = 0) (enable : Bool) (v : UInt8) :
    has (withBits enable mask v) k = has v k := by
  simp only [has, withBits_and_of_disjoint h]

theorem has_eq_of_and_eq {v w k mask : UInt8} (h : v &&& mask = w &&& mask) (hk : k &&& mask = k) :
    has v k = has w k := by
  have hv (x : UInt8) : x &&& k = x &&& mask &&& k := by
    rw [UInt8.and_assoc, UInt8.and_comm mask k, hk]
  simp only [has, hv v, hv w, h]

namespace Hardware

/-- As long as the three pins of the clock generator do not move, writing MPIOLVL does no more than
that. -/
theorem writeMpiolvl_of_quiet {hw : Hardware} {v : UInt8} (h : v &&& 0x07 = hw.mpiolvl &&& 0x07)
    (card : CardType) : hw.writeMpiolvl card v = { hw with mpiolvl := v } := by
  have hclk : has v mpioSclk = has hw.mpiolvl mpioSclk := has_eq_of_and_eq h (by decide)
  have hstb : has v mpioSstb = has hw.mpiolvl mpioSstb := has_eq_of_and_eq h (by decide)
  simp [writeMpiolvl, drive, hclk, hstb]

end Hardware

namespace Device

/-- The pin of RS-485 is the one of echo cancel, or none that has another use. -/
theorem channelMask_eight (d : Device) :
    (d.channel = 4 ∧ d.channelMask 8 = 0x80) ∨ d.channelMask 8 &&& 0x87 = 0 := by
  unfold channelMask
  match hc : d.channel with
  | 0 | 1 | 2 | 3 | 4 => decide
  | n + 5 =>
    have h : 8 <<< (n + 5) = 256 * 2 ^ n := by
      rw [Nat.shiftLeft_eq, Nat.pow_add]
      omega
    have hzero : UInt8.ofNat (8 <<< (n + 5)) = 0 := by
      apply UInt8.toNat_inj.mp
      rw [h, UInt8.toNat_ofNat']
      simp
    exact .inr (by rw [hzero]; rfl)

theorem and_eq_zero_of_sub {v k mask : UInt8} (h : v &&& mask = 0) (hk : k &&& mask = k) :
    v &&& k = 0 := by
  rw [← hk, UInt8.and_comm k, ← UInt8.and_assoc, h, UInt8.zero_and]

theorem channelMask_eight_low (d : Device) : d.channelMask 8 &&& 0x07 = 0 := by
  rcases d.channelMask_eight with ⟨-, h⟩ | h
  · rw [h]
    rfl
  · exact and_eq_zero_of_sub h (by decide)

theorem channelMask_eight_high {d : Device} (hc : d.channel ≠ 4) :
    d.channelMask 8 &&& 0x80 = 0 := by
  rcases d.channelMask_eight with ⟨h, -⟩ | h
  · exact absurd h hc
  · exact and_eq_zero_of_sub h (by decide)

/-! ## PCI -/

/-- Which registers each setting moves on a PCI card. -/
theorem fastcomSetRs485_pci {d : Device} (hcard : d.card = .pci) (enable : Bool) :
    d.fastcomSetRs485 enable =
      { d with
        hw := { d.hw with
          mcr := withBits enable 0x03 d.hw.mcr
          mpiolvl := withBits (!enable) (d.channelMask 0x8) d.hw.mpiolvl
          fctr := withBits enable 0x20 d.hw.fctr }
        rs485 := enable } := by
  have hquiet : withBits (!enable) (d.channelMask 0x8) d.hw.mpiolvl &&& 0x07 =
      d.hw.mpiolvl &&& 0x07 :=
    withBits_and_of_disjoint d.channelMask_eight_low _ _
  have hid : fastcomGetCardType d.deviceId = .pci := hcard
  have hclk : has (withBits (!enable) (d.channelMask 0x8) d.hw.mpiolvl) mpioSclk =
      has d.hw.mpiolvl mpioSclk := has_eq_of_and_eq hquiet (by decide)
  have hstb : has (withBits (!enable) (d.channelMask 0x8) d.hw.mpiolvl) mpioSstb =
      has d.hw.mpiolvl mpioSstb := has_eq_of_and_eq hquiet (by decide)
  simp [fastcomSetRs485, fastcomSetRs485Pci, card, hid, readReg, writeReg, Hardware.read,
    Hardware.write, Hardware.hidden, Hardware.writeMpiolvl, Hardware.drive, hclk, hstb]

theorem fastcomSetEchoCancel_pci {d : Device} (hcard : d.card = .pci) (enable : Bool) :
    d.fastcomSetEchoCancel enable =
      { d with
        hw := { d.hw with mpiolvl := withBits enable 0x80 d.hw.mpiolvl }
        echoCancel := enable } := by
  have hquiet : withBits enable 0x80 d.hw.mpiolvl &&& 0x07 = d.hw.mpiolvl &&& 0x07 :=
    withBits_and_of_disjoint (by decide) _ _
  have hid : fastcomGetCardType d.deviceId = .pci := hcard
  simp [fastcomSetEchoCancel, fastcomSetEchoCancelPci, card, hid, readReg, writeReg, Hardware.read,
    Hardware.write, Hardware.writeMpiolvl_of_quiet hquiet]

theorem fastcomSetSampleRate_pci {d : Device} (hcard : d.card = .pci) (value : UInt32) :
    (d.fastcomSetSampleRate value).2 =
      { d with
        hw := { d.hw with
          mode8x :=
            if value = 8 ∨ value = 16 then withBits (value == 8) (d.channelMask 1) d.hw.mode8x
            else d.hw.mode8x }
        sampleRate := if value = 8 ∨ value = 16 then value else d.sampleRate } := by
  have hid : fastcomGetCardType d.deviceId = .pci := hcard
  by_cases h : value = 8 ∨ value = 16
  · have h' : ¬(value ≠ 8 ∧ value ≠ 16) := by tauto
    simp [fastcomSetSampleRate, fastcomSetSampleRatePci, card, hid, h, h', SettingStatus.ok,
      readReg, writeReg, Hardware.read, Hardware.write]
  · have h' : value ≠ 8 ∧ value ≠ 16 := by tauto
    simp [fastcomSetSampleRate, fastcomSetSampleRatePci, card, hid, h', SettingStatus.ok]

/-- The highest trigger level of an Exar chip. -/
def triggerLimit : CardType → UInt32
  | .pci => 64
  | _ => 255

/-- A level over the limit is refused. -/
theorem fastcomSetTriggerExar_eq (d : Device) (limit : UInt32) (reg : BoardReg) (value : UInt32) :
    d.fastcomSetTriggerExar limit reg value =
      if value ≤ limit then (.success, d.writeReg reg value.toUInt8) else (.invalidParameter, d) := by
  unfold fastcomSetTriggerExar
  by_cases h : value ≤ limit
  · rw [if_pos h, if_neg (UInt32.not_lt.mpr h)]
  · rw [if_neg h, if_pos (UInt32.not_le.mp h)]

/-- A level that was refused is not remembered either. -/
theorem fastcomSetTxTrigger_exar {d : Device} {limit : UInt32}
    (hcard : d.card = .pci ∨ d.card = .pcie) (hlimit : triggerLimit d.card = limit)
    (value : UInt32) :
    (d.fastcomSetTxTrigger value).2 =
      { d with
        hw := { d.hw with
          txtrg := if value ≤ limit then value.toUInt8 else d.hw.txtrg }
        txTrigger := if value ≤ limit then value else d.txTrigger } := by
  subst hlimit
  rcases hcard with hcard | hcard
  all_goals
    simp only [fastcomSetTxTrigger, fastcomSetTriggerExar_eq, hcard, triggerLimit]
    split <;> rfl

theorem fastcomSetRxTrigger_exar {d : Device} {limit : UInt32}
    (hcard : d.card = .pci ∨ d.card = .pcie) (hlimit : triggerLimit d.card = limit)
    (value : UInt32) :
    (d.fastcomSetRxTrigger value).2 =
      { d with
        hw := { d.hw with
          rxtrg := if value ≤ limit then value.toUInt8 else d.hw.rxtrg }
        rxTrigger := if value ≤ limit then value else d.rxTrigger } := by
  subst hlimit
  rcases hcard with hcard | hcard
  all_goals
    simp only [fastcomSetRxTrigger, fastcomSetTriggerExar_eq, hcard, triggerLimit]
    split <;> rfl

/-- What only an FSCC card has leaves the others as they are. -/
theorem notSupported_of_exar {d : Device} (hcard : d.card = .pci ∨ d.card = .pcie) :
    (∀ mode, (d.fastcomSetIsochronous mode).2 = d) ∧
      (∀ n, (d.fastcomSetFrameLength n).2 = d) ∧
      (∀ n, (d.fastcomSetExternalTransmit n).2 = d) ∧
      ∀ enable, (d.fastcomSet9Bit enable).2 = { d with nineBit := false } := by
  rcases hcard with hcard | hcard <;>
    simp [fastcomSetIsochronous, fastcomSetFrameLength, fastcomSetExternalTransmit,
      fastcomSet9Bit, hcard, SettingStatus.ok]

/-- All settings of the registry together, on a PCI card. -/
theorem initSettings_pci {d : Device} (hcard : d.card = .pci) (c : ConfigData) :
    d.initSettings c =
      { d with
        hw := { d.hw with
          mcr := withBits c.rs485 0x03 d.hw.mcr
          fctr := withBits c.rs485 0x20 d.hw.fctr
          mpiolvl :=
            withBits c.echoCancel 0x80 (withBits (!c.rs485) (d.channelMask 0x8) d.hw.mpiolvl)
          mode8x :=
            if c.sampleRate = 8 ∨ c.sampleRate = 16 then
              withBits (c.sampleRate == 8) (d.channelMask 1) d.hw.mode8x
            else d.hw.mode8x
          txtrg := if c.txTrigger ≤ 64 then c.txTrigger.toUInt8 else d.hw.txtrg
          rxtrg := if c.rxTrigger ≤ 64 then c.rxTrigger.toUInt8 else d.hw.rxtrg }
        rs485 := c.rs485
        sampleRate := if c.sampleRate = 8 ∨ c.sampleRate = 16 then c.sampleRate else d.sampleRate
        txTrigger := if c.txTrigger ≤ 64 then c.txTrigger else d.txTrigger
        rxTrigger := if c.rxTrigger ≤ 64 then c.rxTrigger else d.rxTrigger
        echoCancel := c.echoCancel
        nineBit := false
        fixedBaudRate := c.fixedBaudRate } := by
  have hlimit (d : Device) (hcard : d.card = .pci) : triggerLimit d.card = 64 := by rw [hcard]; rfl
  have hterm (d : Device) (hcard : d.card = .pci) (enable : Bool) :
      (d.fastcomSetTermination enable).2 = d := by simp [fastcomSetTermination, hcard]
  simp only [initSettings]
  rw [fastcomSetRs485_pci hcard, fastcomSetSampleRate_pci (by exact hcard),
    fastcomSetTxTrigger_exar (by exact .inl hcard) (hlimit _ (by exact hcard)),
    fastcomSetRxTrigger_exar (by exact .inl hcard) (hlimit _ (by exact hcard)),
    hterm _ (by exact hcard), fastcomSetEchoCancel_pci (by exact hcard),
    (notSupported_of_exar (by exact .inl hcard)).1, (notSupported_of_exar (by exact .inl hcard)).2.1,
    (notSupported_of_exar (by exact .inl hcard)).2.2.2]
  rfl

/-! ## PCIe -/

/-- Which registers each setting moves on a PCIe card. -/
theorem fastcomSetRs485_pcie {d : Device} (hcard : d.card = .pcie) (enable : Bool) :
    d.fastcomSetRs485 enable =
      { d with
        hw := { d.hw with
          mcr := withBits enable 0x04 d.hw.mcr
          fctr := withBits enable 0x20 d.hw.fctr }
        rs485 := enable } := by
  have hid : fastcomGetCardType d.deviceId = .pcie := hcard
  simp [fastcomSetRs485, fastcomSetRs485Pcie, card, hid, readReg, writeReg, Hardware.read,
    Hardware.write, Hardware.hidden]

theorem fastcomSetSampleRate_pcie {d : Device} (hcard : d.card = .pcie) (value : UInt32) :
    (d.fastcomSetSampleRate value).2 =
      { d with
        hw := { d.hw with
          mode4x :=
            if value = 4 ∨ value = 8 ∨ value = 16 then
              withBits (value == 4) (d.channelMask 1) d.hw.mode4x
            else d.hw.mode4x
          mode8x :=
            if value = 4 ∨ value = 8 ∨ value = 16 then
              withBits (value == 8) (d.channelMask 1) d.hw.mode8x
            else d.hw.mode8x }
        sampleRate := if value = 4 ∨ value = 8 ∨ value = 16 then value else d.sampleRate } := by
  have hid : fastcomGetCardType d.deviceId = .pcie := hcard
  by_cases h : value = 4 ∨ value = 8 ∨ value = 16
  · have h' : ¬(value ≠ 4 ∧ value ≠ 8 ∧ value ≠ 16) := by tauto
    simp [fastcomSetSampleRate, fastcomSetSampleRatePcie, card, hid, h, h', SettingStatus.ok,
      readReg, writeReg, Hardware.read, Hardware.write]
  · have h' : value ≠ 4 ∧ value ≠ 8 ∧ value ≠ 16 := by tauto
    simp [fastcomSetSampleRate, fastcomSetSampleRatePcie, card, hid, h', SettingStatus.ok]

/-- The pin is low while the termination is on. -/
theorem fastcomSetTermination_pcie {d : Device} (hcard : d.card = .pcie) (enable : Bool) :
    (d.fastcomSetTermination enable).2 =
      { d with
        hw := { d.hw with mpiolvl := withBits (!enable) (d.channelMask 1) d.hw.mpiolvl }
        termination := enable } := by
  have hid : fastcomGetCardType d.deviceId = .pcie := hcard
  simp [fastcomSetTermination, fastcomSetTerminationPcie, card, hid, readReg, writeReg,
    Hardware.read, Hardware.write, Hardware.writeMpiolvl, Hardware.drive]

theorem fastcomSetEchoCancel_pcie {d : Device} (hcard : d.card = .pcie) (enable : Bool) :
    d.fastcomSetEchoCancel enable =
      { d with
        hw := { d.hw with mpiolvlh := withBits enable (d.channelMask 1) d.hw.mpiolvlh }
        echoCancel := enable } := by
  have hid : fastcomGetCardType d.deviceId = .pcie := hcard
  simp [fastcomSetEchoCancel, fastcomSetEchoCancelPcie, card, hid, readReg, writeReg,
    Hardware.read, Hardware.write]

/-- All settings of the registry together, on a PCIe card. -/
theorem initSettings_pcie {d : Device} (hcard : d.card = .pcie) (c : ConfigData) :
    d.initSettings c =
      { d with
        hw := { d.hw with
          mcr := withBits c.rs485 0x04 d.hw.mcr
          fctr := withBits c.rs485 0x20 d.hw.fctr
          mode4x :=
            if c.sampleRate = 4 ∨ c.sampleRate = 8 ∨ c.sampleRate = 16 then
              withBits (c.sampleRate == 4) (d.channelMask 1) d.hw.mode4x
            else d.hw.mode4x
          mode8x :=
            if c.sampleRate = 4 ∨ c.sampleRate = 8 ∨ c.sampleRate = 16 then
              withBits (c.sampleRate == 8) (d.channelMask 1) d.hw.mode8x
            else d.hw.mode8x
          txtrg := if c.txTrigger ≤ 255 then c.txTrigger.toUInt8 else d.hw.txtrg
          rxtrg := if c.rxTrigger ≤ 255 then c.rxTrigger.toUInt8 else d.hw.rxtrg
          mpiolvl := withBits (!c.termination) (d.channelMask 1) d.hw.mpiolvl
          mpiolvlh := withBits c.echoCancel (d.channelMask 1) d.hw.mpiolvlh }
        rs485 := c.rs485
        sampleRate :=
          if c.sampleRate = 4 ∨ c.sampleRate = 8 ∨ c.sampleRate = 16 then c.sampleRate
          else d.sampleRate
        txTrigger := if c.txTrigger ≤ 255 then c.txTrigger else d.txTrigger
        rxTrigger := if c.rxTrigger ≤ 255 then c.rxTrigger else d.rxTrigger
        termination := c.termination
        echoCancel := c.echoCancel
        nineBit := false
        fixedBaudRate := c.fixedBaudRate } := by
  have hlimit (d : Device) (hcard : d.card = .pcie) : triggerLimit d.card = 255 := by
    rw [hcard]
    rfl
  simp only [initSettings]
  rw [fastcomSetRs485_pcie hcard, fastcomSetSampleRate_pcie (by exact hcard),
    fastcomSetTxTrigger_exar (by exact .inr hcard) (hlimit _ (by exact hcard)),
    fastcomSetRxTrigger_exar (by exact .inr hcard) (hlimit _ (by exact hcard)),
    fastcomSetTermination_pcie (by exact hcard), fastcomSetEchoCancel_pcie (by exact hcard),
    (notSupported_of_exar (by exact .inr hcard)).1, (notSupported_of_exar (by exact .inr hcard)).2.1,
    (notSupported_of_exar (by exact .inr hcard)).2.2.2]
  rfl

/-! ## The clock generator -/

/-- The upper `n` bits of a 24-bit word, the first one last. -/
def sentBits : Nat → UInt32 → List Bool
  | 0, _ => []
  | n + 1, v => sentBits n (v <<< 1) ++ [has32 v 0x800000]

@[simp] theorem length_sentBits (n : Nat) (v : UInt32) : (sentBits n v).length = n := by
  induction n generalizing v with
  | zero => rfl
  | succ n ih => simp [sentBits, ih]

/-- Neither the clock pin nor the strobe pin is up. -/
def PinsDown (v : UInt8) : Prop := v &&& 0x06 = 0

/-- The data pin is none of the two. -/
theorem PinsDown.withSdta {v : UInt8} (h : PinsDown v) (bit : Bool) :
    PinsDown (withBits bit mpioSdta v) := by
  unfold PinsDown
  rw [withBits_and_of_disjoint (by decide)]
  exact h

theorem PinsDown.sclk {v : UInt8} (h : PinsDown v) : has v mpioSclk = false := by
  have : v &&& mpioSclk = 0 := and_eq_zero_of_sub h (by decide)
  simp [has, this]

theorem PinsDown.sstb {v : UInt8} (h : PinsDown v) : has v mpioSstb = false := by
  have : v &&& mpioSstb = 0 := and_eq_zero_of_sub h (by decide)
  simp [has, this]

/-- Writing pins that are down moves no clock. -/
theorem writeReg_pinsDown {d : Device} {v : UInt8} (h : PinsDown v) :
    d.writeReg .mpiolvl v = { d with hw := { d.hw with mpiolvl := v } } := by
  simp [writeReg, Hardware.write, Hardware.writeMpiolvl, Hardware.drive, h.sclk, h.sstb]

/-- The clock pin rises. -/
theorem writeReg_sclk {d : Device} {v : UInt8} (hcard : d.card = .pci) (hold : PinsDown d.hw.mpiolvl)
    (h : PinsDown v) :
    d.writeReg .mpiolvl (v ||| mpioSclk) =
      { d with
        hw := { d.hw with
          mpiolvl := v ||| mpioSclk
          shifted := has v mpioSdta :: d.hw.shifted } } := by
  have hid : fastcomGetCardType d.deviceId = .pci := hcard
  have hsdta : has (v ||| mpioSclk) mpioSdta = has v mpioSdta :=
    has_withBits_of_disjoint (by decide) true v
  have hstb : has (v ||| mpioSclk) mpioSstb = has v mpioSstb :=
    has_withBits_of_disjoint (by decide) true v
  simp [writeReg, card, hid, Hardware.write, Hardware.writeMpiolvl, Hardware.drive, h.sstb,
    has_or_self v (show mpioSclk ≠ 0 by decide), hold.sclk, hsdta, hstb]

/-- One turn of the loop takes in one bit. -/
theorem sendClockBits_spec (n : Nat) (tempValue : UInt32) (data : UInt8) {d : Device}
    (hcard : d.card = .pci) (hdata : PinsDown data) (hpins : PinsDown d.hw.mpiolvl) :
    ∃ data' pins, PinsDown data' ∧ PinsDown pins ∧
      sendClockBits n tempValue data d =
        (data', { d with
          hw := { d.hw with
            mpiolvl := pins
            shifted := sentBits n tempValue ++ d.hw.shifted } }) := by
  induction n generalizing tempValue data d with
  | zero => exact ⟨data, _, hdata, hpins, rfl⟩
  | succ n ih =>
    let bit := has32 tempValue 0x800000
    have hbit : PinsDown (withBits bit mpioSdta data) := hdata.withSdta bit
    have hdown (v : UInt8) : PinsDown (v &&& mpioSdta) := by
      unfold PinsDown
      rw [UInt8.and_assoc]
      exact UInt8.and_zero
    have hsdta : has (withBits bit mpioSdta data) mpioSdta = bit := by
      rw [has_withBits_self]
      simp [mpioSdta]
    obtain ⟨data', pins, hdata', hpins', heq⟩ :=
      ih (tempValue <<< 1) ((withBits bit mpioSdta data ||| mpioSclk) &&& mpioSdta)
        (d := { d with
          hw := { d.hw with
            mpiolvl := (withBits bit mpioSdta data ||| mpioSclk) &&& mpioSdta
            shifted := bit :: d.hw.shifted } })
        hcard (hdown _) (hdown _)
    refine ⟨data', pins, hdata', hpins', ?_⟩
    simp only [sendClockBits]
    rw [writeReg_pinsDown hbit, writeReg_sclk (by exact hcard) (by exact hbit) hbit,
      writeReg_pinsDown (hdown _), hsdta]
    simp only [sentBits, List.append_assoc, List.singleton_append]
    exact heq

/-- A word for the clock generator is shifted out, and nothing else is changed but the rate. -/
theorem fastcomSetClockBitsPci_eq {d : Device} (hcard : d.card = .pci)
    (hpins : PinsDown d.hw.mpiolvl) (frequency clockBits : UInt32) :
    (d.fastcomSetClockBitsPci frequency clockBits).2 =
      { d with
        hw := { d.hw with
          shifted := sentBits 24 (clockBits &&& 0x00ffffff) ++ d.hw.shifted
          programmed := sentBits 24 (clockBits &&& 0x00ffffff) }
        clockRate := frequency } := by
  obtain ⟨data, pins, hdata, hpins', heq⟩ :=
    sendClockBits_spec 24 (clockBits &&& 0x00ffffff) d.hw.mpiolvl hcard hpins hpins
  have hid : fastcomGetCardType d.deviceId = .pci := hcard
  have hread : d.readReg .mpiolvl = d.hw.mpiolvl := rfl
  have hmasked : has (data &&& 0xf8) mpioSclk = false := by
    have h : data &&& 0xf8 &&& mpioSclk = 0 := by
      rw [UInt8.and_assoc]
      exact UInt8.and_zero
    simp [has, h]
  have hclk : has (data &&& 0xf8 ||| mpioSstb) mpioSclk = false :=
    (has_withBits_of_disjoint (by decide) true _).trans hmasked
  have hdown : PinsDown ((data &&& 0xf8 ||| mpioSstb) &&& ~~~mpioSstb) := by
    unfold PinsDown
    apply UInt8.toBitVec_inj.mp
    ext i hi
    have hi' : i = 0 ∨ i = 1 ∨ i = 2 ∨ i = 3 ∨ i = 4 ∨ i = 5 ∨ i = 6 ∨ i = 7 := by omega
    rcases hi' with rfl | rfl | rfl | rfl | rfl | rfl | rfl | rfl <;> simp [mpioSstb]
  simp only [fastcomSetClockBitsPci, strobeClockBits, hread, heq]
  rw [writeReg_pinsDown hpins, writeReg_pinsDown hdown]
  simp [writeReg, card, hid, Hardware.write, Hardware.writeMpiolvl, Hardware.drive, hpins'.sstb,
    hclk, has_or_self (data &&& 0xf8) (show mpioSstb ≠ 0 by decide)]

/-! ## Start -/

/-- The pins become outputs. -/
theorem fastcomInitGpio_pci {d : Device} (hcard : d.card = .pci) :
    ∃ mpiosel mpioinv, d.fastcomInitGpio =
      { d with hw := { d.hw with mpiosel := mpiosel, mpioinv := mpioinv } } := by
  simp only [fastcomInitGpio, hcard]
  split
  · exact ⟨_, _, rfl⟩
  · exact ⟨_, _, rfl⟩

theorem fastcomInitGpio_pcie {d : Device} (hcard : d.card = .pcie) :
    ∃ mpiosel mpioselh, d.fastcomInitGpio =
      { d with hw := { d.hw with mpiosel := mpiosel, mpioselh := mpioselh } } := by
  simp only [fastcomInitGpio, hcard]
  exact ⟨_, _, rfl⟩

/-- Programmable triggers are switched on. -/
theorem fastcomInitTriggers_exar {d : Device} (hcard : d.card = .pci ∨ d.card = .pcie)
    (hdlab : d.hw.dlab = false) :
    d.fastcomInitTriggers =
      { d with hw := { d.hw with fcr := 0x01, fctr := d.hw.fctr ||| 0xc0 } } := by
  rcases hcard with hcard | hcard
  all_goals
    simp [fastcomInitTriggers, hcard, readReg, writeReg, Hardware.read, Hardware.write,
      Hardware.hidden, hdlab]

/-- What `SerialFcInit` leaves of a PCI card. -/
theorem serialFcInit_pci {d : Device} (hcard : d.card = .pci) (hpins : PinsDown d.hw.mpiolvl)
    (hdlab : d.hw.dlab = false) (pool : Bool) (config : Option ConfigData) :
    ∃ mpiosel mpioinv shifted, d.serialFcInit pool config =
      { d with
        hw := { d.hw with
          fcr := 0x01
          fctr := d.hw.fctr ||| 0xc0
          mpiosel := mpiosel
          mpioinv := mpioinv
          shifted := shifted
          programmed := sentBits 24 default335ClockBits }
        clockRate := 18432000 : Device }.initSettings (config.getD d.shadows) := by
  obtain ⟨mpiosel, mpioinv, hgpio⟩ := fastcomInitGpio_pci hcard
  have hbits : default335ClockBits &&& 0x00ffffff = default335ClockBits := by decide
  have hclock (d : Device) (hcard : d.card = .pci) :
      d.initClock pool = (d.fastcomSetClockBitsPci 18432000 default335ClockBits).2 := by
    simp only [initClock, hcard]
  refine ⟨mpiosel, mpioinv, sentBits 24 default335ClockBits ++ d.hw.shifted, ?_⟩
  simp only [serialFcInit, hgpio]
  rw [fastcomInitTriggers_exar (by exact .inl hcard) (by exact hdlab), hclock _ (by exact hcard),
    fastcomSetClockBitsPci_eq (by exact hcard) (by exact hpins), hbits]

/-- What `SerialFcInit` leaves of a PCIe card. -/
theorem serialFcInit_pcie {d : Device} (hcard : d.card = .pcie) (hdlab : d.hw.dlab = false)
    (pool : Bool) (config : Option ConfigData) :
    ∃ mpiosel mpioselh, d.serialFcInit pool config =
      { d with
        hw := { d.hw with
          fcr := 0x01
          fctr := d.hw.fctr ||| 0xc0
          mpiosel := mpiosel
          mpioselh := mpioselh }
        clockRate := 125000000 : Device }.initSettings (config.getD d.shadows) := by
  obtain ⟨mpiosel, mpioselh, hgpio⟩ := fastcomInitGpio_pcie hcard
  have hclock (d : Device) (hcard : d.card = .pcie) :
      d.initClock pool = { d with clockRate := 125000000 } := by
    simp only [initClock, hcard]
  refine ⟨mpiosel, mpioselh, ?_⟩
  simp only [serialFcInit, hgpio]
  rw [fastcomInitTriggers_exar (by exact .inr hcard) (by exact hdlab), hclock _ (by exact hcard)]

/-! ## The divisor latch -/

theorem dlab_or (v : UInt8) : has (v ||| lcrDlab) lcrDlab = true := has_or_self v (by decide)

/-- The latch is written behind LCR, which is then as before. -/
theorem writeDivisorLatch_eq (d : Device) (divisor : UInt16) :
    d.writeDivisorLatch divisor =
      { d with
        hw := { d.hw with dll := divisor.toUInt8, dlm := (divisor >>> 8).toUInt8 } } := by
  simp [writeDivisorLatch, readReg, writeReg, Hardware.read, Hardware.write, Hardware.dlab,
    dlab_or]

/-- Both bytes of the latch are the divisor. -/
theorem latch_toNat (divisor : UInt16) :
    (divisor >>> 8).toUInt8.toNat * 256 + divisor.toUInt8.toNat = divisor.toNat := by
  have hlt := divisor.toNat_lt
  simp only [UInt16.toNat_toUInt8, UInt16.toNat_shiftRight]
  have height : (8 : UInt16).toNat % 16 = 8 := rfl
  rw [height, Nat.shiftRight_eq_div_pow]
  omega

/-- Only PCIe cards compute the latch from the baud rate. -/
theorem serialSetBaud_of_ne_pcie {d : Device} (hcard : d.card ≠ .pcie) (divisor : UInt16) :
    d.serialSetBaud divisor = some { d with
      hw := { d.hw with dll := divisor.toUInt8, dlm := (divisor >>> 8).toUInt8 } } := by
  simp only [serialSetBaud, writeDivisorLatch_eq]
  exact if_neg hcard

/-- DLM, DLL and DLD of a PCIe card after its baud rate was set. Too high a rate leaves the latch to
what lay on the stack. -/
def pcieLatch (stack : UInt16) (dld : UInt8) (baud sampleRate : UInt32) : UInt8 × UInt8 × UInt8 :=
  if baud > pcieInputFreq / sampleRate then ((stack >>> 8).toUInt8, stack.toUInt8, dld)
  else
    let divisor := pcieDivisor baud sampleRate
    ((divisor >>> 12).toUInt8, (divisor >>> 4).toUInt8,
      dld &&& 0xf0 ||| (divisor &&& 0xf).toUInt8)

/-- Nothing is divided by zero. -/
def BaudDefined (d : Device) : Prop :=
  d.sampleRate ≠ 0 ∧
    (d.currentBaud > pcieInputFreq / d.sampleRate ∨ d.currentBaud * d.sampleRate ≠ 0)

theorem serialSetBaud_pcie {d : Device} (hcard : d.card = .pcie) (hbaud : d.BaudDefined)
    (stack : UInt16) :
    d.serialSetBaud stack = some { d with
      hw := { d.hw with
        dlm := (pcieLatch stack d.hw.dld d.currentBaud d.sampleRate).1
        dll := (pcieLatch stack d.hw.dld d.currentBaud d.sampleRate).2.1
        dld := (pcieLatch stack d.hw.dld d.currentBaud d.sampleRate).2.2 } } := by
  have hid : fastcomGetCardType d.deviceId = .pcie := hcard
  simp only [serialSetBaud, writeDivisorLatch_eq, card, hid, if_true, pcieSetBaudRate]
  by_cases hhigh : d.currentBaud > pcieInputFreq / d.sampleRate
  · simp [hbaud.1, hhigh, pcieLatch]
  · have hzero : d.currentBaud * d.sampleRate ≠ 0 := hbaud.2.resolve_left hhigh
    simp only [hbaud.1, hhigh, hzero, pcieLatch, if_false]
    simp [readReg, writeReg, card, hid, Hardware.read, Hardware.write, Hardware.dlab,
      Hardware.hidden, dlab_or]

/-- A request that came back did not divide by zero. -/
theorem baudDefined_of_some {d d' : Device} (hcard : d.card = .pcie) {stack : UInt16}
    (h : d.serialSetBaud stack = some d') : d.BaudDefined := by
  have hid : fastcomGetCardType d.deviceId = .pcie := hcard
  simp only [serialSetBaud, writeDivisorLatch_eq, card, hid, if_true, pcieSetBaudRate] at h
  refine ⟨fun hrate => ?_, ?_⟩
  · simp [hrate] at h
  · by_contra hne
    push Not at hne
    have hhigh : ¬d.currentBaud > pcieInputFreq / d.sampleRate := hne.1
    simp [hhigh, hne.2] at h

/-- A rate that is not too high does not overflow. -/
theorem BaudDefined.of_ne_zero {d : Device} (hrate : d.sampleRate ≠ 0) (hbaud : d.currentBaud ≠ 0) :
    d.BaudDefined := by
  refine ⟨hrate, ?_⟩
  by_cases hhigh : d.currentBaud > pcieInputFreq / d.sampleRate
  · exact .inl hhigh
  · refine .inr fun hzero => ?_
    have hle : d.currentBaud.toNat ≤ 125000000 / d.sampleRate.toNat := by
      have := UInt32.le_iff_toNat_le.mp (UInt32.not_lt.mp hhigh)
      simpa [pcieInputFreq] using this
    have hmul : d.currentBaud.toNat * d.sampleRate.toNat ≤ 125000000 :=
      Nat.le_trans (Nat.mul_le_mul_right _ hle) (Nat.div_mul_le_self _ _)
    have hnat : d.currentBaud.toNat * d.sampleRate.toNat = 0 := by
      have := congrArg UInt32.toNat hzero
      rw [UInt32.toNat_mul, Nat.mod_eq_of_lt (by omega)] at this
      exact this
    rcases Nat.mul_eq_zero.mp hnat with h | h
    · exact hbaud (UInt32.toNat_inj.mp h)
    · exact hrate (UInt32.toNat_inj.mp h)

theorem BaudDefined.baud_ne_zero {d : Device} (h : d.BaudDefined) : d.currentBaud ≠ 0 := by
  rintro hzero
  rcases h.2 with hhigh | hmul
  · rw [hzero] at hhigh
    exact absurd (UInt32.lt_iff_toNat_lt.mp hhigh) (Nat.not_lt_zero _)
  · rw [hzero] at hmul
    exact hmul (UInt32.zero_mul)

/-- DLM, DLL and DLD as the driver programs them for the present baud rate. -/
def latchFor (d : Device) (stack : UInt16) : UInt8 × UInt8 × UInt8 :=
  if d.card = .pcie then pcieLatch stack d.hw.dld d.currentBaud d.sampleRate
  else
    let divisor := calculatedDivisor d.clockRate d.sampleRate d.currentBaud
    ((divisor >>> 8).toUInt8, divisor.toUInt8, d.hw.dld)

/-- The present baud rate, set again. -/
theorem serialSetBaud_present {d : Device} (hbaud : d.card = .pcie → d.BaudDefined)
    (stack : UInt16) :
    d.serialSetBaud (d.serialGetDivisorFromBaud stack d.currentBaud).2 = some { d with
      hw := { d.hw with
        dlm := (d.latchFor stack).1
        dll := (d.latchFor stack).2.1
        dld := (d.latchFor stack).2.2 } } := by
  by_cases hcard : d.card = .pcie
  · simp only [serialGetDivisorFromBaud, latchFor, hcard, if_true]
    exact serialSetBaud_pcie hcard (hbaud hcard) stack
  · simp only [serialGetDivisorFromBaud, latchFor, hcard, if_false]
    exact serialSetBaud_of_ne_pcie hcard _

/-! ## Entering D0 -/

/-- Registers that no window hides. -/
theorem writeReg_mcr {d : Device} (hcard : d.card = .pci ∨ d.card = .pcie) (v : UInt8) :
    d.writeReg .mcr v = { d with hw := { d.hw with mcr := v } } := by
  rcases hcard with hcard | hcard <;>
    simp [writeReg, hcard, Hardware.write, Hardware.hidden]

theorem readReg_mcr {d : Device} (hcard : d.card = .pci ∨ d.card = .pcie) :
    d.readReg .mcr = d.hw.mcr := by
  rcases hcard with hcard | hcard <;> simp [readReg, Hardware.read, Hardware.hidden, hcard]

theorem writeReg_ier {d : Device} (hdlab : d.hw.dlab = false) (v : UInt8) :
    d.writeReg .ier v = { d with hw := { d.hw with ier := v } } := by
  simp [writeReg, Hardware.write, hdlab]

theorem writeReg_fcr {d : Device} (hcard : d.card = .pci ∨ d.card = .pcie)
    (hdlab : d.hw.dlab = false) (v : UInt8) :
    d.writeReg .fcr v = { d with hw := { d.hw with fcr := v } } := by
  rcases hcard with hcard | hcard <;>
    simp [writeReg, hcard, Hardware.write, Hardware.hidden, hdlab]

theorem writeReg_lcr (d : Device) (v : UInt8) :
    d.writeReg .lcr v = { d with hw := { d.hw with lcr := v } } := rfl

theorem resetFifo_exar {d : Device} (hcard : d.card = .pci ∨ d.card = .pcie)
    (hdlab : d.hw.dlab = false) :
    ∃ fcr, d.resetFifo = { d with hw := { d.hw with fcr := fcr } } := by
  unfold resetFifo
  split
  · rw [writeReg_fcr hcard hdlab, writeReg_fcr (by exact hcard) (by exact hdlab)]
    exact ⟨_, rfl⟩
  · exact ⟨d.hw.fcr, rfl⟩

/-- The registers that D0 entry writes back. -/
theorem restoreRegisters_exar {d : Device} (hcard : d.card = .pci ∨ d.card = .pcie)
    (hdlab : d.hw.dlab = false) (hlcr : has d.state.lcr lcrDlab = false) :
    ∃ fcr ier, d.restoreRegisters =
      { d with
        hw := { d.hw with
          mcr := if d.state.reopen then d.state.mcr ||| mcrOut2 else d.hw.mcr
          fcr := fcr
          ier := ier
          lcr := d.state.lcr }
        deviceIsOpened := d.state.reopen || d.deviceIsOpened
        state := if d.state.reopen then { d.state with reopen := false } else d.state } := by
  obtain ⟨fcr, hfifo⟩ : ∃ fcr, (if d.fifoPresent then d.resetFifo else d.writeReg .fcr 0) =
      { d with hw := { d.hw with fcr := fcr } } := by
    split
    · exact resetFifo_exar hcard hdlab
    · exact ⟨0, writeReg_fcr hcard hdlab 0⟩
  unfold restoreRegisters
  simp only [hfifo]
  rw [writeReg_ier (by exact hdlab)]
  by_cases hopen : d.state.reopen = true
  · refine ⟨fcr, ierAll, ?_⟩
    simp only [setDeviceIsOpened, writeReg_lcr]
    rw [if_pos (by exact hopen), writeReg_mcr (by exact hcard), writeReg_ier (by exact hlcr),
      writeReg_ier (by exact hlcr)]
    simp [hopen]
  · refine ⟨fcr, d.state.ier, ?_⟩
    simp [hopen, writeReg, Hardware.write]

/-- What the registers are when `SerialFcInit` begins. -/
theorem serialEvtDeviceD0Entry_eq {d : Device} (hcard : d.card = .pci ∨ d.card = .pcie)
    (hdlab : d.hw.dlab = false) (hlcr : has d.state.lcr lcrDlab = false)
    (hbaud : d.card = .pcie → d.BaudDefined) (around : Surroundings) :
    ∃ fcr ier, d.serialEvtDeviceD0Entry around =
      some ({ d with
        hw := { d.hw with
          mcr := if d.state.reopen then d.state.mcr ||| mcrOut2 else 0
          fcr := fcr
          ier := ier
          lcr := d.state.lcr
          dlm := (d.latchFor around.stack).1
          dll := (d.latchFor around.stack).2.1
          dld := (d.latchFor around.stack).2.2 }
        deviceIsOpened := d.state.reopen || d.deviceIsOpened
        state := if d.state.reopen then { d.state with reopen := false } else d.state :
          Device }.serialFcInit around.pool none) := by
  unfold serialEvtDeviceD0Entry
  rw [writeReg_mcr hcard, writeReg_ier (by exact hdlab)]
  have hset := serialSetBaud_present
    (d := { d with hw := { d.hw with mcr := 0, ier := 0 } }) hbaud around.stack
  simp only [hset, Option.bind_eq_bind, Option.bind_some]
  obtain ⟨fcr, ier, hrest⟩ := restoreRegisters_exar
    (d := { d with
      hw := { d.hw with
        mcr := 0
        ier := 0
        dlm := (d.latchFor around.stack).1
        dll := (d.latchFor around.stack).2.1
        dld := (d.latchFor around.stack).2.2 } })
    (by exact hcard) (by exact hdlab) (by exact hlcr)
  exact ⟨fcr, ier, congrArg (fun x => some (x.serialFcInit around.pool none)) hrest⟩

end Device
end SerialFc
