import SerialFc.Properties.CardSettings

/-!
# Open ports

What holds of the registers of an open port, from the first start on and whatever I/O controls come
after it. The hardware has what the device remembers, except on the FSCC cards, of which only LCR is
followed.

* `lcr_serialFcInit_fscc` — `SerialFcInit` leaves LCR as `0xbf` on those
* `OpenPort.step` — the I/O controls and the modem lines keep what holds of an open port
* `openPort_start` — it holds after the first start
-/

namespace SerialFc

namespace Device

/-! ## What the settings are in the registers -/

/-- The registers `hw` of a PCI card have the settings that `d` remembers. On channel 4 the pin of
RS-485 is that of echo cancel; `on` counts where no sampling rate was ever accepted. -/
structure PciSettings (on : Hardware) (d : Device) (hw : Hardware) : Prop where
  pins : PinsDown hw.mpiolvl
  triggers : hw.fctr &&& 0xc0 = 0xc0
  rs485 : has hw.fctr 0x20 = d.rs485
  level : d.channel ≠ 4 →
    has hw.mpiolvl (d.channelMask 0x8) = (!d.rs485 && d.channelMask 0x8 != 0)
  echo : d.channel ≠ 4 → has hw.mpiolvl 0x80 = d.echoCancel
  tx : hw.txtrg = d.txTrigger.toUInt8
  txLimit : d.txTrigger ≤ 64
  rx : hw.rxtrg = d.rxTrigger.toUInt8
  rxLimit : d.rxTrigger ≤ 64
  rate : has hw.mode8x (d.channelMask 1) =
    if d.sampleRate = 8 then d.channelMask 1 != 0
    else if d.sampleRate = 16 then false
    else has on.mode8x (d.channelMask 1)

/-- What is needed of a PCI card for `SerialFcInit` to program its settings. -/
structure PciReady (on : Hardware) (d : Device) : Prop where
  card : d.card = .pci
  pins : PinsDown d.hw.mpiolvl
  noDlab : d.hw.dlab = false
  txLimit : d.txTrigger ≤ 64
  rxLimit : d.rxTrigger ≤ 64
  rate : d.sampleRate ≠ 8 → d.sampleRate ≠ 16 →
    has d.hw.mode8x (d.channelMask 1) = has on.mode8x (d.channelMask 1)

/-- A setting that uses another pin keeps them down. -/
theorem PinsDown.withBits {v mask : UInt8} (h : PinsDown v) (hmask : mask &&& 0x06 = 0)
    (enable : Bool) : PinsDown (SerialFc.withBits enable mask v) := by
  unfold PinsDown
  rw [withBits_and_of_disjoint hmask]
  exact h

/-- The pin of RS-485 is none of them on any channel. -/
theorem channelMask_eight_pins (d : Device) : d.channelMask 8 &&& 0x06 = 0 :=
  and_eq_zero_of_sub d.channelMask_eight_low (by decide)

/-- What `SerialFcInit` leaves of a device that it programs from what the device remembers. -/
theorem PciReady.serialFcInit {on : Hardware} {d e : Device} (h : PciReady on d) {pool : Bool}
    (he : d.serialFcInit pool none = e) :
    e = { d with hw := e.hw, clockRate := 18432000, nineBit := false } ∧
      PciSettings on d e.hw ∧ has e.hw.mpiolvl 0x80 = d.echoCancel ∧
      e.hw.programmed = sentBits 24 default335ClockBits ∧
      e.hw.lcr = d.hw.lcr ∧ e.hw.dlm = d.hw.dlm ∧ e.hw.dll = d.hw.dll := by
  subst he
  obtain ⟨mpiosel, mpioinv, shifted, heq⟩ := serialFcInit_pci h.card h.pins h.noDlab pool none
  rw [Option.getD_none, initSettings_pci (by exact h.card)] at heq
  simp only [heq, shadows]
  refine ⟨?_, ⟨?_, ?_, ?_, ?_, ?_, ?_, h.txLimit, ?_, h.rxLimit, ?_⟩, ?_, trivial, trivial, trivial, trivial⟩
  · simp only [Device.mk.injEq, true_and, and_true]
    exact ⟨ite_self _, ite_self _, ite_self _⟩
  · exact (h.pins.withBits d.channelMask_eight_pins _).withBits (by decide) _
  · show withBits d.rs485 0x20 (withBits true 0xc0 d.hw.fctr) &&& 0xc0 = 0xc0
    rw [withBits_and_of_disjoint (by decide)]
    exact withBits_true_and_self _ _
  · exact (has_withBits_self _ _ _).trans (Bool.and_true _)
  · intro hc
    have hdisj : (0x80 : UInt8) &&& d.channelMask 8 = 0 := by
      rw [UInt8.and_comm]
      exact channelMask_eight_high hc
    exact (has_withBits_of_disjoint hdisj _ _).trans (has_withBits_self _ _ _)
  · exact fun _ => (has_withBits_self _ _ _).trans (Bool.and_true _)
  · exact if_pos h.txLimit
  · exact if_pos h.rxLimit
  · show has (if d.sampleRate = 8 ∨ d.sampleRate = 16 then
      withBits (d.sampleRate == 8) (d.channelMask 1) d.hw.mode8x else d.hw.mode8x) _ = _
    by_cases h8 : d.sampleRate = 8
    · simp [h8, has_withBits_self]
    by_cases h16 : d.sampleRate = 16
    · simp [h16, has_withBits_self]
    · simp [h8, h16, h.rate h8 h16]
  · exact (has_withBits_self _ _ _).trans (Bool.and_true _)

/-- The registers `hw` of a PCIe card have the settings that `d` remembers. -/
structure PcieSettings (d : Device) (hw : Hardware) : Prop where
  triggers : hw.fctr &&& 0xc0 = 0xc0
  rs485 : has hw.fctr 0x20 = d.rs485
  driver : has hw.mcr 0x04 = d.rs485
  termination : has hw.mpiolvl (d.channelMask 1) = (!d.termination && d.channelMask 1 != 0)
  echo : has hw.mpiolvlh (d.channelMask 1) = (d.echoCancel && d.channelMask 1 != 0)
  tx : hw.txtrg = d.txTrigger.toUInt8
  txLimit : d.txTrigger ≤ 255
  rx : hw.rxtrg = d.rxTrigger.toUInt8
  rxLimit : d.rxTrigger ≤ 255
  rate : d.sampleRate = 4 ∨ d.sampleRate = 8 ∨ d.sampleRate = 16
  rate4x : has hw.mode4x (d.channelMask 1) = (d.sampleRate == 4 && d.channelMask 1 != 0)
  rate8x : has hw.mode8x (d.channelMask 1) = (d.sampleRate == 8 && d.channelMask 1 != 0)

/-- What is needed of a PCIe card for `SerialFcInit` to program its settings. -/
structure PcieReady (d : Device) : Prop where
  card : d.card = .pcie
  noDlab : d.hw.dlab = false
  txLimit : d.txTrigger ≤ 255
  rxLimit : d.rxTrigger ≤ 255
  rate : d.sampleRate = 4 ∨ d.sampleRate = 8 ∨ d.sampleRate = 16

/-- What `SerialFcInit` leaves of it. -/
theorem PcieReady.serialFcInit {d e : Device} (h : PcieReady d) {pool : Bool}
    (he : d.serialFcInit pool none = e) :
    e = { d with hw := e.hw, clockRate := 125000000, nineBit := false } ∧
      PcieSettings d e.hw ∧
      e.hw.lcr = d.hw.lcr ∧ e.hw.dlm = d.hw.dlm ∧ e.hw.dll = d.hw.dll ∧ e.hw.dld = d.hw.dld := by
  subst he
  obtain ⟨mpiosel, mpioselh, heq⟩ := serialFcInit_pcie h.card h.noDlab pool none
  rw [Option.getD_none, initSettings_pcie (by exact h.card)] at heq
  simp only [heq, shadows]
  refine ⟨?_, ⟨?_, ?_, ?_, ?_, ?_, ?_, h.txLimit, ?_, h.rxLimit, h.rate, ?_, ?_⟩, trivial, trivial,
    trivial, trivial⟩
  · simp only [Device.mk.injEq, true_and, and_true]
    exact ⟨ite_self _, ite_self _, ite_self _⟩
  · show withBits d.rs485 0x20 (withBits true 0xc0 d.hw.fctr) &&& 0xc0 = 0xc0
    rw [withBits_and_of_disjoint (by decide)]
    exact withBits_true_and_self _ _
  · exact (has_withBits_self _ _ _).trans (Bool.and_true _)
  · exact (has_withBits_self _ _ _).trans (Bool.and_true _)
  · exact has_withBits_self _ _ _
  · exact has_withBits_self _ _ _
  · exact if_pos h.txLimit
  · exact if_pos h.rxLimit
  · exact (congrArg (has · (d.channelMask 1)) (if_pos h.rate)).trans (has_withBits_self _ _ _)
  · exact (congrArg (has · (d.channelMask 1)) (if_pos h.rate)).trans (has_withBits_self _ _ _)

/-! ## Line control -/

/-- LCR and what the device says about it, and the baud rate. A sampling rate that a PCIe card
accepts is not zero. -/
structure SameLine (d d' : Device) : Prop where
  deviceId : d'.deviceId = d.deviceId
  lcr : d'.hw.lcr = d.hw.lcr
  lineControl : d'.lineControl = d.lineControl
  opened : d'.deviceIsOpened = d.deviceIsOpened
  currentBaud : d'.currentBaud = d.currentBaud
  rate : d.card = .pcie → d.sampleRate ≠ 0 → d'.sampleRate ≠ 0

/-- Equal fields are enough. -/
theorem SameLine.of_eq {d d' : Device} (hid : d'.deviceId = d.deviceId)
    (hlcr : d'.hw.lcr = d.hw.lcr) (hline : d'.lineControl = d.lineControl)
    (hopen : d'.deviceIsOpened = d.deviceIsOpened) (hbaud : d'.currentBaud = d.currentBaud)
    (hrate : d'.sampleRate = d.sampleRate) : SameLine d d' :=
  ⟨hid, hlcr, hline, hopen, hbaud, fun _ h => by rwa [hrate]⟩

theorem SameLine.refl (d : Device) : SameLine d d := .of_eq rfl rfl rfl rfl rfl rfl

theorem SameLine.trans {d₁ d₂ d₃ : Device} (h₁ : SameLine d₁ d₂) (h₂ : SameLine d₂ d₃) :
    SameLine d₁ d₃ :=
  ⟨h₂.1.trans h₁.1, h₂.2.trans h₁.2, h₂.3.trans h₁.3, h₂.4.trans h₁.4, h₂.5.trans h₁.5,
    fun hcard h => h₂.6 ((congrArg fastcomGetCardType h₁.1).trans hcard) (h₁.6 hcard h)⟩

/-- Other registers than LCR. -/
theorem sameLine_writeReg (d : Device) {r : BoardReg} (hr : r ≠ .lcr) (v : UInt8) :
    SameLine d (d.writeReg r v) := by
  refine .of_eq rfl ?_ rfl rfl rfl rfl
  cases r with
  | lcr => exact absurd rfl hr
  | _ => rfl

theorem sameLine_writeBar2 (d : Device) (v : UInt32) : SameLine d (d.writeBar2 v) :=
  .of_eq rfl rfl rfl rfl rfl rfl

/-- The window puts LCR back. -/
theorem sameLine_fsccWindow (d : Device) {body : Device → Device}
    (hbody : ∀ d, SameLine d (body d)) : SameLine d (d.fsccWindow body) :=
  have h := hbody (d.writeReg .lcr 0)
  ⟨h.deviceId, rfl, h.lineControl, h.opened, h.currentBaud, h.rate⟩

theorem sameLine_icrStore (d : Device) (index v : UInt8) : SameLine d (d.icrStore index v) :=
  (sameLine_writeReg d (by decide) index).trans (sameLine_writeReg _ (by decide) v)

/-- The settings of the card leave the line alone. -/
theorem sameLine_fastcomSetRs485Pci (d : Device) (enable : Bool) :
    SameLine d (d.fastcomSetRs485Pci enable) := by
  simp only [fastcomSetRs485Pci]
  have hmcr := sameLine_writeReg d (r := .mcr) (by decide)
  have hpins (d : Device) := sameLine_writeReg d (r := .mpiolvl) (by decide)
  exact ((hmcr _).trans (hpins _ _)).trans (sameLine_writeReg _ (by decide) _)

theorem sameLine_fastcomSetRs485Pcie (d : Device) (enable : Bool) :
    SameLine d (d.fastcomSetRs485Pcie enable) := by
  unfold fastcomSetRs485Pcie
  exact (sameLine_writeReg d (by decide) _).trans (sameLine_writeReg _ (by decide) _)

theorem sameLine_fastcomSetRs485Fscc (d : Device) (enable : Bool) :
    SameLine d (d.fastcomSetRs485Fscc enable) := by
  unfold fastcomSetRs485Fscc
  refine sameLine_fsccWindow d fun d => ?_
  have hacr (d : Device) (acr : UInt8) : SameLine d { d with acr } :=
    .of_eq rfl rfl rfl rfl rfl rfl
  refine SameLine.trans ?_ (sameLine_writeBar2 _ _)
  refine SameLine.trans ?_ (sameLine_writeReg _ (by decide) _)
  exact (sameLine_writeReg d (by decide) acrOffset).trans (hacr _ _)

theorem sameLine_fastcomSetRs485 (d : Device) (enable : Bool) :
    SameLine d (d.fastcomSetRs485 enable) := by
  have hremember {d' : Device} (h : SameLine d d') : SameLine d { d' with rs485 := enable } :=
    ⟨h.1, h.2, h.3, h.4, h.5, h.6⟩
  unfold fastcomSetRs485
  cases d.card with
  | pci => exact hremember (sameLine_fastcomSetRs485Pci d enable)
  | pcie => exact hremember (sameLine_fastcomSetRs485Pcie d enable)
  | fscc => exact hremember (sameLine_fastcomSetRs485Fscc d enable)
  | other => exact hremember (.refl d)

theorem sameLine_fastcomSetEchoCancel (d : Device) (enable : Bool) :
    SameLine d (d.fastcomSetEchoCancel enable) := by
  have hremember {d' : Device} (h : SameLine d d') : SameLine d { d' with echoCancel := enable } :=
    ⟨h.1, h.2, h.3, h.4, h.5, h.6⟩
  unfold fastcomSetEchoCancel
  cases d.card with
  | pci => exact hremember (sameLine_writeReg d (by decide) _)
  | pcie => exact hremember (sameLine_writeReg d (by decide) _)
  | fscc => exact hremember (sameLine_writeBar2 d _)
  | other => exact hremember (.refl d)

theorem sameLine_fastcomSetTermination (d : Device) (enable : Bool) :
    SameLine d (d.fastcomSetTermination enable).2 := by
  unfold fastcomSetTermination
  cases d.card <;> exact .of_eq rfl rfl rfl rfl rfl rfl

/-- A value that is remembered, or not. -/
theorem SameLine.remember {d : Device} {x : SettingStatus × Device} (h : SameLine d x.2)
    (set : Device → Device) (hset : ∀ d, SameLine d (set d)) :
    SameLine d (if x.1.ok then set x.2 else x.2) := by
  split
  · exact h.trans (hset x.2)
  · exact h

theorem sameLine_fastcomSetSampleRate (d : Device) (value : UInt32) :
    SameLine d (d.fastcomSetSampleRate value).2 := by
  cases hcard : d.card with
  | pcie =>
    rw [fastcomSetSampleRate_pcie hcard]
    refine ⟨rfl, rfl, rfl, rfl, rfl, fun _ h => ?_⟩
    dsimp only
    split
    · next hvalue => rcases hvalue with rfl | rfl | rfl <;> decide
    · exact h
  | pci =>
    rw [fastcomSetSampleRate_pci hcard]
    refine ⟨rfl, rfl, rfl, rfl, rfl, fun hpcie => ?_⟩
    cases hcard.symm.trans hpcie
  | fscc =>
    have hbody : SameLine d (d.fastcomSetSampleRateFscc value).2 := by
      simp only [fastcomSetSampleRateFscc]
      split
      · exact .refl d
      · exact sameLine_fsccWindow d fun d => sameLine_icrStore d _ _
    have hnot : d.card ≠ .pcie := by
      rw [hcard]
      decide
    simp only [fastcomSetSampleRate, hcard]
    split
    · exact ⟨hbody.1, hbody.2, hbody.3, hbody.4, hbody.5, fun hpcie => absurd hpcie hnot⟩
    · exact hbody
  | other =>
    have hnot : d.card ≠ .pcie := by
      rw [hcard]
      decide
    simp only [fastcomSetSampleRate, hcard]
    split
    · exact ⟨rfl, rfl, rfl, rfl, rfl, fun hpcie => absurd hpcie hnot⟩
    · exact .refl d

theorem sameLine_fastcomSetTriggerExar (d : Device) (limit : UInt32) {reg : BoardReg}
    (hreg : reg ≠ .lcr) (value : UInt32) :
    SameLine d (d.fastcomSetTriggerExar limit reg value).2 := by
  unfold fastcomSetTriggerExar
  split
  · exact .refl d
  · exact sameLine_writeReg d hreg _

theorem sameLine_fastcomSetTriggerFscc (d : Device) (index : UInt8) (value : UInt32) :
    SameLine d (d.fastcomSetTriggerFscc index value).2 := by
  unfold fastcomSetTriggerFscc
  split
  · exact .refl d
  · exact sameLine_fsccWindow d fun d => sameLine_icrStore d _ _

theorem sameLine_fastcomSetTxTrigger (d : Device) (value : UInt32) :
    SameLine d (d.fastcomSetTxTrigger value).2 := by
  have hremember {result : SettingStatus × Device} (h : SameLine d result.2) :=
    h.remember (fun d => { d with txTrigger := value }) fun d => .of_eq rfl rfl rfl rfl rfl rfl
  have hrefused : SameLine d (SettingStatus.notSupported, d).2 := .refl d
  unfold fastcomSetTxTrigger
  cases d.card with
  | pci | pcie => exact hremember (sameLine_fastcomSetTriggerExar d _ (by decide) value)
  | fscc => exact hremember (sameLine_fastcomSetTriggerFscc d _ value)
  | other => exact hremember hrefused

theorem sameLine_fastcomSetRxTrigger (d : Device) (value : UInt32) :
    SameLine d (d.fastcomSetRxTrigger value).2 := by
  have hremember {result : SettingStatus × Device} (h : SameLine d result.2) :=
    h.remember (fun d => { d with rxTrigger := value }) fun d => .of_eq rfl rfl rfl rfl rfl rfl
  have hrefused : SameLine d (SettingStatus.notSupported, d).2 := .refl d
  unfold fastcomSetRxTrigger
  cases d.card with
  | pci | pcie => exact hremember (sameLine_fastcomSetTriggerExar d _ (by decide) value)
  | fscc => exact hremember (sameLine_fastcomSetTriggerFscc d _ value)
  | other => exact hremember hrefused

theorem sameLine_fastcomSetIsochronous (d : Device) (mode : Int) :
    SameLine d (d.fastcomSetIsochronous mode).2 := by
  have hremember {result : SettingStatus × Device} (h : SameLine d result.2) :=
    h.remember (fun d => { d with isochronous := mode }) fun d => .of_eq rfl rfl rfl rfl rfl rfl
  have hrefused : SameLine d (SettingStatus.notSupported, d).2 := .refl d
  have hbody : SameLine d (d.fastcomSetIsochronousFscc mode).2 := by
    simp only [fastcomSetIsochronousFscc]
    split
    · exact .refl d
    · exact sameLine_fsccWindow d fun d =>
        (sameLine_icrStore d _ _).trans (sameLine_icrStore _ _ _)
  unfold fastcomSetIsochronous
  cases d.card with
  | fscc => exact hremember hbody
  | _ => exact hremember hrefused

theorem sameLine_fastcomSetExternalTransmit (d : Device) (numFrames : UInt32) :
    SameLine d (d.fastcomSetExternalTransmit numFrames).2 := by
  unfold fastcomSetExternalTransmit
  cases d.card with
  | fscc =>
    simp only [fastcomSetExternalTransmitFscc]
    split
    · exact .refl d
    · exact sameLine_fsccWindow d fun d =>
        (sameLine_icrStore d _ _).trans (sameLine_icrStore _ _ _)
  | _ => exact .refl d

theorem sameLine_fastcomSetFrameLength (d : Device) (numChars : UInt32) :
    SameLine d (d.fastcomSetFrameLength numChars).2 := by
  have hremember {result : SettingStatus × Device} (h : SameLine d result.2) :=
    h.remember (fun d => { d with frameLength := numChars }) fun d => .of_eq rfl rfl rfl rfl rfl rfl
  have hrefused : SameLine d (SettingStatus.notSupported, d).2 := .refl d
  have hbody : SameLine d (d.fastcomSetFrameLengthFscc numChars).2 := by
    simp only [fastcomSetFrameLengthFscc]
    split
    · exact .refl d
    split
    · exact .refl d
    · exact sameLine_fsccWindow d fun d => sameLine_icrStore d _ _
  unfold fastcomSetFrameLength
  cases d.card with
  | fscc => exact hremember hbody
  | _ => exact hremember hrefused

theorem sameLine_fastcomSet9Bit (d : Device) (enable : Bool) :
    SameLine d (d.fastcomSet9Bit enable).2 := by
  unfold fastcomSet9Bit
  cases d.card with
  | fscc =>
    have h : SameLine d (d.fastcomSet9BitFscc enable) :=
      sameLine_fsccWindow d fun d => sameLine_icrStore d _ _
    exact ⟨h.1, h.2, h.3, h.4, h.5, h.6⟩
  | _ => exact .of_eq rfl rfl rfl rfl rfl rfl

theorem sameLine_fastcomSetClockBitsFscc (d : Device) (pool : Bool) (frequency : UInt32)
    (clockBits : List UInt8) :
    SameLine d (d.fastcomSetClockBitsFscc pool frequency clockBits).2 := by
  have hwords (words : List UInt32) (d : Device) : SameLine d (words.foldl writeBar2 d) := by
    induction words generalizing d with
    | nil => exact .refl d
    | cons v words ih => exact (sameLine_writeBar2 d v).trans (ih _)
  unfold fastcomSetClockBitsFscc
  split
  · exact .refl d
  · exact (hwords _ d).trans (.of_eq rfl rfl rfl rfl rfl rfl)

/-- So does the clock generator. -/
theorem sameLine_sendClockBits (n : Nat) (tempValue : UInt32) (data : UInt8) (d : Device) :
    SameLine d (sendClockBits n tempValue data d).2 := by
  induction n generalizing tempValue data d with
  | zero => exact .refl d
  | succ n ih =>
    have hpin (d : Device) (v : UInt8) : SameLine d (d.writeReg .mpiolvl v) :=
      sameLine_writeReg d (by decide) v
    simp only [sendClockBits]
    exact (hpin d _).trans <| (hpin _ _).trans <| (hpin _ _).trans (ih _ _ _)

theorem sameLine_strobeClockBits (d : Device) (saved data : UInt8) :
    SameLine d (d.strobeClockBits saved data) := by
  have hpin (d : Device) (v : UInt8) : SameLine d (d.writeReg .mpiolvl v) :=
    sameLine_writeReg d (by decide) v
  unfold strobeClockBits
  exact (hpin d _).trans <| (hpin _ _).trans (hpin _ _)

theorem sameLine_fastcomSetClockBitsPci (d : Device) (frequency clockBits : UInt32) :
    SameLine d (d.fastcomSetClockBitsPci frequency clockBits).2 := by
  have hclock (e : Device) (he : SameLine d e) : SameLine d { e with clockRate := frequency } :=
    ⟨he.1, he.2, he.3, he.4, he.5, he.6⟩
  unfold fastcomSetClockBitsPci
  exact hclock _ ((sameLine_sendClockBits _ _ _ d).trans (sameLine_strobeClockBits _ _ _))

/-- And all of it together. -/
theorem sameLine_initSettings (d : Device) (config : ConfigData) :
    SameLine d (d.initSettings config) := by
  have hfixed (d : Device) (rate : UInt32) : SameLine d (d.fastcomSetFixedBaudRate rate) :=
    .of_eq rfl rfl rfl rfl rfl rfl
  unfold initSettings
  exact (sameLine_fastcomSetRs485 d _).trans <| (sameLine_fastcomSetSampleRate _ _).trans <|
    (sameLine_fastcomSetTxTrigger _ _).trans <| (sameLine_fastcomSetRxTrigger _ _).trans <|
    (sameLine_fastcomSetTermination _ _).trans <| (sameLine_fastcomSetEchoCancel _ _).trans <|
    (sameLine_fastcomSetIsochronous _ _).trans <| (sameLine_fastcomSetFrameLength _ _).trans <|
    (sameLine_fastcomSet9Bit _ _).trans (hfixed _ _)

/-- An FSCC card comes out of `SerialFcInit` with the window of the 650 registers open: every
routine puts back the LCR that it finds. -/
theorem lcr_serialFcInit_fscc {d : Device} (hcard : d.card = .fscc) (pool : Bool)
    (config : Option ConfigData) : (d.serialFcInit pool config).hw.lcr = 0xbf := by
  have hgpio : d.fastcomInitGpio = d := by simp only [fastcomInitGpio, hcard]
  have hopen : d.fastcomInitTriggers.hw.lcr = 0xbf := by
    simp only [fastcomInitTriggers, hcard]
    rfl
  have hkind : d.fastcomInitTriggers.card = .fscc := by
    simp only [fastcomInitTriggers, hcard]
    exact hcard
  have hclock : SameLine d.fastcomInitTriggers (d.fastcomInitTriggers.initClock pool) := by
    simp only [initClock, hkind]
    exact sameLine_fastcomSetClockBitsFscc _ _ _ _
  unfold serialFcInit
  rw [hgpio, (sameLine_initSettings _ _).lcr, hclock.lcr, hopen]

/-! ## What the I/O controls keep -/

/-- A baud rate is set, or refused. -/
theorem setBaudRate_cases {d : Device} {around : Surroundings} {baudRate : UInt32}
    {x : SettingStatus × Device}
    (hrun : d.serialEvtIoDeviceControl around (.setBaudRate baudRate) = some x) :
    x.2 = d ∨ ∃ divisor,
      { d with currentBaud := d.effectiveBaud baudRate }.serialSetBaud divisor = some x.2 := by
  simp only [serialEvtIoDeviceControl] at hrun
  split at hrun
  · obtain ⟨d', hset, rfl⟩ := Option.map_eq_some_iff.mp hrun
    exact .inr ⟨_, hset⟩
  · cases hrun
    exact .inl rfl

/-- The latch is none of the settings. -/
theorem PciSettings.setBaudRate {on : Hardware} {d : Device} (hcard : d.card = .pci)
    (h : PciSettings on d d.hw) {baud : UInt32} {divisor : UInt16} {d' : Device}
    (hset : { d with currentBaud := baud }.serialSetBaud divisor = some d') :
    PciSettings on d' d'.hw := by
  have hne : ({ d with currentBaud := baud } : Device).card ≠ .pcie := by
    show d.card ≠ .pcie
    rw [hcard]
    decide
  rw [serialSetBaud_of_ne_pcie hne] at hset
  cases hset
  exact { h with }

/-- A setting is remembered as it is programmed. -/
theorem PciSettings.setRs485 {on : Hardware} {d : Device} (hcard : d.card = .pci)
    (h : PciSettings on d d.hw) (enable : Bool) :
    PciSettings on (d.fastcomSetRs485 enable) (d.fastcomSetRs485 enable).hw := by
  rw [fastcomSetRs485_pci hcard]
  exact
    { h with
      pins := h.pins.withBits d.channelMask_eight_pins _
      triggers := by
        show withBits enable 0x20 d.hw.fctr &&& 0xc0 = 0xc0
        rw [withBits_and_of_disjoint (by decide)]
        exact h.triggers
      rs485 := (has_withBits_self _ _ _).trans (Bool.and_true _)
      level := fun _ => has_withBits_self _ _ _
      echo := fun hc =>
        (has_withBits_of_disjoint (channelMask_eight_high hc) _ _).trans (h.echo hc) }

theorem PciSettings.setEchoCancel {on : Hardware} {d : Device} (hcard : d.card = .pci)
    (h : PciSettings on d d.hw) (enable : Bool) :
    PciSettings on (d.fastcomSetEchoCancel enable) (d.fastcomSetEchoCancel enable).hw := by
  rw [fastcomSetEchoCancel_pci hcard]
  exact
    { h with
      pins := h.pins.withBits (by decide) _
      level := fun hc => by
        have hdisj : (0x80 : UInt8) &&& d.channelMask 8 = 0 := by
          rw [UInt8.and_comm]
          exact channelMask_eight_high hc
        exact (has_withBits_of_disjoint hdisj _ _).trans (h.level hc)
      echo := fun _ => (has_withBits_self _ _ _).trans (Bool.and_true _) }

theorem PciSettings.setSampleRate {on : Hardware} {d : Device} (hcard : d.card = .pci)
    (h : PciSettings on d d.hw) (value : UInt32) :
    PciSettings on (d.fastcomSetSampleRate value).2 (d.fastcomSetSampleRate value).2.hw := by
  rw [fastcomSetSampleRate_pci hcard]
  refine { h with rate := ?_ }
  by_cases h8 : value = 8
  · simp only [h8, true_or, if_true]
    exact has_withBits_self _ _ _
  by_cases h16 : value = 16
  · simp only [h16, or_true, if_true]
    exact has_withBits_self _ _ _
  · simp only [h8, h16, or_self, if_false]
    exact h.rate

theorem PciSettings.setTxTrigger {on : Hardware} {d : Device} (hcard : d.card = .pci)
    (h : PciSettings on d d.hw) (value : UInt32) :
    PciSettings on (d.fastcomSetTxTrigger value).2 (d.fastcomSetTxTrigger value).2.hw := by
  rw [fastcomSetTxTrigger_exar (.inl hcard) (show triggerLimit d.card = 64 by rw [hcard]; rfl)]
  by_cases hle : value ≤ 64
  · simp only [hle, if_true]
    exact { h with tx := rfl, txLimit := hle }
  · simp only [hle, if_false]
    exact { h with }

theorem PciSettings.setRxTrigger {on : Hardware} {d : Device} (hcard : d.card = .pci)
    (h : PciSettings on d d.hw) (value : UInt32) :
    PciSettings on (d.fastcomSetRxTrigger value).2 (d.fastcomSetRxTrigger value).2.hw := by
  rw [fastcomSetRxTrigger_exar (.inl hcard) (show triggerLimit d.card = 64 by rw [hcard]; rfl)]
  by_cases hle : value ≤ 64
  · simp only [hle, if_true]
    exact { h with rx := rfl, rxLimit := hle }
  · simp only [hle, if_false]
    exact { h with }

theorem PciSettings.setClockBits {on : Hardware} {d : Device} (hcard : d.card = .pci)
    (h : PciSettings on d d.hw) (frequency clockBits : UInt32) :
    PciSettings on (d.fastcomSetClockBitsPci frequency clockBits).2
      (d.fastcomSetClockBitsPci frequency clockBits).2.hw := by
  rw [fastcomSetClockBitsPci_eq hcard h.pins]
  generalize sentBits 24 (clockBits &&& 0x00ffffff) = bits
  exact { h with }

/-- **I/O controls of a PCI card** leave what is remembered in the registers. -/
theorem PciSettings.ioctl {on : Hardware} {d : Device} (hcard : d.card = .pci)
    (h : PciSettings on d d.hw) {around : Surroundings} {i : Ioctl} {x : SettingStatus × Device}
    (hrun : d.serialEvtIoDeviceControl around i = some x) : PciSettings on x.2 x.2.hw := by
  obtain ⟨hiso, hframe, hext, hnine⟩ := notSupported_of_exar (d := d) (.inl hcard)
  cases i with
  | setBaudRate baudRate =>
    rcases setBaudRate_cases hrun with heq | ⟨divisor, hset⟩
    · rw [heq]
      exact h
    · exact h.setBaudRate hcard hset
  | setLineControl wordLength parity stopBits =>
    simp only [serialEvtIoDeviceControl] at hrun
    split at hrun <;> cases hrun
    · exact h
    · exact { h with }
  | setRs485 enable => cases hrun; exact h.setRs485 hcard enable
  | setEchoCancel enable => cases hrun; exact h.setEchoCancel hcard enable
  | setTermination enable =>
    cases hrun
    have hterm : (d.fastcomSetTermination enable).2 = d := by
      simp only [fastcomSetTermination, hcard]
    rw [hterm]
    exact h
  | setSampleRate value => cases hrun; exact h.setSampleRate hcard value
  | setTxTrigger value => cases hrun; exact h.setTxTrigger hcard value
  | setRxTrigger value => cases hrun; exact h.setRxTrigger hcard value
  | setClockRate value => cases hrun; exact h
  | setClockBits frequency clockBitsFscc clockBits335 =>
    simp only [serialEvtIoDeviceControl, hcard, Option.some.injEq] at hrun
    rw [← hrun]
    exact h.setClockBits hcard frequency clockBits335
  | setIsochronous mode => cases hrun; rw [hiso]; exact h
  | setExternalTransmit numFrames => cases hrun; rw [hext]; exact h
  | setFrameLength numChars => cases hrun; rw [hframe]; exact h
  | set9Bit enable => cases hrun; rw [hnine]; exact { h with }
  | setFixedBaudRate rate => cases hrun; exact { h with }

/-- The registers of an open PCIe port, whose baud rate can be set again. -/
structure PcieOpen (d : Device) : Prop where
  settings : PcieSettings d d.hw
  baud : d.currentBaud ≠ 0

/-- A baud rate that was set can be set again. -/
theorem PcieOpen.setBaudRate {d : Device} (hcard : d.card = .pcie) (h : PcieOpen d) {baud : UInt32}
    {divisor : UInt16} {d' : Device}
    (hset : { d with currentBaud := baud }.serialSetBaud divisor = some d') : PcieOpen d' := by
  have hdef : ({ d with currentBaud := baud } : Device).BaudDefined :=
    baudDefined_of_some (by exact hcard) hset
  rw [serialSetBaud_pcie (by exact hcard) hdef] at hset
  cases hset
  exact ⟨{ h.settings with }, hdef.baud_ne_zero⟩

theorem PcieOpen.setRs485 {d : Device} (hcard : d.card = .pcie) (h : PcieOpen d) (enable : Bool) :
    PcieOpen (d.fastcomSetRs485 enable) := by
  rw [fastcomSetRs485_pcie hcard]
  exact ⟨
    { h.settings with
      triggers := by
        show withBits enable 0x20 d.hw.fctr &&& 0xc0 = 0xc0
        rw [withBits_and_of_disjoint (by decide)]
        exact h.settings.triggers
      rs485 := (has_withBits_self _ _ _).trans (Bool.and_true _)
      driver := (has_withBits_self _ _ _).trans (Bool.and_true _) }, h.baud⟩

theorem PcieOpen.setTermination {d : Device} (hcard : d.card = .pcie) (h : PcieOpen d)
    (enable : Bool) : PcieOpen (d.fastcomSetTermination enable).2 := by
  rw [fastcomSetTermination_pcie hcard]
  exact ⟨{ h.settings with termination := has_withBits_self _ _ _ }, h.baud⟩

theorem PcieOpen.setEchoCancel {d : Device} (hcard : d.card = .pcie) (h : PcieOpen d)
    (enable : Bool) : PcieOpen (d.fastcomSetEchoCancel enable) := by
  rw [fastcomSetEchoCancel_pcie hcard]
  exact ⟨{ h.settings with echo := has_withBits_self _ _ _ }, h.baud⟩

theorem PcieOpen.setSampleRate {d : Device} (hcard : d.card = .pcie) (h : PcieOpen d)
    (value : UInt32) : PcieOpen (d.fastcomSetSampleRate value).2 := by
  rw [fastcomSetSampleRate_pcie hcard]
  by_cases hvalue : value = 4 ∨ value = 8 ∨ value = 16
  · simp only [hvalue, if_true]
    exact ⟨
      { h.settings with
        rate := hvalue
        rate4x := has_withBits_self _ _ _
        rate8x := has_withBits_self _ _ _ }, h.baud⟩
  · simp only [hvalue, if_false]
    exact h

theorem PcieOpen.setTxTrigger {d : Device} (hcard : d.card = .pcie) (h : PcieOpen d)
    (value : UInt32) : PcieOpen (d.fastcomSetTxTrigger value).2 := by
  rw [fastcomSetTxTrigger_exar (.inr hcard) (show triggerLimit d.card = 255 by rw [hcard]; rfl)]
  by_cases hle : value ≤ 255
  · simp only [hle, if_true]
    exact ⟨{ h.settings with tx := rfl, txLimit := hle }, h.baud⟩
  · simp only [hle, if_false]
    exact h

theorem PcieOpen.setRxTrigger {d : Device} (hcard : d.card = .pcie) (h : PcieOpen d)
    (value : UInt32) : PcieOpen (d.fastcomSetRxTrigger value).2 := by
  rw [fastcomSetRxTrigger_exar (.inr hcard) (show triggerLimit d.card = 255 by rw [hcard]; rfl)]
  by_cases hle : value ≤ 255
  · simp only [hle, if_true]
    exact ⟨{ h.settings with rx := rfl, rxLimit := hle }, h.baud⟩
  · simp only [hle, if_false]
    exact h

/-- **I/O controls of a PCIe card** leave what is remembered in the registers. -/
theorem PcieOpen.ioctl {d : Device} (hcard : d.card = .pcie) (h : PcieOpen d)
    {around : Surroundings} {i : Ioctl} {x : SettingStatus × Device}
    (hrun : d.serialEvtIoDeviceControl around i = some x) : PcieOpen x.2 := by
  obtain ⟨hiso, hframe, hext, hnine⟩ := notSupported_of_exar (d := d) (.inr hcard)
  cases i with
  | setBaudRate baudRate =>
    rcases setBaudRate_cases hrun with heq | ⟨divisor, hset⟩
    · rw [heq]
      exact h
    · exact h.setBaudRate hcard hset
  | setLineControl wordLength parity stopBits =>
    simp only [serialEvtIoDeviceControl] at hrun
    split at hrun <;> cases hrun
    · exact h
    · exact ⟨{ h.settings with }, h.baud⟩
  | setRs485 enable => cases hrun; exact h.setRs485 hcard enable
  | setEchoCancel enable => cases hrun; exact h.setEchoCancel hcard enable
  | setTermination enable => cases hrun; exact h.setTermination hcard enable
  | setSampleRate value => cases hrun; exact h.setSampleRate hcard value
  | setTxTrigger value => cases hrun; exact h.setTxTrigger hcard value
  | setRxTrigger value => cases hrun; exact h.setRxTrigger hcard value
  | setClockRate value => cases hrun; exact h
  | setClockBits frequency clockBitsFscc clockBits335 =>
    simp only [serialEvtIoDeviceControl, hcard, Option.some.injEq] at hrun
    rw [← hrun]
    exact h
  | setIsochronous mode => cases hrun; rw [hiso]; exact h
  | setExternalTransmit numFrames => cases hrun; rw [hext]; exact h
  | setFrameLength numChars => cases hrun; rw [hframe]; exact h
  | set9Bit enable => cases hrun; rw [hnine]; exact ⟨{ h.settings with }, h.baud⟩
  | setFixedBaudRate rate => cases hrun; exact ⟨{ h.settings with }, h.baud⟩

/-! ## Open ports -/

theorem has_eq_false_of_and {v mask : UInt8} (h : v &&& mask = 0) : has v mask = false := by
  simp [has, h]

theorem or_and_eq_zero {v w mask : UInt8} (hv : v &&& mask = 0) (hw : w &&& mask = 0) :
    (v ||| w) &&& mask = 0 := by
  apply UInt8.toBitVec_inj.mp
  ext i hi
  have hvi := congrArg (fun x : UInt8 => x.toBitVec[i]) hv
  have hwi := congrArg (fun x : UInt8 => x.toBitVec[i]) hw
  simp at hvi hwi ⊢
  grind

/-- The latch is written behind LCR. -/
theorem sameLine_serialSetBaud {d d' : Device} {divisor : UInt16}
    (h : d.serialSetBaud divisor = some d') : SameLine d d' := by
  by_cases hcard : d.card = .pcie
  · rw [serialSetBaud_pcie hcard (baudDefined_of_some hcard h)] at h
    cases h
    exact .of_eq rfl rfl rfl rfl rfl rfl
  · rw [serialSetBaud_of_ne_pcie hcard] at h
    cases h
    exact .of_eq rfl rfl rfl rfl rfl rfl

theorem SameLine.card {d d' : Device} (h : SameLine d d') : d'.card = d.card :=
  congrArg fastcomGetCardType h.deviceId

/-- What holds of an open port between the I/O controls. -/
structure OpenPort (on : Hardware) (d : Device) : Prop where
  opened : d.deviceIsOpened = true
  line : d.hw.lcr = d.lineControl
  noDlab : has d.lineControl lcrDlab = false
  pci : d.card = .pci → PciSettings on d d.hw
  pcie : d.card = .pcie → PcieOpen d

/-- What an I/O control can do: nothing to LCR and the baud rate, or set one of them. -/
theorem ioctl_cases {d : Device} {around : Surroundings} {i : Ioctl} {x : SettingStatus × Device}
    (hrun : d.serialEvtIoDeviceControl around i = some x) :
    SameLine d x.2 ∨
    (∃ baudRate divisor, i = .setBaudRate baudRate ∧
      (d.serialGetDivisorFromBaud around.stack (d.effectiveBaud baudRate)).1.ok = true ∧
      { d with currentBaud := d.effectiveBaud baudRate }.serialSetBaud divisor = some x.2) ∨
    ∃ wordLength parity stopBits bits, i = .setLineControl wordLength parity stopBits ∧
      LineControl.lineControlBits wordLength parity stopBits = some bits ∧
      x.2 = { d with lineControl := d.lineControl &&& lcrBreak ||| bits }.serialSetLineControl := by
  -- two requests change the line; the rest set something of the card
  cases i with
  | setBaudRate baudRate =>
    simp only [serialEvtIoDeviceControl] at hrun
    split at hrun
    · next hok =>
      obtain ⟨d', hset, rfl⟩ := Option.map_eq_some_iff.mp hrun
      exact .inr (.inl ⟨baudRate, _, rfl, hok, hset⟩)
    · cases hrun
      exact .inl (.refl d)
  | setLineControl wordLength parity stopBits =>
    simp only [serialEvtIoDeviceControl] at hrun
    split at hrun
    · cases hrun
      exact .inl (.refl d)
    · next bits hbits =>
      cases hrun
      exact .inr (.inr ⟨_, _, _, bits, rfl, hbits, rfl⟩)
  | setRs485 enable => cases hrun; exact .inl (sameLine_fastcomSetRs485 d enable)
  | setEchoCancel enable => cases hrun; exact .inl (sameLine_fastcomSetEchoCancel d enable)
  | setTermination enable => cases hrun; exact .inl (sameLine_fastcomSetTermination d enable)
  | setSampleRate value => cases hrun; exact .inl (sameLine_fastcomSetSampleRate d value)
  | setTxTrigger value => cases hrun; exact .inl (sameLine_fastcomSetTxTrigger d value)
  | setRxTrigger value => cases hrun; exact .inl (sameLine_fastcomSetRxTrigger d value)
  | setClockRate value => cases hrun; exact .inl (.refl d)
  | setClockBits frequency clockBitsFscc clockBits335 =>
    left
    simp only [serialEvtIoDeviceControl] at hrun
    split at hrun <;> rw [← Option.some.inj hrun]
    · exact sameLine_fastcomSetClockBitsFscc d _ _ _
    · exact sameLine_fastcomSetClockBitsPci d _ _
    · exact .refl d
  | setIsochronous mode => cases hrun; exact .inl (sameLine_fastcomSetIsochronous d mode)
  | setExternalTransmit numFrames =>
    cases hrun
    exact .inl (sameLine_fastcomSetExternalTransmit d numFrames)
  | setFrameLength numChars =>
    cases hrun
    exact .inl (sameLine_fastcomSetFrameLength d numChars)
  | set9Bit enable => cases hrun; exact .inl (sameLine_fastcomSet9Bit d enable)
  | setFixedBaudRate rate => cases hrun; exact .inl (.of_eq rfl rfl rfl rfl rfl rfl)

theorem OpenPort.ioctl {on : Hardware} {d : Device} (h : OpenPort on d) {around : Surroundings}
    {i : Ioctl} {x : SettingStatus × Device}
    (hrun : d.serialEvtIoDeviceControl around i = some x) : OpenPort on x.2 := by
  have hpci (hcard : d.card = .pci) := (h.pci hcard).ioctl hcard hrun
  have hpcie (hcard : d.card = .pcie) := (h.pcie hcard).ioctl hcard hrun
  -- The baud rate may differ.
  have hbesides {baud : UInt32} (hsame : SameLine { d with currentBaud := baud } x.2) :
      OpenPort on x.2 := by
    have hid : x.2.card = d.card := hsame.card
    exact
      { opened := hsame.opened.trans h.opened
        line := hsame.lcr.trans (h.line.trans hsame.lineControl.symm)
        noDlab := by rw [hsame.lineControl]; exact h.noDlab
        pci := fun hcard => hpci (hid.symm.trans hcard)
        pcie := fun hcard => hpcie (hid.symm.trans hcard) }
  rcases ioctl_cases hrun with hsame | ⟨baudRate, divisor, rfl, -, hset⟩ |
    ⟨wordLength, parity, stopBits, bits, rfl, hbits, hline⟩
  · exact hbesides (by exact hsame)
  · exact hbesides (sameLine_serialSetBaud hset)
  · have hid : x.2.card = d.card := by rw [hline]; rfl
    refine ⟨by rw [hline]; exact h.opened, by rw [hline]; rfl, ?_,
      fun hcard => hpci (hid.symm.trans hcard), fun hcard => hpcie (hid.symm.trans hcard)⟩
    rw [hline]
    refine has_eq_false_of_and (or_and_eq_zero ?_ (LineControl.lineControlBits_dlab hbits))
    rw [UInt8.and_assoc]
    exact UInt8.and_zero

theorem OpenPort.moveLines {on : Hardware} {d : Device} (h : OpenPort on d) (lines : UInt8) :
    OpenPort on (d.moveLines lines) := by
  have hmcr (hcard : d.card = .pci ∨ d.card = .pcie) : d.moveLines lines =
      { d with hw := { d.hw with mcr := d.hw.mcr &&& ~~~0x03 ||| lines &&& 0x03 } } := by
    unfold Device.moveLines
    rw [writeReg_mcr hcard, readReg_mcr hcard]
  refine ⟨h.opened, h.line, h.noDlab, fun hcard => ?_, fun hcard => ?_⟩
  · rw [hmcr (.inl hcard)]
    exact { h.pci hcard with }
  · rw [hmcr (.inr hcard)]
    refine ⟨{ (h.pcie hcard).settings with driver := ?_ }, (h.pcie hcard).baud⟩
    have hbit : (d.hw.mcr &&& ~~~0x03 ||| lines &&& 0x03) &&& 0x04 = d.hw.mcr &&& 0x04 := by
      apply UInt8.toBitVec_inj.mp
      ext i hi
      have hi' : i = 0 ∨ i = 1 ∨ i = 2 ∨ i = 3 ∨ i = 4 ∨ i = 5 ∨ i = 6 ∨ i = 7 := by omega
      rcases hi' with rfl | rfl | rfl | rfl | rfl | rfl | rfl | rfl <;> simp
    exact (has_eq_of_and_eq hbit rfl).trans (h.pcie hcard).settings.driver

theorem OpenPort.step {on : Hardware} {d d' : Device} {e : Event}
    (hstep : Device.step e d = some d') (h : OpenPort on d) : OpenPort on d' := by
  cases e with
  | ioctl around i =>
    obtain ⟨x, hrun, rfl⟩ := Option.map_eq_some_iff.mp hstep
    exact h.ioctl hrun
  | lines lines =>
    cases hstep
    exact h.moveLines lines

/-! ## The first start -/

/-- The device extension of a port that was never started. -/
def fresh (on : Hardware) (vstr : UInt32) (deviceId : UInt16) (channel : Nat) (fifoPresent : Bool) :
    Device where
  hw := on
  vstr := vstr
  deviceId := deviceId
  channel := channel
  fifoPresent := fifoPresent
  rxFifoTrigger := 0
  clockRate := 0
  sampleRate := 0
  txTrigger := 0
  rxTrigger := 0
  rs485 := false
  termination := false
  echoCancel := false
  isochronous := 0
  frameLength := 0
  nineBit := false
  fixedBaudRate := 0
  currentBaud := 0
  lineControl := 0
  acr := 0
  deviceIsOpened := false
  state := ⟨0, 0, 0, false⟩

/-- What `SerialReset` leaves of a card that hides no register. -/
theorem serialReset_exar {d d' : Device} (hcard : d.card = .pci ∨ d.card = .pcie)
    (hdlab : d.hw.dlab = false) (hline : has d.lineControl lcrDlab = false) {stack : UInt16}
    (h : d.serialReset stack = some d') :
    (d.card = .pcie → d.BaudDefined) ∧ ∃ fcr dlm dll dld, d' = { d with
      hw := { d.hw with
        mcr := d.hw.mcr &&& ~~~mcrOut2
        fcr := fcr
        lcr := d.lineControl
        ier := ierAll
        dlm := dlm
        dll := dll
        dld := dld } } := by
  obtain ⟨fcr, hfifo⟩ := resetFifo_exar
    (d := { d with hw := { d.hw with mcr := d.hw.mcr &&& ~~~mcrOut2 } })
    (by exact hcard) (by exact hdlab)
  have hregs : (d.writeReg .mcr (d.readReg .mcr &&& ~~~mcrOut2)).resetFifo =
      { d with hw := { d.hw with mcr := d.hw.mcr &&& ~~~mcrOut2, fcr := fcr } } := by
    rw [readReg_mcr hcard, writeReg_mcr hcard]
    exact hfifo
  simp only [serialReset, hregs, writeReg_lcr, serialSetLineControl, Option.bind_eq_bind,
    Option.bind_eq_some_iff, Option.pure_def, Option.some.injEq] at h
  obtain ⟨e, hset, rfl⟩ := h
  let e₀ : Device :=
    { d with hw := { d.hw with mcr := d.hw.mcr &&& ~~~mcrOut2, fcr := fcr, lcr := d.lineControl } }
  have hset : e₀.serialSetBaud (e₀.serialGetDivisorFromBaud stack e₀.currentBaud).2 = some e := hset
  have hbaud : e₀.card = .pcie → e₀.BaudDefined := fun hpcie => baudDefined_of_some hpcie hset
  rw [serialSetBaud_present hbaud] at hset
  have he := Option.some.inj hset
  refine ⟨hbaud, fcr, (e₀.latchFor stack).1, (e₀.latchFor stack).2.1, (e₀.latchFor stack).2.2, ?_⟩
  rw [← he]
  exact writeReg_ier (by exact hline) _

/-- What neither a reset nor a power cycle changes. -/
structure SamePort (d d' : Device) : Prop where
  deviceId : d'.deviceId = d.deviceId
  lineControl : d'.lineControl = d.lineControl

/-- One after the other. -/
theorem SamePort.trans {d₁ d₂ d₃ : Device} (h₁ : SamePort d₁ d₂) (h₂ : SamePort d₂ d₃) :
    SamePort d₁ d₃ :=
  ⟨h₂.1.trans h₁.1, h₂.2.trans h₁.2⟩

theorem SameLine.port {d d' : Device} (h : SameLine d d') : SamePort d d' :=
  ⟨h.deviceId, h.lineControl⟩

theorem samePort_resetFifo (d : Device) : SamePort d d.resetFifo := by
  unfold resetFifo
  split
  · exact ⟨rfl, rfl⟩
  · exact ⟨rfl, rfl⟩

/-- The settings are programmed. -/
theorem samePort_serialFcInit (d : Device) (pool : Bool) (config : Option ConfigData) :
    SamePort d (d.serialFcInit pool config) := by
  have hgpio : SamePort d d.fastcomInitGpio := by
    unfold fastcomInitGpio
    split
    · split <;> exact ⟨rfl, rfl⟩
    all_goals exact ⟨rfl, rfl⟩
  have htriggers (d : Device) : SamePort d d.fastcomInitTriggers := by
    unfold fastcomInitTriggers
    split <;> exact ⟨rfl, rfl⟩
  have hclock (d : Device) : SamePort d (d.initClock pool) := by
    unfold initClock
    split
    · exact (sameLine_fastcomSetClockBitsFscc _ _ _ _).port
    · exact (sameLine_fastcomSetClockBitsPci _ _ _).port
    · exact ⟨rfl, rfl⟩
    · exact ⟨rfl, rfl⟩
  exact hgpio.trans <| (htriggers _).trans <| (hclock _).trans (sameLine_initSettings _ _).port

/-- A reset puts the line control into LCR. -/
theorem serialReset_line {d d' : Device} {stack : UInt16} (h : d.serialReset stack = some d') :
    SamePort d d' ∧ d'.hw.lcr = d.lineControl := by
  have hfifo := samePort_resetFifo (d.writeReg .mcr (d.readReg .mcr &&& ~~~mcrOut2))
  simp only [serialReset, serialSetLineControl, Option.bind_eq_bind, Option.bind_eq_some_iff,
    Option.pure_def, Option.some.injEq] at h
  obtain ⟨e, hset, rfl⟩ := h
  have hbaud := sameLine_serialSetBaud hset
  exact ⟨⟨hbaud.deviceId.trans hfifo.deviceId, hbaud.lineControl.trans hfifo.lineControl⟩,
    hbaud.lcr.trans hfifo.lineControl⟩

theorem samePort_restoreRegisters (d : Device) : SamePort d d.restoreRegisters := by
  have hfifo : SamePort d (if d.fifoPresent then d.resetFifo else d.writeReg .fcr 0) := by
    split
    · exact samePort_resetFifo d
    · exact ⟨rfl, rfl⟩
  refine hfifo.trans ?_
  simp only [restoreRegisters]
  generalize (if d.fifoPresent = true then d.resetFifo else d.writeReg .fcr 0) = e
  split <;> exact ⟨rfl, rfl⟩

/-- The port after a power cycle. -/
theorem samePort_serialEvtDeviceD0Entry {d d' : Device} {around : Surroundings}
    (h : d.serialEvtDeviceD0Entry around = some d') : SamePort d d' := by
  simp only [serialEvtDeviceD0Entry, Option.bind_eq_bind, Option.bind_eq_some_iff, Option.pure_def,
    Option.some.injEq] at h
  obtain ⟨e, hset, rfl⟩ := h
  have hbaud := sameLine_serialSetBaud hset
  have hrest : SamePort d e.restoreRegisters :=
    .trans ⟨hbaud.deviceId, hbaud.lineControl⟩ (samePort_restoreRegisters e)
  exact hrest.trans (samePort_serialFcInit _ _ _)

/-- Seven bits, even parity and one stop bit to begin with. -/
theorem serialInitController_line {d d' : Device} {around : Surroundings} {config : ConfigData}
    (h : d.serialInitController around config = some d') :
    d'.deviceId = d.deviceId ∧ d'.lineControl = 0x1a := by
  simp only [serialInitController, Option.bind_eq_bind, Option.bind_eq_some_iff, Option.pure_def,
    Option.some.injEq] at h
  obtain ⟨e, hreset, rfl⟩ := h
  have hfc := samePort_serialFcInit { d with clockRate := config.clockRate, rxFifoTrigger := 0xc0 }
    around.pool (some config)
  generalize Device.serialFcInit _ around.pool (some config) = f at hreset hfc
  have hline := (serialReset_line hreset).1
  have hdisable : SamePort e e.serialDisableUart := by
    unfold serialDisableUart
    simp only
    split <;> exact ⟨rfl, rfl⟩
  have hid : e.deviceId = d.deviceId := hline.deviceId.trans hfc.deviceId
  have hdefault : e.lineControl = 0x1a := hline.lineControl
  exact ⟨hdisable.deviceId.trans hid, hdisable.lineControl.trans hdefault⟩

/-- An open port has the line control in LCR. -/
theorem serialDeviceFileOpen_line {d d' : Device} {stack : UInt16}
    (h : d.serialDeviceFileOpen stack = some d') :
    SamePort d d' ∧ d'.hw.lcr = d'.lineControl ∧ d'.deviceIsOpened = true := by
  unfold serialDeviceFileOpen at h
  split at h
  · exact absurd h nofun
  have hasync : SamePort d (if d.card = .fscc then d.fsccEnableAsync else d) := by
    split
    · unfold fsccEnableAsync
      simp only
      split <;> exact ⟨rfl, rfl⟩
    · exact ⟨rfl, rfl⟩
  simp only [Option.bind_eq_bind, Option.bind_eq_some_iff, Option.pure_def,
    Option.some.injEq] at h
  obtain ⟨e, hreset, rfl⟩ := h
  have hline := serialReset_line hreset
  exact ⟨hasync.trans ⟨hline.1.deviceId, hline.1.lineControl⟩,
    hline.2.trans hline.1.lineControl.symm, rfl⟩

/-- OUT2 goes down and the FIFOs are reset. -/
theorem serialDisableUart_exar {d : Device} (hcard : d.card = .pci ∨ d.card = .pcie)
    (hdlab : d.hw.dlab = false) :
    ∃ fcr, d.serialDisableUart =
      { d with hw := { d.hw with mcr := d.hw.mcr &&& ~~~mcrOut2, fcr := fcr } } := by
  simp only [serialDisableUart]
  rw [readReg_mcr hcard, writeReg_mcr hcard]
  split
  · rw [writeReg_fcr (by exact hcard) (by exact hdlab)]
    exact ⟨_, rfl⟩
  · exact ⟨d.hw.fcr, rfl⟩

/-- What `SerialInitController` leaves after `SerialFcInit`, of a card that hides no register. -/
theorem serialInitController_exar {d d' : Device} (hcard : d.card = .pci ∨ d.card = .pcie)
    {around : Surroundings} {config : ConfigData} {f : Device}
    (hf : ({ d with clockRate := config.clockRate, rxFifoTrigger := 0xc0 } : Device).serialFcInit
      around.pool (some config) = f)
    (hdlab : f.hw.dlab = false) (h : d.serialInitController around config = some d') :
    (d.card = .pcie → f.sampleRate ≠ 0) ∧ ∃ mcr fcr ier dlm dll dld, d' = { f with
      hw := { f.hw with
        mcr := mcr, fcr := fcr, ier := ier, lcr := 0x1a, dlm := dlm, dll := dll, dld := dld }
      lineControl := 0x1a
      currentBaud := 1200
      deviceIsOpened := false
      state := { f.state with reopen := false } } := by
  have hport := samePort_serialFcInit
    { d with clockRate := config.clockRate, rxFifoTrigger := 0xc0 } around.pool (some config)
  simp only [serialInitController, hf, Option.bind_eq_bind, Option.bind_eq_some_iff,
    Option.pure_def, Option.some.injEq] at h
  rw [hf] at hport
  have hsame : f.card = d.card := congrArg fastcomGetCardType hport.deviceId
  have hkind : f.card = .pci ∨ f.card = .pcie := by rwa [hsame]
  obtain ⟨e, hreset, rfl⟩ := h
  -- the state before the reset
  let f₀ : Device := { f with
    hw := { f.hw with ier := 0, mcr := 0 }
    lineControl := 0x1a
    currentBaud := 1200
    deviceIsOpened := false
    state := { f.state with reopen := false } }
  have hf₀ : (((({ f with lineControl := 0x1a, currentBaud := 1200 } : Device).setDeviceIsOpened
      false false).writeReg .ier 0).writeReg .mcr 0) = f₀ := by
    rw [writeReg_ier (by exact hdlab), writeReg_mcr (by exact hkind)]
    rfl
  rw [hf₀] at hreset
  have hkind₀ : f₀.card = .pci ∨ f₀.card = .pcie := hkind
  have hline : has f₀.lineControl lcrDlab = false := (by decide : has 0x1a lcrDlab = false)
  obtain ⟨hbaud, fcr, dlm, dll, dld, he⟩ := serialReset_exar hkind₀ hdlab hline hreset
  -- the reset keeps the card and leaves LCR at 0x1a, so the latch is out of the way
  have hkind' : e.card = .pci ∨ e.card = .pcie := by
    rw [he]
    exact hkind
  have hdlab' : e.hw.dlab = false := by
    rw [he]
    exact hline
  obtain ⟨fcr', hdisable⟩ := serialDisableUart_exar hkind' hdlab'
  refine ⟨fun hpcie => (hbaud (hsame.trans hpcie)).1, ?_⟩
  rw [hdisable]
  simp only [setDeviceIsOpened]
  rw [readReg_mcr (by exact hkind'), writeReg_mcr (by exact hkind'), he]
  exact ⟨_, _, _, _, _, _, rfl⟩

/-- What opening leaves of a card that hides no register. -/
theorem serialDeviceFileOpen_exar {d d' : Device} (hcard : d.card = .pci ∨ d.card = .pcie)
    (hdlab : d.hw.dlab = false) (hline : has d.lineControl lcrDlab = false) {stack : UInt16}
    (h : d.serialDeviceFileOpen stack = some d') :
    (d.card = .pcie → d.BaudDefined) ∧ ∃ fcr dlm dll dld, d' = { d with
      hw := { d.hw with
        mcr := d.hw.mcr &&& ~~~mcrOut2 ||| mcrOut2
        fcr := fcr
        lcr := d.lineControl
        ier := ierAll
        dlm := dlm
        dll := dll
        dld := dld }
      deviceIsOpened := true } := by
  have hnot : d.card ≠ .fscc := by rcases hcard with h | h <;> rw [h] <;> decide
  simp only [serialDeviceFileOpen, hnot, false_and, if_false, Option.bind_eq_bind,
    Option.bind_eq_some_iff, Option.pure_def, Option.some.injEq] at h
  obtain ⟨e, hreset, rfl⟩ := h
  obtain ⟨hbaud, fcr, dlm, dll, dld, rfl⟩ := serialReset_exar hcard hdlab hline hreset
  refine ⟨hbaud, fcr, dlm, dll, dld, ?_⟩
  rw [readReg_mcr (by exact hcard), writeReg_mcr (by exact hcard)]

/-- The values of the registry that the routines accept are within the limits. -/
theorem PciReady.first {on : Hardware} {d : Device} (h : PciReady on d) (pool : Bool)
    (config : ConfigData) :
    PciReady on (d.serialFcInit pool (some config)) ∧
      (d.serialFcInit pool (some config)).state = d.state := by
  obtain ⟨mpiosel, mpioinv, shifted, heq⟩ :=
    serialFcInit_pci h.card h.pins h.noDlab pool (some config)
  rw [Option.getD_some, initSettings_pci (by exact h.card)] at heq
  rw [heq]
  refine ⟨⟨h.card, ?_, h.noDlab, ?_, ?_, ?_⟩, rfl⟩
  · exact (h.pins.withBits d.channelMask_eight_pins _).withBits (by decide) _
  · dsimp only
    split
    · assumption
    · exact h.txLimit
  · dsimp only
    split
    · assumption
    · exact h.rxLimit
  · dsimp only
    intro h8 h16
    split at h8
    · next hrate => rcases hrate with hrate | hrate <;> simp_all
    · next hrate =>
      rw [if_neg hrate] at h16 ⊢
      exact h.rate h8 h16

/-- Before the first baud rate a PCIe port may have no sampling rate. -/
structure PcieFirst (d : Device) : Prop where
  card : d.card = .pcie
  noDlab : d.hw.dlab = false
  txLimit : d.txTrigger ≤ 255
  rxLimit : d.rxTrigger ≤ 255
  rate : d.sampleRate = 0 ∨ d.sampleRate = 4 ∨ d.sampleRate = 8 ∨ d.sampleRate = 16

/-- The values of the registry that the routines accept are among the sampling rates. -/
theorem PcieFirst.first {d : Device} (h : PcieFirst d) (pool : Bool) (config : ConfigData) :
    PcieFirst (d.serialFcInit pool (some config)) ∧
      (d.serialFcInit pool (some config)).state = d.state := by
  obtain ⟨mpiosel, mpioselh, heq⟩ := serialFcInit_pcie h.card h.noDlab pool (some config)
  rw [Option.getD_some, initSettings_pcie (by exact h.card)] at heq
  rw [heq]
  refine ⟨⟨h.card, h.noDlab, ?_, ?_, ?_⟩, rfl⟩
  · dsimp only
    split
    · assumption
    · exact h.txLimit
  · dsimp only
    split
    · assumption
    · exact h.rxLimit
  · dsimp only
    split
    · next hrate => exact .inr hrate
    · exact h.rate

theorem PcieFirst.ready {d : Device} (h : PcieFirst d) (hrate : d.sampleRate ≠ 0) : PcieReady d :=
  ⟨h.card, h.noDlab, h.txLimit, h.rxLimit, h.rate.resolve_left hrate⟩

/-- The registers of a port at its reset: no divisor latch, and no pin of the clock generator is
up. -/
structure AtReset (on : Hardware) : Prop where
  noDlab : on.dlab = false
  pins : PinsDown on.mpiolvl

/-- OUT2 is not the bit of RS-485. -/
theorem has_or_mcrOut2 (v : UInt8) : has (v &&& ~~~mcrOut2 ||| mcrOut2) 0x04 = has v 0x04 := by
  have hbit : (v &&& ~~~mcrOut2 ||| mcrOut2) &&& 0x04 = v &&& 0x04 := by
    apply UInt8.toBitVec_inj.mp
    ext i hi
    have hi' : i = 0 ∨ i = 1 ∨ i = 2 ∨ i = 3 ∨ i = 4 ∨ i = 5 ∨ i = 6 ∨ i = 7 := by omega
    rcases hi' with rfl | rfl | rfl | rfl | rfl | rfl | rfl | rfl <;> simp [mcrOut2]
  exact has_eq_of_and_eq hbit rfl

/-- **D0 entry of a PCI card.** The settings are programmed from what the device remembers, the
divisor latch before the clock rate is the default one again. -/
theorem PciReady.entered {on : Hardware} {d : Device} (h : PciReady on d)
    (hlcr : has d.state.lcr lcrDlab = false) (around : Surroundings) :
    ∃ d', d.serialEvtDeviceD0Entry around = some d' ∧
      d' = { d with
        hw := d'.hw
        clockRate := 18432000
        nineBit := false
        deviceIsOpened := d.state.reopen || d.deviceIsOpened
        state := if d.state.reopen then { d.state with reopen := false } else d.state } ∧
      PciSettings on d d'.hw ∧ has d'.hw.mpiolvl 0x80 = d.echoCancel ∧
      d'.hw.programmed = sentBits 24 default335ClockBits ∧ d'.hw.lcr = d.state.lcr ∧
      d'.hw.dlm = (d.latchFor around.stack).1 ∧ d'.hw.dll = (d.latchFor around.stack).2.1 := by
  have hne : d.card = .pcie → d.BaudDefined := fun hpcie => absurd (h.card.symm.trans hpcie) nofun
  obtain ⟨fcr, ier, hentry⟩ := serialEvtDeviceD0Entry_eq (.inl h.card) h.noDlab hlcr hne around
  have hready : PciReady on { d with
      hw := { d.hw with
        mcr := if d.state.reopen then d.state.mcr ||| mcrOut2 else 0
        fcr := fcr
        ier := ier
        lcr := d.state.lcr
        dlm := (d.latchFor around.stack).1
        dll := (d.latchFor around.stack).2.1
        dld := (d.latchFor around.stack).2.2 }
      deviceIsOpened := d.state.reopen || d.deviceIsOpened
      state := if d.state.reopen then { d.state with reopen := false } else d.state } :=
    ⟨h.card, h.pins, hlcr, h.txLimit, h.rxLimit, h.rate⟩
  generalize hx : Device.serialFcInit _ around.pool none = e at hentry
  obtain ⟨heq, hsettings, hecho, hclock, hline, hdlm, hdll⟩ := hready.serialFcInit hx
  exact ⟨e, hentry, heq, { hsettings with }, hecho, hclock, hline, hdlm, hdll⟩

/-- **D0 entry of a PCIe card.** The same, with the latch computed anew. -/
theorem PcieReady.entered {d : Device} (h : PcieReady d) (hbaud : d.currentBaud ≠ 0)
    (hlcr : has d.state.lcr lcrDlab = false) (around : Surroundings) :
    ∃ d', d.serialEvtDeviceD0Entry around = some d' ∧
      d' = { d with
        hw := d'.hw
        clockRate := 125000000
        nineBit := false
        deviceIsOpened := d.state.reopen || d.deviceIsOpened
        state := if d.state.reopen then { d.state with reopen := false } else d.state } ∧
      PcieSettings d d'.hw ∧ d'.hw.lcr = d.state.lcr ∧
      d'.hw.dlm = (d.latchFor around.stack).1 ∧ d'.hw.dll = (d.latchFor around.stack).2.1 ∧
      d'.hw.dld = (d.latchFor around.stack).2.2 := by
  have hrate : d.sampleRate ≠ 0 := by rcases h.rate with h | h | h <;> rw [h] <;> decide
  have hdefined : d.card = .pcie → d.BaudDefined := fun _ => .of_ne_zero hrate hbaud
  obtain ⟨fcr, ier, hentry⟩ := serialEvtDeviceD0Entry_eq (.inr h.card) h.noDlab hlcr hdefined around
  have hready : PcieReady { d with
      hw := { d.hw with
        mcr := if d.state.reopen then d.state.mcr ||| mcrOut2 else 0
        fcr := fcr
        ier := ier
        lcr := d.state.lcr
        dlm := (d.latchFor around.stack).1
        dll := (d.latchFor around.stack).2.1
        dld := (d.latchFor around.stack).2.2 }
      deviceIsOpened := d.state.reopen || d.deviceIsOpened
      state := if d.state.reopen then { d.state with reopen := false } else d.state } :=
    ⟨h.card, hlcr, h.txLimit, h.rxLimit, h.rate⟩
  generalize hx : Device.serialFcInit _ around.pool none = e at hentry
  obtain ⟨heq, hsettings, hline, hdlm, hdll, hdld⟩ := hready.serialFcInit hx
  exact ⟨e, hentry, heq, { hsettings with }, hline, hdlm, hdll, hdld⟩

/-- **The first open.** Initialised, powered up and opened, a port is as `OpenPort` says. -/
theorem openPort_start {on : Hardware} (hon : AtReset on) {vstr : UInt32} {deviceId : UInt16}
    {channel : Nat} {fifoPresent : Bool} {around : Surroundings} {config : ConfigData} {d : Device}
    (h : (fresh on vstr deviceId channel fifoPresent).start around config = some d) :
    OpenPort on d := by
  simp only [start, Option.bind_eq_bind, Option.bind_eq_some_iff] at h
  obtain ⟨d₁, hinit, d₂, hentry, hopen⟩ := h
  -- the line control of the port from the start to the open
  have hline₁ := serialInitController_line hinit
  have hport₂ := samePort_serialEvtDeviceD0Entry hentry
  obtain ⟨hport, hlcr, hopened⟩ := serialDeviceFileOpen_line hopen
  have hlineControl : d.lineControl = 0x1a :=
    hport.lineControl.trans (hport₂.lineControl.trans hline₁.2)
  have hid : d.deviceId = deviceId := hport.deviceId.trans (hport₂.deviceId.trans hline₁.1)
  have hcard : d.card = fastcomGetCardType deviceId := congrArg fastcomGetCardType hid
  have hcard₂ : d₂.card = d.card := congrArg fastcomGetCardType hport.deviceId.symm
  have hline₂ : has d₂.lineControl lcrDlab = false := by
    rw [hport₂.lineControl, hline₁.2]
    decide
  let d₀ : Device := { fresh on vstr deviceId channel fifoPresent with
    clockRate := config.clockRate, rxFifoTrigger := 0xc0 }
  have htx : d₀.txTrigger = 0 := rfl
  have hrx : d₀.rxTrigger = 0 := rfl
  refine ⟨hopened, hlcr, by rw [hlineControl]; decide, fun hpci => ?_, fun hpcie => ?_⟩
  -- PCI: initialised, then powered up, then opened
  · have hkind : d₀.card = .pci := hcard.symm.trans hpci
    have hready : PciReady on d₀ :=
      ⟨hkind, hon.pins, hon.noDlab, by rw [htx]; decide, by rw [hrx]; decide, fun _ _ => rfl⟩
    obtain ⟨hfirst, hstate⟩ := hready.first around.pool config
    generalize hf : d₀.serialFcInit around.pool (some config) = f at hfirst hstate
    obtain ⟨-, mcr, fcr, ier, dlm, dll, dld, hd₁⟩ :=
      serialInitController_exar (.inl (by exact hkind)) (by exact hf) hfirst.noDlab hinit
    have hready₁ : PciReady on d₁ := by
      rw [hd₁]
      exact ⟨hfirst.card, hfirst.pins, by exact (by decide : has 0x1a lcrDlab = false),
        hfirst.txLimit, hfirst.rxLimit, hfirst.rate⟩
    have hlcr₁ : d₁.state.lcr = 0 := by
      rw [hd₁]
      exact congrArg DeviceState.lcr hstate
    obtain ⟨d₂', hentry', heq, hsettings, -, -, hlcr₂, -⟩ :=
      hready₁.entered (by rw [hlcr₁]; decide) around
    cases hentry.symm.trans hentry'
    have hdlab₂ : d₂.hw.dlab = false := by
      unfold Hardware.dlab
      rw [hlcr₂, hlcr₁]
      decide
    obtain ⟨-, fcr', dlm', dll', dld', rfl⟩ :=
      serialDeviceFileOpen_exar (.inl (hcard₂.trans hpci)) hdlab₂ hline₂ hopen
    have hsettings₂ : PciSettings on d₂ d₂.hw := by
      rw [heq]
      exact { hsettings with }
    exact { hsettings₂ with }
  -- PCIe, in the same order; the baud rate must be known before the power comes up
  · have hkind : d₀.card = .pcie := hcard.symm.trans hpcie
    have hready : PcieFirst d₀ :=
      ⟨hkind, hon.noDlab, by rw [htx]; decide, by rw [hrx]; decide, .inl rfl⟩
    obtain ⟨hfirst, hstate⟩ := hready.first around.pool config
    generalize hf : d₀.serialFcInit around.pool (some config) = f at hfirst hstate
    obtain ⟨hrate, mcr, fcr, ier, dlm, dll, dld, hd₁⟩ :=
      serialInitController_exar (.inr (by exact hkind)) (by exact hf) hfirst.noDlab hinit
    have hready' := hfirst.ready (hrate (by exact hkind))
    have hready₁ : PcieReady d₁ := by
      rw [hd₁]
      exact ⟨hready'.card, by exact (by decide : has 0x1a lcrDlab = false),
        hready'.txLimit, hready'.rxLimit, hready'.rate⟩
    have hlcr₁ : d₁.state.lcr = 0 := by
      rw [hd₁]
      exact congrArg DeviceState.lcr hstate
    have hbaud₁ : d₁.currentBaud = 1200 := by rw [hd₁]
    obtain ⟨d₂', hentry', heq, hsettings, hlcr₂, -⟩ :=
      hready₁.entered (by rw [hbaud₁]; decide) (by rw [hlcr₁]; decide) around
    cases hentry.symm.trans hentry'
    have hdlab₂ : d₂.hw.dlab = false := by
      unfold Hardware.dlab
      rw [hlcr₂, hlcr₁]
      decide
    obtain ⟨hbaud, fcr', dlm', dll', dld', rfl⟩ :=
      serialDeviceFileOpen_exar (.inr (hcard₂.trans hpcie)) hdlab₂ hline₂ hopen
    have hsettings₂ : PcieSettings d₂ d₂.hw := by
      rw [heq]
      exact { hsettings with }
    refine ⟨{ hsettings₂ with driver := ?_ }, (hbaud (hcard₂.trans hpcie)).baud_ne_zero⟩
    exact (has_or_mcrOut2 _).trans hsettings₂.driver

/-- Every register is zero, and the clock generator has not taken in anything. -/
def zeroHardware : Hardware :=
  ⟨0, 0, 0, 0, 0, 0, 0, 0, 0, fun _ => 0, 0, 0, 0, 0, 0, 0, 0, 0, 0, 0, 0, [], []⟩

/-- A registry without values of its own. -/
def plainConfig : ConfigData where
  clockRate := 18432000
  rs485 := false
  sampleRate := 16
  txTrigger := 32
  rxTrigger := 32
  termination := false
  echoCancel := false
  isochronous := -1
  frameLength := 1
  nineBit := false
  fixedBaudRate := 0xffffffff

def calm : Surroundings := ⟨0, true⟩

theorem atReset_zeroHardware : AtReset zeroHardware := ⟨rfl, rfl⟩

end Device
end SerialFc
