import SerialFc.Properties.SettingValue

/-!
# LCR and MCR under a request for a setting

Two registers that several requests write. LCR has the break bit beside the line control; the lines
of MCR belong to the modem control, to the handshake and to RS-485.

* `SameLines` — LCR is what it was, and where that is asked for MCR is too
* `SparesLines` — new handshaking moves neither line
* `sameLines_control` — which requests write neither register
-/

namespace SerialFc

/-! ## The card -/

/-- LCR is what it was. So is MCR, if `keep` holds. -/
structure Device.SameLines (keep : Prop) (d d' : Device) : Prop where
  deviceId : d'.deviceId = d.deviceId
  lcr : d'.hw.lcr = d.hw.lcr
  mcr : keep → d'.hw.mcr = d.hw.mcr

namespace Device

variable {d d' d'' : Device} {keep : Prop}

theorem SameLines.refl (d : Device) : SameLines keep d d := ⟨rfl, rfl, fun _ => rfl⟩

theorem SameLines.trans (h : SameLines keep d d') (h' : SameLines keep d' d'') :
    SameLines keep d d'' :=
  ⟨h'.deviceId.trans h.deviceId, h'.lcr.trans h.lcr, fun hkeep => (h'.mcr hkeep).trans (h.mcr hkeep)⟩

theorem SameLines.hidden (h : SameLines keep d d') :
    d'.hw.hidden d'.card = d.hw.hidden d.card := by
  unfold Hardware.hidden card
  rw [h.deviceId, h.lcr]

/-- MCR is read as before, hidden or not. -/
theorem SameLines.readReg_mcr (h : SameLines True d d') : d'.readReg .mcr = d.readReg .mcr := by
  have hhidden := h.hidden
  show (if d'.hw.hidden d'.card then 0 else d'.hw.mcr) = if d.hw.hidden d.card then 0 else d.hw.mcr
  rw [hhidden, h.mcr trivial]

/-- A write of MCR that leaves it as it is read. While it is hidden the write is lost. -/
theorem sameLines_writeMcr {v : UInt8} (h : keep → v = d.readReg .mcr) :
    SameLines keep d (d.writeReg .mcr v) := by
  refine ⟨rfl, rfl, fun hkeep => ?_⟩
  show (if d.hw.hidden d.card then d.hw.mcr else v) = d.hw.mcr
  split
  · rfl
  · next hshown =>
    rw [h hkeep]
    exact if_neg hshown

/-- What is remembered of a setting is in no register. -/
theorem sameLines_remembered {result : SettingStatus × Device} (remember : Device → Device)
    (hremember : ∀ d, SameLines keep d (remember d)) (h : SameLines keep d result.2) :
    SameLines keep d (if result.1.ok then remember result.2 else result.2) := by
  split
  · exact h.trans (hremember _)
  · exact h

/-- A value that is out of range is refused, or the routine does its work. -/
theorem sameLines_check {p : Prop} [Decidable p] {status : SettingStatus} (h : SameLines keep d d') :
    SameLines keep d (if p then (status, d) else (SettingStatus.success, d')).2 := by
  split
  · exact .refl d
  · exact h

/-- LCR is put away and put back. -/
theorem sameLines_window {body : Device → Device}
    (h : SameLines keep (d.writeReg .lcr 0) (body (d.writeReg .lcr 0))) :
    SameLines keep d (d.fsccWindow body) :=
  ⟨h.deviceId, rfl, h.mcr⟩

theorem sameLines_icrStore (index v : UInt8) (d : Device) :
    SameLines keep d (d.icrStore index v) := ⟨rfl, rfl, fun _ => rfl⟩

theorem sameLines_window_store (index v : UInt8) (d : Device) :
    SameLines keep d (d.fsccWindow (·.icrStore index v)) :=
  sameLines_window (sameLines_icrStore index v _)

theorem sameLines_window_stores (i v j w : UInt8) (d : Device) :
    SameLines keep d (d.fsccWindow fun d => (d.icrStore i v).icrStore j w) :=
  sameLines_window ((sameLines_icrStore i v _).trans (sameLines_icrStore j w _))

/-- What reading MCR gives after a write. -/
theorem readReg_writeMcr (v : UInt8) (d : Device) :
    (d.writeReg .mcr v).readReg .mcr = if d.hw.hidden d.card then 0 else v := by
  show (if d.hw.hidden d.card then 0 else if d.hw.hidden d.card then d.hw.mcr else v) = _
  split <;> rfl

theorem sameLines_sampleRate (value : UInt32) (d : Device) :
    SameLines keep d (d.fastcomSetSampleRate value).2 := by
  have hremember (d : Device) : SameLines keep d { d with sampleRate := value } :=
    ⟨rfl, rfl, fun _ => rfl⟩
  unfold fastcomSetSampleRate
  refine sameLines_remembered (fun d => { d with sampleRate := value }) hremember ?_
  cases d.card with
  | pci | pcie => exact sameLines_check ⟨rfl, rfl, fun _ => rfl⟩
  | fscc => exact sameLines_check (sameLines_window_store tcrOffset value.toUInt8 d)
  | other => exact .refl d

theorem sameLines_txTrigger (value : UInt32) (d : Device) :
    SameLines keep d (d.fastcomSetTxTrigger value).2 := by
  have hremember (d : Device) : SameLines keep d { d with txTrigger := value } :=
    ⟨rfl, rfl, fun _ => rfl⟩
  unfold fastcomSetTxTrigger
  refine sameLines_remembered (fun d => { d with txTrigger := value }) hremember ?_
  cases d.card with
  | pci | pcie => exact sameLines_check ⟨rfl, rfl, fun _ => rfl⟩
  | fscc => exact sameLines_check (sameLines_window_store ttlOffset value.toUInt8 d)
  | other => exact .refl d

theorem sameLines_rxTrigger (value : UInt32) (d : Device) :
    SameLines keep d (d.fastcomSetRxTrigger value).2 := by
  have hremember (d : Device) : SameLines keep d { d with rxTrigger := value } :=
    ⟨rfl, rfl, fun _ => rfl⟩
  unfold fastcomSetRxTrigger
  refine sameLines_remembered (fun d => { d with rxTrigger := value }) hremember ?_
  cases d.card with
  | pci | pcie => exact sameLines_check ⟨rfl, rfl, fun _ => rfl⟩
  | fscc => exact sameLines_check (sameLines_window_store rtlOffset value.toUInt8 d)
  | other => exact .refl d

theorem sameLines_termination (enable : Bool) (d : Device) :
    SameLines keep d (d.fastcomSetTermination enable).2 := by
  unfold fastcomSetTermination
  cases d.card <;> exact ⟨rfl, rfl, fun _ => rfl⟩

theorem sameLines_echoCancel (enable : Bool) (d : Device) :
    SameLines keep d (d.fastcomSetEchoCancel enable) := by
  unfold fastcomSetEchoCancel
  cases d.card <;> exact ⟨rfl, rfl, fun _ => rfl⟩

theorem sameLines_isochronous (mode : Int) (d : Device) :
    SameLines keep d (d.fastcomSetIsochronous mode).2 := by
  have hremember (d : Device) : SameLines keep d { d with isochronous := mode } :=
    ⟨rfl, rfl, fun _ => rfl⟩
  unfold fastcomSetIsochronous
  refine sameLines_remembered (fun d => { d with isochronous := mode }) hremember ?_
  cases d.card with
  | fscc => exact sameLines_check (sameLines_window_stores _ _ _ _ d)
  | pci | pcie | other => exact .refl d

theorem sameLines_externalTransmit (numFrames : UInt32) (d : Device) :
    SameLines keep d (d.fastcomSetExternalTransmit numFrames).2 := by
  unfold fastcomSetExternalTransmit
  cases d.card with
  | fscc => exact sameLines_check (sameLines_window_stores _ _ _ _ d)
  | pci | pcie | other => exact .refl d

theorem sameLines_frameLength (numChars : UInt32) (d : Device) :
    SameLines keep d (d.fastcomSetFrameLength numChars).2 := by
  have hremember (d : Device) : SameLines keep d { d with frameLength := numChars } :=
    ⟨rfl, rfl, fun _ => rfl⟩
  unfold fastcomSetFrameLength
  refine sameLines_remembered (fun d => { d with frameLength := numChars }) hremember ?_
  cases d.card with
  | fscc =>
    dsimp only
    unfold fastcomSetFrameLengthFscc
    split
    · exact .refl d
    · exact sameLines_check (sameLines_window_store flrOffset _ d)
  | pci | pcie | other => exact .refl d

theorem sameLines_9Bit (enable : Bool) (d : Device) :
    SameLines keep d (d.fastcomSet9Bit enable).2 := by
  unfold fastcomSet9Bit
  cases d.card with
  | fscc => exact (sameLines_window_store nmrOffset _ d).trans ⟨rfl, rfl, fun _ => rfl⟩
  | pci | pcie | other => exact ⟨rfl, rfl, fun _ => rfl⟩

/-- The divisor is written with DLAB set, which is then cleared again. -/
theorem sameLines_serialSetBaud {divisor : UInt16} (h : d.serialSetBaud divisor = some d') :
    SameLines keep d d' := by
  have hlatch : SameLines keep d (d.writeDivisorLatch divisor) := ⟨rfl, rfl, fun _ => rfl⟩
  unfold serialSetBaud at h
  dsimp only at h
  split at h
  · obtain ⟨result, hresult, rfl⟩ := Option.map_eq_some_iff.mp h
    unfold pcieSetBaudRate at hresult
    split at hresult
    · cases hresult
    · split at hresult
      · rw [← Option.some.inj hresult]
        exact hlatch
      · split at hresult
        · cases hresult
        · rw [← Option.some.inj hresult]
          exact hlatch.trans ⟨rfl, rfl, fun _ => rfl⟩
  · rw [← Option.some.inj h]
    exact hlatch

/-- Only the cards with Auto 485 use MCR for RS-485. -/
theorem sameLines_rs485 {enable : Bool}
    (hpci : keep → d.card = .pci → withBits enable 0x03 d.hw.mcr = d.hw.mcr)
    (hpcie : keep → d.card = .pcie → withBits enable 0x04 d.hw.mcr = d.hw.mcr) :
    SameLines keep d (d.fastcomSetRs485 enable) := by
  unfold fastcomSetRs485
  cases hcard : d.card with
  | pci =>
    refine ⟨rfl, rfl, fun hkeep => ?_⟩
    have hshown : d.hw.hidden d.card = false := by
      rw [hcard]
      rfl
    show (if d.hw.hidden d.card then d.hw.mcr else withBits enable 0x03 (d.readReg .mcr)) = _
    rw [hshown, readReg_mcr (.inl hcard)]
    exact hpci hkeep hcard
  | pcie =>
    refine ⟨rfl, rfl, fun hkeep => ?_⟩
    have hshown : d.hw.hidden d.card = false := by
      rw [hcard]
      rfl
    show (if d.hw.hidden d.card then d.hw.mcr else withBits enable 0x04 (d.readReg .mcr)) = _
    rw [hshown, readReg_mcr (.inr hcard)]
    exact hpcie hkeep hcard
  | fscc => exact ⟨rfl, rfl, fun _ => rfl⟩
  | other => exact ⟨rfl, rfl, fun _ => rfl⟩

/-! ## Reading -/

theorem sameLines_openIcr (d : Device) : SameLines keep (d.writeReg .lcr 0) d.openIcr :=
  sameLines_icrStore acrOffset _ _

theorem sameLines_icrFetch (index : UInt8) (d : Device) :
    SameLines keep d (d.icrFetch index).2 := ⟨rfl, rfl, fun _ => rfl⟩

theorem sameLines_closeIcr (h : SameLines keep (d.writeReg .lcr 0) d') :
    SameLines keep d (d'.closeIcr (d.readReg .lcr)) :=
  ⟨h.deviceId, rfl, h.mcr⟩

theorem sameLines_fsccFetch (index : UInt8) (d : Device) :
    SameLines keep d (d.fsccFetch index).2 :=
  sameLines_closeIcr ((sameLines_openIcr d).trans (sameLines_icrFetch index _))

theorem sameLines_externalTransmitFscc (d : Device) :
    SameLines keep d d.fastcomGetExternalTransmitFscc.2 :=
  sameLines_closeIcr ((sameLines_openIcr d).trans
    ((sameLines_icrFetch extOffset _).trans (sameLines_icrFetch exthOffset _)))

end Device

/-! ## New handshaking -/

namespace Extension

variable {U : Type} [Uart U]

/-- Where input handshaking that is switched on puts its line, if it moves it at all. -/
def handshakeLevel (new : HandFlow) (held : Bool) (e : Extension U) : Option Bool :=
  if e.belowNewLimit new then
    if held then if e.rx.charsInInterruptBuffer > new.xonLimit then some true else none
    else some true
  else some false

/-- Where `SerialSetupNewHandFlow` puts DTR. -/
def dtrLevel (new : HandFlow) (e : Extension U) : Option Bool :=
  if e.handFlow.dtrMask != new.dtrMask then
    if new.dtrMask != 0 then
      if new.dtrHandshake then e.handshakeLevel new e.rx.rxHolding.dtr else some true
    else some false
  else none

/-- `SERIAL_TRANSMIT_TOGGLE` is switched on. -/
def entersToggle (new : HandFlow) (e : Extension U) : Bool :=
  e.handFlow.rtsMask != new.rtsMask && new.transmitToggle

/-- Where `SerialSetupNewHandFlow` puts RTS. On the way to the toggle mode that depends on what the
chip still has to send, unless there is a break. -/
def rtsLevel (new : HandFlow) (e : Extension U) : Option Bool :=
  if e.handFlow.rtsMask != new.rtsMask then
    if new.rtsHandshake then e.handshakeLevel new e.rx.rxHolding.rts
    else some (new.rtsControl || new.transmitToggle)
  else none

/-- New handshaking leaves DTR and RTS where they are: what it moves is there already, no break ends
on the way to the toggle mode, and no escape sequence that is stored holds the sender off. -/
structure SparesLines (new : HandFlow) (e : Extension U) : Prop where
  dtr : e.isPcie = false → ∀ up ∈ e.dtrLevel new, has (e.readReg .mcr).1 mcrDtr = up
  rts : ∀ up ∈ e.rtsLevel new, has (e.readReg .mcr).1 mcrRts = up
  toggle : e.entersToggle new = true → e.tx.txHolding.brk = true
  escape : e.cfg.escapeChar = 0 ∨ (new.dtrHandshake = false ∧ new.rtsHandshake = false)

end Extension

/-- Bits that are set can be set again. -/
theorem or_of_and {v mask : UInt8} (h : v &&& mask = mask) : v ||| mask = v := by
  apply UInt8.toBitVec_inj.mp
  ext i hi
  have hbit := congrArg (fun x : UInt8 => x.toBitVec[i]) h
  simp at hbit ⊢
  grind

/-- Bits that are clear can be cleared. -/
theorem and_not_of_and {v mask : UInt8} (h : v &&& mask = 0) : v &&& ~~~mask = v := by
  apply UInt8.toBitVec_inj.mp
  ext i hi
  have hbit := congrArg (fun x : UInt8 => x.toBitVec[i]) h
  simp at hbit ⊢
  grind

theorem or_of_has_mcrDtr {v : UInt8} (h : has v mcrDtr = true) : v ||| mcrDtr = v := by
  have hbits : ∀ b : BitVec 8, has ⟨b⟩ mcrDtr = true → (⟨b⟩ : UInt8) ||| mcrDtr = ⟨b⟩ := by decide
  exact hbits v.toBitVec h

theorem or_of_has_mcrRts {v : UInt8} (h : has v mcrRts = true) : v ||| mcrRts = v := by
  have hbits : ∀ b : BitVec 8, has ⟨b⟩ mcrRts = true → (⟨b⟩ : UInt8) ||| mcrRts = ⟨b⟩ := by decide
  exact hbits v.toBitVec h

theorem and_not_of_has {v mask : UInt8} (h : has v mask = false) : v &&& ~~~mask = v := by
  have hzero : v &&& mask = 0 := by simpa [has] using h
  exact and_not_of_and hzero

section

variable {U : Type} [Uart U] {keep : Prop}

open Extension

def KeepsLines (keep : Prop) (e e' : Extension (Fitted U)) : Prop :=
  Device.SameLines keep e.uart.device e'.uart.device

omit [Uart U] in
theorem keepsLines_of_uart {e e' : Extension (Fitted U)} (h : e'.uart = e.uart) :
    KeepsLines keep e e' := by
  unfold KeepsLines
  rw [h]
  exact .refl _

theorem keepsLines_updateMcr {f : UInt8 → UInt8} {e : Extension (Fitted U)}
    (h : keep → f (e.readReg .mcr).1 = (e.readReg .mcr).1) :
    KeepsLines keep e (e.updateReg .mcr f) := Device.sameLines_writeMcr h

theorem keepsLines_serialSetDtr {e : Extension (Fitted U)}
    (h : keep → e.isPcie = false → has (e.readReg .mcr).1 mcrDtr = true) :
    KeepsLines keep e e.serialSetDtr := by
  unfold serialSetDtr
  split
  · exact .refl _
  · next hcard =>
    exact keepsLines_updateMcr fun hkeep => or_of_has_mcrDtr (h hkeep (by simpa using hcard))

theorem keepsLines_serialClrDtr {e : Extension (Fitted U)}
    (h : keep → e.isPcie = false → has (e.readReg .mcr).1 mcrDtr = false) :
    KeepsLines keep e e.serialClrDtr := by
  unfold serialClrDtr
  split
  · exact .refl _
  · next hcard =>
    exact keepsLines_updateMcr fun hkeep => and_not_of_has (h hkeep (by simpa using hcard))

theorem keepsLines_serialSetRts {e : Extension (Fitted U)}
    (h : keep → has (e.readReg .mcr).1 mcrRts = true) : KeepsLines keep e e.serialSetRts :=
  keepsLines_updateMcr fun hkeep => or_of_has_mcrRts (h hkeep)

theorem keepsLines_serialClrRts {e : Extension (Fitted U)}
    (h : keep → has (e.readReg .mcr).1 mcrRts = false) : KeepsLines keep e e.serialClrRts :=
  keepsLines_updateMcr fun hkeep => and_not_of_has (h hkeep)

theorem keepsLines_retickle (e : Extension (Fitted U)) : KeepsLines keep e e.retickle :=
  ⟨rfl, rfl, fun _ => rfl⟩

/-- No line is used to hold the sender off. -/
def Config.HoldsNoLine (cfg : Config) : Prop :=
  cfg.handFlow.dtrHandshake = false ∧ cfg.handFlow.rtsHandshake = false

/-- A character or a status moves a line of MCR only to hold the sender off. -/
def Shakes (e e' : Extension (Fitted U)) : Prop :=
  e'.cfg = e.cfg ∧ KeepsLines e.cfg.HoldsNoLine e e'

omit [Uart U] in
theorem shakes_of_uart {e e' : Extension (Fitted U)} (hcfg : e'.cfg = e.cfg)
    (huart : e'.uart = e.uart) : Shakes e e' := ⟨hcfg, keepsLines_of_uart huart⟩

theorem shakes_readReg (r : Reg) (e : Extension (Fitted U)) : Shakes e (e.readReg r).2 := by
  have hdevice : (e.readReg r).2.uart.device = e.uart.device := Fitted.device_read r e.uart
  refine ⟨rfl, ?_⟩
  unfold KeepsLines
  rw [hdevice]
  exact .refl _

theorem shakes_statusRule : StatusRule (Shakes (U := U)) :=
  SharedStatusRule.statusRule
    { trans := fun {a b c} hab hbc => by
        refine ⟨hbc.1.trans hab.1, ?_⟩
        have hnext := hbc.2
        rw [hab.1] at hnext
        exact hab.2.trans hnext
      lines := fun e e' h => by
        simp only [Extension.lines, Prod.mk.injEq] at h
        exact shakes_of_uart h.2.1 h.1
      readReg := fun e r => shakes_readReg r e
      retickle := fun e => ⟨rfl, keepsLines_retickle e⟩
      events := fun _ _ => shakes_of_uart rfl rfl
      holdingEmpty := fun _ _ => shakes_of_uart rfl rfl
      special := fun _ b => by cases b <;> exact shakes_of_uart rfl rfl
      rxHolding := fun _ _ => shakes_of_uart rfl rfl
      -- DTR and RTS are only lowered in handshake mode
      holdDtr := fun e => by
        unfold Extension.holdDtr
        split
        · next hhold =>
          simp only [Bool.and_eq_true] at hhold
          refine ⟨?_, keepsLines_serialClrDtr (e := e.setRxDtr true) fun hnone => ?_⟩
          · unfold Extension.serialClrDtr
            split <;> rfl
          · exact absurd hhold.1.1 (by simp [Extension.handFlow, hnone.1])
        · exact shakes_of_uart rfl rfl
      holdRts := fun e => by
        unfold Extension.holdRts
        split
        · next hhold =>
          simp only [Bool.and_eq_true] at hhold
          refine ⟨rfl, keepsLines_serialClrRts (e := e.setRxRts true) fun hnone => ?_⟩
          exact absurd hhold.1.1 (by simp [Extension.handFlow, hnone.2])
        · exact shakes_of_uart rfl rfl
      setTxXoff := fun _ _ => shakes_of_uart rfl rfl
      followModem := fun _ _ => shakes_of_uart rfl rfl
      clearModemHolding := fun _ => shakes_of_uart rfl rfl
      insertStartTimerLowerRts := fun e => by
        unfold Extension.insertStartTimerLowerRts
        split <;> exact shakes_of_uart rfl rfl }

/-! ## `SerialSetupNewHandFlow` -/

variable {new : HandFlow} {e : Extension (Fitted U)}

omit [Uart U] in
theorem KeepsLines.trans {a b c : Extension (Fitted U)} (hab : KeepsLines keep a b)
    (hbc : KeepsLines keep b c) : KeepsLines keep a c := Device.SameLines.trans hab hbc

theorem KeepsLines.readMcr {a b : Extension (Fitted U)} (h : KeepsLines True a b) :
    (b.readReg .mcr).1 = (a.readReg .mcr).1 := h.readReg_mcr

/-- Level and line of input handshaking by DTR. -/
theorem keepsLines_setupDtrHandshake
    (h : keep → e.isPcie = false → ∀ up ∈ e.handshakeLevel new e.rx.rxHolding.dtr,
      has (e.readReg .mcr).1 mcrDtr = up) :
    KeepsLines keep e (e.setupDtrHandshake new) := by
  unfold Extension.handshakeLevel at h
  unfold Extension.setupDtrHandshake
  split
  · next hbelow =>
    rw [if_pos hbelow] at h
    split
    · next hheld =>
      rw [if_pos hheld] at h
      split
      · next habove =>
        rw [if_pos habove] at h
        exact keepsLines_serialSetDtr (e := e.setRxDtr false) fun hkeep hcard => h hkeep hcard true rfl
      · exact .refl _
    · next hheld =>
      rw [if_neg hheld] at h
      exact keepsLines_serialSetDtr fun hkeep hcard => h hkeep hcard true rfl
  · next hbelow =>
    rw [if_neg hbelow] at h
    exact keepsLines_serialClrDtr (e := e.setRxDtr true) fun hkeep hcard => h hkeep hcard false rfl

theorem keepsLines_setupRtsHandshake
    (h : keep → ∀ up ∈ e.handshakeLevel new e.rx.rxHolding.rts,
      has (e.readReg .mcr).1 mcrRts = up) :
    KeepsLines keep e (e.setupRtsHandshake new) := by
  unfold Extension.handshakeLevel at h
  unfold Extension.setupRtsHandshake
  split
  · next hbelow =>
    rw [if_pos hbelow] at h
    split
    · next hheld =>
      rw [if_pos hheld] at h
      split
      · next habove =>
        rw [if_pos habove] at h
        exact keepsLines_serialSetRts (e := e.setRxRts false) fun hkeep => h hkeep true rfl
      · exact .refl _
    · next hheld =>
      rw [if_neg hheld] at h
      exact keepsLines_serialSetRts fun hkeep => h hkeep true rfl
  · next hbelow =>
    rw [if_neg hbelow] at h
    exact keepsLines_serialClrRts (e := e.setRxRts true) fun hkeep => h hkeep false rfl

theorem keepsLines_setupDtr
    (h : keep → e.isPcie = false → ∀ up ∈ e.dtrLevel new, has (e.readReg .mcr).1 mcrDtr = up) :
    KeepsLines keep e (e.setupDtr new) := by
  unfold Extension.dtrLevel at h
  unfold Extension.setupDtr
  split
  · next hmask =>
    rw [if_pos hmask] at h
    split
    · next hused =>
      rw [if_pos hused] at h
      split
      · next hshake =>
        rw [if_pos hshake] at h
        exact keepsLines_setupDtrHandshake h
      · next hshake =>
        rw [if_neg hshake] at h
        exact keepsLines_serialSetDtr (e := e.setRxDtr false) fun hkeep hcard => h hkeep hcard true rfl
    · next hused =>
      rw [if_neg hused] at h
      exact keepsLines_serialClrDtr (e := e.setRxDtr false) fun hkeep hcard => h hkeep hcard false rfl
  · exact .refl _

/-- With a break on, the toggle mode raises RTS. -/
theorem keepsLines_setupToggle
    (hbreak : keep → e.tx.txHolding.brk = true)
    (h : keep → has (e.readReg .mcr).1 mcrRts = true) : KeepsLines keep e e.setupToggle := by
  by_cases hbrk : e.tx.txHolding.brk = true
  · unfold Extension.setupToggle
    rw [if_pos hbrk]
    exact keepsLines_serialSetRts h
  · have hnot : ¬keep := fun hkeep => hbrk (hbreak hkeep)
    have hset (e : Extension (Fitted U)) : KeepsLines keep e e.serialSetRts :=
      keepsLines_serialSetRts fun hkeep => absurd hkeep hnot
    have hclear (e : Extension (Fitted U)) : KeepsLines keep e e.serialClrRts :=
      keepsLines_serialClrRts fun hkeep => absurd hkeep hnot
    have hstatus (e : Extension (Fitted U)) : KeepsLines keep e e.serialProcessLsr.2 := by
      have hshakes := (shakes_statusRule.serialProcessLsr e).2
      exact ⟨hshakes.deviceId, hshakes.lcr, fun hkeep => absurd hkeep hnot⟩
    have hretry (e : Extension (Fitted U)) : KeepsLines keep e e.insertStartTimerLowerRts := by
      unfold Extension.insertStartTimerLowerRts
      split <;> exact .refl _
    have hlower (status : UInt8) (e : Extension (Fitted U)) :
        KeepsLines keep e (e.lowerRtsOrRetry status) :=
      rel_ite (fun _ => hclear e) (fun _ => hretry e)
    have htry (e : Extension (Fitted U)) : KeepsLines keep e e.tryToLowerRts :=
      rel_ite (fun _ => (hstatus e).trans (hlower _ _)) (fun _ => .refl _)
    have hraise (status : UInt8) (e : Extension (Fitted U)) :
        KeepsLines keep e (e.raiseOrLowerRts status) :=
      rel_ite (fun _ => hset e) fun _ => htry (e.addTryingToLowerRts 1)
    unfold Extension.setupToggle
    rw [if_neg hbrk]
    exact (hstatus e).trans (hraise _ _)

theorem keepsLines_setupRts
    (h : keep → ∀ up ∈ e.rtsLevel new, has (e.readReg .mcr).1 mcrRts = up)
    (htoggle : keep → e.entersToggle new = true → e.tx.txHolding.brk = true) :
    KeepsLines keep e (e.setupRts new) := by
  unfold Extension.rtsLevel at h
  unfold Extension.entersToggle at htoggle
  unfold Extension.setupRts
  split
  · next hmask =>
    rw [if_pos hmask] at h
    rw [hmask, Bool.true_and] at htoggle
    split
    · next hshake =>
      rw [if_pos hshake] at h
      exact keepsLines_setupRtsHandshake h
    · next hshake =>
      rw [if_neg hshake] at h
      split
      · next hcontrol =>
        exact keepsLines_serialSetRts (e := e.setRxRts false) fun hkeep =>
          h hkeep true (by rw [hcontrol]; rfl)
      · split
        · next hon =>
          have hup (hkeep : keep) : has (e.readReg .mcr).1 mcrRts = true :=
            h hkeep true (by rw [hon, Bool.or_true]; rfl)
          exact keepsLines_setupToggle (e := (e.setRxRts false).enterToggle)
            (fun hkeep => htoggle hkeep hon) hup
        · next hcontrol hon =>
          exact keepsLines_serialClrRts (e := e.setRxRts false) fun hkeep =>
            h hkeep false (by simp [hcontrol, hon])
  · exact .refl _

theorem keepsLines_serialProdXonXoff (b : Bool) (e : Extension (Fitted U)) :
    KeepsLines keep e (e.serialProdXonXoff b) := by
  unfold Extension.serialProdXonXoff
  split <;> exact ⟨rfl, rfl, fun _ => rfl⟩

theorem keepsLines_setupAutoReceive (new : HandFlow) (e : Extension (Fitted U)) :
    KeepsLines keep e (e.setupAutoReceive new) := by
  refine rel_ite (fun _ => rel_ite (fun _ => ?_) fun _ => ?_) fun _ => .refl _
  · exact rel_ite (fun _ => .refl _) fun _ => keepsLines_serialProdXonXoff false (e.setRxXoff true)
  · exact rel_ite (fun _ => keepsLines_serialProdXonXoff true (e.setRxXoff false)) fun _ => .refl _

theorem keepsLines_setupAutoTransmit (new : HandFlow) (e : Extension (Fitted U)) :
    KeepsLines keep e (e.setupAutoTransmit new) :=
  rel_ite (fun _ => keepsLines_serialProdXonXoff true (e.setTxXoff false)) fun _ => .refl _

/-- What becomes of DTR has no part in what becomes of RTS. -/
theorem setupDtr_eq (new : HandFlow) (e : Extension (Fitted U)) :
    ∃ held u, e.setupDtr new = { e.setRxDtr held with uart := u } := by
  have hset (held : Bool) : ∃ held' u,
      (e.setRxDtr held).serialSetDtr = { e.setRxDtr held' with uart := u } := by
    unfold serialSetDtr
    split <;> exact ⟨held, _, rfl⟩
  have hclear (held : Bool) : ∃ held' u,
      (e.setRxDtr held).serialClrDtr = { e.setRxDtr held' with uart := u } := by
    unfold serialClrDtr
    split <;> exact ⟨held, _, rfl⟩
  have hsame : ∃ held' u, e = { e.setRxDtr held' with uart := u } :=
    ⟨e.rx.rxHolding.dtr, e.uart, rfl⟩
  unfold Extension.setupDtr
  split
  · split
    · split
      · unfold Extension.setupDtrHandshake
        split
        · split
          · split
            · exact hset false
            · exact hsame
          · exact hset e.rx.rxHolding.dtr
        · exact hclear true
      · exact hset false
    · exact hclear false
  · exact hsame

theorem keepsLines_serialSetupNewHandFlow (h : keep → e.SparesLines new) :
    KeepsLines keep e (e.serialSetupNewHandFlow new) := by
  obtain ⟨held, u, hdtr⟩ := setupDtr_eq new e
  have hlevel : (e.setupDtr new).rtsLevel new = e.rtsLevel new := by
    rw [hdtr]
    rfl
  have htoggle : (e.setupDtr new).entersToggle new = e.entersToggle new ∧
      (e.setupDtr new).tx = e.tx := by
    rw [hdtr]
    exact ⟨rfl, rfl⟩
  have hfirst : KeepsLines keep e (e.setupDtr new) :=
    keepsLines_setupDtr fun hkeep => (h hkeep).dtr
  have hsecond : KeepsLines keep (e.setupDtr new) ((e.setupDtr new).setupRts new) := by
    refine keepsLines_setupRts (fun hkeep => ?_) fun hkeep => ?_
    · have hspared : KeepsLines True e (e.setupDtr new) :=
        keepsLines_setupDtr fun _ => (h hkeep).dtr
      rw [hlevel, hspared.readMcr]
      exact (h hkeep).rts
    · rw [htoggle.1, htoggle.2]
      exact (h hkeep).toggle
  exact hfirst.trans (hsecond.trans ((keepsLines_setupAutoReceive new _).trans
    (keepsLines_setupAutoTransmit new _)))

/-- Without an escape character a modem status stores nothing. -/
theorem keepsLines_modemUpdate (hescape : e.cfg.escapeChar = 0) (doingTx : Bool) :
    KeepsLines keep e (e.serialHandleModemUpdate doingTx).2 := by
  have hretry (old : TxHolding) (e : Extension (Fitted U)) :
      KeepsLines keep e (e.toggleOnHold old) := by
    refine rel_ite (fun _ => ?_) fun _ => .refl _
    unfold Extension.insertStartTimerLowerRts
    split <;> exact .refl _
  have hrestart (old : TxHolding) (e : Extension (Fitted U)) :
      KeepsLines keep e (e.restartOnRelease doingTx old) :=
    rel_ite (fun _ => rel_ite (fun _ => keepsLines_retickle e) fun _ => .refl _) fun _ => .refl _
  have hholding (old : TxHolding) (status : UInt8) (e : Extension (Fitted U)) :
      KeepsLines keep e (e.modemHolding doingTx old status) := by
    refine rel_ite (fun _ => ?_) fun _ => rel_ite (fun _ => ?_) fun _ => .refl _
    · exact (hretry old (e.followModem status)).trans (hrestart old _)
    · exact hrestart old e.clearModemHolding
  have hevents (status : UInt8) (e : Extension (Fitted U)) :
      KeepsLines keep e (e.modemEvents status) := by
    have hlines := lines_of_shared (shared_modemEvents status e)
    simp only [Extension.lines, Prod.mk.injEq] at hlines
    exact keepsLines_of_uart hlines.1
  have hread : KeepsLines keep e (e.readReg .msr).2 := by
    have hdevice : (e.readReg .msr).2.uart.device = e.uart.device :=
      Fitted.device_read .msr e.uart
    unfold KeepsLines
    rw [hdevice]
    exact .refl _
  have hinsert (put : UInt8 → Extension (Fitted U) → Extension (Fitted U)) (status : UInt8) :
      (e.readReg .msr).2.insertMst put status = (e.readReg .msr).2 := by
    have hcfg : (e.readReg .msr).2.cfg.escapeChar = 0 := hescape
    simp [Extension.insertMst, hcfg]
  rw [serialHandleModemUpdate_eq]
  unfold Extension.modemUpdateWith
  rw [hinsert]
  generalize (e.readReg .msr).1 = status
  have hfollow : KeepsLines keep (e.readReg .msr).2 ((e.readReg .msr).2.followDsr status) :=
    keepsLines_of_uart rfl
  exact hread.trans (hfollow.trans ((hevents status _).trans (hholding _ status _)))

/-- **New handshaking** leaves LCR alone, and MCR too if it spares the lines. -/
theorem keepsLines_serialSetHandFlow
    (h : keep → e.SparesLines (e.handFlowForCard new)) :
    KeepsLines keep e (e.serialSetHandFlow new) := by
  have hsetup := keepsLines_serialSetupNewHandFlow h
  let e₁ := e.serialSetupNewHandFlow (e.handFlowForCard new)
  have hupdate := (shakes_statusRule.serialHandleModemUpdate false e₁).2
  have hescape : e₁.cfg.escapeChar = e.cfg.escapeChar := by
    have hrule := keepsView_flowRule (U := U)
    have hkeeps : KeepsView e e₁ := hrule.trans (hrule.setupDtr _ e) (hrule.trans
      (hrule.setupRts _ _) (hrule.trans (hrule.setupAutoReceive _ _) (hrule.trans
        (hrule.setupAutoTransmit _ _) (hrule.handFlow _ _))))
    have hchar := congrArg Config.escapeChar hkeeps.2
    exact hchar
  refine hsetup.trans ⟨hupdate.deviceId, hupdate.lcr, fun hkeep => ?_⟩
  rcases (h hkeep).escape with hnone | hhold
  · have hquiet : KeepsLines True e₁ (e₁.serialHandleModemUpdate false).2 :=
      keepsLines_modemUpdate (hescape.trans hnone) false
    exact hquiet.mcr trivial
  · exact hupdate.mcr hhold

end

/-! ## Requests -/

namespace Machine

variable {U : Type} [Uart U] {keep : Prop}

/-- A setting that is read. -/
theorem sameLines_getControl (s : Setting) (m : Machine U) :
    m.device.SameLines keep (m.getControl s).2.device := by
  have hfetch (index : UInt8) : m.device.SameLines keep (m.device.fsccFetch index).2 :=
    Device.sameLines_fsccFetch index m.device
  cases s with
  | txTrigger =>
    show m.device.SameLines keep m.device.fastcomGetTxTrigger.2
    unfold Device.fastcomGetTxTrigger
    split
    · exact .refl _
    · exact .refl _
    · exact hfetch ttlOffset
    · exact .refl _
  | rxTrigger =>
    show m.device.SameLines keep m.device.fastcomGetRxTrigger.2
    unfold Device.fastcomGetRxTrigger
    split
    · exact .refl _
    · exact .refl _
    · exact hfetch rtlOffset
    · exact .refl _
  | isochronous =>
    show m.device.SameLines keep m.device.fastcomGetIsochronous.2
    unfold Device.fastcomGetIsochronous
    split
    · exact hfetch cksOffset
    · exact .refl _
  | externalTransmit =>
    show m.device.SameLines keep m.device.fastcomGetExternalTransmit.2
    unfold Device.fastcomGetExternalTransmit
    split
    · exact Device.sameLines_externalTransmitFscc m.device
    · exact .refl _
  | frameLength =>
    show m.device.SameLines keep m.device.fastcomGetFrameLength.2
    unfold Device.fastcomGetFrameLength
    split
    · split
      · exact .refl _
      · exact hfetch flrOffset
    · exact .refl _
  | nineBit =>
    show m.device.SameLines keep m.device.fastcomGet9Bit.2
    unfold Device.fastcomGet9Bit
    split
    · exact hfetch nmrOffset
    · exact .refl _
  | _ => exact .refl _

/-- A request for another setting, if it succeeds, leaves the bits of MCR as they are read: Auto 485
has them already, or new handshaking spares them, or MCR is not hidden when LCR is written. -/
def SparesMcr (code : ConfigCode) (input : ControlInput) (m : Machine U) : Prop :=
  match code with
  | .enableRs485 =>
    (m.device.card = .pci → m.device.hw.mcr &&& 0x03 = 0x03) ∧
      (m.device.card = .pcie → m.device.hw.mcr &&& 0x04 = 0x04)
  | .disableRs485 =>
    (m.device.card = .pci → m.device.hw.mcr &&& 0x03 = 0) ∧
      (m.device.card = .pcie → m.device.hw.mcr &&& 0x04 = 0)
  | .setHandFlow => m.ext.SparesLines (m.ext.handFlowForCard (handFlowAt input))
  | .setLineControl => m.device.hw.hidden m.device.card = false
  | _ => True

variable {m m' : Machine U} {status : ControlStatus}

omit [Uart U] in
theorem sameLines_setting {result : SettingStatus × Device} (hok : status.ok = true)
    (h : m.setting result = .completed status m') (hlines : m.device.SameLines keep result.2) :
    m.device.SameLines keep m'.device := by
  obtain ⟨-, rfl⟩ := completed_setting hok h
  exact hlines

omit [Uart U] in
theorem sameLines_setBaudRate {stack : UInt16} {input : ControlInput} (hok : status.ok = true)
    (h : m.controlSetBaudRate stack input = .completed status m') :
    m.device.SameLines keep m'.device := by
  unfold controlSetBaudRate at h
  dsimp only at h
  split at h
  · split at h
    · cases h
    · next d hset =>
      cases h
      have hlines : Device.SameLines keep _ d := Device.sameLines_serialSetBaud hset
      exact ⟨hlines.deviceId, hlines.lcr, hlines.mcr⟩
  · cases h
    next hfail => exact absurd hok hfail

omit [Uart U] in
theorem sameLines_controlRs485 {enable : Bool}
    (h : m.controlRs485 enable = .completed status m')
    (hpci : keep → m.device.card = .pci →
      withBits enable 0x03 m.device.hw.mcr = m.device.hw.mcr)
    (hpcie : keep → m.device.card = .pcie →
      withBits enable 0x04 m.device.hw.mcr = m.device.hw.mcr) :
    m.device.SameLines keep m'.device := by
  rw [completed_succeed h]
  exact Device.sameLines_rs485 hpci hpcie

/-- **The other requests** leave LCR alone, and MCR too if they spare it. -/
theorem sameLines_control {code : ConfigCode} (hcode : code.setting ≠ none)
    (hline : code ≠ .setLineControl) {input : ControlInput} {s : Surroundings}
    (hok : status.ok = true) (h : m.control code input s = .completed status m')
    (hspares : keep → code ≠ .setModemControl ∧ m.SparesMcr code input) :
    m.device.SameLines keep m'.device := by
  cases code with
  -- requests without a setting that can be read back
  | setFifoControl | setDtr | setRts | setXoff | setXon | setBreakOn | setBreakOff
  | setQueueSize | setWaitMask | setClockRate | setClockBits => exact absurd rfl hcode
  | setLineControl => exact absurd rfl hline
  | setBaudRate => exact sameLines_setBaudRate hok (completed_withInput hok h)
  | setModemControl =>
    have hset := completed_always (f := mapExt (·.writeReg .mcr input.address.toUInt8)) hok h
    rw [hset]
    exact ⟨rfl, rfl, fun hkeep => absurd rfl (hspares hkeep).1⟩
  | setTimeouts | setChars =>
    rw [completed_unless hok (completed_withInput hok h)]
    exact .refl _
  | setHandFlow =>
    rw [completed_unless hok (completed_withInput hok h)]
    exact keepsLines_serialSetHandFlow fun hkeep => (hspares hkeep).2
  | enableRs485 =>
    exact sameLines_controlRs485 h
      (fun hkeep hcard => or_of_and ((hspares hkeep).2.1 hcard))
      (fun hkeep hcard => or_of_and ((hspares hkeep).2.2 hcard))
  | disableRs485 =>
    exact sameLines_controlRs485 h
      (fun hkeep hcard => and_not_of_and ((hspares hkeep).2.1 hcard))
      (fun hkeep hcard => and_not_of_and ((hspares hkeep).2.2 hcard))
  -- no other request writes MCR or LCR
  | enableEchoCancel | disableEchoCancel =>
    rw [completed_succeed h]
    exact Device.sameLines_echoCancel _ m.device
  | enableTermination | disableTermination =>
    exact sameLines_setting hok h (Device.sameLines_termination _ m.device)
  | setSampleRate =>
    exact sameLines_setting hok (completed_withInput hok h)
      (Device.sameLines_sampleRate _ m.device)
  | setTxTrigger =>
    exact sameLines_setting hok (completed_withInput hok h)
      (Device.sameLines_txTrigger _ m.device)
  | setRxTrigger =>
    exact sameLines_setting hok (completed_withInput hok h)
      (Device.sameLines_rxTrigger _ m.device)
  | enableIsochronous =>
    exact sameLines_setting hok (completed_withInput hok h)
      (Device.sameLines_isochronous _ m.device)
  | disableIsochronous => exact sameLines_setting hok h (Device.sameLines_isochronous _ m.device)
  | enableExternalTransmit =>
    exact sameLines_setting hok (completed_withInput hok h)
      (Device.sameLines_externalTransmit _ m.device)
  | disableExternalTransmit =>
    exact sameLines_setting hok h (Device.sameLines_externalTransmit _ m.device)
  | setFrameLength =>
    exact sameLines_setting hok (completed_withInput hok h)
      (Device.sameLines_frameLength _ m.device)
  | enable9Bit | disable9Bit =>
    rw [completed_succeed h]
    exact Device.sameLines_9Bit _ m.device
  | enableFixedBaudRate =>
    have hset := completed_always hok
      (f := fun m => m.setDevice (m.device.fastcomSetFixedBaudRate (input.ulongAt 0))) h
    rw [hset]
    exact ⟨rfl, rfl, fun _ => rfl⟩
  | disableFixedBaudRate =>
    rw [completed_succeed h]
    exact ⟨rfl, rfl, fun _ => rfl⟩

/-! ## The line control -/

/-- What setting the line control does: LCR gets the break bit of `Extension->LineControl`, and the
bit that would bring in other registers is clear. -/
structure LineSet (m m' : Machine U) : Prop where
  mcr : m'.device.hw.mcr = m.device.hw.mcr
  dlab : m'.device.hw.lcr &&& lcrDlab = 0
  brk : m'.device.hw.lcr &&& lcrBreak = m.device.lineControl &&& lcrBreak

omit [Uart U] in
theorem LineSet.hidden (h : LineSet m m') : m'.device.hw.hidden m'.device.card = false := by
  have hlcr : m'.device.hw.lcr ≠ 0xbf := by
    intro heq
    have hdlab := h.dlab
    rw [heq] at hdlab
    exact absurd hdlab (by decide)
  simp [Hardware.hidden, hlcr]

omit [Uart U] in
/-- MCR is not hidden afterwards. If it was not before, it is read as it was. -/
theorem LineSet.readMcr (h : LineSet m m') (hshown : m.device.hw.hidden m.device.card = false) :
    m'.device.readReg .mcr = m.device.readReg .mcr := by
  show (if m'.device.hw.hidden m'.device.card then 0 else m'.device.hw.mcr) =
    if m.device.hw.hidden m.device.card then 0 else m.device.hw.mcr
  rw [h.hidden, hshown, h.mcr]

theorem lines_setLineControl {input : ControlInput} (hok : status.ok = true)
    (h : m.controlSetLineControl input = .completed status m') : LineSet m m' := by
  obtain ⟨bits, wmi, mask, hbits, rfl⟩ := completed_setLineControl hok h
  have hdlab : ((m.device.lineControl &&& lcrBreak) ||| bits) &&& lcrDlab = 0 := by
    rw [line_and (by decide), LineControl.lineControlBits_dlab hbits]
  exact ⟨rfl, hdlab, line_break (lineValue_lineBits hbits).2 _⟩

end Machine

end SerialFc
