import SerialFc.Properties.SettingView

/-!
# What the settings become

* `CardView.set…`, `View.set` — what a request that succeeds does to the view
* `view_control` — the port does to its view what `View.set` says
-/

namespace SerialFc

/-! ## The card -/

namespace CardView

variable (v : CardView)

/-- A register behind ICR gets a value. Only the cards with a 16C950 have these. -/
def setIcr (index value : UInt8) : CardView :=
  { v with icr := Function.update v.icr index value }

/-- The sample rate is remembered; a 16C950 gets it in TCR too. -/
def setSampleRate (value : UInt32) : CardView :=
  { (match v.kind with
    | .fscc => v.setIcr tcrOffset value.toUInt8
    | _ => v) with sampleRate := value }

/-- The trigger levels of a 16C950 are behind ICR; those of the other cards are remembered. -/
def setTrigger (index : UInt8) (value : UInt32) : CardView :=
  match v.kind with
  | .fscc => v.setIcr index value.toUInt8
  | _ => v

def setTxTrigger (value : UInt32) : CardView :=
  { v.setTrigger ttlOffset value with txTrigger := value }

def setRxTrigger (value : UInt32) : CardView :=
  { v.setTrigger rtlOffset value with rxTrigger := value }

/-- Each family has its own bit for RS-485. A PCI card has a pin for the channel too, high while
RS-485 is off. -/
def setRs485 (enable : Bool) : CardView :=
  match v.kind with
  | .pci =>
    { v with
      fctr := withBits enable 0x20 v.fctr
      mpiolvl := withBits (!enable) (v.channelMask 0x8) v.mpiolvl }
  | .pcie => { v with fctr := withBits enable 0x20 v.fctr }
  | .fscc =>
    { v with
      acr := withBits enable 0x10 v.acr
      bar2 := withBits32 enable (if v.channel = 1 then 0x00400000 else 0x00040000) v.bar2 }
  | .other => v

/-- The pin of the channel is low while the termination is on. -/
def setTermination (enable : Bool) : CardView :=
  { v with mpiolvl := withBits (!enable) (v.channelMask 0x1) v.mpiolvl }

def setEchoCancel (enable : Bool) : CardView :=
  match v.kind with
  | .pci => { v with mpiolvl := withBits enable 0x80 v.mpiolvl }
  | .pcie => { v with mpiolvlh := withBits enable (v.channelMask 0x1) v.mpiolvlh }
  | .fscc =>
    { v with bar2 := withBits32 enable (if v.channel = 1 then 0x00100000 else 0x00010000) v.bar2 }
  | .other => v

/-- MDM is written before CKS, as in `FastcomSetIsochronousFSCC`. -/
def setIsochronous (mode : Int) : CardView :=
  (v.setIcr mdmOffset (newMdm mode)).setIcr cksOffset (newCks mode)

def setExternalTransmit (numFrames : UInt32) : CardView :=
  (v.setIcr exthOffset (numFrames >>> 8).toUInt8).setIcr extOffset numFrames.toUInt8

/-- The frame length is stored less one. -/
def setFrameLength (numChars : UInt32) : CardView := v.setIcr flrOffset (numChars.toUInt8 - 1)

/-- Other cards have no such register, and the request succeeds all the same. -/
def set9Bit (enable : Bool) : CardView :=
  match v.kind with
  | .fscc => v.setIcr nmrOffset (if enable then 0x01 else 0x00)
  | _ => v

end CardView

namespace Device

variable {d : Device}

/-- What the view shows does not depend on the window that a register is written through. -/
theorem view_window_store (hcard : d.card = .fscc) {index : UInt8} (hindex : index ≠ acrOffset)
    (v : UInt8) : (d.fsccWindow (·.icrStore index v)).view = d.view.setIcr index v := by
  rw [view_fsccWindow, view_icrStore (windowed_open hcard) hindex, view_writeReg (by decide)]
  rfl

theorem view_window_stores (hcard : d.card = .fscc) {i j : UInt8} (hi : i ≠ acrOffset)
    (hj : j ≠ acrOffset) (v w : UInt8) :
    (d.fsccWindow fun d => (d.icrStore i v).icrStore j w).view =
      (d.view.setIcr i v).setIcr j w := by
  have hopen := windowed_open hcard
  rw [view_fsccWindow, view_icrStore (windowed_icrStore hopen i v) hj, view_icrStore hopen hi,
    view_writeReg (by decide)]
  rfl

/-- A routine that has succeeded was not refused. -/
theorem ok_check {p : Prop} [Decidable p] {d d' : Device} {status : SettingStatus}
    (hstatus : status.ok = false)
    (h : (if p then (status, d) else (SettingStatus.success, d')).1.ok = true) :
    (if p then (status, d) else (SettingStatus.success, d')).2 = d' := by
  split at h
  · rw [hstatus] at h
    cases h
  · next hnot => rw [if_neg hnot]

theorem view_sampleRate {value : UInt32} (h : (d.fastcomSetSampleRate value).1.ok = true) :
    (d.fastcomSetSampleRate value).2.view = d.view.setSampleRate value := by
  unfold fastcomSetSampleRate at h ⊢
  unfold CardView.setSampleRate
  rw [kind_view]
  cases hcard : d.card with
  | pci =>
    rw [hcard] at h
    have hset : (d.fastcomSetSampleRatePci value).2 = _ := ok_check rfl h
    dsimp only
    rw [if_pos h, hset]
    rfl
  | pcie =>
    rw [hcard] at h
    have hset : (d.fastcomSetSampleRatePcie value).2 = _ := ok_check rfl h
    dsimp only
    rw [if_pos h, hset]
    rfl
  | fscc =>
    rw [hcard] at h
    have hset : (d.fastcomSetSampleRateFscc value).2 = _ := ok_check rfl h
    have htcr : tcrOffset ≠ acrOffset := by decide
    have hstore := view_window_store hcard htcr value.toUInt8
    dsimp only
    rw [if_pos h, hset, ← hstore]
    rfl
  | other => rfl

/-- The two triggers differ in their registers and in what is remembered. -/
theorem view_triggerExar {limit : UInt32} {reg : BoardReg} {value : UInt32} (hreg : ¬Shown reg)
    (h : (d.fastcomSetTriggerExar limit reg value).1.ok = true) :
    (d.fastcomSetTriggerExar limit reg value).2.view = d.view := by
  have hset : (d.fastcomSetTriggerExar limit reg value).2 = _ := ok_check rfl h
  rw [hset]
  exact view_writeReg hreg _ _

/-- A trigger level of a 16C950 is cut to the byte that the register takes. -/
theorem view_triggerFscc (hcard : d.card = .fscc) {index : UInt8} (hindex : index ≠ acrOffset)
    {value : UInt32} (h : (d.fastcomSetTriggerFscc index value).1.ok = true) :
    (d.fastcomSetTriggerFscc index value).2.view = d.view.setIcr index value.toUInt8 := by
  have hset : (d.fastcomSetTriggerFscc index value).2 = _ := ok_check rfl h
  rw [hset]
  exact view_window_store hcard hindex _

theorem view_txTrigger {value : UInt32} (h : (d.fastcomSetTxTrigger value).1.ok = true) :
    (d.fastcomSetTxTrigger value).2.view = d.view.setTxTrigger value := by
  unfold fastcomSetTxTrigger at h ⊢
  unfold CardView.setTxTrigger CardView.setTrigger
  rw [kind_view]
  cases hcard : d.card with
  | pci | pcie =>
    rw [hcard] at h
    dsimp only
    rw [if_pos h, ← view_triggerExar (by decide) h]
    rfl
  | fscc =>
    rw [hcard] at h
    dsimp only
    rw [if_pos h, ← view_triggerFscc hcard (by decide) h]
    rfl
  | other =>
    rw [hcard] at h
    cases h

theorem view_rxTrigger {value : UInt32} (h : (d.fastcomSetRxTrigger value).1.ok = true) :
    (d.fastcomSetRxTrigger value).2.view = d.view.setRxTrigger value := by
  unfold fastcomSetRxTrigger at h ⊢
  unfold CardView.setRxTrigger CardView.setTrigger
  rw [kind_view]
  cases hcard : d.card with
  | pci | pcie =>
    rw [hcard] at h
    dsimp only
    rw [if_pos h, ← view_triggerExar (by decide) h]
    rfl
  | fscc =>
    rw [hcard] at h
    dsimp only
    rw [if_pos h, ← view_triggerFscc hcard (by decide) h]
    rfl
  | other =>
    rw [hcard] at h
    cases h

/-- The register of ACR is not in the view, its shadow is. -/
theorem view_rs485Fscc (hcard : d.card = .fscc) (enable : Bool) :
    (d.fastcomSetRs485Fscc enable).view =
      { d.view with
        acr := withBits enable 0x10 d.acr
        bar2 := withBits32 enable (if d.channel = 1 then 0x00400000 else 0x00040000) d.hw.bar2 } := by
  let opened : Device := { d.writeReg .lcr 0 with acr := withBits enable 0x10 d.acr }
  have hopened : Windowed opened := ⟨hcard, rfl⟩
  have hstore := view_icrStore_acr hopened (withBits enable 0x10 d.acr)
  have hview : opened.view = { d.view with acr := withBits enable 0x10 d.acr } := rfl
  rw [hview] at hstore
  let fcr := withBits32 enable (if d.channel = 1 then 0x00400000 else 0x00040000) d.hw.bar2
  have hshadow := congrArg (fun v : CardView => { v with bar2 := fcr }) hstore
  exact hshadow

theorem view_fctr (v : UInt8) (d : Device) :
    (d.writeReg .fctr v).view = { d.view with fctr := v } := rfl

theorem view_mpiolvl (v : UInt8) (d : Device) :
    (d.writeReg .mpiolvl v).view = { d.view with mpiolvl := v } := rfl

/-- On a PCI card Auto 485 also sets the bits of MCR that drive the lines, which the view does not
show. -/
theorem view_rs485Pci (enable : Bool) (d : Device) :
    (d.fastcomSetRs485Pci enable).view =
      { d.view with
        fctr := withBits enable 0x20 d.hw.fctr
        mpiolvl := withBits (!enable) (d.channelMask 0x8) d.hw.mpiolvl } := by
  unfold fastcomSetRs485Pci
  dsimp only
  rw [view_fctr, view_mpiolvl, view_writeReg (by decide)]
  rfl

theorem view_rs485Pcie (enable : Bool) (d : Device) :
    (d.fastcomSetRs485Pcie enable).view =
      { d.view with fctr := withBits enable 0x20 d.hw.fctr } := by
  unfold fastcomSetRs485Pcie
  dsimp only
  rw [view_fctr, view_writeReg (by decide)]
  rfl

/-- All four families at once. -/
theorem view_rs485 (enable : Bool) (d : Device) :
    (d.fastcomSetRs485 enable).view = d.view.setRs485 enable := by
  unfold fastcomSetRs485 CardView.setRs485
  rw [kind_view]
  cases hcard : d.card with
  | pci => exact view_rs485Pci enable d
  | pcie => exact view_rs485Pcie enable d
  | fscc => exact view_rs485Fscc hcard enable
  | other => rfl

theorem view_termination {enable : Bool} (h : (d.fastcomSetTermination enable).1.ok = true) :
    (d.fastcomSetTermination enable).2.view = d.view.setTermination enable := by
  unfold fastcomSetTermination at h ⊢
  cases hcard : d.card with
  | pcie => rfl
  | pci | fscc | other =>
    rw [hcard] at h
    cases h

/-- An unknown card is left as it was, although the request succeeds. -/
theorem view_echoCancel (enable : Bool) (d : Device) :
    (d.fastcomSetEchoCancel enable).view = d.view.setEchoCancel enable := by
  unfold fastcomSetEchoCancel CardView.setEchoCancel
  rw [kind_view]
  cases d.card <;> rfl

/-- A mode in range is written to both registers, and nothing else is done. -/
theorem isochronousFscc_ok {mode : Int} (h : (d.fastcomSetIsochronousFscc mode).1.ok = true) :
    (d.fastcomSetIsochronousFscc mode).2 = d.fsccWindow fun d =>
      (d.icrStore mdmOffset (newMdm mode)).icrStore cksOffset (newCks mode) := by
  unfold fastcomSetIsochronousFscc at h ⊢
  by_cases hrange : mode > 10 ∨ mode < -1
  · rw [if_pos hrange] at h
    cases h
  · rw [if_neg hrange]

theorem view_withIsochronous (mode : Int) (d : Device) :
    view { d with isochronous := mode } = d.view := rfl

/-- The mode is remembered outside the view. -/
theorem view_eq_of_isochronous (hcard : d.card = .fscc) {mode : Int}
    (h : (d.fastcomSetIsochronousFscc mode).1.ok = true) :
    Device.view { (d.fastcomSetIsochronousFscc mode).2 with isochronous := mode } =
      d.view.setIsochronous mode := by
  rw [isochronousFscc_ok h, view_withIsochronous, CardView.setIsochronous]
  generalize newMdm mode = mdm
  generalize newCks mode = cks
  exact view_window_stores hcard (by decide) (by decide) mdm cks

theorem view_isochronous {mode : Int} (h : (d.fastcomSetIsochronous mode).1.ok = true) :
    (d.fastcomSetIsochronous mode).2.view = d.view.setIsochronous mode := by
  unfold fastcomSetIsochronous at h ⊢
  cases hcard : d.card with
  | fscc =>
    rw [hcard] at h
    dsimp only at h ⊢
    rw [if_pos h, view_eq_of_isochronous hcard h]
  | pci | pcie | other =>
    rw [hcard] at h
    dsimp only at h
    cases h

theorem view_externalTransmit {numFrames : UInt32}
    (h : (d.fastcomSetExternalTransmit numFrames).1.ok = true) :
    (d.fastcomSetExternalTransmit numFrames).2.view = d.view.setExternalTransmit numFrames := by
  unfold fastcomSetExternalTransmit at h ⊢
  cases hcard : d.card with
  | fscc =>
    rw [hcard] at h
    dsimp only at h ⊢
    unfold fastcomSetExternalTransmitFscc at h ⊢
    rw [ok_check rfl h]
    exact view_window_stores hcard (by decide) (by decide) _ _
  | pci | pcie | other =>
    rw [hcard] at h
    dsimp only at h
    cases h

theorem view_frameLength {numChars : UInt32}
    (h : (d.fastcomSetFrameLength numChars).1.ok = true) :
    (d.fastcomSetFrameLength numChars).2.view = d.view.setFrameLength numChars := by
  unfold fastcomSetFrameLength at h ⊢
  cases hcard : d.card with
  | fscc =>
    rw [hcard] at h
    dsimp only at h ⊢
    rw [if_pos h]
    have hset : (d.fastcomSetFrameLengthFscc numChars).2 =
        d.fsccWindow (·.icrStore flrOffset (numChars.toUInt8 - 1)) := by
      unfold fastcomSetFrameLengthFscc at h ⊢
      split at h
      · cases h
      · next hrange =>
        rw [if_neg hrange]
        exact ok_check rfl h
    rw [hset]
    have hindex : flrOffset ≠ acrOffset := by decide
    exact view_window_store hcard hindex (numChars.toUInt8 - 1)
  | pci | pcie | other =>
    rw [hcard] at h
    dsimp only at h
    cases h

/-- Outside the FSCC family nothing changes. -/
theorem view_9Bit (enable : Bool) (d : Device) :
    (d.fastcomSet9Bit enable).2.view = d.view.set9Bit enable := by
  unfold fastcomSet9Bit CardView.set9Bit
  rw [kind_view]
  cases hcard : d.card with
  | fscc =>
    have hindex : nmrOffset ≠ acrOffset := by decide
    have hstore := view_window_store hcard hindex (if enable then 0x01 else 0x00)
    exact hstore
  | pci | pcie | other => rfl

end Device

/-! ## The port -/

/-- The bits of `LineControl` that a request asks for, if it is accepted. -/
def lineBits (input : ControlInput) : Option UInt8 :=
  LineControl.lineControlBits (input.byteAt 2) (input.byteAt 1) (input.byteAt 0)

namespace View

/-- A setting of the card. -/
def onCard (f : CardView → CardView) (v : View) : View := { v with card := f v.card }

/-- What a request that succeeds does; `shaken` is the handshake as the card takes it. -/
def set (code : ConfigCode) (input : ControlInput) (shaken : HandFlow) (v : View) : View :=
  match code with
  | .setLineControl => v.onCard fun c =>
    { c with lineControl := (c.lineControl &&& lcrBreak) ||| (lineBits input).getD 0 }
  | .setTimeouts => { v with timeouts := Machine.timeoutsAt input }
  | .setChars => { v with chars := Machine.charsAt input, eofChar := input.byteAt 0 }
  | .setHandFlow => { v with handFlow := shaken }
  | .setBaudRate => v.onCard fun c =>
    { c with
      currentBaud :=
        if c.fixedBaudRate ≠ 0xffffffff then c.fixedBaudRate else input.ulongAt 0 }
  | .enableRs485 => v.onCard (·.setRs485 true)
  | .disableRs485 => v.onCard (·.setRs485 false)
  | .enableEchoCancel => v.onCard (·.setEchoCancel true)
  | .disableEchoCancel => v.onCard (·.setEchoCancel false)
  | .enableTermination => v.onCard (·.setTermination true)
  | .disableTermination => v.onCard (·.setTermination false)
  | .setSampleRate => v.onCard (·.setSampleRate (input.ulongAt 0))
  | .setTxTrigger => v.onCard (·.setTxTrigger (input.ulongAt 0))
  | .setRxTrigger => v.onCard (·.setRxTrigger (input.ulongAt 0))
  | .enableIsochronous => v.onCard (·.setIsochronous (Device.toLong (input.ulongAt 0)))
  | .disableIsochronous => v.onCard (·.setIsochronous (-1))
  | .enableExternalTransmit => v.onCard (·.setExternalTransmit (input.ulongAt 0))
  | .disableExternalTransmit => v.onCard (·.setExternalTransmit 0)
  | .setFrameLength => v.onCard (·.setFrameLength (input.ulongAt 0))
  | .enable9Bit => v.onCard (·.set9Bit true)
  | .disable9Bit => v.onCard (·.set9Bit false)
  | .enableFixedBaudRate => v.onCard fun c => { c with fixedBaudRate := input.ulongAt 0 }
  | .disableFixedBaudRate => v.onCard fun c => { c with fixedBaudRate := 0xffffffff }
  | _ => v

end View

namespace Fitted

variable {U : Type} [Uart U]

/-- A read has no effect on what the card remembers. -/
theorem device_read (r : Reg) (f : Fitted U) : (Uart.read r f).2.device = f.device := by
  cases r with
  | data =>
    show (if f.device.hw.dlab then (f.device.hw.dll, f)
      else ((Uart.read .data f.chip).1, { f with chip := (Uart.read .data f.chip).2 })).2.device =
        f.device
    split <;> rfl
  | _ => rfl

/-- No register that the driver writes while the port runs is in the view, except ICR. -/
theorem view_write {r : Reg} (hr : r ≠ .lsr) (v : UInt8) (f : Fitted U) :
    (Uart.write r v f).device.view = f.device.view := by
  cases r with
  | lsr => exact absurd rfl hr
  | data =>
    show (if f.device.hw.dlab then { f with device := f.device.writeReg .data v }
      else { f with chip := Uart.write .data v f.chip } : Fitted U).device.view = f.device.view
    split <;> rfl
  | _ => rfl

end Fitted

/-! ## New handshaking -/

section

variable {U : Type} [Uart U]

open Extension

/-- Nothing in the view changes but the handshake. -/
def KeepsView (e e' : Extension (Fitted U)) : Prop :=
  e'.uart.device.view = e.uart.device.view ∧
    { e'.cfg with handFlow := e.cfg.handFlow } = e.cfg

omit [Uart U] in
/-- Neither the card nor the configuration has changed. -/
theorem KeepsView.of_eq {e e' : Extension (Fitted U)}
    (hdevice : e'.uart.device.view = e.uart.device.view) (hcfg : e'.cfg = e.cfg) :
    KeepsView e e' := by
  refine ⟨hdevice, ?_⟩
  rw [hcfg]

/-- The handshake itself only moves lines and sets hold reasons. -/
theorem keepsView_flowRule : FlowRule (KeepsView (U := U)) where
  refl _ := .of_eq rfl rfl
  trans {a b c} hab hbc := by
    refine ⟨hbc.1.trans hab.1, ?_⟩
    have hcfg := congrArg (fun cfg : Config => { cfg with handFlow := a.cfg.handFlow }) hbc.2
    exact hcfg.trans hab.2
  readReg e r := .of_eq (congrArg Device.view (Fitted.device_read r e.uart)) rfl
  writeReg e r v _ hr := .of_eq (Fitted.view_write hr v e.uart) rfl
  events _ _ _ _ := .of_eq rfl rfl
  txHolding _ _ := .of_eq rfl rfl
  holdingEmpty _ _ := .of_eq rfl rfl
  special _ b := by cases b <;> exact .of_eq rfl rfl
  rxHolding _ _ := .of_eq rfl rfl
  tryingToLowerRts _ _ := .of_eq rfl rfl
  insertDpc _ _ _ := .of_eq rfl rfl
  answerWait e _ := .of_eq
    (congrArg (fun u : Fitted U => u.device.view) (uart_modifyCurrent _ _ _))
    (cfg_modifyCurrent _ _ _)
  countXoff e := .of_eq (congrArg (fun u : Fitted U => u.device.view) (uart_countXoff e))
    (cfg_sharedRule.statusRule.countXoff e)
  storeUser e c hu := .of_eq (congrArg (fun u : Fitted U => u.device.view) (uart_storeUser e c))
    (cfg_sharedRule.statusRule.storeUser e c hu)
  putRing _ _ _ _ := .of_eq rfl rfl
  overwriteLast _ _ _ := .of_eq rfl rfl
  handFlow _ _ := ⟨rfl, rfl⟩

end

end SerialFc
