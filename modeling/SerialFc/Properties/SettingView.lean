import SerialFc.Model.ReadBack
import SerialFc.Properties.InterruptRule
import SerialFc.Properties.SharedRule
import SerialFc.Properties.CardSettings

/-!
# What the settings are read back from

* `CardView`, `View` — the fields and registers that the requests for settings look at
* `View.get`, `Machine.shown` — a setting, as it is read back from the view or from MCR
* `getControl_eq`, `view_getControl` — a request for a setting answers from the view and leaves it
  alone
-/

namespace SerialFc

/-! ## The card -/

/-- `icr` has the indexed registers of a 16C950 without ACR, which reading them changes for a
while. -/
structure CardView where
  deviceId : UInt16
  vstr : UInt32
  channel : Nat
  lineControl : UInt8
  currentBaud : UInt32
  fixedBaudRate : UInt32
  sampleRate : UInt32
  txTrigger : UInt32
  rxTrigger : UInt32
  acr : UInt8
  fctr : UInt8
  bar2 : UInt32
  mpiolvl : UInt8
  mpiolvlh : UInt8
  icr : UInt8 → UInt8

namespace Device

variable {d : Device}

/-- What the requests for settings look at. -/
def view (d : Device) : CardView where
  deviceId := d.deviceId
  vstr := d.vstr
  channel := d.channel
  lineControl := d.lineControl
  currentBaud := d.currentBaud
  fixedBaudRate := d.fixedBaudRate
  sampleRate := d.sampleRate
  txTrigger := d.txTrigger
  rxTrigger := d.rxTrigger
  acr := d.acr
  fctr := d.hw.fctr
  bar2 := d.hw.bar2
  mpiolvl := d.hw.mpiolvl
  mpiolvlh := d.hw.mpiolvlh
  icr := Function.update d.hw.icr acrOffset 0

/-- Registers that are in the view. -/
def Shown (r : BoardReg) : Prop := r = .lsr ∨ r = .fctr ∨ r = .mpiolvl ∨ r = .mpiolvlh

instance (r : BoardReg) : Decidable (Shown r) :=
  inferInstanceAs (Decidable (r = .lsr ∨ r = .fctr ∨ r = .mpiolvl ∨ r = .mpiolvlh))

/-- The other registers are not in the view. -/
theorem view_writeReg {r : BoardReg} (hr : ¬Shown r) (v : UInt8) (d : Device) :
    (d.writeReg r v).view = d.view := by
  cases r with
  | lsr => exact absurd (.inl rfl) hr
  | fctr => exact absurd (.inr (.inl rfl)) hr
  | mpiolvl => exact absurd (.inr (.inr (.inl rfl))) hr
  | mpiolvlh => exact absurd (.inr (.inr (.inr rfl))) hr
  | _ => rfl

/-! ## Indexed registers -/

/-- Between the two writes of LCR. -/
structure Windowed (d : Device) : Prop where
  card : d.card = .fscc
  lcr : d.hw.lcr = 0

theorem windowed_open (hcard : d.card = .fscc) : Windowed (d.writeReg .lcr 0) := ⟨hcard, rfl⟩

theorem Windowed.hidden (h : Windowed d) : d.hw.hidden d.card = false := by
  rw [Hardware.hidden, h.lcr]
  exact Bool.and_false _

/-- One indexed register is written. -/
theorem Windowed.icrStore (h : Windowed d) (index v : UInt8) :
    d.icrStore index v =
      { d with hw := { d.hw with spr := index, icr := Function.update d.hw.icr index v } } := by
  have hspr : d.writeReg .spr index = { d with hw := { d.hw with spr := index } } := by
    have hkeep : (if d.hw.hidden d.card then d.hw.spr else index) = index := by
      rw [h.hidden, if_neg Bool.false_ne_true]
    show { d with hw := { d.hw with
      spr := if d.hw.hidden d.card then d.hw.spr else index } } = _
    rw [hkeep]
  have hicr : (d.card == CardType.fscc && !d.hw.hidden d.card) = true := by
    rw [h.hidden, h.card]
    rfl
  unfold Device.icrStore
  rw [hspr]
  show { d with hw := { d.hw with
    spr := index
    icr := if d.card == CardType.fscc && !d.hw.hidden d.card then Function.update d.hw.icr index v
      else d.hw.icr } } = _
  rw [if_pos hicr]

theorem windowed_icrStore (h : Windowed d) (index v : UInt8) : Windowed (d.icrStore index v) := by
  rw [h.icrStore]
  exact ⟨h.card, h.lcr⟩

/-- An indexed register is written. -/
theorem view_icrStore (h : Windowed d) {index : UInt8} (hindex : index ≠ acrOffset) (v : UInt8) :
    (d.icrStore index v).view = { d.view with icr := Function.update d.view.icr index v } := by
  rw [h.icrStore]
  unfold view
  rw [Function.update_comm hindex.symm]

/-- ACR is not in the view. -/
theorem view_icrStore_acr (h : Windowed d) (v : UInt8) : (d.icrStore acrOffset v).view = d.view := by
  rw [h.icrStore]
  unfold view
  rw [Function.update_idem]

/-- LCR is not in the view either. -/
theorem view_fsccWindow (body : Device → Device) (d : Device) :
    (d.fsccWindow body).view = (body (d.writeReg .lcr 0)).view :=
  view_writeReg (by decide) _ _

/-- Reading an indexed register gives what is in the view, which stays as it is. -/
theorem windowed_openIcr (hcard : d.card = .fscc) : Windowed d.openIcr :=
  windowed_icrStore (windowed_open hcard) _ _

theorem view_openIcr (hcard : d.card = .fscc) : d.openIcr.view = d.view :=
  (view_icrStore_acr (windowed_open hcard) _).trans (view_writeReg (by decide) _ _)

theorem view_icrFetch (index : UInt8) (d : Device) : (d.icrFetch index).2.view = d.view :=
  view_writeReg (by decide) _ _

theorem windowed_icrFetch (h : Windowed d) (index : UInt8) : Windowed (d.icrFetch index).2 :=
  ⟨h.card, h.lcr⟩

/-- Reading is switched off again. -/
theorem view_closeIcr (h : Windowed d) (origLcr : UInt8) : (d.closeIcr origLcr).view = d.view :=
  (view_writeReg (by decide) _ _).trans (view_icrStore_acr h _)

/-- ACR lets the indexed registers be read. -/
def Readable (d : Device) : Prop := has (d.hw.icr acrOffset) 0x40 = true

theorem readable_openIcr (hcard : d.card = .fscc) : Readable d.openIcr := by
  unfold Readable openIcr
  rw [(windowed_open hcard).icrStore]
  show has (Function.update d.hw.icr acrOffset (d.acr ||| 0x40) acrOffset) 0x40 = true
  rw [Function.update_self]
  have hset := has_withBits_self true 0x40 d.acr
  exact hset

/-- While reading is on, the register that is selected is read. -/
theorem icrFetch_eq (h : Windowed d) (hread : Readable d) {index : UInt8}
    (hindex : index ≠ acrOffset) : (d.icrFetch index).1 = d.view.icr index := by
  have hspr : (d.writeReg .spr index).hw.spr = index := by
    show (if d.hw.hidden d.card then d.hw.spr else index) = index
    rw [h.hidden, if_neg Bool.false_ne_true]
  have hpass : (!(d.writeReg .spr index).hw.hidden (d.writeReg .spr index).card
      && has ((d.writeReg .spr index).hw.icr acrOffset) 0x40) = true := by
    show (!d.hw.hidden d.card && has (d.hw.icr acrOffset) 0x40) = true
    rw [h.hidden]
    exact hread
  show (d.writeReg .spr index).readIcr = _
  rw [readIcr, if_pos hpass, hspr]
  exact (Function.update_of_ne hindex _ _).symm

/-- **Indexed registers** are read as the view has them. -/
theorem fsccFetch_eq (hcard : d.card = .fscc) {index : UInt8} (hindex : index ≠ acrOffset) :
    (d.fsccFetch index).1 = d.view.icr index := by
  have hfetch := icrFetch_eq (windowed_openIcr hcard) (readable_openIcr hcard) hindex
  rw [view_openIcr hcard] at hfetch
  exact hfetch

theorem view_fsccFetch (hcard : d.card = .fscc) (index : UInt8) :
    (d.fsccFetch index).2.view = d.view :=
  (view_closeIcr (windowed_icrFetch (windowed_openIcr hcard) index) _).trans
    ((view_icrFetch index _).trans (view_openIcr hcard))

end Device

/-! ## The port -/

/-- The card, and what the driver keeps of a port. -/
structure View where
  card : CardView
  timeouts : Timeouts
  chars : SpecialChars
  eofChar : UInt8
  handFlow : HandFlow

namespace CardView

variable (v : CardView)

def kind : CardType := fastcomGetCardType v.deviceId

/-- The same bits as for the device. -/
def channelMask (n : Nat) : UInt8 := UInt8.ofNat (n <<< v.channel)

/-- `FastcomGetRS485`. -/
def rs485 : Option Bool :=
  match v.kind with
  | .pci | .pcie => some (has v.fctr 0x20)
  | .fscc =>
    some (has v.acr 0x10 && has32 v.bar2 (if v.channel = 1 then 0x00400000 else 0x00040000))
  | .other => none

/-- `FastcomGetEchoCancel`. -/
def echoCancel : Option Bool :=
  match v.kind with
  | .pci => some (has v.mpiolvl 0x80)
  | .pcie => some (has v.mpiolvlh (v.channelMask 0x1))
  | .fscc => some (has32 v.bar2 (if v.channel = 1 then 0x00100000 else 0x00010000))
  | .other => none

/-- `FastcomGetTermination`: the pin is low while it is on. -/
def termination : Option Bool :=
  match v.kind with
  | .pcie => some (!has v.mpiolvl (v.channelMask 0x1))
  | _ => none

/-- A trigger: what the driver remembers, or on a 16C950 the register. -/
def trigger (remembered : UInt32) (index : UInt8) : Option UInt32 :=
  match v.kind with
  | .pci | .pcie => some remembered
  | .fscc => some (v.icr index &&& 0x7f).toUInt32
  | .other => none

/-- `FastcomGetIsochronous`. -/
def isochronous : Option Int :=
  match v.kind with
  | .fscc => isochronousMode (v.icr cksOffset)
  | _ => none

/-- `FastcomGetExternalTransmit`, from two registers. -/
def externalTransmit : Option UInt32 :=
  match v.kind with
  | .fscc => some ((v.icr exthOffset &&& 0x1f).toUInt32 <<< 8 + (v.icr extOffset).toUInt32)
  | _ => none

def frev : UInt8 := UInt8.ofNat (v.vstr.toNat % 256)

/-- `FastcomGetFrameLength`. Early firmware has no such register. -/
def frameLength : Option UInt32 :=
  match v.kind with
  | .fscc => if v.frev < 0x20 then none else some ((v.icr flrOffset).toUInt32 + 1)
  | _ => none

/-- `FastcomGet9Bit`. -/
def nineBit : Option Bool :=
  match v.kind with
  | .fscc => some (has (v.icr nmrOffset) 0x01)
  | _ => none

end CardView

/-- A setting as it is read back. The baud rate is that without a fixed one; the modem control
register is not in the view. -/
def View.get (v : View) : Setting → Option Value
  | .lineControl => some (Machine.lineValue v.card.lineControl)
  | .timeouts => some (.timeouts v.timeouts)
  | .chars => some (.chars v.eofChar v.chars)
  | .handFlow => some (.handFlow v.handFlow)
  | .baudRate => some (.ulong v.card.currentBaud)
  | .modemControl => none
  | .rs485 => v.card.rs485.map .boolean
  | .echoCancel => v.card.echoCancel.map .boolean
  | .termination => v.card.termination.map .boolean
  | .sampleRate => some (.ulong v.card.sampleRate)
  | .txTrigger => (v.card.trigger v.card.txTrigger ttlOffset).map .ulong
  | .rxTrigger => (v.card.trigger v.card.rxTrigger rtlOffset).map .ulong
  | .isochronous => v.card.isochronous.map .long
  | .externalTransmit => v.card.externalTransmit.map .ulong
  | .frameLength => v.card.frameLength.map .ulong
  | .nineBit => v.card.nineBit.map .boolean
  | .fixedBaudRate => some (.ulong v.card.fixedBaudRate)

namespace Machine

variable {U : Type} [Uart U]

def view (m : Machine U) : View where
  card := m.device.view
  timeouts := m.ext.cfg.timeouts
  chars := m.ext.cfg.specialChars
  eofChar := m.eofChar
  handFlow := m.ext.handFlow

/-- A setting as a request would read it now. The modem control register is read as it is; the baud
rate is that without a fixed one. -/
def shown (s : Setting) (m : Machine U) : Option Value :=
  if s = .modemControl then some (.ulong (m.device.readReg .mcr).toUInt32) else m.view.get s

/-- While a baud rate is fixed, the one that was set is not read back. -/
def ReadsBack (s : Setting) (m : Machine U) : Prop :=
  s = .baudRate → m.device.fixedBaudRate = 0xffffffff

end Machine

namespace Device

variable {d : Device}

theorem kind_view (d : Device) : d.view.kind = d.card := rfl

/-- The routines answer from the view and leave it alone. -/
theorem txTrigger_eq (d : Device) :
    d.fastcomGetTxTrigger.1 = d.view.trigger d.txTrigger ttlOffset ∧
      d.fastcomGetTxTrigger.2.view = d.view := by
  unfold fastcomGetTxTrigger CardView.trigger
  rw [kind_view]
  cases hcard : d.card with
  | pci | pcie | other => exact ⟨rfl, rfl⟩
  | fscc =>
    dsimp only
    rw [fsccFetch_eq hcard (by decide)]
    exact ⟨rfl, view_fsccFetch hcard _⟩

theorem rxTrigger_eq (d : Device) :
    d.fastcomGetRxTrigger.1 = d.view.trigger d.rxTrigger rtlOffset ∧
      d.fastcomGetRxTrigger.2.view = d.view := by
  unfold fastcomGetRxTrigger CardView.trigger
  rw [kind_view]
  cases hcard : d.card with
  | pci | pcie | other => exact ⟨rfl, rfl⟩
  | fscc =>
    dsimp only
    rw [fsccFetch_eq hcard (by decide)]
    exact ⟨rfl, view_fsccFetch hcard _⟩

theorem isochronous_eq (d : Device) : d.fastcomGetIsochronous.1 = d.view.isochronous ∧
    d.fastcomGetIsochronous.2.view = d.view := by
  unfold fastcomGetIsochronous CardView.isochronous
  rw [kind_view]
  cases hcard : d.card with
  | pci | pcie | other => exact ⟨rfl, rfl⟩
  | fscc =>
    dsimp only
    rw [fsccFetch_eq hcard (by decide)]
    exact ⟨rfl, view_fsccFetch hcard _⟩

theorem nineBit_eq (d : Device) : d.fastcomGet9Bit.1 = d.view.nineBit ∧
    d.fastcomGet9Bit.2.view = d.view := by
  unfold fastcomGet9Bit CardView.nineBit
  rw [kind_view]
  cases hcard : d.card with
  | pci | pcie | other => exact ⟨rfl, rfl⟩
  | fscc =>
    dsimp only
    rw [fsccFetch_eq hcard (by decide)]
    exact ⟨rfl, view_fsccFetch hcard _⟩

theorem frameLength_eq (d : Device) : d.fastcomGetFrameLength.1 = d.view.frameLength ∧
    d.fastcomGetFrameLength.2.view = d.view := by
  unfold fastcomGetFrameLength CardView.frameLength
  rw [kind_view]
  cases hcard : d.card with
  | pci | pcie | other => exact ⟨rfl, rfl⟩
  | fscc =>
    dsimp only
    rw [fsccFetch_eq hcard (by decide)]
    have hfrev : d.view.frev = d.fsccGetFrev := rfl
    rw [hfrev]
    split
    · exact ⟨rfl, rfl⟩
    · exact ⟨rfl, view_fsccFetch hcard _⟩

/-- Both registers are read in one window. -/
theorem externalTransmit_eq (d : Device) :
    d.fastcomGetExternalTransmit.1 = d.view.externalTransmit ∧
      d.fastcomGetExternalTransmit.2.view = d.view := by
  unfold fastcomGetExternalTransmit CardView.externalTransmit
  rw [kind_view]
  cases hcard : d.card with
  | pci | pcie | other => exact ⟨rfl, rfl⟩
  | fscc =>
    have hopen := windowed_openIcr hcard
    have hread := readable_openIcr hcard
    have hindex : extOffset ≠ acrOffset ∧ exthOffset ≠ acrOffset := by decide
    have hext := icrFetch_eq hopen hread hindex.1
    have hnext := windowed_icrFetch hopen extOffset
    have hexth := icrFetch_eq hnext hread hindex.2
    rw [view_icrFetch, view_openIcr hcard] at hexth
    rw [view_openIcr hcard] at hext
    refine ⟨?_, ?_⟩
    · unfold fastcomGetExternalTransmitFscc
      dsimp only
      rw [hext, hexth]
    · refine (view_closeIcr (windowed_icrFetch hnext _) _).trans ?_
      rw [view_icrFetch, view_icrFetch, view_openIcr hcard]

end Device

namespace Machine

variable {U : Type} [Uart U]

omit [Uart U] in
theorem view_setDevice {m : Machine U} {d : Device} (h : d.view = m.device.view) :
    (m.setDevice d).view = m.view := by
  unfold view
  rw [← h]
  rfl

/-- A request for a setting leaves the view alone. -/
theorem view_getControl (s : Setting) (m : Machine U) : (m.getControl s).2.view = m.view := by
  cases s with
  | txTrigger => exact view_setDevice (Device.txTrigger_eq m.device).2
  | rxTrigger => exact view_setDevice (Device.rxTrigger_eq m.device).2
  | isochronous => exact view_setDevice (Device.isochronous_eq m.device).2
  | externalTransmit => exact view_setDevice (Device.externalTransmit_eq m.device).2
  | frameLength => exact view_setDevice (Device.frameLength_eq m.device).2
  | nineBit => exact view_setDevice (Device.nineBit_eq m.device).2
  | _ => rfl

/-- Every setting is read back as it is shown. -/
theorem getControl_eq {s : Setting} {m : Machine U} (h : m.ReadsBack s) :
    (m.getControl s).1 = m.shown s := by
  cases s with
  | baudRate =>
    have hfixed := h rfl
    show some (baudValue m.device) = some (.ulong m.device.currentBaud)
    rw [baudValue, hfixed, if_neg (by decide)]
  | txTrigger => exact congrArg (Option.map Value.ulong) (Device.txTrigger_eq m.device).1
  | rxTrigger => exact congrArg (Option.map Value.ulong) (Device.rxTrigger_eq m.device).1
  | isochronous => exact congrArg (Option.map Value.long) (Device.isochronous_eq m.device).1
  | externalTransmit => exact congrArg (Option.map Value.ulong) (Device.externalTransmit_eq m.device).1
  | frameLength => exact congrArg (Option.map Value.ulong) (Device.frameLength_eq m.device).1
  | nineBit => exact congrArg (Option.map Value.boolean) (Device.nineBit_eq m.device).1
  | _ => rfl

end Machine

end SerialFc
