import SerialFc.Model.Routines
import SerialFc.Properties.RoundTrip
import SerialFc.Properties.SettingRequest

/-!
# One routine after the other

Every routine of a FSCC port puts LCR away and back, and writes ACR back from the device extension.
`FsccRoutine.Keeps` is what a call does right: the value it gets is the one that was set last, no
other feature changes, ACR of the hardware is that of the extension, and LCR is what it was.

* `FsccRoutine.restores_perform`, `FsccRoutine.get_perform` — LCR and ACR, and the features
* `Port950.current_step`, `Port950.keeps_perform` — one call, other than to initialise the triggers
* `Port950.keeps_iff` — a sequence of calls
-/

namespace SerialFc

open Lib Device

/-! ## Definitions -/

namespace FsccRoutine

/-- What a call does right. -/
structure Keeps (r : FsccRoutine) (p : Port950) : Prop where
  gets : ∀ f v, r = .get f → p.last f = some v → (f.get p.device).1 = some v
  fill : ∀ level, r = .getTxFifoFill level → (p.device.fastcomGetTxFifoFillFscc level).1 = level
  others : ∀ f, (∀ v, r.sets ≠ some (f, v)) →
    (f.get (r.perform p.device).2).1 = (f.get p.device).1
  acr : (r.perform p.device).2.hw.icr acrOffset = (r.perform p.device).2.acr
  lcr : (r.perform p.device).2.hw.lcr = p.device.hw.lcr

end FsccRoutine

/-- The calls that write ACR. Before FREV 0x20 there is no frame length, and it is not looked up. -/
def FsccRoutine.writesAcr : FsccRoutine → Device → Bool
  | setRs485 _, _ | getTxFifoFill _, _ => true
  | get .sampleRate, _ | get .rs485, _ => false
  | get .frameLength, d => !decide (d.fsccGetFrev < 0x20)
  | get _, _ => true
  | _, _ => false

/-- ACR of the hardware is that of the extension. -/
def Device.AcrSynced (d : Device) : Prop := d.hw.icr acrOffset = d.acr

/-- A FSCC port whose addresses mean what they mean to the driver, and which shows each feature as
it was set last. -/
structure Port950.Current (p : Port950) : Prop where
  card : p.device.card = .fscc
  lcr : p.device.hw.lcr ≠ 0xbf
  last : ∀ f v, p.last f = some v → (f.get p.device).1 = some v

/-! ## Features, as they are seen -/

def Feature.setting : Feature → Setting
  | .sampleRate => .sampleRate
  | .txTrigger => .txTrigger
  | .rxTrigger => .rxTrigger
  | .rs485 => .rs485
  | .isochronous => .isochronous
  | .externalTransmit => .externalTransmit
  | .frameLength => .frameLength
  | .nineBit => .nineBit

/-- The view of a card, with nothing that is not on it. -/
def CardView.alone (c : CardView) : View := ⟨c, ⟨0, 0, 0, 0, 0⟩, ⟨0, 0, 0, 0, 0⟩, 0, ⟨0, 0, 0, 0⟩⟩

variable {d : Device}

theorem get_eq (f : Feature) (d : Device) :
    (f.get d).1 = d.view.alone.get f.setting ∧ (f.get d).2.view = d.view := by
  cases f with
  | sampleRate => exact ⟨rfl, rfl⟩
  | rs485 => exact ⟨rfl, rfl⟩
  | txTrigger =>
    exact ⟨congrArg (Option.map Value.ulong) (txTrigger_eq d).1, (txTrigger_eq d).2⟩
  | rxTrigger =>
    exact ⟨congrArg (Option.map Value.ulong) (rxTrigger_eq d).1, (rxTrigger_eq d).2⟩
  | isochronous =>
    exact ⟨congrArg (Option.map Value.long) (isochronous_eq d).1, (isochronous_eq d).2⟩
  | externalTransmit =>
    exact ⟨congrArg (Option.map Value.ulong) (externalTransmit_eq d).1, (externalTransmit_eq d).2⟩
  | frameLength =>
    exact ⟨congrArg (Option.map Value.ulong) (frameLength_eq d).1, (frameLength_eq d).2⟩
  | nineBit => exact ⟨congrArg (Option.map Value.boolean) (nineBit_eq d).1, (nineBit_eq d).2⟩

/-! ## LCR and ACR -/

/-- LCR is put back, and ACR is written from the extension or left alone. -/
structure Restores (writes : Bool) (d d' : Device) : Prop where
  deviceId : d'.deviceId = d.deviceId
  lcr : d'.hw.lcr = d.hw.lcr
  written : writes = true → d'.AcrSynced
  kept : writes = false → d'.hw.icr acrOffset = d.hw.icr acrOffset ∧ d'.acr = d.acr

theorem Restores.of_kept {d d' : Device} (hdeviceId : d'.deviceId = d.deviceId)
    (hlcr : d'.hw.lcr = d.hw.lcr) (hicr : d'.hw.icr acrOffset = d.hw.icr acrOffset)
    (hacr : d'.acr = d.acr) : Restores false d d' :=
  ⟨hdeviceId, hlcr, fun hwrites => absurd hwrites Bool.false_ne_true, fun _ => ⟨hicr, hacr⟩⟩

theorem Restores.of_written {d d' : Device} (hdeviceId : d'.deviceId = d.deviceId)
    (hlcr : d'.hw.lcr = d.hw.lcr) (hacr : d'.AcrSynced) : Restores true d d' :=
  ⟨hdeviceId, hlcr, fun _ => hacr, fun hwrites => absurd hwrites.symm Bool.false_ne_true⟩

theorem Restores.refl (d : Device) : Restores false d d := .of_kept rfl rfl rfl rfl

theorem Restores.synced_iff {writes : Bool} {d d' : Device} (h : Restores writes d d') :
    d'.AcrSynced ↔ d.AcrSynced ∨ writes = true := by
  cases writes with
  | true => exact ⟨fun _ => .inr rfl, fun _ => h.written rfl⟩
  | false =>
    obtain ⟨hicr, hacr⟩ := h.kept rfl
    unfold AcrSynced
    rw [hicr, hacr]
    exact ⟨.inl, fun hsynced => hsynced.resolve_right Bool.false_ne_true⟩

theorem icr_icrStore (h : Windowed d) {index : UInt8} (hindex : index ≠ acrOffset) (v : UInt8) :
    (d.icrStore index v).hw.icr acrOffset = d.hw.icr acrOffset := by
  rw [h.icrStore]
  exact Function.update_of_ne hindex.symm _ _

/-- A register other than ACR is written. -/
theorem restores_store (hcard : d.card = .fscc) {index : UInt8} (hindex : index ≠ acrOffset)
    (v : UInt8) : Restores false d (d.fsccWindow (·.icrStore index v)) := by
  have hopen := windowed_open hcard
  refine .of_kept ?_ rfl (icr_icrStore hopen hindex v) ?_
  · show ((d.writeReg .lcr 0).icrStore index v).deviceId = d.deviceId
    rw [hopen.icrStore]
    rfl
  · show ((d.writeReg .lcr 0).icrStore index v).acr = d.acr
    rw [hopen.icrStore]
    rfl

/-- Two of them are. -/
theorem restores_stores (hcard : d.card = .fscc) {i j : UInt8} (hi : i ≠ acrOffset)
    (hj : j ≠ acrOffset) (v w : UInt8) :
    Restores false d (d.fsccWindow fun d => (d.icrStore i v).icrStore j w) := by
  have hopen := windowed_open hcard
  have hfirst := windowed_icrStore hopen i v
  refine .of_kept ?_ rfl ?_ ?_
  · show (((d.writeReg .lcr 0).icrStore i v).icrStore j w).deviceId = d.deviceId
    rw [hfirst.icrStore, hopen.icrStore]
    rfl
  · exact (icr_icrStore hfirst hj w).trans (icr_icrStore hopen hi v)
  · show (((d.writeReg .lcr 0).icrStore i v).icrStore j w).acr = d.acr
    rw [hfirst.icrStore, hopen.icrStore]
    rfl

/-- ACR is written back from the extension. -/
theorem restores_close {d' : Device} (h : Windowed d') (hid : d'.deviceId = d.deviceId) :
    Restores true d (d'.closeIcr (d.readReg .lcr)) := by
  refine .of_written ?_ rfl ?_
  · show (d'.icrStore acrOffset d'.acr).deviceId = d.deviceId
    rw [h.icrStore]
    exact hid
  · show (d'.icrStore acrOffset d'.acr).hw.icr acrOffset = (d'.icrStore acrOffset d'.acr).acr
    rw [h.icrStore]
    show Function.update d'.hw.icr acrOffset d'.acr acrOffset = d'.acr
    rw [Function.update_self]

theorem deviceId_openIcr (hcard : d.card = .fscc) : d.openIcr.deviceId = d.deviceId := by
  unfold openIcr
  rw [(windowed_open hcard).icrStore]
  rfl

theorem restores_fetch (hcard : d.card = .fscc) (index : UInt8) :
    Restores true d (d.fsccFetch index).2 :=
  restores_close (windowed_icrFetch (windowed_openIcr hcard) index) (deviceId_openIcr hcard)

theorem restores_get (hcard : d.card = .fscc) (f : Feature) :
    Restores ((FsccRoutine.get f).writesAcr d) d (f.get d).2 := by
  cases f with
  | sampleRate | rs485 => exact .refl d
  | txTrigger =>
    have hfetch := restores_fetch hcard ttlOffset
    simp only [Feature.get, fastcomGetTxTrigger, hcard]
    exact hfetch
  | rxTrigger =>
    have hfetch := restores_fetch hcard rtlOffset
    simp only [Feature.get, fastcomGetRxTrigger, hcard]
    exact hfetch
  | isochronous =>
    have hfetch := restores_fetch hcard cksOffset
    simp only [Feature.get, fastcomGetIsochronous, hcard]
    exact hfetch
  | externalTransmit =>
    have hnext := windowed_icrFetch (windowed_openIcr hcard) extOffset
    have hclose := restores_close (d := d) (windowed_icrFetch hnext exthOffset)
      (deviceId_openIcr hcard)
    simp only [Feature.get, fastcomGetExternalTransmit, hcard]
    exact hclose
  | frameLength =>
    have hfetch := restores_fetch hcard flrOffset
    simp only [Feature.get, fastcomGetFrameLength, hcard, FsccRoutine.writesAcr]
    split
    · next hfrev =>
      rw [decide_eq_true hfrev]
      exact .refl d
    · next hfrev =>
      rw [decide_eq_false hfrev]
      exact hfetch
  | nineBit =>
    have hfetch := restores_fetch hcard nmrOffset
    simp only [Feature.get, fastcomGet9Bit, hcard]
    exact hfetch

theorem restores_fill (hcard : d.card = .fscc) (level : UInt8) :
    Restores true d (d.fastcomGetTxFifoFillFscc level).2 := by
  refine restores_close (windowed_icrStore (windowed_open hcard) _ _) ?_
  rw [(windowed_open hcard).icrStore]
  rfl

/-- RS-485 is a bit of ACR, which is written from the extension. -/
theorem restores_rs485 (hcard : d.card = .fscc) (enable : Bool) :
    Restores true d (d.fastcomSetRs485 enable) := by
  have hopen : Windowed { d.writeReg .lcr 0 with acr := withBits enable 0x10 d.acr } :=
    ⟨hcard, rfl⟩
  have hstore := hopen.icrStore acrOffset (withBits enable 0x10 d.acr)
  have hset : Restores true d (d.fastcomSetRs485Fscc enable) := by
    refine .of_written rfl rfl ?_
    show (Device.icrStore { d.writeReg .lcr 0 with acr := withBits enable 0x10 d.acr } acrOffset
      (withBits enable 0x10 d.acr)).hw.icr acrOffset = withBits enable 0x10 d.acr
    rw [hstore]
    show Function.update d.hw.icr acrOffset (withBits enable 0x10 d.acr) acrOffset = _
    rw [Function.update_self]
  unfold fastcomSetRs485
  rw [hcard]
  exact ⟨hset.deviceId, hset.lcr, hset.written, hset.kept⟩

/-- What is remembered besides does not matter. -/
theorem restores_remember {result : SettingStatus × Device} {f : Device → Device}
    (h : Restores false d result.2) (hf : ∀ d, Restores false d (f d)) :
    Restores false d (if result.1.ok then f result.2 else result.2) := by
  split
  · have hkeep := hf result.2
    obtain ⟨hicr, hacr⟩ := hkeep.kept rfl
    obtain ⟨hicr', hacr'⟩ := h.kept rfl
    exact .of_kept (hkeep.deviceId.trans h.deviceId) (hkeep.lcr.trans h.lcr) (hicr.trans hicr')
      (hacr.trans hacr')
  · exact h

theorem restores_ite {p : Prop} [Decidable p] {status : SettingStatus} {d' : Device}
    (h : Restores false d d') :
    Restores false d (if p then (status, d) else (SettingStatus.success, d')).2 := by
  split
  · exact .refl d
  · exact h

namespace FsccRoutine

variable {r : FsccRoutine}

/-- **LCR and ACR** after every routine but the one that initialises the triggers. -/
theorem restores_perform (hcard : d.card = .fscc) (hr : r ≠ .initTriggers) :
    Restores (r.writesAcr d) d (r.perform d).2 := by
  have hstore {index : UInt8} (hindex : index ≠ acrOffset) (v : UInt8) :=
    restores_store hcard hindex v
  cases r with
  | setSampleRate value =>
    have hset : Restores false d (d.fastcomSetSampleRateFscc value).2 :=
      restores_ite (hstore (by decide) value.toUInt8)
    simp only [perform, fastcomSetSampleRate, hcard]
    exact restores_remember (f := fun d => { d with sampleRate := value }) hset
      fun _ => .of_kept rfl rfl rfl rfl
  | setTxTrigger value =>
    have hset : Restores false d (d.fastcomSetTriggerFscc ttlOffset value).2 :=
      restores_ite (hstore (by decide) value.toUInt8)
    simp only [perform, fastcomSetTxTrigger, hcard]
    exact restores_remember (f := fun d => { d with txTrigger := value }) hset
      fun _ => .of_kept rfl rfl rfl rfl
  | setRxTrigger value =>
    have hset : Restores false d (d.fastcomSetTriggerFscc rtlOffset value).2 :=
      restores_ite (hstore (by decide) value.toUInt8)
    simp only [perform, fastcomSetRxTrigger, hcard]
    exact restores_remember (f := fun d => { d with rxTrigger := value }) hset
      fun _ => .of_kept rfl rfl rfl rfl
  | setRs485 enable => exact restores_rs485 hcard enable
  | setIsochronous mode =>
    have hset : Restores false d (d.fastcomSetIsochronousFscc mode).2 :=
      restores_ite (restores_stores hcard (by decide) (by decide) _ _)
    simp only [perform, fastcomSetIsochronous, hcard]
    exact restores_remember (f := fun d => { d with isochronous := mode }) hset
      fun _ => .of_kept rfl rfl rfl rfl
  | setExternalTransmit numFrames =>
    simp only [perform, fastcomSetExternalTransmit, hcard]
    exact restores_ite (restores_stores hcard (by decide) (by decide) _ _)
  | setFrameLength numChars =>
    have hset : Restores false d (d.fastcomSetFrameLengthFscc numChars).2 := by
      unfold fastcomSetFrameLengthFscc
      split
      · exact .refl d
      · exact restores_ite (hstore (by decide) (numChars.toUInt8 - 1))
    simp only [perform, fastcomSetFrameLength, hcard]
    exact restores_remember (f := fun d => { d with frameLength := numChars }) hset
      fun _ => .of_kept rfl rfl rfl rfl
  | set9Bit enable =>
    have hset := restores_store hcard (show nmrOffset ≠ acrOffset by decide)
      (if enable then 0x01 else 0x00)
    simp only [perform, fastcomSet9Bit, hcard]
    exact ⟨hset.deviceId, hset.lcr, hset.written, hset.kept⟩
  | get f => exact restores_get hcard f
  | getTxFifoFill level => exact restores_fill hcard level
  | initTriggers => exact absurd rfl hr

/-! ## Features -/

/-- What a routine that succeeds does to the view. -/
def onView : FsccRoutine → CardView → CardView
  | setSampleRate value, c => c.setSampleRate value
  | setTxTrigger value, c => c.setTxTrigger value
  | setRxTrigger value, c => c.setRxTrigger value
  | setRs485 enable, c => c.setRs485 enable
  | setIsochronous mode, c => c.setIsochronous mode
  | setExternalTransmit numFrames, c => c.setExternalTransmit numFrames
  | setFrameLength numChars, c => c.setFrameLength numChars
  | set9Bit enable, c => c.set9Bit enable
  | _, c => c

theorem view_perform (hcard : d.card = .fscc) (hr : r ≠ .initTriggers)
    (hok : (r.perform d).1.ok = true) : (r.perform d).2.view = r.onView d.view := by
  cases r with
  | setSampleRate value => exact view_sampleRate hok
  | setTxTrigger value => exact view_txTrigger hok
  | setRxTrigger value => exact view_rxTrigger hok
  | setRs485 enable => exact view_rs485 enable d
  | setIsochronous mode => exact view_isochronous hok
  | setExternalTransmit numFrames => exact view_externalTransmit hok
  | setFrameLength numChars => exact view_frameLength hok
  | set9Bit enable => exact view_9Bit enable d
  | get f => exact (get_eq f d).2
  | getTxFifoFill level =>
    have hopen := windowed_icrStore (windowed_open hcard) acrOffset (d.acr ||| 0x80)
    refine (view_closeIcr hopen _).trans ?_
    rw [view_icrStore_acr (windowed_open hcard)]
    exact view_writeReg (by decide) _ _
  | initTriggers => exact absurd rfl hr

/-- A routine that fails has done nothing. -/
theorem perform_of_failed (hcard : d.card = .fscc) (hfailed : (r.perform d).1.ok = false) :
    (r.perform d).2 = d := by
  cases r with
  | setSampleRate value => exact unchanged_sampleRate d value hfailed
  | setTxTrigger value => exact unchanged_txTrigger d value hfailed
  | setRxTrigger value => exact unchanged_rxTrigger d value hfailed
  | setIsochronous mode => exact unchanged_isochronous d mode hfailed
  | setExternalTransmit numFrames => exact unchanged_externalTransmit d numFrames hfailed
  | setFrameLength numChars => exact unchanged_frameLength d numChars hfailed
  | set9Bit enable =>
    simp only [perform, fastcomSet9Bit, hcard] at hfailed
    cases hfailed
  | _ => cases hfailed

/-- A feature that the routine does not set is seen as before. -/
theorem get_onView_other {c : CardView} (hkind : c.kind = .fscc) {f : Feature}
    (hf : ∀ v, r.sets ≠ some (f, v)) :
    (r.onView c).alone.get f.setting = c.alone.get f.setting := by
  have hs {g : Feature} {v : Value} (hsets : r.sets = some (g, v)) : f.setting ≠ g.setting := by
    intro heq
    have hfg : f = g := by
      cases f <;> cases g <;> first | rfl | cases heq
    exact hf v (hfg ▸ hsets)
  -- Only a PCI card has a pin that RS485 and echo cancel share.
  have hpci : c.kind ≠ .pci := by
    rw [hkind]
    nofun
  cases r with
  | setSampleRate value => exact View.get_setSampleRate (hs rfl) value c.alone
  | setTxTrigger value => exact View.get_setTxTrigger (hs rfl) value c.alone
  | setRxTrigger value => exact View.get_setRxTrigger (hs rfl) value c.alone
  | setRs485 enable =>
    exact View.get_setRs485 (v := c.alone) (hs rfl) fun _ hkind' => absurd hkind' hpci
  | setIsochronous mode => exact View.get_setIsochronous (hs rfl) mode c.alone
  | setExternalTransmit numFrames =>
    exact View.get_setExternalTransmit (hs rfl) numFrames c.alone
  | setFrameLength numChars => exact View.get_setFrameLength (hs rfl) numChars c.alone
  | set9Bit enable => exact View.get_set9Bit (hs rfl) enable c.alone
  | _ => rfl

/-- A feature is seen as it was set. -/
theorem get_onView_self (hcard : d.card = .fscc) {f : Feature} {v : Value}
    (hsets : r.sets = some (f, v)) (hok : (r.perform d).1.ok = true) :
    (r.onView d.view).alone.get f.setting = some v := by
  cases r with
  | setSampleRate value =>
    cases hsets
    rfl
  | setTxTrigger value =>
    cases hsets
    obtain ⟨hother, hrange⟩ := accepted_txTrigger hok
    exact congrArg (Option.map Value.ulong)
      (CardView.trigger_setTrigger (c := d.view) hother hrange ttlOffset)
  | setRxTrigger value =>
    cases hsets
    obtain ⟨hother, hrange⟩ := accepted_rxTrigger hok
    exact congrArg (Option.map Value.ulong)
      (CardView.trigger_setTrigger (c := d.view) hother hrange rtlOffset)
  | setRs485 enable =>
    cases hsets
    have hother : d.view.kind ≠ .other := by
      rw [kind_view, hcard]
      nofun
    exact congrArg (Option.map Value.boolean) ((CardView.rs485_setRs485_iff enable).mpr hother)
  | setIsochronous mode =>
    cases hsets
    obtain ⟨hkind, hrange⟩ := accepted_isochronous hok
    exact congrArg (Option.map Value.long)
      (CardView.isochronous_setIsochronous (c := d.view) hkind hrange)
  | setExternalTransmit numFrames =>
    cases hsets
    obtain ⟨hkind, hrange⟩ := accepted_externalTransmit hok
    exact congrArg (Option.map Value.ulong)
      (CardView.externalTransmit_setExternalTransmit (c := d.view) hkind hrange)
  | setFrameLength numChars =>
    cases hsets
    obtain ⟨hkind, hrange, hfrev⟩ := accepted_frameLength hok
    exact congrArg (Option.map Value.ulong)
      (CardView.frameLength_setFrameLength (c := d.view) hkind hrange hfrev)
  | set9Bit enable =>
    cases hsets
    exact congrArg (Option.map Value.boolean)
      ((CardView.nineBit_set9Bit_iff (c := d.view) enable).mpr hcard)
  | get f => cases hsets
  | getTxFifoFill level => cases hsets
  | initTriggers => cases hsets

/-- **Values.** What is seen of a feature after a call: what it was set to, or what was seen. -/
theorem get_perform (hcard : d.card = .fscc) (hr : r ≠ .initTriggers) (f : Feature) :
    (∃ v, r.sets = some (f, v) ∧ (r.perform d).1.ok = true ∧
      (f.get (r.perform d).2).1 = some v) ∨
    ((∀ v, r.sets = some (f, v) → (r.perform d).1.ok = false) ∧
      (f.get (r.perform d).2).1 = (f.get d).1) := by
  cases hok : (r.perform d).1.ok with
  | false => exact .inr ⟨fun _ _ => rfl, by rw [perform_of_failed hcard hok]⟩
  | true =>
    have hview : (f.get (r.perform d).2).1 = (r.onView d.view).alone.get f.setting := by
      rw [(get_eq f _).1, view_perform hcard hr hok]
    by_cases hsets : ∃ v, r.sets = some (f, v)
    · obtain ⟨v, hv⟩ := hsets
      exact .inl ⟨v, hv, rfl, hview.trans (get_onView_self hcard hv hok)⟩
    · refine .inr ⟨fun v hv => absurd ⟨v, hv⟩ hsets, ?_⟩
      rw [hview, (get_eq f d).1]
      exact get_onView_other (c := d.view) hcard fun v hv => hsets ⟨v, hv⟩

/-- While bit 7 of ACR is set the address of MCR shows the level. -/
theorem fill_eq (hcard : d.card = .fscc) (level : UInt8) :
    (d.fastcomGetTxFifoFillFscc level).1 = level := by
  have hopen := windowed_open hcard
  have hshown := windowed_icrStore hopen acrOffset (d.acr ||| 0x80)
  have hset := has_withBits_self true 0x80 d.acr
  show readTfl ((d.writeReg .lcr 0).icrStore acrOffset (d.acr ||| 0x80)) level = level
  unfold readTfl
  rw [hshown.hidden, hopen.icrStore]
  show (if !false && has (Function.update d.hw.icr acrOffset (d.acr ||| 0x80) acrOffset) 0x80
    then level else _) = level
  rw [Function.update_self]
  exact if_pos hset

end FsccRoutine

namespace Port950

variable {p p' : Port950} {r : FsccRoutine}

open FsccRoutine

/-- **Step.** Every other routine leaves each feature as it was set last. -/
theorem current_step (h : p.Current) (hr : r ≠ .initTriggers) (hstep : p.step r = some p') :
    p'.Current := by
  cases hstep
  have hrestores := restores_perform h.card hr
  refine ⟨?_, ?_, fun f v hlast => ?_⟩
  · show (r.perform p.device).2.card = .fscc
    rw [card, hrestores.deviceId]
    exact h.card
  · show (r.perform p.device).2.hw.lcr ≠ 0xbf
    rw [hrestores.lcr]
    exact h.lcr
  -- The feature is the one that was set, or another one.
  show (f.get (r.perform p.device).2).1 = some v
  have hremember : p.remember r f = some v := hlast
  unfold remember at hremember
  obtain ⟨w, hsets, hok, hget⟩ | ⟨hfailed, hget⟩ := get_perform h.card hr f
  · rw [hsets] at hremember
    simp only [hok, if_true, Function.update_self] at hremember
    exact hget.trans hremember
  · rw [hget]
    refine h.last f v ?_
    cases hsets : r.sets with
    | none =>
      rw [hsets] at hremember
      exact hremember
    | some fv =>
      obtain ⟨g, w⟩ := fv
      rw [hsets] at hremember
      by_cases hg : f = g
      · subst hg
        simp only [hfailed w hsets] at hremember
        exact hremember
      · simp only at hremember
        split at hremember
        · rwa [Function.update_of_ne hg] at hremember
        · exact hremember

/-- The routine that initialises the triggers leaves LCR at 0xbf. -/
theorem not_keeps_initTriggers (h : p.Current) : ¬FsccRoutine.Keeps .initTriggers p := by
  intro hkeeps
  have hlcr : p.device.fastcomInitTriggers.hw.lcr = 0xbf := by
    unfold fastcomInitTriggers
    rw [h.card]
    show Hardware.lcr (Hardware.write _ _ .fcr 0x10) = 0xbf
    rfl
  exact h.lcr (hkeeps.lcr.symm.trans hlcr)

/-- **One call** does everything right if it does not initialise the triggers and ACR is in step
already, or written. -/
theorem keeps_perform (h : p.Current) :
    r.Keeps p ↔ r ≠ .initTriggers ∧ (p.device.AcrSynced ∨ r.writesAcr p.device = true) := by
  constructor
  · intro hkeeps
    have hr : r ≠ .initTriggers := by
      rintro rfl
      exact not_keeps_initTriggers h hkeeps
    exact ⟨hr, (restores_perform h.card hr).synced_iff.mp hkeeps.acr⟩
  · rintro ⟨hr, hsynced⟩
    have hrestores := restores_perform h.card hr
    refine ⟨fun f v _ hlast => h.last f v hlast, fun level _ => fill_eq h.card level,
      fun f hsets => ?_, hrestores.synced_iff.mpr hsynced, hrestores.lcr⟩
    obtain ⟨v, hv, -, -⟩ | ⟨-, hget⟩ := get_perform h.card hr f
    · exact absurd hv (hsets v)
    · exact hget

/-- **Run**, from a port whose ACR is in step. -/
theorem keeps_run {calls : List FsccRoutine} (h : p.Current) (hsynced : p.device.AcrSynced)
    (hcalls : .initTriggers ∉ calls) : RunMeets Port950.step FsccRoutine.Keeps calls p := by
  induction calls generalizing p with
  | nil => trivial
  | cons r calls ih =>
    obtain ⟨hr, hrest⟩ := List.ne_and_not_mem_of_not_mem_cons hcalls
    have hkeeps := (keeps_perform h).mpr ⟨Ne.symm hr, .inl hsynced⟩
    refine ⟨hkeeps, fun p' hstep => ?_⟩
    have hcurrent := current_step h (Ne.symm hr) hstep
    cases hstep
    exact ih hcurrent hkeeps.acr hrest

theorem notMem_of_keeps {calls : List FsccRoutine} (h : p.Current)
    (hrun : RunMeets Port950.step FsccRoutine.Keeps calls p) : .initTriggers ∉ calls := by
  induction calls generalizing p with
  | nil => exact List.not_mem_nil
  | cons r calls ih =>
    obtain ⟨hr, -⟩ := (keeps_perform h).mp hrun.1
    have hstep : p.step r = some ⟨(r.perform p.device).2, p.remember r⟩ := rfl
    exact List.not_mem_cons_of_ne_of_not_mem (Ne.symm hr)
      (ih (current_step h hr hstep) (hrun.2 _ hstep))

/-- **Register accesses of a FSCC port.** From any LCR but 0xbf, a sequence of calls gets what was
set, changes nothing else, keeps ACR in step and puts LCR back if and only if it does not initialise
the triggers; where ACR is out of step at the start, the first call has to be one that writes it. -/
theorem keeps_iff {d : Device} (hcard : d.card = .fscc) (hlcr : d.hw.lcr ≠ 0xbf)
    (calls : List FsccRoutine) :
    RunMeets Port950.step FsccRoutine.Keeps calls ⟨d, fun _ => none⟩ ↔
      .initTriggers ∉ calls ∧ (d.AcrSynced ∨ ∀ r ∈ calls.head?, r.writesAcr d = true) := by
  have hstart : Current ⟨d, fun _ => none⟩ := ⟨hcard, hlcr, nofun⟩
  cases calls with
  | nil => exact ⟨fun _ => ⟨List.not_mem_nil, .inr nofun⟩, fun _ => trivial⟩
  | cons r calls =>
    constructor
    · intro hrun
      refine ⟨notMem_of_keeps hstart hrun, ?_⟩
      obtain ⟨-, hsynced⟩ := (keeps_perform hstart).mp hrun.1
      refine hsynced.imp_right fun hwrites s hs => ?_
      cases hs
      exact hwrites
    · rintro ⟨hcalls, hsynced⟩
      obtain ⟨hr, hrest⟩ := List.ne_and_not_mem_of_not_mem_cons hcalls
      have hkeeps := (keeps_perform hstart).mpr
        ⟨Ne.symm hr, hsynced.imp_right fun hwrites => hwrites r rfl⟩
      refine ⟨hkeeps, fun p' hstep => ?_⟩
      have hcurrent := current_step hstart (Ne.symm hr) hstep
      cases hstep
      exact keeps_run hcurrent hkeeps.acr hrest

/-- A FSCC port that was opened. -/
def openedFscc : Device where
  hw := ⟨0x03, 0, 0x1a, 0x08, 0, 0x60, 0, 0x01, 0, fun _ => 0, 0, 0, 0, 0, 0, 0, 0, 0, 0, 0, 0, [],
    []⟩
  vstr := 0x20
  deviceId := 0x000f
  channel := 0
  fifoPresent := true
  rxFifoTrigger := 0xc0
  clockRate := 18432000
  sampleRate := 16
  txTrigger := 32
  rxTrigger := 32
  rs485 := false
  termination := false
  echoCancel := false
  isochronous := 0
  frameLength := 1
  nineBit := false
  fixedBaudRate := 0xffffffff
  currentBaud := 9600
  lineControl := 0x03
  acr := 0
  deviceIsOpened := true
  state := ⟨0, 0, 0, false⟩

theorem keeps_iff_openedFscc :
    RunMeets Port950.step FsccRoutine.Keeps
      [.setRs485 true, .setFrameLength 7, .getTxFifoFill 3, .get .rs485, .get .frameLength]
      ⟨openedFscc, fun _ => none⟩ :=
  (keeps_iff rfl (by decide) _).mpr ⟨by decide, .inl rfl⟩

/-- LCR was 0x03 and is 0xbf after one call. -/
theorem not_keeps_openedFscc :
    ¬RunMeets Port950.step FsccRoutine.Keeps [.initTriggers] ⟨openedFscc, fun _ => none⟩ := by
  intro hrun
  have hlcr : openedFscc.fastcomInitTriggers.hw.lcr = openedFscc.hw.lcr := hrun.1.lcr
  exact absurd hlcr (by decide)

end Port950

end SerialFc
