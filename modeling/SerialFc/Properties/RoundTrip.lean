import SerialFc.Properties.SettingLines
import SerialFc.Lib.Run

/-!
# Settings do not disturb each other

* `Spares` — a request leaves the pins and lines of another setting alone
* `shown_of_succeeds` — one that succeeds and spares a setting leaves it as it is read
* `fields_refused` — one that fails leaves all of them alone
* `setting_roundTrip` — when a setting is read back until the next request that changes it, and when
  the break bit stays
-/

namespace SerialFc

/-! ## Indexed registers -/

/-- The indexed registers of a 16C950 that a setting is read back from. -/
def Setting.registers : Setting → List UInt8
  | .txTrigger => [ttlOffset]
  | .rxTrigger => [rtlOffset]
  | .isochronous => [cksOffset]
  | .externalTransmit => [extOffset, exthOffset]
  | .frameLength => [flrOffset]
  | .nineBit => [nmrOffset]
  | _ => []

namespace View

variable {v : View} {s : Setting}

theorem get_setIcr {index : UInt8} (h : index ∉ s.registers) (value : UInt8) (v : View) :
    (v.onCard (·.setIcr index value)).get s = v.get s := by
  have hother {i : UInt8} (hi : i ∈ s.registers) :
      Function.update v.card.icr index value i = v.card.icr i :=
    Function.update_of_ne (ne_of_mem_of_not_mem hi h) _ _
  cases s with
  | txTrigger | rxTrigger =>
    unfold View.get onCard CardView.trigger CardView.kind CardView.setIcr
    dsimp only
    rw [hother (by decide)]
  | isochronous =>
    unfold View.get onCard CardView.isochronous CardView.kind CardView.setIcr
    dsimp only
    rw [hother (by decide)]
  | externalTransmit =>
    unfold View.get onCard CardView.externalTransmit CardView.kind CardView.setIcr
    dsimp only
    have hext : extOffset ∈ Setting.registers .externalTransmit := by decide
    have hexth : exthOffset ∈ Setting.registers .externalTransmit := by decide
    rw [hother hext, hother hexth]
  | frameLength =>
    unfold View.get onCard CardView.frameLength CardView.kind CardView.setIcr CardView.frev
    dsimp only
    rw [hother (by decide)]
  | nineBit =>
    unfold View.get onCard CardView.nineBit CardView.kind CardView.setIcr
    dsimp only
    rw [hother (by decide)]
  | _ => rfl

/-- Neither what is remembered nor the register is read for another setting. -/
theorem get_setSampleRate (hs : s ≠ .sampleRate) (value : UInt32) (v : View) :
    (v.onCard (·.setSampleRate value)).get s = v.get s := by
  have hremembered (c : CardView) :
      View.get { v with card := { c with sampleRate := value } } s =
        View.get { v with card := c } s := by
    cases s with
    | sampleRate => exact absurd rfl hs
    | _ => rfl
  refine (hremembered _).trans ?_
  split
  · exact get_setIcr (by cases s <;> decide) value.toUInt8 v
  · rfl

theorem get_setTrigger {index : UInt8} (h : index ∉ s.registers) (value : UInt32) (v : View) :
    (v.onCard (·.setTrigger index value)).get s = v.get s := by
  unfold CardView.setTrigger onCard
  dsimp only
  split
  · exact get_setIcr h value.toUInt8 v
  · rfl

theorem get_setTxTrigger (hs : s ≠ .txTrigger) (value : UInt32) (v : View) :
    (v.onCard (·.setTxTrigger value)).get s = v.get s := by
  have hremembered (c : CardView) :
      View.get { v with card := { c with txTrigger := value } } s =
        View.get { v with card := c } s := by
    cases s with
    | txTrigger => exact absurd rfl hs
    | _ => rfl
  have hindex : ttlOffset ∉ s.registers := by
    cases s with
    | txTrigger => exact absurd rfl hs
    | _ => decide
  exact (hremembered _).trans (get_setTrigger hindex value v)

theorem get_setRxTrigger (hs : s ≠ .rxTrigger) (value : UInt32) (v : View) :
    (v.onCard (·.setRxTrigger value)).get s = v.get s := by
  have hremembered (c : CardView) :
      View.get { v with card := { c with rxTrigger := value } } s =
        View.get { v with card := c } s := by
    cases s with
    | rxTrigger => exact absurd rfl hs
    | _ => rfl
  have hindex : rtlOffset ∉ s.registers := by
    cases s with
    | rxTrigger => exact absurd rfl hs
    | _ => decide
  exact (hremembered _).trans (get_setTrigger hindex value v)

/-- MDM is not read back. -/
theorem get_setIsochronous (hs : s ≠ .isochronous) (mode : Int) (v : View) :
    (v.onCard (·.setIsochronous mode)).get s = v.get s := by
  have hindex : cksOffset ∉ s.registers := by
    cases s with
    | isochronous => exact absurd rfl hs
    | _ => decide
  have hcks := get_setIcr hindex (newCks mode) (v.onCard (·.setIcr mdmOffset (newMdm mode)))
  exact hcks.trans (get_setIcr (by cases s <;> decide) (newMdm mode) v)

theorem get_setExternalTransmit (hs : s ≠ .externalTransmit) (numFrames : UInt32) (v : View) :
    (v.onCard (·.setExternalTransmit numFrames)).get s = v.get s := by
  have hindex : extOffset ∉ s.registers ∧ exthOffset ∉ s.registers := by
    cases s with
    | externalTransmit => exact absurd rfl hs
    | _ => decide
  have hext := get_setIcr hindex.1 numFrames.toUInt8
    (v.onCard (·.setIcr exthOffset (numFrames >>> 8).toUInt8))
  exact hext.trans (get_setIcr hindex.2 _ v)

theorem get_setFrameLength (hs : s ≠ .frameLength) (numChars : UInt32) (v : View) :
    (v.onCard (·.setFrameLength numChars)).get s = v.get s := by
  have hindex : flrOffset ∉ s.registers := by
    cases s with
    | frameLength => exact absurd rfl hs
    | _ => decide
  exact get_setIcr hindex (numChars.toUInt8 - 1) v

theorem get_set9Bit (hs : s ≠ .nineBit) (enable : Bool) (v : View) :
    (v.onCard (·.set9Bit enable)).get s = v.get s := by
  have hindex : nmrOffset ∉ s.registers := by
    cases s with
    | nineBit => exact absurd rfl hs
    | _ => decide
  unfold CardView.set9Bit onCard
  dsimp only
  generalize (if enable then 0x01 else 0x00 : UInt8) = value
  split
  · exact get_setIcr hindex value v
  · rfl

end View

/-! ## Pins that settings share a register for -/

namespace CardView

variable {c : CardView}

/-- The eighth pin is that of the fifth port. -/
theorem channelMask_disjoint (h : c.channel ≠ 4) : c.channelMask 0x8 &&& 0x80 = 0 := by
  unfold channelMask
  generalize c.channel = n at h
  by_cases hlt : n < 5
  · interval_cases n
    · decide
    · decide
    · decide
    · decide
    · exact absurd rfl h
  · obtain ⟨k, rfl⟩ := Nat.exists_eq_add_of_le (Nat.le_of_not_lt hlt)
    have hshift : 0x8 <<< (5 + k) = 2 ^ 8 * 2 ^ k := by
      rw [Nat.shiftLeft_eq, Nat.pow_add]
      omega
    have hzero : UInt8.ofNat (0x8 <<< (5 + k)) = 0 := by
      apply UInt8.toNat_inj.mp
      rw [hshift, UInt8.toNat_ofNat', Nat.mul_mod_right]
      rfl
    rw [hzero, UInt8.zero_and]

theorem pins_disjoint {p : Prop} [Decidable p] :
    (if p then (0x00400000 : UInt32) else 0x00040000) &&&
      (if p then 0x00100000 else 0x00010000) = 0 := by
  split <;> decide

end CardView

namespace View

variable {v : View} {s : Setting}

/-- The pin of RS-485 on the fifth port of a PCI card is that of echo cancel. -/
def Spares (s : Setting) (code : ConfigCode) (v : View) : Prop :=
  match s, code with
  | .echoCancel, .enableRs485 =>
    v.card.kind = .pci → v.card.channel = 4 → has v.card.mpiolvl 0x80 = false
  | .echoCancel, .disableRs485 =>
    v.card.kind = .pci → v.card.channel = 4 → has v.card.mpiolvl 0x80 = true
  | _, _ => True

theorem get_setRs485 (hs : s ≠ .rs485) {enable : Bool}
    (hspares : s = .echoCancel → v.card.kind = .pci → v.card.channel = 4 →
      has v.card.mpiolvl 0x80 = !enable) :
    (v.onCard (·.setRs485 enable)).get s = v.get s := by
  unfold CardView.setRs485 CardView.kind onCard
  dsimp only
  cases hkind : fastcomGetCardType v.card.deviceId with
  | pci =>
    cases s with
    | rs485 => exact absurd rfl hs
    | echoCancel =>
      unfold View.get CardView.echoCancel CardView.kind
      dsimp only
      rw [hkind]
      dsimp only
      -- on channel 4 the pin of RS485 is the one that echo cancel uses
      by_cases hfifth : v.card.channel = 4
      · have hmask : v.card.channelMask 0x8 = 0x80 := by
          unfold CardView.channelMask
          rw [hfifth]
          rfl
        rw [hmask, has_withBits_self, hspares rfl hkind hfifth]
        simp
      · have hdisjoint := CardView.channelMask_disjoint hfifth
        rw [has_withBits_of_disjoint hdisjoint]
    | termination =>
      unfold View.get CardView.termination CardView.kind
      dsimp only
      rw [hkind]
    | _ => rfl
  | pcie =>
    cases s with
    | rs485 => exact absurd rfl hs
    | _ => rfl
  | fscc =>
    cases s with
    | rs485 => exact absurd rfl hs
    | echoCancel =>
      unfold View.get CardView.echoCancel CardView.kind
      dsimp only
      rw [hkind]
      dsimp only
      rw [has32_withBits32_of_disjoint CardView.pins_disjoint]
    | _ => rfl
  | other => rfl

theorem get_setEchoCancel (hs : s ≠ .echoCancel) (enable : Bool) (v : View) :
    (v.onCard (·.setEchoCancel enable)).get s = v.get s := by
  unfold CardView.setEchoCancel CardView.kind onCard
  dsimp only
  cases hkind : fastcomGetCardType v.card.deviceId with
  | pci =>
    cases s with
    | echoCancel => exact absurd rfl hs
    | termination =>
      unfold View.get CardView.termination CardView.kind
      dsimp only
      rw [hkind]
    | _ => rfl
  | pcie =>
    cases s with
    | echoCancel => exact absurd rfl hs
    | _ => rfl
  | fscc =>
    cases s with
    | echoCancel => exact absurd rfl hs
    | rs485 =>
      unfold View.get CardView.rs485 CardView.kind
      dsimp only
      rw [hkind]
      dsimp only
      have hdisjoint := CardView.pins_disjoint (p := v.card.channel = 1)
      rw [UInt32.and_comm] at hdisjoint
      rw [has32_withBits32_of_disjoint hdisjoint]
    | _ => rfl
  | other => rfl

/-- Termination has a register of its own on the cards that have it. -/
theorem get_setTermination (hs : s ≠ .termination) (hcard : v.card.kind = .pcie) (enable : Bool) :
    (v.onCard (·.setTermination enable)).get s = v.get s := by
  cases s with
  | termination => exact absurd rfl hs
  | echoCancel =>
    have hkind : fastcomGetCardType v.card.deviceId = .pcie := hcard
    unfold View.get onCard CardView.setTermination CardView.echoCancel CardView.kind
    dsimp only
    rw [hkind]
    rfl
  | _ => rfl

/-- **The other settings.** A request that succeeds leaves them as they were. -/
theorem get_set_other {code : ConfigCode} {input : ControlInput} (hcode : code.setting ≠ some s)
    (hspares : v.Spares s code) (haccepts : v.Accepts code input) (shaken : HandFlow) :
    (v.set code input shaken).get s = v.get s := by
  have hs {t : Setting} (ht : code.setting = some t) : s ≠ t := fun heq => hcode (heq ▸ ht)
  cases code with
  | setSampleRate => exact get_setSampleRate (hs rfl) _ v
  | setTxTrigger => exact get_setTxTrigger (hs rfl) _ v
  | setRxTrigger => exact get_setRxTrigger (hs rfl) _ v
  | enableIsochronous | disableIsochronous => exact get_setIsochronous (hs rfl) _ v
  | enableExternalTransmit | disableExternalTransmit =>
    exact get_setExternalTransmit (hs rfl) _ v
  | setFrameLength => exact get_setFrameLength (hs rfl) _ v
  | enable9Bit | disable9Bit => exact get_set9Bit (hs rfl) _ v
  | enableRs485 | disableRs485 =>
    refine get_setRs485 (hs rfl) fun hecho => ?_
    subst hecho
    exact hspares
  | enableEchoCancel | disableEchoCancel => exact get_setEchoCancel (hs rfl) _ v
  | enableTermination | disableTermination => exact get_setTermination (hs rfl) haccepts _
  | setLineControl | setTimeouts | setChars | setHandFlow | setBaudRate | enableFixedBaudRate
  | disableFixedBaudRate =>
    cases s with
    | lineControl | timeouts | chars | handFlow | baudRate | fixedBaudRate =>
      first | rfl | exact absurd rfl (hs rfl)
    | _ => rfl
  | _ => rfl

end View

/-! ## Requests that fail -/

/-- The request is not one that is started or queued. -/
def Answer.Done {M : Type} : Answer M → Prop
  | .started _ => False
  | _ => True

namespace Machine

variable {U : Type}

open Answer

theorem done_ite {p : Prop} [Decidable p] {a b : Answer (Machine U)} (ha : Done a)
    (hb : Done b) : Done (if p then a else b) := by
  split
  · exact ha
  · exact hb

theorem done_withInput {m : Machine U} (size : Nat) (input : ControlInput)
    {k : Machine U → Answer (Machine U)} (h : Done (k m)) : Done (m.withInput size input k) :=
  done_ite trivial h

theorem done_withInput_succeed (size : Nat) (input : ControlInput) (f : Machine U → Machine U)
    (m : Machine U) : Done (m.withInput size input fun m => (f m).succeed) :=
  done_ite trivial trivial

theorem done_setBaudRate (stack : UInt16) (input : ControlInput) (m : Machine U) :
    Done (m.controlSetBaudRate stack input) := by
  unfold controlSetBaudRate
  dsimp only
  split
  · split <;> trivial
  · trivial

/-- Every setting, and LCR, can be told from these fields. -/
theorem same_of_fields {m m' : Machine U}
    (h : m'.ext.fields = m.ext.fields ∧ m'.eofChar = m.eofChar) :
    m'.view = m.view ∧ m'.device = m.device := by
  have hdevice : m'.device = m.device := congrArg (fun e => e.uart.device) h.1
  have htimeouts := congrArg (fun e => e.cfg.timeouts) h.1
  have hchars := congrArg (fun e => e.cfg.specialChars) h.1
  have hflow := congrArg (fun e => e.cfg.handFlow) h.1
  refine ⟨?_, hdevice⟩
  show View.mk m'.device.view m'.ext.fields.cfg.timeouts m'.ext.fields.cfg.specialChars m'.eofChar
    m'.ext.fields.cfg.handFlow = _
  rw [hdevice, h.1, h.2]
  rfl

variable [Uart U]

theorem done_setLineControl (input : ControlInput) (m : Machine U) :
    Done (m.controlSetLineControl input) := by
  unfold controlSetLineControl
  dsimp only
  split
  · trivial
  · split
    · trivial
    · split <;> trivial

theorem done_control {code : ConfigCode} (hcode : code.setting ≠ none) (input : ControlInput)
    (s : Surroundings) (m : Machine U) : Done (m.control code input s) := by
  cases code with
  | setFifoControl | setDtr | setRts | setXoff | setXon | setBreakOn | setBreakOff
  | setQueueSize | setWaitMask | setClockRate | setClockBits => exact absurd rfl hcode
  | setBaudRate => exact done_withInput _ _ (done_setBaudRate _ _ m)
  | setLineControl => exact done_withInput _ _ (done_setLineControl _ m)
  | setTimeouts | setChars | setHandFlow =>
    exact done_withInput _ _ (done_ite trivial trivial)
  | setModemControl | enableFixedBaudRate => exact done_withInput_succeed _ _ _ m
  | setSampleRate | setTxTrigger | setRxTrigger | enableIsochronous | enableExternalTransmit
  | setFrameLength =>
    refine done_withInput _ _ ?_
    exact trivial
  | _ => trivial

/-- Only fields of WMI are set before the last check. -/
theorem fields_refused_lineControl {input : ControlInput} {m m' : Machine U}
    {status : ControlStatus} (hfail : status.ok = false)
    (h : m.controlSetLineControl input = .completed status m') :
    m'.ext = m.ext ∧ m'.eofChar = m.eofChar := by
  unfold controlSetLineControl at h
  dsimp only at h
  split at h
  · cases h
    exact ⟨rfl, rfl⟩
  · split at h
    · cases h
      exact ⟨rfl, rfl⟩
    · split at h
      · cases h
        exact ⟨rfl, rfl⟩
      · cases h
        cases hfail

/-- A request that is refused changes no field but those of WMI. -/
theorem fields_refused {code : ConfigCode} {input : ControlInput} {s : Surroundings}
    {m m' : Machine U} {status : ControlStatus} (hfail : status.ok = false)
    (h : m.control code input s = .completed status m') :
    m'.ext.fields = m.ext.fields ∧ m'.eofChar = m.eofChar := by
  by_cases hcode : code = .setLineControl
  · rw [hcode] at h
    have hline : m.withInput 3 input (controlSetLineControl input) = .completed status m' := h
    unfold withInput at hline
    split at hline
    · cases hline
      exact ⟨rfl, rfl⟩
    · obtain ⟨hext, heof⟩ := fields_refused_lineControl hfail hline
      exact ⟨congrArg Extension.fields hext, heof⟩
  · have hatomic := atomic_control hcode input s m
    rw [h] at hatomic
    have hfields := hatomic hfail
    have hext := congrArg Machine.ext hfields
    have heof := congrArg Machine.eofChar hfields
    exact ⟨hext, heof⟩

/-! ## Sequences of requests -/

theorem evtIoDeviceControl_of_ok {code : ConfigCode} {input : ControlInput} {s : Surroundings}
    {m m' : Machine U} {status : ControlStatus} (hok : status.ok = true)
    (h : m.serialEvtIoDeviceControl code input s = .completed status m') :
    m.control code input s = .completed status m' := by
  unfold serialEvtIoDeviceControl at h
  split at h
  · cases h
    cases hok
  · split at h
    · cases h
      cases hok
    · exact h

theorem same_of_fails {code : ConfigCode} {input : ControlInput} {s : Surroundings}
    {m m' : Machine U} {status : ControlStatus} (hfail : status.ok = false)
    (h : m.serialEvtIoDeviceControl code input s = .completed status m') :
    m'.view = m.view ∧ m'.device = m.device := by
  unfold serialEvtIoDeviceControl at h
  split at h
  · cases h
    exact ⟨rfl, rfl⟩
  · split at h
    · cases h
      exact ⟨rfl, rfl⟩
    · exact same_of_fields (fields_refused hfail h)

theorem done_evtIoDeviceControl {code : ConfigCode} (hcode : code.setting ≠ none)
    (input : ControlInput) (s : Surroundings) (m : Machine U) :
    Done (m.serialEvtIoDeviceControl code input s) :=
  done_ite trivial (done_ite trivial (done_control hcode input s m))

theorem view_of_succeeds {code : ConfigCode} (hcode : code.setting ≠ none) {input : ControlInput}
    {s : Surroundings} {m m' : Machine U} (h : m.Succeeds code input s m') :
    m.view.Accepts code input ∧
      m'.view = m.view.set code input (m.ext.handFlowForCard (handFlowAt input)) := by
  obtain ⟨status, hok, hcompleted⟩ := h
  exact view_control hcode hok (evtIoDeviceControl_of_ok hok hcompleted)

/-- A request for a change either leaves everything alone or succeeds. -/
theorem exchange_change {code : ConfigCode} {input : ControlInput} {s : Surroundings}
    {m m' : Machine U} (h : m.exchange (.change code input s) = some m') :
    code.setting ≠ none ∧
      ((m'.view = m.view ∧ m'.device = m.device) ∨ m.Succeeds code input s m') := by
  unfold exchange at h
  obtain ⟨hcode, hanswer⟩ := Option.ite_none_left_eq_some.mp h
  refine ⟨hcode, ?_⟩
  have hdone := done_evtIoDeviceControl hcode input s m
  cases hcompleted : m.serialEvtIoDeviceControl code input s with
  | completed status next =>
    rw [hcompleted] at hanswer
    obtain rfl := Option.some.inj hanswer
    cases hok : status.ok with
    | false => exact .inl (same_of_fails hok hcompleted)
    | true => exact .inr ⟨status, hok, hcompleted⟩
  | started next =>
    rw [hcompleted] at hdone
    exact hdone.elim
  | fault =>
    rw [hcompleted] at hanswer
    cases hanswer

theorem same_evtIoDeviceControlGet (s : Setting) (m : Machine U) :
    (m.serialEvtIoDeviceControlGet s).2.view = m.view ∧
      m.device.SameLines True (m.serialEvtIoDeviceControlGet s).2.device := by
  unfold serialEvtIoDeviceControlGet
  split
  · exact ⟨rfl, .refl _⟩
  · split
    · exact ⟨rfl, .refl _⟩
    · exact ⟨view_getControl s m, sameLines_getControl s m⟩

/-! ## The setting -/

omit [Uart U] in
/-- A setting is told from the view and from MCR. -/
theorem shown_congr {s : Setting} {m m' : Machine U} (hview : m'.view.get s = m.view.get s)
    (hmcr : s = .modemControl → m'.device.readReg .mcr = m.device.readReg .mcr) :
    m'.shown s = m.shown s := by
  unfold shown
  split
  · next hs => rw [hmcr hs]
  · exact hview

/-- A request that changes another setting leaves this one as it is read. -/
def Spares (s : Setting) : Exchange → Machine U → Prop
  | .change code input _, m =>
    m.view.Spares s code ∧ (s = .modemControl → m.SparesMcr code input)
  | .read _, _ => True

/-- MCR is read as before, whichever request it is. -/
theorem readMcr_of_succeeds {code : ConfigCode} (hcode : code.setting ≠ none)
    (hother : code ≠ .setModemControl) {input : ControlInput} {s : Surroundings} {m m' : Machine U}
    (h : m.Succeeds code input s m') (hspares : m.SparesMcr code input) :
    m'.device.readReg .mcr = m.device.readReg .mcr := by
  obtain ⟨status, hok, hcompleted⟩ := h
  have hcontrol := evtIoDeviceControl_of_ok hok hcompleted
  by_cases hline : code = .setLineControl
  · subst hline
    exact (lines_setLineControl hok (completed_withInput hok hcontrol)).readMcr hspares
  · have hlines : m.device.SameLines True m'.device :=
      sameLines_control hcode hline hok hcontrol fun _ => ⟨hother, hspares⟩
    exact hlines.readReg_mcr

/-- **The other settings.** A request that succeeds and spares a setting leaves it as it is read. -/
theorem shown_of_succeeds {code : ConfigCode} {s : Setting} (hcode : code.setting ≠ none)
    (hother : code.setting ≠ some s) {input : ControlInput} {surroundings : Surroundings}
    {m m' : Machine U} (h : m.Succeeds code input surroundings m')
    (hspares : m.Spares s (.change code input surroundings)) : m'.shown s = m.shown s := by
  obtain ⟨haccepts, hview⟩ := view_of_succeeds hcode h
  refine shown_congr ?_ fun hs => ?_
  · rw [hview]
    exact View.get_set_other hother hspares.1 haccepts _
  · have hcontrol : code ≠ .setModemControl := by
      rintro rfl
      exact hother (congrArg some hs.symm)
    exact readMcr_of_succeeds hcode hcontrol h (hspares.2 hs)

/-- One request that does not change the setting. -/
theorem shown_exchange {s : Setting} {e : Exchange} {m m' : Machine U}
    (hstep : m.exchange e = some m') (hother : ¬m.Changes s e) (hspares : m.Spares s e) :
    m'.shown s = m.shown s := by
  cases e with
  | read t =>
    obtain rfl := Option.some.inj hstep
    obtain ⟨hview, hlines⟩ := same_evtIoDeviceControlGet t m
    exact shown_congr (congrArg (View.get · s) hview) fun _ => hlines.readReg_mcr
  | change code input surroundings =>
    obtain ⟨hcode, ⟨hview, hdevice⟩ | hsucceeds⟩ := exchange_change hstep
    · refine shown_congr (congrArg (View.get · s) hview) fun _ => ?_
      rw [hdevice]
    · have hne : code.setting ≠ some s := fun hset => hother ⟨hset, m', hsucceeds⟩
      exact shown_of_succeeds hcode hne hsucceeds hspares

/-- A request that succeeds, and what is read of its own setting afterwards. -/
theorem shown_iff {s : Setting} {code : ConfigCode} (hcode : code.setting = some s)
    {input : ControlInput} {surroundings : Surroundings} {m m' : Machine U}
    (hback : m.ReadsBack s) (h : m.Succeeds code input surroundings m') :
    m'.shown s = some (m.valueSet code input) ↔ m.Settles code input := by
  have hsome : code.setting ≠ none := by
    rw [hcode]
    exact Option.some_ne_none s
  by_cases hs : s = .modemControl
  · subst hs
    obtain rfl : code = .setModemControl := by
      cases code <;> first | rfl | cases hcode
    obtain ⟨status, hok, hcompleted⟩ := h
    have hcontrol := evtIoDeviceControl_of_ok hok hcompleted
    have hset := completed_always (f := mapExt (·.writeReg .mcr input.address.toUInt8)) hok hcontrol
    have hread : m'.device.readReg .mcr =
        if m.device.hw.hidden m.device.card then 0 else input.address.toUInt8 := by
      rw [hset]
      exact Device.readReg_writeMcr _ m.device
    show some (Value.ulong (m'.device.readReg .mcr).toUInt32) =
      some (Value.ulong (input.ulongAt 0)) ↔ _
    rw [hread, Option.some_inj, Value.ulong.injEq, apply_ite UInt8.toUInt32]
    rfl
  · obtain ⟨haccepts, hview⟩ := view_of_succeeds hsome h
    unfold shown
    rw [if_neg hs, hview]
    exact get_set_iff hcode hs hback haccepts

/-! ## The break -/

/-- LCR has the break bit of `Extension->LineControl`. -/
def BreakShown (m : Machine U) : Prop :=
  m.device.hw.lcr &&& lcrBreak = m.device.lineControl &&& lcrBreak

/-- A request that sets the line control finds the break bit as it will write it. -/
def KeepsBreak : Exchange → Machine U → Prop
  | .change code _ _, m => code = .setLineControl → m.BreakShown
  | .read _, _ => True

/-- The break bit stays unless a line control is set that does not know of it. -/
theorem break_iff {code : ConfigCode} (hcode : code.setting ≠ none) {input : ControlInput}
    {s : Surroundings} {m m' : Machine U} (h : m.Succeeds code input s m') :
    m'.device.hw.lcr &&& lcrBreak = m.device.hw.lcr &&& lcrBreak ↔
      (code = .setLineControl → m.BreakShown) := by
  obtain ⟨status, hok, hcompleted⟩ := h
  have hcontrol := evtIoDeviceControl_of_ok hok hcompleted
  by_cases hline : code = .setLineControl
  · subst hline
    rw [(lines_setLineControl hok (completed_withInput hok hcontrol)).brk]
    exact ⟨fun heq _ => heq.symm, fun hshown => (hshown rfl).symm⟩
  · have hlines : m.device.SameLines False m'.device :=
      sameLines_control hcode hline hok hcontrol False.elim
    rw [hlines.lcr]
    exact iff_of_true rfl fun heq => absurd heq hline

theorem break_exchange {e : Exchange} {m m' : Machine U} (hstep : m.exchange e = some m')
    (hkeeps : m.KeepsBreak e) :
    m'.device.hw.lcr &&& lcrBreak = m.device.hw.lcr &&& lcrBreak := by
  cases e with
  | read t =>
    obtain rfl := Option.some.inj hstep
    rw [(same_evtIoDeviceControlGet t m).2.lcr]
  | change code input surroundings =>
    obtain ⟨hcode, ⟨-, hdevice⟩ | hsucceeds⟩ := exchange_change hstep
    · rw [hdevice]
    · exact (break_iff hcode hsucceeds).mpr hkeeps

/-! ## Any number of requests -/

/-- **Round trip.** A request has succeeded, and other requests follow. If none of them changes the
setting again and each spares it, the setting is read back as it was set exactly if the request
settled it. If none of them ends a break, the break bit is what it was exactly if the request did
not end one. -/
theorem setting_roundTrip {s : Setting} {code : ConfigCode} {input : ControlInput}
    {surroundings : Surroundings} {requests : List Exchange} {m m₁ m' : Machine U}
    (hcode : code.setting = some s) (hset : m.Succeeds code input surroundings m₁)
    (hrun : Lib.run exchange requests m₁ = some m') :
    (m.ReadsBack s → Lib.RunMeets exchange (fun e m => ¬m.Changes s e ∧ m.Spares s e) requests m₁ →
      m'.Reaches → m'.ReadsBack s →
        ((m'.serialEvtIoDeviceControlGet s).1 = some (m.valueSet code input) ↔
          m.Settles code input)) ∧
    (Lib.RunMeets exchange (fun e m => m.KeepsBreak e) requests m₁ →
      (m'.device.hw.lcr &&& lcrBreak = m.device.hw.lcr &&& lcrBreak ↔
        (code = .setLineControl → m.BreakShown))) := by
  refine ⟨fun hback hmeets hreaches hlater => ?_, fun hmeets => ?_⟩
  · have hstep (e : Exchange) (a b : Machine U) (hexchange : exchange e a = some b)
        (hkeeps : ¬a.Changes s e ∧ a.Spares s e) (ha : a.shown s = m₁.shown s) :
        b.shown s = m₁.shown s :=
      (shown_exchange hexchange hkeeps.1 hkeeps.2).trans ha
    have hlast := Lib.run_invariant_of_meets hstep hrun hmeets rfl
    have hget : (m'.serialEvtIoDeviceControlGet s).1 = m'.shown s := by
      unfold serialEvtIoDeviceControlGet
      rw [hreaches.1, hreaches.2]
      exact getControl_eq hlater
    rw [hget, hlast]
    exact shown_iff hcode hback hset
  · have hstep (e : Exchange) (a b : Machine U) (hexchange : exchange e a = some b)
        (hkeeps : a.KeepsBreak e)
        (ha : a.device.hw.lcr &&& lcrBreak = m₁.device.hw.lcr &&& lcrBreak) :
        b.device.hw.lcr &&& lcrBreak = m₁.device.hw.lcr &&& lcrBreak :=
      (break_exchange hexchange hkeeps).trans ha
    have hlast := Lib.run_invariant_of_meets hstep hrun hmeets rfl
    rw [hlast]
    have hsome : code.setting ≠ none := by
      rw [hcode]
      exact Option.some_ne_none s
    exact break_iff hsome hset

theorem not_changes {code : ConfigCode} {s : Setting} (h : code.setting ≠ some s)
    (input : ControlInput) (surroundings : Surroundings) (m : Machine U) :
    ¬m.Changes s (.change code input surroundings) := fun hchanges => h hchanges.1

/-- On a PCIe card a modem control word whose buffer lies at an address that ends in it, with RS-485
and the termination set after it. -/
theorem setting_roundTrip_modemControl : ∃ m₁ m' : Machine Chip,
    sevenBits.Succeeds .setModemControl ⟨[7, 0, 0, 0], 7⟩ ⟨0, true⟩ m₁ ∧
      Lib.run exchange [.change .enableRs485 ⟨[], 0⟩ ⟨0, true⟩,
        .change .disableTermination ⟨[], 0⟩ ⟨0, true⟩] m₁ = some m' ∧
      (m'.serialEvtIoDeviceControlGet .modemControl).1 = some (.ulong 7) ∧
      m'.device.hw.lcr &&& lcrBreak = sevenBits.device.hw.lcr &&& lcrBreak := by
  have hset : sevenBits.Succeeds .setModemControl ⟨[7, 0, 0, 0], 7⟩ ⟨0, true⟩
      (sevenBits.mapExt (·.writeReg .mcr 7)) := ⟨_, rfl, rfl⟩
  have hback (m : Machine Chip) : m.ReadsBack .modemControl := nofun
  have hread (m' : Machine Chip)
      (hrun : Lib.run exchange [.change .enableRs485 ⟨[], 0⟩ ⟨0, true⟩,
        .change .disableTermination ⟨[], 0⟩ ⟨0, true⟩]
        (sevenBits.mapExt (·.writeReg .mcr 7)) = some m')
      (hreaches : m'.Reaches) :
      (m'.serialEvtIoDeviceControlGet .modemControl).1 = some (.ulong 7) ∧
        m'.device.hw.lcr &&& lcrBreak = sevenBits.device.hw.lcr &&& lcrBreak := by
    obtain ⟨hvalue, hbreak⟩ := setting_roundTrip rfl hset hrun
    refine ⟨(hvalue (hback _) ⟨⟨?_, ?_⟩, ?_⟩ hreaches (hback m')).mpr rfl,
      (hbreak ⟨nofun, fun _ _ => ⟨nofun, fun _ _ => trivial⟩⟩).mpr nofun⟩
    · exact not_changes (by decide) _ _ _
    · exact ⟨trivial, fun _ => ⟨by decide, by decide⟩⟩
    · intro m₂ _
      exact ⟨⟨not_changes (by decide) _ _ _, trivial, fun _ => trivial⟩, fun _ _ => trivial⟩
  obtain ⟨hvalue, hbreak⟩ := hread _ rfl ⟨rfl, rfl⟩
  exact ⟨_, _, hset, rfl, hvalue, hbreak⟩

/-- Without conditions: what is set is read back after any requests that do not change it. -/
def RoundTrips (s : Setting) (code : ConfigCode) (input : ControlInput)
    (surroundings : Surroundings) (requests : List Exchange) (m : Machine U) : Prop :=
  ∀ m₁ m', m.Succeeds code input surroundings m₁ → Lib.run exchange requests m₁ = some m' →
    Lib.RunMeets exchange (fun e m => ¬m.Changes s e) requests m₁ →
      (m'.serialEvtIoDeviceControlGet s).1 = some (m.valueSet code input)

/-- The buffer has 3, and 0x10 at the end of its address is what MCR gets. -/
theorem not_roundTrips_modemControl :
    ¬ sevenBits.RoundTrips .modemControl .setModemControl ⟨[3, 0, 0, 0], 0xffffe00112345010⟩
      ⟨0, true⟩ [] := by
  intro h
  have hread := h _ _ ⟨_, rfl, rfl⟩ rfl trivial
  have hsame : some (Value.ulong 0x10) = some (Value.ulong 3) := hread
  exact absurd hsame (by decide)

end Machine

end SerialFc
