import SerialFc.Properties.SettingChange
import SerialFc.Properties.RejectedRequests

/-!
# What a request for a setting does when it succeeds

* `Accepts` — what a routine of the card has checked when it succeeds
* `view_control` — a request that succeeds changes the view as `View.set` says
-/

namespace SerialFc

/-! ## What was checked -/

namespace Device

variable {d : Device}

/-- The check that would have refused the request has been passed. -/
theorem not_of_ok {p : Prop} [Decidable p] {result : SettingStatus × Device}
    {status : SettingStatus} (hstatus : status.ok = false)
    (h : (if p then (status, d) else result).1.ok = true) : ¬p := by
  intro hp
  rw [if_pos hp, hstatus] at h
  cases h

/-- What each routine of the card checks before it succeeds. -/
theorem accepted_txTrigger {value : UInt32} (h : (d.fastcomSetTxTrigger value).1.ok = true) :
    d.card ≠ .other ∧ (d.card = .fscc → ¬value > 127) := by
  unfold fastcomSetTxTrigger at h
  cases hcard : d.card with
  | pci | pcie => exact ⟨nofun, nofun⟩
  | fscc =>
    rw [hcard] at h
    exact ⟨nofun, fun _ => not_of_ok (p := value > 127) rfl h⟩
  | other =>
    rw [hcard] at h
    cases h

theorem accepted_rxTrigger {value : UInt32} (h : (d.fastcomSetRxTrigger value).1.ok = true) :
    d.card ≠ .other ∧ (d.card = .fscc → ¬value > 127) := by
  unfold fastcomSetRxTrigger at h
  cases hcard : d.card with
  | pci | pcie => exact ⟨nofun, nofun⟩
  | fscc =>
    rw [hcard] at h
    exact ⟨nofun, fun _ => not_of_ok (p := value > 127) rfl h⟩
  | other =>
    rw [hcard] at h
    cases h

theorem accepted_termination {enable : Bool} (h : (d.fastcomSetTermination enable).1.ok = true) :
    d.card = .pcie := by
  unfold fastcomSetTermination at h
  cases hcard : d.card with
  | pcie => rfl
  | pci | fscc | other =>
    rw [hcard] at h
    cases h

theorem accepted_isochronous {mode : Int} (h : (d.fastcomSetIsochronous mode).1.ok = true) :
    d.card = .fscc ∧ ¬(mode > 10 ∨ mode < -1) := by
  unfold fastcomSetIsochronous at h
  cases hcard : d.card with
  | fscc =>
    rw [hcard] at h
    dsimp only at h
    unfold fastcomSetIsochronousFscc at h
    exact ⟨rfl, not_of_ok rfl h⟩
  | pci | pcie | other =>
    rw [hcard] at h
    dsimp only at h
    cases h

theorem accepted_externalTransmit {numFrames : UInt32}
    (h : (d.fastcomSetExternalTransmit numFrames).1.ok = true) :
    d.card = .fscc ∧ ¬numFrames > 8191 := by
  unfold fastcomSetExternalTransmit at h
  cases hcard : d.card with
  | fscc =>
    rw [hcard] at h
    exact ⟨rfl, not_of_ok (p := numFrames > 8191) rfl h⟩
  | pci | pcie | other =>
    rw [hcard] at h
    cases h

theorem accepted_frameLength {numChars : UInt32}
    (h : (d.fastcomSetFrameLength numChars).1.ok = true) :
    d.card = .fscc ∧ ¬(numChars = 0 ∨ numChars > 256) ∧ ¬d.fsccGetFrev < 0x20 := by
  unfold fastcomSetFrameLength at h
  cases hcard : d.card with
  | fscc =>
    rw [hcard] at h
    dsimp only at h
    unfold fastcomSetFrameLengthFscc at h
    have hrange := not_of_ok rfl h
    rw [if_neg hrange] at h
    exact ⟨rfl, hrange, not_of_ok rfl h⟩
  | pci | pcie | other =>
    rw [hcard] at h
    dsimp only at h
    cases h

end Device

namespace Device

variable {d d' : Device}

/-- The divisor is not in the view. -/
theorem view_writeDivisorLatch (divisor : UInt16) (d : Device) :
    (d.writeDivisorLatch divisor).view = d.view := rfl

theorem view_pcieSetBaudRate {value : UInt32} {result : SettingStatus × Device}
    (h : d.pcieSetBaudRate value = some result) : result.2.view = d.view := by
  unfold pcieSetBaudRate at h
  split at h
  · cases h
  · split at h
    · rw [← Option.some.inj h]
    · split at h
      · cases h
      · rw [← Option.some.inj h]
        dsimp only
        rw [view_writeReg (by decide), view_writeReg (by decide), view_writeReg (by decide),
          view_writeReg (by decide), view_writeReg (by decide)]

/-- The divisor latch is not in the view. -/
theorem view_serialSetBaud {divisor : UInt16} (h : d.serialSetBaud divisor = some d') :
    d'.view = d.view := by
  unfold serialSetBaud at h
  dsimp only at h
  split at h
  · obtain ⟨result, hresult, rfl⟩ := Option.map_eq_some_iff.mp h
    exact (view_pcieSetBaudRate hresult).trans (view_writeDivisorLatch _ _)
  · rw [← Option.some.inj h]
    exact view_writeDivisorLatch _ _

end Device

namespace View

/-- What the values that are not refused have in common. -/
def Accepts (code : ConfigCode) (input : ControlInput) (v : View) : Prop :=
  match code with
  | .setLineControl => (lineBits input).isSome = true
  | .setTxTrigger | .setRxTrigger =>
    v.card.kind ≠ .other ∧ (v.card.kind = .fscc → ¬input.ulongAt 0 > 127)
  | .enableTermination | .disableTermination => v.card.kind = .pcie
  | .enableIsochronous =>
    v.card.kind = .fscc ∧
      ¬(Device.toLong (input.ulongAt 0) > 10 ∨ Device.toLong (input.ulongAt 0) < -1)
  | .disableIsochronous | .disableExternalTransmit => v.card.kind = .fscc
  | .enableExternalTransmit => v.card.kind = .fscc ∧ ¬input.ulongAt 0 > 8191
  | .setFrameLength =>
    v.card.kind = .fscc ∧ ¬(input.ulongAt 0 = 0 ∨ input.ulongAt 0 > 256) ∧ ¬v.card.frev < 0x20
  | _ => True

end View

/-! ## A request that succeeds -/

namespace Machine

variable {U : Type} {m m' : Machine U} {status : ControlStatus}

/-- The buffer was long enough. -/
theorem completed_withInput {size : Nat} {input : ControlInput}
    {k : Machine U → Answer (Machine U)} (hok : status.ok = true)
    (h : m.withInput size input k = .completed status m') : k m = .completed status m' := by
  unfold withInput at h
  split at h
  · cases h
    cases hok
  · exact h

/-- The status of the routine is that of the request. -/
theorem completed_setting {result : SettingStatus × Device} (hok : status.ok = true)
    (h : m.setting result = .completed status m') :
    result.1.ok = true ∧ m' = m.setDevice result.2 := by
  cases h
  exact ⟨hok, rfl⟩

/-- The request succeeds whatever the routine has answered. -/
theorem completed_succeed {m₁ : Machine U} (h : m₁.succeed = .completed status m') : m' = m₁ := by
  cases h
  rfl

/-- The same for a request with input. -/
theorem completed_always {size : Nat} {input : ControlInput} {f : Machine U → Machine U}
    (hok : status.ok = true)
    (h : m.withInput size input (fun m => (f m).succeed) = .completed status m') : m' = f m := by
  have hset : (f m).succeed = .completed status m' :=
    completed_withInput (k := fun m => (f m).succeed) hok h
  exact completed_succeed hset

/-- The value has been accepted. -/
theorem completed_unless {p : Prop} [Decidable p] {m₁ : Machine U} (hok : status.ok = true)
    (h : (if p then m.refuse .invalidParameter else m₁.succeed) = .completed status m') :
    m' = m₁ := by
  split at h
  · cases h
    cases hok
  · exact completed_succeed h

/-- A routine of the card: what it checked, and what becomes of the view. -/
theorem set_of_setting {result : SettingStatus × Device} {card : CardView} {p : Prop}
    (hok : status.ok = true) (h : m.setting result = .completed status m')
    (haccepts : result.1.ok = true → p) (hview : result.1.ok = true → result.2.view = card) :
    p ∧ m'.view = { m.view with card := card } := by
  obtain ⟨hresult, rfl⟩ := completed_setting hok h
  refine ⟨haccepts hresult, ?_⟩
  rw [← hview hresult]
  rfl

/-- One that always succeeds. -/
theorem set_of_succeed {d : Device} {card : CardView}
    (h : (m.setDevice d).succeed = .completed status m') (hview : d.view = card) :
    m'.view = { m.view with card := card } := by
  rw [completed_succeed h, ← hview]
  rfl

/-- The baud rate is remembered as it came. -/
theorem set_baudRate {stack : UInt16} {input : ControlInput} (hok : status.ok = true)
    (h : m.controlSetBaudRate stack input = .completed status m') (shaken : HandFlow) :
    m'.view = m.view.set .setBaudRate input shaken := by
  unfold controlSetBaudRate at h
  dsimp only at h
  split at h
  · split at h
    · cases h
    · next d hset =>
      cases h
      have hview := Device.view_serialSetBaud hset
      show View.mk d.view _ _ _ _ = _
      rw [hview]
      rfl
  · cases h
    next hfail => exact absurd hok hfail

section

variable [Uart U]

/-- All three fields were accepted. -/
theorem completed_setLineControl {input : ControlInput} (hok : status.ok = true)
    (h : m.controlSetLineControl input = .completed status m') :
    ∃ bits wmi mask, lineBits input = some bits ∧
      m' = ((({ m with wmi := wmi }).setDevice { m.device with
        lineControl := (m.device.lineControl &&& lcrBreak) ||| bits }).mapExt fun e =>
          { e with cfg := { e.cfg with validDataMask := mask } }).serialSetLineControl := by
  unfold controlSetLineControl at h
  dsimp only at h
  cases hword : LineControl.wordLength (input.byteAt 2) with
  | none =>
    rw [hword] at h
    cases h
    cases hok
  | some lengths =>
    obtain ⟨data, mask⟩ := lengths
    rw [hword] at h
    cases hparity : LineControl.parity (input.byteAt 1) with
    | none =>
      rw [hparity] at h
      cases h
      cases hok
    | some parities =>
      obtain ⟨wmiParity, parityBits⟩ := parities
      rw [hparity] at h
      cases hstop : LineControl.stopBits data (input.byteAt 0) with
      | none =>
        dsimp only at h
        rw [hstop] at h
        cases h
        cases hok
      | some stops =>
        obtain ⟨wmiStop, stop⟩ := stops
        dsimp only at h
        rw [hstop] at h
        have hbits : lineBits input = some (data ||| parityBits ||| stop) := by
          rw [lineBits, LineControl.lineControlBits, hword, hparity]
          dsimp only
          rw [hstop]
          rfl
        exact ⟨_, _, mask, hbits, completed_succeed h⟩

/-- Only the break bit of the old line control stays. -/
theorem set_lineControl {input : ControlInput} (hok : status.ok = true)
    (h : m.controlSetLineControl input = .completed status m') (shaken : HandFlow) :
    m.view.Accepts .setLineControl input ∧
      m'.view = m.view.set .setLineControl input shaken := by
  obtain ⟨bits, wmi, mask, hbits, rfl⟩ := completed_setLineControl hok h
  refine ⟨?_, ?_⟩
  · show (lineBits input).isSome = true
    rw [hbits]
    rfl
  · show _ = m.view.onCard fun c =>
      { c with lineControl := (c.lineControl &&& lcrBreak) ||| (lineBits input).getD 0 }
    rw [hbits]
    rfl

/-- The handshake is remembered as the card allows it. -/
theorem set_handFlow {input : ControlInput} (hok : status.ok = true)
    (h : m.controlSetHandFlow input = .completed status m') :
    m'.view =
      m.view.set .setHandFlow input (m.ext.handFlowForCard (handFlowAt input)) := by
  rw [completed_unless hok h]
  have hkeeps := keepsView_flowRule.serialSetHandFlow (handFlowAt input) m.ext
  have hnew := handFlow_serialSetHandFlow (handFlowAt input) m.ext
  show View.mk (m.ext.serialSetHandFlow (handFlowAt input)).uart.device.view
    (m.ext.serialSetHandFlow (handFlowAt input)).cfg.timeouts
    (m.ext.serialSetHandFlow (handFlowAt input)).cfg.specialChars m.eofChar
    (m.ext.serialSetHandFlow (handFlowAt input)).handFlow = _
  rw [hkeeps.1, hnew]
  have htimeouts : (m.ext.serialSetHandFlow (handFlowAt input)).cfg.timeouts =
      m.ext.cfg.timeouts := by
    have hsame := congrArg Config.timeouts hkeeps.2
    exact hsame
  have hchars : (m.ext.serialSetHandFlow (handFlowAt input)).cfg.specialChars =
      m.ext.cfg.specialChars := by
    have hsame := congrArg Config.specialChars hkeeps.2
    exact hsame
  rw [htimeouts, hchars]
  rfl

/-- **A request that succeeds** has made its checks, and changes the view as `View.set` says. -/
theorem view_control {code : ConfigCode} (hcode : code.setting ≠ none) {input : ControlInput}
    {s : Surroundings} (hok : status.ok = true)
    (h : m.control code input s = .completed status m') :
    m.view.Accepts code input ∧
      m'.view = m.view.set code input (m.ext.handFlowForCard (handFlowAt input)) := by
  cases code with
  -- requests without a setting that can be read back
  | setFifoControl | setDtr | setRts | setXoff | setXon | setBreakOn | setBreakOff
  | setQueueSize | setWaitMask | setClockRate | setClockBits => exact absurd rfl hcode
  | setBaudRate => exact ⟨trivial, set_baudRate hok (completed_withInput hok h) _⟩
  | setModemControl =>
    have hset := completed_always (f := mapExt (·.writeReg .mcr input.address.toUInt8)) hok h
    rw [hset]
    exact ⟨trivial, rfl⟩
  | setLineControl => exact set_lineControl hok (completed_withInput hok h) _
  | setTimeouts =>
    rw [completed_unless hok (completed_withInput hok h)]
    exact ⟨trivial, rfl⟩
  | setChars =>
    rw [completed_unless hok (completed_withInput hok h)]
    exact ⟨trivial, rfl⟩
  | setHandFlow => exact ⟨trivial, set_handFlow hok (completed_withInput hok h)⟩
  -- the status of the card routine is dropped: the request succeeds on every card
  | enableRs485 =>
    rw [completed_succeed h]
    refine ⟨trivial, ?_⟩
    exact congrArg (fun c => { m.view with card := c }) (Device.view_rs485 true m.device)
  | disableRs485 =>
    rw [completed_succeed h]
    refine ⟨trivial, ?_⟩
    exact congrArg (fun c => { m.view with card := c }) (Device.view_rs485 false m.device)
  | enableEchoCancel => exact ⟨trivial, set_of_succeed h (Device.view_echoCancel true _)⟩
  | disableEchoCancel => exact ⟨trivial, set_of_succeed h (Device.view_echoCancel false _)⟩
  -- the status of the card routine is the request's
  | enableTermination =>
    exact set_of_setting hok h Device.accepted_termination Device.view_termination
  | disableTermination =>
    exact set_of_setting hok h Device.accepted_termination Device.view_termination
  | setSampleRate =>
    exact set_of_setting hok (completed_withInput hok h) (fun _ => trivial) Device.view_sampleRate
  | setTxTrigger =>
    exact set_of_setting hok (completed_withInput hok h) Device.accepted_txTrigger
      Device.view_txTrigger
  | setRxTrigger =>
    exact set_of_setting hok (completed_withInput hok h) Device.accepted_rxTrigger
      Device.view_rxTrigger
  | enableIsochronous =>
    exact set_of_setting hok (completed_withInput hok h) Device.accepted_isochronous
      Device.view_isochronous
  | disableIsochronous =>
    exact set_of_setting hok h (fun h => (Device.accepted_isochronous h).1)
      Device.view_isochronous
  | enableExternalTransmit =>
    exact set_of_setting hok (completed_withInput hok h) Device.accepted_externalTransmit
      Device.view_externalTransmit
  | disableExternalTransmit =>
    exact set_of_setting hok h (fun h => (Device.accepted_externalTransmit h).1)
      Device.view_externalTransmit
  | setFrameLength =>
    exact set_of_setting hok (completed_withInput hok h) Device.accepted_frameLength
      Device.view_frameLength
  | enable9Bit =>
    rw [completed_succeed h]
    refine ⟨trivial, ?_⟩
    exact congrArg (fun c => { m.view with card := c }) (Device.view_9Bit true m.device)
  | disable9Bit =>
    rw [completed_succeed h]
    refine ⟨trivial, ?_⟩
    exact congrArg (fun c => { m.view with card := c }) (Device.view_9Bit false m.device)
  -- the driver's own record only
  | enableFixedBaudRate =>
    have hset := completed_always hok
      (f := fun m => m.setDevice (m.device.fastcomSetFixedBaudRate (input.ulongAt 0))) h
    rw [hset]
    exact ⟨trivial, rfl⟩
  | disableFixedBaudRate =>
    rw [completed_succeed h]
    exact ⟨trivial, rfl⟩

end

end Machine

end SerialFc
