import SerialFc.Model.Configure
import SerialFc.Model.Chip
import SerialFc.Properties.PcieBaud

/-!
# A rejected control code changes nothing

* `Unchanged` — a routine of the card that fails leaves the device as it was
* `Atomic` — the port is what it was if the request was completed with an error
* `rejectsCleanly_iff` — every control code is atomic but `IOCTL_SERIAL_SET_LINE_CONTROL`, which
  sets fields of WMI before it has checked everything
-/

namespace SerialFc

/-! ## Settings of the card -/

namespace Device

variable {d : Device}

/-- If a routine fails the device is what it was. -/
def Unchanged (d : Device) (result : SettingStatus × Device) : Prop :=
  result.1.ok = false → result.2 = d

theorem unchanged_success (d d' : Device) : Unchanged d (.success, d') := nofun

theorem unchanged_same (d : Device) (status : SettingStatus) : Unchanged d (status, d) :=
  fun _ => rfl

theorem unchanged_ite {p : Prop} [Decidable p] {a b : SettingStatus × Device}
    (ha : Unchanged d a) (hb : Unchanged d b) : Unchanged d (if p then a else b) := by
  split
  · exact ha
  · exact hb

/-- The value is remembered if the routine did not fail. -/
theorem unchanged_remember {result : SettingStatus × Device} (h : Unchanged d result)
    (f : Device → Device) :
    Unchanged d (result.1, if result.1.ok then f result.2 else result.2) := by
  intro hfail
  have hfail : result.1.ok = false := hfail
  simp only [hfail, Bool.false_eq_true, if_false]
  exact h hfail

/-- A check, then the work. -/
theorem unchanged_check (status : SettingStatus) (p : Prop) [Decidable p] (d d' : Device) :
    Unchanged d (if p then (status, d) else (.success, d')) :=
  unchanged_ite (unchanged_same d status) (unchanged_success d d')

theorem unchanged_sampleRate (d : Device) (value : UInt32) :
    Unchanged d (d.fastcomSetSampleRate value) := by
  refine unchanged_remember ?_ fun d => { d with sampleRate := value }
  cases d.card with
  | pci | pcie | fscc => exact unchanged_check _ _ _ _
  | other => exact unchanged_same d _

theorem unchanged_txTrigger (d : Device) (value : UInt32) :
    Unchanged d (d.fastcomSetTxTrigger value) := by
  refine unchanged_remember ?_ fun d => { d with txTrigger := value }
  cases d.card with
  | pci | pcie | fscc => exact unchanged_check _ _ _ _
  | other => exact unchanged_same d _

theorem unchanged_rxTrigger (d : Device) (value : UInt32) :
    Unchanged d (d.fastcomSetRxTrigger value) := by
  refine unchanged_remember ?_ fun d => { d with rxTrigger := value }
  cases d.card with
  | pci | pcie | fscc => exact unchanged_check _ _ _ _
  | other => exact unchanged_same d _

theorem unchanged_termination (d : Device) (enable : Bool) :
    Unchanged d (d.fastcomSetTermination enable) := by
  unfold fastcomSetTermination
  cases d.card with
  | pcie => exact unchanged_success d _
  | pci | fscc | other => exact unchanged_same d _

theorem unchanged_isochronous (d : Device) (mode : Int) :
    Unchanged d (d.fastcomSetIsochronous mode) := by
  refine unchanged_remember ?_ fun d => { d with isochronous := mode }
  cases d.card with
  | fscc => exact unchanged_check _ _ _ _
  | pci | pcie | other => exact unchanged_same d _

theorem unchanged_externalTransmit (d : Device) (numFrames : UInt32) :
    Unchanged d (d.fastcomSetExternalTransmit numFrames) := by
  unfold fastcomSetExternalTransmit
  cases d.card with
  | fscc => exact unchanged_check _ _ _ _
  | pci | pcie | other => exact unchanged_same d _

/-- Two checks, both before the work. -/
theorem unchanged_frameLength (d : Device) (numChars : UInt32) :
    Unchanged d (d.fastcomSetFrameLength numChars) := by
  refine unchanged_remember ?_ fun d => { d with frameLength := numChars }
  cases d.card with
  | fscc => exact unchanged_ite (unchanged_same d _) (unchanged_check _ _ _ _)
  | pci | pcie | other => exact unchanged_same d _

theorem unchanged_clockBitsFscc (d : Device) (pool : Bool) (frequency : UInt32)
    (clockBits : List UInt8) :
    Unchanged d (d.fastcomSetClockBitsFscc pool frequency clockBits) :=
  unchanged_check _ _ _ _

end Device

/-! ## Waiting requests -/

namespace Extension

/-- The extension without the model's record of requests. -/
def fields {U : Type} (e : Extension U) : Extension U := { e with done := [], nextId := 0 }

variable {U : Type} {r : Request}

theorem fields_complete (hread : r.isRead = false) (e : Extension U) :
    (e.serialCompleteRequest r).fields = e.fields := by
  simp [fields, serialCompleteRequest, hread]

/-- A request that is cancelled in its queue. -/
theorem fields_canceled (hread : r.isRead = false) (hchars : charsQueued r = 0)
    (e : Extension U) : (e.serialEvtCanceledOnQueue r).fields = e.fields := by
  simp [fields, serialEvtCanceledOnQueue, serialCompleteRequest, addCharsQueued, Request.isRead,
    hchars] at hread ⊢
  exact hread

/-- A request that its queue does not take. -/
theorem fields_startOrQueue {q : QueueId} {slot : Slot} (hread : r.isRead = false)
    (hchars : charsQueued r = 0) {e : Extension U}
    (hbusy : (e.isQueueEmpty q && (e.current slot).isNone || (e.queue q).accepting) = false)
    (starter : Extension U → Extension U) :
    (e.serialStartOrQueue r q slot starter).fields = e.fields := by
  rw [Bool.or_eq_false_iff] at hbusy
  unfold serialStartOrQueue forwardToIoQueue
  rw [hbusy.1, if_neg Bool.false_ne_true]
  have haccepting : ((e.addCharsQueued (charsQueued r)).queue q).accepting = false := hbusy.2
  rw [haccepting, if_neg Bool.false_ne_true, fields_complete (by exact hread), hchars]
  simp [fields, addCharsQueued]

theorem fields_accept {body : Body} (hbody : (body == .read) = false) (e : Extension U)
    {length : Nat} {systemBuffer : List UInt8} {k : Request → Extension U → Extension U}
    (h : (k (.new e.nextId body length systemBuffer) e.takeId).fields = e.fields) :
    (e.accept body length systemBuffer k).fields = e.fields := by
  unfold accept
  split
  · exact fields_complete (by exact hbody) _
  · exact h

/-- The two requests that wait in a queue. -/
theorem fields_setQueueSize [Uart U] (inSize : Nat) {e : Extension U}
    (hbusy : (e.isQueueEmpty .readQueue && (e.current .read).isNone
      || (e.queue .readQueue).accepting) = false) :
    (e.ioctlSetQueueSize inSize).fields = e.fields := by
  refine fields_accept (by rfl) e ?_
  split
  · exact fields_complete (by rfl) e.takeId
  · exact fields_startOrQueue (e := e.takeId) (by rfl) (by rfl) hbusy _

theorem fields_setWaitMask [Uart U] (mask : UInt32) {e : Extension U}
    (hbusy : (e.isQueueEmpty .maskQueue && (e.current .mask).isNone
      || (e.queue .maskQueue).accepting) = false) :
    (e.ioctlSetWaitMask mask).fields = e.fields := by
  refine fields_accept (by rfl) e ?_
  split
  · exact fields_complete (by rfl) e.takeId
  · exact fields_startOrQueue (e := e.takeId) (by rfl) (by rfl) hbusy _

end Extension

/-! ## Control codes -/

namespace Machine

variable {U : Type}

/-- The port without the model's record of requests. -/
def fields (m : Machine U) : Machine U := m.mapExt Extension.fields

end Machine

/-- If the request was completed with an error, the port is what it was. -/
def Answer.Atomic {U : Type} (m : Machine U) : Answer (Machine U) → Prop
  | .completed status m' => status.ok = false → m'.fields = m.fields
  | .started _ => True
  | .fault => True

namespace Machine

variable {U : Type}

open Answer

theorem atomic_succeed (m m' : Machine U) : Atomic m m'.succeed := nofun

theorem atomic_refuse (m : Machine U) (status : SettingStatus) : Atomic m (m.refuse status) :=
  fun _ => rfl

theorem atomic_ite {m : Machine U} {p : Prop} [Decidable p] {a b : Answer (Machine U)}
    (ha : Atomic m a) (hb : Atomic m b) : Atomic m (if p then a else b) := by
  split
  · exact ha
  · exact hb

theorem atomic_withInput {m : Machine U} (size : Nat) (input : ControlInput)
    {k : Machine U → Answer (Machine U)} (h : Atomic m (k m)) :
    Atomic m (m.withInput size input k) := by
  unfold withInput
  split
  · exact fun _ => rfl
  · exact h

theorem atomic_withInput_succeed (size : Nat) (input : ControlInput) (f : Machine U → Machine U)
    (m : Machine U) : Atomic m (m.withInput size input fun m => (f m).succeed) :=
  atomic_withInput size input (atomic_succeed m (f m))

/-- A routine of the card that changes nothing when it fails. -/
theorem atomic_setting {m : Machine U} {result : SettingStatus × Device}
    (h : m.device.Unchanged result) : Atomic m (m.setting result) := by
  intro hfail
  rw [h hfail]
  rfl

theorem atomic_startOrQueue {m : Machine U} {q : QueueId} {slot : Slot}
    {f : Extension (Fitted U) → Extension (Fitted U)}
    (h : (m.ext.isQueueEmpty q && (m.ext.current slot).isNone || (m.ext.queue q).accepting) = false →
      (f m.ext).fields = m.ext.fields) : Atomic m (m.startOrQueue q slot f) := by
  unfold startOrQueue
  split
  · trivial
  · next hbusy =>
    intro _
    unfold fields mapExt
    rw [h (Bool.eq_false_iff.mpr hbusy)]

theorem atomic_setBaudRate (stack : UInt16) (input : ControlInput) (m : Machine U) :
    Atomic m (m.controlSetBaudRate stack input) := by
  unfold controlSetBaudRate
  dsimp only
  split
  · next hok =>
    split
    · trivial
    · exact fun hfail => absurd hok (Bool.eq_false_iff.mp hfail)
  · exact atomic_refuse m _

theorem atomic_setClockBits (pool : Bool) (input : ControlInput) (m : Machine U) :
    Atomic m (m.controlSetClockBits pool input) := by
  unfold controlSetClockBits
  cases m.device.card with
  | fscc => exact atomic_withInput _ _ (atomic_setting (Device.unchanged_clockBitsFscc _ _ _ _))
  | pci => exact atomic_withInput _ _ (atomic_setting (Device.unchanged_success _ _))
  | pcie | other => exact atomic_refuse m _

/-! ## Line control -/

/-- A word length that is accepted while the parity or the stop bits are not: WMI has the word
length already and, if the parity is accepted, the parity. -/
def LineAsSet (input : ControlInput) (m : Machine U) : Prop :=
  ∀ data mask, LineControl.wordLength (input.byteAt 2) = some (data, mask) →
    match LineControl.parity (input.byteAt 1) with
    | none => m.wmi.bitsPerByte = input.byteAt 2
    | some (wmiParity, _) => LineControl.stopBits data (input.byteAt 0) = none →
      m.wmi.bitsPerByte = input.byteAt 2 ∧ m.wmi.parity = wmiParity

theorem fields_wmi {m : Machine U} {wmi : WmiCommData} (h : wmi = m.wmi) :
    fields { m with wmi := wmi } = m.fields := by
  rw [h]

variable [Uart U]

theorem atomic_setLineControl_iff (input : ControlInput) (m : Machine U) :
    Atomic m (m.controlSetLineControl input) ↔ m.LineAsSet input := by
  unfold controlSetLineControl LineAsSet
  dsimp only
  cases hword : LineControl.wordLength (input.byteAt 2) with
  | none => exact iff_of_true (atomic_refuse m _) nofun
  | some lengths =>
    obtain ⟨data, mask⟩ := lengths
    have hsame (q : Prop) : (∀ data' mask', some (data, mask) = some (data', mask') → q) ↔ q :=
      ⟨fun h => h data mask rfl, fun h _ _ _ => h⟩
    cases hparity : LineControl.parity (input.byteAt 1) with
    | none =>
      dsimp only
      rw [hsame]
      refine ⟨fun h => ?_, fun h _ => ?_⟩
      · exact (congrArg (fun m : Machine U => m.wmi.bitsPerByte) (h rfl)).symm
      · refine fields_wmi ?_
        rw [← h]
    | some parities =>
      obtain ⟨wmiParity, parityBits⟩ := parities
      dsimp only
      cases hstop : LineControl.stopBits data (input.byteAt 0) with
      | none =>
        refine ⟨fun h => ?_, fun h _ => ?_⟩
        · intro data' mask' hsome _
          have hwmi := congrArg Machine.wmi (h rfl)
          exact ⟨(congrArg WmiCommData.bitsPerByte hwmi).symm,
            (congrArg WmiCommData.parity hwmi).symm⟩
        · obtain ⟨hbits, hset⟩ := h data mask rfl hstop
          refine fields_wmi ?_
          rw [← hbits, ← hset]
      | some stops =>
        refine iff_of_true (atomic_succeed m _) fun data' mask' hsome hnone => ?_
        cases hsome
        rw [hstop] at hnone
        cases hnone

/-! ## Every control code -/

theorem atomic_control {code : ConfigCode} (hcode : code ≠ .setLineControl) (input : ControlInput)
    (s : Surroundings) (m : Machine U) : Atomic m (m.control code input s) := by
  cases code with
  | setLineControl => exact absurd rfl hcode
  | setBaudRate => exact atomic_withInput _ _ (atomic_setBaudRate _ _ m)
  | setClockBits => exact atomic_setClockBits _ _ m
  | setModemControl | setFifoControl | enableFixedBaudRate =>
    exact atomic_withInput_succeed _ _ _ m
  | setTimeouts | setChars | setHandFlow =>
    exact atomic_withInput _ _ (atomic_ite (atomic_refuse m _) (atomic_succeed m _))
  | setDtr | setRts => exact atomic_ite (atomic_refuse m _) (atomic_succeed m _)
  | setQueueSize =>
    exact atomic_withInput _ _
      (atomic_ite (atomic_succeed m _) (atomic_ite (atomic_succeed m _)
        (atomic_startOrQueue (Extension.fields_setQueueSize _))))
  | setWaitMask =>
    exact atomic_withInput _ _ (atomic_ite (atomic_refuse m _)
      (atomic_startOrQueue (Extension.fields_setWaitMask _)))
  | setClockRate => exact atomic_refuse m _
  | setSampleRate =>
    exact atomic_withInput _ _ (atomic_setting (Device.unchanged_sampleRate _ _))
  | setTxTrigger => exact atomic_withInput _ _ (atomic_setting (Device.unchanged_txTrigger _ _))
  | setRxTrigger => exact atomic_withInput _ _ (atomic_setting (Device.unchanged_rxTrigger _ _))
  | setFrameLength =>
    exact atomic_withInput _ _ (atomic_setting (Device.unchanged_frameLength _ _))
  | enableTermination | disableTermination =>
    exact atomic_setting (Device.unchanged_termination _ _)
  | enableIsochronous =>
    exact atomic_withInput _ _ (atomic_setting (Device.unchanged_isochronous _ _))
  | disableIsochronous => exact atomic_setting (Device.unchanged_isochronous _ _)
  | enableExternalTransmit =>
    exact atomic_withInput _ _ (atomic_setting (Device.unchanged_externalTransmit _ _))
  | disableExternalTransmit => exact atomic_setting (Device.unchanged_externalTransmit _ _)
  | _ => exact atomic_succeed m _

/-- The request gets as far as its case of the switch. -/
def Reaches (m : Machine U) : Prop :=
  m.device.deviceIsOpened = true ∧ m.ext.serialCompleteIfError = false

theorem atomic_evtIoDeviceControl_iff (code : ConfigCode) (input : ControlInput) (s : Surroundings)
    (m : Machine U) : Atomic m (m.serialEvtIoDeviceControl code input s) ↔
      (m.Reaches → Atomic m (m.control code input s)) := by
  unfold serialEvtIoDeviceControl Reaches
  cases m.device.deviceIsOpened with
  | false => exact iff_of_true (fun _ => rfl) nofun
  | true =>
    cases m.ext.serialCompleteIfError with
    | true => exact iff_of_true (fun _ => rfl) nofun
    | false => exact ⟨fun h _ => h, fun h => h ⟨rfl, rfl⟩⟩

theorem atomic_controlLine_iff (input : ControlInput) (s : Surroundings) (m : Machine U) :
    Atomic m (m.control .setLineControl input s) ↔
      (3 ≤ input.buffer.length → m.LineAsSet input) := by
  show Atomic m (m.withInput 3 input (controlSetLineControl input)) ↔ _
  unfold withInput
  split
  · next hshort => exact iff_of_true (fun _ => rfl) fun hlong => absurd hshort (by omega)
  · next hlong =>
    rw [atomic_setLineControl_iff]
    exact ⟨fun h _ => h, fun h => h (Nat.le_of_not_lt hlong)⟩

/-- A request that is rejected at once, and one that is cancelled while it waits in its queue,
leaves the port as it was. -/
def RejectsCleanly (code : ConfigCode) (input : ControlInput) (s : Surroundings) (m : Machine U) :
    Prop :=
  Atomic m (m.serialEvtIoDeviceControl code input s) ∧
    ∀ r : Request, (∃ n, r.body = .setQueueSize n) ∨ (∃ mask, r.body = .setWaitMask mask) →
      (m.mapExt (·.serialEvtCanceledOnQueue r)).fields = m.fields

omit [Uart U] in
theorem canceled_cleanly (m : Machine U) (r : Request)
    (hbody : (∃ n, r.body = .setQueueSize n) ∨ (∃ mask, r.body = .setWaitMask mask)) :
    (m.mapExt (·.serialEvtCanceledOnQueue r)).fields = m.fields := by
  have hrequest : r.isRead = false ∧ Extension.charsQueued r = 0 := by
    rcases hbody with ⟨n, hbody⟩ | ⟨mask, hbody⟩
    all_goals
      rw [Request.isRead, Extension.charsQueued, hbody]
      exact ⟨rfl, rfl⟩
  have hext := Extension.fields_canceled hrequest.1 hrequest.2 m.ext
  unfold fields mapExt
  rw [hext]

/-- **Rejected requests.** A control code is rejected cleanly if and only if it is not
`IOCTL_SERIAL_SET_LINE_CONTROL` or sets nothing before its last check. -/
theorem rejectsCleanly_iff (code : ConfigCode) (input : ControlInput) (s : Surroundings)
    (m : Machine U) : m.RejectsCleanly code input s ↔
      (code = .setLineControl → m.Reaches → 3 ≤ input.buffer.length → m.LineAsSet input) := by
  rw [RejectsCleanly, and_iff_left (canceled_cleanly m), atomic_evtIoDeviceControl_iff]
  by_cases hcode : code = .setLineControl
  · rw [hcode, atomic_controlLine_iff]
    exact ⟨fun h _ => h, fun h => h rfl⟩
  · exact iff_of_true (fun _ => atomic_control hcode input s m) fun h => absurd h hcode

/-- A PCIe port after it was opened, with seven data bits. -/
def sevenBits : Machine Chip where
  ext := .opened ⟨Chip.idle, Device.pciePort⟩ .plain 8
  wmi := ⟨1200, 7, .even, .one, 0x11, 0x13⟩
  eofChar := 0

/-- Eight data bits with a parity that does not exist: the request fails, and WMI reports eight
data bits. -/
theorem not_rejectsCleanly_parity :
    ¬ sevenBits.RejectsCleanly .setLineControl ⟨[0, 5, 8], 0⟩ ⟨0, true⟩ := by
  rintro ⟨hatomic, -⟩
  have hbits := congrArg (fun m : Machine Chip => m.wmi.bitsPerByte) (hatomic rfl)
  have hsame : (8 : UInt8) = 7 := hbits
  exact absurd hsame (by decide)

end Machine

end SerialFc
