import SerialFc.Model.Lifetime
import SerialFc.Properties.SharedRule
import SerialFc.Properties.OpenAtomic
import SerialFc.Properties.PcieBaud
import SerialFc.Model.Chip

/-!
# What the configuration never is

Settings that exclude each other are checked by each request against what the others have left, and
the limits against the size of the ring. `Configured` is what these checks are for; every creation,
request, completed resize and close keeps it, in any order.

* `Config.Compatible` — what holds with or without a handle
* `Extension.Limited` — what holds of the ring of an open handle
-/

namespace SerialFc

open Extension Lib Lifetime

variable {U : Type}

/-! ## Definitions -/

/-- An escape character is not one of those that control the flow, and errors are not replaced while
there is one. `HandFlow` has no bit that means nothing, and one way to use DTR. -/
structure Config.Compatible (c : Config) : Prop where
  escape : c.escapeChar ≠ 0 → c.escapeChar ≠ c.specialChars.xonChar ∧
    c.escapeChar ≠ c.specialChars.xoffChar ∧ c.handFlow.errorChar = false
  controlHandShake : has32 c.handFlow.controlHandShake 0x7fffff84 = false
  flowReplace : has32 c.handFlow.flowReplace 0x7fffff20 = false
  dtrMask : c.handFlow.dtrMask ≠ 0x03

/-- The limits are `LONG`s that are not negative, and within the ring. So is the mark at eight
tenths, which an empty ring is below. -/
structure Extension.Limited (e : Extension U) : Prop where
  room : 128 ≤ e.rx.bufferSize
  xonLimit : e.handFlow.xonLimit < 2 ^ 31 ∧ e.handFlow.xonLimit ≤ e.rx.bufferSize
  xoffLimit : e.handFlow.xoffLimit < 2 ^ 31 ∧ e.handFlow.xoffLimit ≤ e.rx.bufferSize
  bufferSizePt8 : 0 < e.rx.bufferSizePt8 ∧ e.rx.bufferSizePt8 ≤ e.rx.bufferSize

structure Lifetime.Configured (l : Lifetime U) : Prop where
  compatible : l.ext.cfg.Compatible
  limited : l.isOpen = true → l.ext.Limited

/-! ## What flow control leaves alone -/

/-- The configuration but for `HandFlow`, and the sizes of the ring. -/
def Extension.settings (e : Extension U) : Config × Nat × Nat :=
  ({ e.cfg with handFlow := ⟨0, 0, 0, 0⟩ }, e.rx.bufferSize, e.rx.bufferSizePt8)

theorem settings_of_rx {e e' : Extension U} (hcfg : e'.cfg = e.cfg)
    (hsize : e'.rx.bufferSize = e.rx.bufferSize)
    (hpt8 : e'.rx.bufferSizePt8 = e.rx.bufferSizePt8) : e'.settings = e.settings := by
  simp only [settings, hcfg, hsize, hpt8]

theorem settings_modifyCurrent (s : Slot) (f : Request → Request) (e : Extension U) :
    (e.modifyCurrent s f).settings = e.settings :=
  settings_of_rx (cfg_modifyCurrent ..) (congrArg Rx.bufferSize (rx_modifyCurrent ..))
    (congrArg Rx.bufferSizePt8 (rx_modifyCurrent ..))

variable [Uart U]

theorem settings_flowRule : FlowRule fun e e' : Extension U => e'.settings = e.settings where
  refl _ := rfl
  trans h h' := h'.trans h
  readReg _ _ := rfl
  writeReg _ _ _ _ _ := rfl
  events _ _ _ _ := rfl
  txHolding _ _ := rfl
  holdingEmpty _ _ := rfl
  special _ b := by cases b <;> rfl
  rxHolding _ _ := rfl
  tryingToLowerRts _ _ := rfl
  insertDpc _ _ _ := rfl
  answerWait _ _ := settings_modifyCurrent _ _ _
  countXoff e := by
    unfold countXoff
    split
    · rfl
    · split
      · exact settings_modifyCurrent _ _ _
      · rfl
  storeUser e c _ := by
    have hput : (e.putUser c).settings = e.settings := settings_modifyCurrent _ _ _
    unfold storeUser
    split
    · exact (settings_modifyCurrent _ _ (e.putUser c).resetRing).trans hput
    · exact hput
  putRing _ _ _ _ := rfl
  overwriteLast _ _ _ := rfl
  handFlow _ _ := rfl

omit [Uart U] in
theorem chars_of_settings {e e' : Extension U} (h : e'.settings = e.settings) :
    e'.cfg.escapeChar = e.cfg.escapeChar ∧ e'.cfg.specialChars = e.cfg.specialChars := by
  simp only [settings, Prod.mk.injEq, Config.mk.injEq] at h
  obtain ⟨⟨-, -, -, -, -, -, -, hescape, -, hchars, -⟩, -, -⟩ := h
  exact ⟨hescape, hchars⟩

omit [Uart U] in
/-- The limits do not matter. -/
theorem Config.Compatible.congr {c c' : Config} (h : c.Compatible)
    (hescape : c'.escapeChar = c.escapeChar) (hchars : c'.specialChars = c.specialChars)
    (hcontrol : c'.handFlow.controlHandShake = c.handFlow.controlHandShake)
    (hreplace : c'.handFlow.flowReplace = c.handFlow.flowReplace) : c'.Compatible := by
  have herror : c'.handFlow.errorChar = c.handFlow.errorChar := by
    rw [HandFlow.errorChar, hreplace, HandFlow.errorChar]
  have hdtr : c'.handFlow.dtrMask = c.handFlow.dtrMask := by
    rw [HandFlow.dtrMask, hcontrol, HandFlow.dtrMask]
  refine ⟨?_, ?_, ?_, ?_⟩
  · rw [hescape, hchars, herror]
    exact h.escape
  · rw [hcontrol]
    exact h.controlHandShake
  · rw [hreplace]
    exact h.flowReplace
  · rw [hdtr]
    exact h.dtrMask

/-! ## Requests -/

omit [Uart U] in
theorem has32_and_of_not {v mask : UInt32} (h : has32 v mask = false) (m : UInt32) :
    has32 (v &&& m) mask = false := by
  have hzero : v &&& mask = 0 := by simpa [has32] using h
  have hand : v &&& m &&& mask = 0 := by
    rw [UInt32.and_assoc, UInt32.and_comm m, ← UInt32.and_assoc, hzero, UInt32.zero_and]
  simp [has32, hand]

/-- What `IOCTL_SERIAL_SET_HANDFLOW` lets through. -/
theorem compatible_serialSetHandFlow {new : HandFlow} {e : Extension U} (h : e.cfg.Compatible)
    (hrefused : e.handFlowRefused new = false) : (e.serialSetHandFlow new).cfg.Compatible := by
  have hsettings := settings_flowRule.serialSetHandFlow new e
  have hflow := handFlow_serialSetHandFlow new e
  simp only [handFlowRefused, Bool.or_eq_false_iff] at hrefused
  obtain ⟨⟨⟨⟨⟨hcontrol, hreplace⟩, hdtr⟩, -⟩, -⟩, hescape⟩ := hrefused
  obtain ⟨hchar, hchars⟩ := chars_of_settings hsettings
  have herror (hnonzero : e.cfg.escapeChar ≠ 0) : new.errorChar = false := by
    simpa [hnonzero] using hescape
  refine ⟨fun hnonzero => ?_, ?_, ?_, ?_⟩
  · rw [hchar] at hnonzero
    rw [hchar, hchars]
    refine ⟨(h.escape hnonzero).1, (h.escape hnonzero).2.1, ?_⟩
    show (e.serialSetHandFlow new).handFlow.errorChar = false
    rw [hflow]
    unfold handFlowForCard
    split <;> exact herror hnonzero
  · show has32 (e.serialSetHandFlow new).handFlow.controlHandShake _ = false
    rw [hflow]
    unfold handFlowForCard
    split
    · exact has32_and_of_not hcontrol _
    · exact hcontrol
  · show has32 (e.serialSetHandFlow new).handFlow.flowReplace _ = false
    rw [hflow]
    unfold handFlowForCard
    split <;> exact hreplace
  · show (e.serialSetHandFlow new).handFlow.dtrMask ≠ 0x03
    rw [hflow]
    unfold handFlowForCard
    split
    · show new.controlHandShake &&& ~~~0x03 &&& 0x03 ≠ 0x03
      rw [UInt32.and_assoc]
      simp
    · simpa using hdtr

omit [Uart U] in
theorem toNat_lt_of_toLong {v : UInt32} (h : ¬Device.toLong v < 0) : v.toNat < 2 ^ 31 := by
  have hlt := v.toNat_lt
  rw [Device.toLong, BitVec.toInt_eq_toNat_cond, UInt32.toNat_toBitVec] at h
  split at h <;> omega

omit [Uart U] in
theorem Config.Compatible.putChars {c : Config} (h : c.Compatible) {chars : SpecialChars}
    (hchars : ¬(c.escapeChar ≠ 0 ∧
      (c.escapeChar = chars.xonChar ∨ c.escapeChar = chars.xoffChar))) :
    Config.Compatible { c with specialChars := chars } := by
  refine ⟨fun hnonzero => ?_, h.controlHandShake, h.flowReplace, h.dtrMask⟩
  obtain ⟨hxon, hxoff⟩ := not_or.mp fun hor => hchars ⟨hnonzero, hor⟩
  exact ⟨hxon, hxoff, (h.escape hnonzero).2.2⟩

omit [Uart U] in
theorem Config.Compatible.putEscape {c : Config} (h : c.Compatible) {escapeChar : UInt8}
    (hescape : ¬(escapeChar ≠ 0 ∧ (escapeChar = c.specialChars.xoffChar
      ∨ escapeChar = c.specialChars.xonChar ∨ c.handFlow.errorChar))) :
    Config.Compatible { c with escapeChar := escapeChar } := by
  refine ⟨fun hnonzero => ?_, h.controlHandShake, h.flowReplace, h.dtrMask⟩
  obtain ⟨hxoff, hrest⟩ := not_or.mp fun hor => hescape ⟨hnonzero, hor⟩
  obtain ⟨hxon, herror⟩ := not_or.mp hrest
  exact ⟨hxon, hxoff, Bool.eq_false_iff.mpr herror⟩

omit [Uart U] in
theorem limits_handFlowForCard (new : HandFlow) (e : Extension U) :
    (e.handFlowForCard new).xonLimit = new.xonLimit ∧
      (e.handFlowForCard new).xoffLimit = new.xoffLimit := by
  unfold handFlowForCard
  split <;> exact ⟨rfl, rfl⟩

/-- The limits are checked against the ring. -/
theorem limited_serialSetHandFlow {new : HandFlow} {e : Extension U} (h : e.Limited)
    (hrefused : e.handFlowRefused new = false) (hxon : new.xonLimit < 2 ^ 31)
    (hxoff : new.xoffLimit < 2 ^ 31) : (e.serialSetHandFlow new).Limited := by
  have hsettings := settings_flowRule.serialSetHandFlow new e
  have hflow := handFlow_serialSetHandFlow new e
  obtain ⟨hxonCard, hxoffCard⟩ := limits_handFlowForCard new e
  simp only [handFlowRefused, Bool.or_eq_false_iff, decide_eq_false_iff_not, Nat.not_lt]
    at hrefused
  obtain ⟨⟨⟨-, hxonSize⟩, hxoffSize⟩, -⟩ := hrefused
  simp only [settings, Prod.mk.injEq] at hsettings
  obtain ⟨-, hsize, hpt8⟩ := hsettings
  refine ⟨?_, ?_, ?_, ?_⟩
  · rw [hsize]
    exact h.room
  · rw [hflow, hxonCard, hsize]
    exact ⟨hxon, hxonSize⟩
  · rw [hflow, hxoffCard, hsize]
    exact ⟨hxoff, hxoffSize⟩
  · rw [hpt8, hsize]
    exact h.bufferSizePt8

/-! ## The ring -/

omit [Uart U] in
/-- A copy makes no buffer shorter. -/
theorem length_le_rtlMoveMemory (buffer : List UInt8) (offset : Nat) (bytes : List UInt8) :
    buffer.length ≤ (rtlMoveMemory buffer offset bytes).length := by
  simp only [rtlMoveMemory, List.length_append, List.length_take, List.length_drop]
  omega

omit [Uart U] in
theorem length_le_moveToNew (n offset : Nat) (buffer : List UInt8) (e : Extension U) :
    buffer.length ≤ (e.moveToNew n offset buffer).length := by
  unfold moveToNew
  split
  · exact Nat.le_refl _
  · split
    · exact length_le_rtlMoveMemory ..
    · exact (length_le_rtlMoveMemory ..).trans (length_le_rtlMoveMemory ..)

omit [Uart U] in
/-- The mark of a ring that is not empty. -/
theorem pt8_of_room {size : Nat} (h : 128 ≤ size) :
    0 < 3 * (size / 4) + size / 16 ∧ 3 * (size / 4) + size / 16 ≤ size := by
  omega

/-- The settings with a new ring, and the limits that go with it. -/
theorem switchToNew_eq (n : Nat) (buffer : List UInt8) (e : Extension U) :
    ∃ b : List UInt8, buffer.length ≤ b.length ∧
      (e.serialUpdateAndSwitchToNew n buffer).settings =
        ({ e.cfg with handFlow := ⟨0, 0, 0, 0⟩ }, b.length, 3 * (b.length / 4) + b.length / 16) ∧
      (e.serialUpdateAndSwitchToNew n buffer).handFlow =
        { e.handFlow with xoffLimit := buffer.length / 8, xonLimit := buffer.length / 2 } := by
  refine ⟨_, length_le_moveToNew (e.rx.charsInInterruptBuffer - n) n buffer e, ?_, ?_⟩
  · exact settings_flowRule.serialHandleReducedIntBuffer _
  · exact congrArg Config.handFlow (cfg_sharedRule.serialHandleReducedIntBuffer _)

/-- A larger ring comes with limits of its own. -/
theorem limited_serialUpdateAndSwitchToNew {n : Nat} {buffer : List UInt8} {e : Extension U}
    (hroom : 128 ≤ buffer.length) (hlong : buffer.length < ulongLimit) :
    (e.serialUpdateAndSwitchToNew n buffer).Limited := by
  obtain ⟨b, hlength, hsettings, hflow⟩ := switchToNew_eq n buffer e
  simp only [settings, Prod.mk.injEq] at hsettings
  obtain ⟨-, hsize, hpt8⟩ := hsettings
  have hulong : buffer.length < 2 ^ 32 := hlong
  refine ⟨?_, ?_, ?_, ?_⟩
  · rw [hsize]
    omega
  · rw [hflow, hsize]
    show buffer.length / 2 < 2 ^ 31 ∧ buffer.length / 2 ≤ b.length
    omega
  · rw [hflow, hsize]
    show buffer.length / 8 < 2 ^ 31 ∧ buffer.length / 8 ≤ b.length
    omega
  · rw [hpt8, hsize]
    exact pt8_of_room (hroom.trans hlength)

theorem compatible_serialUpdateAndSwitchToNew {n : Nat} {buffer : List UInt8} {e : Extension U}
    (h : e.cfg.Compatible) : (e.serialUpdateAndSwitchToNew n buffer).cfg.Compatible := by
  have hcfg : (e.serialUpdateAndSwitchToNew n buffer).cfg =
      { e.cfg with handFlow :=
        { e.handFlow with xoffLimit := buffer.length / 8, xonLimit := buffer.length / 2 } } :=
    cfg_sharedRule.serialHandleReducedIntBuffer _
  rw [hcfg]
  exact h.congr rfl rfl rfl rfl

/-! ## Steps -/

theorem mem_bufferSizes {systemSize : SystemSize} {size : Nat}
    (h : size ∈ systemSize.bufferSizes) : 128 ≤ size ∧ size ≤ 4096 := by
  cases systemSize <;> simp [SystemSize.bufferSizes] at h <;> omega

omit [Uart U] in
/-- The port as a creation leaves it. -/
theorem limited_opened {size : Nat} (hroom : 128 ≤ size) (hlong : size < ulongLimit) (u : U)
    (cfg : Config) : (Extension.opened u cfg size).Limited := by
  have hulong : size < 2 ^ 32 := hlong
  refine ⟨hroom, ?_, ?_, pt8_of_room hroom⟩
  · show size / 2 < 2 ^ 31 ∧ size / 2 ≤ size
    omega
  · show size / 8 < 2 ^ 31 ∧ size / 8 ≤ size
    omega

omit [Uart U] in
theorem compatible_opened {cfg : Config} (h : cfg.Compatible) (u : U) (size : Nat) :
    (Extension.opened u cfg size).cfg.Compatible :=
  ⟨nofun, h.controlHandShake, h.flowReplace, h.dtrMask⟩

/-- A creation that succeeds has got one of the sizes. -/
theorem bufferSize_of_success {c : CreateConditions} {p : OpenState}
    (h : (p.serialDeviceFileCreateWorker c).1 = .success) :
    ∃ size ∈ c.systemSize.bufferSizes, (p.serialDeviceFileCreateWorker c).2.bufferSize = size := by
  cases hsize : c.systemSize.bufferSizes.find? c.pool with
  | none =>
    rw [OpenState.create_noMemory hsize] at h
    cases h
  | some size =>
    refine ⟨size, List.mem_of_find?_eq_some hsize, ?_⟩
    simp only [OpenState.serialDeviceFileCreateWorker, OpenState.allocateRing, hsize] at h ⊢
    split <;> try rfl
    split <;> try rfl
    split <;> rfl

/-- A creation that fails opens no handle. -/
theorem openHandles_of_failure {c : CreateConditions} {p : OpenState}
    (h : (p.serialDeviceFileCreateWorker c).1 ≠ .success) :
    (p.serialDeviceFileCreateWorker c).2.openHandles = p.openHandles := by
  cases hsize : c.systemSize.bufferSizes.find? c.pool with
  | none => rw [OpenState.create_noMemory hsize]
  | some size =>
    refine (OpenState.create_failsLate hsize fun hlate => h ?_).2
    rw [OpenState.create_succeeds hsize hlate.1 hlate.2]

/-- A creation opens one handle at most. -/
theorem openHandles_create (c : CreateConditions) (p : OpenState) :
    (p.serialDeviceFileCreateWorker c).2.openHandles ≤ p.openHandles + 1 := by
  by_cases hstatus : (p.serialDeviceFileCreateWorker c).1 = .success
  · cases hsize : c.systemSize.bufferSizes.find? c.pool with
    | none =>
      rw [OpenState.create_noMemory hsize]
      exact Nat.le_succ _
    | some size =>
      by_cases hlate : c.stopIdle = true ∧ ¬(p.card = .fscc ∧ c.openedInSync = true)
      · rw [OpenState.create_succeeds hsize hlate.1 hlate.2]
      · rw [(OpenState.create_failsLate hsize hlate).2]
        exact Nat.le_succ _
  · rw [openHandles_of_failure hstatus]
    exact Nat.le_succ _

namespace Lifetime.Configured

variable {l l' : Lifetime U}

omit [Uart U] in
theorem create (h : l.Configured) (hclosed : l.isOpen = false) (c : CreateConditions)
    (uart : Fitted U) : (l.serialDeviceFileCreateWorker c uart).Configured := by
  have hfailed (hstatus : (l.resources.serialDeviceFileCreateWorker c).1 ≠ .success) :
      ((l.resources.serialDeviceFileCreateWorker c).2.openHandles != 0) = false := by
    rw [openHandles_of_failure hstatus]
    exact hclosed
  unfold Lifetime.serialDeviceFileCreateWorker
  dsimp only
  split
  · next hstatus =>
    obtain ⟨size, hmem, hsize⟩ := bufferSize_of_success hstatus
    obtain ⟨hroom, hmax⟩ := mem_bufferSizes hmem
    refine ⟨compatible_opened h.compatible _ _, fun _ => ?_⟩
    rw [hsize]
    exact limited_opened hroom (by show size < 2 ^ 32; omega) _ _
  · next hstatus =>
    refine ⟨compatible_opened h.compatible _ _, fun hopen => ?_⟩
    exact nomatch (hfailed (by rw [hstatus]; nofun)).symm.trans hopen
  · next hstatus =>
    refine ⟨h.compatible.congr rfl rfl rfl rfl, fun hopen => ?_⟩
    exact nomatch (hfailed (by rw [hstatus]; nofun)).symm.trans hopen
  · next hstatus =>
    refine ⟨h.compatible.congr rfl rfl rfl rfl, fun hopen => ?_⟩
    exact nomatch (hfailed (by rw [hstatus]; nofun)).symm.trans hopen

omit [Uart U] in
theorem close (h : l.Configured) (hsingle : l.resources.openHandles ≤ 1) (connected : Bool)
    (uart : Fitted U) : (l.serialFileCloseWorker connected uart).Configured := by
  refine ⟨h.compatible.congr rfl rfl rfl rfl, fun hopen => ?_⟩
  have hleft : (l.resources.openHandles - 1 != 0) = true := by
    cases connected <;> exact hopen
  simp only [bne_iff_ne] at hleft
  omega

theorem resize (h : l.Configured) (hopen : l.isOpen = true) {newBuffer : List UInt8}
    (hlong : newBuffer.length < ulongLimit) (numberMoved : Nat) :
    (l.putExt (l.ext.serialResizeBuffer numberMoved newBuffer)).Configured := by
  have hlimited := h.limited hopen
  have hroom := hlimited.room
  unfold serialResizeBuffer
  split
  · exact h
  · next hlarger =>
    exact ⟨compatible_serialUpdateAndSwitchToNew h.compatible,
      fun _ => limited_serialUpdateAndSwitchToNew (by omega) hlong⟩

end Lifetime.Configured

/-! ### Requests through the handle -/

/-- What a request leads to, whatever its status. -/
def Answer.All {M : Type} (P : M → Prop) : Answer M → Prop
  | .completed _ m | .started m => P m
  | .fault => True

/-- The configuration while a handle is open. -/
def Machine.Configured (m : Machine U) : Prop := m.ext.cfg.Compatible ∧ m.ext.Limited

namespace Machine.Configured

variable {m : Machine U}

omit [Uart U] in
theorem withInput (h : m.Configured) {size : Nat} {input : ControlInput}
    {k : Machine U → Answer (Machine U)} (hk : (k m).All Configured) :
    (m.withInput size input k).All Configured := by
  unfold Machine.withInput
  split
  · exact h
  · exact hk

omit [Uart U] in
theorem controlSetChars (h : m.Configured) (input : ControlInput) :
    (m.controlSetChars input).All Configured := by
  unfold Machine.controlSetChars
  dsimp only
  split
  · exact h
  · next hchars =>
    exact ⟨h.1.putChars hchars, h.2.room, h.2.xonLimit, h.2.xoffLimit, h.2.bufferSizePt8⟩

omit [Uart U] in
theorem controlLsrmstInsert (h : m.Configured) (input : ControlInput) :
    (m.controlLsrmstInsert input).All Configured := by
  unfold Machine.controlLsrmstInsert
  dsimp only
  split
  · exact h
  · next hescape =>
    exact ⟨h.1.putEscape hescape, h.2.room, h.2.xonLimit, h.2.xoffLimit, h.2.bufferSizePt8⟩

theorem controlSetHandFlow (h : m.Configured) (input : ControlInput) :
    (m.controlSetHandFlow input).All Configured := by
  unfold Machine.controlSetHandFlow
  dsimp only
  split
  · exact h
  · next hrefused =>
    obtain ⟨hxon, hrest⟩ := not_or.mp hrefused
    obtain ⟨hxoff, hcheck⟩ := not_or.mp hrest
    rw [Bool.not_eq_true] at hcheck
    exact ⟨compatible_serialSetHandFlow h.1 hcheck,
      limited_serialSetHandFlow h.2 hcheck (toNat_lt_of_toLong hxon) (toNat_lt_of_toLong hxoff)⟩

end Machine.Configured

omit [Uart U] in
/-- A request changes the configuration of an open handle. -/
theorem configured_request {l l' : Lifetime U} {control : Machine U → Answer (Machine U)}
    (h : l.Configured)
    (hcontrol : l.machine.Configured → (control l.machine).All Machine.Configured)
    (hstep : l.request control = some l') : l'.Configured ∧ l'.resources = l.resources := by
  unfold Lifetime.request at hstep
  split at hstep
  · cases hstep
  · next hopen =>
    rw [Bool.not_eq_true', Bool.not_eq_false] at hopen
    have hall := hcontrol ⟨h.compatible, h.limited hopen⟩
    split at hstep
    · cases hstep
      exact ⟨h, rfl⟩
    · split at hstep
      · next hanswer =>
        cases hstep
        rw [hanswer] at hall
        exact ⟨⟨hall.1, fun _ => hall.2⟩, rfl⟩
      · next hanswer =>
        cases hstep
        rw [hanswer] at hall
        exact ⟨⟨hall.1, fun _ => hall.2⟩, rfl⟩
      · cases hstep

/-- **Step lemma.** There is never more than one handle. -/
theorem configured_step {label : LifetimeLabel U} {l l' : Lifetime U}
    (hstep : Lifetime.step label l = some l')
    (h : l.Configured ∧ l.resources.openHandles ≤ 1) :
    l'.Configured ∧ l'.resources.openHandles ≤ 1 := by
  obtain ⟨hconf, hsingle⟩ := h
  have hrequest {control : Machine U → Answer (Machine U)} (hrun : l.request control = some l')
      (hcontrol : l.machine.Configured → (control l.machine).All Machine.Configured) :
      l'.Configured ∧ l'.resources.openHandles ≤ 1 := by
    obtain ⟨hkept, hresources⟩ := configured_request hconf hcontrol hrun
    rw [hresources]
    exact ⟨hkept, hsingle⟩
  cases label with
  | create c uart =>
    obtain ⟨hopen, ⟨⟩⟩ := Option.ite_none_left_eq_some.mp hstep
    rw [Bool.not_eq_true] at hopen
    refine ⟨hconf.create hopen c uart, ?_⟩
    have hnone : l.resources.openHandles = 0 := by simpa [isOpen] using hopen
    have hone := openHandles_create c l.resources
    rw [hnone] at hone
    unfold Lifetime.serialDeviceFileCreateWorker
    dsimp only
    split <;> exact hone
  | setChars input => exact hrequest hstep fun hm => hm.withInput (hm.controlSetChars input)
  | setHandFlow input => exact hrequest hstep fun hm => hm.withInput (hm.controlSetHandFlow input)
  | lsrmstInsert input =>
    exact hrequest hstep fun hm => hm.withInput (hm.controlLsrmstInsert input)
  | resize numberMoved newBuffer =>
    obtain ⟨⟨hopen, hlong⟩, ⟨⟩⟩ := Option.ite_none_right_eq_some.mp hstep
    exact ⟨hconf.resize hopen hlong numberMoved, hsingle⟩
  | close connected uart =>
    obtain ⟨hopen, ⟨⟩⟩ := Option.ite_none_right_eq_some.mp hstep
    refine ⟨hconf.close hsingle connected uart, ?_⟩
    have hleft : (l.serialFileCloseWorker connected uart).resources.openHandles =
        l.resources.openHandles - 1 := by
      cases connected <;> rfl
    omega

omit [Uart U] in
theorem configured_added (uart : Fitted U) (cfg : Config) : (added uart cfg).Configured := by
  refine ⟨⟨nofun, ?_, ?_, ?_⟩, nofun⟩
  · show has32 0x01 0x7fffff84 = false
    decide
  · show has32 0x40 0x7fffff20 = false
    decide
  · show (0x01 &&& 0x03 : UInt32) ≠ 0x03
    decide

/-! ## Runs -/

/-- **Configuration.** Whatever handles are opened and closed, and whatever is asked through them,
settings that exclude each other never meet, and the limits of an open handle are within its
ring. -/
theorem configuration_invariant {uart : Fitted U} {cfg : Config}
    {labels : List (LifetimeLabel U)} {l : Lifetime U}
    (hrun : run Lifetime.step labels (added uart cfg) = some l) : l.Configured := by
  let Inv (l : Lifetime U) : Prop := l.Configured ∧ l.resources.openHandles ≤ 1
  have hstart : Inv (added uart cfg) := ⟨configured_added uart cfg, Nat.zero_le _⟩
  have hend : Inv l := run_invariant (fun _ _ _ hstep h => configured_step hstep h) hrun hstart
  exact hend.1

/-- Escape is the escape character; it cannot be XON too, nor can errors be replaced. Limits that
are too large for the ring fit into a larger one. -/
def escapeAndLimits : List (LifetimeLabel Chip) :=
  let fitted : Fitted Chip := ⟨Chip.idle, Device.pciePort⟩
  let limits : List UInt8 := [200, 0, 0, 0, 150, 0, 0, 0]
  [.create ⟨.medium, fun size => size ≤ 128, true, false⟩ fitted, .lsrmstInsert ⟨[0x1b], 0⟩,
    .setChars ⟨[0, 0, 0, 0, 0x1b, 0x13], 0⟩,
    .setHandFlow ⟨[0, 0, 0, 0, 4, 0, 0, 0, 0, 0, 0, 0, 0, 0, 0, 0], 0⟩,
    .setHandFlow ⟨[0, 0, 0, 0, 3, 0, 0, 0] ++ limits, 0⟩,
    .resize 0 (List.replicate 256 0),
    .setHandFlow ⟨[0, 0, 0, 0, 1, 0, 0, 0] ++ limits, 0⟩]

theorem configuration_invariant_escapeAndLimits :
    ∃ l, run Lifetime.step escapeAndLimits (added ⟨Chip.idle, Device.pciePort⟩ .plain) = some l ∧
      (l.ext.cfg.escapeChar == 0x1b && l.ext.cfg.specialChars.xonChar == 0x11
        && l.ext.handFlow == ⟨0, 1, 200, 150⟩ && l.ext.rx.bufferSize == 256) = true ∧
        l.Configured := by
  have hrun : (run Lifetime.step escapeAndLimits
      (added ⟨Chip.idle, Device.pciePort⟩ .plain)).any (fun l =>
        l.ext.cfg.escapeChar == 0x1b && l.ext.cfg.specialChars.xonChar == 0x11
          && l.ext.handFlow == ⟨0, 1, 200, 150⟩ && l.ext.rx.bufferSize == 256) = true := by
    decide +kernel
  obtain ⟨l, hl, hset⟩ := (Option.any_eq_true _ _).mp hrun
  exact ⟨l, hl, hset, configuration_invariant hl⟩

end SerialFc
