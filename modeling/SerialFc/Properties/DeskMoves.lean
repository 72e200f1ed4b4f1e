import SerialFc.Properties.DeskView
import SerialFc.Properties.ReadReferences
import SerialFc.Properties.Steps

/-!
# What each routine does at the desks

A routine of the driver moves requests in one of a few ways, or not at all.

* `desk_stopAgents` and the others named so — what is not seen at the desks
* `moves_tryToComplete` — `SerialTryToCompleteCurrent` does what its last part does
* `moves_…` — the moves of the other routines, one after the other
-/

namespace SerialFc

open Extension Lib

variable {U : Type} {e e' : Extension U}

/-! ## What is not seen -/

/-- References are not seen. -/
theorem desk_clearReference (e : Extension U) (s : Slot) (ref : Ref) :
    (e.clearReference s ref).desk = e.desk := desk_modifyCurrent e s fun _ => rfl

/-- A timer that is stopped gives its reference back. -/
theorem desk_rundownTimer (e : Extension U) (s : Slot) (timer : Option TimerId)
    (ref refType : Ref) : (e.rundownTimer s timer ref refType).desk = e.desk := by
  unfold rundownTimer
  split
  · rfl
  · split
    · exact desk_clearReference ..
    · rfl

/-- Without its cancel routine a request is still the same one. -/
theorem job_serialClearCancelRoutine (b : Bool) (r : Request) :
    (r.serialClearCancelRoutine b).2.job = r.job := by
  unfold Request.serialClearCancelRoutine
  split
  · split <;> rfl
  · rfl

theorem desk_serialRundownIrpRefs (e : Extension U) (s : Slot) (interval total : Option TimerId)
    (ref : Ref) : (e.serialRundownIrpRefs s interval total ref).desk = e.desk := by
  unfold serialRundownIrpRefs rundownCancel
  rw [desk_rundownTimer, desk_rundownTimer]
  split
  · exact desk_modifyCurrent e s fun _ => rfl
  · exact desk_modifyCurrent e s fun r => job_serialClearCancelRoutine true r

/-- Taking a request back from its agents is not seen. -/
theorem desk_stopAgents {synch : Extension U → Extension U}
    (hsynch : ∀ e, (synch e).desk = e.desk) (e : Extension U) (status : NtStatus) (s : Slot)
    (interval total : Option TimerId) (ref : Ref) :
    (e.stopAgents synch status s interval total ref).desk = e.desk := by
  have hmark (e : Extension U) : (e.markCancelled s status).desk = e.desk := by
    unfold markCancelled
    split
    · exact desk_modifyCurrent e s fun _ => rfl
    · rfl
  have hdrop : (e.dropOwnReference s ref).desk = e.desk := by
    unfold dropOwnReference
    split
    · exact desk_clearReference ..
    · rfl
  unfold stopAgents
  rw [hmark, desk_serialRundownIrpRefs, hsynch, hdrop]

/-- Nor is the status it gets. -/
theorem desk_giveStatus (e : Extension U) (s : Slot) (status : NtStatus) :
    (e.giveStatus s status).desk = e.desk := by
  unfold giveStatus
  cases hr : e.current s with
  | none => rfl
  | some r =>
    have hput (r' : Request) (hjob : r'.job = r.job) :
        (e.setCurrent s (some r')).desk = e.desk := by
      rw [desk_setCurrent, Option.map_some, hjob]
      refine put_self ?_
      show (e.current s).map Request.job = _
      rw [hr]
      rfl
    dsimp only
    split
    · exact hput { r with status := status, information := 0 } rfl
    · exact hput { r with status := status } rfl

/-- Nor are the timers. -/
theorem desk_setTimerWithReference (e : Extension U) (s : Slot) (t : TimerId) (ref : Ref) :
    (e.setTimerWithReference s t ref).desk = e.desk := by
  unfold setTimerWithReference
  split
  · rfl
  · exact desk_modifyCurrent _ s fun _ => rfl

theorem desk_initRequest (e : Extension U) (s : Slot) : (e.initRequest s).desk = e.desk :=
  desk_modifyCurrent e s fun _ => rfl

theorem desk_armWriteTimer (e : Extension U) (s : Slot) (t : TimerId) :
    (e.armWriteTimer s t).desk = e.desk := by
  unfold armWriteTimer
  split
  · exact desk_setTimerWithReference ..
  · rfl

/-- Code under the interrupt lock moves no request. -/
theorem desk_of_lock (h : Effect e e' ∧ e'.totalCharsQueued = e.totalCharsQueued) :
    e'.desk = e.desk := h.1.desk h.2

/-! ### Reads -/

/-- What a read gets is not seen. -/
theorem desk_copyToUser (e : Extension U) (offset number : Nat) :
    (e.copyToUser offset number).desk = e.desk := desk_modifyCurrent _ .read fun _ => rfl

theorem desk_addInformation (e : Extension U) (number : Nat) :
    (e.addInformation number).desk = e.desk := desk_modifyCurrent e .read fun _ => rfl

theorem desk_copyWhole (e : Extension U) (number : Nat) : (e.copyWhole number).desk = e.desk :=
  (desk_addInformation ..).trans (desk_copyToUser e _ number)

theorem desk_copyRest (e : Extension U) (number first : Nat) :
    (e.copyRest number first).desk = e.desk :=
  (desk_addInformation ..).trans (desk_copyToUser e _ _)

theorem desk_getChars (e : Extension U) (number : Nat) : (e.getChars number).desk = e.desk := by
  unfold getChars
  split
  · rfl
  · split
    · exact desk_copyWhole e number
    · exact (desk_copyRest ..).trans (desk_copyToUser ..)

/-- Nor is what becomes of the interrupt buffer, -/
theorem desk_serialUpdateInterruptBuffer [Uart U] (e : Extension U) (n : Nat) :
    (e.serialUpdateInterruptBuffer n).desk = e.desk :=
  (desk_of_lock (desk_lock.serialHandleReducedIntBuffer (e.removeChars n))).trans rfl

theorem desk_getCharsAgain [Uart U] (e : Extension U) : e.getCharsAgain.desk = e.desk :=
  (desk_serialUpdateInterruptBuffer ..).trans (desk_getChars ..)

/-- where the ISR stores its characters, -/
theorem desk_switchToUser (e : Extension U) : e.switchToUser.desk = e.desk := by
  unfold switchToUser
  split
  · rfl
  · exact desk_modifyCurrent _ .read fun _ => rfl

theorem desk_serialGrabReadFromIsr (e : Extension U) : e.serialGrabReadFromIsr.desk = e.desk := by
  unfold serialGrabReadFromIsr
  split
  · exact (desk_clearReference ..).trans (desk_modifyCurrent e .read fun _ => rfl)
  · rfl

theorem desk_serialPurgeInterruptBuff [Uart U] (e : Extension U) :
    e.serialPurgeInterruptBuff.desk = e.desk := by
  unfold serialPurgeInterruptBuff
  split
  · exact (desk_of_lock (desk_lock.serialHandleReducedIntBuffer e.clearRing)).trans rfl
  · rfl

theorem desk_setIntervalTime (e : Extension U) : e.setIntervalTime.desk = e.desk := by
  unfold setIntervalTime
  split <;> rfl

/-- or what a read waits for. -/
theorem desk_armRead (e : Extension U) (l : ReadStart) : (e.armRead l).desk = e.desk := by
  have htotal (e : Extension U) : (e.armTotalTimer l).desk = e.desk := by
    unfold armTotalTimer
    split
    · exact desk_setTimerWithReference ..
    · rfl
  have hinterval (e : Extension U) : (e.armIntervalTimer l).desk = e.desk := by
    unfold armIntervalTimer
    split
    · exact desk_setTimerWithReference ..
    · rfl
  exact (hinterval _).trans ((htotal _).trans (desk_modifyCurrent e .read fun _ => rfl))

/-- A new interrupt buffer is not seen either. -/
theorem desk_serialUpdateAndSwitchToNew [Uart U] (e : Extension U) (n : Nat) (buffer : List UInt8) :
    (e.serialUpdateAndSwitchToNew n buffer).desk = e.desk :=
  (desk_of_lock (desk_lock.serialHandleReducedIntBuffer _)).trans rfl

/-! ### Writes, XOFF counters and immediate characters -/

/-- The ISR sends for the request that has the slot. -/
theorem desk_serialGiveWriteToIsr [Uart U] (e : Extension U) :
    e.serialGiveWriteToIsr.desk = e.desk := by
  have htransmit (e : Extension U) : e.startTransmit.desk = e.desk := by
    unfold startTransmit
    split <;> rfl
  unfold serialGiveWriteToIsr
  split
  · rfl
  · refine (desk_of_lock (desk_lock.raiseRtsInToggle _)).trans ((htransmit _).trans ?_)
    exact desk_modifyCurrent _ .write fun _ => rfl

theorem desk_serialGrabWriteFromIsr (e : Extension U) :
    e.serialGrabWriteFromIsr.desk = e.desk := by
  unfold serialGrabWriteFromIsr
  split
  · rfl
  · exact (desk_clearReference ..).trans (desk_modifyCurrent e .write fun _ => rfl)

theorem desk_serialGrabXoffFromIsr (e : Extension U) : e.serialGrabXoffFromIsr.desk = e.desk := by
  unfold serialGrabXoffFromIsr
  split
  · rfl
  · exact desk_clearReference ..

theorem desk_armXoffTimer (e : Extension U) (timeout : Nat) :
    (e.armXoffTimer timeout).desk = e.desk := by
  unfold armXoffTimer
  split
  · rfl
  · exact desk_setTimerWithReference ..

/-- An empty transmitter is an event, and no move. -/
theorem desk_emptyTransmitIfNone [Uart U] (e : Extension U) :
    e.emptyTransmitIfNone.desk = e.desk := by
  unfold emptyTransmitIfNone
  split
  · rfl
  · exact desk_of_lock (desk_lock.serialProcessEmptyTransmit e)

theorem desk_serialGrabImmediateFromIsr (e : Extension U) :
    e.serialGrabImmediateFromIsr.desk = e.desk := by
  unfold serialGrabImmediateFromIsr
  split
  · exact desk_clearReference ..
  · rfl

theorem desk_serialStartImmediate [Uart U] (e : Extension U) (c : UInt8) :
    (e.serialStartImmediate c).desk = e.desk := by
  have hstart (e : Extension U) : e.startImmediate.desk = e.desk := by
    unfold startImmediate
    split <;> rfl
  have hgive (e : Extension U) : (e.serialGiveImmediateToIsr c).desk = e.desk :=
    (hstart _).trans (desk_modifyCurrent (e.giveImmediate c) .immediate fun _ => rfl)
  exact (hgive _).trans ((desk_armWriteTimer ..).trans ((desk_initRequest ..).trans
    (desk_modifyCurrent e .immediate fun _ => rfl)))

/-! ### Wait masks -/

/-- The wait is answered, but is completed by a DPC. -/
theorem desk_serialFinishOldWait (e : Extension U) (mask : UInt32) :
    (e.serialFinishOldWait mask).desk = e.desk := by
  have hend : e.endWait.desk = e.desk := by
    unfold endWait
    split
    · exact desk_modifyCurrent (e.setMaskLocation false) .wait fun _ => rfl
    · rfl
  exact hend

theorem desk_serialGiveWaitToIsr (e : Extension U) : e.serialGiveWaitToIsr.desk = e.desk := by
  have hgive : (e.modifyCurrent .wait (·.putReference true .isr)).desk = e.desk :=
    desk_modifyCurrent e .wait fun _ => rfl
  have hanswer (e : Extension U) : e.answerFromHistory.desk = e.desk :=
    desk_modifyCurrent { e with ev := { e.ev with historyMask := 0 } } .wait fun _ => rfl
  unfold serialGiveWaitToIsr
  split
  · exact hgive
  · exact (hanswer _).trans hgive

theorem desk_serialGrabWaitFromIsr (e : Extension U) : e.serialGrabWaitFromIsr.desk = e.desk := by
  unfold serialGrabWaitFromIsr
  split
  · exact (desk_clearReference ..).trans
      (desk_modifyCurrent (e.setMaskLocation false) .wait fun _ => rfl)
  · rfl

/-! ## Moves -/

/-- The moves by which requests end or go on. -/
def Works : DeskOp Slot QueueId Job → Prop
  | .next _ | .finish _ | .shift _ _ => True
  | _ => False

/-- These and the clearing of queues. -/
def Clears : DeskOp Slot QueueId Job → Prop
  | .next _ | .finish _ | .shift _ _ | .purge _ | .reopen _ => True
  | _ => False

/-- Clearing queues comes on top of the other moves. -/
theorem Works.clears {op : DeskOp Slot QueueId Job} (h : Works op) : Clears op := by
  cases op <;> first | exact h | cases h

/-- Moves of a kind lead from one state to the other. -/
abbrev Moves (ok : DeskOp Slot QueueId Job → Prop) (e e' : Extension U) : Prop :=
  deskPlan.Course ok e.desk e'.desk

/-- The slot holds the kind of request that it is for. -/
def Served (s : Slot) (e : Extension U) : Prop :=
  ∀ r, e.current s = some r → s.serves r.body = true

variable {ok : DeskOp Slot QueueId Job → Prop} {s : Slot}

theorem Moves.of_desk (h : e'.desk = e.desk) : Moves ok e e' := .of_eq h

/-- The desk shows who has the slot, -/
theorem job_of_desk (h : e'.desk = e.desk) (s : Slot) :
    (e'.current s).map Request.job = (e.current s).map Request.job :=
  congrFun (congrArg Desk.slot h) s

/-- and whether anybody has. -/
theorem isSome_of_desk (h : e'.desk = e.desk) (s : Slot) :
    (e'.current s).isSome = (e.current s).isSome := by
  have hjob := congrArg Option.isSome (job_of_desk h s)
  rwa [Option.isSome_map, Option.isSome_map] at hjob

/-- What is not seen leaves the slot with its kind of request. -/
theorem Served.of_desk (h : Served s e) (hdesk : e'.desk = e.desk) : Served s e' := by
  intro r' hr'
  have hjob := job_of_desk hdesk s
  rw [hr', Option.map_some, eq_comm, Option.map_eq_some_iff] at hjob
  obtain ⟨r, hr, hsame⟩ := hjob
  have hbody : r.body = r'.body := congrArg Job.body hsame
  rw [← hbody]
  exact h r hr

theorem Accounted.serves (h : Accounted e) (s : Slot) : Served s e := h.served s

/-- Requests of these slots are not counted. -/
theorem charsQueued_eq_zero {r : Request} {q : QueueId} (hq : q ≠ .writeQueue)
    (h : q.slot.serves r.body = true) : charsQueued r = 0 := by
  unfold charsQueued
  split
  · next hb => rw [hb] at h; cases q <;> first | exact absurd rfl hq | cases h
  · next hb => rw [hb] at h; cases q <;> first | exact absurd rfl hq | cases h
  · next hb => rw [hb] at h; cases q <;> first | exact absurd rfl hq | cases h
  · rfl

/-- A queue other than that of the writes: the request is done and the next one is fetched. -/
theorem moves_getNext {q : QueueId} (hq : q ≠ .writeQueue) (hserved : Served q.slot e)
    (hsome : (e.current q.slot).isSome = true) :
    Moves Works e (e.serialGetNextRequest q.slot q true) := by
  obtain ⟨r, hr⟩ := Option.isSome_iff_exists.mp hsome
  have hzero := charsQueued_eq_zero hq (hserved r hr)
  have hnext := desk_getNext hr
  have hsame : e.addCharsQueued (-charsQueued r) = e := by simp [addCharsQueued, hzero]
  rw [hsame] at hnext
  exact .one (show Works (.next q) from trivial)
    ⟨r.job, congrArg (Option.map Request.job) hr, hnext⟩ (by simp)

/-- The request of a slot that no queue is for is done. -/
theorem moves_completeCurrent (hs : s.charged = false) (hsome : (e.current s).isSome = true) :
    Moves Works e (e.completeCurrent s) := by
  obtain ⟨r, hr⟩ := Option.isSome_iff_exists.mp hsome
  refine .one (show Works (.finish s) from trivial) ⟨fun q hq => ?_, r.job,
    congrArg (Option.map Request.job) hr, ?_⟩ (by simp)
  · have hhome : s.charged = true := hq ▸ charged_slot q
    rw [hs] at hhome
    cases hhome
  · unfold completeCurrent
    rw [hr]
    dsimp only
    rw [desk_serialCompleteRequest, desk_setCurrent]
    show _ = (e.desk.put s none).leave r.job (if s.charged then r.job.chars else 0)
    rw [hs]
    rfl

/-- `SerialTryToCompleteCurrent` moves what its last part moves, if that comes to run. -/
theorem moves_tryToComplete {synch finish : Extension U → Extension U}
    (hsynch : ∀ e, (synch e).desk = e.desk) (e : Extension U) (status : NtStatus)
    (interval total : Option TimerId) (ref : Ref)
    (hfinish : ∀ e₁, e₁.desk = e.desk → (e₁.current s).isSome = true →
      Moves ok e₁ (finish e₁)) :
    Moves ok e (e.serialTryToCompleteCurrent synch status s interval total finish ref) := by
  have hstop := desk_stopAgents hsynch e status s interval total ref
  unfold serialTryToCompleteCurrent
  split
  · exact .of_desk rfl
  · generalize e.stopAgents synch status s interval total ref = e₁ at hstop ⊢
    unfold completeIfUnreferenced
    split
    · exact .of_desk hstop
    · next r hr =>
      split
      · have hgive : (e₁.giveStatus s status).desk = e.desk :=
          (desk_giveStatus e₁ s status).trans hstop
        have hsome : ((e₁.giveStatus s status).current s).isSome = true := by
          rw [isSome_of_desk (desk_giveStatus e₁ s status), hr]
          rfl
        have hcourse := hfinish _ hgive hsome
        unfold Moves at hcourse ⊢
        rwa [hgive] at hcourse
      · exact .of_desk hstop

/-! ### Reads -/

/-- The read is done and the next one is fetched. -/
theorem moves_nextRead (hserved : Served .read e) (hsome : (e.current .read).isSome = true) :
    Moves Works e e.nextRead :=
  moves_getNext (q := .readQueue) (by decide) hserved hsome

theorem moves_succeedRead (hserved : Served .read e) (hsome : (e.current .read).isSome = true) :
    Moves Works e e.succeedRead := by
  have hdesk : (e.modifyCurrent .read fun r => { r with status := .success }).desk = e.desk :=
    desk_modifyCurrent e .read fun _ => rfl
  have hnext := moves_nextRead (hserved.of_desk hdesk) ((isSome_of_desk hdesk .read).trans hsome)
  unfold Moves at hnext ⊢
  rwa [hdesk] at hnext

/-- What is not seen, and then a read that succeeds. -/
theorem moves_succeedRead_after (hdesk : e'.desk = e.desk) (hserved : Served .read e)
    (hsome : (e.current .read).isSome = true) : Moves Works e e'.succeedRead := by
  have h := moves_succeedRead (hserved.of_desk hdesk) ((isSome_of_desk hdesk .read).trans hsome)
  unfold Moves at h ⊢
  rwa [hdesk] at h

/-- A read cut down to one character counts for as much as before. -/
theorem desk_initRead (hserved : Served .read e) (l : ReadStart) :
    (e.initRead l).desk = e.desk := by
  unfold initRead
  split
  · refine desk_modifyCurrent_of fun r hr => ?_
    have hbody := hserved r hr
    have hbefore := charsQueued_eq_zero (q := .readQueue) (by decide) hbody
    have hafter : charsQueued { r with refCount := .zero, length := 1 } = 0 :=
      charsQueued_eq_zero (q := .readQueue) (by decide) hbody
    unfold Request.job
    rw [hafter, hbefore]
  · exact desk_modifyCurrent e .read fun _ => rfl

/-- A resize that needs no larger buffer is done at once. -/
theorem moves_beginRead (hserved : Served .read e) (hsome : (e.current .read).isSome = true)
    (r : Request) : Moves Works e (e.beginRead r) := by
  unfold beginRead
  split
  · next inSize _ =>
    have hdesk : (e.modifyCurrent .read fun r => { r with
        information := 0, status := .success }).desk = e.desk :=
      desk_modifyCurrent e .read fun _ => rfl
    unfold beginResize
    split
    · have h := moves_nextRead (hserved.of_desk hdesk)
        ((isSome_of_desk hdesk .read).trans hsome)
      unfold Moves at h ⊢
      rwa [hdesk] at h
    · exact .of_desk hdesk
  · exact .of_desk (desk_setIntervalTime _)

/-- A read that got what it wanted is done. -/
theorem moves_finishCopy [Uart U] (hserved : Served .read e)
    (hsome : (e.current .read).isSome = true) (l : ReadStart) (n : Nat) (r : Request) :
    Moves Works e (e.finishCopy l n r) := by
  unfold finishCopy
  split
  · exact moves_succeedRead_after (desk_serialUpdateInterruptBuffer e n) hserved hsome
  · have hdesk : (((e.initRead l).serialUpdateInterruptBuffer n).getCharsAgain).desk = e.desk :=
      (desk_getCharsAgain _).trans ((desk_serialUpdateInterruptBuffer ..).trans
        (desk_initRead hserved l))
    unfold succeedOrSwitch
    split
    · exact moves_succeedRead_after hdesk hserved hsome
    · exact .of_desk ((desk_switchToUser _).trans hdesk)

/-- `SerialStartRead` moves a request at its end only. -/
theorem moves_serialStartReadStep [Uart U] (hserved : Served .read e) :
    Moves Works e e.serialStartReadStep := by
  cases hr : e.current .read with
  | none =>
    cases hpc : e.pc <;> simp only [serialStartReadStep, hr, hpc] <;> exact .of_desk rfl
  | some r =>
    have hsome : (e.current .read).isSome = true := by rw [hr]; rfl
    cases hpc : e.pc <;> simp only [serialStartReadStep, hr, hpc]
    case idle => exact .of_desk rfl
    case start => exact moves_beginRead hserved hsome r
    case sample l => exact .of_desk rfl
    case copy l n =>
      split
      · exact .of_desk rfl
      · split
        · exact .of_desk (desk_copyWhole e n)
        · exact .of_desk (desk_copyToUser ..)
    case copyRest l n first => exact .of_desk (desk_copyRest e n first)
    case copied l n => exact moves_finishCopy hserved hsome l n r
    case arm l => exact .of_desk (desk_armRead e l)
    case move n =>
      split
      · exact .of_desk rfl
      · split <;> exact .of_desk rfl
    case moveRest n first buffer => exact .of_desk rfl
    case moved n buffer =>
      have hdesk := desk_serialUpdateAndSwitchToNew e n buffer
      have h := moves_nextRead (hserved.of_desk hdesk)
        ((isSome_of_desk hdesk .read).trans hsome)
      unfold Moves at h ⊢
      rwa [hdesk] at h

/-- The routines that end a read. -/
theorem moves_tryToCompleteRead {synch : Extension U → Extension U}
    (hsynch : ∀ e, (synch e).desk = e.desk) (hserved : Served .read e) (status : NtStatus)
    (ref : Ref) : Moves Works e (e.tryToCompleteRead synch status ref) := by
  refine moves_tryToComplete hsynch e status _ _ ref fun e₁ hdesk hsome => ?_
  refine (moves_getNext (q := .readQueue) (by decide) (hserved.of_desk hdesk) hsome).trans ?_
  refine .of_eq ?_
  unfold startNew
  split <;> rfl

theorem moves_serialIntervalReadTimeout (hserved : Served .read e) :
    Moves Works e e.serialIntervalReadTimeout := by
  have hend (status : NtStatus) :
      Moves Works e (e.tryToCompleteRead serialGrabReadFromIsr status .intTimer) :=
    moves_tryToCompleteRead desk_serialGrabReadFromIsr hserved status .intTimer
  unfold serialIntervalReadTimeout
  split
  · exact hend .timeout
  · split
    · exact hend .success
    · split
      · exact hend .cancelled
      · split
        · split
          · exact .of_desk rfl
          · split
            · exact hend .timeout
            · exact .of_desk rfl
        · exact .of_desk rfl

/-! ### XOFF counters -/

theorem moves_tryToCompleteXoff {synch : Extension U → Extension U}
    (hsynch : ∀ e, (synch e).desk = e.desk) (e : Extension U) (status : NtStatus)
    (total : Option TimerId) (ref : Ref) :
    Moves Works e (e.tryToCompleteXoff synch status total ref) :=
  moves_tryToComplete hsynch e status _ _ ref fun _ _ hsome => moves_completeCurrent rfl hsome

/-- A counter that is killed is done. -/
theorem moves_killXoff (e : Extension U) : Moves Works e e.killXoff := by
  unfold killXoff
  split
  · exact .of_desk rfl
  · split
    · exact .of_desk rfl
    · have hdesk : (e.modifyCurrent .xoff fun r => { r.putReference true .xoffRef with
          information := 0 }).desk = e.desk := desk_modifyCurrent e .xoff fun _ => rfl
      have h := moves_tryToCompleteXoff desk_serialGrabXoffFromIsr
        (e.modifyCurrent .xoff fun r => { r.putReference true .xoffRef with information := 0 })
        .serialMoreWrites (some .xoffCount) .xoffRef
      unfold Moves at h ⊢
      rwa [hdesk] at h

/-! ### A request goes on to another slot -/

/-- What is on a desk does not matter to who is fetched for it. -/
theorem fetch_put_home (d : Desk Slot QueueId Job) (q : QueueId) (v : Option Job) :
    deskPlan.fetch q (d.put q.slot v) = deskPlan.fetch q d := by
  have hput (d : Desk Slot QueueId Job) (w : Option Job) :
      (d.put q.slot v).put (deskPlan.home q) w = d.put (deskPlan.home q) w := by
    unfold Desk.put
    congr 1
    exact Function.update_idem ..
  unfold DeskPlan.fetch
  have hline : (d.put q.slot v).line q = d.line q := rfl
  rw [hline]
  split
  · exact hput (d.putLine q _) _
  · exact hput d _

/-- The request has left its slot for slot `t`, and the next one is fetched. -/
theorem moves_shift {q : QueueId} {t : Slot} {r : Request} (hr : e.current q.slot = some r)
    (hlater : q.later = some t) (hserves : t.serves r.body = true)
    (hleft : e'.desk = ({ e.desk with
      lost := e.desk.lost ++ (e.desk.slot t).toList
      count := e.desk.count - charsQueued r }.put q.slot none).put t (some r.job)) (b : Bool) :
    Moves Works e (e'.serialGetNextRequest q.slot q b) := by
  have hne : t ≠ q.slot := by cases q <;> cases hlater <;> decide
  have hnone : e'.current q.slot = none := by
    have hslot : (e'.current q.slot).map Request.job = none := by
      show e'.desk.slot q.slot = none
      rw [hleft, Desk.slot_put, if_neg hne.symm, Desk.slot_put, if_pos rfl]
    exact Option.map_eq_none_iff.mp hslot
  have hswap (d : Desk Slot QueueId Job) (v w : Option Job) :
      (d.put q.slot v).put t w = (d.put t w).put q.slot v := by
    unfold Desk.put
    congr 1
    exact Function.update_comm hne.symm ..
  refine .one (show Works (.shift q t) from trivial)
    ⟨r.job, congrArg (Option.map Request.job) hr, ⟨hlater, hserves⟩, ?_⟩ (by simp)
  unfold serialGetNextRequest
  rw [hnone]
  dsimp only
  rw [desk_retrieveNextRequest, hleft, hswap, fetch_put_home]
  rfl

/-- What leaves the write slot for that of the counters is a counter. -/
theorem serves_xoff {r : Request} {timeout counter : Nat} {c : UInt8}
    (hb : r.body = .xoffCounter timeout counter c) : Slot.xoff.serves r.body = true := by
  rw [hb]
  rfl

/-! ### Writes -/

/-- The counter changes its slot; one that was there is lost. -/
theorem desk_holdXoffRequest (e : Extension U) (r : Request) (timeout counter : Nat) :
    (e.holdXoffRequest r timeout counter).desk = ({ e.desk with
      lost := e.desk.lost ++ (e.desk.slot .xoff).toList }.put .write none).put .xoff
        (some r.job) := by
  have hgive (e : Extension U) : (e.serialGiveXoffToIsr counter).desk = e.desk :=
    desk_modifyCurrent (e.setCountSinceXoff counter) .xoff fun _ => rfl
  have hlost : ({ e with abandoned := e.abandoned ++ (e.current .xoff).toList }).desk =
      { e.desk with lost := e.desk.lost ++ (e.desk.slot .xoff).toList } := by
    unfold desk
    dsimp only
    rw [List.map_append]
    cases e.current .xoff <;> rfl
  refine (desk_armXoffTimer ..).trans ((hgive _).trans ?_)
  unfold moveToXoff
  rw [desk_setCurrent, desk_setCurrent, hlost]
  rfl

/-- The write is done, or goes on as a counter. -/
theorem moves_serialGetNextWrite [Uart U] (hsome : (e.current .write).isSome = true) :
    Moves Works e e.serialGetNextWrite := by
  obtain ⟨r, hr⟩ := Option.isSome_iff_exists.mp hsome
  have hnext : Moves Works e
      ((e.addCharsQueued (-charsQueued r)).serialGetNextRequest .write .writeQueue true) :=
    .one (show Works (.next .writeQueue) from trivial) ⟨r.job,
      congrArg (Option.map Request.job) hr, desk_getNext (q := .writeQueue) hr⟩ (by simp)
  unfold serialGetNextWrite
  rw [hr]
  dsimp only
  refine DeskPlan.Course.trans ?_ (.of_eq (desk_emptyTransmitIfNone _))
  unfold holdIfXoff
  split
  · next timeout counter c hb =>
    split
    · exact hnext
    · refine moves_shift (q := .writeQueue) (t := .xoff) hr rfl (serves_xoff hb) ?_ true
      refine (desk_holdXoffRequest ..).trans ?_
      have hcount : (e.addCharsQueued (-charsQueued r)).desk =
          { e.desk with count := e.desk.count - charsQueued r } := rfl
      rw [hcount]
      rfl
  · exact hnext

/-- A write that starts only kills a counter. -/
theorem moves_serialStartWrite [Uart U] (e : Extension U) : Moves Works e e.serialStartWrite :=
  (moves_killXoff e).trans (.of_eq ((desk_serialGiveWriteToIsr _).trans
    ((desk_armWriteTimer ..).trans (desk_initRequest ..))))

theorem moves_tryToCompleteWrite [Uart U] {synch : Extension U → Extension U}
    (hsynch : ∀ e, (synch e).desk = e.desk) (e : Extension U) (status : NtStatus) (ref : Ref) :
    Moves Works e (e.tryToCompleteWrite synch status ref) := by
  refine moves_tryToComplete hsynch e status _ _ ref fun e₁ _ hsome => ?_
  refine (moves_serialGetNextWrite hsome).trans ?_
  unfold startNew
  split
  · exact moves_serialStartWrite _
  · exact .refl _

/-! ### Immediate characters -/

/-- No queue is for immediate characters: the slot is empty afterwards. -/
theorem moves_serialGetNextImmediate [Uart U] (hserved : Served .immediate e)
    (hsome : (e.current .immediate).isSome = true) : Moves Works e e.serialGetNextImmediate := by
  obtain ⟨r, hr⟩ := Option.isSome_iff_exists.mp hsome
  have hone : charsQueued r = 1 := by
    have hserves := hserved r hr
    unfold charsQueued
    cases hb : r.body <;> rw [hb] at hserves <;> first | rfl | cases hserves
  refine .one (show Works (.finish .immediate) from trivial) ⟨fun q => by cases q <;> decide,
    r.job, congrArg (Option.map Request.job) hr, ?_⟩ (by simp)
  unfold serialGetNextImmediate
  rw [hr]
  dsimp only
  rw [desk_serialCompleteRequest, desk_of_lock (desk_lock.serialProcessEmptyTransmit _),
    desk_setCurrent]
  have hcount : (e.addCharsQueued (-1)).desk = { e.desk with count := e.desk.count - 1 } := rfl
  rw [hcount]
  show _ = (e.desk.put .immediate none).leave r.job (charsQueued r)
  rw [hone]
  unfold Desk.leave Desk.put
  congr 1
  exact Int.sub_zero _

theorem moves_tryToCompleteImmediate [Uart U] {synch : Extension U → Extension U}
    (hsynch : ∀ e, (synch e).desk = e.desk) (hserved : Served .immediate e) (status : NtStatus)
    (ref : Ref) : Moves Works e (e.tryToCompleteImmediate synch status ref) :=
  moves_tryToComplete hsynch e status _ _ ref fun _ hdesk hsome =>
    moves_serialGetNextImmediate (hserved.of_desk hdesk) hsome

/-! ### Wait masks -/

theorem moves_tryToCompleteWait {synch : Extension U → Extension U}
    (hsynch : ∀ e, (synch e).desk = e.desk) (e : Extension U) (status : NtStatus) (ref : Ref) :
    Moves Works e (e.tryToCompleteWait synch status ref) :=
  moves_tryToComplete hsynch e status _ _ ref fun _ _ hsome => moves_completeCurrent rfl hsome

/-- A mask is set, and the request is done. -/
theorem moves_nextMask (hserved : Served .mask e) (hsome : (e.current .mask).isSome = true)
    (status : NtStatus) : Moves Works e (e.nextMask status) := by
  have hdesk : (e.modifyCurrent .mask fun r => { r with status := status }).desk = e.desk :=
    desk_modifyCurrent e .mask fun _ => rfl
  have h := moves_getNext (q := .maskQueue) (by decide) (hserved.of_desk hdesk)
    ((isSome_of_desk hdesk .mask).trans hsome)
  unfold Moves at h ⊢
  rwa [hdesk] at h

/-- A request to wait leaves the mask slot. -/
theorem moves_startWait {r : Request} (hr : e.current .mask = some r)
    (hbody : Slot.wait.serves r.body = true) (hserved : Served .mask e)
    (hnone : e.current .wait = none) : Moves Works e (e.startWait r) := by
  refine moves_shift (q := .maskQueue) (t := .wait) hr rfl hbody ?_ false
  refine (desk_serialGiveWaitToIsr _).trans ?_
  have hzero : charsQueued r = 0 :=
    charsQueued_eq_zero (q := .maskQueue) (by decide) (hserved r hr)
  have hsame : ({ e.desk with
      lost := e.desk.lost ++ (e.desk.slot .wait).toList
      count := e.desk.count - charsQueued r } : Desk Slot QueueId Job) = e.desk := by
    have hslot : e.desk.slot .wait = none := congrArg (Option.map Request.job) hnone
    rw [hslot, hzero]
    simp
  rw [hsame, desk_setCurrent, desk_setCurrent]
  rfl

/-- One round: a mask that is set, a wait that begins, or one that is refused. -/
theorem moves_startMaskOne (hserved : Served .mask e) (hsome : (e.current .mask).isSome = true) :
    Moves Works e e.startMaskOne := by
  obtain ⟨r, hr⟩ := Option.isSome_iff_exists.mp hsome
  unfold startMaskOne
  rw [hr]
  dsimp only
  split
  · next mask _ =>
    have hdesk := desk_serialFinishOldWait e mask
    have h := moves_nextMask (hserved.of_desk hdesk) ((isSome_of_desk hdesk .mask).trans hsome)
      .success
    unfold Moves at h ⊢
    rwa [hdesk] at h
  · next hbody =>
    split
    · exact moves_nextMask hserved hsome .invalidParameter
    · next hfree =>
      simp only [Bool.or_eq_true, not_or, Bool.not_eq_true, Option.isSome_eq_false_iff,
        Option.isNone_iff_eq_none] at hfree
      exact moves_startWait hr (serves_wait (hserved r hr) hbody) hserved hfree.2

/-- By induction on the rounds. -/
theorem moves_startMaskLoop [Uart U] (n : Nat) (hacc : Accounted e)
    (hsome : (e.current .mask).isSome = true) : Moves Works e (startMaskLoop n e) := by
  induction n generalizing e with
  | zero => exact .refl _
  | succ n ih =>
    have hacc' : Accounted e.startMaskOne := (anything.startMaskOne id id e hacc).1
    refine (moves_startMaskOne (hacc.serves .mask) hsome).trans ?_
    show Moves Works e.startMaskOne (e.startMaskOne.startNew .mask (startMaskLoop n))
    unfold startNew
    split
    · next hnext => exact ih hacc' hnext
    · exact .refl _

/-! ### Purges -/

/-- Moves that clear no queue. -/
theorem Moves.works (h : Moves Works e e') : Moves Clears e e' := h.mono fun _ => Works.clears

/-- The queue loses its line. -/
theorem desk_wdfIoQueuePurge (e : Extension U) (q : QueueId) :
    deskPlan.Does (.purge q) e.desk (e.wdfIoQueuePurge q).desk := by
  show (e.wdfIoQueuePurge q).desk = _
  have hput := desk_putQueue e q ⟨[], false, false⟩
  unfold wdfIoQueuePurge
  have hline : (e.desk.line q).waiting = (e.queue q).waiting.map Request.job := rfl
  rw [hline]
  show { (e.putQueue q ⟨[], false, false⟩).desk with
    withdrawn := (e.canceledOnQueue ++ (e.queue q).waiting).map Request.job } = _
  rw [hput, List.map_append]
  rfl

theorem desk_wdfIoQueueStart (e : Extension U) (q : QueueId) :
    deskPlan.Does (.reopen q) e.desk (e.wdfIoQueueStart q).desk := desk_putQueue e q _

/-- The cancel routine is called, or there is nothing to cancel. -/
theorem moves_cancelCurrent {s : Slot} {routine : Extension U → Extension U}
    (hroutine : ∀ e₁, e₁.desk = e.desk → Moves Works e₁ (routine e₁)) :
    Moves Works e (e.cancelCurrent s routine) := by
  unfold cancelCurrent
  cases hr : e.current s with
  | none => exact .refl _
  | some r =>
    have hdesk : (e.setCurrent s (some (r.serialClearCancelRoutine false).2)).desk = e.desk := by
      rw [desk_setCurrent, Option.map_some, job_serialClearCancelRoutine]
      exact put_self (congrArg (Option.map Request.job) hr)
    dsimp only
    split
    · have h := hroutine _ hdesk
      unfold Moves at h ⊢
      rwa [hdesk] at h
    · exact .of_desk hdesk

/-- The queue is cleared, and nobody joins it: whoever had its desk may be left. -/
structure Flushes (q : QueueId) (e e' : Extension U) : Prop where
  moves : Moves Clears e e'
  empty : (e'.desk.line q).waiting = []
  line : (deskPlan.line q e'.desk).Sublist ((e.current q.slot).toList.map Request.id)

/-- The line goes first, then whoever has the desk. -/
theorem flushes_serialFlushRequests {q : QueueId} {s : Slot}
    {routine : Extension U → Extension U}
    (hroutine : ∀ e₁, e₁.desk = (e.wdfIoQueuePurge q).desk → Moves Works e₁ (routine e₁)) :
    Flushes q e (e.serialFlushRequests q s routine) := by
  have hpurge := desk_wdfIoQueuePurge e q
  have hcancel := moves_cancelCurrent (s := s) hroutine
  have hreopen := desk_wdfIoQueueStart ((e.wdfIoQueuePurge q).cancelCurrent s routine) q
  have hleaves : deskPlan.Leaves q (e.wdfIoQueuePurge q).desk
      (e.serialFlushRequests q s routine).desk :=
    (hcancel.path.leaves (fun op hop => by cases op <;> first | rfl | cases hop) q).trans
      (hreopen.leaves rfl q)
  have hempty : ((e.wdfIoQueuePurge q).desk.line q).waiting = [] := by
    rw [hpurge]
    exact congrArg Line.waiting ((Desk.line_putLine ..).trans (if_pos rfl))
  refine ⟨.clear (show Clears (.purge q) from trivial) (show Clears (.reopen q) from trivial)
    hpurge hcancel.works hreopen, ?_, ?_⟩
  · exact List.sublist_nil.mp (hempty ▸ hleaves.waiting)
  · have hslot : deskPlan.line q (e.wdfIoQueuePurge q).desk =
        (e.current q.slot).toList.map Request.id := by
      unfold DeskPlan.line
      rw [hempty, List.append_nil]
      show ((e.current q.slot).map Request.job).toList.map Job.id = _
      cases e.current q.slot <;> rfl
    exact hslot ▸ hleaves.line

theorem served_purge (h : Served s e) (q : QueueId) : Served s (e.wdfIoQueuePurge q) := h

theorem flushes_abortWrites [Uart U] (e : Extension U) : Flushes .writeQueue e e.abortWrites :=
  flushes_serialFlushRequests fun e₁ _ =>
    moves_tryToCompleteWrite desk_serialGrabWriteFromIsr e₁ _ _

theorem moves_abortXoff (e : Extension U) : Moves Clears e e.abortXoff :=
  (flushes_serialFlushRequests fun e₁ _ =>
    moves_tryToCompleteXoff desk_serialGrabXoffFromIsr e₁ _ _ _).moves

theorem flushes_abortReads (hserved : Served .read e) : Flushes .readQueue e e.abortReads := by
  refine flushes_serialFlushRequests fun e₁ hdesk => ?_
  have hserved₁ : Served .read e₁ := (served_purge hserved .readQueue).of_desk hdesk
  exact moves_tryToCompleteRead (e := e₁.setCountOnLastRead completeReadCancel)
    desk_serialGrabReadFromIsr hserved₁ _ _

/-- Each part of the mask clears a queue or does nothing. -/
theorem moves_purge [Uart U] (hacc : Accounted e) (r : Request) :
    Moves Clears e (e.purge r) := by
  unfold Extension.purge
  split
  · next mask _ =>
    have htx : Moves Clears e (e.purgeTx mask) := by
      unfold purgeTx
      split
      · exact (flushes_abortWrites e).moves.trans (moves_abortXoff _)
      · exact .refl _
    have hacc' : Accounted (e.purgeTx mask) := by
      unfold purgeTx
      split
      · exact (anything.abortXoff id id _ (anything.abortWrites id id e hacc).1).1
      · exact hacc
    have hrx : Moves Clears (e.purgeTx mask) ((e.purgeTx mask).purgeRx mask) := by
      unfold purgeRx
      split
      · exact (flushes_abortReads (hacc'.serves .read)).moves
      · exact .refl _
    refine htx.trans (hrx.trans (.of_eq ?_))
    unfold purgeBuffer
    split
    · exact desk_serialPurgeInterruptBuff _
    · rfl
  · exact .refl _

theorem moves_serialCommError [Uart U] (hacc : Accounted e) : Moves Clears e e.serialCommError :=
  (flushes_abortWrites e).moves.trans (flushes_abortReads
    ((anything.abortWrites id id e hacc).1.serves .read)).moves

end SerialFc
