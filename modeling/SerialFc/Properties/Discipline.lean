import SerialFc.Lib.Run
import SerialFc.Model.Chip
import SerialFc.Properties.ReadReferences

/-!
# Reference discipline of whole runs

`Disciplined` says of reads, writes, immediate characters and requests to wait that the reference
count is the set of agents. Every step keeps it: a step that works for a slot by what has been
proved of its routines, any other step by `tracked_rule`.
-/

namespace SerialFc

open Extension Lib

variable {U : Type} [Uart U] {e e' : Extension U}

/-! ## Callbacks for one slot -/

omit [Uart U] in
/-- Between callbacks `ReadDPC` is starting no read. -/
theorem not_starting {s : Slot} (hpc : e.pc = .idle) : ¬e.Starting s := fun hs => hs.2 hpc

/-- A callback that does not work for the slot. -/
theorem tracked_callback_other {s : Slot} (hacc : Accounted e) (h : Tracked s e) {c : Callback}
    (hc : e.enabled c = true) (hother : c.worksFor s = false) : Tracked s (e.callback c) :=
  ((tracked_rule s).callback e c (fun t ht hs => by rw [hs, hother] at ht; cases ht) hc hacc).2 h

omit [Uart U] in
/-- The framework calls the cancel routine of the request in the slot. -/
theorem calledFor_cancel {s : Slot} (h : Tracked s e) (hc : e.enabled (.cancelRoutine s) = true) :
    CalledFor (e.modifyCurrent s fun r => { r with cancelable := .none }) s .cancel := by
  simp only [enabled] at hc
  split at hc
  · next r hr => exact h.takeCancel hr (by simpa using hc)
  · cases hc

/-- Purges of the read side keep the references of reads exact. -/
theorem aborts_read : Aborts (U := U) fun e e' => Tracked .read e → Tracked .read e' where
  writes := (tracked_rule .read).abortWrites (by decide) (by decide)
  xoff := (tracked_rule .read).abortXoff (by decide) (by decide)
  reads e hacc := ⟨(anything.abortReads id e hacc).1, fun h => tracked_abortReads h hacc⟩
  buffer e hacc := ⟨(anything.serialPurgeInterruptBuff id e hacc).1,
    fun h => tracked_serialPurgeInterruptBuff h⟩

/-- Every callback keeps the references of reads exact. -/
theorem tracked_callback_read (hacc : Accounted e) (h : Tracked .read e) {c : Callback}
    (hpc : e.pc = .idle) (hc : e.enabled c = true) : Tracked .read (e.callback c) := by
  cases hw : c.worksFor .read with
  | false => exact tracked_callback_other hacc h hc hw
  | true =>
    have hidle := not_starting (s := .read) hpc
    cases c with
    | evtIoRead n => exact tracked_serialEvtIoRead h n
    | setQueueSize n => exact tracked_ioctlSetQueueSize h n
    | purge m => exact ((tracked_rule .read).ioctlPurge e m (by decide) aborts_read hacc).2 h
    | dpc d =>
      have hacc' : Accounted (e.takeDpc d) := hacc.congr (fun _ => rfl) rfl
      cases d with
      | completeRead => exact tracked_serialCompleteRead hacc' (h.takeDpc rfl hc hidle)
      | commError =>
        have htake : Tracked .read (e.takeDpc .commError) :=
          h.of_same (.dpc_update e false (by decide))
        exact ((tracked_rule .read).serialCommError aborts_read _ hacc').2 htake
      | _ => cases hw
    | timer t =>
      have hacc' : Accounted (e.takeTimer t) := hacc.congr (fun _ => rfl) rfl
      cases t with
      | readRequestTotal =>
        exact tracked_serialReadTimeout hacc' (h.takeTimer .totalTimer rfl hc hidle)
      | readRequestInterval => exact tracked_serialIntervalReadTimeout h hacc hc hidle
      | _ => cases hw
    | cancelRoutine t =>
      have hacc' := hacc.modifyCurrent t (f := fun r => { r with cancelable := .none }) (by intro; rfl)
      cases t with
      | read => exact tracked_serialCancelCurrentRead hacc' (calledFor_cancel h hc)
      | _ => cases hw
    | canceledOnQueue i => exact tracked_runCanceledOnQueue h hacc i
    | _ => cases hw

/-! ### Writes -/

/-- A request comes to the write queue. -/
theorem tracked_writeQueue (hacc : Accounted e) (h : Tracked .write e) {body : Body} {length : Nat}
    {buffer : List UInt8} (hserves : Slot.write.serves body = true)
    (hlen : (Request.new e.nextId body length buffer).isWrite = true → 0 < length) :
    Tracked .write (e.takeId.serialStartOrQueue (Request.new e.nextId body length buffer) .writeQueue
      .write serialStartWrite) := by
  refine h.takeId.serialStartOrQueue .write fun hnone => ?_
  have harrive := h.takeId.arrive hnone (charsQueued (Request.new e.nextId body length buffer))
    e.nextId body length buffer
  exact tracked_serialStartWrite (anything.arrive e id hserves hnone _ hacc).1
    ⟨harrive, _, by rw [current_setCurrent, if_pos rfl], hlen⟩

theorem tracked_serialEvtIoWrite (hacc : Accounted e) (h : Tracked .write e)
    (payload : List UInt8) : Tracked .write (e.serialEvtIoWrite payload) :=
  h.accept (rel_ite (R := fun _ => Tracked .write) (e := e) (fun _ => h.takeId.refuse _ _ _ _ _)
    (fun hne => tracked_writeQueue hacc h rfl fun _ => Nat.pos_of_ne_zero hne))

theorem tracked_ioctlXoffCounter (hacc : Accounted e) (h : Tracked .write e) (t n : Nat)
    (c : UInt8) : Tracked .write (e.ioctlXoffCounter t n c) :=
  h.accept (rel_ite (R := fun _ => Tracked .write) (e := e) (fun _ => h.takeId.refuse _ _ _ _ _)
    (fun _ => tracked_writeQueue hacc h rfl nofun))

/-- A held XOFF counter is cancelled as any other write request is. -/
theorem tracked_abortXoff (hacc : Accounted e) (h : Tracked .write e) :
    Tracked .write e.abortXoff := by
  have hrule := tracked_rule (U := U) .write
  have hpurge := h.wdfIoQueuePurge .writeQueue
  have hcancel := (hrule.cancelCurrent (s := .xoff) _ (by decide)
    (hrule.serialCancelCurrentXoff (by decide)) (hacc.wdfIoQueuePurge .writeQueue)).2 hpurge
  exact hcancel.putQueue _ _

/-- Purges of the write side keep the references of writes exact. -/
theorem aborts_write : Aborts (U := U) fun e e' => Tracked .write e → Tracked .write e' where
  writes e hacc := ⟨(anything.abortWrites id id e hacc).1, fun h =>
    tracked_serialFlushRequests h hacc .writeQueue fun _ => tracked_serialCancelCurrentWrite⟩
  xoff e hacc := ⟨(anything.abortXoff id id e hacc).1, fun h => tracked_abortXoff hacc h⟩
  reads := (tracked_rule .write).abortReads (by decide)
  buffer := (tracked_rule .write).serialPurgeInterruptBuff (by decide)

/-- Every callback keeps the references of writes exact. -/
theorem tracked_callback_write (hacc : Accounted e) (h : Tracked .write e) {c : Callback}
    (hc : e.enabled c = true) : Tracked .write (e.callback c) := by
  cases hw : c.worksFor .write with
  | false => exact tracked_callback_other hacc h hc hw
  | true =>
    have hidle : ¬e.Starting .write := not_starting_of_ne (by decide)
    cases c with
    | evtIoWrite payload => exact tracked_serialEvtIoWrite hacc h payload
    | xoffCounter t n c => exact tracked_ioctlXoffCounter hacc h t n c
    | purge m => exact ((tracked_rule .write).ioctlPurge e m (by decide) aborts_write hacc).2 h
    | flushStop =>
      have hstop := h.putQueue .writeQueue { e.queue .writeQueue with started := false }
      exact hstop.of_sameAgents ⟨rfl, rfl, rfl, rfl, rfl⟩ nofun h.released
    | flushStart =>
      have hstart : Tracked .write (e.wdfIoQueueStart .writeQueue) := h.putQueue .writeQueue _
      exact hstart.of_sameAgents ⟨rfl, rfl, rfl, rfl, rfl⟩ nofun h.released
    | dpc d =>
      have hacc' : Accounted (e.takeDpc d) := hacc.congr (fun _ => rfl) rfl
      cases d with
      | completeWrite => exact tracked_serialCompleteWrite hacc' (h.takeDpc rfl hc hidle)
      | commError =>
        have htake : Tracked .write (e.takeDpc .commError) :=
          h.of_same (.dpc_update e false (by decide))
        exact ((tracked_rule .write).serialCommError aborts_write _ hacc').2 htake
      | _ => cases hw
    | timer t =>
      have hacc' : Accounted (e.takeTimer t) := hacc.congr (fun _ => rfl) rfl
      cases t with
      | writeRequestTotal =>
        exact tracked_serialWriteTimeout hacc' (h.takeTimer .totalTimer rfl hc hidle)
      | _ => cases hw
    | cancelRoutine t =>
      have hacc' := hacc.modifyCurrent t (f := fun r => { r with cancelable := .none }) (by intro; rfl)
      cases t with
      | write => exact tracked_serialCancelCurrentWrite hacc' (calledFor_cancel h hc)
      | _ => cases hw
    | canceledOnQueue i => exact tracked_runCanceledOnQueue h hacc i
    | _ => cases hw

/-! ### Immediate characters -/

theorem tracked_ioctlImmediateChar (h : Tracked .immediate e) (c : UInt8) :
    Tracked .immediate (e.ioctlImmediateChar c) := by
  refine h.accept (rel_ite (R := fun _ => Tracked .immediate) (e := e)
    (fun _ => h.takeId.refuse _ _ _ _ _) fun hfree => ?_)
  have hnone : e.current .immediate = none := by
    have hsome : ¬(e.current .immediate).isSome = true := hfree
    rwa [Option.not_isSome_iff_eq_none] at hsome
  have harrive := h.takeId.arrive hnone 1 e.nextId (.immediateChar c) 0 [c]
  exact tracked_serialStartImmediate harrive (by rw [current_setCurrent, if_pos rfl]) c

/-- Every callback keeps the references of immediate characters exact. -/
theorem tracked_callback_immediate (hacc : Accounted e) (h : Tracked .immediate e) {c : Callback}
    (hc : e.enabled c = true) : Tracked .immediate (e.callback c) := by
  cases hw : c.worksFor .immediate with
  | false => exact tracked_callback_other hacc h hc hw
  | true =>
    have hidle : ¬e.Starting .immediate := not_starting_of_ne (by decide)
    cases c with
    | immediateChar c => exact tracked_ioctlImmediateChar h c
    | dpc d =>
      have hacc' : Accounted (e.takeDpc d) := hacc.congr (fun _ => rfl) rfl
      cases d with
      | completeImmediate => exact tracked_serialCompleteImmediate hacc' (h.takeDpc rfl hc hidle)
      | _ => cases hw
    | timer t =>
      have hacc' : Accounted (e.takeTimer t) := hacc.congr (fun _ => rfl) rfl
      cases t with
      | immediateTotal =>
        exact tracked_serialTimeoutImmediate hacc' (h.takeTimer .totalTimer rfl hc hidle)
      | _ => cases hw
    | cancelRoutine t =>
      have hacc' := hacc.modifyCurrent t (f := fun r => { r with cancelable := .none }) (by intro; rfl)
      cases t with
      | immediate => exact tracked_serialCancelImmediate hacc' (calledFor_cancel h hc)
      | _ => cases hw
    | canceledOnQueue i => exact tracked_runCanceledOnQueue h hacc i
    | _ => cases hw

/-! ### Requests to wait -/

/-- Every callback keeps the references of waits exact. -/
theorem tracked_callback_wait (h : MaskReady e) {c : Callback} (hc : e.enabled c = true) :
    Tracked .wait (e.callback c) := by
  cases hw : c.worksFor .wait with
  | false => exact tracked_callback_other h.accounted h.wait hc hw
  | true =>
    have hidle : ¬e.Starting .wait := not_starting_of_ne (by decide)
    cases c with
    | setWaitMask m => exact (maskReady_ioctlSetWaitMask h m).wait
    | waitOnMask => exact (maskReady_ioctlWaitOnMask h).wait
    | dpc d =>
      have hacc' : Accounted (e.takeDpc d) := h.accounted.congr (fun _ => rfl) rfl
      cases d with
      | commWait => exact tracked_serialCompleteWait hacc' (h.wait.takeDpc rfl hc hidle)
      | _ => cases hw
    | cancelRoutine t =>
      have hacc' := h.accounted.modifyCurrent t (f := fun r => { r with cancelable := .none })
        (by intro; rfl)
      cases t with
      | wait => exact tracked_serialCancelWait hacc' (calledFor_cancel h.wait hc)
      | _ => cases hw
    | canceledOnQueue i => exact tracked_runCanceledOnQueue h.wait h.accounted i
    | timer t => cases t <;> cases hw
    | _ => cases hw

/-! ### Mask requests, which nobody attends to -/

/-- No callback leaves a reference on a mask request. -/
theorem unheld_callback_mask (h : MaskReady e) {c : Callback} (hc : e.enabled c = true) :
    Unheld .mask (e.callback c) := by
  cases hw : c.worksFor .mask with
  | false =>
    exact ((unheld_rule .mask).callback e c (fun t ht hs => by rw [hs, hw] at ht; cases ht) hc
      h.accounted).2 h.mask
  | true =>
    cases c with
    | setWaitMask m => exact (maskReady_ioctlSetWaitMask h m).mask
    | waitOnMask => exact (maskReady_ioctlWaitOnMask h).mask
    | dpc d => cases d <;> cases hw
    | timer t => cases t <;> cases hw
    | cancelRoutine t =>
      cases t with
      | mask =>
        simp only [enabled] at hc
        split at hc
        · next r hr =>
          rw [(h.mask.marks r hr).2.1] at hc
          cases hc
        · cases hc
      | _ => cases hw
    | canceledOnQueue i =>
      show Unheld .mask (e.runCanceledOnQueue i)
      unfold runCanceledOnQueue
      split
      · exact h.mask
      · next r hr =>
        have hfresh := h.accounted.canceled r (List.mem_of_getElem? hr)
        have hmoved : Unheld .mask ({ e with
            canceledOnQueue := e.canceledOnQueue.eraseIdx i }.addCharsQueued (-charsQueued r)) :=
          h.mask.of_sameAgents ⟨rfl, rfl, rfl, rfl, rfl⟩ h.mask.released
        refine hmoved.completeNew ?_ ?_ <;> rw [hfresh] <;> rfl
    | _ => cases hw

/-! ## Steps -/

/-- Requests are accounted for, and every slot that is counted has its references in order. -/
structure Disciplined (e : Extension U) : Prop where
  accounted : Accounted e
  read : Tracked .read e
  write : Tracked .write e
  immediate : Tracked .immediate e
  wait : Tracked .wait e
  mask : Unheld .mask e

theorem Disciplined.callback (h : Disciplined e) {c : Callback} (hpc : e.pc = .idle)
    (hc : e.enabled c = true) : Disciplined (e.callback c) where
  accounted := (anything.callback e c (fun _ _ => id) hc h.accounted).1
  read := tracked_callback_read h.accounted h.read hpc hc
  write := tracked_callback_write h.accounted h.write hc
  immediate := tracked_callback_immediate h.accounted h.immediate hc
  wait := tracked_callback_wait ⟨h.accounted, h.wait, h.mask⟩ hc
  mask := unheld_callback_mask ⟨h.accounted, h.wait, h.mask⟩ hc

omit [Uart U] in
theorem timerId_of_slot {t : TimerId} {s : Slot} (h : t.slot = some s) :
    ∃ ref, timerId s ref = some t := by
  cases t <;> cases h
  · exact ⟨.totalTimer, rfl⟩
  · exact ⟨.intTimer, rfl⟩
  · exact ⟨.totalTimer, rfl⟩
  · exact ⟨.totalTimer, rfl⟩
  · exact ⟨.totalTimer, rfl⟩

/-- A step that is no callback. -/
theorem tracked_step_other {s : Slot} (hacc : Accounted e) (h : Tracked s e)
    {l : Label (Uart.Input U)} (hstep : step l e = some e') (hl : ∀ c, l ≠ .callback c)
    (hxoff : s ≠ .xoff) : Tracked s e' := by
  cases hw : l.worksFor s with
  | false =>
    exact ((tracked_rule s).step hstep (fun t ht hs => by rw [hs, hw] at ht; cases ht) hacc).2 h
  | true =>
    cases fires_of_step hstep with
    | @expire t hqueued =>
      obtain ⟨ref, href⟩ := timerId_of_slot (t := t) (s := s) (by simpa [Label.worksFor] using hw)
      exact h.expire ref href hqueued
    | @cancel t r hr =>
      obtain rfl : s = t := by simpa [Label.worksFor] using hw
      exact h.cancel hr
    | cancelAbandoned i => exact absurd (by simpa [Label.worksFor] using hw) hxoff
    | @cancelWaiting q i r hr =>
      have hput := h.putQueue q { e.queue q with waiting := (e.queue q).waiting.eraseIdx i }
      exact hput.of_sameAgents ⟨rfl, by cases s <;> rfl, by cases s <;> rfl, rfl, rfl⟩
        (fun _ => rfl) h.released
    | readStep hpc =>
      obtain rfl : s = .read := by simpa [Label.worksFor] using hw
      exact tracked_serialStartReadStep h hacc
    | @callback c hpc hc => exact absurd rfl (hl c)
    | hardware x => cases hw
    | isr hpass => cases hw
    | tick n => cases hw

theorem unheld_step_mask (hacc : Accounted e) (h : Unheld .mask e) {l : Label (Uart.Input U)}
    (hstep : step l e = some e') (hl : ∀ c, l ≠ .callback c) : Unheld .mask e' := by
  cases hw : l.worksFor .mask with
  | false =>
    exact ((unheld_rule .mask).step hstep (fun t ht hs => by rw [hs, hw] at ht; cases ht) hacc).2 h
  | true =>
    cases fires_of_step hstep with
    | @cancel t r hr =>
      obtain rfl : Slot.mask = t := by simpa [Label.worksFor] using hw
      obtain ⟨hrefs, hcancelable, hroutine⟩ := h.marks r hr
      refine ⟨⟨rfl, rfl, rfl, rfl⟩, fun r' hr' => ?_, h.released⟩
      rw [current_setCurrent, if_pos rfl] at hr'
      cases hr'
      exact ⟨hrefs, by simp [Request.markCanceled, hcancelable], hroutine⟩
    | cancelWaiting hr => exact h.of_sameAgents ⟨rfl, rfl, rfl, rfl, rfl⟩ h.released
    | @callback c hpc hc => exact absurd rfl (hl c)
    | @expire t hqueued => cases t <;> cases hw
    | _ => cases hw

/-- **Step lemma.** -/
theorem Disciplined.step (h : Disciplined e) {l : Label (Uart.Input U)} (hstep : step l e = some e') :
    Disciplined e' := by
  by_cases hl : ∀ c, l ≠ .callback c
  · exact ⟨(anything.step hstep (fun _ _ => id) h.accounted).1,
      tracked_step_other h.accounted h.read hstep hl (by decide),
      tracked_step_other h.accounted h.write hstep hl (by decide),
      tracked_step_other h.accounted h.immediate hstep hl (by decide),
      tracked_step_other h.accounted h.wait hstep hl (by decide),
      unheld_step_mask h.accounted h.mask hstep hl⟩
  · simp only [ne_eq, not_forall, not_not] at hl
    obtain ⟨c, rfl⟩ := hl
    obtain ⟨hpc, hc, rfl⟩ := callback_of_step hstep
    exact h.callback hpc hc

/-! ## Runs -/

omit [Uart U] in
theorem unheld_opened (u : U) (cfg : Config) (size : Nat) (s : Slot) :
    Unheld s (opened u cfg size) := by
  have hnone : (opened u cfg size).current s = none := rfl
  refine ⟨⟨by cases s <;> rfl, by cases s <;> rfl, by cases s <;> rfl, by cases s <;> rfl⟩,
    fun r hr => ?_, fun r hr => ?_⟩
  · rw [hnone] at hr
    cases hr
  · cases hr

omit [Uart U] in
theorem disciplined_opened (u : U) (cfg : Config) (size : Nat) :
    Disciplined (opened u cfg size) := by
  have htracked (s : Slot) : Tracked s (opened u cfg size) :=
    (unheld_opened u cfg size s).tracked_of_none rfl (not_starting rfl)
  exact ⟨accounted_opened u cfg size, htracked _, htracked _, htracked _, htracked _,
    unheld_opened u cfg size _⟩

/-- **Run lemma.** -/
theorem disciplined_run {u : U} {cfg : Config} {size : Nat} {ls : List (Label (Uart.Input U))}
    (hrun : run step ls (opened u cfg size) = some e) : Disciplined e :=
  run_invariant (fun _ _ _ hstep h => h.step hstep) hrun (disciplined_opened u cfg size)

/-- The slots whose requests are counted exactly. -/
def Slot.counted : Slot → Bool
  | .read | .write | .immediate | .wait => true
  | .mask | .purge | .xoff => false

omit [Uart U] in
theorem Disciplined.tracked (h : Disciplined e) {s : Slot} (hs : s.counted = true) : Tracked s e := by
  cases s with
  | read => exact h.read
  | write => exact h.write
  | immediate => exact h.immediate
  | wait => exact h.wait
  | _ => cases hs

/-- The reference discipline in one state. An agent left over from a completed request would be
one too many for the slot it belongs to. -/
structure ReferenceDiscipline (e : Extension U) : Prop where
  /-- The reference count is the set of the agents that can still touch the request. -/
  exact : ∀ (s : Slot) r, s.counted = true → e.current s = some r → r.refCount = e.agents s r
  /-- Once started, a request that is not completed has an agent left. -/
  held : ∀ (s : Slot) r, s.counted = true → e.current s = some r → ¬e.Starting s → r.refCount ≠ .zero
  /-- With no request in the slot, no agent is at work for it. -/
  free : ∀ s : Slot, s.counted = true → e.current s = none → e.Unattended s
  /-- What has been completed was held by nobody. -/
  released : ∀ s : Slot, s.counted = true → ∀ r ∈ e.done, s.finishes r.body = true →
    r.refCount = .zero ∧ r.cancelable = .none
  /-- A request is in exactly one place, so it is completed at most once. -/
  once : ∀ i < e.nextId, e.places i = 1
  /-- Only XOFF counters lose their slot without being completed. -/
  kept : ∀ r ∈ e.abandoned, Slot.xoff.serves r.body = true

/-- **Reference discipline.** In every reachable state the reference counts of reads, writes,
immediate characters and requests to wait are their sets of agents, and each is completed once,
when the last agent has let go. -/
theorem reference_discipline {u : U} {cfg : Config} {size : Nat} {ls : List (Label (Uart.Input U))}
    (hrun : run step ls (opened u cfg size) = some e) : ReferenceDiscipline e where
  exact s r hs hr := (((disciplined_run hrun).tracked hs).owes r hr).refs
  held s r hs hr hidle := (((disciplined_run hrun).tracked hs).held r hr hidle).1
  free s hs hnone := (((disciplined_run hrun).tracked hs).vacant hnone).1
  released s hs := ((disciplined_run hrun).tracked hs).released
  once i hi := by rw [(disciplined_run hrun).accounted.once i, if_pos hi]
  kept := (disciplined_run hrun).accounted.lost

/-- A write that is sent, and a read that waits for its second character. -/
def readAndWrite : List (Label Chip.Input) :=
  [.callback (.evtIoWrite [1, 2]), .isr 4, .callback (.dpc .completeWrite),
    .callback (.evtIoRead 2), .readStep, .readStep, .readStep, .readStep, .readStep,
    .hardware (.receive ⟨7, 0⟩), .isr 4]

theorem reference_discipline_readAndWrite :
    ∃ e, run step readAndWrite (opened Chip.idle .plain 8) = some e ∧
      ((e.current .read).isSome && e.done.length == 1) = true ∧ ReferenceDiscipline e := by
  have hrun : (run step readAndWrite (opened Chip.idle .plain 8)).any
      (fun e => (e.current .read).isSome && e.done.length == 1) = true := by decide +kernel
  obtain ⟨e, he, hboth⟩ := (Option.any_eq_true _ _).mp hrun
  exact ⟨e, he, hboth, reference_discipline he⟩

end SerialFc
