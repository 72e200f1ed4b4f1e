import SerialFc.Properties.PurgeBarrier
import SerialFc.Properties.ReadWaits

/-!
# Interval timeouts

`SerialIntervalReadTimeout` ends a read for want of characters only when one has come, and none that
the driver has not seen for an interval; or it ends the read in place of another callback that ran
for this same read. What `CountOnLastRead` was for an earlier read does not matter, since
`SerialUpdateAndSwitchToUser` comes before the timer is set.

* `right_step` — the notes of the observer stay right
* `outcome_tick` — what the routine does, by what has been noted
* `interval_timeout` — the same for runs
-/

namespace SerialFc

open Extension Lib

variable {U : Type} {e e' e'' : Extension U} {w : ReadWatch}

/-! ## Starting reads -/

/-- Code under the interrupt lock leaves the notes of the timers alone. -/
theorem notes_interruptRule [Uart U] : InterruptRule fun e e' : Extension U =>
    e'.rx.lastReadTime = e.rx.lastReadTime where
  refl _ := rfl
  trans h h' := h'.trans h
  readReg _ _ := rfl
  writeReg _ _ _ _ _ := rfl
  fillFscc _ := rfl
  writeData _ _ := rfl
  events _ _ _ _ := rfl
  txHolding _ _ := rfl
  holdingEmpty _ _ := rfl
  special _ b := by cases b <;> rfl
  rxHolding _ _ := rfl
  tryingToLowerRts _ _ := rfl
  insertDpc _ _ _ := rfl
  answerWait e _ := congrArg Rx.lastReadTime (rx_modifyCurrent ..)
  countXoff e := by
    unfold countXoff
    split
    · rfl
    split
    · exact congrArg Rx.lastReadTime (rx_modifyCurrent ..)
    · rfl
  storeUser e c _ := by
    have hput : (e.putUser c).rx.lastReadTime = e.rx.lastReadTime := by
      unfold putUser
      rw [rx_modifyCurrent]
    unfold storeUser
    split
    · exact (congrArg Rx.lastReadTime (rx_modifyCurrent ..)).trans hput
    · exact hput
  putRing _ _ _ _ := rfl
  overwriteLast _ _ _ := rfl
  handFlow _ _ := rfl
  emptied _ := rfl
  logSpecial _ _ _ := rfl
  xonSent _ := rfl
  xoffSent _ := rfl
  immediateSent _ _ := rfl
  advanceWrite e n _ _ := by
    unfold advanceWrite
    split
    · exact congrArg Rx.lastReadTime (rx_modifyCurrent ..)
    · rfl

theorem noWait_loopRead (e : Extension U) : e.loopRead.NoWait := by
  intro r hr
  have hsome : e.current .read = some r := hr
  have hpc : e.loopRead.pc = .start := by
    show (if (e.current .read).isSome then ReadPc.start else .idle) = .start
    rw [hsome]
    rfl
  rw [hpc]
  exact ⟨ReadPc.noConfusion, fun l => ReadPc.noConfusion⟩

theorem right_nextRead (h : w.observedAt = e.rx.lastReadTime) : w.Right e.nextRead := by
  refine .of_noWait (noWait_loopRead _) ?_
  show w.observedAt = (e.serialGetNextRequest .read .readQueue true).rx.lastReadTime
  rw [rx_getNext]
  exact h

theorem right_succeedRead (h : w.observedAt = e.rx.lastReadTime) : w.Right e.succeedRead := by
  refine right_nextRead ?_
  rw [rx_modifyCurrent]
  exact h

theorem right_goto {pc : ReadPc} (hidle : pc ≠ .idle) (harm : ∀ l, pc ≠ .arm l)
    (h : w.observedAt = e.rx.lastReadTime) : w.Right (e.goto pc) :=
  .of_noWait (fun _ _ => ⟨hidle, harm⟩) h

section

theorem time_copyToUser (offset number : Nat) (e : Extension U) :
    (e.copyToUser offset number).rx.lastReadTime = e.rx.lastReadTime := by
  unfold copyToUser
  rw [rx_modifyCurrent]

theorem time_addInformation (number : Nat) (e : Extension U) :
    (e.addInformation number).rx.lastReadTime = e.rx.lastReadTime := by
  unfold addInformation
  rw [rx_modifyCurrent]

theorem time_copyWhole (number : Nat) (e : Extension U) :
    (e.copyWhole number).rx.lastReadTime = e.rx.lastReadTime :=
  (time_addInformation _ _).trans (time_copyToUser _ _ e)

theorem time_copyRest (number firstTry : Nat) (e : Extension U) :
    (e.copyRest number firstTry).rx.lastReadTime = e.rx.lastReadTime :=
  (time_addInformation _ _).trans (time_copyToUser _ _ e)

theorem time_getChars (number : Nat) (e : Extension U) :
    (e.getChars number).rx.lastReadTime = e.rx.lastReadTime := by
  unfold getChars
  split
  · rfl
  split
  · exact time_copyWhole number e
  · exact (time_copyRest _ _ _).trans (time_copyToUser _ _ e)

theorem time_initRead (l : ReadStart) (e : Extension U) :
    (e.initRead l).rx.lastReadTime = e.rx.lastReadTime := by
  unfold initRead
  split
  · rw [rx_modifyCurrent]
    rfl
  · rw [rx_modifyCurrent]

variable [Uart U]

theorem time_serialUpdateInterruptBuffer (charsCopied : Nat) (e : Extension U) :
    (e.serialUpdateInterruptBuffer charsCopied).rx.lastReadTime = e.rx.lastReadTime :=
  notes_interruptRule.lockRule.serialHandleReducedIntBuffer (e.removeChars charsCopied)

theorem time_getCharsAgain (e : Extension U) :
    e.getCharsAgain.rx.lastReadTime = e.rx.lastReadTime :=
  (time_serialUpdateInterruptBuffer _ _).trans (time_getChars _ e)

theorem time_serialUpdateAndSwitchToNew (number : Nat) (buffer : List UInt8) (e : Extension U) :
    (e.serialUpdateAndSwitchToNew number buffer).rx.lastReadTime = e.rx.lastReadTime :=
  notes_interruptRule.lockRule.serialHandleReducedIntBuffer _

end

theorem right_beginRead (h : w.observedAt = e.rx.lastReadTime) (r : Request) :
    w.Right (e.beginRead r) := by
  unfold beginRead
  split
  · unfold beginResize
    have htime : w.observedAt = (e.modifyCurrent .read fun r =>
        { r with information := 0, status := .success }).rx.lastReadTime := by
      rw [rx_modifyCurrent]
      exact h
    split
    · exact right_nextRead htime
    · exact right_goto ReadPc.noConfusion (fun l => ReadPc.noConfusion) htime
  · refine right_goto ReadPc.noConfusion (fun l => ReadPc.noConfusion) ?_
    unfold setIntervalTime
    split <;> exact h

/-- The ISR is pointed at the reader's buffer: the read waits with what it has got. -/
theorem right_switchToUser (h : w.observedAt = e.rx.lastReadTime) (l : ReadStart) :
    ReadWatch.Right { w with seen := (e.switchToUser.goto (.arm l)).charsOfRead, ended := none }
      (e.switchToUser.goto (.arm l)) := by
  unfold switchToUser
  split
  · next hnone =>
    refine .of_noWait (fun r hr => ?_) h
    exact absurd (hnone.symm.trans hr) (Option.some_ne_none r).symm
  · next r hr =>
    have hcur : ({ e with rx := { e.rx with
        countOnLastRead := r.information
        readByIsr := 0
        readBufferBase := .user
        currentCharSlot := r.information
        lastCharSlot := r.length - 1 } } : Extension U).current .read = some r := hr
    rw [modifyCurrent_of_some _ hcur]
    refine ⟨h, fun _ r' _ => ⟨rfl, .inl ⟨rfl, ?_, fun hne => ?_⟩⟩⟩
    · exact Int.natCast_nonneg _
    · have hne' : (r.information : Int) ≠ 0 := hne
      show 0 < r.information
      omega

theorem right_finishCopy [Uart U] (h : w.Right e) {l : ReadStart} {charsCopied : Nat}
    (hpc : e.pc = .copied l charsCopied) (r : Request) :
    (w.noteWait e (e.finishCopy l charsCopied r)).Right (e.finishCopy l charsCopied r) := by
  have hnote (e' : Extension U) :
      w.noteWait e e' = { w with seen := e'.charsOfRead, ended := none } := by
    unfold ReadWatch.noteWait
    rw [hpc]
  rw [hnote]
  have htime : w.observedAt = e.rx.lastReadTime := h.time
  unfold finishCopy
  split
  · refine right_succeedRead ?_
    rw [time_serialUpdateInterruptBuffer]
    exact htime
  · have hagain : w.observedAt =
        ((e.initRead l).serialUpdateInterruptBuffer charsCopied).getCharsAgain.rx.lastReadTime := by
      rw [time_getCharsAgain, time_serialUpdateInterruptBuffer, time_initRead]
      exact htime
    unfold succeedOrSwitch
    split
    · exact right_succeedRead hagain
    · exact right_switchToUser hagain l

/-- The timers are set, and the read is on its own. -/
theorem right_armRead (h : w.Right e) {l : ReadStart} (hpc : e.pc = .arm l) {r : Request}
    (hr : e.current .read = some r) : (w.noteWait e (e.armRead l)).Right (e.armRead l) := by
  have htimer (t : TimerId) (ref : Ref) (e : Extension U) :
      Bookkeeping .read e (e.setTimerWithReference .read t ref) := by
    have hset : Bookkeeping .read e (e.serialSetTimer t).2 := .timer .read e _
    exact rel_ite (fun _ => hset) fun _ => hset.trans (.modifyCurrent _ .read (by intro; rfl))
  have hcancel : Bookkeeping .read e (e.modifyCurrent .read (·.serialSetCancelRoutine)) :=
    .modifyCurrent e .read (by intro; rfl)
  have htotal : Bookkeeping .read e
      ((e.modifyCurrent .read (·.serialSetCancelRoutine)).armTotalTimer l) :=
    hcancel.trans (rel_ite (fun _ => htimer _ _ _) fun _ => .refl .read _)
  have hidle {v : ReadWatch} {e : Extension U} (hpc : e.pc = .arm l) (hv : v.Right e) :
      v.Right (e.goto .idle) := ⟨hv.time, fun _ r hr => hv.wait (.inr ⟨l, hpc⟩) r hr⟩
  have hnote : w.noteWait e (e.armRead l) =
      if l.useIntervalTimer then { w with observedAt := e.clock } else w := by
    unfold ReadWatch.noteWait
    rw [hpc, hr]
    simp
  have hright := h.alike (.of_bookkeeping htotal)
  have hpc₁ := htotal.pc.trans hpc
  have hclock : ((e.modifyCurrent .read (·.serialSetCancelRoutine)).armTotalTimer l).clock =
      e.clock := by
    rw [htotal.rest]
  rw [hnote]
  unfold armRead armIntervalTimer
  generalize (e.modifyCurrent .read (·.serialSetCancelRoutine)).armTotalTimer l = e₁ at *
  split
  · have hset : ReadWatch.Right { w with observedAt := e.clock } e₁.setLastReadTime :=
      ⟨hclock.symm, hright.wait⟩
    have hbook := htimer .readRequestInterval .intTimer e₁.setLastReadTime
    exact hidle (hbook.pc.trans hpc₁) (hset.alike (.of_bookkeeping hbook))
  · exact hidle hpc₁ hright

theorem right_readStep [Uart U] (h : w.Right e) (hpc : e.pc ≠ .idle) :
    (w.noteWait e e.serialStartReadStep).Right e.serialStartReadStep := by
  cases hcurrent : e.current .read with
  -- nothing to serve: the step crashes
  | none =>
    have hstep : e.serialStartReadStep = e.crash := by
      unfold serialStartReadStep
      rw [hcurrent]
      split <;> first | rfl | contradiction
    rw [hstep]
    refine .of_noWait (fun r hr => absurd (hcurrent.symm.trans hr) (Option.some_ne_none r).symm) ?_
    unfold ReadWatch.noteWait
    rw [hcurrent]
    split
    · exact h.time
    · rw [if_neg (by simp)]
      exact h.time
    · exact h.time
  | some r =>
    have htime : w.observedAt = e.rx.lastReadTime := h.time
    -- only two pieces are noted: the end of a copy and the arming of the timers
    have hnote (hcopied : ∀ l n, e.pc ≠ .copied l n) (harm : ∀ l, e.pc ≠ .arm l)
        (e' : Extension U) : w.noteWait e e' = w := by
      unfold ReadWatch.noteWait
      split
      · next hother => exact absurd hother (hcopied _ _)
      · next hother => exact absurd hother (harm _)
      · rfl
    -- a piece that goes on without a look at the time
    have hgoto {e₁ : Extension U} {pc : ReadPc} (hidle : pc ≠ .idle) (harm : ∀ l, pc ≠ .arm l)
        (hsame : e₁.rx.lastReadTime = e.rx.lastReadTime) : w.Right (e₁.goto pc) :=
      right_goto hidle harm (htime.trans hsame.symm)
    unfold serialStartReadStep
    rw [hcurrent]
    cases hp : e.pc with
    | idle => exact absurd hp hpc
    | copied l charsCopied => exact right_finishCopy h hp r
    | arm l => exact right_armRead h hp hcurrent
    | start =>
      rw [hnote (by simp [hp]) (by simp [hp])]
      exact right_beginRead htime r
    | sample l =>
      rw [hnote (by simp [hp]) (by simp [hp])]
      exact hgoto ReadPc.noConfusion (fun _ => ReadPc.noConfusion) rfl
    | copy l number =>
      rw [hnote (by simp [hp]) (by simp [hp])]
      dsimp only
      split
      · exact hgoto ReadPc.noConfusion (fun _ => ReadPc.noConfusion) rfl
      split
      · exact hgoto ReadPc.noConfusion (fun _ => ReadPc.noConfusion) (time_copyWhole number e)
      · exact hgoto ReadPc.noConfusion (fun _ => ReadPc.noConfusion) (time_copyToUser _ _ e)
    | copyRest l number first =>
      rw [hnote (by simp [hp]) (by simp [hp])]
      exact hgoto ReadPc.noConfusion (fun _ => ReadPc.noConfusion) (time_copyRest number first e)
    | move number =>
      rw [hnote (by simp [hp]) (by simp [hp])]
      dsimp only
      split
      · exact hgoto ReadPc.noConfusion (fun _ => ReadPc.noConfusion) rfl
      split <;> exact hgoto ReadPc.noConfusion (fun _ => ReadPc.noConfusion) rfl
    | moveRest number first buffer =>
      rw [hnote (by simp [hp]) (by simp [hp])]
      exact hgoto ReadPc.noConfusion (fun _ => ReadPc.noConfusion) rfl
    | moved number buffer =>
      rw [hnote (by simp [hp]) (by simp [hp])]
      exact right_nextRead
        (htime.trans (time_serialUpdateAndSwitchToNew number buffer e).symm)

/-! ## Callbacks and steps -/

section
variable {body : Body} {length : Nat} {buffer : List UInt8}

theorem right_accept (h : w.Right e) {k : Request → Extension U → Extension U}
    (hk : w.Right (k (Request.new e.nextId body length buffer) e.takeId)) :
    w.Right (e.accept body length buffer k) := by
  unfold accept
  split
  · exact h.congr rfl rfl rfl
  · exact hk

theorem right_readQueue (h : w.Right e) :
    w.Right (e.takeId.serialStartOrQueue (Request.new e.nextId body length buffer) .readQueue .read
      serialStartRead) := by
  unfold serialStartOrQueue
  split
  · exact right_goto ReadPc.noConfusion (fun _ => ReadPc.noConfusion) h.time
  unfold forwardToIoQueue
  split <;> exact h.congr rfl rfl rfl

end

theorem right_serialEvtIoRead (h : w.Right e) (n : Nat) : w.Right (e.serialEvtIoRead n) := by
  refine right_accept h ?_
  split
  · exact h.congr rfl rfl rfl
  · exact right_readQueue h

theorem right_ioctlSetQueueSize (h : w.Right e) (n : Nat) : w.Right (e.ioctlSetQueueSize n) := by
  refine right_accept h ?_
  split
  · exact h.congr rfl rfl rfl
  · exact right_readQueue h

theorem right_runCanceledOnQueue (h : w.Right e) (i : Nat) : w.Right (e.runCanceledOnQueue i) := by
  unfold runCanceledOnQueue
  split
  · exact h
  · exact h.congr rfl rfl rfl

variable [Uart U]

/-- The observer has nothing to note of a callback that does not work for reads. -/
theorem note_of_other {c : Callback} (hw : c.worksFor .read = false) (e e' : Extension U) :
    w.note e e' (.callback c) = w := by
  cases c with
  | purge m => cases hw
  | dpc d => cases d <;> first | rfl | cases hw
  | timer t => cases t <;> first | rfl | cases hw
  | cancelRoutine s => cases s <;> first | rfl | cases hw
  | _ => rfl

/-- A purge leaves the read alone, or it asks for it to be aborted and that is noted. -/
theorem right_ioctlPurge (h : ReadReady e) (hright : w.Right e) (hacc : Accounted e)
    (hunpurged : Unpurged e) (mask : UInt32) :
    (w.note e (e.ioctlPurge mask) (.callback (.purge mask))).Right (e.ioctlPurge mask) := by
  let reader := (e.current .read).map Request.id
  let Keeps (e₁ e₂ : Extension U) : Prop := Aborting (has32 mask purgeRxAbort = true) w reader e₁ →
    Aborting (has32 mask purgeRxAbort = true) w reader e₂
  have hrule : StepRule (· = .read) Keeps := aborting_rule _ w reader
  have hother : ¬Slot.purge = .read := by decide
  have hapart : Apart (· = .read) .purge := apart_purge hother
  have hstart : Guarded Keeps e (e.takeId.serialStartOrQueue
      (Request.new e.nextId (.purge mask) 0 []) .purgeQueue .purge serialStartPurge) := by
    rw [serialStartOrQueue_purge hacc hunpurged mask]
    have hserves : Slot.purge.serves (.purge mask) = true := rfl
    have harrive : Guarded Keeps e (started .purge (.purge mask) 0 [] e) :=
      hrule.arrive e hother hserves hunpurged.none _
    have hcur : (started .purge (.purge mask) 0 [] e).current .purge =
        some (Request.new e.nextId (.purge mask) 0 []) := (current_setCurrent ..).trans (if_pos rfl)
    have hbody : (Request.new e.nextId (.purge mask) 0 []).body = .purge mask := rfl
    unfold startPurgeOne
    rw [hcur]
    refine hrule.gtrans harrive (hrule.gtrans ?_ (hrule.getNext _ .purgeQueue hapart))
    refine hrule.gtrans (aborting_purge w reader hbody _) (hrule.modify _ hother ?_)
    exact fun _ => rfl
  have hpurge : Guarded Keeps e (e.ioctlPurge mask) :=
    hrule.accept hapart rfl (rel_ite (fun _ => hrule.refuse hapart rfl _) fun _ => hstart)
  have hend : Aborting (has32 mask purgeRxAbort = true) w reader (e.ioctlPurge mask) :=
    (hpurge hacc).2 (aborting_start h hright)
  unfold ReadWatch.note
  dsimp only [Callback.readStatus]
  by_cases hasked : has32 mask purgeRxAbort = true
  · rw [if_pos hasked]
    exact hend.noteEnd
  · rw [if_neg hasked]
    exact hend.right_of_not hasked

theorem right_callback (h : Watching w e) (hdis : Disciplined e) (hunpurged : Unpurged e)
    {c : Callback} (hpc : e.pc = .idle) (hc : e.enabled c = true) :
    (w.note e (e.callback c) (.callback c)).Right (e.callback c) := by
  have hacc := hdis.accounted
  have hidle := not_starting (s := .read) hpc
  have hready : ReadReady e := ⟨hdis.read, h.receiving, .inl hpc⟩
  cases hw : c.worksFor .read with
  | false =>
    -- a callback that does not work for reads: nothing about reads changes, and nothing is noted
    rw [note_of_other hw]
    exact (((watching_rule w).callback e c (fun t ht hs => by rw [hs, hw] at ht; cases ht) hc
      hacc).2 h).right
  | true =>
    -- what starts or ends a read, or lets one wait
    cases c with
    | evtIoRead n => exact right_serialEvtIoRead h.right n
    | setQueueSize n => exact right_ioctlSetQueueSize h.right n
    | purge m => exact right_ioctlPurge hready h.right hacc hunpurged m
    | dpc d =>
      have hacc' : Accounted (e.takeDpc d) := hacc.congr (fun _ => rfl) rfl
      cases d with
      -- the ISR has filled the read
      | completeRead =>
        obtain ⟨⟨r, howes⟩, -, -⟩ := hdis.read.takeDpc (d := .completeRead) rfl hc hidle
        have hr : e.current .read = some r := howes.current
        have htake : w.Right (e.takeDpc .completeRead) := h.right.congr rfl rfl rfl
        have hreceiving : (e.takeDpc .completeRead).Receiving := h.receiving.congr rfl rfl
        exact right_noteEnd htake hreceiving hr (by rw [hr]; rfl) (fun e _ => Alike.refl e) rfl .isr
      -- an error that aborts
      | commError =>
        have htake : Aborting True w ((e.current .read).map Request.id) (e.takeDpc .commError) :=
          (aborting_start hready h.right).of_same (.dpc_update e false (by decide))
        exact (((aborting_rule True w _).serialCommError (aborts_aborting trivial w _) _ hacc').2
          htake).noteEnd
      | _ => cases hw
    | timer t =>
      cases t with
      -- the total timer has run out
      | readRequestTotal =>
        obtain ⟨⟨r, howes⟩, -, -⟩ :=
          hdis.read.takeTimer .totalTimer (t := .readRequestTotal) rfl hc hidle
        have hr : e.current .read = some r := howes.current
        have htake : w.Right (e.takeTimer .readRequestTotal) := h.right.congr rfl rfl rfl
        have hreceiving : (e.takeTimer .readRequestTotal).Receiving := h.receiving.congr rfl rfl
        exact right_noteEnd htake hreceiving hr (by rw [hr]; rfl) (fun _ => Alike.grab) rfl
          .totalTimer
      -- the interval timer has run out: end the read or wait again
      | readRequestInterval =>
        obtain ⟨⟨r, howes⟩, -, -⟩ :=
          hdis.read.takeTimer .intTimer (t := .readRequestInterval) rfl hc hidle
        have hr : (e.takeTimer .readRequestInterval).current .read = some r := howes.current
        have htake : w.Right (e.takeTimer .readRequestInterval) := h.right.congr rfl rfl rfl
        have hreceiving : (e.takeTimer .readRequestInterval).Receiving := h.receiving.congr rfl rfl
        exact right_tick htake hreceiving hpc hr
      | _ => cases hw
    | cancelRoutine t =>
      cases t with
      -- its sender has withdrawn it
      | read =>
        obtain ⟨⟨r, howes⟩, -, -⟩ := calledFor_cancel hdis.read hc
        have hmark : Bookkeeping .read e (e.modifyCurrent .read fun r =>
            { r with cancelable := .none }) := .modifyCurrent e .read (by intro; rfl)
        have hid : (e.current .read).map Request.id = some r.id := by
          rw [← (Alike.of_bookkeeping hmark).id, howes.current]
          rfl
        exact right_noteEnd (h.right.alike (.of_bookkeeping hmark)) (h.receiving.bookkeeping hmark)
          howes.current hid (fun _ => Alike.grab) rfl .cancel
      | _ => cases hw
    | canceledOnQueue i => exact right_runCanceledOnQueue h.right i
    | _ => cases hw

/-- **Step lemma.** -/
theorem right_step (h : Watching w e) (hdis : Disciplined e) (hunpurged : Unpurged e)
    {l : Label (Uart.Input U)} (hstep : step l e = some e') : (w.note e e' l).Right e' := by
  cases hw : l.worksFor .read with
  | false =>
    have hright := (((watching_rule w).step hstep (fun t ht hs => by rw [hs, hw] at ht; cases ht)
      hdis.accounted).2 h).right
    cases l with
    | callback c =>
      rw [note_of_other hw]
      exact hright
    | readStep => cases hw
    | _ => exact hright
  | true =>
    cases fires_of_step hstep with
    | expire hqueued => exact h.right.congr rfl rfl rfl
    | @cancel t r hr =>
      obtain rfl : Slot.read = t := by simpa [Label.worksFor] using hw
      refine h.right.congr rfl rfl ?_
      rw [current_setCurrent, if_pos rfl, hr]
      rfl
    | cancelWaiting hr => exact h.right.congr rfl rfl rfl
    | readStep hpc => exact right_readStep h.right hpc
    | callback hpc hc => exact right_callback h hdis hunpurged hpc hc
    | _ => cases hw

/-! ## What the interval timer does -/

omit [Uart U] in
/-- They are the bytes that are in place in its buffer. -/
theorem length_placed (h : e.Receiving) (hpc : e.pc = .idle) {r : Request}
    (hr : e.current .read = some r) (hbody : r.body = .read) : e.placed.length = e.charsOfRead := by
  have hreader : e.reception.reader = some r.reader := congrArg (Option.map Request.reader) hr
  obtain ⟨-, hbuffer, hinfo⟩ := h.fits r.reader hreader hbody
  have hplaced : e.placed = r.systemBuffer.take e.charsOfRead := by
    show e.reception.placed e.pc = _
    rw [hpc]
    show e.reception.placedUser .idle = _
    unfold Reception.placedUser
    rw [hreader]
    refine (if_pos hbody).trans (congrArg r.systemBuffer.take ?_)
    unfold charsOfRead
    rw [hr]
    rfl
  rw [hplaced, List.length_take, Nat.min_eq_left]
  have hlength : r.information ≤ r.systemBuffer.length := hinfo.trans hbuffer
  unfold charsOfRead
  split
  · next huser =>
    obtain ⟨reader, hreader', -, hlast, hslot⟩ := (h.user huser).reader
    obtain rfl : r.reader = reader := Option.some.inj (hreader.symm.trans hreader')
    have hpositive : 0 < r.length := (h.fits r.reader hreader hbody).1
    have hbuffer' : r.length ≤ r.systemBuffer.length := hbuffer
    have hlast' : e.rx.lastCharSlot = r.length - 1 := hlast
    have hslot' : e.rx.currentCharSlot ≤ e.rx.lastCharSlot := hslot
    omega
  · rw [hr]
    exact hlength

omit [Uart U] in
theorem giveStatus_current {r : Request} (hr : e.current .read = some r) (status : NtStatus) :
    ∃ r', (e.giveStatus .read status).current .read = some r' ∧ r'.id = r.id ∧
      r'.status = status ∧ (e.giveStatus .read status).done = e.done := by
  have hset (r' : Request) : (e.setCurrent .read (some r')).current .read = some r' :=
    (current_setCurrent ..).trans (if_pos rfl)
  unfold giveStatus
  rw [hr]
  dsimp only
  split
  · exact ⟨{ r with status := status, information := 0 }, hset _, rfl, rfl, rfl⟩
  · exact ⟨{ r with status := status }, hset _, rfl, rfl, rfl⟩

omit [Uart U] in
theorem done_startNext {r : Request} (hr : e.current .read = some r) :
    ((e.serialGetNextRequest .read .readQueue true).startNew .read serialStartRead).done =
      e.done ++ [r] := by
  have hstart (e : Extension U) : (e.startNew .read serialStartRead).done = e.done := by
    unfold startNew
    split <;> rfl
  rw [hstart]
  unfold serialGetNextRequest
  rw [hr]
  show (e.retrieveNextRequest .readQueue .read).done ++ [r] = _
  rw [(done_retrieve e .readQueue .read).1]

omit [Uart U] in
/-- The read is completed with the status that is asked for, or not at all. -/
theorem done_tryToCompleteRead (hreceiving : e.Receiving) {r : Request}
    (hr : e.current .read = some r) {g : Extension U → Extension U}
    (hg : ∀ e : Extension U, e.Receiving → Alike e (g e))
    (hgdone : ∀ e : Extension U, (g e).done = e.done) (status : NtStatus) (ref : Ref) :
    (e.tryToCompleteRead g status ref).done = e.done ∨
      ∃ r', r'.id = r.id ∧ r'.status = status ∧
        (e.tryToCompleteRead g status ref).done = e.done ++ [r'] := by
  have hdrop : Bookkeeping .read e (e.dropOwnReference .read ref) := .dropOwnReference e .read ref
  have hrundown (e : Extension U) : Bookkeeping .read e ((e.serialRundownIrpRefs .read
      (some .readRequestInterval) (some .readRequestTotal) ref).markCancelled .read status) :=
    .rundown e .read _ _ _ _
  have hdone : (e.stopAgents g status .read (some .readRequestInterval)
      (some .readRequestTotal) ref).done = e.done :=
    (hrundown _).done.trans ((hgdone _).trans hdrop.done)
  have hid := (alike_stopAgents hreceiving hg status ref).id
  unfold tryToCompleteRead serialTryToCompleteCurrent completeIfUnreferenced
  rw [hr]
  dsimp only
  generalize e.stopAgents g status .read (some .readRequestInterval) (some .readRequestTotal) ref
    = e₁ at hid hdone ⊢
  split
  · exact .inl hdone
  · next r₁ hr₁ =>
    split
    · obtain ⟨r', hr', hsame, hstatus, hgive⟩ := giveStatus_current hr₁ status
      rw [hr₁, hr, Option.map_some, Option.map_some] at hid
      refine .inr ⟨r', hsame.trans (Option.some.inj hid), hstatus, ?_⟩
      rw [done_startNext hr', hgive, hdone]
    · exact .inl hdone

omit [Uart U] in
theorem done_serialGrabReadFromIsr (e : Extension U) : e.serialGrabReadFromIsr.done = e.done := by
  unfold serialGrabReadFromIsr
  split
  · exact (done_modifyCurrent ..).trans (done_modifyCurrent ..)
  · rfl

/-- The read goes on waiting. -/
def KeepsWaiting (r : Request) (e e' : Extension U) : Prop :=
  e'.current .read = some r ∧ e'.done = e.done ∧ e'.rx.readBufferBase = e.rx.readBufferBase ∧
    e'.charsOfRead = e.charsOfRead ∧ e'.pc = e.pc

/-- The read is completed with `status`, unless something else still holds it. -/
def EndsWith (r : Request) (status : NtStatus) (e e' : Extension U) : Prop :=
  e'.done = e.done ∨ ∃ r', r'.id = r.id ∧ r'.status = status ∧ e'.done = e.done ++ [r']

/-- The read has got a character, and the driver has seen no other for an interval. -/
def ReadWatch.Expired (w : ReadWatch) (e : Extension U) : Prop :=
  w.ended = none ∧ 0 < e.charsOfRead ∧ w.seen = e.charsOfRead ∧
    e.rx.intervalTime ≤ e.clock - w.observedAt

omit [Uart U] in
theorem outcome_tick (h : w.Right e) (hreceiving : e.Receiving) (hpc : e.pc = .idle) {r : Request}
    (hr : e.current .read = some r) :
    KeepsWaiting r e e.serialIntervalReadTimeout ∨
      ∃ status, EndsWith r status e e.serialIntervalReadTimeout ∧
        (w.ended = some (r.id, status) ∨ (status = .timeout ∧ w.Expired e)) := by
  obtain ⟨hchars, hknows⟩ := h.wait (.inl hpc) r hr
  have hend (status : NtStatus) : EndsWith r status e
      (e.tryToCompleteRead serialGrabReadFromIsr status .intTimer) :=
    done_tryToCompleteRead hreceiving hr (fun _ => Alike.grab) done_serialGrabReadFromIsr status
      .intTimer
  have hwait {e' : Extension U} (hcurrent : e'.current .read = e.current .read)
      (hdone : e'.done = e.done) (hbase : e'.rx.readBufferBase = e.rx.readBufferBase)
      (hchars : e'.charsOfRead = e.charsOfRead) (hpc : e'.pc = e.pc) : KeepsWaiting r e e' :=
    ⟨hcurrent.trans hr, hdone, hbase, hchars, hpc⟩
  have hsentinel (status : NtStatus) (hstatus : sentinel status = some e.rx.countOnLastRead) :
      w.ended = some (r.id, status) := hknows.of_sentinel hstatus
  unfold serialIntervalReadTimeout
  split
  · next htotal =>
    exact .inr ⟨.timeout, hend _, .inl (hsentinel .timeout (congrArg some htotal.symm))⟩
  next htotal =>
  split
  · next hcomplete =>
    exact .inr ⟨.success, hend _, .inl (hsentinel .success (congrArg some hcomplete.symm))⟩
  next hcomplete =>
  split
  · next hcancel =>
    exact .inr ⟨.cancelled, hend _, .inl (hsentinel .cancelled (congrArg some hcancel.symm))⟩
  next hcancel =>
  obtain ⟨hended, -, hseen⟩ := hknows.waiting htotal hcomplete hcancel
  split
  · next hsome =>
    split
    · exact .inl (hwait rfl rfl rfl rfl rfl)
    · next hisr =>
      split
      · next helapsed =>
        -- something was seen, and nothing has come in since
        have hisr' : e.rx.readByIsr = 0 := by simpa using hisr
        have hpositive' : 0 < w.seen := hseen (hsome.resolve_right hisr)
        have htime := h.time
        exact .inr ⟨.timeout, hend _, .inr ⟨rfl, hended, by omega, by omega, by omega⟩⟩
      · exact .inl (hwait rfl rfl rfl rfl rfl)
  · exact .inl (hwait rfl rfl rfl rfl rfl)

/-! ## Runs -/

namespace WatchedPort

/-- What every step keeps. -/
structure Watched (p : WatchedPort U) : Prop where
  disciplined : Disciplined p.ext
  manned : Manned p.ext
  unpurged : Unpurged p.ext
  watching : Watching p.watch p.ext

theorem Watched.step {p p' : WatchedPort U} (h : p.Watched) {l : Label (Uart.Input U)}
    (hstep : p.step l = some p') : p'.Watched := by
  obtain ⟨e', he, rfl⟩ := Option.map_eq_some_iff.mp hstep
  exact ⟨h.disciplined.step he, h.manned.step he, h.unpurged.step h.manned he,
    receiving_step h.watching.receiving h.disciplined he,
    right_step h.watching h.disciplined h.unpurged he⟩

theorem watched_opened (u : U) (cfg : Config) {size : Nat} (hsize : 0 < size) :
    (opened u cfg size).Watched :=
  ⟨disciplined_opened u cfg size, manned_opened u cfg size, unpurged_opened u cfg size,
    receiving_opened u cfg hsize, .of_noWait (fun _ hr => absurd hr.symm (Option.some_ne_none _)) rfl⟩

/-- A callback for the read has run that wanted it to end with `status`. -/
def EndedBefore (ls : List (Label (Uart.Input U))) (p : WatchedPort U) (id : Nat)
    (status : NtStatus) : Prop :=
  ∃ ls₁ c ls₂ p₁, ls = ls₁ ++ .callback c :: ls₂ ∧ run WatchedPort.step ls₁ p = some p₁ ∧
    c.readStatus = some status ∧ (p₁.ext.current .read).map Request.id = some id

omit [Uart U] in
theorem ended_noteEnd {status status' : NtStatus} {id : Nat}
    (h : (w.noteEnd status e e').ended = some (id, status')) :
    w.ended = some (id, status') ∨
      (status = status' ∧ (e.current .read).map Request.id = some id) := by
  unfold ReadWatch.noteEnd at h
  split at h
  · obtain ⟨r, hr, hsame⟩ := Option.map_eq_some_iff.mp h
    obtain ⟨hid, hstatus⟩ := Prod.mk.inj hsame
    refine .inr ⟨hstatus, ?_⟩
    rw [hr, Option.map_some, hid]
  · exact .inl h

/-- What has ended a read is noted when the callback runs, and for the read that is current then. -/
theorem ended_note {l : Label (Uart.Input U)} {id : Nat} {status : NtStatus}
    (h : (w.note e e' l).ended = some (id, status)) :
    w.ended = some (id, status) ∨ ∃ c, l = .callback c ∧ c.readStatus = some status ∧
      (e.current .read).map Request.id = some id := by
  -- only a callback that answers a status can end a read
  have hends {c : Callback} {status' : NtStatus} (hc : c.readStatus = some status')
      (h : (w.noteEnd status' e e').ended = some (id, status)) :
      w.ended = some (id, status) ∨ ∃ c', (.callback c : Label (Uart.Input U)) = .callback c' ∧
        c'.readStatus = some status ∧ (e.current .read).map Request.id = some id := by
    rcases ended_noteEnd h with hbefore | ⟨rfl, hid⟩
    · exact .inl hbefore
    · exact .inr ⟨c, rfl, hc, hid⟩
  cases l with
  | readStep =>
    left
    have h' : (w.noteWait e e').ended = some (id, status) := h
    unfold ReadWatch.noteWait at h'
    split at h'
    · exact absurd h'.symm (Option.some_ne_none _)
    · split at h' <;> exact h'
    · exact h'
  | callback c =>
    cases c with
    | purge m =>
      dsimp only [ReadWatch.note, Callback.readStatus] at h
      by_cases hasked : has32 m purgeRxAbort = true
      · rw [if_pos hasked] at h
        exact hends (if_pos hasked) h
      · rw [if_neg hasked] at h
        exact .inl h
    | dpc d =>
      cases d with
      | completeRead | commError => exact hends rfl h
      | _ => exact .inl h
    | timer t =>
      cases t with
      | readRequestTotal => exact hends rfl h
      | readRequestInterval =>
        left
        have h' : (w.noteTick e).ended = some (id, status) := h
        unfold ReadWatch.noteTick at h'
        split at h' <;> exact h'
      | _ => exact .inl h
    | cancelRoutine s =>
      cases s with
      | read => exact hends rfl h
      | _ => exact .inl h
    | _ => exact .inl h
  | _ => exact .inl h

theorem endedBefore_of_run {ls : List (Label (Uart.Input U))} {p p' : WatchedPort U}
    (hrun : run WatchedPort.step ls p = some p') {id : Nat} {status : NtStatus}
    (hstart : p.watch.ended = none) (h : p'.watch.ended = some (id, status)) :
    EndedBefore ls p id status := by
  induction ls using List.reverseRecOn generalizing p' with
  | nil =>
    obtain rfl : p = p' := Option.some.inj hrun
    rw [hstart] at h
    exact absurd h.symm (Option.some_ne_none _)
  | append_singleton ls l ih =>
    -- the last step has noted it, or it was noted before
    rw [run_append] at hrun
    obtain ⟨p₁, hrun₁, hlast⟩ := Option.bind_eq_some_iff.mp hrun
    obtain ⟨p₂, hstep, hnil⟩ := run_cons_eq_some.mp hlast
    obtain rfl : p₂ = p' := Option.some.inj hnil
    obtain ⟨e', he, rfl⟩ := Option.map_eq_some_iff.mp hstep
    rcases ended_note h with hbefore | ⟨c, rfl, hc, hid⟩
    · obtain ⟨ls₁, c, ls₂, p₃, rfl, hrun₃, hc, hid⟩ := ih hrun₁ hbefore
      exact ⟨ls₁, c, ls₂ ++ [l], p₃, by simp, hrun₃, hc, hid⟩
    · exact ⟨ls, c, [], p₁, rfl, hrun₁, hc, hid⟩

/-- **Interval timeouts.** The interval timer leaves the current read waiting, or it wants it to end
with the status that a callback for this same read has asked for, or the read has got a character
and an interval has passed since the driver last saw a new one. -/
theorem interval_timeout {u : U} {cfg : Config} {size : Nat} (hsize : 0 < size)
    {ls : List (Label (Uart.Input U))} {p : WatchedPort U}
    (hrun : run WatchedPort.step ls (opened u cfg size) = some p) {e' : Extension U}
    (hstep : p.ext.step (.callback (.timer .readRequestInterval)) = some e') :
    ∃ r, p.ext.current .read = some r ∧ (KeepsWaiting r p.ext e' ∨
      ∃ status, EndsWith r status p.ext e' ∧
        (EndedBefore ls (opened u cfg size) r.id status ∨
          (status = .timeout ∧ p.watch.Expired p.ext))) := by
  have hwatched : p.Watched :=
    run_invariant (fun _ _ _ hstep h => h.step hstep) hrun (watched_opened u cfg hsize)
  obtain ⟨hpc, hfired, rfl⟩ := callback_of_step hstep
  obtain ⟨⟨r, howes⟩, -, -⟩ := hwatched.disciplined.read.takeTimer .intTimer
    (t := .readRequestInterval) rfl hfired (not_starting hpc)
  have hr : (p.ext.takeTimer .readRequestInterval).current .read = some r := howes.current
  have hright : p.watch.Right (p.ext.takeTimer .readRequestInterval) :=
    hwatched.watching.right.congr rfl rfl rfl
  have hreceiving : (p.ext.takeTimer .readRequestInterval).Receiving :=
    hwatched.watching.receiving.congr rfl rfl
  refine ⟨r, hr, ?_⟩
  rcases outcome_tick hright hreceiving hpc hr with hwait | ⟨status, hend, hended | hexpired⟩
  · exact .inl hwait
  · exact .inr ⟨status, hend, .inl (endedBefore_of_run hrun rfl hended)⟩
  · exact .inr ⟨status, hend, .inr hexpired⟩

/-- One of four characters comes in, and then none for an interval. -/
def oneCharacter : List (Label Chip.Input) :=
  [.callback (.setTimeouts ⟨1, 0, 0, 0, 0⟩), .callback (.evtIoRead 4), .readStep, .readStep,
    .readStep, .readStep, .readStep, .hardware (.receive ⟨7, 0⟩), .isr 4,
    .expire .readRequestInterval, .callback (.timer .readRequestInterval), .tick 10000,
    .expire .readRequestInterval]

theorem interval_timeout_oneCharacter :
    ∃ p e', run WatchedPort.step oneCharacter (opened Chip.idle .plain 8) = some p ∧
      p.ext.step (.callback (.timer .readRequestInterval)) = some e' ∧
      (e'.done.map (·.status) == [.timeout]) = true ∧
      ∃ r, p.ext.current .read = some r ∧ (KeepsWaiting r p.ext e' ∨
        ∃ status, EndsWith r status p.ext e' ∧
          (EndedBefore oneCharacter (opened Chip.idle .plain 8) r.id status ∨
            (status = .timeout ∧ p.watch.Expired p.ext))) := by
  have hrun : (run WatchedPort.step oneCharacter (opened Chip.idle .plain 8)).any (fun p =>
      (p.ext.step (.callback (.timer .readRequestInterval))).any fun e =>
        e.done.map (·.status) == [.timeout]) = true := by decide +kernel
  obtain ⟨p, hp, hlast⟩ := (Option.any_eq_true _ _).mp hrun
  obtain ⟨e', he, hdone⟩ := (Option.any_eq_true _ _).mp hlast
  exact ⟨p, e', hp, he, hdone, interval_timeout (by decide) hp he⟩

/-- The total timer fires before a character comes, and the interval timer has fired by then. -/
def totalFirst : List (Label Chip.Input) :=
  [.callback (.setTimeouts ⟨1, 0, 5, 0, 0⟩), .callback (.evtIoRead 4), .readStep, .readStep,
    .readStep, .readStep, .readStep, .expire .readRequestTotal, .expire .readRequestInterval,
    .callback (.timer .readRequestTotal)]

/-- The interval timer ends a read for the total timer, and not a character has come. -/
theorem not_timeout_needs_character :
    ¬∀ ls p e' r, run WatchedPort.step ls (opened Chip.idle .plain 8) = some p →
      p.ext.step (.callback (.timer .readRequestInterval)) = some e' →
        e'.done = p.ext.done ++ [r] → r.status = .timeout → 0 < p.ext.charsOfRead := by
  intro h
  have hrun : (run WatchedPort.step totalFirst (opened Chip.idle .plain 8)).any (fun p =>
      p.ext.done.isEmpty && p.ext.charsOfRead == 0 &&
        (p.ext.step (.callback (.timer .readRequestInterval))).any fun e =>
          e.done.map (·.status) == [.timeout]) = true := by decide +kernel
  obtain ⟨p, hp, hlast⟩ := (Option.any_eq_true _ _).mp hrun
  rw [Bool.and_eq_true, Bool.and_eq_true, List.isEmpty_iff, beq_iff_eq] at hlast
  obtain ⟨⟨hnone, hchars⟩, hlast⟩ := hlast
  obtain ⟨e', he, hstatus⟩ := (Option.any_eq_true _ _).mp hlast
  obtain ⟨r, hr, hr'⟩ := List.map_eq_singleton_iff.mp (beq_iff_eq.mp hstatus)
  have hpositive := h totalFirst p e' r hp he (by rw [hr, hnone]; rfl) hr'
  omega

end WatchedPort

end SerialFc
