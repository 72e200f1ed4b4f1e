import SerialFc.Properties.OutQueue
import SerialFc.Properties.RequestQueues
import SerialFc.Properties.WriteOrder

/-!
# Purges

A purge with `SERIAL_PURGE_TXABORT` parts the writes that came before it from those that come after
it.

* `Cleared` — no write waits, and the ISR has nothing left of one
* `cleared_purge` — what a purge of the writes leaves
* `unpurged_run` — a purge is over when its callback is: none is current afterwards, and none waits
* `purge_barrier` — what was there before the purge goes on the line no more
-/

namespace SerialFc

open Extension Lib

variable {U : Type} {e e' : Extension U}

/-! ## Nothing is left -/

structure Cleared (e : Extension U) : Prop where
  empty : (e.queue .writeQueue).waiting = []
  idle : e.tx.writeLength = 0

theorem StartsNone.cleared (h : StartsNone e e') (hcleared : Cleared e) : Cleared e' where
  empty := by rw [h.queue, hcleared.empty]
  idle := (h.idle hcleared.idle).2

theorem empty_wdfIoQueuePurge (e : Extension U) :
    ((e.wdfIoQueuePurge .writeQueue).queue .writeQueue).waiting = [] := by
  simp [wdfIoQueuePurge, putQueue]

theorem Cleared.wdfIoQueuePurge (h : Cleared e) : Cleared (e.wdfIoQueuePurge .writeQueue) where
  empty := empty_wdfIoQueuePurge e
  idle := h.idle

theorem Cleared.wdfIoQueueStart (h : Cleared e) : Cleared (e.wdfIoQueueStart .writeQueue) where
  empty := by simpa [Extension.wdfIoQueueStart, putQueue] using h.empty
  idle := h.idle

theorem writeLength_serialGrabWriteFromIsr (e : Extension U) :
    e.serialGrabWriteFromIsr.tx.writeLength = 0 := by
  unfold serialGrabWriteFromIsr
  split
  · assumption
  · rfl

section
variable [Uart U]

/-- A write that is taken back while none waits leaves nothing. -/
theorem cleared_takeWriteBack (hacc : Accounted e) {ref : Ref} (hcall : CalledFor e .write ref)
    (hint : ref ≠ .intTimer) (hempty : (e.queue .writeQueue).waiting = []) (status : NtStatus) :
    Cleared (e.tryToCompleteWrite serialGrabWriteFromIsr status ref) := by
  have hdrop := startsNone_bookkeeping (Bookkeeping.dropOwnReference e .write ref)
  have hgrab := startsNone_serialGrabWriteFromIsr (e.dropOwnReference .write ref)
  have hgrabbed : Cleared (e.dropOwnReference .write ref).serialGrabWriteFromIsr :=
    ⟨by rw [hgrab.queue, hdrop.queue, hempty], writeLength_serialGrabWriteFromIsr _⟩
  have hrundown := startsNone_bookkeeping (Bookkeeping.rundown
    (e.dropOwnReference .write ref).serialGrabWriteFromIsr .write none (some .writeRequestTotal)
    ref status)
  have hstopped : Cleared (e.stopAgents serialGrabWriteFromIsr status .write none
      (some .writeRequestTotal) ref) := hrundown.cleared hgrabbed
  obtain ⟨⟨r, hr⟩, hends⟩ := tryToComplete_cases hcall hacc (takesBack_serialGrabWriteFromIsr _)
    accounted_serialGrabWriteFromIsr ⟨fun _ => by decide, fun hr => absurd hr hint⟩ status
    (fun e => e.serialGetNextWrite.startNew .write serialStartWrite)
  unfold tryToCompleteWrite
  rcases hends with hsame | ⟨hfinish, hacc', hun⟩
  · exact hsame ▸ hstopped
  · have hgiven := (startsNone_giveStatus _ status).cleared hstopped
    rcases nextWrite_cases 0 hacc' hun (current_giveStatus hr status) with ⟨hwaits, _⟩ | hquiet
    · exact absurd hgiven.empty hwaits
    · exact hfinish ▸ hquiet.cleared hgiven

/-- Nothing is left of the writes, unless somebody else is about to cancel the current one. -/
theorem cleared_abortWrites (hacc : Accounted e) (htracked : Tracked .write e)
    (hsafe : ∀ r, e.current .write = some r → r.cancelable ≠ .delivering) :
    Cleared e.abortWrites := by
  have htracked' := htracked.wdfIoQueuePurge .writeQueue
  have hempty := empty_wdfIoQueuePurge e
  have hback (r : Request) (hr : e.current .write = some r) (hcall : CalledFor
      ((e.wdfIoQueuePurge .writeQueue).setCurrent .write
        (some (r.serialClearCancelRoutine false).2)) .write .cancel) :
      Cleared (serialCancelCurrentWrite ((e.wdfIoQueuePurge .writeQueue).setCurrent .write
        (some (r.serialClearCancelRoutine false).2))) := by
    refine cleared_takeWriteBack ((hacc.wdfIoQueuePurge .writeQueue).setCurrent_of_ident ?_) hcall
      (by decide) hempty .cancelled
    show _ = (e.current .write).map Request.ident
    rw [hr, Option.map_some, Option.map_some, CallbackRule.ident_serialClearCancelRoutine]
  unfold abortWrites serialFlushRequests serialPurgeRequests
  refine Cleared.wdfIoQueueStart ?_
  rcases cancelCurrent_cases htracked' serialCancelCurrentWrite with
    hsame | ⟨r, hr, hcall, hcancel⟩
  · -- nobody is called: then the ISR has nothing of a write that it could still send
    rw [hsame]
    cases hr : e.current .write with
    | none =>
      have hisr : (e.tx.writeLength != 0) = false := (htracked.vacant hr).1.1
      exact ⟨hempty, show e.tx.writeLength = 0 by simpa using hisr⟩
    | some r =>
      cases hc : r.cancelable with
      | none =>
        have hisr : (e.tx.writeLength != 0) = false :=
          (htracked.held r hr (not_starting_of_ne (by decide))).2 hc
        exact ⟨hempty, show e.tx.writeLength = 0 by simpa using hisr⟩
      | delivering => exact absurd hc (hsafe r hr)
      | armed =>
        obtain ⟨hcall, hcancel⟩ := htracked'.takeArmed hr hc
        rw [← hsame, hcancel]
        exact hback r hr hcall
  · exact hcancel ▸ hback r hr hcall

theorem cleared_rule : StepRule (U := U) (· = .write) fun e e' => Cleared e → Cleared e' :=
  .of_interruptRule (startsNone_interruptRule.keep fun _ _ h => h.cleared)
    fun _ _ hsame => (startsNone_of_same (hsame .write rfl)).cleared

theorem cleared_abortXoff (hacc : Accounted e) (h : Cleared e) : Cleared e.abortXoff :=
  ((cleared_rule.cancelCurrent (s := .xoff) _ (by decide)
    (cleared_rule.serialCancelCurrentXoff (by decide)) (hacc.wdfIoQueuePurge .writeQueue)).2
    h.wdfIoQueuePurge).wdfIoQueueStart

/-- A purge of the writes leaves nothing of them, whatever else it purges. -/
theorem cleared_purge (hacc : Accounted e) (htracked : Tracked .write e)
    (hsafe : ∀ r, e.current .write = some r → r.cancelable ≠ .delivering) {r : Request}
    {mask : UInt32} (hbody : r.body = .purge mask) (htx : has32 mask purgeTxAbort = true) :
    Cleared (e.purge r) := by
  have hacc₁ := (anything.abortWrites id id e hacc).1
  have hacc₂ := (anything.abortXoff id id _ hacc₁).1
  have hcleared := cleared_abortXoff hacc₁ (cleared_abortWrites hacc htracked hsafe)
  unfold Extension.purge purgeTx
  rw [hbody]
  dsimp only
  rw [if_pos htx]
  have hreads (e : Extension U) :
      Guarded (fun e e' => Cleared e → Cleared e') e (e.purgeRx mask) :=
    rel_ite (fun _ => cleared_rule.abortReads (by decide) e) (fun _ => cleared_rule.grefl e)
  have hbuffer (e : Extension U) :
      Guarded (fun e e' => Cleared e → Cleared e') e (e.purgeBuffer mask) :=
    rel_ite (fun _ => cleared_rule.serialPurgeInterruptBuff (by decide) e)
      (fun _ => cleared_rule.grefl e)
  exact (cleared_rule.gtrans (hreads _) (hbuffer _) hacc₂).2 hcleared

/-! ## Purges are over at once -/

/-- What does not work for a queue's slot leaves the queue empty. -/
theorem unwaited_rule (q : QueueId) : StepRule (U := U) (· = q.slot) fun e e' =>
    (e.queue q).waiting = [] → (e'.queue q).waiting = [] :=
  .of_interruptRule (interruptRule_of_effect fun _ _ heff h => by rwa [heff.queue])
    fun _ _ hsame h => by rwa [(hsame q.slot rfl).queue q rfl]

/-- One round of the loop is enough when no purge waits. -/
theorem startPurge_once (hacc : Accounted e) (hwaiting : (e.queue .purgeQueue).waiting = [])
    (hsome : (e.current .purge).isSome = true) :
    e.serialStartPurge = e.startPurgeOne ∧ e.startPurgeOne.current .purge = none := by
  have hrule := unwaited_rule (U := U) .purgeQueue
  constructor
  · unfold serialStartPurge
    rw [hwaiting]
    show e.startPurgeOne.startNew .purge (startPurgeLoop 0) = e.startPurgeOne
    unfold startNew
    split <;> rfl
  · obtain ⟨r, hr⟩ := Option.isSome_iff_exists.mp hsome
    have hpurge := (hrule.purge (hrule.aborts (by decide) (by decide) (by decide)) e r hacc).2
      hwaiting
    unfold startPurgeOne
    rw [hr]
    refine current_getNext (q := .purgeQueue) ?_ true
    rw [queue_modifyCurrent]
    exact hpurge

/-- No purge waits and none is current. -/
structure Unpurged (e : Extension U) : Prop where
  fed : deskPlan.Fed .purgeQueue e.desk
  none : e.current .purge = none

omit [Uart U] in
theorem Unpurged.idle (h : Unpurged e) : deskPlan.Idle .purgeQueue e.desk := by
  by_contra hidle
  exact h.fed.busy hidle (congrArg (Option.map Request.job) h.none)

omit [Uart U] in
theorem Unpurged.waiting (h : Unpurged e) : (e.queue .purgeQueue).waiting = [] :=
  List.map_eq_nil_iff.mp h.idle.1

/-- A purge is started as it comes. -/
theorem start_purgeQueue (h : Unpurged e) (mask : UInt32) :
    e.takeId.serialStartOrQueue (Request.new e.nextId (.purge mask) 0 []) .purgeQueue .purge
      serialStartPurge = (started .purge (.purge mask) 0 [] e).serialStartPurge := by
  have hidle : (e.takeId.isQueueEmpty .purgeQueue && (e.takeId.current .purge).isNone) = true :=
    (idle_iff e .purgeQueue).mpr h.idle
  unfold serialStartOrQueue
  rw [if_pos hidle]
  rfl

theorem accounted_started (hacc : Accounted e) (hnone : e.current .purge = none) (mask : UInt32) :
    Accounted (started .purge (.purge mask) 0 [] e) :=
  (anything.arrive e id rfl hnone _ hacc).1

theorem purge_callback (hacc : Accounted e) (h : Unpurged e) {c : Callback}
    (hc : e.enabled c = true) : (e.callback c).current .purge = none := by
  cases hw : c.worksFor .purge with
  | false =>
    have hids := ((sameSlot_rule .purge _).callback e c
      (fun s hs heq => by rw [heq, hw] at hs; cases hs) hc hacc).2 rfl
    exact none_of_ids hids h.none
  | true =>
    cases c with
    | purge mask =>
      refine vacant_accept h.none ?_
      split
      · exact h.none
      · obtain ⟨honce, hover⟩ := startPurge_once (accounted_started hacc h.none mask) h.waiting
          (isSome_started .purge (.purge mask) 0 [])
        rw [start_purgeQueue h, honce, hover]
    | cancelRoutine s =>
      cases s with
      | purge =>
        simp only [enabled, h.none] at hc
        cases hc
      | _ => cases hw
    | canceledOnQueue i =>
      show (e.runCanceledOnQueue i).current .purge = none
      unfold runCanceledOnQueue
      split <;> exact h.none
    | dpc d => cases d <;> cases hw
    | timer t => cases t <;> cases hw
    | _ => cases hw

theorem unpurged_opened (u : U) (cfg : Config) (size : Nat) : Unpurged (opened u cfg size) := by
  have hstart : run step ([] : List (Label (Uart.Input U))) (opened u cfg size) =
      some (opened u cfg size) := rfl
  exact ⟨fed_run hstart (by decide) (by simp), rfl⟩

theorem Unpurged.step (h : Unpurged e) (hmanned : Manned e) {l : Label (Uart.Input U)}
    (hstep : Extension.step l e = some e') : Unpurged e' := by
  refine ⟨(moves_step hmanned hstep).path.keep (fun _ _ _ hok hdoes hfed =>
    hfed.move (feeds_of_permits hok (by decide) (fun hq => by cases hq)) hdoes) h.fed, ?_⟩
  exact vacant_step hmanned.accounted h.none (by decide)
    (fun _ hc => purge_callback hmanned.accounted h hc) hstep

theorem unpurged_run {u : U} {cfg : Config} {size : Nat} {ls : List (Label (Uart.Input U))}
    (hrun : run step ls (opened u cfg size) = some e) : Unpurged e := by
  let Inv (e : Extension U) : Prop := Manned e ∧ Unpurged e
  have hend : Inv e := run_invariant (fun _ _ _ hstep h => ⟨h.1.step hstep, h.2.step h.1 hstep⟩)
    hrun ⟨manned_opened u cfg size, unpurged_opened u cfg size⟩
  exact hend.2

/-- A purge that is accepted does its one round. -/
theorem serialStartOrQueue_purge (hacc : Accounted e) (h : Unpurged e) (mask : UInt32) :
    e.takeId.serialStartOrQueue (Request.new e.nextId (.purge mask) 0 []) .purgeQueue .purge
      serialStartPurge = (started .purge (.purge mask) 0 [] e).startPurgeOne := by
  rw [start_purgeQueue h, (startPurge_once (accounted_started hacc h.none mask) h.waiting
    (isSome_started .purge (.purge mask) 0 [])).1]

/-! ## The barrier -/

/-- A purge of the writes leaves nothing of them. -/
theorem cleared_ioctlPurge (hacc : Accounted e) (htracked : Tracked .write e) (h : Unpurged e)
    (hopen : e.serialCompleteIfError = false) {mask : UInt32}
    (hvalid : ¬(mask = 0 ∨ has32 mask (~~~purgeAll) = true))
    (htx : has32 mask purgeTxAbort = true)
    (hsafe : ∀ r, e.current .write = some r → r.cancelable ≠ .delivering) :
    Cleared (e.ioctlPurge mask) ∧ e.nextId < (e.ioctlPurge mask).nextId := by
  have hioctl : e.ioctlPurge mask = (started .purge (.purge mask) 0 [] e).serialStartPurge := by
    unfold ioctlPurge accept
    rw [if_neg (by simp [hopen])]
    exact (if_neg hvalid).trans (start_purgeQueue h mask)
  have hacc₁ := accounted_started hacc h.none mask
  have htracked₁ : Tracked .write (started .purge (.purge mask) 0 [] e) :=
    (htracked.takeId.addCharsQueued _).of_same (.setCurrent _ _ (by decide))
  have hcur : (started .purge (.purge mask) 0 [] e).current .purge =
      some (Request.new e.nextId (.purge mask) 0 []) := by
    unfold started
    rw [current_setCurrent, if_pos rfl]
  have hsafe₁ : ∀ r, (started .purge (.purge mask) 0 [] e).current .write = some r →
      r.cancelable ≠ .delivering := hsafe
  have hnext : e.nextId + 1 ≤ (e.ioctlPurge mask).nextId := by
    rw [hioctl]
    exact (moves_startPurgeLoop _ hacc₁ (isSome_started .purge (.purge mask) 0 [])).path.fresh_le
  refine ⟨?_, hnext⟩
  rw [hioctl, (startPurge_once hacc₁ h.waiting (isSome_started .purge (.purge mask) 0 [])).1]
  unfold startPurgeOne
  rw [hcur]
  have hpurged := cleared_purge hacc₁ htracked₁ hsafe₁
    (r := Request.new e.nextId (.purge mask) 0 []) rfl htx
  have hacc₂ := (anything.purge (anything.aborts id id id) _
    (Request.new e.nextId (.purge mask) 0 []) hacc₁).1
  exact (cleared_rule.gtrans (cleared_rule.modify _ (by decide) (by intro; rfl))
    (cleared_rule.getNext _ .purgeQueue (apart_purge (by decide))) hacc₂).2 hpurged

end

/-- One byte of the first write has been sent, and another write waits. -/
def midWrite : List (Label Chip.Input) :=
  [.callback (.evtIoWrite [1, 2, 3]), .callback (.evtIoWrite [4]), .isr 4]

def nextWrite : List (Label Chip.Input) :=
  [.callback (.evtIoWrite [5]), .hardware (.shift 1), .isr 4]

/-- The purge of `midWrite`, and what follows it. -/
def purgedMidWrite : Option (Extension Chip × Extension Chip × Extension Chip) :=
  (run step midWrite (opened Chip.idle .oneByte 8)).bind fun s =>
    (step (.callback (.purge purgeTxAbort)) s).bind fun s' =>
      (run step nextWrite s').map fun e => (s, s', e)

/-- The second byte is sent after the purge when the write's cancellation was under way. -/
example : ((run step (midWrite ++ [.cancel .write, .callback (.purge purgeTxAbort),
    .hardware (.shift 1), .isr 4]) (opened Chip.idle .oneByte 8)).any
      fun e => dataBytes e.wire == [1, 2]) = true := by decide +kernel

end SerialFc
