import SerialFc.Properties.Tracked

/-!
# Reference discipline

For reads, writes, immediate characters and requests to wait: in every reachable state the
reference count is the set of agents that can still touch the request, and a request is completed
once, when no agent is left.

Each slot has a `TakesBack` theorem for its grab routine, one for starting a request and one for
each routine that ends one. The rest is `tracked_rule`.
-/

namespace SerialFc

open Extension

variable {U : Type} [Uart U]

/-! ## Grab routines -/

section
omit [Uart U]

/-- A grab routine does nothing if the ISR has let go already. -/
theorem takesBack_of {s : Slot} (ref : Ref) {g : Extension U → Extension U}
    (hfree : ∀ e, e.isrHolds s = false → g e = e)
    (hgrab : ∀ e r, e.isrHolds s = true → e.current s = some r →
      ((g e).current s).map Request.core = some (r.putReference false .isr).core ∧
      (g e).isrHolds s = false ∧ (g e).dpcPending s = e.dpcPending s ∧ (g e).timer = e.timer ∧
      (g e).done = e.done ∧ (g e).pc = e.pc) : TakesBack s ref g := by
  intro e o r h ho _
  cases hisr : e.isrHolds s with
  | false => rw [hfree e hisr]; exact ⟨⟨r, h, rfl⟩, hisr, rfl, rfl⟩
  | true =>
    obtain ⟨hcur, hisr', hdpc, htimer, hdone, hpc⟩ := hgrab e r hisr h.current
    obtain ⟨r', hr', hcore⟩ := Option.map_eq_some_iff.mp hcur
    have hrefs := Request.of_core Request.refCount (fun _ => rfl) hcore
    have hroutine := Request.of_core Request.cancelRoutine (fun _ => rfl) hcore
    have hcancelable := Request.of_core Request.cancelable (fun _ => rfl) hcore
    have hident := Request.ident_eq_of_core hcore
    exact ⟨⟨r', h.grabbed ho hisr hr' hrefs ⟨hroutine, hcancelable⟩ hisr' hdpc htimer, hident⟩,
      hisr', hdone, hpc⟩

theorem takesBack_serialGrabWriteFromIsr (ref : Ref) :
    TakesBack (U := U) .write ref serialGrabWriteFromIsr := by
  refine takesBack_of ref (fun e hisr => ?_) fun e r hisr hr => ?_
  · exact if_pos (by simpa [isrHolds] using hisr)
  · rw [serialGrabWriteFromIsr, if_neg (by simpa [isrHolds] using hisr)]
    simp [setWriteLength, clearReference, dpcPending, isrHolds, current_modifyCurrent, hr,
      Request.putReference, Request.core]

theorem takesBack_serialGrabReadFromIsr (ref : Ref) :
    TakesBack (U := U) .read ref serialGrabReadFromIsr := by
  refine takesBack_of ref (fun e hisr => ?_) fun e r hisr hr => ?_
  · exact if_neg (by simpa [isrHolds] using hisr)
  · rw [serialGrabReadFromIsr, if_pos (by simpa [isrHolds] using hisr)]
    simp [resetRing, clearReference, dpcPending, isrHolds, current_modifyCurrent, hr,
      Request.putReference, Request.core]

theorem takesBack_serialGrabImmediateFromIsr (ref : Ref) :
    TakesBack (U := U) .immediate ref serialGrabImmediateFromIsr := by
  refine takesBack_of ref (fun e hisr => ?_) fun e r hisr hr => ?_
  · exact if_neg (by simpa [isrHolds] using hisr)
  · rw [serialGrabImmediateFromIsr, if_pos (by simpa [isrHolds] using hisr)]
    simp [dropImmediate, clearReference, dpcPending, isrHolds, current_modifyCurrent, hr,
      Request.putReference, Request.core]

theorem takesBack_serialGrabWaitFromIsr (ref : Ref) :
    TakesBack (U := U) .wait ref serialGrabWaitFromIsr := by
  refine takesBack_of ref (fun e hisr => ?_) fun e r hisr hr => ?_
  · exact if_neg (by simpa [isrHolds] using hisr)
  · rw [serialGrabWaitFromIsr, if_pos (by simpa [isrHolds] using hisr)]
    simp [setMaskLocation, clearReference, dpcPending, isrHolds, current_modifyCurrent, hr,
      Request.putReference, Request.core]

end

/-! ## Starting requests -/

section
omit [Uart U]
variable {e e' : Extension U} {s : Slot} {r : Request}

omit e e' s in
theorem cancelable_serialSetCancelRoutine (r : Request) :
    r.serialSetCancelRoutine.cancelable ≠ .none := by
  unfold Request.serialSetCancelRoutine
  split <;> simp

/-- `SerialSetCancelRoutine`. -/
theorem Owes.setCancelRoutine (h : Owes e s none r) {f : Request → Request}
    (hf : f r = r.serialSetCancelRoutine) :
    Owes (e.modifyCurrent s f) s none r.serialSetCancelRoutine := by
  have hcancelable := bne_iff_ne.mpr (cancelable_serialSetCancelRoutine r)
  have hagents : e.agents s r.serialSetCancelRoutine = (e.agents s r).put true .cancel := by
    simp only [agents, RefCount.put, hcancelable]
  rw [← hf]
  have hnone (ref : Ref) : ¬none = some ref := (Option.some_ne_none ref).symm
  refine h.modify f ?_ (fun ref ho => absurd ho (hnone ref)) fun _ => ?_ <;> rw [hf]
  · rw [hagents]
    show r.refCount.put true .cancel = _
    rw [h.refs]
    rfl
  · exact hcancelable.symm

/-- `SERIAL_INIT_REFERENCE`, the cancel routine and the total timer. -/
theorem owes_armed (h : Unheld s e) (hr : e.current s = some r) {t : TimerId}
    (ht : timerId s .totalTimer = some t) :
    ∃ r', Owes ((e.initRequest s).armWriteTimer s t) s none r' ∧ r'.cancelable ≠ .none ∧
      r'.data = r.data := by
  obtain ⟨_, _, htotal, _⟩ := h.unattended
  have hzero : { r with refCount := .zero } = r := by
    rw [← (h.marks r hr).1]
  have hinit : Owes (e.initRequest s) s none r.serialSetCancelRoutine :=
    (h.owes hr).setCancelRoutine (by rw [hzero])
  have hoff : ((e.initRequest s).timer t).live = false := by
    have htid : totalTimerId s = some t := ht
    rw [initRequest, timer_modifyCurrent]
    rw [htid] at htotal
    exact htotal
  obtain ⟨r', hset, hsame, hdata⟩ := hinit.armTimer (e.initRequest s).useWriteTimer _ ht hoff
  exact ⟨r', hset, by rw [hsame]; exact cancelable_serialSetCancelRoutine r, hdata.trans rfl⟩

/-- No other slot notices. -/
theorem bookkeeping_armed (e : Extension U) (s : Slot) (t : TimerId) :
    Bookkeeping s e ((e.initRequest s).armWriteTimer s t) := by
  have hinit : Bookkeeping s e (e.initRequest s) := .modifyCurrent e s (by intro; rfl)
  refine hinit.trans (rel_ite (fun _ => ?_) (fun _ => .refl s _))
  exact rel_ite (fun _ => .timer s _ _)
    (fun _ => (Bookkeeping.timer s _ _).trans (.modifyCurrent _ s (by intro; rfl)))

end

/-! ## Writes -/

/-- A write is waiting to be started, with something to send. -/
structure ReadyWrite (e : Extension U) : Prop where
  unheld : Unheld .write e
  some : ∃ r, e.current .write = some r ∧ (r.isWrite = true → 0 < r.length)

theorem readyWrite_rule : StepRule (U := U) (· = .write) fun e e' =>
    ReadyWrite e → ReadyWrite e' := by
  refine .of_interruptRule (interruptRule_of_effect fun e e' heff h => ?_) fun e e' hsame h => ?_
  · obtain ⟨r, hr, hlen⟩ := h.some
    obtain ⟨r', hr', hcore⟩ := heff.current_some hr
    refine ⟨h.unheld.of_effect heff, r', hr', ?_⟩
    rw [Request.of_core Request.isWrite (fun _ => rfl) hcore,
      Request.of_core Request.length (fun _ => rfl) hcore]
    exact hlen
  · obtain ⟨r, hr, hlen⟩ := h.some
    exact ⟨h.unheld.of_same (hsame .write rfl), r, (hsame .write rfl).current.trans hr, hlen⟩

theorem xoff_ne_write : ¬(Slot.xoff = .write) := by decide

/-- `SerialStartWrite`. -/
theorem tracked_serialStartWrite {e : Extension U} (hacc : Accounted e) (h : ReadyWrite e) :
    Tracked .write e.serialStartWrite := by
  obtain ⟨hunheld, r, hr, hlen⟩ := (readyWrite_rule.killXoff xoff_ne_write e hacc).2 h
  unfold serialStartWrite serialGiveWriteToIsr
  obtain ⟨r', howes, hcancelable, hdata⟩ := owes_armed hunheld hr (t := .writeRequestTotal) rfl
  have hbook := bookkeeping_armed e.killXoff .write .writeRequestTotal
  obtain ⟨hisr, hdpc, _, _⟩ := hunheld.unattended
  generalize (e.killXoff.initRequest .write).armWriteTimer .write .writeRequestTotal = e' at *
  rw [howes.current]
  dsimp only
  have hwrite : r'.isWrite = r.isWrite := Request.of_data Request.isWrite (fun _ => rfl) hdata
  have hlength : r'.length = r.length := Request.of_data Request.length (fun _ => rfl) hdata
  have hdpc' : e'.dpcPending .write = false := by
    rw [← hdpc, hbook.rest]; rfl
  have hgiven : Owes ((e'.giveWrite r').modifyCurrent .write (·.putReference true .isr)) .write none
      (r'.putReference true .isr) := by
    refine howes.given ?_ rfl ⟨rfl, rfl⟩ ?_ ?_ (by simp [giveWrite])
    · rw [current_modifyCurrent, if_pos rfl]
      show (e'.current .write).map _ = _
      rw [howes.current]
      rfl
    · have hne : (if r'.isWrite = true then r'.length else 1) ≠ 0 := by
        split
        · next hw => rw [hwrite] at hw; rw [hlength]; exact Nat.ne_of_gt (hlen hw)
        · decide
      simp [isrHolds, giveWrite, hne]
    · simp only [dpcPending, giveWrite, dpc_modifyCurrent]
      simp only [dpcPending] at hdpc'
      simp [hdpc']
  have hrel : ((e'.giveWrite r').modifyCurrent .write (·.putReference true .isr)).Released .write := by
    intro r hr
    rw [done_modifyCurrent] at hr
    exact hunheld.released r (by rw [← hbook.done]; exact hr)
  have htracked := tracked_of_cancelable hgiven hcancelable (not_starting_of_ne (by decide)) hrel
  have hlock := effect_interruptRule (U := U)
  have hstart : Effect ((e'.giveWrite r').modifyCurrent .write (·.putReference true .isr))
      ((e'.giveWrite r').modifyCurrent .write (·.putReference true .isr)).startTransmit :=
    rel_ite (fun _ => hlock.retickle _) (fun _ => hlock.refl _)
  exact (htracked.of_effect hstart).of_effect (hlock.raiseRtsInToggle _)

theorem unheld_holdIfXoff {e : Extension U} (hacc : Accounted e) (h : Unheld .write e) {r : Request}
    (hr : e.current .write = some r) : Unheld .write (e.holdIfXoff r) := by
  unfold holdIfXoff
  split
  · next timeout counter c hbody =>
    split
    · exact h
    · have hmove : Unheld .write (e.moveToXoff r) := by
        refine ⟨h.unattended, fun r' hr' => ?_, h.released⟩
        rw [moveToXoff, current_setCurrent, if_neg (by decide), current_setCurrent, if_pos rfl] at hr'
        cases hr'
      have haccm := (anything.moveToXoff id id hr (by rw [hbody]; rfl) hacc).1
      obtain ⟨haccg, hgive⟩ := (unheld_rule .write).serialGiveXoffToIsr xoff_ne_write
        (e.moveToXoff r) counter haccm
      exact ((unheld_rule .write).armXoffTimer xoff_ne_write _ timeout haccg).2 (hgive hmove)
  · exact h

/-- The end of a write and the start of the next one. -/
theorem tracked_nextWrite {e : Extension U} (hacc : Accounted e) (h : Unheld .write e) {r : Request}
    (hr : e.current .write = some r) :
    Tracked .write (e.serialGetNextWrite.startNew .write serialStartWrite) := by
  unfold serialGetNextWrite
  rw [hr]
  dsimp only
  obtain ⟨hacc₁, h₁⟩ := (unheld_rule .write).addCharsQueued e (-charsQueued r) hacc
  have hr₁ : (e.addCharsQueued (-charsQueued r)).current .write = some r := hr
  have h₂ := unheld_holdIfXoff hacc₁ (h₁ h) hr₁
  have hacc₂ := (anything.holdIfXoff id id hr₁ hacc₁).1
  generalize (e.addCharsQueued (-charsQueued r)).holdIfXoff r = e₂ at *
  have h₃ : Unheld .write (e₂.serialGetNextRequest .write .writeQueue true) :=
    h₂.getNext (q := .writeQueue) hacc₂
  have hacc₃ : Accounted (e₂.serialGetNextRequest .write .writeQueue true) :=
    (anything.getNext e₂ .writeQueue (apart_nothing _) hacc₂).1
  have hsized : ∀ r', (e₂.serialGetNextRequest .write .writeQueue true).current .write = some r' →
      r'.isWrite = true → 0 < r'.length := by
    intro r' hr' hw
    obtain ⟨r₀, hmem, rfl⟩ := current_serialGetNextRequest hr'
    exact (hacc₂.waiting _ r₀ hmem).2.1.length_pos hw
  generalize e₂.serialGetNextRequest .write .writeQueue true = e₃ at *
  unfold emptyTransmitIfNone
  cases hcur : e₃.current .write with
  | none =>
    have hempty := (effect_interruptRule (U := U)).lockRule.serialProcessEmptyTransmit e₃
    have hnone := hempty.current_none hcur
    have hstate : (if (none : Option Request).isSome = true then e₃ else e₃.serialProcessEmptyTransmit)
        = e₃.serialProcessEmptyTransmit := rfl
    rw [hstate, startNew, hnone]
    exact ((h₃.of_effect hempty).tracked_of_none hnone (not_starting_of_ne (by decide)))
  | some r' =>
    have hstate : (if (some r').isSome = true then e₃ else e₃.serialProcessEmptyTransmit) = e₃ := rfl
    rw [hstate, startNew, hcur]
    exact tracked_serialStartWrite hacc₃ ⟨h₃, r', hcur, hsized r' hcur⟩

theorem accounted_serialGrabWriteFromIsr (e : Extension U) (hacc : Accounted e) :
    Accounted e.serialGrabWriteFromIsr := (anything.serialGrabWriteFromIsr id e hacc).1

/-- Whoever tries to complete a write drops the one reference it came with. -/
theorem tracked_tryToCompleteWrite {e : Extension U} (hacc : Accounted e) {ref : Ref}
    (hcall : CalledFor e .write ref) {g : Extension U → Extension U} (hg : TakesBack .write ref g)
    (hgacc : ∀ e, Accounted e → Accounted (g e)) (hint : ref ≠ .intTimer) (status : NtStatus) :
    Tracked .write (e.tryToCompleteWrite g status ref) :=
  tracked_tryToComplete hcall hacc hg hgacc ⟨fun _ => by decide, fun hr => absurd hr hint⟩ status
    fun _ _ hacc' hun hr' _ => tracked_nextWrite hacc' hun hr'

theorem tracked_serialCompleteWrite {e : Extension U} (hacc : Accounted e)
    (hcall : CalledFor e .write .isr) : Tracked .write e.serialCompleteWrite :=
  tracked_tryToCompleteWrite hacc hcall (takesBack_id _) (fun _ h => h) (by decide) _

theorem tracked_serialCancelCurrentWrite {e : Extension U} (hacc : Accounted e)
    (hcall : CalledFor e .write .cancel) : Tracked .write e.serialCancelCurrentWrite :=
  tracked_tryToCompleteWrite hacc hcall (takesBack_serialGrabWriteFromIsr _)
    accounted_serialGrabWriteFromIsr (by decide) _

theorem tracked_serialWriteTimeout {e : Extension U} (hacc : Accounted e)
    (hcall : CalledFor e .write .totalTimer) : Tracked .write e.serialWriteTimeout :=
  tracked_tryToCompleteWrite hacc hcall (takesBack_serialGrabWriteFromIsr _)
    accounted_serialGrabWriteFromIsr (by decide) _

/-! ## Immediate characters -/

/-- `SerialStartImmediate`. -/
theorem tracked_serialStartImmediate {e : Extension U} (h : Unheld .immediate e) {r : Request}
    (hr : e.current .immediate = some r) (c : UInt8) :
    Tracked .immediate (e.serialStartImmediate c) := by
  unfold serialStartImmediate serialGiveImmediateToIsr
  have hpend : Unheld .immediate (e.modifyCurrent .immediate fun r => { r with status := .pending }) :=
    h.modify fun _ => ⟨rfl, rfl, rfl⟩
  have hr' : (e.modifyCurrent .immediate fun r => { r with status := .pending }).current .immediate =
      some { r with status := .pending } := by
    rw [current_modifyCurrent, if_pos rfl, hr]
    rfl
  obtain ⟨r', howes, hcancelable, _⟩ := owes_armed hpend hr' (t := .immediateTotal) rfl
  have hbook := bookkeeping_armed (e.modifyCurrent .immediate fun r => { r with status := .pending })
    .immediate .immediateTotal
  obtain ⟨_, hdpc, _, _⟩ := hpend.unattended
  have hrel := hpend.released
  generalize e.modifyCurrent .immediate (fun r => { r with status := .pending }) = e₀ at *
  have hdpc' : ((e₀.initRequest .immediate).armWriteTimer .immediate .immediateTotal).dpcPending
      .immediate = false := by
    rw [← hdpc, hbook.rest]; rfl
  generalize (e₀.initRequest .immediate).armWriteTimer .immediate .immediateTotal = e' at *
  have hgiven : Owes ((e'.giveImmediate c).modifyCurrent .immediate (·.putReference true .isr))
      .immediate none (r'.putReference true .isr) := by
    refine howes.given ?_ rfl ⟨rfl, rfl⟩ ?_ ?_ (by simp [giveImmediate])
    · rw [current_modifyCurrent, if_pos rfl]
      show (e'.current .immediate).map _ = _
      rw [howes.current]
      rfl
    · simp [isrHolds, giveImmediate]
    · simp only [dpcPending, giveImmediate, dpc_modifyCurrent]
      simp only [dpcPending] at hdpc'
      simp [hdpc']
  have hrel' : ((e'.giveImmediate c).modifyCurrent .immediate
      (·.putReference true .isr)).Released .immediate := by
    intro r hr
    rw [done_modifyCurrent] at hr
    exact hrel r (by rw [← hbook.done]; exact hr)
  have htracked := tracked_of_cancelable hgiven hcancelable (not_starting_of_ne (by decide)) hrel'
  have hlock := effect_interruptRule (U := U)
  exact htracked.of_effect (rel_ite (fun _ => hlock.retickle _) (fun _ => hlock.refl _))

/-- The end of an immediate character. -/
theorem tracked_serialGetNextImmediate {e : Extension U} (h : Unheld .immediate e) {r : Request}
    (hr : e.current .immediate = some r) : Tracked .immediate e.serialGetNextImmediate := by
  unfold serialGetNextImmediate
  rw [hr]
  dsimp only
  obtain ⟨hrefs, hcancelable, _⟩ := h.marks r hr
  have hnone : ((e.addCharsQueued (-1)).setCurrent .immediate none).current .immediate = none := by
    rw [current_setCurrent, if_pos rfl]
  have hempty : Unheld .immediate ((e.addCharsQueued (-1)).setCurrent .immediate none) :=
    ⟨h.unattended, (fun r' hr' => by rw [hnone] at hr'; cases hr'), h.released⟩
  have heff := (effect_interruptRule (U := U)).lockRule.serialProcessEmptyTransmit
    ((e.addCharsQueued (-1)).setCurrent .immediate none)
  have htracked := (hempty.of_effect heff).tracked_of_none (heff.current_none hnone)
    (not_starting_of_ne (by decide))
  exact htracked.completeNew hrefs hcancelable

/-- Whoever tries to complete an immediate character drops its own reference. -/
theorem tracked_tryToCompleteImmediate {e : Extension U} (hacc : Accounted e) {ref : Ref}
    (hcall : CalledFor e .immediate ref) {g : Extension U → Extension U}
    (hg : TakesBack .immediate ref g) (hgacc : ∀ e, Accounted e → Accounted (g e))
    (hint : ref ≠ .intTimer) (status : NtStatus) :
    Tracked .immediate (e.tryToCompleteImmediate g status ref) :=
  tracked_tryToComplete hcall hacc hg hgacc ⟨fun _ => by decide, fun hr => absurd hr hint⟩ status
    fun _ _ _ hun hr' _ => tracked_serialGetNextImmediate hun hr'

theorem accounted_serialGrabImmediateFromIsr (e : Extension U) (hacc : Accounted e) :
    Accounted e.serialGrabImmediateFromIsr := (anything.serialGrabImmediateFromIsr id e hacc).1

theorem tracked_serialCompleteImmediate {e : Extension U} (hacc : Accounted e)
    (hcall : CalledFor e .immediate .isr) : Tracked .immediate e.serialCompleteImmediate :=
  tracked_tryToCompleteImmediate hacc hcall (takesBack_id _) (fun _ h => h) (by decide) _

theorem tracked_serialCancelImmediate {e : Extension U} (hacc : Accounted e)
    (hcall : CalledFor e .immediate .cancel) : Tracked .immediate e.serialCancelImmediate :=
  tracked_tryToCompleteImmediate hacc hcall (takesBack_serialGrabImmediateFromIsr _)
    accounted_serialGrabImmediateFromIsr (by decide) _

theorem tracked_serialTimeoutImmediate {e : Extension U} (hacc : Accounted e)
    (hcall : CalledFor e .immediate .totalTimer) : Tracked .immediate e.serialTimeoutImmediate :=
  tracked_tryToCompleteImmediate hacc hcall (takesBack_serialGrabImmediateFromIsr _)
    accounted_serialGrabImmediateFromIsr (by decide) _

/-! ## Requests to wait -/

/-- Whoever tries to complete a wait drops its own reference. -/
theorem tracked_tryToCompleteWait {e : Extension U} (hacc : Accounted e) {ref : Ref}
    (hcall : CalledFor e .wait ref) {g : Extension U → Extension U}
    (hg : TakesBack .wait ref g) (hgacc : ∀ e, Accounted e → Accounted (g e))
    (htimer : ref ≠ .totalTimer ∧ ref ≠ .intTimer) (status : NtStatus) :
    Tracked .wait (e.tryToCompleteWait g status ref) := by
  refine tracked_tryToComplete hcall hacc hg hgacc ⟨fun hr => absurd hr htimer.1,
    fun hr => absurd hr htimer.2⟩ status fun e' r' _ hun hr' _ => ?_
  unfold completeCurrent
  rw [hr']
  refine (hun.complete hr').tracked_of_none ?_ (not_starting_of_ne (by decide))
  show (e'.setCurrent .wait none).current .wait = none
  rw [current_setCurrent, if_pos rfl]

theorem tracked_serialCompleteWait {e : Extension U} (hacc : Accounted e)
    (hcall : CalledFor e .wait .isr) : Tracked .wait e.serialCompleteWait :=
  tracked_tryToCompleteWait hacc hcall (takesBack_id _) (fun _ h => h) (by decide) _

theorem tracked_serialCancelWait {e : Extension U} (hacc : Accounted e)
    (hcall : CalledFor e .wait .cancel) : Tracked .wait e.serialCancelWait :=
  tracked_tryToCompleteWait hacc hcall (takesBack_serialGrabWaitFromIsr _)
    (fun e h => (anything.serialGrabWaitFromIsr id e h).1) (by decide) _

omit [Uart U] in
/-- To end a wait is to hand it over to its DPC. -/
theorem effect_serialFinishOldWait (e : Extension U) (mask : UInt32) :
    Effect e (e.serialFinishOldWait mask) := by
  have hend : Effect e e.endWait := by
    unfold endWait
    split
    · next hmask =>
      refine .of_still (fun s => map_core_modifyCurrent (by intro; rfl) s) (fun s => ?_)
        (by simp [serialInsertQueueDpc, setMaskLocation])
      cases s <;> simp [Handover, isrHolds, dpcPending, serialInsertQueueDpc, setMaskLocation, hmask]
    · exact .refl e
  refine hend.trans (.of_still (fun _ => rfl) (fun s => .inl ⟨?_, rfl⟩) rfl)
  cases s <;> rfl

omit [Uart U] in
/-- Another slot's request is completed and its next one comes in. -/
theorem Tracked.getNext_other {e : Extension U} {s : Slot} (h : Tracked s e) {q : QueueId}
    (hq : Unheld q.slot e) (hne : s ≠ q.slot) :
    Tracked s (e.serialGetNextRequest q.slot q true) := by
  cases hr : e.current q.slot with
  | none =>
    unfold serialGetNextRequest
    rw [hr]
    exact h.of_same (CallbackRule.same_retrieve e hne)
  | some r =>
    obtain ⟨hrefs, hcancelable, _⟩ := hq.marks r hr
    rw [serialGetNextRequest_of_some q hr]
    have hset : Tracked s (e.setCurrent q.slot none) := h.of_same (.setCurrent e none hne)
    exact (hset.completeNew hrefs hcancelable).of_same (CallbackRule.same_retrieve _ hne)

/-- What a mask request leaves behind. -/
structure MaskReady (e : Extension U) : Prop where
  accounted : Accounted e
  wait : Tracked .wait e
  mask : Unheld .mask e

/-- The mask request is completed, and the next one comes in. -/
theorem maskReady_nextMask {e : Extension U} (h : MaskReady e) (status : NtStatus) :
    MaskReady (e.nextMask status) := by
  have hstatus : Unheld .mask (e.modifyCurrent .mask fun r => { r with status := status }) :=
    h.mask.modify fun _ => ⟨rfl, rfl, rfl⟩
  have hwait : Tracked .wait (e.modifyCurrent .mask fun r => { r with status := status }) :=
    h.wait.of_same (.modifyCurrent e _ (by decide))
  have hacc := h.accounted.modifyCurrent .mask (f := fun r => { r with status := status })
    (by intro; rfl)
  exact ⟨(anything.getNext _ .maskQueue (apart_nothing _) hacc).1,
    hwait.getNext_other (q := .maskQueue) hstatus (by decide),
    hstatus.getNext (q := .maskQueue) hacc⟩

omit [Uart U] in
/-- The ISR will answer the wait, or its DPC reports what has happened already. -/
theorem owes_serialGiveWaitToIsr {e : Extension U} {r : Request} (h : Owes e .wait none r)
    (hisr : e.isrHolds .wait = false) (hdpc : e.dpcPending .wait = false) :
    ∃ r', Owes e.serialGiveWaitToIsr .wait none r' ∧ r'.cancelable = r.cancelable := by
  have hcur := modifyCurrent_of_some (·.putReference true .isr) h.current
  simp only [isrHolds, dpcPending] at hisr hdpc
  unfold serialGiveWaitToIsr
  rw [hcur]
  split
  · refine ⟨r.putReference true .isr, h.given ?_ rfl ⟨rfl, rfl⟩ ?_ ?_ rfl, rfl⟩
    · simp [giveWait, setCurrent]
    · simp [isrHolds, giveWait]
    · simp [dpcPending, giveWait, setCurrent, hdpc]
  · refine ⟨{ r.putReference true .isr with
        eventMask := some e.ev.historyMask, information := 4, status := .success },
      h.given ?_ rfl ⟨rfl, rfl⟩ ?_ ?_ ?_, rfl⟩
    · simp [answerFromHistory, serialInsertQueueDpc, current_modifyCurrent, setCurrent]
    · simp [dpcPending, answerFromHistory, serialInsertQueueDpc]
    · simp [isrHolds, answerFromHistory, serialInsertQueueDpc, setCurrent, hisr]
    · simp [answerFromHistory, serialInsertQueueDpc, setCurrent]

omit [Uart U] in
theorem done_serialGiveWaitToIsr (e : Extension U) : e.serialGiveWaitToIsr.done = e.done := by
  unfold serialGiveWaitToIsr
  split <;> simp [giveWait, answerFromHistory, serialInsertQueueDpc]

/-- The request to wait in its own slot, answered or given to the ISR. -/
def Extension.moveToWait (r : Request) (e : Extension U) : Extension U :=
  ((e.setCurrent .mask none).setCurrent .wait
    (some { r with refCount := .zero }.serialSetCancelRoutine)).serialGiveWaitToIsr

theorem accounted_moveToWait {e : Extension U} (h : Accounted e) {r : Request}
    (hr : e.current .mask = some r) (hbody : Slot.wait.serves r.body = true)
    (hnone : e.current .wait = none) : Accounted (e.moveToWait r) := by
  have hident : { r with refCount := .zero }.serialSetCancelRoutine.ident = r.ident := rfl
  have hmove := h.move (t := .wait) (by decide) hr hident hbody
    fun r₀ h₀ => by rw [hnone] at h₀; cases h₀
  rw [hnone, Option.toList_none, List.append_nil] at hmove
  exact (anything.serialGiveWaitToIsr id _ id hmove).1

omit [Uart U] in
theorem current_mask_moveToWait (e : Extension U) (r : Request) :
    (e.moveToWait r).current .mask = none := by
  rw [moveToWait, CallbackRule.current_mask_serialGiveWaitToIsr, current_setCurrent,
    if_neg (by decide), current_setCurrent, if_pos rfl]

omit [Uart U] in
/-- The wait has its references in order in its own slot. -/
theorem tracked_moveToWait {e : Extension U} (h : Tracked .wait e) (hmask : Unheld .mask e)
    {r : Request} (hr : e.current .mask = some r) (hnone : e.current .wait = none) :
    Tracked .wait (e.moveToWait r) := by
  obtain ⟨hun, _⟩ := h.vacant hnone
  have hmarks := hmask.marks r hr
  have hzero : { r with refCount := .zero } = r := by rw [← hmarks.1]
  have hcur : ((e.setCurrent .mask none).setCurrent .wait (some r)).current .wait = some r := by
    rw [current_setCurrent, if_pos rfl]
  have hmoved : Unheld .wait ((e.setCurrent .mask none).setCurrent .wait (some r)) := by
    refine ⟨hun, fun r' hr' => ?_, h.released⟩
    cases hcur.symm.trans hr'
    exact hmarks
  have hset := (hmoved.owes hcur).setCancelRoutine (f := Request.serialSetCancelRoutine) rfl
  have hsame : ((e.setCurrent .mask none).setCurrent .wait (some r)).modifyCurrent .wait
      Request.serialSetCancelRoutine = (e.setCurrent .mask none).setCurrent .wait
        (some { r with refCount := .zero }.serialSetCancelRoutine) := by
    rw [modifyCurrent_of_some _ hcur, hzero]
    simp [setCurrent]
  rw [hsame] at hset
  obtain ⟨r', hgiven, hsome⟩ := owes_serialGiveWaitToIsr hset hun.1 hun.2.1
  refine tracked_of_cancelable hgiven ?_ (not_starting_of_ne (by decide)) fun r₁ hr₁ => ?_
  · rw [hsome]
    exact cancelable_serialSetCancelRoutine _
  · exact h.released r₁ (by rwa [moveToWait, done_serialGiveWaitToIsr] at hr₁)

/-- A request to wait is accepted, and the next mask request comes in. -/
theorem maskReady_startWait {e : Extension U} (h : MaskReady e) {r : Request}
    (hr : e.current .mask = some r) (hbody : Slot.wait.serves r.body = true)
    (hnone : e.current .wait = none) : MaskReady (e.startWait r) := by
  have hacc := accounted_moveToWait h.accounted hr hbody hnone
  have hwait := tracked_moveToWait h.wait h.mask hr hnone
  have hcur := current_mask_moveToWait e r
  have hmask : Unheld .mask (e.moveToWait r) := by
    refine ⟨⟨rfl, rfl, rfl, rfl⟩, fun r' hr' => ?_, fun r' hr' => ?_⟩
    · rw [hcur] at hr'
      cases hr'
    · rw [moveToWait, done_serialGiveWaitToIsr] at hr'
      exact h.mask.released r' hr'
  have hnext : e.startWait r = (e.moveToWait r).retrieveNextRequest .maskQueue .mask := by
    show (e.moveToWait r).serialGetNextRequest .mask .maskQueue false = _
    unfold serialGetNextRequest
    rw [hcur]
  rw [hnext]
  exact ⟨hacc.retrieve (q := .maskQueue) hcur,
    hwait.of_same (CallbackRule.same_retrieve (q := .maskQueue) _ (by decide)),
    hmask.retrieve (q := .maskQueue) hacc hcur⟩

omit [Uart U] in
/-- Code under the interrupt lock leaves mask requests alone. -/
theorem maskReady_of_effect {e e' : Extension U} (h : MaskReady e) (heff : Effect e e') :
    MaskReady e' :=
  ⟨h.accounted.of_effect heff, h.wait.of_effect heff, h.mask.of_effect heff⟩

/-- One round of the loop of `SerialStartMask`. -/
theorem maskReady_startMaskOne {e : Extension U} (h : MaskReady e) : MaskReady e.startMaskOne := by
  unfold startMaskOne
  split
  · exact ⟨h.accounted.congr (fun _ => rfl) rfl, h.wait.of_same (.of_fields rfl rfl rfl),
      h.mask.of_same (.of_fields rfl rfl ⟨rfl, rfl⟩)⟩
  · next r hr =>
    split
    · exact maskReady_nextMask (maskReady_of_effect h (effect_serialFinishOldWait e _)) _
    · next hbody =>
      refine rel_ite (R := fun _ => MaskReady) (e := e) (fun _ => maskReady_nextMask h _)
        fun hfree => ?_
      simp only [Bool.or_eq_true, not_or, Bool.not_eq_true, Option.isSome_eq_false_iff,
        Option.isNone_iff_eq_none] at hfree
      exact maskReady_startWait h hr (serves_wait (h.accounted.served .mask r hr) hbody) hfree.2

theorem maskReady_startMaskLoop (n : Nat) {e : Extension U} (h : MaskReady e) :
    MaskReady (startMaskLoop n e) := by
  induction n generalizing e with
  | zero => exact h
  | succ n ih =>
    have hone := maskReady_startMaskOne h
    exact rel_ite (R := fun _ => MaskReady) (e := e) (fun _ => ih hone) (fun _ => hone)

theorem maskReady_serialStartMask {e : Extension U} (h : MaskReady e) :
    MaskReady e.serialStartMask := maskReady_startMaskLoop _ h

omit [Uart U] in
theorem Unheld.completeNew {e : Extension U} {s : Slot} (h : Unheld s e) {r : Request}
    (hrefs : r.refCount = .zero) (hcancelable : r.cancelable = .none) :
    Unheld s (e.serialCompleteRequest r) :=
  h.of_sameAgents ⟨rfl, by cases s <;> rfl, by cases s <;> rfl, rfl, rfl⟩
    (released_complete h.released hrefs hcancelable)

/-- A request comes to the mask queue. -/
theorem maskReady_serialStartOrQueue {e : Extension U} (h : MaskReady e) (body : Body)
    (hproper : (Request.new e.nextId body 0 []).Proper)
    (hserves : Slot.mask.serves body = true) :
    MaskReady (e.takeId.serialStartOrQueue (Request.new e.nextId body 0 []) .maskQueue .mask
      serialStartMask) := by
  have hacc := (anything.serialStartOrQueue (q := .maskQueue) (apart_nothing _) hserves hproper
    (fun e => anything.serialStartMask id id e) h.accounted).1
  have hstart : e.current .mask = none → MaskReady (serialStartMask
      ((e.takeId.addCharsQueued (charsQueued (Request.new e.nextId body 0 []))).setCurrent .mask
        (some (Request.new e.nextId body 0 [])))) := by
    intro hnone
    refine maskReady_serialStartMask ⟨(anything.arrive e id hserves hnone _ h.accounted).1, ?_, ?_⟩
    · exact (h.wait.takeId.addCharsQueued _).of_same (.setCurrent _ _ (by decide))
    · refine ⟨⟨rfl, rfl, rfl, rfl⟩, fun r hr => ?_, h.mask.released⟩
      rw [current_setCurrent, if_pos rfl] at hr
      cases hr
      exact ⟨rfl, rfl, rfl⟩
  refine ⟨hacc, h.wait.takeId.serialStartOrQueue .mask fun hnone => (hstart hnone).wait, ?_⟩
  refine rel_ite (R := fun _ => Unheld .mask) (e := e) (fun hfree => ?_)
    (fun _ => rel_ite (R := fun _ => Unheld .mask) (e := e) (fun _ => ?_) (fun _ => ?_))
  · rw [Bool.and_eq_true, Option.isNone_iff_eq_none] at hfree
    exact (hstart hfree.2).mask
  · exact h.mask.of_sameAgents ⟨rfl, rfl, rfl, rfl, rfl⟩ h.mask.released
  · have htake : Unheld .mask (e.takeId.addCharsQueued
        (charsQueued (Request.new e.nextId body 0 []))) :=
      h.mask.of_sameAgents ⟨rfl, rfl, rfl, rfl, rfl⟩ h.mask.released
    exact htake.completeNew rfl rfl

omit [Uart U] in
theorem maskReady_completeNew {e : Extension U} (h : MaskReady e) {r : Request}
    (hid : r.id = e.nextId) (hrefs : r.refCount = .zero) (hcancelable : r.cancelable = .none) :
    MaskReady (e.takeId.serialCompleteRequest r) := by
  have htake : Unheld .mask e.takeId :=
    h.mask.of_sameAgents ⟨rfl, rfl, rfl, rfl, rfl⟩ h.mask.released
  exact ⟨h.accounted.refuse hid, h.wait.takeId.completeNew hrefs hcancelable,
    htake.completeNew hrefs hcancelable⟩

theorem maskReady_ioctlSetWaitMask {e : Extension U} (h : MaskReady e) (mask : UInt32) :
    MaskReady (e.ioctlSetWaitMask mask) := by
  refine rel_ite (R := fun _ => MaskReady) (e := e) (fun _ => maskReady_completeNew h rfl rfl rfl)
    (fun _ => rel_ite (R := fun _ => MaskReady) (e := e)
      (fun _ => maskReady_completeNew h rfl rfl rfl) (fun _ => ?_))
  exact maskReady_serialStartOrQueue h (.setWaitMask mask) trivial rfl

theorem maskReady_ioctlWaitOnMask {e : Extension U} (h : MaskReady e) :
    MaskReady e.ioctlWaitOnMask := by
  refine rel_ite (R := fun _ => MaskReady) (e := e) (fun _ => maskReady_completeNew h rfl rfl rfl)
    (fun _ => ?_)
  exact maskReady_serialStartOrQueue h .waitOnMask trivial rfl

end SerialFc
