import SerialFc.Lib.Run
import SerialFc.Properties.Callbacks

/-!
# The rule for steps

`Label.slots` are the slots that a step works for. A relation about other slots that contains what
`CallbackRule` asks for contains the step.
-/

namespace SerialFc

open Extension

variable {U : Type} [Uart U]

/-! ## The slots a step works for -/

/-- The slots a callback works for. One that completes a request cancelled while it waited may
complete any kind. -/
def Callback.worksFor : Callback → Slot → Bool
  | .evtIoRead _, s | .setQueueSize _, s => s == .read
  | .evtIoWrite _, s | .xoffCounter _ _ _, s => s == .write || s == .xoff
  | .immediateChar _, s => s == .immediate
  | .setWaitMask _, s | .waitOnMask, s => s == .mask || s == .wait
  | .purge _, s => s == .purge || s == .read || s == .write || s == .xoff
  | .flushStop, s | .flushStart, s => s == .write
  | .dpc .commError, s => s == .read || s == .write || s == .xoff
  | .dpc .completeWrite, s => s == .write || s == .xoff
  | .dpc d, s => d.slot == some s
  | .timer .writeRequestTotal, s => s == .write || s == .xoff
  | .timer t, s => t.slot == some s
  | .cancelRoutine .write, s => s == .write || s == .xoff
  | .cancelRoutine t, s => s == t
  | .cancelAbandoned _, s => s == .xoff
  | .canceledOnQueue _, _ => true
  | _, _ => false

/-- The slots a step works for, besides what it does under the interrupt lock. -/
def Label.worksFor {Input : Type} : Label Input → Slot → Bool
  | .expire t, s => t.slot == some s
  | .cancel t, s => s == t
  | .cancelAbandoned _, s => s == .xoff
  | .cancelWaiting q _, s => s == q.slot
  | .readStep, s => s == .read
  | .callback c, s => c.worksFor s
  | _, _ => false

/-- The callbacks that `StartTimerLowerRTSDpc` and `LowerRTSTimer` are for. -/
def Callback.lowersRts : Callback → Bool
  | .dpc .startTimerLowerRts | .timer .lowerRts => true
  | _ => false

/-- They and the expiry of the timer. -/
def Label.lowersRts {Input : Type} : Label Input → Bool
  | .expire .lowerRts => true
  | .callback c => c.lowersRts
  | _ => false

/-- A pass of the ISR. -/
def Label.isIsr {Input : Type} : Label Input → Bool
  | .isr _ => true
  | _ => false

/-- A step of the ISR is made by `SerialISR`. -/
theorem IsrRule.step {R : Extension U → Extension U → Prop} (h : IsrRule R)
    {l : Label (Uart.Input U)} {e e' : Extension U} (hstep : step l e = some e')
    (hisr : l.isIsr = true) : R e e' := by
  cases fires_of_step hstep with
  | isr hpass => exact h.serialIsr hpass
  | _ => cases hisr

namespace CallbackRule

variable {T : Slot → Prop} {R : Extension U → Extension U → Prop} (h : CallbackRule T R)
include h

/-! ## Requests that arrive -/

section
variable {e : Extension U} {s : Slot} {body : Body} {length : Nat} {buffer : List UInt8}

/-- The request is completed on arrival. -/
theorem refuse_new (hs : Apart T s) (hserves : s.serves body = true) {r : Request}
    (hid : r.id = e.nextId) (hbody : r.body = body) :
    Guarded R e (e.takeId.serialCompleteRequest r) := by
  refine fun ha => ⟨ha.refuse hid, h.same _ _ (fun t ht => ?_)
    (shared_serialCompleteRequest r e.takeId)⟩
  have htake : Same t e e.takeId := Same.of_fields rfl rfl (Same.refl t e).data
  refine htake.trans (Same.complete _ ?_)
  rw [hbody]
  exact hs.2 body hserves t ht

/-- A request that comes in is completed at once, if an error aborts, or goes on. -/
theorem accept (hs : Apart T s) (hserves : s.serves body = true)
    {k : Request → Extension U → Extension U}
    (hk : Guarded R e (k (Request.new e.nextId body length buffer) e.takeId)) :
    Guarded R e (e.accept body length buffer k) :=
  rel_ite (fun _ => h.refuse_new hs hserves rfl rfl) (fun _ => hk)

theorem refuse (hs : Apart T s) (hserves : s.serves body = true) (status : NtStatus) :
    Guarded R e (e.takeId.refuse status (Request.new e.nextId body length buffer)) :=
  h.refuse_new hs hserves rfl rfl

/-- The request takes the slot, which is empty. -/
theorem arrive (e : Extension U) (hs : ¬T s) (hserves : s.serves body = true) (hnone : e.current s = none) (n : Int) :
    Guarded R e ((e.takeId.addCharsQueued n).setCurrent s
      (some (Request.new e.nextId body length buffer))) := by
  intro ha
  refine ⟨(h.addCharsQueued e n ha).1.arrive hnone body length buffer hserves, ?_⟩
  refine h.same _ _ (fun t ht => ?_) rfl
  have htake : Same t e (e.takeId.addCharsQueued n) := Same.of_fields rfl rfl (Same.refl t e).data
  exact htake.trans (Same.setCurrent _ _ (ne_of_not hs ht))

/-- It is started if nobody is served, and waits otherwise. -/
theorem serialStartOrQueue {q : QueueId} (hs : Apart T q.slot)
    (hserves : q.slot.serves body = true)
    (hproper : (Request.new e.nextId body length buffer).Proper)
    {starter : Extension U → Extension U} (hstart : ∀ e, Guarded R e (starter e)) :
    Guarded R e (e.takeId.serialStartOrQueue (Request.new e.nextId body length buffer) q q.slot
      starter) := by
  refine rel_ite (fun hfree => ?_) (fun _ => rel_ite (fun _ => ?_) (fun _ => ?_))
  · rw [Bool.and_eq_true, Option.isNone_iff_eq_none] at hfree
    have harrive : Guarded R e ((e.takeId.addCharsQueued (charsQueued
        (Request.new e.nextId body length buffer))).setCurrent q.slot
        (some (Request.new e.nextId body length buffer))) := h.arrive e hs.1 hserves hfree.2 _
    exact h.gtrans harrive (hstart _)
  · intro ha
    have hcount := h.addCharsQueued e (charsQueued (Request.new e.nextId body length buffer)) ha
    refine ⟨hcount.1.enqueue (q := q) hproper hserves, h.same _ _ (fun t ht => ?_) rfl⟩
    have htake : Same t e (e.takeId.addCharsQueued
        (charsQueued (Request.new e.nextId body length buffer))) :=
      Same.of_fields rfl rfl (Same.refl t e).data
    exact htake.trans (Same.putQueue _ _ (ne_of_not hs.1 ht))
  · intro ha
    have hcount := h.addCharsQueued e (charsQueued (Request.new e.nextId body length buffer)) ha
    refine ⟨hcount.1.refuse rfl, h.same _ _ (fun t ht => ?_) (shared_serialCompleteRequest _ _)⟩
    have htake : Same t e (e.takeId.addCharsQueued
        (charsQueued (Request.new e.nextId body length buffer))) :=
      Same.of_fields rfl rfl (Same.refl t e).data
    exact htake.trans (Same.complete _ (hs.2 body hserves t ht))

end

/-! ## I/O controls that are not tracked -/

/-- Requests that change the state and are completed at once. -/
theorem simple (e : Extension U) {f : Extension U → Extension U} (hf : ∀ e, Guarded R e (f e)) :
    Guarded R e (e.ioctlSimple f) :=
  rel_ite (fun _ => h.grefl e) (fun _ => hf e)

theorem ioctlSetTimeouts (e : Extension U) (t : Timeouts) : Guarded R e (ioctlSetTimeouts t e) :=
  rel_ite (fun _ => h.grefl e) fun _ ha =>
    ⟨ha.congr (fun _ => rfl) rfl, h.configure e t e.cfg.specialChars e.cfg.escapeChar⟩

theorem ioctlSetChars (e : Extension U) (c : SpecialChars) : Guarded R e (ioctlSetChars c e) :=
  rel_ite (fun _ => h.grefl e) fun _ ha =>
    ⟨ha.congr (fun _ => rfl) rfl, h.configure e e.cfg.timeouts c e.cfg.escapeChar⟩

theorem ioctlLsrmstInsert (e : Extension U) (c : UInt8) : Guarded R e (ioctlLsrmstInsert c e) :=
  rel_ite (fun _ => h.grefl e) fun _ ha =>
    ⟨ha.congr (fun _ => rfl) rfl, h.configure e e.cfg.timeouts e.cfg.specialChars c⟩

/-- New handshaking, which the relation must contain on its own. -/
theorem setHandFlow (e : Extension U) (hf : HandFlow)
    (hset : e.serialCompleteIfError = false → e.handFlowRefused hf = false →
      R e (e.serialSetHandFlow hf)) : Guarded R e (e.ioctlSimple (ioctlSetHandFlow hf)) := by
  refine rel_ite (fun _ => h.grefl e) fun herror => rel_ite (fun _ => h.grefl e) fun hrefused ha =>
    ⟨ha.of_effect (effect_interruptRule.serialSetHandFlow hf e), hset ?_ ?_⟩
  · simpa using herror
  · simpa using hrefused

theorem ioctlSetDtr (e : Extension U) (b : Bool) : Guarded R e (ioctlSetDtr b e) :=
  rel_ite (fun _ => h.grefl e) fun hfree => by
    have hlines := h.setDtr e (by simpa using hfree)
    exact rel_ite (fun _ ha => ⟨ha.of_effect (effect_interruptRule.serialSetDtr e), hlines.1⟩)
      (fun _ ha => ⟨ha.of_effect (effect_interruptRule.serialClrDtr e), hlines.2⟩)

theorem ioctlSetRts (e : Extension U) (b : Bool) : Guarded R e (ioctlSetRts b e) :=
  rel_ite (fun _ => h.grefl e) fun hfree => by
    have hlines := h.setRts e (by simpa using hfree)
    exact rel_ite (fun _ ha => ⟨ha.of_effect (effect_interruptRule.serialSetRts e), hlines.1⟩)
      (fun _ ha => ⟨ha.of_effect (effect_interruptRule.serialClrRts e), hlines.2⟩)

/-! ## Callbacks -/

/-- Requests that wait for the reader's slot, the writer's or that of the mask. -/
theorem evtIoRead (e : Extension U) (n : Nat) (hr : ¬T .read) :
    Guarded R e (e.serialEvtIoRead n) := by
  refine h.accept (apart_read hr) rfl (rel_ite (fun _ => h.refuse (apart_read hr) rfl _)
    fun hn => ?_)
  have hproper : (Request.new e.nextId .read n (List.replicate n 0)).Proper :=
    ⟨Nat.pos_of_ne_zero hn, List.length_replicate⟩
  exact h.serialStartOrQueue (q := .readQueue) (apart_read hr) rfl hproper (h.goto hr · _)

theorem setQueueSize (e : Extension U) (n : Nat) (hr : ¬T .read) :
    Guarded R e (e.ioctlSetQueueSize n) := by
  have hproper : (Request.new e.nextId (.setQueueSize n) 0 []).Proper := trivial
  exact h.accept (apart_read hr) rfl (rel_ite (fun _ => h.refuse (apart_read hr) rfl _) fun _ =>
    h.serialStartOrQueue (q := .readQueue) (apart_read hr) rfl hproper (h.goto hr · _))

theorem evtIoWrite (e : Extension U) (payload : List UInt8) (hw : ¬T .write) (hx : ¬T .xoff) :
    Guarded R e (e.serialEvtIoWrite payload) := by
  have hapart := apart_write hw hx
  refine h.accept hapart rfl (rel_ite (fun _ => h.refuse hapart rfl _) fun hn => ?_)
  have hproper : (Request.new e.nextId (.write payload) payload.length payload).Proper :=
    ⟨Nat.pos_of_ne_zero hn, rfl, rfl⟩
  exact h.serialStartOrQueue (q := .writeQueue) hapart rfl hproper (h.serialStartWrite hw hx)

theorem xoffCounter (e : Extension U) (t n : Nat) (c : UInt8) (hw : ¬T .write) (hx : ¬T .xoff) :
    Guarded R e (e.ioctlXoffCounter t n c) := by
  have hapart := apart_write hw hx
  refine h.accept hapart rfl (rel_ite (fun _ => h.refuse hapart rfl _) fun hn => ?_)
  have hproper : (Request.new e.nextId (.xoffCounter t n c) 0 []).Proper := hn
  exact h.serialStartOrQueue (q := .writeQueue) hapart rfl hproper (h.serialStartWrite hw hx)

/-- The immediate character has a slot but no queue. -/
theorem immediateChar (e : Extension U) (c : UInt8) (hi : ¬T .immediate) :
    Guarded R e (e.ioctlImmediateChar c) := by
  have hapart := apart_immediate hi
  refine h.accept hapart rfl (rel_ite (fun _ => h.refuse hapart rfl _) fun hn => ?_)
  have hnone : e.current .immediate = none := by
    have hsome : ¬(e.current .immediate).isSome = true := hn
    rwa [Option.not_isSome_iff_eq_none] at hsome
  exact h.gtrans (h.arrive e hi rfl hnone 1) (h.serialStartImmediate hi _ c)

theorem setWaitMask (e : Extension U) (m : UInt32) (hm : ¬T .mask) (hw : ¬T .wait) :
    Guarded R e (e.ioctlSetWaitMask m) := by
  have hapart := apart_mask hm hw
  have hproper : (Request.new e.nextId (.setWaitMask m) 0 []).Proper := trivial
  exact h.accept hapart rfl (rel_ite (fun _ => h.refuse hapart rfl _) fun _ =>
    h.serialStartOrQueue (q := .maskQueue) hapart rfl hproper (h.serialStartMask hw hm))

theorem waitOnMask (e : Extension U) (hm : ¬T .mask) (hw : ¬T .wait) :
    Guarded R e e.ioctlWaitOnMask := by
  have hapart := apart_mask hm hw
  have hproper : (Request.new e.nextId .waitOnMask 0 []).Proper := trivial
  exact h.accept hapart rfl
    (h.serialStartOrQueue (q := .maskQueue) hapart rfl hproper (h.serialStartMask hw hm))

/-- A purge, with what it aborts. -/
theorem ioctlPurge (e : Extension U) (m : UInt32) (hp : ¬T .purge) (haborts : Aborts R) :
    Guarded R e (e.ioctlPurge m) := by
  have hapart := apart_purge hp
  have hproper : (Request.new e.nextId (.purge m) 0 []).Proper := trivial
  exact h.accept hapart rfl (rel_ite (fun _ => h.refuse hapart rfl _) fun _ =>
    h.serialStartOrQueue (q := .purgeQueue) hapart rfl hproper (h.serialStartPurge haborts hp))

/-- A DPC works for the slot whose request it ends. -/
theorem runDpc (e : Extension U) (d : DpcId)
    (hT : ∀ s, (Callback.dpc d).worksFor s = true → ¬T s)
    (hlower : (Callback.dpc d).lowersRts = true → R e (e.runDpc d)) :
    Guarded R e (e.runDpc d) := by
  have htake : (∀ s, d.slot = some s → ¬T s) → d ≠ .startTimerLowerRts →
      Guarded R e (e.takeDpc d) := h.dpc e false
  cases d with
  | completeRead =>
    have hr : ¬T .read := hT .read rfl
    exact h.gtrans (htake (fun s hs => by cases hs; exact hr) (by decide)) (h.serialCompleteRead hr _)
  | completeWrite =>
    have hw : ¬T .write := hT .write rfl
    exact h.gtrans (htake (fun s hs => by cases hs; exact hw) (by decide))
      (h.serialCompleteWrite hw (hT .xoff rfl) _)
  | completeImmediate =>
    have hi : ¬T .immediate := hT .immediate rfl
    exact h.gtrans (htake (fun s hs => by cases hs; exact hi) (by decide)) (h.serialCompleteImmediate hi _)
  | commWait =>
    have hw : ¬T .wait := hT .wait rfl
    exact h.gtrans (htake (fun s hs => by cases hs; exact hw) (by decide)) (h.serialCompleteWait hw _)
  | xoffCountComplete =>
    have hx : ¬T .xoff := hT .xoff rfl
    exact h.gtrans (htake (fun s hs => by cases hs; exact hx) (by decide)) (h.serialCompleteXoff hx _)
  | commError =>
    exact h.gtrans (htake (fun s hs => nomatch hs) (by decide))
      (h.serialCommError (h.aborts (hT .read rfl) (hT .write rfl) (hT .xoff rfl)) _)
  | startTimerLowerRts =>
    refine fun ha => ⟨?_, hlower rfl⟩
    refine ha.congr (fun _ => ?_) ?_ <;>
      (unfold Extension.runDpc Extension.dpcRoutine Extension.serialStartTimerLowerRts; dsimp only)
    · split <;> rfl
    · split <;> rfl

/-- So does a timer, but for the one that lowers RTS. -/
theorem runTimer (e : Extension U) (t : TimerId)
    (hT : ∀ s, (Callback.timer t).worksFor s = true → ¬T s)
    (hlower : (Callback.timer t).lowersRts = true → R e (e.runTimer t)) :
    Guarded R e (e.runTimer t) := by
  have htake : (∀ s, t.slot = some s → ¬T s) → t ≠ .lowerRts → Guarded R e (e.takeTimer t) :=
    h.timer e _
  cases t with
  | readRequestTotal =>
    have hr : ¬T .read := hT .read rfl
    exact h.gtrans (htake (fun s hs => by cases hs; exact hr) (by decide)) (h.serialReadTimeout hr _)
  | readRequestInterval =>
    have hr : ¬T .read := hT .read rfl
    exact h.gtrans (htake (fun s hs => by cases hs; exact hr) (by decide)) (h.serialIntervalReadTimeout hr _)
  | writeRequestTotal =>
    have hw : ¬T .write := hT .write rfl
    exact h.gtrans (htake (fun s hs => by cases hs; exact hw) (by decide))
      (h.serialWriteTimeout hw (hT .xoff rfl) _)
  | immediateTotal =>
    have hi : ¬T .immediate := hT .immediate rfl
    exact h.gtrans (htake (fun s hs => by cases hs; exact hi) (by decide)) (h.serialTimeoutImmediate hi _)
  | xoffCount =>
    have hx : ¬T .xoff := hT .xoff rfl
    exact h.gtrans (htake (fun s hs => by cases hs; exact hx) (by decide)) (h.serialTimeoutXoff hx _)
  | lowerRts =>
    have htaken : ∀ ha : Accounted e, Accounted (e.takeTimer .lowerRts) :=
      fun ha => ha.congr (fun _ => rfl) rfl
    exact fun ha => ⟨(htaken ha).of_effect (effect_interruptRule.serialPerhapsLowerRts _),
      hlower rfl⟩

/-- And a cancel routine. -/
theorem runCancelRoutine (e : Extension U) (s : Slot)
    (hT : ∀ t, (Callback.cancelRoutine s).worksFor t = true → ¬T t) :
    Guarded R e (e.runCancelRoutine s) := by
  have hmark : ¬T s → Guarded R e (e.modifyCurrent s fun r => { r with cancelable := .none }) :=
    fun hs => h.modify e hs (by intro; rfl)
  cases s with
  | read =>
    have hr := hT .read rfl
    exact h.gtrans (hmark hr) (h.serialCancelCurrentRead hr _)
  | write =>
    have hw := hT .write rfl
    exact h.gtrans (hmark hw) (h.serialCancelCurrentWrite hw (hT .xoff rfl) _)
  | immediate =>
    have hi := hT .immediate rfl
    exact h.gtrans (hmark hi) (h.serialCancelImmediate hi _)
  | wait =>
    have hw := hT .wait rfl
    exact h.gtrans (hmark hw) (h.serialCancelWait hw _)
  | xoff =>
    have hx := hT .xoff rfl
    exact h.gtrans (hmark hx) (h.serialCancelCurrentXoff hx _)
  | mask => exact hmark (hT .mask rfl)
  | purge => exact hmark (hT .purge rfl)

omit h [Uart U] in
/-- Marks do not change who the requests are. -/
theorem map_ident_modify {l : List Request} {i : Nat} {f : Request → Request}
    (hf : ∀ r, (f r).ident = r.ident) : (l.modify i f).map Request.ident = l.map Request.ident := by
  induction l generalizing i with
  | nil => cases i <;> rfl
  | cons r l ih =>
    cases i with
    | zero => simp [hf]
    | succ i => simp [ih]

/-- A request that has lost its slot is written to. -/
theorem modifyAbandoned (e : Extension U) (i : Nat) {f : Request → Request}
    (hf : ∀ r, (f r).ident = r.ident) (hx : ¬T .xoff) :
    Guarded R e { e with abandoned := e.abandoned.modify i f } :=
  h.fields (fun s hs => by
    have hne := ne_of_not hx hs
    cases s <;> simp_all [SameData]) rfl (by simp only [map_ident_modify hf])

/-- A flush concerns the write queue only. -/
theorem flushStop (e : Extension U) (hw : ¬T .write) : Guarded R e e.flushStop := by
  refine fun ha => ⟨(ha.putQueue .writeQueue _ false).congr (fun _ => rfl) rfl, ?_⟩
  refine h.same _ _ (fun s hs => ?_) rfl
  have hne := ne_of_not hw hs
  refine (Same.putQueue e (q := .writeQueue) { e.queue .writeQueue with started := false }
    hne).trans ?_
  exact Same.of_fields rfl rfl (by cases s <;> simp_all [SameData, Extension.flushStop])

theorem flushStart (e : Extension U) (hw : ¬T .write) : Guarded R e e.flushStart := by
  refine h.gtrans (h.wdfIoQueueStart e .writeQueue hw) (h.fields (fun s hs => ?_) rfl rfl)
  have hne := ne_of_not hw hs
  cases s <;> simp_all [SameData, Extension.flushStart]

/-- A request is completed that no slot has. -/
theorem runCanceledOnQueue (e : Extension U) (i : Nat) (hT : ∀ s, ¬T s) :
    Guarded R e (e.runCanceledOnQueue i) :=
  fun ha => ⟨ha.runCanceledOnQueue i, h.same _ _ (fun s hs => absurd hs (hT s)) (by
    unfold Extension.runCanceledOnQueue
    split
    · rfl
    · exact shared_serialCompleteRequest _ _)⟩

/-- **Rule for callbacks.** -/
theorem callback (e : Extension U) (c : Callback) (hT : ∀ s, c.worksFor s = true → ¬T s)
    (hlower : c.lowersRts = true → R e (e.callback c))
    (hset : ∀ hf, c = .setHandFlow hf → e.serialCompleteIfError = false →
      e.handFlowRefused hf = false → R e (e.serialSetHandFlow hf)) :
    Guarded R e (e.callback c) := by
  cases c with
  | evtIoRead n => exact h.evtIoRead e n (hT .read rfl)
  | evtIoWrite payload => exact h.evtIoWrite e payload (hT .write rfl) (hT .xoff rfl)
  | immediateChar c => exact h.immediateChar e c (hT .immediate rfl)
  | xoffCounter t n c => exact h.xoffCounter e t n c (hT .write rfl) (hT .xoff rfl)
  | setQueueSize n => exact h.setQueueSize e n (hT .read rfl)
  | setWaitMask m => exact h.setWaitMask e m (hT .mask rfl) (hT .wait rfl)
  | waitOnMask => exact h.waitOnMask e (hT .mask rfl) (hT .wait rfl)
  | purge m =>
    exact h.ioctlPurge e m (hT .purge rfl)
      (h.aborts (hT .read rfl) (hT .write rfl) (hT .xoff rfl))
  | setTimeouts t => exact h.simple e (h.ioctlSetTimeouts · t)
  | setChars c => exact h.simple e (h.ioctlSetChars · c)
  | setHandFlow hf => exact h.setHandFlow e hf (hset hf rfl)
  | lsrmstInsert c => exact h.simple e (h.ioctlLsrmstInsert · c)
  | setXon => exact h.simple e fun e => of_lock (h.lock.serialPretendXon e)
  | setXoff => exact h.simple e fun e => of_lock (h.lock.serialPretendXoff e)
  | setBreakOn => exact h.simple e fun e => of_lock (h.lock.serialTurnOnBreak e)
  | setBreakOff => exact h.simple e fun e => of_lock (h.lock.serialTurnOffBreak e)
  | setDtr b => exact h.simple e (h.ioctlSetDtr · b)
  | setRts b => exact h.simple e (h.ioctlSetRts · b)
  | getModemStatus => exact h.simple e fun e => of_lock (h.lock.serialHandleModemUpdate false e)
  | getCommStatus => exact fun ha => ⟨ha.congr (fun _ => rfl) rfl, h.clearErrors e⟩
  | flushStop => exact h.flushStop e (hT .write rfl)
  | flushStart => exact h.flushStart e (hT .write rfl)
  | dpc d => exact h.runDpc e d hT hlower
  | timer t => exact h.runTimer e t hT hlower
  | cancelRoutine s => exact h.runCancelRoutine e s hT
  | cancelAbandoned i =>
    have hx := hT .xoff rfl
    exact h.gtrans (h.modifyAbandoned e i (by intro; rfl) hx) (h.serialCancelCurrentXoff hx _)
  | canceledOnQueue i => exact h.runCanceledOnQueue e i fun s => hT s rfl

/-- **Rule for steps.** What the ISR, the lowering of RTS and new limits do is left open. -/
theorem step {l : Label (Uart.Input U)} {e e' : Extension U} (hstep : step l e = some e')
    (hT : ∀ s, l.worksFor s = true → ¬T s) (hisr : l.isIsr = true → R e e')
    (hlower : l.lowersRts = true → R e e')
    (hset : ∀ hf, l = .callback (.setHandFlow hf) → e.serialCompleteIfError = false →
      e.handFlowRefused hf = false → R e (e.serialSetHandFlow hf))
    (hresize : ∀ n buffer, l = .readStep → ¬T .read → e.pc = .moved n buffer →
      R e (e.serialUpdateAndSwitchToNew n buffer)) : Guarded R e e' := by
  -- a step either works for no protected slot, or is one of those the hypotheses speak of
  cases fires_of_step hstep with
  | hardware x => exact fun ha => ⟨ha.congr (fun _ => rfl) rfl, h.evolve e x⟩
  | isr hpass =>
    exact fun ha => ⟨ha.of_effect (effect_interruptRule.lockRule.serialIsr hpass), hisr rfl⟩
  | @expire t hqueued =>
    by_cases hown : t = .lowerRts
    · subst hown
      exact fun ha => ⟨ha.congr (fun _ => rfl) rfl, hlower rfl⟩
    · exact h.timer e _ (fun s hs => hT s (by simp [Label.worksFor, hs])) hown
  | tick n => exact h.fields (fun s _ => (Same.refl s e).data) rfl rfl
  | @cancel s r hr =>
    have hs : ¬T s := hT s (by simp [Label.worksFor])
    refine fun ha => ⟨ha.setCurrent_of_ident (by rw [hr]; rfl), h.same _ _ (fun t ht => ?_) rfl⟩
    exact Same.setCurrent e _ (ne_of_not hs ht)
  | cancelAbandoned i => exact h.modifyAbandoned e i (by intro; rfl) (hT .xoff rfl)
  | @cancelWaiting q i r hr =>
    have hq : ¬T q.slot := hT _ (by simp [Label.worksFor])
    have hcancel : e.cancelWaiting q i = some _ := Option.map_eq_some_iff.mpr ⟨r, hr, rfl⟩
    refine fun ha => ⟨ha.cancelWaiting hcancel, h.same _ _ (fun t ht => ?_) rfl⟩
    exact (Same.putQueue e _ (ne_of_not hq ht)).trans
      (Same.of_fields rfl rfl (Same.refl t _).data)
  | readStep hpc =>
    exact h.serialStartReadStep (hT .read rfl) e fun n b => hresize n b rfl (hT .read rfl)
  | @callback c hpc hc =>
    exact h.callback e c hT hlower fun hf hc => hset hf (congrArg _ hc)

end CallbackRule

namespace LowerRule

variable {R : Extension U → Extension U → Prop} (h : LowerRule R)
include h

theorem callback {e : Extension U} {c : Callback} (hc : e.enabled c = true)
    (hlower : c.lowersRts = true) : R e (e.callback c) := by
  cases c with
  | dpc d =>
    cases d with
    | startTimerLowerRts => exact h.startTimerLowerRts e hc
    | _ => cases hlower
  | timer t =>
    cases t with
    | lowerRts => exact h.lowerRtsTimer e hc
    | _ => cases hlower
  | _ => cases hlower

theorem step {l : Label (Uart.Input U)} {e e' : Extension U} (hstep : step l e = some e')
    (hlower : l.lowersRts = true) : R e e' := by
  cases fires_of_step hstep with
  | @expire t hqueued =>
    cases t with
    | lowerRts => exact h.expireLowerRts e hqueued
    | _ => cases hlower
  | callback hpc hc => exact h.callback hc hlower
  | _ => cases hlower

end LowerRule

namespace StepRule

variable {T : Slot → Prop} {R : Extension U → Extension U → Prop} (h : StepRule T R)
include h

theorem callback (e : Extension U) (c : Callback) (hT : ∀ s, c.worksFor s = true → ¬T s)
    (hc : e.enabled c = true) : Guarded R e (e.callback c) :=
  h.toCallbackRule.callback e c hT (h.toLowerRule.callback hc) fun hf _ _ _ => h.serialSetHandFlow hf e

theorem step {l : Label (Uart.Input U)} {e e' : Extension U} (hstep : step l e = some e')
    (hT : ∀ s, l.worksFor s = true → ¬T s) : Guarded R e e' :=
  h.toCallbackRule.step hstep hT (h.toIsrRule.step hstep) (h.toLowerRule.step hstep)
    (fun hf _ _ _ => h.serialSetHandFlow hf e) (fun n b _ hr _ => h.resize hr e n b)

end StepRule

omit [Uart U] in
/-- An open port has no requests yet. -/
theorem accounted_opened (u : U) (cfg : Config) (size : Nat) : Accounted (opened u cfg size) where
  served s r hr := by cases hr
  waiting q r hr := by cases hr
  canceled r hr := by cases hr
  lost r hr := by cases hr
  once i := by simp [places, opened, IoQueue.empty, occ]

/-- **Rule for runs.** What every step keeps in a state whose requests are accounted for, holds
whenever the port has been opened in a state where it holds. -/
theorem StepRule.run {P : Extension U → Prop}
    (h : StepRule (fun _ => False) fun e e' => P e → P e') {u : U} {cfg : Config} {size : Nat}
    {ls : List (Label (Uart.Input U))} {e : Extension U}
    (hrun : Lib.run Extension.step ls (opened u cfg size) = some e)
    (hopened : P (opened u cfg size)) : P e := by
  have hstep (l : Label (Uart.Input U)) (e e' : Extension U) (hl : Extension.step l e = some e')
      (hboth : Accounted e ∧ P e) : Accounted e' ∧ P e' := by
    obtain ⟨hacc, hkeep⟩ := h.step hl (fun _ _ => id) hboth.1
    exact ⟨hacc, hkeep hboth.2⟩
  exact (@Lib.run_invariant _ _ Extension.step _ e ls (fun e => Accounted e ∧ P e) hstep hrun
    ⟨accounted_opened u cfg size, hopened⟩).2

end SerialFc
