import SerialFc.Properties.RingSize
import SerialFc.Properties.Configuration

/-!
# Honest resizes

A request to resize that is completed with success finds the ring as large as it asked for; one that
fails leaves the ring as it was. The ring never shrinks, and its limits change only when it grows or
when they are set.

`IOCTL_SERIAL_SET_QUEUE_SIZE` breaks this when there is no memory: the status of the request is
still that of `WdfRequestRetrieveInputBuffer`.

* `ResizeOutcome` — what one step does
* `honest_iff` — runs are honest exactly when every larger ring finds memory
-/

namespace SerialFc

open Extension Lib

variable {U : Type} {e e' e'' : Extension U}

/-! ## Honest steps -/

/-- What a step does that completes the requests `completed`. It may change the limits for another
reason if `flow` is set. -/
structure HonestResizes (flow : Bool) (completed : List Request) (e e' : Extension U) : Prop where
  resizes : e'.resizes = e.resizes ++ completed
  success : ∀ r ∈ completed, r.status = .success → r.inSize ≤ e'.rx.bufferSize
  failure : ∀ r ∈ completed, r.status ≠ .success → e'.rx = e.rx ∧ e'.handFlow = e.handFlow
  unchanged : (∀ r ∈ completed, r.status ≠ .success) →
    e'.sizes = e.sizes ∧ (flow = false → e'.handFlow = e.handFlow)
  grows : e.rx.bufferSize ≤ e'.rx.bufferSize

namespace ResizeLabel

variable {Input : Type}

def setsFlow : ResizeLabel Input → Bool
  | .driver (.callback (.setHandFlow _)) => true
  | _ => false

/-- A request to resize arrives. -/
def asks : ResizeLabel Input → Bool
  | .setQueueSize _ _ | .driver (.callback (.setQueueSize _)) => true
  | _ => false

def Honest [Uart U] (l : ResizeLabel (Uart.Input U)) (e : Extension U) : Prop :=
  ∀ e', resizeStep l e = some e' →
    (∃ completed, HonestResizes l.setsFlow completed e e') ∧
      (l.asks = true → e'.rx = e.rx ∧ e'.handFlow = e.handFlow)

/-- No request for a larger ring goes without memory. -/
def Allocates [Uart U] : ResizeLabel (Uart.Input U) → Extension U → Prop
  | .setQueueSize inSize memory, e => e.bugcheck = false → e.pc = .idle →
      e.serialCompleteIfError = false → e.rx.bufferSize < inSize → memory = true
  | .driver _, _ => True

instance [Uart U] (l : ResizeLabel (Uart.Input U)) (e : Extension U) :
    Decidable (l.Allocates e) :=
  match l with
  | .driver _ => isTrue trivial
  | .setQueueSize inSize memory =>
    inferInstanceAs (Decidable (e.bugcheck = false → e.pc = .idle →
      e.serialCompleteIfError = false → e.rx.bufferSize < inSize → memory = true))

end ResizeLabel

/-! ## Resizes -/

variable [Uart U]

/-- What a step does, and that the next one starts from a state like this one. -/
def ResizeOutcome (flow : Bool) (e e' : Extension U) : Prop :=
  e'.Serving ∧ ∃ completed, HonestResizes flow completed e e'

omit [Uart U] in
theorem Quiet.outcome {flow : Bool} (h : Quiet e e')
    (hflow : flow = false → e'.handFlow = e.handFlow) : ResizeOutcome flow e e' := by
  refine ⟨h.serving, [], ?_, fun r hr => absurd hr List.not_mem_nil,
    fun r hr => absurd hr List.not_mem_nil, fun _ => ⟨h.sizes, hflow⟩, ?_⟩
  · rw [List.append_nil]
    exact h.resizes
  · exact (congrArg Prod.fst h.sizes).ge

omit [Uart U] in
/-- A resize that is completed with success changed the ring, or did not have to. -/
theorem outcome_success {flow : Bool} {r : Request} (hserving : e'.Serving)
    (hresizes : e'.resizes = e.resizes ++ [r]) (hstatus : r.status = .success)
    (hsize : r.inSize ≤ e'.rx.bufferSize) (hgrows : e.rx.bufferSize ≤ e'.rx.bufferSize) :
    ResizeOutcome flow e e' := by
  refine ⟨hserving, [r], hresizes, fun r' hr' _ => ?_, fun r' hr' hfailed => ?_, fun hfailed => ?_,
    hgrows⟩
  · rw [List.mem_singleton.mp hr']
    exact hsize
  · rw [List.mem_singleton.mp hr'] at hfailed
    exact absurd hstatus hfailed
  · exact absurd hstatus (hfailed r (List.mem_singleton.mpr rfl))

omit [Uart U] in
/-- A request is completed before it was served. -/
theorem outcome_complete {flow : Bool} (h : e.Serving) {r : Request}
    (hsize : r.isResize = true → r.status = .success → r.inSize ≤ e.rx.bufferSize) :
    ResizeOutcome flow e (e.serialCompleteRequest r) := by
  cases hresize : r.isResize with
  | false =>
    have hquiet : Quiet e (e.serialCompleteRequest r) := ⟨h, resizes_complete hresize e, rfl⟩
    exact hquiet.outcome fun _ => rfl
  | true =>
    have hresizes := resizes_complete_resize hresize e
    by_cases hstatus : r.status = .success
    · exact outcome_success h hresizes hstatus (hsize hresize hstatus) le_rfl
    · refine ⟨h, [r], hresizes, fun r' hr' hok => ?_, fun _ _ _ => ⟨rfl, rfl⟩,
        fun _ => ⟨rfl, fun _ => rfl⟩, le_rfl⟩
      rw [List.mem_singleton.mp hr'] at hok
      exact absurd hok hstatus

omit [Uart U] in
/-- The moves into the new ring. -/
theorem quiet_moving (h : e.Serving) (hpc : e.pc.serves = true) (hdone : e'.done = e.done)
    (hsizes : e'.sizes = e.sizes) (hcurrent : e'.current .read = e.current .read)
    (hpc' : e'.pc.serves = true) : Quiet e e' := by
  refine ⟨fun r hr hresize => ?_, congrArg (List.filter Request.isResize) hdone, hsizes⟩
  rw [hcurrent] at hr
  rcases h r hr hresize with hstart | ⟨-, hstatus⟩
  · rw [hstart] at hpc
    cases hpc
  · exact .inr ⟨hpc', hstatus⟩

omit [Uart U] in
theorem next_outcome {flow : Bool} {e₁ : Extension U} {r : Request}
    (hr : e₁.current .read = some r) (hresize : r.isResize = true) (hstatus : r.status = .success)
    (hsize : r.inSize ≤ e₁.rx.bufferSize) (hresizes : e₁.resizes = e.resizes)
    (hgrows : e.rx.bufferSize ≤ e₁.rx.bufferSize) : ResizeOutcome flow e e₁.nextRead := by
  obtain ⟨hnext, hrx⟩ := next_resize hr hresize
  have hrx' : e₁.nextRead.rx = e₁.rx := hrx
  have hnext' : e₁.nextRead.resizes = e.resizes ++ [r] := by
    rw [← hresizes]
    exact hnext
  exact outcome_success (serving_loopRead _) hnext' hstatus (by rw [hrx']; exact hsize)
    (by rw [hrx']; exact hgrows)

omit [Uart U] in
theorem outcome_beginRead {r : Request} (hr : e.current .read = some r) :
    ResizeOutcome false e (e.beginRead r) := by
  unfold beginRead
  split
  -- a resize: is the buffer large enough already?
  · next inSize hbody =>
    have hserved := modifyCurrent_of_some
      (fun r : Request => { r with information := 0, status := .success }) hr
    have hcurrent : (e.modifyCurrent .read fun r =>
        { r with information := 0, status := .success }).current .read =
        some { r with information := 0, status := .success } := by
      rw [hserved, current_setCurrent, if_pos rfl]
    have hsteady : Steady e (e.modifyCurrent .read fun r =>
        { r with information := 0, status := .success }) := .modifyCurrent e fun _ => rfl
    have hrx : (e.modifyCurrent .read fun r =>
        { r with information := 0, status := .success }).rx = e.rx := rx_modifyCurrent ..
    have hcfg : (e.modifyCurrent .read fun r =>
        { r with information := 0, status := .success }).cfg = e.cfg := cfg_modifyCurrent ..
    generalize (e.modifyCurrent .read fun r =>
      { r with information := 0, status := .success }) = e₁ at hcurrent hsteady hrx hcfg
    unfold beginResize
    split
    · next hfits =>
      refine next_outcome hcurrent ?_ rfl ?_ hsteady.resizes (by rw [hrx])
      · rw [Request.isResize, hbody]
      · rw [Request.inSize, hbody]
        exact hfits
    · have hquiet : Quiet e (e₁.goto (.move e₁.rx.charsInInterruptBuffer)) := by
        refine ⟨fun r' hr' _ => .inr ⟨rfl, ?_⟩, hsteady.resizes, hsteady.sizes⟩
        have hr'' : e₁.current .read = some r' := hr'
        rw [hcurrent] at hr''
        cases hr''
        rfl
      exact hquiet.outcome fun _ => congrArg Config.handFlow hcfg
  -- a read, which leaves the buffer as it is
  · next hother =>
    have hno : e.NoResize := by
      intro r' hr'
      rw [hr] at hr'
      cases hr'
      unfold Request.isResize
      split
      · next n hbody => exact absurd hbody (hother n)
      · rfl
    have hsteady : Steady e (((e.setNeeded r.length).serialCancelTimer
        .readRequestTotal).2.serialCancelTimer .readRequestInterval).2.setIntervalTime := by
      unfold setIntervalTime
      split <;> exact .of_fields rfl rfl rfl
    have hflow : (((e.setNeeded r.length).serialCancelTimer
        .readRequestTotal).2.serialCancelTimer .readRequestInterval).2.setIntervalTime.handFlow =
        e.handFlow := by
      unfold setIntervalTime
      split <;> rfl
    exact ((hsteady.trans (.goto _ _)).quiet hno).outcome fun _ => hflow

/-- The new ring takes over. -/
theorem outcome_moved (h : e.Receiving) (hserving : e.Serving) {number : Nat} {buffer : List UInt8}
    (hpc : e.pc = .moved number buffer) :
    ResizeOutcome false e (e.serialUpdateAndSwitchToNew number buffer).nextRead := by
  have hphase : e.reception.InPhase (.moved number buffer) := hpc ▸ h.phase
  obtain ⟨hmore, reader, hreader, hbody⟩ := hphase
  obtain ⟨r, hr, rfl⟩ := current_of_reader hreader
  have hmore' : e.rx.bufferSize < buffer.length := hmore
  have hbody' : r.body = .setQueueSize buffer.length := hbody
  have hresize : r.isResize = true := by
    rw [Request.isResize, hbody']
  have hstatus : r.status = .success := by
    rcases hserving r hr hresize with hstart | ⟨-, hstatus⟩
    · rw [hpc] at hstart
      cases hstart
    · exact hstatus
  obtain ⟨b, hlength, hsettings, -⟩ := switchToNew_eq number buffer e
  have hsize : (e.serialUpdateAndSwitchToNew number buffer).rx.bufferSize = b.length :=
    congrArg (fun s => s.2.1) hsettings
  -- the ISR fills the new ring, so that flow control leaves the request alone
  have hlock := spared_interruptRule.lockRule.serialHandleReducedIntBuffer
    ((e.installBuffer (e.moveToNew (e.rx.charsInInterruptBuffer - number) number
      buffer)).putHandFlow
      { e.handFlow with xoffLimit := buffer.length / 8, xonLimit := buffer.length / 2 })
  have heffect := effect_interruptRule.lockRule.serialHandleReducedIntBuffer
    ((e.installBuffer (e.moveToNew (e.rx.charsInInterruptBuffer - number) number
      buffer)).putHandFlow
      { e.handFlow with xoffLimit := buffer.length / 8, xonLimit := buffer.length / 2 })
  have hcurrent : (e.serialUpdateAndSwitchToNew number buffer).current .read = some r :=
    (hlock.ring rfl).2.trans hr
  have hresizes : (e.serialUpdateAndSwitchToNew number buffer).resizes = e.resizes :=
    congrArg (List.filter Request.isResize) heffect.done
  refine next_outcome hcurrent hresize hstatus ?_ hresizes ?_
  · rw [hsize, Request.inSize, hbody']
    exact hlength
  · rw [hsize]
    omega

theorem quiet_readPiece (hserving : e.Serving) (hstart : e.pc ≠ .start)
    (hmoved : ∀ number buffer, e.pc ≠ .moved number buffer) : Quiet e e.serialStartReadStep := by
  have hreads (hserves : e.pc.serves = false) : e.NoResize := hserving.noResize hstart hserves
  have hmoving {e' : Extension U} := @quiet_moving U e e' hserving
  unfold serialStartReadStep
  split
  · exact ⟨hserving, rfl, rfl⟩
  · next hnone _ => exact ⟨fun r hr => absurd (hnone.symm.trans hr) (Option.some_ne_none r).symm,
      rfl, rfl⟩
  · next hpc => exact absurd hpc hstart
  · next hpc => exact (Steady.goto _ e).quiet (hreads (by rw [hpc]; rfl))
  · next hpc =>
    have hno := hreads (by rw [hpc]; rfl)
    split
    · exact (Steady.goto _ e).quiet hno
    split
    · exact ((Steady.copyWhole _ e).trans (.goto _ _)).quiet hno
    · exact ((Steady.copyToUser _ _ e).trans (.goto _ _)).quiet hno
  · next hpc =>
    exact ((Steady.copyRest _ _ e).trans (.goto _ _)).quiet (hreads (by rw [hpc]; rfl))
  · next hpc => exact quiet_finishCopy (hreads (by rw [hpc]; rfl)) _ _ _
  · next hpc => exact (Steady.armRead _ e).quiet (hreads (by rw [hpc]; rfl))
  · next hpc =>
    have hserves : e.pc.serves = true := by rw [hpc]; rfl
    split
    · exact hmoving hserves rfl rfl rfl rfl
    split <;> exact hmoving hserves rfl rfl rfl rfl
  · next hpc => exact hmoving (by rw [hpc]; rfl) rfl rfl rfl rfl
  · next number buffer _ hpc => exact absurd hpc (hmoved number buffer)

/-! ## Requests that arrive -/

section
omit [Uart U]
variable {flow : Bool} {body : Body} {length : Nat} {buffer : List UInt8}

/-- What the driver noted down before does not matter. -/
theorem ResizeOutcome.of_same (h : ResizeOutcome flow e' e'') (hdone : e'.done = e.done)
    (hrx : e'.rx = e.rx) (hflow : e'.handFlow = e.handFlow) : ResizeOutcome flow e e'' := by
  obtain ⟨hserving, completed, hresizes⟩ := h
  have hsizes : e'.sizes = e.sizes := by rw [Extension.sizes, hrx, Extension.sizes]
  refine ⟨hserving, completed, ?_, hresizes.success, ?_, ?_, ?_⟩
  · rw [hresizes.resizes, Extension.resizes, hdone, Extension.resizes]
  · rw [← hrx, ← hflow]
    exact hresizes.failure
  · rw [← hsizes, ← hflow]
    exact hresizes.unchanged
  · rw [← hrx]
    exact hresizes.grows

/-- A request is completed that no read was started for, after some bookkeeping. -/
theorem outcome_refuse (h : e.Serving) (e₁ : Extension U) (r : Request)
    (hkept : (e₁.current, e₁.pc, e₁.done, e₁.rx, e₁.cfg) =
      (e.current, e.pc, e.done, e.rx, e.cfg))
    (hsize : r.status = .success → r.inSize ≤ e.rx.bufferSize) :
    ResizeOutcome flow e (e₁.serialCompleteRequest r) := by
  simp only [Prod.mk.injEq] at hkept
  obtain ⟨hcurrent, hpc, hdone, hrx, hcfg⟩ := hkept
  have hserving : e₁.Serving := by
    unfold Serving
    rw [hcurrent, hpc]
    exact h
  have hcomplete : ResizeOutcome flow e₁ (e₁.serialCompleteRequest r) := by
    refine outcome_complete hserving fun _ hstatus => ?_
    rw [hrx]
    exact hsize hstatus
  exact hcomplete.of_same hdone hrx (congrArg Config.handFlow hcfg)

theorem outcome_accept (h : e.Serving) {k : Request → Extension U → Extension U}
    (hk : ResizeOutcome flow e (k (Request.new e.nextId body length buffer) e.takeId)) :
    ResizeOutcome flow e (e.accept body length buffer k) := by
  unfold accept
  split
  · exact outcome_refuse h e.takeId _ rfl fun hstatus => by cases hstatus
  · exact hk

theorem outcome_readQueue (h : e.Serving) :
    ResizeOutcome flow e (e.takeId.serialStartOrQueue (Request.new e.nextId body length buffer)
      .readQueue .read serialStartRead) := by
  unfold serialStartOrQueue
  split
  · have hquiet : Quiet e (((e.takeId.addCharsQueued (charsQueued
        (Request.new e.nextId body length buffer))).setCurrent .read
          (some (Request.new e.nextId body length buffer))).serialStartRead) :=
      ⟨fun _ _ _ => .inl rfl, rfl, rfl⟩
    exact hquiet.outcome fun _ => rfl
  unfold forwardToIoQueue
  split
  · have hquiet : Quiet e ((e.takeId.addCharsQueued (charsQueued
        (Request.new e.nextId body length buffer))).putQueue .readQueue
          { e.queue .readQueue with
            waiting := (e.queue .readQueue).waiting ++
              [Request.new e.nextId body length buffer] }) := ⟨h, rfl, rfl⟩
    exact hquiet.outcome fun _ => rfl
  · exact outcome_refuse h (e.takeId.addCharsQueued _) _ rfl fun hstatus => by cases hstatus

end

omit [Uart U] in
theorem outcome_serialEvtIoRead {flow : Bool} (h : e.Serving) (n : Nat) :
    ResizeOutcome flow e (e.serialEvtIoRead n) := by
  refine outcome_accept h ?_
  split
  · exact outcome_refuse h e.takeId _ rfl fun hstatus => by cases hstatus
  · exact outcome_readQueue h

omit [Uart U] in
/-- With memory, or for a ring that is no larger. -/
theorem outcome_setQueueSize {flow : Bool} (h : e.Serving) {inSize : Nat} {memory : Bool}
    (hmemory : e.serialCompleteIfError = false → e.rx.bufferSize < inSize → memory = true) :
    ResizeOutcome flow e (e.ioctlSetQueueSizeWith inSize memory) := by
  unfold ioctlSetQueueSizeWith accept
  split
  · exact outcome_refuse h e.takeId _ rfl fun hstatus => by cases hstatus
  next herror =>
  beta_reduce
  by_cases hfits : inSize ≤ e.takeId.rx.bufferSize
  · rw [if_pos hfits]
    exact outcome_refuse h e.takeId _ rfl fun _ => hfits
  · have hall : memory = true := hmemory (by simpa using herror) (Nat.lt_of_not_le hfits)
    rw [if_neg hfits, hall, if_neg (by decide)]
    exact outcome_readQueue h

omit [Uart U] in
theorem outcome_runCanceledOnQueue {flow : Bool} (h : e.Serving) (i : Nat) :
    ResizeOutcome flow e (e.runCanceledOnQueue i) := by
  unfold runCanceledOnQueue
  split
  · have hquiet : Quiet e e := ⟨h, rfl, rfl⟩
    exact hquiet.outcome fun _ => rfl
  · next r hr =>
    let removed : Extension U := { e with canceledOnQueue := e.canceledOnQueue.eraseIdx i }
    exact outcome_refuse h (removed.addCharsQueued (-charsQueued r))
      { r with status := .cancelled, information := 0 } rfl fun hstatus => by cases hstatus

omit [Uart U] in
/-- A request to resize that arrives leaves the ring alone. -/
theorem ring_setQueueSize (inSize : Nat) (memory : Bool) (e : Extension U) :
    (e.ioctlSetQueueSizeWith inSize memory).rx = e.rx ∧
      (e.ioctlSetQueueSizeWith inSize memory).handFlow = e.handFlow := by
  have hqueue (r : Request) (e : Extension U) :
      (e.serialStartOrQueue r .readQueue .read serialStartRead).rx = e.rx ∧
        (e.serialStartOrQueue r .readQueue .read serialStartRead).handFlow = e.handFlow := by
    unfold serialStartOrQueue
    split
    · exact ⟨rfl, rfl⟩
    unfold forwardToIoQueue
    split <;> exact ⟨rfl, rfl⟩
  unfold ioctlSetQueueSizeWith accept
  split
  · exact ⟨rfl, rfl⟩
  beta_reduce
  split
  · exact ⟨rfl, rfl⟩
  split
  · exact ⟨rfl, rfl⟩
  · exact hqueue _ e.takeId

/-! ## The limits -/

omit [Uart U] in
theorem handFlow_sharedRule : SharedRule fun e e' : Extension U => e'.handFlow = e.handFlow where
  trans h h' := h'.trans h
  lines e e' h := congrArg Config.handFlow (cfg_sharedRule.lines e e' h)
  uart _ _ := rfl
  events _ _ := rfl
  holdingEmpty _ _ := rfl
  special e b := congrArg Config.handFlow (cfg_sharedRule.special e b)
  rxHolding _ _ := rfl
  setTxXoff _ _ := rfl
  setTxBreak _ _ := rfl
  xonSent _ := rfl
  xoffSent _ := rfl
  followModem _ _ := rfl
  clearModemHolding _ := rfl
  insertStartTimerLowerRts e := congrArg Config.handFlow (cfg_sharedRule.insertStartTimerLowerRts e)

theorem handFlow_serialPerhapsLowerRts (e : Extension U) :
    e.serialPerhapsLowerRts.handFlow = e.handFlow :=
  handFlow_sharedRule.serialPerhapsLowerRts (fun _ _ => rfl) e

theorem handFlow_callbackRule :
    CallbackRule (fun _ => False) fun e e' : Extension U => e'.handFlow = e.handFlow where
  toControlRule := handFlow_sharedRule.controlRule fun e =>
    handFlow_serialPerhapsLowerRts (e.addTryingToLowerRts 1)
  same e e' _ hshared := handFlow_sharedRule.lines e e' (lines_of_shared hshared)
  evolve _ _ := rfl
  configure _ _ _ _ := rfl
  clearErrors _ := rfl
  setDtr e _ := ⟨handFlow_sharedRule.serialSetDtr e, handFlow_sharedRule.serialClrDtr e⟩
  setRts _ _ := ⟨rfl, rfl⟩
  drain _ _ _ _ := rfl

theorem handFlow_lowerRule : LowerRule fun e e' : Extension U => e'.handFlow = e.handFlow where
  expireLowerRts _ _ := rfl
  startTimerLowerRts e _ := by
    show (e.takeDpc .startTimerLowerRts).serialStartTimerLowerRts.handFlow = _
    unfold serialStartTimerLowerRts
    split <;> rfl
  lowerRtsTimer e _ := handFlow_serialPerhapsLowerRts (e.takeTimer .lowerRts)

/-- The limits change when they are set, or come with a new ring. -/
theorem handFlow_step {l : Label (Uart.Input U)} (hstep : step l e = some e') (hacc : Accounted e)
    (hset : ∀ hf, l ≠ .callback (.setHandFlow hf))
    (hmoved : l = .readStep → ∀ n buffer, e.pc ≠ .moved n buffer) : e'.handFlow = e.handFlow := by
  refine (handFlow_callbackRule.step hstep (fun _ _ => id) (handFlow_sharedRule.isrRule.step hstep)
    (handFlow_lowerRule.step hstep) (fun hf hl => absurd hl (hset hf))
    (fun n buffer hl _ hpc => absurd hpc (hmoved hl n buffer)) hacc).2

/-! ## Callbacks and steps -/

theorem quiet_commError (h : e.Receiving) (hserving : e.Serving) (hdis : Disciplined e)
    (hpc : e.pc = .idle) : Quiet e (e.takeDpc .commError).serialCommError := by
  have hacc : Accounted (e.takeDpc .commError) := hdis.accounted.congr (fun _ => rfl) rfl
  have hready : PurgeReady (e.takeDpc .commError) (e.takeDpc .commError) :=
    ⟨⟨h, hserving, rfl, rfl⟩, hdis.read.of_same (.dpc_update e false (by decide)), h, .inl hpc⟩
  have hafter := ((purgeReady_rule _).serialCommError (aborts_purgeReady _) _ hacc).2 hready
  exact ⟨hafter.serving, hafter.resizes, hafter.sizes⟩

theorem outcome_callback {flow : Bool} (h : e.Receiving) (hserving : e.Serving)
    (hdis : Disciplined e) {c : Callback} (hpc : e.pc = .idle) (hc : e.enabled c = true)
    (hflow : flow = false → (e.callback c).handFlow = e.handFlow) :
    ResizeOutcome flow e (e.callback c) := by
  have hno : e.NoResize := hserving.noResize (by rw [hpc]; decide) (by rw [hpc]; rfl)
  cases hw : c.worksFor .read with
  -- a callback that does not work for reads touches neither the ring nor its requests
  | false =>
    have hun := ((unresized_rule e).callback e c (fun t ht hs => by rw [hs, hw] at ht; cases ht) hc
      hdis.accounted).2 ⟨h, hserving, rfl, rfl⟩
    have hquiet : Quiet e (e.callback c) := ⟨hun.serving, hun.resizes, hun.sizes⟩
    exact hquiet.outcome hflow
  | true =>
    -- what starts or ends reads and resizes; none of these ends a resize that has begun
    cases c with
    | evtIoRead n => exact outcome_serialEvtIoRead hserving n
    | setQueueSize n =>
      have hall : e.ioctlSetQueueSizeWith n true = e.ioctlSetQueueSize n := rfl
      have hset : ResizeOutcome flow e (e.ioctlSetQueueSizeWith n true) :=
        outcome_setQueueSize hserving fun _ _ => rfl
      rwa [hall] at hset
    | purge m =>
      have hready : PurgeReady e e := ⟨⟨h, hserving, rfl, rfl⟩, hdis.read, h, .inl hpc⟩
      have hafter := ((purgeReady_rule e).ioctlPurge e m (by decide) (aborts_purgeReady e)
        hdis.accounted).2 hready
      have hquiet : Quiet e (e.ioctlPurge m) := ⟨hafter.serving, hafter.resizes, hafter.sizes⟩
      exact hquiet.outcome hflow
    | dpc d =>
      have htake : Steady e (e.takeDpc d) := .of_fields rfl rfl rfl
      have hno' := hno.steady htake
      cases d with
      | completeRead =>
        exact (htake.before (quiet_endRead hno' (fun _ => .refl _) _ _ _)).outcome hflow
      | commError =>
        exact (quiet_commError h hserving hdis hpc).outcome hflow
      | _ => cases hw
    | timer t =>
      have htake : Steady e (e.takeTimer t) := .of_fields rfl rfl rfl
      have hno' := hno.steady htake
      cases t with
      | readRequestTotal =>
        exact (htake.before (quiet_endRead hno' steady_serialGrabReadFromIsr _ _ _)).outcome hflow
      | readRequestInterval =>
        exact (htake.before (quiet_serialIntervalReadTimeout hno')).outcome hflow
      | _ => cases hw
    | cancelRoutine t =>
      cases t with
      | read =>
        have hmark : Steady e (e.modifyCurrent .read fun r => { r with cancelable := .none }) :=
          .modifyCurrent e fun _ => rfl
        exact (hmark.before (quiet_serialCancelCurrentRead (hno.steady hmark))).outcome hflow
      | _ => cases hw
    | canceledOnQueue i => exact outcome_runCanceledOnQueue hserving i
    | _ => cases hw

omit [Uart U] in
theorem quiet_crash (hnone : e.current .read = none) : Quiet e e.crash :=
  ⟨fun r hr => absurd (hnone.symm.trans hr) (Option.some_ne_none r).symm, rfl, rfl⟩

theorem outcome_readStep (h : e.Receiving) (hserving : e.Serving)
    (hflow : (∀ n buffer, e.pc ≠ .moved n buffer) → e.serialStartReadStep.handFlow = e.handFlow) :
    ResizeOutcome false e e.serialStartReadStep := by
  -- only the first piece and the one after the new buffer is in look at the size
  cases hpc : e.pc with
  | start =>
    cases hcurrent : e.current .read with
    | none =>
      have hstep : e.serialStartReadStep = e.crash := by
        unfold serialStartReadStep
        rw [hcurrent, hpc]
      rw [hstep]
      exact (quiet_crash hcurrent).outcome fun _ => rfl
    | some r =>
      have hstep : e.serialStartReadStep = e.beginRead r := by
        unfold serialStartReadStep
        rw [hcurrent, hpc]
      rw [hstep]
      exact outcome_beginRead hcurrent
  | moved number buffer =>
    cases hcurrent : e.current .read with
    | none =>
      have hstep : e.serialStartReadStep = e.crash := by
        unfold serialStartReadStep
        rw [hcurrent, hpc]
      rw [hstep]
      exact (quiet_crash hcurrent).outcome fun _ => rfl
    | some r =>
      have hstep : e.serialStartReadStep =
          (e.serialUpdateAndSwitchToNew number buffer).nextRead := by
        unfold serialStartReadStep
        rw [hcurrent, hpc]
      rw [hstep]
      exact outcome_moved h hserving hpc
  | _ =>
    have hstart : e.pc ≠ .start := by
      rw [hpc]
      exact ReadPc.noConfusion
    have hmoved (number : Nat) (buffer : List UInt8) : e.pc ≠ .moved number buffer := by
      rw [hpc]
      exact ReadPc.noConfusion
    exact (quiet_readPiece hserving hstart hmoved).outcome fun _ => hflow hmoved

theorem outcome_step {l : Label (Uart.Input U)} (h : e.Receiving) (hserving : e.Serving)
    (hdis : Disciplined e) (hstep : step l e = some e') :
    ResizeOutcome (ResizeLabel.driver l).setsFlow e e' := by
  -- the flow control changes by a request, and where the new buffer is installed
  have hflow (hmoved : l = .readStep → ∀ n buffer, e.pc ≠ .moved n buffer)
      (hsets : (ResizeLabel.driver l).setsFlow = false) : e'.handFlow = e.handFlow := by
    refine handFlow_step hstep hdis.accounted (fun hf hl => ?_) hmoved
    rw [hl] at hsets
    exact Bool.false_ne_true hsets.symm
  cases hw : l.worksFor .read with
  | false =>
    have hun := ((unresized_rule e).step hstep (fun t ht hs => by rw [hs, hw] at ht; cases ht)
      hdis.accounted).2 ⟨h, hserving, rfl, rfl⟩
    have hquiet : Quiet e e' := ⟨hun.serving, hun.resizes, hun.sizes⟩
    refine hquiet.outcome (hflow fun hl => ?_)
    rw [hl] at hw
    cases hw
  | true =>
    cases fires_of_step hstep with
    | @expire t hqueued =>
      have hquiet : Quiet e { e with timer := Function.update e.timer t ⟨false, true⟩ } :=
        ⟨hserving, rfl, rfl⟩
      exact hquiet.outcome fun _ => rfl
    | @cancel t r hr =>
      obtain rfl : Slot.read = t := by simpa [Label.worksFor] using hw
      have hquiet : Quiet e (e.setCurrent .read (some r.markCanceled)) := by
        refine ⟨fun r' hr' hresize => ?_, rfl, rfl⟩
        rw [current_setCurrent, if_pos rfl] at hr'
        cases hr'
        exact hserving r hr hresize
      exact hquiet.outcome fun _ => rfl
    | @cancelWaiting q i r hr =>
      have hquiet : Quiet e { e.putQueue q { e.queue q with
          waiting := (e.queue q).waiting.eraseIdx i } with
          canceledOnQueue := e.canceledOnQueue ++ [r] } := ⟨hserving, rfl, rfl⟩
      exact hquiet.outcome fun _ => rfl
    | readStep hpc => exact outcome_readStep h hserving fun hmoved => hflow (fun _ => hmoved) rfl
    | callback hpc hc =>
      exact outcome_callback h hserving hdis hpc hc (hflow fun hl => by cases hl)
    | _ => cases hw

/-! ## Requests without memory -/

omit [Uart U] in
/-- The request is completed on arrival, whatever its size. -/
theorem setQueueSize_noMemory (inSize : Nat) (e : Extension U) :
    e.ioctlSetQueueSizeWith inSize false =
      e.accept (.setQueueSize inSize) 0 [] fun r e => e.refuse .success r := by
  unfold ioctlSetQueueSizeWith
  congr
  funext r e
  split <;> rfl

theorem disciplined_setQueueSize (h : Disciplined e) (hpc : e.pc = .idle) (inSize : Nat)
    (memory : Bool) : Disciplined (e.ioctlSetQueueSizeWith inSize memory) := by
  cases memory with
  | true => exact h.callback (c := .setQueueSize inSize) hpc rfl
  | false =>
    rw [setQueueSize_noMemory]
    have hread (T : Slot → Prop) (hT : ¬T .read) : Apart T .read := apart_read hT
    have htracked (s : Slot) (hs : ¬.read = s) (hslot : Tracked s e) :
        Tracked s (e.accept (.setQueueSize inSize) 0 [] fun r e => e.refuse .success r) :=
      ((tracked_rule s).accept (hread _ hs) rfl ((tracked_rule s).refuse (hread _ hs) rfl _)
        h.accounted).2 hslot
    exact
      { accounted := (anything.accept (hread _ id) rfl (anything.refuse (hread _ id) rfl _)
          h.accounted).1
        read := h.read.accept (h.read.takeId.refuse _ _ _ _ _)
        write := htracked .write (by decide) h.write
        immediate := htracked .immediate (by decide) h.immediate
        wait := htracked .wait (by decide) h.wait
        mask := ((unheld_rule .mask).accept (hread _ (by decide)) rfl
          ((unheld_rule .mask).refuse (hread _ (by decide)) rfl _) h.accounted).2 h.mask }

omit [Uart U] in
theorem receiving_setQueueSize (h : e.Receiving) (hpc : e.pc = .idle) (inSize : Nat)
    (memory : Bool) : (e.ioctlSetQueueSizeWith inSize memory).Receiving := by
  cases memory with
  | true => exact receiving_ioctlSetQueueSize h hpc inSize
  | false =>
    rw [setQueueSize_noMemory]
    exact receiving_accept h (receiving_refuse h _)

omit [Uart U] in
theorem serving_setQueueSize (h : e.Serving) (inSize : Nat) (memory : Bool) :
    (e.ioctlSetQueueSizeWith inSize memory).Serving := by
  cases memory with
  | true =>
    have houtcome : ResizeOutcome true e (e.ioctlSetQueueSizeWith inSize true) :=
      outcome_setQueueSize h fun _ _ => rfl
    exact houtcome.1
  | false =>
    rw [setQueueSize_noMemory]
    unfold accept
    split <;> exact h

/-! ## Runs -/

/-- What every step keeps. -/
structure Extension.Resizable (e : Extension U) : Prop where
  disciplined : Disciplined e
  receiving : e.Receiving
  serving : e.Serving

theorem resizeStep_setQueueSize {inSize : Nat} {memory : Bool}
    (hstep : resizeStep (.setQueueSize inSize memory) e = some e') :
    (e.bugcheck = false ∧ e.pc = .idle) ∧ e' = e.ioctlSetQueueSizeWith inSize memory := by
  obtain ⟨hopen, ⟨⟩⟩ := Option.ite_none_right_eq_some.mp hstep
  exact ⟨hopen, rfl⟩

/-- **Step lemma.** -/
theorem Extension.Resizable.step (h : e.Resizable) {l : ResizeLabel (Uart.Input U)}
    (hstep : resizeStep l e = some e') : e'.Resizable := by
  cases l with
  | driver l =>
    exact ⟨h.disciplined.step hstep, receiving_step h.receiving h.disciplined hstep,
      (outcome_step h.receiving h.serving h.disciplined hstep).1⟩
  | setQueueSize inSize memory =>
    obtain ⟨⟨-, hpc⟩, rfl⟩ := resizeStep_setQueueSize hstep
    exact ⟨disciplined_setQueueSize h.disciplined hpc inSize memory,
      receiving_setQueueSize h.receiving hpc inSize memory,
      serving_setQueueSize h.serving inSize memory⟩

omit [Uart U] in
theorem serving_opened (u : U) (cfg : Config) (size : Nat) : (opened u cfg size).Serving :=
  fun _ hr => absurd hr.symm (Option.some_ne_none _)

theorem ring_of_asks {l : ResizeLabel (Uart.Input U)} (hstep : resizeStep l e = some e')
    (hasks : l.asks = true) : e'.rx = e.rx ∧ e'.handFlow = e.handFlow := by
  cases l with
  | setQueueSize inSize memory =>
    obtain ⟨-, rfl⟩ := resizeStep_setQueueSize hstep
    exact ring_setQueueSize inSize memory e
  | driver l =>
    cases l with
    | callback c =>
      cases c with
      | setQueueSize inSize =>
        have hstep' : step (.callback (.setQueueSize inSize)) e = some e' := hstep
        rw [(callback_of_step hstep').2.2]
        exact ring_setQueueSize inSize true e
      | _ => cases hasks
    | _ => cases hasks

/-- A step is honest when there is memory. -/
theorem honest_of_allocates (h : e.Resizable) {l : ResizeLabel (Uart.Input U)}
    (hmemory : l.Allocates e) : l.Honest e := by
  refine fun e' hstep => ⟨?_, ring_of_asks hstep⟩
  cases l with
  | driver l => exact (outcome_step h.receiving h.serving h.disciplined hstep).2
  | setQueueSize inSize memory =>
    obtain ⟨⟨hbugcheck, hpc⟩, rfl⟩ := resizeStep_setQueueSize hstep
    exact (outcome_setQueueSize h.serving (hmemory hbugcheck hpc)).2

/-- Without memory the sender is told that the ring is as large as it asked for. -/
theorem allocates_of_honest {l : ResizeLabel (Uart.Input U)} (hhonest : l.Honest e) :
    l.Allocates e := by
  cases l with
  | driver l => trivial
  | setQueueSize inSize memory =>
    intro hbugcheck hpc herror hlarger
    by_contra hnone
    rw [Bool.not_eq_true] at hnone
    subst hnone
    let r : Request := { Request.new e.nextId (.setQueueSize inSize) 0 [] with status := .success }
    have hstep : resizeStep (.setQueueSize inSize false) e =
        some (e.takeId.serialCompleteRequest r) := by
      refine (if_pos ⟨hbugcheck, hpc⟩).trans (congrArg some ?_)
      rw [setQueueSize_noMemory]
      unfold accept
      rw [herror]
      rfl
    obtain ⟨⟨completed, hhonest⟩, -⟩ := hhonest _ hstep
    have hresizes : (e.takeId.serialCompleteRequest r).resizes = e.resizes ++ [r] :=
      resizes_complete_resize rfl e.takeId
    have hcompleted : completed = [r] :=
      List.append_cancel_left (hhonest.resizes.symm.trans hresizes)
    have hsize : inSize ≤ e.rx.bufferSize :=
      hhonest.success r (by rw [hcompleted]; exact List.mem_singleton.mpr rfl) rfl
    omega

/-- **Honest resizes.** A run tells the truth about every request to resize, and changes the ring
and its limits for no other, if and only if every request for a larger ring finds memory. -/
theorem honest_iff {u : U} {cfg : Config} {size : Nat} (hsize : 0 < size)
    {ls : List (ResizeLabel (Uart.Input U))} :
    RunMeets resizeStep ResizeLabel.Honest ls (opened u cfg size) ↔
      RunMeets resizeStep ResizeLabel.Allocates ls (opened u cfg size) := by
  have hstart : (opened u cfg size).Resizable :=
    ⟨disciplined_opened u cfg size, receiving_opened u cfg hsize, serving_opened u cfg size⟩
  refine runMeets_congr (fun _ _ _ hstep h => h.step hstep) (fun l e h => ?_) hstart
  exact ⟨allocates_of_honest, honest_of_allocates h⟩

/-- A ring of 128 becomes one of 256. What is asked for next needs no memory. -/
def growOnce : List (ResizeLabel (Uart.Input Chip)) :=
  .setQueueSize 256 true :: List.replicate 3 (.driver .readStep) ++ [.setQueueSize 200 false]

theorem honest_iff_growOnce :
    RunMeets resizeStep ResizeLabel.Honest growOnce (opened Chip.idle .plain 128) ∧
      (run resizeStep growOnce (opened Chip.idle .plain 128)).any (fun e =>
        e.rx.bufferSize == 256 && e.pc == .idle &&
          e.resizes.map (fun r => (r.inSize, r.status)) == [(256, .success), (200, .success)]) =
        true :=
  ⟨(honest_iff (by decide)).mpr (by decide +kernel), by decide +kernel⟩

/-- A ring of 4096 stays as it is, and the request for 8192 succeeds. -/
theorem not_honest_noMemory :
    ¬RunMeets resizeStep ResizeLabel.Honest [.setQueueSize 8192 false]
      (opened Chip.idle .plain 4096) := by
  intro h
  let r : Request := { Request.new 0 (.setQueueSize 8192) 0 [] with status := .success }
  obtain ⟨⟨completed, hhonest⟩, -⟩ :=
    h.1 ((opened Chip.idle .plain 4096).takeId.serialCompleteRequest r) rfl
  have hcompleted : completed = [r] := hhonest.resizes.symm
  have hsize : 8192 ≤ 4096 :=
    hhonest.success r (by rw [hcompleted]; exact List.mem_singleton.mpr rfl) rfl
  omega

end SerialFc
