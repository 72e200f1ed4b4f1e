import SerialFc.Properties.DeskMoves
import SerialFc.Properties.Discipline

/-!
# The driver moves requests as the desks do

Every step of the driver is a few moves at the desks, of the kinds that `Label.permits` names: only
a request that comes brings a job, only a flush stops a queue, only a purge and an error clear one,
and nobody ever waits in the mask queue.

* `moves_serialStartOrQueue` — `SerialStartOrQueue` starts the request if its queue is idle
* `moves_callback`, `moves_step` — callbacks and steps
* `Manned` — the invariant that goes with it, and `manned_run`
-/

namespace SerialFc

open Extension Lib

variable {U : Type} {e e' : Extension U}

/-! ## What a step may do -/

/-- The request a callback is about, if it brings one. -/
def Callback.asks : Callback → Option Body
  | .evtIoRead _ => some .read
  | .evtIoWrite payload => some (.write payload)
  | .immediateChar c => some (.immediateChar c)
  | .xoffCounter t n c => some (.xoffCounter t n c)
  | .setQueueSize n => some (.setQueueSize n)
  | .setWaitMask m => some (.setWaitMask m)
  | .waitOnMask => some .waitOnMask
  | .purge m => some (.purge m)
  | _ => none

/-- The callbacks that clear queues. -/
def Callback.clears : Callback → Bool
  | .purge _ | .dpc .commError => true
  | _ => false

def Callback.permits (c : Callback) : DeskOp Slot QueueId Job → Prop
  | .refuse j | .start _ j | .occupy _ j => c.asks = some j.body
  | .wait q j => c.asks = some j.body ∧ q ≠ .maskQueue
  | .next _ | .finish _ | .shift _ _ => True
  | .purge _ => c.clears = true
  | .reopen q => c.clears = true ∨ (c = .flushStart ∧ q = .writeQueue)
  | .stop q => c = .flushStop ∧ q = .writeQueue
  | .withdraw _ _ => False
  | .give i => c = .canceledOnQueue i

/-- What a step may do with requests. -/
def Label.permits {Input : Type} : Label Input → DeskOp Slot QueueId Job → Prop
  | .callback c => c.permits
  | .readStep => Works
  | .cancelWaiting q i => (· = .withdraw q i)
  | _ => fun _ => False

theorem Works.permits {op : DeskOp Slot QueueId Job} (h : Works op) (c : Callback) :
    c.permits op := by
  cases op <;> trivial

theorem Clears.permits {op : DeskOp Slot QueueId Job} (h : Clears op) {c : Callback}
    (hc : c.clears = true) : c.permits op := by
  cases op <;> first | trivial | exact hc | exact .inl hc

theorem Moves.permits (h : Moves Works e e') (c : Callback) : Moves c.permits e e' :=
  h.mono fun _ hop => hop.permits c

/-! ## Requests that come -/

/-- The driver owns the requests in its slots and those whose slot was overwritten. -/
theorem mem_owned (e : Extension U) (r : Request) :
    r ∈ e.owned ↔ (∃ s, e.current s = some r) ∨ r ∈ e.abandoned := by
  unfold owned
  rw [List.mem_append, List.mem_filterMap]
  refine or_congr ⟨fun h => ?_, fun ⟨s, hs⟩ => ?_⟩ Iff.rfl
  · obtain ⟨v, hv, hr⟩ := h
    simp only [List.mem_cons, List.not_mem_nil, or_false] at hv
    have hr' : v = some r := hr
    rcases hv with rfl | rfl | rfl | rfl | rfl | rfl | rfl <;> exact ⟨_, hr'⟩
  · exact ⟨e.current s, by cases s <;> simp, hs⟩

/-- `IsQueueEmpty` and an empty slot: the queue is idle. -/
theorem idle_iff (e : Extension U) (q : QueueId) :
    (e.isQueueEmpty q && (e.current q.slot).isNone) = true ↔ deskPlan.Idle q e.desk := by
  have howned : (e.owned.all fun r => r.origin != some q) = true ↔
      ∀ j, e.desk.Owned j → deskPlan.origin j ≠ some q := by
    rw [List.all_eq_true]
    refine ⟨fun h j hj => ?_, fun h r hr => ?_⟩
    · have hmem : ∃ r ∈ e.owned, r.job = j := by
        rcases hj with ⟨s, hs⟩ | hlost
        · obtain ⟨r, hr, hjob⟩ := Option.map_eq_some_iff.mp hs
          exact ⟨r, (mem_owned e r).mpr (.inl ⟨s, hr⟩), hjob⟩
        · obtain ⟨r, hr, hjob⟩ := List.mem_map.mp hlost
          exact ⟨r, (mem_owned e r).mpr (.inr hr), hjob⟩
      obtain ⟨r, hr, rfl⟩ := hmem
      show r.origin ≠ some q
      simpa using h r hr
    · have hjob : r.origin ≠ some q := by
        refine h r.job ?_
        rcases (mem_owned e r).mp hr with ⟨s, hs⟩ | hlost
        · exact .inl ⟨s, congrArg (Option.map Request.job) hs⟩
        · exact .inr (List.mem_map_of_mem hlost)
      simpa using hjob
  have hwaiting : (e.queue q).waiting.isEmpty = true ↔ (e.desk.line q).waiting = [] := by
    show _ ↔ (e.queue q).waiting.map Request.job = []
    rw [List.isEmpty_iff, List.map_eq_nil_iff]
  have hslot : (e.current q.slot).isNone = true ↔ e.desk.slot q.slot = none := by
    show _ ↔ (e.current q.slot).map Request.job = none
    rw [Option.isNone_iff_eq_none, Option.map_eq_none_iff]
  unfold isQueueEmpty DeskPlan.Idle
  rw [Bool.and_eq_true, Bool.and_eq_true, howned, hwaiting, and_assoc]
  exact and_congr Iff.rfl (and_congr Iff.rfl hslot)

section Arrivals

variable {c : Callback} {body : Body} {length : Nat} {buffer : List UInt8}

/-- The request is completed on arrival. -/
theorem does_refuse (e : Extension U) (status : NtStatus) :
    deskPlan.Does (.refuse (Request.new e.nextId body length buffer).job) e.desk
      (e.takeId.refuse status (Request.new e.nextId body length buffer)).desk := by
  refine ⟨⟨rfl, rfl⟩, ?_⟩
  unfold refuse
  rw [desk_serialCompleteRequest]
  unfold Desk.leave Desk.come
  congr 1
  show e.totalCharsQueued - 0 = e.totalCharsQueued - 0 + 0
  omega

theorem moves_refuse (hbody : c.asks = some body) (status : NtStatus) :
    Moves c.permits e (e.takeId.refuse status (Request.new e.nextId body length buffer)) :=
  .one (show c.permits (.refuse (Request.new e.nextId body length buffer).job) from hbody)
    (does_refuse e status) (by simp)

/-- The request passes `SerialCompleteIfError`, or is refused. -/
theorem moves_accept [Uart U] (hbody : c.asks = some body)
    {k : Request → Extension U → Extension U}
    (hk : Moves c.permits e (k (Request.new e.nextId body length buffer) e.takeId)) :
    Moves c.permits e (e.accept body length buffer k) := by
  unfold accept
  split
  · exact moves_refuse hbody .cancelled
  · exact hk

/-- The request is in its slot. -/
def started (s : Slot) (body : Body) (length : Nat) (buffer : List UInt8) (e : Extension U) :
    Extension U :=
  (e.takeId.addCharsQueued (charsQueued (Request.new e.nextId body length buffer))).setCurrent s
    (some (Request.new e.nextId body length buffer))

theorem desk_started (s : Slot) : (started s body length buffer e).desk =
    (e.desk.put s (some (Request.new e.nextId body length buffer).job)).come
      (Request.new e.nextId body length buffer).job.chars := by
  unfold started
  rw [desk_setCurrent]
  rfl

/-- `SerialStartOrQueue`: a request whose queue is idle is started, any other one waits. -/
theorem moves_serialStartOrQueue {q : QueueId} {starter : Extension U → Extension U}
    (hbody : c.asks = some body) (haccepting : (e.queue q).accepting = true)
    (hmask : q = .maskQueue → deskPlan.Idle q e.desk)
    (hstart : deskPlan.Idle q e.desk → Moves c.permits (started q.slot body length buffer e)
      (starter (started q.slot body length buffer e))) :
    Moves c.permits e (e.takeId.serialStartOrQueue (Request.new e.nextId body length buffer) q
      q.slot starter) := by
  unfold serialStartOrQueue
  split
  · next hidle =>
    have hidle' := (idle_iff e q).mp hidle
    have hmove : Moves c.permits e (started q.slot body length buffer e) :=
      .one (show c.permits (.start q (Request.new e.nextId body length buffer).job) from hbody)
        ⟨⟨rfl, rfl⟩, hidle', desk_started q.slot⟩ (by simp)
    exact hmove.trans (hstart hidle')
  · next hbusy =>
    have hbusy' : ¬deskPlan.Idle q e.desk := mt (idle_iff e q).mpr hbusy
    have hother : q ≠ .maskQueue := fun hq => hbusy' (hmask hq)
    have hacc : ((e.takeId.addCharsQueued
        (charsQueued (Request.new e.nextId body length buffer))).queue q).accepting = true :=
      haccepting
    unfold forwardToIoQueue
    rw [if_pos hacc]
    refine .one (show c.permits (.wait q (Request.new e.nextId body length buffer).job) from
      ⟨hbody, hother⟩) ⟨⟨rfl, rfl⟩, hbusy', haccepting, ?_⟩ (by simp)
    rw [desk_putQueue]
    unfold IoQueue.line
    rw [List.map_append]
    rfl

end Arrivals

/-! ## Loops over the requests of a queue -/

variable [Uart U]

/-- What does not work for the slot leaves the same request in it. -/
theorem sameSlot_rule (s : Slot) (i : Option Nat) : StepRule (U := U) (· = s) fun e e' =>
    (e.current s).map Request.id = i → (e'.current s).map Request.id = i := by
  refine .of_interruptRule (interruptRule_of_effect fun e e' heff h => ?_) fun e e' hsame h => ?_
  · have hcore := congrArg (Option.map Request.id) (heff.cur s)
    rw [Option.map_map, Option.map_map] at hcore
    exact Eq.trans hcore h
  · rwa [(hsame s rfl).current]

omit [Uart U] in
theorem isSome_of_ids {s : Slot}
    (h : (e'.current s).map Request.id = (e.current s).map Request.id) :
    (e'.current s).isSome = (e.current s).isSome := by
  rw [← Option.isSome_map, h, Option.isSome_map]

omit [Uart U] in
theorem none_of_ids {s : Slot} (h : (e'.current s).map Request.id = (e.current s).map Request.id)
    (hnone : e.current s = none) : e'.current s = none := by
  rw [hnone] at h
  exact Option.map_eq_none_iff.mp h

/-- One purge request: queues are cleared, and it is completed. -/
theorem moves_startPurgeOne (hacc : Accounted e) (hsome : (e.current .purge).isSome = true) :
    Moves Clears e e.startPurgeOne := by
  have hrule := sameSlot_rule (U := U) .purge ((e.current .purge).map Request.id)
  unfold startPurgeOne
  split
  · exact .of_desk rfl
  · next r _ =>
    have hpurge := hrule.purge (hrule.aborts (by decide) (by decide) (by decide)) e r hacc
    have hdesk : ((e.purge r).modifyCurrent .purge fun r => { r with
        status := .success, information := 0 }).desk = (e.purge r).desk :=
      desk_modifyCurrent (e.purge r) .purge fun _ => rfl
    have hnext := moves_getNext (q := .purgeQueue) (by decide)
      ((hpurge.1.serves .purge).of_desk hdesk)
      ((isSome_of_desk hdesk .purge).trans ((isSome_of_ids (hpurge.2 rfl)).trans hsome))
    refine (moves_purge hacc r).trans ?_
    unfold Moves at hnext
    rw [hdesk] at hnext
    exact hnext.mono fun _ => Works.clears

/-- Purge requests are worked off one after the other. -/
theorem moves_startPurgeLoop (n : Nat) (hacc : Accounted e)
    (hsome : (e.current .purge).isSome = true) : Moves Clears e (startPurgeLoop n e) := by
  induction n generalizing e with
  | zero => exact .refl _
  | succ n ih =>
    have hacc' : Accounted e.startPurgeOne :=
      (anything.startPurgeOne (anything.aborts id id id) id e hacc).1
    refine (moves_startPurgeOne hacc hsome).trans ?_
    show Moves Clears e.startPurgeOne (e.startPurgeOne.startNew .purge (startPurgeLoop n))
    unfold startNew
    split
    · next hnext => exact ih hacc' hnext
    · exact .refl _

/-! ## Callbacks -/

omit [Uart U] in
/-- Nothing is seen of an I/O control that only changes settings. -/
theorem desk_ioctlSimple {f : Extension U → Extension U} (hf : ∀ e, (f e).desk = e.desk)
    (e : Extension U) : (e.ioctlSimple f).desk = e.desk := by
  unfold ioctlSimple
  split
  · rfl
  · exact hf e

/-- Desks and the count of waiting bytes see nothing of the code under the interrupt lock. -/
theorem desk_interruptRule : InterruptRule fun e e' : Extension U => Effect e e' ∧
    e'.totalCharsQueued = e.totalCharsQueued := effect_interruptRule.and count_interruptRule

/-- What has to hold for requests to move as the desks do: every queue accepts requests, and no
request to change or wait for events waits itself. -/
structure Manned (e : Extension U) : Prop where
  accounted : Accounted e
  accepting : ∀ q, (e.queue q).accepting = true
  mask : e.current .mask = none
  unused : deskPlan.Unused .maskQueue e.desk

omit [Uart U] in
/-- A mask request that arrives is never kept waiting. -/
theorem Manned.idle (h : Manned e) : deskPlan.Idle .maskQueue e.desk :=
  h.unused.idle (congrArg (Option.map Request.job) h.mask)

/-- A new request in its empty slot is accounted for. -/
theorem Accounted.started (hacc : Accounted e) {q : QueueId} {body : Body}
    (hserves : q.slot.serves body = true) (hidle : deskPlan.Idle q e.desk) (length : Nat)
    (buffer : List UInt8) : Accounted (started q.slot body length buffer e) := by
  have hnone : e.current q.slot = none := Option.map_eq_none_iff.mp hidle.2.2
  exact (anything.arrive e id hserves hnone _ hacc).1

omit [Uart U] in
/-- The slot is occupied once the request has been started. -/
theorem isSome_started (s : Slot) (body : Body) (length : Nat) (buffer : List UInt8) :
    ((started s body length buffer e).current s).isSome = true := by
  unfold started
  rw [current_setCurrent, if_pos rfl]
  rfl

/-- A request comes to the mask queue. -/
theorem moves_maskQueue (h : Manned e) {c : Callback} {body : Body} (hbody : c.asks = some body)
    (hserves : Slot.mask.serves body = true) : Moves c.permits e (e.takeId.serialStartOrQueue
      (Request.new e.nextId body 0 []) .maskQueue .mask serialStartMask) := by
  refine moves_serialStartOrQueue (q := .maskQueue) hbody (h.accepting .maskQueue)
    (fun _ => h.idle) fun hidle => ?_
  exact (moves_startMaskLoop _ (h.accounted.started (q := .maskQueue) hserves hidle 0 [])
    (isSome_started ..)).permits c

/-- A purge clears the queues its mask names. -/
theorem moves_ioctlPurge (h : Manned e) (m : UInt32) :
    Moves (Callback.purge m).permits e (e.ioctlPurge m) := by
  refine moves_accept rfl ?_
  split
  · exact moves_refuse rfl .invalidParameter
  · refine moves_serialStartOrQueue (q := .purgeQueue) rfl (h.accepting .purgeQueue)
      (by simp) fun hidle => ?_
    exact (moves_startPurgeLoop _ (h.accounted.started (q := .purgeQueue) rfl hidle 0 [])
      (isSome_started ..)).mono fun _ hop => hop.permits rfl

theorem moves_ioctlImmediateChar (c : UInt8) :
    Moves (Callback.immediateChar c).permits e (e.ioctlImmediateChar c) := by
  refine moves_accept rfl ?_
  split
  · exact moves_refuse rfl .invalidParameter
  · next hfree =>
    have hnone : e.current .immediate = none := by
      simpa [takeId] using hfree
    refine DeskPlan.Course.trans (.one (show (Callback.immediateChar c).permits
        (.occupy .immediate (Request.new e.nextId (.immediateChar c) 0 [c]).job) from rfl)
      ⟨⟨rfl, rfl⟩, fun q => by cases q <;> decide, rfl,
        congrArg (Option.map Request.job) hnone, rfl⟩ (by simp)) (.of_eq ?_)
    refine (desk_serialStartImmediate ..).trans ?_
    show { (e.takeId.setCurrent .immediate _).desk with count := e.desk.count + 1 } = _
    rw [desk_setCurrent]
    rfl

/-- Of the DPCs, those that end a request move it out of its slot. -/
theorem moves_runDpc (hacc : Accounted e) (d : DpcId) :
    Moves (Callback.dpc d).permits e (e.runDpc d) := by
  cases d with
  | completeRead =>
    exact (moves_tryToCompleteRead
      (e := (e.takeDpc .completeRead).setCountOnLastRead completeReadComplete) (fun _ => rfl)
      (hacc.serves .read) _ _).permits _
  | completeWrite =>
    exact (moves_tryToCompleteWrite (fun _ => rfl) (e.takeDpc .completeWrite) _ _).permits _
  | completeImmediate =>
    exact (moves_tryToCompleteImmediate (e := e.takeDpc .completeImmediate) (fun _ => rfl)
      (hacc.serves .immediate) _ _).permits _
  | commWait => exact (moves_tryToCompleteWait (fun _ => rfl) (e.takeDpc .commWait) _ _).permits _
  | xoffCountComplete =>
    exact (moves_tryToCompleteXoff (fun _ => rfl) (e.takeDpc .xoffCountComplete) _ _ _).permits _
  | commError =>
    have hacc' : Accounted (e.takeDpc .commError) := hacc.congr (fun _ => rfl) rfl
    exact (moves_serialCommError hacc').mono fun _ hop => hop.permits rfl
  | startTimerLowerRts =>
    refine .of_desk ?_
    unfold runDpc dpcRoutine serialStartTimerLowerRts
    dsimp only
    split <;> rfl

/-- Of the timers, those that end a request move it out of its slot. -/
theorem moves_runTimer (hacc : Accounted e) (t : TimerId) (c : Callback) :
    Moves c.permits e (e.runTimer t) := by
  cases t with
  | readRequestTotal =>
    exact (moves_tryToCompleteRead
      (e := (e.takeTimer .readRequestTotal).setCountOnLastRead completeReadTotal)
      desk_serialGrabReadFromIsr (hacc.serves .read) _ _).permits c
  | readRequestInterval =>
    exact (moves_serialIntervalReadTimeout (e := e.takeTimer .readRequestInterval)
      (hacc.serves .read)).permits c
  | writeRequestTotal =>
    exact (moves_tryToCompleteWrite desk_serialGrabWriteFromIsr
      (e.takeTimer .writeRequestTotal) _ _).permits c
  | immediateTotal =>
    exact (moves_tryToCompleteImmediate (e := e.takeTimer .immediateTotal)
      desk_serialGrabImmediateFromIsr (hacc.serves .immediate) _ _).permits c
  | xoffCount =>
    exact (moves_tryToCompleteXoff desk_serialGrabXoffFromIsr (e.takeTimer .xoffCount) _ _
      _).permits c
  | lowerRts =>
    exact .of_desk ((desk_of_lock (desk_interruptRule.serialPerhapsLowerRts
      (e.takeTimer .lowerRts))).trans rfl)

/-- At most, the request leaves its slot. -/
theorem moves_runCancelRoutine (hacc : Accounted e) (s : Slot) (c : Callback) :
    Moves c.permits e (e.runCancelRoutine s) := by
  have hdesk : (e.modifyCurrent s fun r => { r with cancelable := .none }).desk = e.desk :=
    desk_modifyCurrent e s fun _ => rfl
  have hroutine : Moves Works (e.modifyCurrent s fun r => { r with cancelable := .none })
      (e.runCancelRoutine s) := by
    unfold runCancelRoutine
    cases s with
    | read =>
      have hserved := (hacc.serves .read).of_desk hdesk
      exact moves_tryToCompleteRead
        (e := (e.modifyCurrent .read fun r => { r with cancelable := .none }).setCountOnLastRead
          completeReadCancel) desk_serialGrabReadFromIsr hserved _ _
    | write => exact moves_tryToCompleteWrite desk_serialGrabWriteFromIsr _ _ _
    | immediate =>
      exact moves_tryToCompleteImmediate desk_serialGrabImmediateFromIsr
        ((hacc.serves .immediate).of_desk hdesk) _ _
    | wait => exact moves_tryToCompleteWait desk_serialGrabWaitFromIsr _ _ _
    | xoff => exact moves_tryToCompleteXoff desk_serialGrabXoffFromIsr _ _ _ _
    | mask | purge => exact .refl _
  have h := hroutine.permits c
  unfold Moves at h ⊢
  rwa [hdesk] at h

omit [Uart U] in
/-- A desk shows the jobs of requests only. -/
theorem desk_modifyAbandoned (e : Extension U) (i : Nat) {f : Request → Request}
    (hf : ∀ r, (f r).job = r.job) :
    ({ e with abandoned := e.abandoned.modify i f } : Extension U).desk = e.desk := by
  have hlist (l : List Request) (i : Nat) :
      (l.modify i f).map Request.job = l.map Request.job := by
    induction l generalizing i with
    | nil => cases i <;> rfl
    | cons r l ih =>
      cases i with
      | zero => simp [hf]
      | succ i => simp [ih]
  unfold desk
  rw [hlist]

omit [Uart U] in
/-- A request that is cancelled in its queue is completed outside any slot. -/
theorem moves_runCanceledOnQueue (e : Extension U) (i : Nat) :
    Moves (Callback.canceledOnQueue i).permits e (e.runCanceledOnQueue i) := by
  unfold runCanceledOnQueue
  split
  · exact .refl _
  · next r hr =>
    have hjob : e.desk.withdrawn[i]? = some r.job := by
      show (e.canceledOnQueue.map Request.job)[i]? = _
      rw [List.getElem?_map, hr]
      rfl
    refine .one (show (Callback.canceledOnQueue i).permits (.give i) from rfl)
      ⟨r.job, hjob, ?_⟩ (by simp)
    unfold serialEvtCanceledOnQueue
    rw [desk_serialCompleteRequest]
    have herase : (e.canceledOnQueue.eraseIdx i).map Request.job =
        e.desk.withdrawn.eraseIdx i := (List.eraseIdx_map ..).symm
    have hcount : e.totalCharsQueued + -charsQueued r - 0 = e.totalCharsQueued - charsQueued r := by
      omega
    unfold Desk.leave
    rw [← herase]
    exact congrArg (fun n => ({ e.desk with
      withdrawn := (e.canceledOnQueue.eraseIdx i).map Request.job
      count := n
      done := e.desk.done ++ [r.job] } : Desk Slot QueueId Job)) hcount

/-- **Callbacks move requests as the desks do.** -/
theorem moves_callback (h : Manned e) (c : Callback) : Moves c.permits e (e.callback c) := by
  cases c with
  -- requests that are put in a queue or refused
  | evtIoRead n =>
    refine moves_accept rfl ?_
    split
    · exact moves_refuse rfl .bufferTooSmall
    · exact moves_serialStartOrQueue (q := .readQueue) rfl (h.accepting .readQueue) (by simp)
        fun _ => .of_desk rfl
  | setQueueSize n =>
    refine moves_accept rfl ?_
    split
    · exact moves_refuse rfl .success
    · exact moves_serialStartOrQueue (q := .readQueue) rfl (h.accepting .readQueue) (by simp)
        fun _ => .of_desk rfl
  | evtIoWrite payload =>
    refine moves_accept rfl ?_
    split
    · exact moves_refuse rfl .bufferTooSmall
    · exact moves_serialStartOrQueue (q := .writeQueue) rfl (h.accepting .writeQueue) (by simp)
        fun _ => (moves_serialStartWrite _).permits _
  | xoffCounter t n c =>
    refine moves_accept rfl ?_
    split
    · exact moves_refuse rfl .invalidParameter
    · exact moves_serialStartOrQueue (q := .writeQueue) rfl (h.accepting .writeQueue) (by simp)
        fun _ => (moves_serialStartWrite _).permits _
  | immediateChar c => exact moves_ioctlImmediateChar c
  | setWaitMask m =>
    refine moves_accept rfl ?_
    split
    · exact moves_refuse rfl .invalidParameter
    · exact moves_maskQueue h rfl rfl
  | waitOnMask => exact moves_accept rfl (moves_maskQueue h rfl rfl)
  | purge m => exact moves_ioctlPurge h m
  -- requests that are answered at once: no desk changes
  | setTimeouts t =>
    exact .of_desk (desk_ioctlSimple (fun e => by unfold ioctlSetTimeouts; split <;> rfl) e)
  | setChars c =>
    exact .of_desk (desk_ioctlSimple (fun e => by unfold ioctlSetChars; split <;> rfl) e)
  | lsrmstInsert c =>
    exact .of_desk (desk_ioctlSimple (fun e => by unfold ioctlLsrmstInsert; split <;> rfl) e)
  | setHandFlow hf =>
    refine .of_desk (desk_ioctlSimple (fun e => ?_) e)
    unfold ioctlSetHandFlow
    split
    · rfl
    · exact desk_of_lock (desk_interruptRule.serialSetHandFlow hf e)
  | setXon =>
    exact .of_desk (desk_ioctlSimple (fun e => desk_of_lock (desk_lock.serialPretendXon e)) e)
  | setXoff =>
    exact .of_desk (desk_ioctlSimple (fun e => desk_of_lock (desk_lock.serialPretendXoff e)) e)
  | setBreakOn =>
    exact .of_desk (desk_ioctlSimple (fun e => desk_of_lock (desk_lock.serialTurnOnBreak e)) e)
  | setBreakOff =>
    exact .of_desk (desk_ioctlSimple (fun e => desk_of_lock (desk_lock.serialTurnOffBreak e)) e)
  | setDtr b =>
    refine .of_desk (desk_ioctlSimple (fun e => ?_) e)
    unfold ioctlSetDtr
    split
    · rfl
    · split
      · exact desk_of_lock (desk_interruptRule.serialSetDtr e)
      · exact desk_of_lock (desk_interruptRule.serialClrDtr e)
  | setRts b =>
    refine .of_desk (desk_ioctlSimple (fun e => ?_) e)
    unfold ioctlSetRts
    split
    · rfl
    · split
      · exact desk_of_lock (desk_interruptRule.serialSetRts e)
      · exact desk_of_lock (desk_interruptRule.serialClrRts e)
  | getModemStatus =>
    exact .of_desk (desk_ioctlSimple
      (fun e => desk_of_lock (desk_lock.serialHandleModemUpdate false e)) e)
  | getCommStatus => exact .of_desk rfl
  -- the two halves of a flush
  | flushStop =>
    exact .one (show Callback.flushStop.permits (.stop .writeQueue) from ⟨rfl, rfl⟩)
      (desk_putQueue e .writeQueue _) (by simp)
  | flushStart =>
    exact .one (show Callback.flushStart.permits (.reopen .writeQueue) from .inr ⟨rfl, rfl⟩)
      (desk_wdfIoQueueStart e .writeQueue) (by simp)
  -- what was already under way
  | dpc d => exact moves_runDpc h.accounted d
  | timer t => exact moves_runTimer h.accounted t _
  | cancelRoutine s => exact moves_runCancelRoutine h.accounted s _
  | cancelAbandoned i =>
    have hdesk := desk_modifyAbandoned e i (f := fun r => { r with cancelable := .none })
      fun _ => rfl
    have hcancel := (moves_tryToCompleteXoff desk_serialGrabXoffFromIsr
      { e with abandoned := e.abandoned.modify i fun r => { r with cancelable := .none } }
      .cancelled (some .xoffCount) .cancel).permits (.cancelAbandoned i)
    unfold Moves at hcancel ⊢
    rwa [hdesk] at hcancel
  | canceledOnQueue i => exact moves_runCanceledOnQueue e i

/-! ## Steps -/

/-- **Steps move requests as the desks do.** -/
theorem moves_step (h : Manned e) {l : Label (Uart.Input U)} (hstep : step l e = some e') :
    Moves l.permits e e' := by
  cases fires_of_step hstep with
  | hardware x | tick n | expire hqueued => exact .of_desk rfl
  | isr hisr => exact .of_desk (desk_of_lock (desk_lock.serialIsr hisr))
  | @cancel s r hr =>
    have hslot : e.desk.slot s = some r.job := congrArg (Option.map Request.job) hr
    refine .of_desk ?_
    rw [desk_setCurrent]
    exact put_self hslot
  | cancelAbandoned i => exact .of_desk (desk_modifyAbandoned e i fun _ => rfl)
  -- out of the line, and into the list of those to be told
  | @cancelWaiting q i r hr =>
    have hjob : (e.desk.line q).waiting[i]? = some r.job := by
      show ((e.queue q).waiting.map Request.job)[i]? = _
      rw [List.getElem?_map, hr]
      rfl
    refine .one rfl ⟨r.job, hjob, ?_⟩ (by simp)
    show { (e.putQueue q { e.queue q with
      waiting := (e.queue q).waiting.eraseIdx i }).desk with
        withdrawn := (e.canceledOnQueue ++ [r]).map Request.job } = _
    rw [desk_putQueue, List.map_append]
    unfold IoQueue.line
    rw [← List.eraseIdx_map]
    rfl
  | readStep hpc => exact moves_serialStartReadStep (h.accounted.serves .read)
  | @callback c hpc hc => exact moves_callback h c

/-! ## The mask slot is free between callbacks -/

omit [Uart U] in
/-- Nothing waits: the slot is empty afterwards. -/
theorem current_getNext {q : QueueId} (hwaiting : (e.queue q).waiting = []) (b : Bool) :
    (e.serialGetNextRequest q.slot q b).current q.slot = none := by
  have hretrieve : (e.retrieveNextRequest q q.slot).current q.slot = none := by
    unfold retrieveNextRequest
    rw [hwaiting]
    split
    · next hcons => cases hcons
    · rw [current_setCurrent, if_pos rfl]
  unfold serialGetNextRequest
  split
  · split <;> exact hretrieve
  · exact hretrieve

omit [Uart U] in
theorem waiting_of_desk (h : e'.desk = e.desk) {q : QueueId}
    (hwaiting : (e.queue q).waiting = []) : (e'.queue q).waiting = [] := by
  have hline : (e'.queue q).waiting.map Request.job = (e.queue q).waiting.map Request.job :=
    congrArg Line.waiting (congrFun (congrArg Desk.line h) q)
  rw [hwaiting] at hline
  exact List.map_eq_nil_iff.mp hline

omit [Uart U] in
/-- The first mask request is over, and no other one follows. -/
theorem mask_startMaskOne (hwaiting : (e.queue .maskQueue).waiting = [])
    (hsome : (e.current .mask).isSome = true) : e.startMaskOne.current .mask = none := by
  have hnext (e₁ : Extension U) (hdesk : e₁.desk = e.desk) (status : NtStatus) :
      (e₁.nextMask status).current .mask = none := by
    have hmark : (e₁.modifyCurrent .mask fun r => { r with status := status }).desk = e₁.desk :=
      desk_modifyCurrent e₁ .mask fun _ => rfl
    exact current_getNext (q := .maskQueue) (waiting_of_desk (hmark.trans hdesk) hwaiting) true
  obtain ⟨r, hr⟩ := Option.isSome_iff_exists.mp hsome
  unfold startMaskOne
  rw [hr]
  dsimp only
  split
  · exact hnext _ (desk_serialFinishOldWait e _) _
  · split
    · exact hnext e rfl _
    · refine current_getNext (q := .maskQueue) ?_ false
      have hgive := desk_serialGiveWaitToIsr ((e.setCurrent .mask none).setCurrent .wait
        (some { r with refCount := .zero }.serialSetCancelRoutine))
      exact waiting_of_desk hgive hwaiting

omit [Uart U] in
/-- Neither does one after the whole loop. -/
theorem mask_serialStartMask (hwaiting : (e.queue .maskQueue).waiting = [])
    (hsome : (e.current .mask).isSome = true) : e.serialStartMask.current .mask = none := by
  have hone := mask_startMaskOne hwaiting hsome
  unfold serialStartMask
  rw [hwaiting]
  show (e.startMaskOne.startNew .mask (startMaskLoop 0)).current .mask = none
  unfold startNew
  split
  · exact hone
  · exact hone

omit [Uart U] in
/-- A request to change or wait for events is over at once. -/
theorem mask_maskQueue (h : Manned e) (body : Body) :
    (e.takeId.serialStartOrQueue (Request.new e.nextId body 0 []) .maskQueue .mask
      serialStartMask).current .mask = none := by
  have hidle : (e.takeId.isQueueEmpty .maskQueue && (e.takeId.current .mask).isNone) = true :=
    (idle_iff e .maskQueue).mpr h.idle
  unfold serialStartOrQueue
  rw [if_pos hidle]
  refine mask_serialStartMask ?_ (isSome_started .mask body 0 [])
  exact List.map_eq_nil_iff.mp h.unused.empty

omit [Uart U] in
theorem vacant_accept {s : Slot} (hnone : e.current s = none) {body : Body}
    {k : Request → Extension U → Extension U}
    (hk : (k (Request.new e.nextId body 0 []) e.takeId).current s = none) :
    (e.accept body 0 [] k).current s = none := by
  unfold accept
  split
  · exact hnone
  · exact hk

/-- Mask requests are over when the callback is. -/
theorem mask_callback (h : Manned e) {c : Callback} (hc : e.enabled c = true) :
    (e.callback c).current .mask = none := by
  cases hw : c.worksFor .mask with
  | false =>
    have hids := ((sameSlot_rule .mask _).callback e c
      (fun s hs heq => by rw [heq, hw] at hs; cases hs) hc h.accounted).2 rfl
    exact none_of_ids hids h.mask
  | true =>
    cases c with
    | setWaitMask m =>
      refine vacant_accept h.mask ?_
      split
      · exact h.mask
      · exact mask_maskQueue h _
    | waitOnMask => exact vacant_accept h.mask (mask_maskQueue h _)
    | cancelRoutine s =>
      cases s with
      | mask =>
        simp only [enabled, h.mask] at hc
        cases hc
      | _ => cases hw
    | canceledOnQueue i =>
      show (e.runCanceledOnQueue i).current .mask = none
      unfold runCanceledOnQueue
      split <;> exact h.mask
    | dpc d => cases d <;> cases hw
    | timer t => cases t <;> cases hw
    | _ => cases hw

/-- An empty slot stays empty if no callback puts a request there. -/
theorem vacant_step {s : Slot} (hacc : Accounted e) (hnone : e.current s = none)
    (hread : s ≠ .read) (hcallback : ∀ c, e.enabled c = true → (e.callback c).current s = none)
    {l : Label (Uart.Input U)} (hstep : step l e = some e') : e'.current s = none := by
  cases hw : l.worksFor s with
  | false =>
    have hids := ((sameSlot_rule s _).step hstep
      (fun t hs heq => by rw [heq, hw] at hs; cases hs) hacc).2 rfl
    exact none_of_ids hids hnone
  | true =>
    cases fires_of_step hstep with
    | expire hqueued => exact hnone
    | @cancel t r hr =>
      -- there is no request to be cancelled
      obtain rfl : s = t := by simpa [Label.worksFor] using hw
      rw [hnone] at hr
      cases hr
    | cancelAbandoned i => exact hnone
    | cancelWaiting hr => exact hnone
    | readStep hpc => exact absurd (show s = .read by simpa [Label.worksFor] using hw) hread
    | @callback c hpc hc => exact hcallback c hc
    | _ => cases hw

theorem mask_step (h : Manned e) {l : Label (Uart.Input U)} (hstep : step l e = some e') :
    e'.current .mask = none :=
  vacant_step h.accounted h.mask (by decide) (fun _ => mask_callback h) hstep

/-! ## Runs -/

theorem Manned.step (h : Manned e) {l : Label (Uart.Input U)} (hstep : step l e = some e') :
    Manned e' := by
  have hmoves := moves_step h hstep
  refine ⟨(anything.step hstep (fun _ _ => id) h.accounted).1,
    fun q => hmoves.stays q (h.accepting q), mask_step h hstep, ?_⟩
  refine hmoves.path.keep (fun op d d' hok hdoes hunused => ?_) h.unused
  refine hunused.move (fun j hop => ?_) hdoes
  subst hop
  cases l with
  | callback c => exact hok.2 rfl
  | cancelWaiting q i => cases hok
  | _ => exact hok

omit [Uart U] in
/-- All queues are started, and no request is there. -/
theorem manned_opened (u : U) (cfg : Config) (size : Nat) : Manned (opened u cfg size) where
  accounted := accounted_opened u cfg size
  accepting _ := rfl
  mask := rfl
  unused :=
    { empty := rfl
      foreign := fun _ _ hs => by cases hs
      kept := fun _ hj => by cases hj }

/-- **In every state of a run** requests move as the desks do. -/
theorem manned_run {u : U} {cfg : Config} {size : Nat} {ls : List (Label (Uart.Input U))}
    (hrun : run Extension.step ls (opened u cfg size) = some e) : Manned e :=
  run_invariant (fun _ _ _ hstep h => h.step hstep) hrun (manned_opened u cfg size)

end SerialFc
