import SerialFc.Lib.Desk
import SerialFc.Properties.Tracked

/-!
# The port as a desk

`Extension.desk` sees of the extension only which requests there are and where: the slots are the
desks, the manual queues are their queues, and `TotalCharsQueued` is the count. `deskPlan` says
which slot a queue is for, that XOFF counters leave the write slot and requests to wait the mask
slot before they are done, and what a request adds to the count.

* `desk_lock` — code under the interrupt lock is not seen
* `desk_retrieveNextRequest`, `desk_getNext` — what `SerialGetNextRequest` does at the desks
* `desk_stopAgents` and the others — what else is not seen
-/

namespace SerialFc

open Extension Lib

variable {U : Type} {e e' : Extension U}

/-- What the desks know of a request. -/
structure Job where
  id : Nat
  body : Body
  origin : Option QueueId
  chars : Int
  deriving DecidableEq, Repr

/-- What the queues know of a request. -/
def Request.job (r : Request) : Job := ⟨r.id, r.body, r.origin, charsQueued r⟩

/-- Is a request in the slot part of `TotalCharsQueued`? -/
def Slot.charged : Slot → Bool
  | .wait | .xoff => false
  | _ => true

/-- The slot that requests of a queue go on to before they are done. -/
def QueueId.later : QueueId → Option Slot
  | .writeQueue => some .xoff
  | .maskQueue => some .wait
  | _ => none

/-- Every queue has a desk of its own. -/
theorem QueueId.slot_injective : Function.Injective QueueId.slot := by
  intro q r h
  cases q <;> cases r <;> first | rfl | cases h

theorem charged_slot (q : QueueId) : q.slot.charged = true := by cases q <;> rfl

/-- The slots and queues of the driver. -/
def deskPlan : DeskPlan Slot QueueId Job where
  home := QueueId.slot
  number := Job.id
  origin := Job.origin
  fetched q j := { j with origin := some q }
  weight := Job.chars
  counted := Slot.charged
  movable q t j := q.later = some t ∧ t.serves j.body = true
  home_injective := QueueId.slot_injective
  origin_fetched _ _ := rfl
  number_fetched _ _ := rfl
  weight_fetched _ _ := rfl
  counted_home := charged_slot
  not_counted q t _ h := by cases q <;> cases h.1 <;> rfl
  movable_fetched _ _ _ _ h := h

/-- Who waits, and whether the queue accepts and runs. -/
def IoQueue.line (l : IoQueue) : Line Job := ⟨l.waiting.map Request.job, l.accepting, l.started⟩

/-- The slots, the queues and the lists of requests that are in neither. -/
def Extension.desk (e : Extension U) : Desk Slot QueueId Job where
  slot s := (e.current s).map Request.job
  line q := (e.queue q).line
  withdrawn := e.canceledOnQueue.map Request.job
  lost := e.abandoned.map Request.job
  done := e.done.map Request.job
  count := e.totalCharsQueued
  fresh := e.nextId

/-! ## Slots and queues -/

/-- Another request comes to the desk. -/
theorem desk_setCurrent (e : Extension U) (s : Slot) (v : Option Request) :
    (e.setCurrent s v).desk = e.desk.put s (v.map Request.job) := by
  unfold desk Desk.put setCurrent
  congr 1
  funext t
  simp only [Function.update_apply]
  split <;> rfl

theorem desk_putQueue (e : Extension U) (q : QueueId) (l : IoQueue) :
    (e.putQueue q l).desk = e.desk.putLine q l.line := by
  unfold desk Desk.putLine putQueue
  congr 1
  funext r
  simp only [Function.update_apply]
  split <;> rfl

theorem put_self {d : Desk Slot QueueId Job} {s : Slot} {v : Option Job} (hv : d.slot s = v) :
    d.put s v = d := by
  unfold Desk.put
  rw [← hv, Function.update_eq_self]

/-- A request is written to, and the desks know it as before. -/
theorem desk_modifyCurrent_of {s : Slot} {f : Request → Request}
    (hf : ∀ r, e.current s = some r → (f r).job = r.job) : (e.modifyCurrent s f).desk = e.desk := by
  cases hs : e.current s with
  | none =>
    rw [modifyCurrent_of_none f hs]
    rfl
  | some r =>
    rw [modifyCurrent_of_some f hs, desk_setCurrent, Option.map_some, hf r hs]
    refine put_self ?_
    show (e.current s).map Request.job = _
    rw [hs]
    rfl

/-- Marks and references are not seen. -/
theorem desk_modifyCurrent (e : Extension U) (s : Slot) {f : Request → Request}
    (hf : ∀ r, (f r).job = r.job) : (e.modifyCurrent s f).desk = e.desk :=
  desk_modifyCurrent_of fun r _ => hf r

/-! ## Fetching and completing -/

/-- The framework hands out the first who waits, while the queue runs. -/
theorem desk_retrieveNextRequest (e : Extension U) (q : QueueId) :
    (e.retrieveNextRequest q q.slot).desk = deskPlan.fetch q e.desk := by
  have hline : e.desk.line q = (e.queue q).line := rfl
  unfold retrieveNextRequest DeskPlan.fetch
  rw [hline]
  cases hstarted : (e.queue q).started <;> cases hwaiting : (e.queue q).waiting <;>
    simp only [IoQueue.line, hstarted, hwaiting, List.map_nil, List.map_cons, desk_setCurrent,
      desk_putQueue, Option.map_none, Option.map_some] <;> rfl

/-- A request that is completed leaves. -/
theorem desk_serialCompleteRequest (e : Extension U) (r : Request) :
    (e.serialCompleteRequest r).desk = e.desk.leave r.job 0 := by
  unfold desk serialCompleteRequest Desk.leave
  simp

/-- `SerialGetNextRequest`, after the request was taken off the count. -/
theorem desk_getNext {q : QueueId} {r : Request} (hr : e.current q.slot = some r) :
    ((e.addCharsQueued (-charsQueued r)).serialGetNextRequest q.slot q true).desk =
      (deskPlan.fetch q e.desk).leave r.job r.job.chars := by
  have hr' : (e.addCharsQueued (-charsQueued r)).current q.slot = some r := hr
  have hcount : (e.addCharsQueued (-charsQueued r)).desk =
      { e.desk with count := e.desk.count + -charsQueued r } := rfl
  have hfetch (n : Int) : deskPlan.fetch q { e.desk with count := e.desk.count + n } =
      { deskPlan.fetch q e.desk with count := e.desk.count + n } := by
    unfold DeskPlan.fetch
    dsimp only
    split <;> rfl
  unfold serialGetNextRequest
  rw [hr']
  simp only [if_true]
  rw [desk_serialCompleteRequest, desk_retrieveNextRequest, hcount, hfetch]
  unfold Desk.leave
  rw [DeskPlan.count_fetch]
  congr 1
  show e.desk.count + -charsQueued r - 0 = e.desk.count - charsQueued r
  omega

/-! ## What is not seen -/

/-- The ISR moves no requests. -/
theorem Effect.desk (h : Effect e e') (hcount : e'.totalCharsQueued = e.totalCharsQueued) :
    e'.desk = e.desk := by
  have hslot (s : Slot) : (e'.current s).map Request.job = (e.current s).map Request.job := by
    have hcore := congrArg (Option.map Request.job) (h.cur s)
    rwa [Option.map_map, Option.map_map] at hcore
  unfold Extension.desk
  rw [h.queue, h.canceledOnQueue, h.abandoned, h.done, h.nextId, hcount]
  congr 1
  exact funext hslot

variable [Uart U]

theorem count_interruptRule :
    InterruptRule fun e e' : Extension U => e'.totalCharsQueued = e.totalCharsQueued where
  refl _ := rfl
  trans hab hbc := hbc.trans hab
  readReg _ _ := rfl
  writeReg _ _ _ _ _ := rfl
  fillFscc _ := rfl
  writeData _ _ := rfl
  events _ _ _ _ := rfl
  txHolding _ _ := rfl
  holdingEmpty _ _ := rfl
  special _ b := by cases b <;> rfl
  rxHolding _ _ := rfl
  tryingToLowerRts _ _ := rfl
  insertDpc _ _ _ := rfl
  answerWait e _ := by simp [answerWait, serialInsertQueueDpc]
  countXoff e := by
    unfold countXoff
    split
    · rfl
    · split <;> simp [serialInsertQueueDpc, setCountSinceXoff]
  storeUser e c _ := by
    unfold storeUser putUser
    split <;> simp [satisfyRead, resetRing, serialInsertQueueDpc]
  putRing _ _ _ _ := rfl
  overwriteLast _ _ _ := rfl
  handFlow _ _ := rfl
  emptied _ := rfl
  logSpecial _ _ _ := rfl
  xonSent _ := rfl
  xoffSent _ := rfl
  immediateSent _ _ := rfl
  advanceWrite e n _ _ := by
    unfold advanceWrite
    split <;> simp [movePointer, serialInsertQueueDpc]

/-- Code under the interrupt lock moves no request. -/
theorem desk_lock : LockRule fun e e' : Extension U => Effect e e' ∧
    e'.totalCharsQueued = e.totalCharsQueued :=
  (effect_interruptRule.and count_interruptRule).lockRule

end SerialFc
