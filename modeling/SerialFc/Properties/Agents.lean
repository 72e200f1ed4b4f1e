import SerialFc.Properties.InterruptRule
import SerialFc.Model.Driver

/-!
# Who can still touch a request

The request in a slot can be touched by the ISR or the DPC the ISR has queued for it, by its cancel
routine, by the total timer and, for a read, by the interval timer. `agents` reads that set off the
state, in the shape of a reference count.

`Effect` says that the requests keep their agents, but that the ISR may hand one over to its DPC,
and that no request moves. Code under the interrupt lock has no more effect than that.
-/

namespace SerialFc

open Extension

variable {U : Type}

/-! ## Agents -/

namespace Extension

/-- The ISR works on the request of the slot. -/
def isrHolds (e : Extension U) : Slot → Bool
  | .read => e.rx.readBufferBase == .user
  | .write => e.tx.writeLength != 0
  | .immediate => e.tx.transmitImmediate
  | .wait => e.ev.irpMaskLocation
  | .xoff => e.tx.countSinceXoff != 0
  | .mask | .purge => false

/-- The DPC that completes the request of the slot is queued. -/
def dpcPending (e : Extension U) : Slot → Bool
  | .read => e.dpc .completeRead
  | .write => e.dpc .completeWrite
  | .immediate => e.dpc .completeImmediate
  | .wait => e.dpc .commWait
  | .xoff => e.dpc .xoffCountComplete
  | .mask | .purge => false

/-- The timer that ends the request of the slot. -/
def totalTimerId : Slot → Option TimerId
  | .read => some .readRequestTotal
  | .write => some .writeRequestTotal
  | .immediate => some .immediateTotal
  | .xoff => some .xoffCount
  | .wait | .mask | .purge => none

/-- Only reads have an interval timer. -/
def intervalTimerId : Slot → Option TimerId
  | .read => some .readRequestInterval
  | _ => none

/-- A slot without the timer has it switched off. -/
def timerOf (e : Extension U) : Option TimerId → Timer
  | some t => e.timer t
  | none => .off

theorem timerOf_congr {e e' : Extension U} (h : e'.timer = e.timer) (t : Option TimerId) :
    e'.timerOf t = e.timerOf t := by
  cases t with
  | none => rfl
  | some t => exact congrFun h t

/-- The set of agents that can still touch the request `r` of slot `s`. -/
def agents (e : Extension U) (s : Slot) (r : Request) : RefCount where
  isr := e.isrHolds s || e.dpcPending s
  cancel := r.cancelable != .none
  totalTimer := (e.timerOf (totalTimerId s)).live
  intTimer := (e.timerOf (intervalTimerId s)).live
  xoffRef := false

end Extension

/-- What no code under the interrupt lock changes in a request. -/
def Request.core (r : Request) : Request :=
  { r with systemBuffer := [], information := 0, status := .success, eventMask := none }

/-- A field that only depends on the core. -/
theorem Request.of_core {α : Type*} (f : Request → α) (hf : ∀ r : Request, f r.core = f r)
    {r r' : Request} (h : r'.core = r.core) : f r' = f r := by
  rw [← hf r', h, hf]

/-- The ISR is done with a request and has queued the DPC for it, or nothing has changed. -/
def Handover (isr dpc isr' dpc' : Bool) : Prop :=
  (isr' = isr ∧ dpc' = dpc) ∨ (isr = true ∧ isr' = false ∧ dpc' = true)

theorem Handover.refl (isr dpc : Bool) : Handover isr dpc isr dpc := Or.inl ⟨rfl, rfl⟩

/-- Once handed over, a request stays with the DPC. -/
theorem Handover.trans {a b a' b' a'' b'' : Bool} (h : Handover a b a' b')
    (h' : Handover a' b' a'' b'') : Handover a b a'' b'' := by
  unfold Handover at *
  rcases h with ⟨rfl, rfl⟩ | ⟨rfl, rfl, rfl⟩
  · exact h'
  · rcases h' with ⟨rfl, rfl⟩ | ⟨h, _, _⟩
    · exact Or.inr ⟨rfl, rfl, rfl⟩
    · cases h

/-! ## Effects -/

/-- Requests stay where they are and keep their agents and timers. -/
structure Effect (e e' : Extension U) : Prop where
  cur : ∀ s, (e'.current s).map Request.core = (e.current s).map Request.core
  agents : ∀ s, Handover (e.isrHolds s) (e.dpcPending s) (e'.isrHolds s) (e'.dpcPending s)
  timer : e'.timer = e.timer
  queue : e'.queue = e.queue
  canceledOnQueue : e'.canceledOnQueue = e.canceledOnQueue
  abandoned : e'.abandoned = e.abandoned
  done : e'.done = e.done
  nextId : e'.nextId = e.nextId
  pc : e'.pc = e.pc
  flushing : e'.flushing = e.flushing

namespace Effect

variable {e e' e'' : Extension U}

theorem refl (e : Extension U) : Effect e e where
  cur _ := rfl
  agents _ := Handover.refl _ _
  timer := rfl
  queue := rfl
  canceledOnQueue := rfl
  abandoned := rfl
  done := rfl
  nextId := rfl
  pc := rfl
  flushing := rfl

theorem trans (h : Effect e e') (h' : Effect e' e'') : Effect e e'' where
  cur s := (h'.cur s).trans (h.cur s)
  agents s := (h.agents s).trans (h'.agents s)
  timer := h'.timer.trans h.timer
  queue := h'.queue.trans h.queue
  canceledOnQueue := h'.canceledOnQueue.trans h.canceledOnQueue
  abandoned := h'.abandoned.trans h.abandoned
  done := h'.done.trans h.done
  nextId := h'.nextId.trans h.nextId
  pc := h'.pc.trans h.pc
  flushing := h'.flushing.trans h.flushing

theorem current_some (h : Effect e e') {s : Slot} {r : Request} (hr : e.current s = some r) :
    ∃ r', e'.current s = some r' ∧ r'.core = r.core := by
  have hcur := h.cur s
  rw [hr] at hcur
  exact Option.map_eq_some_iff.mp hcur

theorem current_none (h : Effect e e') {s : Slot} (hr : e.current s = none) :
    e'.current s = none := by
  have hcur := h.cur s
  rw [hr] at hcur
  exact Option.map_eq_none_iff.mp hcur

theorem timerOf (h : Effect e e') (t : Option TimerId) : e'.timerOf t = e.timerOf t :=
  timerOf_congr h.timer t

/-- A request that is in a slot afterwards was there before. -/
theorem current_of (h : Effect e e') {s : Slot} {r' : Request} (hr' : e'.current s = some r') :
    ∃ r, e.current s = some r ∧ r'.core = r.core := by
  cases hr : e.current s with
  | none =>
    rw [h.current_none hr] at hr'
    cases hr'
  | some r =>
    obtain ⟨r'', hr'', hcore⟩ := h.current_some hr
    cases hr'.symm.trans hr''
    exact ⟨r, rfl, hcore⟩

theorem current_eq_none (h : Effect e e') {s : Slot} (hnone : e'.current s = none) :
    e.current s = none := by
  cases hr : e.current s with
  | none => rfl
  | some r =>
    obtain ⟨r', hr', _⟩ := h.current_some hr
    cases hnone.symm.trans hr'

/-- The effect is the same with one more request completed. -/
theorem complete (h : Effect e e') (r : Request) :
    Effect (e.serialCompleteRequest r) (e'.serialCompleteRequest r) where
  cur := h.cur
  agents := h.agents
  timer := h.timer
  queue := h.queue
  canceledOnQueue := h.canceledOnQueue
  abandoned := h.abandoned
  done := by simp only [serialCompleteRequest, h.done]
  nextId := h.nextId
  pc := h.pc
  flushing := h.flushing

end Effect

/-! ## Code under the interrupt lock -/

/-- Fields outside the core may be changed. -/
theorem map_core_modifyCurrent {e : Extension U} {s : Slot} {f : Request → Request}
    (hf : ∀ r, (f r).core = r.core) (t : Slot) :
    ((e.modifyCurrent s f).current t).map Request.core = (e.current t).map Request.core := by
  rw [current_modifyCurrent]
  split
  · next ht => subst ht; cases e.current t <;> simp [hf]
  · rfl

/-- An effect on requests and agents only. -/
theorem Effect.of_still {e e' : Extension U}
    (hcur : ∀ s, (e'.current s).map Request.core = (e.current s).map Request.core)
    (hagents : ∀ s,
      Handover (e.isrHolds s) (e.dpcPending s) (e'.isrHolds s) (e'.dpcPending s))
    (hstill : (e'.timer, e'.queue, e'.canceledOnQueue, e'.abandoned, e'.done, e'.nextId, e'.pc,
        e'.flushing) = (e.timer, e.queue, e.canceledOnQueue, e.abandoned, e.done, e.nextId, e.pc,
        e.flushing)) : Effect e e' := by
  simp only [Prod.mk.injEq] at hstill
  obtain ⟨htimer, hqueue, hcanceled, habandoned, hdone, hnext, hpc, hflush⟩ := hstill
  exact ⟨hcur, hagents, htimer, hqueue, hcanceled, habandoned, hdone, hnext, hpc, hflush⟩

/-- An XOFF counter that has run down is handed over to its DPC. -/
theorem effect_countXoff (e : Extension U) : Effect e e.countXoff := by
  unfold countXoff
  split
  · exact Effect.refl e
  · next h0 =>
    split
    · next h1 =>
      refine .of_still (fun s => map_core_modifyCurrent (by intro; rfl) s) (fun s => ?_)
        (by simp [serialInsertQueueDpc, setCountSinceXoff])
      cases s <;> simp [Handover, isrHolds, dpcPending, serialInsertQueueDpc, setCountSinceXoff, h1]
    · next h1 =>
      refine .of_still (fun _ => rfl) (fun s => Or.inl ⟨?_, rfl⟩) rfl
      cases s <;> simp only [isrHolds, setCountSinceXoff]
      exact (bne_iff_ne.mpr (by omega)).trans (bne_iff_ne.mpr h0).symm

/-- A read that is full is handed over to its DPC. -/
theorem effect_storeUser (e : Extension U) (c : UInt8) (h : e.rx.readBufferBase = .user) :
    Effect e (e.storeUser c) := by
  unfold storeUser
  split
  · refine .of_still (fun s => ?_) (fun s => ?_)
      (by simp [satisfyRead, serialInsertQueueDpc, resetRing, putUser])
    · exact (map_core_modifyCurrent (by intro; rfl) s).trans
        (map_core_modifyCurrent (by intro; rfl) s)
    · cases s <;> simp [Handover, isrHolds, dpcPending, satisfyRead, serialInsertQueueDpc, resetRing,
        putUser, h]
  · refine .of_still (fun s => map_core_modifyCurrent (by intro; rfl) s) (fun s => Or.inl ?_)
      (by simp [putUser])
    cases s <;> simp [isrHolds, dpcPending, putUser]

/-- A wait that is answered is handed over to its DPC. -/
theorem effect_answerWait (e : Extension U) (h : e.ev.irpMaskLocation = true) :
    Effect e e.answerWait := by
  refine .of_still (fun s => map_core_modifyCurrent (by intro; rfl) s) (fun s => ?_)
    (by simp [answerWait, serialInsertQueueDpc])
  cases s <;> simp [Handover, isrHolds, dpcPending, answerWait, serialInsertQueueDpc, h]

/-- A write that is sent out is handed over to its DPC. -/
theorem effect_advanceWrite (e : Extension U) (n : Nat) (h : e.tx.writeLength ≠ 0) :
    Effect e (e.advanceWrite n) := by
  unfold advanceWrite
  split
  · next hn =>
    refine .of_still (fun s => map_core_modifyCurrent (by intro; rfl) s) (fun s => ?_)
      (by simp [serialInsertQueueDpc, movePointer])
    cases s <;> simp [Handover, isrHolds, dpcPending, serialInsertQueueDpc, movePointer, h, hn]
  · next hn =>
    refine .of_still (fun _ => rfl) (fun s => Or.inl ⟨?_, rfl⟩) rfl
    cases s <;> simp only [isrHolds, movePointer]
    exact (bne_iff_ne.mpr hn).trans (bne_iff_ne.mpr h).symm

/-- **Effect of code under the interrupt lock**: at most, the ISR hands requests over to DPCs. -/
theorem effect_interruptRule [Uart U] : InterruptRule (U := U) Effect where
  refl := Effect.refl
  trans := Effect.trans
  readReg _ _ := .of_still (fun _ => rfl) (fun _ => .refl _ _) rfl
  writeReg _ _ _ _ _ := .of_still (fun _ => rfl) (fun _ => .refl _ _) rfl
  fillFscc _ := .of_still (fun _ => rfl) (fun _ => .refl _ _) rfl
  writeData _ _ := .of_still (fun _ => rfl) (fun _ => .refl _ _) rfl
  events e ev hev _ := .of_still (fun _ => rfl)
    (fun s => Or.inl ⟨by cases s <;> simp [isrHolds, hev], rfl⟩) rfl
  txHolding _ _ := .of_still (fun _ => rfl) (fun _ => .refl _ _) rfl
  holdingEmpty _ _ := .of_still (fun _ => rfl) (fun _ => .refl _ _) rfl
  special _ _ := .of_still (fun _ => rfl) (fun _ => .refl _ _) rfl
  rxHolding _ _ := .of_still (fun _ => rfl) (fun _ => .refl _ _) rfl
  tryingToLowerRts _ _ := .of_still (fun _ => rfl) (fun _ => .refl _ _) rfl
  insertDpc e d hd := .of_still (fun _ => rfl) (fun s => Or.inl ⟨rfl, by
    rcases hd with rfl | rfl <;> cases s <;> simp [dpcPending, serialInsertQueueDpc]⟩) rfl
  answerWait := effect_answerWait
  countXoff := effect_countXoff
  storeUser := effect_storeUser
  putRing _ _ _ _ := .of_still (fun _ => rfl) (fun _ => .refl _ _) rfl
  overwriteLast _ _ _ := .of_still (fun _ => rfl) (fun _ => .refl _ _) rfl
  handFlow _ _ := .of_still (fun _ => rfl) (fun _ => .refl _ _) rfl
  emptied _ := .of_still (fun _ => rfl) (fun _ => .refl _ _) rfl
  logSpecial _ _ _ := .of_still (fun _ => rfl) (fun _ => .refl _ _) rfl
  xonSent _ := .of_still (fun _ => rfl) (fun _ => .refl _ _) rfl
  xoffSent _ := .of_still (fun _ => rfl) (fun _ => .refl _ _) rfl
  immediateSent e h := .of_still (fun _ => rfl) (fun s => by
    cases s <;> simp [Handover, isrHolds, dpcPending, immediateSent, serialInsertQueueDpc, h]) rfl
  advanceWrite e n h _ := effect_advanceWrite e n h

end SerialFc
