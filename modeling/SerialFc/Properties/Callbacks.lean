import SerialFc.Properties.Accounts

/-!
# What a callback leaves alone

A callback works for one slot, or for a few. What belongs to another slot (its request, agents,
queue, counters and completed requests) it leaves alone (`Same`), but for what code under the
interrupt lock does on the way.

* `Same` — nothing that belongs to a slot has changed
* `CallbackRule T R` — `R` contains whatever leaves the slots of `T` alone, and all code under the
  interrupt lock; then it contains every callback for other slots
-/

namespace SerialFc

open Extension

variable {U : Type}

/-! ## What belongs to a slot -/

/-- The slot whose completed requests these are. -/
def Slot.finishes : Slot → Body → Bool
  | .read, .read | .read, .setQueueSize _ => true
  | .write, .write _ => true
  | .mask, .setWaitMask _ => true
  | .wait, .waitOnMask => true
  | .purge, .purge _ => true
  | .immediate, .immediateChar _ => true
  | .xoff, .xoffCounter _ _ _ => true
  | _, _ => false

/-- A request that is not finished at the read slot is no read. -/
theorem isRead_eq_false {r : Request} (h : Slot.read.finishes r.body = false) :
    r.isRead = false := by
  unfold Request.isRead
  cases hb : r.body with
  | read =>
    rw [hb] at h
    cases h
  | _ => rfl

/-- Where a request of slot `s` may end up. -/
theorem slot_of_finishes {s t : Slot} {b : Body} (hs : s.serves b = true)
    (ht : t.finishes b = true) : t = s ∨ (s = .write ∧ t = .xoff) ∨ (s = .mask ∧ t = .wait) := by
  cases b <;> cases s <;> cases hs <;> cases t <;> cases ht <;> decide

/-- A mask request that sets no mask is one to wait. -/
theorem serves_wait {b : Body} (h : Slot.mask.serves b = true) (hb : ∀ m, b ≠ .setWaitMask m) :
    Slot.wait.serves b = true := by
  cases b with
  | waitOnMask => rfl
  | setWaitMask m => exact absurd rfl (hb m)
  | _ => cases h

/-- The slot whose request a timer times. -/
def TimerId.slot : TimerId → Option Slot
  | .readRequestTotal | .readRequestInterval => some .read
  | .writeRequestTotal => some .write
  | .immediateTotal => some .immediate
  | .xoffCount => some .xoff
  | .lowerRts => none

/-- The slot whose request a DPC completes. -/
def DpcId.slot : DpcId → Option Slot
  | .completeRead => some .read
  | .completeWrite => some .write
  | .completeImmediate => some .immediate
  | .commWait => some .wait
  | .xoffCountComplete => some .xoff
  | .commError | .startTimerLowerRts => none

/-- What the ISR and the routines of a slot keep outside the request itself. -/
def SameData (e e' : Extension U) : Slot → Prop
  | .read => e'.rx = e.rx ∧ e'.stream = e.stream ∧ e'.pc = e.pc
  | .write => e'.tx.writeLength = e.tx.writeLength ∧
      e'.tx.writeCurrentChar = e.tx.writeCurrentChar ∧ e'.wire = e.wire ∧ e'.flushing = e.flushing
  | .xoff => e'.tx.countSinceXoff = e.tx.countSinceXoff ∧ e'.abandoned = e.abandoned
  | .immediate => e'.tx.transmitImmediate = e.tx.transmitImmediate
  | .wait => e'.ev.irpMaskLocation = e.ev.irpMaskLocation
  | .mask => e'.ev.historyMask = e.ev.historyMask ∧ e'.ev.isrWaitMask = e.ev.isrWaitMask
  | .purge => True

/-- Nothing that belongs to slot `s` has changed. -/
structure Same (s : Slot) (e e' : Extension U) : Prop where
  current : e'.current s = e.current s
  total : e'.timerOf (totalTimerId s) = e.timerOf (totalTimerId s)
  interval : e'.timerOf (intervalTimerId s) = e.timerOf (intervalTimerId s)
  dpc : e'.dpcPending s = e.dpcPending s
  queue : ∀ q : QueueId, q.slot = s → e'.queue q = e.queue q
  finished : e'.done.filter (s.finishes ·.body) = e.done.filter (s.finishes ·.body)
  data : SameData e e' s

namespace Same

variable {s : Slot} {e e' e'' : Extension U}

theorem refl (s : Slot) (e : Extension U) : Same s e e where
  current := rfl
  total := rfl
  interval := rfl
  dpc := rfl
  queue _ _ := rfl
  finished := rfl
  data := by cases s <;> simp [SameData]

theorem trans (h : Same s e e') (h' : Same s e' e'') : Same s e e'' where
  current := h'.current.trans h.current
  total := h'.total.trans h.total
  interval := h'.interval.trans h.interval
  dpc := h'.dpc.trans h.dpc
  queue q hq := (h'.queue q hq).trans (h.queue q hq)
  finished := h'.finished.trans h.finished
  data := by
    have hd := h.data
    have hd' := h'.data
    cases s <;> simp_all [SameData]

/-- Whether the ISR has the request can be told from the slot's own data. -/
theorem isrHolds (h : Same s e e') : e'.isrHolds s = e.isrHolds s := by
  have hd := h.data
  cases s <;> simp_all [SameData, Extension.isrHolds]

/-- A change of fields that belong to no slot, or to another one. -/
theorem of_fields (hcur : e'.current s = e.current s)
    (hrest : (e'.timer, e'.dpc, e'.queue, e'.done) = (e.timer, e.dpc, e.queue, e.done))
    (hdata : SameData e e' s) : Same s e e' := by
  simp only [Prod.mk.injEq] at hrest
  obtain ⟨ht, hd, hq, hdone⟩ := hrest
  have htimer := timerOf_congr ht
  exact ⟨hcur, htimer _, htimer _, by cases s <;> simp [dpcPending, hd], fun q _ => by rw [hq],
    by rw [hdone], hdata⟩

/-! ### Primitive changes -/

/-- Another slot gets a request or loses it. -/
theorem setCurrent (e : Extension U) {t : Slot} (v : Option Request) (h : s ≠ t) :
    Same s e (e.setCurrent t v) :=
  of_fields (by rw [current_setCurrent, if_neg h]) rfl (by cases s <;> simp [SameData, Extension.setCurrent])

/-- A request of another slot is changed. -/
theorem modifyCurrent (e : Extension U) {t : Slot} (f : Request → Request) (h : s ≠ t) :
    Same s e (e.modifyCurrent t f) :=
  of_fields (by rw [current_modifyCurrent, if_neg h]) (by simp) (by cases s <;> simp [SameData])

theorem timer (e : Extension U) {t : TimerId} (v : Timer) (h : t.slot ≠ some s) :
    Same s e { e with timer := Function.update e.timer t v } where
  current := rfl
  total := by
    cases s <;> simp only [totalTimerId, timerOf] <;>
      exact Function.update_of_ne (by rintro rfl; exact h rfl) _ _
  interval := by
    cases s <;> simp only [intervalTimerId, timerOf]
    exact Function.update_of_ne (by rintro rfl; exact h rfl) _ _
  dpc := by cases s <;> rfl
  queue _ _ := rfl
  finished := rfl
  data := by cases s <;> simp [SameData]

/-- A DPC of another slot is queued, or leaves its queue. -/
theorem dpc_update (e : Extension U) {d : DpcId} (b : Bool) (h : d.slot ≠ some s) :
    Same s e { e with dpc := Function.update e.dpc d b } where
  current := rfl
  total := rfl
  interval := rfl
  dpc := by
    cases s <;> simp only [dpcPending] <;>
      exact Function.update_of_ne (by rintro rfl; exact h rfl) _ _
  queue _ _ := rfl
  finished := rfl
  data := by cases s <;> simp [SameData]

/-- A queue of another slot changes. -/
theorem putQueue (e : Extension U) {q : QueueId} (v : IoQueue) (h : s ≠ q.slot) :
    Same s e (e.putQueue q v) where
  current := rfl
  total := rfl
  interval := rfl
  dpc := by cases s <;> rfl
  queue q' hq' := Function.update_of_ne (by rintro rfl; exact h hq'.symm) _ _
  finished := rfl
  data := by cases s <;> simp [SameData, Extension.putQueue]

/-- A request of another slot is completed. -/
theorem complete (e : Extension U) {r : Request} (h : s.finishes r.body = false) :
    Same s e (e.serialCompleteRequest r) where
  current := rfl
  total := rfl
  interval := rfl
  dpc := by cases s <;> rfl
  queue _ _ := rfl
  finished := by simp [serialCompleteRequest, h]
  data := by
    cases s <;> simp only [SameData, serialCompleteRequest, and_self]
    rw [isRead_eq_false h]
    simp

end Same

/-- What belongs to no slot: the chip, the lines, the hold reasons and the character that is sent
next. -/
def Extension.lines (e : Extension U) :=
  (e.uart, e.cfg, e.tx.sendXonChar, e.tx.sendXoffChar, e.tx.txHolding, e.tx.holdingEmpty,
    e.tx.countOfTryingToLowerRts, e.rx.rxHolding, e.ev.errorWord, e.dpc .startTimerLowerRts,
    e.timer .lowerRts)

/-- How full the interrupt buffer is, and whether it is what the ISR fills. -/
def Rx.fill (x : Rx) : Base × Nat × Nat := (x.readBufferBase, x.charsInInterruptBuffer, x.bufferSize)

/-- How many characters have been stored. -/
def Extension.stored (e : Extension U) : Nat := (Lib.Fifo.puts e.stream).length

/-- What flow control looks at. -/
def Extension.shared (e : Extension U) := (e.lines, e.rx.fill, e.stored)

/-- Reading takes characters away, or turns the ISR to the reader's buffer. -/
structure Drained (x x' : Rx) : Prop where
  rxHolding : x'.rxHolding = x.rxHolding
  bufferSize : x'.bufferSize = x.bufferSize
  fill : x'.readBufferBase = x.readBufferBase ∧ x'.charsInInterruptBuffer ≤ x.charsInInterruptBuffer ∨
    x'.readBufferBase = .user ∨ x'.charsInInterruptBuffer = 0

/-- No request matters to flow control. -/
theorem shared_modifyCurrent (e : Extension U) (s : Slot) (f : Request → Request) :
    (e.modifyCurrent s f).shared = e.shared := by
  simp [shared, lines, stored]

/-- What is appended to the stream puts nothing. -/
theorem shared_appendStream (e : Extension U) {ops : List (Lib.Fifo.Op UInt8)} {b : Bool}
    (h : Lib.Fifo.puts ops = []) :
    ({ e with stream := if b then e.stream ++ ops else e.stream } : Extension U).shared =
      e.shared := by
  cases b <;> simp [shared, lines, stored, Lib.Fifo.puts_append, h]

theorem shared_serialCompleteRequest (r : Request) (e : Extension U) :
    (e.serialCompleteRequest r).shared = e.shared :=
  shared_appendStream { e with done := e.done ++ [r] } (b := r.isRead) rfl

theorem shared_retrieveNextRequest (e : Extension U) (q : QueueId) (s : Slot) :
    (e.retrieveNextRequest q s).shared = e.shared := by
  unfold retrieveNextRequest
  split <;> rfl

/-- Nor does it matter which request comes next. -/
theorem shared_serialGetNextRequest (e : Extension U) (s : Slot) (q : QueueId) (b : Bool) :
    (e.serialGetNextRequest s q b).shared = e.shared := by
  unfold serialGetNextRequest
  split
  · split
    · exact (shared_serialCompleteRequest _ _).trans (shared_retrieveNextRequest e q s)
    · exact shared_retrieveNextRequest e q s
  · exact shared_retrieveNextRequest e q s

/-- `LowerRTSTimer` belongs to no slot. -/
theorem ne_lowerRts {t : TimerId} {s : Slot} (h : t.slot = some s) : t ≠ .lowerRts := by
  rintro rfl
  cases h

/-- Of a slot without a timer there is nothing to show. -/
theorem no_timer {s : Slot} (t : TimerId) (h : none = some t) : t.slot = some s := nomatch h

/-- A timer that is the slot's own. -/
theorem own_timer {s : Slot} {t : TimerId} (h : t.slot = some s) (t' : TimerId)
    (ht : some t = some t') : t'.slot = some s := by
  cases ht
  exact h

theorem slot_xoffCount : ∀ t, some TimerId.xoffCount = some t → t.slot = some Slot.xoff :=
  own_timer rfl

/-! ## The rule -/

/-- Both relations contain it. -/
theorem InterruptRule.and [Uart U] {R R' : Extension U → Extension U → Prop}
    (h : InterruptRule R) (h' : InterruptRule R') :
    InterruptRule fun e e' => R e e' ∧ R' e e' where
  refl e := ⟨h.refl e, h'.refl e⟩
  trans hab hbc := ⟨h.trans hab.1 hbc.1, h'.trans hab.2 hbc.2⟩
  readReg e r := ⟨h.readReg e r, h'.readReg e r⟩
  writeReg e r v hd hl := ⟨h.writeReg e r v hd hl, h'.writeReg e r v hd hl⟩
  fillFscc e := ⟨h.fillFscc e, h'.fillFscc e⟩
  writeData e v := ⟨h.writeData e v, h'.writeData e v⟩
  events e ev hev hmask := ⟨h.events e ev hev hmask, h'.events e ev hev hmask⟩
  txHolding e t := ⟨h.txHolding e t, h'.txHolding e t⟩
  holdingEmpty e b := ⟨h.holdingEmpty e b, h'.holdingEmpty e b⟩
  special e b := ⟨h.special e b, h'.special e b⟩
  rxHolding e t := ⟨h.rxHolding e t, h'.rxHolding e t⟩
  tryingToLowerRts e n := ⟨h.tryingToLowerRts e n, h'.tryingToLowerRts e n⟩
  insertDpc e d hd := ⟨h.insertDpc e d hd, h'.insertDpc e d hd⟩
  answerWait e he := ⟨h.answerWait e he, h'.answerWait e he⟩
  countXoff e := ⟨h.countXoff e, h'.countXoff e⟩
  storeUser e c he := ⟨h.storeUser e c he, h'.storeUser e c he⟩
  putRing e c he hlt := ⟨h.putRing e c he hlt, h'.putRing e c he hlt⟩
  overwriteLast e he hlt := ⟨h.overwriteLast e he hlt, h'.overwriteLast e he hlt⟩
  handFlow e hf := ⟨h.handFlow e hf, h'.handFlow e hf⟩
  emptied e := ⟨h.emptied e, h'.emptied e⟩
  logSpecial e w hw := ⟨h.logSpecial e w hw, h'.logSpecial e w hw⟩
  xonSent e := ⟨h.xonSent e, h'.xonSent e⟩
  xoffSent e := ⟨h.xoffSent e, h'.xoffSent e⟩
  immediateSent e he := ⟨h.immediateSent e he, h'.immediateSent e he⟩
  advanceWrite e n hne hle := ⟨h.advanceWrite e n hne hle, h'.advanceWrite e n hne hle⟩

/-- What `R` keeps, code under the interrupt lock keeps. -/
theorem InterruptRule.keep [Uart U] {R : Extension U → Extension U → Prop} (hR : InterruptRule R)
    {P : Extension U → Prop} (h : ∀ e e', R e e' → P e → P e') :
    InterruptRule fun e e' => P e → P e' where
  refl _ := id
  trans hab hbc := hbc ∘ hab
  readReg e r := h _ _ (hR.readReg e r)
  writeReg e r v hd hl := h _ _ (hR.writeReg e r v hd hl)
  fillFscc e := h _ _ (hR.fillFscc e)
  writeData e v := h _ _ (hR.writeData e v)
  events e ev hev hmask := h _ _ (hR.events e ev hev hmask)
  txHolding e t := h _ _ (hR.txHolding e t)
  holdingEmpty e b := h _ _ (hR.holdingEmpty e b)
  special e b := h _ _ (hR.special e b)
  rxHolding e t := h _ _ (hR.rxHolding e t)
  tryingToLowerRts e n := h _ _ (hR.tryingToLowerRts e n)
  insertDpc e d hd := h _ _ (hR.insertDpc e d hd)
  answerWait e he := h _ _ (hR.answerWait e he)
  countXoff e := h _ _ (hR.countXoff e)
  storeUser e c he := h _ _ (hR.storeUser e c he)
  putRing e c he hlt := h _ _ (hR.putRing e c he hlt)
  overwriteLast e he hlt := h _ _ (hR.overwriteLast e he hlt)
  handFlow e hf := h _ _ (hR.handFlow e hf)
  emptied e := h _ _ (hR.emptied e)
  logSpecial e w hw := h _ _ (hR.logSpecial e w hw)
  xonSent e := h _ _ (hR.xonSent e)
  xoffSent e := h _ _ (hR.xoffSent e)
  immediateSent e he := h _ _ (hR.immediateSent e he)
  advanceWrite e n hne hle := h _ _ (hR.advanceWrite e n hne hle)

/-- From a state whose requests are accounted for, `R` leads to another one. -/
def Guarded (R : Extension U → Extension U → Prop) (e e' : Extension U) : Prop :=
  Accounted e → Accounted e' ∧ R e e'

/-- `R` is about the slots of `T` and about what belongs to no slot. -/
structure CallbackRule [Uart U] (T : Slot → Prop) (R : Extension U → Extension U → Prop) : Prop
    extends ControlRule R where
  same : ∀ e e', (∀ s, T s → Same s e e') → e'.shared = e.shared → R e e'
  evolve : ∀ e x, R e { e with uart := Uart.evolve x e.uart }
  configure : ∀ e timeouts chars escape, R e { e with cfg := { e.cfg with
    timeouts := timeouts, specialChars := chars, escapeChar := escape } }
  clearErrors : ∀ e, R e { e with ev := { e.ev with errorWord := 0 } }
  setDtr : ∀ e, e.handFlow.dtrHandshake = false → R e e.serialSetDtr ∧ R e e.serialClrDtr
  setRts : ∀ e, (e.handFlow.rtsHandshake || e.handFlow.transmitToggle) = false →
    R e e.serialSetRts ∧ R e e.serialClrRts
  drain : ¬T .read → ∀ e x, Drained e.rx x → R e { e with rx := x }

/-- `R` contains what is done to lower RTS later on. -/
structure LowerRule [Uart U] (R : Extension U → Extension U → Prop) : Prop where
  expireLowerRts : ∀ e, (e.timer .lowerRts).queued = true →
    R e { e with timer := Function.update e.timer .lowerRts ⟨false, true⟩ }
  startTimerLowerRts : ∀ e, e.dpc .startTimerLowerRts = true →
    R e (e.runDpc .startTimerLowerRts)
  lowerRtsTimer : ∀ e, (e.timer .lowerRts).fired = true → R e (e.runTimer .lowerRts)

/-- `R` contains every step. -/
structure StepRule [Uart U] (T : Slot → Prop) (R : Extension U → Extension U → Prop) : Prop
    extends CallbackRule T R, IsrRule R, LowerRule R where
  serialSetHandFlow : ∀ new e, R e (e.serialSetHandFlow new)
  resize : ¬T .read → ∀ e n buffer, R e (e.serialUpdateAndSwitchToNew n buffer)

/-- Relations that are about the slots of `T` only, and contain the primitive changes. -/
theorem StepRule.of_interruptRule [Uart U] {T : Slot → Prop}
    {R : Extension U → Extension U → Prop} (h : InterruptRule R)
    (hsame : ∀ e e', (∀ s, T s → Same s e e') → R e e') : StepRule T R where
  __ := h.lockRule
  serialSetHandFlow := h.serialSetHandFlow
  same e e' hs _ := hsame e e' hs
  evolve e x := hsame _ _ fun s _ => Same.of_fields rfl rfl (Same.refl s e).data
  configure e _ _ _ := hsame _ _ fun s _ => Same.of_fields rfl rfl (Same.refl s e).data
  clearErrors e := h.events e _ rfl rfl
  setDtr e _ := ⟨h.serialSetDtr e, h.serialClrDtr e⟩
  setRts e _ := ⟨h.serialSetRts e, h.serialClrRts e⟩
  drain hr e x _ := by
    refine hsame _ _ fun s hs => Same.of_fields rfl rfl ?_
    cases s with
    | read => exact absurd hs hr
    | _ => simp [SameData]
  resize hr e n buffer := by
    have hinstall (b : List UInt8) : R e (e.installBuffer b) := by
      refine hsame _ _ fun s hs => Same.of_fields rfl rfl ?_
      cases s with
      | read => exact absurd hs hr
      | _ => simp [SameData, installBuffer]
    exact h.trans (hinstall _) (h.trans (h.handFlow _ _) (h.serialHandleReducedIntBuffer _))
  expireLowerRts e _ := hsame _ _ fun s _ => Same.timer e _ (fun hs => nomatch hs)
  startTimerLowerRts e _ := by
    have htake : R e (e.takeDpc .startTimerLowerRts) :=
      hsame _ _ fun s _ => Same.dpc_update e false (fun hs => nomatch hs)
    have hset : R (e.takeDpc .startTimerLowerRts)
        ((e.takeDpc .startTimerLowerRts).serialSetTimer .lowerRts).2 :=
      hsame _ _ fun s _ => Same.timer _ _ (fun hs => nomatch hs)
    exact h.trans htake (rel_ite (fun _ => h.trans hset (h.tryingToLowerRts _ _)) (fun _ => hset))
  lowerRtsTimer e _ := by
    have htake : R e (e.takeTimer .lowerRts) :=
      hsame _ _ fun s _ => Same.timer e _ (fun hs => nomatch hs)
    exact h.trans htake (h.serialPerhapsLowerRts _)

/-- `T` has nothing to do with slot `s` nor with the requests completed there. -/
def Apart (T : Slot → Prop) (s : Slot) : Prop :=
  ¬T s ∧ ∀ b, s.serves b = true → ∀ t, T t → t.finishes b = false

section
variable {T : Slot → Prop}

/-- A write may end up as an XOFF counter, and a mask request as one to wait. -/
theorem apart_of_ne {s : Slot} (hs : ¬T s) (hx : s = .write → ¬T .xoff)
    (hw : s = .mask → ¬T .wait) : Apart T s := by
  refine ⟨hs, fun b hb t ht => ?_⟩
  cases hfin : t.finishes b with
  | false => rfl
  | true =>
    rcases slot_of_finishes hb hfin with rfl | ⟨hsw, rfl⟩ | ⟨hsm, rfl⟩
    · exact absurd ht hs
    · exact absurd ht (hx hsw)
    · exact absurd ht (hw hsm)

theorem apart_read (hr : ¬T .read) : Apart T .read :=
  apart_of_ne hr (fun h => nomatch h) (fun h => nomatch h)

theorem apart_write (hw : ¬T .write) (hx : ¬T .xoff) : Apart T .write :=
  apart_of_ne hw (fun _ => hx) (fun h => nomatch h)

theorem apart_xoff (hx : ¬T .xoff) : Apart T .xoff :=
  apart_of_ne hx (fun h => nomatch h) (fun h => nomatch h)

theorem apart_immediate (hi : ¬T .immediate) : Apart T .immediate :=
  apart_of_ne hi (fun h => nomatch h) (fun h => nomatch h)

theorem apart_mask (hm : ¬T .mask) (hw : ¬T .wait) : Apart T .mask :=
  apart_of_ne hm (fun h => nomatch h) (fun _ => hw)

theorem apart_wait (hw : ¬T .wait) : Apart T .wait :=
  apart_of_ne hw (fun h => nomatch h) (fun h => nomatch h)

theorem apart_purge (hp : ¬T .purge) : Apart T .purge :=
  apart_of_ne hp (fun h => nomatch h) (fun h => nomatch h)

end

/-- A new interrupt buffer concerns no request. -/
theorem accounted_serialUpdateAndSwitchToNew [Uart U] {e : Extension U} (n : Nat)
    (buffer : List UInt8) (h : Accounted e) : Accounted (e.serialUpdateAndSwitchToNew n buffer) :=
  Accounted.of_effect (e := (e.installBuffer _).putHandFlow _) (h.congr (fun _ => rfl) rfl)
    (effect_interruptRule.lockRule.serialHandleReducedIntBuffer _)

namespace CallbackRule

variable [Uart U] {T : Slot → Prop} {R : Extension U → Extension U → Prop} (h : CallbackRule T R)
include h

theorem grefl (e : Extension U) : Guarded R e e := fun ha => ⟨ha, h.refl e⟩

/-- Two parts of a routine, one after the other. -/
theorem gtrans {a b c : Extension U} (hab : Guarded R a b) (hbc : Guarded R b c) :
    Guarded R a c := by
  intro ha
  obtain ⟨hb, hR⟩ := hab ha
  obtain ⟨hc, hR'⟩ := hbc hb
  exact ⟨hc, h.trans hR hR'⟩

/-- The rule for code under the interrupt lock, with its effect. -/
theorem lock : ControlRule fun e e' => Effect e e' ∧ R e e' :=
  effect_interruptRule.lockRule.toControlRule.and h.toControlRule

omit h [Uart U] in
/-- What code under the interrupt lock does leaves the requests accounted for. -/
theorem of_lock {e e' : Extension U} (he : Effect e e' ∧ R e e') : Guarded R e e' :=
  fun ha => ⟨ha.of_effect he.1, he.2⟩

/-- Nothing moves, and nothing of `T` changes. -/
theorem still {e e' : Extension U} (hsame : ∀ s, T s → Same s e e') (hshared : e'.shared = e.shared)
    (hcur : ∀ s, (e'.current s).map Request.ident = (e.current s).map Request.ident)
    (hrest : (e'.queue, e'.canceledOnQueue, e'.abandoned.map Request.ident, e'.done, e'.nextId)
      = (e.queue, e.canceledOnQueue, e.abandoned.map Request.ident, e.done, e.nextId)) :
    Guarded R e e' :=
  fun ha => ⟨ha.congr hcur hrest, h.same e e' hsame hshared⟩

/-! ### Primitive changes -/

omit h in
/-- A slot that `T` is not about is another one than those of `T`. -/
theorem ne_of_not {s t : Slot} (ht : ¬T t) (hs : T s) : s ≠ t := by
  rintro rfl
  exact ht hs

/-- A request of a slot outside `T` is changed, but stays the same request. -/
theorem modify (e : Extension U) {s : Slot} (hs : ¬T s) {f : Request → Request}
    (hf : ∀ r, (f r).ident = r.ident) : Guarded R e (e.modifyCurrent s f) :=
  fun ha => ⟨ha.modifyCurrent s hf, h.same _ _
    (fun _ ht => Same.modifyCurrent e f (ne_of_not hs ht)) (shared_modifyCurrent e s f)⟩

/-- A timer of a slot outside `T`. `LowerRTSTimer` is left to `LowerRule`. -/
theorem timer (e : Extension U) {t : TimerId} (v : Timer) (ht : ∀ s, t.slot = some s → ¬T s)
    (hown : t ≠ .lowerRts) : Guarded R e { e with timer := Function.update e.timer t v } :=
  h.still (fun s hs => Same.timer e v fun heq => ht s heq hs)
    (by simp [shared, lines, stored, Function.update_of_ne hown.symm]) (fun _ => rfl) rfl

/-- A DPC of a slot outside `T`. The one that starts `LowerRTSTimer` is left to `LowerRule`. -/
theorem dpc (e : Extension U) {d : DpcId} (b : Bool) (hd : ∀ s, d.slot = some s → ¬T s)
    (hown : d ≠ .startTimerLowerRts) :
    Guarded R e { e with dpc := Function.update e.dpc d b } :=
  h.still (fun s hs => Same.dpc_update e b fun heq => hd s heq hs)
    (by simp [shared, lines, stored, Function.update_of_ne hown.symm]) (fun _ => rfl) rfl

/-- Fields that belong to no slot of `T`. -/
theorem fields {e e' : Extension U} (hdata : ∀ s, T s → SameData e e' s)
    (hshared : e'.shared = e.shared)
    (hrest : (e'.current, e'.timer, e'.dpc, e'.queue, e'.done, e'.canceledOnQueue,
      e'.abandoned.map Request.ident, e'.nextId) = (e.current, e.timer, e.dpc, e.queue, e.done,
      e.canceledOnQueue, e.abandoned.map Request.ident, e.nextId)) : Guarded R e e' := by
  simp only [Prod.mk.injEq] at hrest
  obtain ⟨hcur, ht, hd, hq, hdone, hc, ha, hn⟩ := hrest
  refine h.still (fun s hs => ?_) hshared (fun s => by rw [hcur]) (by rw [hq, hdone, hc, ha, hn])
  exact Same.of_fields (by rw [hcur]) (by rw [ht, hd, hq, hdone]) (hdata s hs)

/-- The slot's request is completed. -/
theorem complete {e : Extension U} {s : Slot} (hs : Apart T s) {r r' : Request}
    (hr : e.current s = some r) (hident : r'.ident = r.ident) :
    Guarded R e ((e.setCurrent s none).serialCompleteRequest r') := by
  refine fun ha => ⟨ha.complete hr hident,
    h.same _ _ (fun t ht => ?_) (shared_serialCompleteRequest r' (e.setCurrent s none))⟩
  refine (Same.setCurrent e none (ne_of_not hs.1 ht)).trans (Same.complete _ ?_)
  rw [Request.body_eq_of_ident hident]
  exact hs.2 r.body (ha.served s r hr) t ht

omit h [Uart U] in
/-- Fetching a request changes only the slot that it is fetched for. -/
theorem same_retrieve (e : Extension U) {q : QueueId} {t : Slot} (ht : t ≠ q.slot) :
    Same t e (e.retrieveNextRequest q q.slot) := by
  unfold retrieveNextRequest
  split
  · exact (Same.putQueue e _ ht).trans (Same.setCurrent _ _ ht)
  · exact Same.setCurrent e _ ht

/-- `SerialGetNextRequest`: the current request is completed and the next one is fetched. -/
theorem getNext (e : Extension U) (q : QueueId) (hs : Apart T q.slot) :
    Guarded R e (e.serialGetNextRequest q.slot q true) := by
  intro ha
  cases hr : e.current q.slot with
  | none =>
    refine ⟨ha.getNext_of_none true hr, h.same _ _ (fun t ht => ?_)
      (shared_serialGetNextRequest ..)⟩
    unfold serialGetNextRequest
    rw [hr]
    exact same_retrieve e (ne_of_not hs.1 ht)
  | some r =>
    refine ⟨ha.getNext hr, h.same _ _ (fun t ht => ?_) (shared_serialGetNextRequest ..)⟩
    rw [serialGetNextRequest_of_some q hr]
    exact ((Same.setCurrent e none (ne_of_not hs.1 ht)).trans
      (Same.complete _ (hs.2 r.body (ha.served _ r hr) t ht))).trans
      (same_retrieve _ (ne_of_not hs.1 ht))

/-! ### `SerialTryToCompleteCurrent` -/

variable {s : Slot} {timer total interval : Option TimerId}

/-- The reference that an agent holds is given back. -/
theorem clearReference (e : Extension U) (hs : ¬T s) (ref : Ref) :
    Guarded R e (e.clearReference s ref) :=
  h.modify e hs (by intro; rfl)

/-- `SerialCancelTimer` -/
theorem serialCancelTimer (e : Extension U) {t : TimerId} (ht : ∀ s, t.slot = some s → ¬T s)
    (hown : t ≠ .lowerRts) : Guarded R e (e.serialCancelTimer t).2 := h.timer e _ ht hown

theorem rundownTimer (e : Extension U) (hs : ¬T s) (ht : ∀ t, timer = some t → t.slot = some s)
    (ref refType : Ref) : Guarded R e (e.rundownTimer s timer ref refType) := by
  unfold Extension.rundownTimer
  split
  · exact h.grefl e
  · next t =>
    have hcancel : Guarded R e (e.serialCancelTimer t).2 :=
      h.serialCancelTimer e (fun s' hs' => by cases (ht t rfl).symm.trans hs'; exact hs)
        (ne_lowerRts (ht t rfl))
    exact rel_ite (fun _ => h.gtrans hcancel (h.clearReference _ hs ref)) (fun _ => hcancel)

omit h [Uart U] in
theorem ident_serialClearCancelRoutine (b : Bool) (r : Request) :
    (r.serialClearCancelRoutine b).2.ident = r.ident := by
  unfold Request.serialClearCancelRoutine
  split
  · split <;> rfl
  · rfl

theorem rundownCancel (e : Extension U) (hs : ¬T s) (refType : Ref) :
    Guarded R e (e.rundownCancel s refType) :=
  rel_ite (fun _ => h.modify e hs (by intro; rfl))
    (fun _ => h.modify e hs (ident_serialClearCancelRoutine true))

/-- `SerialRundownIrpRefs`: the cancel routine and both timers give back what they hold, if they
have not run. -/
theorem serialRundownIrpRefs (e : Extension U) (hs : ¬T s)
    (hi : ∀ t, interval = some t → t.slot = some s) (ht : ∀ t, total = some t → t.slot = some s)
    (ref : Ref) : Guarded R e (e.serialRundownIrpRefs s interval total ref) :=
  h.gtrans (h.rundownCancel e hs ref)
    (h.gtrans (h.rundownTimer _ hs hi _ ref) (h.rundownTimer _ hs ht _ ref))

theorem markCancelled (e : Extension U) (hs : ¬T s) (status : NtStatus) :
    Guarded R e (e.markCancelled s status) :=
  rel_ite (fun _ => h.modify e hs (by intro; rfl)) (fun _ => h.grefl e)

/-- All agents but those that have run already are stopped, and the request is taken from the ISR.
-/
theorem stopAgents (e : Extension U) (hs : ¬T s) {synch : Extension U → Extension U}
    (hsynch : ∀ e, Guarded R e (synch e)) (hi : ∀ t, interval = some t → t.slot = some s)
    (ht : ∀ t, total = some t → t.slot = some s) (status : NtStatus) (ref : Ref) :
    Guarded R e (e.stopAgents synch status s interval total ref) := by
  have hown : Guarded R e (e.dropOwnReference s ref) :=
    rel_ite (fun _ => h.clearReference e hs ref) (fun _ => h.grefl e)
  exact h.gtrans hown (h.gtrans (hsynch _)
    (h.gtrans (h.serialRundownIrpRefs _ hs hi ht ref) (h.markCancelled _ hs status)))

theorem giveStatus (e : Extension U) (hs : Apart T s) (status : NtStatus) :
    Guarded R e (e.giveStatus s status) := by
  intro ha
  unfold Extension.giveStatus
  split
  · exact h.fields (fun s _ => (Same.refl s e).data) rfl rfl ha
  · next r hr =>
    have hset : ∀ r', r'.ident = r.ident → Guarded R e (e.setCurrent s (some r')) :=
      fun r' hr' ha => ⟨ha.setCurrent_of_ident (by rw [hr, Option.map_some, Option.map_some, hr']),
        h.same _ _ (fun t ht => Same.setCurrent e _ (ne_of_not hs.1 ht)) rfl⟩
    refine rel_ite (R := fun _ e' => Accounted e' ∧ R e e') (e := e) (fun _ => ?_)
      (fun _ => hset _ rfl ha)
    refine h.gtrans (hset { r with status := status, information := 0 } rfl)
      (h.fields (fun t ht => ?_) (shared_appendStream _ rfl) rfl) ha
    have hread : t = .read → r.isRead = false := by
      rintro rfl
      exact isRead_eq_false (hs.2 r.body (ha.served s r hr) .read ht)
    cases t <;> simp [SameData, Extension.setCurrent, hread]

/-- `SerialTryToCompleteCurrent`, for a slot outside `T` and what its own routines do. -/
theorem serialTryToCompleteCurrent (e : Extension U) (hs : Apart T s)
    {synch finish : Extension U → Extension U} (hsynch : ∀ e, Guarded R e (synch e))
    (hfinish : ∀ e, Guarded R e (finish e)) (hi : ∀ t, interval = some t → t.slot = some s)
    (ht : ∀ t, total = some t → t.slot = some s) (status : NtStatus) (ref : Ref) :
    Guarded R e (e.serialTryToCompleteCurrent synch status s interval total finish ref) := by
  have hcrash : ∀ e : Extension U, Guarded R e e.crash :=
    fun e => h.fields (fun s _ => (Same.refl s e).data) rfl rfl
  unfold Extension.serialTryToCompleteCurrent
  split
  · exact hcrash e
  · refine h.gtrans (h.stopAgents e hs.1 hsynch hi ht status ref) ?_
    unfold Extension.completeIfUnreferenced
    split
    · exact hcrash _
    · exact rel_ite (fun _ => h.gtrans (h.giveStatus _ hs status) (hfinish _)) (fun _ => h.grefl _)

theorem completeCurrent (e : Extension U) (hs : Apart T s) :
    Guarded R e (e.completeCurrent s) := by
  unfold Extension.completeCurrent
  split
  · exact h.fields (fun s _ => (Same.refl s e).data) rfl rfl
  · next r hr => exact h.complete hs hr rfl

/-- The next request is started. -/
theorem startNew (e : Extension U) {starter : Extension U → Extension U}
    (hstart : ∀ e, Guarded R e (starter e)) : Guarded R e (e.startNew s starter) :=
  rel_ite (fun _ => hstart e) (fun _ => h.grefl e)

/-- A timer holds a reference while it runs. -/
theorem setTimerWithReference (e : Extension U) (hs : ¬T s) {t : TimerId} (ht : t.slot = some s)
    (ref : Ref) : Guarded R e (e.setTimerWithReference s t ref) := by
  have hset : Guarded R e (e.serialSetTimer t).2 :=
    h.timer e _ (fun s' hs' => by cases ht.symm.trans hs'; exact hs) (ne_lowerRts ht)
  exact rel_ite (fun _ => hset) (fun _ => h.gtrans hset (h.modify _ hs (by intro; rfl)))

theorem initRequest (e : Extension U) (hs : ¬T s) : Guarded R e (e.initRequest s) :=
  h.modify e hs (by intro; rfl)

theorem armWriteTimer (e : Extension U) (hs : ¬T s) {t : TimerId} (ht : t.slot = some s) :
    Guarded R e (e.armWriteTimer s t) :=
  rel_ite (fun _ => h.setTimerWithReference e hs ht _) (fun _ => h.grefl e)

/-! ### Flushing a queue -/

/-- The queue is emptied, and does not take requests meanwhile. -/
theorem wdfIoQueuePurge (e : Extension U) (q : QueueId) (hs : ¬T q.slot) :
    Guarded R e (e.wdfIoQueuePurge q) := by
  refine fun ha => ⟨ha.wdfIoQueuePurge q, h.same _ _ (fun t ht => ?_) rfl⟩
  refine (Same.putQueue e ⟨[], false, false⟩ (ne_of_not hs ht)).trans ?_
  exact Same.of_fields rfl rfl (by cases t <;> simp [SameData, Extension.wdfIoQueuePurge])

/-- The queue takes requests again. -/
theorem wdfIoQueueStart (e : Extension U) (q : QueueId) (hs : ¬T q.slot) :
    Guarded R e (e.wdfIoQueueStart q) :=
  fun ha => ⟨ha.putQueue q true true,
    h.same _ _ (fun _ ht => Same.putQueue e _ (ne_of_not hs ht)) rfl⟩

/-- The cancel routine of the current request is called, if it is still set. -/
theorem cancelCurrent (e : Extension U) (hs : ¬T s) {routine : Extension U → Extension U}
    (hroutine : ∀ e, Guarded R e (routine e)) : Guarded R e (e.cancelCurrent s routine) := by
  unfold Extension.cancelCurrent
  split
  · exact h.grefl e
  · next r hr =>
    have hset : Guarded R e (e.setCurrent s (some (r.serialClearCancelRoutine false).2)) :=
      fun ha => ⟨ha.setCurrent_of_ident (by
          rw [hr, Option.map_some, Option.map_some, ident_serialClearCancelRoutine]),
        h.same _ _ (fun t ht => Same.setCurrent e _ (ne_of_not hs ht)) rfl⟩
    exact rel_ite (fun _ => h.gtrans hset (hroutine _)) (fun _ => hset)

/-- `SerialFlushRequests`: the queue first, then the current request. -/
theorem serialFlushRequests (e : Extension U) {q : QueueId} (hq : ¬T q.slot) (hs : ¬T s)
    {routine : Extension U → Extension U} (hroutine : ∀ e, Guarded R e (routine e)) :
    Guarded R e (e.serialFlushRequests q s routine) :=
  h.gtrans (h.gtrans (h.wdfIoQueuePurge e q hq) (h.cancelCurrent _ hs hroutine))
    (h.wdfIoQueueStart _ q hq)

/-! ### Reads -/

/-- A bugcheck concerns no slot. -/
theorem crash (e : Extension U) : Guarded R e e.crash :=
  h.fields (fun s _ => (Same.refl s e).data) rfl rfl

section
variable (hr : ¬T .read)
include hr

/-- The read side changes, but neither the hold reasons nor how full the interrupt buffer is. -/
theorem rx (e : Extension U) (x : Rx)
    (hx : (x.rxHolding, x.fill) = (e.rx.rxHolding, e.rx.fill)) : Guarded R e { e with rx := x } := by
  simp only [Prod.mk.injEq] at hx
  refine h.fields (fun s hs => ?_) (by simp only [shared, lines, stored, hx.1, hx.2]) rfl
  have hne := ne_of_not hr hs
  cases s <;> simp_all [SameData]

/-- Characters are taken out of the interrupt buffer. -/
theorem drainTo (e : Extension U) (x : Rx) (hx : Drained e.rx x) : Guarded R e { e with rx := x } :=
  fun ha => ⟨ha.congr (fun _ => rfl) rfl, h.drain hr e x hx⟩

theorem goto (e : Extension U) (pc : ReadPc) : Guarded R e (e.goto pc) :=
  h.fields (fun s hs => by
    have hne := ne_of_not hr hs
    cases s <;> simp_all [SameData, Extension.goto]) rfl rfl

/-- Of the stream only what is taken out changes. -/
theorem stream (e : Extension U) (l : List (Lib.Fifo.Op UInt8))
    (hl : Lib.Fifo.puts l = Lib.Fifo.puts e.stream) : Guarded R e { e with stream := l } :=
  h.fields (fun s hs => by
    have hne := ne_of_not hr hs
    cases s <;> simp_all [SameData]) (by simp only [shared, lines, stored, hl]) rfl

/-- A part of the interrupt buffer is copied to the reader. -/
theorem copyToUser (e : Extension U) (offset number : Nat) :
    Guarded R e (e.copyToUser offset number) :=
  h.gtrans (h.rx hr e _ (by rfl)) (h.modify _ hr (by intro; rfl))

theorem addInformation (e : Extension U) (number : Nat) :
    Guarded R e (e.addInformation number) := h.modify e hr (by intro; rfl)

theorem copyWhole (e : Extension U) (number : Nat) : Guarded R e (e.copyWhole number) :=
  h.gtrans (h.copyToUser hr e _ _) (h.gtrans (h.rx hr _ _ (by rfl)) (h.addInformation hr _ _))

theorem copyRest (e : Extension U) (number first : Nat) :
    Guarded R e (e.copyRest number first) :=
  h.gtrans (h.copyToUser hr e _ _) (h.gtrans (h.rx hr _ _ (by rfl)) (h.addInformation hr _ _))

/-- `SerialGetCharsFromIntBuffer` -/
theorem getChars (e : Extension U) (number : Nat) : Guarded R e (e.getChars number) :=
  rel_ite (fun _ => h.grefl e) fun _ => rel_ite (fun _ => h.copyWhole hr e _) fun _ =>
    h.gtrans (h.copyToUser hr e _ _) (h.copyRest hr _ _ _)

theorem removeChars (e : Extension U) (n : Nat) : Guarded R e (e.removeChars n) :=
  h.drainTo hr e { e.rx with charsInInterruptBuffer := e.rx.charsInInterruptBuffer - n }
    ⟨rfl, rfl, Or.inl ⟨rfl, Nat.sub_le _ _⟩⟩

/-- `SerialUpdateInterruptBuffer`: the characters that were copied leave, and the sender may go on.
-/
theorem serialUpdateInterruptBuffer (e : Extension U) (n : Nat) :
    Guarded R e (e.serialUpdateInterruptBuffer n) :=
  h.gtrans (h.removeChars hr e n) (of_lock (h.lock.serialHandleReducedIntBuffer _))

/-- What has come in while `SerialStartRead` was copying. -/
theorem getCharsAgain (e : Extension U) : Guarded R e e.getCharsAgain :=
  h.gtrans (h.getChars hr e _) (h.serialUpdateInterruptBuffer hr _ _)

/-- `SerialUpdateAndSwitchToUser`: the ISR is pointed at the reader's buffer. -/
theorem switchToUser (e : Extension U) : Guarded R e e.switchToUser := by
  unfold Extension.switchToUser
  split
  · exact h.crash e
  · exact h.gtrans (h.drainTo hr e _ (by exact ⟨rfl, rfl, Or.inr (Or.inl rfl)⟩))
      (h.modify _ hr (by intro; rfl))

theorem resetRing (e : Extension U) : Guarded R e e.resetRing :=
  h.drainTo hr e _ ⟨rfl, rfl, Or.inr (Or.inr rfl)⟩

/-- `SerialGrabReadFromIsr`: the ISR is pointed back at the interrupt buffer. -/
theorem serialGrabReadFromIsr (e : Extension U) : Guarded R e e.serialGrabReadFromIsr :=
  rel_ite (fun _ => h.gtrans (h.modify e hr (by intro; rfl))
    (h.gtrans (h.resetRing hr _) (h.clearReference _ hr _))) (fun _ => h.grefl e)

/-- `SerialPurgeInterruptBuff` -/
theorem serialPurgeInterruptBuff (e : Extension U) : Guarded R e e.serialPurgeInterruptBuff :=
  rel_ite (fun _ => h.gtrans (h.gtrans (h.resetRing hr e) (h.stream hr _ _
    (by simp [Lib.Fifo.puts_append, Lib.Fifo.puts, Extension.resetRing])))
    (of_lock (h.lock.serialHandleReducedIntBuffer _))) (fun _ => h.grefl e)

theorem nextRead (e : Extension U) : Guarded R e e.nextRead :=
  h.gtrans (h.getNext e .readQueue (apart_read hr)) (h.goto hr _ _)

theorem succeedRead (e : Extension U) : Guarded R e e.succeedRead :=
  h.gtrans (h.modify e hr (by intro; rfl)) (h.nextRead hr _)

theorem setIntervalTime (e : Extension U) : Guarded R e e.setIntervalTime :=
  rel_ite (fun _ => h.rx hr e _ (by rfl)) (fun _ => h.grefl e)

omit h hr [Uart U] in
theorem not_of_slot_read {t : TimerId} (hr : ¬T .read) (ht : t.slot = some .read) (s : Slot)
    (hs : t.slot = some s) : ¬T s := by
  cases ht.symm.trans hs
  exact hr

/-- The first part of `SerialStartRead`: a resize, or the timeouts of a read. -/
theorem beginRead (e : Extension U) (r : Request) : Guarded R e (e.beginRead r) := by
  unfold Extension.beginRead
  split
  · exact h.gtrans (h.modify e hr (by intro; rfl))
      (rel_ite (fun _ => h.nextRead hr _) (fun _ => h.goto hr _ _))
  · exact h.gtrans (h.rx hr e _ (by rfl))
      (h.gtrans (h.serialCancelTimer _ (not_of_slot_read hr rfl) (by decide))
        (h.gtrans (h.serialCancelTimer _ (not_of_slot_read hr rfl) (by decide))
          (h.gtrans (h.setIntervalTime hr _) (h.goto hr _ _))))

theorem initRead (e : Extension U) (l : ReadStart) : Guarded R e (e.initRead l) :=
  rel_ite (fun _ => h.gtrans (h.rx hr e _ (by rfl)) (h.modify _ hr (by intro; rfl)))
    (fun _ => h.modify e hr (by intro; rfl))

/-- The read has got what it wanted, or it has to wait. -/
theorem succeedOrSwitch (e : Extension U) (l : ReadStart) : Guarded R e (e.succeedOrSwitch l) :=
  rel_ite (fun _ => h.succeedRead hr e)
    (fun _ => h.gtrans (h.switchToUser hr e) (h.goto hr _ _))

/-- The copy without the lock is done: the read succeeds, or looks once more under the lock. -/
theorem finishCopy (e : Extension U) (l : ReadStart) (n : Nat) (r : Request) :
    Guarded R e (e.finishCopy l n r) :=
  rel_ite (fun _ => h.gtrans (h.serialUpdateInterruptBuffer hr e n) (h.succeedRead hr _))
    fun _ => h.gtrans (h.initRead hr e l) (h.gtrans (h.serialUpdateInterruptBuffer hr _ n)
      (h.gtrans (h.getCharsAgain hr _) (h.succeedOrSwitch hr _ l)))

theorem armTotalTimer (e : Extension U) (l : ReadStart) : Guarded R e (e.armTotalTimer l) :=
  rel_ite (fun _ => h.setTimerWithReference e hr rfl _) (fun _ => h.grefl e)

theorem armIntervalTimer (e : Extension U) (l : ReadStart) :
    Guarded R e (e.armIntervalTimer l) :=
  rel_ite (fun _ => h.gtrans (h.rx hr e _ (by rfl)) (h.setTimerWithReference _ hr rfl _))
    (fun _ => h.grefl e)

/-- A read that waits gets its cancel routine and its timers. -/
theorem armRead (e : Extension U) (l : ReadStart) : Guarded R e (e.armRead l) :=
  h.gtrans (h.modify e hr (by intro; rfl))
    (h.gtrans (h.armTotalTimer hr _ l) (h.gtrans (h.armIntervalTimer hr _ l) (h.goto hr _ _)))

/-- `SerialStartRead`, one piece at a time. A new interrupt buffer is left to the relation, since it
changes the limits. -/
theorem serialStartReadStep (e : Extension U)
    (hresize : ∀ n buffer, e.pc = .moved n buffer → R e (e.serialUpdateAndSwitchToNew n buffer)) :
    Guarded R e e.serialStartReadStep := by
  have hgoto := h.goto hr
  unfold Extension.serialStartReadStep
  split
  · exact h.grefl e
  · exact h.crash e
  · exact h.beginRead hr e _
  · exact hgoto e _
  · exact rel_ite (fun _ => hgoto e _) fun _ => rel_ite
      (fun _ => h.gtrans (h.copyWhole hr e _) (hgoto _ _))
      (fun _ => h.gtrans (h.copyToUser hr e _ _) (hgoto _ _))
  · exact h.gtrans (h.copyRest hr e _ _) (hgoto _ _)
  · exact h.finishCopy hr e _ _ _
  · exact h.armRead hr e _
  · exact rel_ite (fun _ => hgoto e _) fun _ => rel_ite
      (fun _ => h.gtrans (h.rx hr e _ (by rfl)) (hgoto _ _)) (fun _ => hgoto e _)
  · exact h.gtrans (h.rx hr e _ (by rfl)) (hgoto _ _)
  · next hpc =>
    have hswitch : Guarded R e (e.serialUpdateAndSwitchToNew _ _) := fun ha =>
      ⟨accounted_serialUpdateAndSwitchToNew _ _ ha, hresize _ _ hpc⟩
    exact h.gtrans hswitch (h.nextRead hr _)

/-- The four routines that end a read differ in what they take from the ISR, in the status and in
the reference they give back. -/
theorem tryToCompleteRead (e : Extension U) {synch : Extension U → Extension U}
    (hsynch : ∀ e, Guarded R e (synch e)) (status : NtStatus) (ref : Ref) :
    Guarded R e (e.tryToCompleteRead synch status ref) :=
  h.serialTryToCompleteCurrent e (apart_read hr) hsynch
    (fun e => h.gtrans (h.getNext e .readQueue (apart_read hr))
      (h.startNew _ fun e => h.goto hr e _))
    (own_timer rfl) (own_timer rfl) status ref

theorem serialCompleteRead (e : Extension U) : Guarded R e e.serialCompleteRead :=
  h.gtrans (h.rx hr e _ (by rfl)) (h.tryToCompleteRead hr _ h.grefl _ _)

theorem serialCancelCurrentRead (e : Extension U) : Guarded R e e.serialCancelCurrentRead :=
  h.gtrans (h.rx hr e _ (by rfl)) (h.tryToCompleteRead hr _ (h.serialGrabReadFromIsr hr) _ _)

theorem serialReadTimeout (e : Extension U) : Guarded R e e.serialReadTimeout :=
  h.gtrans (h.rx hr e _ (by rfl)) (h.tryToCompleteRead hr _ (h.serialGrabReadFromIsr hr) _ _)

theorem rearmIntervalTimer (e : Extension U) : Guarded R e e.rearmIntervalTimer :=
  h.timer e _ (not_of_slot_read hr rfl) (by decide)

/-- `SerialIntervalReadTimeout`: the read goes on, or ends for one of three reasons. -/
theorem serialIntervalReadTimeout (e : Extension U) :
    Guarded R e e.serialIntervalReadTimeout := by
  have htry := fun status => h.tryToCompleteRead hr e (h.serialGrabReadFromIsr hr) status .intTimer
  have hrearm := h.rearmIntervalTimer hr
  refine rel_ite (fun _ => htry _) fun _ => rel_ite (fun _ => htry _) fun _ => rel_ite
    (fun _ => htry _) fun _ => rel_ite (fun _ => ?_) (fun _ => hrearm e)
  refine rel_ite (fun _ => ?_) fun _ => rel_ite (fun _ => htry _) (fun _ => hrearm e)
  exact h.gtrans (h.rx hr e _ (by rfl)) (h.gtrans (h.rx hr _ _ (by rfl)) (hrearm _))

end

/-! ### XOFF counters and writes -/

section
variable (hx : ¬T .xoff)
include hx

theorem setCountSinceXoff (e : Extension U) (n : Nat) : Guarded R e (e.setCountSinceXoff n) :=
  h.fields (fun s hs => by
    have hne := ne_of_not hx hs
    cases s <;> simp_all [SameData, Extension.setCountSinceXoff]) rfl rfl

/-- `SerialGrabXoffFromIsr` -/
theorem serialGrabXoffFromIsr (e : Extension U) : Guarded R e e.serialGrabXoffFromIsr :=
  rel_ite (fun _ => h.grefl e)
    (fun _ => h.gtrans (h.setCountSinceXoff hx e _) (h.clearReference _ hx _))

/-- A counter ends because it has run out, timed out or been cancelled. -/
theorem tryToCompleteXoff (e : Extension U) {synch : Extension U → Extension U}
    (hsynch : ∀ e, Guarded R e (synch e)) (status : NtStatus) {total : Option TimerId}
    (ht : ∀ t, total = some t → t.slot = some .xoff) (ref : Ref) :
    Guarded R e (e.tryToCompleteXoff synch status total ref) :=
  h.serialTryToCompleteCurrent e (apart_xoff hx) hsynch
    (fun e => h.completeCurrent e (apart_xoff hx)) no_timer ht status ref

theorem serialCompleteXoff (e : Extension U) : Guarded R e e.serialCompleteXoff :=
  h.tryToCompleteXoff hx e h.grefl _ (own_timer rfl) _

theorem serialTimeoutXoff (e : Extension U) : Guarded R e e.serialTimeoutXoff :=
  h.tryToCompleteXoff hx e (h.serialGrabXoffFromIsr hx) _ no_timer _

theorem serialCancelCurrentXoff (e : Extension U) : Guarded R e e.serialCancelCurrentXoff :=
  h.tryToCompleteXoff hx e (h.serialGrabXoffFromIsr hx) _ (own_timer rfl) _

/-- A write that starts puts an end to the counter. -/
theorem killXoff (e : Extension U) : Guarded R e e.killXoff := by
  unfold Extension.killXoff
  split
  · exact h.grefl e
  · refine rel_ite (fun _ => h.grefl e) fun _ => ?_
    exact h.gtrans (h.modify e hx (by intro; rfl))
      (h.tryToCompleteXoff hx _ (h.serialGrabXoffFromIsr hx) _ slot_xoffCount _)

theorem armXoffTimer (e : Extension U) (timeout : Nat) : Guarded R e (e.armXoffTimer timeout) :=
  rel_ite (fun _ => h.grefl e) (fun _ => h.setTimerWithReference e hx rfl _)

/-- `SerialGiveXoffToIsr`: the ISR counts from here on. -/
theorem serialGiveXoffToIsr (e : Extension U) (counter : Nat) :
    Guarded R e (e.serialGiveXoffToIsr counter) :=
  h.gtrans (h.setCountSinceXoff hx e _) (h.modify _ hx (by intro; rfl))

end

theorem addCharsQueued (e : Extension U) (n : Int) : Guarded R e (e.addCharsQueued n) :=
  h.fields (fun s _ => (Same.refl s e).data) rfl rfl

/-- With no write left the transmitter may be empty. -/
theorem emptyTransmitIfNone (e : Extension U) : Guarded R e e.emptyTransmitIfNone :=
  rel_ite (fun _ => h.grefl e) (fun _ => of_lock (h.lock.serialProcessEmptyTransmit e))

/-- The transmitter is tickled if it is idle. -/
theorem startTransmit (e : Extension U) : Guarded R e e.startTransmit :=
  rel_ite (fun _ => of_lock (h.lock.retickle e)) (fun _ => h.grefl e)

section
variable (hw : ¬T .write)
include hw

omit h [Uart U] in
/-- Only the write slot has to do with these fields. -/
theorem same_writeFields (e : Extension U) (n : Nat) (memory : List UInt8) (w : List Wire)
    (s : Slot) (hs : T s) : SameData e
      { e with tx := { e.tx with writeLength := n, writeCurrentChar := memory }, wire := w } s := by
  have hne := ne_of_not hw hs
  cases s <;> simp_all [SameData]

/-- The ISR gets the data of a write. -/
theorem giveWrite (e : Extension U) (r : Request) : Guarded R e (e.giveWrite r) :=
  h.fields (same_writeFields hw e _ _ _) rfl rfl

theorem setWriteLength (e : Extension U) (n : Nat) : Guarded R e (e.setWriteLength n) :=
  h.fields (same_writeFields hw e n _ _) rfl rfl

theorem serialGiveWriteToIsr (e : Extension U) : Guarded R e e.serialGiveWriteToIsr := by
  unfold Extension.serialGiveWriteToIsr
  split
  · exact h.crash e
  · next r _ =>
    exact h.gtrans (h.giveWrite hw e r) (h.gtrans (h.modify _ hw (by intro; rfl))
      (h.gtrans (h.startTransmit _) (of_lock (h.lock.raiseRtsInToggle _))))

/-- `SerialGrabWriteFromIsr`: what is left is no longer sent. -/
theorem serialGrabWriteFromIsr (e : Extension U) : Guarded R e e.serialGrabWriteFromIsr :=
  rel_ite (fun _ => h.grefl e) fun _ => h.gtrans (h.modify e hw (by intro; rfl))
    (h.gtrans (h.clearReference _ hw _) (h.setWriteLength hw _ _))

variable (hx : ¬T .xoff)
include hx

/-- An XOFF counter leaves the write slot for its own; one that is there is left to itself. -/
theorem moveToXoff {e : Extension U} {r : Request} (hr : e.current .write = some r)
    (hbody : Slot.xoff.serves r.body = true) : Guarded R e (e.moveToXoff r) := by
  refine fun ha => ⟨ha.move (by decide) hr rfl hbody (ha.served .xoff),
    h.same _ _ (fun s hs => ?_) rfl⟩
  have hleft : Same s e { e with abandoned := e.abandoned ++ (e.current .xoff).toList } := by
    have hne := ne_of_not hx hs
    exact Same.of_fields rfl rfl (by cases s <;> simp_all [SameData])
  exact hleft.trans ((Same.setCurrent _ _ (ne_of_not hw hs)).trans
    (Same.setCurrent _ _ (ne_of_not hx hs)))

/-- An XOFF counter that has been sent is held, any other request stays where it is. -/
theorem holdIfXoff {e : Extension U} {r : Request} (hr : e.current .write = some r) :
    Guarded R e (e.holdIfXoff r) := by
  unfold Extension.holdIfXoff
  split
  · next hbody =>
    refine rel_ite (fun _ => h.grefl e) fun _ => ?_
    exact h.gtrans (h.moveToXoff hw hx hr (by rw [hbody]; rfl))
      (h.gtrans (h.serialGiveXoffToIsr hx _ _) (h.armXoffTimer hx _ _))
  · exact h.grefl e

theorem serialStartWrite (e : Extension U) : Guarded R e e.serialStartWrite :=
  h.gtrans (h.killXoff hx e) (h.gtrans (h.initRequest _ hw)
    (h.gtrans (h.armWriteTimer _ hw rfl) (h.serialGiveWriteToIsr hw _)))

/-- `SerialGetNextWrite`: an XOFF counter is held, and the next request is fetched. -/
theorem serialGetNextWrite (e : Extension U) : Guarded R e e.serialGetNextWrite := by
  unfold Extension.serialGetNextWrite
  split
  · exact h.crash e
  · next r hr =>
    have hr' : (e.addCharsQueued (-charsQueued r)).current .write = some r := hr
    exact h.gtrans (h.addCharsQueued e _) (h.gtrans (h.holdIfXoff hw hx hr')
      (h.gtrans (h.getNext _ .writeQueue (apart_write hw hx)) (h.emptyTransmitIfNone _)))

/-- The routines that end a write. -/
theorem tryToCompleteWrite (e : Extension U) {synch : Extension U → Extension U}
    (hsynch : ∀ e, Guarded R e (synch e)) (status : NtStatus) (ref : Ref) :
    Guarded R e (e.tryToCompleteWrite synch status ref) :=
  h.serialTryToCompleteCurrent e (apart_write hw hx) hsynch
    (fun e => h.gtrans (h.serialGetNextWrite hw hx e) (h.startNew _ (h.serialStartWrite hw hx)))
    no_timer (own_timer rfl) status ref

theorem serialCompleteWrite (e : Extension U) : Guarded R e e.serialCompleteWrite :=
  h.tryToCompleteWrite hw hx e h.grefl _ _

theorem serialCancelCurrentWrite (e : Extension U) : Guarded R e e.serialCancelCurrentWrite :=
  h.tryToCompleteWrite hw hx e (h.serialGrabWriteFromIsr hw) _ _

theorem serialWriteTimeout (e : Extension U) : Guarded R e e.serialWriteTimeout :=
  h.tryToCompleteWrite hw hx e (h.serialGrabWriteFromIsr hw) _ _

end

/-! ### Immediate characters -/

section
variable (hi : ¬T .immediate)
include hi

omit h [Uart U] in
/-- Only the immediate slot has to do with these fields. -/
theorem same_immediateFields (e : Extension U) (b : Bool) (c : UInt8) (s : Slot) (hs : T s) :
    SameData e { e with tx := { e.tx with transmitImmediate := b, immediateChar := c } } s := by
  have hne := ne_of_not hi hs
  cases s <;> simp_all [SameData]

theorem giveImmediate (e : Extension U) (c : UInt8) : Guarded R e (e.giveImmediate c) :=
  h.fields (same_immediateFields hi e _ _) rfl rfl

theorem dropImmediate (e : Extension U) : Guarded R e e.dropImmediate :=
  h.fields (same_immediateFields hi e _ _) rfl rfl

omit hi in
theorem startImmediate (e : Extension U) : Guarded R e e.startImmediate :=
  rel_ite (fun _ => of_lock (h.lock.retickle e)) (fun _ => h.grefl e)

theorem serialGiveImmediateToIsr (e : Extension U) (c : UInt8) :
    Guarded R e (e.serialGiveImmediateToIsr c) :=
  h.gtrans (h.giveImmediate hi e c) (h.gtrans (h.modify _ hi (by intro; rfl))
    (h.startImmediate _))

theorem serialGrabImmediateFromIsr (e : Extension U) : Guarded R e e.serialGrabImmediateFromIsr :=
  rel_ite (fun _ => h.gtrans (h.dropImmediate hi e) (h.clearReference _ hi _))
    (fun _ => h.grefl e)

/-- `SerialStartImmediate` -/
theorem serialStartImmediate (e : Extension U) (c : UInt8) :
    Guarded R e (e.serialStartImmediate c) :=
  h.gtrans (h.modify e hi (by intro; rfl)) (h.gtrans (h.initRequest _ hi)
    (h.gtrans (h.armWriteTimer _ hi rfl) (h.serialGiveImmediateToIsr hi _ c)))

/-- `SerialGetNextImmediate` has no queue to look at. -/
theorem serialGetNextImmediate (e : Extension U) : Guarded R e e.serialGetNextImmediate := by
  unfold Extension.serialGetNextImmediate
  split
  · exact h.crash e
  · next r hr =>
    intro ha
    have hcount := (h.addCharsQueued e (-1) ha).1
    have hempty := h.lock.serialProcessEmptyTransmit ((e.addCharsQueued (-1)).setCurrent .immediate none)
    refine ⟨(hcount.complete (r := r) hr rfl).of_effect (hempty.1.complete r), ?_⟩
    have hsame : R e ((e.addCharsQueued (-1)).setCurrent .immediate none) := by
      refine h.same _ _ (fun t ht => ?_) rfl
      have hcount : Same t e (e.addCharsQueued (-1)) :=
        Same.of_fields rfl rfl (Same.refl t e).data
      exact hcount.trans (Same.setCurrent _ _ (ne_of_not hi ht))
    refine h.trans hsame (h.trans hempty.2
      (h.same _ _ (fun t ht => ?_) (shared_serialCompleteRequest r _)))
    exact Same.complete _ ((apart_immediate hi).2 r.body (ha.served _ r hr) t ht)

/-- The routines that end an immediate character. -/
theorem tryToCompleteImmediate (e : Extension U) {synch : Extension U → Extension U}
    (hsynch : ∀ e, Guarded R e (synch e)) (status : NtStatus) (ref : Ref) :
    Guarded R e (e.tryToCompleteImmediate synch status ref) :=
  h.serialTryToCompleteCurrent e (apart_immediate hi) hsynch (h.serialGetNextImmediate hi)
    no_timer (own_timer rfl) status ref

theorem serialCompleteImmediate (e : Extension U) : Guarded R e e.serialCompleteImmediate :=
  h.tryToCompleteImmediate hi e h.grefl _ _

theorem serialCancelImmediate (e : Extension U) : Guarded R e e.serialCancelImmediate :=
  h.tryToCompleteImmediate hi e (h.serialGrabImmediateFromIsr hi) _ _

theorem serialTimeoutImmediate (e : Extension U) : Guarded R e e.serialTimeoutImmediate :=
  h.tryToCompleteImmediate hi e (h.serialGrabImmediateFromIsr hi) _ _

end

/-! ### Wait masks -/

section
variable (hw : ¬T .wait)
include hw

/-- The events change, but not what comm errors have accumulated. -/
theorem ev (e : Extension U) (v : Events) (hv : v.errorWord = e.ev.errorWord)
    (hm : T .mask → v.historyMask = e.ev.historyMask ∧ v.isrWaitMask = e.ev.isrWaitMask) :
    Guarded R e { e with ev := v } :=
  h.fields (fun s hs => by
    have hne := ne_of_not hw hs
    cases s <;> simp_all [SameData]) (by simp only [shared, lines, stored, hv]) rfl

theorem insertCommWait (e : Extension U) : Guarded R e (e.serialInsertQueueDpc .commWait) :=
  h.dpc e true (fun s hs => by cases hs; exact hw) (by decide)

theorem setMaskLocation (e : Extension U) (b : Bool) : Guarded R e (e.setMaskLocation b) :=
  h.ev hw e _ (by rfl) fun _ => ⟨by rfl, by rfl⟩

/-- `SerialFinishOldWait`: a new mask ends the wait for the old one. -/
theorem serialFinishOldWait (e : Extension U) (mask : UInt32) (hm : ¬T .mask) :
    Guarded R e (e.serialFinishOldWait mask) :=
  h.gtrans (rel_ite (fun _ => h.gtrans (h.setMaskLocation hw e _)
      (h.gtrans (h.modify _ hw (by intro; rfl)) (h.insertCommWait hw _))) (fun _ => h.grefl e))
    (h.ev hw _ _ (by rfl) fun hT => absurd hT hm)

theorem giveWait (e : Extension U) : Guarded R e e.giveWait :=
  h.fields (fun s hs => by
    have hne := ne_of_not hw hs
    cases s <;> simp_all [SameData, Extension.giveWait]) rfl rfl

/-- What has happened already ends the wait at once. -/
theorem answerFromHistory (e : Extension U) (hm : ¬T .mask) : Guarded R e e.answerFromHistory :=
  h.gtrans (h.ev hw e _ (by rfl) fun hT => absurd hT hm) (h.gtrans (h.modify _ hw (by intro; rfl)) (h.insertCommWait hw _))

/-- `SerialGiveWaitToIsr` -/
theorem serialGiveWaitToIsr (e : Extension U) (hm : ¬T .mask) :
    Guarded R e e.serialGiveWaitToIsr :=
  rel_ite (fun _ => h.gtrans (h.modify e hw (by intro; rfl)) (h.giveWait hw _))
    (fun _ => h.gtrans (h.modify e hw (by intro; rfl)) (h.answerFromHistory hw _ hm))

theorem serialGrabWaitFromIsr (e : Extension U) : Guarded R e e.serialGrabWaitFromIsr :=
  rel_ite (fun _ => h.gtrans (h.setMaskLocation hw e _) (h.gtrans (h.modify _ hw (by intro; rfl))
    (h.clearReference _ hw _))) (fun _ => h.grefl e)

omit h [Uart U] hw in
/-- Giving a wait to the ISR leaves the mask slot alone. -/
theorem current_mask_serialGiveWaitToIsr (e : Extension U) :
    e.serialGiveWaitToIsr.current .mask = e.current .mask := by
  unfold Extension.serialGiveWaitToIsr
  split <;> simp [Extension.giveWait, Extension.answerFromHistory, serialInsertQueueDpc,
    current_modifyCurrent]

/-- The routines that end a wait. -/
theorem tryToCompleteWait (e : Extension U) {synch : Extension U → Extension U}
    (hsynch : ∀ e, Guarded R e (synch e)) (status : NtStatus) (ref : Ref) :
    Guarded R e (e.tryToCompleteWait synch status ref) :=
  h.serialTryToCompleteCurrent e (apart_wait hw) hsynch
    (fun e => h.completeCurrent e (apart_wait hw)) no_timer no_timer status ref

theorem serialCompleteWait (e : Extension U) : Guarded R e e.serialCompleteWait :=
  h.tryToCompleteWait hw e h.grefl _ _

theorem serialCancelWait (e : Extension U) : Guarded R e e.serialCancelWait :=
  h.tryToCompleteWait hw e (h.serialGrabWaitFromIsr hw) _ _

variable (hm : ¬T .mask)
include hm

theorem nextMask (e : Extension U) (status : NtStatus) : Guarded R e (e.nextMask status) :=
  h.gtrans (h.modify e hm (by intro; rfl)) (h.getNext _ .maskQueue (apart_mask hm hw))

/-- The request to wait moves to its own slot, which is empty. -/
theorem startWait {e : Extension U} {r : Request} (hr : e.current .mask = some r)
    (hbody : Slot.wait.serves r.body = true) (hnone : e.current .wait = none) :
    Guarded R e (e.startWait r) := by
  have hgetNext : ∀ e : Extension U, e.current .mask = none →
      Guarded R e (e.serialGetNextRequest .mask .maskQueue false) := by
    intro e hmask ha
    refine ⟨ha.getNext_of_none (q := .maskQueue) false hmask, h.same _ _ (fun t ht => ?_)
      (shared_serialGetNextRequest ..)⟩
    unfold serialGetNextRequest
    rw [hmask]
    exact same_retrieve (q := .maskQueue) e (ne_of_not hm ht)
  have hmove : Guarded R e ((e.setCurrent .mask none).setCurrent .wait
      (some { r with refCount := .zero }.serialSetCancelRoutine)) := by
    refine fun ha => ⟨?_, h.same _ _ (fun t ht => (Same.setCurrent e _ (ne_of_not hm ht)).trans
      (Same.setCurrent _ _ (ne_of_not hw ht))) rfl⟩
    have hident : { r with refCount := .zero }.serialSetCancelRoutine.ident = r.ident := rfl
    have hacc := ha.move (t := .wait) (by decide) hr hident hbody
      fun r₀ h₀ => by rw [hnone] at h₀; cases h₀
    rwa [hnone, Option.toList_none, List.append_nil] at hacc
  refine h.gtrans hmove (h.gtrans (h.serialGiveWaitToIsr hw _ hm) (hgetNext _ ?_))
  rw [current_mask_serialGiveWaitToIsr, current_setCurrent, current_setCurrent]
  rfl

/-- One round of the loop of `SerialStartMask`. -/
theorem startMaskOne (e : Extension U) : Guarded R e e.startMaskOne := by
  unfold Extension.startMaskOne
  split
  · exact h.crash e
  · next r hr =>
    split
    · exact h.gtrans (h.serialFinishOldWait hw e _ hm) (h.nextMask hw hm _ _)
    · next hbody =>
      refine rel_ite (fun _ => h.nextMask hw hm e _) fun hfree => ?_
      intro ha
      simp only [Bool.or_eq_true, not_or, Bool.not_eq_true, Option.isSome_eq_false_iff,
        Option.isNone_iff_eq_none] at hfree
      exact h.startWait hw hm hr (serves_wait (ha.served .mask r hr) hbody) hfree.2 ha

/-- By induction on the rounds. -/
theorem startMaskLoop (n : Nat) (e : Extension U) : Guarded R e (startMaskLoop n e) := by
  induction n generalizing e with
  | zero => exact h.grefl e
  | succ n ih => exact h.gtrans (h.startMaskOne hw hm e) (h.startNew _ ih)

theorem serialStartMask (e : Extension U) : Guarded R e e.serialStartMask :=
  h.startMaskLoop hw hm _ e

end

end CallbackRule

/-! ## Purges -/

/-- `R` contains each of the things that a purge may ask for. -/
structure Aborts [Uart U] (R : Extension U → Extension U → Prop) : Prop where
  writes : ∀ e, Guarded R e e.abortWrites
  xoff : ∀ e, Guarded R e e.abortXoff
  reads : ∀ e, Guarded R e e.abortReads
  buffer : ∀ e, Guarded R e e.serialPurgeInterruptBuff

namespace CallbackRule

variable [Uart U] {T : Slot → Prop} {R : Extension U → Extension U → Prop} (h : CallbackRule T R)
include h

theorem abortWrites (hw : ¬T .write) (hx : ¬T .xoff) (e : Extension U) : Guarded R e e.abortWrites :=
  h.serialFlushRequests e (q := .writeQueue) hw hw (h.serialCancelCurrentWrite hw hx)

theorem abortXoff (hw : ¬T .write) (hx : ¬T .xoff) (e : Extension U) : Guarded R e e.abortXoff :=
  h.serialFlushRequests e (q := .writeQueue) hw hx (h.serialCancelCurrentXoff hx)

theorem abortReads (hr : ¬T .read) (e : Extension U) : Guarded R e e.abortReads :=
  h.serialFlushRequests e (q := .readQueue) hr hr (h.serialCancelCurrentRead hr)

/-- A relation about other slots contains all that a purge may ask for. -/
theorem aborts (hr : ¬T .read) (hw : ¬T .write) (hx : ¬T .xoff) : Aborts R :=
  ⟨h.abortWrites hw hx, h.abortXoff hw hx, h.abortReads hr, h.serialPurgeInterruptBuff hr⟩

section
variable (ha : Aborts R)
include ha

theorem serialCommError (e : Extension U) : Guarded R e e.serialCommError :=
  h.gtrans (ha.writes e) (ha.reads _)

/-- The parts of the mask are handled one after the other. -/
theorem purge (e : Extension U) (r : Request) : Guarded R e (e.purge r) := by
  unfold Extension.purge
  split
  · next mask _ =>
    have htx : Guarded R e (e.purgeTx mask) :=
      rel_ite (fun _ => h.gtrans (ha.writes e) (ha.xoff _)) (fun _ => h.grefl e)
    have hrx : Guarded R (e.purgeTx mask) ((e.purgeTx mask).purgeRx mask) :=
      rel_ite (fun _ => ha.reads _) (fun _ => h.grefl _)
    exact h.gtrans htx (h.gtrans hrx (rel_ite (fun _ => ha.buffer _) (fun _ => h.grefl _)))
  · exact h.grefl e

variable (hp : ¬T .purge)
include hp

/-- One round of the loop of `SerialStartPurge`. -/
theorem startPurgeOne (e : Extension U) : Guarded R e e.startPurgeOne := by
  unfold Extension.startPurgeOne
  split
  · exact h.crash e
  · exact h.gtrans (h.gtrans (h.purge ha e _) (h.modify _ hp (by intro; rfl)))
      (h.getNext _ .purgeQueue (apart_purge hp))

/-- By induction on the rounds. -/
theorem startPurgeLoop (n : Nat) (e : Extension U) : Guarded R e (startPurgeLoop n e) := by
  induction n generalizing e with
  | zero => exact h.grefl e
  | succ n ih => exact h.gtrans (h.startPurgeOne ha hp e) (h.startNew _ ih)

theorem serialStartPurge (e : Extension U) : Guarded R e e.serialStartPurge :=
  h.startPurgeLoop ha hp _ e

end

end CallbackRule

end SerialFc
