import SerialFc.Lib.Simulation
import SerialFc.Lib.Latch
import SerialFc.Properties.Discipline
import SerialFc.Properties.Endings
import SerialFc.Properties.EventRule

/-!
# The wait mask is an event latch

`IsrWaitMask`, `HistoryMask`, `IrpMaskLocation` and the request to wait together are the latch of
`Lib.Latch`, with the bits of the masks for events.

* `Shows` — the driver is in the state of a latch
* `latches_eventRule` — code under the interrupt lock only lets events happen
* `simulated_step` — each step is a few operations of the latch, of the kind its label permits
* `event_bookkeeping` — so is each run, and every event that was latched is reported at most once
-/

namespace SerialFc

open Extension Lib

variable {U : Type}

/-! ## Masks as sets of events -/

/-- The events of a mask, by their bits. -/
def bits (m : UInt32) : Set Nat := {i | m.toNat.testBit i = true}

theorem bits_or (a b : UInt32) : bits (a ||| b) = bits a ∪ bits b := by
  ext i
  simp [bits, UInt32.toNat_or, Nat.testBit_or]

theorem bits_and (a b : UInt32) : bits (a &&& b) = bits a ∩ bits b := by
  ext i
  simp [bits, UInt32.toNat_and, Nat.testBit_and]

theorem bits_zero : bits 0 = ∅ := by
  ext i
  simp [bits]

theorem bits_eq_empty {m : UInt32} : bits m = ∅ ↔ m = 0 := by
  constructor
  · intro h
    apply UInt32.toNat_inj.mp
    apply Nat.eq_of_testBit_eq
    intro i
    have hi : i ∉ bits m := by
      rw [h]
      exact Set.notMem_empty i
    simpa [bits] using hi
  · rintro rfl
    exact bits_zero

/-- A mask of one bit. -/
def Single (m : UInt32) : Prop := ∃ k, m.toNat = 2 ^ k

theorem bits_subset_of_has32 {mask event : UInt32} (hsingle : Single event)
    (h : has32 mask event = true) : bits event ⊆ bits mask := by
  obtain ⟨k, hk⟩ := hsingle
  have hevent : bits event = {k} := by
    ext i
    rw [bits, Set.mem_ofPred_eq, hk, Nat.testBit_two_pow, Set.mem_singleton_iff, decide_eq_true_eq]
    exact eq_comm
  have hne : bits (mask &&& event) ≠ ∅ := by
    intro hempty
    rw [bits_eq_empty] at hempty
    simp [has32, hempty] at h
  rw [bits_and, hevent] at hne
  rw [hevent, Set.singleton_subset_iff]
  by_contra hk
  exact hne (Set.inter_singleton_eq_empty.mpr hk)

/-! ## The latch -/

/-- What the completed requests to wait were told. -/
def Extension.reports (e : Extension U) : List (Set Nat) :=
  (e.done.filter Request.reported).map fun r => bits (r.eventMask.getD 0)

/-- The request to wait, as somebody who waits at a latch. -/
def Extension.Waits (e : Extension U) : Waiter Nat → Prop
  | .idle => e.current .wait = none ∧ e.ev.irpMaskLocation = false
  | .waiting => (e.current .wait).isSome = true ∧ e.ev.irpMaskLocation = true
  | .told s => e.ev.irpMaskLocation = false ∧ ∃ r m, e.current .wait = some r ∧
      r.eventMask = some m ∧ s = bits m ∧ r.information = 4

/-- The driver is in the state of the latch `l`. -/
structure Extension.Shows (e : Extension U) (l : Latch Nat) : Prop where
  enabled : l.enabled = bits e.ev.isrWaitMask
  pending : l.pending = bits e.ev.historyMask
  waiter : e.Waits l.waiter
  reports : l.reports = e.reports
  /-- What is reported is a whole event word. -/
  words : ∀ r ∈ e.done.filter Request.reported, r.information = 4

/-- What a request to wait will tell its sender. -/
def Request.answer (r : Request) : Option UInt32 × Nat := (r.eventMask, r.information)

section
variable {e e' : Extension U} {l : Latch Nat}

theorem Extension.Shows.congr (h : e.Shows l) (hmasks : e'.ev.masks = e.ev.masks)
    (hcur : (e'.current .wait).map Request.answer = (e.current .wait).map Request.answer)
    (hdone : e'.done.filter Request.reported = e.done.filter Request.reported) : e'.Shows l := by
  simp only [Events.masks, Prod.mk.injEq] at hmasks
  obtain ⟨hmask, hhistory, hlocation⟩ := hmasks
  refine ⟨by rw [hmask]; exact h.enabled, by rw [hhistory]; exact h.pending, ?_,
    h.reports.trans (by rw [Extension.reports, Extension.reports, hdone]),
    by rw [hdone]; exact h.words⟩
  have hw := h.waiter
  revert hw
  cases l.waiter with
  | idle =>
    intro hw
    refine ⟨?_, hlocation.trans hw.2⟩
    rw [hw.1, Option.map_none, Option.map_eq_none_iff] at hcur
    exact hcur
  | waiting =>
    intro hw
    refine ⟨?_, hlocation.trans hw.2⟩
    have hsome := congrArg Option.isSome hcur
    rw [Option.isSome_map, Option.isSome_map] at hsome
    exact hsome.trans hw.1
  | told s =>
    rintro ⟨hloc, r, m, hr, hm, hs, hinfo⟩
    rw [hr, Option.map_some] at hcur
    obtain ⟨r', hr', hsame⟩ := Option.map_eq_some_iff.mp hcur
    simp only [Request.answer, Prod.mk.injEq] at hsame
    exact ⟨hlocation.trans hloc, r', m, hr', hsame.1.trans hm, hs, hsame.2.trans hinfo⟩

theorem Extension.Shows.of_told (h : e.Shows l) (htold : e'.told = e.told) : e'.Shows l := by
  simp only [told, Prod.mk.injEq] at htold
  exact h.congr htold.1 (by rw [htold.2.1]) htold.2.2

/-- The marks of the agents tell nothing. -/
theorem Extension.Shows.bookkeeping (h : e.Shows l) {s : Slot} (hb : Bookkeeping s e e') :
    e'.Shows l := by
  refine h.congr (by rw [hb.rest]) ?_ (by rw [hb.done])
  by_cases hs : s = .wait
  · subst hs
    have hdata := congrArg (Option.map Request.answer) hb.data
    rwa [Option.map_map, Option.map_map] at hdata
  · rw [hb.other .wait (Ne.symm hs)]

end

/-- Events happen. -/
def IsHappen (op : LatchOp Nat) : Prop := ∃ s, op = .happen s

/-- Whatever latch is shown at first, operations that `may` permits lead to one that is shown
afterwards. -/
def Latches (may : LatchOp Nat → Prop) (e e' : Extension U) : Prop :=
  ∀ l, e.Shows l → Matched Latch.step may e'.Shows l

namespace Latches

variable {may : LatchOp Nat → Prop} {e e' e'' : Extension U}

theorem trans (h : Latches may e e') (h' : Latches may e' e'') : Latches may e e'' :=
  fun l hl => (h l hl).trans h'

theorem told (h : e'.told = e.told) : Latches may e e' :=
  fun _ hl => Matched.none (hl.of_told h)

theorem mono {may' : LatchOp Nat → Prop} (h : Latches may e e') (himp : ∀ op, may op → may' op) :
    Latches may' e e' :=
  fun l hl => (h l hl).mono himp fun _ => id

end Latches

/-! ## Events happen -/

/-- The request to wait that the ISR knows of is told about the events. -/
theorem shows_answerWait {e : Extension U} {l : Latch Nat} (h : e.Shows l)
    (hwait : l.waiter = .waiting) (latched : List (Set Nat)) :
    e.answerWait.Shows { l with waiter := .told l.pending, pending := ∅, latched := latched } := by
  have hw := h.waiter
  rw [hwait] at hw
  obtain ⟨r, hr⟩ := Option.isSome_iff_exists.mp hw.1
  let e₀ : Extension U := { e with ev := { e.ev with irpMaskLocation := false, historyMask := 0 } }
  let r' : Request := { r with eventMask := some e.ev.historyMask, information := 4 }
  have hset : (e₀.setCurrent .wait (some r')).current .wait = some r' := by
    rw [current_setCurrent, if_pos rfl]
  unfold answerWait
  rw [modifyCurrent_of_some (e := e₀) _ hr]
  exact ⟨h.enabled, bits_zero.symm, ⟨rfl, r', e.ev.historyMask, hset, rfl, h.pending, rfl⟩,
    h.reports, h.words⟩

/-- **Events that are enabled happen**, and are told at once if somebody waits. -/
theorem latches_addHistory (e : Extension U) {m : UInt32} (hm : bits m ⊆ bits e.ev.isrWaitMask) :
    Latches IsHappen e (e.addHistory m).answerWaitIfDue := by
  intro l hl
  have hstep : Latch.step (.happen (bits m)) l = some (l.happen (bits m)) :=
    if_pos (by rw [hl.enabled]; exact hm)
  refine Matched.one ⟨bits m, rfl⟩ hstep ?_
  have hhistory : bits (e.addHistory m).ev.historyMask = l.pending ∪ bits m := by
    rw [hl.pending]
    exact bits_or _ _
  have hadded (latched : List (Set Nat)) : (e.addHistory m).Shows
      { l with pending := l.pending ∪ bits m, latched := latched } :=
    ⟨hl.enabled, hhistory.symm, hl.waiter, hl.reports, hl.words⟩
  have hdue : ((e.addHistory m).ev.irpMaskLocation && (e.addHistory m).ev.historyMask != 0) = true ↔
      e.ev.irpMaskLocation = true ∧ l.pending ∪ bits m ≠ ∅ := by
    rw [Bool.and_eq_true, bne_iff_ne, Ne, Ne, ← hhistory, bits_eq_empty]
    exact Iff.rfl
  have hw := hl.waiter
  unfold answerWaitIfDue
  by_cases hwait : l.waiter = .waiting
  · rw [hwait] at hw
    by_cases hnone : l.pending ∪ bits m = ∅
    · rw [if_neg (by rw [hdue]; exact fun h => h.2 hnone), Latch.happen_of_empty hwait hnone]
      have hsame := hadded l.latched
      rwa [hnone, ← (Set.union_empty_iff.mp hnone).1] at hsame
    · rw [if_pos (by rw [hdue]; exact ⟨hw.2, hnone⟩), Latch.happen_of_waiting hwait hnone]
      exact shows_answerWait (hadded l.latched) hwait _
  · have hnobody : e.ev.irpMaskLocation = false := by
      cases hcase : l.waiter with
      | waiting => exact absurd hcase hwait
      | idle =>
        rw [hcase] at hw
        exact hw.2
      | told s =>
        rw [hcase] at hw
        exact hw.1
    rw [if_neg (by rw [hdue, hnobody]; exact fun h => Bool.false_ne_true h.1),
      Latch.happen_of_nobody hwait]
    exact hadded _

/-! ## The event sources -/

/-- The event, if it is enabled and has happened. -/
def Extension.eventIf (e : Extension U) (event : UInt32) (happened : Bool) : UInt32 :=
  if has32 e.ev.isrWaitMask event && happened then event else 0

theorem addEvent_eq (e : Extension U) (event : UInt32) (happened : Bool) :
    e.addEvent event happened = e.addHistory (e.eventIf event happened) := by
  unfold addEvent eventIf
  split
  · rfl
  · simp [addHistory]

theorem addHistory_addHistory (e : Extension U) (m m' : UInt32) :
    (e.addHistory m).addHistory m' = e.addHistory (m ||| m') := by
  simp [addHistory, UInt32.or_assoc]

theorem bits_eventIf_subset (e : Extension U) {event : UInt32} (hsingle : Single event)
    (happened : Bool) : bits (e.eventIf event happened) ⊆ bits e.ev.isrWaitMask := by
  unfold eventIf
  split
  · next h =>
    rw [Bool.and_eq_true] at h
    exact bits_subset_of_has32 hsingle h.1
  · rw [bits_zero]
    exact Set.empty_subset _

theorem bits_or_subset {a b m : UInt32} (ha : bits a ⊆ bits m) (hb : bits b ⊆ bits m) :
    bits (a ||| b) ⊆ bits m := by
  rw [bits_or]
  exact Set.union_subset ha hb

/-- An event that leaves the history non-empty is due if anybody waits. -/
theorem answerWaitIfWaiting_eq (e : Extension U) {m : UInt32} (hm : m ≠ 0) :
    (e.addHistory m).answerWaitIfWaiting = (e.addHistory m).answerWaitIfDue := by
  have hne : (e.addHistory m).ev.historyMask ≠ 0 := by
    intro hzero
    have hbits := congrArg bits hzero
    rw [bits_zero, show bits (e.addHistory m).ev.historyMask = _ from bits_or _ _,
      Set.union_empty_iff, bits_eq_empty, bits_eq_empty] at hbits
    exact hm hbits.2
  unfold answerWaitIfWaiting answerWaitIfDue
  rw [bne_iff_ne.mpr hne, Bool.and_true]

theorem latches_event (e : Extension U) {event : UInt32} (hsingle : Single event)
    (h : has32 e.ev.isrWaitMask event = true) :
    Latches IsHappen e (e.addHistory event).answerWaitIfWaiting := by
  have hne : event ≠ 0 := by
    rintro rfl
    simp [has32] at h
  rw [answerWaitIfWaiting_eq e hne]
  exact latches_addHistory e (bits_subset_of_has32 hsingle h)

/-- **Code under the interrupt lock only lets events happen.** -/
theorem latches_eventRule [Uart U] : EventRule (U := U) (Latches IsHappen) where
  trans h h' := h.trans h'
  told _ _ h := .told h
  raise80Full e := by
    unfold raise80Full
    split
    · next h =>
      rw [Bool.and_eq_true] at h
      exact latches_event e ⟨10, by decide⟩ h.2
    · exact .told rfl
  receiveEvents c e := by
    unfold receiveEvents
    split
    · rw [addEvent_eq, addEvent_eq, addHistory_addHistory]
      exact latches_addHistory e (bits_or_subset (bits_eventIf_subset e ⟨0, by decide⟩ _)
        (bits_eventIf_subset (e.addHistory _) ⟨1, by decide⟩ _))
    · exact .told rfl
  lsrEvents status e := by
    unfold lsrEvents
    split
    · rw [addEvent_eq, addEvent_eq, addHistory_addHistory]
      exact latches_addHistory e (bits_or_subset (bits_eventIf_subset e ⟨7, by decide⟩ _)
        (bits_eventIf_subset (e.addHistory _) ⟨6, by decide⟩ _))
    · exact .told rfl
  modemEvents status e := by
    unfold modemEvents
    split
    · simp only [addEvent_eq, addHistory_addHistory]
      refine latches_addHistory e (bits_or_subset (bits_or_subset (bits_or_subset ?_ ?_) ?_) ?_)
      · exact bits_eventIf_subset e ⟨3, by decide⟩ _
      · exact bits_eventIf_subset (e.addHistory _) ⟨4, by decide⟩ _
      · exact bits_eventIf_subset (e.addHistory _) ⟨8, by decide⟩ _
      · exact bits_eventIf_subset (e.addHistory _) ⟨5, by decide⟩ _
    · exact .told rfl
  emptyEvent e h := latches_event e ⟨2, by decide⟩ h

/-! ## Masks are set and requests wait -/

/-- What the requests about masks do. -/
def IsControl (op : LatchOp Nat) : Prop := (∃ s, op = .enable s) ∨ op = .wait ∨ op = .release

/-- A wait that is over is told that nothing has happened. -/
theorem shows_release {e : Extension U} {l : Latch Nat} (h : e.Shows l)
    (hlocation : e.ev.irpMaskLocation = true) :
    Latch.step .release l = some { l with waiter := .told ∅ } ∧
      ((e.setMaskLocation false).modifyCurrent .wait fun r =>
        { r with eventMask := some 0, information := 4 }).Shows { l with waiter := .told ∅ } := by
  have hw := h.waiter
  have hwait : l.waiter = .waiting := by
    cases hcase : l.waiter with
    | waiting => rfl
    | idle =>
      rw [hcase] at hw
      exact absurd (hlocation.symm.trans hw.2) (by decide)
    | told s =>
      rw [hcase] at hw
      exact absurd (hlocation.symm.trans hw.1) (by decide)
  rw [hwait] at hw
  obtain ⟨r, hr⟩ := Option.isSome_iff_exists.mp hw.1
  let r' : Request := { r with eventMask := some 0, information := 4 }
  have hset : ((e.setMaskLocation false).setCurrent .wait (some r')).current .wait = some r' := by
    rw [current_setCurrent, if_pos rfl]
  refine ⟨by simp only [Latch.step, hwait], ?_⟩
  rw [modifyCurrent_of_some (e := e.setMaskLocation false) _ hr]
  exact ⟨h.enabled, h.pending, ⟨rfl, r', 0, hset, rfl, bits_zero.symm, rfl⟩, h.reports, h.words⟩

theorem latches_endWait (e : Extension U) : Latches IsControl e e.endWait := by
  unfold endWait
  split
  · next hlocation =>
    intro l hl
    obtain ⟨hstep, hshows⟩ := shows_release hl hlocation
    exact Matched.one (.inr (.inr rfl)) hstep (hshows.of_told rfl)
  · exact .told rfl

theorem latches_serialFinishOldWait (e : Extension U) (mask : UInt32) :
    Latches IsControl e (e.serialFinishOldWait mask) := by
  refine (latches_endWait e).trans fun l hl => ?_
  refine Matched.one (.inl ⟨bits mask, rfl⟩) (b := l.enable (bits mask)) rfl ?_
  refine ⟨rfl, ?_, hl.waiter, hl.reports, hl.words⟩
  show l.pending ∩ bits mask = bits (e.endWait.ev.historyMask &&& mask)
  rw [hl.pending, bits_and]

section
variable {e : Extension U} {s : Slot}

theorem told_retrieveNextRequest (hs : s ≠ .wait) (q : QueueId) :
    (e.retrieveNextRequest q s).told = e.told := by
  unfold retrieveNextRequest
  split <;> (unfold told; rw [current_setCurrent, if_neg hs.symm]; rfl)

theorem told_serialCompleteRequest {r : Request} (hr : r.reported = false) :
    (e.serialCompleteRequest r).told = e.told := by
  unfold told serialCompleteRequest
  rw [List.filter_append, List.filter_cons_of_neg (by simp [hr]), List.filter_nil, List.append_nil]

theorem told_serialGetNextRequest (hs : s ≠ .wait) (q : QueueId) (b : Bool)
    (hr : ∀ r, e.current s = some r → r.reported = false) :
    (e.serialGetNextRequest s q b).told = e.told := by
  unfold serialGetNextRequest
  split
  · next r hcur =>
    split
    · exact (told_serialCompleteRequest (hr r hcur)).trans (told_retrieveNextRequest hs q)
    · exact told_retrieveNextRequest hs q
  · exact told_retrieveNextRequest hs q

end

/-- A request about masks is completed without events. -/
theorem told_nextMask (e : Extension U) {status : NtStatus}
    (h : ∀ r, e.current .mask = some r → { r with status := status }.reported = false) :
    (e.nextMask status).told = e.told := by
  have hmodify : (e.modifyCurrent .mask fun r => { r with status := status }).told = e.told :=
    told_modifyCurrent e (by decide) _
  refine (told_serialGetNextRequest (by decide) .maskQueue true fun r hr => ?_).trans hmodify
  rw [current_modifyCurrent, if_pos rfl] at hr
  obtain ⟨r₀, hr₀, rfl⟩ := Option.map_eq_some_iff.mp hr
  exact h r₀ hr₀

theorem reported_eq_false {r : Request} (h : r.status ≠ .success) : r.reported = false := by
  unfold Request.reported
  rw [beq_false_of_ne h, Bool.and_false]

theorem Extension.Shows.idle {e : Extension U} {l : Latch Nat} (h : e.Shows l)
    (hnone : e.current .wait = none) : l.waiter = .idle ∧ e.ev.irpMaskLocation = false := by
  have hw := h.waiter
  cases hcase : l.waiter with
  | idle =>
    rw [hcase] at hw
    exact ⟨rfl, hw.2⟩
  | waiting =>
    rw [hcase] at hw
    rw [Extension.Waits, hnone] at hw
    exact absurd hw.1 (by decide)
  | told s =>
    rw [hcase] at hw
    obtain ⟨_, r, m, hr, _⟩ := hw
    cases hnone.symm.trans hr

/-- The request is told what has happened already. -/
theorem shows_answerFromHistory {e : Extension U} {l : Latch Nat} {r : Request}
    (hr : e.current .wait = some r) (h : (e.setCurrent .wait none).Shows l) :
    e.answerFromHistory.Shows { l with waiter := .told l.pending, pending := ∅ } := by
  have hlocation : e.ev.irpMaskLocation = false :=
    (h.idle (by rw [current_setCurrent, if_pos rfl])).2
  let e₀ : Extension U := { e with ev := { e.ev with historyMask := 0 } }
  let r' : Request := { r with
    eventMask := some e.ev.historyMask, information := 4, status := .success }
  have hset : (e₀.setCurrent .wait (some r')).current .wait = some r' := by
    rw [current_setCurrent, if_pos rfl]
  unfold answerFromHistory
  rw [modifyCurrent_of_some (e := e₀) _ hr]
  exact ⟨h.enabled, bits_zero.symm,
    ⟨hlocation, r', e.ev.historyMask, hset, rfl, h.pending, rfl⟩, h.reports, h.words⟩

/-- The request is told what has happened already, or waits for the ISR to tell it. -/
theorem shows_serialGiveWaitToIsr {e : Extension U} {l : Latch Nat} {r : Request}
    (hr : e.current .wait = some r) (h : (e.setCurrent .wait none).Shows l) :
    e.serialGiveWaitToIsr.Shows l.wait := by
  have hpending : l.pending = ∅ ↔ e.ev.historyMask = 0 := by
    rw [h.pending]
    exact bits_eq_empty
  let r₁ : Request := r.putReference true .isr
  have hset : (e.setCurrent .wait (some r₁)).current .wait = some r₁ := by
    rw [current_setCurrent, if_pos rfl]
  have hleft : ((e.setCurrent .wait (some r₁)).setCurrent .wait none).told =
      (e.setCurrent .wait none).told := by
    unfold told
    rw [current_setCurrent, if_pos rfl, current_setCurrent, if_pos rfl]
    rfl
  unfold serialGiveWaitToIsr
  rw [modifyCurrent_of_some _ hr]
  by_cases hzero : e.ev.historyMask = 0
  · have hwaits : ((e.setCurrent .wait (some r₁)).giveWait.current .wait).isSome = true := by
      rw [show (e.setCurrent .wait (some r₁)).giveWait.current .wait = some r₁ from hset,
        Option.isSome_some]
    rw [if_pos hzero, Latch.wait, if_pos (hpending.mpr hzero)]
    exact ⟨h.enabled, h.pending, ⟨hwaits, rfl⟩, h.reports, h.words⟩
  · rw [if_neg hzero, Latch.wait, if_neg (by rw [hpending]; exact hzero)]
    exact shows_answerFromHistory hset (h.of_told hleft)

/-- A request comes to wait. -/
theorem latches_startWait {e : Extension U} (r : Request) (hmask : e.ev.isrWaitMask ≠ 0)
    (hnone : e.current .wait = none) : Latches IsControl e (e.startWait r) := by
  intro l hl
  have hstep : Latch.step .wait l = some l.wait := by
    simp only [Latch.step, (hl.idle hnone).1]
    rw [if_neg (by rw [hl.enabled, bits_eq_empty]; exact hmask)]
  refine Matched.one (.inr (.inl rfl)) hstep ?_
  let r₁ : Request := { r with refCount := .zero }.serialSetCancelRoutine
  let e₁ : Extension U := (e.setCurrent .mask none).setCurrent .wait (some r₁)
  have hset : e₁.current .wait = some r₁ := by rw [current_setCurrent, if_pos rfl]
  have hleft : (e₁.setCurrent .wait none).told = e.told := by
    unfold told
    rw [current_setCurrent, if_pos rfl, hnone]
    rfl
  have hgiven := shows_serialGiveWaitToIsr hset (hl.of_told hleft)
  have hmasked : e₁.serialGiveWaitToIsr.current .mask = none := by
    rw [CallbackRule.current_mask_serialGiveWaitToIsr, current_setCurrent, current_setCurrent]
    rfl
  refine hgiven.of_told (told_serialGetNextRequest (by decide) .maskQueue false fun r' hr' => ?_)
  cases hmasked.symm.trans hr'

/-- **One round of `SerialStartMask`.** -/
theorem latches_startMaskOne (e : Extension U) : Latches IsControl e e.startMaskOne := by
  unfold startMaskOne
  split
  · exact .told rfl
  · next r hr =>
    split
    · next mask hbody =>
      refine (latches_serialFinishOldWait e mask).trans fun l hl => ?_
      refine Latches.told (told_nextMask _ fun r' hr' => ?_) l hl
      have hsame : (e.serialFinishOldWait mask).current .mask = e.current .mask := by
        unfold serialFinishOldWait endWait
        split
        · show ((e.setMaskLocation false).modifyCurrent .wait _).current .mask = _
          rw [current_modifyCurrent, if_neg (by decide)]
          rfl
        · rfl
      cases hr.symm.trans (hsame.symm.trans hr')
      unfold Request.reported
      rw [hbody]
      rfl
    · refine rel_ite (R := Latches IsControl) (fun _ => ?_) fun hfree => ?_
      · exact .told (told_nextMask e fun r' _ => reported_eq_false (by simp))
      · simp only [Bool.or_eq_true, not_or, Bool.not_eq_true, Option.isSome_eq_false_iff,
          Option.isNone_iff_eq_none, decide_eq_true_eq] at hfree
        exact latches_startWait r hfree.1 hfree.2

theorem latches_startMaskLoop (n : Nat) (e : Extension U) :
    Latches IsControl e (startMaskLoop n e) := by
  induction n generalizing e with
  | zero => exact .told rfl
  | succ n ih =>
    refine (latches_startMaskOne e).trans ?_
    exact rel_ite (R := Latches IsControl) (fun _ => ih _) (fun _ => .told rfl)

/-! ## Requests that arrive -/

/-- A request about masks arrives. -/
theorem latches_maskRequest (e : Extension U) (r : Request) :
    Latches IsControl e (e.serialStartOrQueue r .maskQueue .mask serialStartMask) := by
  have harrive : ((e.addCharsQueued (charsQueued r)).setCurrent .mask (some r)).told =
      e.told := by
    unfold told
    rw [current_setCurrent, if_neg (by decide)]
    rfl
  have hrefused : (e.addCharsQueued (charsQueued r)).told = e.told := rfl
  refine rel_ite (R := Latches IsControl) (fun _ => ?_) fun _ =>
    rel_ite (R := Latches IsControl) (fun _ => .told rfl) fun _ => ?_
  · exact (Latches.told harrive).trans (latches_startMaskLoop _ _)
  · exact .told ((told_serialCompleteRequest (reported_eq_false (by simp))).trans hrefused)

theorem latches_accept (e : Extension U) {body : Body} {length : Nat} {buffer : List UInt8}
    {k : Request → Extension U → Extension U} (hk : ∀ r e, Latches IsControl e (k r e)) :
    Latches IsControl e (e.accept body length buffer k) := by
  have htake : e.takeId.told = e.told := rfl
  refine rel_ite (R := Latches IsControl) (fun _ => ?_) fun _ => (Latches.told htake).trans (hk _ _)
  exact .told (told_serialCompleteRequest (e := e.takeId) (reported_eq_false (by simp)))

theorem latches_ioctlSetWaitMask (e : Extension U) (mask : UInt32) :
    Latches IsControl e (e.ioctlSetWaitMask mask) := by
  refine latches_accept e fun r e => rel_ite (R := Latches IsControl) (fun _ => ?_) fun _ =>
    latches_maskRequest e r
  exact .told (told_serialCompleteRequest (reported_eq_false (by simp)))

theorem latches_ioctlWaitOnMask (e : Extension U) : Latches IsControl e e.ioctlWaitOnMask :=
  latches_accept e fun r e => latches_maskRequest e r

/-! ## A wait ends -/

theorem finishes_of_serves {r : Request} (h : Slot.wait.serves r.body = true) :
    Slot.wait.finishes r.body = true := by
  cases hb : r.body with
  | waitOnMask => rfl
  | _ =>
    rw [hb] at h
    cases h

/-- With success a request that has been told reports, otherwise it does not. -/
def leaveOp (status : NtStatus) : LatchOp Nat := if status = .success then .finish else .cancel

/-- A request that has been told leaves. -/
theorem shows_leave {e : Extension U} {l : Latch Nat} {s : Set Nat} (hacc : Accounted e)
    (h : e.Shows l) (htold : l.waiter = .told s) (status : NtStatus) :
    ∃ l', Latch.step (leaveOp status) l = some l' ∧
      ((e.giveStatus .wait status).completeCurrent .wait).Shows l' := by
  have hw := h.waiter
  rw [htold] at hw
  obtain ⟨hlocation, r, m, hr, hm, hs, hinfo⟩ := hw
  have hgiven := fields_giveStatus e .wait status
  have hends := fields_completeCurrent (current_giveStatus hr status)
  simp only [Prod.mk.injEq] at hgiven hends
  obtain ⟨_, _, hev, hdone⟩ := hgiven
  obtain ⟨hev', hcur, hdone'⟩ := hends
  rw [hev] at hev'
  rw [hdone] at hdone'
  generalize (e.giveStatus .wait status).completeCurrent .wait = e' at *
  have hidle : e'.Waits .idle := ⟨hcur, by rw [hev']; exact hlocation⟩
  -- a success is reported to the application; anything else drops the events
  by_cases hsuccess : status = .success
  · have hreported : (r.withStatus status).reported = true := by
      unfold Request.reported
      rw [Bool.and_eq_true]
      exact ⟨finishes_of_serves (hacc.served .wait r hr), by rw [hsuccess]; rfl⟩
    have hall : e'.done.filter Request.reported =
        e.done.filter Request.reported ++ [r.withStatus status] := by
      rw [hdone', List.filter_append, List.filter_cons_of_pos hreported, List.filter_nil]
    refine ⟨{ l with waiter := .idle, reports := l.reports ++ [s] }, ?_, ?_⟩
    · rw [leaveOp, if_pos hsuccess]
      simp only [Latch.step, htold]
    refine ⟨by rw [hev']; exact h.enabled, by rw [hev']; exact h.pending, hidle, ?_, ?_⟩
    · show l.reports ++ [s] = _
      rw [Extension.reports, hall, List.map_append, h.reports, hs]
      have hmask : (r.withStatus status).eventMask = some m := hm
      simp [Extension.reports, hmask]
    · rw [hall]
      intro r' hr'
      rcases List.mem_append.mp hr' with hr' | hr'
      · exact h.words r' hr'
      · rw [List.mem_singleton.mp hr']
        unfold Request.withStatus
        rw [hsuccess]
        exact hinfo
  · have hreported : (r.withStatus status).reported = false := reported_eq_false hsuccess
    have hall : e'.done.filter Request.reported = e.done.filter Request.reported := by
      rw [hdone', List.filter_append, List.filter_cons_of_neg (by simp [hreported]),
        List.filter_nil, List.append_nil]
    refine ⟨{ l with waiter := .idle, dropped := l.dropped ++ [s] }, ?_, ?_⟩
    · rw [leaveOp, if_neg hsuccess]
      simp only [Latch.step, htold]
    refine ⟨by rw [hev']; exact h.enabled, by rw [hev']; exact h.pending, hidle, ?_, ?_⟩
    · rw [Extension.reports, hall]
      exact h.reports
    · rw [hall]
      exact h.words

/-- A request that has been told is completed if nobody holds it any more. -/
theorem latches_completeIfUnreferenced {e : Extension U} (hacc : Accounted e)
    (hgone : e.ev.irpMaskLocation = false) (status : NtStatus) :
    Latches (· = leaveOp status) e
      (e.completeIfUnreferenced .wait status (completeCurrent .wait)) := by
  unfold completeIfUnreferenced
  split
  · exact .told rfl
  · next r hr =>
    refine rel_ite (R := Latches (· = leaveOp status)) (fun _ l hl => ?_) fun _ => .told rfl
    have htold : ∃ s, l.waiter = .told s := by
      have hw := hl.waiter
      cases hcase : l.waiter with
      | idle =>
        rw [hcase] at hw
        cases hr.symm.trans hw.1
      | waiting =>
        rw [hcase] at hw
        exact absurd (hgone.symm.trans hw.2) (by decide)
      | told s => exact ⟨s, rfl⟩
    obtain ⟨s, hs⟩ := htold
    obtain ⟨l', hstep, hleave⟩ := shows_leave hacc hl hs status
    exact Matched.one rfl hstep hleave

section
variable [Uart U]

/-- `SerialTryToCompleteCurrent` for `CurrentWaitRequest`, once the ISR has let go. -/
theorem latches_tryToCompleteWait {e : Extension U} {may : LatchOp Nat → Prop}
    (hacc : Accounted e) {g : Extension U → Extension U}
    (hg : ∀ e, Accounted e → Accounted (g e)) (status : NtStatus) (ref : Ref)
    (hback : Latches may e (g (e.dropOwnReference .wait ref)))
    (hgone : (g (e.dropOwnReference .wait ref)).ev.irpMaskLocation = false)
    (hmay : may (leaveOp status)) :
    Latches may e (e.tryToCompleteWait g status ref) := by
  have hbook : Bookkeeping .wait (g (e.dropOwnReference .wait ref))
      (e.stopAgents g status .wait none none ref) := Bookkeeping.rundown _ .wait none none ref status
  have hacc₁ : Accounted (e.stopAgents g status .wait none none ref) :=
    (anything.stopAgents e id (fun e ha => ⟨hg e ha, id⟩) no_timer no_timer status ref hacc).1
  have hgone₁ : (e.stopAgents g status .wait none none ref).ev.irpMaskLocation = false := by
    rw [hbook.rest]
    exact hgone
  unfold tryToCompleteWait serialTryToCompleteCurrent
  split
  · exact .told rfl
  · have hstop : Latches may (g (e.dropOwnReference .wait ref))
        (e.stopAgents g status .wait none none ref) :=
      fun l hl => Matched.none (hl.bookkeeping hbook)
    refine hback.trans (hstop.trans ?_)
    refine (latches_completeIfUnreferenced hacc₁ hgone₁ status).mono fun op hop => ?_
    rw [hop]
    exact hmay

/-- The DPC that completes a wait finds it told. -/
theorem latches_serialCompleteWait {e : Extension U} (hacc : Accounted e)
    (hgone : e.ev.irpMaskLocation = false) : Latches (· = .finish) e e.serialCompleteWait := by
  have hdrop := Bookkeeping.dropOwnReference e .wait .isr
  refine latches_tryToCompleteWait hacc (fun _ h => h) .success .isr
    (fun l hl => Matched.none (hl.bookkeeping hdrop)) ?_ rfl
  show (e.dropOwnReference .wait .isr).ev.irpMaskLocation = false
  rw [hdrop.rest]
  exact hgone

/-- What the end of a wait without a report does. -/
def IsCancel (op : LatchOp Nat) : Prop := op = .release ∨ op = .cancel

omit [Uart U] in
theorem latches_serialGrabWaitFromIsr (e : Extension U) :
    Latches IsCancel e e.serialGrabWaitFromIsr ∧
      e.serialGrabWaitFromIsr.ev.irpMaskLocation = false := by
  unfold serialGrabWaitFromIsr
  split
  · next hlocation =>
    have hclear := Bookkeeping.modifyCurrent ((e.setMaskLocation false).modifyCurrent .wait fun r =>
      { r with eventMask := some 0, information := 4 }) .wait (f := (·.putReference false .isr))
      (by intro; rfl)
    constructor
    · intro l hl
      obtain ⟨hstep, hshows⟩ := shows_release hl hlocation
      exact Matched.one (.inl rfl) hstep (hshows.bookkeeping hclear)
    · unfold clearReference
      rw [ev_modifyCurrent, ev_modifyCurrent]
      rfl
  · next hlocation => exact ⟨.told rfl, by simpa using hlocation⟩

theorem latches_serialCancelWait {e : Extension U} (hacc : Accounted e) :
    Latches IsCancel e e.serialCancelWait := by
  obtain ⟨hgrab, hgone⟩ := latches_serialGrabWaitFromIsr e
  refine latches_tryToCompleteWait hacc (fun e ha => ?_) .cancelled .cancel hgrab hgone (.inr rfl)
  exact (anything.serialGrabWaitFromIsr id e ha).1

end

/-! ## Steps -/

/-- The operations of the latch that a callback may be. -/
def Callback.mayLatch : Callback → LatchOp Nat → Prop
  | .setWaitMask _ | .waitOnMask => IsControl
  | .dpc .commWait => (· = .finish)
  | .cancelRoutine .wait => IsCancel
  | .canceledOnQueue _ => fun _ => False
  | _ => IsHappen

/-- The operations of the latch that a step may be. -/
def Label.mayLatch {Input : Type} : Label Input → LatchOp Nat → Prop
  | .isr _ | .readStep => IsHappen
  | .callback c => c.mayLatch
  | _ => fun _ => False

section
variable [Uart U] {e e' : Extension U}

/-- A callback that has nothing to do with masks. -/
theorem latches_callback_other (hacc : Accounted e) {c : Callback} (hc : e.enabled c = true)
    (hmask : c.worksFor .mask = false) (hwait : c.worksFor .wait = false) :
    Latches IsHappen e (e.callback c) := by
  refine (latches_eventRule.stepRule.callback e c (fun s hs hT => ?_) hc hacc).2
  rcases hT with rfl | rfl
  · rw [hmask] at hs
    cases hs
  · rw [hwait] at hs
    cases hs

omit [Uart U] in
theorem latches_runCanceledOnQueue (e : Extension U) (i : Nat)
    (may : LatchOp Nat → Prop) : Latches may e (e.runCanceledOnQueue i) := by
  unfold runCanceledOnQueue
  split
  · exact .told rfl
  · exact .told (told_serialCompleteRequest (reported_eq_false (by simp)))

omit [Uart U] in
/-- The DPC for a wait is queued when the wait has been told. -/
theorem location_of_commWait (h : Tracked .wait e) (hdpc : e.dpc .commWait = true) :
    e.ev.irpMaskLocation = false := by
  cases hlocation : e.ev.irpMaskLocation with
  | false => rfl
  | true =>
    cases hr : e.current .wait with
    | none =>
      have hnone : e.ev.irpMaskLocation = false := (h.vacant hr).1.1
      exact hlocation.symm.trans hnone
    | some r => exact absurd ⟨hlocation, hdpc⟩ (h.owes r hr).exclusive.isr

/-- **A callback is a few operations of the latch.** -/
theorem latches_callback (h : Disciplined e) {c : Callback} (hc : e.enabled c = true) :
    Latches c.mayLatch e (e.callback c) := by
  cases c with
  | setWaitMask mask => exact latches_ioctlSetWaitMask e mask
  | waitOnMask => exact latches_ioctlWaitOnMask e
  | canceledOnQueue i => exact latches_runCanceledOnQueue e i _
  | dpc d =>
    cases d with
    | commWait =>
      have htaken : Accounted (e.takeDpc .commWait) := h.accounted.congr (fun _ => rfl) rfl
      have hgone : e.ev.irpMaskLocation = false := location_of_commWait h.wait hc
      exact (Latches.told (by rfl)).trans (latches_serialCompleteWait htaken hgone)
    | _ => exact latches_callback_other h.accounted hc rfl rfl
  | cancelRoutine s =>
    cases s with
    | wait =>
      have hmark := Bookkeeping.modifyCurrent e .wait (f := fun r => { r with cancelable := .none })
        (by intro; rfl)
      have hacc := h.accounted.modifyCurrent .wait (f := fun r => { r with cancelable := .none })
        (by intro; rfl)
      exact Latches.trans (fun l hl => Matched.none (hl.bookkeeping hmark))
        (latches_serialCancelWait hacc)
    | mask | purge => exact .told (told_modifyCurrent e (by decide) _)
    | _ => exact latches_callback_other h.accounted hc rfl rfl
  | timer t => cases t <;> exact latches_callback_other h.accounted hc rfl rfl
  | _ => exact latches_callback_other h.accounted hc rfl rfl

/-- **A step is a few operations of the latch.** -/
theorem latches_step (h : Disciplined e) {l : Label (Uart.Input U)} (hstep : step l e = some e') :
    Latches l.mayLatch e e' := by
  cases l with
  | isr fuel =>
    exact (latches_eventRule.stepRule.step hstep (fun s hs => by cases hs) h.accounted).2
  | readStep =>
    refine (latches_eventRule.stepRule.step hstep (fun s hs hT => ?_) h.accounted).2
    rcases hT with rfl | rfl <;> cases hs
  | callback c =>
    cases fires_of_step hstep with
    | callback hpc hc => exact latches_callback h hc
  | cancel s =>
    cases fires_of_step hstep with
    | @cancel s r hr =>
      refine fun l hl => Matched.none (hl.congr rfl ?_ rfl)
      rw [current_setCurrent]
      split
      · next hs =>
        rw [hs, hr]
        rfl
      · rfl
  | _ => cases fires_of_step hstep with | _ => exact .told rfl

end

/-! ## Runs -/

theorem shows_opened (u : U) (cfg : Config) (size : Nat) : (opened u cfg size).Shows .off where
  enabled := bits_zero.symm
  pending := bits_zero.symm
  waiter := ⟨rfl, rfl⟩
  reports := rfl
  words r hr := by cases hr

/-- The event masks in one state of a run. -/
structure EventBookkeeping [Uart U] (ls : List (Label (Uart.Input U))) (e : Extension U) :
    Prop where
  /-- Only enabled events are remembered. -/
  enabled : bits e.ev.historyMask ⊆ bits e.ev.isrWaitMask
  /-- While the ISR is to answer a wait, there is nothing to answer, and the wait is its. -/
  quiet : e.ev.irpMaskLocation = true → e.ev.historyMask = 0 ∧
    ∃ r, e.current .wait = some r ∧ r.body = .waitOnMask ∧ r.refCount.isr = true
  /-- The steps of the run are operations of a latch, each of the kind its label permits, and the
  latch is balanced: every event that was latched has been reported by one completed wait, or
  dropped with a changed mask or a cancelled wait, or is still there. -/
  latch : ∃ pieces l, List.Forall₂ (fun s ops => ∀ op ∈ ops, s.mayLatch op) ls pieces ∧
    run Latch.step pieces.flatten .off = some l ∧ e.Shows l ∧ l.Balanced

/-- **Event bookkeeping.** In every run the wait mask is an event latch. -/
theorem event_bookkeeping [Uart U] {u : U} {cfg : Config} {size : Nat}
    {ls : List (Label (Uart.Input U))} {e : Extension U}
    (hrun : run step ls (opened u cfg size) = some e) : EventBookkeeping ls e := by
  -- one step of the driver against operations of the latch
  have hstep (l : Label (Uart.Input U)) (e e' : Extension U) (a : Latch Nat)
      (hl : step l e = some e') (h : Disciplined e ∧ e.Shows a) :
      Matched Latch.step l.mayLatch (fun b => Disciplined e' ∧ e'.Shows b) a :=
    (latches_step h.1 hl a h.2).mono (fun _ => id) fun _ hb => ⟨h.1.step hl, hb⟩
  obtain ⟨pieces, l, hpieces, hops, hdisc, hshows⟩ :=
    run_simulated (R := fun e a => Disciplined e ∧ e.Shows a) hstep hrun
      ⟨disciplined_opened u cfg size, shows_opened u cfg size⟩
  obtain ⟨hsound, hbalanced⟩ := Latch.balanced_run hops
  refine ⟨?_, fun hlocation => ?_, pieces, l, hpieces, hops, hshows, hbalanced⟩
  · rw [← hshows.enabled, ← hshows.pending]
    exact hsound.enabled
  -- a location for the ISR: somebody waits, and nothing is pending
  · have hwait : l.waiter = .waiting := by
      have hw := hshows.waiter
      cases hcase : l.waiter with
      | waiting => rfl
      | idle =>
        rw [hcase] at hw
        exact absurd (hlocation.symm.trans hw.2) (by decide)
      | told s =>
        rw [hcase] at hw
        exact absurd (hlocation.symm.trans hw.1) (by decide)
    refine ⟨?_, ?_⟩
    · rw [← bits_eq_empty, ← hshows.pending]
      exact hsound.quiet hwait
    · have hw := hshows.waiter
      rw [hwait] at hw
      obtain ⟨r, hr⟩ := Option.isSome_iff_exists.mp hw.1
      refine ⟨r, hr, ?_, ?_⟩
      · have hserves := hdisc.accounted.served .wait r hr
        cases hb : r.body with
        | waitOnMask => rfl
        | _ =>
          rw [hb] at hserves
          cases hserves
      · rw [(hdisc.wait.owes r hr).refs]
        show (e.ev.irpMaskLocation || e.dpcPending .wait) = true
        rw [hlocation, Bool.true_or]

/-- A wait is told of a character; a second wait is cancelled when nothing has happened. -/
def waitTwice : List (Label Chip.Input) :=
  [.callback (.setWaitMask 1), .callback .waitOnMask, .hardware (.receive ⟨7, 0⟩), .isr 4,
    .callback (.dpc .commWait), .callback .waitOnMask, .cancel .wait,
    .callback (.cancelRoutine .wait)]

theorem event_bookkeeping_waitTwice :
    ∃ e, run step waitTwice (opened Chip.idle .plain 8) = some e ∧
      (e.done.map (fun r => (r.status, r.eventMask)) ==
        [(.success, none), (.success, some 1), (.cancelled, some 0)]) = true ∧
      EventBookkeeping waitTwice e := by
  have hrun : (run step waitTwice (opened Chip.idle .plain 8)).any
      (fun e => e.done.map (fun r => (r.status, r.eventMask)) ==
        [(.success, none), (.success, some 1), (.cancelled, some 0)]) = true := by
    decide +kernel
  obtain ⟨e, he, hdone⟩ := (Option.any_eq_true _ _).mp hrun
  exact ⟨e, he, hdone, event_bookkeeping he⟩

end SerialFc
