import SerialFc.Properties.Steps

/-!
# Taking a request back

A callback runs for one agent of a request. That agent is gone, but its bit is still set: the
request *owes* the bit. `SerialTryToCompleteCurrent` clears the owed bit and stops the other agents
where it can, clearing the bits of those it stopped. What is left of the reference count is again
exactly the set of agents (`Owes.stopAgents`), and the ISR is not among them.
-/

namespace SerialFc

open Extension

variable {U : Type}

/-! ## Reference counts as sets -/

namespace RefCount

/-- Is the bit set? -/
def get (c : RefCount) : Ref → Bool
  | .isr => c.isr
  | .cancel => c.cancel
  | .totalTimer => c.totalTimer
  | .intTimer => c.intTimer
  | .xoffRef => c.xoffRef

theorem get_put (c : RefCount) (b : Bool) (ref ref' : Ref) :
    (c.put b ref).get ref' = if ref' = ref then b else c.get ref' := by
  cases ref <;> cases ref' <;> rfl

theorem put_false_put_true {c : RefCount} {ref : Ref} (h : c.get ref = false) :
    (c.put true ref).put false ref = c := by
  obtain ⟨isr, cancel, total, int, xoff⟩ := c
  cases ref <;> simp_all [get, put]

theorem put_true_put_false {c : RefCount} {ref : Ref} (h : c.get ref = true) :
    (c.put false ref).put true ref = c := by
  obtain ⟨isr, cancel, total, int, xoff⟩ := c
  cases ref <;> simp_all [get, put]

theorem eq_zero_of_isZero {c : RefCount} (h : c.isZero = true) : c = .zero := by
  obtain ⟨isr, cancel, total, int, xoff⟩ := c
  simp_all [isZero, zero]

end RefCount

/-! ## Owing a bit -/

/-- A timer is not in the timer queue while its callback is still to run. -/
def Timer.Once (t : Timer) : Prop := ¬(t.queued = true ∧ t.fired = true)

/-- An agent is either at work or has its callback still to come, not both. -/
structure Extension.Exclusive (e : Extension U) (s : Slot) : Prop where
  isr : ¬(e.isrHolds s = true ∧ e.dpcPending s = true)
  total : (e.timerOf (totalTimerId s)).Once
  interval : (e.timerOf (intervalTimerId s)).Once

/-- The bits of the agents and, besides, the bit of an agent that is gone. -/
def withOwed (c : RefCount) : Option Ref → RefCount
  | none => c
  | some ref => c.put true ref

/-- The reference count of the request `r` in slot `s` is its set of agents and the bit `o` of an
agent that is gone. -/
structure Owes (e : Extension U) (s : Slot) (o : Option Ref) (r : Request) : Prop where
  current : e.current s = some r
  refs : r.refCount = withOwed (e.agents s r) o
  gone : ∀ ref, o = some ref → (e.agents s r).get ref = false
  exclusive : e.Exclusive s
  routine : o ≠ some .cancel → r.cancelRoutine = (r.cancelable != .none)

/-- The set of agents depends on whether the request can be cancelled, not on the rest of it. -/
theorem agents_congr {e e' : Extension U} {s : Slot} {r r' : Request}
    (hisr : (e'.isrHolds s || e'.dpcPending s) = (e.isrHolds s || e.dpcPending s))
    (hcancel : (r'.cancelable != .none) = (r.cancelable != .none))
    (htotal : (e'.timerOf (totalTimerId s)).live = (e.timerOf (totalTimerId s)).live)
    (hinterval : (e'.timerOf (intervalTimerId s)).live = (e.timerOf (intervalTimerId s)).live) :
    e'.agents s r' = e.agents s r := by
  simp only [agents, hisr, hcancel, htotal, hinterval]

theorem owes_setCurrent {e : Extension U} {s : Slot} (h : e.Exclusive s) {r : Request}
    {o : Option Ref} (hrefs : r.refCount = withOwed (e.agents s r) o)
    (hgone : ∀ ref, o = some ref → (e.agents s r).get ref = false)
    (hroutine : o ≠ some .cancel → r.cancelRoutine = (r.cancelable != .none)) :
    Owes (e.setCurrent s (some r)) s o r := by
  have hagents : (e.setCurrent s (some r)).agents s r = e.agents s r := by
    cases s <;> rfl
  refine ⟨by rw [current_setCurrent, if_pos rfl], ?_, ?_, ?_, hroutine⟩
  · rw [hagents]; exact hrefs
  · rw [hagents]; exact hgone
  · exact ⟨by cases s <;> exact h.isr, h.total, h.interval⟩

namespace Owes

variable {e e' : Extension U} {s : Slot} {o : Option Ref} {r : Request}

/-- Code under the interrupt lock may hand the request over to the DPC, no more. -/
theorem of_effect (h : Owes e s o r) (heff : Effect e e') :
    ∃ r', Owes e' s o r' ∧ r'.core = r.core := by
  obtain ⟨r', hr', hcore⟩ := heff.current_some h.current
  have htimer := heff.timerOf
  have hcancelable : r'.cancelable = r.cancelable := 
    Request.of_core Request.cancelable (fun _ => rfl) hcore
  have hhand : (e'.isrHolds s || e'.dpcPending s) = (e.isrHolds s || e.dpcPending s) := by
    rcases heff.agents s with ⟨h1, h2⟩ | ⟨h1, h2, h3⟩
    · rw [h1, h2]
    · rw [h1, h2, h3]; rfl
  have hagents : e'.agents s r' = e.agents s r :=
    agents_congr hhand (by rw [hcancelable]) (by rw [htimer]) (by rw [htimer])
  refine ⟨r', ⟨hr', ?_, ?_, ⟨?_, ?_, ?_⟩, fun ho => ?_⟩, hcore⟩
  · rw [hagents, ← h.refs]; exact Request.of_core Request.refCount (fun _ => rfl) hcore
  · rw [hagents]; exact h.gone
  · rcases heff.agents s with ⟨h1, h2⟩ | ⟨h1, h2, h3⟩
    · rw [h1, h2]; exact h.exclusive.isr
    · simp [h2]
  · rw [htimer]; exact h.exclusive.total
  · rw [htimer]; exact h.exclusive.interval
  · have hroutine : r'.cancelRoutine = r.cancelRoutine := 
      Request.of_core Request.cancelRoutine (fun _ => rfl) hcore
    rw [hroutine, hcancelable]
    exact h.routine ho

/-- The request is written to. -/
theorem modify (h : Owes e s o r) (f : Request → Request) {p : Option Ref}
    (hrefs : (f r).refCount = withOwed (e.agents s (f r)) p)
    (hgone : ∀ ref, p = some ref → (e.agents s (f r)).get ref = false)
    (hroutine : p ≠ some .cancel → (f r).cancelRoutine = ((f r).cancelable != .none)) :
    Owes (e.modifyCurrent s f) s p (f r) := by
  rw [modifyCurrent_of_some f h.current]
  exact owes_setCurrent h.exclusive hrefs hgone hroutine

/-- What is written has nothing to do with references. -/
theorem modify_data (h : Owes e s o r) (f : Request → Request)
    (hf : (f r).refCount = r.refCount ∧ (f r).cancelRoutine = r.cancelRoutine ∧
      (f r).cancelable = r.cancelable) : Owes (e.modifyCurrent s f) s o (f r) := by
  obtain ⟨hrefs, hroutine, hcancelable⟩ := hf
  have hagents : e.agents s (f r) = e.agents s r := by simp only [agents, hcancelable]
  refine h.modify f ?_ ?_ ?_
  · rw [hrefs, hagents]; exact h.refs
  · rw [hagents]; exact h.gone
  · rw [hroutine, hcancelable]; exact h.routine

end Owes

/-! ## Stopping the agents one by one -/

/-- What is owed once the bit of `ref` has been dealt with. -/
def paid (o : Option Ref) (ref : Ref) : Option Ref := if o = some ref then none else o

theorem withOwed_put (c : RefCount) (o : Option Ref) (ref : Ref) (b : Bool) :
    (withOwed c o).put b ref = withOwed (c.put b ref) (paid o ref) := by
  cases o with
  | none => rfl
  | some ref' => cases ref <;> cases ref' <;> rfl

theorem eq_some_of_paid {o : Option Ref} {ref ref' : Ref} (h : paid o ref = some ref') :
    o = some ref' := by
  unfold paid at h
  split at h
  · cases h
  · exact h

theorem paid_eq_cancel {o : Option Ref} {ref : Ref} (hcancel : ref ≠ .cancel)
    (h : o = some .cancel) : paid o ref = some .cancel := by
  rw [paid, h, if_neg (by simpa using Ne.symm hcancel)]

theorem get_withOwed {c : RefCount} {o : Option Ref} {ref : Ref} (h : o ≠ some ref) :
    (withOwed c o).get ref = c.get ref := by
  cases o with
  | none => rfl
  | some ref' => cases ref <;> cases ref' <;> first | rfl | exact absurd rfl h

/-- Timers of a slot by the bit that stands for them. -/
def timerId (s : Slot) : Ref → Option TimerId
  | .totalTimer => totalTimerId s
  | .intTimer => intervalTimerId s
  | _ => none

theorem agents_timer {e : Extension U} {s : Slot} {ref : Ref} {t : TimerId}
    (ht : timerId s ref = some t) (r : Request) (v : Timer) :
    { e with timer := Function.update e.timer t v }.agents s r =
      (e.agents s r).put v.live ref := by
  cases s <;> cases ref <;> simp [timerId, totalTimerId, intervalTimerId] at ht <;> subst ht <;>
    simp [agents, RefCount.put, timerOf, totalTimerId, intervalTimerId, isrHolds, dpcPending]

theorem get_agents_timer {e : Extension U} {s : Slot} {ref : Ref} {t : TimerId}
    (ht : timerId s ref = some t) (r : Request) : (e.agents s r).get ref = (e.timer t).live := by
  cases ref <;> simp only [timerId, reduceCtorEq] at ht <;>
    simp [agents, RefCount.get, ht, timerOf]

theorem once_of_exclusive {e : Extension U} {s : Slot} {ref : Ref} {t : TimerId}
    (ht : timerId s ref = some t) (h : e.Exclusive s) : (e.timer t).Once := by
  cases ref <;> simp only [timerId, reduceCtorEq] at ht
  · have htotal := h.total
    rwa [ht] at htotal
  · have hinterval := h.interval
    rwa [ht] at hinterval

theorem once_timerOf {e : Extension U} {o : Option TimerId} (h : (e.timerOf o).Once) (t : TimerId)
    {v : Timer} (hv : v.Once) : ({ e with timer := Function.update e.timer t v }.timerOf o).Once := by
  cases o with
  | none => exact h
  | some t' =>
    show (Function.update e.timer t v t').Once
    rw [Function.update_apply]
    split
    · exact hv
    · exact h

theorem exclusive_timer {e : Extension U} {s : Slot} (h : e.Exclusive s) (t : TimerId) {v : Timer}
    (hv : v.Once) : { e with timer := Function.update e.timer t v }.Exclusive s where
  isr := by cases s <;> exact h.isr
  total := once_timerOf h.total t hv
  interval := once_timerOf h.interval t hv

namespace Owes

variable {e e' : Extension U} {s : Slot} {o : Option Ref} {r : Request}

/-- A timer of the slot changes; its bit may be owed. -/
theorem timer (h : Owes e s o r) {ref : Ref} {t : TimerId} (ht : timerId s ref = some t) {v : Timer}
    (hv : v.Once) {p : Option Ref}
    (hrefs : withOwed (e.agents s r) o = withOwed ((e.agents s r).put v.live ref) p)
    (hgone : ∀ ref', p = some ref' → ((e.agents s r).put v.live ref).get ref' = false)
    (hcancel : p ≠ some .cancel → o ≠ some .cancel) :
    Owes { e with timer := Function.update e.timer t v } s p r where
  current := h.current
  refs := by rw [agents_timer ht, h.refs, hrefs]
  gone := by rw [agents_timer ht]; exact hgone
  exclusive := exclusive_timer h.exclusive t hv
  routine ho := h.routine (hcancel ho)

/-- A caller that stands for the ISR, or for the next write, drops its own reference first. -/
theorem dropOwnReference {ref : Ref} (h : Owes e s (some ref) r) :
    ∃ r', Owes (e.dropOwnReference s ref) s
        (if ref = .isr ∨ ref = .xoffRef then none else some ref) r' ∧
      r'.ident = r.ident ∧ r'.cancelable = r.cancelable := by
  unfold Extension.dropOwnReference
  split
  · next href =>
    refine ⟨_, h.modify _ (p := none) ?_ (fun _ ho => nomatch ho) fun _ => ?_, rfl, rfl⟩
    · show r.refCount.put false ref = e.agents s r
      rw [h.refs]
      exact RefCount.put_false_put_true (h.gone ref rfl)
    · exact h.routine (by rcases href with rfl | rfl <;> simp)
  · exact ⟨r, h, rfl, rfl⟩

theorem cancel_bit (h : Owes e s o r) (ho : o ≠ some .cancel) :
    r.refCount.cancel = (r.cancelable != .none) := by
  have hget := get_withOwed (c := e.agents s r) ho
  rw [← h.refs] at hget
  exact hget

/-- The cancel routine is the caller, or it is unmarked if that is still possible. -/
theorem rundownCancel (h : Owes e s o r) (ref : Ref) (href : ref = .cancel ↔ o = some .cancel) :
    ∃ r', Owes (e.rundownCancel s ref) s (paid o .cancel) r' ∧ r'.ident = r.ident ∧
      r'.cancelable ≠ .armed := by
  unfold Extension.rundownCancel
  split
  -- the caller is the cancel routine: its reference goes with it
  · next hcancel =>
    have ho := href.mp hcancel
    have hgone : (r.cancelable != .none) = false := h.gone .cancel ho
    have hnone : r.cancelable = .none := by simpa using hgone
    rw [paid, if_pos ho]
    refine ⟨_, h.modify _ (p := none) ?_ (fun _ ho => nomatch ho) (fun _ => ?_), rfl, ?_⟩
    · show r.refCount.put false .cancel = e.agents s r
      rw [h.refs, ho]
      exact RefCount.put_false_put_true (h.gone .cancel ho)
    · exact hgone.symm
    · show r.cancelable ≠ .armed
      rw [hnone]
      decide
  -- another caller: has the framework taken the mark away already?
  · next hcancel =>
    have ho : o ≠ some .cancel := fun ho => hcancel (href.mpr ho)
    rw [paid, if_neg ho]
    have hbit := h.cancel_bit ho
    by_cases harmed : r.cancelable = .armed
    · have hclear : (r.serialClearCancelRoutine true).2 = { r with
          cancelable := .none
          cancelRoutine := false
          refCount := r.refCount.put false .cancel } := by
        simp [Request.serialClearCancelRoutine, hbit, harmed]
      refine ⟨_, h.modify _ ?_ ?_ ?_, CallbackRule.ident_serialClearCancelRoutine true r, ?_⟩
      · rw [hclear, h.refs]
        rw [withOwed_put, paid, if_neg ho]
        rfl
      · rw [hclear]
        intro ref' hp
        have hgone := h.gone ref' hp
        cases ref' with
        | cancel => exact absurd hp ho
        | isr => exact hgone
        | totalTimer => exact hgone
        | intTimer => exact hgone
        | xoffRef => rfl
      · rw [hclear]
        exact fun _ => rfl
      · rw [hclear]
        exact fun hc => nomatch hc
    · have hclear : (r.serialClearCancelRoutine true).2 = r := by
        cases hc : r.cancelable <;> simp_all [Request.serialClearCancelRoutine]
      refine ⟨_, h.modify _ ?_ ?_ ?_, CallbackRule.ident_serialClearCancelRoutine true r, ?_⟩ <;> rw [hclear]
      · exact h.refs
      · exact h.gone
      · exact h.routine
      · exact harmed

/-- A timer is the caller, or it is stopped if that is still possible. -/
theorem rundownTimer (h : Owes e s o r) (ref ref' : Ref) (href : ref = ref' ↔ o = some ref')
    (hcancel : ref' ≠ .cancel) (hsome : o = some ref' → timerId s ref' ≠ none) :
    ∃ r', Owes (e.rundownTimer s (timerId s ref') ref' ref) s (paid o ref') r' ∧
      r'.ident = r.ident ∧ r'.cancelable = r.cancelable := by
  unfold Extension.rundownTimer
  split
  -- this slot has no such timer
  · next hnone =>
    have ho : o ≠ some ref' := fun ho => hsome ho hnone
    rw [paid, if_neg ho]
    exact ⟨r, h, rfl, rfl⟩
  · next t ht =>
    have hlive : (e.agents s r).get ref' = (e.timer t).live := get_agents_timer ht r
    have honce := once_of_exclusive ht h.exclusive
    have hex : (e.serialCancelTimer t).2.Exclusive s :=
      exclusive_timer h.exclusive t fun hq => nomatch hq.1
    by_cases hstop : ((e.serialCancelTimer t).1 || ref == ref') = true
    · -- stopped in time, or gone already: either way nothing is left of the timer
      have hfired : (e.timer t).fired = false := by
        rcases Bool.or_eq_true_iff.mp hstop with hq | heq
        · have hqueued : (e.timer t).queued = true := hq
          cases hf : (e.timer t).fired with
          | false => rfl
          | true => exact absurd ⟨hqueued, hf⟩ honce
        · have hgone := h.gone ref' (href.mp (beq_iff_eq.mp heq))
          rw [hlive, Timer.live, Bool.or_eq_false_iff] at hgone
          exact hgone.2
      have hcur : (e.serialCancelTimer t).2.current s = some r := h.current
      rw [if_pos hstop, clearReference, modifyCurrent_of_some _ hcur]
      have hagents : (e.serialCancelTimer t).2.agents s (r.putReference false ref') =
          (e.agents s r).put false ref' := by
        have hset := agents_timer (e := e) ht r { e.timer t with queued := false }
        rw [Timer.live, hfired] at hset
        exact hset
      refine ⟨_, owes_setCurrent hex ?_ ?_ ?_, rfl, rfl⟩
      · show r.refCount.put false ref' = _
        rw [hagents, h.refs, withOwed_put]
      · intro ref'' ho
        rw [hagents, RefCount.get_put]
        split
        · rfl
        · exact h.gone ref'' (eq_some_of_paid ho)
      · exact fun ho => h.routine (mt (paid_eq_cancel hcancel) ho)
    -- it has expired and its routine will run: the reference stays
    · rw [if_neg hstop]
      rw [Bool.not_eq_true, Bool.or_eq_false_iff] at hstop
      have hqueued : (e.timer t).queued = false := hstop.1
      have ho : o ≠ some ref' := fun ho => (beq_eq_false_iff_ne.mp hstop.2) (href.mpr ho)
      have hsame : (e.serialCancelTimer t).2 = e := by
        have htimer : ({ e.timer t with queued := false } : Timer) = e.timer t := by
          rw [← hqueued]
        simp only [serialCancelTimer, htimer, Function.update_eq_self]
      rw [hsame, paid, if_neg ho]
      exact ⟨r, h, rfl, rfl⟩

theorem markCancelled (h : Owes e s o r) (status : NtStatus) :
    ∃ r', Owes (e.markCancelled s status) s o r' ∧ r'.ident = r.ident ∧
      r'.cancelable = r.cancelable := by
  unfold Extension.markCancelled
  split
  · exact ⟨_, h.modify_data _ ⟨rfl, rfl, rfl⟩, rfl, rfl⟩
  · exact ⟨r, h, rfl, rfl⟩

end Owes

/-! ## Bookkeeping -/

/-- What is left of a request without the marks of its agents. -/
def Request.data (r : Request) : Request :=
  { r with refCount := .zero, cancelRoutine := false, cancelled := false, cancelable := .none }

theorem Request.of_data {α : Type*} (f : Request → α) (hf : ∀ r : Request, f r.data = f r)
    {r r' : Request} (h : r'.data = r.data) : f r' = f r := by
  rw [← hf r', h, hf]

/-- Only timers and the marks of the request in slot `s` have changed. -/
structure Bookkeeping (s : Slot) (e e' : Extension U) : Prop where
  rest : e' = { e with current := e'.current, timer := e'.timer, bugcheck := e'.bugcheck }
  other : ∀ t, t ≠ s → e'.current t = e.current t
  data : (e'.current s).map Request.data = (e.current s).map Request.data

namespace Bookkeeping

variable {e e' e'' : Extension U} {s : Slot}

theorem refl (s : Slot) (e : Extension U) : Bookkeeping s e e := ⟨rfl, fun _ _ => rfl, rfl⟩

theorem trans (h : Bookkeeping s e e') (h' : Bookkeeping s e' e'') : Bookkeeping s e e'' where
  rest := by
    have hrest := h'.rest
    rw [h.rest] at hrest
    exact hrest
  other t ht := (h'.other t ht).trans (h.other t ht)
  data := h'.data.trans h.data

theorem modifyCurrent (e : Extension U) (s : Slot) {f : Request → Request}
    (hf : ∀ r, (f r).data = r.data) : Bookkeeping s e (e.modifyCurrent s f) where
  rest := by
    unfold Extension.modifyCurrent
    split <;> rfl
  other t ht := by rw [current_modifyCurrent, if_neg ht]
  data := by
    rw [current_modifyCurrent, if_pos rfl]
    cases e.current s <;> simp [hf]

theorem timer (s : Slot) (e : Extension U) (v : TimerId → Timer) :
    Bookkeeping s e { e with timer := v } := ⟨rfl, fun _ _ => rfl, rfl⟩

theorem isrHolds (h : Bookkeeping s e e') (t : Slot) : e'.isrHolds t = e.isrHolds t := by
  rw [h.rest]
  cases t <;> rfl

theorem done (h : Bookkeeping s e e') : e'.done = e.done := by rw [h.rest]

theorem pc (h : Bookkeeping s e e') : e'.pc = e.pc := by rw [h.rest]

theorem dropOwnReference (e : Extension U) (s : Slot) (ref : Ref) :
    Bookkeeping s e (e.dropOwnReference s ref) :=
  rel_ite (fun _ => modifyCurrent e s (by intro; rfl)) (fun _ => refl s e)

theorem data_serialClearCancelRoutine (b : Bool) (r : Request) :
    (r.serialClearCancelRoutine b).2.data = r.data := by
  unfold Request.serialClearCancelRoutine
  split
  · split
    · rfl
    · cases b <;> rfl
  · rfl

theorem rundownTimer (e : Extension U) (s : Slot) (t : Option TimerId) (ref ref' : Ref) :
    Bookkeeping s e (e.rundownTimer s t ref ref') := by
  unfold Extension.rundownTimer
  split
  · exact refl s e
  · exact rel_ite (fun _ => (timer s e _).trans (modifyCurrent _ s (by intro; rfl)))
      (fun _ => timer s e _)

theorem rundown (e : Extension U) (s : Slot) (interval total : Option TimerId) (ref : Ref)
    (status : NtStatus) : Bookkeeping s e
      ((e.serialRundownIrpRefs s interval total ref).markCancelled s status) := by
  have hcancel : Bookkeeping s e (e.rundownCancel s ref) :=
    rel_ite (fun _ => modifyCurrent e s (by intro; rfl))
      (fun _ => modifyCurrent e s (data_serialClearCancelRoutine true))
  have hrefs := hcancel.trans ((rundownTimer _ s interval .intTimer ref).trans
    (rundownTimer _ s total .totalTimer ref))
  exact hrefs.trans (rel_ite (fun _ => modifyCurrent _ s (by intro; rfl)) (fun _ => refl s _))

end Bookkeeping

/-! ## Stopping all of them -/

/-- `g` takes the request of slot `s` back from the ISR. Where the caller stands for the ISR it
need not do so any more. -/
def TakesBack (s : Slot) (ref : Ref) (g : Extension U → Extension U) : Prop :=
  ∀ e o r, Owes e s o r → o ≠ some .isr → (ref = .isr → e.isrHolds s = false) →
    (∃ r', Owes (g e) s o r' ∧ r'.ident = r.ident) ∧ (g e).isrHolds s = false ∧
      (g e).done = e.done ∧ (g e).pc = e.pc

theorem takesBack_id (s : Slot) : TakesBack (U := U) s .isr id :=
  fun _ _ r h _ hisr => ⟨⟨r, h, rfl⟩, hisr rfl, rfl, rfl⟩

/-- A timer's own callback is for the timer that the slot has. -/
def OwnTimer (s : Slot) (ref : Ref) : Prop :=
  (ref = .totalTimer → totalTimerId s ≠ none) ∧ (ref = .intTimer → intervalTimerId s ≠ none)

/-- **`SerialTryToCompleteCurrent` stops what can be stopped.** Afterwards the reference count is
the set of the agents that are left, and nothing is owed. -/
theorem Owes.stopAgents {e : Extension U} {s : Slot} {ref : Ref} {r : Request}
    (h : Owes e s (some ref) r) {g : Extension U → Extension U} (hg : TakesBack s ref g)
    (hown : OwnTimer s ref) (status : NtStatus) :
    ∃ r', Owes (e.stopAgents g status s (intervalTimerId s) (totalTimerId s) ref) s none r' ∧
      r'.ident = r.ident ∧ r'.cancelable ≠ .armed ∧
      (e.stopAgents g status s (intervalTimerId s) (totalTimerId s) ref).isrHolds s = false ∧
      (e.stopAgents g status s (intervalTimerId s) (totalTimerId s) ref).done = e.done ∧
      (e.stopAgents g status s (intervalTimerId s) (totalTimerId s) ref).pc = e.pc := by
  obtain ⟨r₁, h₁, hid₁, _⟩ := h.dropOwnReference
  have hisr : ref = .isr → (e.dropOwnReference s ref).isrHolds s = false := by
    rintro rfl
    have hgone : (e.isrHolds s || e.dpcPending s) = false := h.gone .isr rfl
    rw [(Bookkeeping.dropOwnReference e s _).isrHolds]
    exact (Bool.or_eq_false_iff.mp hgone).1
  obtain ⟨⟨r₂, h₂, hid₂⟩, hfalse, hdone, hpc⟩ := hg _ _ _ h₁ (by cases ref <;> simp) hisr
  obtain ⟨r₃, h₃, hid₃, harmed⟩ := h₂.rundownCancel ref (by cases ref <;> simp)
  obtain ⟨r₄, h₄, hid₄, hc₄⟩ := h₃.rundownTimer ref .intTimer (by cases ref <;> simp [paid])
    (by decide) (by cases ref <;> simp_all [paid, OwnTimer, timerId])
  obtain ⟨r₅, h₅, hid₅, hc₅⟩ := h₄.rundownTimer ref .totalTimer (by cases ref <;> simp [paid])
    (by decide) (by cases ref <;> simp_all [paid, OwnTimer, timerId])
  have hpaid : paid (paid (paid (if ref = .isr ∨ ref = .xoffRef then none else some ref) .cancel)
      .intTimer) .totalTimer = none := by cases ref <;> simp [paid]
  rw [hpaid] at h₅
  obtain ⟨r₆, h₆, hid₆, hc₆⟩ := h₅.markCancelled status
  have hdrop := Bookkeeping.dropOwnReference e s ref
  have hrun := Bookkeeping.rundown (g (e.dropOwnReference s ref)) s (intervalTimerId s)
    (totalTimerId s) ref status
  refine ⟨r₆, h₆, ?_, ?_, (hrun.isrHolds s).trans hfalse, ?_, ?_⟩
  · rw [hid₆, hid₅, hid₄, hid₃, hid₂, hid₁]
  · rw [hc₆, hc₅, hc₄]
    exact harmed
  · exact (hrun.done.trans hdone).trans hdrop.done
  · exact (hrun.pc.trans hpc).trans hdrop.pc

/-- The ISR has lost the request, and its bit has been cleared. -/
theorem Owes.grabbed {e e' : Extension U} {s : Slot} {o : Option Ref} {r r' : Request}
    (h : Owes e s o r) (ho : o ≠ some .isr) (hisr : e.isrHolds s = true)
    (hcur : e'.current s = some r') (hrefs : r'.refCount = r.refCount.put false .isr)
    (hmarks : r'.cancelRoutine = r.cancelRoutine ∧ r'.cancelable = r.cancelable)
    (hisr' : e'.isrHolds s = false) (hdpc : e'.dpcPending s = e.dpcPending s)
    (htimer : e'.timer = e.timer) : Owes e' s o r' := by
  have hnodpc : e.dpcPending s = false := by
    cases hd : e.dpcPending s with
    | false => rfl
    | true => exact absurd ⟨hisr, hd⟩ h.exclusive.isr
  have ht := timerOf_congr htimer
  have hagents : e'.agents s r' = (e.agents s r).put false .isr := by
    simp [agents, RefCount.put, hisr', hdpc, hnodpc, hmarks.2, ht]
  refine ⟨hcur, ?_, fun ref href => ?_, ⟨?_, ?_, ?_⟩, fun hc => ?_⟩
  · rw [hrefs, hagents, h.refs, withOwed_put, paid, if_neg ho]
  · rw [hagents, RefCount.get_put]
    split
    · rfl
    · exact h.gone ref href
  · simp [hisr']
  · rw [ht]; exact h.exclusive.total
  · rw [ht]; exact h.exclusive.interval
  · rw [hmarks.1, hmarks.2]; exact h.routine hc

/-- The slot's request has been handed to the ISR, and the bit set. -/
theorem Owes.given {e e' : Extension U} {s : Slot} {r r' : Request} (h : Owes e s none r)
    (hcur : e'.current s = some r') (hrefs : r'.refCount = r.refCount.put true .isr)
    (hmarks : r'.cancelRoutine = r.cancelRoutine ∧ r'.cancelable = r.cancelable)
    (hisr : (e'.isrHolds s || e'.dpcPending s) = true)
    (hone : ¬(e'.isrHolds s = true ∧ e'.dpcPending s = true))
    (htimer : e'.timer = e.timer) : Owes e' s none r' := by
  have ht := timerOf_congr htimer
  have hagents : e'.agents s r' = (e.agents s r).put true .isr := by
    simp [agents, RefCount.put, hisr, hmarks.2, ht]
  refine ⟨hcur, ?_, (fun ref href => nomatch href), ⟨hone, ?_, ?_⟩, fun hc => ?_⟩
  · rw [hrefs, hagents, h.refs]; rfl
  · rw [ht]; exact h.exclusive.total
  · rw [ht]; exact h.exclusive.interval
  · rw [hmarks.1, hmarks.2]; exact h.routine hc

/-- A timer that is not live is set, and so is its bit. -/
theorem Owes.setTimerWithReference {e : Extension U} {s : Slot} {r : Request} (h : Owes e s none r)
    (ref : Ref) {t : TimerId} (ht : timerId s ref = some t)
    (hoff : (e.timer t).live = false) :
    ∃ r', Owes (e.setTimerWithReference s t ref) s none r' ∧ r'.cancelable = r.cancelable ∧
      r'.data = r.data := by
  rw [Timer.live, Bool.or_eq_false_iff] at hoff
  have hset : e.setTimerWithReference s t ref =
      (e.serialSetTimer t).2.setCurrent s (some (r.putReference true ref)) := by
    unfold Extension.setTimerWithReference
    rw [if_neg (by simp [serialSetTimer, hoff.1])]
    exact modifyCurrent_of_some _ h.current
  have hex : (e.serialSetTimer t).2.Exclusive s :=
    exclusive_timer h.exclusive t fun hq => by simp [hoff.2] at hq
  have hagents : (e.serialSetTimer t).2.agents s (r.putReference true ref) =
      (e.agents s r).put true ref := agents_timer (e := e) ht r { e.timer t with queued := true }
  rw [hset]
  refine ⟨_, owes_setCurrent hex ?_ (fun _ ho => nomatch ho) h.routine, rfl, rfl⟩
  show r.refCount.put true ref = _
  rw [hagents, h.refs]
  rfl

/-- A timer that is not live may be set, with its bit. -/
theorem Owes.armTimer {e : Extension U} {s : Slot} {r : Request} (h : Owes e s none r) (b : Bool)
    (ref : Ref) {t : TimerId} (ht : timerId s ref = some t) (hoff : (e.timer t).live = false) :
    ∃ r', Owes (if b then e.setTimerWithReference s t ref else e) s none r' ∧
      r'.cancelable = r.cancelable ∧ r'.data = r.data := by
  split
  · exact h.setTimerWithReference ref ht hoff
  · exact ⟨r, h, rfl, rfl⟩

theorem timer_setTimerWithReference (e : Extension U) (s : Slot) {t t' : TimerId} (ref : Ref)
    (h : t' ≠ t) : (e.setTimerWithReference s t ref).timer t' = e.timer t' := by
  unfold setTimerWithReference
  split <;> simp [serialSetTimer, h]

theorem done_setTimerWithReference (e : Extension U) (s : Slot) (t : TimerId) (ref : Ref) :
    (e.setTimerWithReference s t ref).done = e.done := by
  unfold setTimerWithReference
  split <;> simp [serialSetTimer]

end SerialFc
