import SerialFc.Properties.StopAgents

/-!
# Requests and their agents

`Tracked s`: the reference count of the request in slot `s` is the set of its agents, the set is
not empty once the request has been started, and what has been completed has no agent left.
`Unheld s` holds on the way from one request to the next: nobody attends to the slot.

* `tracked_rule`, `unheld_rule` — what does not work for the slot keeps both
* `tracked_tryToComplete` — a routine that takes the request back, and completes it if it can
* `Unheld.getNext` — the next request comes in
-/

namespace SerialFc

open Extension

variable {U : Type}

/-! ## Definitions -/

/-- No agent is at work for the slot or has a callback still to come. -/
def Extension.Unattended (e : Extension U) (s : Slot) : Prop :=
  e.isrHolds s = false ∧ e.dpcPending s = false ∧
    (e.timerOf (totalTimerId s)).live = false ∧ (e.timerOf (intervalTimerId s)).live = false

/-- `SerialStartRead` is under way. -/
def Extension.Starting (e : Extension U) (s : Slot) : Prop := s = .read ∧ e.pc ≠ .idle

theorem not_starting_of_ne {e : Extension U} {s : Slot} (hs : s ≠ .read) : ¬e.Starting s :=
  fun hstarting => hs hstarting.1

/-- What has been completed has no agent. -/
def Extension.Released (e : Extension U) (s : Slot) : Prop :=
  ∀ r ∈ e.done, s.finishes r.body = true → r.refCount = .zero ∧ r.cancelable = .none

structure Tracked (s : Slot) (e : Extension U) : Prop where
  vacant : e.current s = none → e.Unattended s ∧ ¬e.Starting s
  owes : ∀ r, e.current s = some r → Owes e s none r
  held : ∀ r, e.current s = some r → ¬e.Starting s →
    r.refCount ≠ .zero ∧ (r.cancelable = .none → e.isrHolds s = false)
  starting : ∀ r, e.current s = some r → e.Starting s → r.cancelable = .none ∧
    (e.timerOf (totalTimerId s)).live = false ∧ (e.timerOf (intervalTimerId s)).live = false ∧
    ((∀ l, e.pc ≠ .arm l) → e.Unattended s)
  released : e.Released s

/-- The request a callback is for: its bit is owed from the moment the callback begins. -/
structure CalledFor (e : Extension U) (s : Slot) (ref : Ref) : Prop where
  owes : ∃ r, Owes e s (some ref) r
  released : e.Released s
  idle : ¬e.Starting s

structure Unheld (s : Slot) (e : Extension U) : Prop where
  unattended : e.Unattended s
  marks : ∀ r, e.current s = some r →
    r.refCount = .zero ∧ r.cancelable = .none ∧ r.cancelRoutine = false
  released : e.Released s

/-! ## What does not work for the slot -/

section
variable {e e' : Extension U} {s : Slot}

theorem unattended_of_effect (h : e.Unattended s) (heff : Effect e e') : e'.Unattended s := by
  obtain ⟨hisr, hdpc, htotal, hinterval⟩ := h
  have ht := heff.timerOf
  rcases heff.agents s with ⟨h1, h2⟩ | ⟨h1, _, _⟩
  · exact ⟨h1.trans hisr, h2.trans hdpc, by rw [ht]; exact htotal, by rw [ht]; exact hinterval⟩
  · rw [hisr] at h1
    cases h1

theorem starting_of_pc (hpc : e'.pc = e.pc) : e'.Starting s ↔ e.Starting s := by
  unfold Starting
  rw [hpc]

theorem released_of_same (h : e.Released s) (hsame : Same s e e') : e'.Released s := by
  intro r hr hfin
  have hmem : r ∈ e'.done.filter (s.finishes ·.body) := List.mem_filter.mpr ⟨hr, hfin⟩
  rw [hsame.finished] at hmem
  exact h r (List.mem_filter.mp hmem).1 hfin

theorem isrHolds_of_effect (heff : Effect e e') (h : e.isrHolds s = false) :
    e'.isrHolds s = false := by
  rcases heff.agents s with ⟨h1, _⟩ | ⟨_, h1, _⟩
  · exact h1.trans h
  · exact h1

theorem Tracked.of_effect (h : Tracked s e) (heff : Effect e e') : Tracked s e' := by
  have hstart := starting_of_pc (s := s) heff.pc
  refine ⟨fun hnone => ?_, fun r' hr' => ?_, fun r' hr' hns => ?_, fun r' hr' hs => ?_, ?_⟩
  · obtain ⟨hun, hns⟩ := h.vacant (heff.current_eq_none hnone)
    exact ⟨unattended_of_effect hun heff, fun hs => hns (hstart.mp hs)⟩
  · obtain ⟨r, hr, _⟩ := heff.current_of hr'
    obtain ⟨r'', howes, _⟩ := (h.owes r hr).of_effect heff
    cases howes.current.symm.trans hr'
    exact howes
  · obtain ⟨r, hr, hcore⟩ := heff.current_of hr'
    obtain ⟨hne, hheld⟩ := h.held r hr fun hs => hns (hstart.mpr hs)
    have hrefs : r'.refCount = r.refCount := Request.of_core Request.refCount (fun _ => rfl) hcore
    have hcancelable : r'.cancelable = r.cancelable :=
      Request.of_core Request.cancelable (fun _ => rfl) hcore
    exact ⟨hrefs ▸ hne, fun hc => isrHolds_of_effect heff (hheld (hcancelable ▸ hc))⟩
  · obtain ⟨r, hr, hcore⟩ := heff.current_of hr'
    obtain ⟨hcancelable, htotal, hinterval, hun⟩ := h.starting r hr (hstart.mp hs)
    have ht := heff.timerOf
    refine ⟨?_, by rw [ht]; exact htotal, by rw [ht]; exact hinterval, fun hpc => ?_⟩
    · rw [Request.of_core Request.cancelable (fun _ => rfl) hcore]
      exact hcancelable
    · exact unattended_of_effect (hun fun l => heff.pc ▸ hpc l) heff
  · intro r hr
    exact h.released r (heff.done ▸ hr)

/-- The request and the agents of slot `s` are the same. -/
structure SameAgents (s : Slot) (e e' : Extension U) : Prop where
  current : e'.current s = e.current s
  isr : e'.isrHolds s = e.isrHolds s
  dpc : e'.dpcPending s = e.dpcPending s
  total : e'.timerOf (totalTimerId s) = e.timerOf (totalTimerId s)
  interval : e'.timerOf (intervalTimerId s) = e.timerOf (intervalTimerId s)

theorem Same.agents (h : Same s e e') : SameAgents s e e' :=
  ⟨h.current, h.isrHolds, h.dpc, h.total, h.interval⟩

theorem SameAgents.unattended (h : SameAgents s e e') (hun : e.Unattended s) :
    e'.Unattended s := by
  unfold Unattended
  rw [h.isr, h.dpc, h.total, h.interval]
  exact hun

theorem SameAgents.owes (h : SameAgents s e e') {o : Option Ref} {r : Request}
    (howes : Owes e s o r) : Owes e' s o r := by
  have hagents : e'.agents s r = e.agents s r :=
    agents_congr (by rw [h.isr, h.dpc]) rfl (by rw [h.total]) (by rw [h.interval])
  refine ⟨h.current.trans howes.current, ?_, ?_, ⟨?_, ?_, ?_⟩, howes.routine⟩
  · rw [hagents]; exact howes.refs
  · rw [hagents]; exact howes.gone
  · rw [h.isr, h.dpc]; exact howes.exclusive.isr
  · rw [h.total]; exact howes.exclusive.total
  · rw [h.interval]; exact howes.exclusive.interval

theorem Tracked.of_sameAgents (h : Tracked s e) (hsame : SameAgents s e e')
    (hpc : s = .read → e'.pc = e.pc) (hrel : e'.Released s) : Tracked s e' := by
  have hstart : e'.Starting s ↔ e.Starting s := by
    unfold Starting
    constructor <;> rintro ⟨hs, hne⟩
    · exact ⟨hs, hpc hs ▸ hne⟩
    · exact ⟨hs, (hpc hs).symm ▸ hne⟩
  refine ⟨fun hnone => ?_, fun r hr => ?_, fun r hr hns => ?_, fun r hr hs => ?_, hrel⟩
  · obtain ⟨hun, hns⟩ := h.vacant (hsame.current ▸ hnone)
    exact ⟨hsame.unattended hun, fun hs => hns (hstart.mp hs)⟩
  · exact hsame.owes (h.owes r (hsame.current ▸ hr))
  · obtain ⟨hne, hheld⟩ := h.held r (hsame.current ▸ hr) fun hs => hns (hstart.mpr hs)
    exact ⟨hne, fun hc => hsame.isr.trans (hheld hc)⟩
  · obtain ⟨hcancelable, htotal, hinterval, hun⟩ :=
      h.starting r (hsame.current ▸ hr) (hstart.mp hs)
    rw [hsame.total, hsame.interval]
    refine ⟨hcancelable, htotal, hinterval, fun hne => hsame.unattended (hun fun l => ?_)⟩
    rw [← hpc hs.1]
    exact hne l

theorem Tracked.of_same (h : Tracked s e) (hsame : Same s e e') : Tracked s e' := by
  refine h.of_sameAgents hsame.agents (fun hs => ?_) (released_of_same h.released hsame)
  subst hs
  exact hsame.data.2.2

theorem Unheld.of_effect (h : Unheld s e) (heff : Effect e e') : Unheld s e' := by
  refine ⟨unattended_of_effect h.unattended heff, fun r' hr' => ?_,
    fun r hr => h.released r (heff.done ▸ hr)⟩
  obtain ⟨r, hr, hcore⟩ := heff.current_of hr'
  obtain ⟨hrefs, hcancelable, hroutine⟩ := h.marks r hr
  rw [Request.of_core Request.refCount (fun _ => rfl) hcore,
    Request.of_core Request.cancelable (fun _ => rfl) hcore,
    Request.of_core Request.cancelRoutine (fun _ => rfl) hcore]
  exact ⟨hrefs, hcancelable, hroutine⟩

theorem Unheld.of_sameAgents (h : Unheld s e) (hsame : SameAgents s e e') (hrel : e'.Released s) :
    Unheld s e' :=
  ⟨hsame.unattended h.unattended, fun r hr => h.marks r (hsame.current ▸ hr), hrel⟩

theorem Unheld.of_same (h : Unheld s e) (hsame : Same s e e') : Unheld s e' :=
  h.of_sameAgents hsame.agents (released_of_same h.released hsame)

end

/-- An invariant that effects keep makes a rule for code under the interrupt lock. -/
theorem interruptRule_of_effect [Uart U] {P : Extension U → Prop}
    (h : ∀ e e', Effect e e' → P e → P e') : InterruptRule fun e e' => P e → P e' :=
  effect_interruptRule.keep h

theorem tracked_rule [Uart U] (s : Slot) :
    StepRule (U := U) (· = s) fun e e' => Tracked s e → Tracked s e' :=
  .of_interruptRule (interruptRule_of_effect fun _ _ heff h => h.of_effect heff)
    fun _ _ hsame h => h.of_same (hsame s rfl)

theorem unheld_rule [Uart U] (s : Slot) :
    StepRule (U := U) (· = s) fun e e' => Unheld s e → Unheld s e' :=
  .of_interruptRule (interruptRule_of_effect fun _ _ heff h => h.of_effect heff)
    fun _ _ hsame h => h.of_same (hsame s rfl)

/-- The rule with nothing to keep: requests stay accounted for. -/
theorem anything [Uart U] : StepRule (U := U) (fun _ => False) fun _ _ => True → True :=
  .of_interruptRule (interruptRule_of_effect fun _ _ _ => id) fun _ _ _ => id

theorem apart_nothing (s : Slot) : Apart (fun _ => False) s := ⟨id, fun _ _ _ h => h.elim⟩

theorem slot_totalTimerId (s : Slot) (t : TimerId) (ht : totalTimerId s = some t) :
    t.slot = some s := by
  cases s <;> cases ht <;> rfl

theorem slot_intervalTimerId (s : Slot) (t : TimerId) (ht : intervalTimerId s = some t) :
    t.slot = some s := by
  cases s <;> cases ht
  rfl

/-! ## From one request to the next -/

section
variable {e : Extension U} {s : Slot}

/-- Nobody attends to the request, and its marks say so. -/
theorem Unheld.owes (h : Unheld s e) {r : Request} (hr : e.current s = some r) :
    Owes e s none r := by
  obtain ⟨hisr, hdpc, htotal, hinterval⟩ := h.unattended
  obtain ⟨hrefs, hcancelable, hroutine⟩ := h.marks r hr
  refine ⟨hr, ?_, (fun _ ho => nomatch ho), ⟨by simp [hisr], ?_, ?_⟩, fun _ => ?_⟩
  · simp [hrefs, withOwed, agents, RefCount.zero, hisr, hdpc, htotal, hinterval, hcancelable]
  · rw [Timer.live, Bool.or_eq_false_iff] at htotal
    simp [Timer.Once, htotal.1]
  · rw [Timer.live, Bool.or_eq_false_iff] at hinterval
    simp [Timer.Once, hinterval.1]
  · rw [hroutine, hcancelable]
    rfl

/-- With all bits cleared, nobody attends to the request. -/
theorem Owes.unattended {r : Request} (h : Owes e s none r) (hrefs : r.refCount = .zero) :
    e.Unattended s ∧ r.cancelable = .none := by
  have hagents : e.agents s r = .zero := h.refs.symm.trans hrefs
  simp only [agents, RefCount.zero, RefCount.mk.injEq, Bool.or_eq_false_iff, bne_eq_false_iff_eq]
    at hagents
  obtain ⟨⟨hisr, hdpc⟩, hcancelable, htotal, hinterval, _⟩ := hagents
  exact ⟨⟨hisr, hdpc, htotal, hinterval⟩, hcancelable⟩

theorem Unheld.tracked_of_none (h : Unheld s e) (hnone : e.current s = none)
    (hstart : ¬e.Starting s) : Tracked s e where
  vacant _ := ⟨h.unattended, hstart⟩
  owes r hr := by rw [hnone] at hr; cases hr
  held r hr := by rw [hnone] at hr; cases hr
  starting r hr := by rw [hnone] at hr; cases hr
  released := h.released

/-- A request with a cancel routine is held. -/
theorem tracked_of_cancelable {r : Request} (h : Owes e s none r) (hc : r.cancelable ≠ .none)
    (hstart : ¬e.Starting s) (hrel : e.Released s) : Tracked s e where
  vacant hnone := by rw [h.current] at hnone; cases hnone
  owes r' hr' := by cases h.current.symm.trans hr'; exact h
  held r' hr' _ := by
    cases h.current.symm.trans hr'
    refine ⟨fun hz => hc ?_, fun hcn => absurd hcn hc⟩
    exact (h.unattended hz).2
  starting _ _ hs := absurd hs hstart
  released := hrel

theorem released_complete {r : Request} (h : e.Released s) (hrefs : r.refCount = .zero)
    (hcancelable : r.cancelable = .none) : (e.serialCompleteRequest r).Released s := by
  intro r' hr' hfin
  rcases List.mem_append.mp hr' with hr' | hr'
  · exact h r' hr' hfin
  · rw [List.mem_singleton.mp hr']
    exact ⟨hrefs, hcancelable⟩

/-- The slot is emptied and its request completed. -/
theorem Unheld.complete (h : Unheld s e) {r : Request} (hr : e.current s = some r) :
    Unheld s ((e.setCurrent s none).serialCompleteRequest r) := by
  obtain ⟨hrefs, hcancelable, _⟩ := h.marks r hr
  have hnone : ∀ r', ((e.setCurrent s none).serialCompleteRequest r).current s ≠ some r' := by
    intro r' hr'
    have hcur : (e.setCurrent s none).current s = some r' := hr'
    rw [current_setCurrent, if_pos rfl] at hcur
    cases hcur
  refine ⟨by cases s <;> exact h.unattended, fun r' hr' => absurd hr' (hnone r'), ?_⟩
  exact released_complete (e := e.setCurrent s none) h.released hrefs hcancelable

/-- The next request of the queue comes in fresh. -/
theorem Unheld.retrieve {q : QueueId} (h : Unheld q.slot e) (hacc : Accounted e)
    (hnone : e.current q.slot = none) : Unheld q.slot (e.retrieveNextRequest q q.slot) := by
  unfold retrieveNextRequest
  split
  · next r waiting _ hwaiting =>
    have hcur : ∀ r', ((e.putQueue q { e.queue q with waiting := waiting }).setCurrent q.slot
        (some { r with origin := some q })).current q.slot = some r' →
        r' = { r with origin := some q } := by
      intro r' hr'
      rw [current_setCurrent, if_pos rfl] at hr'
      cases hr'
      rfl
    have hfresh := (hacc.waiting q r (by rw [hwaiting]; exact List.mem_cons_self ..)).1
    refine ⟨by cases q <;> exact h.unattended, fun r' hr' => ?_, h.released⟩
    rw [hcur r' hr', hfresh]
    exact ⟨rfl, rfl, rfl⟩
  · have hsame : e.setCurrent q.slot none = e := by
      simp only [setCurrent, ← hnone, Function.update_eq_self]
    rw [hsame]
    exact h

/-- The request is completed and the next one comes in fresh. -/
theorem Unheld.getNext {q : QueueId} (h : Unheld q.slot e) (hacc : Accounted e) :
    Unheld q.slot (e.serialGetNextRequest q.slot q true) := by
  cases hr : e.current q.slot with
  | none =>
    unfold serialGetNextRequest
    rw [hr]
    exact h.retrieve hacc hr
  | some r =>
    rw [serialGetNextRequest_of_some q hr]
    refine (h.complete hr).retrieve (hacc.complete hr rfl) ?_
    show (e.setCurrent q.slot none).current q.slot = none
    rw [current_setCurrent, if_pos rfl]

/-- What is written to the slot's request leaves its marks alone. -/
theorem Unheld.modify (h : Unheld s e) {f : Request → Request}
    (hf : ∀ r, (f r).refCount = r.refCount ∧ (f r).cancelable = r.cancelable ∧
      (f r).cancelRoutine = r.cancelRoutine) : Unheld s (e.modifyCurrent s f) := by
  cases hr : e.current s with
  | none => rw [modifyCurrent_of_none f hr]; exact ⟨by cases s <;> exact h.unattended, h.marks, h.released⟩
  | some r =>
    rw [modifyCurrent_of_some f hr]
    refine ⟨by cases s <;> exact h.unattended, fun r' hr' => ?_, h.released⟩
    rw [current_setCurrent, if_pos rfl] at hr'
    cases hr'
    obtain ⟨hrefs, hcancelable, hroutine⟩ := hf r
    rw [hrefs, hcancelable, hroutine]
    exact h.marks r hr

theorem Unheld.giveStatus (h : Unheld s e) {r : Request} (hr : e.current s = some r)
    (status : NtStatus) : Unheld s (e.giveStatus s status) ∧
      ∃ r', (e.giveStatus s status).current s = some r' ∧ r'.ident = r.ident := by
  obtain ⟨hrefs, hcancelable, hroutine⟩ := h.marks r hr
  have hset : ∀ r' : Request, r'.refCount = r.refCount → r'.cancelable = r.cancelable →
      r'.cancelRoutine = r.cancelRoutine → Unheld s (e.setCurrent s (some r')) := by
    intro r' h1 h2 h3
    refine ⟨by cases s <;> exact h.unattended, fun r'' hr'' => ?_, h.released⟩
    rw [current_setCurrent, if_pos rfl] at hr''
    cases hr''
    rw [h1, h2, h3]
    exact ⟨hrefs, hcancelable, hroutine⟩
  unfold Extension.giveStatus
  rw [hr]
  dsimp only
  split
  · have hcur : (e.setCurrent s (some { r with status := status, information := 0 })).current s =
        some { r with status := status, information := 0 } := by rw [current_setCurrent, if_pos rfl]
    obtain ⟨hun, hmarks, hrel⟩ := hset { r with status := status, information := 0 } rfl rfl rfl
    exact ⟨⟨by cases s <;> exact hun, hmarks, hrel⟩, _, hcur, rfl⟩
  · exact ⟨hset { r with status := status } rfl rfl rfl, { r with status := status },
      by rw [current_setCurrent, if_pos rfl], rfl⟩

theorem pc_giveStatus (e : Extension U) (s : Slot) (status : NtStatus) :
    (e.giveStatus s status).pc = e.pc := by
  unfold Extension.giveStatus
  split
  · rfl
  · split <;> rfl

/-- **A routine that takes the request back.** The agents that are left hold it; with none left it
is completed and `finish` sees an unheld slot. -/
theorem tracked_tryToComplete [Uart U] {ref : Ref} (hcall : CalledFor e s ref)
    (hacc : Accounted e) {g finish : Extension U → Extension U} (hg : TakesBack s ref g)
    (hgacc : ∀ e, Accounted e → Accounted (g e)) (hown : OwnTimer s ref) (status : NtStatus)
    (hfinish : ∀ e' r', Accounted e' → Unheld s e' → e'.current s = some r' →
      ¬e'.Starting s → Tracked s (finish e')) :
    Tracked s (e.serialTryToCompleteCurrent g status s (intervalTimerId s) (totalTimerId s) finish
      ref) := by
  obtain ⟨⟨r, h⟩, hrel, hstart⟩ := hcall
  obtain ⟨r', h', _, harmed, hisr, hdone, hpc⟩ := h.stopAgents hg hown status
  have hacc' : Accounted
      (e.stopAgents g status s (intervalTimerId s) (totalTimerId s) ref) :=
    (anything.stopAgents e id (fun e ha => ⟨hgacc e ha, id⟩) (slot_intervalTimerId s)
      (slot_totalTimerId s) status ref hacc).1
  unfold Extension.serialTryToCompleteCurrent completeIfUnreferenced
  rw [h.current, h'.current]
  dsimp only
  -- the agents are stopped; either no reference is left, or one of them will come back
  generalize e.stopAgents g status s (intervalTimerId s) (totalTimerId s) ref = e' at *
  have hrel' : e'.Released s := by
    unfold Released
    rw [hdone]
    exact hrel
  have hstart' : ¬e'.Starting s := mt (starting_of_pc hpc).mp hstart
  split
  · next hzero =>
    have hrefs := RefCount.eq_zero_of_isZero hzero
    obtain ⟨hun, hcancelable⟩ := h'.unattended hrefs
    have hunheld : Unheld s e' := by
      refine ⟨hun, fun r'' hr'' => ?_, hrel'⟩
      cases h'.current.symm.trans hr''
      exact ⟨hrefs, hcancelable, by rw [h'.routine (by simp), hcancelable]; rfl⟩
    obtain ⟨hgive, r'', hr'', _⟩ := hunheld.giveStatus h'.current status
    refine hfinish _ r'' ?_ hgive hr'' ?_
    · exact (anything.giveStatus e' (apart_nothing s) status hacc').1
    · exact mt (starting_of_pc (pc_giveStatus e' s status)).mp hstart'
  · next hzero =>
    refine ⟨fun hnone => ?_, fun r'' hr'' => ?_, fun r'' hr'' _ => ?_,
      fun _ _ hs => absurd hs hstart', hrel'⟩
    · cases h'.current.symm.trans hnone
    · cases h'.current.symm.trans hr''
      exact h'
    · cases h'.current.symm.trans hr''
      refine ⟨fun hz => hzero (by rw [hz]; rfl), fun _ => hisr⟩

/-! ## Callers of the routines -/

theorem Tracked.takeDpc (h : Tracked s e) {d : DpcId} (hslot : d.slot = some s)
    (hd : e.dpc d = true) (hidle : ¬e.Starting s) : CalledFor (e.takeDpc d) s .isr := by
  have hpending : e.dpcPending s = true := by
    cases d <;> cases hslot <;> exact hd
  have hgone : (e.takeDpc d).dpcPending s = false := by
    cases d <;> cases hslot <;> simp [dpcPending, Extension.takeDpc]
  have hsame : (e.takeDpc d).isrHolds s = e.isrHolds s := by cases s <;> rfl
  cases hr : e.current s with
  | none =>
    obtain ⟨⟨_, hdpc, _⟩, _⟩ := h.vacant hr
    rw [hpending] at hdpc
    cases hdpc
  | some r =>
    have howes := h.owes r hr
    have hisr : e.isrHolds s = false := by
      cases hi : e.isrHolds s with
      | false => rfl
      | true => exact absurd ⟨hi, hpending⟩ howes.exclusive.isr
    have hagents : e.agents s r = ((e.takeDpc d).agents s r).put true .isr := by
      simp only [agents, RefCount.put, hsame, hisr, hpending, hgone]
      rfl
    refine ⟨⟨r, hr, ?_, fun ref href => ?_, ⟨?_, howes.exclusive.total,
      howes.exclusive.interval⟩, fun _ => howes.routine (by simp)⟩, h.released, hidle⟩
    · rw [howes.refs]; exact hagents
    · cases href
      simp [RefCount.get, agents, hsame, hisr, hgone]
    · simp [hgone]

theorem Tracked.takeTimer (h : Tracked s e) (ref : Ref) {t : TimerId} (ht : timerId s ref = some t)
    (hfired : (e.timer t).fired = true) (hidle : ¬e.Starting s) :
    CalledFor (e.takeTimer t) s ref := by
  have hlive : (e.timer t).live = true := by rw [Timer.live, hfired, Bool.or_true]
  cases hr : e.current s with
  | none =>
    obtain ⟨⟨_, _, htotal, hinterval⟩, _⟩ := h.vacant hr
    cases ref <;> simp only [timerId, reduceCtorEq] at ht
    · rw [ht] at htotal; cases hlive.symm.trans htotal
    · rw [ht] at hinterval; cases hlive.symm.trans hinterval
  | some r =>
    have howes := h.owes r hr
    have honce := once_of_exclusive ht howes.exclusive
    have hqueued : (e.timer t).queued = false := by
      cases hq : (e.timer t).queued with
      | false => rfl
      | true => exact absurd ⟨hq, hfired⟩ honce
    have hagents : (e.takeTimer t).agents s r = (e.agents s r).put false ref := by
      have hset := agents_timer (e := e) ht r { e.timer t with fired := false }
      rw [Timer.live, hqueued] at hset
      exact hset
    have hbit : (e.agents s r).get ref = true := (get_agents_timer ht r).trans hlive
    have hex : (e.takeTimer t).Exclusive s :=
      exclusive_timer howes.exclusive t fun hq => by cases hq.2
    refine ⟨⟨r, hr, ?_, fun ref' href => ?_, hex, fun _ => howes.routine (by simp)⟩, h.released,
      hidle⟩
    · rw [howes.refs, hagents]
      exact (RefCount.put_true_put_false hbit).symm
    · cases href
      rw [hagents, RefCount.get_put, if_pos rfl]

theorem Tracked.takeCancel (h : Tracked s e) {r : Request} (hr : e.current s = some r)
    (hc : r.cancelable = .delivering) :
    CalledFor (e.modifyCurrent s fun r => { r with cancelable := .none }) s .cancel := by
  have howes := h.owes r hr
  have hidle : ¬e.Starting s := fun hs => by
    have := (h.starting r hr hs).1
    rw [hc] at this
    cases this
  have hagents : e.agents s r = (e.agents s { r with cancelable := .none }).put true .cancel := by
    simp [agents, RefCount.put, hc]
  refine ⟨⟨_, howes.modify _ (p := some .cancel) ?_ ?_ (fun hne => absurd rfl hne)⟩, ?_, ?_⟩
  · show r.refCount = _
    rw [howes.refs]
    exact hagents
  · intro ref href
    cases href
    rfl
  · unfold Released
    rw [done_modifyCurrent]
    exact h.released
  · exact mt (starting_of_pc (pc_modifyCurrent ..)).mp hidle

/-- `SerialPurgeRequests` takes the cancellation of a request over that can be cancelled. -/
theorem Tracked.takeArmed (h : Tracked s e) {r : Request} (hr : e.current s = some r)
    (hc : r.cancelable = .armed) :
    CalledFor (e.setCurrent s (some (r.serialClearCancelRoutine false).2)) s .cancel ∧
      ∀ routine : Extension U → Extension U, e.cancelCurrent s routine =
        routine (e.setCurrent s (some (r.serialClearCancelRoutine false).2)) := by
  have howes := h.owes r hr
  have hbit := howes.cancel_bit (by simp)
  have hroutine := howes.routine (by simp)
  have hclear : r.serialClearCancelRoutine false =
      (true, { r with cancelable := .none, cancelRoutine := false }) := by
    simp [Request.serialClearCancelRoutine, hbit, hc]
  have hidle : ¬e.Starting s := fun hs => by
    have hnone := (h.starting r hr hs).1
    rw [hc] at hnone
    cases hnone
  refine ⟨⟨⟨_, owes_setCurrent howes.exclusive (o := some .cancel) ?_ ?_
    (fun hne => absurd rfl hne)⟩, h.released, hidle⟩, fun routine => ?_⟩
  · rw [hclear]
    show r.refCount = _
    rw [howes.refs]
    simp [agents, withOwed, RefCount.put, hc]
  · rw [hclear]
    intro ref href
    cases href
    rfl
  · unfold Extension.cancelCurrent
    rw [hr]
    dsimp only
    rw [if_pos (by rw [hclear, hroutine, hc]; rfl)]

/-- `SerialPurgeRequests` takes the cancellation over, unless nobody may cancel the request or
somebody else has begun with it. -/
theorem cancelCurrent_cases (h : Tracked s e) (routine : Extension U → Extension U) :
    e.cancelCurrent s routine = e ∨ ∃ r, e.current s = some r ∧
      CalledFor (e.setCurrent s (some (r.serialClearCancelRoutine false).2)) s .cancel ∧
      e.cancelCurrent s routine =
        routine (e.setCurrent s (some (r.serialClearCancelRoutine false).2)) := by
  cases hr : e.current s with
  | none =>
    unfold Extension.cancelCurrent
    rw [hr]
    exact .inl rfl
  | some r =>
    have howes := h.owes r hr
    have hbit := howes.cancel_bit (by simp)
    have hroutine := howes.routine (by simp)
    have hsame : e.setCurrent s (some r) = e := by
      simp only [setCurrent, ← hr, Function.update_eq_self]
    cases hc : r.cancelable with
    | armed =>
      obtain ⟨hcall, hcancel⟩ := h.takeArmed hr hc
      exact .inr ⟨r, rfl, hcall, hcancel routine⟩
    | none =>
      have hclear : r.serialClearCancelRoutine false = (true, r) := by
        simp [Request.serialClearCancelRoutine, hbit, hc]
      unfold Extension.cancelCurrent
      rw [hr]
      dsimp only
      rw [hclear, hsame, hroutine, hc]
      exact .inl rfl
    | delivering =>
      have hclear : r.serialClearCancelRoutine false = (false, r) := by
        simp [Request.serialClearCancelRoutine, hbit, hc]
      unfold Extension.cancelCurrent
      rw [hr]
      dsimp only
      rw [hclear, hsame]
      exact .inl rfl

/-- The next request waits in the queue or not: the slot does not care. -/
theorem Tracked.wdfIoQueuePurge (h : Tracked s e) (q : QueueId) :
    Tracked s (e.wdfIoQueuePurge q) :=
  h.of_sameAgents ⟨rfl, by cases s <;> rfl, by cases s <;> rfl, rfl, rfl⟩ (fun _ => rfl) h.released

theorem Tracked.putQueue (h : Tracked s e) (q : QueueId) (v : IoQueue) :
    Tracked s (e.putQueue q v) :=
  h.of_sameAgents ⟨rfl, by cases s <;> rfl, by cases s <;> rfl, rfl, rfl⟩ (fun _ => rfl) h.released

theorem tracked_serialFlushRequests [Uart U] {routine : Extension U → Extension U}
    (h : Tracked s e) (hacc : Accounted e) (q : QueueId)
    (hroutine : ∀ e', Accounted e' → CalledFor e' s .cancel → Tracked s (routine e')) :
    Tracked s (e.serialFlushRequests q s routine) := by
  unfold serialFlushRequests serialPurgeRequests
  rcases cancelCurrent_cases (h.wdfIoQueuePurge q) routine with hsame | ⟨r, hr, hcall, hcancel⟩
  · rw [hsame]
    exact (h.wdfIoQueuePurge q).putQueue q _
  · rw [hcancel]
    refine (hroutine _ ((hacc.wdfIoQueuePurge q).setCurrent_of_ident ?_) hcall).putQueue q _
    rw [hr, Option.map_some, Option.map_some, CallbackRule.ident_serialClearCancelRoutine]

/-! ## Timers that expire and senders that cancel -/

/-- A timer of the slot is live only while a request is held. -/
theorem Tracked.held_of_live (h : Tracked s e) {ref : Ref} {t : TimerId}
    (ht : timerId s ref = some t) (hlive : (e.timer t).live = true) :
    ∃ r, e.current s = some r ∧ ¬e.Starting s := by
  have hoff : (e.timerOf (totalTimerId s)).live = false →
      (e.timerOf (intervalTimerId s)).live = false → False := by
    intro htotal hinterval
    cases ref <;> simp only [timerId, reduceCtorEq] at ht
    · rw [ht] at htotal; cases hlive.symm.trans htotal
    · rw [ht] at hinterval; cases hlive.symm.trans hinterval
  cases hr : e.current s with
  | none =>
    obtain ⟨⟨_, _, htotal, hinterval⟩, _⟩ := h.vacant hr
    exact (hoff htotal hinterval).elim
  | some r =>
    refine ⟨r, rfl, fun hs => ?_⟩
    obtain ⟨_, htotal, hinterval, _⟩ := h.starting r hr hs
    exact hoff htotal hinterval

/-- A live timer of the slot stays live. -/
theorem Tracked.keepLive (h : Tracked s e) (ref : Ref) {t : TimerId} (ht : timerId s ref = some t)
    (hlive : (e.timer t).live = true) {v : Timer} (hv : v.live = true) (honce : v.Once) :
    Tracked s { e with timer := Function.update e.timer t v } := by
  obtain ⟨r, hr, hidle⟩ := h.held_of_live ht hlive
  have howes := h.owes r hr
  have hbit : (e.agents s r).get ref = true := (get_agents_timer ht r).trans hlive
  have hput : (e.agents s r).put true ref = e.agents s r := by
    generalize e.agents s r = c at hbit
    obtain ⟨isr, cancel, total, int, xoff⟩ := c
    cases ref <;> simp_all [RefCount.get, RefCount.put]
  refine ⟨fun hnone => ?_, fun r' hr' => ?_, fun r' hr' _ => ?_, fun _ _ hs => absurd hs hidle,
    h.released⟩
  · cases hr.symm.trans hnone
  · cases hr.symm.trans hr'
    refine howes.timer ht honce ?_ (fun ref ho => absurd ho (Option.some_ne_none ref).symm)
      (fun _ => by simp)
    rw [hv, hput]
  · obtain ⟨hne, hheld⟩ := h.held r' hr' hidle
    exact ⟨hne, fun hc => by cases s <;> exact hheld hc⟩

theorem Tracked.expire (h : Tracked s e) (ref : Ref) {t : TimerId} (ht : timerId s ref = some t)
    (hq : (e.timer t).queued = true) :
    Tracked s { e with timer := Function.update e.timer t ⟨false, true⟩ } :=
  h.keepLive ref ht (by rw [Timer.live, hq, Bool.true_or]) rfl fun hboth => by cases hboth.1

theorem Tracked.cancel (h : Tracked s e) {r : Request} (hr : e.current s = some r) :
    Tracked s (e.setCurrent s (some r.markCanceled)) := by
  have howes := h.owes r hr
  have hmark : (r.markCanceled.cancelable != .none) = (r.cancelable != .none) := by
    unfold Request.markCanceled
    cases r.cancelable <;> rfl
  have hnone : r.markCanceled.cancelable = .none ↔ r.cancelable = .none := by
    unfold Request.markCanceled
    cases hc : r.cancelable <;> simp
  have hcur : ∀ r', (e.setCurrent s (some r.markCanceled)).current s = some r' →
      r' = r.markCanceled := by
    intro r' hr'
    rw [current_setCurrent, if_pos rfl] at hr'
    cases hr'
    rfl
  have hagents : e.agents s r.markCanceled = e.agents s r := agents_congr rfl hmark rfl rfl
  refine ⟨fun hnone => ?_, fun r' hr' => ?_, fun r' hr' hns => ?_, fun r' hr' hs => ?_, h.released⟩
  · rw [current_setCurrent, if_pos rfl] at hnone
    cases hnone
  · rw [hcur r' hr']
    refine owes_setCurrent howes.exclusive ?_ (fun _ ho => nomatch ho) fun _ => ?_
    · rw [hagents]; exact howes.refs
    · rw [hmark]; exact howes.routine (by simp)
  · rw [hcur r' hr']
    obtain ⟨hne, hheld⟩ := h.held r hr hns
    exact ⟨hne, fun hc => by cases s <;> exact hheld (hnone.mp hc)⟩
  · rw [hcur r' hr']
    obtain ⟨hcancelable, htotal, hinterval, hun⟩ := h.starting r hr hs
    exact ⟨hnone.mpr hcancelable, htotal, hinterval, fun hpc => by cases s <;> exact hun hpc⟩

/-! ## Requests that arrive -/

/-- A fresh request is completed at once. -/
theorem Tracked.completeNew (h : Tracked s e) {r : Request} (hrefs : r.refCount = .zero)
    (hcancelable : r.cancelable = .none) : Tracked s (e.serialCompleteRequest r) :=
  h.of_sameAgents ⟨rfl, by cases s <;> rfl, by cases s <;> rfl, rfl, rfl⟩ (fun _ => rfl)
    (released_complete h.released hrefs hcancelable)

theorem Tracked.takeId (h : Tracked s e) : Tracked s e.takeId :=
  h.of_sameAgents ⟨rfl, by cases s <;> rfl, by cases s <;> rfl, rfl, rfl⟩ (fun _ => rfl) h.released

theorem Tracked.addCharsQueued (h : Tracked s e) (n : Int) : Tracked s (e.addCharsQueued n) :=
  h.of_sameAgents ⟨rfl, by cases s <;> rfl, by cases s <;> rfl, rfl, rfl⟩ (fun _ => rfl) h.released

theorem Tracked.accept (h : Tracked s e) {body : Body} {length : Nat} {buffer : List UInt8}
    {k : Request → Extension U → Extension U}
    (hk : Tracked s (k (Request.new e.nextId body length buffer) e.takeId)) :
    Tracked s (e.accept body length buffer k) :=
  rel_ite (R := fun _ => Tracked s) (e := e) (fun _ => h.takeId.completeNew rfl rfl) (fun _ => hk)

theorem Tracked.refuse (h : Tracked s e) (status : NtStatus) (id : Nat) (body : Body) (length : Nat)
    (buffer : List UInt8) : Tracked s (e.refuse status (Request.new id body length buffer)) :=
  h.completeNew rfl rfl

/-- The slot is empty and gets a new request. -/
theorem Tracked.arrive (h : Tracked s e) (hnone : e.current s = none) (n : Int) (id : Nat)
    (body : Body) (length : Nat) (buffer : List UInt8) :
    Unheld s ((e.addCharsQueued n).setCurrent s (some (Request.new id body length buffer))) := by
  obtain ⟨hun, _⟩ := h.vacant hnone
  refine ⟨by cases s <;> exact hun, fun r hr => ?_, h.released⟩
  rw [current_setCurrent, if_pos rfl] at hr
  cases hr
  exact ⟨rfl, rfl, rfl⟩

theorem Tracked.serialStartOrQueue (h : Tracked s e) {q : QueueId} (t : Slot) {id : Nat}
    {body : Body} {length : Nat} {buffer : List UInt8} {starter : Extension U → Extension U}
    (hstart : e.current t = none → Tracked s (starter ((e.addCharsQueued
      (charsQueued (Request.new id body length buffer))).setCurrent t
        (some (Request.new id body length buffer))))) :
    Tracked s (e.serialStartOrQueue (Request.new id body length buffer) q t starter) := by
  refine rel_ite (R := fun _ => Tracked s) (e := e) (fun hfree => ?_) (fun _ => ?_)
  · rw [Bool.and_eq_true, Option.isNone_iff_eq_none] at hfree
    exact hstart hfree.2
  · refine rel_ite (R := fun _ => Tracked s) (e := e) (fun _ => ?_) (fun _ => ?_)
    · exact (h.addCharsQueued _).putQueue q _
    · exact (h.addCharsQueued _).completeNew rfl rfl

theorem tracked_runCanceledOnQueue (h : Tracked s e) (hacc : Accounted e) (i : Nat) :
    Tracked s (e.runCanceledOnQueue i) := by
  unfold Extension.runCanceledOnQueue
  split
  · exact h
  · next r hr =>
    have hfresh := hacc.canceled r (List.mem_of_getElem? hr)
    have hmoved : Tracked s { e with canceledOnQueue := e.canceledOnQueue.eraseIdx i } :=
      h.of_sameAgents ⟨rfl, by cases s <;> rfl, by cases s <;> rfl, rfl, rfl⟩ (fun _ => rfl)
        h.released
    refine (hmoved.addCharsQueued _).completeNew ?_ ?_ <;> rw [hfresh] <;> rfl

end

end SerialFc
