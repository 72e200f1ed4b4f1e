import SerialFc.Model.Flush
import Mathlib.Tactic.ByContra

/-!
# Flush

* `KeepsPromise` — no write is lost or stranded, and a flush that completes has waited for every
  write before it
* `keepsPromise_of_waits` — when a run keeps the promise, and that any other step can break it
-/

namespace SerialFc

open Lib

namespace FlushState

/-- The writes that are not completed. -/
def outstanding (s : FlushState) : List WriteRequest :=
  s.currentWriteRequest.toList ++ s.writeQueue

def numbers (ws : List WriteRequest) : List Nat := ws.map WriteRequest.number

/-- Every write is outstanding or was completed, once. -/
def Lossless (s : FlushState) : Prop := s.writes.Holds (numbers s.outstanding)

/-- With no flush under way, writes wait only behind a current write. -/
def Driven (s : FlushState) : Prop :=
  s.flushes = [] → s.currentWriteRequest = none → s.writeQueue = []

/-- After the step no write is lost or stranded, and if a flush completes in it, every write that
was submitted before it is completed. -/
def KeepsPromise (e : Event) (s : FlushState) : Prop :=
  ∀ s', step e s = some s' → Lossless s' ∧ Driven s' ∧
    ∀ i first, e = .flushStart i → s.flushes[i]? = some first →
      ∀ number < first, number ∈ s'.writes.freed

/-- A flush begins when no write waits and the one in flight was retrieved from the queue, and no
write ends in a stopped queue that has writes waiting. -/
def Waits : Event → FlushState → Prop
  | .flushStop, s => s.writeQueue = [] ∧ ∀ w, s.currentWriteRequest = some w → w.retrieved = true
  | .completeWrite, s | .cancelCurrent, s => s.stopped = true → s.writeQueue = []
  | _, _ => True

/-! ## No write is lost -/

theorem mem_numbers {ws : List WriteRequest} {w : WriteRequest} (h : w ∈ ws) :
    w.number ∈ numbers ws := List.mem_map_of_mem h

theorem numbers_retrieveNextRequest (s : FlushState) :
    numbers s.retrieveNextRequest.outstanding = numbers s.writeQueue := by
  unfold retrieveNextRequest
  split
  · next hqueue =>
    rw [hqueue]
    rfl
  · rfl

theorem writes_retrieveNextRequest (s : FlushState) :
    s.retrieveNextRequest.writes = s.writes := by
  unfold retrieveNextRequest
  split <;> rfl

theorem Lossless.serialGetNextRequest {s : FlushState} (h : Lossless s) :
    Lossless s.serialGetNextRequest := by
  unfold Lossless at h ⊢
  unfold FlushState.serialGetNextRequest
  split
  · next hnone =>
    rw [numbers_retrieveNextRequest, writes_retrieveNextRequest]
    rw [outstanding, hnone] at h
    exact h
  · next old hold =>
    show (s.retrieveNextRequest.writes.free (some old.number)).Holds
      (numbers s.retrieveNextRequest.outstanding)
    rw [numbers_retrieveNextRequest, writes_retrieveNextRequest]
    rw [outstanding, hold] at h
    exact Pool.Holds.free h

theorem Lossless.serialStartOrQueue {s : FlushState} (h : Lossless s) (length : Nat) :
    Lossless (s.serialStartOrQueue length) := by
  have halloc := Pool.Holds.alloc h
  unfold FlushState.serialStartOrQueue
  dsimp only
  split
  · next hidle =>
    rw [outstanding, hidle.1, hidle.2] at halloc
    rw [Lossless, outstanding, hidle.1]
    exact halloc
  · refine halloc.perm ?_
    simp only [outstanding, numbers, List.map_append, List.map_cons, List.map_nil]
    rw [← List.append_assoc]
    exact List.perm_append_singleton _ _

theorem numbers_eraseIdx {s : FlushState} {i : Nat} {w : WriteRequest}
    (h : s.writeQueue[i]? = some w) :
    (w.number :: numbers (s.currentWriteRequest.toList ++ s.writeQueue.eraseIdx i)).Perm
      (numbers s.outstanding) := by
  obtain ⟨hi, rfl⟩ := List.getElem?_eq_some_iff.mp h
  have hqueue := (List.getElem_cons_eraseIdx_perm hi).map WriteRequest.number
  simp only [outstanding, numbers, List.map_append]
  refine .trans ?_ (hqueue.append_left _)
  exact List.perm_middle.symm

theorem Lossless.step {e : Event} {s s' : FlushState} (h : Lossless s)
    (hstep : step e s = some s') : Lossless s' := by
  cases e with
  | write length =>
    cases hstep
    exact h.serialStartOrQueue length
  | transmit amountToWrite =>
    cases hstep
    unfold Lossless outstanding FlushState.transmit at *
    cases hcurrent : s.currentWriteRequest with
    | none =>
      rw [hcurrent] at h
      exact h
    | some w =>
      rw [hcurrent] at h
      exact h
  | completeWrite | cancelCurrent =>
    obtain ⟨-, ⟨⟩⟩ := Option.ite_none_right_eq_some.mp hstep
    exact h.serialGetNextRequest
  | cancelQueued i =>
    obtain ⟨w, hw, rfl⟩ := Option.map_eq_some_iff.mp hstep
    exact Pool.Holds.free (Pool.Holds.perm h (numbers_eraseIdx hw))
  | flushStop =>
    cases hstep
    exact h
  | flushStart i =>
    obtain ⟨-, ⟨⟩⟩ := Option.ite_none_right_eq_some.mp hstep
    exact h

/-- What is outstanding is not completed. -/
theorem Lossless.not_completed {s : FlushState} (h : Lossless s) {w : WriteRequest}
    (hw : w ∈ s.outstanding) : w.number ∉ s.writes.freed :=
  (List.nodup_append.mp (Pool.Holds.nodup h)).2.2 _ (mem_numbers hw) _ |>.mt (by simp)

/-- A write that came and is not outstanding is completed. -/
theorem Lossless.completed {s : FlushState} (h : Lossless s) {number : Nat}
    (hcame : number < s.writes.allocated) (hdone : ∀ w ∈ s.outstanding, w.number ≠ number) :
    number ∈ s.writes.freed := by
  have hmem : number ∈ numbers s.outstanding ++ s.writes.freed :=
    (List.Perm.mem_iff h).mpr (List.mem_range.mpr hcame)
  refine (List.mem_append.mp hmem).resolve_left fun hnumber => ?_
  obtain ⟨w, hw, heq⟩ := List.mem_map.mp hnumber
  exact hdone w hw heq

/-! ## Nothing waits in vain -/

/-- What runs of steps that wait keep. Writes wait only behind a current write, also during a flush,
and a flush still waits for at most the current write, which the framework counts. -/
structure Waiting (s : FlushState) : Prop where
  lossless : Lossless s
  driven : s.currentWriteRequest = none → s.writeQueue = []
  first : ∀ first ∈ s.flushes, first ≤ s.writes.allocated
  queued : ∀ first ∈ s.flushes, ∀ w ∈ s.writeQueue, first ≤ w.number
  current : ∀ first ∈ s.flushes, ∀ w, s.currentWriteRequest = some w →
    w.retrieved = true ∨ first ≤ w.number

theorem waiting_idle : Waiting idle := ⟨Pool.holds_empty, fun _ => rfl, nofun, nofun, nofun⟩

theorem flushes_serialGetNextRequest (s : FlushState) :
    s.serialGetNextRequest.flushes = s.flushes := by
  unfold serialGetNextRequest retrieveNextRequest
  split <;> split <;> rfl

theorem allocated_serialGetNextRequest (s : FlushState) :
    s.serialGetNextRequest.writes.allocated = s.writes.allocated := by
  unfold serialGetNextRequest retrieveNextRequest
  split <;> split <;> rfl

/-- Either the queue gives nothing, or its head becomes current. -/
theorem serialGetNextRequest_cases (s : FlushState) :
    (s.serialGetNextRequest.currentWriteRequest = none ∧
      s.serialGetNextRequest.writeQueue = s.writeQueue ∧ (s.stopped = true ∨ s.writeQueue = [])) ∨
    ∃ next, s.stopped = false ∧
      s.serialGetNextRequest.currentWriteRequest = some { next with retrieved := true } ∧
      s.writeQueue = next :: s.serialGetNextRequest.writeQueue := by
  have hretrieve : (s.retrieveNextRequest.currentWriteRequest = none ∧
      s.retrieveNextRequest.writeQueue = s.writeQueue ∧ (s.stopped = true ∨ s.writeQueue = [])) ∨
      ∃ next, s.stopped = false ∧
        s.retrieveNextRequest.currentWriteRequest = some { next with retrieved := true } ∧
        s.writeQueue = next :: s.retrieveNextRequest.writeQueue := by
    unfold retrieveNextRequest
    split
    · next hstopped hqueue => exact .inr ⟨_, hstopped, rfl, hqueue⟩
    · next hno =>
      refine .inl ⟨rfl, rfl, ?_⟩
      cases hstopped : s.stopped with
      | true => exact .inl rfl
      | false =>
        cases hqueue : s.writeQueue with
        | nil => exact .inr rfl
        | cons next waiting => exact (hno next waiting hstopped hqueue).elim
  unfold serialGetNextRequest
  split <;> exact hretrieve

theorem Waiting.serialGetNextRequest {s : FlushState} (h : Waiting s)
    (hwaits : s.stopped = true → s.writeQueue = []) : Waiting s.serialGetNextRequest := by
  have hlossless := h.lossless.serialGetNextRequest
  have hflushes := flushes_serialGetNextRequest s
  have hallocated := allocated_serialGetNextRequest s
  rcases serialGetNextRequest_cases s with ⟨hcurrent, hqueue, hempty⟩ | ⟨next, -, hcurrent, hqueue⟩
  · have hnil : s.serialGetNextRequest.writeQueue = [] := by
      rw [hqueue]
      exact hempty.elim hwaits id
    refine ⟨hlossless, fun _ => hnil, ?_, ?_, ?_⟩
    · rw [hflushes, hallocated]
      exact h.first
    · rw [hnil]
      exact fun _ _ => nofun
    · rw [hcurrent]
      exact fun _ _ => nofun
  · refine ⟨hlossless, ?_, ?_, ?_, ?_⟩
    · rw [hcurrent]
      exact nofun
    · rw [hflushes, hallocated]
      exact h.first
    · rw [hflushes]
      intro first hfirst w hw
      refine h.queued first hfirst w ?_
      rw [hqueue]
      exact List.mem_cons_of_mem next hw
    · rw [hcurrent]
      rintro first - w ⟨⟩
      exact .inl rfl

theorem Waiting.serialStartOrQueue {s : FlushState} (h : Waiting s) (length : Nat) :
    Waiting (s.serialStartOrQueue length) := by
  have hlossless := h.lossless.serialStartOrQueue length
  unfold FlushState.serialStartOrQueue at hlossless ⊢
  dsimp only at hlossless ⊢
  have hfirst : ∀ first ∈ s.flushes, first ≤ s.writes.alloc.1 := h.first
  split at hlossless
  · next hidle =>
    rw [if_pos hidle]
    refine ⟨hlossless, nofun, fun first hf => Nat.le_succ_of_le (h.first first hf), h.queued, ?_⟩
    rintro first hf w ⟨⟩
    exact .inr (hfirst first hf)
  · next hbusy =>
    rw [if_neg hbusy]
    refine ⟨hlossless, ?_, fun first hf => Nat.le_succ_of_le (h.first first hf), ?_, h.current⟩
    · intro hnone
      exact absurd ⟨h.driven hnone, hnone⟩ hbusy
    · intro first hf w hw
      rcases List.mem_append.mp hw with hold | hnew
      · exact h.queued first hf w hold
      · rw [List.mem_singleton.mp hnew]
        exact hfirst first hf

/-- **Step lemma.** -/
theorem Waiting.step {e : Event} {s s' : FlushState} (h : Waiting s) (hwaits : Waits e s)
    (hstep : step e s = some s') : Waiting s' := by
  have hlossless := h.lossless.step hstep
  cases e with
  | write length =>
    cases hstep
    exact h.serialStartOrQueue length
  | transmit amountToWrite =>
    cases hstep
    refine ⟨hlossless, ?_, h.first, h.queued, ?_⟩
    · exact fun hnone => h.driven (Option.map_eq_none_iff.mp hnone)
    · intro first hf w hw
      obtain ⟨v, hv, rfl⟩ := Option.map_eq_some_iff.mp hw
      exact h.current first hf v hv
  | completeWrite | cancelCurrent =>
    obtain ⟨-, ⟨⟩⟩ := Option.ite_none_right_eq_some.mp hstep
    exact h.serialGetNextRequest hwaits
  | cancelQueued i =>
    obtain ⟨w, hw, rfl⟩ := Option.map_eq_some_iff.mp hstep
    refine ⟨hlossless, ?_, h.first, ?_, h.current⟩
    · intro hnone
      have hqueue := h.driven hnone
      rw [hqueue] at hw
      exact absurd hw nofun
    · exact fun first hf v hv => h.queued first hf v (List.mem_of_mem_eraseIdx hv)
  | flushStop =>
    cases hstep
    -- by `hwaits` nothing waits, and the current write belongs to the flush
    obtain ⟨hqueue, hcurrent⟩ := hwaits
    refine ⟨hlossless, h.driven, ?_, ?_, ?_⟩
    · intro first hf
      rcases List.mem_append.mp hf with hold | hnew
      · exact h.first first hold
      · rw [List.mem_singleton.mp hnew]
    · intro first hf w hw
      rw [hqueue] at hw
      exact absurd hw List.not_mem_nil
    · exact fun first hf w hw => .inl (hcurrent w hw)
  | flushStart i =>
    obtain ⟨-, ⟨⟩⟩ := Option.ite_none_right_eq_some.mp hstep
    have hmem {first : Nat} (hf : first ∈ s.flushes.eraseIdx i) : first ∈ s.flushes :=
      List.mem_of_mem_eraseIdx hf
    refine ⟨hlossless, h.driven, fun _ hf => h.first _ (hmem hf), ?_, ?_⟩
    · exact fun _ hf => h.queued _ (hmem hf)
    · exact fun _ hf => h.current _ (hmem hf)

/-- The flush completes when the driver owns nothing of the queue: no earlier write is left. -/
theorem Waiting.keepsPromise {e : Event} {s : FlushState} (h : Waiting s) (hwaits : Waits e s) :
    KeepsPromise e s := by
  intro s' hstep
  have h' := h.step hwaits hstep
  refine ⟨h'.lossless, fun _ => h'.driven, ?_⟩
  rintro i first rfl hfirst number hnumber
  obtain ⟨⟨-, howns⟩, ⟨⟩⟩ := Option.ite_none_right_eq_some.mp hstep
  have hmem := List.mem_of_getElem? hfirst
  refine h.lossless.completed (Nat.lt_of_lt_of_le hnumber (h.first first hmem)) fun w hw => ?_
  suffices hlater : first ≤ w.number by omega
  rcases List.mem_append.mp hw with hcurrent | hqueue
  · have hsome := Option.mem_toList.mp hcurrent
    refine (h.current first hmem w hsome).resolve_left fun hretrieved => ?_
    rw [ownsRetrieved, hsome, Option.any_some, hretrieved] at howns
    exact absurd howns (by decide)
  · exact h.queued first hmem w hqueue

/-! ## Any other step breaks the promise -/

/-- A flush that completes before an earlier write. -/
theorem not_keepsPromise {s : FlushState} {i first : Nat} {w : WriteRequest} (h : Lossless s)
    (hfirst : s.flushes[i]? = some first) (howns : s.ownsRetrieved = false)
    (hw : w ∈ s.outstanding) (hnumber : w.number < first) : ¬KeepsPromise (.flushStart i) s := by
  intro hkeeps
  have hi : i < s.flushes.length := (List.getElem?_eq_some_iff.mp hfirst).1
  have hdone := (hkeeps _ (if_pos ⟨hi, howns⟩)).2.2 i first rfl hfirst w.number hnumber
  exact h.not_completed hw hdone

/-- Once every flush has ended, what waits without a current write waits in vain. -/
theorem not_runMeets_flushStart {s : FlushState} (hcurrent : s.currentWriteRequest = none)
    (hqueue : s.writeQueue ≠ []) (hdriven : Driven s) :
    ¬RunMeets step KeepsPromise (List.replicate s.flushes.length (.flushStart 0)) s := by
  induction hn : s.flushes.length generalizing s with
  | zero => exact absurd (hdriven (List.length_eq_zero_iff.mp hn) hcurrent) hqueue
  | succ n ih =>
    rintro ⟨hkeeps, hrest⟩
    have hstep : step (.flushStart 0) s =
        some { s with stopped := false, flushes := s.flushes.eraseIdx 0 } := by
      refine if_pos ⟨by omega, ?_⟩
      rw [ownsRetrieved, hcurrent]
      rfl
    have hlength : (s.flushes.eraseIdx 0).length = n := by
      rw [List.length_eraseIdx_of_lt (by omega), hn]
      rfl
    have hlater := ih (s := { s with stopped := false, flushes := s.flushes.eraseIdx 0 })
    exact hlater hcurrent hqueue (hkeeps _ hstep).2.1 hlength (hrest _ hstep)

/-- A number of a write that came is lower than the next. -/
theorem Lossless.number_lt {s : FlushState} (h : Lossless s) {w : WriteRequest}
    (hw : w ∈ s.outstanding) : w.number < s.writes.allocated :=
  List.mem_range.mp ((List.Perm.mem_iff h).mp (List.mem_append_left _ (mem_numbers hw)))

/-- A write ends while others wait in the stopped queue. -/
theorem not_runMeets_ends {e : Event} {s : FlushState}
    (hstep : step e s = some s.serialGetNextRequest) (hstopped : s.stopped = true)
    (hqueue : s.writeQueue ≠ []) : ∃ es, ¬RunMeets step KeepsPromise (e :: es) s := by
  refine ⟨List.replicate s.serialGetNextRequest.flushes.length (.flushStart 0), ?_⟩
  rintro ⟨hkeeps, hrest⟩
  rcases serialGetNextRequest_cases s with ⟨hcurrent, hsame, -⟩ | ⟨next, hstarted, -⟩
  · rw [← hsame] at hqueue
    exact not_runMeets_flushStart hcurrent hqueue (hkeeps _ hstep).2.1 (hrest _ hstep)
  · exact absurd hstopped (by rw [hstarted]; decide)

/-- A flush begins while the write in flight is not counted. -/
theorem not_runMeets_uncounted {s : FlushState} (h : Lossless s) {w : WriteRequest}
    (hcurrent : s.currentWriteRequest = some w) (hretrieved : w.retrieved = false) :
    ∃ es, ¬RunMeets step KeepsPromise (.flushStop :: es) s := by
  refine ⟨[.flushStart s.flushes.length], ?_⟩
  rintro ⟨-, hrest⟩
  obtain ⟨hkeeps, -⟩ := hrest _ rfl
  have hw : w ∈ s.outstanding := List.mem_append_left _ (Option.mem_toList.mpr hcurrent)
  refine not_keepsPromise (by exact h) List.getElem?_concat_length ?_ (by exact hw)
    (h.number_lt hw) hkeeps
  rw [ownsRetrieved, hcurrent]
  exact hretrieved

/-- A flush begins while writes wait: the one in flight ends first. -/
theorem not_runMeets_waiting {s : FlushState} (h : Lossless s) {w v : WriteRequest}
    (hcurrent : s.currentWriteRequest = some w) (hv : v ∈ s.writeQueue) :
    ∃ es, ¬RunMeets step KeepsPromise (.flushStop :: es) s := by
  refine ⟨[.cancelCurrent, .flushStart s.flushes.length], ?_⟩
  rintro ⟨-, hrest⟩
  obtain ⟨-, hrest⟩ := hrest _ rfl
  let s₁ : FlushState :=
    { s with stopped := true, flushes := s.flushes ++ [s.writes.allocated] }
  have hcancel : step .cancelCurrent s₁ = some s₁.serialGetNextRequest :=
    if_pos (Option.isSome_of_eq_some hcurrent)
  obtain ⟨hkeeps, -⟩ := hrest _ hcancel
  have hlossless : Lossless s₁.serialGetNextRequest :=
    Lossless.serialGetNextRequest (by exact h)
  have hnumber : v.number < s.writes.allocated := h.number_lt (List.mem_append_right _ hv)
  rcases serialGetNextRequest_cases s₁ with ⟨hnone, hsame, -⟩ | ⟨next, hstarted, -⟩
  · refine not_keepsPromise hlossless ?_ ?_ (List.mem_append_right _ ?_) hnumber hkeeps
    · rw [flushes_serialGetNextRequest]
      exact List.getElem?_concat_length
    · rw [ownsRetrieved, hnone]
      rfl
    · rw [hsame]
      exact hv
  · have hstopped : s₁.stopped = true := rfl
    rw [hstopped] at hstarted
    exact absurd hstarted (by decide)

/-- From a state that waiting steps lead to, a step that does not wait leads to a broken promise. -/
theorem runMeets_broken {e : Event} {s : FlushState} (h : Waiting s) (hnot : ¬Waits e s)
    (henabled : (step e s).isSome) : ∃ es, ¬RunMeets step KeepsPromise (e :: es) s := by
  obtain ⟨s', hstep⟩ := Option.isSome_iff_exists.mp henabled
  cases e with
  | completeWrite | cancelCurrent =>
    obtain ⟨hstopped, hqueue⟩ := Classical.not_imp.mp hnot
    obtain ⟨-, ⟨⟩⟩ := Option.ite_none_right_eq_some.mp hstep
    exact not_runMeets_ends hstep hstopped hqueue
  | flushStop =>
    cases hcurrent : s.currentWriteRequest with
    | none => exact absurd ⟨h.driven hcurrent, by rw [hcurrent]; nofun⟩ hnot
    | some w =>
      cases hretrieved : w.retrieved with
      | false => exact not_runMeets_uncounted h.lossless hcurrent hretrieved
      | true =>
        cases hqueue : s.writeQueue with
        | nil =>
          refine absurd ⟨hqueue, fun v hv => ?_⟩ hnot
          rw [← Option.some.inj (hcurrent.symm.trans hv)]
          exact hretrieved
        | cons v waiting =>
          refine not_runMeets_waiting h.lossless hcurrent (v := v) ?_
          rw [hqueue]
          exact List.mem_cons_self
  | write | transmit | cancelQueued | flushStart => exact absurd trivial hnot

/-- **Flush.** In a run whose steps wait, no write is lost or stranded and every flush completes
after the writes before it; and after such a run, any other step can be followed by steps that
break this. -/
theorem keepsPromise_of_waits (es : List Event) (hwaits : RunMeets step Waits es idle) :
    RunMeets step KeepsPromise es idle ∧
      ∀ e s, run step es idle = some s → ¬Waits e s → (step e s).isSome →
        ∃ es', ¬RunMeets step KeepsPromise (es ++ e :: es') idle := by
  constructor
  · exact RunMeets.of_invariant (fun _ _ _ hstep hw hs => Waiting.step hs hw hstep)
      (fun _ _ hw hs => Waiting.keepsPromise hs hw) hwaits waiting_idle
  · intro e s hrun hnot henabled
    have hs : Waiting s := run_invariant_of_meets
      (fun _ _ _ hstep hw hs => Waiting.step hs hw hstep) hrun hwaits waiting_idle
    obtain ⟨es', hbroken⟩ := runMeets_broken hs hnot henabled
    exact ⟨es', fun hall => hbroken (hall.append_right hrun)⟩

/-- Two writes are sent, and a flush begins while the second is in flight. -/
def secondInFlight : List Event :=
  [.write 5, .write 5, .transmit 5, .completeWrite, .flushStop, .transmit 5, .completeWrite,
    .flushStart 0]

/-- This flush waits; one that begins while the first write is in flight would not. -/
theorem keepsPromise_second :
    RunMeets step KeepsPromise secondInFlight idle ∧ ∃ es, ¬RunMeets step KeepsPromise ([.write 5] ++ .flushStop :: es) idle := by
  constructor
  · refine (keepsPromise_of_waits secondInFlight ⟨trivial, ?_⟩).1
    rintro _ ⟨⟩
    refine ⟨trivial, ?_⟩
    rintro _ ⟨⟩
    refine ⟨trivial, ?_⟩
    rintro _ ⟨⟩
    refine ⟨nofun, ?_⟩
    rintro _ ⟨⟩
    refine ⟨⟨rfl, by rintro _ ⟨⟩; rfl⟩, ?_⟩
    rintro _ ⟨⟩
    refine ⟨trivial, ?_⟩
    rintro _ ⟨⟩
    refine ⟨fun _ => rfl, ?_⟩
    rintro _ ⟨⟩
    exact ⟨trivial, fun _ _ => trivial⟩
  · refine (keepsPromise_of_waits [.write 5] ⟨trivial, fun _ _ => trivial⟩).2 .flushStop _ rfl ?_
      rfl
    rintro ⟨-, hretrieved⟩
    exact absurd (hretrieved _ rfl) (by decide)

/-- A write is in flight, and a flush completes before it. -/
theorem not_keepsPromise_inFlight :
    ¬RunMeets step KeepsPromise [.write 5, .flushStop, .flushStart 0] idle := by
  rintro ⟨-, h⟩
  obtain ⟨-, h⟩ := h _ rfl
  obtain ⟨h, -⟩ := h _ rfl
  exact absurd ((h _ rfl).2.2 0 1 rfl rfl 0 (by decide)) (by decide)

end FlushState

end SerialFc
