import SerialFc.Model.Resize

/-!
# Who frees which ring

* `Owned` — every buffer is the ring, belongs to one pending resize, or was freed once
* `owned_iff` — when a run keeps to it

A resize that leaves the read queue without being started takes its buffer with it: the context
never says that the request is a resize, and a queue that refuses a request says nothing.
-/

namespace SerialFc

open Lib

/-! ## Requests -/

/-- A read has no buffer, and nothing ever notes that a resize is one. -/
structure ReadRequest.WellFormed (r : ReadRequest) : Prop where
  read : r.isRead = true → r.type3InputBuffer = none
  resize : r.isRead = false → r.type3InputBuffer ≠ none ∧ r.ioctlCode ≠ some .setQueueSize

theorem ReadRequest.wellFormed_read : ReadRequest.read.WellFormed :=
  ⟨fun _ => rfl, nofun⟩

theorem ReadRequest.wellFormed_setQueueSize (inSize newBuffer : Nat) :
    (setQueueSize inSize newBuffer).WellFormed :=
  ⟨nofun, fun _ => ⟨nofun, nofun⟩⟩

@[simp] theorem ReadRequest.noteIoctlCode_read : ReadRequest.read.noteIoctlCode = .read := rfl

@[simp] theorem ReadRequest.noteIoctlCode_setQueueSize (inSize newBuffer : Nat) :
    (setQueueSize inSize newBuffer).noteIoctlCode = setQueueSize inSize newBuffer := rfl

namespace RingState

/-- The requests that are not complete. -/
def outstanding (s : RingState) : List ReadRequest := s.currentReadRequest.toList ++ s.readQueue

/-- The buffers that requests have. -/
def buffers (rs : List ReadRequest) : List Nat := rs.flatMap fun r => r.type3InputBuffer.toList

/-- Every buffer that somebody has: the live ring and those of the pending resizes. -/
def held (s : RingState) : List Nat := s.interruptReadBuffer.toList ++ buffers s.outstanding

/-- Every buffer is in one place or freed once, and after a close with no request outstanding all
are freed. -/
structure Owned (s : RingState) : Prop where
  holds : s.pool.Holds s.held
  closed : s.interruptReadBuffer = none → s.outstanding = [] →
    s.pool.freed.Perm (List.range s.pool.allocated)

def StaysOwned (e : Event) (s : RingState) : Prop := ∀ s', step e s = some s' → Owned s'

/-- No resize leaves the read queue unstarted: none is cancelled or purged while it waits, and none
comes to wait while the queue takes no requests. -/
def ResizeStarts : Event → RingState → Prop
  | .setQueueSize inSize memory, s => s.interruptReadBuffer ≠ none → s.bufferSize < inSize →
      memory = true → s.outstanding = [] ∨ s.accepting = true
  | .cancelQueued i, s => ∀ r, s.readQueue[i]? = some r → r.isRead = true
  | .purge, s => ∀ r ∈ s.readQueue, r.isRead = true
  | _, _ => True

theorem Owned.of_holds {s : RingState} (h : s.pool.Holds s.held) : Owned s := by
  refine ⟨h, ?_⟩
  intro hring hout
  rw [held, hring, hout] at h
  exact h.all_freed

/-! ## Buffers of requests -/

@[simp] theorem buffers_nil : buffers [] = [] := rfl

@[simp] theorem buffers_cons (r : ReadRequest) (rs : List ReadRequest) :
    buffers (r :: rs) = r.type3InputBuffer.toList ++ buffers rs := rfl

@[simp] theorem buffers_append (rs qs : List ReadRequest) :
    buffers (rs ++ qs) = buffers rs ++ buffers qs := List.flatMap_append

theorem buffers_of_reads {rs : List ReadRequest} (hwf : ∀ r ∈ rs, r.WellFormed)
    (hread : ∀ r ∈ rs, r.isRead = true) : buffers rs = [] := by
  refine List.flatMap_eq_nil_iff.mpr fun r hr => ?_
  rw [(hwf r hr).read (hread r hr)]
  rfl

theorem buffers_ne_nil {rs : List ReadRequest} {r : ReadRequest} (hr : r ∈ rs)
    (hwf : r.WellFormed) (hresize : r.isRead = false) : buffers rs ≠ [] := by
  intro hnil
  have hempty := List.flatMap_eq_nil_iff.mp hnil r hr
  exact (hwf.resize hresize).1 (Option.toList_eq_nil_iff.mp hempty)

/-- Taking a request out of the queue takes its buffer out. -/
theorem buffers_eraseIdx {rs : List ReadRequest} {i : Nat} {r : ReadRequest}
    (h : rs[i]? = some r) :
    (buffers rs).Perm (r.type3InputBuffer.toList ++ buffers (rs.eraseIdx i)) := by
  obtain ⟨hi, rfl⟩ := List.getElem?_eq_some_iff.mp h
  exact (List.getElem_cons_eraseIdx_perm hi).symm.flatMap_right _

/-! ## Starting requests -/

/-- A resize puts its buffer in place of the ring or frees it. -/
theorem holds_serialResizeBuffer {s : RingState} {r : ReadRequest} {others : List Nat}
    (h : s.pool.Holds (s.interruptReadBuffer.toList ++ (r.type3InputBuffer.toList ++ others))) :
    (s.serialResizeBuffer r).pool.Holds
      ((s.serialResizeBuffer r).interruptReadBuffer.toList ++ others) := by
  unfold serialResizeBuffer
  split
  · refine Pool.Holds.free (h.perm ?_)
    rw [← List.append_assoc, ← List.append_assoc]
    exact List.perm_append_comm.append_right others
  · exact Pool.Holds.free h

/-- Every resize at the front of the queue comes to its end, and the first read stays. -/
theorem holds_serialStartRead {waiting : List ReadRequest} {r : ReadRequest} {s : RingState}
    (h : s.pool.Holds (s.interruptReadBuffer.toList ++ buffers (r :: waiting))) :
    (serialStartRead waiting r s).pool.Holds (serialStartRead waiting r s).held := by
  induction waiting generalizing r s with
  | nil =>
    unfold serialStartRead
    split
    · exact h
    · have hresized := holds_serialResizeBuffer h
      exact hresized
  | cons next waiting ih =>
    unfold serialStartRead
    split
    · exact h
    · exact ih (holds_serialResizeBuffer h)

theorem outstanding_serialStartRead {waiting : List ReadRequest} {r q : ReadRequest}
    {s : RingState} (hq : q ∈ (serialStartRead waiting r s).outstanding) : q ∈ r :: waiting := by
  induction waiting generalizing r s with
  | nil =>
    unfold serialStartRead at hq
    split at hq
    · exact hq
    · exact absurd hq List.not_mem_nil
  | cons next waiting ih =>
    unfold serialStartRead at hq
    split at hq
    · exact hq
    · exact List.mem_cons_of_mem r (ih hq)

/-! ## What a step keeps -/

/-- The requests are as the driver makes them, and a resize is never current for long. -/
structure Requests (s : RingState) : Prop where
  wellFormed : ∀ r ∈ s.outstanding, r.WellFormed
  current : ∀ r, s.currentReadRequest = some r → r.isRead = true

structure Accounted (s : RingState) : Prop extends Requests s where
  holds : s.pool.Holds s.held

theorem accounted_closed : Accounted closed := ⟨⟨nofun, nofun⟩, Pool.holds_empty⟩

theorem current_serialStartRead {waiting : List ReadRequest} {r q : ReadRequest} {s : RingState}
    (hq : (serialStartRead waiting r s).currentReadRequest = some q) : q.isRead = true := by
  induction waiting generalizing r s with
  | nil =>
    unfold serialStartRead at hq
    split at hq
    · next hread =>
      cases hq
      exact hread
    · exact absurd hq nofun
  | cons next waiting ih =>
    unfold serialStartRead at hq
    split at hq
    · next hread =>
      cases hq
      exact hread
    · exact ih hq

theorem outstanding_eq_nil {s : RingState} :
    s.outstanding = [] ↔ s.readQueue = [] ∧ s.currentReadRequest = none := by
  simp [outstanding, and_comm]

theorem Requests.serialStartOrQueue {r : ReadRequest} {s : RingState} (h : Requests s)
    (hr : r.noteIoctlCode.WellFormed) : Requests (s.serialStartOrQueue r) := by
  unfold RingState.serialStartOrQueue
  split
  · refine ⟨fun q hq => ?_, fun q hq => current_serialStartRead hq⟩
    rw [List.mem_singleton.mp (outstanding_serialStartRead hq)]
    exact hr
  split
  · refine ⟨fun q hq => ?_, h.current⟩
    rcases List.mem_append.mp hq with hcurrent | hqueue
    · exact h.wellFormed q (List.mem_append_left _ hcurrent)
    rcases List.mem_append.mp hqueue with hwaiting | hnew
    · exact h.wellFormed q (List.mem_append_right _ hwaiting)
    · rw [List.mem_singleton.mp hnew]
      exact hr
  · exact h

/-- The request is started, or the queue takes it. -/
theorem holds_serialStartOrQueue {r : ReadRequest} {s : RingState}
    (h : s.pool.Holds (r.noteIoctlCode.type3InputBuffer.toList ++ s.held))
    (htaken : s.outstanding = [] ∨ s.accepting = true) :
    (s.serialStartOrQueue r).pool.Holds (s.serialStartOrQueue r).held := by
  unfold serialStartOrQueue
  split
  · next hnone =>
    have hout := outstanding_eq_nil.mpr hnone
    refine holds_serialStartRead (h.perm ?_)
    rw [held, hout, buffers_cons, buffers_nil, List.append_nil, List.append_nil]
    exact List.perm_append_comm
  · next hsome =>
    have haccepting : s.accepting = true :=
      htaken.resolve_left fun hout => hsome (outstanding_eq_nil.mp hout)
    rw [if_pos haccepting]
    refine h.perm ?_
    simp only [held, outstanding, buffers_append, buffers_cons, buffers_nil, List.append_nil]
    rw [← List.append_assoc, ← List.append_assoc]
    exact List.perm_append_comm.trans (by rw [List.append_assoc])

/-- A request without a buffer may be refused. -/
theorem holds_serialStartOrQueue_read {s : RingState} (h : s.pool.Holds s.held) :
    (s.serialStartOrQueue .read).pool.Holds (s.serialStartOrQueue .read).held := by
  by_cases htaken : s.outstanding = [] ∨ s.accepting = true
  · exact holds_serialStartOrQueue h htaken
  · obtain ⟨hout, hrefused⟩ := not_or.mp htaken
    have hsome := fun hnone => hout (outstanding_eq_nil.mpr hnone)
    rw [serialStartOrQueue, if_neg hsome, if_neg hrefused]
    exact h

theorem mem_outstanding_eraseIdx {s : RingState} {i : Nat} {r : ReadRequest}
    (hr : r ∈ s.currentReadRequest.toList ++ s.readQueue.eraseIdx i) : r ∈ s.outstanding := by
  rcases List.mem_append.mp hr with hcurrent | hqueue
  · exact List.mem_append_left _ hcurrent
  · exact List.mem_append_right _ (List.mem_of_mem_eraseIdx hqueue)

/-- A request that leaves the queue gives back nothing: a read has nothing, and a resize is not
recognised. -/
theorem serialEvtCanceledOnQueue_eq {r : ReadRequest} (h : r.WellFormed) (s : RingState) :
    s.serialEvtCanceledOnQueue r = s := by
  unfold serialEvtCanceledOnQueue
  split
  · rfl
  · next hread => exact if_neg (h.resize (Bool.eq_false_iff.mpr hread)).2

theorem foldl_serialEvtCanceledOnQueue {rs : List ReadRequest} (h : ∀ r ∈ rs, r.WellFormed)
    (s : RingState) : rs.foldl (fun s r => s.serialEvtCanceledOnQueue r) s = s := by
  induction rs with
  | nil => rfl
  | cons r rs ih =>
    obtain ⟨hr, hrs⟩ := List.forall_mem_cons.mp h
    rw [List.foldl_cons, serialEvtCanceledOnQueue_eq hr]
    exact ih hrs

theorem Requests.queued {s : RingState} (h : Requests s) : ∀ r ∈ s.readQueue, r.WellFormed :=
  fun r hr => h.wellFormed r (List.mem_append_right _ hr)

/-- A cancelled request and the rest. -/
theorem held_cancelQueued {s : RingState} {i : Nat} {r : ReadRequest}
    (hr : s.readQueue[i]? = some r) :
    (r.type3InputBuffer.toList ++ { s with readQueue := s.readQueue.eraseIdx i }.held).Perm
      s.held := by
  simp only [held, outstanding, buffers_append]
  have hqueue := buffers_eraseIdx hr
  refine .trans ?_ ((hqueue.symm.append_left (buffers s.currentReadRequest.toList)).append_left
    s.interruptReadBuffer.toList)
  rw [← List.append_assoc, ← List.append_assoc, ← List.append_assoc, ← List.append_assoc]
  refine List.Perm.append_right _ ?_
  rw [List.append_assoc]
  exact List.perm_append_comm

/-- The waiting requests and the rest. -/
theorem held_purge (s : RingState) :
    (buffers s.readQueue ++ { s with readQueue := [], accepting := false }.held).Perm s.held := by
  simp only [held, outstanding, buffers_append, List.append_nil]
  rw [← List.append_assoc s.interruptReadBuffer.toList]
  exact List.perm_append_comm

theorem Requests.step {e : Event} {s s' : RingState} (h : Requests s)
    (hstep : step e s = some s') : Requests s' := by
  cases e with
  | create size =>
    obtain ⟨-, ⟨⟩⟩ := Option.ite_none_right_eq_some.mp hstep
    exact ⟨h.wellFormed, h.current⟩
  | read =>
    obtain ⟨-, ⟨⟩⟩ := Option.ite_none_right_eq_some.mp hstep
    exact h.serialStartOrQueue ReadRequest.wellFormed_read
  | setQueueSize inSize memory =>
    obtain ⟨-, ⟨⟩⟩ := Option.ite_none_right_eq_some.mp hstep
    -- large enough already, no memory, or a request with the buffer attached
    unfold ioctlSetQueueSize
    split
    · exact h
    split
    · exact h
    · have halloc : Requests { s with pool := s.pool.alloc.2 } := ⟨h.wellFormed, h.current⟩
      exact halloc.serialStartOrQueue (ReadRequest.wellFormed_setQueueSize _ _)
  | completeRead =>
    obtain ⟨-, ⟨⟩⟩ := Option.ite_none_right_eq_some.mp hstep
    unfold serialCompleteRead
    split
    · next hqueue => exact ⟨by simp [outstanding, hqueue], nofun⟩
    · next hqueue =>
      refine ⟨fun r hr => ?_, fun r hr => current_serialStartRead hr⟩
      have hmem := outstanding_serialStartRead hr
      rw [← hqueue] at hmem
      exact h.queued r hmem
  | cancelQueued i =>
    obtain ⟨q, hq, rfl⟩ := Option.map_eq_some_iff.mp hstep
    rw [serialEvtCanceledOnQueue_eq (h.queued q (List.mem_of_getElem? hq))]
    exact ⟨fun r hr => h.wellFormed r (mem_outstanding_eraseIdx hr), h.current⟩
  | purge =>
    cases hstep
    rw [foldl_serialEvtCanceledOnQueue h.queued]
    refine ⟨fun r hr => h.wellFormed r (List.mem_append_left _ ?_), h.current⟩
    simpa [outstanding] using hr
  | start =>
    cases hstep
    exact ⟨h.wellFormed, h.current⟩
  | close =>
    obtain ⟨-, ⟨⟩⟩ := Option.ite_none_right_eq_some.mp hstep
    exact ⟨h.wellFormed, h.current⟩

theorem holds_ioctlSetQueueSize {s : RingState} (h : s.pool.Holds s.held) {inSize : Nat}
    {memory : Bool}
    (hstarts : s.bufferSize < inSize → memory = true → s.outstanding = [] ∨ s.accepting = true) :
    (s.ioctlSetQueueSize inSize memory).pool.Holds (s.ioctlSetQueueSize inSize memory).held := by
  unfold ioctlSetQueueSize
  split
  · exact h
  split
  · exact h
  · next hsize hmemory =>
    refine holds_serialStartOrQueue h.alloc ?_
    exact hstarts (Nat.lt_of_not_le hsize) (by simpa using hmemory)

/-- The current read has nothing to give back. -/
theorem holds_serialCompleteRead {s : RingState} (hreq : Requests s) (h : s.pool.Holds s.held) :
    s.serialCompleteRead.pool.Holds s.serialCompleteRead.held := by
  have hcurrent : buffers s.currentReadRequest.toList = [] := by
    refine buffers_of_reads (fun r hr => ?_) (fun r hr => ?_)
    · exact hreq.wellFormed r (List.mem_append_left _ hr)
    · exact hreq.current r (Option.mem_toList.mp hr)
  have hheld : s.held = s.interruptReadBuffer.toList ++ buffers s.readQueue := by
    rw [held, outstanding, buffers_append, hcurrent, List.nil_append]
  rw [hheld] at h
  unfold serialCompleteRead
  split
  · next hqueue =>
    rw [hqueue] at h
    simpa [held, outstanding, hqueue] using h
  · next hqueue =>
    rw [hqueue] at h
    exact holds_serialStartRead h

/-- **Step lemma.** A step that starts every resize keeps account of every buffer. -/
theorem holds_step {e : Event} {s s' : RingState} (hreq : Requests s) (h : s.pool.Holds s.held)
    (hstarts : ResizeStarts e s) (hstep : step e s = some s') : s'.pool.Holds s'.held := by
  cases e with
  | create size =>
    obtain ⟨hring, ⟨⟩⟩ := Option.ite_none_right_eq_some.mp hstep
    have halloc := h.alloc
    rw [held, hring] at halloc
    exact halloc
  | read =>
    obtain ⟨-, ⟨⟩⟩ := Option.ite_none_right_eq_some.mp hstep
    exact holds_serialStartOrQueue_read h
  | setQueueSize inSize memory =>
    obtain ⟨hopen, ⟨⟩⟩ := Option.ite_none_right_eq_some.mp hstep
    exact holds_ioctlSetQueueSize h (hstarts hopen)
  | completeRead =>
    obtain ⟨-, ⟨⟩⟩ := Option.ite_none_right_eq_some.mp hstep
    exact holds_serialCompleteRead hreq h
  | cancelQueued i =>
    obtain ⟨q, hq, rfl⟩ := Option.map_eq_some_iff.mp hstep
    have hwf := hreq.queued q (List.mem_of_getElem? hq)
    rw [serialEvtCanceledOnQueue_eq hwf]
    have hheld := h.perm (held_cancelQueued hq)
    rw [hwf.read (hstarts q hq)] at hheld
    exact hheld
  | purge =>
    cases hstep
    rw [foldl_serialEvtCanceledOnQueue hreq.queued]
    have hheld := h.perm (held_purge s)
    rw [buffers_of_reads hreq.queued hstarts] at hheld
    exact hheld
  | start =>
    cases hstep
    exact h
  | close =>
    obtain ⟨-, ⟨⟩⟩ := Option.ite_none_right_eq_some.mp hstep
    exact Pool.Holds.free h

/-- The converse: a resize that does not start takes its buffer with it. -/
theorem resizeStarts_of_holds {e : Event} {s : RingState} (hreq : Requests s)
    (h : s.pool.Holds s.held)
    (hstays : ∀ s', step e s = some s' → s'.pool.Holds s'.held) : ResizeStarts e s := by
  cases e with
  | setQueueSize inSize memory =>
    intro hopen hsize hmemory
    by_contra hnot
    obtain ⟨hout, hrefused⟩ := not_or.mp hnot
    have hsome := fun hnone => hout (outstanding_eq_nil.mpr hnone)
    have hafter := hstays _ (if_pos hopen)
    rw [ioctlSetQueueSize, if_neg (Nat.not_le.mpr hsize), hmemory, if_neg (by decide),
      serialStartOrQueue, if_neg (by exact hsome), if_neg (by exact hrefused)] at hafter
    have halloc : s.pool.alloc.2.Holds ([s.pool.alloc.1] ++ s.held) := h.alloc
    exact halloc.not_drop (List.cons_ne_nil _ _) hafter
  | cancelQueued i =>
    intro r hr
    have hwf := hreq.queued r (List.mem_of_getElem? hr)
    by_contra hresize
    have hafter := hstays _ (Option.map_eq_some_iff.mpr ⟨r, hr, rfl⟩)
    rw [serialEvtCanceledOnQueue_eq hwf] at hafter
    refine (h.perm (held_cancelQueued hr)).not_drop ?_ hafter
    rw [Ne, Option.toList_eq_nil_iff]
    exact (hwf.resize (Bool.eq_false_iff.mpr hresize)).1
  | purge =>
    intro r hr
    by_contra hresize
    have hafter := hstays _ rfl
    rw [foldl_serialEvtCanceledOnQueue hreq.queued] at hafter
    refine (h.perm (held_purge s)).not_drop ?_ hafter
    exact buffers_ne_nil hr (hreq.queued r hr) (Bool.eq_false_iff.mpr hresize)
  | create | read | completeRead | start | close => trivial

/-- **Ownership of receive buffers.** In a run from the closed port every buffer has one owner, or
was freed once, in every state if and only if no resize leaves the read queue unstarted. -/
theorem owned_iff {es : List Event} :
    RunMeets step StaysOwned es closed ↔ RunMeets step ResizeStarts es closed := by
  constructor
  · intro h
    refine RunMeets.of_invariant (fun e s s' hstep hstays hs => ?_) (fun e s hstays hs => ?_)
      h accounted_closed
    · exact ⟨hs.step hstep, (hstays s' hstep).holds⟩
    · exact resizeStarts_of_holds hs.toRequests hs.holds fun s' hstep => (hstays s' hstep).holds
  · intro h
    refine RunMeets.of_invariant (fun e s s' hstep hstarts hs => ?_) (fun e s hstarts hs => ?_)
      h accounted_closed
    · exact ⟨hs.step hstep, holds_step hs.toRequests hs.holds hstarts hstep⟩
    · exact fun s' hstep => .of_holds (holds_step hs.toRequests hs.holds hstarts hstep)

/-- A read is pending, a resize waits behind it and is cancelled. -/
theorem not_owned_cancelled :
    ¬RunMeets step StaysOwned [.create 128, .read, .setQueueSize 4096 true, .cancelQueued 0]
      closed := by
  rintro ⟨-, h⟩
  obtain ⟨-, h⟩ := h _ rfl
  obtain ⟨-, h⟩ := h _ rfl
  obtain ⟨h, -⟩ := h _ rfl
  have hlength := (h _ rfl).holds.length
  exact absurd hlength (by decide)

end RingState

end SerialFc
