import SerialFc.Properties.Agents
import Mathlib.Algebra.BigOperators.Fin

/-!
# Where every request is

A request the driver has accepted is in exactly one place: a slot, a queue, the list of those
cancelled while waiting, the list of those that lost their slot, or the list of the completed.
`Accounted` says so and that every place holds the kind of request it is for.

* `places_setCurrent`, `places_putQueue` — what writing to a slot or a queue does to the count
* `Effect.accounted` — code under the interrupt lock moves nothing
* `Accounted.getNext` and the others — one for each way a request moves
-/

namespace SerialFc

open Extension

variable {U : Type}

/-! ## Kinds of requests -/

/-- The requests a slot is for. -/
def Slot.serves : Slot → Body → Bool
  | .read, .read | .read, .setQueueSize _ => true
  | .write, .write _ | .write, .xoffCounter _ _ _ => true
  | .mask, .setWaitMask _ | .mask, .waitOnMask => true
  | .wait, .waitOnMask => true
  | .purge, .purge _ => true
  | .immediate, .immediateChar _ => true
  | .xoff, .xoffCounter _ _ _ => true
  | _, _ => false

/-- The slot that requests leave the queue for. -/
def QueueId.slot : QueueId → Slot
  | .readQueue => .read
  | .writeQueue => .write
  | .maskQueue => .mask
  | .purgeQueue => .purge

/-- Nothing has been done with the request. -/
def Request.Fresh (r : Request) : Prop := r = Request.new r.id r.body r.length r.systemBuffer

theorem Request.fresh_new (id : Nat) (body : Body) (length : Nat) (buffer : List UInt8) :
    (Request.new id body length buffer).Fresh := rfl

/-- Length and buffer of a request that its dispatch routine lets pass. -/
def Request.Proper (r : Request) : Prop :=
  match r.body with
  | .read => 0 < r.length ∧ r.systemBuffer.length = r.length
  | .write payload => 0 < r.length ∧ r.systemBuffer = payload ∧ r.length = payload.length
  | .xoffCounter _ counter _ => counter ≠ 0
  | _ => True

theorem Request.Proper.length_pos {r : Request} (h : r.Proper) (hw : r.isWrite = true) :
    0 < r.length := by
  unfold Request.isWrite at hw
  split at hw
  · next hb =>
    simp only [Request.Proper, hb] at h
    exact h.1
  · cases hw

/-! ## Counting -/

instance : Fintype Slot where
  elems := {.read, .write, .mask, .purge, .wait, .immediate, .xoff}
  complete s := by cases s <;> decide

instance : Fintype QueueId where
  elems := {.readQueue, .writeQueue, .maskQueue, .purgeQueue}
  complete q := by cases q <;> decide

/-- How often the identity `i` occurs. -/
def occ (i : Nat) (l : List Request) : Nat := (l.map Request.id).count i

theorem occ_nil (i : Nat) : occ i [] = 0 := rfl

theorem occ_append (i : Nat) (l l' : List Request) : occ i (l ++ l') = occ i l + occ i l' := by
  simp [occ]

theorem occ_cons (i : Nat) (r : Request) (l : List Request) :
    occ i (r :: l) = occ i [r] + occ i l := occ_append i [r] l

theorem occ_singleton (i : Nat) (r : Request) : occ i [r] = if r.id = i then 1 else 0 := by
  simp [occ, List.count_singleton]

theorem occ_congr {r r' : Request} (h : r'.id = r.id) (i : Nat) : occ i [r'] = occ i [r] := by
  rw [occ_singleton, occ_singleton, h]

/-- In how many places the request `i` is. -/
def Extension.places (e : Extension U) (i : Nat) : Nat :=
  ∑ s, occ i (e.current s).toList + ∑ q, occ i (e.queue q).waiting + occ i e.canceledOnQueue
    + occ i e.abandoned + occ i e.done

/-- Changing one summand of a sum over all indices. -/
theorem sum_update {ι β : Type*} [Fintype ι] [DecidableEq ι] (f : ι → β) (g : β → Nat) (a : ι)
    (v : β) : ∑ i, g (Function.update f a v i) + g (f a) = ∑ i, g (f i) + g v := by
  have hrest : ∀ i ∈ Finset.univ.erase a, g (Function.update f a v i) = g (f i) := by
    intro i hi
    rw [Function.update_of_ne (Finset.ne_of_mem_erase hi)]
  rw [← Finset.add_sum_erase _ _ (Finset.mem_univ a),
    ← Finset.add_sum_erase _ (fun i => g (f i)) (Finset.mem_univ a), Finset.sum_congr rfl hrest,
    Function.update_self]
  omega

theorem places_setCurrent (e : Extension U) (s : Slot) (v : Option Request) (i : Nat) :
    (e.setCurrent s v).places i + occ i (e.current s).toList = e.places i + occ i v.toList := by
  have h := sum_update e.current (fun r => occ i r.toList) s v
  simp only [places, setCurrent]
  omega

theorem places_putQueue (e : Extension U) (q : QueueId) (v : IoQueue) (i : Nat) :
    (e.putQueue q v).places i + occ i (e.queue q).waiting = e.places i + occ i v.waiting := by
  have h := sum_update e.queue (fun w => occ i w.waiting) q v
  simp only [places, putQueue]
  omega

theorem places_serialCompleteRequest (e : Extension U) (r : Request) (i : Nat) :
    (e.serialCompleteRequest r).places i = e.places i + occ i [r] := by
  unfold places serialCompleteRequest
  simp only [occ_append]
  omega

/-! ## Accounts -/

/-- Every place holds the kind of request it is for, what waits is fresh, and every request
accepted so far is in exactly one place. -/
structure Accounted (e : Extension U) : Prop where
  served : ∀ s r, e.current s = some r → s.serves r.body = true
  waiting : ∀ q, ∀ r ∈ (e.queue q).waiting,
    r.Fresh ∧ r.Proper ∧ q.slot.serves r.body = true
  canceled : ∀ r ∈ e.canceledOnQueue, r.Fresh
  lost : ∀ r ∈ e.abandoned, Slot.xoff.serves r.body = true
  once : ∀ i, e.places i = if i < e.nextId then 1 else 0

/-- What a request is known by. -/
def Request.ident (r : Request) : Nat × Body := (r.id, r.body)

theorem Request.id_eq_of_ident {r r' : Request} (h : r'.ident = r.ident) : r'.id = r.id :=
  congrArg Prod.fst h

theorem Request.body_eq_of_ident {r r' : Request} (h : r'.ident = r.ident) : r'.body = r.body :=
  congrArg Prod.snd h

theorem Request.ident_eq_of_core {r r' : Request} (h : r'.core = r.core) : r'.ident = r.ident :=
  Request.of_core Request.ident (fun _ => rfl) h

theorem occ_eq_of_map_ident {v v' : Option Request}
    (h : v'.map Request.ident = v.map Request.ident) (i : Nat) :
    occ i v'.toList = occ i v.toList := by
  cases v <;> cases v' <;> simp_all [occ, Request.ident]

namespace Accounted

variable {e e' : Extension U}

theorem serves_of_map (h : Accounted e) {s : Slot} {v : Option Request}
    (hv : v.map Request.ident = (e.current s).map Request.ident) {r : Request} (hr : v = some r) :
    s.serves r.body = true := by
  rw [hr, Option.map_some] at hv
  obtain ⟨r₀, hr₀, hident⟩ := Option.map_eq_some_iff.mp hv.symm
  rw [Request.body_eq_of_ident hident.symm]
  exact h.served s r₀ hr₀

/-- Nothing has moved. -/
theorem congr (h : Accounted e)
    (hcur : ∀ s, (e'.current s).map Request.ident = (e.current s).map Request.ident)
    (hrest : (e'.queue, e'.canceledOnQueue, e'.abandoned.map Request.ident, e'.done, e'.nextId)
      = (e.queue, e.canceledOnQueue, e.abandoned.map Request.ident, e.done, e.nextId)) :
    Accounted e' := by
  simp only [Prod.mk.injEq] at hrest
  obtain ⟨hq, hc, ha, hd, hn⟩ := hrest
  refine ⟨fun s r hr => h.serves_of_map (hcur s) hr, hq ▸ h.waiting, hc ▸ h.canceled,
    fun r hr => ?_, fun i => ?_⟩
  · have hmem : r.ident ∈ e'.abandoned.map Request.ident := List.mem_map_of_mem hr
    rw [ha] at hmem
    obtain ⟨r₀, hr₀, hident⟩ := List.mem_map.mp hmem
    rw [Request.body_eq_of_ident hident.symm]
    exact h.lost r₀ hr₀
  have hocc : occ i e'.abandoned = occ i e.abandoned := by
    have hid := congrArg (List.map Prod.fst) ha
    rw [List.map_map, List.map_map] at hid
    exact congrArg (List.count i) hid
  rw [hn, ← h.once i]
  simp only [places, hq, hc, hd, hocc, occ_eq_of_map_ident (hcur _)]

theorem of_effect (h : Accounted e) (heff : Effect e e') : Accounted e' := by
  refine h.congr (fun s => ?_) ?_
  · have hcore := congrArg (Option.map Request.ident) (heff.cur s)
    rwa [Option.map_map, Option.map_map] at hcore
  · rw [heff.queue, heff.canceledOnQueue, heff.abandoned, heff.done, heff.nextId]

/-- A slot is written. -/
theorem setCurrent_of_ident (h : Accounted e) {s : Slot} {v : Option Request}
    (hv : v.map Request.ident = (e.current s).map Request.ident) : Accounted (e.setCurrent s v) := by
  refine h.congr (fun t => ?_) rfl
  rw [current_setCurrent]
  split
  · next ht => rw [ht]; exact hv
  · rfl

theorem modifyCurrent (h : Accounted e) (s : Slot) {f : Request → Request}
    (hf : ∀ r, (f r).ident = r.ident) : Accounted (e.modifyCurrent s f) := by
  cases hs : e.current s with
  | none => rw [modifyCurrent_of_none f hs]; exact h.congr (fun _ => rfl) rfl
  | some r =>
    rw [modifyCurrent_of_some f hs]
    exact h.setCurrent_of_ident (by rw [hs, Option.map_some, Option.map_some, hf])

/-! ### Moves -/

/-- The slot's request is completed. -/
theorem complete (h : Accounted e) {s : Slot} {r r' : Request} (hr : e.current s = some r)
    (hident : r'.ident = r.ident) :
    Accounted ((e.setCurrent s none).serialCompleteRequest r') := by
  refine ⟨fun t r₁ hr₁ => ?_, h.waiting, h.canceled, h.lost, fun i => ?_⟩
  · have hcur : (e.setCurrent s none).current t = some r₁ := hr₁
    rw [current_setCurrent] at hcur
    split at hcur
    · cases hcur
    · exact h.served t r₁ hcur
  · have hset := places_setCurrent e s none i
    have honce := h.once i
    rw [hr] at hset
    rw [places_serialCompleteRequest, occ_congr (Request.id_eq_of_ident hident)]
    show _ = if i < e.nextId then 1 else 0
    simp only [Option.toList_some, Option.toList_none, occ_nil] at hset
    omega

/-- The slot is empty and gets the next request of its queue. -/
theorem retrieve (h : Accounted e) {q : QueueId} (hs : e.current q.slot = none) :
    Accounted (e.retrieveNextRequest q q.slot) := by
  unfold retrieveNextRequest
  split
  · next r waiting hstarted hwaiting =>
    have hmem : ∀ r' ∈ r :: waiting, r'.Fresh ∧ r'.Proper ∧ q.slot.serves r'.body = true :=
      fun r' hr' => h.waiting q r' (hwaiting ▸ hr')
    refine ⟨fun t r' hr' => ?_, fun q' r' hr' => ?_, h.canceled, h.lost, fun i => ?_⟩
    · rw [current_setCurrent] at hr'
      split at hr'
      · next ht =>
        cases hr'
        rw [ht]
        exact (hmem r (List.mem_cons_self ..)).2.2
      · exact h.served t r' hr'
    · have hq' : r' ∈ (Function.update e.queue q { e.queue q with waiting := waiting } q').waiting :=
        hr'
      rw [Function.update_apply] at hq'
      split at hq'
      · next hqq => rw [hqq]; exact hmem r' (List.mem_cons_of_mem _ hq')
      · exact h.waiting q' r' hq'
    · have hset := places_setCurrent (e.putQueue q { e.queue q with waiting := waiting }) q.slot
        (some { r with origin := some q }) i
      have hput : (e.putQueue q { e.queue q with waiting := waiting }).places i
          + occ i (e.queue q).waiting = e.places i + occ i waiting := places_putQueue e q _ i
      have honce := h.once i
      have hnone : (e.putQueue q { e.queue q with waiting := waiting }).current q.slot = none := hs
      rw [hnone, Option.toList_some, Option.toList_none, occ_nil] at hset
      rw [hwaiting, occ_cons] at hput
      have hocc : occ i [{ r with origin := some q }] = occ i [r] := occ_congr rfl i
      show _ = if i < e.nextId then 1 else 0
      omega
  · exact h.setCurrent_of_ident (by rw [hs])

end Accounted

/-- Fetching before completing is completing before fetching. -/
theorem serialGetNextRequest_of_some {e : Extension U} {slot : Slot} {r : Request} (q : QueueId)
    (hr : e.current slot = some r) : e.serialGetNextRequest slot q true =
      ((e.setCurrent slot none).serialCompleteRequest r).retrieveNextRequest q slot := by
  unfold serialGetNextRequest retrieveNextRequest
  rw [hr]
  simp only [if_true]
  have hq : ((e.setCurrent slot none).serialCompleteRequest r).queue q = e.queue q := rfl
  rw [hq]
  split <;> simp [setCurrent, serialCompleteRequest, putQueue]

/-- What comes into a slot from its queue. -/
theorem current_retrieveNextRequest {e : Extension U} {q : QueueId} {slot : Slot} {r : Request}
    (hr : (e.retrieveNextRequest q slot).current slot = some r) :
    ∃ r₀ ∈ (e.queue q).waiting, r = { r₀ with origin := some q } := by
  unfold retrieveNextRequest at hr
  split at hr
  · next r₀ waiting _ hwaiting =>
    rw [current_setCurrent, if_pos rfl] at hr
    cases hr
    exact ⟨r₀, by rw [hwaiting]; exact List.mem_cons_self .., rfl⟩
  · rw [current_setCurrent, if_pos rfl] at hr
    cases hr

theorem current_serialGetNextRequest {e : Extension U} {q : QueueId} {slot : Slot} {r : Request}
    (hr : (e.serialGetNextRequest slot q true).current slot = some r) :
    ∃ r₀ ∈ (e.queue q).waiting, r = { r₀ with origin := some q } := by
  unfold serialGetNextRequest at hr
  split at hr <;> exact current_retrieveNextRequest hr

namespace Accounted

variable {e e' : Extension U}

/-- The slot's request is completed and replaced by the next one of its queue. -/
theorem getNext (h : Accounted e) {q : QueueId} {r : Request} (hr : e.current q.slot = some r) :
    Accounted (e.serialGetNextRequest q.slot q true) := by
  rw [serialGetNextRequest_of_some q hr]
  refine (h.complete hr rfl).retrieve ?_
  show (e.setCurrent q.slot none).current q.slot = none
  rw [current_setCurrent, if_pos rfl]

/-- There is no request to complete. -/
theorem getNext_of_none (h : Accounted e) {q : QueueId} (b : Bool)
    (hs : e.current q.slot = none) : Accounted (e.serialGetNextRequest q.slot q b) := by
  unfold serialGetNextRequest
  rw [hs]
  exact h.retrieve hs

/-- A request moves from slot `s` to slot `t`, whose own request is abandoned. -/
theorem move (h : Accounted e) {s t : Slot} (hst : s ≠ t) {r r' : Request}
    (hr : e.current s = some r) (hident : r'.ident = r.ident) (ht : t.serves r.body = true)
    (hlost : ∀ r₀, e.current t = some r₀ → Slot.xoff.serves r₀.body = true) :
    Accounted (({ e with abandoned := e.abandoned ++ (e.current t).toList }.setCurrent s
      none).setCurrent t (some r')) := by
  refine ⟨fun u r₁ hr₁ => ?_, h.waiting, h.canceled, fun r₁ hr₁ => ?_, fun i => ?_⟩
  · rw [current_setCurrent, current_setCurrent] at hr₁
    split at hr₁
    · next hu => cases hr₁; rw [hu, Request.body_eq_of_ident hident]; exact ht
    · split at hr₁
      · cases hr₁
      · exact h.served u r₁ hr₁
  · rcases List.mem_append.mp hr₁ with hr₁ | hr₁
    · exact h.lost r₁ hr₁
    · exact hlost r₁ (by simpa using hr₁)
  · have hleft : { e with abandoned := e.abandoned ++ (e.current t).toList }.places i =
        e.places i + occ i (e.current t).toList := by
      simp only [places, occ_append]; omega
    have hs := places_setCurrent { e with abandoned := e.abandoned ++ (e.current t).toList } s none i
    have hts := places_setCurrent
      ({ e with abandoned := e.abandoned ++ (e.current t).toList }.setCurrent s none) t (some r') i
    have hcur : ({ e with abandoned := e.abandoned ++ (e.current t).toList }.setCurrent s
        none).current t = e.current t := by rw [current_setCurrent, if_neg hst.symm]
    have honce := h.once i
    have hocc : occ i [r'] = occ i [r] := occ_congr (Request.id_eq_of_ident hident) i
    rw [hcur] at hts
    simp only [hr, Option.toList_some, Option.toList_none, occ_nil] at hs hts
    show _ = if i < e.nextId then 1 else 0
    omega

/-- The waiting requests of a queue are cancelled. -/
theorem wdfIoQueuePurge (h : Accounted e) (q : QueueId) : Accounted (e.wdfIoQueuePurge q) := by
  refine ⟨h.served, fun q' r hr => ?_, fun r hr => ?_, h.lost, fun i => ?_⟩
  · have hr' : r ∈ (Function.update e.queue q ⟨[], false, false⟩ q').waiting := hr
    rw [Function.update_apply] at hr'
    split at hr'
    · cases hr'
    · exact h.waiting q' r hr'
  · rcases List.mem_append.mp hr with hr | hr
    · exact h.canceled r hr
    · exact (h.waiting q r hr).1
  · have hput := places_putQueue e q ⟨[], false, false⟩ i
    have honce := h.once i
    show _ = if i < e.nextId then 1 else 0
    simp only [Extension.wdfIoQueuePurge, places, occ_append, putQueue, occ_nil] at hput honce ⊢
    omega

/-- A queue changes, but not what waits in it. -/
theorem putQueue (h : Accounted e) (q : QueueId) (accepting started : Bool) :
    Accounted (e.putQueue q ⟨(e.queue q).waiting, accepting, started⟩) := by
  refine ⟨h.served, fun q' r hr => ?_, h.canceled, h.lost, fun i => ?_⟩
  · have hr' : r ∈ (Function.update e.queue q ⟨(e.queue q).waiting, accepting, started⟩ q').waiting :=
      hr
    rw [Function.update_apply] at hr'
    split at hr'
    · next hq => rw [hq]; exact h.waiting q r hr'
    · exact h.waiting q' r hr'
  · have hput := places_putQueue e q ⟨(e.queue q).waiting, accepting, started⟩ i
    have honce := h.once i
    show _ = if i < e.nextId then 1 else 0
    dsimp only at hput
    omega

/-! ### Arrivals -/

theorem occ_new (i n : Nat) (body : Body) (length : Nat) (buffer : List UInt8) :
    occ i [Request.new n body length buffer] = if n = i then 1 else 0 := by
  rw [occ_singleton]
  rfl

theorem places_takeId (e : Extension U) (i : Nat) : e.takeId.places i = e.places i := rfl

/-- The count, one request after. -/
theorem once_succ (h : Accounted e) (i : Nat) :
    e.places i + (if e.nextId = i then 1 else 0) = if i < e.nextId + 1 then 1 else 0 := by
  rw [h.once i]
  split <;> split <;> split <;> omega

/-- A new request goes straight to its slot. -/
theorem arrive (h : Accounted e) {s : Slot} (hs : e.current s = none) (body : Body) (length : Nat)
    (buffer : List UInt8) (hserves : s.serves body = true) :
    Accounted (e.takeId.setCurrent s (some (Request.new e.nextId body length buffer))) := by
  refine ⟨fun t r hr => ?_, h.waiting, h.canceled, h.lost, fun i => ?_⟩
  · rw [current_setCurrent] at hr
    split at hr
    · next ht => cases hr; rw [ht]; exact hserves
    · exact h.served t r hr
  · have hset := places_setCurrent e.takeId s (some (Request.new e.nextId body length buffer)) i
    have hnone : e.takeId.current s = none := hs
    rw [hnone, Option.toList_some, Option.toList_none, occ_nil, occ_new, places_takeId] at hset
    show _ = if i < e.nextId + 1 then 1 else 0
    rw [← h.once_succ i]
    omega

/-- A new request waits in a queue. -/
theorem enqueue (h : Accounted e) {q : QueueId} {body : Body} {length : Nat} {buffer : List UInt8}
    (hproper : (Request.new e.nextId body length buffer).Proper)
    (hserves : q.slot.serves body = true) :
    Accounted (e.takeId.putQueue q { e.queue q with
      waiting := (e.queue q).waiting ++ [Request.new e.nextId body length buffer] }) := by
  refine ⟨h.served, fun q' r hr => ?_, h.canceled, h.lost, fun i => ?_⟩
  · have hr' : r ∈ (Function.update e.queue q { e.queue q with
      waiting := (e.queue q).waiting ++ [Request.new e.nextId body length buffer] } q').waiting := hr
    rw [Function.update_apply] at hr'
    split at hr'
    · next hq =>
      rw [hq]
      rcases List.mem_append.mp hr' with hr' | hr'
      · exact h.waiting q r hr'
      · rw [List.mem_singleton.mp hr']
        exact ⟨Request.fresh_new .., hproper, hserves⟩
    · exact h.waiting q' r hr'
  · have hput : (e.takeId.putQueue q { e.queue q with
          waiting := (e.queue q).waiting ++ [Request.new e.nextId body length buffer] }).places i
        + occ i (e.queue q).waiting = e.takeId.places i
        + occ i ((e.queue q).waiting ++ [Request.new e.nextId body length buffer]) :=
      places_putQueue e.takeId q _ i
    rw [occ_append, occ_new, places_takeId] at hput
    show _ = if i < e.nextId + 1 then 1 else 0
    rw [← h.once_succ i]
    omega

/-- A new request is completed at once. -/
theorem refuse (h : Accounted e) {r : Request} (hid : r.id = e.nextId) :
    Accounted (e.takeId.serialCompleteRequest r) := by
  refine ⟨h.served, h.waiting, h.canceled, h.lost, fun i => ?_⟩
  show _ = if i < e.nextId + 1 then 1 else 0
  rw [places_serialCompleteRequest, places_takeId, occ_singleton, hid, h.once_succ i]

/-! ### Requests cancelled while they wait -/

theorem occ_eraseIdx {l : List Request} {i : Nat} {r : Request} (hr : l[i]? = some r) (n : Nat) :
    occ n (l.eraseIdx i) + occ n [r] = occ n l := by
  induction l generalizing i with
  | nil => cases hr
  | cons a l ih =>
    cases i with
    | zero =>
      cases hr
      rw [List.eraseIdx_cons_zero, occ_cons n r l]
      omega
    | succ i =>
      have hl := ih hr
      rw [List.eraseIdx_cons_succ, occ_cons, occ_cons n a l]
      omega

theorem runCanceledOnQueue (h : Accounted e) (i : Nat) : Accounted (e.runCanceledOnQueue i) := by
  unfold Extension.runCanceledOnQueue
  split
  · exact h
  · next r hr =>
    refine ⟨h.served, h.waiting, fun r' hr' => h.canceled r' (List.mem_of_mem_eraseIdx hr'),
      h.lost, fun n => ?_⟩
    have hocc := occ_eraseIdx hr n
    have honce := h.once n
    have hsame : occ n [{ r with status := .cancelled, information := 0 }] = occ n [r] :=
      occ_congr rfl n
    show _ = if n < e.nextId then 1 else 0
    rw [serialEvtCanceledOnQueue, places_serialCompleteRequest, hsame]
    simp only [places, addCharsQueued] at honce ⊢
    omega

theorem cancelWaiting (h : Accounted e) {q : QueueId} {i : Nat} (he : e.cancelWaiting q i = some e') :
    Accounted e' := by
  obtain ⟨r, hr, rfl⟩ := Option.map_eq_some_iff.mp he
  have hmem : r ∈ (e.queue q).waiting := List.mem_of_getElem? hr
  refine ⟨h.served, fun q' r' hr' => ?_, fun r' hr' => ?_, h.lost, fun n => ?_⟩
  · have hr'' : r' ∈ (Function.update e.queue q { e.queue q with
      waiting := (e.queue q).waiting.eraseIdx i } q').waiting := hr'
    rw [Function.update_apply] at hr''
    split at hr''
    · next hq => rw [hq]; exact h.waiting q r' (List.mem_of_mem_eraseIdx hr'')
    · exact h.waiting q' r' hr''
  · rcases List.mem_append.mp hr' with hr' | hr'
    · exact h.canceled r' hr'
    · rw [List.mem_singleton.mp hr']; exact (h.waiting q r hmem).1
  · have hput := places_putQueue e q { e.queue q with waiting := (e.queue q).waiting.eraseIdx i } n
    have hocc := occ_eraseIdx hr n
    have honce := h.once n
    show _ = if n < e.nextId then 1 else 0
    simp only [places, occ_append, Extension.putQueue] at hput honce ⊢
    omega

end Accounted

end SerialFc
