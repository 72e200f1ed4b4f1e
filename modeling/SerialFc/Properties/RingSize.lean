import SerialFc.Model.QueueSize
import SerialFc.Properties.StreamIntegrity

/-!
# Steps that leave the size of the ring alone

A request to resize is the current read only while `SerialResizeBuffer` works for it, and it is
completed right there. Everything else leaves the size of the ring alone and completes no request to
resize: code under the interrupt lock, the callbacks for other slots, the end of a read, a purge,
and the pieces of `SerialStartRead` that are for reads.

* `Extension.Serving` — when a resize may be the current read
* `unresized_rule`, `purgeReady_rule` — what does not work for reads, and what purges
* `Quiet` — what ends a read, and the pieces of `SerialStartRead`
-/

namespace SerialFc

open Extension Lib

variable {U : Type} {e e' e'' : Extension U}

/-! ## Requests to resize -/

/-- `IOCTL_SERIAL_SET_QUEUE_SIZE` -/
def Request.isResize (r : Request) : Bool :=
  match r.body with
  | .setQueueSize _ => true
  | _ => false

/-- The size that is asked for. -/
def Request.inSize (r : Request) : Nat :=
  match r.body with
  | .setQueueSize inSize => inSize
  | _ => 0

/-- The requests to resize that have been completed. -/
def Extension.resizes (e : Extension U) : List Request := e.done.filter Request.isResize

/-- `BufferSize` and `BufferSizePt8`, which change together. -/
def Extension.sizes (e : Extension U) : Nat × Nat := (e.rx.bufferSize, e.rx.bufferSizePt8)

/-! ## What does not resize -/

/-- No resize is completed, the ring stays as large as it is, and the current read the same. -/
structure Steady (e e' : Extension U) : Prop where
  resizes : e'.resizes = e.resizes
  sizes : e'.sizes = e.sizes
  body : (e'.current .read).map Request.body = (e.current .read).map Request.body

namespace Steady

theorem refl (e : Extension U) : Steady e e := ⟨rfl, rfl, rfl⟩

theorem trans (h : Steady e e') (h' : Steady e' e'') : Steady e e'' :=
  ⟨h'.resizes.trans h.resizes, h'.sizes.trans h.sizes, h'.body.trans h.body⟩

/-- Nothing of what matters has changed. -/
theorem of_fields (hdone : e'.done = e.done) (hsizes : e'.sizes = e.sizes)
    (hcurrent : e'.current .read = e.current .read) : Steady e e' :=
  ⟨congrArg (List.filter Request.isResize) hdone, hsizes, by rw [hcurrent]⟩

/-- A request is changed, but stays what it is. -/
theorem modifyCurrent (e : Extension U) {s : Slot} {f : Request → Request}
    (hf : ∀ r, (f r).body = r.body) : Steady e (e.modifyCurrent s f) := by
  refine ⟨?_, ?_, ?_⟩
  · rw [Extension.resizes, done_modifyCurrent, Extension.resizes]
  · rw [Extension.sizes, rx_modifyCurrent, Extension.sizes]
  · rw [current_modifyCurrent]
    split
    · next hs =>
      subst hs
      cases e.current .read with
      | none => rfl
      | some r => exact congrArg some (hf r)
    · rfl

end Steady

/-- The current read is no resize. -/
def Extension.NoResize (e : Extension U) : Prop :=
  ∀ r, e.current .read = some r → r.isResize = false

/-- A resize is current only while it is served, and then it is to succeed. -/
def ReadPc.serves : ReadPc → Bool
  | .move _ | .moveRest _ _ _ | .moved _ _ => true
  | _ => false

def Extension.Serving (e : Extension U) : Prop :=
  ∀ r, e.current .read = some r → r.isResize = true →
    e.pc = .start ∨ (e.pc.serves = true ∧ r.status = .success)

/-- Nobody turns a read into a resize. -/
theorem Extension.NoResize.steady (h : e.NoResize) (hs : Steady e e') : e'.NoResize := by
  intro r' hr'
  have hbody := hs.body
  rw [hr', Option.map_some] at hbody
  obtain ⟨r, hr, hsame⟩ := Option.map_eq_some_iff.mp hbody.symm
  have hno := h r hr
  unfold Request.isResize at hno ⊢
  rwa [← hsame]

/-- Without a resize there is nothing to serve. -/
theorem Extension.NoResize.serving (h : e.NoResize) : e.Serving := by
  intro r hr hresize
  rw [h r hr] at hresize
  cases hresize

/-- Between two reads, and while a read is being started, the current read is no resize. -/
theorem Extension.Serving.noResize (h : e.Serving) (hstart : e.pc ≠ .start)
    (hserves : e.pc.serves = false) : e.NoResize := by
  intro r hr
  by_contra hresize
  rcases h r hr (by simpa using hresize) with hpc | ⟨hpc, -⟩
  · exact hstart hpc
  · rw [hserves] at hpc
    cases hpc

/-! ## The next read -/

/-- A request that is no resize is completed. -/
theorem resizes_complete {r : Request} (h : r.isResize = false) (e : Extension U) :
    (e.serialCompleteRequest r).resizes = e.resizes := by
  show (e.done ++ [r]).filter Request.isResize = _
  rw [List.filter_append, List.filter_singleton, h]
  simp [Extension.resizes]

/-- A request that is a resize is added to those that were completed. -/
theorem resizes_complete_resize {r : Request} (h : r.isResize = true) (e : Extension U) :
    (e.serialCompleteRequest r).resizes = e.resizes ++ [r] := by
  show (e.done ++ [r]).filter Request.isResize = _
  rw [List.filter_append, List.filter_singleton, h]
  rfl

/-- Fetching a request completes none, and leaves the ring alone. -/
theorem done_retrieve (e : Extension U) (q : QueueId) (s : Slot) :
    (e.retrieveNextRequest q s).done = e.done ∧ (e.retrieveNextRequest q s).rx = e.rx := by
  unfold retrieveNextRequest
  split <;> exact ⟨rfl, rfl⟩

/-- A read that is over is completed, and makes room for the next one. -/
theorem next_noResize (h : e.NoResize) :
    (e.serialGetNextRequest .read .readQueue true).resizes = e.resizes ∧
      (e.serialGetNextRequest .read .readQueue true).sizes = e.sizes := by
  obtain ⟨hdone, hrx⟩ := done_retrieve e .readQueue .read
  have hkeep : (e.retrieveNextRequest .readQueue .read).resizes = e.resizes ∧
      (e.retrieveNextRequest .readQueue .read).sizes = e.sizes :=
    ⟨by rw [resizes, hdone, resizes], by rw [sizes, hrx, sizes]⟩
  unfold serialGetNextRequest
  split
  · next r hr =>
    rw [if_pos rfl]
    exact ⟨(resizes_complete (h r hr) _).trans hkeep.1, hkeep.2⟩
  · exact hkeep

/-- A resize that is over is completed as it is. -/
theorem next_resize {r : Request} (hr : e.current .read = some r) (hresize : r.isResize = true) :
    (e.serialGetNextRequest .read .readQueue true).resizes = e.resizes ++ [r] ∧
      (e.serialGetNextRequest .read .readQueue true).rx = e.rx := by
  obtain ⟨hdone, hrx⟩ := done_retrieve e .readQueue .read
  unfold serialGetNextRequest
  rw [hr]
  dsimp only
  rw [if_pos rfl]
  refine ⟨(resizes_complete_resize hresize _).trans ?_, hrx⟩
  rw [resizes, hdone, resizes]

/-- At the head of the loop any request may be current. -/
theorem serving_loopRead (e : Extension U) : e.loopRead.Serving := by
  intro r hr _
  left
  have hsome : e.current .read = some r := hr
  show (if (e.current .read).isSome then ReadPc.start else .idle) = .start
  rw [hsome]
  rfl


/-! ## Under the interrupt lock -/

/-- The ring stays as large as it is, and while it is what the ISR fills, the current read is left
alone. -/
structure Spared (e e' : Extension U) : Prop where
  sizes : e'.sizes = e.sizes
  ring : e.rx.readBufferBase = .ring →
    e'.rx.readBufferBase = .ring ∧ e'.current .read = e.current .read

namespace Spared

theorem of_fields (hrx : e'.rx = e.rx) (hcurrent : e'.current .read = e.current .read) :
    Spared e e' :=
  ⟨by rw [Extension.sizes, hrx, Extension.sizes], fun hring => ⟨by rw [hrx]; exact hring, hcurrent⟩⟩

theorem trans (h : Spared e e') (h' : Spared e' e'') : Spared e e'' := by
  refine ⟨h'.sizes.trans h.sizes, fun hring => ?_⟩
  obtain ⟨hring', hcurrent⟩ := h.ring hring
  obtain ⟨hring'', hcurrent'⟩ := h'.ring hring'
  exact ⟨hring'', hcurrent'.trans hcurrent⟩

/-- A request of another slot is changed. -/
theorem modifyOther (e : Extension U) (s : Slot) (f : Request → Request) (hs : s ≠ .read) :
    Spared e (e.modifyCurrent s f) :=
  of_fields (rx_modifyCurrent ..) (by rw [current_modifyCurrent, if_neg hs.symm])

end Spared

theorem sizes_storeUser (c : UInt8) (e : Extension U) : (e.storeUser c).sizes = e.sizes := by
  have hput : (e.putUser c).sizes = e.sizes := by
    unfold putUser
    rw [sizes, rx_modifyCurrent]
    rfl
  unfold storeUser
  split
  · refine Eq.trans ?_ hput
    show ((e.putUser c).resetRing.modifyCurrent .read _).sizes = _
    rw [sizes, rx_modifyCurrent]
    rfl
  · exact hput

/-- Code under the interrupt lock has no business with resizes. -/
theorem spared_interruptRule [Uart U] : InterruptRule (Spared (U := U)) where
  refl _ := .of_fields rfl rfl
  trans h h' := h.trans h'
  readReg _ _ := .of_fields rfl rfl
  writeReg _ _ _ _ _ := .of_fields rfl rfl
  fillFscc _ := .of_fields rfl rfl
  writeData _ _ := .of_fields rfl rfl
  events _ _ _ _ := .of_fields rfl rfl
  txHolding _ _ := .of_fields rfl rfl
  holdingEmpty _ _ := .of_fields rfl rfl
  special _ b := by cases b <;> exact .of_fields rfl rfl
  rxHolding _ _ := ⟨rfl, fun hring => ⟨hring, rfl⟩⟩
  tryingToLowerRts _ _ := .of_fields rfl rfl
  insertDpc _ _ _ := .of_fields rfl rfl
  answerWait e _ := by
    let cleared : Extension U :=
      { e with ev := { e.ev with irpMaskLocation := false, historyMask := 0 } }
    have hclear : Spared e cleared := .of_fields rfl rfl
    exact hclear.trans ((Spared.modifyOther cleared .wait _ (by decide)).trans
      (.of_fields rfl rfl))
  countXoff e := by
    refine rel_ite (fun _ => .of_fields rfl rfl) fun _ => rel_ite (fun _ => ?_)
      fun _ => .of_fields rfl rfl
    have hset : Spared e (e.setCountSinceXoff 0) := .of_fields rfl rfl
    exact hset.trans ((Spared.modifyOther _ .xoff _ (by decide)).trans (.of_fields rfl rfl))
  storeUser e c huser := by
    refine ⟨sizes_storeUser c e, fun hring => ?_⟩
    rw [hring] at huser
    cases huser
  putRing _ _ _ _ := ⟨rfl, fun hring => ⟨hring, rfl⟩⟩
  overwriteLast _ _ _ := ⟨rfl, fun hring => ⟨hring, rfl⟩⟩
  handFlow _ _ := .of_fields rfl rfl
  emptied _ := .of_fields rfl rfl
  logSpecial _ _ _ := .of_fields rfl rfl
  xonSent _ := ⟨rfl, fun hring => ⟨hring, rfl⟩⟩
  xoffSent _ := ⟨rfl, fun hring => ⟨hring, rfl⟩⟩
  immediateSent _ _ := .of_fields rfl rfl
  advanceWrite e n _ _ := by
    refine rel_ite (fun _ => ?_) fun _ => .of_fields rfl rfl
    have hmove : Spared e (e.movePointer n) := .of_fields rfl rfl
    exact hmove.trans ((Spared.modifyOther _ .write _ (by decide)).trans (.of_fields rfl rfl))

/-- What such code does, seen from outside. -/
theorem steady_of_lock (heffect : Effect e e') (hun : Spared e e') : Steady e e' := by
  refine ⟨by rw [resizes, heffect.done, resizes], hun.sizes, ?_⟩
  have hcore := congrArg (Option.map Request.body) (heffect.cur .read)
  rwa [Option.map_map, Option.map_map] at hcore

/-- What stays while nobody works for reads. -/
structure Unresized (e₀ e : Extension U) : Prop where
  receiving : e.Receiving
  serving : e.Serving
  resizes : e.resizes = e₀.resizes
  sizes : e.sizes = e₀.sizes

/-- Code under the lock leaves the ring as it was when all began. -/
theorem Unresized.lock {e₀ : Extension U} (h : Unresized e₀ e) (heffect : Effect e e')
    (hreceiving : e.Receiving → e'.Receiving) (hun : Spared e e') : Unresized e₀ e' := by
  have hsteady := steady_of_lock heffect hun
  refine ⟨hreceiving h.receiving, fun r' hr' hresize => ?_, hsteady.resizes.trans h.resizes,
    hsteady.sizes.trans h.sizes⟩
  rw [heffect.pc]
  cases hbase : e.rx.readBufferBase with
  | ring =>
    rw [(hun.ring hbase).2] at hr'
    exact h.serving r' hr' hresize
  | user =>
    -- what is filled is a read
    obtain ⟨r, hr, hbody, -⟩ := (h.receiving.user hbase).reader
    obtain ⟨r₀, hr₀, rfl⟩ := current_of_reader hr
    have hsame := hsteady.body
    rw [hr', hr₀] at hsame
    have hread : r'.body = .read := (Option.some.inj hsame).trans hbody
    rw [Request.isResize, hread] at hresize
    cases hresize

/-- Nothing that belongs to reads has changed, so no resize was completed. -/
theorem resizes_of_same (h : Same .read e e') : e'.resizes = e.resizes := by
  have hresizes (l : List Request) : l.filter Request.isResize =
      (l.filter (Slot.read.finishes ·.body)).filter Request.isResize := by
    rw [List.filter_filter]
    refine List.filter_congr fun r _ => ?_
    unfold Request.isResize
    cases r.body <;> rfl
  unfold Extension.resizes
  rw [hresizes, h.finished, ← hresizes]

theorem Unresized.same {e₀ : Extension U} (h : Unresized e₀ e) (hsame : Same .read e e') :
    Unresized e₀ e' := by
  obtain ⟨hrx, -, hpc⟩ := hsame.data
  refine ⟨h.receiving.congr hsame.reception.1 hsame.reception.2, fun r hr => ?_,
    (resizes_of_same hsame).trans h.resizes, ?_⟩
  · rw [hpc]
    rw [hsame.current] at hr
    exact h.serving r hr
  · rw [Extension.sizes, hrx]
    exact h.sizes

/-- Steps that do not work for reads resize nothing. -/
theorem unresized_rule [Uart U] (e₀ : Extension U) :
    StepRule (· = .read) fun e e' => Unresized e₀ e → Unresized e₀ e' :=
  .of_interruptRule
    (((effect_interruptRule.and receiving_interruptRule).and spared_interruptRule).keep
      fun _ _ hR h => h.lock hR.1.1 hR.1.2 hR.2)
    fun _ _ hsame h => h.same (hsame .read rfl)

/-! ## Ending reads -/

/-- A step that completes no request to resize. -/
structure Quiet (e e' : Extension U) : Prop where
  serving : e'.Serving
  resizes : e'.resizes = e.resizes
  sizes : e'.sizes = e.sizes

/-- With no resize current, what leaves the read alone is quiet. -/
theorem Steady.quiet (h : Steady e e') (hno : e.NoResize) : Quiet e e' :=
  ⟨(hno.steady h).serving, h.resizes, h.sizes⟩

/-- Something that leaves the read alone may come first. -/
theorem Steady.before (h : Steady e e') (hquiet : Quiet e' e'') : Quiet e e'' :=
  ⟨hquiet.serving, hquiet.resizes.trans h.resizes, hquiet.sizes.trans h.sizes⟩

/-- Giving back references changes no request's kind. -/
theorem Bookkeeping.steady (h : Bookkeeping .read e e') : Steady e e' := by
  have hbody := congrArg (Option.map Request.body) h.data
  rw [Option.map_map, Option.map_map] at hbody
  refine ⟨by rw [resizes, h.done, resizes], ?_, hbody⟩
  rw [h.rest]
  rfl

theorem steady_serialGrabReadFromIsr (e : Extension U) : Steady e e.serialGrabReadFromIsr := by
  refine rel_ite (fun _ => ?_) fun _ => .refl e
  let taken (r : Request) : Request :=
    { r with information := r.length - (e.rx.lastCharSlot - e.rx.currentCharSlot + 1) }
  have hset : Steady e (e.modifyCurrent .read taken) := .modifyCurrent e fun _ => rfl
  have hreset : Steady (e.modifyCurrent .read taken) (e.modifyCurrent .read taken).resetRing :=
    .of_fields rfl rfl rfl
  exact hset.trans (hreset.trans (.modifyCurrent (f := (·.putReference false .isr)) _ fun _ => rfl))

theorem steady_giveStatus (status : NtStatus) (e : Extension U) :
    Steady e (e.giveStatus .read status) := by
  unfold giveStatus
  split
  · exact .of_fields rfl rfl rfl
  · next r hr =>
    split
    · refine ⟨rfl, rfl, ?_⟩
      show (Function.update e.current .read _ .read).map Request.body = _
      rw [Function.update_self, hr]
      rfl
    · refine ⟨rfl, rfl, ?_⟩
      show (Function.update e.current .read _ .read).map Request.body = _
      rw [Function.update_self, hr]
      rfl

variable [Uart U]

omit [Uart U] in
/-- Ending a read completes that read and nothing else. -/
theorem quiet_tryToCompleteRead (hno : e.NoResize) {g : Extension U → Extension U}
    (hg : ∀ e, Steady e (g e)) (status : NtStatus) (ref : Ref) :
    Quiet e (e.tryToCompleteRead g status ref) := by
  have hstop : Steady e (e.stopAgents g status .read (some .readRequestInterval)
      (some .readRequestTotal) ref) := by
    unfold stopAgents
    exact (Bookkeeping.dropOwnReference e .read ref).steady.trans
      ((hg _).trans (Bookkeeping.rundown _ .read _ _ _ _).steady)
  unfold tryToCompleteRead serialTryToCompleteCurrent completeIfUnreferenced
  split
  · exact Steady.quiet (.of_fields rfl rfl rfl) hno
  generalize e.stopAgents g status .read (some .readRequestInterval) (some .readRequestTotal) ref
    = e₁ at hstop ⊢
  have hno₁ := hno.steady hstop
  split
  · exact hstop.before (Steady.quiet (.of_fields rfl rfl rfl) hno₁)
  split
  · have hgive := steady_giveStatus status e₁
    obtain ⟨hresizes, hsizes⟩ := next_noResize (hno₁.steady hgive)
    refine (hstop.trans hgive).before ?_
    unfold startNew
    dsimp only
    split
    · exact ⟨fun _ _ _ => .inl rfl, hresizes, hsizes⟩
    · next hnone =>
      refine ⟨fun r hr _ => ?_, hresizes, hsizes⟩
      rw [hr] at hnone
      exact absurd rfl hnone
  · exact hstop.quiet hno

omit [Uart U] in
/-- The same for the routines that leave a mark in `CountOnLastRead` first. -/
theorem quiet_endRead (hno : e.NoResize) {g : Extension U → Extension U}
    (hg : ∀ e, Steady e (g e)) (n : Int) (status : NtStatus) (ref : Ref) :
    Quiet e ((e.setCountOnLastRead n).tryToCompleteRead g status ref) := by
  have hset : Steady e (e.setCountOnLastRead n) := .of_fields rfl rfl rfl
  exact hset.before (quiet_tryToCompleteRead (hno.steady hset) hg status ref)

omit [Uart U] in
theorem quiet_serialCancelCurrentRead (hno : e.NoResize) : Quiet e e.serialCancelCurrentRead :=
  quiet_endRead hno steady_serialGrabReadFromIsr _ _ _

omit [Uart U] in
/-- The interval timer either ends the read or leaves it waiting. -/
theorem quiet_serialIntervalReadTimeout (hno : e.NoResize) :
    Quiet e e.serialIntervalReadTimeout := by
  have hend (status : NtStatus) :=
    quiet_tryToCompleteRead hno steady_serialGrabReadFromIsr status .intTimer
  have hwait {e' : Extension U} (h : Steady e e') : Quiet e e' := h.quiet hno
  unfold serialIntervalReadTimeout
  split
  · exact hend _
  split
  · exact hend _
  split
  · exact hend _
  split
  · split
    · exact hwait (.of_fields rfl rfl rfl)
    split
    · exact hend _
    · exact hwait (.of_fields rfl rfl rfl)
  · exact hwait (.of_fields rfl rfl rfl)

/-! ## Purges -/

/-- What purges keep. -/
structure PurgeReady (e₀ e : Extension U) : Prop extends Unresized e₀ e where
  ready : ReadReady e

/-- Steps that do not work for reads leave a purge its reads. -/
theorem purgeReady_rule (e₀ : Extension U) :
    StepRule (· = .read) fun e e' => PurgeReady e₀ e → PurgeReady e₀ e' := by
  refine .of_interruptRule
    (((effect_interruptRule.and receiving_interruptRule).and spared_interruptRule).keep
      fun _ _ hR h => ?_) fun _ _ hsame h => ?_
  · refine ⟨h.lock hR.1.1 hR.1.2 hR.2, h.ready.tracked.of_effect hR.1.1,
      hR.1.2 h.ready.receiving, ?_⟩
    rw [hR.1.1.pc]
    exact h.ready.pc
  · have hread := hsame .read rfl
    refine ⟨h.same hread, h.ready.tracked.of_same hread,
      h.ready.receiving.congr hread.reception.1 hread.reception.2, ?_⟩
    rw [hread.reception.2]
    exact h.ready.pc

omit [Uart U] in
/-- A purge of the reads ends the current one. A resize that is served has no cancel routine. -/
theorem quiet_abortReads (htracked : Tracked .read e) (hserving : e.Serving) :
    Quiet e e.abortReads := by
  suffices hcancel : Quiet e ((e.wdfIoQueuePurge .readQueue).cancelCurrent .read
      serialCancelCurrentRead) from ⟨hcancel.serving, hcancel.resizes, hcancel.sizes⟩
  rcases cancelCurrent_cases (htracked.wdfIoQueuePurge .readQueue) serialCancelCurrentRead with
    hsame | ⟨r, hr, hcall, hcancel⟩
  · rw [hsame]
    exact ⟨hserving, rfl, rfl⟩
  · rw [hcancel]
    have hpc : e.pc = .idle := by
      by_contra hne
      exact hcall.idle ⟨rfl, hne⟩
    have hno : e.NoResize := hserving.noResize (by rw [hpc]; decide) (by rw [hpc]; rfl)
    have hset : Steady e ((e.wdfIoQueuePurge .readQueue).setCurrent .read
        (some (r.serialClearCancelRoutine false).2)) := by
      refine ⟨rfl, rfl, ?_⟩
      have hbody : (r.serialClearCancelRoutine false).2.body = r.body :=
        congrArg Prod.snd (CallbackRule.ident_serialClearCancelRoutine false r)
      have hcurrent : e.current .read = some r := hr
      rw [current_setCurrent, if_pos rfl, hcurrent, Option.map_some, hbody]
      rfl
    exact hset.before (quiet_serialCancelCurrentRead (hno.steady hset))

/-- The ring is emptied, but keeps its size. -/
theorem quiet_serialPurgeInterruptBuff {e₀ : Extension U} (h : Unresized e₀ e)
    (hready : ReadReady e) : PurgeReady e₀ e.serialPurgeInterruptBuff := by
  have hafter := readReady_serialPurgeInterruptBuff hready
  refine ⟨?_, hafter⟩
  unfold serialPurgeInterruptBuff at hafter ⊢
  split at hafter
  · next hring =>
    rw [if_pos hring]
    have hreduce : Spared e.clearRing e.clearRing.serialHandleReducedIntBuffer :=
      spared_interruptRule.lockRule.serialHandleReducedIntBuffer _
    have heffect : Effect e.clearRing e.clearRing.serialHandleReducedIntBuffer :=
      effect_interruptRule.lockRule.serialHandleReducedIntBuffer _
    have hsteady := steady_of_lock heffect hreduce
    refine ⟨hafter.receiving, fun r hr => ?_, hsteady.resizes.trans h.resizes,
      hsteady.sizes.trans h.sizes⟩
    rw [heffect.pc]
    rw [(hreduce.ring rfl).2] at hr
    exact h.serving r hr
  · next hring =>
    rw [if_neg hring]
    exact h

/-- All that a purge may ask for. -/
theorem aborts_purgeReady (e₀ : Extension U) :
    Aborts (U := U) fun e e' => PurgeReady e₀ e → PurgeReady e₀ e' where
  writes := (purgeReady_rule e₀).abortWrites (by decide) (by decide)
  xoff := (purgeReady_rule e₀).abortXoff (by decide) (by decide)
  reads e hacc := by
    refine ⟨(anything.abortReads id e hacc).1, fun h => ?_⟩
    have hready := readReady_abortReads h.ready hacc
    have hquiet := quiet_abortReads h.ready.tracked h.serving
    exact ⟨⟨hready.receiving, hquiet.serving, hquiet.resizes.trans h.resizes,
      hquiet.sizes.trans h.sizes⟩, hready⟩
  buffer e hacc := ⟨(anything.serialPurgeInterruptBuff id e hacc).1,
    fun h => quiet_serialPurgeInterruptBuff h.toUnresized h.ready⟩

/-! ## Starting reads -/

omit [Uart U] in
/-- The read is over. -/
theorem quiet_nextRead (hno : e.NoResize) : Quiet e e.nextRead := by
  obtain ⟨hresizes, hsizes⟩ := next_noResize hno
  exact ⟨serving_loopRead _, hresizes, hsizes⟩

omit [Uart U] in
theorem quiet_succeedRead (hno : e.NoResize) : Quiet e e.succeedRead := by
  have hset : Steady e (e.modifyCurrent .read fun r => { r with status := .success }) :=
    .modifyCurrent e fun _ => rfl
  exact hset.before (quiet_nextRead (hno.steady hset))

namespace Steady

omit [Uart U] in
theorem goto (pc : ReadPc) (e : Extension U) : Steady e (e.goto pc) := .of_fields rfl rfl rfl

omit [Uart U] in
/-- Copying changes the reader's buffer. -/
theorem copyToUser (offset number : Nat) (e : Extension U) :
    Steady e (e.copyToUser offset number) := by
  have hneeded : Steady e (e.setNeeded (e.rx.numberNeededForRead - number)) :=
    .of_fields rfl rfl rfl
  exact hneeded.trans (.modifyCurrent _ fun _ => rfl)

omit [Uart U] in
theorem advance (offset number : Nat) (e : Extension U) :
    Steady e ((e.setFirstReadable offset).addInformation number) := by
  have hfirst : Steady e (e.setFirstReadable offset) := .of_fields rfl rfl rfl
  exact hfirst.trans (.modifyCurrent _ fun _ => rfl)

omit [Uart U] in
theorem copyWhole (number : Nat) (e : Extension U) : Steady e (e.copyWhole number) :=
  (copyToUser _ _ e).trans (advance _ _ _)

omit [Uart U] in
theorem copyRest (number firstTry : Nat) (e : Extension U) :
    Steady e (e.copyRest number firstTry) :=
  (copyToUser _ _ e).trans (advance _ _ _)

omit [Uart U] in
/-- The copy, in one part or in two. -/
theorem getChars (number : Nat) (e : Extension U) : Steady e (e.getChars number) :=
  rel_ite (fun _ => .refl e) fun _ => rel_ite (fun _ => copyWhole number e)
    fun _ => (copyToUser _ _ e).trans (copyRest _ _ _)

/-- Taking characters out may let the sender go on, which is no business of requests. -/
theorem serialUpdateInterruptBuffer (charsCopied : Nat) (e : Extension U) :
    Steady e (e.serialUpdateInterruptBuffer charsCopied) := by
  have hremove : Steady e (e.removeChars charsCopied) := .of_fields rfl rfl rfl
  exact hremove.trans (steady_of_lock (effect_interruptRule.lockRule.serialHandleReducedIntBuffer _)
    (spared_interruptRule.lockRule.serialHandleReducedIntBuffer _))

theorem getCharsAgain (e : Extension U) : Steady e e.getCharsAgain :=
  (getChars _ e).trans (serialUpdateInterruptBuffer _ _)

omit [Uart U] in
theorem initRead (l : ReadStart) (e : Extension U) : Steady e (e.initRead l) := by
  have hneeded : Steady e (e.setNeeded 1) := .of_fields rfl rfl rfl
  exact rel_ite (fun _ => hneeded.trans (.modifyCurrent _ fun _ => rfl))
    fun _ => .modifyCurrent e fun _ => rfl

omit [Uart U] in
theorem switchToUser (e : Extension U) : Steady e e.switchToUser := by
  unfold Extension.switchToUser
  split
  · exact .of_fields rfl rfl rfl
  · next r hr =>
    have hmodify := Steady.modifyCurrent (s := .read) (f := (·.putReference true .isr))
      ({ e with rx := { e.rx with
        countOnLastRead := r.information
        readByIsr := 0
        readBufferBase := .user
        currentCharSlot := r.information
        lastCharSlot := r.length - 1 } }) fun _ => rfl
    exact ⟨hmodify.resizes, hmodify.sizes, hmodify.body⟩

omit [Uart U] in
theorem setTimerWithReference (t : TimerId) (ref : Ref) (e : Extension U) :
    Steady e (e.setTimerWithReference .read t ref) := by
  have hset : Steady e (e.serialSetTimer t).2 := .of_fields rfl rfl rfl
  exact rel_ite (fun _ => hset) fun _ => hset.trans (.modifyCurrent _ fun _ => rfl)

omit [Uart U] in
/-- Timers and the cancel routine. -/
theorem armRead (l : ReadStart) (e : Extension U) : Steady e (e.armRead l) := by
  have hcancel : Steady e (e.modifyCurrent .read (·.serialSetCancelRoutine)) :=
    .modifyCurrent e fun _ => rfl
  have htotal (e : Extension U) : Steady e (e.armTotalTimer l) :=
    rel_ite (fun _ => setTimerWithReference _ _ e) fun _ => .refl e
  have hinterval (e : Extension U) : Steady e (e.armIntervalTimer l) := by
    have htime : Steady e e.setLastReadTime := .of_fields rfl rfl rfl
    exact rel_ite (fun _ => htime.trans (setTimerWithReference _ _ _)) fun _ => .refl e
  exact (hcancel.trans ((htotal _).trans (hinterval _))).trans (.of_fields rfl rfl rfl)

end Steady

omit [Uart U] in
/-- The read has succeeded or has to wait. -/
theorem quiet_succeedOrSwitch (hno : e.NoResize) (l : ReadStart) :
    Quiet e (e.succeedOrSwitch l) := by
  unfold succeedOrSwitch
  split
  · exact quiet_succeedRead hno
  · exact ((Steady.switchToUser e).trans (.goto _ _)).quiet hno

/-- The last piece of `SerialStartRead`. -/
theorem quiet_finishCopy (hno : e.NoResize) (l : ReadStart) (charsCopied : Nat) (r : Request) :
    Quiet e (e.finishCopy l charsCopied r) := by
  unfold finishCopy
  split
  · have hupdate := Steady.serialUpdateInterruptBuffer charsCopied e
    exact hupdate.before (quiet_succeedRead (hno.steady hupdate))
  · have hagain := ((Steady.initRead l e).trans (.serialUpdateInterruptBuffer charsCopied _)).trans
      (.getCharsAgain _)
    exact hagain.before (quiet_succeedOrSwitch (hno.steady hagain) l)

end SerialFc
