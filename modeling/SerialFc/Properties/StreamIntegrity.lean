import SerialFc.Properties.ReceivePath

/-!
# Integrity of the receive stream

The routines that end a read keep `Receiving` because the ISR has lost the reader's buffer when a
read is completed; that is the reference discipline of reads. With them every step keeps it, and the
stream of received bytes is accounted for in every reachable state.
-/

namespace SerialFc

open Extension Lib

variable {U : Type} {e e' : Extension U}

/-! ## Ending reads -/

/-- The ISR gets its own buffer back and starts at the beginning of it. -/
theorem receiving_serialGrabReadFromIsr (h : e.Receiving) : e.serialGrabReadFromIsr.Receiving := by
  unfold serialGrabReadFromIsr
  split
  · next huser =>
    obtain ⟨r, hr, -⟩ := (h.user huser).reader
    obtain ⟨r₀, hr₀, rfl⟩ := current_of_reader hr
    refine (h.grab huser hr).receiving ?_ ?_
    · unfold clearReference
      rw [reception_modifyRead (by intro; rfl), modifyCurrent_of_some _ hr₀]
      simp [resetRing, reception, setCurrent, delivered, Request.reader]
    · simp [clearReference, resetRing]
  · exact h

theorem received_giveStatus (h : Received .idle e.reception) (hring : e.rx.readBufferBase = .ring)
    {r : Request} (hr : e.current .read = some r) (status : NtStatus) :
    Received .idle (e.giveStatus .read status).reception ∧
      (e.giveStatus .read status).rx.readBufferBase = .ring := by
  unfold giveStatus
  rw [hr]
  dsimp only
  split
  · refine ⟨?_, hring⟩
    by_cases hbody : r.body = .read
    · -- the bytes the read holds are lost
      have hcancel := h.cancel hring rfl rfl (reader_of_current hr) hbody
      have hread : r.isRead = true := isRead_iff.mpr hbody
      rw [if_pos hread]
      have hrec : ({ e.setCurrent .read (some { r with status := status, information := 0 }) with
          stream := e.stream ++ [Fifo.Op.drop r.information] } : Extension U).reception =
          { e.reception with
            reader := some { r.reader with information := 0 }
            stream := e.stream ++ [.drop r.information] } := by
        simp [reception, setCurrent, delivered, Request.reader]
      rw [hrec]
      exact hcancel
    · have hread : r.isRead = false := by simpa [Request.isRead] using hbody
      rw [hread]
      have hclear := h.clearReader hring rfl rfl fun r' hr' => by
        cases (reader_of_current hr).symm.trans hr'
        exact hbody
      have hfits : Reader.Fits { r.reader with information := 0 } := fun hb => absurd hb hbody
      have hset := hclear.arrive rfl hfits rfl (p := .idle) (.inl rfl)
      have hrec : ({ e.setCurrent .read (some { r with status := status, information := 0 }) with
          stream := e.stream } : Extension U).reception =
          { e.reception with reader := some { r.reader with information := 0 } } := by
        simp [reception, setCurrent, delivered, Request.reader]
      exact hrec ▸ hset
  · refine ⟨?_, hring⟩
    have hrec : (e.setCurrent .read (some { r with status := status })).reception = e.reception := by
      simp [reception, setCurrent, delivered, Request.reader, hr]
    rw [hrec]
    exact h

theorem pc_serialGetNextRequest (e : Extension U) (s : Slot) (q : QueueId) (b : Bool) :
    (e.serialGetNextRequest s q b).pc = e.pc := by
  have hretrieve : (e.retrieveNextRequest q s).pc = e.pc := by
    unfold retrieveNextRequest
    split <;> rfl
  unfold serialGetNextRequest
  split
  · split <;> exact hretrieve
  · exact hretrieve

/-- **A routine that takes the read back.** With no agent left the ISR has lost the reader's buffer,
and the read can be handed back. -/
theorem receiving_tryToCompleteRead [Uart U] (h : e.Receiving) (hacc : Accounted e) {ref : Ref}
    (hcall : CalledFor e .read ref) {g : Extension U → Extension U} (hg : TakesBack .read ref g)
    (hgacc : ∀ e, Accounted e → Accounted (g e)) (hgrec : ∀ e : Extension U, e.Receiving → (g e).Receiving)
    (status : NtStatus) : (e.tryToCompleteRead g status ref).Receiving := by
  obtain ⟨⟨r, howes⟩, _, hidle⟩ := hcall
  obtain ⟨r', howes', _, _, hisr, _, hpc⟩ :=
    howes.stopAgents hg ⟨fun _ => by decide, fun _ => by decide⟩ status
  have hacc' := (anything.stopAgents e id (fun e ha => ⟨hgacc e ha, id⟩) (slot_intervalTimerId .read)
    (slot_totalTimerId .read) status ref hacc).1
  have hstop : (e.stopAgents g status .read (intervalTimerId .read) (totalTimerId .read)
      ref).Receiving := by
    unfold stopAgents
    exact (hgrec _ (h.bookkeeping (.dropOwnReference e .read ref))).bookkeeping (.rundown _ .read _ _ _ _)
  show (e.serialTryToCompleteCurrent g status .read (intervalTimerId .read) (totalTimerId .read) _
    ref).Receiving
  unfold serialTryToCompleteCurrent completeIfUnreferenced
  rw [howes.current]
  dsimp only
  generalize e.stopAgents g status .read (intervalTimerId .read) (totalTimerId .read) ref = e₁ at *
  rw [howes'.current]
  dsimp only
  split
  · have hring : e₁.rx.readBufferBase = .ring := by
      cases hbase : e₁.rx.readBufferBase with
      | ring => rfl
      | user => simp [isrHolds, hbase] at hisr
    have hstart : e.pc = .idle := by
      by_contra hne
      exact hidle ⟨rfl, hne⟩
    have hstop' : Received .idle e₁.reception := by
      have hstop'' := hstop
      unfold Extension.Receiving at hstop''
      rwa [hpc, hstart] at hstop''
    obtain ⟨hgive, hring'⟩ := received_giveStatus hstop' hring howes'.current status
    have hacc'' := (anything.giveStatus e₁ (apart_nothing .read) status hacc').1
    unfold startNew
    split
    · exact received_getNext (q := .start) hgive hring' rfl rfl hacc'' (.inr rfl)
    · refine (received_getNext (q := .idle) hgive hring' rfl rfl hacc'' (.inl rfl)).receiving rfl ?_
      rw [pc_serialGetNextRequest, pc_giveStatus, hpc, hstart]
  · exact hstop

theorem receiving_endRead [Uart U] (h : e.Receiving) (hacc : Accounted e) {ref : Ref}
    (hcall : CalledFor e .read ref) {g : Extension U → Extension U} (hg : TakesBack .read ref g)
    (hgacc : ∀ e, Accounted e → Accounted (g e)) (hgrec : ∀ e : Extension U, e.Receiving → (g e).Receiving)
    (n : Int) (status : NtStatus) :
    ((e.setCountOnLastRead n).tryToCompleteRead g status ref).Receiving :=
  receiving_tryToCompleteRead (e := e.setCountOnLastRead n) (h.congr rfl rfl)
    (hacc.congr (fun _ => rfl) rfl) (hcall.setCountOnLastRead n) hg hgacc hgrec status

theorem receiving_serialCompleteRead [Uart U] (h : e.Receiving) (hacc : Accounted e)
    (hcall : CalledFor e .read .isr) : e.serialCompleteRead.Receiving :=
  receiving_endRead h hacc hcall (takesBack_id _) (fun _ h => h) (fun _ h => h) _ _

theorem receiving_serialCancelCurrentRead [Uart U] (h : e.Receiving) (hacc : Accounted e)
    (hcall : CalledFor e .read .cancel) : e.serialCancelCurrentRead.Receiving :=
  receiving_endRead h hacc hcall (takesBack_serialGrabReadFromIsr _) accounted_serialGrabReadFromIsr
    (fun _ => receiving_serialGrabReadFromIsr) _ _

theorem receiving_serialReadTimeout [Uart U] (h : e.Receiving) (hacc : Accounted e)
    (hcall : CalledFor e .read .totalTimer) : e.serialReadTimeout.Receiving :=
  receiving_endRead h hacc hcall (takesBack_serialGrabReadFromIsr _) accounted_serialGrabReadFromIsr
    (fun _ => receiving_serialGrabReadFromIsr) _ _

/-- The routine of the interval timer ends the read, or starts the timer again. -/
theorem receiving_serialIntervalReadTimeout [Uart U] (h : e.Receiving) (hacc : Accounted e)
    (hcall : CalledFor e .read .intTimer) : e.serialIntervalReadTimeout.Receiving := by
  have hend (status : NtStatus) := receiving_tryToCompleteRead h hacc hcall
    (takesBack_serialGrabReadFromIsr _) accounted_serialGrabReadFromIsr
    (fun _ => receiving_serialGrabReadFromIsr) status
  unfold serialIntervalReadTimeout
  split
  · exact hend _
  · split
    · exact hend _
    · split
      · exact hend _
      · split
        · split
          · exact h.congr rfl rfl
          · split
            · exact hend _
            · exact h.congr rfl rfl
        · exact h.congr rfl rfl

/-! ## Reads that arrive -/

/-- A request that the read path has not seen is completed. -/
theorem receiving_completeNew (h : e.Receiving) {r : Request} (hinfo : r.information = 0) :
    (e.serialCompleteRequest r).Receiving := by
  cases hread : r.isRead with
  | true =>
    refine (Received.completeEmpty h).receiving ?_ rfl
    simp [reception, serialCompleteRequest, delivered, hread, hinfo]
  | false =>
    refine h.congr ?_ rfl
    simp [reception, serialCompleteRequest, delivered, hread]

section
variable {body : Body} {length : Nat} {buffer : List UInt8}

/-- A request that `SerialCompleteIfError` refuses does not touch the receive path. -/
theorem receiving_accept (h : e.Receiving) {k : Request → Extension U → Extension U}
    (hk : (k (Request.new e.nextId body length buffer) e.takeId).Receiving) :
    (e.accept body length buffer k).Receiving :=
  rel_ite (R := fun _ => Extension.Receiving) (e := e)
    (fun _ => receiving_completeNew (e := e.takeId) h rfl) (fun _ => hk)

theorem receiving_refuse (h : e.Receiving) (status : NtStatus) :
    (e.takeId.refuse status (Request.new e.nextId body length buffer)).Receiving :=
  receiving_completeNew (e := e.takeId) h rfl

/-- A new request comes to the read queue. -/
theorem receiving_readQueue (h : e.Receiving) (hpc : e.pc = .idle)
    (hproper : (Request.new e.nextId body length buffer).Proper) :
    (e.takeId.serialStartOrQueue (Request.new e.nextId body length buffer) .readQueue .read
      serialStartRead).Receiving := by
  unfold serialStartOrQueue
  split
  · next hfree =>
    rw [Bool.and_eq_true, Option.isNone_iff_eq_none] at hfree
    have hidle : Received .idle e.reception := by
      unfold Extension.Receiving at h
      rwa [hpc] at h
    have hnone : e.reception.reader = none := by
      have hcur : e.current .read = none := hfree.2
      rw [reception, hcur]
      rfl
    refine (hidle.arrive hnone (r := (Request.new e.nextId body length buffer).reader)
      (fits_of_fresh (Request.fresh_new ..) hproper) rfl (p := .start) (.inr rfl)).receiving ?_ rfl
    simp [serialStartRead, Extension.goto, reception, setCurrent, addCharsQueued, takeId, delivered]
  · unfold forwardToIoQueue
    split
    · exact h.congr rfl rfl
    · exact receiving_completeNew (e := e.takeId.addCharsQueued _) h rfl

end

/-- A read of length zero never reaches the ring. -/
theorem receiving_serialEvtIoRead (h : e.Receiving) (hpc : e.pc = .idle) (n : Nat) :
    (e.serialEvtIoRead n).Receiving := by
  refine receiving_accept h ?_
  split
  · exact receiving_refuse h _
  · next hn =>
    exact receiving_readQueue h hpc ⟨Nat.pos_of_ne_zero hn, List.length_replicate⟩

/-- A resize takes its turn among the reads. -/
theorem receiving_ioctlSetQueueSize (h : e.Receiving) (hpc : e.pc = .idle) (n : Nat) :
    (e.ioctlSetQueueSize n).Receiving := by
  refine receiving_accept h ?_
  split
  · exact receiving_refuse h _
  · exact receiving_readQueue h hpc trivial

theorem receiving_runCanceledOnQueue (h : e.Receiving) (i : Nat) :
    (e.runCanceledOnQueue i).Receiving := by
  unfold runCanceledOnQueue
  split
  · exact h
  · next r hr =>
    have hmoved : ({ e with canceledOnQueue := e.canceledOnQueue.eraseIdx i }.addCharsQueued
        (-charsQueued r)).Receiving := h.congr rfl rfl
    exact receiving_completeNew hmoved rfl

/-! ## Purges -/

/-- What purges keep: the reference discipline of reads and the receive path. No piece of
`SerialStartRead` but the first is to run. -/
structure ReadReady (e : Extension U) : Prop where
  tracked : Tracked .read e
  receiving : e.Receiving
  pc : e.pc = .idle ∨ e.pc = .start

theorem readReady_rule [Uart U] :
    StepRule (U := U) (· = .read) fun e e' => ReadReady e → ReadReady e' := by
  refine .of_interruptRule ((effect_interruptRule.and receiving_interruptRule).keep
    fun _ _ hR h => ?_) fun _ _ hsame h => ?_
  · exact ⟨h.tracked.of_effect hR.1, hR.2 h.receiving, by rw [hR.1.pc]; exact h.pc⟩
  · have hread := hsame .read rfl
    exact ⟨h.tracked.of_same hread, h.receiving.congr hread.reception.1 hread.reception.2,
      by rw [hread.reception.2]; exact h.pc⟩

theorem pc_tryToCompleteRead (e : Extension U) {g : Extension U → Extension U}
    (hg : ∀ e, (g e).pc = e.pc) (status : NtStatus) (ref : Ref) :
    (e.tryToCompleteRead g status ref).pc = e.pc ∨
      (e.tryToCompleteRead g status ref).pc = .start := by
  have hstop (interval total : Option TimerId) :
      (e.stopAgents g status .read interval total ref).pc = e.pc :=
    ((Bookkeeping.rundown _ .read _ _ _ _).pc.trans (hg _)).trans
      (Bookkeeping.dropOwnReference e .read ref).pc
  unfold tryToCompleteRead serialTryToCompleteCurrent completeIfUnreferenced
  split
  · exact .inl rfl
  · split
    · exact .inl (hstop _ _)
    · split
      · unfold startNew
        dsimp only
        split
        · exact .inr rfl
        · left
          rw [pc_serialGetNextRequest, pc_giveStatus, hstop]
      · exact .inl (hstop _ _)

theorem pc_serialGrabReadFromIsr (e : Extension U) : e.serialGrabReadFromIsr.pc = e.pc := by
  unfold serialGrabReadFromIsr clearReference
  split
  · simp [resetRing]
  · rfl

/-- Cancelling the reads keeps their references and the receive path in order. -/
theorem readReady_abortReads [Uart U] (h : ReadReady e) (hacc : Accounted e) :
    ReadReady e.abortReads := by
  have hpurge := hacc.wdfIoQueuePurge .readQueue
  have hreceiving : (e.wdfIoQueuePurge .readQueue).Receiving := h.receiving.congr rfl rfl
  suffices hcancel : ((e.wdfIoQueuePurge .readQueue).cancelCurrent .read
      serialCancelCurrentRead).Receiving ∧
      (((e.wdfIoQueuePurge .readQueue).cancelCurrent .read serialCancelCurrentRead).pc = .idle ∨
        ((e.wdfIoQueuePurge .readQueue).cancelCurrent .read serialCancelCurrentRead).pc = .start) from
    ⟨tracked_abortReads h.tracked hacc, hcancel.1.congr rfl rfl, hcancel.2⟩
  rcases cancelCurrent_cases (h.tracked.wdfIoQueuePurge .readQueue) serialCancelCurrentRead with
    hsame | ⟨r, hr, hcall, hcancel⟩
  · rw [hsame]
    exact ⟨hreceiving, h.pc⟩
  · rw [hcancel]
    have hident := CallbackRule.ident_serialClearCancelRoutine false r
    have hmarks := Bookkeeping.data_serialClearCancelRoutine false r
    have hset : ((e.wdfIoQueuePurge .readQueue).setCurrent .read
        (some (r.serialClearCancelRoutine false).2)).Receiving := by
      have hmodify : ((e.wdfIoQueuePurge .readQueue).modifyCurrent .read fun r =>
          (r.serialClearCancelRoutine false).2).Receiving :=
        hreceiving.bookkeeping (.modifyCurrent _ .read (Bookkeeping.data_serialClearCancelRoutine false))
      rwa [modifyCurrent_of_some _ hr] at hmodify
    refine ⟨receiving_serialCancelCurrentRead hset (hpurge.setCurrent_of_ident ?_) hcall, ?_⟩
    · rw [hr, Option.map_some, Option.map_some, hident]
    · rcases pc_tryToCompleteRead _ pc_serialGrabReadFromIsr _ _ with hpc | hpc
      · exact h.pc.imp hpc.trans hpc.trans
      · exact .inr hpc

/-- What is thrown away goes to no reader. -/
theorem receiving_clearRing (h : ReadReady e) (hring : e.rx.readBufferBase = .ring) :
    e.clearRing.Receiving :=
  (Received.clear h.receiving hring h.pc).receiving
    (by simp [clearRing, resetRing, reception, delivered, hring]) rfl

/-- The ring is left alone while the ISR fills a reader's buffer. -/
theorem readReady_serialPurgeInterruptBuff [Uart U] (h : ReadReady e) :
    ReadReady e.serialPurgeInterruptBuff := by
  refine ⟨tracked_serialPurgeInterruptBuff h.tracked, ?_, ?_⟩
  · unfold serialPurgeInterruptBuff
    split
    · next hring =>
      have hclear := receiving_clearRing h hring
      exact hclear.congr (sameReception_serialHandleReducedIntBuffer _).1
        (sameReception_serialHandleReducedIntBuffer _).2
    · exact h.receiving
  · unfold serialPurgeInterruptBuff
    split
    · rw [(sameReception_serialHandleReducedIntBuffer _).2]
      exact h.pc
    · exact h.pc

theorem aborts_readReady [Uart U] : Aborts (U := U) fun e e' => ReadReady e → ReadReady e' where
  writes := readReady_rule.abortWrites (by decide) (by decide)
  xoff := readReady_rule.abortXoff (by decide) (by decide)
  reads e hacc := ⟨(anything.abortReads id e hacc).1, fun h => readReady_abortReads h hacc⟩
  buffer e hacc := ⟨(anything.serialPurgeInterruptBuff id e hacc).1,
    readReady_serialPurgeInterruptBuff⟩

/-! ## Callbacks and steps -/

/-- Every callback keeps the receive path in order. -/
theorem receiving_callback [Uart U] (h : e.Receiving) (hdis : Disciplined e) {c : Callback}
    (hpc : e.pc = .idle) (hc : e.enabled c = true) : (e.callback c).Receiving := by
  have hacc := hdis.accounted
  cases hw : c.worksFor .read with
  -- no other callback touches what has been received
  | false =>
    exact (receiving_rule.callback e c (fun t ht hs => by rw [hs, hw] at ht; cases ht) hc hacc).2 h
  | true =>
    have hidle := not_starting (s := .read) hpc
    have hready : ReadReady e := ⟨hdis.read, h, .inl hpc⟩
    cases c with
    | evtIoRead n => exact receiving_serialEvtIoRead h hpc n
    | setQueueSize n => exact receiving_ioctlSetQueueSize h hpc n
    | purge m =>
      exact ((readReady_rule.ioctlPurge e m (by decide) aborts_readReady hacc).2 hready).receiving
    | dpc d =>
      have hacc' : Accounted (e.takeDpc d) := hacc.congr (fun _ => rfl) rfl
      cases d with
      | completeRead =>
        exact receiving_serialCompleteRead (e := e.takeDpc .completeRead) h hacc'
          (hdis.read.takeDpc rfl hc hidle)
      | commError =>
        have htake : ReadReady (e.takeDpc .commError) :=
          ⟨hdis.read.of_same (.dpc_update e false (by decide)), h, .inl hpc⟩
        exact ((readReady_rule.serialCommError aborts_readReady _ hacc').2 htake).receiving
      | _ => cases hw
    | timer t =>
      have hacc' : Accounted (e.takeTimer t) := hacc.congr (fun _ => rfl) rfl
      cases t with
      | readRequestTotal =>
        exact receiving_serialReadTimeout (e := e.takeTimer .readRequestTotal) h hacc'
          (hdis.read.takeTimer .totalTimer rfl hc hidle)
      | readRequestInterval =>
        exact receiving_serialIntervalReadTimeout (e := e.takeTimer .readRequestInterval) h hacc'
          (hdis.read.takeTimer .intTimer rfl hc hidle)
      | _ => cases hw
    | cancelRoutine t =>
      have hacc' := hacc.modifyCurrent t (f := fun r => { r with cancelable := .none }) (by intro; rfl)
      cases t with
      | read =>
        have hmark : (e.modifyCurrent .read fun r => { r with cancelable := .none }).Receiving :=
          h.bookkeeping (.modifyCurrent e .read (by intro; rfl))
        exact receiving_serialCancelCurrentRead hmark hacc' (calledFor_cancel hdis.read hc)
      | _ => cases hw
    | canceledOnQueue i => exact receiving_runCanceledOnQueue h i
    | _ => cases hw

/-- **Step lemma.** -/
theorem receiving_step [Uart U] (h : e.Receiving) (hdis : Disciplined e)
    {l : Label (Uart.Input U)} (hstep : step l e = some e') : e'.Receiving := by
  cases hw : l.worksFor .read with
  | false =>
    exact (receiving_rule.step hstep (fun t ht hs => by rw [hs, hw] at ht; cases ht)
      hdis.accounted).2 h
  | true =>
    cases fires_of_step hstep with
    | expire hqueued => exact h
    | @cancel t r hr =>
      obtain rfl : Slot.read = t := by simpa [Label.worksFor] using hw
      refine h.congr ?_ rfl
      simp [reception, setCurrent, delivered, hr, Request.markCanceled, Request.reader]
    | cancelWaiting hr => exact h
    | readStep hpc => exact receiving_serialStartReadStep h hdis.read hdis.accounted
    | callback hpc hc => exact receiving_callback h hdis hpc hc
    | _ => cases hw

/-- A port that has just been opened has an empty ring and no read. -/
theorem receiving_opened (u : U) (cfg : Config) {size : Nat} (hsize : 0 < size) :
    (opened u cfg size).Receiving where
  size := List.length_replicate
  room := hsize
  ring _ := ⟨Nat.zero_le _, Nat.zero_le _, hsize, (Nat.zero_mod _).symm, rfl⟩
  user huser := nomatch huser
  fits r hr := nomatch hr
  phase := trivial
  stream := by
    show Fifo.State.empty = ⟨[], [] ++ Ring.window _ _ (0 - 0)⟩
    rw [Ring.window_zero]
    rfl

/-- **Run lemma.** -/
theorem receiving_run [Uart U] {u : U} {cfg : Config} {size : Nat} (hsize : 0 < size)
    {ls : List (Label (Uart.Input U))} (hrun : run step ls (opened u cfg size) = some e) :
    Disciplined e ∧ e.Receiving := by
  let Inv (e : Extension U) : Prop := Disciplined e ∧ e.Receiving
  have hstep (l : Label (Uart.Input U)) (s s' : Extension U) (h : step l s = some s') :
      Inv s → Inv s' :=
    fun hs => ⟨hs.1.step h, receiving_step hs.2 hs.1 h⟩
  have hstart : Inv (opened u cfg size) :=
    ⟨disciplined_opened u cfg size, receiving_opened u cfg hsize⟩
  have hend : Inv e := run_invariant hstep hrun hstart
  exact hend

/-! ## The stream -/

/-- The bytes of the current read that are in its buffer. -/
def Extension.placed (e : Extension U) : List UInt8 := e.reception.placed e.pc

/-- The bytes of the interrupt buffer that no read has got. -/
def Extension.unread (e : Extension U) : List UInt8 := e.reception.unread e.pc

/-- Between two reads, what is unread are the `CharsInInterruptBuffer` bytes from
`FirstReadableChar` on, around the end of the buffer. -/
theorem unread_of_idle (h : e.pc = .idle) :
    e.unread = Ring.window e.rx.interruptReadBuffer e.rx.firstReadableChar
      e.rx.charsInInterruptBuffer := by
  rw [Extension.unread, h]
  rfl

/-- What readers have got, followed by what they will get. -/
def Extension.received (e : Extension U) : List UInt8 := e.delivered ++ (e.placed ++ e.unread)

structure StreamIntegrity (e : Extension U) : Prop where
  /-- Every byte that was stored has been handed back, is held, or was lost on a known occasion. -/
  account : Fifo.exec e.stream = ⟨e.delivered, e.placed ++ e.unread⟩
  /-- With no purge, no cancelled read and no overwriting, that is all of them in order. -/
  complete : Fifo.Lossless e.stream → e.received = Fifo.puts e.stream
  /-- With no overwriting, nothing is duplicated, changed or reordered. -/
  ordered : Fifo.Faithful e.stream → e.received.Sublist (Fifo.puts e.stream)

/-- **Integrity of the receive stream.** In every reachable state the bytes handed back, then those
in the current read's buffer, then the unread ones of the interrupt buffer are the bytes that the
ISR stored, less those thrown away by purges and cancelled reads. -/
theorem stream_integrity [Uart U] {u : U} {cfg : Config} {size : Nat} (hsize : 0 < size)
    {ls : List (Label (Uart.Input U))} (hrun : run step ls (opened u cfg size) = some e) :
    StreamIntegrity e := by
  have hreceiving : e.Receiving := (receiving_run hsize hrun).2
  have haccount : Fifo.exec e.stream = ⟨e.delivered, e.placed ++ e.unread⟩ := hreceiving.stream
  refine ⟨haccount, fun hlossless => ?_, fun hfaithful => ?_⟩
  · have hall := Fifo.exec_of_lossless hlossless
    rwa [haccount] at hall
  · have hsome := Fifo.exec_sublist hfaithful
    rwa [haccount] at hsome

/-- Two bytes wait in a ring of four when a read of three is started; a third one comes in between
two pieces, and two more behind it. -/
def readAcrossPieces : List (Label Chip.Input) :=
  [.hardware (.receive ⟨1, 0⟩), .hardware (.receive ⟨2, 0⟩), .isr 4, .callback (.evtIoRead 3),
    .readStep, .readStep, .readStep, .hardware (.receive ⟨3, 0⟩), .isr 4, .readStep,
    .hardware (.receive ⟨4, 0⟩), .hardware (.receive ⟨5, 0⟩), .isr 4]

theorem stream_integrity_readAcrossPieces :
    ∃ e, run step readAcrossPieces (opened Chip.idle .plain 4) = some e ∧
      (e.received == [1, 2, 3, 4, 5]) = true ∧ StreamIntegrity e := by
  have hrun : (run step readAcrossPieces (opened Chip.idle .plain 4)).any
      (fun e => e.received == [1, 2, 3, 4, 5]) = true := by decide +kernel
  obtain ⟨e, he, hreceived⟩ := (Option.any_eq_true _ _).mp hrun
  exact ⟨e, he, hreceived, stream_integrity (by decide) he⟩

end SerialFc
