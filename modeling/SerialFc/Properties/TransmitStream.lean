import SerialFc.Properties.Transmission
import SerialFc.Properties.Discipline
import SerialFc.Properties.Endings

/-!
# Integrity of the transmit stream

The log of `Transmission` over whole runs: what the routines of the write path do to it, from the
moment a request becomes `CurrentWriteRequest` to its completion.

* `sends_bookkeeping`, `logged_serialGrabWriteFromIsr` — taking a write back from its agents
* `transmitting_serialStartWrite`, `transmitting_nextWrite` — from one write to the next
* `transmit_integrity` — the data bytes on the line are one piece of each request's payload, in the
  order the requests were started, and completed writes report the length of their piece
-/

namespace SerialFc

open Extension Lib

variable {U : Type} {e e' : Extension U}

/-! ## What is sent of a request -/

/-- What is sent of a request is as long as `WriteLength` says at first. -/
def Request.Sized (r : Request) : Prop := (if r.isWrite then r.length else 1) = r.payload.length

theorem Request.Proper.sized {r : Request} (h : r.Proper) (hs : Slot.write.serves r.body = true) :
    r.Sized := by
  unfold Request.Sized Request.isWrite Request.payload
  cases hb : r.body with
  | write payload =>
    simp only [Request.Proper, hb] at h
    simp only [if_true]
    rw [h.2.2, h.2.1]
  | xoffCounter timeout counter c => rfl
  | _ =>
    rw [hb] at hs
    cases hs

/-! ## The current write changes, but not what is sent -/

/-- With nothing left to send, only the log and what is completed matter. -/
theorem Logged.idle (h : Logged e) (hzero : e'.tx.writeLength = 0)
    (hwire : e'.wire = e.wire) (hdone : e'.finishedWrites = e.finishedWrites)
    (hacc : Accounted e') (hsized : ∀ r, e'.current .write = some r → r.Sized) : Logged e' where
  wired := by rw [hwire]; exact h.wired
  finished := by rw [hdone, hwire]; exact h.finished
  apart _ hr r' hr' := hacc.ne_done hr (List.mem_filter.mp hr').1
  sized := hsized
  pending hne := absurd hzero hne

theorem sends_of_same (h : Logged e) (hsame : Same .write e e') : Sends e e' := by
  obtain ⟨hleft, hchar, hwire, _⟩ := hsame.data
  have hdpc : e'.dpc .completeWrite = e.dpc .completeWrite := hsame.dpc
  exact h.congr (by rw [hsame.current]) hwire hsame.finished (by rw [hleft, hchar, hdpc])

theorem sending_of_data {r r' : Request} (h : r'.data = r.data) : r'.sending = r.sending :=
  Request.of_data Request.sending (fun _ => rfl) h

theorem sends_bookkeeping (h : Logged e) (hb : Bookkeeping .write e e') : Sends e e' := by
  refine h.congr ?_ (by rw [hb.rest]) (by rw [finishedWrites, hb.done, finishedWrites])
    (by rw [hb.rest])
  have hdata := hb.data
  cases hr : e.current .write with
  | none =>
    rw [hr, Option.map_none, Option.map_eq_none_iff] at hdata
    rw [hdata]
  | some r =>
    rw [hr, Option.map_some] at hdata
    obtain ⟨r', hr', hsame⟩ := Option.map_eq_some_iff.mp hdata
    rw [hr', Option.map_some, Option.map_some, sending_of_data hsame]

/-- The last segment is sent to its end. -/
def Whole (e : Extension U) : Prop := ∃ s segs, segments e.wire = s :: segs ∧ s.sent = s.payload

/-- The current write with nothing left for the ISR: what it is going to report. -/
structure Handed (e : Extension U) : Prop where
  logged : Logged e
  started : Started e
  idle : e.tx.writeLength = 0

/-- The ISR gives the rest of a write back. -/
theorem handed_serialGrabWriteFromIsr (h : Logged e) (hstarted : Started e) :
    Handed e.serialGrabWriteFromIsr := by
  unfold serialGrabWriteFromIsr
  split
  · next hzero => exact ⟨h, hstarted, hzero⟩
  · next hne =>
    obtain ⟨r, s, segs, hr, hs, hp⟩ := h.pending hne
    have hsized := h.sized r hr
    -- what the ISR has taken and what it has not yet make up the payload
    have hsplit := congrArg List.length hp.rest
    rw [List.length_append, hp.payload, ← hp.length] at hsplit
    let r' : Request := { r with
      information := if r.isWrite then r.length - e.tx.writeLength else 0 }
    have hset : e.modifyCurrent .write (fun r => { r with
        information := if r.isWrite then r.length - e.tx.writeLength else 0 }) =
        e.setCurrent .write (some r') := modifyCurrent_of_some _ hr
    have hcur : (e.setCurrent .write (some r')).current .write = some r' := by
      rw [current_setCurrent, if_pos rfl]
    rw [hset, clearReference, modifyCurrent_of_some _ hcur]
    have hgiven {r'' : Request} (hr'' : ((((e.setCurrent .write (some r')).setCurrent .write
        (some (r'.putReference false .isr))).setWriteLength 0).current .write = some r'')) :
        r'' = r'.putReference false .isr := by
      have hcur' : ((e.setCurrent .write (some r')).setCurrent .write
          (some (r'.putReference false .isr))).current .write = some r'' := hr''
      rw [current_setCurrent, if_pos rfl] at hcur'
      exact (Option.some.inj hcur').symm
    refine ⟨⟨h.wired, h.finished, fun r'' hr'' => ?_, fun r'' hr'' => ?_,
      fun hleft => absurd rfl hleft⟩, fun r'' hr'' => ?_, rfl⟩
    · rw [hgiven hr'']
      exact h.apart r hr
    · rw [hgiven hr'']
      exact hsized
    · rw [hgiven hr'']
      refine ⟨s, segs, hs, hp.id, hp.payload, fun _ hwrite => ?_, fun hpending => ?_⟩
      · have hw : r.isWrite = true := hwrite
        rw [if_pos hw] at hsized
        show (if r.isWrite = true then r.length - e.tx.writeLength else 0) = s.sent.length
        rw [if_pos hw]
        omega
      · exact absurd (hp.dpc.symm.trans hpending) (by decide)

theorem Handed.bookkeeping (h : Handed e) (hb : Bookkeeping .write e e') : Handed e' := by
  have hsends := sends_bookkeeping h.logged hb
  exact ⟨hsends.logged, hsends.started h.started, hsends.idle h.idle⟩

/-- The log and the write that it ends with, between two callbacks. -/
structure Streamed (e : Extension U) : Prop where
  logged : Logged e
  started : Started e

theorem Sends.streamed (h : Sends e e') (hstarted : Started e) : Streamed e' :=
  ⟨h.logged, h.started hstarted⟩

/-! ## The status of a write -/

/-- What a write that is being completed tells its sender. -/
theorem reported_giveStatus (h : Handed e) {r : Request} (hr : e.current .write = some r)
    {status : NtStatus} (hwhole : status = .success → Whole e) {r' : Request}
    (hr' : (e.giveStatus .write status).current .write = some r') (hwrite : r'.isWrite = true)
    (hended : r'.Ended) : ∃ s ∈ segments (e.giveStatus .write status).wire, Reported r' s := by
  rw [current_giveStatus hr status] at hr'
  cases hr'
  have hwire : (e.giveStatus .write status).wire = e.wire :=
    congrArg (fun x => x.2.1) (fields_giveStatus e .write status)
  obtain ⟨s, segs, hs, hhand⟩ := h.started r hr
  have hwr : r.isWrite = true := hwrite
  have hcounted := hhand.counted h.idle hwr
  refine ⟨s, by rw [hwire, hs]; exact List.mem_cons_self .., hhand.id, hhand.payload,
    fun hsuccess => ?_, fun htimeout => ?_⟩
  · have hstatus : status = .success := hsuccess
    obtain ⟨s', segs', hs', hfull⟩ := hwhole hstatus
    obtain rfl : s = s' := (List.cons.inj (hs.symm.trans hs')).1
    refine ⟨hfull, ?_⟩
    have hsized := h.logged.sized r hr
    rw [if_pos hwr] at hsized
    show (if status = .cancelled then 0 else r.information) = r.length
    rw [hstatus, if_neg (by decide), hcounted, hfull, hsized, hhand.payload]
  · have hstatus : status = .timeout := htimeout
    show (if status = .cancelled then 0 else r.information) = s.sent.length
    rw [hstatus, if_neg (by decide), hcounted]

theorem logged_giveStatus (h : Handed e) (status : NtStatus)
    (hacc : Accounted (e.giveStatus .write status)) : Logged (e.giveStatus .write status) := by
  have hfields := fields_giveStatus e .write status
  simp only [Prod.mk.injEq] at hfields
  obtain ⟨htx, hwire, _, hdone⟩ := hfields
  refine h.logged.idle (by rw [htx]; exact h.idle) hwire (by rw [finishedWrites, hdone]; rfl) hacc
    fun r' hr' => ?_
  cases hr : e.current .write with
  | none =>
    have hnone : (e.giveStatus .write status).current .write = none := by
      unfold giveStatus
      rw [hr]
      exact hr
    cases hnone.symm.trans hr'
  | some r =>
    rw [current_giveStatus hr status] at hr'
    cases hr'
    exact h.logged.sized r hr

/-! ## Starting a write -/

section
variable [Uart U]

/-- The request is given to the ISR: a segment begins. -/
theorem streamed_serialGiveWriteToIsr (h : Logged e) {r : Request}
    (hr : e.current .write = some r) (hlen : r.isWrite = true → 0 < r.length)
    (hdpc : e.dpc .completeWrite = false) : Streamed e.serialGiveWriteToIsr := by
  -- a new segment, with nothing of it sent
  have hsegs : segments (e.wire ++ [Wire.started r.id r.payload]) =
      ⟨r.id, r.payload, []⟩ :: segments e.wire := by
    rw [segments_snoc]
    cases segments e.wire <;> rfl
  have hsized := h.sized r hr
  have hset : (e.giveWrite r).modifyCurrent .write (·.putReference true .isr) =
      (e.giveWrite r).setCurrent .write (some (r.putReference true .isr)) :=
    modifyCurrent_of_some _ (show (e.giveWrite r).current .write = some r from hr)
  have hown {r' : Request} (hr' : ((e.giveWrite r).setCurrent .write
      (some (r.putReference true .isr))).current .write = some r') :
      r' = r.putReference true .isr := by
    rw [current_setCurrent, if_pos rfl] at hr'
    exact (Option.some.inj hr').symm
  have hgiven : Streamed ((e.giveWrite r).setCurrent .write (some (r.putReference true .isr))) := by
    refine ⟨⟨h.wired.started r.id r.payload, fun r' hr' hended => ?_, fun r' hr' => ?_,
      fun r' hr' => ?_, fun _ => ?_⟩, fun r' hr' => ?_⟩
    · obtain ⟨s, hs, hreported⟩ := h.finished r' hr' hended
      refine ⟨s, ?_, hreported⟩
      show s ∈ segments (e.wire ++ [Wire.started r.id r.payload])
      rw [hsegs]
      exact List.mem_cons_of_mem _ hs
    · rw [hown hr']
      exact h.apart r hr
    · rw [hown hr']
      exact hsized
    · refine ⟨r.putReference true .isr, _, _, ?_, hsegs, ⟨rfl, rfl, List.nil_append _, hsized, hdpc⟩⟩
      rw [current_setCurrent, if_pos rfl]
    · rw [hown hr']
      refine ⟨_, _, hsegs, rfl, rfl, fun hzero => ?_, fun hpending => ?_⟩
      · have hnone : (if r.isWrite then r.length else 1) = 0 := hzero
        split at hnone
        · next hwrite => exact absurd hnone (Nat.ne_of_gt (hlen hwrite))
        · cases hnone
      · exact absurd (hdpc.symm.trans hpending) (by decide)
  unfold serialGiveWriteToIsr
  rw [hr]
  dsimp only
  rw [hset]
  generalize (e.giveWrite r).setCurrent .write (some (r.putReference true .isr)) = e₁ at *
  have hrule := sends_interruptRule (U := U)
  have hstart : Sends e₁ e₁.startTransmit := by
    unfold startTransmit
    split
    · exact hrule.retickle e₁ hgiven.logged
    · exact hrule.refl e₁ hgiven.logged
  have hraise := hrule.raiseRtsInToggle e₁.startTransmit hstart.logged
  exact (hstart.trans hraise).streamed hgiven.started

/-- `SerialStartWrite`. -/
theorem streamed_serialStartWrite (hacc : Accounted e) (hready : ReadyWrite e) (h : Logged e) :
    Streamed e.serialStartWrite := by
  have hkill := (sends_rule.killXoff xoff_ne_write e hacc).2 h
  obtain ⟨hunheld, r, hr, hlen⟩ := (readyWrite_rule.killXoff xoff_ne_write e hacc).2 hready
  have hbook := bookkeeping_armed e.killXoff .write .writeRequestTotal
  have harmed := sends_bookkeeping hkill.logged hbook
  have hdata := hbook.data
  rw [hr, Option.map_some] at hdata
  obtain ⟨r', hr', hsame⟩ := Option.map_eq_some_iff.mp hdata
  refine streamed_serialGiveWriteToIsr harmed.logged hr' ?_ ?_
  · rw [Request.of_data Request.isWrite (fun _ => rfl) hsame,
      Request.of_data Request.length (fun _ => rfl) hsame]
    exact hlen
  · rw [hbook.rest]
    exact hunheld.unattended.2.1

/-! ## From one write to the next -/

omit [Uart U] in
/-- The slot is empty: nothing is being sent. -/
theorem Logged.streamed_of_none (h : Logged e) (hnone : e.current .write = none) : Streamed e :=
  ⟨h, fun r hr => by rw [hnone] at hr; cases hr⟩

omit [Uart U] in
theorem writeLength_of_unheld (h : Unheld .write e) : e.tx.writeLength = 0 := by
  have hisr : (e.tx.writeLength != 0) = false := h.unattended.1
  simpa using hisr

/-- What does not work for writes puts nothing in their slot. -/
theorem noWrite_rule : StepRule (U := U) (· = .write) fun e e' =>
    e.current .write = none → e'.current .write = none :=
  .of_interruptRule (interruptRule_of_effect fun _ _ heff h => heff.current_none h)
    fun _ _ hsame h => (hsame .write rfl).current.trans h

/-- An XOFF counter that has been sent leaves the slot; any other request stays. -/
theorem logged_holdIfXoff (hacc : Accounted e) (h : Logged e) (hzero : e.tx.writeLength = 0)
    {r : Request} (hr : e.current .write = some r) : Logged (e.holdIfXoff r) ∧
      (e.holdIfXoff r = e ∨ r.isWrite = false ∧ (e.holdIfXoff r).current .write = none) := by
  unfold holdIfXoff
  split
  · next timeout counter c hbody =>
    split
    · exact ⟨h, .inl rfl⟩
    · have hserves : Slot.xoff.serves r.body = true := by rw [hbody]; rfl
      have haccm := (anything.moveToXoff id id hr hserves hacc).1
      have hnone : (e.moveToXoff r).current .write = none := by
        rw [moveToXoff, current_setCurrent, if_neg (by decide), current_setCurrent, if_pos rfl]
      have hmoved : Logged (e.moveToXoff r) := h.idle hzero rfl rfl haccm fun r' hr' => by
        cases hnone.symm.trans hr'
      obtain ⟨haccg, hgive⟩ := sends_rule.serialGiveXoffToIsr xoff_ne_write (e.moveToXoff r) counter
        haccm
      have harm := (sends_rule.armXoffTimer xoff_ne_write _ timeout haccg).2 (hgive hmoved).logged
      have hgiven := (noWrite_rule.serialGiveXoffToIsr xoff_ne_write (e.moveToXoff r) counter
        haccm).2 hnone
      refine ⟨harm.logged, .inr ⟨by rw [Request.isWrite, hbody], ?_⟩⟩
      exact (noWrite_rule.armXoffTimer xoff_ne_write _ timeout haccg).2 hgiven
  · exact ⟨h, .inl rfl⟩

/-- The write is completed, and the next one comes in. -/
theorem logged_getNext (hacc : Accounted e) (h : Logged e) (hzero : e.tx.writeLength = 0)
    (hreport : ∀ r, e.current .write = some r → r.isWrite = true → r.Ended →
      ∃ s ∈ segments e.wire, Reported r s) :
    Logged (e.serialGetNextRequest .write .writeQueue true) := by
  have hfields := fields_getNext e .write .writeQueue
  simp only [Prod.mk.injEq] at hfields
  obtain ⟨htx, hwire, hdone⟩ := hfields
  have hacc' : Accounted (e.serialGetNextRequest .write .writeQueue true) :=
    (anything.getNext e .writeQueue (apart_nothing _) hacc).1
  refine ⟨by rw [hwire]; exact h.wired, fun r hr hended => ?_,
    fun r hr r' hr' => hacc'.ne_done hr (List.mem_filter.mp hr').1, fun r hr => ?_,
    fun hne => absurd (htx ▸ hzero) hne⟩
  · obtain ⟨hmem, hfin⟩ := List.mem_filter.mp hr
    rw [hwire]
    rw [hdone] at hmem
    rcases List.mem_append.mp hmem with hmem | hmem
    · exact h.finished r (List.mem_filter.mpr ⟨hmem, hfin⟩) hended
    · have hcur : e.current .write = some r := by simpa using hmem
      have hwrite : r.isWrite = true := by
        unfold Request.isWrite
        cases hb : r.body with
        | write payload => rfl
        | _ =>
          rw [hb] at hfin
          cases hfin
      exact hreport r hcur hwrite hended
  · obtain ⟨r₀, hmem, rfl⟩ := current_serialGetNextRequest hr
    obtain ⟨_, hproper, hserves⟩ := hacc.waiting _ r₀ hmem
    exact hproper.sized hserves

/-- The end of a write and the start of the next one. -/
theorem streamed_nextWrite (hacc : Accounted e) (hun : Unheld .write e) (h : Logged e)
    {r : Request} (hr : e.current .write = some r)
    (hreport : r.isWrite = true → r.Ended → ∃ s ∈ segments e.wire, Reported r s) :
    Streamed (e.serialGetNextWrite.startNew .write serialStartWrite) := by
  unfold serialGetNextWrite
  rw [hr]
  dsimp only
  -- first the count, then an XOFF counter that stays on, then the next request
  obtain ⟨hacc₁, hun₁⟩ := (unheld_rule .write).addCharsQueued e (-charsQueued r) hacc
  have hr₁ : (e.addCharsQueued (-charsQueued r)).current .write = some r := hr
  have hcount : Sends e (e.addCharsQueued (-charsQueued r)) := h.congr rfl rfl rfl rfl
  have h₁ := hcount.logged
  have hreport₁ : r.isWrite = true → r.Ended →
      ∃ s ∈ segments (e.addCharsQueued (-charsQueued r)).wire, Reported r s := hreport
  generalize e.addCharsQueued (-charsQueued r) = e₁ at *
  have hun₂ := unheld_holdIfXoff hacc₁ (hun₁ hun) hr₁
  have hacc₂ := (anything.holdIfXoff id id hr₁ hacc₁).1
  obtain ⟨h₂, hstays⟩ := logged_holdIfXoff hacc₁ h₁ (writeLength_of_unheld (hun₁ hun)) hr₁
  have hreport₂ : ∀ r', (e₁.holdIfXoff r).current .write = some r' → r'.isWrite = true →
      r'.Ended → ∃ s ∈ segments (e₁.holdIfXoff r).wire, Reported r' s := by
    intro r' hr'
    rcases hstays with hsame | ⟨_, hnone⟩
    · rw [hsame] at hr' ⊢
      cases hr₁.symm.trans hr'
      exact hreport₁
    · cases hnone.symm.trans hr'
  generalize e₁.holdIfXoff r = e₂ at *
  have h₃ := logged_getNext hacc₂ h₂ (writeLength_of_unheld hun₂) hreport₂
  have hun₃ : Unheld .write (e₂.serialGetNextRequest .write .writeQueue true) :=
    hun₂.getNext (q := .writeQueue) hacc₂
  have hacc₃ : Accounted (e₂.serialGetNextRequest .write .writeQueue true) :=
    (anything.getNext e₂ .writeQueue (apart_nothing _) hacc₂).1
  have hsized : ∀ r', (e₂.serialGetNextRequest .write .writeQueue true).current .write = some r' →
      r'.isWrite = true → 0 < r'.length := by
    intro r' hr' hw
    obtain ⟨r₀, hmem, rfl⟩ := current_serialGetNextRequest hr'
    exact (hacc₂.waiting _ r₀ hmem).2.1.length_pos hw
  generalize e₂.serialGetNextRequest .write .writeQueue true = e₃ at *
  -- a request is fetched, or the transmitter has run empty
  unfold emptyTransmitIfNone
  cases hcur : e₃.current .write with
  | none =>
    have hempty := (effect_interruptRule (U := U)).lockRule.serialProcessEmptyTransmit e₃
    have hnone := hempty.current_none hcur
    have hsends := (sends_interruptRule (U := U)).lockRule.serialProcessEmptyTransmit e₃ h₃
    have hstate : (if (none : Option Request).isSome = true then e₃ else e₃.serialProcessEmptyTransmit)
        = e₃.serialProcessEmptyTransmit := rfl
    rw [hstate, startNew, hnone]
    exact hsends.logged.streamed_of_none hnone
  | some r' =>
    have hstate : (if (some r').isSome = true then e₃ else e₃.serialProcessEmptyTransmit) = e₃ := rfl
    rw [hstate, startNew, hcur]
    exact streamed_serialStartWrite hacc₃ ⟨hun₃, r', hcur, hsized r' hcur⟩ h₃

/-! ## Ending a write -/

/-- A write is taken back and, with no agent left, completed. -/
theorem streamed_tryToCompleteWrite (hacc : Accounted e) {ref : Ref}
    (hcall : CalledFor e .write ref) {g : Extension U → Extension U} (hg : TakesBack .write ref g)
    (hgacc : ∀ e, Accounted e → Accounted (g e)) (hint : ref ≠ .intTimer) {status : NtStatus}
    (hback : Handed (g (e.dropOwnReference .write ref)))
    (hwhole : status = .success → Whole (g (e.dropOwnReference .write ref))) :
    Streamed (e.tryToCompleteWrite g status ref) := by
  have hbook := Bookkeeping.rundown (g (e.dropOwnReference .write ref)) .write none
    (some .writeRequestTotal) ref status
  have hstopped : Handed (e.stopAgents g status .write none (some .writeRequestTotal) ref) :=
    hback.bookkeeping hbook
  have hfull : status = .success →
      Whole (e.stopAgents g status .write none (some .writeRequestTotal) ref) := by
    intro hsuccess
    have hwire : (e.stopAgents g status .write none (some .writeRequestTotal) ref).wire =
        (g (e.dropOwnReference .write ref)).wire := by
      unfold stopAgents
      rw [hbook.rest]
    unfold Whole
    rw [hwire]
    exact hwhole hsuccess
  obtain ⟨⟨r, hr⟩, hends⟩ := tryToComplete_cases hcall hacc hg hgacc
    ⟨fun _ => by decide, fun hr => absurd hr hint⟩ status
    (fun e => e.serialGetNextWrite.startNew .write serialStartWrite)
  rcases hends with hsame | ⟨hfinish, hacc', hun⟩
  · unfold tryToCompleteWrite
    exact hsame ▸ ⟨hstopped.logged, hstopped.started⟩
  · unfold tryToCompleteWrite
    refine hfinish ▸ streamed_nextWrite hacc' hun (logged_giveStatus hstopped status hacc')
      (current_giveStatus hr status) fun hwrite hended => ?_
    exact reported_giveStatus hstopped hr hfull (current_giveStatus hr status) hwrite hended

/-- The ISR has sent the whole write. -/
theorem streamed_serialCompleteWrite (hacc : Accounted e) (hcall : CalledFor e .write .isr)
    (h : Handed e) (hwhole : Whole e) : Streamed e.serialCompleteWrite := by
  have hdrop := Bookkeeping.dropOwnReference e .write .isr
  refine streamed_tryToCompleteWrite hacc hcall (takesBack_id _) (fun _ h => h) (by decide)
    (h.bookkeeping hdrop) fun _ => ?_
  unfold Whole
  rw [show (id (e.dropOwnReference .write .isr)).wire = e.wire by rw [id, hdrop.rest]]
  exact hwhole

/-- A timeout or a cancellation takes the write back from the ISR. -/
theorem streamed_takeWriteBack (hacc : Accounted e) {ref : Ref} (hcall : CalledFor e .write ref)
    (h : Streamed e) (hint : ref ≠ .intTimer) {status : NtStatus} (hstatus : status ≠ .success) :
    Streamed (e.tryToCompleteWrite serialGrabWriteFromIsr status ref) := by
  have hdrop := sends_bookkeeping h.logged (Bookkeeping.dropOwnReference e .write ref)
  exact streamed_tryToCompleteWrite hacc hcall (takesBack_serialGrabWriteFromIsr _)
    accounted_serialGrabWriteFromIsr hint
    (handed_serialGrabWriteFromIsr hdrop.logged (hdrop.started h.started))
    fun hsuccess => absurd hsuccess hstatus

/-! ## Requests that arrive -/

/-- The reference discipline and the log of the write path. -/
structure Transmitting (e : Extension U) : Prop where
  tracked : Tracked .write e
  streamed : Streamed e

theorem transmitting_rule : StepRule (U := U) (· = .write) fun e e' =>
    Transmitting e → Transmitting e' := by
  refine .of_interruptRule ((effect_interruptRule.and sends_interruptRule).keep
    fun e e' hboth h => ?_) fun e e' hsame h => ?_
  · exact ⟨h.tracked.of_effect hboth.1, (hboth.2 h.streamed.logged).streamed h.streamed.started⟩
  · exact ⟨h.tracked.of_same (hsame .write rfl),
      (sends_of_same h.streamed.logged (hsame .write rfl)).streamed h.streamed.started⟩

omit [Uart U] in
/-- A request that has not been sent is completed. -/
theorem Streamed.completeUnsent (h : Streamed e) {r : Request}
    (hacc : Accounted (e.serialCompleteRequest r)) (hended : ¬r.Ended) :
    Streamed (e.serialCompleteRequest r) := by
  refine ⟨⟨h.logged.wired, fun r' hr' hends => ?_,
    fun r₀ hr₀ r' hr' => hacc.ne_done hr₀ (List.mem_filter.mp hr').1, h.logged.sized, fun hne => ?_⟩,
    fun r' hr' => ?_⟩
  · obtain ⟨hmem, hfin⟩ := List.mem_filter.mp hr'
    rcases List.mem_append.mp hmem with hmem | hmem
    · exact h.logged.finished r' (List.mem_filter.mpr ⟨hmem, hfin⟩) hends
    · rw [List.mem_singleton.mp hmem] at hends
      exact absurd hends hended
  · obtain ⟨r₀, s, segs, hr₀, hs, hp⟩ := h.logged.pending hne
    exact ⟨r₀, s, segs, hr₀, hs, hp.id, hp.payload, hp.rest, hp.length, hp.dpc⟩
  · obtain ⟨s, segs, hs, hhand⟩ := h.started r' hr'
    exact ⟨s, segs, hs, hhand.id, hhand.payload, hhand.counted, hhand.full⟩

theorem not_ended {r : Request} (hsuccess : r.status ≠ .success) (htimeout : r.status ≠ .timeout) :
    ¬r.Ended := fun hends => hends.elim hsuccess htimeout

omit [Uart U] in
/-- What the log is about is the same. -/
theorem Streamed.congr (h : Streamed e) (hcur : e'.current .write = e.current .write)
    (hwire : e'.wire = e.wire) (hdone : e'.done = e.done)
    (hrest : (e'.tx.writeLength, e'.tx.writeCurrentChar, e'.dpc .completeWrite) =
      (e.tx.writeLength, e.tx.writeCurrentChar, e.dpc .completeWrite)) : Streamed e' :=
  (h.logged.congr (by rw [hcur]) hwire (by rw [finishedWrites, hdone]; rfl) hrest).streamed h.started

section
variable {body : Body} {length : Nat} {buffer : List UInt8}

omit [Uart U] in
theorem streamed_refuse (hacc : Accounted e) (h : Streamed e) {status : NtStatus}
    (hsuccess : status ≠ .success) (htimeout : status ≠ .timeout) :
    Streamed (e.takeId.refuse status (Request.new e.nextId body length buffer)) := by
  have htake : Streamed e.takeId := h.congr rfl rfl rfl rfl
  exact htake.completeUnsent (hacc.refuse rfl) (not_ended hsuccess htimeout)

/-- A request comes to the write queue. -/
theorem streamed_writeQueue (hacc : Accounted e) (h : Transmitting e)
    (hserves : Slot.write.serves body = true)
    (hproper : (Request.new e.nextId body length buffer).Proper) :
    Streamed (e.takeId.serialStartOrQueue (Request.new e.nextId body length buffer) .writeQueue
      .write serialStartWrite) := by
  have hcount : Streamed (e.takeId.addCharsQueued
      (charsQueued (Request.new e.nextId body length buffer))) := h.streamed.congr rfl rfl rfl rfl
  unfold serialStartOrQueue
  split
  · next hfree =>
    rw [Bool.and_eq_true, Option.isNone_iff_eq_none] at hfree
    have hnone : e.current .write = none := hfree.2
    have harrive : Accounted ((e.takeId.addCharsQueued (charsQueued (Request.new e.nextId body length
        buffer))).setCurrent .write (some (Request.new e.nextId body length buffer))) :=
      (anything.arrive e id hserves hnone _ hacc).1
    have hun := h.tracked.takeId.arrive hnone
      (charsQueued (Request.new e.nextId body length buffer)) e.nextId body length buffer
    have hcur : ((e.takeId.addCharsQueued (charsQueued (Request.new e.nextId body length
        buffer))).setCurrent .write (some (Request.new e.nextId body length buffer))).current .write =
        some (Request.new e.nextId body length buffer) := by
      rw [current_setCurrent, if_pos rfl]
    refine streamed_serialStartWrite harrive ⟨hun, _, hcur, fun hw => hproper.length_pos hw⟩ ?_
    refine hcount.logged.idle (writeLength_of_unheld hun) rfl rfl harrive fun r hr => ?_
    cases hcur.symm.trans hr
    exact hproper.sized hserves
  · unfold forwardToIoQueue
    split
    · exact hcount.congr rfl rfl rfl rfl
    · refine hcount.completeUnsent ?_ (not_ended (by simp) (by simp))
      exact ((anything.addCharsQueued e _ hacc).1).refuse rfl

omit [Uart U] in
theorem transmitting_accept (hacc : Accounted e) (h : Transmitting e)
    {k : Request → Extension U → Extension U}
    (hk : Transmitting (k (Request.new e.nextId body length buffer) e.takeId)) :
    Transmitting (e.accept body length buffer k) := by
  have htake : Streamed e.takeId := h.streamed.congr rfl rfl rfl rfl
  unfold accept
  split
  · exact ⟨h.tracked.takeId.completeNew rfl rfl,
      htake.completeUnsent (hacc.refuse rfl) (not_ended (by simp) (by simp))⟩
  · exact hk

end

theorem transmitting_serialEvtIoWrite (hacc : Accounted e) (h : Transmitting e)
    (payload : List UInt8) : Transmitting (e.serialEvtIoWrite payload) := by
  refine transmitting_accept hacc h ⟨?_, ?_⟩
  · exact rel_ite (R := fun _ => Tracked .write) (e := e) (fun _ => h.tracked.takeId.refuse _ _ _ _ _)
      (fun hne => tracked_writeQueue hacc h.tracked rfl fun _ => Nat.pos_of_ne_zero hne)
  · exact rel_ite (R := fun _ => Streamed) (e := e)
      (fun _ => streamed_refuse hacc h.streamed (by simp) (by simp))
      (fun hne => streamed_writeQueue hacc h rfl ⟨Nat.pos_of_ne_zero hne, rfl, rfl⟩)

theorem transmitting_ioctlXoffCounter (hacc : Accounted e) (h : Transmitting e)
    (timeout counter : Nat) (c : UInt8) : Transmitting (e.ioctlXoffCounter timeout counter c) := by
  refine transmitting_accept hacc h ⟨?_, ?_⟩
  · exact rel_ite (R := fun _ => Tracked .write) (e := e) (fun _ => h.tracked.takeId.refuse _ _ _ _ _)
      (fun _ => tracked_writeQueue hacc h.tracked rfl fun hw => by cases hw)
  · exact rel_ite (R := fun _ => Streamed) (e := e)
      (fun _ => streamed_refuse hacc h.streamed (by simp) (by simp))
      (fun hne => streamed_writeQueue hacc h rfl hne)

/-! ## Purges -/

omit [Uart U] in
theorem Streamed.wdfIoQueuePurge (h : Streamed e) (q : QueueId) : Streamed (e.wdfIoQueuePurge q) :=
  h.congr rfl rfl rfl rfl

omit [Uart U] in
theorem Streamed.putQueue (h : Streamed e) (q : QueueId) (v : IoQueue) : Streamed (e.putQueue q v) :=
  h.congr rfl rfl rfl rfl

theorem transmitting_abortWrites (hacc : Accounted e) (h : Transmitting e) :
    Transmitting e.abortWrites := by
  refine ⟨tracked_serialFlushRequests h.tracked hacc .writeQueue
    fun _ => tracked_serialCancelCurrentWrite, ?_⟩
  unfold abortWrites serialFlushRequests serialPurgeRequests
  refine Streamed.putQueue ?_ .writeQueue _
  rcases cancelCurrent_cases (h.tracked.wdfIoQueuePurge .writeQueue) serialCancelCurrentWrite with
    hsame | ⟨r, hr, hcall, hcancel⟩
  · rw [hsame]
    exact h.streamed.wdfIoQueuePurge .writeQueue
  · rw [hcancel]
    have hset := sends_bookkeeping (h.streamed.wdfIoQueuePurge .writeQueue).logged
      (.modifyCurrent _ .write (Bookkeeping.data_serialClearCancelRoutine false))
    rw [modifyCurrent_of_some _ hr] at hset
    refine streamed_takeWriteBack ((hacc.wdfIoQueuePurge .writeQueue).setCurrent_of_ident ?_) hcall
      (hset.streamed (h.streamed.wdfIoQueuePurge .writeQueue).started) (by decide) (by decide)
    rw [hr, Option.map_some, Option.map_some, CallbackRule.ident_serialClearCancelRoutine]

theorem transmitting_abortXoff (hacc : Accounted e) (h : Transmitting e) :
    Transmitting e.abortXoff := by
  have hpurged : Transmitting (e.wdfIoQueuePurge .writeQueue) :=
    ⟨h.tracked.wdfIoQueuePurge .writeQueue, h.streamed.wdfIoQueuePurge .writeQueue⟩
  have hrule := transmitting_rule (U := U)
  have hcancel := (hrule.cancelCurrent (s := .xoff) _ (by decide)
    (hrule.serialCancelCurrentXoff (by decide)) (hacc.wdfIoQueuePurge .writeQueue)).2 hpurged
  exact ⟨hcancel.tracked.putQueue _ _, hcancel.streamed.putQueue _ _⟩

theorem aborts_transmitting : Aborts (U := U) fun e e' => Transmitting e → Transmitting e' where
  writes e hacc := ⟨(anything.abortWrites id id e hacc).1, transmitting_abortWrites hacc⟩
  xoff e hacc := ⟨(anything.abortXoff id id e hacc).1, transmitting_abortXoff hacc⟩
  reads := transmitting_rule.abortReads (by decide)
  buffer := transmitting_rule.serialPurgeInterruptBuff (by decide)

/-! ## Callbacks and steps -/

omit [Uart U] in
theorem streamed_runCanceledOnQueue (hacc : Accounted e) (h : Streamed e) (i : Nat) :
    Streamed (e.runCanceledOnQueue i) := by
  have hacc' := hacc.runCanceledOnQueue i
  unfold runCanceledOnQueue at hacc' ⊢
  split
  · exact h
  · next r hr =>
    rw [hr] at hacc'
    have hmoved : Streamed ({ e with
        canceledOnQueue := e.canceledOnQueue.eraseIdx i }.addCharsQueued (-charsQueued r)) :=
      h.congr rfl rfl rfl rfl
    exact hmoved.completeUnsent hacc' (not_ended (by simp) (by simp))

omit [Uart U] in
theorem whole_of_pending (h : Transmitting e) (hdpc : e.dpc .completeWrite = true) : Whole e := by
  cases hr : e.current .write with
  | none => exact absurd ((h.tracked.vacant hr).1.2.1.symm.trans hdpc) (by decide)
  | some r =>
    obtain ⟨s, segs, hs, hhand⟩ := h.streamed.started r hr
    exact ⟨s, segs, hs, hhand.full hdpc⟩

theorem streamed_runCompleteWrite (hacc : Accounted e) (h : Transmitting e)
    (hdpc : e.dpc .completeWrite = true) : Streamed (e.runDpc .completeWrite) := by
  have hacc' : Accounted (e.takeDpc .completeWrite) := hacc.congr (fun _ => rfl) rfl
  have hcall := h.tracked.takeDpc rfl hdpc (not_starting_of_ne (by decide))
  have hzero : e.tx.writeLength = 0 := by
    by_contra hne
    obtain ⟨_, _, _, _, _, hp⟩ := h.streamed.logged.pending hne
    exact absurd (hp.dpc.symm.trans hdpc) (by decide)
  have hgone : (e.takeDpc .completeWrite).dpc .completeWrite = false := by simp [takeDpc]
  have hlogged : Logged (e.takeDpc .completeWrite) :=
    h.streamed.logged.idle hzero rfl rfl hacc' h.streamed.logged.sized
  have hstarted : Started (e.takeDpc .completeWrite) := by
    intro r hr
    obtain ⟨s, segs, hs, hhand⟩ := h.streamed.started r hr
    exact ⟨s, segs, hs, hhand.id, hhand.payload, hhand.counted, fun hd => by cases hgone.symm.trans hd⟩
  have hwhole : Whole e := whole_of_pending h hdpc
  exact streamed_serialCompleteWrite hacc' hcall ⟨hlogged, hstarted, hzero⟩ (by exact hwhole)

theorem streamed_callback (hacc : Accounted e) (h : Transmitting e) {c : Callback}
    (hc : e.enabled c = true) : Streamed (e.callback c) := by
  cases hw : c.worksFor .write with
  | false =>
    exact ((transmitting_rule.callback e c (fun t ht hs => by rw [hs, hw] at ht; cases ht) hc
      hacc).2 h).streamed
  | true =>
    have hrule := transmitting_rule (U := U)
    have hidle : ¬e.Starting .write := not_starting_of_ne (by decide)
    cases c with
    | evtIoWrite payload => exact (transmitting_serialEvtIoWrite hacc h payload).streamed
    | xoffCounter t n c => exact (transmitting_ioctlXoffCounter hacc h t n c).streamed
    | purge m => exact ((hrule.ioctlPurge e m (by decide) aborts_transmitting hacc).2 h).streamed
    | flushStop => exact h.streamed.congr rfl rfl rfl rfl
    | flushStart => exact h.streamed.congr rfl rfl rfl rfl
    | dpc d =>
      cases d with
      | completeWrite => exact streamed_runCompleteWrite hacc h hc
      | commError =>
        have hacc' : Accounted (e.takeDpc .commError) := hacc.congr (fun _ => rfl) rfl
        have htake : Transmitting (e.takeDpc .commError) :=
          ⟨h.tracked.of_same (.dpc_update e false (by decide)),
            h.streamed.congr rfl rfl rfl (by simp [takeDpc])⟩
        exact ((hrule.serialCommError aborts_transmitting _ hacc').2 htake).streamed
      | _ => cases hw
    | timer t =>
      cases t with
      | writeRequestTotal =>
        have hacc' : Accounted (e.takeTimer .writeRequestTotal) := hacc.congr (fun _ => rfl) rfl
        have htake : Streamed (e.takeTimer .writeRequestTotal) := h.streamed.congr rfl rfl rfl rfl
        exact streamed_takeWriteBack hacc' (h.tracked.takeTimer .totalTimer rfl hc hidle) htake
          (by decide) (by decide)
      | _ => cases hw
    | cancelRoutine t =>
      cases t with
      | write =>
        have hacc' := hacc.modifyCurrent .write (f := fun r => { r with cancelable := .none })
          (by intro; rfl)
        have hmark := sends_bookkeeping h.streamed.logged
          (.modifyCurrent e .write (f := fun r => { r with cancelable := .none }) (by intro; rfl))
        exact streamed_takeWriteBack hacc' (calledFor_cancel h.tracked hc)
          (hmark.streamed h.streamed.started) (by decide) (by decide)
      | _ => cases hw
    | canceledOnQueue i => exact streamed_runCanceledOnQueue hacc h.streamed i
    | _ => cases hw

theorem streamed_step (hacc : Accounted e) (h : Transmitting e) {l : Label (Uart.Input U)}
    (hstep : step l e = some e') : Streamed e' := by
  cases hw : l.worksFor .write with
  | false =>
    exact ((transmitting_rule.step hstep (fun t ht hs => by rw [hs, hw] at ht; cases ht)
      hacc).2 h).streamed
  | true =>
    cases fires_of_step hstep with
    | expire hqueued => exact h.streamed.congr rfl rfl rfl rfl
    | @cancel t r hr =>
      obtain rfl : Slot.write = t := by simpa [Label.worksFor] using hw
      have hmark : Sends e (e.setCurrent .write (some r.markCanceled)) :=
        h.streamed.logged.congr (by rw [current_setCurrent, if_pos rfl, hr]; rfl) rfl rfl rfl
      exact hmark.streamed h.streamed.started
    | cancelWaiting hr => exact h.streamed.congr rfl rfl rfl rfl
    | callback hpc hc => exact streamed_callback hacc h hc
    | cancelAbandoned i => cases hw
    | readStep hpc => cases hw
    | hardware x => cases hw
    | isr hpass => cases hw
    | tick n => cases hw

omit [Uart U] in
theorem streamed_opened (u : U) (cfg : Config) (size : Nat) : Streamed (opened u cfg size) where
  logged :=
    { wired := Wired.nil
      finished := fun r hr => by cases hr
      apart := fun r hr => by cases hr
      sized := fun r hr => by cases hr
      pending := fun hne => absurd rfl hne }
  started r hr := by cases hr

/-- **Run lemma.** -/
theorem streamed_run {u : U} {cfg : Config} {size : Nat} {ls : List (Label (Uart.Input U))}
    (hrun : run step ls (opened u cfg size) = some e) : Streamed e := by
  let Inv (e : Extension U) : Prop := Disciplined e ∧ Streamed e
  have hstep (l : Label (Uart.Input U)) (s s' : Extension U) (h : step l s = some s') :
      Inv s → Inv s' :=
    fun hs => ⟨hs.1.step h, streamed_step hs.1.accounted ⟨hs.1.write, hs.2⟩ h⟩
  have hend : Inv e := run_invariant hstep hrun
    ⟨disciplined_opened u cfg size, streamed_opened u cfg size⟩
  exact hend.2

end

/-! ## The stream -/

structure TransmitIntegrity (e : Extension U) : Prop where
  /-- The data bytes on the line are those of the segments, in the order the requests were
  started. -/
  bytes : dataBytes e.wire = (segments e.wire).reverse.flatMap Segment.sent
  /-- Each segment is the start of its request's payload. -/
  prefixes : ∀ s ∈ segments e.wire, s.sent <+: s.payload
  /-- What the ISR has left is the rest of the current request's payload, and no more. -/
  left : e.tx.writeLength ≠ 0 → ∃ r s segs, e.current .write = some r ∧
    segments e.wire = s :: segs ∧ s.id = r.id ∧ s.sent ++ e.tx.writeCurrentChar = r.payload ∧
    e.tx.writeLength = e.tx.writeCurrentChar.length
  /-- A write completed with success has been sent whole and reports its length. -/
  success : ∀ r ∈ e.finishedWrites, r.status = .success → ∃ s ∈ segments e.wire,
    s.id = r.id ∧ s.sent = r.payload ∧ r.information = r.length
  /-- A write ended by its timeout reports how many of its bytes have been sent. -/
  timeout : ∀ r ∈ e.finishedWrites, r.status = .timeout → ∃ s ∈ segments e.wire,
    s.id = r.id ∧ s.sent <+: r.payload ∧ r.information = s.sent.length

/-- **Integrity of the transmit stream**, in every reachable state. -/
theorem transmit_integrity [Uart U] {u : U} {cfg : Config} {size : Nat}
    {ls : List (Label (Uart.Input U))} (hrun : run step ls (opened u cfg size) = some e) :
    TransmitIntegrity e := by
  obtain ⟨h, _⟩ := streamed_run hrun
  refine ⟨h.wired.bytes, h.wired.prefixes, fun hne => ?_, fun r hr hsuccess => ?_,
    fun r hr htimeout => ?_⟩
  · obtain ⟨r, s, segs, hr, hs, hp⟩ := h.pending hne
    exact ⟨r, s, segs, hr, hs, hp.id, hp.rest.trans hp.payload, hp.length⟩
  · obtain ⟨s, hs, hreported⟩ := h.finished r hr (.inl hsuccess)
    obtain ⟨hwhole, hlength⟩ := hreported.success hsuccess
    exact ⟨s, hs, hreported.id, hwhole.trans hreported.payload, hlength⟩
  · obtain ⟨s, hs, hreported⟩ := h.finished r hr (.inr htimeout)
    exact ⟨s, hs, hreported.id, hreported.payload ▸ h.wired.prefixes s hs,
      hreported.timeout htimeout⟩

/-- The first write is sent whole; the second one is cancelled when nothing of it has been sent. -/
def sendAndCancel : List (Label Chip.Input) :=
  [.callback (.evtIoWrite [1, 2]), .callback (.evtIoWrite [3]), .isr 4,
    .callback (.dpc .completeWrite), .cancel .write, .callback (.cancelRoutine .write)]

theorem transmit_integrity_sendAndCancel :
    ∃ e, run step sendAndCancel (opened Chip.idle .plain 8) = some e ∧
      (dataBytes e.wire == [1, 2] && e.finishedWrites.length == 2) = true ∧
      TransmitIntegrity e := by
  have hrun : (run step sendAndCancel (opened Chip.idle .plain 8)).any
      (fun e => dataBytes e.wire == [1, 2] && e.finishedWrites.length == 2) = true := by
    decide +kernel
  obtain ⟨e, he, hboth⟩ := (Option.any_eq_true _ _).mp hrun
  exact ⟨e, he, hboth, transmit_integrity he⟩

end SerialFc
