import SerialFc.Model.ReadWatch
import SerialFc.Properties.RingSize

/-!
# Reads that wait

`ReadWatch.Right` connects what the observer notes with `CountOnLastRead`, `ReadByIsr` and
`LastReadTime`: of a read that waits the driver has seen all but `ReadByIsr` characters, and
`CountOnLastRead` is a sentinel exactly when a callback wanted this read to end.

It is kept by code under the interrupt lock (`watching_rule`), by the callbacks that end reads
(`right_noteEnd`), by the interval timer (`right_tick`) and by purges (`aborting_rule`).
-/

namespace SerialFc

open Extension Lib

variable {U : Type} {e e' e'' : Extension U} {w : ReadWatch}

/-! ## What the observer knows -/

/-- What is noted of the read that waits, and `CountOnLastRead`. -/
def ReadWatch.Knows (w : ReadWatch) (id : Nat) (count : Int) : Prop :=
  (w.ended = none ∧ 0 ≤ count ∧ (count ≠ 0 → 0 < w.seen)) ∨
    ∃ status, w.ended = some (id, status) ∧ sentinel status = some count

structure ReadWatch.Right (w : ReadWatch) (e : Extension U) : Prop where
  time : w.observedAt = e.rx.lastReadTime
  wait : (e.pc = .idle ∨ ∃ l, e.pc = .arm l) → ∀ r, e.current .read = some r →
    e.charsOfRead = w.seen + e.rx.readByIsr ∧ w.Knows r.id e.rx.countOnLastRead

/-- The current read does not wait. -/
def Extension.NoWait (e : Extension U) : Prop :=
  ∀ r, e.current .read = some r → e.pc ≠ .idle ∧ ∀ l, e.pc ≠ .arm l

theorem ReadWatch.Right.of_noWait (h : e.NoWait) (htime : w.observedAt = e.rx.lastReadTime) :
    w.Right e := by
  refine ⟨htime, fun hpc r hr => ?_⟩
  obtain ⟨hidle, harm⟩ := h r hr
  rcases hpc with hpc | ⟨l, hpc⟩
  · exact absurd hpc hidle
  · exact absurd hpc (harm l)

/-- Nothing that the observer looks at changes. -/
theorem ReadWatch.Right.congr (h : w.Right e) (hrx : e'.rx = e.rx) (hpc : e'.pc = e.pc)
    (hcurrent : (e'.current .read).map (fun r => (r.id, r.information)) =
      (e.current .read).map (fun r => (r.id, r.information))) : w.Right e' := by
  have hinfo := congrArg (Option.map Prod.snd) hcurrent
  rw [Option.map_map, Option.map_map] at hinfo
  have hinfo' : (e'.current .read).map Request.information =
      (e.current .read).map Request.information := hinfo
  have hchars : e'.charsOfRead = e.charsOfRead := by
    unfold Extension.charsOfRead
    rw [hrx, hinfo']
  refine ⟨by rw [hrx]; exact h.time, fun hwait r' hr' => ?_⟩
  rw [hpc] at hwait
  rw [hr', Option.map_some] at hcurrent
  obtain ⟨r, hr, hsame⟩ := Option.map_eq_some_iff.mp hcurrent.symm
  have hid : r.id = r'.id := congrArg Prod.fst hsame
  rw [hchars, hrx, ← hid]
  exact h.wait hwait r hr

/-! ## Under the interrupt lock -/

/-- A character for the current read counts as received, and as read by the ISR. -/
structure Paced (e e' : Extension U) : Prop where
  notes : (e'.rx.countOnLastRead, e'.rx.lastReadTime) = (e.rx.countOnLastRead, e.rx.lastReadTime)
  chars : e'.charsOfRead + e.rx.readByIsr = e.charsOfRead + e'.rx.readByIsr

namespace Paced

theorem of_fields (hrx : e'.rx = e.rx) (hcurrent : e'.current .read = e.current .read) :
    Paced e e' := by
  refine ⟨by rw [hrx], ?_⟩
  unfold charsOfRead
  rw [hrx, hcurrent]

theorem trans (h : Paced e e') (h' : Paced e' e'') : Paced e e'' := by
  refine ⟨h'.notes.trans h.notes, ?_⟩
  have hfirst := h.chars
  have hsecond := h'.chars
  omega

theorem modifyOther (e : Extension U) (s : Slot) (f : Request → Request) (hs : s ≠ .read) :
    Paced e (e.modifyCurrent s f) :=
  of_fields (rx_modifyCurrent ..) (by rw [current_modifyCurrent, if_neg hs.symm])

/-- The ISR puts a character into the reader's buffer. -/
theorem storeUser (h : e.Receiving) (c : UInt8) (huser : e.rx.readBufferBase = .user) :
    Paced e (e.storeUser c) := by
  obtain ⟨reader, hreader, hbody, hlast, -⟩ := (h.user huser).reader
  obtain ⟨r, hr, rfl⟩ := current_of_reader hreader
  have hlength : 0 < r.length := (h.fits _ hreader hbody).1
  have hlast' : e.rx.lastCharSlot = r.length - 1 := hlast
  have hcur : ({ e with
      rx := { e.rx with readByIsr := e.rx.readByIsr + 1 }
      stream := e.stream ++ [Fifo.Op.put c] } : Extension U).current .read = some r := hr
  have hbefore : e.charsOfRead = e.rx.currentCharSlot := if_pos huser
  unfold Extension.storeUser putUser
  rw [modifyCurrent_of_some _ hcur]
  split
  · next hfull =>
    refine ⟨by simp [satisfyRead, resetRing, setCurrent, modifyCurrent, serialInsertQueueDpc], ?_⟩
    rw [hbefore]
    simp [charsOfRead, satisfyRead, resetRing, setCurrent, modifyCurrent, serialInsertQueueDpc]
    omega
  · refine ⟨rfl, ?_⟩
    rw [hbefore]
    simp [charsOfRead, setCurrent, huser]
    omega

end Paced

/-- Under the interrupt lock, the ISR and what it calls keep the pace. -/
theorem paced_interruptRule [Uart U] :
    InterruptRule fun e e' : Extension U => e.Receiving → e'.Receiving ∧ Paced e e' := by
  have hrule := receiving_interruptRule (U := U)
  have hfields {e e' : Extension U} (hreceiving : e.Receiving → e'.Receiving)
      (hrx : e'.rx = e.rx) (hcurrent : e'.current .read = e.current .read) :
      e.Receiving → e'.Receiving ∧ Paced e e' :=
    fun h => ⟨hreceiving h, .of_fields hrx hcurrent⟩
  have hother (e : Extension U) (s : Slot) (f : Request → Request) (hs : s ≠ .read) :=
    Paced.modifyOther e s f hs
  have hkept {e e' : Extension U} (hreceiving : e.Receiving → e'.Receiving) (h : Paced e e') :
      e.Receiving → e'.Receiving ∧ Paced e e' := fun hr => ⟨hreceiving hr, h⟩
  -- only the ring, the counters of a read and the two XON/XOFF fields are looked at
  exact
    { refl := fun e h => ⟨h, .of_fields rfl rfl⟩
      trans := fun hab hbc h => by
        obtain ⟨hb, hpaced⟩ := hab h
        obtain ⟨hc, hpaced'⟩ := hbc hb
        exact ⟨hc, hpaced.trans hpaced'⟩
      readReg := fun e r => hfields (hrule.readReg e r) rfl rfl
      writeReg := fun e r v hd hl => hfields (hrule.writeReg e r v hd hl) rfl rfl
      fillFscc := fun e => hfields (hrule.fillFscc e) rfl rfl
      writeData := fun e v => hfields (hrule.writeData e v) rfl rfl
      events := fun e ev hev hmask => hfields (hrule.events e ev hev hmask) rfl rfl
      txHolding := fun e t => hfields (hrule.txHolding e t) rfl rfl
      holdingEmpty := fun e b => hfields (hrule.holdingEmpty e b) rfl rfl
      special := fun e b => hfields (hrule.special e b) (by cases b <;> rfl) (by cases b <;> rfl)
      rxHolding := fun e t => hkept (hrule.rxHolding e t) ⟨rfl, rfl⟩
      tryingToLowerRts := fun e n => hfields (hrule.tryingToLowerRts e n) rfl rfl
      insertDpc := fun e d hd => hfields (hrule.insertDpc e d hd) rfl rfl
      answerWait := fun e he => by
        let cleared : Extension U :=
          { e with ev := { e.ev with irpMaskLocation := false, historyMask := 0 } }
        have hclear : Paced e cleared := .of_fields rfl rfl
        exact hkept (hrule.answerWait e he) (hclear.trans
          ((hother cleared .wait _ (by decide)).trans (.of_fields rfl rfl)))
      countXoff := fun e => by
        refine hkept (hrule.countXoff e) ?_
        refine rel_ite (fun _ => .of_fields rfl rfl) fun _ => rel_ite (fun _ => ?_)
          fun _ => .of_fields rfl rfl
        have hset : Paced e (e.setCountSinceXoff 0) := .of_fields rfl rfl
        exact hset.trans ((hother _ .xoff _ (by decide)).trans (.of_fields rfl rfl))
      storeUser := fun e c huser h => ⟨hrule.storeUser e c huser h, .storeUser h c huser⟩
      putRing := fun e c he hlt => by
        refine hkept (hrule.putRing e c he hlt) ⟨rfl, ?_⟩
        simp [charsOfRead, putRing, he]
      overwriteLast := fun e he hlt => hkept (hrule.overwriteLast e he hlt) ⟨rfl, rfl⟩
      handFlow := fun e hf => hfields (hrule.handFlow e hf) rfl rfl
      emptied := fun e => hfields (hrule.emptied e) rfl rfl
      logSpecial := fun e w hw => hfields (hrule.logSpecial e w hw) rfl rfl
      xonSent := fun e => hkept (hrule.xonSent e) ⟨rfl, rfl⟩
      xoffSent := fun e => hkept (hrule.xoffSent e) ⟨rfl, rfl⟩
      immediateSent := fun e he => hfields (hrule.immediateSent e he) rfl rfl
      advanceWrite := fun e n hne hle => by
        refine hkept (hrule.advanceWrite e n hne hle) ?_
        refine rel_ite (fun _ => ?_) fun _ => .of_fields rfl rfl
        have hmove : Paced e (e.movePointer n) := .of_fields rfl rfl
        exact hmove.trans ((hother _ .write _ (by decide)).trans (.of_fields rfl rfl)) }

/-- What the observer notes is right, and the ring is in order. -/
structure Watching (w : ReadWatch) (e : Extension U) : Prop where
  receiving : e.Receiving
  right : w.Right e

/-- Code under the interrupt lock, once it is known to keep the pace. -/
theorem Watching.lock (h : Watching w e) (heffect : Effect e e')
    (hpaced : e.Receiving → e'.Receiving ∧ Paced e e') : Watching w e' := by
  obtain ⟨hreceiving, hpaced⟩ := hpaced h.receiving
  obtain ⟨hcount, htime⟩ := Prod.mk.inj hpaced.notes
  refine ⟨hreceiving, by rw [htime]; exact h.right.time, fun hwait r' hr' => ?_⟩
  rw [heffect.pc] at hwait
  have hcore := heffect.cur .read
  rw [hr', Option.map_some] at hcore
  obtain ⟨r, hr, hsame⟩ := Option.map_eq_some_iff.mp hcore.symm
  have hid : r'.id = r.id := Request.of_core Request.id (fun _ => rfl) hsame.symm
  obtain ⟨hchars, hknows⟩ := h.right.wait hwait r hr
  have hpace := hpaced.chars
  rw [hcount, hid]
  exact ⟨by omega, hknows⟩

/-- Code that leaves the read alone. -/
theorem Watching.same (h : Watching w e) (hsame : Same .read e e') : Watching w e' := by
  obtain ⟨hrx, -, hpc⟩ := hsame.data
  exact ⟨h.receiving.congr hsame.reception.1 hsame.reception.2,
    h.right.congr hrx hpc (by rw [hsame.current])⟩

/-- Every piece that does not work for reads keeps what the observer knows. -/
theorem watching_rule [Uart U] (w : ReadWatch) :
    StepRule (U := U) (· = .read) fun e e' => Watching w e → Watching w e' :=
  .of_interruptRule ((effect_interruptRule.and paced_interruptRule).keep
    fun _ _ hR h => h.lock hR.1 hR.2) fun _ _ hsame h => h.same (hsame .read rfl)

/-! ## Ending reads -/

/-- The observer sees no difference. -/
structure Alike (e e' : Extension U) : Prop where
  notes : (e'.rx.countOnLastRead, e'.rx.lastReadTime, e'.rx.readByIsr) =
    (e.rx.countOnLastRead, e.rx.lastReadTime, e.rx.readByIsr)
  chars : e'.charsOfRead = e.charsOfRead
  pc : e'.pc = e.pc
  id : (e'.current .read).map Request.id = (e.current .read).map Request.id

namespace Alike

theorem refl (e : Extension U) : Alike e e := ⟨rfl, rfl, rfl, rfl⟩

theorem trans (h : Alike e e') (h' : Alike e' e'') : Alike e e'' :=
  ⟨h'.notes.trans h.notes, h'.chars.trans h.chars, h'.pc.trans h.pc, h'.id.trans h.id⟩

theorem of_bookkeeping (h : Bookkeeping .read e e') : Alike e e' := by
  have hid := congrArg (Option.map Request.id) h.data
  have hinfo := congrArg (Option.map Request.information) h.data
  rw [Option.map_map, Option.map_map] at hid hinfo
  have hinfo' : (e'.current .read).map Request.information =
      (e.current .read).map Request.information := hinfo
  have hrx : e'.rx = e.rx := by
    rw [h.rest]
  refine ⟨by rw [hrx], ?_, by rw [h.rest], hid⟩
  unfold charsOfRead
  rw [hrx, hinfo']

/-- What the ISR has put into the reader's buffer is counted when it is taken back. -/
theorem grab (h : e.Receiving) : Alike e e.serialGrabReadFromIsr := by
  unfold serialGrabReadFromIsr
  split
  · next huser =>
    obtain ⟨reader, hreader, hbody, hlast, hslot⟩ := (h.user huser).reader
    obtain ⟨r, hr, rfl⟩ := current_of_reader hreader
    have hlength : 0 < r.length := (h.fits _ hreader hbody).1
    have hlast' : e.rx.lastCharSlot = r.length - 1 := hlast
    have hslot' : e.rx.currentCharSlot ≤ e.rx.lastCharSlot := hslot
    have hbefore : e.charsOfRead = e.rx.currentCharSlot := if_pos huser
    rw [modifyCurrent_of_some _ hr]
    have hclear (e : Extension U) : Alike e (e.clearReference .read .isr) :=
      of_bookkeeping (.modifyCurrent e .read (by intro; rfl))
    refine trans ?_ (hclear _)
    refine ⟨rfl, ?_, rfl, ?_⟩
    · rw [hbefore]
      simp [charsOfRead, resetRing, setCurrent]
      omega
    · simp [resetRing, setCurrent, hr]
  · exact refl e

end Alike

/-- The observer's knowledge carries over where it sees no difference. -/
theorem ReadWatch.Right.alike (h : w.Right e) (hsame : Alike e e') : w.Right e' := by
  obtain ⟨hcount, hrest⟩ := Prod.mk.inj hsame.notes
  obtain ⟨htime, hisr⟩ := Prod.mk.inj hrest
  refine ⟨by rw [htime]; exact h.time, fun hwait r' hr' => ?_⟩
  rw [hsame.pc] at hwait
  have hid := hsame.id
  rw [hr', Option.map_some] at hid
  obtain ⟨r, hr, hid'⟩ := Option.map_eq_some_iff.mp hid.symm
  rw [hsame.chars, hcount, hisr, ← hid']
  exact h.wait hwait r hr

/-- The next read goes through `ReadDPC` first and does not wait yet. -/
theorem noWait_startNew (e : Extension U) : (e.startNew .read serialStartRead).NoWait := by
  unfold startNew
  split
  · exact fun r _ => ⟨ReadPc.noConfusion, fun l => ReadPc.noConfusion⟩
  · next hnone =>
    intro r hr
    rw [hr] at hnone
    exact absurd rfl hnone

theorem rx_startNew (e : Extension U) : (e.startNew .read serialStartRead).rx = e.rx := by
  unfold startNew
  split <;> rfl

theorem rx_getNext (e : Extension U) :
    (e.serialGetNextRequest .read .readQueue true).rx = e.rx := by
  have hretrieve := (done_retrieve e .readQueue .read).2
  unfold serialGetNextRequest
  split
  · exact hretrieve
  · exact hretrieve

theorem rx_giveStatus (status : NtStatus) (e : Extension U) :
    (e.giveStatus .read status).rx = e.rx := by
  unfold giveStatus
  split
  · rfl
  · split <;> rfl

/-- Whatever could still work for the read is stopped; what it has got is left alone. -/
theorem alike_stopAgents (hreceiving : e.Receiving) {g : Extension U → Extension U}
    (hg : ∀ e : Extension U, e.Receiving → Alike e (g e)) (status : NtStatus) (ref : Ref) :
    Alike e (e.stopAgents g status .read (some .readRequestInterval) (some .readRequestTotal)
      ref) := by
  have hdrop : Bookkeeping .read e (e.dropOwnReference .read ref) := .dropOwnReference e .read ref
  have hgrab := hg _ (hreceiving.bookkeeping hdrop)
  unfold stopAgents
  exact (Alike.of_bookkeeping hdrop).trans (hgrab.trans
    (.of_bookkeeping (.rundown _ .read _ _ _ _)))

/-- A read that is not completed goes on as it was. -/
theorem tryToCompleteRead_cases (hreceiving : e.Receiving) {g : Extension U → Extension U}
    (hg : ∀ e : Extension U, e.Receiving → Alike e (g e)) (status : NtStatus) (ref : Ref) :
    Alike e (e.tryToCompleteRead g status ref) ∨
      (e.tryToCompleteRead g status ref).NoWait ∧
        ((e.tryToCompleteRead g status ref).rx.countOnLastRead,
          (e.tryToCompleteRead g status ref).rx.lastReadTime) =
            (e.rx.countOnLastRead, e.rx.lastReadTime) := by
  have hstop := alike_stopAgents hreceiving hg status ref
  unfold tryToCompleteRead serialTryToCompleteCurrent completeIfUnreferenced
  split
  · exact .inl ⟨rfl, rfl, rfl, rfl⟩
  generalize e.stopAgents g status .read (some .readRequestInterval) (some .readRequestTotal) ref
    = e₁ at hstop ⊢
  split
  · exact .inl (hstop.trans ⟨rfl, rfl, rfl, rfl⟩)
  split
  · -- the slot gets the next request, which has yet to be started
    obtain ⟨hcount, hrest⟩ := Prod.mk.inj hstop.notes
    refine .inr ⟨noWait_startNew _, ?_⟩
    rw [rx_startNew, rx_getNext, rx_giveStatus, hcount, (Prod.mk.inj hrest).1]
  · exact .inl hstop

/-- A read that is only marked with its status still waits for its last agent. -/
theorem right_tryToCompleteRead (h : w.Right e) (hreceiving : e.Receiving)
    {g : Extension U → Extension U} (hg : ∀ e : Extension U, e.Receiving → Alike e (g e))
    (status : NtStatus) (ref : Ref) : w.Right (e.tryToCompleteRead g status ref) := by
  rcases tryToCompleteRead_cases hreceiving hg status ref with hsame | ⟨hno, hnotes⟩
  · exact h.alike hsame
  · exact .of_noWait hno (h.time.trans (Prod.mk.inj hnotes).2.symm)

/-- Trying to complete a read leaves `CountOnLastRead` as it is. -/
theorem count_tryToCompleteRead (hreceiving : e.Receiving) {g : Extension U → Extension U}
    (hg : ∀ e : Extension U, e.Receiving → Alike e (g e)) (status : NtStatus) (ref : Ref) :
    (e.tryToCompleteRead g status ref).rx.countOnLastRead = e.rx.countOnLastRead := by
  rcases tryToCompleteRead_cases hreceiving hg status ref with hsame | ⟨-, hnotes⟩
  · exact (Prod.mk.inj hsame.notes).1
  · exact (Prod.mk.inj hnotes).1

/-- A callback leaves its sentinel and tries to complete the read. -/
theorem right_endRead (h : w.Right e) (hreceiving : e.Receiving) {r : Request}
    (hr : e.current .read = some r) {g : Extension U → Extension U}
    (hg : ∀ e : Extension U, e.Receiving → Alike e (g e)) {n : Int} {status : NtStatus}
    (hn : sentinel status = some n) (ref : Ref) :
    ReadWatch.Right { w with ended := some (r.id, status) }
      ((e.setCountOnLastRead n).tryToCompleteRead g status ref) := by
  have hreceiving' : (e.setCountOnLastRead n).Receiving := hreceiving.congr rfl rfl
  have hset : ReadWatch.Right { w with ended := some (r.id, status) } (e.setCountOnLastRead n) := by
    refine ⟨h.time, fun hwait r' hr' => ?_⟩
    obtain rfl : r = r' := Option.some.inj (hr.symm.trans hr')
    exact ⟨(h.wait hwait r hr).1, .inr ⟨status, rfl, hn⟩⟩
  exact right_tryToCompleteRead hset hreceiving' hg status ref

theorem right_noteEnd {e₀ : Extension U} (h : w.Right e) (hreceiving : e.Receiving) {r : Request}
    (hr : e.current .read = some r) (hid : (e₀.current .read).map Request.id = some r.id)
    {g : Extension U → Extension U} (hg : ∀ e : Extension U, e.Receiving → Alike e (g e)) {n : Int}
    {status : NtStatus} (hn : sentinel status = some n) (ref : Ref) :
    (w.noteEnd status e₀ ((e.setCountOnLastRead n).tryToCompleteRead g status ref)).Right
      ((e.setCountOnLastRead n).tryToCompleteRead g status ref) := by
  have hreceiving' : (e.setCountOnLastRead n).Receiving := hreceiving.congr rfl rfl
  have hcount : ((e.setCountOnLastRead n).tryToCompleteRead g status ref).rx.countOnLastRead = n :=
    count_tryToCompleteRead hreceiving' hg status ref
  have hmap : (e₀.current .read).map (fun r => (r.id, status)) = some (r.id, status) := by
    have hpair := congrArg (Option.map (·, status)) hid
    rwa [Option.map_map] at hpair
  unfold ReadWatch.noteEnd
  rw [hcount, if_pos hn, hmap]
  exact right_endRead h hreceiving hr hg hn ref

/-! ## The interval timer -/

/-- The three sentinels. -/
theorem sentinel_neg {status : NtStatus} {n : Int} (h : sentinel status = some n) :
    n = completeReadTotal ∨ n = completeReadComplete ∨ n = completeReadCancel := by
  cases status <;> cases h <;> decide

/-- A read that is still waiting has no sentinel. -/
theorem ReadWatch.Knows.waiting {id : Nat} {count : Int} (h : w.Knows id count)
    (htotal : count ≠ completeReadTotal) (hcomplete : count ≠ completeReadComplete)
    (hcancel : count ≠ completeReadCancel) :
    w.ended = none ∧ 0 ≤ count ∧ (count ≠ 0 → 0 < w.seen) := by
  rcases h with hwaiting | ⟨status, -, hstatus⟩
  · exact hwaiting
  · rcases sentinel_neg hstatus with hn | hn | hn
    · exact absurd hn htotal
    · exact absurd hn hcomplete
    · exact absurd hn hcancel

/-- A sentinel in `CountOnLastRead` tells how the read was ended. -/
theorem ReadWatch.Knows.of_sentinel {id : Nat} {count : Int} {status : NtStatus}
    (h : w.Knows id count) (hstatus : sentinel status = some count) :
    w.ended = some (id, status) := by
  have hneg : count < 0 := by
    rcases sentinel_neg hstatus with rfl | rfl | rfl <;> decide
  rcases h with ⟨-, hle, -⟩ | ⟨status', hended, hstatus'⟩
  · omega
  · have hsame : status' = status := by
      cases status' <;> cases hstatus' <;> cases status <;> first | rfl | cases hstatus
    rw [← hsame]
    exact hended

/-- A tick after the end of the read says nothing new. -/
theorem ReadWatch.noteTick_of_ended {x : Nat × NtStatus} (h : w.ended = some x)
    (e : Extension U) : w.noteTick e = w := by
  refine if_neg fun hboth => ?_
  rw [h] at hboth
  exact Option.some_ne_none x hboth.1

/-- A tick that finds no new bytes is not noted. -/
theorem ReadWatch.noteTick_of_seen (h : e.charsOfRead = w.seen) : w.noteTick e = w :=
  if_neg fun hboth => absurd hboth.2 (by omega)

/-- What the timer's routine does with a read agrees with what the observer notes at the tick. -/
theorem right_tick (h : w.Right e) (hreceiving : e.Receiving) (hpc : e.pc = .idle) {r : Request}
    (hr : e.current .read = some r) : (w.noteTick e).Right e.serialIntervalReadTimeout := by
  obtain ⟨hchars, hknows⟩ := h.wait (.inl hpc) r hr
  have hend (status : NtStatus) : w.Right
      (e.tryToCompleteRead serialGrabReadFromIsr status .intTimer) :=
    right_tryToCompleteRead h hreceiving (fun _ => Alike.grab) status .intTimer
  have hsentinel (status : NtStatus) (hstatus : sentinel status = some e.rx.countOnLastRead) :
      w.noteTick e = w := w.noteTick_of_ended (hknows.of_sentinel hstatus) e
  -- has the read been marked as over: timed out, complete or cancelled?
  unfold serialIntervalReadTimeout
  split
  · next htotal =>
    rw [hsentinel .timeout (congrArg some htotal.symm)]
    exact hend _
  next htotal =>
  split
  · next hcomplete =>
    rw [hsentinel .success (congrArg some hcomplete.symm)]
    exact hend _
  next hcomplete =>
  split
  · next hcancel =>
    rw [hsentinel .cancelled (congrArg some hcancel.symm)]
    exact hend _
  next hcancel =>
  obtain ⟨hended, hle, hseen⟩ := hknows.waiting htotal hcomplete hcancel
  by_cases hisr : e.rx.readByIsr = 0
  · -- nothing new has come in
    have hnote : w.noteTick e = w := ReadWatch.noteTick_of_seen (by omega)
    rw [hnote]
    split
    · rw [if_neg (by simpa using hisr)]
      split
      · exact hend _
      · exact h.congr rfl rfl rfl
    · exact h.congr rfl rfl rfl
  · -- `SerialUpdateReadByIsr` and the observer take the same characters as seen
    have hnote : w.noteTick e = { w with seen := e.charsOfRead, observedAt := e.clock } :=
      if_pos ⟨hended, by omega⟩
    rw [hnote, if_pos (.inr hisr), if_pos hisr]
    refine ⟨rfl, fun _ r' hr' => ?_⟩
    have hchars' : e.serialUpdateReadByIsr.setLastReadTime.rearmIntervalTimer.charsOfRead =
        e.charsOfRead := rfl
    refine ⟨hchars', .inl ⟨hended, ?_, fun _ => ?_⟩⟩
    · exact Int.natCast_nonneg _
    · show 0 < e.charsOfRead
      omega

/-! ## Purges -/

/-- What purges keep. `reader` is the request that was current when it all began. It is cancelled only
if `asked` holds. -/
structure Aborting (asked : Prop) (w : ReadWatch) (reader : Option Nat) (e : Extension U) :
    Prop where
  ready : ReadReady e
  same : e.pc = .idle → ∀ r, e.current .read = some r → reader = some r.id
  right : w.Right e ∨ (asked ∧ e.rx.countOnLastRead = completeReadCancel ∧
    ReadWatch.Right { w with ended := reader.map (·, .cancelled) } e)

variable {asked : Prop} {reader : Option Nat}

/-- Code under the interrupt lock between the pieces of a purge. -/
theorem Aborting.lock (h : Aborting asked w reader e) (heffect : Effect e e')
    (hpaced : e.Receiving → e'.Receiving ∧ Paced e e') : Aborting asked w reader e' := by
  have hwatching {v : ReadWatch} (hright : v.Right e) : v.Right e' :=
    (Watching.lock ⟨h.ready.receiving, hright⟩ heffect hpaced).right
  obtain ⟨hreceiving, hpaced⟩ := hpaced h.ready.receiving
  refine ⟨⟨h.ready.tracked.of_effect heffect, hreceiving, ?_⟩, fun hpc r' hr' => ?_, ?_⟩
  · rw [heffect.pc]
    exact h.ready.pc
  · rw [heffect.pc] at hpc
    have hcore := heffect.cur .read
    rw [hr', Option.map_some] at hcore
    obtain ⟨r, hr, hsame⟩ := Option.map_eq_some_iff.mp hcore.symm
    rw [h.same hpc r hr, Request.of_core Request.id (fun _ => rfl) hsame]
  · rw [(Prod.mk.inj hpaced.notes).1]
    exact h.right.imp hwatching (And.imp_right (And.imp_right hwatching))

/-- Code that leaves the read alone, between the pieces of a purge. -/
theorem Aborting.of_same (h : Aborting asked w reader e) (hsame : Same .read e e') :
    Aborting asked w reader e' := by
  have hrx := hsame.data.1
  have hright {v : ReadWatch} (hv : v.Right e) : v.Right e' :=
    hv.congr hrx hsame.data.2.2 (by rw [hsame.current])
  refine ⟨⟨h.ready.tracked.of_same hsame,
    h.ready.receiving.congr hsame.reception.1 hsame.reception.2, ?_⟩, ?_, ?_⟩
  · rw [hsame.reception.2]
    exact h.ready.pc
  · rw [hsame.reception.2, hsame.current]
    exact h.same
  · rw [hrx]
    exact h.right.imp hright (And.imp_right (And.imp_right hright))

/-- Every piece that does not work for reads keeps what a purge keeps. -/
theorem aborting_rule [Uart U] (asked : Prop) (w : ReadWatch) (reader : Option Nat) :
    StepRule (U := U) (· = .read) fun e e' => Aborting asked w reader e → Aborting asked w reader e' :=
  .of_interruptRule ((effect_interruptRule.and paced_interruptRule).keep
    fun _ _ hR h => h.lock hR.1 hR.2) fun _ _ hsame h => h.of_same (hsame .read rfl)

/-- The read is cancelled, and it is the one that was current at first. -/
theorem cancelRead_aborting (hreceiving : e.Receiving) {r : Request}
    (hr : e.current .read = some r) (hid : reader = some r.id)
    (hright : w.Right e ∨ ReadWatch.Right { w with ended := reader.map (·, .cancelled) } e) :
    (e.serialCancelCurrentRead.pc = .idle → ∀ r',
      e.serialCancelCurrentRead.current .read = some r' → reader = some r'.id) ∧
        e.serialCancelCurrentRead.rx.countOnLastRead = completeReadCancel ∧
          ReadWatch.Right { w with ended := reader.map (·, .cancelled) }
            e.serialCancelCurrentRead := by
  have hset : (e.setCountOnLastRead completeReadCancel).Receiving := hreceiving.congr rfl rfl
  have hsentinel : sentinel .cancelled = some completeReadCancel := rfl
  have hend {v : ReadWatch} (hv : v.Right e) :=
    right_endRead hv hreceiving hr (fun _ => Alike.grab) hsentinel .cancel
  refine ⟨fun hidle r' hr' => ?_,
    count_tryToCompleteRead hset (fun _ => Alike.grab) .cancelled .cancel, ?_⟩
  · rcases tryToCompleteRead_cases hset (fun _ => Alike.grab) .cancelled .cancel with
      hsame | ⟨hno, -⟩
    · have hids : (e.serialCancelCurrentRead.current .read).map Request.id =
          (e.current .read).map Request.id := hsame.id
      rw [hr', hr, Option.map_some, Option.map_some] at hids
      rw [hid, hids]
    · exact absurd hidle (hno r' hr').1
  · rw [hid, Option.map_some]
    rcases hright with hv | hv
    · exact hend hv
    · have hlast := hend hv
      exact hlast

theorem aborting_abortReads (hasked : asked) (h : Aborting asked w reader e) :
    (e.abortReads.pc = .idle → ∀ r, e.abortReads.current .read = some r → reader = some r.id) ∧
      (w.Right e.abortReads ∨ (asked ∧ e.abortReads.rx.countOnLastRead = completeReadCancel ∧
        ReadWatch.Right { w with ended := reader.map (·, .cancelled) } e.abortReads)) := by
  have hpurge {v : ReadWatch} (hv : v.Right e) : v.Right (e.wdfIoQueuePurge .readQueue) :=
    hv.congr rfl rfl rfl
  have hstart {v : ReadWatch} {e : Extension U} (hv : v.Right e) :
      v.Right (e.wdfIoQueueStart .readQueue) := hv.congr rfl rfl rfl
  rcases cancelCurrent_cases (h.ready.tracked.wdfIoQueuePurge .readQueue)
    serialCancelCurrentRead with hsame | ⟨r, hr, hcall, hcancel⟩
  · have habort : e.abortReads = (e.wdfIoQueuePurge .readQueue).wdfIoQueueStart .readQueue :=
      congrArg (wdfIoQueueStart .readQueue) hsame
    rw [habort]
    exact ⟨h.same, h.right.imp (fun hv => hstart (hpurge hv))
      (And.imp_right (And.imp_right fun hv => hstart (hpurge hv)))⟩
  · have hpc : e.pc = .idle := by
      by_contra hne
      exact hcall.idle ⟨rfl, hne⟩
    -- the framework's mark goes first
    have hclear : Bookkeeping .read (e.wdfIoQueuePurge .readQueue)
        ((e.wdfIoQueuePurge .readQueue).setCurrent .read
          (some (r.serialClearCancelRoutine false).2)) := by
      have hmodify := Bookkeeping.modifyCurrent (e.wdfIoQueuePurge .readQueue) .read
        (Bookkeeping.data_serialClearCancelRoutine false)
      rwa [modifyCurrent_of_some _ hr] at hmodify
    have hid : reader = some (r.serialClearCancelRoutine false).2.id := by
      rw [h.same hpc r hr, Request.of_data Request.id (fun _ => rfl)
        (Bookkeeping.data_serialClearCancelRoutine false r)]
    have hreceiving : (e.wdfIoQueuePurge .readQueue).Receiving := h.ready.receiving.congr rfl rfl
    have hmarked {v : ReadWatch} (hv : v.Right e) := (hpurge hv).alike (.of_bookkeeping hclear)
    obtain ⟨hsame, hcount, hright⟩ := cancelRead_aborting (hreceiving.bookkeeping hclear)
      ((current_setCurrent ..).trans (if_pos rfl)) hid (h.right.imp hmarked (hmarked ·.2.2))
    have habort : e.abortReads = (serialCancelCurrentRead ((e.wdfIoQueuePurge .readQueue).setCurrent
        .read (some (r.serialClearCancelRoutine false).2))).wdfIoQueueStart .readQueue :=
      congrArg (wdfIoQueueStart .readQueue) hcancel
    rw [habort]
    exact ⟨hsame, .inr ⟨hasked, hcount, hstart hright⟩⟩

/-- Clearing the ring is not seen while no reader's buffer is in use. -/
theorem alike_clearRing (hring : e.rx.readBufferBase = .ring) : Alike e e.clearRing := by
  refine ⟨rfl, ?_, rfl, rfl⟩
  simp [charsOfRead, clearRing, resetRing, hring]

theorem aborting_serialPurgeInterruptBuff [Uart U] (h : Aborting asked w reader e) :
    Aborting asked w reader e.serialPurgeInterruptBuff := by
  have hready := readReady_serialPurgeInterruptBuff h.ready
  unfold serialPurgeInterruptBuff at hready ⊢
  split at hready
  · next hring =>
    rw [if_pos hring]
    have hclear : e.clearRing.Receiving := receiving_clearRing h.ready hring
    have hcleared : Aborting asked w reader e.clearRing := by
      refine ⟨⟨tracked_clearRing h.ready.tracked hring, hclear, h.ready.pc⟩, h.same, ?_⟩
      exact h.right.imp (·.alike (alike_clearRing hring))
        (And.imp_right (And.imp_right (·.alike (alike_clearRing hring))))
    exact hcleared.lock (effect_interruptRule.lockRule.serialHandleReducedIntBuffer _)
      (paced_interruptRule.lockRule.serialHandleReducedIntBuffer _)
  · next hring =>
    rw [if_neg hring]
    exact h

/-- A purge that asks for an abort of reads, piece by piece. -/
theorem aborts_aborting [Uart U] (hasked : asked) (w : ReadWatch) (reader : Option Nat) :
    Aborts (U := U) fun e e' => Aborting asked w reader e → Aborting asked w reader e' where
  writes := (aborting_rule asked w reader).abortWrites (by decide) (by decide)
  xoff := (aborting_rule asked w reader).abortXoff (by decide) (by decide)
  reads e hacc := by
    refine ⟨(anything.abortReads id e hacc).1, fun h => ?_⟩
    obtain ⟨hsame, hright⟩ := aborting_abortReads hasked h
    exact ⟨readReady_abortReads h.ready hacc, hsame, hright⟩
  buffer e hacc := ⟨(anything.serialPurgeInterruptBuff id e hacc).1,
    aborting_serialPurgeInterruptBuff⟩

/-- At the start of a purge the current read is the one that is there. -/
theorem aborting_start (h : ReadReady e) (hright : w.Right e) :
    Aborting asked w ((e.current .read).map Request.id) e :=
  ⟨h, fun _ r hr => by rw [hr]; rfl, .inl hright⟩

/-- The read was cancelled, or it is as it was. -/
theorem Aborting.noteEnd (h : Aborting asked w ((e.current .read).map Request.id) e') :
    (w.noteEnd .cancelled e e').Right e' := by
  have hmap : ((e.current .read).map Request.id).map (·, NtStatus.cancelled) =
      (e.current .read).map fun r => (r.id, .cancelled) := Option.map_map ..
  have hcanceled (hcount : e'.rx.countOnLastRead = completeReadCancel) :
      sentinel .cancelled = some e'.rx.countOnLastRead := by
    rw [hcount]
    rfl
  unfold ReadWatch.noteEnd
  split
  · next hsentinel =>
    rw [← hmap]
    rcases h.right with hright | ⟨-, -, hright⟩
    · refine ⟨hright.time, fun hwait r hr => ?_⟩
      obtain ⟨hchars, -⟩ := hright.wait hwait r hr
      have hpc : e'.pc = .idle := by
        rcases hwait with hpc | ⟨l, harm⟩
        · exact hpc
        · rcases h.ready.pc with hpc | hpc <;> rw [harm] at hpc <;> cases hpc
      refine ⟨hchars, .inr ⟨.cancelled, ?_, hsentinel⟩⟩
      rw [h.same hpc r hr]
      rfl
    · exact hright
  · next hnone =>
    rcases h.right with hright | ⟨-, hcount, -⟩
    · exact hright
    · exact absurd (hcanceled hcount) hnone

/-- Nobody asks for the read to be cancelled. -/
theorem Aborting.right_of_not (h : Aborting asked w reader e) (hnot : ¬asked) : w.Right e :=
  h.right.resolve_right fun hcanceled => hnot hcanceled.1

/-- What a purge keeps, whether it asks for the reads to be aborted or not. -/
theorem aborting_purge [Uart U] (w : ReadWatch) (reader : Option Nat) {r : Request} {mask : UInt32}
    (hbody : r.body = .purge mask) (e : Extension U) :
    Guarded (fun e e' => Aborting (has32 mask purgeRxAbort = true) w reader e →
      Aborting (has32 mask purgeRxAbort = true) w reader e') e (e.purge r) := by
  have hrule := aborting_rule (U := U) (has32 mask purgeRxAbort = true) w reader
  by_cases hasked : has32 mask purgeRxAbort = true
  · exact hrule.purge (aborts_aborting hasked w reader) e r
  · have htx (e : Extension U) := hrule.gtrans (hrule.abortWrites (by decide) (by decide) e)
      (hrule.abortXoff (by decide) (by decide) _)
    have hbuffer (e : Extension U) : Guarded (fun e e' =>
        Aborting (has32 mask purgeRxAbort = true) w reader e →
          Aborting (has32 mask purgeRxAbort = true) w reader e') e (e.purgeBuffer mask) :=
      rel_ite (fun _ hacc => ⟨(anything.serialPurgeInterruptBuff id e hacc).1,
        aborting_serialPurgeInterruptBuff⟩) fun _ => hrule.grefl e
    unfold Extension.purge purgeRx
    rw [hbody]
    dsimp only
    rw [if_neg hasked]
    exact hrule.gtrans (rel_ite (fun _ => htx e) fun _ => hrule.grefl e) (hbuffer _)

end SerialFc
