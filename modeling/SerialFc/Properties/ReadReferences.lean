import SerialFc.Properties.References

/-!
# Reads and their agents

`SerialStartRead` runs in pieces. Up to the last one nobody but the routine itself knows the
request (`Begun`); the piece that switches the ISR to the reader's buffer gives it its first agent,
and the last piece the cancel routine and the timers.
-/

namespace SerialFc

open Extension

variable {U : Type} [Uart U]

/-! ## A read that nobody attends to -/

/-- A read is being started, and nobody else knows it yet. -/
structure Begun (e : Extension U) : Prop where
  unheld : Unheld .read e
  some : (e.current .read).isSome = true

namespace Begun

variable {e e' : Extension U}

section
omit [Uart U]

/-- The ISR does not know the read. -/
theorem of_effect (h : Begun e) (heff : Effect e e') : Begun e' := by
  obtain ⟨r, hr⟩ := Option.isSome_iff_exists.mp h.some
  obtain ⟨r', hr', _⟩ := heff.current_some hr
  exact ⟨h.unheld.of_effect heff, by rw [hr']; rfl⟩

/-- A change of the request that leaves its references and marks. -/
theorem modify (h : Begun e) {f : Request → Request}
    (hf : ∀ r, (f r).refCount = r.refCount ∧ (f r).cancelable = r.cancelable ∧
      (f r).cancelRoutine = r.cancelRoutine) : Begun (e.modifyCurrent .read f) := by
  refine ⟨h.unheld.modify hf, ?_⟩
  rw [current_modifyCurrent, if_pos rfl, Option.isSome_map]
  exact h.some

/-- Fields change, but not what the ISR works on. -/
theorem fields (h : Begun e) (hbase : e'.rx.readBufferBase = e.rx.readBufferBase)
    (hrest : (e'.current, e'.timer, e'.dpc, e'.done) = (e.current, e.timer, e.dpc, e.done)) :
    Begun e' := by
  simp only [Prod.mk.injEq] at hrest
  obtain ⟨hcur, htimer, hdpc, hdone⟩ := hrest
  have ht := timerOf_congr htimer
  have hsame : SameAgents .read e e' :=
    ⟨by rw [hcur], by simp [isrHolds, hbase], by simp [dpcPending, hdpc], ht _, ht _⟩
  refine ⟨h.unheld.of_sameAgents hsame fun r hr => ?_, by rw [hcur]; exact h.some⟩
  exact h.unheld.released r (hdone ▸ hr)

/-- `SERIAL_INIT_REFERENCE` changes nothing here. -/
theorem initReference (h : Begun e) {f : Request → Request}
    (hf : ∀ r, (f r).refCount = .zero ∧ (f r).cancelable = r.cancelable ∧
      (f r).cancelRoutine = r.cancelRoutine) : Begun (e.modifyCurrent .read f) := by
  obtain ⟨r, hr⟩ := Option.isSome_iff_exists.mp h.some
  obtain ⟨hrefs, hcancelable, hroutine⟩ := h.unheld.marks r hr
  rw [modifyCurrent_of_some f hr]
  refine ⟨⟨h.unheld.unattended, fun r' hr' => ?_, h.unheld.released⟩, ?_⟩
  · rw [current_setCurrent, if_pos rfl] at hr'
    cases hr'
    obtain ⟨h1, h2, h3⟩ := hf r
    exact ⟨h1, h2.trans hcancelable, h3.trans hroutine⟩
  · rw [current_setCurrent, if_pos rfl]
    rfl

/-- A timer of the read is not set, so it stays so. -/
theorem cancelTimer (h : Begun e) {t : TimerId} (ht : t.slot = Option.some .read) :
    Begun (e.serialCancelTimer t).2 := by
  obtain ⟨_, _, htotal, hinterval⟩ := h.unheld.unattended
  have hoff : (e.timer t).queued = false := by
    cases t <;> cases ht
    · exact (Bool.or_eq_false_iff.mp htotal).1
    · exact (Bool.or_eq_false_iff.mp hinterval).1
  have hsame : (e.serialCancelTimer t).2 = e := by
    have htimer : ({ e.timer t with queued := false } : Timer) = e.timer t := by rw [← hoff]
    simp only [serialCancelTimer, htimer, Function.update_eq_self]
  rw [hsame]
  exact h

end

/-! ### The copy out of the interrupt buffer -/

section
omit [Uart U]

/-- The pieces that copy characters leave it so. -/
theorem goto (h : Begun e) (pc : ReadPc) : Begun (e.goto pc) := h.fields rfl rfl

theorem copyToUser (h : Begun e) (offset number : Nat) : Begun (e.copyToUser offset number) :=
  (h.fields rfl rfl : Begun { e with
    rx := { e.rx with numberNeededForRead := e.rx.numberNeededForRead - number } }).modify
      fun _ => ⟨rfl, rfl, rfl⟩

theorem setFirstReadable (h : Begun e) (offset : Nat) : Begun (e.setFirstReadable offset) :=
  h.fields rfl rfl

theorem addInformation (h : Begun e) (number : Nat) : Begun (e.addInformation number) :=
  h.modify fun _ => ⟨rfl, rfl, rfl⟩

theorem copyWhole (h : Begun e) (number : Nat) : Begun (e.copyWhole number) :=
  ((h.copyToUser _ number).setFirstReadable _).addInformation number

theorem copyRest (h : Begun e) (number first : Nat) : Begun (e.copyRest number first) :=
  ((h.copyToUser 0 _).setFirstReadable _).addInformation number

theorem getChars (h : Begun e) (number : Nat) : Begun (e.getChars number) :=
  rel_ite (R := fun _ => Begun) (e := e) (fun _ => h) fun _ =>
    rel_ite (R := fun _ => Begun) (e := e) (fun _ => h.copyWhole number)
      fun _ => (h.copyToUser _ _).copyRest number _

theorem initRead (h : Begun e) (l : ReadStart) : Begun (e.initRead l) :=
  rel_ite (R := fun _ => Begun) (e := e)
    (fun _ => (h.fields rfl rfl : Begun (e.setNeeded 1)).initReference fun _ => ⟨rfl, rfl, rfl⟩)
    (fun _ => h.initReference fun _ => ⟨rfl, rfl, rfl⟩)

theorem setIntervalTime (h : Begun e) : Begun e.setIntervalTime :=
  rel_ite (R := fun _ => Begun) (e := e) (fun _ => h.fields rfl rfl) (fun _ => h)

end

theorem serialUpdateInterruptBuffer (h : Begun e) (n : Nat) :
    Begun (e.serialUpdateInterruptBuffer n) :=
  (h.fields rfl rfl : Begun (e.removeChars n)).of_effect
    (effect_interruptRule.lockRule.serialHandleReducedIntBuffer _)

theorem getCharsAgain (h : Begun e) : Begun e.getCharsAgain :=
  (h.getChars _).serialUpdateInterruptBuffer _

end Begun

/-! ## The pieces of `SerialStartRead` -/

section
variable {e : Extension U}

section
omit [Uart U]

/-- Without agents there are no references to be kept for. -/
theorem tracked_of_begun (h : Begun e) (hpc : e.pc ≠ .idle) : Tracked .read e := by
  obtain ⟨_, _, htotal, hinterval⟩ := h.unheld.unattended
  refine ⟨fun hnone => ?_, fun r hr => h.unheld.owes hr, fun r hr hs => absurd ⟨rfl, hpc⟩ hs,
    fun r hr _ => ?_, h.unheld.released⟩
  · have hsome := h.some
    rw [hnone] at hsome
    cases hsome
  · exact ⟨(h.unheld.marks r hr).2.1, htotal, hinterval, fun _ => h.unheld.unattended⟩

/-- Up to the last piece the read has no agent. -/
theorem begun_of_tracked (h : Tracked .read e) {r : Request} (hr : e.current .read = some r)
    (hpc : e.pc ≠ .idle) (harm : ∀ l, e.pc ≠ .arm l) : Begun e := by
  obtain ⟨hcancelable, _, _, hun⟩ := h.starting r hr ⟨rfl, hpc⟩
  have howes := h.owes r hr
  have hunattended := hun harm
  refine ⟨⟨hunattended, fun r' hr' => ?_, h.released⟩, by rw [hr]; rfl⟩
  cases hr.symm.trans hr'
  obtain ⟨hisr, hdpc, htotal, hinterval⟩ := hunattended
  refine ⟨?_, hcancelable, ?_⟩
  · rw [howes.refs]
    simp [withOwed, agents, RefCount.zero, hisr, hdpc, htotal, hinterval, hcancelable]
  · rw [howes.routine (by simp), hcancelable]
    rfl

/-- The next read is started, or the slot is empty. -/
theorem loopRead_of_unheld (h : Unheld .read e) : Tracked .read e.loopRead := by
  unfold loopRead
  cases hr : e.current .read with
  | none =>
    have hidle : Unheld .read (e.goto .idle) :=
      h.of_sameAgents ⟨rfl, rfl, rfl, rfl, rfl⟩ h.released
    exact hidle.tracked_of_none hr fun hs => hs.2 rfl
  | some r =>
    have hbegun : Begun e := ⟨h, by rw [hr]; rfl⟩
    exact tracked_of_begun (hbegun.goto .start) nofun

theorem tracked_nextRead (h : Begun e) (hacc : Accounted e) : Tracked .read e.nextRead :=
  loopRead_of_unheld (h.unheld.getNext (q := .readQueue) hacc)

theorem tracked_succeedRead (h : Begun e) (hacc : Accounted e) : Tracked .read e.succeedRead :=
  tracked_nextRead (h.modify fun _ => ⟨rfl, rfl, rfl⟩) (hacc.modifyCurrent _ (by intro; rfl))

/-- The ISR gets the reader's buffer: the first agent of the read. -/
theorem tracked_switchToUser (h : Begun e) (l : ReadStart) :
    Tracked .read (e.switchToUser.goto (.arm l)) := by
  obtain ⟨r, hr⟩ := Option.isSome_iff_exists.mp h.some
  obtain ⟨hisr, hdpc, htotal, hinterval⟩ := h.unheld.unattended
  obtain ⟨_, hcancelable, _⟩ := h.unheld.marks r hr
  have hswitch : (e.switchToUser.goto (.arm l)).current .read = some (r.putReference true .isr) := by
    simp [switchToUser, hr, Extension.goto, current_modifyCurrent]
  have hgiven : Owes (e.switchToUser.goto (.arm l)) .read none (r.putReference true .isr) := by
    simp only [dpcPending] at hdpc
    refine (h.unheld.owes hr).given hswitch rfl ⟨rfl, rfl⟩ ?_ ?_ ?_
    · simp [switchToUser, hr, Extension.goto, isrHolds]
    · simp [switchToUser, hr, Extension.goto, dpcPending, hdpc]
    · simp [switchToUser, hr, Extension.goto]
  have htimer : (e.switchToUser.goto (.arm l)).timer = e.timer := by
    simp [switchToUser, hr, Extension.goto]
  have hpc : (e.switchToUser.goto (.arm l)).Starting .read := ⟨rfl, ReadPc.noConfusion⟩
  refine ⟨fun hnone => ?_, fun r' hr' => ?_, fun _ _ hs => absurd hpc hs, fun r' hr' _ => ?_, ?_⟩
  · cases hswitch.symm.trans hnone
  · cases hswitch.symm.trans hr'
    exact hgiven
  · cases hswitch.symm.trans hr'
    refine ⟨hcancelable, ?_, ?_, fun harm => absurd rfl (harm l)⟩
    · rw [timerOf_congr htimer]
      exact htotal
    · rw [timerOf_congr htimer]
      exact hinterval
  · intro r' hr'
    refine h.unheld.released r' ?_
    simpa [switchToUser, hr, Extension.goto] using hr'

end

omit [Uart U] in
/-- The first piece. -/
theorem tracked_beginRead (h : Begun e) (hacc : Accounted e) (r : Request) :
    Tracked .read (e.beginRead r) := by
  unfold beginRead
  split
  · next inSize _ =>
    have hresize := h.modify (f := fun r => { r with information := 0, status := .success })
      fun _ => ⟨rfl, rfl, rfl⟩
    exact rel_ite (R := fun _ => Tracked .read) (e := e)
      (fun _ => tracked_nextRead hresize (hacc.modifyCurrent _ (by intro; rfl)))
      (fun _ => tracked_of_begun (hresize.goto _) nofun)
  · have hneeded : Begun (e.setNeeded r.length) := h.fields rfl rfl
    have htotal := hneeded.cancelTimer (t := .readRequestTotal) rfl
    have hinterval := htotal.cancelTimer (t := .readRequestInterval) rfl
    exact tracked_of_begun (hinterval.setIntervalTime.goto _) nofun

/-- The interrupt buffer has been copied: the read is complete, or the ISR goes on with it. -/
theorem tracked_finishCopy (h : Begun e) (hacc : Accounted e) (l : ReadStart) (n : Nat)
    (r : Request) : Tracked .read (e.finishCopy l n r) := by
  have hupdate (e : Extension U) (hacc : Accounted e) :
      Accounted (e.serialUpdateInterruptBuffer n) :=
    (anything.serialUpdateInterruptBuffer id e n hacc).1
  refine rel_ite (R := fun _ => Tracked .read) (e := e) (fun _ => ?_) (fun _ => ?_)
  · exact tracked_succeedRead (h.serialUpdateInterruptBuffer n) (hupdate e hacc)
  · have hagain := ((h.initRead l).serialUpdateInterruptBuffer n).getCharsAgain
    have hacc' := (anything.getCharsAgain id _ (hupdate _ (anything.initRead id e l hacc).1)).1
    exact rel_ite (R := fun _ => Tracked .read) (e := e) (fun _ => tracked_succeedRead hagain hacc')
      (fun _ => tracked_switchToUser hagain l)

omit [Uart U] in
/-- The last piece: the cancel routine and the timers become agents too. -/
theorem tracked_armRead (h : Tracked .read e) {r : Request} (hr : e.current .read = some r)
    {l : ReadStart} (hpc : e.pc = .arm l) : Tracked .read (e.armRead l) := by
  have hstart : e.Starting .read := ⟨rfl, by rw [hpc]; nofun⟩
  obtain ⟨_, htotal, hinterval, _⟩ := h.starting r hr hstart
  have hset := (h.owes r hr).setCancelRoutine (f := (·.serialSetCancelRoutine)) rfl
  have hrel : (e.armRead l).done = e.done := by
    unfold armRead armTotalTimer armIntervalTimer
    simp only [Extension.goto]
    split <;> split <;> simp [done_setTimerWithReference, setLastReadTime]
  obtain ⟨r₁, h₁, hc₁, _⟩ := hset.armTimer l.useTotalTimer .totalTimer
    (t := .readRequestTotal) rfl (by rw [timer_modifyCurrent]; exact htotal)
  have hoff : (((e.modifyCurrent .read (·.serialSetCancelRoutine)).armTotalTimer l).timer
      .readRequestInterval).live = false := by
    unfold armTotalTimer
    split
    · rw [timer_setTimerWithReference _ _ _ (by decide), timer_modifyCurrent]
      exact hinterval
    · rw [timer_modifyCurrent]
      exact hinterval
  change Owes ((e.modifyCurrent .read (·.serialSetCancelRoutine)).armTotalTimer l) .read none r₁ at h₁
  unfold armRead at hrel ⊢
  generalize (e.modifyCurrent .read (·.serialSetCancelRoutine)).armTotalTimer l = e₁ at *
  have h₂ : ∃ r₂, Owes (e₁.armIntervalTimer l) .read none r₂ ∧ r₂.cancelable = r₁.cancelable := by
    have hclock : SameAgents .read e₁ e₁.setLastReadTime := ⟨rfl, rfl, rfl, rfl, rfl⟩
    unfold armIntervalTimer
    split
    · obtain ⟨r₂, h₂, hc₂, _⟩ := (hclock.owes h₁).setTimerWithReference .intTimer
        (t := .readRequestInterval) rfl hoff
      exact ⟨r₂, h₂, hc₂⟩
    · exact ⟨r₁, h₁, rfl⟩
  obtain ⟨r₂, h₂, hc₂⟩ := h₂
  have hgoto : SameAgents .read (e₁.armIntervalTimer l) ((e₁.armIntervalTimer l).goto .idle) :=
    ⟨rfl, rfl, rfl, rfl, rfl⟩
  refine tracked_of_cancelable (hgoto.owes h₂) ?_ (fun hs => hs.2 rfl) fun r' hr' => ?_
  · rw [hc₂, hc₁]
    exact cancelable_serialSetCancelRoutine r
  · exact h.released r' (hrel ▸ hr')

/-- The new interrupt buffer takes over: the ISR does not have the reader's buffer. -/
theorem begun_serialUpdateAndSwitchToNew (h : Begun e) (n : Nat) (buffer : List UInt8) :
    Begun (e.serialUpdateAndSwitchToNew n buffer) := by
  have hring : e.rx.readBufferBase = .ring := by
    have hisr : (e.rx.readBufferBase == .user) = false := h.unheld.unattended.1
    cases hb : e.rx.readBufferBase <;> simp_all
  refine Begun.of_effect ?_ (effect_interruptRule.lockRule.serialHandleReducedIntBuffer _)
  exact h.fields hring.symm rfl

/-- **One piece of `SerialStartRead`.** -/
theorem tracked_serialStartReadStep (h : Tracked .read e) (hacc : Accounted e) :
    Tracked .read e.serialStartReadStep := by
  have hbegun (r : Request) (hr : e.current .read = some r) {pc : ReadPc} (hpc : e.pc = pc)
      (hidle : pc ≠ .idle) (harm : ∀ l, pc ≠ .arm l) : Begun e :=
    begun_of_tracked h hr (hpc ▸ hidle) (hpc ▸ harm)
  unfold serialStartReadStep
  split
  · exact h
  · next hnone hpc =>
    exact absurd ⟨rfl, hpc⟩ (h.vacant hnone).2
  · next r hr hpc => exact tracked_beginRead (hbegun r hr hpc nofun nofun) hacc r
  · next r l hr hpc => exact tracked_of_begun ((hbegun r hr hpc nofun nofun).goto _) nofun
  · next r l number hr hpc =>
    have h := hbegun r hr hpc nofun nofun
    exact rel_ite (R := fun _ => Tracked .read) (e := e)
      (fun _ => tracked_of_begun (h.goto _) nofun) fun _ =>
        rel_ite (R := fun _ => Tracked .read) (e := e)
          (fun _ => tracked_of_begun ((h.copyWhole number).goto _) nofun)
          (fun _ => tracked_of_begun ((h.copyToUser _ _).goto _) nofun)
  · next r l number first hr hpc =>
    exact tracked_of_begun (((hbegun r hr hpc nofun nofun).copyRest number first).goto _) nofun
  · next r l n hr hpc => exact tracked_finishCopy (hbegun r hr hpc nofun nofun) hacc l n r
  · next r l hr hpc => exact tracked_armRead h hr hpc
  · next r number hr hpc =>
    have h := hbegun r hr hpc nofun nofun
    exact rel_ite (R := fun _ => Tracked .read) (e := e)
      (fun _ => tracked_of_begun (h.goto _) nofun) fun _ =>
        rel_ite (R := fun _ => Tracked .read) (e := e)
          (fun _ => tracked_of_begun ((h.setFirstReadable _).goto _) nofun)
          (fun _ => tracked_of_begun (h.goto _) nofun)
  · next r number first buffer hr hpc =>
    exact tracked_of_begun (((hbegun r hr hpc nofun nofun).setFirstReadable _).goto _) nofun
  · next r number buffer hr hpc =>
    have h := hbegun r hr hpc nofun nofun
    exact tracked_nextRead (begun_serialUpdateAndSwitchToNew h number buffer)
      (accounted_serialUpdateAndSwitchToNew number buffer hacc)

/-! ## Ending reads -/

/-- A callback that ends the read brings its reference along. -/
theorem tracked_tryToCompleteRead (hacc : Accounted e) {ref : Ref} (hcall : CalledFor e .read ref)
    {g : Extension U → Extension U} (hg : TakesBack .read ref g)
    (hgacc : ∀ e, Accounted e → Accounted (g e)) (status : NtStatus) :
    Tracked .read (e.tryToCompleteRead g status ref) := by
  refine tracked_tryToComplete hcall hacc hg hgacc ⟨fun _ => by decide, fun _ => by decide⟩ status
    fun e' r' hacc' hun hr' hidle => ?_
  have hnext := hun.getNext (q := .readQueue) hacc'
  have hpc : (e'.serialGetNextRequest .read .readQueue true).pc = e'.pc := by
    rw [serialGetNextRequest_of_some .readQueue hr', retrieveNextRequest]
    split <;> rfl
  unfold startNew
  cases hr : (e'.serialGetNextRequest .read .readQueue true).current .read with
  | none => exact hnext.tracked_of_none hr (mt (starting_of_pc hpc).mp hidle)
  | some r =>
    have hbegun : Begun (e'.serialGetNextRequest .read .readQueue true) :=
      ⟨hnext, by rw [hr]; rfl⟩
    exact tracked_of_begun (hbegun.goto .start) nofun

theorem accounted_serialGrabReadFromIsr (e : Extension U) (hacc : Accounted e) :
    Accounted e.serialGrabReadFromIsr := (anything.serialGrabReadFromIsr id e hacc).1

omit [Uart U] in
theorem CalledFor.setCountOnLastRead {ref : Ref} (hcall : CalledFor e .read ref) (n : Int) :
    CalledFor (e.setCountOnLastRead n) .read ref := by
  have hsame : SameAgents .read e (e.setCountOnLastRead n) := ⟨rfl, rfl, rfl, rfl, rfl⟩
  obtain ⟨⟨r, howes⟩, hrel, hidle⟩ := hcall
  exact ⟨⟨r, hsame.owes howes⟩, hrel, hidle⟩

/-- The sentinel in `CountOnLastRead` is none of the references. -/
theorem tracked_endRead (hacc : Accounted e) {ref : Ref} (hcall : CalledFor e .read ref)
    {g : Extension U → Extension U} (hg : TakesBack .read ref g)
    (hgacc : ∀ e, Accounted e → Accounted (g e)) (n : Int) (status : NtStatus) :
    Tracked .read ((e.setCountOnLastRead n).tryToCompleteRead g status ref) := by
  have hacc' : Accounted (e.setCountOnLastRead n) := hacc.congr (fun _ => rfl) rfl
  exact tracked_tryToCompleteRead hacc' (hcall.setCountOnLastRead n) hg hgacc status

theorem tracked_serialCompleteRead (hacc : Accounted e) (hcall : CalledFor e .read .isr) :
    Tracked .read e.serialCompleteRead :=
  tracked_endRead hacc hcall (takesBack_id _) (fun _ h => h) _ _

theorem tracked_serialCancelCurrentRead (hacc : Accounted e) (hcall : CalledFor e .read .cancel) :
    Tracked .read e.serialCancelCurrentRead :=
  tracked_endRead hacc hcall (takesBack_serialGrabReadFromIsr _) accounted_serialGrabReadFromIsr _ _

theorem tracked_serialReadTimeout (hacc : Accounted e) (hcall : CalledFor e .read .totalTimer) :
    Tracked .read e.serialReadTimeout :=
  tracked_endRead hacc hcall (takesBack_serialGrabReadFromIsr _) accounted_serialGrabReadFromIsr _ _

omit [Uart U] in
/-- The interval timer has run its callback and is set again: it never ceased to be an agent. -/
theorem Tracked.rearm (h : Tracked .read e) (hfired : (e.timer .readRequestInterval).fired = true)
    {e' : Extension U} (hsame : SameAgents .read (e.takeTimer .readRequestInterval) e')
    (hpc : e'.pc = e.pc) (hdone : e'.done = e.done) : Tracked .read e'.rearmIntervalTimer := by
  have hlive : (e.timer .readRequestInterval).live = true := by rw [Timer.live, hfired, Bool.or_true]
  have hkeep := h.keepLive .intTimer (t := .readRequestInterval) rfl hlive
    (v := ⟨true, false⟩) rfl fun hboth => by cases hboth.2
  have htimer : e'.timer .readRequestInterval =
      { e.timer .readRequestInterval with fired := false } := by
    have hinterval := hsame.interval
    simpa [timerOf, intervalTimerId, Extension.takeTimer] using hinterval
  refine hkeep.of_sameAgents ⟨hsame.current, hsame.isr, hsame.dpc, ?_, ?_⟩ (fun _ => hpc)
    fun r hr => ?_
  · have htotal := hsame.total
    simpa [timerOf, totalTimerId, Extension.takeTimer, rearmIntervalTimer, serialSetTimer]
      using htotal
  · simp [timerOf, intervalTimerId, rearmIntervalTimer, serialSetTimer, htimer]
  · exact h.released r (hdone ▸ hr)

/-- The interval timer ends the read, or is set again. -/
theorem tracked_serialIntervalReadTimeout (h : Tracked .read e) (hacc : Accounted e)
    (hfired : (e.timer .readRequestInterval).fired = true) (hidle : ¬e.Starting .read) :
    Tracked .read (e.takeTimer .readRequestInterval).serialIntervalReadTimeout := by
  have hcall := h.takeTimer .intTimer (t := .readRequestInterval) rfl hfired hidle
  have hacc' : Accounted (e.takeTimer .readRequestInterval) := hacc.congr (fun _ => rfl) rfl
  have hend (status : NtStatus) := tracked_tryToCompleteRead hacc' hcall
    (takesBack_serialGrabReadFromIsr _) accounted_serialGrabReadFromIsr status
  have hrearm {e' : Extension U} (hsame : SameAgents .read (e.takeTimer .readRequestInterval) e')
      (hrest : (e'.pc, e'.done) = (e.pc, e.done)) : Tracked .read e'.rearmIntervalTimer := by
    simp only [Prod.mk.injEq] at hrest
    exact h.rearm hfired hsame hrest.1 hrest.2
  unfold serialIntervalReadTimeout
  split
  · exact hend _
  · split
    · exact hend _
    · split
      · exact hend _
      · split
        · split
          · exact hrearm ⟨rfl, rfl, rfl, rfl, rfl⟩ rfl
          · split
            · exact hend _
            · exact hrearm ⟨rfl, rfl, rfl, rfl, rfl⟩ rfl
        · exact hrearm ⟨rfl, rfl, rfl, rfl, rfl⟩ rfl

/-! ## Reads that arrive, purges -/

omit [Uart U] in
/-- A read that has just come in. -/
theorem tracked_serialStartRead (h : Unheld .read e) {r : Request}
    (hr : e.current .read = some r) : Tracked .read e.serialStartRead := by
  have hbegun : Begun e := ⟨h, by rw [hr]; rfl⟩
  exact tracked_of_begun (hbegun.goto .start) nofun

omit [Uart U] in
/-- A request comes to the read queue. -/
theorem tracked_readQueue (h : Tracked .read e) (body : Body) (length : Nat)
    (buffer : List UInt8) : Tracked .read (e.takeId.serialStartOrQueue
      (Request.new e.nextId body length buffer) .readQueue .read serialStartRead) := by
  refine h.takeId.serialStartOrQueue .read fun hnone => ?_
  have harrive := h.takeId.arrive hnone (charsQueued (Request.new e.nextId body length buffer))
    e.nextId body length buffer
  exact tracked_serialStartRead harrive (by rw [current_setCurrent, if_pos rfl])

omit [Uart U] in
theorem tracked_serialEvtIoRead (h : Tracked .read e) (n : Nat) :
    Tracked .read (e.serialEvtIoRead n) :=
  h.accept (rel_ite (R := fun _ => Tracked .read) (e := e) (fun _ => h.takeId.refuse _ _ _ _ _)
    (fun _ => tracked_readQueue h _ _ _))

omit [Uart U] in
theorem tracked_ioctlSetQueueSize (h : Tracked .read e) (n : Nat) :
    Tracked .read (e.ioctlSetQueueSize n) :=
  h.accept (rel_ite (R := fun _ => Tracked .read) (e := e) (fun _ => h.takeId.refuse _ _ _ _ _)
    (fun _ => tracked_readQueue h _ _ _))

/-- A purge ends the current read and cancels those that wait. -/
theorem tracked_abortReads (h : Tracked .read e) (hacc : Accounted e) : Tracked .read e.abortReads :=
  tracked_serialFlushRequests h hacc .readQueue fun _ => tracked_serialCancelCurrentRead

omit [Uart U] in
theorem tracked_clearRing (h : Tracked .read e) (hring : e.rx.readBufferBase = .ring) :
    Tracked .read e.clearRing :=
  h.of_sameAgents ⟨rfl, by simp [isrHolds, clearRing, resetRing, hring], rfl, rfl, rfl⟩
    (fun _ => rfl) h.released

/-- Emptying the interrupt buffer concerns no read. -/
theorem tracked_serialPurgeInterruptBuff (h : Tracked .read e) :
    Tracked .read e.serialPurgeInterruptBuff :=
  rel_ite (R := fun _ => Tracked .read) (e := e)
    (fun hring => (tracked_clearRing h hring).of_effect
      (effect_interruptRule.lockRule.serialHandleReducedIntBuffer _)) (fun _ => h)

end

end SerialFc
