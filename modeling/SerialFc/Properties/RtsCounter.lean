import SerialFc.Lib.Run
import SerialFc.Model.Chip
import SerialFc.Model.Close
import SerialFc.Properties.SharedRule

/-!
# The counter of attempts to lower RTS

`CountOfTryingToLowerRTS` counts the attempts under way: each is a DPC that is to start the timer,
the timer, or one of their callbacks. The close worker polls the counter, so an attempt that is
counted twice would hang it, and one that is not counted would outlive the port.

* `SameAttempts` — no attempt begins or ends without its DPC or timer; every routine is of that
  kind, and so is every step of the driver that the port does not take in pieces
* `Port.Counted` — the counter says how many attempts there are, in every state of a port
-/

namespace SerialFc

open Extension Lib

/-! ## Attempts without a DPC or timer -/

section Attempts

variable {U : Type}

/-- The attempts that no queue holds: those whose DPC or timer callback is running. -/
def Extension.attemptsRunning (e : Extension U) : Int :=
  e.tx.countOfTryingToLowerRts - (e.dpc .startTimerLowerRts).toNat
    - (e.timer .lowerRts).queued.toNat

/-- The number of attempts that no queue holds stays the same. -/
def SameAttempts (e e' : Extension U) : Prop := e'.attemptsRunning = e.attemptsRunning

variable {e e' : Extension U}

/-- A change of the counter is seen at once. -/
theorem attemptsRunning_addTryingToLowerRts (n : Int) (e : Extension U) :
    (e.addTryingToLowerRts n).attemptsRunning = e.attemptsRunning + n := by
  unfold attemptsRunning addTryingToLowerRts
  dsimp only
  omega

theorem SameAttempts.trans {e'' : Extension U} (h : SameAttempts e e') (h' : SameAttempts e' e'') :
    SameAttempts e e'' := Eq.trans h' h

theorem SameAttempts.of_lines (h : e'.lines = e.lines) : SameAttempts e e' := by
  simp only [lines, Prod.mk.injEq] at h
  obtain ⟨_, _, _, _, _, _, hcount, _, _, hdpc, htimer⟩ := h
  unfold SameAttempts attemptsRunning
  rw [hcount, hdpc, htimer]

/-- The DPC and the count go up together. -/
theorem SameAttempts.insertStartTimerLowerRts (e : Extension U) :
    SameAttempts e e.insertStartTimerLowerRts := by
  unfold SameAttempts Extension.insertStartTimerLowerRts
  split
  · rfl
  · next hd =>
    simp only [attemptsRunning, serialInsertQueueDpc, Function.update_self, Bool.toNat_true,
      Bool.eq_false_iff.mpr hd, Bool.toNat_false]
    omega

end Attempts

variable {U : Type} [Uart U]

omit [Uart U] in
/-- Most code leaves the attempts alone or begins one together with its DPC. -/
theorem sameAttempts_sharedRule : SharedRule (SameAttempts (U := U)) where
  trans := .trans
  lines _ _ := .of_lines
  uart _ _ := rfl
  events _ _ := rfl
  holdingEmpty _ _ := rfl
  special _ b := by cases b <;> rfl
  rxHolding _ _ := rfl
  setTxXoff _ _ := rfl
  setTxBreak _ _ := rfl
  xonSent _ := rfl
  xoffSent _ := rfl
  followModem _ _ := rfl
  clearModemHolding _ := rfl
  insertStartTimerLowerRts := .insertStartTimerLowerRts

/-- An attempt ends at the end of `SerialPerhapsLowerRTS`, whatever it came to. -/
theorem attemptsRunning_serialPerhapsLowerRts (e : Extension U) :
    e.serialPerhapsLowerRts.attemptsRunning = e.attemptsRunning - 1 := by
  have hretry (status : UInt8) (e : Extension U) : SameAttempts e (e.lowerRtsOrRetry status) :=
    rel_ite (fun _ => rfl) (fun _ => .insertStartTimerLowerRts e)
  have htry : SameAttempts e e.tryToLowerRts :=
    rel_ite (fun _ => (sameAttempts_sharedRule.statusRule.serialProcessLsr e).trans (hretry _ _))
      (fun _ => rfl)
  exact (attemptsRunning_addTryingToLowerRts (-1) _).trans (by rw [htry]; rfl)

/-- Where the counter is raised for a direct attempt, the attempt takes it back. -/
theorem sameAttempts_lowerRts (e : Extension U) :
    SameAttempts e (e.addTryingToLowerRts 1).serialPerhapsLowerRts := by
  unfold SameAttempts
  rw [attemptsRunning_serialPerhapsLowerRts, attemptsRunning_addTryingToLowerRts]
  omega

/-! ## New handshaking -/

theorem sameAttempts_setupRts (new : HandFlow) (e : Extension U) :
    SameAttempts e (e.setupRts new) := by
  have hraise (status : UInt8) (e : Extension U) : SameAttempts e (e.raiseOrLowerRts status) :=
    rel_ite (fun _ => rfl) (fun _ => sameAttempts_lowerRts e)
  have htoggle (e : Extension U) : SameAttempts e e.setupToggle :=
    rel_ite (fun _ => rfl) fun _ =>
      (sameAttempts_sharedRule.statusRule.serialProcessLsr e).trans (hraise _ _)
  have hshake (e : Extension U) : SameAttempts e (e.setupRtsHandshake new) :=
    rel_ite (fun _ => rel_ite (fun _ => rel_ite (fun _ => rfl) (fun _ => rfl)) (fun _ => rfl))
      (fun _ => rfl)
  exact rel_ite (fun _ => rel_ite (fun _ => hshake e) fun _ => rel_ite (fun _ => rfl) fun _ =>
    rel_ite (fun _ => htoggle (e.setRxRts false).enterToggle) (fun _ => rfl)) (fun _ => rfl)

theorem sameAttempts_setupDtr (new : HandFlow) (e : Extension U) :
    SameAttempts e (e.setupDtr new) := by
  have hset (e : Extension U) : SameAttempts e e.serialSetDtr :=
    sameAttempts_sharedRule.serialSetDtr e
  have hclr (e : Extension U) : SameAttempts e e.serialClrDtr :=
    sameAttempts_sharedRule.serialClrDtr e
  have hshake (e : Extension U) : SameAttempts e (e.setupDtrHandshake new) :=
    rel_ite (fun _ => rel_ite (fun _ => rel_ite (fun _ => hset _) (fun _ => rfl))
      (fun _ => hset e)) (fun _ => hclr _)
  exact rel_ite (fun _ => rel_ite (fun _ => rel_ite (fun _ => hshake e) (fun _ => hset _))
    (fun _ => hclr _)) (fun _ => rfl)

/-- New handshaking begins and ends no attempt without its DPC. -/
theorem sameAttempts_serialSetHandFlow (new : HandFlow) (e : Extension U) :
    SameAttempts e (e.serialSetHandFlow new) := by
  have hprod (e : Extension U) (b : Bool) : SameAttempts e (e.serialProdXonXoff b) :=
    sameAttempts_sharedRule.serialProdXonXoff e b
  have hreceive (new : HandFlow) (e : Extension U) : SameAttempts e (e.setupAutoReceive new) :=
    rel_ite (fun _ => rel_ite (fun _ => rel_ite (fun _ => rfl) (fun _ => hprod _ _))
      (fun _ => rel_ite (fun _ => hprod _ _) (fun _ => rfl))) (fun _ => rfl)
  have htransmit (new : HandFlow) (e : Extension U) : SameAttempts e (e.setupAutoTransmit new) :=
    rel_ite (fun _ => hprod _ _) (fun _ => rfl)
  exact (sameAttempts_setupDtr _ e).trans ((sameAttempts_setupRts _ _).trans
    ((hreceive _ _).trans ((htransmit _ _).trans
      (sameAttempts_sharedRule.statusRule.serialHandleModemUpdate false _))))

theorem sameAttempts_rule : CallbackRule (fun _ => False) (SameAttempts (U := U)) :=
  sameAttempts_sharedRule.callbackRule (fun _ _ _ _ => rfl) sameAttempts_lowerRts

/-- The ISR begins an attempt together with its DPC. -/
theorem sameAttempts_isr {l : Label (Uart.Input U)} {e e' : Extension U} (hstep : step l e = some e')
    (hisr : l.isIsr = true) : SameAttempts e e' :=
  sameAttempts_sharedRule.isrRule.step hstep hisr

/-! ## The ISR of a port that is not open -/

section
variable {R : Extension U → Extension U → Prop} (h : StatusRule R)
include h

theorem StatusRule.quietCause (iir : UInt8) (e : Extension U) : R e (e.quietCause iir) :=
  rel_ite (fun _ => h.readReg e .lsr) fun _ => rel_ite (fun _ => h.readReg e .data) fun _ =>
    rel_ite (fun _ => h.holdingEmpty e true) fun _ => rel_ite (fun _ => h.readReg e .msr) fun _ =>
      h.refl e

/-- The ISR of a closed port, cause by cause. -/
theorem StatusRule.quietLoop {n : Nat} {iir : UInt8} {e e' : Extension U}
    (hrun : e.quietLoop n iir = some e') : R e e' := by
  induction n generalizing iir e with
  | zero => cases hrun
  | succ n ih =>
    have hone : R e ((e.quietCause iir).readReg .iir).2 :=
      h.trans (h.quietCause iir e) (h.readReg _ .iir)
    simp only [Extension.quietLoop] at hrun
    split at hrun
    · cases hrun; exact hone
    · exact h.trans hone (ih hrun)

theorem StatusRule.closedIsr {n : Nat} {e e' : Extension U} (hrun : e.closedIsr n = some e') :
    R e e' := by
  simp only [Extension.closedIsr] at hrun
  split at hrun
  · cases hrun; exact h.readReg e .iir
  · exact h.trans (h.readReg e .iir) (h.quietLoop hrun)

end

/-! ## The port -/

theorem FlowRule.serialDisableUart {R : Extension U → Extension U → Prop} (h : FlowRule R)
    (e : Extension U) : R e e.serialDisableUart := by
  have hmcr : R e (e.updateReg .mcr (· &&& ~~~mcrOut2)) := h.updateReg e (by decide) (by decide) _
  exact rel_ite (fun _ => h.trans hmcr (h.writeReg _ .iir 0 (by decide) (by decide)))
    (fun _ => hmcr)

namespace Port

/-- The attempts under way: the DPC in its queue, its instances before their timer call, the timer
in its queue, its expiries before their callback's effect. -/
def outstanding (p : Port U) : Nat :=
  (p.ext.dpc .startTimerLowerRts).toNat + p.running + (p.ext.timer .lowerRts).queued.toNat
    + p.expired

/-- The counter, while requests are accounted for. -/
structure Counted (p : Port U) : Prop where
  accounted : Accounted p.ext
  running : p.ext.attemptsRunning = p.running + p.undoing + p.expired

variable {p p' : Port U}

omit [Uart U] in
/-- The counter and what it counts. -/
theorem Counted.count (h : Counted p) :
    p.ext.tx.countOfTryingToLowerRts = p.outstanding + p.undoing := by
  have hrunning := h.running
  unfold attemptsRunning at hrunning
  unfold outstanding
  omega

omit [Uart U] in
/-- Code that begins and ends no attempt. -/
theorem Counted.guarded (h : Counted p) {e : Extension U}
    (hguarded : Guarded SameAttempts p.ext e) (stage : CloseStage) : Counted (p.goTo stage e) :=
  have ⟨hacc, hsame⟩ := hguarded h.accounted
  ⟨hacc, Eq.trans hsame h.running⟩

omit [Uart U] in
/-- The steps that lower RTS are taken in pieces. -/
theorem lowersRts_of_inPieces {Input : Type} {l : Label Input} (h : l.inPieces = false) :
    ¬l.lowersRts = true := by
  cases l with
  | expire t => cases t <;> simp_all [Label.inPieces, Label.lowersRts]
  | callback c =>
    cases c with
    | dpc d => cases d <;> simp_all [Label.inPieces, Label.lowersRts, Callback.lowersRts]
    | timer t => cases t <;> simp_all [Label.inPieces, Label.lowersRts, Callback.lowersRts]
    | _ => simp [Label.lowersRts, Callback.lowersRts]
  | _ => simp [Label.lowersRts]

/-- A step of the driver that the port takes as a whole. -/
theorem counted_driverStep (h : Counted p) {l : Label (Uart.Input U)} (hl : l.inPieces = false)
    {e : Extension U} (hstep : p.driverStep l = some e) : Counted (p.put e) := by
  have hdriver (hstep : p.ext.step l = some e) : Counted (p.put e) :=
    h.guarded (sameAttempts_rule.step hstep (fun _ _ => id) (sameAttempts_isr hstep)
      (fun hlower => absurd hlower (lowersRts_of_inPieces hl))
      (fun hf _ _ _ => sameAttempts_serialSetHandFlow hf p.ext)
      (fun n b _ _ _ => sameAttempts_sharedRule.serialUpdateAndSwitchToNew (fun _ _ _ _ => rfl) _ n b))
      p.stage
  unfold driverStep at hstep
  split at hstep
  · exact hdriver hstep
  · split at hstep
    · exact h.guarded (CallbackRule.of_lock (sameAttempts_rule.lock.closedIsr hstep)) p.stage
    · split at hstep
      · exact hdriver hstep
      · cases hstep

/-! ### The pieces -/

omit [Uart U] in
/-- The DPC leaves its queue and runs. -/
theorem Counted.takeStartTimerDpc (h : Counted p) (hdpc : p.ext.dpc .startTimerLowerRts = true) :
    Counted { p with ext := p.ext.takeDpc .startTimerLowerRts, running := p.running + 1 } := by
  refine ⟨h.accounted.congr (fun _ => rfl) rfl, ?_⟩
  have hrunning := h.running
  simp only [attemptsRunning, takeDpc, Function.update_self, hdpc, Bool.toNat_true,
    Bool.toNat_false] at hrunning ⊢
  omega

omit [Uart U] in
/-- The attempt goes on as the timer, or is one too many. -/
theorem Counted.setLowerRtsTimer (h : Counted p) (hp : p.running ≠ 0) :
    Counted p.setLowerRtsTimer := by
  refine ⟨h.accounted.congr (fun _ => rfl) rfl, ?_⟩
  have hrunning := h.running
  cases hqueued : (p.ext.timer .lowerRts).queued <;>
    simp only [attemptsRunning, Port.setLowerRtsTimer, serialSetTimer, Function.update_self,
      hqueued, Bool.toNat_true, Bool.toNat_false, if_true, Bool.false_eq_true, if_false]
      at hrunning ⊢ <;>
    omega

omit [Uart U] in
/-- The instance that found the timer set takes its attempt back. -/
theorem Counted.serialDecrementRtsCounter (h : Counted p) (hp : p.undoing ≠ 0) :
    Counted { p with ext := p.ext.addTryingToLowerRts (-1), undoing := p.undoing - 1 } := by
  refine ⟨h.accounted.congr (fun _ => rfl) rfl, ?_⟩
  have hrunning := h.running
  show (p.ext.addTryingToLowerRts (-1)).attemptsRunning = p.running + (p.undoing - 1 : Nat) + p.expired
  rw [attemptsRunning_addTryingToLowerRts]
  omega

omit [Uart U] in
/-- The timer leaves its queue and its callback runs. -/
theorem Counted.expireLowerRts (h : Counted p) (hp : (p.ext.timer .lowerRts).queued = true) :
    Counted { p with ext := (p.ext.serialCancelTimer .lowerRts).2, expired := p.expired + 1 } := by
  refine ⟨h.accounted.congr (fun _ => rfl) rfl, ?_⟩
  have hrunning := h.running
  simp only [attemptsRunning, serialCancelTimer, Function.update_self, hp, Bool.toNat_true,
    Bool.toNat_false] at hrunning ⊢
  omega

/-- The callback ends its attempt. -/
theorem Counted.perhapsLowerRts (h : Counted p) (hp : p.expired ≠ 0) :
    Counted { p with ext := p.ext.serialPerhapsLowerRts, expired := p.expired - 1 } := by
  refine ⟨h.accounted.of_effect (effect_interruptRule.serialPerhapsLowerRts _), ?_⟩
  have hrunning := h.running
  show p.ext.serialPerhapsLowerRts.attemptsRunning = p.running + p.undoing + (p.expired - 1 : Nat)
  rw [attemptsRunning_serialPerhapsLowerRts]
  omega

/-! ### Closing -/

omit [Uart U] in
theorem guarded_uart (u : U) (e : Extension U) : Guarded SameAttempts e { e with uart := u } :=
  fun ha => ⟨ha.congr (fun _ => rfl) rfl, rfl⟩

theorem guarded_serialDisableUart (e : Extension U) :
    Guarded SameAttempts e e.serialDisableUart := by
  unfold serialDisableUart
  dsimp only
  split
  · exact guarded_uart _ e
  · exact guarded_uart _ e

theorem guarded_serialClrDtr (e : Extension U) : Guarded SameAttempts e e.serialClrDtr := by
  unfold serialClrDtr
  split
  · exact fun ha => ⟨ha, rfl⟩
  · exact guarded_uart _ e

theorem guarded_endClose (e : Extension U) : Guarded SameAttempts e e.endClose :=
  fun ha => ⟨ha.congr (fun _ => rfl) rfl, rfl⟩

/-- The close worker sends XON without a new attempt. -/
theorem Counted.sendXon (h : Counted p) : Counted p.sendXon := by
  unfold Port.sendXon
  dsimp only
  split
  · split
    · exact h.guarded (guarded_uart _ _) .drained
    · exact h.guarded (guarded_uart _ _) p.stage
  · exact h.guarded (fun ha => ⟨ha, rfl⟩) .drained

/-- **Step lemma.** Every step keeps the counter right. -/
theorem counted_step {l : PortLabel (Uart.Input U)} (hstep : p.step l = some p')
    (h : Counted p) : Counted p' := by
  unfold step at hstep
  split at hstep
  · cases hstep
  · cases l with
    -- the driver, and the pieces in which the counter moves
    | driver l =>
      obtain ⟨hl, hmap⟩ := Option.ite_none_left_eq_some.mp hstep
      obtain ⟨e, he, rfl⟩ := Option.map_eq_some_iff.mp hmap
      exact counted_driverStep h (by simpa using hl) he
    | takeStartTimerDpc =>
      obtain ⟨hp, he⟩ := Option.ite_none_right_eq_some.mp hstep
      cases he
      exact h.takeStartTimerDpc hp
    | setLowerRtsTimer =>
      obtain ⟨hp, he⟩ := Option.ite_none_right_eq_some.mp hstep
      cases he
      exact h.setLowerRtsTimer hp
    | serialDecrementRtsCounter =>
      obtain ⟨hp, he⟩ := Option.ite_none_right_eq_some.mp hstep
      cases he
      exact h.serialDecrementRtsCounter hp
    | expireLowerRts =>
      obtain ⟨hp, he⟩ := Option.ite_none_right_eq_some.mp hstep
      cases he
      exact h.expireLowerRts hp
    | perhapsLowerRts =>
      obtain ⟨hp, he⟩ := Option.ite_none_right_eq_some.mp hstep
      cases he
      exact h.perhapsLowerRts hp
    -- the worker that closes the port
    | setNotOpened =>
      obtain ⟨_, he⟩ := Option.ite_none_right_eq_some.mp hstep
      cases he
      exact h.guarded (fun ha => ⟨ha, rfl⟩) .setNotOpened
    | turnOffBreak =>
      obtain ⟨_, he⟩ := Option.ite_none_right_eq_some.mp hstep
      cases he
      have hbreak := sameAttempts_rule.lock.serialTurnOffBreak p.ext
      exact h.guarded (CallbackRule.of_lock hbreak) .breakOff
    | readLineStatus =>
      obtain ⟨_, he⟩ := Option.ite_none_right_eq_some.mp hstep
      cases he
      exact h.guarded (guarded_uart _ _) p.stage
    | markClose =>
      obtain ⟨_, he⟩ := Option.ite_none_right_eq_some.mp hstep
      cases he
      exact h.guarded (guarded_serialDisableUart _) .marked
    | sendXon =>
      obtain ⟨_, he⟩ := Option.ite_none_right_eq_some.mp hstep
      cases he
      exact h.sendXon
    | clrDtr =>
      obtain ⟨_, he⟩ := Option.ite_none_right_eq_some.mp hstep
      cases he
      exact h.guarded (guarded_serialClrDtr _) .dtrDown
    | clrRts =>
      obtain ⟨_, he⟩ := Option.ite_none_right_eq_some.mp hstep
      cases he
      exact h.guarded (guarded_endClose _) .closed

omit [Uart U] in
/-- No attempt is under way. -/
theorem counted_opened (u : U) (cfg : Config) (size : Nat) : Counted (opened u cfg size) :=
  ⟨accounted_opened u cfg size, rfl⟩

/-- **Run lemma.** -/
theorem counted_run {u : U} {cfg : Config} {size : Nat} {ls : List (PortLabel (Uart.Input U))}
    (hrun : run step ls (opened u cfg size) = some p) : Counted p :=
  run_invariant (fun _ _ _ => counted_step) hrun (counted_opened u cfg size)

end Port

/-! ## What the counter says -/

/-- The counter of a port: what it counts, that it is never negative, that an attempt that turns out
to be one too many is taken back, and that the close worker's polling loop is left as soon as
nothing is under way. -/
structure RtsCounter (p : Port U) : Prop where
  counts : p.ext.tx.countOfTryingToLowerRts = p.outstanding + p.undoing
  nonneg : 0 ≤ p.ext.tx.countOfTryingToLowerRts
  undone : p.ext.bugcheck = false → p.running ≠ 0 → (p.ext.timer .lowerRts).queued = true →
    ∃ p', run Port.step [.setLowerRtsTimer, .serialDecrementRtsCounter] p = some p' ∧
      p'.ext.tx.countOfTryingToLowerRts = p.ext.tx.countOfTryingToLowerRts - 1
  pending : p.ext.bugcheck = false → p.undoing ≠ 0 →
    ∃ p', p.step .serialDecrementRtsCounter = some p' ∧ p'.undoing = p.undoing - 1 ∧
      p'.ext.tx.countOfTryingToLowerRts = p.ext.tx.countOfTryingToLowerRts - 1
  ends : p.ext.bugcheck = false → p.stage = .dtrDown → p.outstanding = 0 → p.undoing = 0 →
    ∃ p', p.step .clrRts = some p' ∧ p'.stage = .closed

/-- **The counter is the number of attempts under way**, in every state that a port can reach. -/
theorem rts_counter {u : U} {cfg : Config} {size : Nat} {ls : List (PortLabel (Uart.Input U))}
    {p : Port U} (hrun : run Port.step ls (.opened u cfg size) = some p) : RtsCounter p := by
  have hcount := (Port.counted_run hrun).count
  refine ⟨hcount, by omega, fun hbug hp hqueued => ?_, fun hbug hp => ?_,
    fun hbug hstage hout hundo => ?_⟩
  · refine ⟨{ p.setLowerRtsTimer with
      ext := p.setLowerRtsTimer.ext.addTryingToLowerRts (-1)
      undoing := p.undoing }, ?_, rfl⟩
    simp [run, Port.step, hbug, hp, Port.setLowerRtsTimer, serialSetTimer, hqueued]
  · refine ⟨{ p with ext := p.ext.addTryingToLowerRts (-1), undoing := p.undoing - 1 }, ?_, rfl, rfl⟩
    simp [Port.step, hbug, hp]
  · refine ⟨p.goTo .closed p.ext.endClose, ?_, rfl⟩
    have hzero : p.ext.tx.countOfTryingToLowerRts = 0 := by omega
    simp [Port.step, hbug, hstage, hzero]

/-- In toggle mode two XOFFs in a row are two attempts. The second one's DPC finds the timer in its
queue; the count is one more than the attempts that are left until it is taken back. -/
def twoXoffs : List (PortLabel Chip.Input) :=
  [.driver (.callback (.setHandFlow ⟨0, 0xc0, 0, 0⟩)),
    .driver (.callback .setXoff), .takeStartTimerDpc, .setLowerRtsTimer,
    .driver (.callback .setXoff), .takeStartTimerDpc, .setLowerRtsTimer]

theorem rts_counter_twoXoffs :
    ∃ p, run Port.step twoXoffs (.opened Chip.idle .plain 8) = some p ∧
      (p.undoing == 1) = true ∧ RtsCounter p := by
  have hrun : (run Port.step twoXoffs (.opened Chip.idle .plain 8)).any
      (fun p => p.undoing == 1) = true := by decide +kernel
  obtain ⟨p, hp, hundoing⟩ := (Option.any_eq_true _ _).mp hrun
  exact ⟨p, hp, hundoing, rts_counter hp⟩

/-- The count is not always the number of DPCs, timers and callbacks under way. -/
theorem rts_counter_exceeds :
    ¬∀ (ls : List (PortLabel Chip.Input)) (p : Port Chip),
      run Port.step ls (.opened Chip.idle .plain 8) = some p →
        p.ext.tx.countOfTryingToLowerRts = p.outstanding := by
  intro hall
  have hrun : (run Port.step twoXoffs (.opened Chip.idle .plain 8)).any
      (fun p => p.ext.tx.countOfTryingToLowerRts != p.outstanding) = true := by decide +kernel
  obtain ⟨p, hp, hne⟩ := (Option.any_eq_true _ _).mp hrun
  simp [hall _ p hp] at hne

end SerialFc
