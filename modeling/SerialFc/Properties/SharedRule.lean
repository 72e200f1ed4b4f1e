import SerialFc.Properties.Steps

/-!
# Relations about what belongs to no slot

A relation that only looks at `Extension.lines` contains everything that leaves this alone:
requests, queues, events, the interrupt buffer. `SharedRule` asks for what is left and gives
`CallbackRule` from it, so that a property of the hold reasons or of the attempts to lower RTS is
proved from some fifteen changes.
-/

namespace SerialFc

open Extension

/-! ## What leaves the shared fields alone -/

section Lines

variable {U : Type}

/-- The lines belong to what no slot has. -/
theorem lines_of_shared {e e' : Extension U} (h : e'.shared = e.shared) : e'.lines = e.lines :=
  (Prod.mk.injEq .. ▸ h).1

theorem lines_modifyCurrent (e : Extension U) (s : Slot) (f : Request → Request) :
    (e.modifyCurrent s f).lines = e.lines :=
  lines_of_shared (shared_modifyCurrent e s f)

/-- A DPC is none of it, but for the one that lowers RTS. -/
theorem shared_insertQueueDpc {d : DpcId} (hd : d ≠ .startTimerLowerRts) (e : Extension U) :
    (e.serialInsertQueueDpc d).shared = e.shared := by
  have hdpc : (e.serialInsertQueueDpc d).dpc .startTimerLowerRts = e.dpc .startTimerLowerRts :=
    Function.update_of_ne hd.symm _ _
  simp only [shared, lines, hdpc]
  rfl

/-- Nor is a waiter, an event, an error or the XOFF counter. -/
theorem shared_answerWait (e : Extension U) : e.answerWait.shared = e.shared :=
  (shared_insertQueueDpc (by decide) _).trans (shared_modifyCurrent _ _ _)

theorem shared_answerWaitIfDue (e : Extension U) : e.answerWaitIfDue.shared = e.shared := by
  unfold answerWaitIfDue
  split
  · exact shared_answerWait e
  · rfl

theorem shared_answerWaitIfWaiting (e : Extension U) : e.answerWaitIfWaiting.shared = e.shared := by
  unfold answerWaitIfWaiting
  split
  · exact shared_answerWait e
  · rfl

theorem shared_addEvent (m : UInt32) (b : Bool) (e : Extension U) :
    (e.addEvent m b).shared = e.shared := by
  unfold addEvent
  split <;> rfl

theorem shared_raise80Full (e : Extension U) : e.raise80Full.shared = e.shared := by
  unfold raise80Full
  split
  · exact shared_answerWaitIfWaiting _
  · rfl

theorem shared_receiveEvents (c : UInt8) (e : Extension U) :
    (e.receiveEvents c).shared = e.shared := by
  unfold receiveEvents
  split
  · rw [shared_answerWaitIfDue, shared_addEvent, shared_addEvent]
  · rfl

theorem shared_lsrEvents (status : UInt8) (e : Extension U) :
    (e.lsrEvents status).shared = e.shared := by
  unfold lsrEvents
  split
  · rw [shared_answerWaitIfDue, shared_addEvent, shared_addEvent]
  · rfl

theorem shared_modemEvents (status : UInt8) (e : Extension U) :
    (e.modemEvents status).shared = e.shared := by
  unfold modemEvents
  split
  · rw [shared_answerWaitIfDue, shared_addEvent, shared_addEvent, shared_addEvent,
      shared_addEvent]
  · rfl

theorem shared_abortOnError (e : Extension U) : e.abortOnError.shared = e.shared := by
  unfold abortOnError
  split
  · exact shared_insertQueueDpc (by decide) e
  · rfl

theorem shared_countXoff (e : Extension U) : e.countXoff.shared = e.shared := by
  unfold countXoff
  split
  · rfl
  · split
    · exact (shared_insertQueueDpc (by decide) _).trans (shared_modifyCurrent _ _ _)
    · rfl

/-- A character in the reader's buffer moves no line. -/
theorem lines_putUser (c : UInt8) (e : Extension U) : (e.putUser c).lines = e.lines := by
  unfold putUser
  rw [lines_modifyCurrent]
  rfl

theorem fill_putUser (c : UInt8) (e : Extension U) : (e.putUser c).rx.fill = e.rx.fill := by
  unfold putUser
  rw [rx_modifyCurrent]
  rfl

theorem lines_storeUser (c : UInt8) (e : Extension U) : (e.storeUser c).lines = e.lines := by
  unfold storeUser
  split
  · have hput := lines_putUser c e
    exact (lines_of_shared ((shared_insertQueueDpc (by decide) _).trans
      (shared_modifyCurrent _ _ _))).trans ((by rfl : (e.putUser c).resetRing.lines = _).trans hput)
  · exact lines_putUser c e

/-- Nor does one in the interrupt buffer. -/
theorem lines_putRing (c : UInt8) (e : Extension U) : (e.putRing c).lines = e.lines := rfl

end Lines

/-! ## The rule -/

variable {U : Type} [Uart U]

/-- `R` looks at what belongs to no slot, and contains these changes that come with a character or a
status. -/
structure SharedStatusRule (R : Extension U → Extension U → Prop) : Prop where
  trans : ∀ {a b c}, R a b → R b c → R a c
  lines : ∀ e e', e'.lines = e.lines → R e e'
  readReg : ∀ e r, R e (e.readReg r).2
  retickle : ∀ e, R e e.retickle
  events : ∀ e ev, R e { e with ev := ev }
  holdingEmpty : ∀ e b, R e (e.setHoldingEmpty b)
  special : ∀ e b, R e (e.setSpecial b)
  rxHolding : ∀ e h, R e (e.putRxHolding h)
  holdDtr : ∀ e, R e e.holdDtr
  holdRts : ∀ e, R e e.holdRts
  setTxXoff : ∀ b e, R e (e.setTxXoff b)
  followModem : ∀ status e, R e (e.followModem status)
  clearModemHolding : ∀ e, R e e.clearModemHolding
  insertStartTimerLowerRts : ∀ e, R e e.insertStartTimerLowerRts

/-- It contains what the ISR does with characters and status. -/
theorem SharedStatusRule.statusRule {R : Extension U → Extension U → Prop}
    (h : SharedStatusRule R) : StatusRule R := by
  have hrefl (e : Extension U) : R e e := h.lines e e rfl
  have hprod (e : Extension U) (b : Bool) : R e (e.serialProdXonXoff b) :=
    rel_ite (fun _ => h.trans (h.retickle e) (h.special _ b)) (fun _ => h.special e b)
  have hxoff (e : Extension U) : R e e.holdXoff :=
    rel_ite (fun _ => h.trans (h.rxHolding e _) (hprod _ _)) (fun _ => hrefl e)
  have hholds (e : Extension U) : R e e.holdDtr.holdRts.holdXoff :=
    h.trans (h.holdDtr e) (h.trans (h.holdRts _) (hxoff _))
  have htoggle (old : TxHolding) (e : Extension U) : R e (e.toggleOnHold old) :=
    rel_ite (fun _ => h.insertStartTimerLowerRts e) (fun _ => hrefl e)
  have hrestart (b : Bool) (old : TxHolding) (e : Extension U) : R e (e.restartOnRelease b old) :=
    rel_ite (fun _ => rel_ite (fun _ => h.retickle e) (fun _ => hrefl e)) (fun _ => hrefl e)
  have hmodem (b : Bool) (old : TxHolding) (status : UInt8) (e : Extension U) :
      R e (e.modemHolding b old status) := by
    refine rel_ite (fun _ => ?_) fun _ => rel_ite (fun _ => ?_) fun _ => hrefl e
    · exact h.trans (h.followModem status e) (h.trans (htoggle old _) (hrestart b old _))
    · exact h.trans (h.clearModemHolding e) (hrestart b old _)
  exact
    { refl := hrefl
      trans := h.trans
      readReg := h.readReg
      retickle := h.retickle
      counters := fun e ev _ => h.events e ev
      raise80Full := fun e => h.lines _ _ (lines_of_shared (shared_raise80Full e))
      receiveEvents := fun c e => h.lines _ _ (lines_of_shared (shared_receiveEvents c e))
      lsrEvents := fun status e => h.lines _ _ (lines_of_shared (shared_lsrEvents status e))
      modemEvents := fun status e => h.lines _ _ (lines_of_shared (shared_modemEvents status e))
      insertStartTimerLowerRts := h.insertStartTimerLowerRts
      abortOnError := fun e => h.lines _ _ (lines_of_shared (shared_abortOnError e))
      holdingEmpty := h.holdingEmpty
      holds := hholds
      storeInRing := fun e c _ _ => h.trans (hholds e) (h.lines _ _ (lines_putRing c _))
      overwriteLast := fun _ _ _ => h.lines _ _ rfl
      countXoff := fun e => h.lines _ _ (lines_of_shared (shared_countXoff e))
      storeUser := fun e c _ => h.lines _ _ (lines_storeUser c e)
      followDsr := fun _ e => h.rxHolding e _
      modemHolding := hmodem
      setTxXoff := h.setTxXoff }

/-- `R` looks at what belongs to no slot but not at the chip, and contains these changes. -/
structure SharedRule (R : Extension U → Extension U → Prop) : Prop where
  trans : ∀ {a b c}, R a b → R b c → R a c
  lines : ∀ e e', e'.lines = e.lines → R e e'
  uart : ∀ e u, R e { e with uart := u }
  events : ∀ e ev, R e { e with ev := ev }
  holdingEmpty : ∀ e b, R e (e.setHoldingEmpty b)
  special : ∀ e b, R e (e.setSpecial b)
  rxHolding : ∀ e h, R e (e.putRxHolding h)
  setTxXoff : ∀ b e, R e (e.setTxXoff b)
  setTxBreak : ∀ b e, R e (e.setTxBreak b)
  xonSent : ∀ e, R e e.xonSent
  xoffSent : ∀ e, R e e.xoffSent
  followModem : ∀ status e, R e (e.followModem status)
  clearModemHolding : ∀ e, R e e.clearModemHolding
  insertStartTimerLowerRts : ∀ e, R e e.insertStartTimerLowerRts

namespace SharedRule

variable {R : Extension U → Extension U → Prop} (h : SharedRule R)
include h

omit [Uart U] in
/-- Nothing happens. -/
theorem refl (e : Extension U) : R e e := h.lines e e rfl

theorem updateReg (e : Extension U) (r : Reg) (f : UInt8 → UInt8) : R e (e.updateReg r f) :=
  h.uart e _

theorem serialSetDtr (e : Extension U) : R e e.serialSetDtr :=
  rel_ite (fun _ => h.refl e) (fun _ => h.updateReg e _ _)

theorem serialClrDtr (e : Extension U) : R e e.serialClrDtr :=
  rel_ite (fun _ => h.refl e) (fun _ => h.updateReg e _ _)

theorem serialProdXonXoff (e : Extension U) (b : Bool) : R e (e.serialProdXonXoff b) :=
  rel_ite (fun _ => h.trans (h.uart e _) (h.special _ b)) (fun _ => h.special e b)

/-- The same, for relations that do not look at the chip. -/
theorem statusRule : StatusRule R :=
  SharedStatusRule.statusRule
    { trans := h.trans
      lines := h.lines
      readReg := fun e _ => h.uart e _
      retickle := fun e => h.uart e _
      events := h.events
      holdingEmpty := h.holdingEmpty
      special := h.special
      rxHolding := h.rxHolding
      holdDtr := fun e => rel_ite (fun _ => h.trans (h.rxHolding e _) (h.serialClrDtr _))
        (fun _ => h.refl e)
      holdRts := fun e => rel_ite (fun _ => h.trans (h.rxHolding e _) (h.updateReg _ _ _))
        (fun _ => h.refl e)
      setTxXoff := h.setTxXoff
      followModem := h.followModem
      clearModemHolding := h.clearModemHolding
      insertStartTimerLowerRts := h.insertStartTimerLowerRts }

/-! ## Transmission -/

/-- What the ISR sends. -/
theorem writeRule : WriteRule R where
  refl := h.refl
  trans := h.trans
  serialSetRts e _ := h.updateReg e _ _
  addTransmitted _ e := h.events e _
  data e _ := h.uart e _
  spr e _ := h.uart e _
  insertStartTimerLowerRts := h.insertStartTimerLowerRts
  txtrg e := h.uart e _
  fillFscc e := h.uart e _

omit [Uart U] in
theorem advanceWrite (n : Nat) (e : Extension U) : R e (e.advanceWrite n) := by
  have hmove : R e (e.movePointer n) := h.trans (h.holdingEmpty e false) (h.lines _ _ rfl)
  refine rel_ite (fun _ => h.trans hmove (h.lines _ _ ?_)) fun _ => hmove
  exact lines_of_shared ((shared_insertQueueDpc (by decide) _).trans (shared_modifyCurrent _ _ _))

theorem transmitData (e : Extension U) : R e e.transmitData :=
  h.trans (h.writeRule.amountToWrite e) (h.trans (h.writeRule.writeBytes _ _) (h.advanceWrite _ _))

omit [Uart U] in
theorem logWire (w : Wire) (e : Extension U) : R e (e.logWire w) := h.lines _ _ rfl

theorem transmitXon (e : Extension U) : R e e.transmitXon :=
  h.trans (h.writeRule.writeSpecial _ e) (h.trans (h.logWire _ _) (h.xonSent _))

theorem transmitXoff (e : Extension U) : R e e.transmitXoff := by
  have hhold (e : Extension U) : R e (holdAfterXoff e) :=
    rel_ite (fun _ => h.refl e) (fun _ => h.trans (h.setTxXoff true e) (h.statusRule.toggleTimer _))
  exact h.trans (h.writeRule.writeSpecial _ e) (h.trans (h.logWire _ _) (h.trans (hhold _) (h.xoffSent _)))

theorem transmitImmediateChar (e : Extension U) : R e e.transmitImmediateChar := by
  have hsent (e : Extension U) : R e e.immediateSent :=
    h.trans (h.holdingEmpty e false) (h.lines _ _ (lines_of_shared (shared_insertQueueDpc (by decide) _)))
  exact h.trans (h.writeRule.writeSpecial _ e) (hsent _)

/-! ## Flow control -/

/-- What follows when the buffer has been read from. -/
theorem serialHandleReducedIntBuffer (e : Extension U) : R e e.serialHandleReducedIntBuffer := by
  have hdtr (e : Extension U) : R e (releaseDtr e) :=
    rel_ite (fun _ => h.trans (h.rxHolding e _) (h.serialSetDtr _)) (fun _ => h.refl e)
  have hrts (e : Extension U) : R e (releaseRts e) :=
    rel_ite (fun _ => h.trans (h.rxHolding e _) (h.updateReg _ _ _)) (fun _ => h.refl e)
  have hxoff (e : Extension U) : R e (releaseXoff e) :=
    rel_ite (fun _ => h.serialProdXonXoff e true) (fun _ => h.refl e)
  exact rel_ite (fun _ => h.trans (hdtr e) (h.trans (hrts _) (hxoff _))) (fun _ => h.refl e)

theorem raiseRtsInToggle (e : Extension U) : R e e.raiseRtsInToggle :=
  rel_ite (fun _ => h.updateReg e _ _) (fun _ => h.refl e)

/-- The routine that needs more: what lowers RTS. -/
theorem controlRule (hlower : ∀ e, R e (e.addTryingToLowerRts 1).serialPerhapsLowerRts) :
    ControlRule R where
  toStatusRule := h.statusRule
  lowerRts := hlower
  raiseRtsInToggle := h.raiseRtsInToggle
  serialTurnOnBreak e := h.trans (h.raiseRtsInToggle e) (h.trans (h.uart _ _) (h.setTxBreak true _))
  stopBreak e _ := h.trans (h.uart e _) (h.setTxBreak false _)
  serialHandleReducedIntBuffer := h.serialHandleReducedIntBuffer
  emptyEvent _ _ := h.lines _ _ (lines_of_shared (shared_answerWaitIfWaiting _))

/-- A whole pass of the ISR. -/
theorem isrRule : IsrRule R where
  toStatusRule := h.statusRule
  emptied _ := h.lines _ _ rfl
  transmitXon e _ _ := h.transmitXon e
  transmitXoff e _ _ := h.transmitXoff e
  transmitImmediateChar e _ _ := h.transmitImmediateChar e
  transmitData e _ _ := h.transmitData e

/-- **Rule for relations about what belongs to no slot.** They contain a change of the
configuration that leaves the modes of `HandFlow` as they are. -/
theorem callbackRule
    (hconfigure : ∀ e c, c.handFlow.controlHandShake = e.handFlow.controlHandShake →
      c.handFlow.flowReplace = e.handFlow.flowReplace → R e { e with cfg := c })
    (hlower : ∀ e, R e (e.addTryingToLowerRts 1).serialPerhapsLowerRts) :
    CallbackRule (fun _ => False) R where
  toControlRule := h.controlRule hlower
  same e e' _ hshared := h.lines e e' (lines_of_shared hshared)
  evolve e _ := h.uart e _
  configure e _ _ _ := hconfigure e _ rfl rfl
  clearErrors e := h.events e _
  setDtr e _ := ⟨h.serialSetDtr e, h.serialClrDtr e⟩
  setRts e _ := ⟨h.updateReg e _ _, h.updateReg e _ _⟩
  drain _ e x hx := h.lines _ _ (by rw [Extension.lines, Extension.lines, hx.rxHolding])

/-- A new interrupt buffer comes with new limits. -/
theorem serialUpdateAndSwitchToNew
    (hconfigure : ∀ e c, c.handFlow.controlHandShake = e.handFlow.controlHandShake →
      c.handFlow.flowReplace = e.handFlow.flowReplace → R e { e with cfg := c })
    (e : Extension U) (n : Nat) (buffer : List UInt8) :
    R e (e.serialUpdateAndSwitchToNew n buffer) := by
  have hinstall (b : List UInt8) : R e (e.installBuffer b) := h.lines _ _ (by rfl)
  have hlimits (hf : HandFlow) (e : Extension U)
      (hcontrol : hf.controlHandShake = e.handFlow.controlHandShake)
      (hreplace : hf.flowReplace = e.handFlow.flowReplace) : R e (e.putHandFlow hf) :=
    hconfigure e _ hcontrol hreplace
  exact h.trans (hinstall _) (h.trans (hlimits _ _ (by rfl) (by rfl))
    (h.serialHandleReducedIntBuffer _))

/-- What does not look at the attempts to lower RTS may ignore the counter. -/
theorem serialPerhapsLowerRts (hcount : ∀ e n, R e (e.addTryingToLowerRts n)) (e : Extension U) :
    R e e.serialPerhapsLowerRts := by
  have hretry (status : UInt8) (e : Extension U) : R e (e.lowerRtsOrRetry status) :=
    rel_ite (fun _ => h.updateReg e _ _) (fun _ => h.insertStartTimerLowerRts e)
  have htry : R e e.tryToLowerRts :=
    rel_ite (fun _ => h.trans (h.statusRule.serialProcessLsr e) (hretry _ _)) (fun _ => h.refl e)
  exact h.trans htry (hcount _ _)

/-- **Rule for relations that do not look at the attempts to lower RTS.** -/
theorem stepRule
    (hconfigure : ∀ e c, c.handFlow.controlHandShake = e.handFlow.controlHandShake →
      c.handFlow.flowReplace = e.handFlow.flowReplace → R e { e with cfg := c })
    (hcount : ∀ e n, R e (e.addTryingToLowerRts n))
    (htimer : ∀ e t, R e { e with timer := Function.update e.timer .lowerRts t })
    (hdpc : ∀ e, R e (e.takeDpc .startTimerLowerRts))
    (hset : ∀ new e, R e (e.serialSetHandFlow new)) : StepRule (fun _ => False) R where
  toCallbackRule := h.callbackRule hconfigure
    (fun e => h.trans (hcount e 1) (h.serialPerhapsLowerRts hcount _))
  __ := h.isrRule
  serialSetHandFlow := hset
  resize _ := h.serialUpdateAndSwitchToNew hconfigure
  expireLowerRts e _ := htimer e _
  startTimerLowerRts e _ := by
    refine h.trans (hdpc e) (rel_ite (fun _ => ?_) fun _ => htimer _ _)
    exact h.trans (htimer _ _) (hcount _ _)
  lowerRtsTimer e _ := h.trans (htimer e _) (h.serialPerhapsLowerRts hcount _)

end SharedRule

omit [Uart U] in
/-- The configuration is what the I/O controls made it. -/
theorem cfg_sharedRule : SharedRule fun e e' : Extension U => e'.cfg = e.cfg where
  trans h h' := h'.trans h
  lines e e' h := by
    simp only [lines, Prod.mk.injEq] at h
    exact h.2.1
  uart _ _ := rfl
  events _ _ := rfl
  holdingEmpty _ _ := rfl
  special _ b := by cases b <;> rfl
  rxHolding _ _ := rfl
  setTxXoff _ _ := rfl
  setTxBreak _ _ := rfl
  xonSent _ := rfl
  xoffSent _ := rfl
  followModem _ _ := rfl
  clearModemHolding _ := rfl
  insertStartTimerLowerRts e := by
    unfold insertStartTimerLowerRts
    split <;> rfl

/-- What is asked of the handshake, as the card allows it, is what is set up. -/
theorem handFlow_serialSetHandFlow (new : HandFlow) (e : Extension U) :
    (e.serialSetHandFlow new).handFlow = e.handFlowForCard new :=
  congrArg Config.handFlow (cfg_sharedRule.statusRule.serialHandleModemUpdate false _)

/-! ## Relations about the chip -/

/-- A relation that contains the primitive changes of flow control, and looks at what belongs to no
slot only. -/
theorem FlowRule.callbackRule {R : Extension U → Extension U → Prop} (h : FlowRule R)
    (hlines : ∀ e e', e'.lines = e.lines → R e e')
    (hevolve : ∀ e x, R e { e with uart := Uart.evolve x e.uart })
    (hconfigure : ∀ e timeouts chars escape, R e { e with cfg := { e.cfg with
      timeouts := timeouts, specialChars := chars, escapeChar := escape } }) :
    CallbackRule (fun _ => False) R where
  toControlRule := h.controlRule
  same e e' _ hshared := hlines e e' (lines_of_shared hshared)
  evolve := hevolve
  configure := hconfigure
  clearErrors e := h.events e _ rfl rfl
  setDtr e _ := ⟨h.serialSetDtr e, h.serialClrDtr e⟩
  setRts e _ := ⟨h.serialSetRts e, h.serialClrRts e⟩
  drain _ e x hx := hlines _ _ (by rw [Extension.lines, Extension.lines, hx.rxHolding])

theorem FlowRule.serialUpdateAndSwitchToNew {R : Extension U → Extension U → Prop}
    (h : FlowRule R) (hlines : ∀ e e', e'.lines = e.lines → R e e') (e : Extension U) (n : Nat)
    (buffer : List UInt8) : R e (e.serialUpdateAndSwitchToNew n buffer) := by
  have hinstall (b : List UInt8) : R e (e.installBuffer b) := hlines _ _ (by rfl)
  exact h.trans (hinstall _) (h.trans (h.handFlow _ _) (h.serialHandleReducedIntBuffer _))

end SerialFc
