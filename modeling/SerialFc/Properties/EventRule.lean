import SerialFc.Properties.SharedRule

/-!
# Relations about the wait mask

What happens to the wait mask, the event history, the request to wait and the completed ones
(`told`). Nearly all code leaves these alone. `EventRule` asks for the routines that do not, and
gives `StepRule` from them for every step that is not about masks.
-/

namespace SerialFc

open Extension

variable {U : Type}

/-! ## What leaves the wait alone -/

/-- A request to wait that has been completed with its events. -/
def Request.reported (r : Request) : Bool := Slot.wait.finishes r.body && r.status == .success

/-- What the requests to wait have to do with. -/
def Extension.told (e : Extension U) :=
  (e.ev.masks, e.current .wait, e.done.filter Request.reported)

section Told

/-- Requests of other slots have nothing to tell. -/
theorem told_modifyCurrent (e : Extension U) {s : Slot} (hs : s ≠ .wait) (f : Request → Request) :
    (e.modifyCurrent s f).told = e.told := by
  unfold told
  rw [ev_modifyCurrent, done_modifyCurrent, current_modifyCurrent, if_neg hs.symm]

theorem told_abortOnError (e : Extension U) : e.abortOnError.told = e.told := by
  unfold abortOnError
  split <;> rfl

theorem told_insertStartTimerLowerRts (e : Extension U) :
    e.insertStartTimerLowerRts.told = e.told := by
  unfold insertStartTimerLowerRts
  split <;> rfl

/-- Counting for an XOFF counter raises no event. -/
theorem told_countXoff (e : Extension U) : e.countXoff.told = e.told := by
  unfold countXoff
  split
  · rfl
  · split
    · exact told_modifyCurrent (e.setCountSinceXoff 0) (by decide) _
    · rfl

/-- Nor does storing a character for a reader. -/
theorem told_storeUser (c : UInt8) (e : Extension U) : (e.storeUser c).told = e.told := by
  have hput : (e.putUser c).told = e.told := by
    unfold putUser
    exact told_modifyCurrent _ (by decide) _
  unfold storeUser
  split
  · exact (told_modifyCurrent (e.putUser c).resetRing (by decide) _).trans hput
  · exact hput

/-- What another slot does not touch. -/
theorem told_of_same {e e' : Extension U} (hwait : Same .wait e e') (hmask : Same .mask e e') :
    e'.told = e.told := by
  have hdone := congrArg (List.filter (fun r : Request => r.status == .success)) hwait.finished
  simp only [List.filter_filter, Bool.and_comm (_ == NtStatus.success)] at hdone
  obtain ⟨hhistory, hmasks⟩ := hmask.data
  have hmask : e'.ev.irpMaskLocation = e.ev.irpMaskLocation := hwait.data
  unfold told Events.masks
  rw [hhistory, hmasks, hmask, hwait.current]
  exact congrArg _ (congrArg _ hdone)

end Told

/-! ## The rule -/

variable [Uart U]

/-- `R` looks at `told` only, and contains the routines that change it. -/
structure EventRule (R : Extension U → Extension U → Prop) : Prop where
  trans : ∀ {a b c}, R a b → R b c → R a c
  told : ∀ e e', e'.told = e.told → R e e'
  raise80Full : ∀ e, R e e.raise80Full
  receiveEvents : ∀ c e, R e (e.receiveEvents c)
  lsrEvents : ∀ status e, R e (e.lsrEvents status)
  modemEvents : ∀ status e, R e (e.modemEvents status)
  emptyEvent : ∀ e, has32 e.ev.isrWaitMask evTxEmpty = true →
    R e (e.addHistory evTxEmpty).answerWaitIfWaiting

namespace EventRule

variable {R : Extension U → Extension U → Prop} (h : EventRule R)
include h

omit [Uart U] in
theorem refl (e : Extension U) : R e e := h.told e e rfl

/-! ### Lines, hold reasons and flow characters -/

omit [Uart U] in
theorem insertStartTimerLowerRts (e : Extension U) : R e e.insertStartTimerLowerRts :=
  h.told _ _ (told_insertStartTimerLowerRts e)

/-- Lines raise no event. -/
theorem serialSetDtr (e : Extension U) : R e e.serialSetDtr :=
  rel_ite (fun _ => h.refl e) (fun _ => h.told _ _ rfl)

theorem serialClrDtr (e : Extension U) : R e e.serialClrDtr :=
  rel_ite (fun _ => h.refl e) (fun _ => h.told _ _ rfl)

theorem serialProdXonXoff (e : Extension U) (b : Bool) : R e (e.serialProdXonXoff b) :=
  rel_ite (fun _ => h.told _ _ rfl) (fun _ => h.told _ _ rfl)

theorem raiseRtsInToggle (e : Extension U) : R e e.raiseRtsInToggle :=
  rel_ite (fun _ => h.told _ _ rfl) (fun _ => h.refl e)

/-- Nor do the mechanisms that hold the sender off. -/
theorem holds (e : Extension U) : R e e.holdDtr.holdRts.holdXoff := by
  have hdtr : R e e.holdDtr :=
    rel_ite (fun _ => h.trans (h.told _ _ (by rfl)) (h.serialClrDtr (e.setRxDtr true)))
      (fun _ => h.refl e)
  have hrts (e : Extension U) : R e e.holdRts :=
    rel_ite (fun _ => h.told _ _ rfl) (fun _ => h.refl e)
  have hxoff (e : Extension U) : R e e.holdXoff :=
    rel_ite (fun _ => h.trans (h.told _ _ (by rfl)) (h.serialProdXonXoff (e.setRxXoff true) false))
      (fun _ => h.refl e)
  exact h.trans hdtr (h.trans (hrts _) (hxoff _))

/-- Nor do the hold reasons: the events of the modem lines are raised before. -/
theorem modemHolding (b : Bool) (old : TxHolding) (status : UInt8) (e : Extension U) :
    R e (e.modemHolding b old status) := by
  have hrestart (e : Extension U) : R e (e.restartOnRelease b old) :=
    rel_ite (fun _ => rel_ite (fun _ => h.told _ _ rfl) (fun _ => h.refl e)) (fun _ => h.refl e)
  have htoggle (e : Extension U) : R e (e.toggleOnHold old) :=
    rel_ite (fun _ => h.insertStartTimerLowerRts e) (fun _ => h.refl e)
  refine rel_ite (fun _ => ?_) fun _ => rel_ite (fun _ => ?_) fun _ => h.refl e
  · exact h.trans (h.told _ _ (by rfl)) (h.trans (htoggle (e.followModem status)) (hrestart _))
  · exact h.trans (h.told _ _ (by rfl)) (hrestart e.clearModemHolding)

/-- Storing characters and processing a status, with the events they raise. -/
theorem statusRule : StatusRule R where
  refl := h.refl
  trans := h.trans
  readReg _ _ := h.told _ _ rfl
  retickle _ := h.told _ _ rfl
  counters e ev hev := h.told _ _ (by unfold Extension.told; rw [hev])
  raise80Full := h.raise80Full
  receiveEvents := h.receiveEvents
  lsrEvents := h.lsrEvents
  modemEvents := h.modemEvents
  insertStartTimerLowerRts := h.insertStartTimerLowerRts
  abortOnError e := h.told _ _ (told_abortOnError e)
  holdingEmpty _ _ := h.told _ _ rfl
  holds := h.holds
  storeInRing e _ _ _ := h.trans (h.holds e) (h.told _ _ rfl)
  overwriteLast _ _ _ := h.told _ _ rfl
  countXoff e := h.told _ _ (told_countXoff e)
  storeUser e c _ := h.told _ _ (told_storeUser c e)
  followDsr _ _ := h.told _ _ rfl
  modemHolding := h.modemHolding
  setTxXoff _ _ := h.told _ _ rfl

/-! ### Transmission -/

/-- Sending raises an event only when everything is sent. -/
theorem writeRule : WriteRule R where
  refl := h.refl
  trans := h.trans
  serialSetRts _ _ := h.told _ _ rfl
  addTransmitted _ _ := h.told _ _ rfl
  data _ _ := h.told _ _ rfl
  spr _ _ := h.told _ _ rfl
  insertStartTimerLowerRts := h.insertStartTimerLowerRts
  txtrg _ := h.told _ _ rfl
  fillFscc _ := h.told _ _ rfl

omit [Uart U] in
theorem advanceWrite (n : Nat) (e : Extension U) : R e (e.advanceWrite n) :=
  rel_ite (fun _ => h.told _ _ (told_modifyCurrent (e.movePointer n) (by decide) _))
    (fun _ => h.told _ _ rfl)

/-- The causes of the ISR. -/
theorem isrRule : IsrRule R where
  toStatusRule := h.statusRule
  emptied _ := h.told _ _ rfl
  transmitXon e _ _ := h.trans (h.writeRule.writeSpecial _ e) (h.told _ _ rfl)
  transmitXoff e _ _ := by
    have hhold (e : Extension U) : R e (holdAfterXoff e) :=
      rel_ite (fun _ => h.refl e)
        (fun _ => h.trans (h.told _ _ (by rfl)) (h.statusRule.toggleTimer (e.setTxXoff true)))
    exact h.trans (h.writeRule.writeSpecial _ e)
      (h.trans (h.told _ _ (by rfl)) (h.trans (hhold (logWire _ _)) (h.told _ _ rfl)))
  transmitImmediateChar e _ _ := h.trans (h.writeRule.writeSpecial _ e) (h.told _ _ rfl)
  transmitData e _ _ := h.trans (h.writeRule.amountToWrite e)
    (h.trans (h.writeRule.writeBytes _ _) (h.advanceWrite _ _))

/-! ### Flow control -/

/-- Lowering RTS looks at the line status, which may show events. -/
theorem serialPerhapsLowerRts (e : Extension U) : R e e.serialPerhapsLowerRts := by
  have hretry (status : UInt8) (e : Extension U) : R e (e.lowerRtsOrRetry status) :=
    rel_ite (fun _ => h.told _ _ rfl) (fun _ => h.insertStartTimerLowerRts e)
  have htry : R e e.tryToLowerRts :=
    rel_ite (fun _ => h.trans (h.statusRule.serialProcessLsr e) (hretry _ _)) (fun _ => h.refl e)
  exact h.trans htry (h.told _ _ rfl)

theorem countAndLowerRts (e : Extension U) : R e (e.addTryingToLowerRts 1).serialPerhapsLowerRts :=
  h.trans (h.told _ _ (by rfl)) (h.serialPerhapsLowerRts (e.addTryingToLowerRts 1))

theorem serialHandleReducedIntBuffer (e : Extension U) : R e e.serialHandleReducedIntBuffer := by
  have hdtr (e : Extension U) : R e (releaseDtr e) :=
    rel_ite (fun _ => h.trans (h.told _ _ (by rfl)) (h.serialSetDtr (e.setRxDtr false)))
      (fun _ => h.refl e)
  have hrts (e : Extension U) : R e (releaseRts e) :=
    rel_ite (fun _ => h.told _ _ rfl) (fun _ => h.refl e)
  have hxoff (e : Extension U) : R e (releaseXoff e) :=
    rel_ite (fun _ => h.serialProdXonXoff e true) (fun _ => h.refl e)
  exact rel_ite (fun _ => h.trans (hdtr e) (h.trans (hrts _) (hxoff _))) (fun _ => h.refl e)

/-- Flow control from outside the ISR. -/
theorem controlRule : ControlRule R where
  toStatusRule := h.statusRule
  lowerRts := h.countAndLowerRts
  raiseRtsInToggle := h.raiseRtsInToggle
  serialTurnOnBreak e := h.trans (h.raiseRtsInToggle e) (h.told _ _ rfl)
  stopBreak _ _ := h.told _ _ rfl
  serialHandleReducedIntBuffer := h.serialHandleReducedIntBuffer
  emptyEvent := h.emptyEvent

/-! ### New handshaking -/

theorem setupDtr (new : HandFlow) (e : Extension U) : R e (e.setupDtr new) := by
  have hset (b : Bool) : R e (e.setRxDtr b).serialSetDtr :=
    h.trans (h.told _ _ (by rfl)) (h.serialSetDtr (e.setRxDtr b))
  have hclr (b : Bool) : R e (e.setRxDtr b).serialClrDtr :=
    h.trans (h.told _ _ (by rfl)) (h.serialClrDtr (e.setRxDtr b))
  have hhand : R e (e.setupDtrHandshake new) :=
    rel_ite (fun _ => rel_ite (fun _ => rel_ite (fun _ => hset false) (fun _ => h.refl e))
      (fun _ => h.serialSetDtr e)) (fun _ => hclr true)
  exact rel_ite (fun _ => rel_ite (fun _ => rel_ite (fun _ => hhand) (fun _ => hset false))
    (fun _ => hclr false)) (fun _ => h.refl e)

theorem setupToggle (e : Extension U) : R e e.setupToggle := by
  have hraise (status : UInt8) (e : Extension U) : R e (e.raiseOrLowerRts status) :=
    rel_ite (fun _ => h.told _ _ rfl) (fun _ => h.countAndLowerRts e)
  exact rel_ite (fun _ => h.told _ _ rfl)
    (fun _ => h.trans (h.statusRule.serialProcessLsr e) (hraise _ _))

theorem setupRts (new : HandFlow) (e : Extension U) : R e (e.setupRts new) := by
  have hhand : R e (e.setupRtsHandshake new) :=
    rel_ite (fun _ => rel_ite (fun _ => rel_ite (fun _ => h.told _ _ rfl) (fun _ => h.refl e))
      (fun _ => h.told _ _ rfl)) (fun _ => h.told _ _ rfl)
  have htoggle : R e (e.setRxRts false).enterToggle.setupToggle :=
    h.trans (h.told _ _ (by rfl)) (h.setupToggle (e.setRxRts false).enterToggle)
  exact rel_ite (fun _ => rel_ite (fun _ => hhand) fun _ => rel_ite (fun _ => h.told _ _ rfl)
    fun _ => rel_ite (fun _ => htoggle) (fun _ => h.told _ _ rfl)) (fun _ => h.refl e)

theorem setupAutoReceive (new : HandFlow) (e : Extension U) : R e (e.setupAutoReceive new) := by
  have hprod (b c : Bool) : R e ((e.setRxXoff b).serialProdXonXoff c) :=
    h.trans (h.told _ _ (by rfl)) (h.serialProdXonXoff (e.setRxXoff b) c)
  exact rel_ite (fun _ => rel_ite (fun _ => rel_ite (fun _ => h.refl e) (fun _ => hprod _ _))
    fun _ => rel_ite (fun _ => hprod _ _) (fun _ => h.refl e)) (fun _ => h.refl e)

theorem setupAutoTransmit (new : HandFlow) (e : Extension U) : R e (e.setupAutoTransmit new) :=
  rel_ite (fun _ => h.trans (h.told _ _ (by rfl)) (h.serialProdXonXoff (e.setTxXoff false) true))
    (fun _ => h.refl e)

/-- New handshaking processes the line and modem status on its way. -/
theorem serialSetHandFlow (new : HandFlow) (e : Extension U) : R e (e.serialSetHandFlow new) := by
  have hsetup (new : HandFlow) : R e (e.serialSetupNewHandFlow new) :=
    h.trans (h.setupDtr new e) (h.trans (h.setupRts new _) (h.trans (h.setupAutoReceive new _)
      (h.trans (h.setupAutoTransmit new _) (h.told _ _ rfl))))
  exact h.trans (hsetup _) (h.statusRule.serialHandleModemUpdate false _)

/-! ### Steps -/

/-- The slots of mask requests and of requests to wait. -/
abbrev Masks (s : Slot) : Prop := s = .mask ∨ s = .wait

/-- **Rule for relations about the wait mask.** They contain every step that does not work for
mask requests or requests to wait. -/
theorem stepRule : StepRule Masks R where
  toControlRule := h.controlRule
  __ := h.isrRule
  same e e' hsame _ := h.told e e' (told_of_same (hsame .wait (.inr rfl)) (hsame .mask (.inl rfl)))
  evolve _ _ := h.told _ _ rfl
  configure _ _ _ _ := h.told _ _ rfl
  clearErrors _ := h.told _ _ rfl
  setDtr e _ := ⟨h.serialSetDtr e, h.serialClrDtr e⟩
  setRts _ _ := ⟨h.told _ _ rfl, h.told _ _ rfl⟩
  drain _ _ _ _ := h.told _ _ rfl
  expireLowerRts _ _ := h.told _ _ rfl
  startTimerLowerRts e _ := rel_ite (fun _ => h.told _ _ rfl) (fun _ => h.told _ _ rfl)
  lowerRtsTimer e _ :=
    h.trans (h.told _ _ (by rfl)) (h.serialPerhapsLowerRts (e.takeTimer .lowerRts))
  serialSetHandFlow := h.serialSetHandFlow
  resize _ e n buffer :=
    h.trans (h.told _ _ (by rfl))
      (h.serialHandleReducedIntBuffer ((e.installBuffer _).putHandFlow _))

end EventRule

end SerialFc
