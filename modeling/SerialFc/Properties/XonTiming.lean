import SerialFc.Properties.InputFlow

/-!
# When the XON goes out

The read path raises an XON with the interrupt buffer drained, and the ISR sends it later, when
transmission is not held. Characters that come in between may bring the buffer back to the mark,
and as the XOFF bit of `RXHolding` is still set, they do not call for another XOFF.
-/

namespace SerialFc

open Lib Extension

variable {U : Type} [Uart U]

/-- The characters in the interrupt buffer, if the ISR fills it. -/
def Rx.ringFill (x : Rx) : Nat :=
  match x.readBufferBase with
  | .ring => x.charsInInterruptBuffer
  | .user => 0

namespace Extension

/-- The modes and limits of XON and XOFF. -/
def flowMarks (e : Extension U) : Bool × Bool × Nat × Nat × Nat :=
  (e.handFlow.autoReceive, e.handFlow.autoTransmit, e.handFlow.xonLimit, e.handFlow.xoffLimit,
    e.rx.bufferSize)

end Extension

/-- The buffer gets no fuller than the characters that come in make it. -/
structure Refills (e e' : Extension U) : Prop where
  flowMarks : e'.flowMarks = e.flowMarks
  stored : e.stored ≤ e'.stored
  fill : e'.rx.ringFill + e.stored ≤ e.rx.ringFill + e'.stored

/-- An XON is raised, if `drains` lets one be raised at all, with the buffer at `XonLimit` or
below. -/
structure RaisesXonIf (drains : Prop) (e e' : Extension U) : Prop extends Refills e e' where
  xon : e'.tx.sendXonChar = true → e.tx.sendXonChar = true ∨
    drains ∧ e'.rx.ringFill + e.stored ≤ e.handFlow.xonLimit + e'.stored

section
omit [Uart U]

theorem ringFill_congr {x x' : Rx} (h : x'.fill = x.fill) : x'.ringFill = x.ringFill := by
  simp only [Rx.fill, Prod.mk.injEq] at h
  unfold Rx.ringFill
  rw [h.1, h.2.1]

theorem not_overMark_of_ringFill {hf : HandFlow} {x : Rx}
    (h : x.ringFill < x.bufferSize - hf.xoffLimit) : ¬hf.overMark x := by
  rintro ⟨hring, hmark⟩
  have hfill : x.ringFill = x.charsInInterruptBuffer := by
    unfold Rx.ringFill
    rw [hring]
  omega

theorem ringFill_drained {x x' : Rx} (h : Drained x x') : x'.ringFill ≤ x.ringFill := by
  rcases h.fill with ⟨hbase, hle⟩ | huser | hzero
  · unfold Rx.ringFill
    rw [hbase]
    cases x.readBufferBase
    · exact hle
    · exact Nat.le_refl 0
  · unfold Rx.ringFill
    rw [huser]
    exact Nat.zero_le _
  · have hnone : x'.ringFill = 0 := by
      unfold Rx.ringFill
      rw [hzero]
      cases x'.readBufferBase <;> rfl
    exact hnone ▸ Nat.zero_le _

namespace Refills

variable {e e' e'' : Extension U}

theorem trans (h : Refills e e') (h' : Refills e' e'') : Refills e e'' where
  flowMarks := h'.flowMarks.trans h.flowMarks
  stored := Nat.le_trans h.stored h'.stored
  fill := by
    have hfill := h.fill
    have hfill' := h'.fill
    omega

theorem of_same (hmarks : e'.flowMarks = e.flowMarks) (hfill : e'.rx.fill = e.rx.fill)
    (hstored : e'.stored = e.stored) : Refills e e' where
  flowMarks := hmarks
  stored := Nat.le_of_eq hstored.symm
  fill := by rw [ringFill_congr hfill, hstored]

/-- The limits are what they were. -/
theorem xonLimit (h : Refills e e') : e'.handFlow.xonLimit = e.handFlow.xonLimit :=
  congrArg (·.2.2.1) h.flowMarks

end Refills

namespace RaisesXonIf

variable {D : Prop} {e e' e'' : Extension U}

theorem trans (h : RaisesXonIf D e e') (h' : RaisesXonIf D e' e'') : RaisesXonIf D e e'' where
  toRefills := h.toRefills.trans h'.toRefills
  xon hxon := by
    have hstored := h.stored
    have hfill' := h'.fill
    rcases h'.xon hxon with hpending | ⟨hdrains, hlow⟩
    · -- raised in the first part, with nothing but arrivals since
      refine (h.xon hpending).imp_right fun ⟨hdrains, hlow⟩ => ⟨hdrains, ?_⟩
      omega
    · refine Or.inr ⟨hdrains, ?_⟩
      rw [h.xonLimit] at hlow
      omega

theorem of_same (hmarks : e'.flowMarks = e.flowMarks) (hfill : e'.rx.fill = e.rx.fill)
    (hstored : e'.stored = e.stored)
    (hxon : e'.tx.sendXonChar = true → e.tx.sendXonChar = true) : RaisesXonIf D e e' where
  toRefills := .of_same hmarks hfill hstored
  xon h := Or.inl (hxon h)

theorem refl (e : Extension U) : RaisesXonIf D e e := of_same rfl rfl rfl id

theorem of_shared (h : e'.shared = e.shared) : RaisesXonIf D e e' := by
  simp only [Extension.shared, Extension.lines, Prod.mk.injEq] at h
  obtain ⟨⟨-, hcfg, hxon, -⟩, hfill, hstored⟩ := h
  refine of_same ?_ hfill hstored (by rw [hxon]; exact id)
  have hsize : e'.rx.bufferSize = e.rx.bufferSize := congrArg (·.2.2) hfill
  simp only [Extension.flowMarks, Extension.handFlow, hcfg, hsize]

theorem drain (e : Extension U) {x : Rx} (hx : Drained e.rx x) :
    RaisesXonIf D e { e with rx := x } where
  flowMarks := by
    show (_, _, _, _, x.bufferSize) = e.flowMarks
    rw [hx.bufferSize]
    rfl
  stored := Nat.le_refl _
  fill := Nat.add_le_add_right (ringFill_drained hx) _
  xon := Or.inl

/-! ## Storing a character -/

theorem putRing {c : UInt8} (hring : e.rx.readBufferBase = .ring) :
    RaisesXonIf D e (e.putRing c) := by
  have hstored : (e.putRing c).stored = e.stored + 1 := by
    show (Lib.Fifo.puts (e.stream ++ [Lib.Fifo.Op.put c])).length = _
    rw [Lib.Fifo.puts_append, List.length_append]
    rfl
  have hfill : (e.putRing c).rx.ringFill = e.rx.ringFill + 1 := by
    have hbase : (e.putRing c).rx.readBufferBase = .ring := hring
    unfold Rx.ringFill
    rw [hring, hbase]
    rfl
  exact ⟨⟨rfl, by omega, by omega⟩, Or.inl⟩

theorem putUser (c : UInt8) (e : Extension U) : RaisesXonIf D e (e.putUser c) := by
  have hstored : (e.putUser c).stored = e.stored + 1 := by
    show (Lib.Fifo.puts (Extension.modifyCurrent _ _ _).stream).length = _
    have hstream : (e.putUser c).stream = e.stream ++ [Lib.Fifo.Op.put c] := by
      unfold Extension.putUser
      simp
    have hputs : (Lib.Fifo.puts (e.putUser c).stream).length = e.stored + 1 := by
      rw [hstream, Lib.Fifo.puts_append, List.length_append]
      rfl
    exact hputs
  have hfill : (e.putUser c).rx.ringFill = e.rx.ringFill := ringFill_congr (fill_putUser c e)
  have hlines := lines_putUser c e
  simp only [Extension.lines, Prod.mk.injEq] at hlines
  obtain ⟨-, hcfg, hxon, -⟩ := hlines
  have hsize : (e.putUser c).rx.bufferSize = e.rx.bufferSize :=
    congrArg (·.2.2) (fill_putUser c e)
  refine ⟨⟨?_, by omega, by omega⟩, fun h => Or.inl (hxon ▸ h)⟩
  simp only [Extension.flowMarks, Extension.handFlow, hcfg, hsize]

theorem storeUser (e : Extension U) (c : UInt8) : RaisesXonIf D e (e.storeUser c) := by
  have hput : RaisesXonIf D e (e.putUser c) := putUser c e
  have hreset : RaisesXonIf D (e.putUser c) (e.putUser c).resetRing :=
    drain _ ⟨rfl, rfl, Or.inr (Or.inr rfl)⟩
  refine rel_ite (fun _ => ?_) fun _ => ?_
  · have hfinish : (e.putUser c).satisfyRead.shared = (e.putUser c).resetRing.shared :=
      (shared_insertQueueDpc (by decide) _).trans (shared_modifyCurrent _ _ _)
    exact hput.trans (hreset.trans (of_shared hfinish))
  · exact hput.trans (drain _ ⟨rfl, rfl, Or.inl ⟨rfl, Nat.le_refl _⟩⟩)

end RaisesXonIf

end

/-! ## The rules -/

namespace RaisesXonIf

variable {D : Prop}

theorem serialSetDtr (e : Extension U) : RaisesXonIf D e e.serialSetDtr :=
  rel_ite (fun _ => refl e) (fun _ => of_same rfl rfl rfl id)

theorem serialClrDtr (e : Extension U) : RaisesXonIf D e e.serialClrDtr :=
  rel_ite (fun _ => refl e) (fun _ => of_same rfl rfl rfl id)

omit [Uart U] in
theorem putRxHolding (e : Extension U) (y : RxHolding) : RaisesXonIf D e (e.putRxHolding y) :=
  of_same rfl rfl rfl id

theorem retickle (e : Extension U) : RaisesXonIf D e e.retickle := of_same rfl rfl rfl id

omit [Uart U] in
theorem setXoff (e : Extension U) : RaisesXonIf D e (e.setSpecial false) :=
  of_same rfl rfl rfl nofun

/-- An XOFF takes the place of the XON. -/
theorem prodXoff (e : Extension U) : RaisesXonIf D e (e.serialProdXonXoff false) :=
  rel_ite (fun _ => (retickle e).trans (setXoff _)) (fun _ => setXoff e)

theorem holds (e : Extension U) : RaisesXonIf D e e.holdDtr.holdRts.holdXoff := by
  have hdtr : RaisesXonIf D e e.holdDtr :=
    rel_ite (fun _ => (putRxHolding e _).trans (serialClrDtr _)) (fun _ => refl e)
  have hrts (e : Extension U) : RaisesXonIf D e e.holdRts :=
    rel_ite (fun _ => of_same rfl rfl rfl id) (fun _ => refl e)
  have hxoff (e : Extension U) : RaisesXonIf D e e.holdXoff :=
    rel_ite (fun _ => (putRxHolding e _).trans (prodXoff _)) (fun _ => refl e)
  exact hdtr.trans ((hrts _).trans (hxoff _))

omit [Uart U] in
theorem insertStartTimerLowerRts (e : Extension U) :
    RaisesXonIf D e e.insertStartTimerLowerRts := by
  unfold Extension.insertStartTimerLowerRts
  split <;> exact of_same rfl rfl rfl id

theorem modemHolding (b : Bool) (old : TxHolding) (status : UInt8) (e : Extension U) :
    RaisesXonIf D e (e.modemHolding b old status) := by
  have hrestart (e : Extension U) : RaisesXonIf D e (e.restartOnRelease b old) :=
    rel_ite (fun _ => rel_ite (fun _ => retickle e) (fun _ => refl e)) (fun _ => refl e)
  have htoggle (e : Extension U) : RaisesXonIf D e (e.toggleOnHold old) :=
    rel_ite (fun _ => insertStartTimerLowerRts e) (fun _ => refl e)
  have hholding (t : TxHolding) : RaisesXonIf D e (e.putHolding t) := of_same rfl rfl rfl id
  refine rel_ite (fun _ => ?_) fun _ => rel_ite (fun _ => ?_) fun _ => refl e
  · exact (hholding _).trans ((htoggle _).trans (hrestart _))
  · exact (hholding _).trans (hrestart _)

theorem statusRule : StatusRule (RaisesXonIf D (U := U)) where
  refl := refl
  trans := trans
  readReg _ _ := of_same rfl rfl rfl id
  retickle := retickle
  counters _ _ _ := of_same rfl rfl rfl id
  raise80Full e := of_shared (shared_raise80Full e)
  receiveEvents c e := of_shared (shared_receiveEvents c e)
  lsrEvents status e := of_shared (shared_lsrEvents status e)
  modemEvents status e := of_shared (shared_modemEvents status e)
  insertStartTimerLowerRts := insertStartTimerLowerRts
  abortOnError e := of_shared (shared_abortOnError e)
  holdingEmpty _ _ := of_same rfl rfl rfl id
  holds := holds
  storeInRing e c hring _ := (holds e).trans (putRing (by rw [rx_holds]; exact hring))
  overwriteLast e _ _ := by
    refine of_same rfl rfl ?_ id
    show (Lib.Fifo.puts (if _ then _ else _)).length = _
    split
    · rw [Lib.Fifo.puts_append, List.length_append]
      rfl
    · rfl
  countXoff e := of_shared (shared_countXoff e)
  storeUser e c _ := storeUser e c
  followDsr _ e := putRxHolding e _
  modemHolding := modemHolding
  setTxXoff _ _ := of_same rfl rfl rfl id

/-! ## What the ISR sends -/

theorem writeRule : WriteRule (RaisesXonIf D (U := U)) where
  refl := refl
  trans := trans
  serialSetRts _ _ := of_same rfl rfl rfl id
  addTransmitted _ _ := of_same rfl rfl rfl id
  data _ _ := of_same rfl rfl rfl id
  spr _ _ := of_same rfl rfl rfl id
  insertStartTimerLowerRts := insertStartTimerLowerRts
  txtrg _ := of_same rfl rfl rfl id
  fillFscc _ := of_same rfl rfl rfl id

theorem isrRule : IsrRule (RaisesXonIf D (U := U)) where
  toStatusRule := statusRule
  emptied _ := of_same rfl rfl rfl id
  transmitXon e _ _ := (writeRule.writeSpecial _ e).trans (of_same rfl rfl rfl nofun)
  transmitXoff e _ _ := by
    have hhold (e : Extension U) : RaisesXonIf D e e.holdAfterXoff :=
      rel_ite (fun _ => refl e) (fun _ => (statusRule.setTxXoff true e).trans
        (statusRule.toggleTimer _))
    have hlog (e : Extension U) (w : Wire) : RaisesXonIf D e (e.logWire w) :=
      of_same rfl rfl rfl id
    exact (writeRule.writeSpecial _ e).trans ((hlog _ _).trans ((hhold _).trans
      (of_same rfl rfl rfl id)))
  transmitImmediateChar e _ _ := (writeRule.writeSpecial _ e).trans (of_same rfl rfl rfl id)
  transmitData e _ _ := by
    have hadvance (n : Nat) (e : Extension U) : RaisesXonIf D e (e.advanceWrite n) := by
      have hmove : RaisesXonIf D e (e.movePointer n) := of_same rfl rfl rfl id
      refine rel_ite (fun _ => hmove.trans (of_shared ?_)) fun _ => hmove
      exact (shared_insertQueueDpc (by decide) _).trans (shared_modifyCurrent _ _ _)
    exact (writeRule.amountToWrite e).trans ((writeRule.writeBytes _ _).trans (hadvance _ _))

/-! ## Flow control from outside the ISR -/

omit [Uart U] in
theorem addTryingToLowerRts (e : Extension U) (n : Int) :
    RaisesXonIf D e (e.addTryingToLowerRts n) := of_same rfl rfl rfl id

theorem serialPerhapsLowerRts (e : Extension U) : RaisesXonIf D e e.serialPerhapsLowerRts := by
  have hretry (status : UInt8) (e : Extension U) : RaisesXonIf D e (e.lowerRtsOrRetry status) :=
    rel_ite (fun _ => of_same rfl rfl rfl id) (fun _ => insertStartTimerLowerRts e)
  have htry : RaisesXonIf D e e.tryToLowerRts :=
    rel_ite (fun _ => (statusRule.serialProcessLsr e).trans (hretry _ _)) (fun _ => refl e)
  exact htry.trans (addTryingToLowerRts _ _)

/-- The one place where an XON is raised because of the interrupt buffer. -/
theorem serialHandleReducedIntBuffer (e : Extension U) :
    RaisesXonIf True e e.serialHandleReducedIntBuffer := by
  have hdtr (e : Extension U) : RaisesXonIf True e e.releaseDtr :=
    rel_ite (fun _ => (putRxHolding e _).trans (serialSetDtr _)) (fun _ => refl e)
  have hrts (e : Extension U) : RaisesXonIf True e e.releaseRts :=
    rel_ite (fun _ => of_same rfl rfl rfl id) (fun _ => refl e)
  have hprod (e : Extension U) : Refills e (e.serialProdXonXoff true) :=
    rel_ite (fun _ => .of_same rfl rfl rfl) (fun _ => .of_same rfl rfl rfl)
  have hxoff (e : Extension U) : Refills e e.releaseXoff :=
    rel_ite (fun _ => hprod e) (fun _ => .of_same rfl rfl rfl)
  refine rel_ite (fun hlow => ?_) fun _ => refl e
  rw [Bool.and_eq_true, decide_eq_true_eq] at hlow
  have hfill : e.rx.ringFill ≤ e.handFlow.xonLimit := by
    refine Nat.le_trans ?_ hlow.2
    unfold Rx.ringFill
    cases e.rx.readBufferBase
    · exact Nat.le_refl _
    · exact Nat.zero_le _
  have hrefills := ((hdtr e).toRefills.trans (hrts _).toRefills).trans (hxoff _)
  have hgrown := hrefills.fill
  exact ⟨hrefills, fun _ => Or.inr ⟨trivial, by omega⟩⟩

theorem raiseRtsInToggle (e : Extension U) : RaisesXonIf D e e.raiseRtsInToggle :=
  rel_ite (fun _ => of_same rfl rfl rfl id) (fun _ => refl e)

theorem controlRule : ControlRule (RaisesXonIf True (U := U)) where
  toStatusRule := statusRule
  lowerRts e := (addTryingToLowerRts e 1).trans (serialPerhapsLowerRts _)
  raiseRtsInToggle := raiseRtsInToggle
  serialTurnOnBreak e := (raiseRtsInToggle e).trans (of_same rfl rfl rfl id)
  stopBreak _ _ := of_same rfl rfl rfl id
  serialHandleReducedIntBuffer := serialHandleReducedIntBuffer
  emptyEvent _ _ := of_shared (shared_answerWaitIfWaiting _)

theorem callbackRule : CallbackRule (fun _ => False) (RaisesXonIf True (U := U)) where
  toControlRule := controlRule
  same _ _ _ h := of_shared h
  evolve _ _ := of_same rfl rfl rfl id
  configure _ _ _ _ := of_same rfl rfl rfl id
  clearErrors _ := of_same rfl rfl rfl id
  setDtr e _ := ⟨serialSetDtr e, serialClrDtr e⟩
  setRts _ _ := ⟨of_same rfl rfl rfl id, of_same rfl rfl rfl id⟩
  drain _ e _ hx := drain e hx

theorem lowerRule : LowerRule (RaisesXonIf D (U := U)) where
  expireLowerRts _ _ := of_same rfl rfl rfl id
  startTimerLowerRts e _ := by
    have htake : RaisesXonIf D e (e.takeDpc .startTimerLowerRts) := of_same rfl rfl rfl id
    have hset (e : Extension U) : RaisesXonIf D e (e.serialSetTimer .lowerRts).2 :=
      of_same rfl rfl rfl id
    exact htake.trans (rel_ite (fun _ => (hset _).trans (addTryingToLowerRts _ _))
      (fun _ => hset _))
  lowerRtsTimer e _ := by
    have htake : RaisesXonIf D e (e.takeTimer .lowerRts) := of_same rfl rfl rfl id
    exact htake.trans (serialPerhapsLowerRts _)

end RaisesXonIf

/-! ## New handshaking -/

omit [Uart U] in
theorem flowMarks_enterToggle (e : Extension U) : e.enterToggle.flowMarks = e.flowMarks := by
  have hmode (mask : UInt32) (hmask : mask &&& 0xc0 = 0) :
      has32 ((e.handFlow.flowReplace &&& ~~~0xc0) ||| 0xc0) mask
        = has32 e.handFlow.flowReplace mask := by
    unfold has32
    rw [fill_and_of_disjoint e.handFlow.flowReplace (by rw [UInt32.and_comm]; exact hmask)]
  have hreceive : e.enterToggle.handFlow.autoReceive = e.handFlow.autoReceive :=
    hmode 0x02 (by decide)
  have htransmit : e.enterToggle.handFlow.autoTransmit = e.handFlow.autoTransmit :=
    hmode 0x01 (by decide)
  unfold Extension.flowMarks
  rw [hreceive, htransmit]
  rfl

namespace RaisesXonIf

variable {D : Prop} (new : HandFlow) (e : Extension U)

theorem setupDtr : RaisesXonIf D e (e.setupDtr new) := by
  have hset (b : Bool) : RaisesXonIf D e (e.setRxDtr b).serialSetDtr :=
    (putRxHolding e _).trans (serialSetDtr _)
  have hclear (b : Bool) : RaisesXonIf D e (e.setRxDtr b).serialClrDtr :=
    (putRxHolding e _).trans (serialClrDtr _)
  have hshake : RaisesXonIf D e (e.setupDtrHandshake new) :=
    rel_ite (fun _ => rel_ite (fun _ => rel_ite (fun _ => hset false) (fun _ => refl e))
      (fun _ => serialSetDtr e)) (fun _ => hclear true)
  exact rel_ite (fun _ => rel_ite (fun _ => rel_ite (fun _ => hshake) (fun _ => hset false))
    (fun _ => hclear false)) (fun _ => refl e)

theorem setupToggle : RaisesXonIf D e e.setupToggle := by
  have hset (e : Extension U) : RaisesXonIf D e e.serialSetRts := of_same rfl rfl rfl id
  have hraise (status : UInt8) (e : Extension U) : RaisesXonIf D e (e.raiseOrLowerRts status) :=
    rel_ite (fun _ => hset e)
      (fun _ => (addTryingToLowerRts e 1).trans (serialPerhapsLowerRts _))
  exact rel_ite (fun _ => hset e) (fun _ => (statusRule.serialProcessLsr e).trans (hraise _ _))

theorem setupRts : RaisesXonIf D e (e.setupRts new) := by
  have hset (b : Bool) : RaisesXonIf D e (e.setRxRts b).serialSetRts := of_same rfl rfl rfl id
  have hclear (b : Bool) : RaisesXonIf D e (e.setRxRts b).serialClrRts := of_same rfl rfl rfl id
  have hshake : RaisesXonIf D e (e.setupRtsHandshake new) :=
    rel_ite (fun _ => rel_ite (fun _ => rel_ite (fun _ => hset false) (fun _ => refl e))
      (fun _ => of_same rfl rfl rfl id)) (fun _ => hclear true)
  have htoggle : RaisesXonIf D e (e.setRxRts false).enterToggle.setupToggle := by
    have henter : RaisesXonIf D e (e.setRxRts false).enterToggle :=
      of_same (flowMarks_enterToggle (e.setRxRts false)) rfl rfl id
    exact henter.trans (setupToggle _)
  exact rel_ite (fun _ => rel_ite (fun _ => hshake) (fun _ => rel_ite (fun _ => hset false)
    (fun _ => rel_ite (fun _ => htoggle) (fun _ => hclear false)))) (fun _ => refl e)

/-- Automatic reception that is on, or is switched on, calls for an XOFF if for anything. -/
theorem setupAutoReceive (hmode : new.autoReceive = true) :
    RaisesXonIf D e (e.setupAutoReceive new) := by
  refine rel_ite (fun _ => ?_) fun _ => refl e
  rw [if_pos hmode]
  exact rel_ite (fun _ => refl e) (fun _ => (putRxHolding e _).trans (prodXoff _))

end RaisesXonIf

/-- Automatic transmission is switched off with transmission held by an XOFF: an XON is raised. The
XOFF may have come in just now, when the line status was processed for the toggle mode. -/
def HandFlow.endsXoff (new : HandFlow) (e : Extension U) : Prop :=
  e.handFlow.autoTransmit = true ∧ new.autoTransmit = false ∧
    (e.tx.txHolding.xoff = true ∨ new.transmitToggle = true)

theorem txHolding_setupAutoReceive (new : HandFlow) (e : Extension U) :
    (e.setupAutoReceive new).tx.txHolding = e.tx.txHolding := by
  have hprod (b : Bool) (e : Extension U) :
      (e.serialProdXonXoff b).tx.txHolding = e.tx.txHolding := by
    unfold Extension.serialProdXonXoff
    split <;> rfl
  unfold Extension.setupAutoReceive
  split
  · split
    · split
      · rfl
      · exact hprod false _
    · split
      · exact hprod true _
      · rfl
  · rfl

theorem txHolding_setupRts {new : HandFlow} (htoggle : new.transmitToggle = false)
    (e : Extension U) : (e.setupRts new).tx.txHolding = e.tx.txHolding := by
  unfold Extension.setupRts
  split
  · split
    · unfold Extension.setupRtsHandshake
      split
      · split
        · split <;> rfl
        · rfl
      · rfl
    · split
      · rfl
      · rw [htoggle]
        rfl
  · rfl

/-- What new handshaking does about an XON: `t` is the state that the handshaking is put to. -/
theorem serialSetupNewHandFlow_xon (new : HandFlow) (hmode : new.autoReceive = true)
    (e : Extension U) : ∃ t : Extension U, e.serialSetupNewHandFlow new = t.putHandFlow new ∧
      Refills e t ∧ (t.tx.sendXonChar = true → e.tx.sendXonChar = true ∨ new.endsXoff e) := by
  let d := (e.setupDtr new).setupRts new
  let r := d.setupAutoReceive new
  have hd : RaisesXonIf False e d := (RaisesXonIf.setupDtr new e).trans (RaisesXonIf.setupRts new _)
  have hr : RaisesXonIf False e r := hd.trans (RaisesXonIf.setupAutoReceive new d hmode)
  have hpending (hxon : r.tx.sendXonChar = true) : e.tx.sendXonChar = true :=
    (hr.xon hxon).resolve_right fun h => h.1
  have hprod : Refills r ((r.setTxXoff false).serialProdXonXoff true) :=
    rel_ite (fun _ => .of_same rfl rfl rfl) (fun _ => .of_same rfl rfl rfl)
  refine ⟨r.setupAutoTransmit new, rfl, ?_, ?_⟩
  · exact hr.toRefills.trans (rel_ite (fun _ => hprod) (fun _ => .of_same rfl rfl rfl))
  · intro hxon
    unfold Extension.setupAutoTransmit at hxon
    split at hxon
    · next hswitch =>
      have htransmit : r.handFlow.autoTransmit = e.handFlow.autoTransmit :=
        congrArg (·.2.1) hr.flowMarks
      rw [htransmit] at hswitch
      simp only [Bool.and_eq_true, bne_iff_ne, ne_eq, Bool.not_eq_true'] at hswitch
      obtain ⟨⟨hne, hnew⟩, hxoff⟩ := hswitch
      refine Or.inr ⟨by simpa [hnew] using hne, hnew, ?_⟩
      by_cases htoggle : new.transmitToggle = true
      · exact Or.inr htoggle
      · have hsame : r.tx.txHolding = e.tx.txHolding := by
          rw [txHolding_setupAutoReceive, txHolding_setupRts (by simpa using htoggle),
            (besidesDtr_setupDtr new e).2.1]
        exact Or.inl (hsame ▸ hxoff)
    · exact Or.inl (hpending hxon)

/-! ## Steps -/

namespace Extension

/-- How many characters come in, and are stored, in the step. -/
def arrivals (l : Label (Uart.Input U)) (e : Extension U) : Nat :=
  match step l e with
  | some e' => e'.stored - e.stored
  | none => 0

/-- The mark at which the sender is held off. -/
def mark (e : Extension U) : Nat := e.rx.bufferSize - e.handFlow.xoffLimit

end Extension

/-- What keeps a pending XON in time. The characters that come in while it is pending do not bring
the buffer to the mark, and no more come in while a callback runs than the two limits are apart.
New handshaking has its limits in order, and with a pending XON the buffer is below the new mark,
whether new handshaking or a new interrupt buffer brings that. -/
def TimelyStep (l : Label (Uart.Input U)) (e : Extension U) : Prop :=
  (∀ new ∈ e.newHandFlow l, new.autoReceive = true →
    new.xonLimit < e.rx.bufferSize - new.xoffLimit ∧
      (e.tx.sendXonChar = true ∨ new.endsXoff e →
        e.rx.ringFill + e.arrivals l < e.rx.bufferSize - new.xoffLimit)) ∧
  (∀ size ∈ e.newSize l, e.handFlow.autoReceive = true → e.tx.sendXonChar = true →
    e.rx.ringFill < size - size / 8) ∧
  (e.newHandFlow l = none → 0 < e.arrivals l → e.handFlow.autoReceive = true →
    (l.isIsr = false → e.handFlow.xonLimit + e.arrivals l < e.mark) ∧
      (e.tx.sendXonChar = true → e.rx.ringFill + e.arrivals l < e.mark))

/-- The limits are in order, and a pending XON finds the buffer below the mark. -/
def XonLow (e : Extension U) : Prop :=
  e.handFlow.autoReceive = true →
    e.handFlow.xonLimit < e.mark ∧ (e.tx.sendXonChar = true → e.rx.ringFill < e.mark)

section
omit [Uart U]

variable {D : Prop} {e e' : Extension U}

theorem Refills.mark (h : Refills e e') : e'.mark = e.mark := by
  have hsize : e'.rx.bufferSize = e.rx.bufferSize := congrArg (·.2.2.2.2) h.flowMarks
  have hlimit : e'.handFlow.xoffLimit = e.handFlow.xoffLimit := congrArg (·.2.2.2.1) h.flowMarks
  rw [Extension.mark, Extension.mark, hsize, hlimit]

theorem Refills.autoReceive (h : Refills e e') :
    e'.handFlow.autoReceive = e.handFlow.autoReceive := congrArg (·.1) h.flowMarks

/-- What comes in while the XON is pending stays below the mark. -/
theorem XonLow.of_raises (h : XonLow e) (hraises : RaisesXonIf D e e')
    (hroom : e.stored < e'.stored → e.handFlow.autoReceive = true →
      (D → e.handFlow.xonLimit + (e'.stored - e.stored) < e.mark) ∧
        (e.tx.sendXonChar = true → e.rx.ringFill + (e'.stored - e.stored) < e.mark)) :
    XonLow e' := by
  intro hmode
  rw [hraises.autoReceive] at hmode
  rw [hraises.mark, hraises.xonLimit]
  obtain ⟨hlimits, hlow⟩ := h hmode
  refine ⟨hlimits, fun hxon => ?_⟩
  have hstored := hraises.stored
  have hfill := hraises.fill
  by_cases harrivals : e.stored < e'.stored
  · obtain ⟨hapart, hbelow⟩ := hroom harrivals hmode
    rcases hraises.xon hxon with hpending | ⟨hdrains, hdrained⟩
    · have hbelow' := hbelow hpending
      omega
    · have hapart' := hapart hdrains
      omega
  · rcases hraises.xon hxon with hpending | ⟨-, hdrained⟩
    · have hlow' := hlow hpending
      omega
    · omega

end

theorem arrivals_eq {l : Label (Uart.Input U)} {e e' : Extension U} (hstep : step l e = some e') :
    e.arrivals l = e'.stored - e.stored := by
  unfold Extension.arrivals
  rw [hstep]

/-- **Step lemma** for everything but new handshaking and a new interrupt buffer. -/
theorem XonLow.step {l : Label (Uart.Input U)} {e e' : Extension U} (h : XonLow e)
    (haccounted : Accounted e) (hstep : step l e = some e') (htimely : TimelyStep l e)
    (hnew : e.newHandFlow l = none) (hsize : e.newSize l = none) : XonLow e' := by
  have hroom := htimely.2.2 hnew
  rw [arrivals_eq hstep] at hroom
  have hraises (hstored : e.stored < e'.stored) (hmode : e.handFlow.autoReceive = true) :=
    hroom (Nat.sub_pos_of_lt hstored) hmode
  by_cases hisr : l.isIsr = true
  · have hrel : RaisesXonIf False e e' := RaisesXonIf.isrRule.step hstep hisr
    exact h.of_raises hrel fun hstored hmode => ⟨nofun, (hraises hstored hmode).2⟩
  · have hset (hf : HandFlow) (hl : l = .callback (.setHandFlow hf))
        (herror : e.serialCompleteIfError = false) (hrefused : e.handFlowRefused hf = false) :
        RaisesXonIf True e (e.serialSetHandFlow hf) := by
      subst hl
      simp [Extension.newHandFlow, herror, hrefused] at hnew
    have hresize (n : Nat) (buffer : List UInt8) (hl : l = .readStep)
        (hpc : e.pc = .moved n buffer) :
        RaisesXonIf True e (e.serialUpdateAndSwitchToNew n buffer) := by
      subst hl
      simp [Extension.newSize, hpc] at hsize
    have hrel : RaisesXonIf True e e' := (RaisesXonIf.callbackRule.step hstep (fun _ _ => id)
      (fun hl => absurd hl hisr) (RaisesXonIf.lowerRule.step hstep) hset
      (fun n b hl _ hpc => hresize n b hl hpc) haccounted).2
    exact h.of_raises hrel fun hstored hmode =>
      ⟨fun _ => (hraises hstored hmode).1 (by simpa using hisr), (hraises hstored hmode).2⟩

/-- The step that new handshaking is set up in does nothing else. -/
theorem step_newHandFlow {l : Label (Uart.Input U)} {e e' : Extension U} {new : HandFlow}
    (hstep : step l e = some e') (hnew : e.newHandFlow l = some new) :
    e' = e.serialSetHandFlow new := by
  unfold Extension.newHandFlow at hnew
  split at hnew
  · next hf =>
    split at hnew
    · cases hnew
    · next haccepted =>
      cases hnew
      simp only [Bool.or_eq_true, not_or, Bool.not_eq_true] at haccepted
      rw [(callback_of_step hstep).2.2]
      simp [Extension.callback, ioctlSimple, ioctlSetHandFlow, haccepted.1, haccepted.2]
  · cases hnew

/-- **Step lemma** for new handshaking. -/
theorem xonLow_newHandFlow {new : HandFlow} {e e' : Extension U} {l : Label (Uart.Input U)}
    (hstep : step l e = some e') (htimely : TimelyStep l e) (hnew : e.newHandFlow l = some new) :
    XonLow e' := by
  have hsafe := htimely.1 new hnew
  rw [arrivals_eq hstep] at hsafe
  cases step_newHandFlow hstep hnew
  obtain ⟨c, hcard⟩ : ∃ c, e.handFlowForCard new = { new with controlHandShake := c } := by
    unfold Extension.handFlowForCard
    split
    · exact ⟨_, rfl⟩
    · exact ⟨new.controlHandShake, rfl⟩
  have hset : e.serialSetHandFlow new =
      ((e.serialSetupNewHandFlow { new with controlHandShake := c }).serialHandleModemUpdate
        false).2 := by
    unfold serialSetHandFlow
    rw [hcard]
  rw [hset] at hsafe ⊢
  have hmodem : RaisesXonIf False (e.serialSetupNewHandFlow { new with controlHandShake := c }) _ :=
    RaisesXonIf.statusRule.serialHandleModemUpdate false _
  intro hmode
  rw [hmodem.autoReceive] at hmode
  rw [hmodem.mark, hmodem.xonLimit]
  obtain ⟨t, ht, hrefills, hxon⟩ := serialSetupNewHandFlow_xon { new with controlHandShake := c } hmode e
  have hsize : t.rx.bufferSize = e.rx.bufferSize := congrArg (·.2.2.2.2) hrefills.flowMarks
  obtain ⟨hlimits, hlow⟩ := hsafe hmode
  rw [ht] at hmodem hlow ⊢
  have hmark : (t.putHandFlow { new with controlHandShake := c }).mark =
      e.rx.bufferSize - new.xoffLimit := by
    rw [← hsize]
    rfl
  rw [hmark]
  refine ⟨hlimits, fun hraised => ?_⟩
  have hpending := hlow (hxon ((hmodem.xon hraised).resolve_right fun h => h.1))
  have hfill := hmodem.fill
  have hstored := hmodem.stored
  have hsetupFill : (t.putHandFlow { new with controlHandShake := c }).rx.ringFill +
      e.stored ≤ e.rx.ringFill + (t.putHandFlow { new with controlHandShake := c }).stored :=
    hrefills.fill
  have hsetupStored : e.stored ≤ (t.putHandFlow { new with controlHandShake := c }).stored :=
    hrefills.stored
  omega

theorem stored_serialHandleReducedIntBuffer (e : Extension U) :
    e.serialHandleReducedIntBuffer.stored = e.stored := by
  have hline (e : Extension U) : e.serialSetDtr.stored = e.stored := by
    unfold Extension.serialSetDtr
    split <;> rfl
  have hprod (e : Extension U) : (e.serialProdXonXoff true).stored = e.stored := by
    unfold Extension.serialProdXonXoff
    split <;> rfl
  have hdtr (e : Extension U) : e.releaseDtr.stored = e.stored :=
    rel_ite (R := fun e e' : Extension U => e'.stored = e.stored) (fun _ => hline _) (fun _ => rfl)
  have hrts (e : Extension U) : e.releaseRts.stored = e.stored :=
    rel_ite (R := fun e e' : Extension U => e'.stored = e.stored) (fun _ => rfl) (fun _ => rfl)
  have hxoff (e : Extension U) : e.releaseXoff.stored = e.stored :=
    rel_ite (R := fun e e' : Extension U => e'.stored = e.stored) (fun _ => hprod e) (fun _ => rfl)
  exact rel_ite (R := fun e e' : Extension U => e'.stored = e.stored)
    (fun _ => (hxoff _).trans ((hrts _).trans (hdtr e))) (fun _ => rfl)

/-- **Step lemma** for a new interrupt buffer, which comes with limits of its own. -/
theorem XonLow.newSize {size : Nat} {e e' : Extension U} {l : Label (Uart.Input U)} (h : XonLow e)
    (hreceiving : e.Receiving) (hstep : Extension.step l e = some e') (htimely : TimelyStep l e)
    (hsize : e.newSize l = some size) : XonLow e' := by
  have hbelow := htimely.2.1 size hsize
  unfold Extension.newSize at hsize
  split at hsize
  -- the new buffer takes over: the marks become an eighth and a half of it
  · next number buffer hpc =>
    cases hsize
    have hreceived : Received (.moved number buffer) e.reception := hpc ▸ hreceiving
    have hring : e.rx.readBufferBase = .ring := hreceived.ring_of_pc nofun nofun
    have hlength := (moved_moveToNew hreceived).2
    have hroom : e.rx.bufferSize < buffer.length := hreceived.phase.1
    -- nothing else may run between the pieces of a read
    cases fires_of_step hstep
    unfold serialStartReadStep
    rw [hpc]
    cases hread : e.current .read with
    | none => exact h
    | some r =>
      let installed := (e.installBuffer
        (e.moveToNew (e.rx.charsInInterruptBuffer - number) number buffer)).putHandFlow
          { e.handFlow with xoffLimit := buffer.length / 8, xonLimit := buffer.length / 2 }
      have hswitch : RaisesXonIf True installed (e.serialUpdateAndSwitchToNew number buffer) :=
        RaisesXonIf.serialHandleReducedIntBuffer installed
      have hnext : (e.serialUpdateAndSwitchToNew number buffer).nextRead.shared =
          (e.serialUpdateAndSwitchToNew number buffer).shared :=
        shared_serialGetNextRequest _ _ _ _
      have hstored : (e.serialUpdateAndSwitchToNew number buffer).nextRead.stored =
          installed.stored :=
        (congrArg (·.2.2) hnext).trans (stored_serialHandleReducedIntBuffer installed)
      have hmark : installed.mark = buffer.length - buffer.length / 8 :=
        congrArg (· - buffer.length / 8) hlength
      have hfill : installed.rx.ringFill = e.rx.ringFill := by
        have hcount : e.rx.ringFill = e.rx.charsInInterruptBuffer := by
          unfold Rx.ringFill
          rw [hring]
        exact hcount.symm
      -- the limits are in order for the new size
      have hinstalled : XonLow installed := fun hmode => by
        rw [hmark, hfill]
        refine ⟨?_, hbelow hmode⟩
        show buffer.length / 2 < _
        omega
      exact hinstalled.of_raises (hswitch.trans (.of_shared hnext)) fun hlt =>
        absurd hlt (by rw [hstored]; exact Nat.lt_irrefl _)
  · cases hsize

/-! ## Runs -/

/-- The law, and what it takes to know the size of a new interrupt buffer. -/
structure XonReady (e : Extension U) : Prop where
  disciplined : Disciplined e
  receiving : e.Receiving
  low : XonLow e

theorem XonReady.step {l : Label (Uart.Input U)} {e e' : Extension U} (h : XonReady e)
    (hstep : Extension.step l e = some e') (htimely : TimelyStep l e) : XonReady e' := by
  refine ⟨h.disciplined.step hstep, receiving_step h.receiving h.disciplined hstep, ?_⟩
  cases hnew : e.newHandFlow l with
  | some new => exact xonLow_newHandFlow hstep htimely hnew
  | none =>
    cases hsize : e.newSize l with
    | some size => exact h.low.newSize h.receiving hstep htimely hsize
    | none => exact h.low.step h.disciplined.accounted hstep htimely hnew hsize

/-- **The XON.** A pass that is timely sends it only while the buffer that the ISR fills is below the
mark. -/
theorem XonLow.below_mark {l : Label (Uart.Input U)} {e e' : Extension U} (h : XonLow e)
    (hstep : Extension.step l e = some e') (htimely : TimelyStep l e) :
    ∀ x ∈ e.xons l, x.handFlow.autoReceive = true → ¬x.handFlow.overMark x.rx := by
  intro x hx hmode
  cases l with
  | isr fuel =>
    have harrivals := arrivals_eq hstep
    cases fires_of_step hstep with
    | isr hpass =>
      obtain ⟨hbefore, hafter⟩ := (RaisesXonIf.isrRule (D := False)).rel_of_mem_serialIsrXons hx hpass
      -- the XON was pending when the pass began, and what came in since is part of the arrivals
      have hpending : e.tx.sendXonChar = true := by
        have hchosen := choosesXon_of_mem_serialIsrXons hx
        rw [choosesXon, Bool.and_eq_true] at hchosen
        exact (hbefore.xon hchosen.1).resolve_right fun h => h.1
      rw [hbefore.autoReceive] at hmode
      have hstored := hafter.stored
      have hstored' := hbefore.stored
      have hfill := hbefore.fill
      refine not_overMark_of_ringFill ?_
      show x.rx.ringFill < x.mark
      rw [hbefore.mark]
      by_cases hnone : e.stored = e'.stored
      · have hbelow := (h hmode).2 hpending
        omega
      · have hbelow := (htimely.2.2 rfl (by omega) hmode).2 hpending
        omega
  | _ => cases hx

omit [Uart U] in
theorem xonReady_opened (u : U) (cfg : Config) {size : Nat} (hsize : 0 < size) :
    XonReady (opened u cfg size) := by
  refine ⟨disciplined_opened _ cfg size, receiving_opened _ cfg hsize, fun _ => ⟨?_, nofun⟩⟩
  show size / 2 < size - size / 8
  omega

/-- **Run lemma.** -/
theorem xonReady_run {u : U} {cfg : Config} {size : Nat} {ls : List (Label (Uart.Input U))}
    {e : Extension U} (hsize : 0 < size) (hrun : run step ls (opened u cfg size) = some e)
    (htimely : RunMeets step TimelyStep ls (opened u cfg size)) : XonReady e :=
  run_invariant_of_meets (fun _ _ _ hstep htimely h => h.step hstep htimely) hrun htimely
    (xonReady_opened u cfg hsize)

/-- **No automatic XON over the mark.** In a run of timely steps the ISR sends the XON only while
the buffer that it fills is below the mark. -/
theorem xon_below_mark {u : U} {cfg : Config} {size : Nat} {ls : List (Label (Uart.Input U))}
    {l : Label (Uart.Input U)} {e e' : Extension U} (hsize : 0 < size)
    (hrun : run step ls (opened u cfg size) = some e)
    (htimely : RunMeets step TimelyStep ls (opened u cfg size)) (hstep : step l e = some e')
    (hlast : TimelyStep l e) :
    ∀ x ∈ e.xons l, x.handFlow.autoReceive = true → ¬x.handFlow.overMark x.rx :=
  (xonReady_run hsize hrun htimely).low.below_mark hstep hlast

instance (new : HandFlow) (e : Extension U) : Decidable (new.endsXoff e) :=
  inferInstanceAs (Decidable (_ ∧ _ ∧ _))

instance (l : Label (Uart.Input U)) (e : Extension U) : Decidable (TimelyStep l e) :=
  inferInstanceAs (Decidable (_ ∧ _ ∧ _))

/-- Six characters bring the buffer to the mark and the ISR sends the XOFF; a read that takes four
of them raises an XON. -/
def raiseXon : List (Label Chip.Input) :=
  [.callback (.setHandFlow ⟨0, 0x02, 2, 2⟩),
    .hardware (.receive ⟨1, 0⟩), .hardware (.receive ⟨2, 0⟩), .hardware (.receive ⟨3, 0⟩),
    .hardware (.receive ⟨4, 0⟩), .hardware (.receive ⟨5, 0⟩), .hardware (.receive ⟨6, 0⟩), .isr 9,
    .callback (.evtIoRead 4), .readStep, .readStep, .readStep, .readStep]

/-- With a character more the buffer is below the mark, and the XON goes out. -/
theorem xon_below_mark_raiseXon :
    ∃ e e' x, run step (raiseXon ++ [.hardware (.receive ⟨7, 0⟩), .hardware (.shift 1)])
        (opened (Board.start Chip.idle) .plain 8) = some e ∧
      step (.isr 9) e = some e' ∧ e.xons (.isr 9) = [x] ∧ ¬x.handFlow.overMark x.rx := by
  have hrun : (run step (raiseXon ++ [.hardware (.receive ⟨7, 0⟩), .hardware (.shift 1)])
      (opened (Board.start Chip.idle) .plain 8)).any (fun e => (step (.isr 9) e).isSome
        && (e.xons (.isr 9)).length == 1 && decide (TimelyStep (.isr 9) e)
        && (e.xons (.isr 9)).all (·.handFlow.autoReceive)) = true := by
    decide +kernel
  obtain ⟨e, he, hstate⟩ := (Option.any_eq_true _ _).mp hrun
  simp only [Bool.and_eq_true, beq_iff_eq, decide_eq_true_eq, List.all_eq_true] at hstate
  obtain ⟨⟨⟨hstep, hone⟩, hlast⟩, hmode⟩ := hstate
  obtain ⟨e', he'⟩ := Option.isSome_iff_exists.mp hstep
  obtain ⟨x, hx⟩ := List.length_eq_one_iff.mp hone
  have hmem : x ∈ e.xons (.isr 9) := hx ▸ List.mem_singleton_self x
  exact ⟨e, e', x, he, he', hx,
    xon_below_mark (by decide) he (by decide +kernel) he' hlast x hmem (hmode x hmem)⟩

/-- With four characters more the buffer is at the mark again. The XOFF bit of `RXHolding` is still
set, so that nothing takes the XON back. -/
theorem xon_over_mark :
    ¬∀ (ls : List (Label Chip.Input)) (l : Label Chip.Input) (e e' : Extension (Board Chip)),
      run step ls (opened (Board.start Chip.idle) .plain 8) = some e → step l e = some e' →
        ∀ x ∈ e.xons l, x.handFlow.autoReceive = true → ¬x.handFlow.overMark x.rx := by
  intro hall
  have hrun : (run step (raiseXon ++ [.hardware (.receive ⟨7, 0⟩), .hardware (.receive ⟨8, 0⟩),
      .hardware (.receive ⟨9, 0⟩), .hardware (.receive ⟨10, 0⟩), .hardware (.shift 1)])
      (opened (Board.start Chip.idle) .plain 8)).any (fun e => (step (.isr 9) e).isSome
        && (e.xons (.isr 9)).any fun x => x.handFlow.autoReceive
          && decide (x.handFlow.overMark x.rx)) = true := by
    decide +kernel
  obtain ⟨e, he, hstate⟩ := (Option.any_eq_true _ _).mp hrun
  simp only [Bool.and_eq_true, List.any_eq_true, decide_eq_true_eq] at hstate
  obtain ⟨hstep, x, hx, hmode, hover⟩ := hstate
  obtain ⟨e', he'⟩ := Option.isSome_iff_exists.mp hstep
  exact hall _ _ e e' he he' x hx hmode hover

end SerialFc
