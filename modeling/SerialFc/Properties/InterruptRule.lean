import SerialFc.Properties.StatusRule

/-!
# What code under the interrupt lock can do

A property of the ISR, or of the routines for flow control that share its lock, is proved by giving
a relation between the state before and the state after and checking it for the routines of
`LockRule`. For a relation that is about few fields it is enough to check the primitive changes of
`InterruptRule`.
-/

namespace SerialFc

open Extension

variable {U : Type} [Uart U] {R : Extension U → Extension U → Prop}

/-! ## Where the ISR writes XON -/

namespace Extension

/-- The transmit case has come to the choice of what to send. -/
def readyToSend (e : Extension U) : Extension U :=
  (e.setHoldingEmpty true).setEmptiedTransmit.updateBeforeTransmit

/-- XON is what comes first, unless something other than XOFF holds transmission. -/
def choosesXon (e : Extension U) : Bool := e.tx.sendXonChar && !e.tx.txHolding.anyButXoff

/-- The state in which the transmit case writes `XonChar`, if it does. -/
def transmitXons (e : Extension U) : List (Extension U) :=
  if e.toSend && e.readyToSend.choosesXon then [e.readyToSend] else []

/-- The states in which this case sends an XON. -/
def isrCaseXons (interruptIdReg : UInt8) (e : Extension U) : List (Extension U) :=
  if interruptIdReg &&& iirCauses = iirThr then e.transmitXons else []

/-- The states in which the turns of the loop send one. -/
def isrLoopXons : Nat → Extension U → List (Extension U)
  | 0, _ => []
  | n + 1, e =>
    let iir := e.readReg .iir
    let lsr := iir.2.serialProcessLsr
    if !has iir.1 iirNoInterruptPending then
      iir.2.isrCaseXons iir.1 ++ (iir.2.isrCase n iir.1).elim [] (isrLoopXons n)
    else if lsr.2.mustTransmit lsr.1 then lsr.2.transmitXons ++ isrLoopXons n lsr.2.transmit
    else []

/-- The states in which a pass of the ISR writes `XonChar`. -/
def serialIsrXons (fuel : Nat) (e : Extension U) : List (Extension U) :=
  let iir := e.readReg .iir
  if has iir.1 iirNoInterruptPending then []
  else iir.2.isrCaseXons iir.1 ++ (iir.2.isrCase fuel iir.1).elim [] (isrLoopXons fuel)

end Extension

/-! ## The rules -/

/-- `R` contains the routines that the ISR is put together from, but for the one that sends XON. -/
structure SendRule (R : Extension U → Extension U → Prop) : Prop extends StatusRule R where
  emptied : ∀ e, R e e.setEmptiedTransmit
  transmitXoff : ∀ e, e.tx.sendXoffChar = true → e.tx.txHolding.any = false → R e e.transmitXoff
  transmitImmediateChar : ∀ e, e.tx.transmitImmediate = true →
    (!e.tx.txHolding.any || e.tx.txHolding.onlyXoff) = true → R e e.transmitImmediateChar
  transmitData : ∀ e, e.tx.writeLength ≠ 0 → e.tx.txHolding.any = false → R e e.transmitData

/-- `R` contains the routines that the ISR is put together from. -/
structure IsrRule (R : Extension U → Extension U → Prop) : Prop extends SendRule R where
  transmitXon : ∀ e, e.tx.sendXonChar = true → e.tx.txHolding.anyButXoff = false →
    R e e.transmitXon

/-- `R` contains the routines that the flow control of I/O controls, DPCs and reads is put together
from. -/
structure ControlRule (R : Extension U → Extension U → Prop) : Prop extends StatusRule R where
  lowerRts : ∀ e, R e (e.addTryingToLowerRts 1).serialPerhapsLowerRts
  raiseRtsInToggle : ∀ e, R e e.raiseRtsInToggle
  serialTurnOnBreak : ∀ e, R e e.serialTurnOnBreak
  stopBreak : ∀ e, e.tx.txHolding.brk = true →
    R e ((e.updateReg .lcr (· &&& ~~~lcrBreak)).setTxBreak false)
  serialHandleReducedIntBuffer : ∀ e, R e e.serialHandleReducedIntBuffer
  emptyEvent : ∀ e, has32 e.ev.isrWaitMask evTxEmpty = true →
    R e (e.addHistory evTxEmpty).answerWaitIfWaiting

/-- `R` contains all code under the interrupt lock. -/
structure LockRule (R : Extension U → Extension U → Prop) : Prop extends IsrRule R, ControlRule R

namespace SendRule

variable (h : SendRule R)
include h

/-! ## Transmission -/

/-- Only the branch of XON is left open. -/
theorem transmitNext (e : Extension U) (hsend : e.toSend = true)
    (hxon : e.choosesXon = true → R e e.transmitXon) : R e e.transmitNext := by
  refine rel_ite hxon fun hxon => rel_ite (fun hxoff => ?_)
    fun hxoff => rel_ite (fun himm => ?_) fun himm => rel_ite (fun hfree => ?_) fun _ => h.refl e
  · simp only [Bool.and_eq_true, Bool.not_eq_true'] at hxoff
    exact h.transmitXoff e hxoff.1 hxoff.2
  · rw [Bool.and_eq_true] at himm
    exact h.transmitImmediateChar e himm.1 himm.2
  · exact h.transmitData e (writeLength_ne_zero_of_toSend hsend hxon hxoff himm hfree)
      (by simpa using hfree)

/-- The modem status is read before anything is sent. -/
theorem updateBeforeTransmit (e : Extension U) : R e e.updateBeforeTransmit :=
  rel_ite (fun _ => h.serialHandleModemUpdate true e) (fun _ => h.refl e)

theorem readyToSend (e : Extension U) : R e e.readyToSend :=
  h.trans (h.holdingEmpty e true) (h.trans (h.emptied _) (h.updateBeforeTransmit _))

/-- The transmit case, given what its XON does. -/
theorem transmit (e : Extension U) (hxon : ∀ x ∈ e.transmitXons, R x x.transmitXon) :
    R e e.transmit := by
  refine rel_ite (fun hsend => ?_) fun _ => h.holdingEmpty e true
  refine h.trans (h.readyToSend e) (h.transmitNext _ (toSend_updateBeforeTransmit _ hsend) ?_)
  intro hchosen
  exact hxon _ (by simp [transmitXons, hsend, hchosen])

/-! ## The whole routine -/

theorem isrCase {n : Nat} {iir : UInt8} {e e' : Extension U} (hrun : e.isrCase n iir = some e')
    (hxon : ∀ x ∈ e.isrCaseXons iir, R x x.transmitXon) : R e e' := by
  simp only [Extension.isrCase] at hrun
  split at hrun
  · cases hrun; exact h.serialProcessLsr e
  · split at hrun
    · exact h.receiveLoop hrun
    · split at hrun
      · next hthr =>
        cases hrun
        exact h.transmit e fun x hx => hxon x (by rwa [isrCaseXons, if_pos hthr])
      · split at hrun
        · cases hrun; exact h.serialHandleModemUpdate false e
        · cases hrun; exact h.refl e

/-- By induction on the turns. -/
theorem isrLoop {n : Nat} {e e' : Extension U} (hrun : e.isrLoop n = some e')
    (hxon : ∀ x ∈ e.isrLoopXons n, R x x.transmitXon) : R e e' := by
  induction n generalizing e with
  | zero => cases hrun
  | succ n ih =>
    have hiir : R e (e.readReg .iir).2 := h.readReg e .iir
    have hlsr := h.trans hiir (h.serialProcessLsr (e.readReg .iir).2)
    simp only [Extension.isrLoop] at hrun
    simp only [isrLoopXons] at hxon
    split at hrun
    · next hpending =>
      obtain ⟨e₁, hcase, hrest⟩ := Option.bind_eq_some_iff.mp hrun
      rw [if_pos hpending, hcase] at hxon
      exact h.trans hiir (h.trans
        (h.isrCase hcase fun x hx => hxon x (List.mem_append_left _ hx))
        (ih hrest fun x hx => hxon x (List.mem_append_right _ hx)))
    · next hnone =>
      rw [if_neg hnone] at hxon
      split at hrun
      · next hmust =>
        rw [if_pos hmust] at hxon
        exact h.trans hlsr (h.trans
          (h.transmit _ fun x hx => hxon x (List.mem_append_left _ hx))
          (ih hrun fun x hx => hxon x (List.mem_append_right _ hx)))
      · cases hrun; exact hlsr

/-- **The ISR** is put together from these routines, and from sending XON in the states in which it
does. -/
theorem serialIsr {n : Nat} {e e' : Extension U} (hrun : e.serialIsr n = some e')
    (hxon : ∀ x ∈ e.serialIsrXons n, R x x.transmitXon) : R e e' := by
  have hiir : R e (e.readReg .iir).2 := h.readReg e .iir
  simp only [Extension.serialIsr] at hrun
  simp only [serialIsrXons] at hxon
  split at hrun
  · cases hrun; exact hiir
  · next hpending =>
    obtain ⟨e₁, hcase, hrest⟩ := Option.bind_eq_some_iff.mp hrun
    rw [if_neg hpending, hcase] at hxon
    exact h.trans hiir (h.trans
      (h.isrCase hcase fun x hx => hxon x (List.mem_append_left _ hx))
      (h.isrLoop hrest fun x hx => hxon x (List.mem_append_right _ hx)))

end SendRule

/-! ## The states in which XON is sent -/

theorem choosesXon_of_mem_transmitXons {e x : Extension U} (hx : x ∈ e.transmitXons) :
    x = e.readyToSend ∧ x.choosesXon = true := by
  unfold transmitXons at hx
  split at hx
  · next hsend =>
    obtain rfl := List.mem_singleton.mp hx
    simp only [Bool.and_eq_true] at hsend
    exact ⟨rfl, hsend.2⟩
  · cases hx

theorem mem_transmitXons_of_isrCaseXons {iir : UInt8} {e x : Extension U}
    (hx : x ∈ e.isrCaseXons iir) : x ∈ e.transmitXons := by
  unfold isrCaseXons at hx
  split at hx
  · exact hx
  · cases hx

theorem choosesXon_of_mem_isrLoopXons {n : Nat} {e x : Extension U} (hx : x ∈ e.isrLoopXons n) :
    x.choosesXon = true := by
  induction n generalizing e with
  | zero => cases hx
  | succ n ih =>
    simp only [isrLoopXons] at hx
    split at hx
    · rcases List.mem_append.mp hx with hcase | hrest
      · exact (choosesXon_of_mem_transmitXons (mem_transmitXons_of_isrCaseXons hcase)).2
      · cases hrun : (e.readReg .iir).2.isrCase n (e.readReg .iir).1 with
        | none => rw [hrun] at hrest; cases hrest
        | some e₁ => rw [hrun] at hrest; exact ih hrest
    · split at hx
      · rcases List.mem_append.mp hx with hnow | hrest
        · exact (choosesXon_of_mem_transmitXons hnow).2
        · exact ih hrest
      · cases hx

/-- Whenever the pass sends an XON, one was pending and free to go. -/
theorem choosesXon_of_mem_serialIsrXons {n : Nat} {e x : Extension U}
    (hx : x ∈ e.serialIsrXons n) : x.choosesXon = true := by
  simp only [serialIsrXons] at hx
  split at hx
  · cases hx
  · rcases List.mem_append.mp hx with hcase | hrest
    · exact (choosesXon_of_mem_transmitXons (mem_transmitXons_of_isrCaseXons hcase)).2
    · cases hrun : (e.readReg .iir).2.isrCase n (e.readReg .iir).1 with
      | none => rw [hrun] at hrest; cases hrest
      | some e₁ => rw [hrun] at hrest; exact choosesXon_of_mem_isrLoopXons hrest

namespace IsrRule

variable (h : IsrRule R)
include h

/-- The branch of XON, which the relation contains. -/
theorem sendsXon (e : Extension U) (hxon : e.choosesXon = true) : R e e.transmitXon := by
  simp only [choosesXon, Bool.and_eq_true, Bool.not_eq_true'] at hxon
  exact h.transmitXon e hxon.1 hxon.2

theorem transmit (e : Extension U) : R e e.transmit :=
  h.toSendRule.transmit e fun x hx => h.sendsXon x (choosesXon_of_mem_transmitXons hx).2

theorem isrCase {n : Nat} {iir : UInt8} {e e' : Extension U} (hrun : e.isrCase n iir = some e') :
    R e e' :=
  h.toSendRule.isrCase hrun fun x hx =>
    h.sendsXon x (choosesXon_of_mem_transmitXons (mem_transmitXons_of_isrCaseXons hx)).2

theorem isrLoop {n : Nat} {e e' : Extension U} (hrun : e.isrLoop n = some e') : R e e' :=
  h.toSendRule.isrLoop hrun fun x hx => h.sendsXon x (choosesXon_of_mem_isrLoopXons hx)

/-- What leads to the XON, and what follows it. -/
theorem rel_of_mem_transmitXons {e x : Extension U} (hx : x ∈ e.transmitXons) :
    R e x ∧ R x e.transmit := by
  obtain ⟨rfl, hxon⟩ := choosesXon_of_mem_transmitXons hx
  refine ⟨h.readyToSend e, ?_⟩
  unfold transmitXons at hx
  split at hx
  · next hsend =>
    simp only [Bool.and_eq_true] at hsend
    have hready : e.readyToSend.toSend = true := toSend_updateBeforeTransmit _ hsend.1
    unfold Extension.transmit
    rw [if_pos hsend.1]
    exact h.toSendRule.transmitNext _ hready (h.sendsXon _)
  · cases hx

theorem rel_of_mem_isrCaseXons {n : Nat} {iir : UInt8} {e x e' : Extension U}
    (hx : x ∈ e.isrCaseXons iir) (hrun : e.isrCase n iir = some e') : R e x ∧ R x e' := by
  obtain ⟨hbefore, hafter⟩ := h.rel_of_mem_transmitXons (mem_transmitXons_of_isrCaseXons hx)
  refine ⟨hbefore, ?_⟩
  unfold isrCaseXons at hx
  split at hx
  · next hthr =>
    have hcase : e.isrCase n iir = some e.transmit := by
      simp only [Extension.isrCase, hthr]
      rfl
    cases hcase.symm.trans hrun
    exact hafter
  · cases hx

/-- The states in which XON is sent lie between the ends of the loop. -/
theorem rel_of_mem_isrLoopXons {n : Nat} {e x e' : Extension U} (hx : x ∈ e.isrLoopXons n)
    (hrun : e.isrLoop n = some e') : R e x ∧ R x e' := by
  induction n generalizing e with
  | zero => cases hrun
  | succ n ih =>
    have hiir : R e (e.readReg .iir).2 := h.readReg e .iir
    have hlsr := h.trans hiir (h.serialProcessLsr (e.readReg .iir).2)
    simp only [Extension.isrLoop] at hrun
    simp only [isrLoopXons] at hx
    split at hrun
    · next hpending =>
      obtain ⟨e₁, hcase, hrest⟩ := Option.bind_eq_some_iff.mp hrun
      rw [if_pos hpending, hcase] at hx
      rcases List.mem_append.mp hx with hnow | hlater
      · obtain ⟨hbefore, hafter⟩ := h.rel_of_mem_isrCaseXons hnow hcase
        exact ⟨h.trans hiir hbefore, h.trans hafter (h.isrLoop hrest)⟩
      · obtain ⟨hbefore, hafter⟩ := ih hlater hrest
        exact ⟨h.trans hiir (h.trans (h.isrCase hcase) hbefore), hafter⟩
    · next hnone =>
      rw [if_neg hnone] at hx
      split at hrun
      · next hmust =>
        rw [if_pos hmust] at hx
        rcases List.mem_append.mp hx with hnow | hlater
        · obtain ⟨hbefore, hafter⟩ := h.rel_of_mem_transmitXons hnow
          exact ⟨h.trans hlsr hbefore, h.trans hafter (h.isrLoop hrun)⟩
        · obtain ⟨hbefore, hafter⟩ := ih hlater hrun
          exact ⟨h.trans hlsr (h.trans (h.transmit _) hbefore), hafter⟩
      · next hmust =>
        rw [if_neg hmust] at hx
        cases hx

/-- What the pass did before an XON, and what it did from there on. -/
theorem rel_of_mem_serialIsrXons {n : Nat} {e x e' : Extension U} (hx : x ∈ e.serialIsrXons n)
    (hrun : e.serialIsr n = some e') : R e x ∧ R x e' := by
  have hiir : R e (e.readReg .iir).2 := h.readReg e .iir
  simp only [Extension.serialIsr] at hrun
  simp only [serialIsrXons] at hx
  split at hrun
  · next hnone =>
    rw [if_pos hnone] at hx
    cases hx
  · next hpending =>
    obtain ⟨e₁, hcase, hrest⟩ := Option.bind_eq_some_iff.mp hrun
    rw [if_neg hpending, hcase] at hx
    rcases List.mem_append.mp hx with hnow | hlater
    · obtain ⟨hbefore, hafter⟩ := h.rel_of_mem_isrCaseXons hnow hcase
      exact ⟨h.trans hiir hbefore, h.trans hafter (h.isrLoop hrest)⟩
    · obtain ⟨hbefore, hafter⟩ := h.rel_of_mem_isrLoopXons hlater hrest
      exact ⟨h.trans hiir (h.trans (h.isrCase hcase) hbefore), hafter⟩

/-- **The ISR** is put together from these routines. -/
theorem serialIsr {n : Nat} {e e' : Extension U} (hrun : e.serialIsr n = some e') : R e e' :=
  h.toSendRule.serialIsr hrun fun x hx => h.sendsXon x (choosesXon_of_mem_serialIsrXons hx)

end IsrRule

namespace ControlRule

variable (h : ControlRule R)
include h

/-! ## Flow control -/

theorem restartTransmit (e : Extension U) : R e e.restartTransmit :=
  rel_ite (fun _ => h.retickle e) (fun _ => h.refl e)

/-- The break ends and transmission may go on. -/
theorem serialTurnOffBreak (e : Extension U) : R e e.serialTurnOffBreak := by
  have hrestart : ∀ e, R e (restartOrLowerRts e) := fun e =>
    rel_ite (fun _ => h.retickle e) (fun _ => h.lowerRts e)
  exact rel_ite (fun hbrk => h.trans (h.stopBreak e hbrk) (hrestart _)) (fun _ => h.refl e)

/-- An XOFF that did not come over the line. -/
theorem serialPretendXoff (e : Extension U) : R e e.serialPretendXoff :=
  h.trans (h.setTxXoff true e) (h.toggleTimer _)

theorem serialPretendXon (e : Extension U) : R e e.serialPretendXon :=
  rel_ite (fun _ => h.trans (h.setTxXoff false e) (h.restartTransmit _)) (fun _ => h.refl e)

/-- The transmitter has run empty. -/
theorem serialProcessEmptyTransmit (e : Extension U) : R e e.serialProcessEmptyTransmit := by
  refine rel_ite (fun hempty => ?_) (fun _ => h.refl e)
  simp only [Bool.and_eq_true] at hempty
  exact h.trans (h.emptyEvent e hempty.1.1.1.1) (h.lowerRts _)

/-- Two relations at once. -/
theorem and {R' : Extension U → Extension U → Prop} (h' : ControlRule R') :
    ControlRule fun e e' => R e e' ∧ R' e e' where
  toStatusRule := h.toStatusRule.and h'.toStatusRule
  lowerRts e := ⟨h.lowerRts e, h'.lowerRts e⟩
  raiseRtsInToggle e := ⟨h.raiseRtsInToggle e, h'.raiseRtsInToggle e⟩
  serialTurnOnBreak e := ⟨h.serialTurnOnBreak e, h'.serialTurnOnBreak e⟩
  stopBreak e hb := ⟨h.stopBreak e hb, h'.stopBreak e hb⟩
  serialHandleReducedIntBuffer e :=
    ⟨h.serialHandleReducedIntBuffer e, h'.serialHandleReducedIntBuffer e⟩
  emptyEvent e he := ⟨h.emptyEvent e he, h'.emptyEvent e he⟩

end ControlRule

/-! ## Primitive changes -/

/-- `R` contains every primitive change that flow control makes. -/
structure FlowRule (R : Extension U → Extension U → Prop) : Prop extends PutRule R where
  handFlow : ∀ e hf, R e (e.putHandFlow hf)

/-- `R` contains every primitive change that code under the interrupt lock makes. -/
structure InterruptRule (R : Extension U → Extension U → Prop) : Prop extends FlowRule R where
  writeData : ∀ e v, R e (e.writeReg .data v)
  fillFscc : ∀ e, R e e.fastcomGetTxFifoFillFscc.2
  emptied : ∀ e, R e e.setEmptiedTransmit
  logSpecial : ∀ e w, (∃ b, w = .xon b ∨ w = .xoff b) → R e (e.logWire w)
  xonSent : ∀ e, R e e.xonSent
  xoffSent : ∀ e, R e e.xoffSent
  immediateSent : ∀ e, e.tx.transmitImmediate = true → R e e.immediateSent
  advanceWrite : ∀ e n, e.tx.writeLength ≠ 0 → n ≤ e.tx.writeLength → R e (e.advanceWrite n)

namespace FlowRule

variable (h : FlowRule R)
include h

/-- In toggle mode RTS goes down when nothing is left to send. -/
theorem serialPerhapsLowerRts (e : Extension U) : R e e.serialPerhapsLowerRts := by
  have hlower : ∀ status e, R e (lowerRtsOrRetry status e) := fun _ e =>
    rel_ite (fun _ => h.serialClrRts e) (fun _ => h.insertStartTimerLowerRts e)
  have htry : R e e.tryToLowerRts :=
    rel_ite (fun _ => h.trans (h.statusRule.serialProcessLsr e) (hlower _ _)) (fun _ => h.refl e)
  exact h.trans htry (h.tryingToLowerRts _ _)

theorem raiseRtsInToggle (e : Extension U) : R e e.raiseRtsInToggle :=
  rel_ite (fun _ => h.serialSetRts e) (fun _ => h.refl e)

theorem serialTurnOnBreak (e : Extension U) : R e e.serialTurnOnBreak :=
  h.trans (h.raiseRtsInToggle e) (h.trans (h.updateReg _ (by decide) (by decide) _) (h.txHolding _ _))

theorem serialHandleReducedIntBuffer (e : Extension U) : R e e.serialHandleReducedIntBuffer := by
  have hdtr : ∀ e, R e (releaseDtr e) := fun e =>
    rel_ite (fun _ => h.trans (h.rxHolding e _) (h.serialSetDtr _)) (fun _ => h.refl e)
  have hrts : ∀ e, R e (releaseRts e) := fun e =>
    rel_ite (fun _ => h.trans (h.rxHolding e _) (h.serialSetRts _)) (fun _ => h.refl e)
  have hxoff : ∀ e, R e (releaseXoff e) := fun e =>
    rel_ite (fun _ => h.serialProdXonXoff e true) (fun _ => h.refl e)
  exact rel_ite (fun _ => h.trans (hdtr e) (h.trans (hrts _) (hxoff _))) (fun _ => h.refl e)

/-- The parts of `SerialSetupNewHandFlow`, one for each line or character. -/
theorem setupDtr (new : HandFlow) (e : Extension U) : R e (e.setupDtr new) := by
  have hrelease : R e ((e.setRxDtr false).serialSetDtr) :=
    h.trans (h.rxHolding e _) (h.serialSetDtr _)
  have hshake : R e (e.setupDtrHandshake new) :=
    rel_ite (fun _ => rel_ite (fun _ => rel_ite (fun _ => hrelease) (fun _ => h.refl e))
      (fun _ => h.serialSetDtr e)) (fun _ => h.trans (h.rxHolding e _) (h.serialClrDtr _))
  exact rel_ite (fun _ => rel_ite (fun _ => rel_ite (fun _ => hshake) (fun _ => hrelease))
    (fun _ => h.trans (h.rxHolding e _) (h.serialClrDtr _))) (fun _ => h.refl e)

theorem setupToggle (e : Extension U) : R e e.setupToggle := by
  have hraise : ∀ status e, R e (raiseOrLowerRts status e) := fun _ e =>
    rel_ite (fun _ => h.serialSetRts e)
      (fun _ => h.trans (h.tryingToLowerRts e 1) (h.serialPerhapsLowerRts _))
  exact rel_ite (fun _ => h.serialSetRts e)
    (fun _ => h.trans (h.statusRule.serialProcessLsr e) (hraise _ _))

theorem setupRts (new : HandFlow) (e : Extension U) : R e (e.setupRts new) := by
  have hrelease : R e ((e.setRxRts false).serialSetRts) :=
    h.trans (h.rxHolding e _) (h.serialSetRts _)
  have hshake : R e (e.setupRtsHandshake new) :=
    rel_ite (fun _ => rel_ite (fun _ => rel_ite (fun _ => hrelease) (fun _ => h.refl e))
      (fun _ => h.serialSetRts e)) (fun _ => h.trans (h.rxHolding e _) (h.serialClrRts _))
  have htoggle : R e ((e.setRxRts false).enterToggle.setupToggle) :=
    h.trans (h.rxHolding e _) (h.trans (h.handFlow _ _) (h.setupToggle _))
  exact rel_ite (fun _ => rel_ite (fun _ => hshake) fun _ => rel_ite (fun _ => hrelease) fun _ =>
    rel_ite (fun _ => htoggle) (fun _ => h.trans (h.rxHolding e _) (h.serialClrRts _)))
    (fun _ => h.refl e)

theorem setupAutoReceive (new : HandFlow) (e : Extension U) : R e (e.setupAutoReceive new) :=
  rel_ite (fun _ => rel_ite
    (fun _ => rel_ite (fun _ => h.refl e)
      (fun _ => h.trans (h.rxHolding e _) (h.serialProdXonXoff _ _)))
    (fun _ => rel_ite (fun _ => h.trans (h.rxHolding e _) (h.serialProdXonXoff _ _))
      (fun _ => h.refl e))) (fun _ => h.refl e)

theorem setupAutoTransmit (new : HandFlow) (e : Extension U) : R e (e.setupAutoTransmit new) :=
  rel_ite (fun _ => h.trans (h.txHolding e _) (h.serialProdXonXoff _ _)) (fun _ => h.refl e)

/-- New handshaking. -/
theorem serialSetHandFlow (new : HandFlow) (e : Extension U) : R e (e.serialSetHandFlow new) :=
  h.trans (h.setupDtr _ e) (h.trans (h.setupRts _ _) (h.trans (h.setupAutoReceive _ _)
    (h.trans (h.setupAutoTransmit _ _) (h.trans (h.handFlow _ _)
      (h.statusRule.serialHandleModemUpdate false _)))))

/-- Relations that contain the primitives contain the routines. -/
theorem controlRule : ControlRule R where
  toStatusRule := h.statusRule
  lowerRts e := h.trans (h.tryingToLowerRts e 1) (h.serialPerhapsLowerRts _)
  raiseRtsInToggle := h.raiseRtsInToggle
  serialTurnOnBreak := h.serialTurnOnBreak
  stopBreak e _ := h.trans (h.updateReg e (by decide) (by decide) _) (h.txHolding _ _)
  serialHandleReducedIntBuffer := h.serialHandleReducedIntBuffer
  emptyEvent e _ := h.trans (h.addHistory e _) (h.answerWaitIfWaiting _)

end FlowRule

/-! ## Writing to the holding register -/

/-- `R` contains what writing to the holding register is put together from. -/
structure WriteRule (R : Extension U → Extension U → Prop) : Prop where
  refl : ∀ e, R e e
  trans : ∀ {a b c}, R a b → R b c → R a c
  serialSetRts : ∀ e, e.handFlow.transmitToggle = true → R e e.serialSetRts
  addTransmitted : ∀ n e, R e (e.addTransmitted n)
  data : ∀ e v, R e (e.writeReg .data v)
  spr : ∀ e v, R e (e.writeReg .spr v)
  insertStartTimerLowerRts : ∀ e, R e e.insertStartTimerLowerRts
  txtrg : ∀ e, R e (e.readReg .txtrg).2
  fillFscc : ∀ e, R e e.fastcomGetTxFifoFillFscc.2

namespace WriteRule

variable (h : WriteRule R)
include h

theorem writeSpecial (c : UInt8) (e : Extension U) : R e (e.writeSpecial c) :=
  rel_ite (fun htoggle => h.trans (h.serialSetRts e htoggle) (h.trans (h.addTransmitted 1 _)
    (h.trans (h.data _ _) (h.insertStartTimerLowerRts _))))
    (fun _ => h.trans (h.addTransmitted 1 e) (h.data _ _))

/-- One byte after the other. -/
theorem writeTransmitFifo (bytes : List UInt8) (e : Extension U) :
    R e (e.writeTransmitFifo bytes) := by
  induction bytes generalizing e with
  | nil => exact h.refl e
  | cons b bytes ih => exact h.trans (h.data e b) (ih _)

theorem writeChunk (mark : UInt8) (bytes : List UInt8) (e : Extension U) :
    R e (e.writeChunk mark bytes) := by
  induction bytes generalizing e mark with
  | nil => exact h.refl e
  | cons b bytes ih =>
    have hspr : R e (e.writeSpr mark) := rel_ite (fun _ => h.spr e mark) (fun _ => h.refl e)
    exact h.trans hspr (h.trans (h.data _ b) (ih 0 _))

theorem writeBytes (bytes : List UInt8) (e : Extension U) : R e (e.writeBytes bytes) :=
  rel_ite (fun htoggle => h.trans (h.serialSetRts e htoggle) (h.trans (h.addTransmitted _ _)
    (h.trans (h.writeTransmitFifo bytes _) (h.insertStartTimerLowerRts _))))
    (fun _ => h.trans (h.addTransmitted _ e) (h.writeChunk 1 bytes _))

/-- Asking the chip for room changes no field. -/
theorem amountToWrite (e : Extension U) : R e e.amountToWrite.2 := by
  have hspace : R e e.fastcomGetTxFifoSpace.2 := by
    unfold Extension.fastcomGetTxFifoSpace
    split
    · exact h.txtrg e
    · exact h.txtrg e
    · exact h.fillFscc e
    · exact h.refl e
  unfold Extension.amountToWrite
  split
  · exact hspace
  · exact h.refl e

end WriteRule

namespace InterruptRule

variable (h : InterruptRule R)
include h

/-- What the ISR sends in one execution of the transmit case. -/
theorem writeRule : WriteRule R where
  refl := h.refl
  trans := h.trans
  serialSetRts e _ := h.serialSetRts e
  addTransmitted n e := h.events e _ rfl rfl
  data := h.writeData
  spr e v := h.writeReg e .spr v (by decide) (by decide)
  insertStartTimerLowerRts := h.insertStartTimerLowerRts
  txtrg e := h.readReg e .txtrg
  fillFscc := h.fillFscc

/-- XON goes out, and XOFF no longer holds either side. -/
theorem transmitXon (e : Extension U) : R e e.transmitXon :=
  h.trans (h.writeRule.writeSpecial _ e) (h.trans (h.logSpecial _ _ ⟨_, Or.inl rfl⟩) (h.xonSent _))

theorem transmitXoff (e : Extension U) : R e e.transmitXoff := by
  have hhold : ∀ e, R e (holdAfterXoff e) := fun e =>
    rel_ite (fun _ => h.refl e) (fun _ => h.trans (h.txHolding e _) (h.statusRule.toggleTimer _))
  exact h.trans (h.writeRule.writeSpecial _ e) (h.trans (h.logSpecial _ _ ⟨_, Or.inr rfl⟩)
    (h.trans (hhold _) (h.xoffSent _)))

/-- The current write goes on. -/
theorem transmitData (e : Extension U) (hlen : e.tx.writeLength ≠ 0) : R e e.transmitData := by
  have hsame : (e.amountToWrite.2.writeBytes
      (e.tx.writeCurrentChar.take e.amountToWrite.1)).tx.writeLength = e.tx.writeLength := by
    rw [writeLength_writeBytes, tx_amountToWrite]
  exact h.trans (h.writeRule.amountToWrite e) (h.trans (h.writeRule.writeBytes _ _)
    (h.advanceWrite _ _ (by rw [hsame]; exact hlen) (by rw [hsame]; exact amountToWrite_le hlen)))

theorem transmitImmediateChar (e : Extension U) (himm : e.tx.transmitImmediate = true) :
    R e e.transmitImmediateChar :=
  h.trans (h.writeRule.writeSpecial _ e)
    (h.immediateSent _ (by rw [transmitImmediate_writeSpecial]; exact himm))

/-- Relations that contain the primitives contain the routines. -/
theorem lockRule : LockRule R where
  toControlRule := h.controlRule
  emptied := h.emptied
  transmitXon e _ _ := h.transmitXon e
  transmitXoff e _ _ := h.transmitXoff e
  transmitImmediateChar e himm _ := h.transmitImmediateChar e himm
  transmitData e hlen _ := h.transmitData e hlen

end InterruptRule

end SerialFc
