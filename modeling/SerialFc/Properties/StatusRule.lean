import SerialFc.Model.FlowControl

/-!
# What storing characters and processing a status can do

The routines that store a character or process a line or modem status are put together from a few
smaller ones, each with one concern: an event, a hold reason, a line. A relation between the state
before and the state after that contains these, and is reflexive and transitive, therefore contains
every such routine.

* `CharRule`, `StoreRule`, `StatusRule` — the smaller routines
* `PutRule` — the primitive changes that they are made of, which is all that many relations need
* `serialHandleModemUpdate_eq` — the routine satisfies the equation of the source, in which it and
  `SerialPutChar` call each other
-/

namespace SerialFc

open Extension

/-- A test, and what either outcome leads to. -/
theorem rel_ite {α : Type*} {R : α → α → Prop} {c : Prop} [Decidable c] {e a b : α}
    (ha : c → R e a) (hb : ¬c → R e b) : R e (if c then a else b) := by
  split
  · next h => exact ha h
  · next h => exact hb h

variable {U : Type} [Uart U]

/-- The wait mask, what has happened and where it is to be reported. -/
def Events.masks (ev : Events) : UInt32 × UInt32 × Bool :=
  (ev.isrWaitMask, ev.historyMask, ev.irpMaskLocation)

/-- `R` contains the routines for storing characters and for modem status. -/
structure CharRule (R : Extension U → Extension U → Prop) : Prop where
  refl : ∀ e, R e e
  trans : ∀ {a b c}, R a b → R b c → R a c
  readMsr : ∀ e, R e (e.readReg .msr).2
  counters : ∀ e ev, ev.masks = e.ev.masks → R e { e with ev := ev }
  raise80Full : ∀ e, R e e.raise80Full
  modemEvents : ∀ status e, R e (e.modemEvents status)
  abortOnError : ∀ e, R e e.abortOnError
  holds : ∀ e, R e e.holdDtr.holdRts.holdXoff
  storeInRing : ∀ e c, e.rx.readBufferBase = .ring →
    e.rx.charsInInterruptBuffer < e.rx.bufferSize → R e (e.holdDtr.holdRts.holdXoff.putRing c)
  overwriteLast : ∀ e, e.rx.readBufferBase = .ring →
    ¬e.rx.charsInInterruptBuffer < e.rx.bufferSize → R e e.overwriteLast
  countXoff : ∀ e, R e e.countXoff
  storeUser : ∀ e c, e.rx.readBufferBase = .user → R e (e.storeUser c)
  followDsr : ∀ status e, R e (e.followDsr status)
  modemHolding : ∀ b old status e, R e (e.modemHolding b old status)

/-- `R` contains the routines for storing characters and for line and modem status. -/
structure StoreRule (R : Extension U → Extension U → Prop) : Prop where
  refl : ∀ e, R e e
  trans : ∀ {a b c}, R a b → R b c → R a c
  readReg : ∀ e r, R e (e.readReg r).2
  retickle : ∀ e, R e e.retickle
  counters : ∀ e ev, ev.masks = e.ev.masks → R e { e with ev := ev }
  raise80Full : ∀ e, R e e.raise80Full
  receiveEvents : ∀ c e, R e (e.receiveEvents c)
  lsrEvents : ∀ status e, R e (e.lsrEvents status)
  modemEvents : ∀ status e, R e (e.modemEvents status)
  insertStartTimerLowerRts : ∀ e, R e e.insertStartTimerLowerRts
  abortOnError : ∀ e, R e e.abortOnError
  holdingEmpty : ∀ e b, R e (e.setHoldingEmpty b)
  holds : ∀ e, R e e.holdDtr.holdRts.holdXoff
  storeInRing : ∀ e c, e.rx.readBufferBase = .ring →
    e.rx.charsInInterruptBuffer < e.rx.bufferSize → R e (e.holdDtr.holdRts.holdXoff.putRing c)
  overwriteLast : ∀ e, e.rx.readBufferBase = .ring →
    ¬e.rx.charsInInterruptBuffer < e.rx.bufferSize → R e e.overwriteLast
  countXoff : ∀ e, R e e.countXoff
  storeUser : ∀ e c, e.rx.readBufferBase = .user → R e (e.storeUser c)
  followDsr : ∀ status e, R e (e.followDsr status)
  modemHolding : ∀ b old status e, R e (e.modemHolding b old status)

/-- `R` contains what becomes of an XON or XOFF that has come in as well. -/
structure StatusRule (R : Extension U → Extension U → Prop) : Prop extends StoreRule R where
  setTxXoff : ∀ b e, R e (e.setTxXoff b)

/-! ## The input handshakes leave the interrupt buffer alone -/

/-- Holding the sender off changes the hold reasons only, whichever mechanism it is. -/
theorem rx_holdDtr (e : Extension U) :
    e.holdDtr.rx = { e.rx with rxHolding := e.holdDtr.rx.rxHolding } := by
  unfold Extension.holdDtr Extension.serialClrDtr
  split
  · split <;> rfl
  · rfl

theorem rx_holdRts (e : Extension U) :
    e.holdRts.rx = { e.rx with rxHolding := e.holdRts.rx.rxHolding } := by
  unfold Extension.holdRts
  split <;> rfl

theorem rx_serialProdXonXoff (e : Extension U) (b : Bool) : (e.serialProdXonXoff b).rx = e.rx := by
  unfold Extension.serialProdXonXoff
  split <;> rfl

theorem rx_holdXoff (e : Extension U) :
    e.holdXoff.rx = { e.rx with rxHolding := e.holdXoff.rx.rxHolding } := by
  unfold Extension.holdXoff
  split
  · rw [rx_serialProdXonXoff]; rfl
  · rfl

/-- So do the three together. -/
theorem rx_holds (e : Extension U) : e.holdDtr.holdRts.holdXoff.rx =
    { e.rx with rxHolding := e.holdDtr.holdRts.holdXoff.rx.rxHolding } := by
  rw [rx_holdXoff, rx_holdRts, rx_holdDtr]

namespace CharRule

variable {R : Extension U → Extension U → Prop} (h : CharRule R)
include h

/-! ## Storing a character -/

/-- A character that finds the interrupt buffer full: it is counted, and overwrites the last one if
that is asked for. -/
theorem overrun (e : Extension U) (hb : e.rx.readBufferBase = .ring)
    (hfull : ¬e.rx.charsInInterruptBuffer < e.rx.bufferSize) : R e e.overrun := by
  have hcount : R e e.countBufferOverrun := h.counters e _ rfl
  have hover : R e.countBufferOverrun e.countBufferOverrun.overwriteIfErrorChar :=
    rel_ite (fun _ => h.overwriteLast _ hb hfull) (fun _ => h.refl _)
  exact h.trans hcount (h.trans hover (h.abortOnError _))

/-- The sender is held off first, then the character is stored or dropped. -/
theorem storeRing (e : Extension U) (c : UInt8) (hb : e.rx.readBufferBase = .ring) :
    R e (e.storeRing c) := by
  have hring : e.holdDtr.holdRts.holdXoff.rx.readBufferBase = .ring := by
    rw [rx_holds]; exact hb
  refine rel_ite (fun hlt => ?_) fun hfull => ?_
  · rw [rx_holds] at hlt
    exact h.trans (h.storeInRing e c hb hlt) (h.raise80Full _)
  · exact h.trans (h.holds e) (h.overrun _ hring hfull)

/-- The character goes where the ISR is pointed. -/
theorem deliver (e : Extension U) (c : UInt8) : R e (e.deliver c) := by
  refine rel_ite (fun hb => h.storeUser e c hb) fun hb => h.storeRing e c ?_
  cases he : e.rx.readBufferBase with
  | ring => rfl
  | user => exact absurd he hb

/-- An XOFF counter counts the character whether it is stored or not. -/
theorem storeChar (e : Extension U) (c : UInt8) : R e (e.storeChar c) :=
  h.trans (h.countXoff e) (h.deliver _ c)

theorem storeUnlessDsr (e : Extension U) (c : UInt8) : R e (e.storeUnlessDsr c) :=
  rel_ite (fun _ => h.refl e) (fun _ => h.storeChar e c)

/-! ## `SerialPutChar` and `SerialHandleModemUpdate` -/

/-- `SerialPutChar`, whatever is called for the modem status. -/
theorem putCharWith {update : Extension U → Extension U} (hu : ∀ e, R e (update e)) (c : UInt8)
    (e : Extension U) : R e (e.putCharWith update c) :=
  rel_ite (fun _ => h.trans (hu e) (h.storeUnlessDsr _ c)) (fun _ => h.storeChar e c)

/-- The three bytes that report a modem status in the data. -/
theorem insertMst {put : UInt8 → Extension U → Extension U} (hp : ∀ c e, R e (put c e))
    (status : UInt8) (e : Extension U) : R e (e.insertMst put status) :=
  rel_ite (fun _ => h.trans (hp _ e) (h.trans (hp _ _) (hp _ _))) (fun _ => h.refl e)

/-- `SerialHandleModemUpdate`, whatever is called for the characters. -/
theorem modemUpdateWith {put : UInt8 → Extension U → Extension U} (hp : ∀ c e, R e (put c e))
    (b : Bool) (e : Extension U) : R e (e.modemUpdateWith put b).2 :=
  h.trans (h.readMsr e) (h.trans (h.insertMst hp _ _)
    (h.trans (h.followDsr _ _) (h.trans (h.modemEvents _ _) (h.modemHolding _ _ _ _))))

/-- By induction on the changes that are left: each of the two routines calls the other one. -/
theorem handleModemUpdateN (n : Nat) (b : Bool) (e : Extension U) :
    R e (e.handleModemUpdateN n b).2 := by
  induction n generalizing b e with
  | zero => exact h.modemUpdateWith (fun _ e => h.refl e) b e
  | succ n ih => exact h.modemUpdateWith (h.putCharWith (ih false)) b e

/-- `SerialHandleModemUpdate`, for as many changes as the chip can show. -/
theorem serialHandleModemUpdate (b : Bool) (e : Extension U) :
    R e (e.serialHandleModemUpdate b).2 := h.handleModemUpdateN _ b e

theorem serialPutChar (c : UInt8) (e : Extension U) : R e (e.serialPutChar c) :=
  h.putCharWith (h.serialHandleModemUpdate false) c e

end CharRule

namespace StoreRule

variable {R : Extension U → Extension U → Prop} (h : StoreRule R)
include h

/-- What is asked of line status comprises what is asked of characters. -/
theorem charRule : CharRule R where
  refl := h.refl
  trans := h.trans
  readMsr := fun e => h.readReg e .msr
  counters := h.counters
  raise80Full := h.raise80Full
  modemEvents := h.modemEvents
  abortOnError := h.abortOnError
  holds := h.holds
  storeInRing := h.storeInRing
  overwriteLast := h.overwriteLast
  countXoff := h.countXoff
  storeUser := h.storeUser
  followDsr := h.followDsr
  modemHolding := h.modemHolding

theorem serialHandleModemUpdate (b : Bool) (e : Extension U) :
    R e (e.serialHandleModemUpdate b).2 := h.charRule.serialHandleModemUpdate b e

theorem serialPutChar (c : UInt8) (e : Extension U) : R e (e.serialPutChar c) :=
  h.charRule.serialPutChar c e

/-! ## Line status and reception -/

theorem readReceiveBuffer (e : Extension U) : R e e.readReceiveBuffer.2 :=
  h.trans (h.counters e { e.ev with receivedCount := e.ev.receivedCount + 1 } rfl)
    (h.readReg _ .data)

theorem putIfData (status : UInt8) (e : Extension U) : R e (e.putIfData status) :=
  rel_ite (fun _ => h.trans (h.readReceiveBuffer e) (h.serialPutChar _ _)) (fun _ => h.refl e)

/-- The bytes that report a line status in the data, with the character it is about. -/
theorem insertLsr (status : UInt8) (e : Extension U) : R e (e.insertLsr status) :=
  rel_ite (fun _ => h.trans (h.serialPutChar _ e) (h.trans (h.serialPutChar _ _)
    (h.trans (h.serialPutChar _ _) (h.putIfData _ _)))) (fun _ => h.refl e)

/-- The error character is stored in place of the one in RBR. -/
theorem replaceByErrorChar (status : UInt8) (e : Extension U) :
    R e (e.replaceByErrorChar status) :=
  h.trans (h.serialPutChar _ e) (rel_ite (fun _ => h.readReceiveBuffer _) (fun _ => h.refl _))

theorem replaceIfErrorChar (status : UInt8) (e : Extension U) :
    R e (e.replaceIfErrorChar status) :=
  rel_ite (fun _ => h.replaceByErrorChar _ e) (fun _ => h.refl e)

/-- Each error of LSR is one case, and leaves the other ones to be looked at. -/
theorem lsrOverrun (status : UInt8) (e : Extension U) : R e (e.lsrOverrun status) := by
  have hcount : R e e.countOverrunError := h.counters e _ rfl
  exact rel_ite (fun _ => rel_ite (fun _ => h.trans hcount (h.replaceByErrorChar _ _))
    (fun _ => h.trans hcount (h.putIfData _ _))) (fun _ => h.refl e)

theorem lsrParity (status : UInt8) (e : Extension U) : R e (e.lsrParity status) := by
  have hcount : R e e.countParityError := h.counters e _ rfl
  exact rel_ite (fun _ => h.trans hcount (h.replaceIfErrorChar status _)) (fun _ => h.refl e)

theorem lsrFraming (status : UInt8) (e : Extension U) : R e (e.lsrFraming status) := by
  have hcount : R e e.countFrameError := h.counters e _ rfl
  exact rel_ite (fun _ => h.trans hcount (h.replaceIfErrorChar status _)) (fun _ => h.refl e)

theorem putBreakChar (e : Extension U) : R e e.putBreakChar :=
  rel_ite (fun _ => h.serialPutChar _ e) (fun _ => h.refl e)

/-- A break hides the errors of parity and framing. -/
theorem lsrBreakOrError (status : UInt8) (e : Extension U) : R e (e.lsrBreakOrError status) := by
  have herror : R e (e.addError 0x01) := h.counters e _ rfl
  exact rel_ite (fun _ => h.trans herror (h.putBreakChar _))
    (fun _ => h.trans (h.lsrParity status e) (h.lsrFraming status _))

/-- A transmit interrupt that reading LSR may have hidden is made to come again. -/
theorem lsrRestart (status : UInt8) (e : Extension U) : R e (e.lsrRestart status) :=
  rel_ite (fun _ => h.retickle e) (fun _ => h.refl e)

/-- The cases of `SerialProcessLSR` that deal with an error. -/
theorem lsrErrors (status : UInt8) (e : Extension U) : R e (e.lsrErrors status) :=
  h.trans (h.insertLsr status e) (h.trans (h.lsrOverrun status _)
    (h.trans (h.lsrBreakOrError status _) (h.trans (h.abortOnError _)
      (h.trans (h.lsrEvents status _) (h.lsrRestart status _)))))

theorem processLineStatus (status : UInt8) (e : Extension U) : R e (e.processLineStatus status) :=
  rel_ite (fun _ => h.trans (h.holdingEmpty e _) (h.lsrErrors status _))
    (fun _ => h.holdingEmpty e _)

/-- `SerialProcessLSR` -/
theorem serialProcessLsr (e : Extension U) : R e e.serialProcessLsr.2 :=
  h.trans (h.readReg e .lsr) (h.processLineStatus _ _)

/-- In toggle mode RTS is to go down once the chip has sent everything. -/
theorem toggleTimer (e : Extension U) : R e e.toggleTimer :=
  rel_ite (fun _ => h.insertStartTimerLowerRts e) (fun _ => h.refl e)

end StoreRule

namespace StatusRule

variable {R : Extension U → Extension U → Prop} (h : StatusRule R)
include h

/-- An XON or XOFF that has come in. -/
theorem receiveFlowChar (c : UInt8) (e : Extension U) : R e (e.receiveFlowChar c) :=
  rel_ite (fun _ => h.trans (h.setTxXoff true e) (h.toggleTimer _)) (fun _ => h.setTxXoff false e)

theorem putNinthBit (b : UInt8) (e : Extension U) : R e (e.putNinthBit b) :=
  rel_ite (fun _ => h.serialPutChar _ e) (fun _ => h.refl e)

theorem putEscaped (c : UInt8) (e : Extension U) : R e (e.putEscaped c) :=
  rel_ite (fun _ => h.serialPutChar _ e) (fun _ => h.refl e)

/-- What becomes of a received character. -/
theorem receiveChar (c b : UInt8) (e : Extension U) : R e (e.receiveChar c b) :=
  rel_ite (fun _ => h.refl e) fun _ => rel_ite (fun _ => h.receiveFlowChar c e) fun _ =>
    h.trans (h.receiveEvents c e) (h.trans (h.serialPutChar c _)
      (h.trans (h.putNinthBit b _) (h.putEscaped c _)))

theorem readNinthBit (e : Extension U) : R e e.readNinthBit.2 := by
  unfold Extension.readNinthBit
  split
  · exact h.readReg e .lsr
  · exact h.refl e

/-- One round of the receive loop, up to the line status. -/
theorem receiveOne (e : Extension U) : R e e.receiveOne :=
  h.trans (h.readNinthBit e) (h.trans (h.readReceiveBuffer _) (h.receiveChar _ _ _))

/-- The registers that tell that the card is gone. -/
theorem uartRemoved (e : Extension U) : R e e.uartRemoved.2 := by
  unfold Extension.uartRemoved
  split
  · exact h.readReg e .iir
  · exact h.refl e

/-- By induction on the rounds. -/
theorem receiveLoop {n : Nat} {e e' : Extension U} (hrun : e.receiveLoop n = some e') : R e e' := by
  induction n generalizing e with
  | zero => cases hrun
  | succ n ih =>
    have hone : R e e.receiveOne.uartRemoved.2 := h.trans (h.receiveOne e) (h.uartRemoved _)
    have hlsr := h.trans hone (h.serialProcessLsr e.receiveOne.uartRemoved.2)
    simp only [Extension.receiveLoop] at hrun
    split at hrun
    · cases hrun; exact hone
    · split at hrun
      · cases hrun; exact hlsr
      · split at hrun
        · cases hrun; exact hlsr
        · exact h.trans hlsr (ih hrun)

end StatusRule

section
variable {R R' : Extension U → Extension U → Prop}

/-- Two relations at once. -/
theorem StatusRule.and (h : StatusRule R) (h' : StatusRule R') :
    StatusRule fun e e' => R e e' ∧ R' e e' where
  refl e := ⟨h.refl e, h'.refl e⟩
  trans hab hbc := ⟨h.trans hab.1 hbc.1, h'.trans hab.2 hbc.2⟩
  readReg e r := ⟨h.readReg e r, h'.readReg e r⟩
  retickle e := ⟨h.retickle e, h'.retickle e⟩
  counters e ev hev := ⟨h.counters e ev hev, h'.counters e ev hev⟩
  raise80Full e := ⟨h.raise80Full e, h'.raise80Full e⟩
  receiveEvents c e := ⟨h.receiveEvents c e, h'.receiveEvents c e⟩
  lsrEvents s e := ⟨h.lsrEvents s e, h'.lsrEvents s e⟩
  modemEvents s e := ⟨h.modemEvents s e, h'.modemEvents s e⟩
  insertStartTimerLowerRts e := ⟨h.insertStartTimerLowerRts e, h'.insertStartTimerLowerRts e⟩
  abortOnError e := ⟨h.abortOnError e, h'.abortOnError e⟩
  holdingEmpty e b := ⟨h.holdingEmpty e b, h'.holdingEmpty e b⟩
  holds e := ⟨h.holds e, h'.holds e⟩
  storeInRing e c hr hlt := ⟨h.storeInRing e c hr hlt, h'.storeInRing e c hr hlt⟩
  overwriteLast e hr hlt := ⟨h.overwriteLast e hr hlt, h'.overwriteLast e hr hlt⟩
  countXoff e := ⟨h.countXoff e, h'.countXoff e⟩
  storeUser e c hu := ⟨h.storeUser e c hu, h'.storeUser e c hu⟩
  followDsr s e := ⟨h.followDsr s e, h'.followDsr s e⟩
  modemHolding b old s e := ⟨h.modemHolding b old s e, h'.modemHolding b old s e⟩
  setTxXoff b e := ⟨h.setTxXoff b e, h'.setTxXoff b e⟩

/-- A larger relation that can be composed. -/
theorem StatusRule.mono (h : StatusRule R) (himp : ∀ e e', R e e' → R' e e')
    (htrans : ∀ {a b c}, R' a b → R' b c → R' a c) : StatusRule R' where
  refl e := himp _ _ (h.refl e)
  trans := htrans
  readReg e r := himp _ _ (h.readReg e r)
  retickle e := himp _ _ (h.retickle e)
  counters e ev hev := himp _ _ (h.counters e ev hev)
  raise80Full e := himp _ _ (h.raise80Full e)
  receiveEvents c e := himp _ _ (h.receiveEvents c e)
  lsrEvents s e := himp _ _ (h.lsrEvents s e)
  modemEvents s e := himp _ _ (h.modemEvents s e)
  insertStartTimerLowerRts e := himp _ _ (h.insertStartTimerLowerRts e)
  abortOnError e := himp _ _ (h.abortOnError e)
  holdingEmpty e b := himp _ _ (h.holdingEmpty e b)
  holds e := himp _ _ (h.holds e)
  storeInRing e c hr hlt := himp _ _ (h.storeInRing e c hr hlt)
  overwriteLast e hr hlt := himp _ _ (h.overwriteLast e hr hlt)
  countXoff e := himp _ _ (h.countXoff e)
  storeUser e c hu := himp _ _ (h.storeUser e c hu)
  followDsr s e := himp _ _ (h.followDsr s e)
  modemHolding b old s e := himp _ _ (h.modemHolding b old s e)
  setTxXoff b e := himp _ _ (h.setTxXoff b e)

end

/-! ## Primitive changes -/

/-- `R` contains everything that storing a character or processing a status can do. -/
structure PutRule (R : Extension U → Extension U → Prop) : Prop where
  refl : ∀ e, R e e
  trans : ∀ {a b c}, R a b → R b c → R a c
  readReg : ∀ e r, R e (e.readReg r).2
  writeReg : ∀ e r v, r ≠ .data → r ≠ .lsr → R e (e.writeReg r v)
  events : ∀ e ev, ev.irpMaskLocation = e.ev.irpMaskLocation →
    ev.isrWaitMask = e.ev.isrWaitMask → R e { e with ev := ev }
  txHolding : ∀ e h, R e (e.putHolding h)
  holdingEmpty : ∀ e b, R e (e.setHoldingEmpty b)
  special : ∀ e b, R e (e.setSpecial b)
  rxHolding : ∀ e h, R e (e.putRxHolding h)
  tryingToLowerRts : ∀ e n, R e (e.addTryingToLowerRts n)
  insertDpc : ∀ e d, d = .startTimerLowerRts ∨ d = .commError →
    R e (e.serialInsertQueueDpc d)
  answerWait : ∀ e, e.ev.irpMaskLocation = true → R e e.answerWait
  countXoff : ∀ e, R e e.countXoff
  storeUser : ∀ e c, e.rx.readBufferBase = .user → R e (e.storeUser c)
  putRing : ∀ e c, e.rx.readBufferBase = .ring →
    e.rx.charsInInterruptBuffer < e.rx.bufferSize → R e (e.putRing c)
  overwriteLast : ∀ e, e.rx.readBufferBase = .ring →
    ¬e.rx.charsInInterruptBuffer < e.rx.bufferSize → R e e.overwriteLast

variable {R : Extension U → Extension U → Prop}

namespace PutRule

variable (h : PutRule R)
include h

/-! ## Registers and lines -/

/-- The interrupts are switched off and on. -/
theorem retickle (e : Extension U) : R e e.retickle :=
  h.trans (h.writeReg _ .ier 0 (by decide) (by decide))
    (h.writeReg _ .ier ierAll (by decide) (by decide))

/-- A register is read and written back. Neither the data register nor the one of ICR is changed so.
-/
theorem updateReg (e : Extension U) {r : Reg} (hd : r ≠ .data) (hl : r ≠ .lsr)
    (f : UInt8 → UInt8) : R e (e.updateReg r f) :=
  h.trans (h.readReg e r) (h.writeReg _ _ _ hd hl)

/-- Some cards use DTR for RS-485, and leave it alone here. -/
theorem serialSetDtr (e : Extension U) : R e e.serialSetDtr :=
  rel_ite (fun _ => h.refl e) (fun _ => h.updateReg e (by decide) (by decide) _)

theorem serialClrDtr (e : Extension U) : R e e.serialClrDtr :=
  rel_ite (fun _ => h.refl e) (fun _ => h.updateReg e (by decide) (by decide) _)

theorem serialSetRts (e : Extension U) : R e e.serialSetRts := h.updateReg e (by decide) (by decide) _

theorem serialClrRts (e : Extension U) : R e e.serialClrRts := h.updateReg e (by decide) (by decide) _

/-- `SerialProdXonXoff` -/
theorem serialProdXonXoff (e : Extension U) (b : Bool) : R e (e.serialProdXonXoff b) :=
  rel_ite (fun _ => h.trans (h.retickle e) (h.special _ b)) (fun _ => h.special e b)

theorem insertStartTimerLowerRts (e : Extension U) : R e e.insertStartTimerLowerRts :=
  rel_ite (fun _ => h.refl e) fun _ =>
    h.trans (h.insertDpc e _ (Or.inl rfl)) (h.tryingToLowerRts _ 1)

/-! ## Events -/

theorem addHistory (e : Extension U) (m : UInt32) : R e (e.addHistory m) := h.events e _ rfl rfl

/-- An event that is waited for is latched. -/
theorem addEvent (e : Extension U) (m : UInt32) (b : Bool) : R e (e.addEvent m b) :=
  rel_ite (fun _ => h.addHistory e m) (fun _ => h.refl e)

/-- The wait is answered if something has happened that it is for. -/
theorem answerWaitIfDue (e : Extension U) : R e e.answerWaitIfDue :=
  rel_ite (fun hd => h.answerWait e (by simp at hd; exact hd.1)) (fun _ => h.refl e)

theorem answerWaitIfWaiting (e : Extension U) : R e e.answerWaitIfWaiting :=
  rel_ite (fun hd => h.answerWait e hd) (fun _ => h.refl e)

/-- With `SERIAL_ERROR_ABORT` an error aborts the requests, in a DPC. -/
theorem abortOnError (e : Extension U) : R e e.abortOnError :=
  rel_ite (fun _ => h.insertDpc e _ (Or.inr rfl)) (fun _ => h.refl e)

/-! ## Storing a character -/

/-- Storing a character may fill the buffer to four fifths. -/
theorem raise80Full (e : Extension U) : R e e.raise80Full :=
  rel_ite (fun _ => h.trans (h.addHistory e _) (h.answerWaitIfWaiting _)) (fun _ => h.refl e)

/-- Each mechanism holds the sender off if it is switched on and the buffer has reached the mark. -/
theorem holdDtr (e : Extension U) : R e e.holdDtr :=
  rel_ite (fun _ => h.trans (h.rxHolding e _) (h.serialClrDtr _)) (fun _ => h.refl e)

theorem holdRts (e : Extension U) : R e e.holdRts :=
  rel_ite (fun _ => h.trans (h.rxHolding e _) (h.serialClrRts _)) (fun _ => h.refl e)

theorem holdXoff (e : Extension U) : R e e.holdXoff :=
  rel_ite (fun _ => h.trans (h.rxHolding e _) (h.serialProdXonXoff _ _)) (fun _ => h.refl e)


/-- The events that changes of the modem lines are. -/
theorem modemEvents (status : UInt8) (e : Extension U) : R e (e.modemEvents status) :=
  rel_ite (fun _ => h.trans (h.addEvent e _ _) (h.trans (h.addEvent _ _ _)
    (h.trans (h.addEvent _ _ _) (h.trans (h.addEvent _ _ _) (h.answerWaitIfDue _)))))
    (fun _ => h.refl e)

theorem restartTransmit (e : Extension U) : R e e.restartTransmit :=
  rel_ite (fun _ => h.retickle e) (fun _ => h.refl e)

/-- When transmission comes to be held, RTS is to go down. -/
theorem toggleOnHold (old : TxHolding) (e : Extension U) : R e (e.toggleOnHold old) :=
  rel_ite (fun _ => h.insertStartTimerLowerRts e) (fun _ => h.refl e)

/-- When nothing holds transmission any more, it goes on. -/
theorem restartOnRelease (b : Bool) (old : TxHolding) (e : Extension U) :
    R e (e.restartOnRelease b old) :=
  rel_ite (fun _ => h.restartTransmit e) (fun _ => h.refl e)

/-- The hold reasons follow the modem lines. -/
theorem modemHolding (b : Bool) (old : TxHolding) (status : UInt8) (e : Extension U) :
    R e (e.modemHolding b old status) := by
  refine rel_ite (fun _ => ?_) fun _ => rel_ite (fun _ => ?_) fun _ => h.refl e
  · exact h.trans (h.txHolding e _) (h.trans (h.toggleOnHold old _) (h.restartOnRelease b old _))
  · exact h.trans (h.txHolding e _) (h.restartOnRelease b old _)

theorem lsrEvents (status : UInt8) (e : Extension U) : R e (e.lsrEvents status) :=
  rel_ite (fun _ => h.trans (h.addEvent e _ _) (h.trans (h.addEvent _ _ _)
    (h.answerWaitIfDue _))) (fun _ => h.refl e)

theorem receiveEvents (c : UInt8) (e : Extension U) : R e (e.receiveEvents c) :=
  rel_ite (fun _ => h.trans (h.addEvent e _ _) (h.trans (h.addEvent _ _ _)
    (h.answerWaitIfDue _))) (fun _ => h.refl e)


/-- Relations that contain the primitives contain the routines. -/
theorem statusRule : StatusRule R where
  refl := h.refl
  trans := h.trans
  readReg := h.readReg
  retickle := h.retickle
  counters e ev hev := by
    simp only [Events.masks, Prod.mk.injEq] at hev
    exact h.events e ev hev.2.2 hev.1
  raise80Full := h.raise80Full
  receiveEvents := h.receiveEvents
  lsrEvents := h.lsrEvents
  modemEvents := h.modemEvents
  insertStartTimerLowerRts := h.insertStartTimerLowerRts
  abortOnError := h.abortOnError
  holdingEmpty := h.holdingEmpty
  holds e := h.trans (h.holdDtr e) (h.trans (h.holdRts _) (h.holdXoff _))
  storeInRing e c hring hlt := by
    refine h.trans (h.trans (h.holdDtr e) (h.trans (h.holdRts _) (h.holdXoff _)))
      (h.putRing _ c ?_ ?_)
    · rw [rx_holds]; exact hring
    · rw [rx_holds]; exact hlt
  overwriteLast := h.overwriteLast
  countXoff := h.countXoff
  storeUser := h.storeUser
  followDsr status e := h.rxHolding e _
  modemHolding := h.modemHolding
  setTxXoff b e := h.txHolding e _

end PutRule

/-! ## What is to be sent stays -/

/-- Nothing that is waiting to be sent gets lost, and the write and the immediate character stay. -/
def KeepsToSend (e e' : Extension U) : Prop :=
  e'.tx.writeLength = e.tx.writeLength ∧ e'.tx.writeCurrentChar = e.tx.writeCurrentChar ∧
    e'.tx.transmitImmediate = e.tx.transmitImmediate ∧
    (e.toSend = true → e'.toSend = true)

section
omit [Uart U]

/-- An XOFF counter has a field of its own. -/
theorem tx_countXoff (e : Extension U) :
    e.countXoff.tx = { e.tx with countSinceXoff := e.tx.countSinceXoff - 1 } := by
  unfold countXoff
  split
  · next h =>
    have hsame : e.tx.countSinceXoff - 1 = e.tx.countSinceXoff := by omega
    rw [hsame]
  · split
    · next h =>
      show ((e.setCountSinceXoff 0).modifyCurrent .xoff _).tx = _
      rw [tx_modifyCurrent, h]; rfl
    · rfl

theorem tx_storeUser (e : Extension U) (c : UInt8) : (e.storeUser c).tx = e.tx := by
  unfold storeUser
  split
  · show ((e.putUser c).resetRing.modifyCurrent .read _).tx = e.tx
    rw [tx_modifyCurrent]
    exact tx_modifyCurrent _ _ _
  · exact tx_modifyCurrent _ _ _

/-- Routines that leave the transmission state alone have nothing to lose. -/
theorem keepsToSend_of_tx {e e' : Extension U} (h : e'.tx = e.tx) : KeepsToSend e e' := by
  unfold KeepsToSend toSend
  rw [h]
  exact ⟨rfl, rfl, rfl, id⟩

/-- The counter is not something to send. -/
theorem keepsToSend_countXoff (e : Extension U) : KeepsToSend e e.countXoff := by
  unfold KeepsToSend toSend
  rw [tx_countXoff]
  exact ⟨rfl, rfl, rfl, id⟩

theorem tx_insertStartTimerLowerRts (e : Extension U) : e.insertStartTimerLowerRts.tx =
    { e.tx with
      countOfTryingToLowerRts := e.insertStartTimerLowerRts.tx.countOfTryingToLowerRts } := by
  unfold insertStartTimerLowerRts
  split <;> rfl

/-- When the choice falls on data there is data. -/
theorem writeLength_ne_zero_of_toSend {e : Extension U} (h : e.toSend = true)
    (hxon : ¬(e.tx.sendXonChar && !e.tx.txHolding.anyButXoff) = true)
    (hxoff : ¬(e.tx.sendXoffChar && !e.tx.txHolding.any) = true)
    (himm : ¬(e.tx.transmitImmediate &&
      (!e.tx.txHolding.any || e.tx.txHolding.onlyXoff)) = true)
    (hfree : (!e.tx.txHolding.any) = true) : e.tx.writeLength ≠ 0 := by
  have hbut : e.tx.txHolding.anyButXoff = false := by
    simp only [TxHolding.any, TxHolding.anyButXoff] at hfree ⊢
    revert hfree
    cases e.tx.txHolding.cts <;> cases e.tx.txHolding.dsr <;> cases e.tx.txHolding.dcd <;>
      cases e.tx.txHolding.brk <;> simp
  simp_all [toSend]

end

/-- Storing characters and processing a status lose nothing that is to be sent. -/
theorem keepsToSend_putRule : PutRule (U := U) KeepsToSend where
  refl e := keepsToSend_of_tx rfl
  trans hab hbc := ⟨hbc.1.trans hab.1, hbc.2.1.trans hab.2.1, hbc.2.2.1.trans hab.2.2.1,
    fun h => hbc.2.2.2 (hab.2.2.2 h)⟩
  readReg _ _ := keepsToSend_of_tx rfl
  writeReg _ _ _ _ _ := keepsToSend_of_tx rfl
  events _ _ _ _ := keepsToSend_of_tx rfl
  txHolding _ _ := ⟨rfl, rfl, rfl, id⟩
  holdingEmpty _ _ := ⟨rfl, rfl, rfl, id⟩
  special e b := ⟨rfl, rfl, rfl, fun _ => by cases b <;> simp [setSpecial, toSend]⟩
  rxHolding _ _ := keepsToSend_of_tx rfl
  tryingToLowerRts _ _ := ⟨rfl, rfl, rfl, id⟩
  insertDpc _ _ _ := keepsToSend_of_tx rfl
  answerWait _ _ := keepsToSend_of_tx (tx_modifyCurrent _ _ _)
  countXoff e := keepsToSend_countXoff e
  storeUser e c _ := keepsToSend_of_tx (tx_storeUser e c)
  putRing _ _ _ _ := keepsToSend_of_tx rfl
  overwriteLast _ _ _ := keepsToSend_of_tx rfl

/-- What made the ISR transmit is still there after the modem status. -/
theorem toSend_updateBeforeTransmit (e : Extension U) (h : e.toSend = true) :
    e.updateBeforeTransmit.toSend = true := by
  unfold updateBeforeTransmit
  split
  · exact (keepsToSend_putRule.statusRule.serialHandleModemUpdate true e).2.2.2 h
  · exact h

/-! Writing to the chip does not move the write. -/

theorem tx_writeTransmitFifo (bytes : List UInt8) (e : Extension U) :
    (e.writeTransmitFifo bytes).tx = e.tx := by
  induction bytes generalizing e with
  | nil => rfl
  | cons b bytes ih => exact ih _

theorem tx_writeSpr (v : UInt8) (e : Extension U) : (e.writeSpr v).tx = e.tx := by
  unfold writeSpr
  split <;> rfl

/-- Nor do the mark and the bytes of a chunk. -/
theorem tx_writeChunk (mark : UInt8) (bytes : List UInt8) (e : Extension U) :
    (e.writeChunk mark bytes).tx = e.tx := by
  induction bytes generalizing e mark with
  | nil => rfl
  | cons b bytes ih =>
    show (writeChunk 0 bytes _).tx = e.tx
    rw [ih]
    exact tx_writeSpr mark e

theorem tx_fastcomGetTxFifoSpace (e : Extension U) : e.fastcomGetTxFifoSpace.2.tx = e.tx := by
  unfold fastcomGetTxFifoSpace
  split <;> rfl

/-- Nor does asking the card for its fill level. -/
theorem tx_amountToWrite (e : Extension U) : e.amountToWrite.2.tx = e.tx := by
  unfold amountToWrite
  split
  · exact tx_fastcomGetTxFifoSpace e
  · rfl

/-- No more is written than is left of the write. -/
theorem amountToWrite_le {e : Extension U} (h : e.tx.writeLength ≠ 0) :
    e.amountToWrite.1 ≤ e.tx.writeLength := by
  unfold amountToWrite
  split
  · exact Nat.min_le_right _ _
  · show 1 ≤ _
    omega

theorem writeLength_writeBytes (bytes : List UInt8) (e : Extension U) :
    (e.writeBytes bytes).tx.writeLength = e.tx.writeLength := by
  unfold writeBytes
  split
  · rw [tx_insertStartTimerLowerRts]
    show (writeTransmitFifo bytes _).tx.writeLength = _
    rw [tx_writeTransmitFifo]; rfl
  · rw [tx_writeChunk]; rfl

theorem transmitImmediate_writeSpecial (c : UInt8) (e : Extension U) :
    (e.writeSpecial c).tx.transmitImmediate = e.tx.transmitImmediate := by
  unfold writeSpecial
  split
  · rw [tx_insertStartTimerLowerRts]; rfl
  · rfl

/-! ## The two mutually recursive routines satisfy the equations of the source -/

section
omit [Uart U]

/-- The chip has no part in what is kept about requests. -/
theorem uart_countXoff (e : Extension U) : e.countXoff.uart = e.uart := by
  unfold countXoff
  split
  · rfl
  · split
    · exact uart_modifyCurrent _ _ _
    · rfl

theorem uart_storeUser (e : Extension U) (c : UInt8) : (e.storeUser c).uart = e.uart := by
  unfold storeUser
  split
  · exact (uart_modifyCurrent _ _ _).trans (uart_modifyCurrent _ _ _)
  · exact uart_modifyCurrent _ _ _

end

/-- Nothing the driver does makes modem changes. -/
theorem modemChanges_putRule :
    PutRule (U := U) fun e e' => Uart.modemChanges e'.uart ≤ Uart.modemChanges e.uart where
  refl _ := Nat.le_refl _
  trans hab hbc := Nat.le_trans hbc hab
  readReg e r := Uart.modemChanges_read r e.uart
  writeReg e r v _ _ := Uart.modemChanges_write r v e.uart
  events _ _ _ _ := Nat.le_refl _
  txHolding _ _ := Nat.le_refl _
  holdingEmpty _ _ := Nat.le_refl _
  special _ _ := Nat.le_refl _
  rxHolding _ _ := Nat.le_refl _
  tryingToLowerRts _ _ := Nat.le_refl _
  insertDpc _ _ _ := Nat.le_refl _
  answerWait _ _ := Nat.le_of_eq (congrArg _ (uart_modifyCurrent _ _ _))
  countXoff e := Nat.le_of_eq (congrArg _ (uart_countXoff e))
  storeUser e c _ := Nat.le_of_eq (congrArg _ (uart_storeUser e c))
  putRing _ _ _ _ := Nat.le_refl _
  overwriteLast _ _ _ := Nat.le_refl _

/-- Two ways to put a character that agree while at most `n` modem changes are left. -/
theorem insertMst_congr {put put' : UInt8 → Extension U → Extension U} {n : Nat}
    (hsame : ∀ c e, Uart.modemChanges e.uart ≤ n → put c e = put' c e)
    (hle : ∀ c e, Uart.modemChanges (put' c e).uart ≤ Uart.modemChanges e.uart)
    (status : UInt8) {e : Extension U} (he : Uart.modemChanges e.uart ≤ n) :
    e.insertMst put status = e.insertMst put' status := by
  unfold insertMst
  split
  · rw [hsame _ e he, hsame _ _ (Nat.le_trans (hle _ _) he),
      hsame _ _ (Nat.le_trans (hle _ _) (Nat.le_trans (hle _ _) he))]
  · rfl

omit [Uart U] in
/-- Without a change nothing is put. -/
theorem insertMst_of_no_delta {put put' : UInt8 → Extension U → Extension U} {status : UInt8}
    {e : Extension U} (h : has status msrDelta = false) :
    e.insertMst put status = e.insertMst put' status := by
  simp [insertMst, h]

/-- Reading MSR leaves fewer changes, or it has shown none. -/
theorem modemUpdateWith_congr {put put' : UInt8 → Extension U → Extension U} {e : Extension U}
    (hsame : ∀ c e', Uart.modemChanges e'.uart < Uart.modemChanges e.uart →
      put c e' = put' c e')
    (hle : ∀ c e, Uart.modemChanges (put' c e).uart ≤ Uart.modemChanges e.uart) (b : Bool) :
    e.modemUpdateWith put b = e.modemUpdateWith put' b := by
  have hmst : (e.readReg .msr).2.insertMst put (e.readReg .msr).1 =
      (e.readReg .msr).2.insertMst put' (e.readReg .msr).1 := by
    cases hd : has (e.readReg .msr).1 msrDelta with
    | false => exact insertMst_of_no_delta hd
    | true =>
      have hlt := Uart.modemChanges_read_msr e.uart hd
      refine insertMst_congr (n := Uart.modemChanges e.uart - 1) (fun c e' he' => ?_) hle _ ?_
      · exact hsame c e' (by omega)
      · show Uart.modemChanges (Uart.read .msr e.uart).2 ≤ _
        omega
  unfold modemUpdateWith
  rw [hmst]

/-- `SerialPutChar` calls the other routine at most once, and in the state it was called in. -/
theorem putCharWith_congr {update update' : Extension U → Extension U} {e : Extension U}
    (h : update e = update' e) (c : UInt8) : e.putCharWith update c = e.putCharWith update' c := by
  unfold putCharWith
  rw [h]

/-- Nor do the routines that store characters. -/
theorem modemChanges_charRule :
    CharRule fun e e' : Extension U => Uart.modemChanges e'.uart ≤ Uart.modemChanges e.uart :=
  modemChanges_putRule.statusRule.charRule

/-- The recursion never runs into its cut. -/
theorem handleModemUpdateN_eq (n m : Nat) (b : Bool) (e : Extension U)
    (hn : Uart.modemChanges e.uart ≤ n) (hm : Uart.modemChanges e.uart ≤ m) :
    e.handleModemUpdateN n b = e.handleModemUpdateN m b := by
  induction n generalizing m b e with
  | zero =>
    cases m with
    | zero => rfl
    | succ m =>
      exact modemUpdateWith_congr (fun _ _ h => by omega)
        (modemChanges_charRule.putCharWith (modemChanges_charRule.handleModemUpdateN m false)) b
  | succ n ih =>
    cases m with
    | zero => exact modemUpdateWith_congr (fun _ _ h => by omega) (fun _ _ => Nat.le_refl _) b
    | succ m =>
      refine modemUpdateWith_congr (fun c e' he' => ?_)
        (modemChanges_charRule.putCharWith (modemChanges_charRule.handleModemUpdateN m false)) b
      exact putCharWith_congr (by rw [ih m false e' (by omega) (by omega)]) c

/-- **`SerialHandleModemUpdate` as in the source**, calling `SerialPutChar`. -/
theorem serialHandleModemUpdate_eq (b : Bool) (e : Extension U) :
    e.serialHandleModemUpdate b = e.modemUpdateWith (fun c e => e.serialPutChar c) b := by
  unfold serialHandleModemUpdate
  cases hn : Uart.modemChanges e.uart with
  | zero =>
    exact modemUpdateWith_congr (fun _ _ h => absurd (hn ▸ h) (Nat.not_lt_zero _))
      (fun c e => modemChanges_putRule.statusRule.serialPutChar c e) b
  | succ n =>
    refine modemUpdateWith_congr (fun c e' he' => ?_)
      (fun c e => modemChanges_putRule.statusRule.serialPutChar c e) b
    refine putCharWith_congr ?_ c
    show (e'.handleModemUpdateN n false).2 = (e'.handleModemUpdateN _ false).2
    rw [handleModemUpdateN_eq n (Uart.modemChanges e'.uart) false e' (by omega) (Nat.le_refl _)]

end SerialFc
