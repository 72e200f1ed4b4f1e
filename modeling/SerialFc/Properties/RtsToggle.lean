import SerialFc.Model.Board
import SerialFc.Properties.HoldLaw
import SerialFc.Properties.RtsCounter

/-!
# RTS while transmission toggles it

In the mode `SERIAL_TRANSMIT_TOGGLE` the driver raises RTS for what it sends and lowers it when the
transmitter has run dry.

* `sent_isr` — the ISR sends with RTS asserted
* `lowered_serialPerhapsLowerRts` — RTS goes down only when there is nothing left to send
* `rts_toggle_safety` — a port sends without RTS only in `SerialFileCloseWorker`, which takes back
  an XOFF without raising it
-/

namespace SerialFc

open Extension Lib

variable {U : Type} [Uart U]

/-! ## Nothing else sends -/

/-- Flow control writes nothing to the holding register. -/
theorem sentBoard_flowRule :
    FlowRule fun e e' : Extension (Board U) => e'.uart.sent = e.uart.sent where
  refl _ := rfl
  trans h h' := h'.trans h
  readReg _ _ := rfl
  writeReg e r v hd _ := Board.sent_write_of_ne hd v e.uart
  events _ _ _ _ := rfl
  txHolding _ _ := rfl
  holdingEmpty _ _ := rfl
  special _ b := by cases b <;> rfl
  rxHolding _ _ := rfl
  tryingToLowerRts _ _ := rfl
  insertDpc _ _ _ := rfl
  answerWait e _ := congrArg Board.sent (uart_modifyCurrent _ _ _)
  countXoff e := congrArg Board.sent (uart_countXoff e)
  storeUser e c _ := congrArg Board.sent (uart_storeUser e c)
  putRing _ _ _ _ := rfl
  overwriteLast _ _ _ := rfl
  handFlow _ _ := rfl

omit [Uart U] in
theorem sentBoard_of_lines {e e' : Extension (Board U)} (h : e'.lines = e.lines) :
    e'.uart.sent = e.uart.sent := by
  simp only [lines, Prod.mk.injEq] at h
  rw [h.1]

theorem sentBoard_rule :
    CallbackRule (fun _ => False) fun e e' : Extension (Board U) => e'.uart.sent = e.uart.sent :=
  sentBoard_flowRule.callbackRule (fun _ _ => sentBoard_of_lines) (fun _ _ => rfl)
    (fun _ _ _ _ => rfl)

/-! ## The ISR sends with RTS asserted -/

/-- What was sent between the two was sent with RTS asserted. -/
def SentUnderRts (b b' : Board U) : Prop :=
  ∃ new, b'.sent = b.sent ++ new ∧ ∀ w ∈ new, w.2 = true

namespace SentUnderRts

omit [Uart U]

variable {a b c : Board U}

theorem of_eq (h : b.sent = a.sent) : SentUnderRts a b :=
  ⟨[], h.trans (List.append_nil _).symm, nofun⟩

theorem trans (hab : SentUnderRts a b) (hbc : SentUnderRts b c) : SentUnderRts a c := by
  obtain ⟨xs, hxs, hup⟩ := hab
  obtain ⟨ys, hys, hup'⟩ := hbc
  refine ⟨xs ++ ys, by rw [hys, hxs, List.append_assoc], fun w hw => ?_⟩
  exact (List.mem_append.mp hw).elim (hup w) (hup' w)

end SentUnderRts

/-- Whatever MCR was, RTS is asserted now. -/
theorem rts_serialSetRts (e : Extension (Board U)) : e.serialSetRts.uart.rts = true :=
  has_or_self _ (by decide)

theorem sentUnderRts_writeSpecial (c : UInt8) {e : Extension (Board U)}
    (htoggle : e.handFlow.transmitToggle = true) :
    SentUnderRts e.uart (e.writeSpecial c).uart := by
  refine ⟨[(c, true)], ?_, by simp⟩
  unfold writeSpecial
  rw [if_pos htoggle, sentBoard_flowRule.insertStartTimerLowerRts]
  show e.serialSetRts.uart.sent ++ [(c, e.serialSetRts.uart.rts)] = _
  rw [rts_serialSetRts, sentBoard_flowRule.serialSetRts e]

theorem sentUnderRts_writeTransmitFifo (bytes : List UInt8) {e : Extension (Board U)}
    (hrts : e.uart.rts = true) : SentUnderRts e.uart (e.writeTransmitFifo bytes).uart := by
  induction bytes generalizing e with
  | nil => exact .of_eq rfl
  | cons b bytes ih =>
    have hone : SentUnderRts e.uart (e.writeReg .data b).uart :=
      ⟨[(b, e.uart.rts)], rfl, by simp [hrts]⟩
    exact hone.trans (ih (e := e.writeReg .data b) hrts)

theorem sentUnderRts_writeBytes (bytes : List UInt8) {e : Extension (Board U)}
    (htoggle : e.handFlow.transmitToggle = true) :
    SentUnderRts e.uart (e.writeBytes bytes).uart := by
  have hset : SentUnderRts e.uart (e.serialSetRts.addTransmitted bytes.length).uart :=
    .of_eq (sentBoard_flowRule.serialSetRts e)
  have hwrite := sentUnderRts_writeTransmitFifo bytes (e := e.serialSetRts.addTransmitted bytes.length)
    (rts_serialSetRts e)
  unfold writeBytes
  rw [if_pos htoggle]
  refine hset.trans (hwrite.trans (.of_eq ?_))
  exact sentBoard_flowRule.insertStartTimerLowerRts
    (writeTransmitFifo bytes (e.serialSetRts.addTransmitted bytes.length))

theorem sent_amountToWrite_board (e : Extension (Board U)) :
    e.amountToWrite.2.uart.sent = e.uart.sent := by
  unfold amountToWrite fastcomGetTxFifoSpace
  split
  · cases e.cfg.cardType <;> rfl
  · rfl

omit [Uart U] in
theorem sent_advanceWrite_board (n : Nat) (e : Extension (Board U)) :
    (e.advanceWrite n).uart.sent = e.uart.sent := by
  unfold advanceWrite
  split
  · exact congrArg Board.sent (uart_modifyCurrent _ _ _)
  · rfl

/-- In the toggle mode, which stays as it is, what is sent is sent with RTS asserted. -/
def ToggledSend (e e' : Extension (Board U)) : Prop :=
  e'.cfg = e.cfg ∧ (e.handFlow.transmitToggle = true → SentUnderRts e.uart e'.uart)

omit [Uart U] in
theorem ToggledSend.trans {a b c : Extension (Board U)} (hab : ToggledSend a b)
    (hbc : ToggledSend b c) : ToggledSend a c := by
  refine ⟨hbc.1.trans hab.1, fun htoggle => (hab.2 htoggle).trans (hbc.2 ?_)⟩
  unfold handFlow
  rw [hab.1]
  exact htoggle

theorem toggledSend_isrRule : IsrRule (ToggledSend (U := U)) where
  toStatusRule := (cfg_sharedRule.statusRule.and sentBoard_flowRule.statusRule).mono
    (fun _ _ h => ⟨h.1, fun _ => .of_eq h.2⟩) .trans
  emptied _ := ⟨rfl, fun _ => .of_eq rfl⟩
  transmitXon e _ _ :=
    ⟨cfg_sharedRule.transmitXon e, fun htoggle => sentUnderRts_writeSpecial _ htoggle⟩
  transmitXoff e _ _ := by
    have hhold (e : Extension (Board U)) : e.holdAfterXoff.uart.sent = e.uart.sent := by
      unfold holdAfterXoff
      split
      · rfl
      · exact sentBoard_flowRule.statusRule.toggleTimer (e.setTxXoff true)
    exact ⟨cfg_sharedRule.transmitXoff e, fun htoggle =>
      (sentUnderRts_writeSpecial e.cfg.specialChars.xoffChar htoggle).trans (.of_eq (hhold _))⟩
  transmitImmediateChar e _ _ :=
    ⟨cfg_sharedRule.transmitImmediateChar e, fun htoggle => sentUnderRts_writeSpecial _ htoggle⟩
  transmitData e _ _ := by
    refine ⟨cfg_sharedRule.transmitData e, fun htoggle => ?_⟩
    have hmode : e.amountToWrite.2.handFlow.transmitToggle = true := by
      unfold handFlow
      rw [cfg_sharedRule.writeRule.amountToWrite e]
      exact htoggle
    have hamount : SentUnderRts e.uart e.amountToWrite.2.uart := .of_eq (sent_amountToWrite_board e)
    exact hamount.trans ((sentUnderRts_writeBytes _ hmode).trans
      (.of_eq (sent_advanceWrite_board _ _)))

/-! ## RTS goes down only when there is nothing left to send -/

omit [Uart U] in
theorem has_and_mcrDtr (v : UInt8) : has (v &&& ~~~mcrDtr) mcrRts = has v mcrRts := by
  unfold has
  rw [UInt8.and_assoc]
  rfl

/-- Reading a status leaves RTS alone unless RTS is an input handshake. -/
def KeepsRts (e e' : Extension (Board U)) : Prop :=
  e'.cfg = e.cfg ∧ (e.handFlow.rtsHandshake = false → e.uart.additional = false →
    e'.uart.additional = false ∧ e'.uart.rts = e.uart.rts)

omit [Uart U] in
theorem KeepsRts.of_mcr {e e' : Extension (Board U)} (hcfg : e'.cfg = e.cfg)
    (hadditional : e'.uart.additional = e.uart.additional) (hmcr : e'.uart.mcr = e.uart.mcr) :
    KeepsRts e e' :=
  ⟨hcfg, fun _ h => ⟨hadditional.trans h, by rw [Board.rts, hmcr]; rfl⟩⟩

theorem keepsRts_sharedStatusRule : SharedStatusRule (KeepsRts (U := U)) where
  trans {a b c} hab hbc := by
    refine ⟨hbc.1.trans hab.1, fun hmode hreg => ?_⟩
    obtain ⟨hreg', hrts⟩ := hab.2 hmode hreg
    obtain ⟨hreg'', hrts'⟩ := hbc.2 (by unfold handFlow; rw [hab.1]; exact hmode) hreg'
    exact ⟨hreg'', hrts'.trans hrts⟩
  lines e e' h := by
    simp only [lines, Prod.mk.injEq] at h
    exact .of_mcr h.2.1 (by rw [h.1]) (by rw [h.1])
  readReg _ _ := .of_mcr rfl rfl rfl
  retickle _ := .of_mcr rfl rfl rfl
  events _ _ := .of_mcr rfl rfl rfl
  holdingEmpty _ _ := .of_mcr rfl rfl rfl
  special _ b := by cases b <;> exact .of_mcr rfl rfl rfl
  rxHolding _ _ := .of_mcr rfl rfl rfl
  holdDtr e := by
    unfold holdDtr serialClrDtr
    split
    · split
      · exact .of_mcr rfl rfl rfl
      · refine ⟨rfl, fun _ hreg => ⟨hreg, ?_⟩⟩
        show has ((Uart.read .mcr e.uart).1 &&& ~~~mcrDtr) mcrRts = has e.uart.mcr mcrRts
        rw [Board.read_mcr hreg, has_and_mcrDtr]
    · exact .of_mcr rfl rfl rfl
  holdRts e := by
    unfold holdRts
    split
    · next hhold =>
      simp only [Bool.and_eq_true] at hhold
      refine ⟨rfl, fun hmode => ?_⟩
      cases hmode.symm.trans hhold.1.1
    · exact .of_mcr rfl rfl rfl
  setTxXoff _ _ := .of_mcr rfl rfl rfl
  followModem _ _ := .of_mcr rfl rfl rfl
  clearModemHolding _ := .of_mcr rfl rfl rfl
  insertStartTimerLowerRts e := by
    unfold insertStartTimerLowerRts
    split <;> exact .of_mcr rfl rfl rfl

/-- Nothing is left to send: the transmitter is idle, and there is no break, no write and no
immediate character. -/
structure NothingToSend (status : UInt8) (e : Extension U) : Prop where
  idle : transmitterIdle status = true
  noBreak : e.tx.txHolding.brk = false
  noWrite : e.current .write = none
  noImmediate : e.tx.transmitImmediate = false

omit [Uart U] in
/-- A break is begun and ended by the I/O controls. -/
theorem brk_sharedStatusRule [Uart U] : SharedStatusRule fun e e' : Extension U =>
    e'.tx.txHolding.brk = e.tx.txHolding.brk where
  trans h h' := h'.trans h
  lines e e' h := by
    simp only [lines, Prod.mk.injEq] at h
    obtain ⟨_, _, _, _, hholding, _⟩ := h
    rw [hholding]
  readReg _ _ := rfl
  retickle _ := rfl
  events _ _ := rfl
  holdingEmpty _ _ := rfl
  special _ b := by cases b <;> rfl
  rxHolding _ _ := rfl
  holdDtr e := by
    unfold holdDtr serialClrDtr
    split
    · split <;> rfl
    · rfl
  holdRts e := by
    unfold holdRts
    split <;> rfl
  setTxXoff _ _ := rfl
  followModem _ _ := rfl
  clearModemHolding _ := rfl
  insertStartTimerLowerRts e := by rw [tx_insertStartTimerLowerRts]

theorem nothingToSend_serialProcessLsr {e : Extension U}
    (hidle : transmitterIdle e.serialProcessLsr.1 = true) (hbrk : e.tx.txHolding.brk = false)
    (hpending : e.transmitPending = false) :
    NothingToSend e.serialProcessLsr.1 e.serialProcessLsr.2 := by
  simp only [transmitPending, Bool.or_eq_false_iff, Option.isSome_eq_false_iff,
    Option.isNone_iff_eq_none] at hpending
  have heff := effect_interruptRule.lockRule.serialProcessLsr e
  have hkeep := keepsToSend_putRule.statusRule.serialProcessLsr e
  exact ⟨hidle, (brk_sharedStatusRule.statusRule.serialProcessLsr e).trans hbrk,
    heff.current_none hpending.1.1, hkeep.2.2.1.trans hpending.1.2⟩

/-- **RTS goes down** in `SerialPerhapsLowerRTS` only after the line status, read then, has shown an
idle transmitter. -/
theorem lowered_serialPerhapsLowerRts {e : Extension (Board U)}
    (hreg : e.uart.additional = false) (hup : e.uart.rts = true)
    (hdown : e.serialPerhapsLowerRts.uart.rts = false) :
    NothingToSend e.serialProcessLsr.1 e.serialProcessLsr.2 := by
  have hlower : e.tryToLowerRts.uart.rts = false := hdown
  unfold tryToLowerRts at hlower
  split at hlower
  · next htry =>
    simp only [Bool.and_eq_true, Bool.not_eq_true', Bool.or_eq_false_iff] at htry
    obtain ⟨htoggle, hbrk, hpending⟩ := htry
    unfold lowerRtsOrRetry at hlower
    split at hlower
    · next hidle => exact nothingToSend_serialProcessLsr hidle hbrk hpending
    · -- the transmitter was busy, and RTS has stayed up
      have hmode : e.handFlow.rtsHandshake = false := by
        have hmask : e.handFlow.rtsMask = 0xc0 := beq_iff_eq.mp htoggle
        unfold HandFlow.rtsHandshake
        rw [hmask]
        rfl
      have hkeep := keepsRts_sharedStatusRule.trans
        (keepsRts_sharedStatusRule.statusRule.serialProcessLsr e)
        (keepsRts_sharedStatusRule.insertStartTimerLowerRts _)
      rw [(hkeep.2 hmode hreg).2] at hlower
      exact nomatch hup.symm.trans hlower
  · exact nomatch hup.symm.trans hlower

/-! ## Register 4 is MCR between the steps -/

/-- ACR comes back to its shadow, in which bit 7 is clear while RS485 is off. -/
def KeepsMcr (e e' : Extension (Board U)) : Prop :=
  e'.cfg.acr = e.cfg.acr ∧ (has e.cfg.acr 0x80 = false → e.uart.additional = false →
    e'.uart.additional = false)

omit [Uart U] in
theorem KeepsMcr.of_eq {e e' : Extension (Board U)} (hcfg : e'.cfg = e.cfg)
    (hadditional : e'.uart.additional = e.uart.additional) : KeepsMcr e e' :=
  ⟨by rw [hcfg], fun _ h => hadditional.trans h⟩

theorem keepsMcr_interruptRule : InterruptRule (KeepsMcr (U := U)) where
  refl _ := .of_eq rfl rfl
  trans {a b c} hab hbc := by
    refine ⟨hbc.1.trans hab.1, fun hacr h => hbc.2 ?_ (hab.2 hacr h)⟩
    rw [hab.1]
    exact hacr
  readReg _ _ := .of_eq rfl rfl
  writeReg e r v _ hl := .of_eq rfl (Board.additional_write_of_ne hl v e.uart)
  events _ _ _ _ := .of_eq rfl rfl
  txHolding _ _ := .of_eq rfl rfl
  holdingEmpty _ _ := .of_eq rfl rfl
  special _ b := by cases b <;> exact .of_eq rfl rfl
  rxHolding _ _ := .of_eq rfl rfl
  tryingToLowerRts _ _ := .of_eq rfl rfl
  insertDpc _ _ _ := .of_eq rfl rfl
  answerWait e _ := .of_eq (cfg_modifyCurrent _ _ _) (congrArg _ (uart_modifyCurrent _ _ _))
  countXoff e := .of_eq (cfg_sharedRule.statusRule.countXoff e) (congrArg _ (uart_countXoff e))
  storeUser e c hu :=
    .of_eq (cfg_sharedRule.statusRule.storeUser e c hu) (congrArg _ (uart_storeUser e c))
  putRing _ _ _ _ := .of_eq rfl rfl
  overwriteLast _ _ _ := .of_eq rfl rfl
  handFlow _ _ := ⟨rfl, fun _ h => h⟩
  writeData _ _ := .of_eq rfl rfl
  fillFscc _ := ⟨rfl, fun hacr _ => hacr⟩
  emptied _ := .of_eq rfl rfl
  logSpecial _ _ _ := .of_eq rfl rfl
  xonSent _ := .of_eq rfl rfl
  xoffSent _ := .of_eq rfl rfl
  immediateSent _ _ := .of_eq rfl rfl
  advanceWrite e n _ _ := .of_eq (cfg_sharedRule.advanceWrite n e) (by
    unfold advanceWrite
    split
    · exact congrArg _ (uart_modifyCurrent _ _ _)
    · rfl)

omit [Uart U] in
theorem KeepsMcr.of_lines {e e' : Extension (Board U)} (h : e'.lines = e.lines) :
    KeepsMcr e e' := by
  simp only [lines, Prod.mk.injEq] at h
  exact .of_eq h.2.1 (by rw [h.1])

theorem keepsMcr_rule : CallbackRule (fun _ => False) (KeepsMcr (U := U)) :=
  keepsMcr_interruptRule.callbackRule (fun _ _ => .of_lines) (fun _ _ => .of_eq rfl rfl)
    (fun _ _ _ _ => ⟨rfl, fun _ h => h⟩)

/-! ## The port -/

namespace Port

section
variable {R Q : Extension U → Extension U → Prop}

/-- **Rule for steps of a port.** The ISR and the XON before closing are left to `Q`. -/
theorem step_rule (hflow : FlowRule R) (hrule : CallbackRule (fun _ => False) R)
    (hresize : ∀ e n buffer, R e (e.serialUpdateAndSwitchToNew n buffer))
    (hqueues : ∀ e d t, R e { e with dpc := d, timer := t }) (himp : ∀ e e', R e e' → Q e e')
    {p p' : Port U} {l : PortLabel (Uart.Input U)} (hstep : p.step l = some p')
    (hacc : Accounted p.ext)
    (hisr : ∀ fuel e', p.ext.serialIsr fuel = some e' → Q p.ext e')
    (hxon : l = .sendXon → Q p.ext p.sendXon.ext) : Q p.ext p'.ext := by
  -- a step of the driver outside the pieces that `R` has to hold for one by one
  have hdriver {l : Label (Uart.Input U)} (hl : l.inPieces = false) {e : Extension U}
      (hstep : p.ext.step l = some e) : Q p.ext e := by
    cases l with
    | isr fuel =>
      cases fires_of_step hstep with
      | isr hpass => exact hisr fuel e hpass
    | _ => exact himp _ _ (hrule.step hstep (fun _ _ => id) nofun
        (fun hlower => absurd hlower (lowersRts_of_inPieces hl))
        (fun hf _ _ _ => hflow.serialSetHandFlow hf p.ext) (fun n b _ _ _ => hresize _ n b) hacc).2
  unfold step at hstep
  split at hstep
  · cases hstep
  · cases l with
    -- the port is open; the ISR of a port that closes; a step that may still come after the close
    | driver l =>
      obtain ⟨hl, hmap⟩ := Option.ite_none_left_eq_some.mp hstep
      obtain ⟨e, he, rfl⟩ := Option.map_eq_some_iff.mp hmap
      have hpieces : l.inPieces = false := by simpa using hl
      unfold driverStep at he
      split at he
      · exact hdriver hpieces he
      · split at he
        · exact himp _ _ (hflow.statusRule.closedIsr he)
        · split at he
          · exact hdriver hpieces he
          · cases he
    | takeStartTimerDpc =>
      obtain ⟨_, he⟩ := Option.ite_none_right_eq_some.mp hstep
      cases he
      exact himp _ _ (hqueues p.ext _ p.ext.timer)
    | setLowerRtsTimer =>
      obtain ⟨_, he⟩ := Option.ite_none_right_eq_some.mp hstep
      cases he
      exact himp _ _ (hqueues p.ext p.ext.dpc _)
    | serialDecrementRtsCounter =>
      obtain ⟨_, he⟩ := Option.ite_none_right_eq_some.mp hstep
      cases he
      exact himp _ _ (hflow.tryingToLowerRts p.ext (-1))
    | expireLowerRts =>
      obtain ⟨_, he⟩ := Option.ite_none_right_eq_some.mp hstep
      cases he
      exact himp _ _ (hqueues p.ext p.ext.dpc _)
    | perhapsLowerRts =>
      obtain ⟨_, he⟩ := Option.ite_none_right_eq_some.mp hstep
      cases he
      exact himp _ _ (hflow.serialPerhapsLowerRts p.ext)
    | setNotOpened =>
      obtain ⟨_, he⟩ := Option.ite_none_right_eq_some.mp hstep
      cases he
      exact himp _ _ (hflow.refl p.ext)
    | turnOffBreak =>
      obtain ⟨_, he⟩ := Option.ite_none_right_eq_some.mp hstep
      cases he
      exact himp _ _ (hflow.controlRule.serialTurnOffBreak p.ext)
    | readLineStatus =>
      obtain ⟨_, he⟩ := Option.ite_none_right_eq_some.mp hstep
      cases he
      exact himp _ _ (hflow.readReg p.ext .lsr)
    | markClose =>
      obtain ⟨_, he⟩ := Option.ite_none_right_eq_some.mp hstep
      cases he
      exact himp _ _ (hflow.serialDisableUart p.ext)
    | sendXon =>
      obtain ⟨_, he⟩ := Option.ite_none_right_eq_some.mp hstep
      cases he
      exact hxon rfl
    | clrDtr =>
      obtain ⟨_, he⟩ := Option.ite_none_right_eq_some.mp hstep
      cases he
      exact himp _ _ (hflow.serialClrDtr p.ext)
    | clrRts =>
      obtain ⟨_, he⟩ := Option.ite_none_right_eq_some.mp hstep
      cases he
      exact himp _ _ (hflow.trans (hflow.serialClrRts p.ext)
        (hflow.trans (hflow.rxHolding _ .none) (hflow.txHolding _ .none)))

end

/-- The driver's shadow of ACR has bit 7 clear, and register 4 is MCR. -/
structure PlainMcr (p : Port (Board U)) : Prop where
  counted : Counted p
  acr : has p.ext.cfg.acr 0x80 = false
  register : p.ext.uart.additional = false

theorem plainMcr_step {p p' : Port (Board U)} {l : PortLabel (Uart.Input (Board U))}
    (hstep : p.step l = some p') (h : PlainMcr p) : PlainMcr p' := by
  have hxon : KeepsMcr p.ext p.sendXon.ext := by
    unfold sendXon
    dsimp only
    split
    · split <;> exact .of_eq rfl rfl
    · exact .of_eq rfl rfl
  have hkeep := step_rule keepsMcr_interruptRule.toFlowRule keepsMcr_rule
    (keepsMcr_interruptRule.serialUpdateAndSwitchToNew fun _ _ => .of_lines)
    (fun _ _ _ => .of_eq rfl rfl) (fun _ _ => id) hstep h.counted.accounted
    (fun _ _ => keepsMcr_interruptRule.lockRule.serialIsr) (fun _ => hxon)
  exact ⟨counted_step hstep h.counted, by rw [hkeep.1]; exact h.acr, hkeep.2 h.acr h.register⟩

/-- The close worker takes back an XOFF: it finds the holding register empty while RTS is down. -/
def XonWithoutRts (l : PortLabel (Uart.Input (Board U))) (p : Port (Board U)) : Prop :=
  l = .sendXon ∧ p.ext.rx.rxHolding.xoff = true ∧ has (p.ext.readReg .lsr).1 lsrThre = true ∧
    p.ext.uart.rts = false

theorem sent_sendXon (p : Port (Board U)) : p.sendXon.ext.uart.sent =
    if p.ext.rx.rxHolding.xoff = true ∧ has (p.ext.readReg .lsr).1 lsrThre = true then
      p.ext.uart.sent ++ [(p.ext.cfg.specialChars.xonChar, p.ext.uart.rts)]
    else p.ext.uart.sent := by
  unfold sendXon
  dsimp only
  split
  · next hxoff =>
    split
    · next hthre =>
      rw [if_pos ⟨hxoff, hthre⟩]
      rfl
    · next hthre =>
      rw [if_neg fun h => hthre h.2]
      rfl
  · next hxoff =>
    rw [if_neg fun h => hxoff h.1]
    rfl

theorem sentUnderRts_sendXon {p : Port (Board U)} (h : ¬XonWithoutRts .sendXon p) :
    SentUnderRts p.ext.uart p.sendXon.ext.uart := by
  have hsent := sent_sendXon p
  split at hsent
  · next hboth =>
    refine ⟨_, hsent, fun w hw => ?_⟩
    rw [List.mem_singleton.mp hw]
    by_contra hdown
    exact h ⟨rfl, hboth.1, hboth.2, by simpa using hdown⟩
  · exact .of_eq hsent

theorem not_sentUnderRts_sendXon {p : Port (Board U)} (h : XonWithoutRts .sendXon p) :
    ¬SentUnderRts p.ext.uart p.sendXon.ext.uart := by
  obtain ⟨-, hxoff, hthre, hdown⟩ := h
  rintro ⟨new, hnew, hup⟩
  rw [sent_sendXon, if_pos ⟨hxoff, hthre⟩] at hnew
  have hone := List.append_cancel_left hnew
  have hrts := hup (p.ext.cfg.specialChars.xonChar, p.ext.uart.rts) (by rw [← hone]; simp)
  exact nomatch hdown.symm.trans hrts

/-- A step in the toggle mode sends with RTS asserted, the close worker's XON apart. -/
theorem sentUnderRts_step {p p' : Port (Board U)} {l : PortLabel (Uart.Input (Board U))}
    (hstep : p.step l = some p') (hacc : Accounted p.ext)
    (htoggle : p.ext.handFlow.transmitToggle = true) (hxon : ¬XonWithoutRts l p) :
    SentUnderRts p.ext.uart p'.ext.uart := by
  refine step_rule (Q := fun e e' => SentUnderRts e.uart e'.uart) sentBoard_flowRule
    sentBoard_rule (sentBoard_flowRule.serialUpdateAndSwitchToNew fun _ _ => sentBoard_of_lines)
    (fun _ _ _ => rfl) (fun _ _ => .of_eq) hstep hacc
    (fun _ _ hrun => (toggledSend_isrRule.serialIsr hrun).2 htoggle) ?_
  rintro rfl
  exact sentUnderRts_sendXon hxon

end Port

/-! ## The law -/

/-- What holds of RTS at a state that a port in toggle mode comes to, whatever step is next. -/
structure RtsToggle (p : Port (Board U)) : Prop where
  sends : p.ext.handFlow.transmitToggle = true → ∀ l p', p.step l = some p' →
    (SentUnderRts p.ext.uart p'.ext.uart ↔ ¬Port.XonWithoutRts l p)
  register : p.ext.uart.additional = false
  lowers : ∀ e : Extension (Board U), e.uart.additional = false → e.uart.rts = true →
    e.serialPerhapsLowerRts.uart.rts = false →
    NothingToSend e.serialProcessLsr.1 e.serialProcessLsr.2

/-- **RTS in toggle mode**, on every port with RS485 off and in every state that it can reach: a
step sends without RTS exactly if it is the close worker's XON with RTS down, and RTS goes down only
when nothing is left to send. -/
theorem rts_toggle_safety {chip : U} {cfg : Config} {size : Nat}
    {ls : List (PortLabel (Uart.Input (Board U)))} {p : Port (Board U)}
    (hacr : has cfg.acr 0x80 = false)
    (hrun : run Port.step ls (.opened (Board.start chip) cfg size) = some p) : RtsToggle p := by
  have hplain : Port.PlainMcr p := run_invariant (fun _ _ _ => Port.plainMcr_step) hrun
    ⟨Port.counted_opened _ cfg size, hacr, rfl⟩
  refine ⟨fun htoggle l p' hstep => ⟨fun hsent hxon => ?_, fun hxon => ?_⟩, hplain.register,
    fun _ => lowered_serialPerhapsLowerRts⟩
  · obtain rfl := hxon.1
    unfold Port.step at hstep
    split at hstep
    · cases hstep
    · obtain ⟨_, he⟩ := Option.ite_none_right_eq_some.mp hstep
      cases he
      exact Port.not_sentUnderRts_sendXon hxon hsent
  · exact Port.sentUnderRts_step hstep hplain.counted.accounted htoggle hxon

/-- In toggle mode with automatic receive flow control: six characters come in, the ISR answers the
last one with an XOFF, and RTS is lowered when it has gone out. Then the port is closed. -/
def closeWhileHeld : List (PortLabel Chip.Input) :=
  [.driver (.callback (.setHandFlow ⟨0, 0xc2, 2, 2⟩)),
    .driver (.hardware (.receive ⟨1, 0⟩)), .driver (.hardware (.receive ⟨2, 0⟩)),
    .driver (.hardware (.receive ⟨3, 0⟩)), .driver (.hardware (.receive ⟨4, 0⟩)),
    .driver (.hardware (.receive ⟨5, 0⟩)), .driver (.hardware (.receive ⟨6, 0⟩)),
    .driver (.isr 9), .driver (.hardware (.shift 1)), .takeStartTimerDpc, .setLowerRtsTimer,
    .expireLowerRts, .perhapsLowerRts, .setNotOpened, .turnOffBreak, .markClose]

theorem rts_toggle_safety_closeWhileHeld :
    ∃ p, run Port.step closeWhileHeld (.opened (Board.start Chip.idle) .plain 8) = some p ∧
      (p.ext.uart.sent == [(0x13, true)] && !p.ext.uart.rts) = true ∧ RtsToggle p := by
  have hrun : (run Port.step closeWhileHeld (.opened (Board.start Chip.idle) .plain 8)).any
      (fun p => p.ext.uart.sent == [(0x13, true)] && !p.ext.uart.rts) = true := by
    decide +kernel
  obtain ⟨p, hp, hsent⟩ := (Option.any_eq_true _ _).mp hrun
  exact ⟨p, hp, hsent, rts_toggle_safety rfl hp⟩

/-- The XON of the close worker goes out with RTS down. -/
theorem rts_toggle_closeXon :
    ¬∀ (ls : List (PortLabel Chip.Input)) (l : PortLabel Chip.Input) (p p' : Port (Board Chip)),
      run Port.step ls (.opened (Board.start Chip.idle) .plain 8) = some p →
        p.ext.handFlow.transmitToggle = true → p.step l = some p' →
          SentUnderRts p.ext.uart p'.ext.uart := by
  intro hall
  have hrun : (run Port.step closeWhileHeld (.opened (Board.start Chip.idle) .plain 8)).any
      (fun p => p.ext.handFlow.transmitToggle && p.ext.rx.rxHolding.xoff && !p.ext.uart.rts
        && has (p.ext.readReg .lsr).1 lsrThre && (p.step .sendXon).isSome) = true := by
    decide +kernel
  obtain ⟨p, hp, hstate⟩ := (Option.any_eq_true _ _).mp hrun
  simp only [Bool.and_eq_true, Bool.not_eq_true'] at hstate
  obtain ⟨⟨⟨⟨htoggle, hxoff⟩, hdown⟩, hthre⟩, hsome⟩ := hstate
  obtain ⟨p', hstep⟩ := Option.isSome_iff_exists.mp hsome
  have hsent := hall _ .sendXon p p' hp htoggle hstep
  unfold Port.step at hstep
  split at hstep
  · cases hstep
  · obtain ⟨_, he⟩ := Option.ite_none_right_eq_some.mp hstep
    cases he
    exact Port.not_sentUnderRts_sendXon ⟨rfl, hxoff, hthre, hdown⟩ hsent

end SerialFc
