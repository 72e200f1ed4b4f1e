import SerialFc.Properties.HoldLaw

/-!
# The restart loop of the ISR ends

Before it leaves, the ISR looks at the transmitter once more and may jump back into the transmit
case. Every execution of the case sends something, or finds that transmission is held and ends the
loop, or is the first one and has found the FIFO full.

* `Transmitter` — what the chip is relied on for while nothing comes in
* `isrLoopEntries` — the executions of the transmit case, with what led to each
* `sends_of_room` — an execution with room in the FIFO sends something or is held for good
* `restartLoop_ends` — the pass ends, after at most `WriteLength + 3` restarts
-/

namespace SerialFc

open Extension

variable {U : Type} [Uart U]

/-! ## What led to a transmission -/

/-- The transmit interrupt, or the jump before the ISR leaves. -/
inductive TransmitEntry
  | interrupt
  | restart
  deriving DecidableEq, Repr

namespace Extension

def isrCaseEntries (interruptIdReg : UInt8) : List TransmitEntry :=
  if interruptIdReg &&& iirCauses = iirThr then [.interrupt] else []

/-- The executions of the transmit case in `isrLoop`. -/
def isrLoopEntries : Nat → Extension U → List TransmitEntry
  | 0, _ => []
  | n + 1, e =>
    let iir := e.readReg .iir
    let lsr := iir.2.serialProcessLsr
    if !has iir.1 iirNoInterruptPending then
      isrCaseEntries iir.1 ++ (iir.2.isrCase n iir.1).elim [] (isrLoopEntries n)
    else if lsr.2.mustTransmit lsr.1 then .restart :: isrLoopEntries n lsr.2.transmit
    else []

/-- What is waiting to be sent: the bytes of the write and up to three special characters. -/
def waiting (e : Extension U) : Nat :=
  e.tx.writeLength + e.tx.transmitImmediate.toNat + e.tx.sendXoffChar.toNat + e.tx.sendXonChar.toNat

end Extension

omit [Uart U] in
theorem waiting_le (e : Extension U) : e.waiting ≤ e.tx.writeLength + 3 := by
  have hle (b : Bool) : b.toNat ≤ 1 := Bool.toNat_le b
  have himm := hle e.tx.transmitImmediate
  have hxoff := hle e.tx.sendXoffChar
  have hxon := hle e.tx.sendXonChar
  unfold waiting
  omega

omit [Uart U] in
theorem waiting_eq_zero {e : Extension U} (h : e.toSend = false) : e.waiting = 0 := by
  simp only [toSend, Bool.or_eq_false_iff, bne_eq_false_iff_eq] at h
  simp [waiting, h]

/-! ## The chip -/

/-- The chip as long as nothing comes in: no character, no line error, no change of the modem lines.
The transmit FIFO only drains; THRE says that there is room in it, and the level that is read is not
above what the FIFO holds. A transmit interrupt is reported once, and another one comes only after
something has been written. -/
structure Transmitter (U : Type) [Uart U] (card : CardType) where
  quiet : U → Prop
  lines : UInt8
  fill : U → Nat
  pending : U → Bool
  quiet_read : ∀ r u, quiet u → quiet (Uart.read r u).2
  quiet_write : ∀ r v u, r ≠ .ier → quiet u → quiet (Uart.write r v u)
  lsr : ∀ u, quiet u → lineError (Uart.read .lsr u).1 = false
  msr : ∀ u, quiet u → (Uart.read .msr u).1 = lines
  lines_delta : has lines msrDelta = false
  iir : ∀ u, quiet u → has (Uart.read .iir u).1 iirNoInterruptPending = true ∨
    (Uart.read .iir u).1 &&& iirCauses = iirThr ∧ pending u = true ∧
      pending (Uart.read .iir u).2 = false
  thre : ∀ u, quiet u → has (Uart.read .lsr u).1 lsrThre = true →
    ∀ size, card.fifoSize = some size → fill u < size
  fill_read : ∀ r u, fill (Uart.read r u).2 ≤ fill u
  fill_write : ∀ r v u, r ≠ .data → fill (Uart.write r v u) ≤ fill u
  level : ∀ e : Extension U, quiet e.uart → e.cfg.cardType = card → e.txFifoFill ≤ fill e.uart
  pending_read : ∀ r u, pending (Uart.read r u).2 = true → pending u = true
  pending_write : ∀ r v u, r ≠ .data → r ≠ .ier → pending (Uart.write r v u) = true →
    pending u = true

namespace Transmitter

variable {card : CardType} (hw : Transmitter U card)

/-- From `u` to `u'` the driver has not written to the holding register. -/
structure Still (u u' : U) : Prop where
  quiet : hw.quiet u → hw.quiet u'
  fill : hw.fill u' ≤ hw.fill u
  pending : hw.pending u' = true → hw.pending u = true

theorem Still.refl (u : U) : hw.Still u u := ⟨id, le_refl _, id⟩

variable {hw}

theorem Still.trans {u u' u'' : U} (h : hw.Still u u') (h' : hw.Still u' u'') : hw.Still u u'' :=
  ⟨h'.quiet ∘ h.quiet, h'.fill.trans h.fill, h.pending ∘ h'.pending⟩

variable (hw)

theorem still_read (r : Reg) (u : U) : hw.Still u (Uart.read r u).2 :=
  ⟨hw.quiet_read r u, hw.fill_read r u, hw.pending_read r u⟩

theorem still_write {r : Reg} (hd : r ≠ .data) (hi : r ≠ .ier) (v : UInt8) (u : U) :
    hw.Still u (Uart.write r v u) :=
  ⟨hw.quiet_write r v u hi, hw.fill_write r v u hd, hw.pending_write r v u hd hi⟩

theorem still_fillFscc (e : Extension U) : hw.Still e.uart e.fastcomGetTxFifoFillFscc.2.uart :=
  (hw.still_read .lcr _).trans <| (hw.still_write (r := .lcr) (by decide) (by decide) _ _).trans <|
    (hw.still_write (r := .spr) (by decide) (by decide) _ _).trans <|
    (hw.still_write (r := .lsr) (by decide) (by decide) _ _).trans <|
    (hw.still_read .mcr _).trans <| (hw.still_write (r := .spr) (by decide) (by decide) _ _).trans <|
    (hw.still_write (r := .lsr) (by decide) (by decide) _ _).trans <|
    hw.still_write (r := .lcr) (by decide) (by decide) _ _

theorem still_serialSetRts (e : Extension U) : hw.Still e.uart e.serialSetRts.uart :=
  (hw.still_read .mcr _).trans (hw.still_write (by decide) (by decide) _ _)

omit [Uart U] in
theorem uart_insertStartTimerLowerRts (e : Extension U) : e.insertStartTimerLowerRts.uart = e.uart := by
  unfold insertStartTimerLowerRts
  split <;> rfl

/-- Writing to the chip does not end the quiet. -/
theorem quiet_writeRule :
    WriteRule fun e e' : Extension U => hw.quiet e.uart → hw.quiet e'.uart where
  refl _ := id
  trans h h' := h' ∘ h
  serialSetRts e _ := (hw.still_serialSetRts e).quiet
  addTransmitted _ _ := id
  data e v := hw.quiet_write .data v e.uart (by decide)
  spr e v := hw.quiet_write .spr v e.uart (by decide)
  insertStartTimerLowerRts e hquiet := by rwa [uart_insertStartTimerLowerRts]
  txtrg e := hw.quiet_read .txtrg e.uart
  fillFscc e := (hw.still_fillFscc e).quiet

theorem still_amountToWrite (e : Extension U) : hw.Still e.uart e.amountToWrite.2.uart := by
  unfold amountToWrite fastcomGetTxFifoSpace
  split
  · cases e.cfg.cardType with
    | fscc => exact hw.still_fillFscc e
    | other => exact .refl hw _
    | _ => exact hw.still_read .txtrg _
  · exact .refl hw _

end Transmitter

/-! ## The modem lines -/

namespace Extension

/-- What is left to send, and in which order it would go. -/
def sends (e : Extension U) : Nat × Bool × Bool × Bool :=
  (e.tx.writeLength, e.tx.transmitImmediate, e.tx.sendXoffChar, e.tx.sendXonChar)

/-- The hold reasons as the modem lines have them. -/
def heldBy (lines : UInt8) (e : Extension U) : TxHolding :=
  if e.handFlow.outHandshake then (e.followModem lines).tx.txHolding else e.tx.txHolding

end Extension

omit [Uart U] in
theorem waiting_of_sends {e e' : Extension U} (h : e'.sends = e.sends) : e'.waiting = e.waiting := by
  simp only [sends, Prod.mk.injEq] at h
  simp only [waiting, h]

omit [Uart U] in
theorem sends_answerWaitIfDue (e : Extension U) : e.answerWaitIfDue.sends = e.sends := by
  unfold answerWaitIfDue answerWait
  split
  · show sends (modifyCurrent .wait _ _) = _
    simp only [sends, tx_modifyCurrent]
  · rfl

omit [Uart U] in
theorem sends_modemEvents (status : UInt8) (e : Extension U) :
    (e.modemEvents status).sends = e.sends := by
  have hevent (e : Extension U) (m : UInt32) (b : Bool) : (e.addEvent m b).sends = e.sends := by
    unfold addEvent
    split <;> rfl
  unfold modemEvents
  split
  · rw [sends_answerWaitIfDue, hevent, hevent, hevent, hevent]
  · rfl

omit [Uart U] in
theorem sends_insertStartTimerLowerRts (e : Extension U) :
    e.insertStartTimerLowerRts.sends = e.sends := by
  unfold insertStartTimerLowerRts
  split <;> rfl

section
variable {card : CardType} (hw : Transmitter U card)

/-- Without a change of the lines, the update before a transmission makes the hold reasons follow
them and does nothing else that matters here. -/
theorem updateBeforeTransmit_spec (e : Extension U) (hquiet : hw.quiet e.uart) :
    hw.Still e.uart e.updateBeforeTransmit.uart ∧ e.updateBeforeTransmit.sends = e.sends ∧
      e.updateBeforeTransmit.tx.txHolding = e.heldBy hw.lines := by
  unfold updateBeforeTransmit heldBy
  split
  · next hout =>
    have hlines : (e.readReg .msr).1 = hw.lines := hw.msr _ hquiet
    have hinsert : (e.readReg .msr).2.insertMst (fun c e => e.serialPutChar c) (e.readReg .msr).1 =
        (e.readReg .msr).2 := by
      rw [insertMst, hlines, hw.lines_delta, Bool.and_false]
      rfl
    -- `doingTx` is set, so nothing is restarted here
    have hrelease (old : TxHolding) (e : Extension U) : e.restartOnRelease true old = e := rfl
    have htoggle (old : TxHolding) (e : Extension U) : (e.toggleOnHold old).uart = e.uart ∧
        (e.toggleOnHold old).sends = e.sends ∧
        (e.toggleOnHold old).tx.txHolding = e.tx.txHolding := by
      unfold toggleOnHold
      split
      · refine ⟨Transmitter.uart_insertStartTimerLowerRts e, sends_insertStartTimerLowerRts e, ?_⟩
        rw [tx_insertStartTimerLowerRts]
      · exact ⟨rfl, rfl, rfl⟩
    obtain ⟨hcfg, huart, hholding⟩ : ((((e.readReg .msr).2.followDsr hw.lines).modemEvents
        hw.lines).cfg = e.cfg) ∧ ((((e.readReg .msr).2.followDsr hw.lines).modemEvents
        hw.lines).uart = (e.readReg .msr).2.uart) ∧ ((((e.readReg .msr).2.followDsr
        hw.lines).modemEvents hw.lines).tx.txHolding = e.tx.txHolding) := by
      have hevents := lines_of_shared (shared_modemEvents hw.lines ((e.readReg .msr).2.followDsr hw.lines))
      simp only [lines, Prod.mk.injEq] at hevents
      exact ⟨hevents.2.1, hevents.1, hevents.2.2.2.2.1⟩
    have hsends := sends_modemEvents hw.lines ((e.readReg .msr).2.followDsr hw.lines)
    have hout' : (((e.readReg .msr).2.followDsr hw.lines).modemEvents hw.lines).handFlow.outHandshake =
        true := by
      unfold handFlow at hout ⊢
      rw [hcfg]
      exact hout
    rw [serialHandleModemUpdate_eq, modemUpdateWith, hinsert, hlines, modemHolding, if_pos hout',
      hrelease]
    obtain ⟨huart', hsends', hholding'⟩ := htoggle e.tx.txHolding
      ((((e.readReg .msr).2.followDsr hw.lines).modemEvents hw.lines).followModem hw.lines)
    refine ⟨?_, hsends'.trans hsends, hholding'.trans ?_⟩
    · show hw.Still e.uart (toggleOnHold _ _).uart
      rw [huart']
      show hw.Still e.uart (modemEvents _ _).uart
      rw [huart]
      exact hw.still_read .msr e.uart
    · simp only [followModem, putHolding, hholding, handFlow, hcfg]
  · exact ⟨.refl hw _, rfl, rfl⟩

end

/-! ## The choice of what to send -/

theorem sends_writeSpecial (c : UInt8) (e : Extension U) : (e.writeSpecial c).sends = e.sends := by
  unfold writeSpecial
  split
  · rw [sends_insertStartTimerLowerRts]
    rfl
  · rfl

theorem sends_transmitXon (e : Extension U) : e.transmitXon.sends =
    (e.tx.writeLength, e.tx.transmitImmediate, e.tx.sendXoffChar, false) := by
  have hspecial := sends_writeSpecial e.cfg.specialChars.xonChar e
  simp only [sends, Prod.mk.injEq] at hspecial
  simp only [transmitXon, logWire, xonSent, sends, hspecial]

theorem sends_transmitXoff (e : Extension U) : e.transmitXoff.sends =
    (e.tx.writeLength, e.tx.transmitImmediate, false, e.tx.sendXonChar) := by
  have hhold (e : Extension U) : e.holdAfterXoff.sends = e.sends := by
    unfold holdAfterXoff toggleTimer
    split
    · rfl
    · split
      · exact sends_insertStartTimerLowerRts (e.setTxXoff true)
      · rfl
  have hspecial := (hhold ((e.writeSpecial e.cfg.specialChars.xoffChar).logWire
    (.xoff e.cfg.specialChars.xoffChar))).trans (sends_writeSpecial _ e)
  simp only [sends, Prod.mk.injEq] at hspecial
  simp only [transmitXoff, xoffSent, sends, hspecial]

theorem sends_transmitImmediateChar (e : Extension U) : e.transmitImmediateChar.sends =
    (e.tx.writeLength, false, e.tx.sendXoffChar, e.tx.sendXonChar) := by
  have hspecial := sends_writeSpecial e.tx.immediateChar e
  simp only [sends, Prod.mk.injEq] at hspecial
  simp only [transmitImmediateChar, immediateSent, serialInsertQueueDpc, sends, hspecial]

theorem sends_transmitData (e : Extension U) : e.transmitData.sends =
    (e.tx.writeLength - e.amountToWrite.1, e.tx.transmitImmediate, e.tx.sendXoffChar,
      e.tx.sendXonChar) := by
  have hamount : e.amountToWrite.2.sends = e.sends := by
    unfold sends
    rw [tx_amountToWrite]
  have hbytes (bytes : List UInt8) (e : Extension U) : (e.writeBytes bytes).sends = e.sends := by
    unfold writeBytes
    split
    · rw [sends_insertStartTimerLowerRts]
      unfold sends
      rw [tx_writeTransmitFifo]
      rfl
    · unfold sends
      rw [tx_writeChunk]
      rfl
  have hmove (n : Nat) (e : Extension U) : (e.advanceWrite n).sends =
      (e.tx.writeLength - n, e.tx.transmitImmediate, e.tx.sendXoffChar, e.tx.sendXonChar) := by
    unfold advanceWrite
    split
    · show sends (modifyCurrent .write _ _) = _
      unfold sends
      rw [tx_modifyCurrent]
      rfl
    · rfl
  have hwritten := (hbytes (e.tx.writeCurrentChar.take e.amountToWrite.1) e.amountToWrite.2).trans
    hamount
  simp only [sends, Prod.mk.injEq] at hwritten
  rw [transmitData, hmove]
  simp only [hwritten]

omit [Uart U] in
theorem uart_advanceWrite (n : Nat) (e : Extension U) : (e.advanceWrite n).uart = e.uart := by
  unfold advanceWrite
  split
  · exact uart_modifyCurrent _ _ _
  · rfl

section
variable {card : CardType} (hw : Transmitter U card)

/-- The routines of the transmit case do not end the quiet. -/
theorem quiet_transmitNext (r : Extension U) (hquiet : hw.quiet r.uart) :
    hw.quiet r.transmitNext.uart := by
  have hrule := hw.quiet_writeRule
  unfold transmitNext
  split
  · exact hrule.writeSpecial _ r hquiet
  split
  · have hhold (e : Extension U) : e.holdAfterXoff.uart = e.uart := by
      unfold holdAfterXoff toggleTimer
      split
      · rfl
      · split
        · exact Transmitter.uart_insertStartTimerLowerRts _
        · rfl
    show hw.quiet (holdAfterXoff _).uart
    rw [hhold]
    exact hrule.writeSpecial _ r hquiet
  split
  · exact hrule.writeSpecial _ r hquiet
  split
  · rw [transmitData, uart_advanceWrite]
    exact hrule.writeBytes _ _ (hrule.amountToWrite r hquiet)
  · exact hquiet

/-- With room in the FIFO the amount is not zero. -/
theorem amountToWrite_pos {r : Extension U} (hquiet : hw.quiet r.uart)
    (hcard : r.cfg.cardType = card) (hamount : 1 ≤ r.cfg.txFifoAmount)
    (hlength : r.tx.writeLength ≠ 0)
    (hroom : ∀ size, card.fifoSize = some size → hw.fill r.uart < size) :
    0 < r.amountToWrite.1 := by
  have hlevel := hw.level r hquiet hcard
  have hspace : 0 < r.fastcomGetTxFifoSpace.1 := by
    cases hsize : card.fifoSize with
    | none =>
      have hother : r.cfg.cardType = .other := by
        rw [hcard]
        cases card with
        | other => rfl
        | _ => cases hsize
      unfold fastcomGetTxFifoSpace
      rw [hother]
      exact Nat.succ_pos 3
    | some size =>
      have hlt := hroom size hsize
      rw [fastcomGetTxFifoSpace_of_fill (by rw [hcard]; exact hsize) (by omega)]
      omega
  unfold amountToWrite
  split
  · exact lt_min (lt_min hspace hamount) (Nat.pos_of_ne_zero hlength)
  · exact Nat.one_pos

/-- Nothing can be sent, and that stays so while the modem lines are as they are. -/
structure Stuck (e : Extension U) : Prop where
  held : e.tx.txHolding.any = true
  xon : (e.tx.sendXonChar && !e.tx.txHolding.anyButXoff) = false
  immediate : (e.tx.transmitImmediate && e.tx.txHolding.onlyXoff) = false
  lines : e.heldBy hw.lines = e.tx.txHolding

/-- What an execution of the transmit case has come to. -/
inductive Outcome (e e' : Extension U) : Prop
  | sent (h : e'.waiting < e.waiting)
  | idle (h : e.toSend = false) (hsends : e'.sends = e.sends) (hstill : hw.Still e.uart e'.uart)
  | held (h : Stuck hw e') (hsends : e'.sends = e.sends) (hstill : hw.Still e.uart e'.uart)
  | full (h : ¬∀ size, card.fifoSize = some size → hw.fill e.uart < size)
      (honly : e.waiting = e.tx.writeLength) (hsends : e'.sends = e.sends)
      (hstill : hw.Still e.uart e'.uart)

variable {hw}

omit [Uart U] in
/-- Following the modem lines twice is following them once. -/
theorem heldBy_of_heldBy {lines : UInt8} {e e' : Extension U} (hcfg : e'.cfg = e.cfg)
    (hholding : e'.tx.txHolding = e.heldBy lines) : e'.heldBy lines = e'.tx.txHolding := by
  unfold heldBy at hholding ⊢
  simp only [handFlow, hcfg] at hholding ⊢
  split at hholding
  · next hout =>
    rw [if_pos hout]
    simp only [followModem, putHolding, handFlow, hcfg, hholding]
  · next hout => rw [if_neg hout]

omit [Uart U] in
/-- When nothing is held and no special character is sent, none is waiting. -/
theorem waiting_of_free {e : Extension U}
    (hxon : ¬(e.tx.sendXonChar && !e.tx.txHolding.anyButXoff) = true)
    (hxoff : ¬(e.tx.sendXoffChar && !e.tx.txHolding.any) = true)
    (himm : ¬(e.tx.transmitImmediate && (!e.tx.txHolding.any || e.tx.txHolding.onlyXoff)) = true)
    (hfree : (!e.tx.txHolding.any) = true) : e.waiting = e.tx.writeLength := by
  have hbut : e.tx.txHolding.anyButXoff = false := by
    simp only [TxHolding.any, Bool.not_eq_true', Bool.or_eq_false_iff] at hfree
    simp [TxHolding.anyButXoff, hfree]
  simp only [hbut, Bool.not_false, Bool.and_true, Bool.not_eq_true] at hxon
  simp only [hfree, Bool.true_or, Bool.and_true, Bool.not_eq_true] at hxoff himm
  simp [waiting, hxon, hxoff, himm]

theorem still_transmitData {e : Extension U} (hn : e.amountToWrite.1 = 0) :
    hw.Still e.uart e.transmitData.uart := by
  have hnone (e : Extension U) : hw.Still e.uart (e.writeBytes []).uart := by
    unfold writeBytes
    split
    · rw [Transmitter.uart_insertStartTimerLowerRts]
      exact hw.still_serialSetRts e
    · exact .refl hw _
  rw [transmitData, uart_advanceWrite, hn, List.take_zero]
  exact (hw.still_amountToWrite e).trans (hnone _)

/-- One of the branches. -/
theorem outcome_transmitNext {e : Extension U} (hquiet : hw.quiet e.uart) (hsend : e.toSend = true)
    (hlines : e.heldBy hw.lines = e.tx.txHolding) (hcard : e.cfg.cardType = card)
    (hamount : 1 ≤ e.cfg.txFifoAmount) : Outcome hw e e.transmitNext := by
  unfold transmitNext
  -- an XON, an XOFF or the immediate character is one less that waits
  split
  · next hxon =>
    refine .sent ?_
    have hsends := sends_transmitXon e
    simp only [sends, Prod.mk.injEq] at hsends
    simp only [Bool.and_eq_true] at hxon
    simp only [waiting, hsends, hxon.1, Bool.toNat_true, Bool.toNat_false]
    omega
  · next hxon =>
    split
    · next hxoff =>
      refine .sent ?_
      have hsends := sends_transmitXoff e
      simp only [sends, Prod.mk.injEq] at hsends
      simp only [Bool.and_eq_true] at hxoff
      simp only [waiting, hsends, hxoff.1, Bool.toNat_true, Bool.toNat_false]
      omega
    · next hxoff =>
      split
      · next himm =>
        refine .sent ?_
        have hsends := sends_transmitImmediateChar e
        simp only [sends, Prod.mk.injEq] at hsends
        simp only [Bool.and_eq_true] at himm
        simp only [waiting, hsends, himm.1, Bool.toNat_true, Bool.toNat_false]
        omega
      -- the write, unless the FIFO has no room or transmission is held
      · next himm =>
        split
        · next hfree =>
          have hlength := writeLength_ne_zero_of_toSend hsend hxon hxoff himm hfree
          have hsends := sends_transmitData e
          simp only [sends, Prod.mk.injEq] at hsends
          cases hn : e.amountToWrite.1 with
          | succ n =>
            refine .sent ?_
            rw [hn] at hsends
            simp only [waiting, hsends]
            omega
          | zero =>
            refine .full (fun hroom => ?_) (waiting_of_free hxon hxoff himm hfree) ?_
              (still_transmitData hn)
            · have hpos := amountToWrite_pos hw hquiet hcard hamount hlength hroom
              omega
            · rw [hn] at hsends
              simp only [sends, hsends, Nat.sub_zero]
        · next hheld =>
          have hany : e.tx.txHolding.any = true := by simpa using hheld
          refine .held ⟨hany, by simpa using hxon, ?_, hlines⟩ rfl (.refl hw _)
          simpa [hany] using himm

/-! ## The transmit case -/

/-- **One execution of the transmit case.** -/
theorem outcome_transmit {e : Extension U} (hquiet : hw.quiet e.uart)
    (hcard : e.cfg.cardType = card) (hamount : 1 ≤ e.cfg.txFifoAmount) :
    Outcome hw e e.transmit ∧ hw.quiet e.transmit.uart ∧ e.transmit.cfg = e.cfg := by
  refine ⟨?_, ?_, cfg_sharedRule.isrRule.transmit e⟩
  all_goals
    obtain ⟨hstill, hsends, hholding⟩ := updateBeforeTransmit_spec hw
      (e.setHoldingEmpty true).setEmptiedTransmit hquiet
    unfold transmit
    split
  · next hsend =>
    have hcfg : (e.setHoldingEmpty true).setEmptiedTransmit.updateBeforeTransmit.cfg = e.cfg :=
      cfg_sharedRule.isrRule.readyToSend e
    have hready := toSend_updateBeforeTransmit (e.setHoldingEmpty true).setEmptiedTransmit hsend
    have hchoice := outcome_transmitNext (hstill.quiet hquiet) hready
      (heldBy_of_heldBy hcfg hholding) (by rw [hcfg]; exact hcard) (by rw [hcfg]; exact hamount)
    have hwaiting := waiting_of_sends hsends
    cases hchoice with
    | sent h => exact .sent (by rw [hwaiting] at h; exact h)
    | idle h => rw [hready] at h; cases h
    | held h hs ht => exact .held h (hs.trans hsends) (hstill.trans ht)
    | full h honly hs ht =>
      refine .full (fun hroom => h fun size hsize => hstill.fill.trans_lt (hroom size hsize)) ?_
        (hs.trans hsends) (hstill.trans ht)
      have hlength : (e.setHoldingEmpty true).setEmptiedTransmit.updateBeforeTransmit.tx.writeLength =
          e.tx.writeLength := congrArg Prod.fst hsends
      rw [hwaiting, hlength] at honly
      exact honly
  · next hidle => exact .idle (by simpa using hidle) rfl (.refl hw _)
  · exact quiet_transmitNext hw _ (hstill.quiet hquiet)
  · exact hquiet

/-- What can send nothing sends nothing. -/
theorem Stuck.transmit {e : Extension U} (h : Stuck hw e) (hquiet : hw.quiet e.uart) :
    Stuck hw e.transmit := by
  obtain ⟨_, hsends, hholding⟩ := updateBeforeTransmit_spec hw
    (e.setHoldingEmpty true).setEmptiedTransmit hquiet
  have hcfg : (e.setHoldingEmpty true).setEmptiedTransmit.updateBeforeTransmit.cfg = e.cfg :=
    cfg_sharedRule.isrRule.readyToSend e
  have hlines := heldBy_of_heldBy hcfg hholding
  have hsame := hholding.trans h.lines
  simp only [sends, Prod.mk.injEq] at hsends
  unfold Extension.transmit
  generalize (e.setHoldingEmpty true).setEmptiedTransmit.updateBeforeTransmit = r at *
  have hstuck : Stuck hw r :=
    ⟨hsame ▸ h.held, hsame ▸ hsends.2.2.2 ▸ h.xon, hsame ▸ hsends.2.1 ▸ h.immediate, hlines⟩
  split
  · have hnext : r.transmitNext = r := by
      unfold transmitNext
      simp [hstuck.xon, hstuck.held, hstuck.immediate]
    rw [hnext]
    exact hstuck
  · exact ⟨h.held, h.xon, h.immediate, h.lines⟩

/-! ## The loop -/

/-- The state in which the ISR looks at the transmitter: IIR and LSR have been read. -/
theorem quiet_serialProcessLsr {e : Extension U} (hquiet : hw.quiet e.uart) :
    (e.serialProcessLsr).2 =
      ((e.readReg .lsr).2).setHoldingEmpty (has (e.readReg .lsr).1 lsrThre) := by
  have hclean : lineError (e.readReg .lsr).1 = false := hw.lsr _ hquiet
  rw [serialProcessLsr]
  dsimp only
  rw [processLineStatus, hclean]
  rfl

/-- One turn of the loop: the interrupt that is pending is the transmit interrupt, or the ISR looks
at the transmitter. -/
theorem isrLoop_turn {e : Extension U} (hquiet : hw.quiet e.uart) :
    (∃ x : Extension U, x.sends = e.sends ∧ x.tx.txHolding = e.tx.txHolding ∧ x.cfg = e.cfg ∧
      hw.quiet x.uart ∧ hw.pending e.uart = true ∧ hw.pending x.uart = false ∧
      ∀ n, e.isrLoop (n + 1) = x.transmit.isrLoop n ∧
        e.isrLoopEntries (n + 1) = .interrupt :: x.transmit.isrLoopEntries n) ∨
    (∃ x : Extension U, x.sends = e.sends ∧ x.tx.txHolding = e.tx.txHolding ∧ x.cfg = e.cfg ∧
      hw.Still e.uart x.uart ∧ e.tx.txHolding.any = false ∧ x.toSend = true ∧
      (∀ size, card.fifoSize = some size → hw.fill x.uart < size) ∧
      ∀ n, e.isrLoop (n + 1) = x.transmit.isrLoop n ∧
        e.isrLoopEntries (n + 1) = .restart :: x.transmit.isrLoopEntries n) ∨
    (∃ x : Extension U, ∀ n, e.isrLoop (n + 1) = some x ∧ e.isrLoopEntries (n + 1) = []) := by
  have hiir := hw.still_read .iir e.uart
  by_cases hnone : has (e.readReg .iir).1 iirNoInterruptPending = true
  -- no interrupt is pending: is there something to send all the same?
  · right
    have hlsr := quiet_serialProcessLsr (e := (e.readReg .iir).2) (hiir.quiet hquiet)
    by_cases hmust : (e.readReg .iir).2.serialProcessLsr.2.mustTransmit
        (e.readReg .iir).2.serialProcessLsr.1 = true
    · left
      have hcheck := hmust
      simp only [mustTransmit, hlsr, Bool.and_eq_true, Bool.not_eq_true', Bool.or_eq_true] at hcheck
      refine ⟨(e.readReg .iir).2.serialProcessLsr.2, ?_, ?_, ?_, ?_, hcheck.1.2, ?_, ?_, fun n => ?_⟩
      · rw [hlsr]
        rfl
      · rw [hlsr]
        rfl
      · rw [hlsr]
        rfl
      · rw [hlsr]
        exact hiir.trans (hw.still_read .lsr _)
      · rw [hlsr]
        rcases hcheck.2 with hlength | himm
        · simp only [toSend]
          rw [hlength]
          rfl
        · simp only [toSend]
          rw [himm]
          simp
      · rw [hlsr]
        intro size hsize
        exact (hw.fill_read .lsr _).trans_lt
          (hw.thre _ (hiir.quiet hquiet) hcheck.1.1 size hsize)
      · simp only [isrLoop, isrLoopEntries, hnone, hmust]
        exact ⟨rfl, rfl⟩
    · right
      refine ⟨(e.readReg .iir).2.serialProcessLsr.2, fun n => ?_⟩
      simp only [isrLoop, isrLoopEntries, hnone, hmust]
      exact ⟨rfl, rfl⟩
  -- an interrupt is pending, and it is the transmitter's: reading IIR clears it
  · left
    obtain ⟨hcause, hpending, hcleared⟩ := (hw.iir e.uart hquiet).resolve_left hnone
    refine ⟨(e.readReg .iir).2, rfl, rfl, rfl, hiir.quiet hquiet, hpending, hcleared, fun n => ?_⟩
    have hcase : (e.readReg .iir).2.isrCase n (e.readReg .iir).1 =
        some (e.readReg .iir).2.transmit := by
      simp only [isrCase]
      rw [show (e.readReg .iir).1 &&& iirCauses = iirThr from hcause]
      rfl
    have hentries : isrCaseEntries (e.readReg .iir).1 = [.interrupt] := if_pos hcause
    simp only [isrLoop, isrLoopEntries, hnone, hcase, hentries]
    exact ⟨rfl, rfl⟩

omit [Uart U] in
theorem heldBy_congr {lines : UInt8} {e e' : Extension U} (hcfg : e'.cfg = e.cfg)
    (hholding : e'.tx.txHolding = e.tx.txHolding) : e'.heldBy lines = e.heldBy lines := by
  simp only [heldBy, followModem, putHolding, handFlow, hcfg, hholding]

theorem Stuck.congr {e e' : Extension U} (h : Stuck hw e) (hsends : e'.sends = e.sends)
    (hholding : e'.tx.txHolding = e.tx.txHolding) (hcfg : e'.cfg = e.cfg) : Stuck hw e' := by
  simp only [sends, Prod.mk.injEq] at hsends
  refine ⟨hholding ▸ h.held, hholding ▸ hsends.2.2.2 ▸ h.xon, hholding ▸ hsends.2.1 ▸ h.immediate, ?_⟩
  rw [heldBy_congr hcfg hholding, h.lines, hholding]

/-- The chip is quiet, and the card sends at least one byte at a time. -/
structure Ready (hw : Transmitter U card) (e : Extension U) : Prop where
  quiet : hw.quiet e.uart
  card : e.cfg.cardType = card
  amount : 1 ≤ e.cfg.txFifoAmount

theorem Ready.congr {e e' : Extension U} (h : Ready hw e) (hcfg : e'.cfg = e.cfg)
    (hquiet : hw.quiet e'.uart) : Ready hw e' :=
  ⟨hquiet, hcfg ▸ h.card, hcfg ▸ h.amount⟩

theorem Ready.transmit {e : Extension U} (h : Ready hw e) : Ready hw e.transmit := by
  obtain ⟨_, hquiet, hcfg⟩ := outcome_transmit h.quiet h.card h.amount
  exact h.congr hcfg hquiet

theorem count_restart_of_stuck (n : Nat) {e : Extension U} (h : Stuck hw e) (hready : Ready hw e) :
    (e.isrLoopEntries n).count .restart = 0 := by
  induction n generalizing e with
  | zero => rfl
  | succ n ih =>
    rcases isrLoop_turn hready.quiet with ⟨x, hsends, hholding, hcfg, hx, _, _, hnext⟩ |
      ⟨x, _, _, _, _, hfree, _⟩ | ⟨x, hnext⟩
    · have hstuck := h.congr hsends hholding hcfg
      rw [(hnext n).2, List.count_cons_of_ne (by decide)]
      exact ih (hstuck.transmit hx) (hready.congr hcfg hx).transmit
    · rw [h.held] at hfree
      cases hfree
    · rw [(hnext n).2]
      rfl

/-- A restart sends something or ends the loop, and no other execution brings anything up. -/
theorem count_restart_le (n : Nat) {e : Extension U} (h : Ready hw e) :
    (e.isrLoopEntries n).count .restart ≤ e.waiting := by
  induction n generalizing e with
  | zero => exact Nat.zero_le _
  | succ n ih =>
    rcases isrLoop_turn h.quiet with ⟨x, hsends, _, hcfg, hx, _, _, hnext⟩ |
      ⟨x, hsends, _, hcfg, hstill, _, hsend, hroom, hnext⟩ | ⟨x, hnext⟩
    · have hready := h.congr hcfg hx
      have hrest := ih hready.transmit
      obtain ⟨houtcome, _⟩ := outcome_transmit hready.quiet hready.card hready.amount
      have hwaiting := waiting_of_sends hsends
      rw [(hnext n).2, List.count_cons_of_ne (by decide)]
      cases houtcome with
      | sent hless => omega
      | idle _ hs _ => rw [waiting_of_sends hs] at hrest; omega
      | held _ hs _ => rw [waiting_of_sends hs] at hrest; omega
      | full _ _ hs _ => rw [waiting_of_sends hs] at hrest; omega
    · have hready := h.congr hcfg (hstill.quiet h.quiet)
      have hrest := ih hready.transmit
      obtain ⟨houtcome, _⟩ := outcome_transmit hready.quiet hready.card hready.amount
      have hwaiting := waiting_of_sends hsends
      rw [(hnext n).2, List.count_cons_self]
      cases houtcome with
      | sent hless => omega
      | idle hidle => rw [hsend] at hidle; cases hidle
      | held hstuck hs _ =>
        have hnone := count_restart_of_stuck n hstuck hready.transmit
        have hpos : x.waiting ≠ 0 := by
          simp only [toSend, Bool.or_eq_true, bne_iff_ne] at hsend
          unfold waiting
          rcases hsend with ((hw | hi) | hf) | hn
          · omega
          · simp [hi]
          · simp [hf]
          · simp [hn]
        omega
      | full hfull => exact absurd hroom hfull
    · rw [(hnext n).2]
      exact Nat.zero_le _

omit [Uart U] in
theorem length_eq_count {entries : List TransmitEntry} (h : ∀ x ∈ entries, x = .restart) :
    entries.length = entries.count .restart :=
  (List.count_eq_length.mpr fun x hx => (h x hx).symm).symm

/-- With the first execution counted in, whatever led to it. -/
theorem length_entries_le (n : Nat) {e : Extension U} (h : Ready hw e)
    (hrestarts : ∀ x ∈ (e.isrLoopEntries n).tail, x = .restart) :
    (e.isrLoopEntries n).length ≤ e.tx.writeLength + 3 := by
  have hmost := waiting_le e
  cases n with
  | zero => exact Nat.zero_le _
  | succ n =>
    rcases isrLoop_turn h.quiet with ⟨x, hsends, _, hcfg, hx, _, _, hnext⟩ | ⟨x, _, _, _, _, _, _, _, hnext⟩ |
      ⟨x, hnext⟩
    · have hready := h.congr hcfg hx
      have hrest := count_restart_le n hready.transmit
      obtain ⟨houtcome, _⟩ := outcome_transmit hready.quiet hready.card hready.amount
      have hwaiting := waiting_of_sends hsends
      rw [(hnext n).2] at hrestarts ⊢
      rw [List.tail_cons] at hrestarts
      rw [List.length_cons, length_eq_count hrestarts]
      cases houtcome with
      | sent hless => omega
      | idle hidle hs _ =>
        rw [waiting_of_sends hs, waiting_eq_zero hidle] at hrest
        omega
      | held hstuck _ _ =>
        rw [count_restart_of_stuck n hstuck hready.transmit]
        omega
      | full _ honly hs _ =>
        have hlengths : x.tx.writeLength = e.tx.writeLength := congrArg Prod.fst hsends
        rw [waiting_of_sends hs] at hrest
        omega
    · have hcount := count_restart_le (n + 1) h
      rw [(hnext n).2] at hrestarts hcount ⊢
      have hall : ∀ y ∈ TransmitEntry.restart :: x.transmit.isrLoopEntries n, y = .restart :=
        List.forall_mem_cons.mpr ⟨rfl, hrestarts⟩
      rw [length_eq_count hall]
      omega
    · rw [(hnext n).2]
      exact Nat.zero_le _

/-- What the loop uses up: what is waiting, an interrupt to report and the freedom to send. -/
def loopMeasure (hw : Transmitter U card) (e : Extension U) : Nat :=
  4 * e.waiting + 2 * (hw.pending e.uart).toNat + (!e.tx.txHolding.any).toNat

/-- An execution brought up by an interrupt. -/
theorem loopMeasure_interrupt {e x : Extension U} (h : Ready hw x) (hsends : x.sends = e.sends)
    (hpending : hw.pending e.uart = true) (hcleared : hw.pending x.uart = false) :
    loopMeasure hw x.transmit < loopMeasure hw e := by
  have hwaiting := waiting_of_sends hsends
  have hflag := Bool.toNat_le (hw.pending x.transmit.uart)
  have hfree := Bool.toNat_le (!x.transmit.tx.txHolding.any)
  have hnull (hs : x.transmit.sends = x.sends) (hstill : hw.Still x.uart x.transmit.uart) :
      loopMeasure hw x.transmit < loopMeasure hw e := by
    have hnone : hw.pending x.transmit.uart = false := by
      rw [← Bool.not_eq_true]
      exact fun hp => by rw [hstill.pending hp] at hcleared; cases hcleared
    have hsame := waiting_of_sends hs
    simp only [loopMeasure, hnone, hpending, Bool.toNat_true, Bool.toNat_false]
    omega
  obtain ⟨houtcome, _⟩ := outcome_transmit h.quiet h.card h.amount
  cases houtcome with
  | sent hless =>
    simp only [loopMeasure, hpending, Bool.toNat_true]
    omega
  | idle _ hs ht => exact hnull hs ht
  | held _ hs ht => exact hnull hs ht
  | full _ _ hs ht => exact hnull hs ht

/-- A restart: it was free to send, and is held if it has not sent anything. -/
theorem loopMeasure_restart {e x : Extension U} (h : Ready hw x) (hsends : x.sends = e.sends)
    (hstill : hw.Still e.uart x.uart) (hfree : e.tx.txHolding.any = false)
    (hsend : x.toSend = true) (hroom : ∀ size, card.fifoSize = some size → hw.fill x.uart < size) :
    loopMeasure hw x.transmit < loopMeasure hw e := by
  have hwaiting := waiting_of_sends hsends
  have hflag := Bool.toNat_le (hw.pending x.transmit.uart)
  have hfree' := Bool.toNat_le (!x.transmit.tx.txHolding.any)
  obtain ⟨houtcome, _⟩ := outcome_transmit h.quiet h.card h.amount
  cases houtcome with
  | sent hless =>
    simp only [loopMeasure, hfree, Bool.not_false, Bool.toNat_true]
    omega
  | idle hidle => rw [hsend] at hidle; cases hidle
  | held hstuck hs ht =>
    have hsame := waiting_of_sends hs
    have hpending : (hw.pending x.transmit.uart).toNat ≤ (hw.pending e.uart).toNat := by
      cases hp : hw.pending x.transmit.uart with
      | false => exact Nat.zero_le _
      | true => rw [(hstill.trans ht).pending hp]
    simp only [loopMeasure, hfree, hstuck.held, Bool.not_true, Bool.not_false, Bool.toNat_true,
      Bool.toNat_false]
    omega
  | full hfull => exact absurd hroom hfull

/-- Every turn but the last uses up some of it. -/
theorem isSome_isrLoop (n : Nat) {e : Extension U} (h : Ready hw e) (hn : loopMeasure hw e < n) :
    (e.isrLoop n).isSome = true := by
  induction n generalizing e with
  | zero => omega
  | succ n ih =>
    rcases isrLoop_turn h.quiet with ⟨x, hsends, _, hcfg, hx, hpending, hcleared, hnext⟩ |
      ⟨x, hsends, _, hcfg, hstill, hfree, hsend, hroom, hnext⟩ | ⟨x, hnext⟩
    · have hready := h.congr hcfg hx
      have hless := loopMeasure_interrupt hready hsends hpending hcleared
      rw [(hnext n).1]
      exact ih hready.transmit (by omega)
    · have hready := h.congr hcfg (hstill.quiet h.quiet)
      have hless := loopMeasure_restart hready hsends hstill hfree hsend hroom
      rw [(hnext n).1]
      exact ih hready.transmit (by omega)
    · rw [(hnext n).1]
      rfl

end

/-! ## The bound -/

/-- **The restart loop ends.** From any state of the device, on a chip that nothing comes in at: the
loop ends, it jumps back at most `WriteLength + 3` times, and if the interrupts that it finds on the
way bring up no further transmission, these and the first execution are at most that many too. -/
theorem restartLoop_ends {card : CardType} (hw : Transmitter U card) (e : Extension U)
    (hquiet : hw.quiet e.uart) (hcard : e.cfg.cardType = card) (hamount : 1 ≤ e.cfg.txFifoAmount) :
    (∃ n, (e.isrLoop n).isSome = true) ∧
      ∀ n, (e.isrLoopEntries n).count .restart ≤ e.tx.writeLength + 3 ∧
        ((∀ x ∈ (e.isrLoopEntries n).tail, x = .restart) →
          (e.isrLoopEntries n).length ≤ e.tx.writeLength + 3) := by
  have hready : Ready hw e := ⟨hquiet, hcard, hamount⟩
  refine ⟨⟨_, isSome_isrLoop _ hready (Nat.lt_succ_self _)⟩, fun n => ⟨?_, ?_⟩⟩
  · exact (count_restart_le n hready).trans (waiting_le e)
  · exact length_entries_le n hready

/-- With nothing received, the line status tells about the transmitter only. -/
theorem Chip.lineStatus_eq {c : Chip} (hreceived : c.received = []) (hoverrun : c.overrun = false) :
    c.lineStatus = if c.transmit.isEmpty then lsrThre ||| lsrTemt else 0 := by
  unfold lineStatus headStatus
  rw [hreceived, hoverrun]
  cases c.transmit.isEmpty <;> rfl

/-- The small chip with its modem lines up, on a card that shows the level of the transmit FIFO. -/
def Chip.transmitter : Transmitter Chip .pci where
  quiet c := c.received = [] ∧ c.overrun = false ∧ c.msr = msrCts ||| msrDsr ||| msrDcd
  lines := msrCts ||| msrDsr ||| msrDcd
  fill c := c.transmit.length
  pending c := c.thrPending
  quiet_read r c h := by
    obtain ⟨hreceived, hoverrun, hmsr⟩ := h
    cases r with
    | data => exact ⟨by simp [Uart.read, Chip.read, hreceived], hoverrun, hmsr⟩
    | iir =>
      simp only [Uart.read, Chip.read]
      split <;> exact ⟨hreceived, hoverrun, hmsr⟩
    | lsr => exact ⟨hreceived, rfl, hmsr⟩
    | msr =>
      refine ⟨hreceived, hoverrun, ?_⟩
      show c.msr &&& ~~~msrDelta = _
      rw [hmsr]
      decide
    | _ => exact ⟨hreceived, hoverrun, hmsr⟩
  quiet_write r v c hr h := by
    cases r with
    | ier => exact absurd rfl hr
    | _ => exact h
  lsr c h := by
    show lineError c.lineStatus = false
    rw [Chip.lineStatus_eq h.1 h.2.1]
    cases c.transmit.isEmpty <;> decide
  msr c h := h.2.2
  lines_delta := by decide
  iir c h := by
    have hclean : has c.lineStatus (lsrOe ||| lsrPe ||| lsrFe ||| lsrBi) = false := by
      rw [Chip.lineStatus_eq h.1 h.2.1]
      cases c.transmit.isEmpty <;> decide
    have hcause : c.cause = if c.thrPending then iirThr else iirNoInterruptPending := by
      unfold Chip.cause
      rw [hclean, h.1, h.2.2]
      rfl
    cases hpending : c.thrPending with
    | false =>
      left
      show has c.cause _ = true
      rw [hcause, hpending]
      decide
    | true =>
      right
      have hthr : c.cause = iirThr := by
        rw [hcause, hpending]
        rfl
      refine ⟨?_, rfl, ?_⟩
      · show c.cause &&& _ = _
        rw [hthr]
        decide
      · show (if c.cause = iirThr then { c with thrPending := false } else c).thrPending = false
        rw [if_pos hthr]
  thre c h hthre size hsize := by
    have hsize' : size = 64 := (Option.some.inj hsize).symm
    have hempty : c.transmit.isEmpty = true := by
      by_contra hne
      have hnone : has c.lineStatus lsrThre = false := by
        rw [Chip.lineStatus_eq h.1 h.2.1, if_neg hne]
        decide
      have hthre' : has c.lineStatus lsrThre = true := hthre
      rw [hnone] at hthre'
      cases hthre'
    rw [List.isEmpty_iff.mp hempty, hsize']
    decide
  fill_read r c := by
    cases r with
    | iir =>
      simp only [Uart.read, Chip.read]
      split <;> exact le_refl _
    | _ => exact le_refl _
  fill_write r v c hr := by
    cases r with
    | data => exact absurd rfl hr
    | ier =>
      show (c.writeIer v).transmit.length ≤ _
      unfold Chip.writeIer Chip.raiseThr
      split
      · exact le_refl _
      · split <;> exact le_refl _
    | _ => exact le_refl _
  level e _ hcard := by
    unfold txFifoFill
    rw [hcard]
    exact Nat.mod_le _ _
  pending_read r c h := by
    cases r with
    | iir =>
      simp only [Uart.read, Chip.read] at h
      split at h
      · cases h
      · exact h
    | _ => exact h
  pending_write r v c hd hi h := by
    cases r with
    | data => exact absurd rfl hd
    | ier => exact absurd rfl hi
    | _ => exact h

/-- An opened port with a write and an XON to send. -/
def restartPort : Extension Chip :=
  let e := Extension.opened Chip.idle { Config.plain with cardType := .pci } 64
  { e with tx := { e.tx with writeLength := 3, writeCurrentChar := [1, 2, 3], sendXonChar := true } }

theorem restartLoop_ends_restartPort :
    (∃ n, (restartPort.isrLoop n).isSome = true) ∧
      ∀ n, (restartPort.isrLoopEntries n).count .restart ≤ 6 := by
  obtain ⟨hends, hbound⟩ := restartLoop_ends Chip.transmitter restartPort ⟨rfl, rfl, rfl⟩ rfl (by decide)
  exact ⟨hends, fun n => (hbound n).1⟩

end SerialFc
