import SerialFc.Lib.Run
import SerialFc.Model.Chip
import SerialFc.Model.Traced
import SerialFc.Properties.SharedRule

/-!
# What the transmitter may send

`TXHolding` collects the reasons for which transmission is held: three modem lines, an XOFF, a
break. `MayTransmit` says what each of them lets through; the transmit case of the ISR sends
nothing else, and the reasons that stand for a modem line are there only while the handshake on
this line is on.
-/

namespace SerialFc

open Extension Lib

/-! ## The law -/

section
variable {U : Type} [Uart U]

/-- `PCI_FIFO_SIZE`, `PCIE_FIFO_SIZE`, `FSCC_FIFO_SIZE`. -/
def CardType.fifoSize : CardType → Option Nat
  | .pci => some 64
  | .pcie => some 256
  | .fscc => some 128
  | .other => none

namespace Extension

/-- The fill level that the card reports when it is asked now. -/
def txFifoFill (e : Extension U) : Nat :=
  match e.cfg.cardType with
  | .fscc => e.fastcomGetTxFifoFillFscc.1.toNat
  | _ => (e.readReg .txtrg).1.toNat

/-- The state in which the transmit case chooses what to send: the hold reasons follow the modem
lines if output flow control is on. -/
def refreshed (e : Extension U) : Extension U :=
  (e.setHoldingEmpty true).setEmptiedTransmit.updateBeforeTransmit

/-- The modem status that `SerialHandleModemUpdate` reads there. -/
def statusBeforeTransmit (e : Extension U) : UInt8 :=
  ((e.setHoldingEmpty true).setEmptiedTransmit.serialHandleModemUpdate true).1

end Extension

/-- The ISR may write `bytes` to the holding register and move the write pointer by `n`. -/
inductive MayTransmit (r : Extension U) : List UInt8 → Nat → Prop
  | nothing : MayTransmit r [] 0
  | xon (hsend : r.tx.sendXonChar = true) (hfree : r.tx.txHolding.anyButXoff = false) :
      MayTransmit r [r.cfg.specialChars.xonChar] 0
  | xoff (hsend : r.tx.sendXoffChar = true) (hfree : r.tx.txHolding.any = false) :
      MayTransmit r [r.cfg.specialChars.xoffChar] 0
  | immediate (hsend : r.tx.transmitImmediate = true)
      (hfree : r.tx.txHolding.any = false ∨ r.tx.txHolding.onlyXoff = true) :
      MayTransmit r [r.tx.immediateChar] 0
  | data (n : Nat) (hsend : r.tx.writeLength ≠ 0) (hfree : r.tx.txHolding.any = false)
      (hlength : n ≤ r.tx.writeLength)
      (hamount : r.cfg.fifoPresent = true → n ≤ r.cfg.txFifoAmount)
      (hroom : r.cfg.fifoPresent = true → ∀ size, r.cfg.cardType.fifoSize = some size →
        r.txFifoFill ≤ size → n ≤ size - r.txFifoFill)
      (hone : r.cfg.fifoPresent = false → n = 1) :
      MayTransmit r (r.tx.writeCurrentChar.take n) n

end

/-! ## What is written to the holding register -/

section
variable {U : Type} [Uart U]

/-- Nothing but the transmit case writes to the holding register. -/
theorem sent_putRule :
    PutRule fun e e' : Extension (Traced U) => e'.uart.sent = e.uart.sent where
  refl _ := rfl
  trans h h' := h'.trans h
  readReg _ _ := rfl
  writeReg e r v hd _ := Traced.sent_write_of_ne hd v e.uart
  events _ _ _ _ := rfl
  txHolding _ _ := rfl
  holdingEmpty _ _ := rfl
  special _ b := by cases b <;> rfl
  rxHolding _ _ := rfl
  tryingToLowerRts _ _ := rfl
  insertDpc _ _ _ := rfl
  answerWait e _ := congrArg Traced.sent (uart_modifyCurrent _ _ _)
  countXoff e := congrArg Traced.sent (uart_countXoff e)
  storeUser e c _ := congrArg Traced.sent (uart_storeUser e c)
  putRing _ _ _ _ := rfl
  overwriteLast _ _ _ := rfl

theorem sent_insertStartTimerLowerRts (e : Extension (Traced U)) :
    e.insertStartTimerLowerRts.uart.sent = e.uart.sent :=
  sent_putRule.insertStartTimerLowerRts e

theorem sent_writeSpecial (c : UInt8) (e : Extension (Traced U)) :
    (e.writeSpecial c).uart.sent = e.uart.sent ++ [c] := by
  unfold writeSpecial
  split
  · rw [sent_insertStartTimerLowerRts]
    show (Uart.write .data c (e.serialSetRts.addTransmitted 1).uart).sent = _
    rw [Traced.sent_write_data]
    exact congrArg (· ++ [c]) (sent_putRule.serialSetRts e)
  · exact Traced.sent_write_data c e.uart

theorem sent_writeTransmitFifo (bytes : List UInt8) (e : Extension (Traced U)) :
    (e.writeTransmitFifo bytes).uart.sent = e.uart.sent ++ bytes := by
  induction bytes generalizing e with
  | nil => exact (List.append_nil _).symm
  | cons b bytes ih =>
    show ((e.writeReg .data b).writeTransmitFifo bytes).uart.sent = _
    rw [ih]
    show (Uart.write .data b e.uart).sent ++ bytes = _
    rw [Traced.sent_write_data, List.append_assoc]
    rfl

theorem sent_writeChunk (mark : UInt8) (bytes : List UInt8) (e : Extension (Traced U)) :
    (e.writeChunk mark bytes).uart.sent = e.uart.sent ++ bytes := by
  induction bytes generalizing e mark with
  | nil => exact (List.append_nil _).symm
  | cons b bytes ih =>
    have hspr : (e.writeSpr mark).uart.sent = e.uart.sent := by
      unfold writeSpr
      split
      · exact Traced.sent_write_of_ne (by decide) mark e.uart
      · rfl
    show (((e.writeSpr mark).writeReg .data b).writeChunk 0 bytes).uart.sent = _
    rw [ih]
    show (Uart.write .data b (e.writeSpr mark).uart).sent ++ bytes = _
    rw [Traced.sent_write_data, hspr, List.append_assoc]
    rfl

theorem sent_writeBytes (bytes : List UInt8) (e : Extension (Traced U)) :
    (e.writeBytes bytes).uart.sent = e.uart.sent ++ bytes := by
  unfold writeBytes
  split
  · rw [sent_insertStartTimerLowerRts, sent_writeTransmitFifo]
    exact congrArg (· ++ bytes) (sent_putRule.serialSetRts e)
  · rw [sent_writeChunk]
    rfl

omit [Uart U] in
theorem sent_advanceWrite (n : Nat) (e : Extension (Traced U)) :
    (e.advanceWrite n).uart.sent = e.uart.sent := by
  unfold advanceWrite
  split
  · exact congrArg Traced.sent (uart_modifyCurrent _ _ _)
  · rfl

theorem sent_transmitXoff (e : Extension (Traced U)) :
    e.transmitXoff.uart.sent = e.uart.sent ++ [e.cfg.specialChars.xoffChar] := by
  have hhold (e : Extension (Traced U)) : e.holdAfterXoff.uart.sent = e.uart.sent := by
    unfold holdAfterXoff
    split
    · rfl
    · exact sent_putRule.statusRule.toggleTimer (e.setTxXoff true)
  exact (hhold _).trans (sent_writeSpecial _ e)

theorem sent_amountToWrite (e : Extension (Traced U)) :
    e.amountToWrite.2.uart.sent = e.uart.sent := by
  have hfill : e.fastcomGetTxFifoFillFscc.2.uart.sent = e.uart.sent := by
    simp [fastcomGetTxFifoFillFscc, readReg, writeReg, Traced.sent_write_of_ne]
  unfold amountToWrite fastcomGetTxFifoSpace
  split
  · cases e.cfg.cardType with
    | fscc => exact hfill
    | _ => rfl
  · rfl

theorem sent_transmitData (e : Extension (Traced U)) : e.transmitData.uart.sent =
    e.uart.sent ++ e.tx.writeCurrentChar.take e.amountToWrite.1 := by
  unfold transmitData
  rw [sent_advanceWrite, sent_writeBytes, sent_amountToWrite e]

/-! ## The write pointer -/

/-- `WriteLength` and what `WriteCurrentChar` points to. -/
def Extension.writeRest (e : Extension U) : Nat × List UInt8 :=
  (e.tx.writeLength, e.tx.writeCurrentChar)

theorem writeRest_writeSpecial (c : UInt8) (e : Extension U) :
    (e.writeSpecial c).writeRest = e.writeRest := by
  unfold writeSpecial
  split
  · unfold writeRest
    rw [tx_insertStartTimerLowerRts]
    rfl
  · rfl

theorem writeRest_transmitXon (e : Extension U) : e.transmitXon.writeRest = e.writeRest :=
  writeRest_writeSpecial _ e

theorem writeRest_transmitXoff (e : Extension U) : e.transmitXoff.writeRest = e.writeRest := by
  have hhold (e : Extension U) : e.holdAfterXoff.writeRest = e.writeRest := by
    unfold holdAfterXoff toggleTimer
    split
    · rfl
    · split
      · unfold writeRest
        rw [tx_insertStartTimerLowerRts]
        rfl
      · rfl
  exact (hhold _).trans (writeRest_writeSpecial _ e)

theorem writeRest_transmitImmediateChar (e : Extension U) :
    e.transmitImmediateChar.writeRest = e.writeRest :=
  writeRest_writeSpecial _ e

theorem writeRest_writeBytes (bytes : List UInt8) (e : Extension U) :
    (e.writeBytes bytes).writeRest = e.writeRest := by
  unfold writeBytes
  split
  · unfold writeRest
    rw [tx_insertStartTimerLowerRts]
    show ((writeTransmitFifo bytes _).tx.writeLength,
      (writeTransmitFifo bytes _).tx.writeCurrentChar) = _
    rw [tx_writeTransmitFifo]
    rfl
  · unfold writeRest
    rw [tx_writeChunk]
    rfl

theorem writeRest_transmitData (e : Extension U) : e.transmitData.writeRest =
    (e.tx.writeLength - e.amountToWrite.1, e.tx.writeCurrentChar.drop e.amountToWrite.1) := by
  have hmove (n : Nat) (e : Extension U) : (e.advanceWrite n).writeRest =
      (e.writeRest.1 - n, e.writeRest.2.drop n) := by
    unfold advanceWrite
    split
    · unfold writeRest
      show ((modifyCurrent .write _ _).tx.writeLength,
        (modifyCurrent .write _ _).tx.writeCurrentChar) = _
      rw [tx_modifyCurrent]
      rfl
    · rfl
  show (((e.amountToWrite.2.writeBytes _).advanceWrite _).writeRest = _)
  rw [hmove, writeRest_writeBytes]
  unfold writeRest
  rw [tx_amountToWrite]

/-! ## The transmit case -/

/-- What goes out at one execution of the transmit case, and that the write pointer moves with it. -/
structure HoldLaw (e : Extension (Traced U)) : Prop where
  refreshed : e.handFlow.outHandshake = true →
    e.refreshed.tx.txHolding.cts = (e.handFlow.ctsHandshake && !has e.statusBeforeTransmit msrCts) ∧
    e.refreshed.tx.txHolding.dsr = (e.handFlow.dsrHandshake && !has e.statusBeforeTransmit msrDsr) ∧
    e.refreshed.tx.txHolding.dcd = (e.handFlow.dcdHandshake && !has e.statusBeforeTransmit msrDcd)
  sends : ∃ bytes n, MayTransmit e.refreshed bytes n ∧
    e.transmit.uart.sent = e.uart.sent ++ bytes ∧
    e.transmit.tx.writeLength = e.tx.writeLength - n ∧
    e.transmit.tx.writeCurrentChar = e.tx.writeCurrentChar.drop n
  still : e.tx.writeLength = 0 →
    e.transmit.tx.writeLength = 0 ∧ e.transmit.tx.writeCurrentChar = e.tx.writeCurrentChar

/-- Below the FIFO's size, the room is what the fill level leaves of it. -/
theorem fastcomGetTxFifoSpace_of_fill {r : Extension U} {size : Nat}
    (hsize : r.cfg.cardType.fifoSize = some size) (hfill : r.txFifoFill ≤ size) :
    r.fastcomGetTxFifoSpace.1 = size - r.txFifoFill := by
  unfold txFifoFill at hfill ⊢
  unfold fastcomGetTxFifoSpace
  cases hcard : r.cfg.cardType with
  | other => rw [hcard] at hsize; cases hsize
  | _ =>
    rw [hcard] at hsize hfill
    cases hsize
    exact if_pos hfill

theorem mayTransmit_data {r : Extension U} (hlength : r.tx.writeLength ≠ 0)
    (hfree : r.tx.txHolding.any = false) :
    MayTransmit r (r.tx.writeCurrentChar.take r.amountToWrite.1) r.amountToWrite.1 := by
  refine .data _ hlength hfree (amountToWrite_le hlength) (fun hfifo => ?_) (fun hfifo => ?_)
    fun hfifo => ?_
  · unfold amountToWrite
    rw [if_pos hfifo]
    exact (Nat.min_le_left _ _).trans (Nat.min_le_right _ _)
  · intro size hsize hfill
    rw [← fastcomGetTxFifoSpace_of_fill hsize hfill]
    unfold amountToWrite
    rw [if_pos hfifo]
    exact (Nat.min_le_left _ _).trans (Nat.min_le_left _ _)
  · unfold amountToWrite
    rw [if_neg (by rw [hfifo]; decide)]

theorem transmitNext_sends (r : Extension (Traced U)) (hsend : r.toSend = true) :
    ∃ bytes n, MayTransmit r bytes n ∧ r.transmitNext.uart.sent = r.uart.sent ++ bytes ∧
      r.transmitNext.writeRest = (r.tx.writeLength - n, r.tx.writeCurrentChar.drop n) := by
  unfold transmitNext
  split
  · next hxon =>
    simp only [Bool.and_eq_true, Bool.not_eq_true'] at hxon
    exact ⟨_, _, .xon hxon.1 hxon.2, sent_writeSpecial _ r, writeRest_transmitXon r⟩
  · next hxon =>
    split
    · next hxoff =>
      simp only [Bool.and_eq_true, Bool.not_eq_true'] at hxoff
      exact ⟨_, _, .xoff hxoff.1 hxoff.2, sent_transmitXoff r, writeRest_transmitXoff r⟩
    · next hxoff =>
      split
      · next himm =>
        simp only [Bool.and_eq_true, Bool.or_eq_true, Bool.not_eq_true'] at himm
        exact ⟨_, _, .immediate himm.1 himm.2, sent_writeSpecial _ r,
          writeRest_transmitImmediateChar r⟩
      · next himm =>
        split
        · next hfree =>
          have hlength := writeLength_ne_zero_of_toSend hsend hxon hxoff himm hfree
          exact ⟨_, _, mayTransmit_data hlength (by simpa using hfree), sent_transmitData r,
            writeRest_transmitData r⟩
        · exact ⟨[], 0, .nothing, (List.append_nil _).symm, rfl⟩

/-- The out-handshake bits are right whatever they were before. -/
theorem txHolding_modemHolding (b : Bool) (old : TxHolding) (status : UInt8) (e : Extension U)
    (hout : e.handFlow.outHandshake = true) :
    (e.modemHolding b old status).tx.txHolding = (e.followModem status).tx.txHolding := by
  have htoggle (e : Extension U) : (e.toggleOnHold old).tx.txHolding = e.tx.txHolding := by
    unfold toggleOnHold
    split
    · rw [tx_insertStartTimerLowerRts]
    · rfl
  have hrestart (e : Extension U) : (e.restartOnRelease b old).tx.txHolding = e.tx.txHolding := by
    unfold restartOnRelease restartTransmit
    split
    · split <;> rfl
    · rfl
  unfold modemHolding
  rw [if_pos hout, hrestart, htoggle]

/-- `SerialHandleModemUpdate` leaves the bits as the lines were when it read them. -/
theorem txHolding_serialHandleModemUpdate (b : Bool) (e : Extension U)
    (hout : e.handFlow.outHandshake = true) :
    (e.serialHandleModemUpdate b).2.tx.txHolding.cts =
        (e.handFlow.ctsHandshake && !has (e.serialHandleModemUpdate b).1 msrCts) ∧
      (e.serialHandleModemUpdate b).2.tx.txHolding.dsr =
        (e.handFlow.dsrHandshake && !has (e.serialHandleModemUpdate b).1 msrDsr) ∧
      (e.serialHandleModemUpdate b).2.tx.txHolding.dcd =
        (e.handFlow.dcdHandshake && !has (e.serialHandleModemUpdate b).1 msrDcd) := by
  have hwith {put : UInt8 → Extension U → Extension U}
      (hput : ∀ c e, (put c e).cfg = e.cfg) (b : Bool) (e : Extension U)
      (hout : e.handFlow.outHandshake = true) :
      (e.modemUpdateWith put b).2.tx.txHolding.cts =
          (e.handFlow.ctsHandshake && !has (e.modemUpdateWith put b).1 msrCts) ∧
        (e.modemUpdateWith put b).2.tx.txHolding.dsr =
          (e.handFlow.dsrHandshake && !has (e.modemUpdateWith put b).1 msrDsr) ∧
        (e.modemUpdateWith put b).2.tx.txHolding.dcd =
          (e.handFlow.dcdHandshake && !has (e.modemUpdateWith put b).1 msrDcd) := by
    have hinsert := cfg_sharedRule.statusRule.charRule.insertMst hput (e.readReg .msr).1 (e.readReg .msr).2
    have hevents := cfg_sharedRule.statusRule.modemEvents (e.readReg .msr).1
      (((e.readReg .msr).2.insertMst put (e.readReg .msr).1).followDsr (e.readReg .msr).1)
    have hcfg := hevents.trans hinsert
    unfold modemUpdateWith
    dsimp only
    rw [txHolding_modemHolding _ _ _ _ (by unfold handFlow; rw [hcfg]; exact hout)]
    simp only [followModem, putHolding, handFlow, hcfg]
    exact ⟨rfl, rfl, rfl⟩
  unfold serialHandleModemUpdate
  cases Uart.modemChanges e.uart with
  | zero => exact hwith (fun _ _ => rfl) b e hout
  | succ n =>
    exact hwith (cfg_sharedRule.statusRule.charRule.putCharWith
      (cfg_sharedRule.statusRule.charRule.handleModemUpdateN n false)) b e hout

theorem holdLaw (e : Extension (Traced U)) : HoldLaw e := by
  have hkeep : e.refreshed.writeRest = e.writeRest := by
    have hrule := keepsToSend_putRule.statusRule.serialHandleModemUpdate true
      (e.setHoldingEmpty true).setEmptiedTransmit
    unfold refreshed updateBeforeTransmit
    split
    · exact Prod.ext hrule.1 hrule.2.1
    · rfl
  have hsent : e.refreshed.uart.sent = e.uart.sent := by
    unfold refreshed updateBeforeTransmit
    split
    · exact sent_putRule.statusRule.serialHandleModemUpdate true _
    · rfl
  have hsends : ∃ bytes n, MayTransmit e.refreshed bytes n ∧
      e.transmit.uart.sent = e.uart.sent ++ bytes ∧
      e.transmit.writeRest = (e.tx.writeLength - n, e.tx.writeCurrentChar.drop n) := by
    unfold transmit
    split
    · next hsend =>
      obtain ⟨bytes, n, hmay, hbytes, hrest⟩ := transmitNext_sends e.refreshed
        (toSend_updateBeforeTransmit (e.setHoldingEmpty true).setEmptiedTransmit hsend)
      simp only [writeRest, Prod.mk.injEq] at hkeep
      rw [hsent] at hbytes
      rw [hkeep.1, hkeep.2] at hrest
      exact ⟨bytes, n, hmay, hbytes, hrest⟩
    · exact ⟨[], 0, .nothing, (List.append_nil _).symm, rfl⟩
  obtain ⟨bytes, n, hmay, hbytes, hrest⟩ := hsends
  simp only [writeRest, Prod.mk.injEq] at hrest hkeep
  refine ⟨fun hout => ?_, ⟨bytes, n, hmay, hbytes, hrest⟩, fun hzero => ?_⟩
  · unfold refreshed updateBeforeTransmit
    rw [if_pos (by exact hout)]
    exact txHolding_serialHandleModemUpdate true _ hout
  · have hn : n = 0 := by
      cases hmay with
      | data n hlength => exact absurd (hkeep.1.trans hzero) hlength
      | _ => rfl
    rw [hrest.1, hrest.2, hn, hzero]
    exact ⟨rfl, rfl⟩

/-! ## Whole runs -/

/-- A modem line holds transmission only while the handshake on it is on. -/
structure HeldByHandshake (e : Extension U) : Prop where
  cts : e.tx.txHolding.cts = true → e.handFlow.ctsHandshake = true
  dsr : e.tx.txHolding.dsr = true → e.handFlow.dsrHandshake = true
  dcd : e.tx.txHolding.dcd = true → e.handFlow.dcdHandshake = true

omit [Uart U] in
theorem HeldByHandshake.congr {e e' : Extension U} (h : HeldByHandshake e)
    (hholding : (e'.tx.txHolding.cts, e'.tx.txHolding.dsr, e'.tx.txHolding.dcd) =
      (e.tx.txHolding.cts, e.tx.txHolding.dsr, e.tx.txHolding.dcd))
    (hflow : e'.handFlow.controlHandShake = e.handFlow.controlHandShake) : HeldByHandshake e' := by
  simp only [Prod.mk.injEq] at hholding
  refine ⟨fun hc => ?_, fun hd => ?_, fun hd => ?_⟩
  · exact (congrArg (has32 · 0x08) hflow).trans (h.cts (hholding.1 ▸ hc))
  · exact (congrArg (has32 · 0x10) hflow).trans (h.dsr (hholding.2.1 ▸ hd))
  · exact (congrArg (has32 · 0x20) hflow).trans (h.dcd (hholding.2.2 ▸ hd))

theorem txHolding_restartOnRelease (b : Bool) (old : TxHolding) (e : Extension U) :
    (e.restartOnRelease b old).tx.txHolding = e.tx.txHolding := by
  unfold restartOnRelease restartTransmit
  split
  · split <;> rfl
  · rfl

/-- The modem part of the hold reasons is set anew at every modem status. -/
theorem heldByHandshake_modemHolding (b : Bool) (old : TxHolding) (status : UInt8)
    (e : Extension U) : HeldByHandshake (e.modemHolding b old status) := by
  have hcfg : (e.modemHolding b old status).handFlow = e.handFlow := by
    unfold handFlow
    rw [cfg_sharedRule.statusRule.modemHolding b old status e]
  cases hout : e.handFlow.outHandshake with
  | true =>
    have hholding := txHolding_modemHolding b old status e hout
    refine ⟨fun hc => ?_, fun hd => ?_, fun hd => ?_⟩ <;> rw [hcfg]
    · rw [hholding] at hc
      exact (Bool.and_eq_true_iff.mp hc).1
    · rw [hholding] at hd
      exact (Bool.and_eq_true_iff.mp hd).1
    · rw [hholding] at hd
      exact (Bool.and_eq_true_iff.mp hd).1
  | false =>
    have hnone : (e.modemHolding b old status).tx.txHolding.dcd = false ∧
        (e.modemHolding b old status).tx.txHolding.dsr = false ∧
        (e.modemHolding b old status).tx.txHolding.cts = false := by
      unfold modemHolding
      rw [if_neg (by rw [hout]; decide)]
      split
      · rw [txHolding_restartOnRelease]
        exact ⟨rfl, rfl, rfl⟩
      · next hfree => simpa [and_assoc] using hfree
    obtain ⟨hdcd, hdsr, hcts⟩ := hnone
    refine ⟨fun hc => ?_, fun hd => ?_, fun hd => ?_⟩
    · rw [hcts] at hc
      cases hc
    · rw [hdsr] at hd
      cases hd
    · rw [hdcd] at hd
      cases hd

theorem heldByHandshake_serialHandleModemUpdate (b : Bool) (e : Extension U) :
    HeldByHandshake (e.serialHandleModemUpdate b).2 := by
  unfold serialHandleModemUpdate
  cases Uart.modemChanges e.uart with
  | zero => exact heldByHandshake_modemHolding _ _ _ _
  | succ n => exact heldByHandshake_modemHolding _ _ _ _

omit [Uart U] in
theorem heldByHandshake_sharedRule :
    SharedRule fun e e' : Extension U => HeldByHandshake e → HeldByHandshake e' where
  trans hab hbc := hbc ∘ hab
  lines e e' hlines := by
    simp only [lines, Prod.mk.injEq] at hlines
    obtain ⟨_, hcfg, _, _, hholding, _⟩ := hlines
    exact fun h => h.congr (by rw [hholding]) (by rw [handFlow, hcfg])
  uart _ _ h := h.congr rfl rfl
  events _ _ h := h.congr rfl rfl
  holdingEmpty _ _ h := h.congr rfl rfl
  special _ b h := by cases b <;> exact h.congr rfl rfl
  rxHolding _ _ h := h.congr rfl rfl
  setTxXoff _ _ h := h.congr rfl rfl
  setTxBreak _ _ h := h.congr rfl rfl
  xonSent _ h := h.congr rfl rfl
  xoffSent _ h := h.congr rfl rfl
  followModem _ _ _ := ⟨fun hc => (Bool.and_eq_true_iff.mp hc).1,
    fun hd => (Bool.and_eq_true_iff.mp hd).1, fun hd => (Bool.and_eq_true_iff.mp hd).1⟩
  clearModemHolding _ _ := ⟨nofun, nofun, nofun⟩
  insertStartTimerLowerRts e h := by
    refine h.congr (by rw [tx_insertStartTimerLowerRts]) ?_
    unfold insertStartTimerLowerRts
    split <;> rfl

theorem heldByHandshake_rule :
    StepRule (fun _ => False) fun e e' : Extension U => HeldByHandshake e → HeldByHandshake e' := by
  refine heldByHandshake_sharedRule.stepRule (fun e c hflow _ h => h.congr rfl hflow) (fun e n h => h.congr rfl rfl)
    (fun e t h => h.congr rfl rfl) (fun e h => h.congr rfl rfl) fun new e _ => ?_
  -- the last thing a change of the handshaking does is to look at the modem status
  exact heldByHandshake_serialHandleModemUpdate false _

/-- **The transmission hold law.** The transmit case obeys it in whatever state the ISR comes to it,
and in every state that the driver can reach a modem line holds transmission only by its
handshake. -/
theorem transmission_hold_law (e : Extension (Traced U)) :
    HoldLaw e ∧ ∀ (chip : U) (cfg : Config) (size : Nat)
      (ls : List (Label (Uart.Input (Traced U)))),
      run step ls (opened (Traced.start chip) cfg size) = some e → HeldByHandshake e :=
  ⟨holdLaw e, fun _ _ _ _ hrun => heldByHandshake_rule.run hrun ⟨nofun, nofun, nofun⟩⟩

end

/-- An XOFF character comes in while a write is under way, and the peer's CTS goes down. -/
def heldWrite : List (Label Chip.Input) :=
  [.callback (.setHandFlow ⟨0x08, 0x01, 0, 0⟩), .hardware (.receive ⟨0x13, 0⟩), .isr 4,
    .callback (.evtIoWrite [1, 2, 3]), .hardware (.modem msrDsr)]

theorem transmission_hold_law_heldWrite :
    ∃ e, run step heldWrite (opened (Traced.start Chip.idle) .plain 8) = some e ∧
      (e.tx.txHolding.xoff && e.toSend && e.refreshed.tx.txHolding.cts) = true ∧
      HoldLaw e ∧ HeldByHandshake e := by
  have hrun : (run step heldWrite (opened (Traced.start Chip.idle) .plain 8)).any
      (fun e => e.tx.txHolding.xoff && e.toSend && e.refreshed.tx.txHolding.cts) = true := by
    decide +kernel
  obtain ⟨e, he, hheld⟩ := (Option.any_eq_true _ _).mp hrun
  exact ⟨e, he, hheld, (transmission_hold_law e).1, (transmission_hold_law e).2 _ _ _ _ he⟩

/-- A card that is run without its FIFO, as after restoring the settings. -/
def withoutFifo : Config :=
  { Config.plain with cardType := .pci, fifoPresent := false, txFifoAmount := 0 }

/-- Without the FIFO, one byte goes out whatever `TxFifoAmount` says. -/
theorem transmit_exceeds_withoutFifo :
    ¬∀ (ls : List (Label Chip.Input)) (e : Extension (Traced Chip)),
      run step ls (opened (Traced.start Chip.idle) withoutFifo 8) = some e →
        e.transmit.uart.sent.length ≤ e.uart.sent.length + e.cfg.txFifoAmount := by
  intro hall
  have hrun : (run step [.callback (.evtIoWrite [7])]
      (opened (Traced.start Chip.idle) withoutFifo 8)).any fun e =>
        decide (e.uart.sent.length + e.cfg.txFifoAmount < e.transmit.uart.sent.length) = true := by
    decide +kernel
  obtain ⟨e, he, hlt⟩ := (Option.any_eq_true _ _).mp hrun
  have hle := hall _ e he
  simp only [decide_eq_true_eq] at hlt
  omega

end SerialFc
