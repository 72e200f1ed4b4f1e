import SerialFc.Model.PutLog
import SerialFc.Properties.FrameFifo
import SerialFc.Properties.SharedRule

/-!
# What the ISR reads and passes on

* `Account` — the FIFO and what was passed to `SerialPutChar`
* `account_serialProcessLsr`, `account_receiveOne` — what the two routines that read RBR do to it
-/

namespace SerialFc

open Extension

variable {U : Type} [Uart U]

/-! ## What leaves the FIFO alone -/

/-- The receive FIFO is not touched. -/
def KeepsReceive (e e' : Extension (Receiver U)) : Prop := e'.uart.receive = e.uart.receive

omit [Uart U] in
/-- The FIFO is part of the chip, and the lines show the chip. -/
theorem keepsReceive_of_lines {e e' : Extension (Receiver U)} (h : e'.lines = e.lines) :
    KeepsReceive e e' := by
  simp only [lines, Prod.mk.injEq] at h
  exact congrArg Receiver.receive h.1

theorem keepsReceive_holdDtr (e : Extension (Receiver U)) : KeepsReceive e e.holdDtr := by
  refine rel_ite (fun _ => ?_) fun _ => rfl
  unfold serialClrDtr
  split <;> rfl

theorem keepsReceive_holdRts (e : Extension (Receiver U)) : KeepsReceive e e.holdRts :=
  rel_ite (fun _ => rfl) fun _ => rfl

theorem keepsReceive_holdXoff (e : Extension (Receiver U)) : KeepsReceive e e.holdXoff := by
  refine rel_ite (fun _ => ?_) fun _ => rfl
  unfold serialProdXonXoff
  split <;> rfl

theorem keepsReceive_holds (e : Extension (Receiver U)) :
    KeepsReceive e e.holdDtr.holdRts.holdXoff :=
  (keepsReceive_holdXoff _).trans ((keepsReceive_holdRts _).trans (keepsReceive_holdDtr e))

omit [Uart U] in
theorem keepsReceive_toggleOnHold (old : TxHolding) (e : Extension (Receiver U)) :
    KeepsReceive e (e.toggleOnHold old) := by
  refine rel_ite (fun _ => ?_) fun _ => rfl
  unfold insertStartTimerLowerRts
  split <;> rfl

theorem keepsReceive_restartOnRelease (b : Bool) (old : TxHolding) (e : Extension (Receiver U)) :
    KeepsReceive e (e.restartOnRelease b old) :=
  rel_ite (fun _ => rel_ite (fun _ => rfl) fun _ => rfl) fun _ => rfl

/-- Storing a character reads MSR and MCR only. -/
theorem keepsReceive_charRule : CharRule (KeepsReceive (U := U)) where
  refl _ := rfl
  trans h h' := h'.trans h
  readMsr _ := rfl
  counters _ _ _ := rfl
  raise80Full e := keepsReceive_of_lines (lines_of_shared (shared_raise80Full e))
  modemEvents status e := keepsReceive_of_lines (lines_of_shared (shared_modemEvents status e))
  abortOnError e := keepsReceive_of_lines (lines_of_shared (shared_abortOnError e))
  holds := keepsReceive_holds
  storeInRing e c _ _ := (keepsReceive_of_lines (lines_putRing c _)).trans (keepsReceive_holds e)
  overwriteLast _ _ _ := rfl
  countXoff e := keepsReceive_of_lines (lines_of_shared (shared_countXoff e))
  storeUser e c _ := keepsReceive_of_lines (lines_storeUser c e)
  followDsr _ _ := rfl
  modemHolding b old status e := by
    refine rel_ite (fun _ => ?_) fun _ => rel_ite (fun _ => ?_) fun _ => rfl
    · exact (keepsReceive_restartOnRelease b old _).trans (keepsReceive_toggleOnHold old _)
    · exact keepsReceive_restartOnRelease b old _

/-! ## What one routine reads and passes on -/

/-- What the account is about. -/
@[ext] structure Account where
  receive : ReceiveFifo
  put : List UInt8
  cfg : Config

namespace Account

variable {a a' : Account}

/-- A read of RBR, and a character that is passed on for it. -/
def take (char : Option ReceivedFrame → UInt8) (a : Account) : Account :=
  { a with receive := a.receive.readData.2, put := a.put ++ [char a.receive.readData.1] }

/-- A read of LSR, which shows the head of the FIFO. -/
def readLsr (a : Account) : Account := { a with receive := a.receive.readLsr.2 }

/-- From `a` to `a'` RBR was read once for every pair, and its character was passed on. -/
structure Extends (a a' : Account) (pairs : List (Option ReceivedFrame × UInt8)) : Prop where
  cfg : a'.cfg = a.cfg
  reads : a'.receive.reads = a.receive.reads ++ pairs.map Prod.fst
  put : a'.put = a.put ++ pairs.map Prod.snd
  pending : a.receive.pending = (pairs.map Prod.fst).flatMap Option.toList ++ a'.receive.pending
  arrivals : a'.receive.arrivals.flatten.length ≤ a.receive.arrivals.flatten.length

variable {pairs pairs' : List (Option ReceivedFrame × UInt8)}

theorem Extends.refl (a : Account) : Extends a a [] :=
  ⟨rfl, (List.append_nil _).symm, (List.append_nil _).symm, rfl, Nat.le_refl _⟩

/-- Accounts add up. -/
theorem Extends.trans {b : Account} (h : Extends a b pairs) (h' : Extends b a' pairs') :
    Extends a a' (pairs ++ pairs') where
  cfg := h'.cfg.trans h.cfg
  reads := by rw [h'.reads, h.reads, List.map_append, List.append_assoc]
  put := by rw [h'.put, h.put, List.map_append, List.append_assoc]
  pending := by rw [h.pending, h'.pending, List.map_append, List.flatMap_append, List.append_assoc]
  arrivals := Nat.le_trans h'.arrivals h.arrivals

theorem extends_take (char : Option ReceivedFrame → UInt8) (a : Account) :
    Extends a (a.take char) [(a.receive.readData.1, char a.receive.readData.1)] where
  cfg := rfl
  reads := ReceiveFifo.reads_readData a.receive
  put := rfl
  pending := by
    rw [List.map_singleton, List.flatMap_singleton]
    exact ReceiveFifo.pending_readData a.receive
  arrivals := ReceiveFifo.arrivals_readData a.receive

theorem receive_iterate_take (char : Option ReceivedFrame → UInt8) (n : Nat) (a : Account) :
    ((take char)^[n] a).receive = ReceiveFifo.after n a.receive := by
  induction n generalizing a with
  | zero => rfl
  | succ n ih => exact ih (a.take char)

/-- Several frames are taken one after the other. -/
theorem extends_iterate_take (char : Option ReceivedFrame → UInt8) (n : Nat) (a : Account) :
    Extends a ((take char)^[n] a)
      ((ReceiveFifo.taken n a.receive).map fun frame => (frame, char frame)) := by
  induction n generalizing a with
  | zero => exact .refl a
  | succ n ih => exact (extends_take char a).trans (ih (a.take char))

/-- What arrives is not passed on yet. -/
theorem extends_arrive (a : Account) : Extends a { a with receive := a.receive.arrive } [] where
  cfg := rfl
  reads := (List.append_nil _).symm
  put := (List.append_nil _).symm
  pending := (ReceiveFifo.pending_arrive a.receive).symm
  arrivals := ReceiveFifo.arrivals_arrive a.receive

theorem extends_readLsr (a : Account) : Extends a a.readLsr [] where
  cfg := rfl
  reads := (List.append_nil _).symm
  put := (List.append_nil _).symm
  pending := (ReceiveFifo.pending_arrive a.receive).symm
  arrivals := ReceiveFifo.arrivals_arrive a.receive

end Account

/-- Nothing that inserts characters or takes them away. -/
structure Config.Plain (cfg : Config) : Prop where
  escapeChar : cfg.escapeChar = 0
  nineBit : cfg.nineBit = false
  nullStripping : cfg.handFlow.nullStripping = false
  autoTransmit : cfg.handFlow.autoTransmit = false

/-- What `SerialProcessLSR` passes on for a frame that it reads. -/
def Config.lsrChar (cfg : Config) (frame : Option ReceivedFrame) : UInt8 :=
  if cfg.handFlow.errorChar then cfg.specialChars.errorChar
  else frame.elim 0 ReceivedFrame.data

/-- How many frames `SerialProcessLSR` reads for a line status that shows the errors of `f`. -/
def Config.takesFor (cfg : Config) (f : ReceivedFrame) : Nat :=
  if cfg.handFlow.errorChar then f.overrun.toNat + f.parity.toNat + f.framing.toNat
  else f.overrun.toNat

/-- How many frames `SerialProcessLSR` reads if it is called now. -/
def Config.takes (cfg : Config) (r : ReceiveFifo) : Nat :=
  match r.arrive.frames with
  | [] => 0
  | f :: _ => cfg.takesFor (r.shown f)

namespace PutLog

variable {l : PutLog (Receiver U)}

/-- The account of a pass of the ISR. -/
def account (l : PutLog (Receiver U)) : Account := ⟨l.ext.uart.receive, l.put, l.ext.cfg⟩

theorem account_serialPutChar (c : UInt8) (l : PutLog (Receiver U)) :
    (l.serialPutChar c).account = { l.account with put := l.put ++ [c] } :=
  Account.ext (keepsReceive_charRule.serialPutChar c l.ext) rfl
    (cfg_sharedRule.statusRule.serialPutChar c l.ext)

theorem account_readReceiveBuffer (l : PutLog (Receiver U)) :
    l.readReceiveBuffer.2.account =
      { l.account with receive := l.account.receive.readData.2 } := rfl

/-- A read of RBR returns the head of the FIFO, or what the empty FIFO shows. -/
theorem char_readReceiveBuffer (l : PutLog (Receiver U)) :
    l.readReceiveBuffer.1 = l.account.receive.readData.1.elim
      (Uart.read .data l.ext.uart.chip).1 ReceivedFrame.data := rfl

/-! ## Line status -/

section

variable {status : UInt8} {f : ReceivedFrame}

theorem account_replaceByErrorChar (hdata : has status lsrDr = true)
    (herror : l.account.cfg.handFlow.errorChar = true) :
    (l.replaceByErrorChar status).account = l.account.take l.account.cfg.lsrChar := by
  have hput := account_serialPutChar l.ext.cfg.specialChars.errorChar l
  have hread := account_readReceiveBuffer (l.serialPutChar l.ext.cfg.specialChars.errorChar)
  have hdiscard : (l.replaceByErrorChar status).account =
      (l.serialPutChar l.ext.cfg.specialChars.errorChar).readReceiveBuffer.2.account := by
    unfold replaceByErrorChar also Extension.discardIfData
    rw [if_pos hdata]
    rfl
  have hchar : l.account.cfg.lsrChar = fun _ => l.ext.cfg.specialChars.errorChar :=
    funext fun _ => if_pos herror
  rw [hdiscard, hread, hput, hchar]
  rfl

/-- The head is there, since LSR shows it. -/
theorem account_putIfData (hdata : has status lsrDr = true) {frames : List ReceivedFrame}
    (hframes : l.account.receive.frames = f :: frames)
    (herror : l.account.cfg.handFlow.errorChar = false) :
    (l.putIfData status).account = l.account.take l.account.cfg.lsrChar := by
  have hhead : l.account.receive.readData.1 = some f := by
    rw [ReceiveFifo.readData_some (ReceiveFifo.frames_arrive hframes)]
  have hchar : l.readReceiveBuffer.1 = l.account.cfg.lsrChar l.account.receive.readData.1 := by
    rw [char_readReceiveBuffer, Config.lsrChar, herror, hhead]
    rfl
  rw [putIfData, if_pos hdata, putReceiveBuffer, account_serialPutChar,
    account_readReceiveBuffer, hchar]
  rfl

theorem account_replaceIfErrorChar (hdata : has status lsrDr = true) (l : PutLog (Receiver U)) :
    (l.replaceIfErrorChar status).account =
      (Account.take l.account.cfg.lsrChar)^[l.account.cfg.handFlow.errorChar.toNat] l.account := by
  unfold replaceIfErrorChar
  split
  · next herror =>
    have herror : l.account.cfg.handFlow.errorChar = true := herror
    rw [account_replaceByErrorChar hdata herror, herror]
    rfl
  · next hno =>
    have herror : l.account.cfg.handFlow.errorChar = false := Bool.eq_false_iff.mpr hno
    rw [herror]
    rfl

theorem account_lsrOverrun (hs : ReceiveFifo.Shows status f) {g : ReceivedFrame}
    {frames : List ReceivedFrame} (hframes : l.account.receive.frames = g :: frames) :
    (l.lsrOverrun status).account =
      (Account.take l.account.cfg.lsrChar)^[f.overrun.toNat] l.account := by
  unfold lsrOverrun
  rw [hs.overrun]
  cases f.overrun with
  | false => rfl
  | true =>
    rw [if_pos rfl]
    split
    · next herror =>
      exact account_replaceByErrorChar (l := l.also Extension.countOverrunError) hs.data herror
    · next hno =>
      have herror : l.account.cfg.handFlow.errorChar = false := Bool.eq_false_iff.mpr hno
      exact account_putIfData (l := l.also Extension.countOverrunError) hs.data hframes herror

/-- Parity and framing errors: a frame is read for each with `SERIAL_ERROR_CHAR` only. -/
theorem account_lsrParity (hs : ReceiveFifo.Shows status f) (l : PutLog (Receiver U)) :
    (l.lsrParity status).account = (Account.take l.account.cfg.lsrChar)^[
      if l.account.cfg.handFlow.errorChar then f.parity.toNat else 0] l.account := by
  unfold lsrParity
  rw [hs.parity]
  cases f.parity with
  | false =>
    rw [Bool.toNat_false, ite_self]
    rfl
  | true =>
    rw [if_pos rfl, account_replaceIfErrorChar hs.data]
    show (Account.take l.account.cfg.lsrChar)^[l.account.cfg.handFlow.errorChar.toNat] l.account = _
    cases l.account.cfg.handFlow.errorChar <;> rfl

theorem account_lsrFraming (hs : ReceiveFifo.Shows status f) (l : PutLog (Receiver U)) :
    (l.lsrFraming status).account = (Account.take l.account.cfg.lsrChar)^[
      if l.account.cfg.handFlow.errorChar then f.framing.toNat else 0] l.account := by
  unfold lsrFraming
  rw [hs.framing]
  cases f.framing with
  | false =>
    rw [Bool.toNat_false, ite_self]
    rfl
  | true =>
    rw [if_pos rfl, account_replaceIfErrorChar hs.data]
    show (Account.take l.account.cfg.lsrChar)^[l.account.cfg.handFlow.errorChar.toNat] l.account = _
    cases l.account.cfg.handFlow.errorChar <;> rfl

theorem cfg_iterate_take (char : Option ReceivedFrame → UInt8) (n : Nat) (a : Account) :
    ((Account.take char)^[n] a).cfg = a.cfg := (Account.extends_iterate_take char n a).cfg

theorem account_lsrBreakOrError (hs : ReceiveFifo.Shows status f) (l : PutLog (Receiver U)) :
    (l.lsrBreakOrError status).account = (Account.take l.account.cfg.lsrChar)^[
      if l.account.cfg.handFlow.errorChar then f.parity.toNat + f.framing.toNat else 0]
        l.account := by
  have hparity := account_lsrParity hs l
  have hcfg : (l.lsrParity status).account.cfg = l.account.cfg := by
    rw [hparity, cfg_iterate_take]
  unfold lsrBreakOrError
  rw [hs.brk, if_neg Bool.false_ne_true, account_lsrFraming hs, hcfg, hparity,
    ← Function.iterate_add_apply]
  cases l.account.cfg.handFlow.errorChar with
  | false => rfl
  | true => rw [if_pos rfl, if_pos rfl, if_pos rfl, Nat.add_comm]

omit [Uart U] in
/-- What leaves FIFO and configuration alone. -/
theorem account_also {f : Extension (Receiver U) → Extension (Receiver U)}
    {l : PutLog (Receiver U)} (hreceive : KeepsReceive l.ext (f l.ext))
    (hcfg : (f l.ext).cfg = l.ext.cfg) : (l.also f).account = l.account :=
  Account.ext hreceive rfl hcfg

theorem account_afterErrors (hs : ReceiveFifo.Shows status f) (l : PutLog (Receiver U)) :
    (((l.also Extension.abortOnError).also (Extension.lsrEvents status)).also
      (Extension.lsrRestart status)).account = l.account := by
  have habort (l : PutLog (Receiver U)) : (l.also Extension.abortOnError).account = l.account :=
    account_also (keepsReceive_charRule.abortOnError l.ext)
      (cfg_sharedRule.statusRule.abortOnError l.ext)
  have hevents (l : PutLog (Receiver U)) :
      (l.also (Extension.lsrEvents status)).account = l.account :=
    account_also (keepsReceive_of_lines (lines_of_shared (shared_lsrEvents status l.ext)))
      (cfg_sharedRule.statusRule.lsrEvents status l.ext)
  have hrestart (l : PutLog (Receiver U)) :
      (l.also (Extension.lsrRestart status)).account = l.account := by
    have hsame : l.also (Extension.lsrRestart status) = l := by
      unfold also Extension.lsrRestart
      rw [hs.thre, Bool.false_and, if_neg Bool.false_ne_true]
    rw [hsame]
  rw [hrestart, hevents, habort]

/-- **`SerialProcessLSR`**, once it has read a status that shows the errors of `f`. -/
theorem account_processLineStatus (hplain : l.account.cfg.Plain)
    (hs : ReceiveFifo.Shows status f) {g : ReceivedFrame} {frames : List ReceivedFrame}
    (hframes : l.account.receive.frames = g :: frames) :
    (l.processLineStatus status).account =
      (Account.take l.account.cfg.lsrChar)^[l.account.cfg.takesFor f] l.account := by
  have herror : Extension.lineError status = f.flagged := hs.error
  unfold processLineStatus
  rw [herror]
  cases hflagged : f.flagged with
  | false =>
    simp only [ReceivedFrame.flagged, Bool.or_eq_false_iff] at hflagged
    rw [if_neg Bool.false_ne_true, Config.takesFor, hflagged.1.1, hflagged.1.2, hflagged.2]
    cases l.account.cfg.handFlow.errorChar <;> rfl
  | true =>
    rw [if_pos rfl, lsrErrors, account_afterErrors hs, account_lsrBreakOrError hs]
    have hinsert (l : PutLog (Receiver U)) (h : l.ext.cfg.escapeChar = 0) :
        l.insertLsr status = l := by
      unfold insertLsr
      rw [h]
      exact if_neg (by decide)
    rw [hinsert _ (by exact hplain.escapeChar)]
    have hover := account_lsrOverrun (l := l.also (Extension.setHoldingEmpty (has status lsrThre)))
      hs (by exact hframes)
    have hcfg := congrArg Account.cfg hover
    rw [cfg_iterate_take] at hcfg
    have hsame : (l.also (Extension.setHoldingEmpty (has status lsrThre))).account = l.account :=
      rfl
    rw [hsame] at hover hcfg
    rw [hcfg, hover, ← Function.iterate_add_apply, Config.takesFor]
    cases l.account.cfg.handFlow.errorChar with
    | false => rw [if_neg Bool.false_ne_true, if_neg Bool.false_ne_true, Nat.zero_add]
    | true =>
      rw [if_pos rfl, if_pos rfl]
      congr 1
      omega

end

/-- The FIFO and the configuration say how many frames `SerialProcessLSR` reads. -/
theorem account_serialProcessLsr (hplain : l.account.cfg.Plain) :
    l.serialProcessLsr.2.account =
      (Account.take l.account.cfg.lsrChar)^[l.account.cfg.takes l.account.receive]
        l.account.readLsr := by
  let read : PutLog (Receiver U) := l.also fun e => (e.readReg .lsr).2
  show (read.processLineStatus l.account.receive.arrive.lineStatus).account = _
  rw [Config.takes]
  cases hframes : l.account.receive.arrive.frames with
  | nil =>
    rw [ReceiveFifo.lineStatus_nil hframes]
    unfold processLineStatus
    rw [if_neg (by decide)]
    rfl
  | cons f frames =>
    have hs := ReceiveFifo.shows_lineStatus hframes
    exact account_processLineStatus (l := read) hplain hs hframes

/-! ## Reception -/

/-- What the receive loop passes on for what it reads; `rbr` is what an empty FIFO shows. -/
def dataChar (cfg : Config) (rbr : UInt8) (frame : Option ReceivedFrame) : UInt8 :=
  frame.elim rbr ReceivedFrame.data &&& cfg.validDataMask

theorem account_receiveChar (hplain : l.account.cfg.Plain) (c ninthBit : UInt8) :
    (l.receiveChar c ninthBit).account = { l.account with put := l.put ++ [c] } := by
  have hnull : l.ext.handFlow.nullStripping = false := hplain.nullStripping
  have hauto : l.ext.handFlow.autoTransmit = false := hplain.autoTransmit
  have hevents : (l.also (Extension.receiveEvents c)).account = l.account :=
    account_also (keepsReceive_of_lines (lines_of_shared (shared_receiveEvents c l.ext)))
      (cfg_sharedRule.statusRule.receiveEvents c l.ext)
  let stored := (l.also (Extension.receiveEvents c)).serialPutChar c
  have hstored : stored.account = { l.account with put := l.put ++ [c] } := by
    rw [account_serialPutChar, hevents]
    rfl
  have hcfg : stored.ext.cfg = l.ext.cfg := congrArg Account.cfg hstored
  have hnine : l.ext.cfg.nineBit = false := hplain.nineBit
  have hescape : l.ext.cfg.escapeChar = 0 := hplain.escapeChar
  have hninth : stored.putNinthBit ninthBit = stored := by
    unfold putNinthBit
    rw [hcfg, hnine]
    exact if_neg Bool.false_ne_true
  have hescaped : stored.putEscaped c = stored := by
    unfold putEscaped
    rw [hcfg, hescape]
    exact if_neg (by simp)
  unfold receiveChar
  rw [hnull, hauto, Bool.and_false, Bool.false_and, if_neg Bool.false_ne_true,
    if_neg Bool.false_ne_true]
  show ((stored.putNinthBit ninthBit).putEscaped c).account = _
  rw [hninth, hescaped, hstored]

/-- The receive loop passes on exactly the frame that it reads. -/
theorem account_receiveOne (hplain : l.account.cfg.Plain) :
    l.receiveOne.account = l.account.take
      (dataChar l.account.cfg (Uart.read .data l.ext.uart.chip).1) := by
  have hnine : l.ext.cfg.nineBit = false := hplain.nineBit
  have hninth : l.ext.readNinthBit = (0, l.ext) := by
    unfold Extension.readNinthBit
    rw [hnine]
    rfl
  have hsame : (l.also fun e => e.readNinthBit.2) = l := by
    show PutLog.mk l.ext.readNinthBit.2 l.put = l
    rw [hninth]
  unfold receiveOne
  dsimp only
  rw [hsame, account_receiveChar (by exact hplain)]
  rfl

/-- No card is pulled out: what is pending may have arrived. -/
theorem uartRemoved_eq (l : PutLog (Receiver U)) :
    l.uartRemoved.1 = false ∧ (l.uartRemoved.2.account = l.account ∨
      l.uartRemoved.2.account = { l.account with receive := l.account.receive.arrive }) := by
  have hid (r : ReceiveFifo) : has r.interruptId iirMustBeZero = false := by
    unfold ReceiveFifo.interruptId
    repeat' split
    all_goals decide
  show l.ext.uartRemoved.1 = false ∧
    ((PutLog.mk l.ext.uartRemoved.2 l.put).account = l.account ∨
      (PutLog.mk l.ext.uartRemoved.2 l.put).account =
        { l.account with receive := l.account.receive.arrive })
  unfold Extension.uartRemoved
  cases l.ext.cfg.uartRemovalDetect with
  | false => exact ⟨rfl, .inl rfl⟩
  | true => exact ⟨hid _, .inr rfl⟩

end PutLog

end SerialFc
