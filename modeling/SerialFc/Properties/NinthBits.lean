import SerialFc.Model.NineBit
import SerialFc.Lib.Run
import SerialFc.Model.Chip
import SerialFc.Properties.HoldLaw

/-!
# The ninth bits of a write

* `tone` — the frames that were sent and SPR, after each routine
* `Sending` — where the current write stands
* `ninthBits_iff` — the ninth bits are those of the protocol if and only if every write goes out in
  one chunk
-/

namespace SerialFc

open Extension Lib

/-! ## Frames -/

namespace Traced

theorem scratch_append (spr : UInt8) (ws ws' : List (Reg × UInt8)) :
    scratch spr (ws ++ ws') = scratch (scratch spr ws) ws' := by
  induction ws generalizing spr with
  | nil => rfl
  | cons w ws ih =>
    obtain ⟨r, v⟩ := w
    cases r with
    | spr => exact ih v
    | _ => exact ih spr

theorem frames_append (spr : UInt8) (ws ws' : List (Reg × UInt8)) :
    frames spr (ws ++ ws') = frames spr ws ++ frames (scratch spr ws) ws' := by
  induction ws generalizing spr with
  | nil => rfl
  | cons w ws ih =>
    obtain ⟨r, v⟩ := w
    cases r with
    | spr => exact ih v
    | data => exact congrArg ((v, has spr 0x01) :: ·) (ih spr)
    | _ => exact ih spr

end Traced

namespace Extension

variable {U : Type} [Uart U]

/-- The frames that were sent, and SPR. -/
def tone (spr : UInt8) (e : Extension (Traced U)) : List (UInt8 × Bool) × UInt8 :=
  (Traced.frames spr e.uart.written, Traced.scratch spr e.uart.written)

variable {spr : UInt8}

theorem tone_writeReg_data (b : UInt8) (e : Extension (Traced U)) :
    (e.writeReg .data b).tone spr =
      ((e.tone spr).1 ++ [(b, has (e.tone spr).2 0x01)], (e.tone spr).2) := by
  show (Traced.frames spr (e.uart.written ++ [(.data, b)]),
    Traced.scratch spr (e.uart.written ++ [(.data, b)])) = _
  rw [Traced.frames_append, Traced.scratch_append]
  rfl

theorem tone_writeReg_spr (v : UInt8) (e : Extension (Traced U)) :
    (e.writeReg .spr v).tone spr = ((e.tone spr).1, v) := by
  show (Traced.frames spr (e.uart.written ++ [(.spr, v)]),
    Traced.scratch spr (e.uart.written ++ [(.spr, v)])) = _
  rw [Traced.frames_append, Traced.scratch_append]
  exact congrArg (·, v) (List.append_nil _)

theorem tone_writeReg {r : Reg} (hdata : r ≠ .data) (hspr : r ≠ .spr) (v : UInt8)
    (e : Extension (Traced U)) : (e.writeReg r v).tone spr = e.tone spr := by
  show (Traced.frames spr (e.uart.written ++ [(r, v)]),
    Traced.scratch spr (e.uart.written ++ [(r, v)])) = _
  rw [Traced.frames_append, Traced.scratch_append]
  cases r with
  | data => exact absurd rfl hdata
  | spr => exact absurd rfl hspr
  | _ => exact congrArg (·, _) (List.append_nil _)

omit [Uart U] in
theorem tone_of_uart {e e' : Extension (Traced U)} (h : e'.uart = e.uart) :
    e'.tone spr = e.tone spr := by
  unfold tone
  rw [h]

theorem tone_readReg (r : Reg) (e : Extension (Traced U)) :
    (e.readReg r).2.tone spr = e.tone spr := rfl

theorem tone_serialSetRts (e : Extension (Traced U)) :
    e.serialSetRts.tone spr = e.tone spr :=
  (tone_writeReg (by decide) (by decide) _ _).trans (tone_readReg _ e)

theorem tone_retickle (e : Extension (Traced U)) : e.retickle.tone spr = e.tone spr :=
  (tone_writeReg (by decide) (by decide) _ _).trans (tone_writeReg (by decide) (by decide) _ e)

omit [Uart U] in
theorem tone_insertStartTimerLowerRts (e : Extension (Traced U)) :
    e.insertStartTimerLowerRts.tone spr = e.tone spr := by
  unfold insertStartTimerLowerRts
  split <;> rfl

/-- Asking for the FIFO's level leaves the index of ACR in SPR. -/
theorem tone_fastcomGetTxFifoFillFscc (e : Extension (Traced U)) :
    e.fastcomGetTxFifoFillFscc.2.tone spr = ((e.tone spr).1, 0) := by
  unfold fastcomGetTxFifoFillFscc
  dsimp only
  rw [tone_writeReg (by decide) (by decide), tone_writeReg (by decide) (by decide),
    tone_writeReg_spr, tone_readReg, tone_writeReg (by decide) (by decide), tone_writeReg_spr,
    tone_writeReg (by decide) (by decide), tone_readReg]

theorem tone_amountToWrite {e : Extension (Traced U)} (hcard : e.cfg.cardType = .fscc) :
    e.amountToWrite.2.tone spr =
      ((e.tone spr).1, if e.cfg.fifoPresent then 0 else (e.tone spr).2) := by
  unfold amountToWrite fastcomGetTxFifoSpace
  rw [hcard]
  split
  · exact tone_fastcomGetTxFifoFillFscc e
  · rfl

/-- In toggle mode SPR is left alone. -/
theorem tone_writeTransmitFifo (bytes : List UInt8) (e : Extension (Traced U)) :
    (e.writeTransmitFifo bytes).tone spr =
      ((e.tone spr).1 ++ bytes.map fun b => (b, has (e.tone spr).2 0x01), (e.tone spr).2) := by
  induction bytes generalizing e with
  | nil => exact congrArg (·, _) (List.append_nil _).symm
  | cons b bytes ih =>
    show ((e.writeReg .data b).writeTransmitFifo bytes).tone spr = _
    rw [ih, tone_writeReg_data, List.append_assoc]
    rfl

theorem tone_writeChunk_rest {e : Extension (Traced U)} (hnine : e.cfg.nineBit = true)
    (bytes : List UInt8) :
    ((e.writeChunk 0 bytes).tone spr).1 = (e.tone spr).1 ++ bytes.map fun b => (b, false) := by
  induction bytes generalizing e with
  | nil => exact (List.append_nil _).symm
  | cons b bytes ih =>
    have hspr : e.writeSpr 0 = e.writeReg .spr 0 := if_pos hnine
    show (((e.writeSpr 0).writeReg .data b).writeChunk 0 bytes |>.tone spr).1 = _
    have hspace : has 0 0x01 = false := by decide
    rw [hspr, ih (by exact hnine), tone_writeReg_data, tone_writeReg_spr, List.append_assoc]
    dsimp only
    rw [hspace]
    rfl

/-- On the plain path every chunk is sent like a write of its own. -/
theorem tone_writeChunk {e : Extension (Traced U)} (hnine : e.cfg.nineBit = true)
    (bytes : List UInt8) :
    ((e.writeChunk 1 bytes).tone spr).1 = (e.tone spr).1 ++ addressed bytes := by
  cases bytes with
  | nil => exact (List.append_nil _).symm
  | cons b bytes =>
    have hspr : e.writeSpr 1 = e.writeReg .spr 1 := if_pos hnine
    show (((e.writeSpr 1).writeReg .data b).writeChunk 0 bytes |>.tone spr).1 = _
    have hmark : has 1 0x01 = true := by decide
    rw [hspr, tone_writeChunk_rest (by exact hnine), tone_writeReg_data, tone_writeReg_spr,
      List.append_assoc]
    dsimp only
    rw [hmark]
    rfl

/-- With the ninth bit that SPR has after the FIFO's level was asked for. -/
def sprBit (spr : UInt8) (e : Extension (Traced U)) : Bool :=
  !e.cfg.fifoPresent && has (e.tone spr).2 0x01

/-- The bytes that a transmit interrupt sends. -/
def chunk (e : Extension (Traced U)) : List UInt8 := e.tx.writeCurrentChar.take e.amountToWrite.1

theorem cfg_amountToWrite (e : Extension (Traced U)) : e.amountToWrite.2.cfg = e.cfg := by
  unfold amountToWrite fastcomGetTxFifoSpace
  split
  · cases e.cfg.cardType <;> rfl
  · rfl

/-- The frames of one chunk. -/
theorem frames_transmitData {e : Extension (Traced U)} (hnine : e.cfg.nineBit = true)
    (hcard : e.cfg.cardType = .fscc) : (e.transmitData.tone spr).1 = (e.tone spr).1 ++
      if e.handFlow.transmitToggle then e.chunk.map fun b => (b, e.sprBit spr)
      else addressed e.chunk := by
  have hamount : e.amountToWrite.2.tone spr = _ := tone_amountToWrite hcard
  have hcfg := cfg_amountToWrite e
  have hmove (n : Nat) (e : Extension (Traced U)) : (e.advanceWrite n).tone spr = e.tone spr := by
    unfold advanceWrite
    split
    · exact tone_of_uart (uart_modifyCurrent _ _ _)
    · rfl
  unfold transmitData
  rw [hmove, writeBytes, handFlow, hcfg]
  split
  · rw [tone_insertStartTimerLowerRts, tone_writeTransmitFifo]
    have hraise : (e.amountToWrite.2.serialSetRts.addTransmitted e.chunk.length).tone spr =
        e.amountToWrite.2.tone spr := tone_serialSetRts e.amountToWrite.2
    have hbit : has (if e.cfg.fifoPresent = true then 0 else (e.tone spr).2) 0x01 =
        e.sprBit spr := by
      unfold sprBit
      cases e.cfg.fifoPresent with
      | true =>
        show has 0 0x01 = false
        decide
      | false => rfl
    unfold chunk at hraise
    rw [hraise, hamount, hbit]
    rfl
  · have hcount : (e.amountToWrite.2.addTransmitted e.chunk.length).tone spr =
        e.amountToWrite.2.tone spr := rfl
    unfold chunk at hcount
    rw [tone_writeChunk (by rw [← hcfg] at hnine; exact hnine), hcount, hamount]
    rfl

/-- SPR after a chunk in toggle mode. -/
theorem scratch_transmitData {e : Extension (Traced U)} (hcard : e.cfg.cardType = .fscc)
    (htoggle : e.handFlow.transmitToggle = true) (hfifo : e.cfg.fifoPresent = false) :
    (e.transmitData.tone spr).2 = (e.tone spr).2 := by
  have hamount : e.amountToWrite.2.tone spr = _ := tone_amountToWrite hcard
  have hcfg := cfg_amountToWrite e
  have hmove (n : Nat) (e : Extension (Traced U)) : (e.advanceWrite n).tone spr = e.tone spr := by
    unfold advanceWrite
    split
    · exact tone_of_uart (uart_modifyCurrent _ _ _)
    · rfl
  unfold handFlow at htoggle
  unfold transmitData
  rw [hmove, writeBytes, handFlow, hcfg, if_pos htoggle, tone_insertStartTimerLowerRts,
    tone_writeTransmitFifo]
  have hraise (n : Nat) : (e.amountToWrite.2.serialSetRts.addTransmitted n).tone spr =
      e.amountToWrite.2.tone spr := tone_serialSetRts e.amountToWrite.2
  rw [hraise, hamount, hfifo]
  rfl

/-! ## The current write -/

/-- The length of the current write. -/
def writeSize {U : Type} (e : Extension U) : Option Nat := (e.current .write).map Request.length

omit [Uart U] in
/-- None of its bytes has been sent. -/
theorem writeSize_advanceWrite (n : Nat) (e : Extension U) :
    (e.advanceWrite n).writeSize = e.writeSize := by
  unfold advanceWrite
  split
  · show ((e.movePointer n).modifyCurrent .write _ |>.current .write).map Request.length = _
    rw [current_modifyCurrent, if_pos rfl, Option.map_map]
    rfl
  · rfl

/-- The writes of a chunk to the chip leave the rest alone. -/
theorem apart_writeRule : WriteRule fun e e' : Extension (Traced U) =>
    e'.current = e.current ∧ e'.cfg = e.cfg where
  refl _ := ⟨rfl, rfl⟩
  trans h h' := ⟨h'.1.trans h.1, h'.2.trans h.2⟩
  serialSetRts _ _ := ⟨rfl, rfl⟩
  addTransmitted _ _ := ⟨rfl, rfl⟩
  data _ _ := ⟨rfl, rfl⟩
  spr _ _ := ⟨rfl, rfl⟩
  insertStartTimerLowerRts e := by
    unfold insertStartTimerLowerRts
    split <;> exact ⟨rfl, rfl⟩
  txtrg _ := ⟨rfl, rfl⟩
  fillFscc _ := ⟨rfl, rfl⟩

theorem apart_transmitData (e : Extension (Traced U)) :
    e.transmitData.writeSize = e.writeSize ∧ e.transmitData.cfg = e.cfg := by
  have hbytes := apart_writeRule.trans (apart_writeRule.amountToWrite e)
    (apart_writeRule.writeBytes (e.tx.writeCurrentChar.take e.amountToWrite.1) _)
  have hcfg (n : Nat) (e : Extension (Traced U)) : (e.advanceWrite n).cfg = e.cfg := by
    unfold advanceWrite
    split
    · exact cfg_modifyCurrent _ _ _
    · rfl
  refine ⟨?_, (hcfg _ _).trans hbytes.2⟩
  unfold transmitData
  rw [writeSize_advanceWrite]
  exact congrArg (fun current => (current Slot.write).map Request.length) hbytes.1

/-- No byte of the current write has been sent. -/
def Untouched {U : Type} (e : Extension U) : Prop := e.writeSize = some e.tx.writeLength

instance {U : Type} (e : Extension U) : Decidable e.Untouched :=
  inferInstanceAs (Decidable (e.writeSize = some e.tx.writeLength))

/-- Everything but the bytes that wait has been sent, and with the ninth bits of the protocol. -/
def NinthBits (spr : UInt8) (payloads : List (List UInt8)) (e : Extension (Traced U)) : Prop :=
  (e.tone spr).1 = (payloads.flatMap addressed).take
    ((payloads.flatMap addressed).length - e.tx.writeLength)

/-- What is sent at the interrupt, if anything, is the start of a write, and on the plain path. In
toggle mode without a FIFO SPR is never written, and may mark a byte by chance. -/
def MarksAddress (spr : UInt8) :
    SendLabel (Uart.Input (Traced U)) → Extension (Traced U) → Prop
  | .write _, _ => True
  | .interrupt x, e =>
    (e.evolve x).amountToWrite.1 = 0 ∨ e.Untouched ∧ (e.handFlow.transmitToggle = false ∨
      e.cfg.fifoPresent = false ∧ has (e.tone spr).2 0x01 = true)

instance (spr : UInt8) (l : SendLabel (Uart.Input (Traced U))) (e : Extension (Traced U)) :
    Decidable (MarksAddress spr l e) :=
  match l with
  | .write _ => isTrue trivial
  | .interrupt _ => inferInstanceAs (Decidable (_ ∨ _ ∧ (_ ∨ _ ∧ _)))

end Extension

/-! ## Chunks -/

section

variable {p : List UInt8}

theorem length_addressed (p : List UInt8) : (addressed p).length = p.length := by
  cases p with
  | nil => rfl
  | cons b bytes => simp [addressed]

theorem take_addressed (n : Nat) (p : List UInt8) :
    (addressed p).take n = addressed (p.take n) := by
  cases p with
  | nil => simp [addressed]
  | cons b bytes =>
    cases n with
    | zero => rfl
    | succ n => simp [addressed, List.map_take]

theorem drop_addressed {k : Nat} (hk : 0 < k) (p : List UInt8) :
    (addressed p).drop k = (p.drop k).map fun b => (b, false) := by
  cases p with
  | nil => simp [addressed]
  | cons b bytes =>
    obtain ⟨k, rfl⟩ := Nat.exists_eq_succ_of_ne_zero (Nat.pos_iff_ne_zero.mp hk)
    simp [addressed, List.map_drop]

theorem addressed_eq_map_iff (b : Bool) :
    p.map (fun x => (x, b)) = addressed p ↔ p = [] ∨ b = true ∧ p.length ≤ 1 := by
  match p with
  | [] => simp [addressed]
  | [x] => simp [addressed]
  | x :: y :: bytes =>
    cases b <;> simp [addressed]

theorem map_eq_map_iff (b : Bool) :
    p.map (fun x => (x, b)) = p.map (fun x => (x, false)) ↔ p = [] ∨ b = false := by
  cases p with
  | nil => simp
  | cons x bytes => cases b <;> simp

theorem addressed_eq_space_iff :
    addressed p = p.map (fun x => (x, false)) ↔ p = [] := by
  cases p with
  | nil => simp [addressed]
  | cons x bytes => simp [addressed]

end

/-! ## Where the current write stands -/

/-- The payloads of the writes so far, the last of which is under way. -/
structure Sending {U : Type} [Uart U] (spr : UInt8) (payloads : List (List UInt8))
    (e : Extension (Traced U)) : Prop where
  nine : e.cfg.nineBit = true
  card : e.cfg.cardType = .fscc
  sent : (e.tone spr).1.length + e.tx.writeLength = (payloads.flatMap addressed).length
  write : e.tx.writeLength ≠ 0 → ∃ before p, payloads = before ++ [p] ∧
    e.writeSize = some p.length ∧ e.tx.writeCurrentChar <:+ p ∧
      e.tx.writeLength = e.tx.writeCurrentChar.length

namespace Sending

variable {U : Type} [Uart U] {spr : UInt8} {payloads : List (List UInt8)}
  {e e' : Extension (Traced U)}

/-- The frames that the protocol has next. -/
theorem due (h : Sending spr payloads e) (hne : e.tx.writeLength ≠ 0) (n : Nat) :
    ((payloads.flatMap addressed).drop
      ((payloads.flatMap addressed).length - e.tx.writeLength)).take n =
      if e.Untouched then addressed (e.tx.writeCurrentChar.take n)
      else (e.tx.writeCurrentChar.take n).map fun b => (b, false) := by
  obtain ⟨before, p, rfl, hsize, ⟨done, hsuffix⟩, hcount⟩ := h.write hne
  have hlength : p.length = done.length + e.tx.writeLength := by
    rw [hcount, ← List.length_append, hsuffix]
  have hall : (before ++ [p]).flatMap addressed = before.flatMap addressed ++ addressed p := by
    simp
  have hskip : ((before ++ [p]).flatMap addressed).length - e.tx.writeLength =
      (before.flatMap addressed).length + done.length := by
    rw [hall, List.length_append, length_addressed]
    omega
  have hrest : e.tx.writeCurrentChar = p.drop done.length := by
    rw [← hsuffix, List.drop_left]
  have htouched : e.Untouched ↔ done.length = 0 := by
    unfold Untouched
    rw [hsize, Option.some.injEq]
    omega
  rw [hskip, hall, ← List.drop_drop, List.drop_left, hrest]
  by_cases hdone : done.length = 0
  · rw [if_pos (htouched.mpr hdone), hdone, List.drop_zero, List.drop_zero, take_addressed]
  · rw [if_neg (mt htouched.mp hdone), drop_addressed (Nat.pos_of_ne_zero hdone), List.map_take]

/-- One chunk. -/
theorem ninthBits_transmitData_iff (h : Sending spr payloads e) (hne : e.tx.writeLength ≠ 0) :
    NinthBits spr payloads e.transmitData ↔ NinthBits spr payloads e ∧
      (if e.handFlow.transmitToggle then e.chunk.map fun b => (b, e.sprBit spr)
        else addressed e.chunk) =
      (if e.Untouched then addressed e.chunk else e.chunk.map fun b => (b, false)) := by
  have hle := amountToWrite_le hne
  have hrest : e.transmitData.tx.writeLength = e.tx.writeLength - e.amountToWrite.1 :=
    congrArg Prod.fst (writeRest_transmitData e)
  have hlength := h.sent
  have hsplit : (payloads.flatMap addressed).length - (e.tx.writeLength - e.amountToWrite.1) =
      (payloads.flatMap addressed).length - e.tx.writeLength + e.amountToWrite.1 := by
    omega
  have hsame : (e.tone spr).1.length = ((payloads.flatMap addressed).take
      ((payloads.flatMap addressed).length - e.tx.writeLength)).length := by
    rw [List.length_take]
    omega
  unfold NinthBits
  rw [frames_transmitData h.nine h.card, hrest, hsplit, List.take_add, h.due hne]
  exact ⟨fun heq => List.append_inj heq hsame, fun ⟨hbefore, hchunk⟩ => by
    rw [← hbefore]
    exact congrArg _ hchunk⟩

/-- In toggle mode the second chunk of a write has been reached only if SPR marked the first. -/
def Marked {U : Type} [Uart U] (spr : UInt8) (e : Extension (Traced U)) : Prop :=
  e.tx.writeLength ≠ 0 → e.handFlow.transmitToggle = true → ¬e.Untouched → e.sprBit spr = true

theorem amount_of_sprBit (hbit : e.sprBit spr = true) : e.amountToWrite.1 = 1 := by
  unfold sprBit at hbit
  rw [Bool.and_eq_true, Bool.not_eq_true'] at hbit
  unfold amountToWrite
  rw [hbit.1]
  rfl

theorem chunk_eq_nil_iff (h : Sending spr payloads e) (hne : e.tx.writeLength ≠ 0) :
    e.chunk = [] ↔ e.amountToWrite.1 = 0 := by
  obtain ⟨-, -, -, -, -, hcount⟩ := h.write hne
  unfold chunk
  rw [List.take_eq_nil_iff]
  refine ⟨fun hnil => hnil.resolve_right fun hnone => hne ?_, .inl⟩
  rw [hcount, hnone]
  rfl

/-- The chunk has the ninth bits of the protocol. -/
theorem chunk_iff (h : Sending spr payloads e) (hmarked : Marked spr e)
    (hne : e.tx.writeLength ≠ 0) :
    (if e.handFlow.transmitToggle then e.chunk.map fun b => (b, e.sprBit spr)
        else addressed e.chunk) =
      (if e.Untouched then addressed e.chunk else e.chunk.map fun b => (b, false)) ↔
    e.amountToWrite.1 = 0 ∨ e.Untouched ∧
      (e.handFlow.transmitToggle = false ∨ e.sprBit spr = true) := by
  rw [← h.chunk_eq_nil_iff hne]
  have hshort (hbit : e.sprBit spr = true) : e.chunk.length ≤ 1 := by
    unfold chunk
    rw [amount_of_sprBit hbit]
    exact List.length_take_le 1 _
  by_cases htouched : e.Untouched
  · rw [if_pos htouched]
    cases htoggle : e.handFlow.transmitToggle with
    | false => simp [htouched]
    | true =>
      rw [if_pos rfl, addressed_eq_map_iff]
      simp only [htouched, true_and, Bool.true_eq_false, false_or]
      exact or_congr_right (and_iff_left_of_imp hshort)
  · rw [if_neg htouched]
    cases htoggle : e.handFlow.transmitToggle with
    | false =>
      rw [if_neg Bool.false_ne_true, addressed_eq_space_iff]
      simp [htouched]
    | true =>
      rw [if_pos rfl, map_eq_map_iff, hmarked hne htoggle htouched]
      simp [htouched]

/-! ## Steps -/

/-- What goes on at the chip sends nothing. -/
theorem evolve (h : Sending spr payloads e) (x : Uart.Input (Traced U)) :
    Sending spr payloads (e.evolve x) := ⟨h.nine, h.card, h.sent, h.write⟩

theorem transmitData (h : Sending spr payloads e) (hne : e.tx.writeLength ≠ 0) :
    Sending spr payloads e.transmitData := by
  obtain ⟨hsize, hcfg⟩ := apart_transmitData e
  have hle := amountToWrite_le hne
  have hrest := Prod.mk.inj (writeRest_transmitData e)
  obtain ⟨before, p, hpayloads, hwrite, hsuffix, hcount⟩ := h.write hne
  have hchunk : e.chunk.length = e.amountToWrite.1 := by
    unfold chunk
    rw [List.length_take, ← hcount]
    omega
  refine ⟨by rw [hcfg]; exact h.nine, by rw [hcfg]; exact h.card, ?_, fun _ => ?_⟩
  · have hsent := h.sent
    have hnew : (if e.handFlow.transmitToggle then e.chunk.map fun b => (b, e.sprBit spr)
        else addressed e.chunk).length = e.amountToWrite.1 := by
      split
      · rw [List.length_map, hchunk]
      · rw [length_addressed, hchunk]
    rw [frames_transmitData h.nine h.card, hrest.1, List.length_append, hnew]
    omega
  · refine ⟨before, p, hpayloads, hsize.trans hwrite, ?_, ?_⟩
    · rw [hrest.2]
      exact (List.drop_suffix _ _).trans hsuffix
    · rw [hrest.1, hrest.2, List.length_drop, hcount]

theorem marked_transmitData (h : Sending spr payloads e) (hmarked : Marked spr e)
    (hne : e.tx.writeLength ≠ 0) (hok : e.amountToWrite.1 = 0 ∨ e.Untouched ∧
      (e.handFlow.transmitToggle = false ∨ e.sprBit spr = true)) :
    Marked spr e.transmitData := by
  intro _ htoggle htouched
  obtain ⟨hsize, hcfg⟩ := apart_transmitData e
  have htoggle : e.handFlow.transmitToggle = true := by
    unfold handFlow at htoggle ⊢
    rw [← hcfg]
    exact htoggle
  have hbit : e.sprBit spr = true := by
    rcases hok with hnone | ⟨-, hplain | hbit⟩
    · -- nothing was sent, so the write was touched before
      refine hmarked hne htoggle fun hbefore => htouched ?_
      unfold Untouched at hbefore ⊢
      have hrest : e.transmitData.tx.writeLength = e.tx.writeLength - e.amountToWrite.1 :=
        congrArg Prod.fst (writeRest_transmitData e)
      rw [hsize, hbefore, hrest, hnone, Nat.sub_zero]
    · rw [htoggle] at hplain
      cases hplain
    · exact hbit
  have hfifo : e.cfg.fifoPresent = false := by
    unfold sprBit at hbit
    rw [Bool.and_eq_true, Bool.not_eq_true'] at hbit
    exact hbit.1
  unfold sprBit at hbit ⊢
  rw [hcfg, scratch_transmitData h.card htoggle hfifo]
  exact hbit

/-- A new write. -/
theorem startWrite_eq (spr : UInt8) (payload : List UInt8) (e : Extension (Traced U)) :
    (e.startWrite payload).writeRest = (payload.length, payload) ∧
      (e.startWrite payload).writeSize = some payload.length ∧
      (e.startWrite payload).cfg = e.cfg ∧
      (e.startWrite payload).tone spr = e.tone spr := by
  let r := Request.new e.nextId (.write payload) payload.length payload
  let placed := { e with nextId := e.nextId + 1 }.setCurrent .write (some r)
  let given := (placed.giveWrite r).modifyCurrent .write (·.putReference true .isr)
  have hcurrent : placed.current .write = some r := rfl
  have hgive : placed.serialGiveWriteToIsr = given.startTransmit.raiseRtsInToggle := by
    unfold serialGiveWriteToIsr
    rw [hcurrent]
  have hgiven : given = (placed.giveWrite r).setCurrent .write (some (r.putReference true .isr)) :=
    modifyCurrent_of_some _ hcurrent
  have hstart (e : Extension (Traced U)) :
      (e.startTransmit.raiseRtsInToggle.writeRest = e.writeRest ∧
        e.startTransmit.raiseRtsInToggle.writeSize = e.writeSize ∧
        e.startTransmit.raiseRtsInToggle.cfg = e.cfg) ∧
      e.startTransmit.raiseRtsInToggle.tone spr = e.tone spr := by
    have htransmit : (e.startTransmit.writeRest = e.writeRest ∧
        e.startTransmit.writeSize = e.writeSize ∧ e.startTransmit.cfg = e.cfg) ∧
        e.startTransmit.tone spr = e.tone spr := by
      unfold startTransmit
      split
      · exact ⟨⟨rfl, rfl, rfl⟩, tone_retickle e⟩
      · exact ⟨⟨rfl, rfl, rfl⟩, rfl⟩
    unfold raiseRtsInToggle
    split
    · exact ⟨htransmit.1, (tone_serialSetRts _).trans htransmit.2⟩
    · exact htransmit
  obtain ⟨⟨hrest, hsize, hcfg⟩, htone⟩ := hstart given
  show placed.serialGiveWriteToIsr.writeRest = _ ∧ placed.serialGiveWriteToIsr.writeSize = _ ∧
    placed.serialGiveWriteToIsr.cfg = _ ∧ placed.serialGiveWriteToIsr.tone spr = _
  rw [hgive, hrest, hsize, hcfg, htone, hgiven]
  exact ⟨rfl, rfl, rfl, rfl⟩

theorem startWrite (h : Sending spr payloads e) (hidle : e.tx.writeLength = 0)
    (payload : List UInt8) : Sending spr (payloads ++ [payload]) (e.startWrite payload) := by
  obtain ⟨hrest, hsize, hcfg, htone⟩ := startWrite_eq spr payload e
  obtain ⟨hlength, hpointer⟩ := Prod.mk.inj hrest
  refine ⟨by rw [hcfg]; exact h.nine, by rw [hcfg]; exact h.card, ?_, fun _ =>
    ⟨payloads, payload, rfl, hsize, ?_, ?_⟩⟩
  · have hsent := h.sent
    rw [htone, hlength, List.flatMap_append, List.length_append, List.flatMap_singleton,
      length_addressed]
    omega
  · rw [hpointer]
  · rw [hlength, hpointer]

theorem marked_startWrite (payload : List UInt8) (e : Extension (Traced U)) :
    Marked spr (e.startWrite payload) := by
  obtain ⟨hrest, hsize, -, -⟩ := startWrite_eq spr payload e
  intro _ _ htouched
  refine absurd ?_ htouched
  unfold Untouched
  rw [hsize]
  exact congrArg some (congrArg Prod.fst hrest).symm

theorem ninthBits_startWrite_iff (hidle : e.tx.writeLength = 0) (payload : List UInt8) :
    NinthBits spr (payloads ++ [payload]) (e.startWrite payload) ↔ NinthBits spr payloads e := by
  obtain ⟨hrest, -, -, htone⟩ := startWrite_eq spr payload e
  have hlength : (e.startWrite payload).tx.writeLength = payload.length :=
    congrArg Prod.fst hrest
  unfold NinthBits
  rw [htone, hlength, hidle, List.flatMap_append, List.flatMap_singleton, List.length_append,
    length_addressed, Nat.add_sub_cancel, Nat.sub_zero, List.take_left, List.take_length]

end Sending

/-! ## Runs -/

section

variable {U : Type} [Uart U] {spr : UInt8} {payloads : List (List UInt8)}
  {e e' : Extension (Traced U)} {ls : List (SendLabel (Uart.Input (Traced U)))}

theorem sendStep_cases {l : SendLabel (Uart.Input (Traced U))} (h : sendStep l e = some e') :
    (∃ payload, l = .write payload ∧ e.tx.writeLength = 0 ∧ e' = e.startWrite payload) ∨
      ∃ x, l = .interrupt x ∧ e.tx.writeLength ≠ 0 ∧ e' = (e.evolve x).transmitData := by
  cases l with
  | write payload =>
    obtain ⟨hguard, hstart⟩ := Option.ite_none_right_eq_some.mp h
    exact .inl ⟨payload, rfl, hguard.1, (Option.some.inj hstart).symm⟩
  | interrupt x =>
    obtain ⟨hguard, hsend⟩ := Option.ite_none_right_eq_some.mp h
    exact .inr ⟨x, rfl, hguard.1, (Option.some.inj hsend).symm⟩

/-- What has once been sent wrongly stays so. -/
theorem ninthBits_of_run (h : Sending spr payloads e) (hrun : run sendStep ls e = some e')
    (hlaw : NinthBits spr (payloads ++ writes ls) e') : NinthBits spr payloads e := by
  induction ls generalizing e payloads with
  | nil =>
    cases hrun
    rw [← List.append_nil payloads]
    exact hlaw
  | cons l ls ih =>
    obtain ⟨t, hstep, hrest⟩ := run_cons_eq_some.mp hrun
    obtain ⟨payload, rfl, hidle, rfl⟩ | ⟨x, rfl, hne, rfl⟩ := sendStep_cases hstep
    · have hall : payloads ++ writes (.write payload :: ls) = payloads ++ [payload] ++ writes ls :=
        List.append_cons _ _ _
      rw [hall] at hlaw
      exact (Sending.ninthBits_startWrite_iff hidle payload).mp
        (ih (h.startWrite hidle payload) hrest hlaw)
    · have hsent := ih ((h.evolve x).transmitData hne) hrest hlaw
      exact (((h.evolve x).ninthBits_transmitData_iff hne).mp hsent).1

theorem marksAddress_iff {x : Uart.Input (Traced U)} :
    MarksAddress spr (.interrupt x) e ↔ (e.evolve x).amountToWrite.1 = 0 ∨
      (e.evolve x).Untouched ∧ ((e.evolve x).handFlow.transmitToggle = false ∨
        (e.evolve x).sprBit spr = true) := by
  have hbit : (e.evolve x).sprBit spr = true ↔
      e.cfg.fifoPresent = false ∧ has (e.tone spr).2 0x01 = true := by
    show (!e.cfg.fifoPresent && has (e.tone spr).2 0x01) = true ↔ _
    rw [Bool.and_eq_true, Bool.not_eq_true']
  rw [hbit]
  exact Iff.rfl

theorem ninthBits_run_iff (h : Sending spr payloads e) (hmarked : Sending.Marked spr e)
    (hlaw : NinthBits spr payloads e) (hrun : run sendStep ls e = some e') :
    NinthBits spr (payloads ++ writes ls) e' ↔ RunMeets sendStep (MarksAddress spr) ls e := by
  induction ls generalizing e payloads with
  | nil =>
    cases hrun
    refine iff_of_true ?_ trivial
    rw [show writes ([] : List (SendLabel (Uart.Input (Traced U)))) = [] from rfl,
      List.append_nil]
    exact hlaw
  | cons l ls ih =>
    obtain ⟨t, hstep, hrest⟩ := run_cons_eq_some.mp hrun
    have hnext (p : Prop) (hone : MarksAddress spr l e)
        (hmore : p ↔ RunMeets sendStep (MarksAddress spr) ls t) :
        p ↔ RunMeets sendStep (MarksAddress spr) (l :: ls) e := by
      refine hmore.trans ⟨fun hmeets => ⟨hone, fun s hs => ?_⟩, fun hmeets => hmeets.2 t hstep⟩
      cases hstep.symm.trans hs
      exact hmeets
    obtain ⟨payload, rfl, hidle, rfl⟩ | ⟨x, rfl, hne, rfl⟩ := sendStep_cases hstep
    · have hall : payloads ++ writes (.write payload :: ls) = payloads ++ [payload] ++ writes ls :=
        List.append_cons _ _ _
      rw [hall]
      exact hnext _ trivial (ih (h.startWrite hidle payload)
        (Sending.marked_startWrite payload e)
        ((Sending.ninthBits_startWrite_iff hidle payload).mpr hlaw) hrest)
    · have hsending := h.evolve x
      have hlaw' : NinthBits spr payloads (e.evolve x) := hlaw
      have hchunk := (hsending.ninthBits_transmitData_iff hne).trans
        ((and_iff_right hlaw').trans (hsending.chunk_iff hmarked hne))
      by_cases hok : MarksAddress spr (.interrupt x) e
      · have hok' := marksAddress_iff.mp hok
        exact hnext _ hok (ih (hsending.transmitData hne)
          (hsending.marked_transmitData hmarked hne hok') (hchunk.mpr hok') hrest)
      · -- the chunk is wrong, and so is all that follows
        refine iff_of_false (fun hall => hok ?_) fun hmeets => hok hmeets.1
        have hsent := ninthBits_of_run (hsending.transmitData hne) hrest hall
        exact marksAddress_iff.mpr (hchunk.mp hsent)

/-- **Nine bits.** The frames of the writes have the ninth bits of the protocol, in every state of
the run, if and only if each interrupt that sends something sends the start of a write on the plain
path. -/
theorem ninthBits_iff (hwritten : e.uart.written = []) (hidle : e.tx.writeLength = 0)
    (hnine : e.cfg.nineBit = true) (hcard : e.cfg.cardType = .fscc)
    (hrun : run sendStep ls e = some e') :
    NinthBits spr (writes ls) e' ↔ RunMeets sendStep (MarksAddress spr) ls e := by
  have hframes : (e.tone spr).1 = [] := by
    show Traced.frames spr e.uart.written = []
    rw [hwritten]
    rfl
  have hsending : Sending spr [] e := by
    refine ⟨hnine, hcard, ?_, fun hne => absurd hidle hne⟩
    rw [hframes, hidle]
    rfl
  have hlaw : NinthBits spr [] e := by
    unfold NinthBits
    rw [hframes, List.flatMap_nil, List.take_nil]
  exact ninthBits_run_iff hsending (fun hne => absurd hidle hne) hlaw hrun

/-- A 16C950 in nine-bit mode that takes one byte at each interrupt. -/
def nineBitPort : Extension (Traced Chip) :=
  opened (Traced.start Chip.idle)
    { Config.plain with cardType := .fscc, nineBit := true, fifoPresent := true, txFifoAmount := 1 }
    8

/-- Two writes of one byte each. -/
def twoWrites : List (SendLabel Chip.Input) :=
  [.write [0x41], .interrupt (.shift 1), .write [0x42], .interrupt (.shift 1)]

theorem ninthBits_iff_twoWrites :
    ∃ e, run sendStep twoWrites nineBitPort = some e ∧ NinthBits 0 [[0x41], [0x42]] e := by
  have hmeets : RunMeets sendStep (MarksAddress 0) twoWrites nineBitPort := by decide +kernel
  have hlaw (e : Extension (Traced Chip)) (hrun : run sendStep twoWrites nineBitPort = some e) :=
    (ninthBits_iff rfl rfl rfl rfl hrun).mpr hmeets
  exact ⟨_, rfl, hlaw _ rfl⟩

/-- One write of two bytes. -/
def twoChunks : List (SendLabel Chip.Input) :=
  [.write [0x41, 0x42], .interrupt (.shift 1), .interrupt (.shift 1)]

/-- Its second byte goes out by itself and is marked as an address. -/
theorem not_ninthBits_twoChunks :
    ∃ e, run sendStep twoChunks nineBitPort = some e ∧ ¬NinthBits 0 [[0x41, 0x42]] e := by
  refine ⟨_, rfl, fun hlaw => ?_⟩
  have hframes : [((0x41 : UInt8), true), (0x42, true)] = [(0x41, true), (0x42, false)] := hlaw
  exact absurd hframes (by decide)

end

end SerialFc
