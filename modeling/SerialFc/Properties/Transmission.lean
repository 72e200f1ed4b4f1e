import SerialFc.Model.Write
import SerialFc.Properties.Callbacks

/-!
# The transmit log

`Wire.started` marks in the log where a request is given to the ISR. The data bytes behind it, up to
the next mark, are what has been sent of the request: its segment.

* `Wired` — the segments make up the data bytes, and each is the start of its request's payload
* `Logged` — the log agrees with what the ISR has left and with what completed writes report
* `Started` — the last segment belongs to the current write
* `sends_rule` — code under the interrupt lock keeps both, and so does what does not work for writes
-/

namespace SerialFc

open Extension

variable {U : Type}

/-! ## Segments -/

structure Segment where
  id : Nat
  payload : List UInt8
  sent : List UInt8
  deriving DecidableEq, Repr

/-- The segments so far, newest first, after one more entry of the log. -/
def Segment.log : List Segment → Wire → List Segment
  | segs, .started id payload => ⟨id, payload, []⟩ :: segs
  | s :: segs, .data b => { s with sent := s.sent ++ [b] } :: segs
  | segs, _ => segs

/-- The segments of the transmit log, newest first. -/
def segments (w : List Wire) : List Segment := w.foldl Segment.log []

/-- Without the immediate and flow-control characters. -/
def dataBytes (w : List Wire) : List UInt8 :=
  w.filterMap fun
    | .data b => some b
    | _ => none

variable {w : List Wire} {s : Segment} {segs : List Segment}

theorem segments_snoc (w : List Wire) (x : Wire) :
    segments (w ++ [x]) = Segment.log (segments w) x := by
  simp [segments]

theorem segments_data (h : segments w = s :: segs) (bs : List UInt8) :
    segments (w ++ bs.map Wire.data) = { s with sent := s.sent ++ bs } :: segs := by
  induction bs generalizing w s with
  | nil => simpa using h
  | cons b bs ih =>
    have hone : segments (w ++ [Wire.data b]) = { s with sent := s.sent ++ [b] } :: segs := by
      rw [segments_snoc, h]
      rfl
    have hrest := ih hone
    rwa [List.append_assoc, List.append_assoc] at hrest

theorem dataBytes_data (w : List Wire) (bs : List UInt8) :
    dataBytes (w ++ bs.map Wire.data) = dataBytes w ++ bs := by
  simp [dataBytes]

/-- The data bytes are the sent parts of the segments, oldest first. -/
structure Wired (w : List Wire) : Prop where
  bytes : dataBytes w = (segments w).reverse.flatMap Segment.sent
  prefixes : ∀ s ∈ segments w, s.sent <+: s.payload

namespace Wired

theorem nil : Wired [] := ⟨rfl, fun _ hs => nomatch hs⟩

theorem started (h : Wired w) (id : Nat) (payload : List UInt8) :
    Wired (w ++ [Wire.started id payload]) := by
  have hsegs : segments (w ++ [Wire.started id payload]) = ⟨id, payload, []⟩ :: segments w := by
    rw [segments_snoc]
    cases segments w <;> rfl
  refine ⟨?_, fun s hs => ?_⟩
  · rw [hsegs, List.reverse_cons, List.flatMap_append, ← h.bytes]
    simp [dataBytes]
  · rw [hsegs] at hs
    rcases List.mem_cons.mp hs with rfl | hs
    · exact List.nil_prefix
    · exact h.prefixes s hs

theorem data (h : Wired w) (hs : segments w = s :: segs) {bs : List UInt8}
    (hpre : s.sent ++ bs <+: s.payload) : Wired (w ++ bs.map Wire.data) := by
  refine ⟨?_, fun s' hs' => ?_⟩
  · rw [dataBytes_data, segments_data hs, h.bytes, hs]
    simp
  · rw [segments_data hs] at hs'
    rcases List.mem_cons.mp hs' with rfl | hs'
    · exact hpre
    · exact h.prefixes s' (by rw [hs]; exact List.mem_cons_of_mem _ hs')

end Wired

/-- Immediate and flow-control characters leave the segments alone. -/
def Wire.special : Wire → Bool
  | .immediate _ | .xon _ | .xoff _ => true
  | .started _ _ | .data _ => false

theorem segments_special {x : Wire} (hx : x.special = true) : segments (w ++ [x]) = segments w := by
  rw [segments_snoc]
  cases x with
  | started | data => cases hx
  | _ => cases segments w <;> rfl

theorem Wired.special (h : Wired w) {x : Wire} (hx : x.special = true) : Wired (w ++ [x]) := by
  refine ⟨?_, by rw [segments_special hx]; exact h.prefixes⟩
  rw [segments_special hx, ← h.bytes]
  cases x with
  | started | data => cases hx
  | _ => simp [dataBytes]

/-! ## The current write -/

/-- What a completed write tells its sender about its segment. -/
structure Reported (r : Request) (s : Segment) : Prop where
  id : s.id = r.id
  payload : s.payload = r.payload
  success : r.status = .success → s.sent = s.payload ∧ r.information = r.length
  timeout : r.status = .timeout → r.information = s.sent.length

/-- What the transmit path looks at in a request. -/
def Request.sending (r : Request) : Nat × Body × Nat × List UInt8 × Nat :=
  (r.id, r.body, r.length, r.systemBuffer, r.information)

/-- The completed writes. -/
def Extension.finishedWrites (e : Extension U) : List Request :=
  e.done.filter (Slot.write.finishes ·.body)

/-- A write that was not started ends with another status. -/
def Request.Ended (r : Request) : Prop := r.status = .success ∨ r.status = .timeout

/-- The ISR has bytes of the request left to send. -/
structure Pending (e : Extension U) (r : Request) (s : Segment) : Prop where
  id : s.id = r.id
  payload : s.payload = r.payload
  rest : s.sent ++ e.tx.writeCurrentChar = s.payload
  length : e.tx.writeLength = e.tx.writeCurrentChar.length
  dpc : e.dpc .completeWrite = false

/-- The log agrees with what the ISR has left and with what completed writes report. -/
structure Logged (e : Extension U) : Prop where
  wired : Wired e.wire
  finished : ∀ r ∈ e.finishedWrites, r.Ended → ∃ s ∈ segments e.wire, Reported r s
  apart : ∀ r, e.current .write = some r → ∀ r' ∈ e.finishedWrites, r'.id ≠ r.id
  sized : ∀ r, e.current .write = some r → (if r.isWrite then r.length else 1) = r.payload.length
  pending : e.tx.writeLength ≠ 0 →
    ∃ r s segs, e.current .write = some r ∧ segments e.wire = s :: segs ∧ Pending e r s

/-- What the request in the slot knows about its segment. -/
structure InHand (e : Extension U) (r : Request) (s : Segment) : Prop where
  id : s.id = r.id
  payload : s.payload = r.payload
  counted : e.tx.writeLength = 0 → r.isWrite = true → r.information = s.sent.length
  full : e.dpc .completeWrite = true → s.sent = s.payload

/-- The request in the slot has been given to the ISR: the last segment is its own. -/
def Started (e : Extension U) : Prop :=
  ∀ r, e.current .write = some r → ∃ s segs, segments e.wire = s :: segs ∧ InHand e r s

/-- What a step of the transmit path keeps. -/
structure Sends (e e' : Extension U) : Prop where
  logged : Logged e'
  started : Started e → Started e'
  idle : e.tx.writeLength = 0 → e'.tx.writeLength = 0

/-! ## What keeps it -/

section
variable {e e' : Extension U}

theorem sending_eq {r r' : Request} (h : r'.sending = r.sending) :
    r'.id = r.id ∧ r'.payload = r.payload ∧ r'.isWrite = r.isWrite ∧ r'.length = r.length ∧
      r'.information = r.information := by
  simp only [Request.sending, Prod.mk.injEq] at h
  obtain ⟨hid, hbody, hlength, hbuffer, hinfo⟩ := h
  refine ⟨hid, ?_, ?_, hlength, hinfo⟩
  · unfold Request.payload
    rw [hbody, hbuffer]
  · unfold Request.isWrite
    rw [hbody]

theorem Logged.congr_of (h : Logged e)
    (hcur : (e'.current .write).map Request.sending = (e.current .write).map Request.sending)
    (hsegs : segments e'.wire = segments e.wire) (hwired : Wired e'.wire)
    (hdone : e'.finishedWrites = e.finishedWrites)
    (hrest : (e'.tx.writeLength, e'.tx.writeCurrentChar, e'.dpc .completeWrite) =
      (e.tx.writeLength, e.tx.writeCurrentChar, e.dpc .completeWrite)) : Sends e e' := by
  simp only [Prod.mk.injEq] at hrest
  obtain ⟨hleft, hchar, hdpc⟩ := hrest
  -- the current write is the same one in both states, as far as sending goes
  have hback : ∀ r', e'.current .write = some r' →
      ∃ r, e.current .write = some r ∧ r'.sending = r.sending := by
    intro r' hr'
    rw [hr', Option.map_some] at hcur
    obtain ⟨r, hr, hsending⟩ := Option.map_eq_some_iff.mp hcur.symm
    exact ⟨r, hr, hsending.symm⟩
  have hforth : ∀ r, e.current .write = some r →
      ∃ r', e'.current .write = some r' ∧ r'.sending = r.sending := by
    intro r hr
    rw [hr, Option.map_some] at hcur
    exact Option.map_eq_some_iff.mp hcur
  refine ⟨⟨hwired, ?_, ?_, ?_, ?_⟩, fun hstarted r' hr' => ?_, fun hzero => hleft.trans hzero⟩
  · rw [hdone, hsegs]
    exact h.finished
  · intro r' hr'
    obtain ⟨r, hr, hsending⟩ := hback r' hr'
    rw [hdone, (sending_eq hsending).1]
    exact h.apart r hr
  · intro r' hr'
    obtain ⟨r, hr, hsending⟩ := hback r' hr'
    obtain ⟨-, hpayload, hwrite, hlength, -⟩ := sending_eq hsending
    rw [hpayload, hwrite, hlength]
    exact h.sized r hr
  · rw [hleft, hsegs]
    intro hne
    obtain ⟨r, s, segs, hr, hs, hp⟩ := h.pending hne
    obtain ⟨r', hr', hsending⟩ := hforth r hr
    obtain ⟨hid, hpayload, -⟩ := sending_eq hsending
    exact ⟨r', s, segs, hr', hs, hp.id.trans hid.symm, hp.payload.trans hpayload.symm,
      hchar ▸ hp.rest, by rw [hleft, hchar]; exact hp.length, hdpc.trans hp.dpc⟩
  · obtain ⟨r, hr, hsending⟩ := hback r' hr'
    obtain ⟨hid, hpayload, hwrite, -, hinfo⟩ := sending_eq hsending
    obtain ⟨s, segs, hs, hhand⟩ := hstarted r hr
    refine ⟨s, segs, hsegs.trans hs, hhand.id.trans hid.symm, hhand.payload.trans hpayload.symm, ?_,
      hdpc ▸ hhand.full⟩
    rw [hleft, hwrite, hinfo]
    exact hhand.counted

theorem Logged.congr (h : Logged e)
    (hcur : (e'.current .write).map Request.sending = (e.current .write).map Request.sending)
    (hwire : e'.wire = e.wire) (hdone : e'.finishedWrites = e.finishedWrites)
    (hrest : (e'.tx.writeLength, e'.tx.writeCurrentChar, e'.dpc .completeWrite) =
      (e.tx.writeLength, e.tx.writeCurrentChar, e.dpc .completeWrite)) : Sends e e' :=
  h.congr_of hcur (by rw [hwire]) (by rw [hwire]; exact h.wired) hdone hrest

/-- An immediate or flow-control character is sent. -/
theorem Logged.special (h : Logged e) {x : Wire} (hx : x.special = true)
    (hcur : (e'.current .write).map Request.sending = (e.current .write).map Request.sending)
    (hwire : e'.wire = e.wire ++ [x])
    (hdone : e'.finishedWrites = e.finishedWrites)
    (hrest : (e'.tx.writeLength, e'.tx.writeCurrentChar, e'.dpc .completeWrite) =
      (e.tx.writeLength, e.tx.writeCurrentChar, e.dpc .completeWrite)) : Sends e e' :=
  h.congr_of hcur (by rw [hwire, segments_special hx]) (by rw [hwire]; exact h.wired.special hx) hdone
    hrest

theorem finishedWrites_modifyCurrent (t : Slot) (f : Request → Request) :
    (e.modifyCurrent t f).finishedWrites = e.finishedWrites := by
  unfold finishedWrites
  rw [done_modifyCurrent]

theorem Logged.modifyOther (h : Logged e) {t : Slot} (ht : t ≠ .write) (f : Request → Request) :
    Sends e (e.modifyCurrent t f) :=
  h.congr (by rw [current_modifyCurrent, if_neg ht.symm]) (wire_modifyCurrent ..)
    (finishedWrites_modifyCurrent t f) (by simp)

theorem Sends.trans {a b c : Extension U} (hab : Sends a b) (hbc : Sends b c) : Sends a c :=
  ⟨hbc.logged, hbc.started ∘ hab.started, hbc.idle ∘ hab.idle⟩

/-- Reports are about segments that are not written to any more. -/
theorem Logged.finished_of_data (h : Logged e) {r : Request} (hr : e.current .write = some r)
    {s n : Segment} {segs : List Segment} (hs : segments e.wire = s :: segs) (hid : s.id = r.id) :
    ∀ r ∈ e.finishedWrites, r.Ended → ∃ t ∈ n :: segs, Reported r t := by
  intro r' hr' hended
  obtain ⟨t, ht, hreported⟩ := h.finished r' hr' hended
  rw [hs] at ht
  rcases List.mem_cons.mp ht with rfl | ht
  · exact absurd (hreported.id.symm.trans hid) (h.apart r hr r' hr')
  · exact ⟨t, List.mem_cons_of_mem _ ht, hreported⟩

/-- The next bytes of the write are sent. -/
theorem sends_advanceWrite (h : Logged e) (n : Nat) (hne : e.tx.writeLength ≠ 0) :
    Sends e (e.advanceWrite n) := by
  obtain ⟨r, s, segs, hr, hs, hp⟩ := h.pending hne
  have hrest : s.sent ++ e.tx.writeCurrentChar.take n ++ e.tx.writeCurrentChar.drop n =
      s.payload := by
    -- the bytes sent so far and those left are the payload, before and after
    rw [List.append_assoc, List.take_append_drop, hp.rest]
  have hlength : e.tx.writeLength - n = (e.tx.writeCurrentChar.drop n).length := by
    rw [List.length_drop, hp.length]
  have hs' := segments_data hs (e.tx.writeCurrentChar.take n)
  have hwired := h.wired.data hs ⟨_, hrest⟩
  have hfinished := h.finished_of_data (n := { s with
    sent := s.sent ++ e.tx.writeCurrentChar.take n }) hr hs hp.id
  unfold advanceWrite
  split
  -- the last byte: the request is complete, and the DPC has to be told so
  · next hzero =>
    have hnil : e.tx.writeCurrentChar.drop n = [] :=
      List.length_eq_zero_iff.mp (hlength.symm.trans hzero)
    rw [hnil, List.append_nil] at hrest
    have hrm : (e.movePointer n).current .write = some r := hr
    rw [modifyCurrent_of_some _ hrm]
    refine ⟨⟨hwired, ?_, ?_, ?_, fun hleft => absurd hzero hleft⟩, fun _ r' hr' => ?_, fun _ => hzero⟩
    · intro r' hr' hended
      obtain ⟨t, ht, hreported⟩ := hfinished r' hr' hended
      exact ⟨t, by rw [← hs'] at ht; exact ht, hreported⟩
    · intro r' hr'
      simp only [serialInsertQueueDpc, setCurrent, Function.update_self, Option.some.injEq] at hr'
      subst hr'
      exact h.apart r hr
    · intro r' hr'
      simp only [serialInsertQueueDpc, setCurrent, Function.update_self, Option.some.injEq] at hr'
      subst hr'
      exact h.sized r hr
    · simp only [serialInsertQueueDpc, setCurrent, Function.update_self, Option.some.injEq] at hr'
      subst hr'
      refine ⟨_, segs, hs', hp.id, hp.payload, fun _ hwrite => ?_, fun _ => hrest⟩
      have hw : r.isWrite = true := hwrite
      show (if r.isWrite = true then r.length else 1) =
        (s.sent ++ e.tx.writeCurrentChar.take n).length
      have hsized := h.sized r hr
      rw [if_pos hw] at hsized
      rw [if_pos hw, hrest, hsized, hp.payload]
  -- bytes are left
  · next hmore =>
    have hp' : Pending (e.movePointer n) r { s with sent := s.sent ++ e.tx.writeCurrentChar.take n } :=
      ⟨hp.id, hp.payload, hrest, hlength, hp.dpc⟩
    refine ⟨⟨hwired, ?_, h.apart, h.sized, fun _ => ⟨r, _, segs, hr, hs', hp'⟩⟩, fun _ r' hr' => ?_,
      fun hzero => absurd hzero hne⟩
    · intro r' hr' hended
      obtain ⟨t, ht, hreported⟩ := hfinished r' hr' hended
      exact ⟨t, by rw [← hs'] at ht; exact ht, hreported⟩
    · cases hr.symm.trans hr'
      refine ⟨_, segs, hs', hp.id, hp.payload, (fun hzero => absurd hzero hmore), fun hpending => ?_⟩
      cases hp.dpc.symm.trans hpending

theorem sends_countXoff (h : Logged e) : Sends e e.countXoff := by
  unfold countXoff
  split
  · exact h.congr rfl rfl rfl rfl
  · split
    · have hcount : Sends e (e.setCountSinceXoff 0) := h.congr rfl rfl rfl rfl
      have hmark := hcount.logged.modifyOther (t := .xoff) (by decide) fun r =>
        { r with status := .success, information := 0 }
      exact hcount.trans (hmark.trans (hmark.logged.congr rfl rfl rfl rfl))
    · exact h.congr rfl rfl rfl rfl

theorem sends_storeUser (h : Logged e) (c : UInt8) : Sends e (e.storeUser c) := by
  have hput : Sends e (e.putUser c) := by
    have hstream : Sends e ({ e with
        rx := { e.rx with readByIsr := e.rx.readByIsr + 1 }
        stream := e.stream ++ [Lib.Fifo.Op.put c] } : Extension U) := h.congr rfl rfl rfl rfl
    exact hstream.trans (hstream.logged.modifyOther (t := .read) (by decide) _)
  unfold storeUser
  split
  · have hreset : Sends (e.putUser c) (e.putUser c).resetRing := hput.logged.congr rfl rfl rfl rfl
    have hinfo := hreset.logged.modifyOther (t := .read) (by decide) fun r =>
      { r with information := r.length }
    exact hput.trans (hreset.trans (hinfo.trans (hinfo.logged.congr rfl rfl rfl rfl)))
  · exact hput.trans (hput.logged.congr rfl rfl rfl rfl)

/-- The completion of a write is queued by the ISR only. -/
theorem sends_insertDpc (h : Logged e) {d : DpcId} (hd : d ≠ .completeWrite) :
    Sends e (e.serialInsertQueueDpc d) :=
  h.congr rfl rfl rfl (by simp [serialInsertQueueDpc, Function.update_of_ne hd.symm])

theorem sends_interruptRule [Uart U] : InterruptRule (U := U) fun e e' => Logged e → Sends e e' where
  refl _ h := h.congr rfl rfl rfl rfl
  trans hab hbc h := (hab h).trans (hbc (hab h).logged)
  readReg _ _ h := h.congr rfl rfl rfl rfl
  writeReg _ _ _ _ _ h := h.congr rfl rfl rfl rfl
  fillFscc _ h := h.congr rfl rfl rfl rfl
  writeData _ _ h := h.congr rfl rfl rfl rfl
  events _ _ _ _ h := h.congr rfl rfl rfl rfl
  txHolding _ _ h := h.congr rfl rfl rfl rfl
  holdingEmpty _ _ h := h.congr rfl rfl rfl rfl
  special _ _ h := h.congr rfl rfl rfl rfl
  rxHolding _ _ h := h.congr rfl rfl rfl rfl
  tryingToLowerRts _ _ h := h.congr rfl rfl rfl rfl
  insertDpc _ _ hd h := sends_insertDpc h (by rintro rfl; simp at hd)
  answerWait e _ h := by
    have hev : Sends e { e with
        ev := { e.ev with irpMaskLocation := false, historyMask := 0 } } := h.congr rfl rfl rfl rfl
    have hanswer := hev.logged.modifyOther (t := .wait) (by decide) fun r =>
      { r with eventMask := some e.ev.historyMask, information := 4 }
    exact hev.trans (hanswer.trans (sends_insertDpc hanswer.logged (by decide)))
  countXoff _ := sends_countXoff
  storeUser _ c _ h := sends_storeUser h c
  putRing _ _ _ _ h := h.congr rfl rfl rfl rfl
  overwriteLast _ _ _ h := h.congr rfl rfl rfl rfl
  handFlow _ _ h := h.congr rfl rfl rfl rfl
  emptied _ h := h.congr rfl rfl rfl rfl
  logSpecial _ _ hw h := by
    obtain ⟨b, rfl | rfl⟩ := hw <;> exact h.special rfl rfl rfl rfl rfl
  xonSent _ h := h.congr rfl rfl rfl rfl
  xoffSent _ h := h.congr rfl rfl rfl rfl
  immediateSent e _ h := by
    have hsent : Sends e { e with
        tx := { e.tx with transmitImmediate := false, holdingEmpty := false }
        wire := e.wire ++ [Wire.immediate e.tx.immediateChar] } := h.special rfl rfl rfl rfl rfl
    exact hsent.trans (sends_insertDpc hsent.logged (by decide))
  advanceWrite _ n hne _ h := sends_advanceWrite h n hne

/-- Code under the interrupt lock, and what does not work for writes. -/
theorem sends_rule [Uart U] :
    StepRule (U := U) (· = .write) fun e e' => Logged e → Sends e e' := by
  refine .of_interruptRule sends_interruptRule fun e e' hsame h => ?_
  have hwrite := hsame .write rfl
  obtain ⟨hleft, hchar, hwire, _⟩ := hwrite.data
  have hdpc : e'.dpc .completeWrite = e.dpc .completeWrite := hwrite.dpc
  exact h.congr (by rw [hwrite.current]) hwire hwrite.finished (by rw [hleft, hchar, hdpc])

end

end SerialFc
