import SerialFc.Lib.Turns
import SerialFc.Properties.DeskSteps
import SerialFc.Properties.TransmitStream

/-!
# Writes in order

Every write that is given to the ISR is logged. Between two states of a run the log and the write
queue move as `Turns` do: requests are started in the order in which they came.

* `StartsNone` — no request is started: by nothing under the interrupt lock, by nothing that does
  not work for writes
* `Begins` — one request is started
* `Forward` — what happens from one state to a later one
* `StartRule` — what becomes of the writes while none comes
* `writes_in_order` — the order of all that have ever been started
-/

namespace SerialFc

open Extension Lib

variable {U : Type} {e e' e'' : Extension U}

/-! ## The log and the queue -/

/-- Who has been given to the ISR, and who waits in the write queue. `n` is the number of the next
request. -/
def Extension.turns (e : Extension U) (n : Nat) : Turns where
  started := (segments e.wire).reverse.map Segment.id
  waiting := (e.queue .writeQueue).waiting.map Request.id
  fresh := n

/-- No request has been started; if the ISR had nothing left to send, nothing has been sent. -/
structure StartsNone (e e' : Extension U) : Prop where
  queue : e'.queue .writeQueue = e.queue .writeQueue
  ids : (segments e'.wire).map Segment.id = (segments e.wire).map Segment.id
  tail : (segments e'.wire).tail = (segments e.wire).tail
  idle : e.tx.writeLength = 0 → segments e'.wire = segments e.wire ∧ e'.tx.writeLength = 0

namespace StartsNone

theorem of_same (hqueue : e'.queue .writeQueue = e.queue .writeQueue) (hwire : e'.wire = e.wire)
    (hidle : e.tx.writeLength = 0 → e'.tx.writeLength = 0) : StartsNone e e' where
  queue := hqueue
  ids := by rw [hwire]
  tail := by rw [hwire]
  idle hzero := ⟨by rw [hwire], hidle hzero⟩

theorem refl (e : Extension U) : StartsNone e e := of_same rfl rfl id

theorem trans (h : StartsNone e e') (h' : StartsNone e' e'') : StartsNone e e'' where
  queue := h'.queue.trans h.queue
  ids := h'.ids.trans h.ids
  tail := h'.tail.trans h.tail
  idle hzero := by
    obtain ⟨hsegs, hzero'⟩ := h.idle hzero
    obtain ⟨hsegs', hzero''⟩ := h'.idle hzero'
    exact ⟨hsegs'.trans hsegs, hzero''⟩

/-- A flow control character goes out between the data bytes. -/
theorem special {x : Wire} (hx : x.special = true)
    (hqueue : e'.queue .writeQueue = e.queue .writeQueue) (hwire : e'.wire = e.wire ++ [x])
    (hidle : e.tx.writeLength = 0 → e'.tx.writeLength = 0) :
    StartsNone e e' where
  queue := hqueue
  ids := by rw [hwire, segments_special hx]
  tail := by rw [hwire, segments_special hx]
  idle hzero := ⟨by rw [hwire, segments_special hx], hidle hzero⟩

end StartsNone

/-- Data bytes belong to the request that was started last. -/
theorem segments_bytes (w : List Wire) (bs : List UInt8) :
    (segments (w ++ bs.map Wire.data)).map Segment.id = (segments w).map Segment.id ∧
      (segments (w ++ bs.map Wire.data)).tail = (segments w).tail := by
  cases hs : segments w with
  | nil =>
    have hnil : segments (w ++ bs.map Wire.data) = [] := by
      induction bs generalizing w with
      | nil => simpa using hs
      | cons b bs ih =>
        have hone : segments (w ++ [Wire.data b]) = [] := by
          rw [segments_snoc, hs]
          rfl
        have hrest := ih (w ++ [Wire.data b]) hone
        rwa [List.append_assoc] at hrest
    simp [hnil]
  | cons s segs => simp [segments_data hs]

/-- To go on in the current write is to start none. -/
theorem startsNone_advanceWrite (n : Nat) (hne : e.tx.writeLength ≠ 0) :
    StartsNone e (e.advanceWrite n) := by
  obtain ⟨hids, htail⟩ := segments_bytes e.wire (e.tx.writeCurrentChar.take n)
  have hwire : (e.advanceWrite n).wire =
      e.wire ++ (e.tx.writeCurrentChar.take n).map Wire.data := by
    unfold advanceWrite
    split
    · simp [movePointer, serialInsertQueueDpc]
    · rfl
  have hqueue : (e.advanceWrite n).queue = e.queue := by
    unfold advanceWrite
    split
    · simp [movePointer, serialInsertQueueDpc]
    · rfl
  exact
    { queue := by rw [hqueue]
      ids := by rw [hwire, hids]
      tail := by rw [hwire, htail]
      idle := fun hzero => absurd hzero hne }

theorem startsNone_modifyOther (e : Extension U) (t : Slot) (f : Request → Request) :
    StartsNone e (e.modifyCurrent t f) :=
  .of_same (by rw [queue_modifyCurrent]) (wire_modifyCurrent ..) (by simp)

theorem startsNone_countXoff (e : Extension U) : StartsNone e e.countXoff := by
  unfold countXoff
  split
  · exact .refl e
  · split
    · have hcount : StartsNone e (e.setCountSinceXoff 0) := .of_same rfl rfl id
      have hmark := startsNone_modifyOther (e.setCountSinceXoff 0) .xoff fun r =>
        { r with status := .success, information := 0 }
      exact hcount.trans (hmark.trans (.of_same rfl rfl id))
    · exact .of_same rfl rfl id

theorem startsNone_storeUser (e : Extension U) (c : UInt8) : StartsNone e (e.storeUser c) := by
  have hput : StartsNone e (e.putUser c) := by
    have hstream : StartsNone e { e with
        rx := { e.rx with readByIsr := e.rx.readByIsr + 1 }
        stream := e.stream ++ [Fifo.Op.put c] } := .of_same rfl rfl id
    exact hstream.trans (startsNone_modifyOther _ .read _)
  unfold storeUser
  split
  · have hreset : StartsNone (e.putUser c) (e.putUser c).resetRing := .of_same rfl rfl id
    have hinfo := startsNone_modifyOther (e.putUser c).resetRing .read fun r =>
      { r with information := r.length }
    exact hput.trans (hreset.trans (hinfo.trans (.of_same rfl rfl id)))
  · exact hput.trans (.of_same rfl rfl id)

/-- The ISR and what it calls start no request. -/
theorem startsNone_interruptRule [Uart U] : InterruptRule (U := U) StartsNone where
  refl e := .refl e
  trans hab hbc := hab.trans hbc
  readReg _ _ := .of_same rfl rfl id
  writeReg _ _ _ _ _ := .of_same rfl rfl id
  fillFscc _ := .of_same rfl rfl id
  writeData _ _ := .of_same rfl rfl id
  events _ _ _ _ := .of_same rfl rfl id
  txHolding _ _ := .of_same rfl rfl id
  holdingEmpty _ _ := .of_same rfl rfl id
  special _ b := by cases b <;> exact .of_same rfl rfl id
  rxHolding _ _ := .of_same rfl rfl id
  tryingToLowerRts _ _ := .of_same rfl rfl id
  insertDpc _ _ _ := .of_same rfl rfl id
  answerWait e _ := by
    have hev : StartsNone e { e with
        ev := { e.ev with irpMaskLocation := false, historyMask := 0 } } := .of_same rfl rfl id
    exact hev.trans ((startsNone_modifyOther _ .wait _).trans (.of_same rfl rfl id))
  countXoff e := startsNone_countXoff e
  storeUser e c _ := startsNone_storeUser e c
  putRing _ _ _ _ := .of_same rfl rfl id
  overwriteLast _ _ _ := .of_same rfl rfl id
  handFlow _ _ := .of_same rfl rfl id
  emptied _ := .of_same rfl rfl id
  logSpecial _ _ hw := by
    obtain ⟨b, rfl | rfl⟩ := hw <;> exact .special rfl rfl rfl id
  xonSent _ := .of_same rfl rfl id
  xoffSent _ := .of_same rfl rfl id
  immediateSent e _ := by
    have hsent : StartsNone e { e with
        tx := { e.tx with transmitImmediate := false, holdingEmpty := false }
        wire := e.wire ++ [Wire.immediate e.tx.immediateChar] } := .special rfl rfl rfl id
    exact hsent.trans (.of_same rfl rfl id)
  advanceWrite _ n hne _ := startsNone_advanceWrite n hne

/-- Code that leaves the write alone starts none. -/
theorem startsNone_of_same (h : Same .write e e') : StartsNone e e' := by
  obtain ⟨hleft, _, hwire, _⟩ := h.data
  exact .of_same (h.queue .writeQueue rfl) hwire (hleft.trans ·)

/-- Code under the interrupt lock, and what does not work for writes. -/
theorem startsNone_rule [Uart U] : StepRule (U := U) (· = .write) StartsNone :=
  .of_interruptRule startsNone_interruptRule fun _ _ hsame => startsNone_of_same (hsame .write rfl)

theorem startsNone_bookkeeping (h : Bookkeeping .write e e') : StartsNone e e' := by
  refine .of_same ?_ ?_ ?_
  · rw [h.rest]
  · rw [h.rest]
  · rw [h.rest]
    exact id

/-! ## A request is started -/

/-- The request is started: it is the newest of the log, and the queue is as it was. -/
structure Begins (r : Request) (e e' : Extension U) : Prop where
  queue : e'.queue .writeQueue = e.queue .writeQueue
  log : ∃ s, segments e'.wire = s :: segments e.wire ∧ s.id = r.id

/-- Nothing is started after it. -/
theorem Begins.startsNone {r : Request} (h : Begins r e e') (hnone : StartsNone e' e'') :
    Begins r e e'' := by
  obtain ⟨s, hs, hid⟩ := h.log
  have hids := hnone.ids
  have htail := hnone.tail
  rw [hs] at hids htail
  refine ⟨hnone.queue.trans h.queue, ?_⟩
  cases hsegs : segments e''.wire with
  | nil =>
    rw [hsegs] at hids
    cases hids
  | cons s' segs =>
    rw [hsegs] at hids htail
    obtain ⟨hfirst, _⟩ := List.cons.inj hids
    exact ⟨s', congrArg (s' :: ·) htail, hfirst.trans hid⟩

section
variable [Uart U]

/-- The request in the slot is the one that is started. -/
theorem begins_serialGiveWriteToIsr {r : Request} (hr : e.current .write = some r) :
    Begins r e e.serialGiveWriteToIsr := by
  have hsegs : segments (e.wire ++ [Wire.started r.id r.payload]) =
      ⟨r.id, r.payload, []⟩ :: segments e.wire := by
    rw [segments_snoc]
    cases segments e.wire <;> rfl
  have hgive : Begins r e ((e.giveWrite r).modifyCurrent .write (·.putReference true .isr)) := by
    refine ⟨by rw [queue_modifyCurrent]; rfl, ⟨r.id, r.payload, []⟩, ?_, rfl⟩
    rw [wire_modifyCurrent]
    exact hsegs
  unfold serialGiveWriteToIsr
  rw [hr]
  dsimp only
  have hrule := startsNone_interruptRule (U := U)
  have hstart (e : Extension U) : StartsNone e e.startTransmit := by
    unfold startTransmit
    split
    · exact hrule.retickle e
    · exact .refl e
  exact hgive.startsNone ((hstart _).trans (hrule.raiseRtsInToggle _))

/-- `SerialStartWrite` starts the request in the slot. -/
theorem begins_serialStartWrite (hacc : Accounted e) (hready : ReadyWrite e) {r : Request}
    (hr : e.current .write = some r) : Begins r e e.serialStartWrite := by
  have hkill := (startsNone_rule.killXoff xoff_ne_write e hacc).2
  have hid := ((sameSlot_rule .write (some r.id)).killXoff xoff_ne_write e hacc).2
    (by rw [hr]; rfl)
  have hbook := bookkeeping_armed e.killXoff .write .writeRequestTotal
  have harmed := hkill.trans (startsNone_bookkeeping hbook)
  have hids := congrArg (Option.map Request.id) hbook.data
  rw [Option.map_map, Option.map_map] at hids
  obtain ⟨r', hr', hidr⟩ := Option.map_eq_some_iff.mp (Eq.trans hids hid)
  have hidr' : r'.id = r.id := hidr
  obtain ⟨hqueue, s, hs, hsid⟩ := begins_serialGiveWriteToIsr hr'
  have hzero := writeLength_of_unheld hready.unheld
  refine ⟨hqueue.trans harmed.queue, s, ?_, hsid.trans hidr'⟩
  unfold serialStartWrite
  rw [hs, (harmed.idle hzero).1]

end

/-! ## From one turn to the next -/

/-- How the log and the queue have moved on. `news` are the segments of the requests started in the
meantime. Of the ones before, only the last may have grown, and only if the ISR had bytes left. -/
structure Forward (n n' : Nat) (e e' : Extension U) : Prop where
  turns : (e.turns n).Next (e'.turns n')
  log : ∃ news segs, segments e'.wire = news ++ segs ∧
    segs.map Segment.id = (segments e.wire).map Segment.id ∧ segs.tail = (segments e.wire).tail ∧
    (e.tx.writeLength = 0 → segs = segments e.wire ∧ (news = [] → e'.tx.writeLength = 0))

namespace Forward

variable {n n' n'' : Nat}

/-- Nothing is started, and numbers only go up. -/
theorem of_none (h : StartsNone e e') (hn : n ≤ n') : Forward n n' e e' := by
  have hstarted : (e'.turns n').started = (e.turns n).started := by
    show (segments e'.wire).reverse.map Segment.id = (segments e.wire).reverse.map Segment.id
    rw [List.map_reverse, List.map_reverse, h.ids]
  have hwaiting : (e'.turns n').waiting = (e.turns n).waiting := by
    unfold Extension.turns
    rw [h.queue]
  refine ⟨?_, [], _, rfl, h.ids, h.tail, ?_⟩
  · refine .of_sublist ?_ ?_ hn
    · rw [hstarted]
    · rw [Turns.line, Turns.line, hstarted, hwaiting]
  · intro hzero
    obtain ⟨hsegs, hzero'⟩ := h.idle hzero
    exact ⟨hsegs, fun _ => hzero'⟩

theorem refl (n : Nat) (e : Extension U) : Forward n n e e := of_none (.refl e) (Nat.le_refl n)

theorem trans (h : Forward n n' e e') (h' : Forward n' n'' e' e'') : Forward n n'' e e'' := by
  obtain ⟨news, segs, hlog, hids, htail, hidle⟩ := h.log
  obtain ⟨news', segs', hlog', hids', htail', hidle'⟩ := h'.log
  -- what the second part adds comes before what the first part added
  have hlength : segs'.length = news.length + segs.length := by
    have hids := congrArg List.length hids'
    rwa [List.length_map, List.length_map, hlog, List.length_append] at hids
  have hsplit : segs'.take news.length ++ segs'.drop news.length = segs' := List.take_append_drop ..
  have hdrop : (segs'.drop news.length).map Segment.id = segs.map Segment.id := by
    rw [List.map_drop, hids', hlog, List.map_append, List.drop_left' (by simp)]
  have hrest : news ≠ [] → segs'.drop news.length = segs := by
    intro hne
    obtain ⟨s, news₁, rfl⟩ := List.exists_cons_of_ne_nil hne
    rw [hlog, List.cons_append, List.tail_cons] at htail'
    rw [List.length_cons, ← List.drop_tail, htail', List.drop_left]
  refine ⟨h.turns.trans h'.turns, news' ++ segs'.take news.length, segs'.drop news.length, ?_, ?_,
    ?_, ?_⟩
  · rw [List.append_assoc, hsplit, hlog']
  · rw [hdrop, hids]
  · by_cases hne : news = []
    · subst hne
      rw [List.length_nil, List.drop_zero, htail', hlog, List.nil_append, htail]
    · rw [hrest hne, htail]
  · intro hzero
    obtain ⟨hsegs, hnone⟩ := hidle hzero
    by_cases hne : news = []
    · subst hne
      obtain ⟨hsegs', hnone'⟩ := hidle' (hnone rfl)
      rw [List.length_nil, List.drop_zero, List.take_zero, List.append_nil, hsegs', hlog,
        List.nil_append]
      exact ⟨hsegs, hnone'⟩
    · refine ⟨(hrest hne).trans hsegs, ?_⟩
      intro hempty
      obtain ⟨s, news₁, rfl⟩ := List.exists_cons_of_ne_nil hne
      cases segs' with
      | nil =>
        rw [List.length_nil, List.length_cons] at hlength
        omega
      | cons s' segs' => simp at hempty

/-- Only the queue has changed. -/
theorem of_wire (hwire : e'.wire = e.wire) (hidle : e.tx.writeLength = 0 → e'.tx.writeLength = 0)
    (hturns : (e.turns n).Next (e'.turns n')) : Forward n n' e e' where
  turns := hturns
  log := by
    refine ⟨[], segments e'.wire, rfl, by rw [hwire], by rw [hwire], ?_⟩
    intro hzero
    exact ⟨by rw [hwire], fun _ => hidle hzero⟩

/-- A request that is in its slot in state `e₁` is started. -/
theorem begins {e₁ : Extension U} {r : Request} (h : Begins r e₁ e')
    (hsegs : segments e₁.wire = segments e.wire)
    (hnext : (e.turns n).Next ⟨(e.turns n).started ++ [r.id], (e₁.turns n).waiting, n'⟩) :
    Forward n n' e e' := by
  obtain ⟨s, hs, hid⟩ := h.log
  rw [hsegs] at hs
  have hturns : e'.turns n' = ⟨(e.turns n).started ++ [r.id], (e₁.turns n).waiting, n'⟩ := by
    unfold Extension.turns
    rw [hs, h.queue, List.reverse_cons, List.map_append, List.map_singleton, hid]
  refine ⟨hturns ▸ hnext, [s], segments e.wire, hs, rfl, rfl, ?_⟩
  intro _
  exact ⟨rfl, by simp⟩

/-- A bound on the numbers may be loosened. -/
theorem mono (h : Forward n n' e e') (hn : n' ≤ n'') : Forward n n'' e e' :=
  h.trans (of_none (.refl e') hn)

end Forward

/-! ## From one write to the next -/

/-- The first of those who wait is fetched, if there is one and the queue is started. -/
theorem fetched_cases (e : Extension U) :
    (∃ r rest, (e.queue .writeQueue).waiting = r :: rest ∧
      (e.serialGetNextRequest .write .writeQueue true).current .write =
        some { r with origin := some .writeQueue } ∧
      ((e.serialGetNextRequest .write .writeQueue true).queue .writeQueue).waiting = rest) ∨
    ((e.serialGetNextRequest .write .writeQueue true).current .write = none ∧
      (e.serialGetNextRequest .write .writeQueue true).queue .writeQueue =
        e.queue .writeQueue) := by
  have hfetch : (e.serialGetNextRequest .write .writeQueue true).current .write =
        (e.retrieveNextRequest .writeQueue .write).current .write ∧
      (e.serialGetNextRequest .write .writeQueue true).queue .writeQueue =
        (e.retrieveNextRequest .writeQueue .write).queue .writeQueue := by
    unfold serialGetNextRequest
    split <;> exact ⟨rfl, rfl⟩
  rw [hfetch.1, hfetch.2]
  unfold retrieveNextRequest
  split
  · next r rest _ hwaiting =>
    refine .inl ⟨r, rest, hwaiting, ?_, ?_⟩
    · rw [current_setCurrent, if_pos rfl]
    · simp [setCurrent, putQueue]
  · refine .inr ⟨?_, rfl⟩
    rw [current_setCurrent, if_pos rfl]

section
variable [Uart U]

/-- An XOFF counter that is held does not wait in the queue any more. -/
theorem startsNone_holdIfXoff (hacc : Accounted e) {r : Request} (hr : e.current .write = some r) :
    StartsNone e (e.holdIfXoff r) := by
  unfold holdIfXoff
  split
  · next timeout counter c hbody =>
    split
    · exact .refl e
    · have hserves : Slot.xoff.serves r.body = true := by rw [hbody]; rfl
      have haccm := (anything.moveToXoff id id hr hserves hacc).1
      have hmoved : StartsNone e (e.moveToXoff r) := .of_same rfl rfl id
      obtain ⟨haccg, hgive⟩ := startsNone_rule.serialGiveXoffToIsr xoff_ne_write (e.moveToXoff r)
        counter haccm
      have harm := (startsNone_rule.armXoffTimer xoff_ne_write _ timeout haccg).2
      exact hmoved.trans (hgive.trans harm)
  · exact .refl e

/-- After the end of a write the next one is started, if one waits. -/
theorem nextWrite_cases (n : Nat) (hacc : Accounted e) (hun : Unheld .write e) {r : Request}
    (hr : e.current .write = some r) :
    (e.queue .writeQueue).waiting ≠ [] ∧
        Forward n n e (e.serialGetNextWrite.startNew .write serialStartWrite) ∨
      StartsNone e (e.serialGetNextWrite.startNew .write serialStartWrite) := by
  unfold serialGetNextWrite
  rw [hr]
  -- what is finished leaves the count; an XOFF counter stays on, aside
  dsimp only
  obtain ⟨hacc₁, hun₁⟩ := (unheld_rule .write).addCharsQueued e (-charsQueued r) hacc
  have hr₁ : (e.addCharsQueued (-charsQueued r)).current .write = some r := hr
  have hcount : StartsNone e (e.addCharsQueued (-charsQueued r)) := .of_same rfl rfl id
  generalize e.addCharsQueued (-charsQueued r) = e₁ at *
  have hhold := hcount.trans (startsNone_holdIfXoff hacc₁ hr₁)
  have hun₂ := unheld_holdIfXoff hacc₁ (hun₁ hun) hr₁
  have hacc₂ := (anything.holdIfXoff id id hr₁ hacc₁).1
  generalize e₁.holdIfXoff r = e₂ at *
  have hun₃ : Unheld .write (e₂.serialGetNextRequest .write .writeQueue true) :=
    hun₂.getNext (q := .writeQueue) hacc₂
  have hacc₃ : Accounted (e₂.serialGetNextRequest .write .writeQueue true) :=
    (anything.getNext e₂ .writeQueue (apart_nothing _) hacc₂).1
  have hfields := fields_getNext e₂ .write .writeQueue
  simp only [Prod.mk.injEq] at hfields
  obtain ⟨htx, hwire, _⟩ := hfields
  -- is there a request in the queue?
  rcases fetched_cases e₂ with ⟨r', rest, hwaiting, hcur, hrest⟩ | ⟨hcur, hqueue⟩
  · have hstate : (e₂.serialGetNextRequest .write .writeQueue true).emptyTransmitIfNone =
        e₂.serialGetNextRequest .write .writeQueue true := by
      unfold emptyTransmitIfNone
      rw [hcur]
      rfl
    have hlength : r'.isWrite = true → 0 < r'.length := by
      have hmem : r' ∈ (e₂.queue .writeQueue).waiting := by simp [hwaiting]
      exact (hacc₂.waiting _ r' hmem).2.1.length_pos
    rw [hstate, startNew, hcur]
    refine .inl ⟨by rw [← hhold.queue, hwaiting]; simp, ?_⟩
    refine (Forward.of_none hhold (Nat.le_refl n)).trans ?_
    refine .begins (begins_serialStartWrite hacc₃ ⟨hun₃, _, hcur, hlength⟩ hcur) (by rw [hwire]) ?_
    have hfirst : (e₂.turns n).waiting = r'.id :: rest.map Request.id := by
      rw [Extension.turns, hwaiting]
      rfl
    have hqueue : ((e₂.serialGetNextRequest .write .writeQueue true).turns n).waiting =
        rest.map Request.id := by rw [Extension.turns, hrest]
    rw [hqueue]
    exact .take hfirst
  · have hfetch : StartsNone e₂ (e₂.serialGetNextRequest .write .writeQueue true) :=
      .of_same hqueue hwire (htx ▸ ·)
    have hempty := (startsNone_interruptRule (U := U)).lockRule.serialProcessEmptyTransmit
      (e₂.serialGetNextRequest .write .writeQueue true)
    have hnone := ((effect_interruptRule (U := U)).lockRule.serialProcessEmptyTransmit
      (e₂.serialGetNextRequest .write .writeQueue true)).current_none hcur
    have hstate : (e₂.serialGetNextRequest .write .writeQueue true).emptyTransmitIfNone =
        (e₂.serialGetNextRequest .write .writeQueue true).serialProcessEmptyTransmit := by
      unfold emptyTransmitIfNone
      rw [hcur]
      rfl
    rw [hstate, startNew, hnone]
    exact .inr (hhold.trans (hfetch.trans hempty))

/-- `R` contains what becomes of the writes while none comes: some leave the queue without being
started, and after the end of one the next one is started. -/
structure StartRule (R : Extension U → Extension U → Prop) : Prop where
  trans : ∀ {a b c}, R a b → R b c → R a c
  startsNone : ∀ {e e'}, StartsNone e e' → R e e'
  putQueue : ∀ e (l : IoQueue), l.waiting.Sublist (e.queue .writeQueue).waiting →
    R e (e.putQueue .writeQueue l)
  nextWrite : ∀ {e r}, Accounted e → Unheld .write e → e.current .write = some r →
    R e (e.serialGetNextWrite.startNew .write serialStartWrite)

/-- Moving forward is such a relation: it starts requests from the queue, in order. -/
theorem Forward.startRule (n : Nat) : StartRule (U := U) (Forward n n) where
  trans := .trans
  startsNone hnone := .of_none hnone (Nat.le_refl n)
  putQueue e l hl := by
    refine .of_wire rfl id (.of_sublist (List.prefix_refl _) ?_ (Nat.le_refl n))
    refine List.Sublist.append_left ?_ (e.turns n).started
    simp only [Extension.turns, Extension.putQueue, Function.update_self]
    exact hl.map _
  nextWrite hacc hun hr := by
    rcases nextWrite_cases n hacc hun hr with ⟨_, hforward⟩ | hnone
    · exact hforward
    · exact .of_none hnone (Nat.le_refl n)

/-! ## Ending a write -/

omit [Uart U] in
/-- Taking a write back from the ISR starts none. -/
theorem startsNone_serialGrabWriteFromIsr (e : Extension U) :
    StartsNone e e.serialGrabWriteFromIsr := by
  unfold serialGrabWriteFromIsr
  split
  · exact .refl e
  · have hinfo := startsNone_modifyOther e .write fun r => { r with
      information := if r.isWrite then r.length - e.tx.writeLength else 0 }
    have hmark := startsNone_modifyOther (e.modifyCurrent .write fun r => { r with
      information := if r.isWrite then r.length - e.tx.writeLength else 0 }) .write
      (·.putReference false .isr)
    exact hinfo.trans (hmark.trans (.of_same rfl rfl fun _ => rfl))

omit [Uart U] in
theorem startsNone_giveStatus (e : Extension U) (status : NtStatus) :
    StartsNone e (e.giveStatus .write status) := by
  unfold giveStatus
  split
  · exact .of_same rfl rfl id
  · split <;> exact .of_same rfl rfl id

namespace StartRule

variable {R : Extension U → Extension U → Prop} (h : StartRule R)
include h

/-- The write that ends is followed by the first of those who wait. -/
theorem tryToCompleteWrite (hacc : Accounted e) {ref : Ref} (hcall : CalledFor e .write ref)
    {g : Extension U → Extension U} (hg : TakesBack .write ref g)
    (hgacc : ∀ e, Accounted e → Accounted (g e)) (hgnone : ∀ e, StartsNone e (g e))
    (hint : ref ≠ .intTimer) (status : NtStatus) : R e (e.tryToCompleteWrite g status ref) := by
  have hdrop := startsNone_bookkeeping (Bookkeeping.dropOwnReference e .write ref)
  have hrundown := startsNone_bookkeeping (Bookkeeping.rundown (g (e.dropOwnReference .write ref))
    .write none (some .writeRequestTotal) ref status)
  have hstopped : StartsNone e (e.stopAgents g status .write none (some .writeRequestTotal) ref) :=
    hdrop.trans ((hgnone _).trans hrundown)
  obtain ⟨⟨r, hr⟩, hends⟩ := tryToComplete_cases hcall hacc hg hgacc
    ⟨fun _ => by decide, fun hr => absurd hr hint⟩ status
    (fun e => e.serialGetNextWrite.startNew .write serialStartWrite)
  unfold Extension.tryToCompleteWrite
  rcases hends with hsame | ⟨hfinish, hacc', hun⟩
  · exact hsame ▸ h.startsNone hstopped
  · have hgiven := hstopped.trans (startsNone_giveStatus _ status)
    exact hfinish ▸ h.trans (h.startsNone hgiven)
      (h.nextWrite hacc' hun (current_giveStatus hr status))

/-- A timeout or a cancellation takes the write back from the ISR. -/
theorem takeWriteBack (hacc : Accounted e) {ref : Ref} (hcall : CalledFor e .write ref)
    (hint : ref ≠ .intTimer) (status : NtStatus) :
    R e (e.tryToCompleteWrite serialGrabWriteFromIsr status ref) :=
  h.tryToCompleteWrite hacc hcall (takesBack_serialGrabWriteFromIsr _)
    accounted_serialGrabWriteFromIsr startsNone_serialGrabWriteFromIsr hint status

/-! ## Purges -/

theorem wdfIoQueuePurge (e : Extension U) : R e (e.wdfIoQueuePurge .writeQueue) :=
  h.trans (h.putQueue e ⟨[], false, false⟩ (List.nil_sublist _))
    (h.startsNone (.of_same rfl rfl id))

theorem wdfIoQueueStart (e : Extension U) : R e (e.wdfIoQueueStart .writeQueue) :=
  h.putQueue e _ (List.Sublist.refl _)

/-- An abort cancels the writes that wait and the current one. -/
theorem abortWrites (hacc : Accounted e) (htracked : Tracked .write e) : R e e.abortWrites := by
  have hpurge := h.wdfIoQueuePurge e
  unfold Extension.abortWrites serialFlushRequests serialPurgeRequests
  refine h.trans (h.trans hpurge ?_) (h.wdfIoQueueStart _)
  rcases cancelCurrent_cases (htracked.wdfIoQueuePurge .writeQueue) serialCancelCurrentWrite with
    hsame | ⟨r, hr, hcall, hcancel⟩
  · rw [hsame]
    exact h.startsNone (.refl _)
  · rw [hcancel]
    have hset : StartsNone (e.wdfIoQueuePurge .writeQueue)
        ((e.wdfIoQueuePurge .writeQueue).setCurrent .write
          (some (r.serialClearCancelRoutine false).2)) := .of_same rfl rfl id
    refine h.trans (h.startsNone hset) ?_
    refine h.takeWriteBack ((hacc.wdfIoQueuePurge .writeQueue).setCurrent_of_ident ?_) hcall
      (by decide) _
    rw [hr, Option.map_some, Option.map_some, CallbackRule.ident_serialClearCancelRoutine]

end StartRule

/-- The reference discipline of writes, and how the writes have moved on since state `e₀`. -/
structure Onward (R : Extension U → Extension U → Prop) (e₀ e : Extension U) : Prop where
  tracked : Tracked .write e
  since : R e₀ e

namespace StartRule

variable {R : Extension U → Extension U → Prop} (h : StartRule R) (e₀ : Extension U)
include h

/-- Code that does not work for writes only moves them on. -/
theorem stepRule :
    StepRule (U := U) (· = .write) fun e e' => Onward R e₀ e → Onward R e₀ e' := by
  refine .of_interruptRule ((effect_interruptRule.and startsNone_interruptRule).keep
    fun e e' hboth hon => ?_) fun e e' hsame hon => ?_
  · exact ⟨hon.tracked.of_effect hboth.1, h.trans hon.since (h.startsNone hboth.2)⟩
  · have hnone := startsNone_of_same (hsame .write rfl)
    exact ⟨hon.tracked.of_same (hsame .write rfl), h.trans hon.since (h.startsNone hnone)⟩

/-- A purge, piece by piece. -/
theorem aborts : Aborts (U := U) fun e e' => Onward R e₀ e → Onward R e₀ e' where
  writes e hacc := by
    refine ⟨(anything.abortWrites id id e hacc).1, fun hon => ⟨?_, ?_⟩⟩
    · exact tracked_serialFlushRequests hon.tracked hacc .writeQueue
        fun _ => tracked_serialCancelCurrentWrite
    · exact h.trans hon.since (h.abortWrites hacc hon.tracked)
  xoff e hacc := by
    refine ⟨(anything.abortXoff id id e hacc).1, fun hon => ?_⟩
    have hpurged : Onward R e₀ (e.wdfIoQueuePurge .writeQueue) :=
      ⟨hon.tracked.wdfIoQueuePurge .writeQueue, h.trans hon.since (h.wdfIoQueuePurge e)⟩
    have hrule := h.stepRule e₀
    have hcancel := (hrule.cancelCurrent (s := .xoff) _ (by decide)
      (hrule.serialCancelCurrentXoff (by decide)) (hacc.wdfIoQueuePurge .writeQueue)).2 hpurged
    exact ⟨hcancel.tracked.putQueue _ _, h.trans hcancel.since (h.wdfIoQueueStart _)⟩
  reads := (h.stepRule e₀).abortReads (by decide)
  buffer := (h.stepRule e₀).serialPurgeInterruptBuff (by decide)

end StartRule

/-! ## Requests that arrive -/

section
variable {body : Body} {length : Nat} {buffer : List UInt8}

/-- The number of the next request goes up. -/
theorem nextId_writeQueue (e : Extension U) : e.nextId + 1 ≤ (e.takeId.serialStartOrQueue
    (Request.new e.nextId body length buffer) .writeQueue .write serialStartWrite).nextId := by
  unfold serialStartOrQueue
  split
  · exact (moves_serialStartWrite ((e.takeId.addCharsQueued (charsQueued (Request.new e.nextId body
      length buffer))).setCurrent .write (some (Request.new e.nextId body length
      buffer)))).path.fresh_le
  · unfold forwardToIoQueue
    split <;> exact Nat.le_refl _

/-- A request comes to the write queue. -/
theorem forward_writeQueue (hacc : Accounted e) (htracked : Tracked .write e)
    (hserves : Slot.write.serves body = true)
    (hproper : (Request.new e.nextId body length buffer).Proper) :
    Forward e.nextId (e.nextId + 1) e (e.takeId.serialStartOrQueue
      (Request.new e.nextId body length buffer) .writeQueue .write serialStartWrite) := by
  unfold serialStartOrQueue
  split
  · next hfree =>
    rw [Bool.and_eq_true, Option.isNone_iff_eq_none] at hfree
    obtain ⟨hidle, hnone⟩ := hfree
    have hempty : (e.queue .writeQueue).waiting = [] := by
      have hwaiting : (e.queue .writeQueue).waiting.isEmpty = true :=
        (Bool.and_eq_true _ _ ▸ hidle).1
      simpa using hwaiting
    have harrive : Accounted ((e.takeId.addCharsQueued (charsQueued
        (Request.new e.nextId body length buffer))).setCurrent .write
        (some (Request.new e.nextId body length buffer))) :=
      (anything.arrive e id hserves hnone _ hacc).1
    have hun := htracked.takeId.arrive hnone
      (charsQueued (Request.new e.nextId body length buffer)) e.nextId body length buffer
    have hcur : ((e.takeId.addCharsQueued (charsQueued
        (Request.new e.nextId body length buffer))).setCurrent .write
        (some (Request.new e.nextId body length buffer))).current .write =
        some (Request.new e.nextId body length buffer) := by
      rw [current_setCurrent, if_pos rfl]
    refine .begins (begins_serialStartWrite harrive
      ⟨hun, _, hcur, fun hw => hproper.length_pos hw⟩ hcur) rfl ?_
    exact Turns.Next.begin (t := e.turns e.nextId) (by rw [Extension.turns, hempty]; rfl)
  · unfold forwardToIoQueue
    split
    · refine .of_wire rfl id ?_
      have hjoin := Turns.Next.join (e.turns e.nextId)
      have hwaiting : ((e.queue .writeQueue).waiting ++
          [Request.new e.nextId body length buffer]).map Request.id =
          (e.queue .writeQueue).waiting.map Request.id ++ [e.nextId] := by simp [Request.new]
      simp only [Extension.turns, putQueue, Function.update_self]
      exact hwaiting ▸ hjoin
    · exact .of_none (.of_same rfl rfl id) (Nat.le_succ _)

omit [Uart U] in
/-- Nothing but the number of the next request has changed. -/
theorem forward_accept {k : Request → Extension U → Extension U}
    (hk : Forward e.nextId (k (Request.new e.nextId body length buffer) e.takeId).nextId e
      (k (Request.new e.nextId body length buffer) e.takeId)) :
    Forward e.nextId (e.accept body length buffer k).nextId e (e.accept body length buffer k) := by
  unfold accept
  split
  · exact .of_none (.of_same rfl rfl id) (Nat.le_succ _)
  · exact hk

end

/-- A new write starts at once or goes to the end of the queue. -/
theorem forward_serialEvtIoWrite (hacc : Accounted e) (htracked : Tracked .write e)
    (payload : List UInt8) :
    Forward e.nextId (e.serialEvtIoWrite payload).nextId e (e.serialEvtIoWrite payload) := by
  refine forward_accept ?_
  split
  · exact .of_none (.of_same rfl rfl id) (Nat.le_succ _)
  · next hne =>
    have hproper : (Request.new e.nextId (.write payload) payload.length payload).Proper :=
      ⟨Nat.pos_of_ne_zero hne, rfl, rfl⟩
    exact (forward_writeQueue hacc htracked rfl hproper).mono (nextId_writeQueue e)

/-- An XOFF counter takes its turn among the writes. -/
theorem forward_ioctlXoffCounter (hacc : Accounted e) (htracked : Tracked .write e)
    (timeout counter : Nat) (c : UInt8) :
    Forward e.nextId (e.ioctlXoffCounter timeout counter c).nextId e
      (e.ioctlXoffCounter timeout counter c) := by
  refine forward_accept ?_
  split
  · exact .of_none (.of_same rfl rfl id) (Nat.le_succ _)
  · next hne =>
    have hproper : (Request.new e.nextId (.xoffCounter timeout counter c) 0 []).Proper := hne
    exact (forward_writeQueue hacc htracked rfl hproper).mono (nextId_writeQueue e)

/-! ## Steps -/

omit [Uart U] in
theorem startsNone_runCanceledOnQueue (e : Extension U) (i : Nat) :
    StartsNone e (e.runCanceledOnQueue i) := by
  unfold runCanceledOnQueue
  split <;> exact .of_same rfl rfl id

/-- The callbacks that bring something for the write queue. -/
def Callback.sends : Callback → Bool
  | .evtIoWrite _ | .xoffCounter _ _ _ => true
  | _ => false

/-- The steps that bring something for the write queue. -/
def Label.sends {Input : Type} : Label Input → Bool
  | .callback c => c.sends
  | _ => false

namespace StartRule

variable {R : Extension U → Extension U → Prop} (h : StartRule R)
include h

/-- A callback that brings nothing for the write queue. -/
theorem callback (hacc : Accounted e) (htracked : Tracked .write e) {c : Callback}
    (hc : e.enabled c = true) (hsends : c.sends = false) : R e (e.callback c) := by
  have hrule := h.stepRule e
  have hstart : Onward R e e := ⟨htracked, h.startsNone (.refl e)⟩
  cases hw : c.worksFor .write with
  -- a callback that does not work for writes starts none
  | false =>
    exact ((hrule.callback e c (fun t ht hs => by rw [hs, hw] at ht; cases ht) hc
      hacc).2 hstart).since
  | true =>
    have hidle : ¬e.Starting .write := not_starting_of_ne (by decide)
    cases c with
    -- the two requests that send are set aside by `hsends`
    | evtIoWrite payload => cases hsends
    | xoffCounter t n c => cases hsends
    | purge m =>
      exact ((hrule.ioctlPurge e m (by decide) (h.aborts e) hacc).2 hstart).since
    | flushStop =>
      exact h.trans (h.putQueue e { e.queue .writeQueue with started := false }
        (List.Sublist.refl _)) (h.startsNone (.of_same rfl rfl id))
    | flushStart =>
      exact h.trans (h.wdfIoQueueStart e) (h.startsNone (.of_same rfl rfl id))
    -- what ends the current write: the ISR's DPC, an error, the timer, its sender
    | dpc d =>
      cases d with
      | completeWrite =>
        have hacc' : Accounted (e.takeDpc .completeWrite) := hacc.congr (fun _ => rfl) rfl
        have htake : StartsNone e (e.takeDpc .completeWrite) := .of_same rfl rfl id
        exact h.trans (h.startsNone htake) (h.tryToCompleteWrite hacc'
          (htracked.takeDpc rfl hc hidle) (takesBack_id _) (fun _ h => h) .refl (by decide) _)
      | commError =>
        have hacc' : Accounted (e.takeDpc .commError) := hacc.congr (fun _ => rfl) rfl
        have htake : Onward R e (e.takeDpc .commError) :=
          ⟨htracked.of_same (.dpc_update e false (by decide)), h.startsNone (.of_same rfl rfl id)⟩
        exact ((hrule.serialCommError (h.aborts e) _ hacc').2 htake).since
      | _ => cases hw
    | timer t =>
      cases t with
      | writeRequestTotal =>
        have hacc' : Accounted (e.takeTimer .writeRequestTotal) := hacc.congr (fun _ => rfl) rfl
        have htake : StartsNone e (e.takeTimer .writeRequestTotal) := .of_same rfl rfl id
        exact h.trans (h.startsNone htake) (h.takeWriteBack hacc'
          (htracked.takeTimer .totalTimer rfl hc hidle) (by decide) _)
      | _ => cases hw
    | cancelRoutine t =>
      cases t with
      | write =>
        have hacc' := hacc.modifyCurrent .write (f := fun r => { r with cancelable := .none })
          (by intro; rfl)
        have hmark := startsNone_modifyOther e .write fun r => { r with cancelable := .none }
        exact h.trans (h.startsNone hmark) (h.takeWriteBack hacc' (calledFor_cancel htracked hc)
          (by decide) _)
      | _ => cases hw
    | canceledOnQueue i => exact h.startsNone (startsNone_runCanceledOnQueue e i)
    | _ => cases hw

/-- A step that brings nothing for the write queue. -/
theorem step (hacc : Accounted e) (htracked : Tracked .write e) {l : Label (Uart.Input U)}
    (hstep : step l e = some e') (hsends : l.sends = false) : R e e' := by
  cases hw : l.worksFor .write with
  | false =>
    exact h.startsNone (startsNone_rule.step hstep (fun t ht hs => by rw [hs, hw] at ht; cases ht)
      hacc).2
  | true =>
    cases fires_of_step hstep with
    | expire hqueued => exact h.startsNone (.of_same rfl rfl id)
    | cancel hr => exact h.startsNone (.of_same rfl rfl id)
    | @cancelWaiting q i r hr =>
      by_cases hq : q = .writeQueue
      · subst hq
        exact h.trans (h.putQueue e _ (List.eraseIdx_sublist _ i))
          (h.startsNone (.of_same rfl rfl id))
      · exact h.startsNone (.of_same (Function.update_of_ne (Ne.symm hq) _ _) rfl id)
    | callback hpc hc => exact h.callback hacc htracked hc hsends
    | _ => cases hw

end StartRule

/-- **Step lemma.** Every step moves the writes forward. -/
theorem forward_step (hmanned : Manned e) (htracked : Tracked .write e)
    {l : Label (Uart.Input U)} (hstep : step l e = some e') :
    Forward e.nextId e'.nextId e e' := by
  have hacc := hmanned.accounted
  cases hsends : l.sends with
  | false =>
    have hnext : e.nextId ≤ e'.nextId := (moves_step hmanned hstep).path.fresh_le
    exact ((Forward.startRule e.nextId).step hacc htracked hstep hsends).mono hnext
  | true =>
    cases fires_of_step hstep with
    | @callback c hpc hc =>
      cases c with
      | evtIoWrite payload => exact forward_serialEvtIoWrite hacc htracked payload
      | xoffCounter t n c => exact forward_ioctlXoffCounter hacc htracked t n c
      | _ => cases hsends
    | _ => cases hsends

/-! ## Runs -/

/-- How the log and the write queue have moved on since state `e₀`. -/
structure Onwards (e₀ e : Extension U) : Prop where
  disciplined : Disciplined e
  manned : Manned e
  forward : Forward e₀.nextId e.nextId e₀ e

/-- **Run lemma.** -/
theorem onwards_run {ls : List (Label (Uart.Input U))} (hdisciplined : Disciplined e)
    (hmanned : Manned e) (hrun : run step ls e = some e') : Onwards e e' := by
  have hstep (l : Label (Uart.Input U)) (s s' : Extension U) (h : step l s = some s') :
      Onwards e s → Onwards e s' :=
    fun hs => ⟨hs.disciplined.step h, hs.manned.step h,
      hs.forward.trans (forward_step hs.manned hs.disciplined.write h)⟩
  exact run_invariant hstep hrun ⟨hdisciplined, hmanned, .refl _ e⟩

omit [Uart U] in
/-- Nobody has had a turn yet. -/
theorem inOrder_opened (u : U) (cfg : Config) (size : Nat) :
    ((opened u cfg size).turns 0).InOrder where
  sorted := List.Pairwise.nil
  old := fun i hi => by cases hi

/-- In a reachable state the log and the queue are in the order of arrival. -/
theorem inOrder_run {u : U} {cfg : Config} {size : Nat} {ls : List (Label (Uart.Input U))}
    (hrun : run step ls (opened u cfg size) = some e) : (e.turns e.nextId).InOrder :=
  (inOrder_opened u cfg size).next
    (onwards_run (disciplined_opened u cfg size) (manned_opened u cfg size) hrun).forward.turns

/-- **Writes go out in order.** In every reachable state the writes of which data was sent, or could
have been, were started in the order in which they came, and before all that wait. -/
theorem writes_in_order {u : U} {cfg : Config} {size : Nat} {ls : List (Label (Uart.Input U))}
    (hrun : run step ls (opened u cfg size) = some e) :
    ((segments e.wire).reverse.map Segment.id
      ++ (e.queue .writeQueue).waiting.map Request.id).Pairwise (· < ·) :=
  (inOrder_run hrun).sorted

end

/-- Two writes have been started, and a third one waits. -/
def twoStarted : List (Label Chip.Input) :=
  [.callback (.evtIoWrite [1, 2]), .callback (.evtIoWrite [3]), .isr 4,
    .callback (.dpc .completeWrite), .callback (.evtIoWrite [4])]

theorem writes_in_order_twoStarted :
    ∃ e, run step twoStarted (opened Chip.idle .plain 8) = some e ∧
      ((segments e.wire).length == 2 && (e.queue .writeQueue).waiting.length == 1) = true ∧
      ((segments e.wire).reverse.map Segment.id
        ++ (e.queue .writeQueue).waiting.map Request.id).Pairwise (· < ·) := by
  have hrun : (run step twoStarted (opened Chip.idle .plain 8)).any (fun e =>
      (segments e.wire).length == 2 && (e.queue .writeQueue).waiting.length == 1) = true := by
    decide +kernel
  obtain ⟨e, he, hlengths⟩ := (Option.any_eq_true _ _).mp hrun
  exact ⟨e, he, hlengths, writes_in_order he⟩

end SerialFc
