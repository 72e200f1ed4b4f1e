import SerialFc.Properties.Discipline
import SerialFc.Properties.Reception

/-!
# The receive path of an extension

`Receiving` says that every byte that came in is accounted for.

* `receiving_interruptRule` — code under the interrupt lock keeps it
* `receiving_rule` — and so does what does not work for reads
* `received_getNext` — from one read to the next
* `receiving_serialStartReadStep` — the pieces of `SerialStartRead`
-/

namespace SerialFc

open Extension Lib

variable {U : Type} {e e' : Extension U}

/-- Every byte that came in is accounted for. -/
def Extension.Receiving (e : Extension U) : Prop := Received e.pc e.reception

/-! ## What does not touch the receive path -/

/-- Only requests that are finished count. -/
theorem delivered_congr (h : e'.done.filter (Slot.read.finishes ·.body) =
    e.done.filter (Slot.read.finishes ·.body)) : e'.delivered = e.delivered := by
  -- reads are among what the read slot finishes
  have hreads (l : List Request) : l.filter Request.isRead =
      (l.filter (Slot.read.finishes ·.body)).filter Request.isRead := by
    rw [List.filter_filter]
    refine List.filter_congr fun r _ => ?_
    cases hfin : Slot.read.finishes r.body with
    | true => rw [Bool.and_true]
    | false => rw [isRead_eq_false hfin, Bool.and_false]
  unfold Extension.delivered
  rw [hreads, h, ← hreads]

/-- Another slot's work is none of the reader's. -/
theorem Same.reception (h : Same .read e e') : e'.reception = e.reception ∧ e'.pc = e.pc := by
  obtain ⟨hrx, hstream, hpc⟩ := h.data
  refine ⟨?_, hpc⟩
  unfold Extension.reception
  rw [hrx, h.current, hstream, delivered_congr h.finished]

/-- The invariant at the piece that is due. -/
theorem Received.receiving {p : ReadPc} {x : Reception} (h : Received p x)
    (hrec : e.reception = x) (hpc : e.pc = p) : e.Receiving := by
  unfold Receiving
  rw [hrec, hpc]
  exact h

theorem Extension.Receiving.congr (h : e.Receiving) (hrec : e'.reception = e.reception)
    (hpc : e'.pc = e.pc) : e'.Receiving := Received.receiving h hrec hpc

/-- References and marks are not looked at. -/
theorem Bookkeeping.reception (h : Bookkeeping .read e e') : e'.reception = e.reception := by
  have hreader : (e'.current .read).map Request.reader = (e.current .read).map Request.reader := by
    have hdata := congrArg (Option.map Request.reader) h.data
    rwa [Option.map_map, Option.map_map] at hdata
  unfold Extension.reception Extension.delivered
  rw [hreader, h.rest]

theorem Extension.Receiving.bookkeeping (h : e.Receiving) (hb : Bookkeeping .read e e') :
    e'.Receiving := h.congr hb.reception hb.pc

/-- Nor are the requests of other slots. -/
theorem reception_modifyCurrent (s : Slot) (f : Request → Request) (h : s ≠ .read) :
    (e.modifyCurrent s f).reception = e.reception := by
  unfold Extension.reception Extension.delivered
  simp [current_modifyCurrent, h.symm]

theorem receiving_modifyCurrent (h : e.Receiving) {s : Slot} (f : Request → Request)
    (hs : s ≠ .read) : (e.modifyCurrent s f).Receiving :=
  h.congr (reception_modifyCurrent s f hs) (pc_modifyCurrent ..)

/-- The marks of a request are not part of the receive path. -/
theorem reception_modifyRead {f : Request → Request} (hf : ∀ r, (f r).reader = r.reader) :
    (e.modifyCurrent .read f).reception = e.reception := by
  have hmap : ((e.current .read).map f).map Request.reader = (e.current .read).map Request.reader := by
    cases e.current .read <;> simp [hf]
  unfold Extension.reception Extension.delivered
  simp [current_modifyCurrent, hmap]

/-! ## Under the interrupt lock -/

theorem receiving_countXoff (h : e.Receiving) : e.countXoff.Receiving := by
  unfold countXoff
  split
  · exact h
  · split
    · exact (receiving_modifyCurrent (e := e.setCountSinceXoff 0) h _ (by decide)).congr rfl rfl
    · exact h.congr rfl rfl

/-- The request that `reader` is of. -/
theorem current_of_reader {r : Reader} (hr : e.reception.reader = some r) :
    ∃ r₀, e.current .read = some r₀ ∧ r₀.reader = r := Option.map_eq_some_iff.mp hr

/-- A character goes to the reader's buffer. -/
theorem receiving_storeUser (h : e.Receiving) (c : UInt8) (huser : e.rx.readBufferBase = .user) :
    (e.storeUser c).Receiving := by
  obtain ⟨r, hr, -⟩ := (h.user huser).reader
  obtain ⟨r₀, hr₀, rfl⟩ := current_of_reader hr
  have hcur : ({ e with
      rx := { e.rx with readByIsr := e.rx.readByIsr + 1 }
      stream := e.stream ++ [Fifo.Op.put c] } : Extension U).current .read = some r₀ := hr₀
  unfold storeUser putUser
  rw [modifyCurrent_of_some _ hcur]
  split
  · next hlast =>
    refine (h.satisfy huser hlast hr c).receiving ?_ ?_
    · simp [satisfyRead, resetRing, reception, setCurrent, modifyCurrent, serialInsertQueueDpc,
        delivered, Request.reader]
    · simp [satisfyRead, resetRing, setCurrent, modifyCurrent, serialInsertQueueDpc]
  · next hmore =>
    refine (h.place huser hmore hr c).receiving ?_ rfl
    simp [reception, setCurrent, delivered, Request.reader]

/-- **The ISR** stores characters in the reader's buffer or in the ring, in order. -/
theorem receiving_interruptRule [Uart U] :
    InterruptRule (U := U) fun e e' => e.Receiving → e'.Receiving where
  refl _ := id
  trans hab hbc := hbc ∘ hab
  readReg _ _ h := h.congr rfl rfl
  writeReg _ _ _ _ _ h := h.congr rfl rfl
  fillFscc _ h := h.congr rfl rfl
  writeData _ _ h := h.congr rfl rfl
  events _ _ _ _ h := h.congr rfl rfl
  txHolding _ _ h := h.congr rfl rfl
  holdingEmpty _ _ h := h.congr rfl rfl
  special _ _ h := h.congr rfl rfl
  rxHolding _ _ h := h.congr rfl rfl
  tryingToLowerRts _ _ h := h.congr rfl rfl
  insertDpc _ _ _ h := h.congr rfl rfl
  answerWait e _ h :=
    receiving_modifyCurrent (s := .wait) (e := { e with
      ev := { e.ev with irpMaskLocation := false, historyMask := 0 } }) h _ (by decide)
  countXoff _ := receiving_countXoff
  storeUser _ c huser h := receiving_storeUser h c huser
  putRing _ c hring hfree h := (h.put hring hfree c).receiving rfl rfl
  overwriteLast e hring hfull h :=
    (h.overwrite hring hfull e.cfg.specialChars.errorChar).receiving rfl rfl
  handFlow _ _ h := h.congr rfl rfl
  emptied _ h := h.congr rfl rfl
  logSpecial _ _ _ h := h.congr rfl rfl
  xonSent _ h := h.congr rfl rfl
  xoffSent _ h := h.congr rfl rfl
  immediateSent _ _ h := h.congr rfl rfl
  advanceWrite e n _ _ h := by
    have hmove : (e.movePointer n).Receiving := h.congr rfl rfl
    unfold advanceWrite
    split
    · exact receiving_modifyCurrent hmove _ (by decide)
    · exact hmove

/-- What does not work for reads leaves the receive path alone. -/
theorem receiving_rule [Uart U] :
    StepRule (U := U) (· = .read) fun e e' => e.Receiving → e'.Receiving :=
  .of_interruptRule receiving_interruptRule fun _ _ hsame h =>
    h.congr (hsame .read rfl).reception.1 (hsame .read rfl).reception.2

/-! ## From one read to the next -/

/-- A request that has just come in has nothing in its buffer. -/
theorem fits_of_fresh {r : Request} (hfresh : r.Fresh) (hproper : r.Proper) : r.reader.Fits := by
  intro hbody
  have hbody' : r.body = .read := hbody
  rw [Request.Proper, hbody'] at hproper
  refine ⟨hproper.1, hproper.2.ge, ?_⟩
  show r.information ≤ r.length
  rw [hfresh]
  exact Nat.zero_le _

theorem isRead_iff {r : Request} : r.isRead = true ↔ r.body = .read := by
  simp [Request.isRead]

/-- The current request, a read or not, is handed back. -/
theorem received_complete {p : ReadPc} (h : Received p e.reception)
    (hring : e.rx.readBufferBase = .ring) (hp : p.whole = true) (htaken : p.taken = 0) {r : Request}
    (hr : e.current .read = some r) :
    Received .idle ((e.setCurrent .read none).serialCompleteRequest r).reception := by
  have hreader : e.reception.reader = some r.reader := by
    rw [reception, hr]
    rfl
  by_cases hbody : r.body = .read
  · have hdone := h.complete hring hp htaken hreader hbody
    have hread : r.isRead = true := isRead_iff.mpr hbody
    have hrec : ((e.setCurrent .read none).serialCompleteRequest r).reception =
        { e.reception with
          reader := none
          delivered := e.delivered ++ r.systemBuffer.take r.information
          stream := e.stream ++ [.take r.information] } := by
      simp [reception, serialCompleteRequest, setCurrent, delivered, hread]
    rw [hrec]
    exact hdone
  · have hdone := h.clearReader hring hp htaken fun r' hr' => by
      rw [hreader] at hr'
      cases hr'
      exact hbody
    have hread : r.isRead = false := by simpa [Request.isRead] using hbody
    have hrec : ((e.setCurrent .read none).serialCompleteRequest r).reception =
        { e.reception with reader := none } := by
      simp [reception, serialCompleteRequest, setCurrent, delivered, hread]
    rw [hrec]
    exact hdone

/-- Nobody reads, so a read can start. -/
theorem start_of_none {x : Reception} (h : Received .idle x) (hring : x.base = .ring)
    (hnone : x.reader = none) : Received .start x :=
  h.goto hring rfl rfl rfl fun r hr => by rw [hnone] at hr; cases hr

/-- The slot is empty and gets the next request of the queue, if there is one. -/
theorem received_retrieve {p : ReadPc} (h : Received .idle e.reception)
    (hring : e.rx.readBufferBase = .ring) (hnone : e.current .read = none)
    (hwaiting : ∀ r ∈ (e.queue .readQueue).waiting, r.Fresh ∧ r.Proper)
    (hp : p = .idle ∨ p = .start) :
    Received p (e.retrieveNextRequest .readQueue .read).reception := by
  have hreader : e.reception.reader = none := by
    rw [reception, hnone]
    rfl
  unfold retrieveNextRequest
  split
  · next r waiting _ hq =>
    obtain ⟨hfresh, hproper⟩ := hwaiting r (by rw [hq]; exact List.mem_cons_self)
    have hnext := h.arrive hreader (r := r.reader) (fits_of_fresh hfresh hproper)
      (by rw [hfresh]; rfl) hp
    have hrec : ((e.putQueue .readQueue { e.queue .readQueue with waiting := waiting }).setCurrent
        .read (some { r with origin := some .readQueue })).reception =
        { e.reception with reader := some r.reader } := by
      simp [reception, setCurrent, putQueue, delivered, Request.reader]
    rw [hrec]
    exact hnext
  · have hrec : (e.setCurrent .read none).reception = e.reception := by
      unfold reception delivered
      simp [setCurrent, hnone]
    rw [hrec]
    rcases hp with rfl | rfl
    · exact h
    · exact start_of_none h hring hreader

/-- The next request takes over; what the last one got is delivered. -/
theorem received_getNext {p q : ReadPc} (h : Received p e.reception)
    (hring : e.rx.readBufferBase = .ring) (hp : p.whole = true) (htaken : p.taken = 0)
    (hacc : Accounted e) (hq : q = .idle ∨ q = .start) :
    Received q (e.serialGetNextRequest .read .readQueue true).reception := by
  have hwaiting : ∀ r ∈ (e.queue .readQueue).waiting, r.Fresh ∧ r.Proper := fun r hr =>
    ⟨(hacc.waiting .readQueue r hr).1, (hacc.waiting .readQueue r hr).2.1⟩
  cases hr : e.current .read with
  | none =>
    unfold serialGetNextRequest
    rw [hr]
    exact received_retrieve (h.goto hring hp rfl htaken.symm trivial) hring hr hwaiting hq
  | some r =>
    rw [serialGetNextRequest_of_some .readQueue hr]
    refine received_retrieve (received_complete h hring hp htaken hr) hring ?_ hwaiting hq
    show (e.setCurrent .read none).current .read = none
    rw [current_setCurrent, if_pos rfl]

/-! ## The pieces of `SerialStartRead` -/

/-- Letting the sender go on does not touch the receive path. -/
def SameReception (e e' : Extension U) : Prop := e'.reception = e.reception ∧ e'.pc = e.pc

theorem sameReception_serialHandleReducedIntBuffer [Uart U] (e : Extension U) :
    SameReception e e.serialHandleReducedIntBuffer := by
  have hdtr (e : Extension U) : SameReception e e.releaseDtr := by
    unfold releaseDtr serialSetDtr
    split
    · split <;> exact ⟨rfl, rfl⟩
    · exact ⟨rfl, rfl⟩
  have hrts (e : Extension U) : SameReception e e.releaseRts := by
    unfold releaseRts
    split <;> exact ⟨rfl, rfl⟩
  have hxoff (e : Extension U) : SameReception e e.releaseXoff := by
    unfold releaseXoff serialProdXonXoff
    split
    · split <;> exact ⟨rfl, rfl⟩
    · exact ⟨rfl, rfl⟩
  unfold serialHandleReducedIntBuffer
  split
  · obtain ⟨hx₁, hx₂⟩ := hxoff e.releaseDtr.releaseRts
    obtain ⟨hr₁, hr₂⟩ := hrts e.releaseDtr
    obtain ⟨hd₁, hd₂⟩ := hdtr e
    exact ⟨hx₁.trans (hr₁.trans hd₁), hx₂.trans (hr₂.trans hd₂)⟩
  · exact ⟨rfl, rfl⟩

/-- The reader's request is written to. -/
theorem reception_modifyReader {f : Request → Request} {r : Request} (hr : e.current .read = some r) :
    (e.modifyCurrent .read f).reception = { e.reception with reader := some (f r).reader } := by
  unfold Extension.reception Extension.delivered
  simp [current_modifyCurrent, hr]

theorem reception_modifyReader_same {f : Request → Request} {r : Request}
    (hr : e.current .read = some r) (hf : (f r).reader = r.reader) :
    (e.modifyCurrent .read f).reception = e.reception := by
  rw [reception_modifyReader hr, hf]
  unfold Extension.reception
  rw [hr]
  rfl

theorem reader_of_current {r : Request} (hr : e.current .read = some r) :
    e.reception.reader = some r.reader := by
  rw [reception, hr]
  rfl

/-! ### Copies to the reader's buffer -/

section
variable {l : ReadStart} {p : ReadPc} {number : Nat} {r : Request}

theorem reception_copyToUser (hr : e.current .read = some r) (offset number : Nat) :
    (e.copyToUser offset number).reception = { e.reception with
      needed := e.rx.numberNeededForRead - number
      reader := some { r.reader with
        buffer := rtlMoveMemory r.systemBuffer (r.length - e.rx.numberNeededForRead)
          ((e.rx.interruptReadBuffer.drop offset).take number) } } := by
  unfold copyToUser
  rw [reception_modifyReader (e := { e with
    rx := { e.rx with numberNeededForRead := e.rx.numberNeededForRead - number } }) hr]
  rfl

/-- A copy, and its end. -/
theorem reception_copyAndAdvance (hr : e.current .read = some r) (offset number next : Nat)
    (total : Nat) :
    (((e.copyToUser offset number).setFirstReadable next).addInformation total).reception =
      { e.reception with
        needed := e.rx.numberNeededForRead - number
        first := next
        reader := some { r.reader with
          buffer := rtlMoveMemory r.systemBuffer (r.length - e.rx.numberNeededForRead)
            ((e.rx.interruptReadBuffer.drop offset).take number)
          information := r.information + total } } := by
  simp [copyToUser, addInformation, setFirstReadable, reception, delivered, current_modifyCurrent,
    hr, Request.reader, ringFrom]

/-- The first slice ends where the ring ends. -/
theorem firstTry_eq (h : Received p e.reception) (hring : e.rx.readBufferBase = .ring)
    (hp : p.whole = true) :
    e.rx.firstReadableChar + e.firstTryNumberToGet = e.rx.bufferSize ∧ 0 < e.firstTryNumberToGet := by
  have hfill := h.ring hring
  have hfirst := hfill.first
  have hlast : e.rx.lastCharSlot = e.rx.bufferSize - 1 := hfill.last
  rw [Received.firstUnread_of_whole hp] at hfirst
  have hfirst' : e.rx.firstReadableChar < e.rx.bufferSize := hfirst
  unfold firstTryNumberToGet
  omega

/-- `FirstReadableChar` behind characters that reach the end of the buffer at most. -/
theorem nextReadable_eq (h : Received p e.reception) (hring : e.rx.readBufferBase = .ring)
    (hn : number ≠ 0) (hend : e.rx.firstReadableChar + number ≤ e.rx.bufferSize) :
    e.nextReadable number = (e.rx.firstReadableChar + number) % e.rx.bufferSize := by
  have hlast : e.rx.lastCharSlot = e.rx.bufferSize - 1 := (h.ring hring).last
  have hnext := Received.next_slot
    (show e.rx.firstReadableChar + (number - 1) < e.rx.bufferSize by omega)
  have hplace : e.rx.firstReadableChar + (number - 1) + 1 = e.rx.firstReadableChar + number := by
    omega
  unfold nextReadable
  rw [hlast, ← hplace, hnext]

/-- What is asked for lies in one slice. -/
theorem received_copyWhole (h : Received (.copy l number) e.reception) (hr : e.current .read = some r)
    (hn : number ≠ 0) (hend : e.firstTryNumberToGet > number) :
    Received (.copied l number) (e.copyWhole number).reception := by
  have hring := h.ring_of_pc nofun nofun
  have htry := firstTry_eq h hring rfl
  have hend' : e.rx.firstReadableChar + number ≤ e.rx.bufferSize := by omega
  unfold copyWhole
  rw [reception_copyAndAdvance hr, nextReadable_eq h hring hn hend']
  exact h.copyWhole (reader_of_current hr) hend'

/-- The first of two slices. -/
theorem received_copyFirst (h : Received (.copy l number) e.reception) (hr : e.current .read = some r)
    (hle : e.firstTryNumberToGet ≤ number) :
    Received (.copyRest l number e.firstTryNumberToGet) e.copyFirst.reception := by
  have htry := firstTry_eq h (h.ring_of_pc nofun nofun) rfl
  unfold copyFirst
  rw [reception_copyToUser hr]
  exact h.copyFirst (reader_of_current hr) htry.2 hle htry.1

/-- The second one, from the start of the ring. -/
theorem received_copyRest {first : Nat} (h : Received (.copyRest l number first) e.reception)
    (hr : e.current .read = some r) :
    Received (.copied l number) (e.copyRest number first).reception := by
  unfold copyRest
  rw [reception_copyAndAdvance hr]
  exact h.copyRest (reader_of_current hr)

theorem isSome_copyToUser (hr : (e.current .read).isSome = true) (offset number : Nat) :
    ((e.copyToUser offset number).current .read).isSome = true := by
  unfold copyToUser
  rw [current_modifyCurrent, if_pos rfl, Option.isSome_map]
  exact hr

/-- `SerialGetCharsFromIntBuffer` in one piece. -/
theorem received_getChars (h : Received (.copied l 0) e.reception)
    (hr : (e.current .read).isSome = true) (hcount : number ≤ e.rx.charsInInterruptBuffer)
    (hneeded : number ≤ e.rx.numberNeededForRead) :
    Received (.copied l number) (e.getChars number).reception := by
  obtain ⟨r, hr'⟩ := Option.isSome_iff_exists.mp hr
  have hcopy : Received (.copy l number) e.reception :=
    h.goto (h.ring_of_pc nofun nofun) rfl rfl rfl ⟨h.phase, hcount, hneeded⟩
  unfold getChars
  split
  · next hzero =>
    rw [hzero]
    exact h
  · next hn =>
    split
    · next hend => exact received_copyWhole hcopy hr' hn hend
    · next hend =>
      obtain ⟨r₁, hr₁⟩ := Option.isSome_iff_exists.mp (isSome_copyToUser hr _ _)
      exact received_copyRest (received_copyFirst hcopy hr' (Nat.le_of_not_lt hend)) hr₁

/-- The copy does not change the counts of the ring. -/
theorem numbers_getChars (e : Extension U) (number : Nat) :
    (e.getChars number).rx.charsInInterruptBuffer = e.rx.charsInInterruptBuffer ∧
      (e.getChars number).rx.numberNeededForRead = e.rx.numberNeededForRead - number := by
  unfold getChars
  split
  · next hzero =>
    rw [hzero]
    exact ⟨rfl, rfl⟩
  · split
    · simp [copyWhole, copyToUser, setFirstReadable, addInformation]
    · next hend =>
      simp only [copyFirst, copyRest, copyToUser, setFirstReadable, addInformation,
        rx_modifyCurrent, true_and]
      omega

/-! ### Under the lock again -/

/-- What was copied is taken out of the count. -/
theorem received_update [Uart U] (h : Received (.copied l number) e.reception) :
    Received (.copied l 0) (e.serialUpdateInterruptBuffer number).reception := by
  have hremove : Received (.copied l 0) (e.removeChars number).reception := h.remove
  unfold serialUpdateInterruptBuffer
  rw [(sameReception_serialHandleReducedIntBuffer _).1]
  exact hremove

/-- Either the read has got everything or there is nothing left. -/
theorem received_getCharsAgain [Uart U] (h : Received (.copied l 0) e.reception)
    (hr : (e.current .read).isSome = true) :
    Received (.copied l 0) e.getCharsAgain.reception ∧
      (e.getCharsAgain.rx.numberNeededForRead = 0 ∨
        e.getCharsAgain.rx.charsInInterruptBuffer = 0) := by
  refine ⟨received_update (received_getChars h hr (Nat.min_le_left ..) (Nat.min_le_right ..)), ?_⟩
  obtain ⟨hcount, hneeded⟩ := numbers_getChars e e.numberOfCharsToGet
  have hsame := (sameReception_serialHandleReducedIntBuffer
    ((e.getChars e.numberOfCharsToGet).removeChars e.numberOfCharsToGet)).1
  have hcount' : e.getCharsAgain.rx.charsInInterruptBuffer =
      (e.getChars e.numberOfCharsToGet).rx.charsInInterruptBuffer - e.numberOfCharsToGet :=
    congrArg Reception.count hsame
  have hneeded' : e.getCharsAgain.rx.numberNeededForRead =
      (e.getChars e.numberOfCharsToGet).rx.numberNeededForRead :=
    congrArg Reception.needed hsame
  rw [hcount', hneeded', hcount, hneeded]
  unfold numberOfCharsToGet
  omega

/-- The read is over, and the next one begins. -/
theorem receiving_nextRead (h : Received p e.reception) (hring : e.rx.readBufferBase = .ring)
    (hp : p.whole = true) (htaken : p.taken = 0) (hacc : Accounted e) : e.nextRead.Receiving := by
  unfold nextRead loopRead
  split
  · exact received_getNext (q := .start) h hring hp htaken hacc (.inr rfl)
  · exact received_getNext (q := .idle) h hring hp htaken hacc (.inl rfl)

theorem receiving_succeedRead (h : Received (.copied l 0) e.reception) (hacc : Accounted e) :
    e.succeedRead.Receiving := by
  have hring := h.ring_of_pc nofun nofun
  refine receiving_nextRead (p := .copied l 0) ?_ ?_ rfl rfl (hacc.modifyCurrent _ (by intro; rfl))
  · rw [reception_modifyRead (by intro; rfl)]
    exact h
  · rw [rx_modifyCurrent]
    exact hring

/-- The ring is empty: the ISR goes on in the reader's buffer. -/
theorem receiving_switchToUser (h : Received (.copied l 0) e.reception) (hr : e.current .read = some r)
    (hneeded : e.rx.numberNeededForRead ≠ 0) (hcount : e.rx.charsInInterruptBuffer = 0) :
    (e.switchToUser.goto (.arm l)).Receiving := by
  have hring := h.ring_of_pc nofun nofun
  obtain ⟨_, r', hr', hbody, hsum⟩ := h.phase
  cases (reader_of_current hr).symm.trans hr'
  have hsum' : r.information + 0 + e.rx.numberNeededForRead = r.length := hsum
  have hmore : r.information < r.length := by omega
  have hswitch := h.handOver hring rfl hcount (reader_of_current hr) hbody hmore l
  refine hswitch.receiving ?_ rfl
  unfold switchToUser
  rw [hr]
  show (modifyCurrent .read _ _).reception = _
  rw [reception_modifyRead (by intro; rfl)]
  rfl

theorem received_initRead (h : Received (.copied l number) e.reception) (hr : e.current .read = some r)
    (hinfo : l.os2ssreturn = true → r.information = 0) :
    Received (.copied l number) (e.initRead l).reception := by
  unfold initRead
  split
  · next hcrunch =>
    have hzero := hinfo (h.phase.1 hcrunch)
    have hcur : (e.setNeeded 1).current .read = some r := hr
    rw [reception_modifyReader hcur]
    exact h.crunch (reader_of_current hr) hzero
  · rw [reception_modifyRead (by intro; rfl)]
    exact h

/-- **The copy is done**: the read is complete, or the rest comes through the ISR. -/
theorem receiving_finishCopy [Uart U] (h : Received (.copied l number) e.reception)
    (hr : e.current .read = some r) (hbegun : Begun e) (hacc : Accounted e) :
    (e.finishCopy l number r).Receiving := by
  have hupdate (e : Extension U) (hacc : Accounted e) :
      Accounted (e.serialUpdateInterruptBuffer number) :=
    (anything.serialUpdateInterruptBuffer id e number hacc).1
  unfold finishCopy
  split
  · exact receiving_succeedRead (received_update h) (hupdate e hacc)
  · next hmore =>
    simp only [Bool.or_eq_true, not_or, Bool.and_eq_true, not_and] at hmore
    have hinit := received_initRead h hr fun hos => by simpa using hmore.2 hos
    have hbegun' := (hbegun.initRead l).serialUpdateInterruptBuffer number
    have hagain := received_getCharsAgain (received_update hinit) hbegun'.some
    have hacc' := (anything.getCharsAgain id _ (hupdate _ (anything.initRead id e l hacc).1)).1
    obtain ⟨r', hr'⟩ := Option.isSome_iff_exists.mp hbegun'.getCharsAgain.some
    unfold succeedOrSwitch
    split
    · exact receiving_succeedRead hagain.1 hacc'
    · next hneeded =>
      exact receiving_switchToUser hagain.1 hr' hneeded (hagain.2.resolve_left hneeded)

/-! ### Resizing -/

/-- The buffer of the request is as long as it asked. -/
theorem length_newBuffer {size : Nat} (hr : e.current .read = some r)
    (hres : e.reception.Resizing size) : (newBuffer r).length = size := by
  obtain ⟨_, r', hr', hbody⟩ := hres
  cases (reader_of_current hr).symm.trans hr'
  have hbody' : r.body = .setQueueSize size := hbody
  rw [newBuffer, hbody', List.length_replicate]

theorem resizing_newBuffer (h : Received (.move number) e.reception)
    (hr : e.current .read = some r) : e.reception.Resizing (newBuffer r).length := by
  obtain ⟨⟨size, hres⟩, _⟩ := h.phase
  rw [length_newBuffer hr hres]
  exact hres

/-- There is nothing to be moved to the new ring. -/
theorem receiving_moveNone (h : Received (.move 0) e.reception) (hr : e.current .read = some r) :
    (e.goto (.moved 0 (newBuffer r))).Receiving := by
  have hring := h.ring_of_pc nofun nofun
  have hres := resizing_newBuffer h hr
  have hfirst : e.reception.first < e.reception.bufferSize := (h.ring hring).first
  have hmoved : Received (.moved 0 (newBuffer r)) e.reception := by
    refine h.advance hring (k := 0) (Nat.zero_le _) hfirst.le rfl rfl ?_ h.fits hres ?_
    · exact (Nat.mod_eq_of_lt hfirst).symm
    · rw [Received.placed_of_resizing hres (p := .move 0) rfl]
      rfl
  exact hmoved.receiving rfl rfl

/-- One slice is moved. -/
theorem receiving_moveWhole (h : Received (.move number) e.reception) (hr : e.current .read = some r)
    (hn : number ≠ 0) (hend : e.firstTryNumberToGet ≥ number) :
    ((e.setFirstReadable (e.nextReadable number)).goto
      (.moved number (e.moveToNew number 0 (newBuffer r)))).Receiving := by
  have hring := h.ring_of_pc nofun nofun
  have htry := firstTry_eq h hring rfl
  have hend' : e.rx.firstReadableChar + number ≤ e.rx.bufferSize := by omega
  have hmove : e.moveToNew number 0 (newBuffer r) =
      rtlMoveMemory (newBuffer r) 0 (e.ringFrom e.rx.firstReadableChar number) := by
    unfold moveToNew
    rw [if_neg hn, if_pos hend]
  rw [hmove, nextReadable_eq h hring hn hend']
  exact (h.moveWhole (resizing_newBuffer h hr) hend').receiving rfl rfl

/-- The first of two slices is moved. -/
theorem receiving_moveFirst (h : Received (.move number) e.reception) (hr : e.current .read = some r)
    (hend : e.firstTryNumberToGet ≤ number) :
    (e.goto (.moveRest number e.firstTryNumberToGet (rtlMoveMemory (newBuffer r) 0
      (e.ringFrom e.rx.firstReadableChar e.firstTryNumberToGet)))).Receiving := by
  have htry := firstTry_eq h (h.ring_of_pc nofun nofun) rfl
  exact (h.moveFirst (resizing_newBuffer h hr) htry.2 hend htry.1).receiving rfl rfl

/-- The second one is moved behind it. -/
theorem receiving_moveRest {first : Nat} {buffer : List UInt8}
    (h : Received (.moveRest number first buffer) e.reception) :
    ((e.setFirstReadable (number - first)).goto
      (.moved number (e.moveRest number first 0 buffer))).Receiving := by
  have hmove : e.moveRest number first 0 buffer =
      rtlMoveMemory buffer first (e.ringFrom 0 (number - first)) := by
    unfold Extension.moveRest
    rw [Nat.zero_add]
  rw [hmove]
  exact h.moveRest.receiving rfl rfl

/-- Everything counted is at the start of the new buffer. -/
theorem take_moveToNew {b : List UInt8} (hsize : e.rx.interruptReadBuffer.length = e.rx.bufferSize)
    (htry : e.rx.firstReadableChar + e.firstTryNumberToGet = e.rx.bufferSize) {n o : Nat}
    (hn : n ≤ e.rx.bufferSize) (hroom : o + n ≤ b.length) :
    (e.moveToNew n o b).take (o + n) = b.take o ++
        Ring.window e.rx.interruptReadBuffer e.rx.firstReadableChar n ∧
      (e.moveToNew n o b).length = b.length := by
  unfold moveToNew
  split
  · next hzero =>
    rw [hzero, Ring.window_zero, List.append_nil]
    exact ⟨rfl, rfl⟩
  · split
    · next hend =>
      have hend' : e.rx.firstReadableChar + n ≤ e.rx.interruptReadBuffer.length := by omega
      rw [Ring.window_of_le hend']
      exact Received.moved_rtlMoveMemory (Received.length_slice hend') hroom
    · next hend =>
      have hend' : e.rx.firstReadableChar + e.firstTryNumberToGet =
          e.rx.interruptReadBuffer.length := by omega
      obtain ⟨hfirst, hlength⟩ := Received.moved_rtlMoveMemory (b := b) (o := o)
        (Received.length_slice hend'.le) (by omega)
      have hslice := Received.length_slice (l := e.rx.interruptReadBuffer) (f := 0)
        (k := n - e.firstTryNumberToGet) (by omega)
      obtain ⟨hrest, hlength'⟩ := Received.moved_rtlMoveMemory
        (b := rtlMoveMemory b o (e.ringFrom e.rx.firstReadableChar
          e.firstTryNumberToGet)) (o := o + e.firstTryNumberToGet) hslice
        (by rw [ringFrom, hlength]; omega)
      have htotal : o + e.firstTryNumberToGet + (n - e.firstTryNumberToGet) = o + n := by
        omega
      rw [htotal, ringFrom, hfirst] at hrest
      -- the rest of the window begins at the start of the interrupt b
      have hwindow : Ring.window e.rx.interruptReadBuffer e.rx.firstReadableChar n =
          (e.rx.interruptReadBuffer.drop e.rx.firstReadableChar).take e.firstTryNumberToGet ++
            (e.rx.interruptReadBuffer.drop 0).take (n - e.firstTryNumberToGet) := by
        rw [Ring.window_advance (Nat.le_of_lt (Nat.lt_of_not_le hend)) (by omega) hend'.le, hend',
          Nat.mod_self, Ring.window_of_le (by omega)]
      rw [hwindow, ← List.append_assoc]
      exact ⟨hrest, hlength'.trans hlength⟩

/-- The characters that came in after the first copy fit behind it. -/
theorem moved_moveToNew {buffer : List UInt8} (h : Received (.moved number buffer) e.reception) :
    (e.moveToNew (e.rx.charsInInterruptBuffer - number) number buffer).take
        e.rx.charsInInterruptBuffer =
      buffer.take number ++ Ring.window e.rx.interruptReadBuffer e.rx.firstReadableChar
        (e.rx.charsInInterruptBuffer - number) ∧
      (e.moveToNew (e.rx.charsInInterruptBuffer - number) number buffer).length =
        buffer.length := by
  have hring := h.ring_of_pc nofun nofun
  have hfill := h.ring hring
  have htaken : number ≤ e.rx.charsInInterruptBuffer := hfill.taken
  have hcount : e.rx.charsInInterruptBuffer ≤ e.rx.bufferSize := hfill.count
  have hfirst : e.rx.firstReadableChar < e.rx.bufferSize := hfill.first
  have hlast : e.rx.lastCharSlot = e.rx.bufferSize - 1 := hfill.last
  have hroom : e.rx.bufferSize < buffer.length := h.phase.1
  have htry : e.rx.firstReadableChar + e.firstTryNumberToGet = e.rx.bufferSize := by
    unfold firstTryNumberToGet
    omega
  obtain ⟨htake, hlength⟩ := take_moveToNew (b := buffer) h.size htry
    (n := e.rx.charsInInterruptBuffer - number) (o := number) (by omega) (by omega)
  rw [Nat.add_sub_cancel' htaken] at htake
  exact ⟨htake, hlength⟩

/-- **The new ring takes over** with the same characters, and those that came meanwhile. -/
theorem received_switchToNew [Uart U] {buffer : List UInt8}
    (h : Received (.moved number buffer) e.reception) :
    Received .idle (e.serialUpdateAndSwitchToNew number buffer).reception ∧
      (e.serialUpdateAndSwitchToNew number buffer).rx.readBufferBase = .ring := by
  obtain ⟨htake, hlength⟩ := moved_moveToNew h
  have hsame := (sameReception_serialHandleReducedIntBuffer
    ((e.installBuffer (e.moveToNew (e.rx.charsInInterruptBuffer - number) number buffer)).putHandFlow
      { e.handFlow with xoffLimit := buffer.length / 8, xonLimit := buffer.length / 2 })).1
  refine ⟨?_, congrArg Reception.base hsame⟩
  unfold serialUpdateAndSwitchToNew
  rw [hsame]
  exact h.install hlength.ge htake rfl

/-! ### All of them -/

theorem consistent_readStart (t : Timeouts) : (readStart t).Consistent := by
  unfold ReadStart.Consistent readStart
  dsimp only
  split
  · split
    · nofun
    · split
      · exact fun _ => rfl
      · split
        · exact fun _ => rfl
        · nofun
  · nofun

theorem receiving_armRead (h : Received (.arm l) e.reception) : (e.armRead l).Receiving := by
  have htimer (e : Extension U) (t : TimerId) (ref : Ref) :
      (e.setTimerWithReference .read t ref).reception = e.reception := by
    unfold setTimerWithReference
    split
    · rfl
    · exact reception_modifyRead (by intro; rfl)
  have htotal (e : Extension U) : (e.armTotalTimer l).reception = e.reception := by
    unfold armTotalTimer
    split
    · exact htimer e _ _
    · rfl
  have hinterval (e : Extension U) : (e.armIntervalTimer l).reception = e.reception := by
    unfold armIntervalTimer
    split
    · exact htimer e.setLastReadTime _ _
    · rfl
  refine h.armed.receiving ?_ rfl
  show (((e.modifyCurrent .read (·.serialSetCancelRoutine)).armTotalTimer l).armIntervalTimer
    l).reception = _
  rw [hinterval, htotal, reception_modifyRead (by intro; rfl)]

/-- The first piece of a read or of a resize. -/
theorem receiving_beginRead (h : Received .start e.reception) (hr : e.current .read = some r)
    (hacc : Accounted e) : (e.beginRead r).Receiving := by
  have hring := h.ring_of_pc nofun nofun
  have hinfo : r.information = 0 := h.phase _ (reader_of_current hr)
  unfold beginRead
  split
  · next inSize hbody =>
    have hrec : (e.modifyCurrent .read fun r =>
        { r with information := 0, status := .success }).reception = e.reception :=
      reception_modifyReader_same hr (by simp [Request.reader, hinfo])
    unfold beginResize
    split
    · refine receiving_nextRead (p := .start) (by rw [hrec]; exact h) ?_ rfl rfl
        (hacc.modifyCurrent _ (by intro; rfl))
      rw [rx_modifyCurrent]
      exact hring
    · next hmore =>
      rw [rx_modifyCurrent, Nat.not_le] at hmore
      have hres : e.reception.Resizing inSize := ⟨hmore, _, reader_of_current hr, hbody⟩
      have hmove : Received (.move e.rx.charsInInterruptBuffer) e.reception :=
        h.goto hring rfl rfl rfl ⟨⟨inSize, hres⟩, le_rfl⟩
      refine hmove.receiving hrec ?_
      rw [rx_modifyCurrent]
      rfl
  · next hother =>
    have hserved := hacc.served .read r hr
    have hbody : r.body = .read := by
      cases hb : r.body with
      | read => rfl
      | setQueueSize n => exact absurd hb (hother n)
      | _ => rw [hb] at hserved; cases hserved
    refine (h.begin (reader_of_current hr) hbody (consistent_readStart e.cfg.timeouts)).receiving
      ?_ ?_
    · unfold setIntervalTime
      split <;> rfl
    · unfold setIntervalTime
      split <;> rfl

/-- **One piece of `SerialStartRead`.** -/
theorem receiving_serialStartReadStep [Uart U] (h : e.Receiving) (htracked : Tracked .read e)
    (hacc : Accounted e) : e.serialStartReadStep.Receiving := by
  -- the piece that is due says what the request and the ring look like
  have hat {pc : ReadPc} (hpc : e.pc = pc) : Received pc e.reception := hpc ▸ h
  unfold serialStartReadStep
  split
  · exact h
  · next hnone hpc => exact absurd ⟨rfl, hpc⟩ (htracked.vacant hnone).2
  · next r hr hpc => exact receiving_beginRead (hat hpc) hr hacc
  · next r l hr hpc =>
    have hsample := hat hpc
    have hcopy : Received (.copy l e.numberOfCharsToGet) e.reception :=
      hsample.goto (hsample.ring_of_pc nofun nofun) rfl rfl rfl
        ⟨hsample.phase, Nat.min_le_left .., Nat.min_le_right ..⟩
    exact hcopy.receiving rfl rfl
  · next r l number hr hpc =>
    have hcopy := hat hpc
    split
    · next hzero =>
      have hcopied : Received (.copied l 0) e.reception :=
        hcopy.goto (hcopy.ring_of_pc nofun nofun) rfl rfl rfl hcopy.phase.1
      exact hcopied.receiving rfl rfl
    · next hn =>
      split
      · next hend => exact (received_copyWhole hcopy hr hn hend).receiving rfl rfl
      · next hend =>
        exact (received_copyFirst hcopy hr (Nat.le_of_not_lt hend)).receiving rfl rfl
  · next r l number first hr hpc => exact (received_copyRest (hat hpc) hr).receiving rfl rfl
  · next r l number hr hpc =>
    have hbegun := begun_of_tracked htracked hr (by rw [hpc]; nofun) (by rw [hpc]; nofun)
    exact receiving_finishCopy (hat hpc) hr hbegun hacc
  · next r l hr hpc => exact receiving_armRead (hat hpc)
  · next r number hr hpc =>
    split
    · next hzero => exact receiving_moveNone (hzero ▸ hat hpc) hr
    · next hn =>
      split
      · next hend => exact receiving_moveWhole (hat hpc) hr hn hend
      · next hend => exact receiving_moveFirst (hat hpc) hr (Nat.le_of_not_le hend)
  · next r number first buffer hr hpc => exact receiving_moveRest (hat hpc)
  · next r number buffer hr hpc =>
    obtain ⟨hswitch, hring⟩ := received_switchToNew (hat hpc)
    exact receiving_nextRead hswitch hring rfl rfl
      (accounted_serialUpdateAndSwitchToNew number buffer hacc)

end

end SerialFc
