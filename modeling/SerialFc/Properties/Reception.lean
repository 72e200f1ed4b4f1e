import SerialFc.Lib.Ring
import SerialFc.Model.Driver

/-!
# The receive path

`Reception` is what the receive path works on: the interrupt buffer with its pointers and counters,
the reader's buffer, the bytes delivered so far and the record of what happened to the bytes that
came in. `Received p` says that the record accounts for them: what came in and is not lost is what
has been delivered, then what has been placed in the reader's buffer, then what is unread in the
interrupt buffer.

`p` is where `SerialStartRead` stands. It is an argument, not read off the state, since the routine
gets there in the middle of a piece.

* `Received.put`, `Received.overwrite` — the ISR and the interrupt buffer
* `Received.place`, `Received.satisfy`, `Received.grab` — the ISR and the reader's buffer
* `Received.advance` — a copy without the lock
* `Received.install` — a new interrupt buffer
* `Received.complete`, `Received.cancel`, `Received.arrive` — the end of a read, and the next one
-/

namespace SerialFc

open Extension Lib Lib.Ring

/-! ## Definitions -/

/-- What the receive path looks at in a request. -/
structure Reader where
  body : Body
  length : Nat
  buffer : List UInt8
  information : Nat

def Request.reader (r : Request) : Reader := ⟨r.body, r.length, r.systemBuffer, r.information⟩

structure Reception where
  buffer : List UInt8
  bufferSize : Nat
  base : Base
  first : Nat
  slot : Nat
  last : Nat
  count : Nat
  needed : Nat
  reader : Option Reader
  delivered : List UInt8
  stream : List (Fifo.Op UInt8)

variable {U : Type}

/-- The first `Information` bytes of every read that has been handed back. -/
def Extension.delivered (e : Extension U) : List UInt8 :=
  (e.done.filter Request.isRead).flatMap fun r => r.systemBuffer.take r.information

def Extension.reception (e : Extension U) : Reception where
  buffer := e.rx.interruptReadBuffer
  bufferSize := e.rx.bufferSize
  base := e.rx.readBufferBase
  first := e.rx.firstReadableChar
  slot := e.rx.currentCharSlot
  last := e.rx.lastCharSlot
  count := e.rx.charsInInterruptBuffer
  needed := e.rx.numberNeededForRead
  reader := (e.current .read).map Request.reader
  delivered := e.delivered
  stream := e.stream

/-- A read is cut down to one character only if it returns with what is there. -/
def ReadStart.Consistent (l : ReadStart) : Prop := l.crunchDownToOne = true → l.os2ssreturn = true

/-- No copy is half done. -/
def ReadPc.whole : ReadPc → Bool
  | .copyRest _ _ _ | .moveRest _ _ _ | .moved _ _ => false
  | _ => true

namespace Reception

variable (x : Reception)

/-- Where the characters that have not been copied out begin. -/
def firstUnread : ReadPc → Nat
  | .copyRest _ _ _ | .moveRest _ _ _ => 0
  | _ => x.first

/-- The characters of the interrupt buffer that have not been copied out. -/
def unread (p : ReadPc) : List UInt8 := window x.buffer (x.firstUnread p) (x.count - p.taken)

/-- How many bytes of the reader's buffer are in place. -/
def placedCount (p : ReadPc) (r : Reader) : Nat :=
  if x.base = .user then x.slot
  else
    match p with
    | .copyRest _ _ first => r.information + first
    | _ => r.information

/-- The bytes in place in the reader's buffer. -/
def placedUser (p : ReadPc) : List UInt8 :=
  match x.reader with
  | some r => if r.body = .read then r.buffer.take (x.placedCount p r) else []
  | none => []

/-- The bytes in place in the reader's buffer, or in the interrupt buffer to come. -/
def placed : ReadPc → List UInt8
  | .moveRest _ first buffer => buffer.take first
  | .moved number buffer => buffer.take number
  | p => x.placedUser p

/-- The ISR fills the interrupt buffer. -/
structure Filling (p : ReadPc) : Prop where
  taken : p.taken ≤ x.count
  count : x.count ≤ x.bufferSize
  first : x.firstUnread p < x.bufferSize
  slot : x.slot = (x.firstUnread p + (x.count - p.taken)) % x.bufferSize
  last : x.last = x.bufferSize - 1

/-- The ISR fills the reader's buffer. -/
structure Handing (p : ReadPc) : Prop where
  count : x.count = 0
  pc : p = .idle ∨ ∃ l, p = .arm l
  reader : ∃ r, x.reader = some r ∧ r.body = .read ∧ x.last = r.length - 1 ∧ x.slot ≤ x.last

/-- A read is being started; `first` bytes are in place that `Information` does not count yet. -/
def Reading (l : ReadStart) (first : Nat) : Prop :=
  l.Consistent ∧
    ∃ r, x.reader = some r ∧ r.body = .read ∧ r.information + first + x.needed = r.length

/-- A request to resize is being served, with a new buffer of `size`. -/
def Resizing (size : Nat) : Prop :=
  x.bufferSize < size ∧ ∃ r, x.reader = some r ∧ r.body = .setQueueSize size

/-- What the local variables of `SerialStartRead` have to do with the state. -/
def InPhase : ReadPc → Prop
  | .idle | .arm _ => True
  | .start => ∀ r, x.reader = some r → r.information = 0
  | .sample l | .copied l _ => x.Reading l 0
  | .copy l number => x.Reading l 0 ∧ number ≤ x.count ∧ number ≤ x.needed
  | .copyRest l number first =>
    x.Reading l first ∧ 0 < first ∧ first ≤ number ∧ number ≤ x.count ∧ number - first ≤ x.needed
  | .move number => (∃ size, x.Resizing size) ∧ number ≤ x.count
  | .moveRest number first buffer =>
    x.Resizing buffer.length ∧ 0 < first ∧ first ≤ number ∧ number ≤ x.count
  | .moved _ buffer => x.Resizing buffer.length

end Reception

/-- What has been asked of a read stays within its buffer. -/
def Reader.Fits (r : Reader) : Prop :=
  r.body = .read → 0 < r.length ∧ r.length ≤ r.buffer.length ∧ r.information ≤ r.length

/-- Every byte that came in is accounted for. -/
structure Received (p : ReadPc) (x : Reception) : Prop where
  size : x.buffer.length = x.bufferSize
  room : 0 < x.bufferSize
  ring : x.base = .ring → x.Filling p
  user : x.base = .user → x.Handing p
  fits : ∀ r, x.reader = some r → r.Fits
  phase : x.InPhase p
  stream : Fifo.exec x.stream = ⟨x.delivered, x.placed p ++ x.unread p⟩

namespace Received

variable {p p' : ReadPc} {x x' : Reception}

/-! ## The ISR and the interrupt buffer -/

theorem next_slot {slot size : Nat} (h : slot < size) :
    (if slot = size - 1 then 0 else slot + 1) = (slot + 1) % size := by
  split
  · next hlast =>
    have hsize : slot + 1 = size := by omega
    rw [hsize, Nat.mod_self]
  · rw [Nat.mod_eq_of_lt (by omega)]

theorem previous_slot {slot size : Nat} (h : slot < size) :
    (if (slot + 1) % size = 0 then size - 1 else (slot + 1) % size - 1) = slot := by
  rw [← next_slot h]
  split <;> split at * <;> omega

/-- What is in place does not depend on the interrupt buffer. -/
theorem placed_of_ring (hx : x.base = .ring) (hx' : x'.base = .ring)
    (hreader : x'.reader = x.reader) : x'.placed p = x.placed p := by
  have huser : x'.placedUser p = x.placedUser p := by
    unfold Reception.placedUser Reception.placedCount
    simp only [hreader, hx, hx', reduceCtorEq, if_false]
  cases p <;> first | exact huser | rfl

/-- More characters have come in, and nothing else has changed. -/
theorem phase_mono (h : x.InPhase p) (hreader : x'.reader = x.reader)
    (hneeded : x'.needed = x.needed) (hsize : x'.bufferSize = x.bufferSize)
    (hcount : x.count ≤ x'.count) : x'.InPhase p := by
  have hreading (l : ReadStart) (n : Nat) : x'.Reading l n ↔ x.Reading l n := by
    simp only [Reception.Reading, hreader, hneeded]
  have hresizing (n : Nat) : x'.Resizing n ↔ x.Resizing n := by
    simp only [Reception.Resizing, hreader, hsize]
  cases p with
  | idle | arm => trivial
  | start => exact fun r hr => h r (hreader ▸ hr)
  | sample l => exact (hreading l 0).mpr h
  | copied l n => exact (hreading l 0).mpr h
  | copy l n => exact ⟨(hreading l 0).mpr h.1, h.2.1.trans hcount, hneeded ▸ h.2.2⟩
  | copyRest l n first =>
    obtain ⟨hread, hpos, hle, hn, hrest⟩ := h
    exact ⟨(hreading l first).mpr hread, hpos, hle, hn.trans hcount, hneeded ▸ hrest⟩
  | move n => exact ⟨h.1.imp fun size hr => (hresizing size).mpr hr, h.2.trans hcount⟩
  | moveRest n first buffer =>
    obtain ⟨hres, hpos, hle, hn⟩ := h
    exact ⟨(hresizing _).mpr hres, hpos, hle, hn.trans hcount⟩
  | moved n buffer => exact (hresizing _).mpr h

theorem length_unread (h : Received p x) (hring : x.base = .ring) :
    (x.unread p).length = x.count - p.taken := by
  have hcount := (h.ring hring).count
  rw [Reception.unread, length_window (by rw [h.size]; omega)]

theorem slot_lt (h : Received p x) (hring : x.base = .ring) : x.slot < x.bufferSize := by
  rw [(h.ring hring).slot]
  exact Nat.mod_lt _ h.room

/-- The ISR stores a character in the interrupt buffer. -/
theorem put (h : Received p x) (hring : x.base = .ring) (hfree : x.count < x.bufferSize) (c : UInt8) :
    Received p { x with
      buffer := x.buffer.set x.slot c
      count := x.count + 1
      slot := if x.slot = x.last then 0 else x.slot + 1
      stream := x.stream ++ [.put c] } := by
  have hfill := h.ring hring
  have htaken := hfill.taken
  have hsucc : x.count + 1 - p.taken = x.count - p.taken + 1 := by omega
  refine ⟨by simpa using h.size, h.room, fun _ => ?_, fun huser => ?_, h.fits,
    phase_mono h.phase rfl rfl rfl (Nat.le_succ _), ?_⟩
  · refine ⟨Nat.le_succ_of_le htaken, hfree, hfill.first, ?_, hfill.last⟩
    show (if x.slot = x.last then 0 else x.slot + 1) =
      (x.firstUnread p + (x.count + 1 - p.taken)) % x.bufferSize
    rw [hfill.last, next_slot (h.slot_lt hring), hfill.slot, Nat.mod_add_mod, hsucc, Nat.add_assoc]
  · rw [hring] at huser
    cases huser
  · have hplaced : Reception.placed { x with
        buffer := x.buffer.set x.slot c
        count := x.count + 1
        slot := if x.slot = x.last then 0 else x.slot + 1
        stream := x.stream ++ [.put c] } p = x.placed p := placed_of_ring hring hring rfl
    -- the slot is right behind the unread characters
    have hunread : window (x.buffer.set x.slot c) (x.firstUnread p) (x.count + 1 - p.taken) =
        x.unread p ++ [c] := by
      rw [hsucc, hfill.slot, ← h.size, window_put c (by rw [h.size]; omega)]
      rfl
    rw [Fifo.exec_snoc, h.stream, hplaced]
    show _ = Fifo.State.mk _ (_ ++ window _ (x.firstUnread p) (x.count + 1 - p.taken))
    rw [hunread, ← List.append_assoc]
    rfl

/-- The ISR overwrites the newest character, unless the read path has copied it already. -/
theorem overwrite (h : Received p x) (hring : x.base = .ring) (hfull : ¬x.count < x.bufferSize)
    (c : UInt8) :
    Received p { x with
      buffer := x.buffer.set (if x.slot = 0 then x.bufferSize - 1 else x.slot - 1) c
      stream := if p.taken < x.count then x.stream ++ [.replaceLast c] else x.stream } := by
  have hfill := h.ring hring
  have htaken := hfill.taken
  refine ⟨by simpa using h.size, h.room, fun _ => ?_, fun huser => ?_, h.fits,
    phase_mono h.phase rfl rfl rfl le_rfl, ?_⟩
  · exact ⟨htaken, hfill.count, hfill.first, hfill.slot, hfill.last⟩
  · rw [hring] at huser
    cases huser
  · have hplaced : Reception.placed { x with
        buffer := x.buffer.set (if x.slot = 0 then x.bufferSize - 1 else x.slot - 1) c
        stream := if p.taken < x.count then x.stream ++ [.replaceLast c] else x.stream } p =
        x.placed p := placed_of_ring hring hring rfl
    rw [hplaced]
    show Fifo.exec (if p.taken < x.count then x.stream ++ [.replaceLast c] else x.stream) =
      ⟨_, _ ++ window _ (x.firstUnread p) (x.count - p.taken)⟩
    by_cases hleft : p.taken < x.count
    · obtain ⟨n, hn⟩ : ∃ n, x.count - p.taken = n + 1 := ⟨x.count - p.taken - 1, by omega⟩
      have hcount := hfill.count
      have hplace : (if x.slot = 0 then x.bufferSize - 1 else x.slot - 1) =
          (x.firstUnread p + n) % x.buffer.length := by
        have hslot : x.slot = ((x.firstUnread p + n) % x.bufferSize + 1) % x.bufferSize := by
          rw [hfill.slot, hn, Nat.mod_add_mod, Nat.add_assoc]
        rw [hslot, previous_slot (Nat.mod_lt _ h.room), h.size]
      have hlast : (x.placed p ++ x.unread p).dropLast = x.placed p ++ (x.unread p).dropLast := by
        refine List.dropLast_append_of_ne_nil fun hnil => ?_
        have hlength := h.length_unread hring
        rw [hnil] at hlength
        simp at hlength
        omega
      rw [if_pos hleft, Fifo.exec_snoc, h.stream, hplace, hn,
        window_replaceLast c (by rw [h.size]; omega), ← List.append_assoc]
      show Fifo.State.mk _ ((x.placed p ++ x.unread p).dropLast ++ [c]) = _
      rw [hlast, Reception.unread, hn]
    · have hzero : x.count - p.taken = 0 := by omega
      rw [if_neg hleft, h.stream, Reception.unread, hzero, window_zero, window_zero]

/-! ## What is in place -/

theorem placedUser_of_read {r : Reader} (hr : x.reader = some r) (hbody : r.body = .read) :
    x.placedUser p = r.buffer.take (x.placedCount p r) := by
  rw [Reception.placedUser, hr]
  exact if_pos hbody

theorem placedUser_of_other {r : Reader} (hr : x.reader = some r) (hbody : r.body ≠ .read) :
    x.placedUser p = [] := by
  rw [Reception.placedUser, hr]
  exact if_neg hbody

theorem placedUser_of_none (hr : x.reader = none) : x.placedUser p = [] := by
  rw [Reception.placedUser, hr]

theorem placed_of_whole (hp : p.whole = true) : x.placed p = x.placedUser p := by
  cases p <;> first | rfl | cases hp

theorem firstUnread_of_whole (hp : p.whole = true) : x.firstUnread p = x.first := by
  cases p <;> first | rfl | cases hp

theorem placedCount_user (huser : x.base = .user) (r : Reader) : x.placedCount p r = x.slot := by
  unfold Reception.placedCount
  rw [if_pos huser]

theorem placedCount_of_whole (hring : x.base = .ring) (hp : p.whole = true) (r : Reader) :
    x.placedCount p r = r.information := by
  unfold Reception.placedCount
  rw [if_neg (by simp [hring])]
  cases p <;> first | rfl | cases hp

theorem placed_of_read (hring : x.base = .ring) (hp : p.whole = true) {r : Reader}
    (hr : x.reader = some r) (hbody : r.body = .read) :
    x.placed p = r.buffer.take r.information := by
  rw [placed_of_whole hp, placedUser_of_read hr hbody, placedCount_of_whole hring hp]

/-! ## The ISR and the reader's buffer -/

/-- While the ISR fills the reader's buffer, `SerialStartRead` is not between two copies. -/
theorem ring_of_pc (h : Received p x) (hidle : p ≠ .idle) (harm : ∀ l, p ≠ .arm l) :
    x.base = .ring := by
  cases hbase : x.base with
  | ring => rfl
  | user =>
    rcases (h.user hbase).pc with hp | ⟨l, hp⟩
    · exact absurd hp hidle
    · exact absurd hp (harm l)

theorem whole_of_handing (h : x.Handing p) : p.whole = true := by
  rcases h.pc with rfl | ⟨l, rfl⟩ <;> rfl

theorem taken_of_handing (h : x.Handing p) : p.taken = 0 := by
  rcases h.pc with rfl | ⟨l, rfl⟩ <;> rfl

theorem inPhase_of_handing (h : x.Handing p) : x'.InPhase p := by
  rcases h.pc with rfl | ⟨l, rfl⟩ <;> trivial

/-- What is held while the ISR fills the reader's buffer. -/
theorem held_user (h : x.Handing p) (huser : x.base = .user) {r : Reader} (hr : x.reader = some r)
    (hbody : r.body = .read) : x.placed p ++ x.unread p = r.buffer.take x.slot := by
  have hunread : x.unread p = [] := by
    rw [Reception.unread, h.count, Nat.zero_sub, window_zero]
  rw [hunread, List.append_nil, placed_of_whole (whole_of_handing h), placedUser_of_read hr hbody,
    placedCount_user huser]

theorem take_succ_set {l : List UInt8} {n : Nat} (h : n < l.length) (c : UInt8) :
    (l.set n c).take (n + 1) = l.take n ++ [c] := by
  rw [List.take_succ_eq_append_getElem (by simpa using h), List.getElem_set_self,
    List.take_set_of_le le_rfl]

/-- The ISR stores a character in the reader's buffer, and there is room for more. -/
theorem place (h : Received p x) (huser : x.base = .user) (hmore : x.slot ≠ x.last) {r : Reader}
    (hr : x.reader = some r) (c : UInt8) :
    Received p { x with
      reader := some { r with buffer := r.buffer.set x.slot c }
      slot := x.slot + 1
      stream := x.stream ++ [.put c] } := by
  have hhand := h.user huser
  obtain ⟨r', hr', hbody, hlast, hle⟩ := hhand.reader
  cases hr.symm.trans hr'
  obtain ⟨hpos, hlength, hinfo⟩ := h.fits r hr hbody
  have hhand' : Reception.Handing { x with
      reader := some { r with buffer := r.buffer.set x.slot c }
      slot := x.slot + 1
      stream := x.stream ++ [.put c] } p := by
    refine ⟨hhand.count, hhand.pc, _, rfl, hbody, hlast, ?_⟩
    show x.slot + 1 ≤ x.last
    omega
  refine ⟨h.size, h.room, fun hring => ?_, fun _ => hhand', fun r' hr' => ?_,
    inPhase_of_handing hhand, ?_⟩
  · rw [huser] at hring
    cases hring
  · cases hr'
    exact fun _ => ⟨hpos, by simpa using hlength, hinfo⟩
  · rw [held_user hhand' huser rfl hbody, Fifo.exec_snoc, h.stream, held_user hhand huser hr hbody]
    show _ = Fifo.State.mk _ ((r.buffer.set x.slot c).take (x.slot + 1))
    rw [take_succ_set (by omega)]
    rfl

/-- The ISR is pointed at the empty interrupt buffer again, and `Information` counts what the
reader's buffer holds. -/
theorem reset (h : Received p x) (huser : x.base = .user) {r : Reader} (hbody : r.body = .read)
    (hfits : r.Fits) {stream : List (Fifo.Op UInt8)}
    (hstream : Fifo.exec stream = ⟨x.delivered, r.buffer.take r.information⟩) :
    Received p { x with
      base := .ring
      slot := 0
      first := 0
      last := x.bufferSize - 1
      count := 0
      reader := some r
      stream := stream } := by
  have hhand := h.user huser
  have hwhole := whole_of_handing hhand
  have htaken := taken_of_handing hhand
  refine ⟨h.size, h.room, fun _ => ?_, (fun hu => nomatch hu), fun r' hr' => ?_,
    inPhase_of_handing hhand, ?_⟩
  · refine ⟨by rw [htaken], Nat.zero_le _, ?_, ?_, rfl⟩
    · rw [firstUnread_of_whole hwhole]
      exact h.room
    · rw [firstUnread_of_whole hwhole, htaken]
      exact (Nat.zero_mod _).symm
  · cases hr'
    exact hfits
  · rw [hstream, placed_of_read rfl hwhole rfl hbody, Reception.unread]
    show _ = Fifo.State.mk _ (_ ++ window _ _ (0 - p.taken))
    rw [Nat.zero_sub, window_zero, List.append_nil]

/-- The ISR stores the last character of a read. -/
theorem satisfy (h : Received p x) (huser : x.base = .user) (hlast : x.slot = x.last) {r : Reader}
    (hr : x.reader = some r) (c : UInt8) :
    Received p { x with
      base := .ring
      slot := 0
      first := 0
      last := x.bufferSize - 1
      count := 0
      reader := some { r with buffer := r.buffer.set x.slot c, information := r.length }
      stream := x.stream ++ [.put c] } := by
  have hhand := h.user huser
  obtain ⟨r', hr', hbody, hend, _⟩ := hhand.reader
  cases hr.symm.trans hr'
  obtain ⟨hpos, hlength, _⟩ := h.fits r hr hbody
  have hfits : Reader.Fits { r with buffer := r.buffer.set x.slot c, information := r.length } :=
    fun _ => ⟨hpos, by simpa using hlength, Nat.le_refl _⟩
  refine h.reset (r := { r with buffer := r.buffer.set x.slot c, information := r.length }) huser
    hbody hfits ?_
  have hslot : r.length = x.slot + 1 := by omega
  rw [Fifo.exec_snoc, h.stream, held_user hhand huser hr hbody]
  show _ = Fifo.State.mk _ ((r.buffer.set x.slot c).take r.length)
  rw [hslot, take_succ_set (by omega)]
  rfl

/-- The reader's buffer is taken back from the ISR. -/
theorem grab (h : Received p x) (huser : x.base = .user) {r : Reader} (hr : x.reader = some r) :
    Received p { x with
      base := .ring
      slot := 0
      first := 0
      last := x.bufferSize - 1
      count := 0
      reader := some { r with information := r.length - (x.last - x.slot + 1) } } := by
  have hhand := h.user huser
  obtain ⟨r', hr', hbody, hend, hle⟩ := hhand.reader
  cases hr.symm.trans hr'
  obtain ⟨hpos, hlength, _⟩ := h.fits r hr hbody
  have hfits : Reader.Fits { r with information := r.length - (x.last - x.slot + 1) } :=
    fun _ => ⟨hpos, hlength, Nat.sub_le _ _⟩
  refine h.reset (r := { r with information := r.length - (x.last - x.slot + 1) }) huser hbody
    hfits ?_
  -- the slots from `slot` to `last` are still empty
  have hslot : r.length - (x.last - x.slot + 1) = x.slot := by omega
  rw [h.stream, held_user hhand huser hr hbody]
  show _ = Fifo.State.mk _ (r.buffer.take (r.length - (x.last - x.slot + 1)))
  rw [hslot]

/-- The ISR gets the reader's buffer, from what has been copied on. -/
theorem handOver (h : Received p x) (hring : x.base = .ring) (hp : p.whole = true)
    (hcount : x.count = 0) {r : Reader} (hr : x.reader = some r) (hbody : r.body = .read)
    (hmore : r.information < r.length) (l : ReadStart) :
    Received (.arm l) { x with
      base := .user
      slot := r.information
      last := r.length - 1 } := by
  have hhand : Reception.Handing { x with
      base := .user
      slot := r.information
      last := r.length - 1 } (.arm l) := by
    refine ⟨hcount, .inr ⟨l, rfl⟩, r, hr, hbody, rfl, ?_⟩
    show r.information ≤ r.length - 1
    omega
  refine ⟨h.size, h.room, (fun hbase => nomatch hbase), fun _ => hhand, h.fits, trivial, ?_⟩
  have hunread : x.unread p = [] := by
    rw [Reception.unread, hcount, Nat.zero_sub, window_zero]
  rw [held_user hhand rfl hr hbody, h.stream, placed_of_read hring hp hr hbody, hunread,
    List.append_nil]

/-! ## Copies -/

theorem take_rtlMoveMemory {b m : List UInt8} {o : Nat} (h : o ≤ b.length) :
    (rtlMoveMemory b o m).take (o + m.length) =
      b.take o ++ m := by
  have hlength : o + m.length = (b.take o ++ m).length := by
    rw [List.length_append, List.length_take, Nat.min_eq_left h]
  rw [rtlMoveMemory, hlength, List.take_left']
  rfl

theorem length_rtlMoveMemory {b m : List UInt8} {o : Nat}
    (h : o + m.length ≤ b.length) :
    (rtlMoveMemory b o m).length = b.length := by
  simp only [rtlMoveMemory, List.length_append, List.length_take, List.length_drop]
  omega

theorem moved_rtlMoveMemory {b m : List UInt8} {o n : Nat} (hn : m.length = n)
    (h : o + n ≤ b.length) :
    (rtlMoveMemory b o m).take (o + n) = b.take o ++ m ∧
      (rtlMoveMemory b o m).length = b.length := by
  subst hn
  exact ⟨take_rtlMoveMemory (by omega), length_rtlMoveMemory h⟩

theorem length_slice {l : List UInt8} {f k : Nat} (h : f + k ≤ l.length) :
    ((l.drop f).take k).length = k := by
  rw [List.length_take, List.length_drop]
  omega

/-- `k` characters have been copied out of the interrupt buffer. -/
theorem advance (h : Received p x) (hring : x.base = .ring) {k : Nat} (hk : k ≤ x.count - p.taken)
    (hend : x.firstUnread p + k ≤ x.bufferSize)
    (hrest : (x'.buffer, x'.bufferSize, x'.base, x'.slot, x'.last, x'.count, x'.delivered, x'.stream)
      = (x.buffer, x.bufferSize, x.base, x.slot, x.last, x.count, x.delivered, x.stream))
    (htaken : p'.taken = p.taken + k)
    (hfirst : x'.firstUnread p' = (x.firstUnread p + k) % x.bufferSize)
    (hfits : ∀ r, x'.reader = some r → r.Fits) (hphase : x'.InPhase p')
    (hplaced : x'.placed p' = x.placed p ++ (x.buffer.drop (x.firstUnread p)).take k) :
    Received p' x' := by
  have hfill := h.ring hring
  have htotal := hfill.taken
  have hcount := hfill.count
  simp only [Prod.mk.injEq] at hrest
  obtain ⟨h₁, h₂, h₃, h₄, h₅, h₆, h₇, h₈⟩ := hrest
  have hleft : x.count - (p.taken + k) = x.count - p.taken - k := by omega
  refine ⟨by rw [h₁, h₂, h.size], by rw [h₂]; exact h.room, fun _ => ?_, fun huser => ?_, hfits,
    hphase, ?_⟩
  · refine ⟨by rw [htaken, h₆]; omega, by rw [h₆, h₂]; exact hcount, ?_, ?_, by rw [h₅, h₂, hfill.last]⟩
    · rw [hfirst, h₂]
      exact Nat.mod_lt _ h.room
    · rw [h₄, hfirst, h₆, h₂, htaken, hfill.slot, Nat.mod_add_mod, hleft, Nat.add_assoc,
        Nat.add_sub_cancel' hk]
  · rw [h₃, hring] at huser
    cases huser
  · have hunread : x.unread p = (x.buffer.drop (x.firstUnread p)).take k ++ x'.unread p' := by
      rw [Reception.unread, Reception.unread, h₁, hfirst, h₆, htaken, hleft, ← h.size]
      exact window_advance hk (by rw [h.size]; omega) (by rw [h.size]; exact hend)
    rw [h₈, h₇, h.stream, hplaced, hunread, List.append_assoc]

/-- The same, to a reader's buffer: behind what is in place there. -/
theorem copy (h : Received p x) (hring : x.base = .ring) {k : Nat} (hk : k ≤ x.count - p.taken)
    (hend : x.firstUnread p + k ≤ x.bufferSize)
    (hrest : (x'.buffer, x'.bufferSize, x'.base, x'.slot, x'.last, x'.count, x'.delivered, x'.stream)
      = (x.buffer, x.bufferSize, x.base, x.slot, x.last, x.count, x.delivered, x.stream))
    (htaken : p'.taken = p.taken + k)
    (hfirst : x'.firstUnread p' = (x.firstUnread p + k) % x.bufferSize) (hphase : x'.InPhase p')
    {r : Reader} (hr : x.reader = some r) (hbody : r.body = .read) {i : Nat}
    (hr' : x'.reader = some { r with
      buffer := rtlMoveMemory r.buffer (x.placedCount p r)
        ((x.buffer.drop (x.firstUnread p)).take k)
      information := i })
    (hi : i ≤ r.length) (hroom : x.placedCount p r + k ≤ r.length)
    (hp : x.placed p = x.placedUser p) (hp' : x'.placed p' = x'.placedUser p')
    (hcount : ∀ r', r'.information = i → x'.placedCount p' r' = x.placedCount p r + k) :
    Received p' x' := by
  obtain ⟨hpos, hlength, _⟩ := h.fits r hr hbody
  have hslice : ((x.buffer.drop (x.firstUnread p)).take k).length = k :=
    length_slice (by rw [h.size]; exact hend)
  refine h.advance hring hk hend hrest htaken hfirst (fun r₁ hr₁ => ?_) hphase ?_
  · cases hr'.symm.trans hr₁
    refine fun _ => ⟨hpos, ?_, hi⟩
    show r.length ≤ (rtlMoveMemory _ _ _).length
    rw [length_rtlMoveMemory (by rw [hslice]; omega)]
    exact hlength
  · rw [hp', placedUser_of_read hr' hbody, hcount _ rfl, hp, placedUser_of_read hr hbody]
    show (rtlMoveMemory _ _ _).take _ = _
    have htake := take_rtlMoveMemory (m := (x.buffer.drop (x.firstUnread p)).take k)
      (show x.placedCount p r ≤ r.buffer.length by omega)
    rwa [hslice] at htake

/-- `SerialStartRead` goes on, and no character has been copied since. -/
theorem goto (h : Received p x) (hring : x.base = .ring) (hp : p.whole = true)
    (hp' : p'.whole = true) (htaken : p'.taken = p.taken) (hphase : x.InPhase p') :
    Received p' x := by
  have hfill := h.ring hring
  have hfirst : x.firstUnread p' = x.firstUnread p := by
    rw [firstUnread_of_whole hp, firstUnread_of_whole hp']
  have hunread : x.unread p' = x.unread p := by
    rw [Reception.unread, Reception.unread, hfirst, htaken]
  have hplaced : x.placed p' = x.placed p := by
    rw [placed_of_whole hp, placed_of_whole hp']
    unfold Reception.placedUser
    simp only [placedCount_of_whole hring hp, placedCount_of_whole hring hp']
  refine ⟨h.size, h.room, fun _ => ?_, fun huser => ?_, h.fits, hphase, by rw [hplaced, hunread]; exact h.stream⟩
  · exact ⟨htaken ▸ hfill.taken, hfill.count, hfirst ▸ hfill.first,
      by rw [hfirst, htaken]; exact hfill.slot, hfill.last⟩
  · rw [hring] at huser
    cases huser

section
variable {l : ReadStart} {number first : Nat} {r : Reader}

/-- The characters asked for lie before the end of the interrupt buffer. -/
theorem copyWhole (h : Received (.copy l number) x) (hr : x.reader = some r)
    (hend : x.first + number ≤ x.bufferSize) :
    Received (.copied l number) { x with
      needed := x.needed - number
      first := (x.first + number) % x.bufferSize
      reader := some { r with
        buffer := rtlMoveMemory r.buffer (r.length - x.needed) ((x.buffer.drop x.first).take number)
        information := r.information + number } } := by
  have hring := h.ring_of_pc nofun nofun
  obtain ⟨⟨hl, r', hr', hbody, hsum⟩, hcount, hneeded⟩ := h.phase
  cases hr.symm.trans hr'
  have hplace : x.placedCount (.copy l number) r = r.information :=
    placedCount_of_whole hring rfl r
  have hoffset : r.length - x.needed = r.information := by omega
  rw [hoffset]
  refine h.copy hring hcount hend rfl (Nat.zero_add number).symm rfl ⟨hl, _, rfl, hbody, ?_⟩ hr
    hbody (i := r.information + number) (by rw [hplace]; rfl) (by omega) (by omega) rfl rfl ?_
  · show r.information + number + 0 + (x.needed - number) = r.length
    omega
  · intro r' hr'
    rw [placedCount_of_whole (by exact hring) rfl, hplace, hr']

/-- They do not, and those before the end are copied first. -/
theorem copyFirst (h : Received (.copy l number) x) (hr : x.reader = some r) (hpos : 0 < first)
    (hle : first ≤ number) (hend : x.first + first = x.bufferSize) :
    Received (.copyRest l number first) { x with
      needed := x.needed - first
      reader := some { r with
        buffer := rtlMoveMemory r.buffer (r.length - x.needed)
          ((x.buffer.drop x.first).take first) } } := by
  have hring := h.ring_of_pc nofun nofun
  obtain ⟨⟨hl, r', hr', hbody, hsum⟩, hcount, hneeded⟩ := h.phase
  cases hr.symm.trans hr'
  have hplace : x.placedCount (.copy l number) r = r.information :=
    placedCount_of_whole hring rfl r
  have hoffset : r.length - x.needed = r.information := by omega
  rw [hoffset]
  refine h.copy hring (hle.trans hcount) hend.le rfl (Nat.zero_add first).symm ?_
    ⟨⟨hl, _, rfl, hbody, ?_⟩, hpos, hle, hcount, ?_⟩ hr hbody (i := r.information)
    (by rw [hplace]; rfl) (by omega) (by omega) rfl rfl ?_
  · show 0 = (x.first + first) % x.bufferSize
    rw [hend, Nat.mod_self]
  · show r.information + first + (x.needed - first) = r.length
    omega
  · show number - first ≤ x.needed - first
    omega
  · intro r' hr'
    rw [hplace, ← hr']
    unfold Reception.placedCount
    rw [if_neg (by simp [hring])]

/-- The characters behind the end, from the start of the interrupt buffer on. -/
theorem copyRest (h : Received (.copyRest l number first) x) (hr : x.reader = some r) :
    Received (.copied l number) { x with
      needed := x.needed - (number - first)
      first := number - first
      reader := some { r with
        buffer := rtlMoveMemory r.buffer (r.length - x.needed)
          ((x.buffer.drop 0).take (number - first))
        information := r.information + number } } := by
  have hring := h.ring_of_pc nofun nofun
  have htotal := (h.ring hring).count
  obtain ⟨⟨hl, r', hr', hbody, hsum⟩, hpos, hle, hcount, hneeded⟩ := h.phase
  cases hr.symm.trans hr'
  have hplace : x.placedCount (.copyRest l number first) r = r.information + first := by
    unfold Reception.placedCount
    rw [if_neg (by simp [hring])]
  have hoffset : r.length - x.needed = r.information + first := by omega
  rw [hoffset]
  refine h.copy hring (k := number - first) ?_ ?_ rfl ?_ ?_ ⟨hl, _, rfl, hbody, ?_⟩ hr hbody
    (i := r.information + number) (by rw [hplace]; rfl) (by omega) (by omega) rfl rfl ?_
  · show number - first ≤ x.count - first
    omega
  · show 0 + (number - first) ≤ x.bufferSize
    omega
  · show number = first + (number - first)
    omega
  · show number - first = (0 + (number - first)) % x.bufferSize
    rw [Nat.zero_add, Nat.mod_eq_of_lt (by omega)]
  · show r.information + number + 0 + (x.needed - (number - first)) = r.length
    omega
  · intro r' hr'
    rw [placedCount_of_whole (by exact hring) rfl, hplace, hr']
    omega

end

/-- With the lock held, the characters copied out are no longer counted. -/
theorem remove {l : ReadStart} {number : Nat} (h : Received (.copied l number) x) :
    Received (.copied l 0) { x with count := x.count - number } := by
  have hring := h.ring_of_pc nofun nofun
  have hfill := h.ring hring
  have htaken : number ≤ x.count := hfill.taken
  have hcount := hfill.count
  refine ⟨h.size, h.room, fun _ => ?_, fun huser => ?_, h.fits, h.phase, h.stream⟩
  · exact ⟨Nat.zero_le _, (Nat.sub_le _ _).trans hcount, hfill.first, hfill.slot, hfill.last⟩
  · rw [hring] at huser
    cases huser

/-- A read that has got nothing so far is cut down to one character. -/
theorem crunch {l : ReadStart} {number : Nat} {r : Reader} (h : Received (.copied l number) x)
    (hr : x.reader = some r) (hinfo : r.information = 0) :
    Received (.copied l number) { x with needed := 1, reader := some { r with length := 1 } } := by
  have hring := h.ring_of_pc nofun nofun
  have hfill := h.ring hring
  obtain ⟨hl, r', hr', hbody, _⟩ := h.phase
  cases hr.symm.trans hr'
  obtain ⟨hpos, hlength, _⟩ := h.fits r hr hbody
  refine ⟨h.size, h.room, fun _ => ?_, fun huser => ?_, fun r' hr' => ?_, ?_, ?_⟩
  · exact ⟨hfill.taken, hfill.count, hfill.first, hfill.slot, hfill.last⟩
  · rw [hring] at huser
    cases huser
  · cases hr'
    refine fun _ => ⟨Nat.one_pos, ?_, ?_⟩
    · exact (Nat.succ_le_of_lt hpos).trans hlength
    · exact hinfo.le.trans (Nat.zero_le 1)
  · exact ⟨hl, _, rfl, hbody, by rw [hinfo]; rfl⟩
  · rw [h.stream, placed_of_read hring rfl hr hbody,
      placed_of_read (x := { x with needed := 1, reader := some { r with length := 1 } }) hring rfl
        rfl hbody]
    rfl

/-- A read begins. -/
theorem begin {l : ReadStart} {r : Reader} (h : Received .start x) (hr : x.reader = some r)
    (hbody : r.body = .read) (hl : l.Consistent) :
    Received (.sample l) { x with needed := r.length } := by
  have hring := h.ring_of_pc nofun nofun
  have hfill := h.ring hring
  have hinfo := h.phase r hr
  have hstart : Received .idle { x with needed := r.length } := by
    have hidle : Received .idle x := h.goto hring rfl rfl rfl trivial
    refine ⟨h.size, h.room, fun _ => ?_, fun huser => ?_, h.fits, trivial, hidle.stream⟩
    · exact ⟨hfill.taken, hfill.count, hfill.first, hfill.slot, hfill.last⟩
    · rw [hring] at huser
      cases huser
  exact hstart.goto hring rfl rfl rfl ⟨hl, r, hr, hbody, by rw [hinfo]; exact Nat.zero_add _⟩

/-- The cancel routine and the timers are set: the read waits. -/
theorem armed {l : ReadStart} (h : Received (.arm l) x) : Received .idle x where
  size := h.size
  room := h.room
  ring hring :=
    have hfill := h.ring hring
    ⟨hfill.taken, hfill.count, hfill.first, hfill.slot, hfill.last⟩
  user huser := ⟨(h.user huser).count, .inl rfl, (h.user huser).reader⟩
  fits := h.fits
  phase := trivial
  stream := h.stream

/-! ## A new interrupt buffer -/

section
variable {number first : Nat} {buffer : List UInt8}

theorem placed_of_resizing {size : Nat} (h : x.Resizing size) (hp : p.whole = true) :
    x.placed p = [] := by
  obtain ⟨_, r, hr, hbody⟩ := h
  rw [placed_of_whole hp, placedUser_of_other hr (by rw [hbody]; nofun)]

/-- The characters so far lie before the end of the interrupt buffer. -/
theorem moveWhole (h : Received (.move number) x) (hres : x.Resizing buffer.length)
    (hend : x.first + number ≤ x.bufferSize) :
    Received (.moved number (rtlMoveMemory buffer 0 ((x.buffer.drop x.first).take number)))
      { x with first := (x.first + number) % x.bufferSize } := by
  have hring := h.ring_of_pc nofun nofun
  have hcount := (h.ring hring).count
  have hnumber := h.phase.2
  have hslice := length_slice (show x.first + number ≤ x.buffer.length by rw [h.size]; exact hend)
  have hlength := length_rtlMoveMemory (b := buffer) (o := 0)
    (m := (x.buffer.drop x.first).take number) (by rw [hslice]; have := hres.1; omega)
  refine h.advance hring hnumber hend rfl (Nat.zero_add number).symm rfl h.fits ?_ ?_
  · rw [Reception.InPhase, hlength]
    exact hres
  · have htake := take_rtlMoveMemory (b := buffer) (Nat.zero_le _)
      (m := (x.buffer.drop x.first).take number)
    rw [hslice, Nat.zero_add] at htake
    rw [placed_of_resizing hres (p := .move number) rfl]
    exact htake

/-- They do not, and those before the end are moved first. -/
theorem moveFirst (h : Received (.move number) x) (hres : x.Resizing buffer.length)
    (hpos : 0 < first) (hle : first ≤ number) (hend : x.first + first = x.bufferSize) :
    Received (.moveRest number first (rtlMoveMemory buffer 0 ((x.buffer.drop x.first).take first)))
      x := by
  have hring := h.ring_of_pc nofun nofun
  have hcount := (h.ring hring).count
  have hnumber := h.phase.2
  have hslice := length_slice (show x.first + first ≤ x.buffer.length by rw [h.size]; exact hend.le)
  have hlength := length_rtlMoveMemory (b := buffer) (o := 0)
    (m := (x.buffer.drop x.first).take first) (by rw [hslice]; have := hres.1; omega)
  refine h.advance hring (hle.trans hnumber) hend.le rfl (Nat.zero_add first).symm ?_ h.fits ?_ ?_
  · show 0 = (x.first + first) % x.bufferSize
    rw [hend, Nat.mod_self]
  · rw [Reception.InPhase, hlength]
    exact ⟨hres, hpos, hle, hnumber⟩
  · have htake := take_rtlMoveMemory (b := buffer) (Nat.zero_le _)
      (m := (x.buffer.drop x.first).take first)
    rw [hslice, Nat.zero_add] at htake
    rw [placed_of_resizing hres (p := .move number) rfl]
    exact htake

/-- The characters behind the end. -/
theorem moveRest (h : Received (.moveRest number first buffer) x) :
    Received (.moved number (rtlMoveMemory buffer first ((x.buffer.drop 0).take (number - first))))
      { x with first := number - first } := by
  have hring := h.ring_of_pc nofun nofun
  have hcount := (h.ring hring).count
  obtain ⟨hres, hpos, hle, hnumber⟩ := h.phase
  have hslice := length_slice (f := 0) (k := number - first)
    (show 0 + (number - first) ≤ x.buffer.length by rw [h.size]; omega)
  have hroom := hres.1
  have hlength := length_rtlMoveMemory (b := buffer) (o := first)
    (m := (x.buffer.drop 0).take (number - first)) (by rw [hslice]; omega)
  refine h.advance hring (k := number - first) ?_ ?_ rfl ?_ ?_ h.fits ?_ ?_
  · show number - first ≤ x.count - first
    omega
  · show 0 + (number - first) ≤ x.bufferSize
    omega
  · show number = first + (number - first)
    omega
  · show number - first = (0 + (number - first)) % x.bufferSize
    rw [Nat.zero_add, Nat.mod_eq_of_lt (by omega)]
  · rw [Reception.InPhase, hlength]
    exact hres
  · have htake := take_rtlMoveMemory (b := buffer) (o := first) (by omega)
      (m := (x.buffer.drop 0).take (number - first))
    rw [hslice, Nat.add_sub_cancel' hle] at htake
    exact htake

/-- The new buffer takes over, with everything that is unread at its start. -/
theorem install (h : Received (.moved number buffer) x) (hlength : buffer.length ≤ x'.buffer.length)
    (htake : x'.buffer.take x.count = buffer.take number ++ window x.buffer x.first (x.count - number))
    (hrest : (x'.bufferSize, x'.last, x'.first, x'.slot, x'.count, x'.base, x'.reader, x'.delivered,
      x'.stream) = (x'.buffer.length, x'.buffer.length - 1, 0, x.count, x.count, .ring, x.reader,
      x.delivered, x.stream)) : Received .idle x' := by
  have hring := h.ring_of_pc nofun nofun
  have hcount := (h.ring hring).count
  obtain ⟨hroom, hres⟩ := h.phase
  have hpos := h.room
  simp only [Prod.mk.injEq] at hrest
  obtain ⟨h₁, h₂, h₃, h₄, h₅, h₆, h₇, h₈, h₉⟩ := hrest
  refine ⟨h₁.symm, by omega, fun _ => ?_, fun huser => ?_, h₇ ▸ h.fits, trivial, ?_⟩
  · refine ⟨Nat.zero_le _, by omega, ?_, ?_, by rw [h₂, h₁]⟩
    · show x'.first < x'.bufferSize
      omega
    · show x'.slot = (x'.first + x'.count) % x'.bufferSize
      rw [h₄, h₃, h₅, Nat.zero_add, Nat.mod_eq_of_lt (by omega)]
  · rw [h₆] at huser
    cases huser
  · have hunread : x'.unread .idle = x'.buffer.take x.count := by
      rw [Reception.unread]
      show window x'.buffer x'.first (x'.count - 0) = _
      rw [h₃, h₅, Nat.sub_zero, window_of_le (by omega), List.drop_zero]
    have hplaced : x'.placed .idle = [] := by
      obtain ⟨r, hr, hbody⟩ := hres
      exact placedUser_of_other (h₇.trans hr) (by rw [hbody]; nofun)
    rw [h₉, h₈, h.stream, hplaced, hunread, htake]
    rfl

end

/-! ## The end of a read -/

/-- A read is handed back. -/
theorem complete (h : Received p x) (hring : x.base = .ring) (hp : p.whole = true)
    (htaken : p.taken = 0) {r : Reader} (hr : x.reader = some r) (hbody : r.body = .read) :
    Received .idle { x with
      reader := none
      delivered := x.delivered ++ r.buffer.take r.information
      stream := x.stream ++ [.take r.information] } := by
  obtain ⟨_, hlength, hinfo⟩ := h.fits r hr hbody
  have hidle : Received .idle x := h.goto hring hp rfl htaken.symm trivial
  have hfill := hidle.ring hring
  refine ⟨h.size, h.room, fun _ => ?_, fun huser => ?_, fun r hr => (by cases hr), trivial, ?_⟩
  · exact ⟨hfill.taken, hfill.count, hfill.first, hfill.slot, hfill.last⟩
  · rw [hring] at huser
    cases huser
  · have hlen : (r.buffer.take r.information).length = r.information := by
      rw [List.length_take]
      omega
    rw [Fifo.exec_snoc, hidle.stream, placed_of_read hring rfl hr hbody,
      Fifo.apply_take_append hlen]
    rfl

/-- A request to resize is completed, or no request at all. -/
theorem clearReader (h : Received p x) (hring : x.base = .ring) (hp : p.whole = true)
    (htaken : p.taken = 0) (hother : ∀ r, x.reader = some r → r.body ≠ .read) :
    Received .idle { x with reader := none } := by
  have hidle : Received .idle x := h.goto hring hp rfl htaken.symm trivial
  have hfill := hidle.ring hring
  have hplaced : x.placed .idle = [] := by
    cases hr : x.reader with
    | none => exact placedUser_of_none hr
    | some r => exact placedUser_of_other hr (hother r hr)
  refine ⟨h.size, h.room, fun _ => ?_, fun huser => ?_, fun r hr => (by cases hr), trivial, ?_⟩
  · exact ⟨hfill.taken, hfill.count, hfill.first, hfill.slot, hfill.last⟩
  · rw [hring] at huser
    cases huser
  · rw [hidle.stream, hplaced]
    rfl

/-- What a cancelled read holds is lost. -/
theorem cancel (h : Received p x) (hring : x.base = .ring) (hp : p.whole = true)
    (htaken : p.taken = 0) {r : Reader} (hr : x.reader = some r) (hbody : r.body = .read) :
    Received .idle { x with
      reader := some { r with information := 0 }
      stream := x.stream ++ [.drop r.information] } := by
  obtain ⟨hpos, hlength, hinfo⟩ := h.fits r hr hbody
  have hidle : Received .idle x := h.goto hring hp rfl htaken.symm trivial
  have hfill := hidle.ring hring
  refine ⟨h.size, h.room, fun _ => ?_, fun huser => ?_, fun r' hr' => ?_, trivial, ?_⟩
  · exact ⟨hfill.taken, hfill.count, hfill.first, hfill.slot, hfill.last⟩
  · rw [hring] at huser
    cases huser
  · cases hr'
    exact fun _ => ⟨hpos, hlength, Nat.zero_le _⟩
  · have hlen : (r.buffer.take r.information).length = r.information := by
      rw [List.length_take]
      omega
    rw [Fifo.exec_snoc, hidle.stream, placed_of_read hring rfl hr hbody,
      placed_of_read (by exact hring) rfl rfl (by exact hbody), Fifo.apply_drop_append hlen]
    rfl

/-- The next request comes in. -/
theorem arrive (h : Received .idle x) (hnone : x.reader = none) {r : Reader} (hfits : r.Fits)
    (hinfo : r.information = 0) (hp : p = .idle ∨ p = .start) :
    Received p { x with reader := some r } := by
  have hring : x.base = .ring := by
    cases hbase : x.base with
    | ring => rfl
    | user =>
      obtain ⟨r', hr', _⟩ := (h.user hbase).reader
      rw [hnone] at hr'
      cases hr'
  have hfill := h.ring hring
  have hidle : Received .idle { x with reader := some r } := by
    refine ⟨h.size, h.room, fun _ => ?_, fun huser => ?_, fun r' hr' => ?_, trivial, ?_⟩
    · exact ⟨hfill.taken, hfill.count, hfill.first, hfill.slot, hfill.last⟩
    · rw [hring] at huser
      cases huser
    · cases hr'
      exact hfits
    · have hplaced : Reception.placed { x with reader := some r } .idle = [] := by
        by_cases hbody : r.body = .read
        · rw [placed_of_read (by exact hring) rfl rfl hbody, hinfo, List.take_zero]
        · exact placedUser_of_other (x := { x with reader := some r }) rfl hbody
      have hempty : x.placed .idle = [] := placedUser_of_none hnone
      rw [hplaced, h.stream, hempty]
      rfl
  rcases hp with rfl | rfl
  · exact hidle
  · refine hidle.goto hring rfl rfl rfl fun r' hr' => ?_
    cases hr'
    exact hinfo

/-- A read that has got nothing is handed back. -/
theorem completeEmpty (h : Received p x) :
    Received p { x with stream := x.stream ++ [.take 0] } := by
  refine ⟨h.size, h.room, fun hring => ?_, fun huser => ?_, h.fits, ?_, ?_⟩
  · have hfill := h.ring hring
    exact ⟨hfill.taken, hfill.count, hfill.first, hfill.slot, hfill.last⟩
  · exact ⟨(h.user huser).count, (h.user huser).pc, (h.user huser).reader⟩
  · exact phase_mono h.phase rfl rfl rfl le_rfl
  · rw [Fifo.exec_snoc, h.stream]
    simp only [Fifo.apply, List.take_zero, List.append_nil, List.drop_zero]
    cases p <;> rfl

/-! ## Purges -/

/-- What is in the interrupt buffer is thrown away. -/
theorem clear (h : Received p x) (hring : x.base = .ring) (hp : p = .idle ∨ p = .start) :
    Received p { x with
      slot := 0
      first := 0
      last := x.bufferSize - 1
      count := 0
      stream := x.stream ++ [.clear x.count] } := by
  have htaken : p.taken = 0 := by rcases hp with rfl | rfl <;> rfl
  have hwhole : p.whole = true := by rcases hp with rfl | rfl <;> rfl
  refine ⟨h.size, h.room, fun _ => ?_, fun huser => ?_, h.fits, ?_, ?_⟩
  · refine ⟨by rw [htaken], Nat.zero_le _, ?_, ?_, rfl⟩
    · rw [firstUnread_of_whole hwhole]
      exact h.room
    · rw [firstUnread_of_whole hwhole, htaken]
      exact (Nat.zero_mod _).symm
  · rw [hring] at huser
    cases huser
  · rcases hp with rfl | rfl
    · trivial
    · exact h.phase
  · have hlen := h.length_unread hring
    rw [htaken, Nat.sub_zero] at hlen
    have hplaced : Reception.placed { x with
        slot := 0
        first := 0
        last := x.bufferSize - 1
        count := 0
        stream := x.stream ++ [.clear x.count] } p = x.placed p := placed_of_ring hring hring rfl
    rw [hplaced, Fifo.exec_snoc, h.stream, Fifo.apply_clear_append hlen]
    show _ = Fifo.State.mk _ (_ ++ window _ _ (0 - p.taken))
    rw [Nat.zero_sub, window_zero, List.append_nil]

end Received

end SerialFc
