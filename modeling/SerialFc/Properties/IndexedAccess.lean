import SerialFc.Model.Driver
import SerialFc.Model.Indexed
import SerialFc.Properties.InterruptRule

/-!
# Indexed registers and the ISR

The FSCC routines select an indexed register and then access it. The ISR, which uses the same
registers to send data, may come in between.

* `Undisturbed` — no pass of the ISR comes in between a selection and the access it is for, nor
  between enabling the reads of ICR and a read
* `serializable_iff_undisturbed` — then, and only then, a routine and the passes of the ISR do what
  they would do one after the other
-/

namespace SerialFc

open Extension

/-! ## A pass of the ISR -/

/-- The ISR writes the ninth bit to SPR before each character. -/
def Extension.marks (e : Extension Indexed) : Bool := e.cfg.nineBit && !e.handFlow.transmitToggle

/-- What a pass leaves in SPR. -/
def leftInSpr (marks : Bool) (bytes : List UInt8) : UInt8 :=
  if marks && bytes.length == 1 then 1 else 0

/-- An FSCC port with its FIFO on. -/
structure Fscc (e : Extension Indexed) : Prop where
  card : e.cfg.cardType = .fscc
  fifo : e.cfg.fifoPresent = true

/-- The registers that a pass leaves alone: all but SPR, MCR and ACR, which gets the shadow. -/
structure Passed (e e' : Extension Indexed) : Prop where
  cfg : e'.cfg = e.cfg
  lcr : e'.uart.lcr = e.uart.lcr
  lsr : e'.uart.lsr = e.uart.lsr
  icr : e'.uart.icr = Function.update e.uart.icr acrOffset e.cfg.acr

theorem passed_fill (e : Extension Indexed) :
    Passed e e.fastcomGetTxFifoFillFscc.2 ∧ e.fastcomGetTxFifoFillFscc.2.uart.spr = 0 := by
  refine ⟨⟨rfl, rfl, rfl, ?_⟩, rfl⟩
  show Function.update (Function.update e.uart.icr 0 _) 0 _ = _
  rw [Function.update_idem]
  rfl

/-- Neither RTS nor the data go to the indexed registers. -/
structure Unindexed (e e' : Extension Indexed) : Prop where
  cfg : e'.cfg = e.cfg
  lcr : e'.uart.lcr = e.uart.lcr
  lsr : e'.uart.lsr = e.uart.lsr
  icr : e'.uart.icr = e.uart.icr
  spr : e'.uart.spr = e.uart.spr

namespace Unindexed

variable {e e' e'' : Extension Indexed}

theorem refl (e : Extension Indexed) : Unindexed e e := ⟨rfl, rfl, rfl, rfl, rfl⟩

theorem trans (h : Unindexed e e') (h' : Unindexed e' e'') : Unindexed e e'' :=
  ⟨h'.cfg.trans h.cfg, h'.lcr.trans h.lcr, h'.lsr.trans h.lsr, h'.icr.trans h.icr,
    h'.spr.trans h.spr⟩

theorem writeTransmitFifo (bytes : List UInt8) (e : Extension Indexed) :
    Unindexed e (e.writeTransmitFifo bytes) := by
  induction bytes generalizing e with
  | nil => exact refl e
  | cons b bytes ih => exact .trans ⟨rfl, rfl, rfl, rfl, rfl⟩ (ih (e.writeReg .data b))

theorem insertStartTimerLowerRts (e : Extension Indexed) :
    Unindexed e e.insertStartTimerLowerRts := by
  unfold Extension.insertStartTimerLowerRts
  split <;> exact ⟨rfl, rfl, rfl, rfl, rfl⟩

end Unindexed

/-- The plain path: SPR holds the last mark. -/
theorem writeChunk_indexed (mark : UInt8) (bytes : List UInt8) (e : Extension Indexed) :
    (e.writeChunk mark bytes).cfg = e.cfg ∧ (e.writeChunk mark bytes).uart.lcr = e.uart.lcr ∧
      (e.writeChunk mark bytes).uart.lsr = e.uart.lsr ∧
      (e.writeChunk mark bytes).uart.icr = e.uart.icr ∧
      (e.uart.lcr ≠ 0xbf → (e.writeChunk mark bytes).uart.spr =
        if e.cfg.nineBit = true ∧ bytes ≠ [] then (if bytes.length = 1 then mark else 0)
        else e.uart.spr) := by
  induction bytes generalizing e mark with
  | nil => simp [Extension.writeChunk]
  | cons b bytes ih =>
    obtain ⟨hcfg, hlcr, hlsr, hicr, hspr⟩ := ih 0 ((e.writeSpr mark).writeReg .data b)
    have hmark : (e.writeSpr mark).cfg = e.cfg ∧ (e.writeSpr mark).uart.lcr = e.uart.lcr ∧
        (e.writeSpr mark).uart.lsr = e.uart.lsr ∧ (e.writeSpr mark).uart.icr = e.uart.icr := by
      -- the mark goes to SPR, or nowhere; nothing else changes
      unfold Extension.writeSpr Extension.writeReg
      split
      · show _ ∧ (Indexed.write .spr mark e.uart).lcr = _ ∧ (Indexed.write .spr mark e.uart).lsr = _ ∧
          (Indexed.write .spr mark e.uart).icr = _
        unfold Indexed.write
        dsimp only
        split <;> exact ⟨rfl, rfl, rfl, rfl⟩
      · exact ⟨rfl, rfl, rfl, rfl⟩
    refine ⟨hcfg.trans hmark.1, hlcr.trans hmark.2.1, hlsr.trans hmark.2.2.1,
      hicr.trans hmark.2.2.2, fun hwindow => ?_⟩
    have hspr' := hspr (by
      show (e.writeSpr mark).uart.lcr ≠ 0xbf
      rw [hmark.2.1]
      exact hwindow)
    have hsame : ((e.writeSpr mark).writeReg .data b).cfg.nineBit = e.cfg.nineBit :=
      congrArg Config.nineBit hmark.1
    -- what SPR has after the first byte
    have hfirst : ((e.writeSpr mark).writeReg .data b).uart.spr =
        if e.cfg.nineBit = true then mark else e.uart.spr := by
      show (e.writeSpr mark).uart.spr = _
      unfold Extension.writeSpr
      split
      · show (Indexed.write .spr mark e.uart).spr = mark
        unfold Indexed.write
        dsimp only
        rw [if_neg hwindow]
      · rfl
    rw [hsame, hfirst] at hspr'
    show (((e.writeSpr mark).writeReg .data b).writeChunk 0 bytes).uart.spr = _
    rw [hspr']
    cases bytes with
    | nil => simp
    | cons b' bytes => by_cases hnine : e.cfg.nineBit = true <;> simp [hnine]

theorem passed_transmit {e : Extension Indexed} (h : Fscc e) (bytes : List UInt8) :
    Passed e (e.amountToWrite.2.writeBytes bytes) ∧
      (e.uart.lcr ≠ 0xbf →
        (e.amountToWrite.2.writeBytes bytes).uart.spr = leftInSpr e.marks bytes) := by
  have hfill : e.amountToWrite.2 = e.fastcomGetTxFifoFillFscc.2 := by
    unfold Extension.amountToWrite Extension.fastcomGetTxFifoSpace
    rw [if_pos h.fifo, h.card]
  rw [hfill]
  obtain ⟨hpassed, hzero⟩ := passed_fill e
  generalize e.fastcomGetTxFifoFillFscc.2 = f at hpassed hzero
  have hflow : f.handFlow = e.handFlow := congrArg Config.handFlow hpassed.cfg
  unfold Extension.writeBytes
  by_cases htoggle : e.handFlow.transmitToggle = true
  · rw [if_pos (by rw [hflow]; exact htoggle)]
    have hset : Unindexed f (f.serialSetRts.addTransmitted bytes.length) :=
      ⟨rfl, rfl, rfl, rfl, rfl⟩
    have hall := hset.trans ((Unindexed.writeTransmitFifo bytes _).trans
      (Unindexed.insertStartTimerLowerRts _))
    refine ⟨⟨hall.cfg.trans hpassed.cfg, hall.lcr.trans hpassed.lcr, hall.lsr.trans hpassed.lsr,
      hall.icr.trans hpassed.icr⟩, fun _ => ?_⟩
    rw [hall.spr, hzero]
    simp [leftInSpr, Extension.marks, htoggle]
  · rw [if_neg (by rw [hflow]; exact htoggle)]
    obtain ⟨hcfg, hlcr, hlsr, hicr, hspr⟩ := writeChunk_indexed 1 bytes (f.addTransmitted bytes.length)
    refine ⟨⟨hcfg.trans hpassed.cfg, hlcr.trans hpassed.lcr, hlsr.trans hpassed.lsr,
      hicr.trans hpassed.icr⟩, fun hwindow => ?_⟩
    have hnine : (f.addTransmitted bytes.length).cfg.nineBit = e.cfg.nineBit :=
      congrArg Config.nineBit hpassed.cfg
    have hspr' : (f.addTransmitted bytes.length).uart.spr = 0 := hzero
    rw [hspr (by
      show f.uart.lcr ≠ 0xbf
      rw [hpassed.lcr]
      exact hwindow), hnine, hspr']
    cases bytes with
    | nil => simp [leftInSpr]
    | cons b bytes =>
      by_cases hnine : e.cfg.nineBit = true <;> simp [leftInSpr, Extension.marks, htoggle, hnine]

/-! ## Undisturbed routines -/

/-- `left` is what the passes since the last selection have left in SPR, if there were any;
`readable` says that there were none since the reads of ICR were enabled. -/
def Undisturbed (marks : Bool) : UInt8 → Option UInt8 → Bool → List Turn → Prop
  | _, _, _, [] => True
  | _, _, readable, .access (.select i) :: s => Undisturbed marks i none readable s
  | selected, left, readable, .access (.write v) :: s =>
    (∀ i ∈ left, i = selected) ∧ Undisturbed marks selected left
      (if selected = acrOffset then v == .acrReadEnable else readable) s
  | selected, left, readable, .access .read :: s =>
    readable = true ∧ Undisturbed marks selected left readable s
  | selected, left, readable, .access _ :: s => Undisturbed marks selected left readable s
  | selected, _, _, .transmit bytes :: s =>
    Undisturbed marks selected (some (leftInSpr marks bytes)) false s

section

variable {m : Bool} {selected : UInt8} {left : Option UInt8} {readable : Bool} {s : List Turn}

@[simp] theorem undisturbed_nil : Undisturbed m selected left readable [] := trivial

@[simp] theorem undisturbed_select {i : UInt8} :
    Undisturbed m selected left readable (.access (.select i) :: s) ↔
      Undisturbed m i none readable s :=
  Iff.rfl

@[simp] theorem undisturbed_write {v : IcrValue} :
    Undisturbed m selected left readable (.access (.write v) :: s) ↔
      (∀ i ∈ left, i = selected) ∧ Undisturbed m selected left
        (if selected = acrOffset then v == .acrReadEnable else readable) s :=
  Iff.rfl

@[simp] theorem undisturbed_read :
    Undisturbed m selected left readable (.access .read :: s) ↔
      readable = true ∧ Undisturbed m selected left readable s :=
  Iff.rfl

@[simp] theorem undisturbed_saveLcr :
    Undisturbed m selected left readable (.access .saveLcr :: s) ↔
      Undisturbed m selected left readable s :=
  Iff.rfl

@[simp] theorem undisturbed_clearLcr :
    Undisturbed m selected left readable (.access .clearLcr :: s) ↔
      Undisturbed m selected left readable s :=
  Iff.rfl

@[simp] theorem undisturbed_restoreLcr :
    Undisturbed m selected left readable (.access .restoreLcr :: s) ↔
      Undisturbed m selected left readable s :=
  Iff.rfl

@[simp] theorem undisturbed_setRs485 {enable : Bool} :
    Undisturbed m selected left readable (.access (.setRs485 enable) :: s) ↔
      Undisturbed m selected left readable s :=
  Iff.rfl

@[simp] theorem undisturbed_transmit {bytes : List UInt8} :
    Undisturbed m selected left readable (.transmit bytes :: s) ↔
      Undisturbed m selected (some (leftInSpr m bytes)) false s :=
  Iff.rfl

end

/-- Where a routine is: the window is open while LCR is cleared, and something may be selected. -/
inductive Phase
  | outside
  | window (selected : Option UInt8)
  | closed
  deriving DecidableEq

/-- The routines access the indexed registers in the window, after a selection; ACR is written its
shadow only, and it is not read. -/
def Proper : Phase → List Access → Prop
  | _, [] => True
  | .outside, .saveLcr :: l => Proper .outside l
  | .outside, .clearLcr :: l => Proper (.window none) l
  | .window _, .select i :: l => Proper (.window (some i)) l
  | .window (some i), .write (.value _) :: l => i ≠ acrOffset ∧ Proper (.window (some i)) l
  | .window (some i), .write _ :: l => i = acrOffset ∧ Proper (.window (some i)) l
  | .window (some i), .read :: l => i ≠ acrOffset ∧ Proper (.window (some i)) l
  | .window i, .setRs485 _ :: l => Proper (.window i) l
  | .window _, .restoreLcr :: l => Proper .closed l
  | _, _ => False

theorem Routine.proper (r : Routine) : Proper .outside r.accesses := by
  cases r <;> simp only [Routine.accesses] <;> (repeat' split) <;>
    simp [Proper, inWindow, store, fetch, withReadEnable, acrOffset, tcrOffset, ttlOffset, rtlOffset,
      mdmOffset, cksOffset, extOffset, exthOffset, flrOffset, nmrOffset]

/-- What a routine computes with, besides SPR and ACR. -/
@[ext] structure Core where
  icr : UInt8 → UInt8
  lcr : UInt8
  acr : UInt8
  origLcr : UInt8
  got : List UInt8

def Running.core (x : Running) : Core where
  icr := Function.update x.port.uart.icr acrOffset 0
  lcr := x.port.uart.lcr
  acr := x.port.cfg.acr
  origLcr := x.origLcr
  got := x.got

/-- The routine by itself. -/
def ideal : UInt8 → List Access → Core → Core
  | _, [], c => c
  | i, .saveLcr :: l, c => ideal i l { c with origLcr := c.lcr }
  | i, .clearLcr :: l, c => ideal i l { c with lcr := 0 }
  | _, .select i :: l, c => ideal i l c
  | i, .write (.value v) :: l, c => ideal i l { c with icr := Function.update c.icr i v }
  | i, .write _ :: l, c => ideal i l c
  | i, .read :: l, c => ideal i l { c with got := c.got ++ [c.icr i] }
  | i, .setRs485 true :: l, c => ideal i l { c with acr := c.acr ||| 0x10 }
  | i, .setRs485 false :: l, c => ideal i l { c with acr := c.acr &&& ~~~0x10 }
  | i, .restoreLcr :: l, c => ideal i l { c with lcr := c.origLcr }

/-- The port agrees with what is known about the selection. -/
structure Tracks (m : Bool) (ph : Phase) (index : UInt8) (left : Option UInt8)
    (enabled : Bool) (x : Running) : Prop where
  fscc : Fscc x.port
  marks : x.port.marks = m
  window : ∀ i, ph = .window i → x.port.uart.lcr = 0
  selected : ∀ i, ph = .window (some i) →
    index = i ∧ x.selected = i ∧ x.port.uart.spr = left.getD i
  readable : enabled = true → has (x.port.uart.icr acrOffset) 0x40 = true
  fresh : enabled = true → ∀ i ∈ left, i = index

/-- What a write to ICR stores while ACR has the shadow `shadow`. -/
def IcrValue.eval (shadow : UInt8) : IcrValue → UInt8
  | .value v => v
  | .acr => shadow
  | .acrReadEnable => shadow ||| 0x40

/-- `pDevExt->ACR` after an access. -/
def Access.shadow : Access → UInt8 → UInt8
  | .setRs485 true, acr => acr ||| 0x10
  | .setRs485 false, acr => acr &&& ~~~0x10
  | _, acr => acr

/-- The register ACR: each pass of the ISR writes the shadow there. -/
def acrAfter : UInt8 → UInt8 → UInt8 → List Turn → UInt8
  | _, _, acr, [] => acr
  | i, shadow, _, .transmit _ :: s => acrAfter i shadow shadow s
  | _, shadow, acr, .access (.select i) :: s => acrAfter i shadow acr s
  | i, shadow, acr, .access (.write v) :: s =>
    acrAfter i shadow (if i = acrOffset then v.eval shadow else acr) s
  | i, shadow, acr, .access a :: s => acrAfter i (a.shadow shadow) acr s

section
variable {m readable : Bool} {selected : UInt8} {left : Option UInt8} {ph : Phase} {x : Running}

theorem Tracks.transmit (h : Tracks m ph selected left readable x) (bytes : List UInt8) :
    Tracks m ph selected (some (leftInSpr m bytes)) false ((Turn.transmit bytes).run x) ∧
      ((Turn.transmit bytes).run x).core = x.core ∧
      ((Turn.transmit bytes).run x).port.uart.icr acrOffset = x.port.cfg.acr := by
  obtain ⟨hpassed, hspr⟩ := passed_transmit h.fscc bytes
  have hmarks : ((Turn.transmit bytes).run x).port.marks = x.port.marks := by
    show Extension.marks _ = _
    unfold Extension.marks Extension.handFlow
    rw [show ((Turn.transmit bytes).run x).port.cfg = x.port.cfg from hpassed.cfg]
  refine ⟨⟨⟨?_, ?_⟩, hmarks.trans h.marks, fun i hi => hpassed.lcr.trans (h.window i hi),
    fun i hi => ?_, nofun, nofun⟩, ?_⟩
  · exact (congrArg Config.cardType hpassed.cfg).trans h.fscc.card
  · exact (congrArg Config.fifoPresent hpassed.cfg).trans h.fscc.fifo
  · obtain ⟨hsel, hsel', -⟩ := h.selected i hi
    refine ⟨hsel, hsel', ?_⟩
    rw [← h.marks]
    exact hspr (by rw [h.window _ hi]; decide)
  · refine ⟨Core.ext ?_ hpassed.lcr (congrArg Config.acr hpassed.cfg) rfl rfl, ?_⟩
    · show Function.update ((Turn.transmit bytes).run x).port.uart.icr acrOffset 0 = _
      have hicr : ((Turn.transmit bytes).run x).port.uart.icr = _ := hpassed.icr
      rw [hicr, Function.update_idem]
      rfl
    · show (x.port.amountToWrite.2.writeBytes bytes).uart.icr acrOffset = _
      rw [hpassed.icr, Function.update_self]

theorem Tracks.select (h : Tracks m (.window i) selected left readable x) (j : UInt8) :
    Tracks m (.window (some j)) j none readable ((Access.select j).run x) ∧
      ((Access.select j).run x).core = x.core ∧
      ((Access.select j).run x).port.uart.icr acrOffset = x.port.uart.icr acrOffset := by
  have hlcr := h.window i rfl
  have huart : ((Access.select j).run x).port.uart = { x.port.uart with spr := j } := by
    show Indexed.write .spr j x.port.uart = _
    unfold Indexed.write
    dsimp only
    rw [if_neg (by rw [hlcr]; decide)]
  refine ⟨⟨⟨h.fscc.card, h.fscc.fifo⟩, h.marks, fun i' _ => ?_, fun j' hj => ?_, ?_, nofun⟩, ?_⟩
  · rw [huart]
    exact hlcr
  · cases hj
    exact ⟨rfl, rfl, by rw [huart]; rfl⟩
  · rw [huart]
    exact h.readable
  · unfold Running.core
    rw [huart]
    exact ⟨rfl, rfl⟩

theorem uart_write {v : IcrValue} (hlcr : x.port.uart.lcr = 0) :
    ((Access.write v).run x).port.uart =
      { x.port.uart with icr := Function.update x.port.uart.icr x.port.uart.spr (x.port.icrValue v) } := by
  show Indexed.write .lsr (x.port.icrValue v) x.port.uart = _
  unfold Indexed.write
  dsimp only
  rw [if_neg (by rw [hlcr]; decide)]

/-- A register other than ACR is written. -/
theorem Tracks.write (h : Tracks m (.window (some i)) selected left readable x) (hi : i ≠ acrOffset)
    (hleft : ∀ j ∈ left, j = selected) (v : UInt8) :
    Tracks m (.window (some i)) selected left readable ((Access.write (.value v)).run x) ∧
      ((Access.write (.value v)).run x).core =
        { x.core with icr := Function.update x.core.icr selected v } ∧
      ((Access.write (.value v)).run x).stray = x.stray ∧
      ((Access.write (.value v)).run x).port.uart.icr acrOffset = x.port.uart.icr acrOffset := by
  obtain ⟨hsel, hsel', hspr⟩ := h.selected i rfl
  have hlcr := h.window _ rfl
  have hspr' : x.port.uart.spr = i := by
    rw [hspr]
    cases hl : left with
    | none => rfl
    | some j => exact (hleft j hl).trans hsel
  have huart := uart_write (v := .value v) hlcr
  rw [hspr'] at huart
  have hother : Function.update x.port.uart.icr i v acrOffset = x.port.uart.icr acrOffset :=
    Function.update_of_ne hi.symm v x.port.uart.icr
  refine ⟨⟨⟨h.fscc.card, h.fscc.fifo⟩, h.marks, fun _ _ => ?_, fun j hj => ?_, fun hr => ?_,
    fun _ => hleft⟩, ?_, ?_⟩
  · rw [huart]
    exact hlcr
  · cases hj
    exact ⟨hsel, hsel', by rw [huart]; exact hspr⟩
  · rw [huart]
    show has (Function.update x.port.uart.icr i v acrOffset) 0x40 = true
    rw [hother]
    exact h.readable hr
  · refine Core.ext ?_ (by rw [Running.core, huart]; rfl) rfl rfl rfl
    show Function.update ((Access.write (.value v)).run x).port.uart.icr acrOffset 0 = _
    rw [huart, hsel]
    exact Function.update_comm hi v 0 x.port.uart.icr
  · refine ⟨?_, ?_⟩
    · show (x.stray || x.port.uart.spr != x.selected) = x.stray
      rw [hspr', hsel']
      simp
    · rw [huart]
      exact hother

/-- ACR is written. -/
theorem Tracks.writeAcr (h : Tracks m (.window (some acrOffset)) selected left readable x)
    (hleft : ∀ j ∈ left, j = selected) (v : IcrValue) :
    Tracks m (.window (some acrOffset)) selected left (v == .acrReadEnable) ((Access.write v).run x) ∧
      ((Access.write v).run x).core = x.core ∧ ((Access.write v).run x).stray = x.stray ∧
        ((Access.write v).run x).port.uart.icr acrOffset = x.port.icrValue v := by
  obtain ⟨hsel, hsel', hspr⟩ := h.selected _ rfl
  have hlcr := h.window _ rfl
  have hspr' : x.port.uart.spr = acrOffset := by
    rw [hspr]
    cases hl : left with
    | none => rfl
    | some j => exact (hleft j hl).trans hsel
  have huart := uart_write (v := v) hlcr
  rw [hspr'] at huart
  have hacr : ((Access.write v).run x).port.uart.icr acrOffset = x.port.icrValue v := by
    rw [huart]
    exact Function.update_self acrOffset _ x.port.uart.icr
  refine ⟨⟨⟨h.fscc.card, h.fscc.fifo⟩, h.marks, fun _ _ => ?_, fun j hj => ?_, fun hr => ?_,
    fun _ => hleft⟩, ?_, ?_, hacr⟩
  · rw [huart]
    exact hlcr
  · cases hj
    exact ⟨hsel, hsel', by rw [huart]; exact hspr⟩
  · rw [hacr, eq_of_beq hr]
    exact has_or_self x.port.cfg.acr (by decide)
  · refine Core.ext ?_ (by rw [Running.core, huart]; rfl) rfl rfl rfl
    show Function.update ((Access.write v).run x).port.uart.icr acrOffset 0 = _
    rw [huart]
    exact Function.update_idem _ _ x.port.uart.icr
  · show (x.stray || x.port.uart.spr != x.selected) = x.stray
    rw [hspr', hsel']
    simp

theorem Tracks.read (h : Tracks m (.window (some i)) selected left true x) (hi : i ≠ acrOffset) :
    (Access.read.run x).core = { x.core with got := x.core.got ++ [x.core.icr selected] } := by
  obtain ⟨hsel, -, hspr⟩ := h.selected i rfl
  have hspr' : x.port.uart.spr = i := by
    rw [hspr]
    cases hl : left with
    | none => rfl
    | some j => exact (h.fresh rfl j hl).trans hsel
  have hread : (x.port.readReg .lsr).1 = x.port.uart.icr i := by
    show (if has (x.port.uart.icr acrOffset) 0x40 then x.port.uart.icr x.port.uart.spr
      else x.port.uart.lsr) = _
    rw [if_pos (h.readable rfl), hspr']
  have hcore : x.core.icr selected = x.port.uart.icr i := by
    rw [hsel]
    exact Function.update_of_ne hi 0 x.port.uart.icr
  show Running.core { x with got := x.got ++ [(x.port.readReg .lsr).1] } = _
  rw [hread, hcore]
  rfl

theorem runTurns_cons (t : Turn) (s : List Turn) (x : Running) :
    runTurns (t :: s) x = runTurns s (t.run x) := rfl

/-- **Undisturbed runs.** The passes of the ISR make no difference to the routine, and no value
goes astray. -/
theorem core_runTurns {s : List Turn} (hproper : Proper ph (accesses s))
    (ht : Tracks m ph selected left readable x) (hu : Undisturbed m selected left readable s) :
    (runTurns s x).core = ideal selected (accesses s) x.core ∧ (runTurns s x).stray = x.stray ∧
      (runTurns s x).port.uart.icr acrOffset =
        acrAfter selected x.port.cfg.acr (x.port.uart.icr acrOffset) s := by
  induction s generalizing ph selected left readable x with
  | nil => exact ⟨rfl, rfl, rfl⟩
  | cons t s ih =>
    rw [runTurns_cons]
    -- what the rest makes of the state after this turn
    have hgo (y : Running) (ph' : Phase) {i : UInt8} {left' : Option UInt8} {readable' : Bool}
        (hproper' : Proper ph' (accesses s)) (ht' : Tracks m ph' i left' readable' y)
        (hu' : Undisturbed m i left' readable' s) (hstray : y.stray = x.stray)
        {c : Core} (hcore : y.core = c) {acr : UInt8} (hacr : y.port.uart.icr acrOffset = acr) :
        (runTurns s y).core = ideal i (accesses s) c ∧ (runTurns s y).stray = x.stray ∧
          (runTurns s y).port.uart.icr acrOffset = acrAfter i c.acr acr s := by
      obtain ⟨hrest, hstray', hacr'⟩ := ih hproper' ht' hu'
      subst hcore hacr
      exact ⟨hrest, hstray'.trans hstray, hacr'⟩
    cases t with
    | transmit bytes =>
      obtain ⟨ht', hcore, hacr⟩ := ht.transmit bytes
      exact hgo _ _ hproper ht' hu rfl hcore hacr
    | access a =>
      -- the routine goes on: one case for each access that is proper in this phase
      cases a with
      | saveLcr =>
        cases ph with
        | outside =>
          exact hgo (Access.saveLcr.run x) .outside hproper
            ⟨ht.fscc, ht.marks, nofun, nofun, ht.readable, ht.fresh⟩ hu rfl rfl rfl
        | _ => exact hproper.elim
      | clearLcr =>
        cases ph with
        | outside =>
          exact hgo (Access.clearLcr.run x) (.window none) hproper ⟨⟨ht.fscc.card, ht.fscc.fifo⟩, ht.marks,
            fun _ _ => rfl, nofun, ht.readable, ht.fresh⟩ hu rfl rfl rfl
        | _ => exact hproper.elim
      | select j =>
        cases ph with
        | window i =>
          obtain ⟨ht', hcore, hacr⟩ := ht.select j
          exact hgo _ _ hproper ht' hu rfl hcore hacr
        | _ => exact hproper.elim
      | write v =>
        cases ph with
        | window i =>
          cases i with
          | none => cases v <;> exact hproper.elim
          | some i =>
            obtain ⟨hsel, -, -⟩ := ht.selected i rfl
            have hleft := hu.1
            have hu' := hu.2
            unfold acrAfter
            cases v with
            | value v =>
              have hother : selected ≠ acrOffset := hsel ▸ hproper.1
              rw [if_neg hother] at hu' ⊢
              obtain ⟨ht', hcore, hstray, hacr⟩ := ht.write hproper.1 hleft v
              exact hgo _ _ hproper.2 ht' hu' hstray hcore hacr
            | acr =>
              have hi := hproper.1
              subst hi
              rw [if_pos hsel] at hu' ⊢
              obtain ⟨ht', hcore, hstray, hacr⟩ := ht.writeAcr hleft .acr
              exact hgo _ _ hproper.2 ht' hu' hstray hcore hacr
            | acrReadEnable =>
              have hi := hproper.1
              subst hi
              rw [if_pos hsel] at hu' ⊢
              obtain ⟨ht', hcore, hstray, hacr⟩ := ht.writeAcr hleft .acrReadEnable
              exact hgo _ _ hproper.2 ht' hu' hstray hcore hacr
        | _ => cases v <;> exact hproper.elim
      | read =>
        cases ph with
        | window i =>
          cases i with
          | none => exact hproper.elim
          | some i =>
            obtain ⟨hreadable, hu'⟩ := hu
            subst hreadable
            exact hgo (Access.read.run x) _ hproper.2
              ⟨ht.fscc, ht.marks, ht.window, ht.selected, ht.readable, ht.fresh⟩ hu' rfl
              (ht.read hproper.1) rfl
        | _ => exact hproper.elim
      | setRs485 b =>
        cases ph with
        | window i =>
          cases b with
          | true =>
            exact hgo ((Access.setRs485 true).run x) (.window i) hproper ⟨⟨ht.fscc.card,
              ht.fscc.fifo⟩, ht.marks, ht.window, ht.selected, ht.readable, ht.fresh⟩ hu rfl rfl rfl
          | false =>
            exact hgo ((Access.setRs485 false).run x) (.window i) hproper ⟨⟨ht.fscc.card,
              ht.fscc.fifo⟩, ht.marks, ht.window, ht.selected, ht.readable, ht.fresh⟩ hu rfl rfl rfl
        | _ => cases b <;> exact hproper.elim
      | restoreLcr =>
        cases ph with
        | window i =>
          exact hgo (Access.restoreLcr.run x) .closed hproper ⟨⟨ht.fscc.card, ht.fscc.fifo⟩, ht.marks, nofun, nofun,
            ht.readable, ht.fresh⟩ hu rfl rfl rfl
        | _ => exact hproper.elim

end

/-! ## The register ACR -/

/-- The access has nothing to do with ACR. -/
def Access.leavesAcr : Access → Bool
  | .write .acr | .write .acrReadEnable | .setRs485 _ => false
  | _ => true

/-- A routine that has nothing to do with ACR leaves it to the passes. -/
theorem acrAfter_of_leavesAcr {s : List Turn} {p : Phase} {i shadow c : UInt8}
    (hproper : Proper p (accesses s)) (hi : ∀ j, p = .window (some j) → i = j)
    (h : ∀ a ∈ accesses s, a.leavesAcr = true) :
    acrAfter i shadow c s = if passes s = [] then c else shadow := by
  induction s generalizing p i c with
  | nil => rfl
  | cons t s ih =>
    cases t with
    -- a transmit interrupt writes the shadow, whatever ACR had
    | transmit bytes =>
      have hrest := ih (c := shadow) hproper hi h
      show acrAfter i shadow shadow s = _
      rw [hrest, ite_self, if_neg (by simp [passes, Turn.access?])]
    | access a =>
      have hleaves : a.leavesAcr = true := h a (List.mem_cons_self ..)
      have hrest : ∀ b ∈ accesses s, b.leavesAcr = true := fun b hb => h b (List.mem_cons_of_mem _ hb)
      show acrAfter i shadow c (.access a :: s) = if passes s = [] then c else shadow
      cases a with
      | saveLcr =>
        cases p with
        | outside => exact ih (p := .outside) hproper nofun hrest
        | _ => exact hproper.elim
      | clearLcr =>
        cases p with
        | outside => exact ih (p := .window none) hproper nofun hrest
        | _ => exact hproper.elim
      | select j =>
        cases p with
        | window k => exact ih (p := .window (some j)) hproper (fun _ hj => by cases hj; rfl) hrest
        | _ => exact hproper.elim
      -- the one write that can change ACR is excluded by `leavesAcr`
      | write v =>
        cases p with
        | window k =>
          cases k with
          | none => cases v <;> exact hproper.elim
          | some k =>
            cases v with
            | value v =>
              unfold acrAfter
              rw [if_neg (by rw [hi k rfl]; exact hproper.1)]
              exact ih (p := .window (some k)) hproper.2 hi hrest
            | _ => cases hleaves
        | _ => cases v <;> exact hproper.elim
      | read =>
        cases p with
        | window k =>
          cases k with
          | none => exact hproper.elim
          | some k => exact ih (p := .window (some k)) hproper.2 hi hrest
        | _ => exact hproper.elim
      | setRs485 b => cases hleaves
      | restoreLcr =>
        cases p with
        | window k => exact ih (p := .closed) hproper nofun hrest
        | _ => exact hproper.elim

def Access.selects : Access → UInt8 → UInt8
  | .select i, _ => i
  | _, i => i

/-- What is selected, and what the shadow is, after some accesses. -/
def selectedAfter (i : UInt8) (l : List Access) : UInt8 := l.foldl (fun i a => a.selects i) i

def shadowAfter (c : UInt8) (l : List Access) : UInt8 := l.foldl (fun c a => a.shadow c) c

theorem acrAfter_append (s t : List Turn) (i shadow acr : UInt8) :
    acrAfter i shadow acr (s ++ t) = acrAfter (selectedAfter i (accesses s))
      (shadowAfter shadow (accesses s)) (acrAfter i shadow acr s) t := by
  induction s generalizing i shadow acr with
  | nil => rfl
  | cons x s ih =>
    cases x with
    | transmit bytes => exact ih i shadow shadow
    | access a => cases a <;> exact ih _ _ _

/-- Nothing but passes and the end of the window. -/
theorem acrAfter_settled {s : List Turn} (h : ∀ a ∈ accesses s, a = .restoreLcr) (i shadow : UInt8) :
    acrAfter i shadow shadow s = shadow := by
  induction s with
  | nil => rfl
  | cons x s ih =>
    cases x with
    | transmit bytes => exact ih h
    | access a =>
      cases h a (List.mem_cons_self ..)
      exact ih fun b hb => h b (List.mem_cons_of_mem _ hb)

/-- A routine that writes ACR back at its end leaves it with the shadow. -/
theorem acrAfter_of_restores {s : List Turn} {l : List Access} {i shadow acr : UInt8}
    (hs : accesses s = l ++ [.write .acr, .restoreLcr]) (hl : selectedAfter i l = acrOffset) :
    acrAfter i shadow acr s = shadowAfter shadow (accesses s) := by
  obtain ⟨s₁, s₂, rfl, hs₁, hs₂⟩ := List.filterMap_eq_append_iff.mp hs
  obtain ⟨s₃, t, s₄, rfl, hnone, ht, hs₄⟩ := List.filterMap_eq_cons_iff.mp hs₂
  have hs₃ : accesses s₃ = [] := List.filterMap_eq_nil_iff.mpr hnone
  cases t with
  | transmit bytes => cases ht
  | access a =>
    cases ht
    have hs₁' : accesses s₁ = l := hs₁
    have hs₄' : accesses s₄ = [.restoreLcr] := hs₄
    rw [acrAfter_append, acrAfter_append, hs₁', hs₃, hs]
    show acrAfter (selectedAfter i l) (shadowAfter shadow l) _ (.access (.write .acr) :: s₄) = _
    unfold acrAfter
    rw [if_pos hl]
    show acrAfter _ (shadowAfter shadow l) (shadowAfter shadow l) s₄ = _
    rw [acrAfter_settled (fun a ha => by rw [hs₄'] at ha; exact List.mem_singleton.mp ha)]
    simp [shadowAfter, Access.shadow]

theorem Routine.acr (r : Routine) : (∀ a ∈ r.accesses, a.leavesAcr = true) ∨
    ∃ l, r.accesses = l ++ [.write .acr, .restoreLcr] ∧ selectedAfter 0 l = acrOffset := by
  have hread (body : List Access) : ∃ l,
      inWindow (withReadEnable body) = l ++ [.write .acr, .restoreLcr] ∧
        selectedAfter 0 l = acrOffset :=
    ⟨[.saveLcr, .clearLcr, .select acrOffset, .write .acrReadEnable] ++ body ++ [.select acrOffset],
      by simp [inWindow, withReadEnable], by simp [selectedAfter, Access.selects]⟩
  cases r with
  | getTxTrigger => exact Or.inr (hread _)
  | getRxTrigger => exact Or.inr (hread _)
  | getIsochronous => exact Or.inr (hread _)
  | getExternalTransmit => exact Or.inr (hread _)
  | get9Bit => exact Or.inr (hread _)
  | setRs485 enable =>
    exact Or.inr ⟨[.saveLcr, .clearLcr, .select acrOffset, .setRs485 enable], rfl, rfl⟩
  | getFrameLength frev =>
    by_cases hfrev : frev < 0x20
    · refine Or.inl ?_
      rw [Routine.accesses, if_pos hfrev]
      simp [Access.leavesAcr]
    · rw [Routine.accesses, if_neg hfrev]
      exact Or.inr (hread _)
  | _ =>
    refine Or.inl ?_
    simp only [Routine.accesses]
    (repeat' split) <;> simp [inWindow, store, Access.leavesAcr]

/-! ## One after the other -/

/-- All passes of the ISR first, and then the routine. -/
def passesFirst (s : List Turn) : List Turn := passes s ++ (accesses s).map Turn.access

/-- The routine first, and then all passes of the ISR. -/
def routineFirst (s : List Turn) : List Turn := (accesses s).map Turn.access ++ passes s

theorem accesses_passes (s : List Turn) : accesses (passes s) = [] := by
  refine List.filterMap_eq_nil_iff.mpr fun t ht => ?_
  simpa using (List.mem_filter.mp ht).2

theorem accesses_map (l : List Access) : accesses (l.map Turn.access) = l := by
  induction l with
  | nil => rfl
  | cons a l ih => exact congrArg (a :: ·) ih

theorem passes_map (l : List Access) : passes (l.map Turn.access) = [] := by
  refine List.filter_eq_nil_iff.mpr fun t ht => ?_
  obtain ⟨a, -, rfl⟩ := List.mem_map.mp ht
  simp [Turn.access?]

theorem accesses_append (s t : List Turn) : accesses (s ++ t) = accesses s ++ accesses t :=
  List.filterMap_append

theorem passes_append (s t : List Turn) : passes (s ++ t) = passes s ++ passes t :=
  List.filter_append s t

theorem passes_passes (s : List Turn) : passes (passes s) = passes s := by
  simp [passes]

theorem accesses_passesFirst (s : List Turn) : accesses (passesFirst s) = accesses s := by
  rw [passesFirst, accesses_append, accesses_passes, accesses_map, List.nil_append]

theorem accesses_routineFirst (s : List Turn) : accesses (routineFirst s) = accesses s := by
  rw [routineFirst, accesses_append, accesses_passes, accesses_map, List.append_nil]

theorem passes_passesFirst (s : List Turn) : passes (passesFirst s) = passes s := by
  rw [passesFirst, passes_append, passes_passes, passes_map, List.append_nil]

/-- By itself no routine is disturbed, whatever came before. -/
theorem Routine.undisturbed (r : Routine) (m : Bool) (i : UInt8) (left : Option UInt8)
    (readable : Bool) : Undisturbed m i left readable (r.accesses.map Turn.access) := by
  cases r <;> simp only [Routine.accesses] <;> (repeat' split) <;>
    simp [inWindow, store, fetch, withReadEnable, acrOffset, ttlOffset,
      rtlOffset, cksOffset, extOffset, exthOffset, flrOffset, nmrOffset]

theorem undisturbed_passes_append {m : Bool} {s t : List Turn} {i : UInt8}
    (h : ∀ left readable, Undisturbed m i left readable t) (left : Option UInt8) (readable : Bool) :
    Undisturbed m i left readable (passes s ++ t) := by
  induction s generalizing left readable with
  | nil => exact h left readable
  | cons x s ih =>
    cases x with
    | transmit bytes => exact ih (some (leftInSpr m bytes)) false
    | access a => exact ih left readable

theorem undisturbed_passes {m : Bool} (s : List Turn) (i : UInt8) (left : Option UInt8)
    (readable : Bool) : Undisturbed m i left readable (passes s) := by
  have hpasses := undisturbed_passes_append (s := s) (t := []) (i := i) (m := m)
    (fun _ _ => trivial) left readable
  rwa [List.append_nil] at hpasses

theorem undisturbed_append {m : Bool} {s t : List Turn}
    (ht : ∀ i left readable, Undisturbed m i left readable t) {i : UInt8} {left : Option UInt8}
    {readable : Bool} (h : Undisturbed m i left readable s) :
    Undisturbed m i left readable (s ++ t) := by
  induction s generalizing i left readable with
  | nil => exact ht i left readable
  | cons x s ih =>
    cases x with
    | transmit bytes => exact ih h
    | access a =>
      cases a with
      | write v => exact ⟨h.1, ih h.2⟩
      | read => exact ⟨h.1, ih h.2⟩
      | _ => exact ih h

/-- The registers, the shadow of ACR and what the routine returns are the same. -/
structure Agrees (r : Routine) (x y : Running) : Prop where
  icr : x.port.uart.icr = y.port.uart.icr
  lcr : x.port.uart.lcr = y.port.uart.lcr
  acr : x.port.cfg.acr = y.port.cfg.acr
  value : r.value x.got = r.value y.got

/-- Whatever is in the registers, the routine and the passes do what they would do one after the
other, and no value goes to another register than the one its writer has selected. -/
def Serializable (m : Bool) (r : Routine) (s : List Turn) : Prop :=
  ∀ e : Extension Indexed, Fscc e → e.marks = m →
    (Agrees r (runTurns s (.start e)) (runTurns (passesFirst s) (.start e)) ∨
      Agrees r (runTurns s (.start e)) (runTurns (routineFirst s) (.start e))) ∧
        (runTurns s (.start e)).stray = false

theorem tracks_start {e : Extension Indexed} (h : Fscc e) :
    Tracks e.marks .outside 0 none false (.start e) := ⟨h, rfl, nofun, nofun, nofun, nofun⟩

/-- Two undisturbed orders of the same turns agree. -/
theorem agrees_of_undisturbed {r : Routine} {s t : List Turn} {e : Extension Indexed} (h : Fscc e)
    (hs : accesses s = r.accesses) (ht : accesses t = r.accesses) (hpasses : passes t = passes s)
    (hus : Undisturbed e.marks 0 none false s) (hut : Undisturbed e.marks 0 none false t) :
    Agrees r (runTurns s (.start e)) (runTurns t (.start e)) := by
  obtain ⟨hcore, -, hacr⟩ := core_runTurns (by rw [hs]; exact r.proper) (tracks_start h) hus
  obtain ⟨hcore', -, hacr'⟩ := core_runTurns (by rw [ht]; exact r.proper) (tracks_start h) hut
  have hsame : (runTurns s (.start e)).core = (runTurns t (.start e)).core := by
    rw [hcore, hcore', hs, ht]
  have hreg : acrAfter 0 e.cfg.acr (e.uart.icr acrOffset) s =
      acrAfter 0 e.cfg.acr (e.uart.icr acrOffset) t := by
    rcases r.acr with hleaves | ⟨l, hl, hsel⟩
    · have hleft {t : List Turn} (ht : accesses t = r.accesses) :
          acrAfter 0 e.cfg.acr (e.uart.icr acrOffset) t =
            if passes t = [] then e.uart.icr acrOffset else e.cfg.acr :=
        acrAfter_of_leavesAcr (p := .outside) (ht ▸ r.proper) nofun (by rw [ht]; exact hleaves)
      rw [hleft hs, hleft ht, hpasses]
    · rw [acrAfter_of_restores (hs.trans hl) hsel, acrAfter_of_restores (ht.trans hl) hsel, hs, ht]
  refine ⟨?_, congrArg Core.lcr hsame, congrArg Core.acr hsame,
    congrArg (fun c => r.value c.got) hsame⟩
  funext i
  by_cases hi : i = acrOffset
  · subst hi
    exact hacr.trans (hreg.trans hacr'.symm)
  · have hicr := congrFun (congrArg Core.icr hsame) i
    have hx : (runTurns s (.start e)).core.icr i = (runTurns s (.start e)).port.uart.icr i :=
      Function.update_of_ne hi 0 _
    have hy : (runTurns t (.start e)).core.icr i = (runTurns t (.start e)).port.uart.icr i :=
      Function.update_of_ne hi 0 _
    rw [← hx, ← hy, hicr]

theorem serializable_of_undisturbed {m : Bool} {r : Routine} {s : List Turn}
    (hs : accesses s = r.accesses) (h : Undisturbed m 0 none false s) : Serializable m r s := by
  rintro e hfscc rfl
  refine ⟨Or.inl ?_, ?_⟩
  · refine agrees_of_undisturbed hfscc hs ((accesses_passesFirst s).trans hs) (passes_passesFirst s)
      h ?_
    unfold passesFirst
    rw [hs]
    exact undisturbed_passes_append (r.undisturbed _ 0) none false
  · exact (core_runTurns (by rw [hs]; exact r.proper) (tracks_start hfscc) h).2.1

/-! ## Disturbed routines -/

theorem stray_of_run (t : Turn) {x : Running} (h : x.stray = true) : (t.run x).stray = true := by
  cases t with
  | transmit bytes => exact h
  | access a =>
    cases a with
    | write v =>
      show (x.stray || _) = true
      rw [h, Bool.true_or]
    | setRs485 b => cases b <;> exact h
    | _ => exact h

/-- What has gone astray stays astray. -/
theorem stray_runTurns (s : List Turn) {x : Running} (h : x.stray = true) :
    (runTurns s x).stray = true := by
  induction s generalizing x with
  | nil => exact h
  | cons t s ih => exact ih (stray_of_run t h)

theorem got_of_run (t : Turn) {x : Running} {b : UInt8} (h : b ∈ x.got) : b ∈ (t.run x).got := by
  cases t with
  | transmit bytes => exact h
  | access a =>
    cases a with
    | read => exact List.mem_append_left _ h
    | setRs485 b => cases b <;> exact h
    | _ => exact h

theorem got_runTurns (s : List Turn) {x : Running} {b : UInt8} (h : b ∈ x.got) :
    b ∈ (runTurns s x).got := by
  induction s generalizing x with
  | nil => exact h
  | cons t s ih => exact ih (got_of_run t h)

/-- One byte for each read. -/
theorem length_got_runTurns (s : List Turn) (x : Running) :
    (runTurns s x).got.length = x.got.length + (accesses s).count .read := by
  induction s generalizing x with
  | nil => rfl
  | cons t s ih =>
    rw [runTurns_cons, ih]
    cases t with
    | transmit bytes => rfl
    | access a =>
      show _ = _ + (a :: accesses s).count .read
      cases a with
      | read =>
        rw [List.count_cons_self]
        show (x.got ++ [_]).length + _ = _
        rw [List.length_append]
        simp only [List.length_singleton]
        omega
      | setRs485 b => cases b <;> rw [List.count_cons_of_ne (by decide)] <;> rfl
      | _ => rw [List.count_cons_of_ne (by simp)]; rfl

/-- LSR shows `0x01`, and reads of ICR are enabled by the routine only. -/
structure Shown (enabled : Bool) (x : Running) : Prop where
  lsr : x.port.uart.lsr = 0x01
  acr : x.port.cfg.acr = 0 ∨ x.port.cfg.acr = 0x10
  enabled : has (x.port.uart.icr acrOffset) 0x40 = true → enabled = true

theorem not_readable_of_shadow {acr : UInt8} (h : acr = 0 ∨ acr = 0x10) : has acr 0x40 = false := by
  rcases h with rfl | rfl <;> decide

section
variable {m readable : Bool} {selected : UInt8} {left : Option UInt8} {p : Phase} {x : Running}

theorem Shown.transmit (h : Shown readable x) (hfscc : Fscc x.port) (bytes : List UInt8) :
    Shown false ((Turn.transmit bytes).run x) := by
  obtain ⟨hpassed, -⟩ := passed_transmit hfscc bytes
  refine ⟨hpassed.lsr.trans h.lsr, ?_, fun hbit => ?_⟩
  · show Config.acr (Extension.cfg _) = 0 ∨ Config.acr (Extension.cfg _) = 0x10
    have hcfg : ((Turn.transmit bytes).run x).port.cfg = x.port.cfg := hpassed.cfg
    rw [hcfg]
    exact h.acr
  · have hicr : ((Turn.transmit bytes).run x).port.uart.icr acrOffset = x.port.cfg.acr := by
      show (x.port.amountToWrite.2.writeBytes bytes).uart.icr acrOffset = _
      rw [hpassed.icr, Function.update_self]
    rw [hicr, not_readable_of_shadow h.acr] at hbit
    cases hbit

/-- A value that goes to what a pass has left in SPR goes astray. -/
theorem stray_of_disturbed (h : Tracks m (.window (some i)) selected left readable x) (v : IcrValue)
    (hleft : ¬∀ j ∈ left, j = selected) : ((Access.write v).run x).stray = true := by
  obtain ⟨hsel, hsel', hspr⟩ := h.selected i rfl
  show (x.stray || x.port.uart.spr != x.selected) = true
  cases hl : left with
  | none => exact absurd (fun _ hj => by rw [hl] at hj; cases hj) hleft
  | some j =>
    rw [hl] at hspr hleft
    have hne : j ≠ selected := fun heq => hleft fun _ hk => by cases hk; exact heq
    rw [hspr, hsel', ← hsel]
    simp [hne]

/-- **Disturbed runs.** A value goes astray, or a read shows LSR. -/
theorem disturbed_runTurns {s : List Turn} (hproper : Proper p (accesses s))
    (ht : Tracks m p selected left readable x) (hshown : Shown readable x) :
    (runTurns s x).stray = true ∨ Undisturbed m selected left readable s ∨
      0x01 ∈ (runTurns s x).got := by
  -- one turn of the port at a time, the driver's or the chip's, from wherever in its routine it is
  induction s generalizing p selected left readable x with
  | nil => exact Or.inr (Or.inl trivial)
  | cons t s ih =>
    rw [runTurns_cons]
    cases t with
    | transmit bytes =>
      exact ih hproper (ht.transmit bytes).1 (hshown.transmit ht.fscc bytes)
    | access a =>
      cases a with
      | saveLcr =>
        cases p with
        | outside =>
          exact ih (x := Access.saveLcr.run x) (p := .outside) hproper
            ⟨ht.fscc, ht.marks, nofun, nofun, ht.readable, ht.fresh⟩ ⟨hshown.lsr, hshown.acr, hshown.enabled⟩
        | _ => exact hproper.elim
      | clearLcr =>
        cases p with
        | outside =>
          exact ih (x := Access.clearLcr.run x) (p := .window none) hproper
            ⟨⟨ht.fscc.card, ht.fscc.fifo⟩, ht.marks, fun _ _ => rfl, nofun, ht.readable, ht.fresh⟩
            ⟨hshown.lsr, hshown.acr, hshown.enabled⟩
        | _ => exact hproper.elim
      | select j =>
        cases p with
        | window i =>
          obtain ⟨ht', hcore, hacr⟩ := ht.select j
          have hlsr : ((Access.select j).run x).port.uart.lsr = x.port.uart.lsr := by
            show (Indexed.write .spr j x.port.uart).lsr = _
            unfold Indexed.write
            dsimp only
            split <;> rfl
          exact ih (x := (Access.select j).run x) hproper ht'
            ⟨hlsr.trans hshown.lsr, hshown.acr, by rw [hacr]; exact hshown.enabled⟩
        | _ => exact hproper.elim
      | write v =>
        cases p with
        | window i =>
          cases i with
          | none => cases v <;> exact hproper.elim
          | some i =>
            obtain ⟨hsel, -, -⟩ := ht.selected i rfl
            -- did the last value of SPR that the chip was told stay the driver's?
            by_cases hleft : ∀ j ∈ left, j = selected
            · have hlsr : ((Access.write v).run x).port.uart.lsr = x.port.uart.lsr := by
                rw [uart_write (ht.window _ rfl)]
              rw [undisturbed_write]
              cases v with
              | value v =>
                have hother : selected ≠ acrOffset := hsel ▸ hproper.1
                obtain ⟨ht', -, -, hacr⟩ := ht.write hproper.1 hleft v
                rw [if_neg hother]
                have hrest := ih hproper.2 ht'
                  ⟨hlsr.trans hshown.lsr, hshown.acr, by rw [hacr]; exact hshown.enabled⟩
                exact hrest.imp_right (Or.imp_left fun h => ⟨hleft, h⟩)
              | acr =>
                have hi := hproper.1
                subst hi
                obtain ⟨ht', -, -, hacr⟩ := ht.writeAcr hleft .acr
                rw [if_pos hsel]
                have hbit : has (((Access.write .acr).run x).port.uart.icr acrOffset) 0x40 = false := by
                  rw [hacr]
                  exact not_readable_of_shadow hshown.acr
                have hrest := ih hproper.2 ht' ⟨hlsr.trans hshown.lsr, hshown.acr, fun h =>
                  absurd h (by rw [hbit]; nofun)⟩
                exact hrest.imp_right (Or.imp_left fun h => ⟨hleft, h⟩)
              | acrReadEnable =>
                have hi := hproper.1
                subst hi
                obtain ⟨ht', -⟩ := ht.writeAcr hleft .acrReadEnable
                rw [if_pos hsel]
                have hrest := ih hproper.2 ht' ⟨hlsr.trans hshown.lsr, hshown.acr, fun _ => rfl⟩
                exact hrest.imp_right (Or.imp_left fun h => ⟨hleft, h⟩)
            -- the value lands in the register that the transmit interrupt left selected
            · exact Or.inl (stray_runTurns s (stray_of_disturbed ht v hleft))
        | _ => cases v <;> exact hproper.elim
      | read =>
        cases p with
        | window i =>
          cases i with
          | none => exact hproper.elim
          | some i =>
            by_cases hreadable : readable = true
            · have hrest := ih (x := Access.read.run x) hproper.2
                ⟨ht.fscc, ht.marks, ht.window, ht.selected, ht.readable, ht.fresh⟩
                ⟨hshown.lsr, hshown.acr, hshown.enabled⟩
              exact hrest.imp_right (Or.imp_left fun h => ⟨hreadable, h⟩)
            -- reading of the registers is switched off: the driver is shown LSR, which is 0x01
            · have hread : (x.port.readReg .lsr).1 = 0x01 := by
                show (if has (x.port.uart.icr acrOffset) 0x40 then x.port.uart.icr x.port.uart.spr
                  else x.port.uart.lsr) = _
                rw [if_neg fun h => hreadable (hshown.enabled h), hshown.lsr]
              have hgot : 0x01 ∈ (Access.read.run x).got :=
                List.mem_append_right _ (hread ▸ List.mem_singleton_self _)
              exact Or.inr (Or.inr (got_runTurns s hgot))
        | _ => exact hproper.elim
      | setRs485 b =>
        cases p with
        | window i =>
          -- only the shadow of ACR moves, between its two values
          have hshadow : ((Access.setRs485 b).run x).port.cfg.acr = 0 ∨
              ((Access.setRs485 b).run x).port.cfg.acr = 0x10 := by
            cases b with
            | true =>
              show x.port.cfg.acr ||| 0x10 = 0 ∨ x.port.cfg.acr ||| 0x10 = 0x10
              rcases hshown.acr with h | h <;> rw [h] <;> decide
            | false =>
              show x.port.cfg.acr &&& ~~~0x10 = 0 ∨ x.port.cfg.acr &&& ~~~0x10 = 0x10
              rcases hshown.acr with h | h <;> rw [h] <;> decide
          cases b with
          | true =>
            exact ih (x := (Access.setRs485 true).run x) (p := .window i) hproper
              ⟨⟨ht.fscc.card, ht.fscc.fifo⟩, ht.marks, ht.window, ht.selected, ht.readable, ht.fresh⟩
              ⟨hshown.lsr, hshadow, hshown.enabled⟩
          | false =>
            exact ih (x := (Access.setRs485 false).run x) (p := .window i) hproper
              ⟨⟨ht.fscc.card, ht.fscc.fifo⟩, ht.marks, ht.window, ht.selected, ht.readable, ht.fresh⟩
              ⟨hshown.lsr, hshadow, hshown.enabled⟩
        | _ => cases b <;> exact hproper.elim
      | restoreLcr =>
        cases p with
        | window i =>
          exact ih (x := Access.restoreLcr.run x) (p := .closed) hproper
            ⟨⟨ht.fscc.card, ht.fscc.fifo⟩, ht.marks, nofun, nofun, ht.readable, ht.fresh⟩
            ⟨hshown.lsr, hshown.acr, hshown.enabled⟩
        | _ => exact hproper.elim

end

/-- LSR in the place of a register is not what the register has. -/
theorem value_ne_of_mem {r : Routine} {got : List UInt8} {c : Core} (hicr : ∀ i, c.icr i = 0)
    (hgot : c.got = []) (hlength : got.length = r.accesses.count .read) (hmem : 0x01 ∈ got) :
    r.value got ≠ r.value (ideal 0 r.accesses c).got := by
  have hnone (h : r.accesses.count .read = 0) : False := by
    rw [h, List.length_eq_zero_iff] at hlength
    rw [hlength] at hmem
    cases hmem
  have hone (h : r.accesses.count .read = 1) : got = [0x01] := by
    rw [h, List.length_eq_one_iff] at hlength
    obtain ⟨v, rfl⟩ := hlength
    rw [List.mem_singleton.mp hmem]
  -- a single read of a register that is zero
  have hfetch (i j : UInt8) :
      (ideal j (inWindow (withReadEnable (fetch i))) c).got = [0] := by
    simp [inWindow, withReadEnable, fetch, ideal, hicr, hgot]
  have hcount (i : UInt8) : (inWindow (withReadEnable (fetch i))).count .read = 1 := by
    simp [inWindow, withReadEnable, fetch]
  cases r with
  | getTxTrigger =>
    rw [hone (hcount _), Routine.accesses, hfetch]
    decide
  | getRxTrigger =>
    rw [hone (hcount _), Routine.accesses, hfetch]
    decide
  | getIsochronous =>
    rw [hone (hcount _), Routine.accesses, hfetch]
    decide
  | get9Bit =>
    rw [hone (hcount _), Routine.accesses, hfetch]
    decide
  | getFrameLength frev =>
    by_cases hfrev : frev < 0x20
    · exact absurd (by rw [Routine.accesses, if_pos hfrev]; rfl) hnone
    · have hone' := hone (by rw [Routine.accesses, if_neg hfrev]; exact hcount _)
      rw [hone', Routine.accesses, if_neg hfrev, hfetch]
      show some (2 : Int) ≠ some 1
      decide
  | getExternalTransmit =>
    have hideal : (ideal 0 Routine.getExternalTransmit.accesses c).got = [0, 0] := by
      simp [Routine.accesses, inWindow, withReadEnable, fetch, ideal, hicr, hgot]
    have htwo : Routine.getExternalTransmit.accesses.count .read = 2 := by decide
    rw [htwo, List.length_eq_two] at hlength
    obtain ⟨ext, exth, rfl⟩ := hlength
    rw [hideal]
    intro heq
    have hsum : (exth &&& 0x1f).toNat * 256 + ext.toNat = 0 := by
      have hvalue : ((((exth &&& 0x1f).toNat * 256 + ext.toNat : Nat)) : Int) = (0 : Nat) :=
        Option.some.inj heq
      exact_mod_cast hvalue
    simp only [List.mem_cons, List.not_mem_nil, or_false] at hmem
    rcases hmem with rfl | rfl
    · exact absurd hsum (by simp)
    · exact absurd hsum (by simp)
  | setRs485 enable => exact (hnone rfl).elim
  | set9Bit enable => exact (hnone rfl).elim
  | _ =>
    refine (hnone ?_).elim
    simp only [Routine.accesses]
    (repeat' split) <;> rfl

/-- An FSCC port with all indexed registers zero, while LSR shows a received character. -/
def blankPort (nineBit : Bool) : Extension Indexed :=
  opened ⟨0, 0, fun _ => 0, 0, 0x01, 0⟩ { Config.plain with cardType := .fscc, nineBit := nineBit } 8

theorem undisturbed_of_serializable {m : Bool} {r : Routine} {s : List Turn}
    (hs : accesses s = r.accesses) (h : Serializable m r s) : Undisturbed m 0 none false s := by
  have hfscc : Fscc (blankPort m) := ⟨rfl, rfl⟩
  have hmarks : (blankPort m).marks = m := by cases m <;> rfl
  obtain ⟨hagrees, hstray⟩ := h (blankPort m) hfscc hmarks
  have hproper : Proper .outside (accesses s) := hs ▸ r.proper
  have htracks := tracks_start hfscc
  rw [hmarks] at htracks
  have hshown : Shown false (.start (blankPort m)) := ⟨rfl, Or.inl rfl, fun h =>
    absurd (show has 0 0x40 = true from h) (by decide)⟩
  rcases disturbed_runTurns hproper htracks hshown with hwent | hsafe | hmem
  -- undisturbed is what remains: a stray write would show, and so would LSR in a read
  · exact absurd hwent (by rw [hstray]; nofun)
  · exact hsafe
  · -- one after the other they read zero
    have hlength : (runTurns s (.start (blankPort m))).got.length = r.accesses.count .read := by
      rw [length_got_runTurns, hs]
      exact Nat.zero_add _
    have hideal {t : List Turn} (ht : accesses t = accesses s)
        (hut : Undisturbed m 0 none false t) :
        (runTurns t (.start (blankPort m))).got =
          (ideal 0 r.accesses (Running.start (blankPort m)).core).got := by
      have hcore := (core_runTurns (ht ▸ hproper) htracks hut).1
      rw [ht, hs] at hcore
      exact congrArg Core.got hcore
    have hicr (i : UInt8) : (Running.start (blankPort m)).core.icr i = 0 := by
      show Function.update (fun _ => (0 : UInt8)) acrOffset 0 i = 0
      rw [Function.update_apply]
      split <;> rfl
    have hne := value_ne_of_mem hicr rfl hlength hmem
    have hfirst : Undisturbed m 0 none false (passesFirst s) := by
      unfold passesFirst
      rw [hs]
      exact undisturbed_passes_append (r.undisturbed m 0) none false
    have hlast : Undisturbed m 0 none false (routineFirst s) := by
      unfold routineFirst
      rw [hs]
      exact undisturbed_append (undisturbed_passes s) (r.undisturbed m 0 none false)
    rcases hagrees with hag | hag
    · exact absurd (hag.value.trans (by rw [hideal (accesses_passesFirst s) hfirst])) hne
    · exact absurd (hag.value.trans (by rw [hideal (accesses_routineFirst s) hlast])) hne

/-- **Indexed registers and the ISR.** A routine and the passes of the ISR that come in between its
accesses do what they would do one after the other if and only if the routine is undisturbed. -/
theorem serializable_iff_undisturbed {m : Bool} {r : Routine} {s : List Turn}
    (hs : accesses s = r.accesses) : Serializable m r s ↔ Undisturbed m 0 none false s :=
  ⟨undisturbed_of_serializable hs, serializable_of_undisturbed hs⟩

/-- A pass that sends two characters just before the selection of `TTL`, and one just after. -/
def beforeSelect : List Turn :=
  [.access .saveLcr, .access .clearLcr, .transmit [1, 2], .access (.select ttlOffset),
    .access (.write (.value 32)), .access .restoreLcr]

def afterSelect : List Turn :=
  [.access .saveLcr, .access .clearLcr, .access (.select ttlOffset), .transmit [1, 2],
    .access (.write (.value 32)), .access .restoreLcr]

theorem serializable_iff_undisturbed_setTxTrigger :
    Serializable true (.setTxTrigger 32) beforeSelect ∧
      ¬Serializable true (.setTxTrigger 32) afterSelect :=
  ⟨(serializable_iff_undisturbed rfl).mpr (by simp [beforeSelect]),
    fun h => absurd ((serializable_iff_undisturbed rfl).mp h)
      (by simp [afterSelect, leftInSpr, ttlOffset])⟩

/-- The trigger level goes to ACR. -/
theorem not_serializable_afterSelect :
    ¬∀ (m : Bool) (r : Routine) (s : List Turn), accesses s = r.accesses → Serializable m r s := by
  intro hall
  have hstray := (hall false (.setTxTrigger 32) afterSelect rfl (blankPort false) ⟨rfl, rfl⟩ rfl).2
  have hwent : (runTurns afterSelect (.start (blankPort false))).stray = true := by decide +kernel
  exact absurd hwent (by rw [hstray]; nofun)

end SerialFc
