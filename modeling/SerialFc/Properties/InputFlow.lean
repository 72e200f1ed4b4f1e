import SerialFc.Lib.Holdoff
import SerialFc.Properties.RtsToggle
import SerialFc.Properties.StreamIntegrity

/-!
# Holding the sender off

The three mechanisms by which a port keeps its peer from sending: DTR, RTS and XOFF. Each obeys the
law of `Holdoff` with the mark `BufferSize - XoffLimit`.

* `InputFlow` — the law, and that register 4 is MCR
* `KeepsFlow` — what keeps the law
* `SafeHandFlow`, `SafeResize` — what a new limit and a new size have to meet
-/

namespace SerialFc

open Extension Lib

variable {U : Type} [Uart U]

/-! ## The law -/

/-- DTR is asserted. -/
def Board.dtr (b : Board U) : Bool := has b.mcr mcrDtr

/-- The interrupt buffer, if the ISR fills it, has as many characters as `hf` allows. -/
def HandFlow.overMark (hf : HandFlow) (x : Rx) : Prop :=
  x.readBufferBase = .ring ∧ x.bufferSize - hf.xoffLimit ≤ x.charsInInterruptBuffer

/-- What holds of the three mechanisms under the handshaking `hf`. -/
structure HeldOff (hf : HandFlow) (b : Board U) (x : Rx) : Prop where
  dtr : Holdoff hf.dtrHandshake x.rxHolding.dtr b.dtr (hf.overMark x)
  rts : Holdoff hf.rtsHandshake x.rxHolding.rts b.rts (hf.overMark x)
  xoff : Holdoff hf.autoReceive x.rxHolding.xoff false (hf.overMark x)

/-- Every mechanism that is switched on holds the sender. -/
def HandFlow.holds (hf : HandFlow) (y : RxHolding) : Prop :=
  (hf.dtrHandshake = true → y.dtr = true) ∧ (hf.rtsHandshake = true → y.rts = true) ∧
    (hf.autoReceive = true → y.xoff = true)

/-- A card whose DTR line is DTR and whose register 4 is MCR. -/
structure PlainBoard (e : Extension (Board U)) : Prop where
  card : e.isPcie = false
  acr : has e.cfg.acr 0x80 = false
  register : e.uart.additional = false

/-- Who is held off, and that the limits fit the buffer. -/
structure InputFlow (e : Extension (Board U)) : Prop where
  plain : PlainBoard e
  limits : e.handFlow.xonLimit < e.rx.bufferSize - e.handFlow.xoffLimit
  heldOff : HeldOff e.handFlow e.uart e.rx

/-- `SERIAL_RX_DSR` is set only with DSR sensitivity on. -/
def FollowsDsr (e : Extension U) : Prop :=
  e.rx.rxHolding.dsr = true → e.handFlow.dsrSensitivity = true

/-- What the law looks at is the same. -/
structure SameFlow (e e' : Extension (Board U)) : Prop where
  mcr : e'.uart.mcr = e.uart.mcr
  additional : e'.uart.additional = e.uart.additional
  card : e'.cfg.cardType = e.cfg.cardType
  acr : e'.cfg.acr = e.cfg.acr
  handFlow : e'.handFlow = e.handFlow
  rxHolding : e'.rx.rxHolding = e.rx.rxHolding
  fill : e'.rx.fill = e.rx.fill

section
omit [Uart U]

variable {e e' : Extension (Board U)}

/-- Equal lines and an equal fill. -/
theorem SameFlow.of_lines (h : e'.lines = e.lines) (hfill : e'.rx.fill = e.rx.fill) :
    SameFlow e e' := by
  simp only [lines, Prod.mk.injEq] at h
  obtain ⟨huart, hcfg, _, _, _, _, _, hholding, _⟩ := h
  exact ⟨by rw [huart], by rw [huart], by rw [hcfg], by rw [hcfg],
    by rw [Extension.handFlow, Extension.handFlow, hcfg], hholding, hfill⟩

theorem SameFlow.of_shared (h : e'.shared = e.shared) : SameFlow e e' :=
  .of_lines (lines_of_shared h) (congrArg (·.2.1) h)

/-- The mark is a matter of how full the buffer is. -/
theorem overMark_congr {f : HandFlow} {x x' : Rx} (h : x'.fill = x.fill) :
    f.overMark x' ↔ f.overMark x := by
  simp only [Rx.fill, Prod.mk.injEq] at h
  simp only [HandFlow.overMark, h]

/-- What the law speaks of is unchanged, so the law still holds. -/
theorem PlainBoard.congr (h : PlainBoard e) (hs : SameFlow e e') : PlainBoard e' where
  card := by rw [isPcie, hs.card]; exact h.card
  acr := by rw [hs.acr]; exact h.acr
  register := hs.additional.trans h.register

theorem InputFlow.congr (h : InputFlow e) (hs : SameFlow e e') : InputFlow e' where
  plain := h.plain.congr hs
  limits := by
    have hfill := hs.fill
    simp only [Rx.fill, Prod.mk.injEq] at hfill
    rw [hs.handFlow, hfill.2.2]
    exact h.limits
  heldOff := by
    have hover := overMark_congr (f := e.handFlow) hs.fill
    refine ⟨?_, ?_, ?_⟩ <;> rw [hs.handFlow, hs.rxHolding]
    · rw [Board.dtr, hs.mcr]
      exact h.heldOff.dtr.drain hover.mp
    · rw [Board.rts, hs.mcr]
      exact h.heldOff.rts.drain hover.mp
    · exact h.heldOff.xoff.drain hover.mp

/-- `CharsInInterruptBuffer <= XonLimit` is below the mark. -/
theorem InputFlow.not_over (h : InputFlow e)
    (hlow : e.rx.charsInInterruptBuffer ≤ e.handFlow.xonLimit) : ¬e.handFlow.overMark e.rx := by
  rintro ⟨-, hmark⟩
  have hlimits := h.limits
  omega

theorem FollowsDsr.congr (h : FollowsDsr e) (hs : SameFlow e e') : FollowsDsr e' := by
  unfold FollowsDsr
  rw [hs.rxHolding, hs.handFlow]
  exact h

end

/-! ## The lines -/

section
omit [Uart U]

theorem has_and_not_self (v mask : UInt8) : has (v &&& ~~~mask) mask = false := by
  have hzero : (v &&& ~~~mask) &&& mask = 0 := by
    apply UInt8.toBitVec_inj.mp
    ext i
    simp
  simp [has, hzero]

theorem has_and_mcrRts (v : UInt8) : has (v &&& ~~~mcrRts) mcrDtr = has v mcrDtr := by
  unfold has
  rw [UInt8.and_assoc]
  rfl

theorem has_or_of_disjoint (v : UInt8) {mask other : UInt8} (h : other &&& mask = 0) :
    has (v ||| other) mask = has v mask := by
  have hsame : (v ||| other) &&& mask = v &&& mask := by
    apply UInt8.toBitVec_inj.mp
    ext i hi
    have hbit := congrArg (fun u : UInt8 => u.toBitVec[i]) h
    simp at hbit ⊢
    grind
  unfold has
  rw [hsame]

end

/-- MCR is written as it is, since no window is open. -/
theorem mcr_updateReg {e : Extension (Board U)} (h : e.uart.additional = false)
    (f : UInt8 → UInt8) : (e.updateReg .mcr f).uart.mcr = f e.uart.mcr := by
  show f (Uart.read .mcr e.uart).1 = f e.uart.mcr
  rw [Board.read_mcr h]

/-- On these cards DTR is a bit of MCR. -/
theorem serialSetDtr_eq {e : Extension U} (h : e.isPcie = false) :
    e.serialSetDtr = e.updateReg .mcr (· ||| mcrDtr) := by simp [serialSetDtr, h]

theorem serialClrDtr_eq {e : Extension U} (h : e.isPcie = false) :
    e.serialClrDtr = e.updateReg .mcr (· &&& ~~~mcrDtr) := by simp [serialClrDtr, h]

/-- The line moves, and nothing else. -/
@[simp] theorem rx_serialSetDtr (e : Extension U) : e.serialSetDtr.rx = e.rx := by
  unfold serialSetDtr
  split <;> rfl

@[simp] theorem rx_serialClrDtr (e : Extension U) : e.serialClrDtr.rx = e.rx := by
  unfold serialClrDtr
  split <;> rfl

@[simp] theorem cfg_serialSetDtr (e : Extension U) : e.serialSetDtr.cfg = e.cfg := by
  unfold serialSetDtr
  split <;> rfl

@[simp] theorem cfg_serialClrDtr (e : Extension U) : e.serialClrDtr.cfg = e.cfg := by
  unfold serialClrDtr
  split <;> rfl

@[simp] theorem additional_serialSetDtr (e : Extension (Board U)) :
    e.serialSetDtr.uart.additional = e.uart.additional := by
  unfold serialSetDtr
  split <;> rfl

@[simp] theorem additional_serialClrDtr (e : Extension (Board U)) :
    e.serialClrDtr.uart.additional = e.uart.additional := by
  unfold serialClrDtr
  split <;> rfl

namespace PlainBoard

variable {e : Extension (Board U)} (h : PlainBoard e)
include h

omit [Uart U] in
/-- Only the card, ACR and register 4 matter. -/
theorem congr_rx_cfg {e' : Extension (Board U)} (hcard : e'.cfg.cardType = e.cfg.cardType)
    (hacr : e'.cfg.acr = e.cfg.acr) (hadditional : e'.uart.additional = e.uart.additional) :
    PlainBoard e' where
  card := by rw [isPcie, hcard]; exact h.card
  acr := by rw [hacr]; exact h.acr
  register := hadditional.trans h.register

omit [Uart U] in
/-- The board does not depend on what has been received. -/
theorem congr_rx {e' : Extension (Board U)} (hcfg : e'.cfg = e.cfg)
    (hadditional : e'.uart.additional = e.uart.additional) : PlainBoard e' :=
  h.congr_rx_cfg (by rw [hcfg]) (by rw [hcfg]) hadditional

/-- Each routine moves its own line and leaves the other one. -/
theorem dtr_serialClrDtr : e.serialClrDtr.uart.dtr = false := by
  rw [serialClrDtr_eq h.card, Board.dtr, mcr_updateReg h.register]
  exact has_and_not_self _ _

theorem rts_serialClrRts : e.serialClrRts.uart.rts = false := by
  rw [serialClrRts, Board.rts, mcr_updateReg h.register]
  exact has_and_not_self _ _

theorem rts_serialSetDtr : e.serialSetDtr.uart.rts = e.uart.rts := by
  rw [serialSetDtr_eq h.card, Board.rts, mcr_updateReg h.register]
  exact has_or_of_disjoint _ (by decide)

theorem rts_serialClrDtr : e.serialClrDtr.uart.rts = e.uart.rts := by
  rw [serialClrDtr_eq h.card, Board.rts, mcr_updateReg h.register]
  exact has_and_mcrDtr _

theorem dtr_serialSetRts : e.serialSetRts.uart.dtr = e.uart.dtr := by
  rw [serialSetRts, Board.dtr, mcr_updateReg h.register]
  exact has_or_of_disjoint _ (by decide)

theorem dtr_serialClrRts : e.serialClrRts.uart.dtr = e.uart.dtr := by
  rw [serialClrRts, Board.dtr, mcr_updateReg h.register]
  exact has_and_mcrRts _

end PlainBoard

/-- Both laws are kept. -/
def KeepsFlow (e e' : Extension (Board U)) : Prop :=
  (InputFlow e → InputFlow e') ∧ (FollowsDsr e → FollowsDsr e')

namespace KeepsFlow

section
omit [Uart U]

variable {e e' : Extension (Board U)}

theorem of_same (hs : SameFlow e e') : KeepsFlow e e' := ⟨(·.congr hs), (·.congr hs)⟩

theorem refl (e : Extension (Board U)) : KeepsFlow e e := ⟨id, id⟩

theorem trans {e'' : Extension (Board U)} (h : KeepsFlow e e') (h' : KeepsFlow e' e'') :
    KeepsFlow e e'' :=
  ⟨h'.1 ∘ h.1, h'.2 ∘ h.2⟩

/-- A change of the lines and of the bits that belong to them. -/
theorem of_heldOff (hadditional : e'.uart.additional = e.uart.additional) (hcfg : e'.cfg = e.cfg)
    (hfill : e'.rx.fill = e.rx.fill) (hdsr : e'.rx.rxHolding.dsr = e.rx.rxHolding.dsr)
    (hoff : InputFlow e → HeldOff e.handFlow e'.uart e'.rx) : KeepsFlow e e' := by
  have hflow : e'.handFlow = e.handFlow := by rw [Extension.handFlow, Extension.handFlow, hcfg]
  refine ⟨fun h => ⟨h.plain.congr_rx hcfg hadditional, ?_, ?_⟩, fun h => ?_⟩
  · simp only [Rx.fill, Prod.mk.injEq] at hfill
    rw [hflow, hfill.2.2]
    exact h.limits
  · rw [hflow]; exact hoff h
  · unfold FollowsDsr
    rw [hdsr, hflow]
    exact h

end

/-- Lowering a line is always right. -/
theorem serialClrRts (e : Extension (Board U)) : KeepsFlow e e.serialClrRts := by
  refine of_heldOff rfl rfl rfl rfl fun h => ⟨?_, ?_, h.heldOff.xoff⟩
  · rw [h.plain.dtr_serialClrRts]; exact h.heldOff.dtr
  · rw [h.plain.rts_serialClrRts]; exact h.heldOff.rts.lower

/-- RTS may go up while it is not a handshake. -/
theorem serialSetRts {e : Extension (Board U)} (hmode : e.handFlow.rtsHandshake = false) :
    KeepsFlow e e.serialSetRts := by
  refine of_heldOff rfl rfl rfl rfl fun h => ⟨?_, ?_, h.heldOff.xoff⟩
  · rw [h.plain.dtr_serialSetRts]; exact h.heldOff.dtr
  · exact h.heldOff.rts.of_off hmode _

/-- DTR may change while it is not a handshake. -/
theorem dtrLine {e : Extension (Board U)} (hmode : e.handFlow.dtrHandshake = false) :
    KeepsFlow e e.serialSetDtr ∧ KeepsFlow e e.serialClrDtr := by
  constructor
  · refine of_heldOff (by simp) (by simp) (by simp) (by simp) fun h => ?_
    rw [rx_serialSetDtr]
    refine ⟨h.heldOff.dtr.of_off hmode _, ?_, h.heldOff.xoff⟩
    rw [h.plain.rts_serialSetDtr]
    exact h.heldOff.rts
  · refine of_heldOff (by simp) (by simp) (by simp) (by simp) fun h => ?_
    rw [rx_serialClrDtr]
    refine ⟨h.heldOff.dtr.of_off hmode _, ?_, h.heldOff.xoff⟩
    rw [h.plain.rts_serialClrDtr]
    exact h.heldOff.rts

/-! ### The mechanisms begin to hold the sender -/

/-- The buffer is over the mark: DTR goes down, if it is used for that. -/
theorem holdDtr (e : Extension (Board U)) : KeepsFlow e e.holdDtr := by
  refine rel_ite (fun hhold => ?_) (fun _ => refl e)
  simp only [Bool.and_eq_true] at hhold
  refine of_heldOff (by simp; rfl) (by simp; rfl) (by simp; rfl) (by simp; rfl) fun h => ?_
  have hplain : PlainBoard (e.setRxDtr true) := h.plain.congr_rx rfl rfl
  rw [rx_serialClrDtr]
  refine ⟨?_, ?_, h.heldOff.xoff⟩
  · rw [hplain.dtr_serialClrDtr]
    exact .hold hhold.1.1
  · rw [hplain.rts_serialClrDtr]
    exact h.heldOff.rts

theorem holdRts (e : Extension (Board U)) : KeepsFlow e e.holdRts := by
  refine rel_ite (fun hhold => ?_) (fun _ => refl e)
  simp only [Bool.and_eq_true] at hhold
  refine of_heldOff rfl rfl rfl rfl fun h => ?_
  have hplain : PlainBoard (e.setRxRts true) := h.plain.congr_rx rfl rfl
  refine ⟨?_, ?_, h.heldOff.xoff⟩
  · rw [hplain.dtr_serialClrRts]
    exact h.heldOff.dtr
  · rw [hplain.rts_serialClrRts]
    exact .hold hhold.1.1

theorem serialProdXonXoff (e : Extension (Board U)) (b : Bool) :
    KeepsFlow e (e.serialProdXonXoff b) := by
  refine .of_same ?_
  unfold Extension.serialProdXonXoff
  split <;> exact ⟨rfl, rfl, rfl, rfl, rfl, rfl, rfl⟩

theorem holdXoff (e : Extension (Board U)) : KeepsFlow e e.holdXoff := by
  refine rel_ite (fun hhold => ?_) (fun _ => refl e)
  simp only [Bool.and_eq_true] at hhold
  refine .trans ?_ (serialProdXonXoff (e.setRxXoff true) false)
  exact of_heldOff rfl rfl rfl rfl fun h => ⟨h.heldOff.dtr, h.heldOff.rts,
    .hold hhold.1.1⟩

/-- All three ways of holding off, one after the other. -/
theorem holds (e : Extension (Board U)) : KeepsFlow e e.holdDtr.holdRts.holdXoff :=
  (holdDtr e).trans ((holdRts _).trans (holdXoff _))

/-! ### The mechanisms let the sender go on -/

/-- The buffer is low: DTR may go up again. -/
theorem releaseDtr {e : Extension (Board U)}
    (hlow : e.rx.charsInInterruptBuffer ≤ e.handFlow.xonLimit) :
    KeepsFlow e (e.setRxDtr false).serialSetDtr := by
  refine of_heldOff (by simp; rfl) (by simp; rfl) (by simp; rfl) (by simp; rfl) fun h => ?_
  have hplain : PlainBoard (e.setRxDtr false) := h.plain.congr_rx rfl rfl
  rw [rx_serialSetDtr]
  refine ⟨.release _ (h.not_over hlow), ?_, h.heldOff.xoff⟩
  rw [hplain.rts_serialSetDtr]
  exact h.heldOff.rts

theorem releaseRts {e : Extension (Board U)}
    (hlow : e.rx.charsInInterruptBuffer ≤ e.handFlow.xonLimit) :
    KeepsFlow e (e.setRxRts false).serialSetRts := by
  refine of_heldOff rfl rfl rfl rfl fun h => ?_
  have hplain : PlainBoard (e.setRxRts false) := h.plain.congr_rx rfl rfl
  refine ⟨?_, .release _ (h.not_over hlow), h.heldOff.xoff⟩
  rw [hplain.dtr_serialSetRts]
  exact h.heldOff.dtr

/-- **After a read**, whoever is held off is released below the mark. -/
theorem serialHandleReducedIntBuffer (e : Extension (Board U)) :
    KeepsFlow e e.serialHandleReducedIntBuffer := by
  refine rel_ite (fun hlow => ?_) (fun _ => refl e)
  simp only [Bool.and_eq_true, decide_eq_true_eq] at hlow
  have hdtr : KeepsFlow e e.releaseDtr := rel_ite (fun _ => releaseDtr hlow.2) (fun _ => refl e)
  have hlow' : e.releaseDtr.rx.charsInInterruptBuffer ≤ e.releaseDtr.handFlow.xonLimit := by
    unfold Extension.releaseDtr
    split
    · rw [rx_serialSetDtr, Extension.handFlow, cfg_serialSetDtr]
      exact hlow.2
    · exact hlow.2
  have hrts : KeepsFlow e.releaseDtr e.releaseDtr.releaseRts :=
    rel_ite (fun _ => releaseRts hlow') (fun _ => refl _)
  have hxoff : KeepsFlow e.releaseDtr.releaseRts e.releaseDtr.releaseRts.releaseXoff :=
    rel_ite (fun _ => serialProdXonXoff _ true) (fun _ => refl _)
  exact hdtr.trans (hrts.trans hxoff)

/-! ### Characters come and go -/

omit [Uart U] in
theorem drain (e : Extension (Board U)) {x : Rx} (hx : Drained e.rx x) :
    KeepsFlow e { e with rx := x } := by
  refine ⟨fun h => ⟨h.plain.congr_rx rfl rfl, ?_, ?_⟩, fun h => ?_⟩
  · show e.handFlow.xonLimit < x.bufferSize - e.handFlow.xoffLimit
    rw [hx.bufferSize]
    exact h.limits
  · have hover : e.handFlow.overMark x → e.handFlow.overMark e.rx := fun hover => by
      have hlimits := h.limits
      obtain ⟨hring, hmark⟩ := hover
      rw [hx.bufferSize] at hmark
      rcases hx.fill with ⟨hbase, hle⟩ | huser | hzero
      · exact ⟨hbase ▸ hring, Nat.le_trans hmark hle⟩
      · exact nomatch huser.symm.trans hring
      · omega
    show HeldOff e.handFlow e.uart x
    refine ⟨?_, ?_, ?_⟩ <;> rw [hx.rxHolding]
    · exact h.heldOff.dtr.drain hover
    · exact h.heldOff.rts.drain hover
    · exact h.heldOff.xoff.drain hover
  · show x.rxHolding.dsr = true → _
    rw [hx.rxHolding]
    exact h

end KeepsFlow

/-! ## Storing a character -/

theorem rxHolding_holdDtr (e : Extension U) : e.holdDtr.rx.rxHolding =
    { e.rx.rxHolding with
      dtr := e.rx.rxHolding.dtr || (e.handFlow.dtrHandshake && e.reachesXoffLimit) } := by
  unfold holdDtr
  split
  · next h =>
    simp only [Bool.and_eq_true] at h
    rw [rx_serialClrDtr, h.1.1, h.2]
    simp [setRxDtr, putRxHolding]
  · next h =>
    cases hbit : e.rx.rxHolding.dtr with
    | true => rw [Bool.true_or, ← hbit]
    | false =>
      simp only [hbit, Bool.not_false, Bool.and_true, Bool.not_eq_true] at h
      rw [h, Bool.or_false, ← hbit]

theorem rxHolding_holdRts (e : Extension U) : e.holdRts.rx.rxHolding =
    { e.rx.rxHolding with
      rts := e.rx.rxHolding.rts || (e.handFlow.rtsHandshake && e.reachesXoffLimit) } := by
  unfold holdRts
  split
  · next h =>
    simp only [Bool.and_eq_true] at h
    rw [h.1.1, h.2, Bool.and_self, Bool.or_true]
    rfl
  · next h =>
    cases hbit : e.rx.rxHolding.rts with
    | true => rw [Bool.true_or, ← hbit]
    | false =>
      simp only [hbit, Bool.not_false, Bool.and_true, Bool.not_eq_true] at h
      rw [h, Bool.or_false, ← hbit]

theorem rxHolding_holdXoff (e : Extension U) : e.holdXoff.rx.rxHolding =
    { e.rx.rxHolding with
      xoff := e.rx.rxHolding.xoff || (e.handFlow.autoReceive && e.reachesXoffLimit) } := by
  unfold holdXoff
  split
  · next h =>
    simp only [Bool.and_eq_true] at h
    rw [rx_serialProdXonXoff, h.1.1, h.2]
    simp [setRxXoff, putRxHolding]
  · next h =>
    cases hbit : e.rx.rxHolding.xoff with
    | true => rw [Bool.true_or, ← hbit]
    | false =>
      simp only [hbit, Bool.not_false, Bool.and_true, Bool.not_eq_true] at h
      rw [h, Bool.or_false, ← hbit]

theorem handFlow_holdDtr (e : Extension U) : e.holdDtr.handFlow = e.handFlow := by
  unfold holdDtr Extension.handFlow
  split
  · rw [cfg_serialClrDtr]; rfl
  · rfl

theorem handFlow_holdRts (e : Extension U) : e.holdRts.handFlow = e.handFlow := by
  unfold holdRts Extension.handFlow
  split <;> rfl

theorem reachesXoffLimit_holdDtr (e : Extension U) :
    e.holdDtr.reachesXoffLimit = e.reachesXoffLimit := by
  unfold reachesXoffLimit
  rw [handFlow_holdDtr, rx_holdDtr]

theorem reachesXoffLimit_holdRts (e : Extension U) :
    e.holdRts.reachesXoffLimit = e.reachesXoffLimit := by
  unfold reachesXoffLimit
  rw [handFlow_holdRts, rx_holdRts]

/-- One character below the mark the sender is held. -/
theorem holds_of_reaches {e : Extension U} (h : e.reachesXoffLimit = true) :
    e.handFlow.holds e.holdDtr.holdRts.holdXoff.rx.rxHolding := by
  rw [rxHolding_holdXoff, rxHolding_holdRts, rxHolding_holdDtr, handFlow_holdRts, handFlow_holdDtr,
    reachesXoffLimit_holdRts, reachesXoffLimit_holdDtr, h]
  exact ⟨fun hdtr => by simp [hdtr], fun hrts => by simp [hrts], fun hxoff => by simp [hxoff]⟩

/-! ## The routines -/

namespace KeepsFlow

omit [Uart U] in
theorem putRing {e : Extension (Board U)} (c : UInt8)
    (hheld : e.reachesXoffLimit = true → e.handFlow.holds e.rx.rxHolding) :
    KeepsFlow e (e.putRing c) := by
  refine ⟨fun h => ⟨h.plain.congr_rx rfl rfl, h.limits, ?_⟩, id⟩
  have hover (hover : e.handFlow.overMark (e.putRing c).rx) : e.handFlow.holds e.rx.rxHolding :=
    hheld (decide_eq_true hover.2)
  exact ⟨h.heldOff.dtr.fill fun h => (hover h).1, h.heldOff.rts.fill fun h => (hover h).2.1,
    h.heldOff.xoff.fill fun h => (hover h).2.2⟩

omit [Uart U] in
theorem storeUser (e : Extension (Board U)) (c : UInt8) : KeepsFlow e (e.storeUser c) := by
  have hput : KeepsFlow e (e.putUser c) := of_same (.of_lines (lines_putUser c e) (fill_putUser c e))
  have hreset : KeepsFlow (e.putUser c) (e.putUser c).resetRing :=
    drain _ ⟨rfl, rfl, Or.inr (Or.inr rfl)⟩
  refine rel_ite (fun _ => ?_) fun _ => ?_
  · have hfinish : (e.putUser c).satisfyRead.shared = (e.putUser c).resetRing.shared :=
      (shared_insertQueueDpc (by decide) _).trans (shared_modifyCurrent _ _ _)
    exact hput.trans (hreset.trans (of_same (.of_shared hfinish)))
  · exact hput.trans (drain _ ⟨rfl, rfl, Or.inl ⟨rfl, Nat.le_refl _⟩⟩)

omit [Uart U] in
theorem insertStartTimerLowerRts (e : Extension (Board U)) :
    KeepsFlow e e.insertStartTimerLowerRts := by
  refine .of_same ?_
  unfold Extension.insertStartTimerLowerRts
  split <;> exact ⟨rfl, rfl, rfl, rfl, rfl, rfl, rfl⟩

theorem modemHolding (b : Bool) (old : TxHolding) (status : UInt8) (e : Extension (Board U)) :
    KeepsFlow e (e.modemHolding b old status) := by
  have hrestart (e : Extension (Board U)) : KeepsFlow e (e.restartOnRelease b old) :=
    rel_ite (fun _ => rel_ite (fun _ => .of_same ⟨rfl, rfl, rfl, rfl, rfl, rfl, rfl⟩)
      (fun _ => refl e)) (fun _ => refl e)
  have htoggle (e : Extension (Board U)) : KeepsFlow e (e.toggleOnHold old) :=
    rel_ite (fun _ => insertStartTimerLowerRts e) (fun _ => refl e)
  have hholding (t : TxHolding) : KeepsFlow e (e.putHolding t) :=
    .of_same ⟨rfl, rfl, rfl, rfl, rfl, rfl, rfl⟩
  refine rel_ite (fun _ => ?_) fun _ => rel_ite (fun _ => ?_) fun _ => refl e
  · exact (hholding _).trans ((htoggle _).trans (hrestart _))
  · exact (hholding _).trans (hrestart _)

theorem statusRule : StatusRule (KeepsFlow (U := U)) where
  refl := refl
  trans := trans
  readReg _ _ := of_same ⟨rfl, rfl, rfl, rfl, rfl, rfl, rfl⟩
  retickle _ := of_same ⟨rfl, rfl, rfl, rfl, rfl, rfl, rfl⟩
  counters _ _ _ := of_same ⟨rfl, rfl, rfl, rfl, rfl, rfl, rfl⟩
  raise80Full e := of_same (.of_shared (shared_raise80Full e))
  receiveEvents c e := of_same (.of_shared (shared_receiveEvents c e))
  lsrEvents status e := of_same (.of_shared (shared_lsrEvents status e))
  modemEvents status e := of_same (.of_shared (shared_modemEvents status e))
  insertStartTimerLowerRts := insertStartTimerLowerRts
  abortOnError e := of_same (.of_shared (shared_abortOnError e))
  holdingEmpty _ _ := of_same ⟨rfl, rfl, rfl, rfl, rfl, rfl, rfl⟩
  holds := holds
  storeInRing e c _ _ := (holds e).trans (putRing c fun hreach => by
    have hcfg : e.holdDtr.holdRts.holdXoff.handFlow = e.handFlow :=
      congrArg Config.handFlow (cfg_sharedRule.statusRule.holds e)
    rw [hcfg]
    refine holds_of_reaches ?_
    rw [reachesXoffLimit, hcfg, rx_holds] at hreach
    exact hreach)
  overwriteLast _ _ _ := of_same ⟨rfl, rfl, rfl, rfl, rfl, rfl, rfl⟩
  countXoff e := of_same (.of_shared (shared_countXoff e))
  storeUser e c _ := storeUser e c
  followDsr status e := by
    refine ⟨fun h => ⟨h.plain.congr_rx rfl rfl, h.limits, h.heldOff.dtr, h.heldOff.rts,
      h.heldOff.xoff⟩, fun _ hdsr => ?_⟩
    have hboth : (e.handFlow.dsrSensitivity && !has status msrDsr) = true := hdsr
    simp only [Bool.and_eq_true] at hboth
    exact hboth.1
  modemHolding := modemHolding
  setTxXoff _ _ := of_same ⟨rfl, rfl, rfl, rfl, rfl, rfl, rfl⟩

/-! ### Flow control -/

theorem rtsHandshake_of_toggle {hf : HandFlow} (h : hf.transmitToggle = true) :
    hf.rtsHandshake = false := by
  have hmask : hf.rtsMask = 0xc0 := beq_iff_eq.mp h
  unfold HandFlow.rtsHandshake
  rw [hmask]
  rfl

omit [Uart U] in
theorem addTryingToLowerRts (e : Extension (Board U)) (n : Int) :
    KeepsFlow e (e.addTryingToLowerRts n) :=
  of_same ⟨rfl, rfl, rfl, rfl, rfl, rfl, rfl⟩

theorem serialPerhapsLowerRts (e : Extension (Board U)) : KeepsFlow e e.serialPerhapsLowerRts := by
  have hretry (status : UInt8) (e : Extension (Board U)) : KeepsFlow e (e.lowerRtsOrRetry status) :=
    rel_ite (fun _ => serialClrRts e) (fun _ => insertStartTimerLowerRts e)
  have htry : KeepsFlow e e.tryToLowerRts :=
    rel_ite (fun _ => (statusRule.serialProcessLsr e).trans (hretry _ _)) (fun _ => refl e)
  exact htry.trans (addTryingToLowerRts _ _)

theorem controlRule : ControlRule (KeepsFlow (U := U)) where
  toStatusRule := statusRule
  lowerRts e := (addTryingToLowerRts e 1).trans (serialPerhapsLowerRts _)
  raiseRtsInToggle e :=
    rel_ite (fun htoggle => serialSetRts (rtsHandshake_of_toggle htoggle)) (fun _ => refl e)
  serialTurnOnBreak e :=
    .trans (rel_ite (fun htoggle => serialSetRts (rtsHandshake_of_toggle htoggle)) (fun _ => refl e))
      (of_same ⟨rfl, rfl, rfl, rfl, rfl, rfl, rfl⟩)
  stopBreak _ _ := of_same ⟨rfl, rfl, rfl, rfl, rfl, rfl, rfl⟩
  serialHandleReducedIntBuffer := serialHandleReducedIntBuffer
  emptyEvent _ _ := of_same (.of_shared (shared_answerWaitIfWaiting _))

theorem callbackRule : CallbackRule (fun _ => False) (KeepsFlow (U := U)) where
  toControlRule := controlRule
  same _ _ _ h := of_same (.of_shared h)
  evolve _ _ := of_same ⟨rfl, rfl, rfl, rfl, rfl, rfl, rfl⟩
  configure _ _ _ _ := of_same ⟨rfl, rfl, rfl, rfl, rfl, rfl, rfl⟩
  clearErrors _ := of_same ⟨rfl, rfl, rfl, rfl, rfl, rfl, rfl⟩
  setDtr _ hmode := dtrLine hmode
  setRts e hmode := by
    simp only [Bool.or_eq_false_iff] at hmode
    exact ⟨serialSetRts hmode.1, serialClrRts e⟩
  drain _ e _ hx := drain e hx

/-! ### Transmission -/

theorem writeRule : WriteRule (KeepsFlow (U := U)) where
  refl := refl
  trans := trans
  serialSetRts _ htoggle := serialSetRts (rtsHandshake_of_toggle htoggle)
  addTransmitted _ _ := of_same ⟨rfl, rfl, rfl, rfl, rfl, rfl, rfl⟩
  data _ _ := of_same ⟨rfl, rfl, rfl, rfl, rfl, rfl, rfl⟩
  spr _ _ := of_same ⟨rfl, rfl, rfl, rfl, rfl, rfl, rfl⟩
  insertStartTimerLowerRts := insertStartTimerLowerRts
  txtrg _ := of_same ⟨rfl, rfl, rfl, rfl, rfl, rfl, rfl⟩
  fillFscc e := by
    -- register 4 is MCR again after the level of the FIFO has been read there
    refine ⟨fun h => h.congr ⟨rfl, ?_, rfl, rfl, rfl, rfl, rfl⟩, id⟩
    exact h.plain.acr.trans h.plain.register.symm

omit [Uart U] in
theorem advanceWrite (n : Nat) (e : Extension (Board U)) : KeepsFlow e (e.advanceWrite n) := by
  have hmove : KeepsFlow e (e.movePointer n) := of_same ⟨rfl, rfl, rfl, rfl, rfl, rfl, rfl⟩
  refine rel_ite (fun _ => hmove.trans (of_same (.of_shared ?_))) (fun _ => hmove)
  exact (shared_insertQueueDpc (by decide) _).trans (shared_modifyCurrent _ _ _)

theorem sendRule : SendRule (KeepsFlow (U := U)) where
  toStatusRule := statusRule
  emptied _ := of_same ⟨rfl, rfl, rfl, rfl, rfl, rfl, rfl⟩
  transmitXoff e _ _ := by
    have hhold (e : Extension (Board U)) : KeepsFlow e e.holdAfterXoff :=
      rel_ite (fun _ => refl e) (fun _ => (statusRule.setTxXoff true e).trans
        (statusRule.toggleTimer _))
    have hlog (e : Extension (Board U)) (w : Wire) : KeepsFlow e (e.logWire w) :=
      of_same ⟨rfl, rfl, rfl, rfl, rfl, rfl, rfl⟩
    exact (writeRule.writeSpecial _ e).trans ((hlog _ _).trans ((hhold _).trans
      (of_same ⟨rfl, rfl, rfl, rfl, rfl, rfl, rfl⟩)))
  transmitImmediateChar e _ _ := (writeRule.writeSpecial _ e).trans
    (of_same ⟨rfl, rfl, rfl, rfl, rfl, rfl, rfl⟩)
  transmitData e _ _ := (writeRule.amountToWrite e).trans ((writeRule.writeBytes _ _).trans (advanceWrite _ _))

/-- The XON lets the sender go on, which is right below the mark only. -/
theorem transmitXon {e : Extension (Board U)}
    (hlow : e.handFlow.autoReceive = true → ¬e.handFlow.overMark e.rx) :
    KeepsFlow e e.transmitXon := by
  have hcfg : (e.writeSpecial e.cfg.specialChars.xonChar).cfg = e.cfg :=
    cfg_sharedRule.writeRule.writeSpecial _ e
  have hrx : (e.writeSpecial e.cfg.specialChars.xonChar).rx = e.rx := by
    unfold Extension.writeSpecial
    split
    · unfold Extension.insertStartTimerLowerRts
      split <;> rfl
    · rfl
  refine (writeRule.writeSpecial e.cfg.specialChars.xonChar e).trans (of_heldOff rfl rfl rfl rfl fun h => ?_)
  refine ⟨h.heldOff.dtr, h.heldOff.rts, ⟨nofun, nofun, fun hover hmode => ?_⟩⟩
  rw [Extension.handFlow, hcfg] at hover hmode
  have hover' : e.handFlow.overMark e.rx := by
    rw [← hrx]
    exact hover
  exact absurd hover' (hlow hmode)

end KeepsFlow

/-! ## New handshaking -/

/-- What the setup of XON and XOFF looks at. -/
def Extension.xoffInput (e : Extension U) : Bool × Bool × (Base × Nat × Nat) :=
  (e.handFlow.autoReceive, e.rx.rxHolding.xoff, e.rx.fill)

/-- Each mechanism obeys the law under a handshaking of its own. -/
structure Setup (a b c : HandFlow) (k : Bool × Bool × (Base × Nat × Nat))
    (e : Extension (Board U)) : Prop where
  plain : PlainBoard e
  input : e.xoffInput = k
  dtr : Holdoff a.dtrHandshake e.rx.rxHolding.dtr e.uart.dtr (a.overMark e.rx)
  rts : Holdoff b.rtsHandshake e.rx.rxHolding.rts e.uart.rts (b.overMark e.rx)
  xoff : Holdoff c.autoReceive e.rx.rxHolding.xoff false (c.overMark e.rx)

/-- `SERIAL_DTR_MASK` is the same in both, `SERIAL_AUTO_RECEIVE` too, and so is the mark. -/
def SameMarks (old new : HandFlow) : Prop :=
  new.dtrMask = old.dtrMask ∧ new.autoReceive = old.autoReceive ∧ new.xoffLimit = old.xoffLimit

/-- Reading LSR twice shows no error. -/
def QuietLine (u : U) : Prop :=
  lineError (Uart.read .lsr u).1 = false ∧
    lineError (Uart.read .lsr (Uart.read .lsr u).2).1 = false

/-- What new handshaking has to meet: its limits are apart, a mechanism that stays switched on
holds the sender if the new mark has been reached, and the line status that is read on the way to
the toggle mode stores nothing, unless the marks are the same. -/
structure SafeHandFlow (new : HandFlow) (e : Extension (Board U)) : Prop where
  limits : new.xonLimit < e.rx.bufferSize - new.xoffLimit
  dtr : new.overMark e.rx → new.dtrMask = e.handFlow.dtrMask → new.dtrHandshake = true →
    e.rx.rxHolding.dtr = true
  rts : new.overMark e.rx → new.rtsMask = e.handFlow.rtsMask → new.rtsHandshake = true →
    e.rx.rxHolding.rts = true
  xoff : new.overMark e.rx → new.autoReceive = e.handFlow.autoReceive → new.autoReceive = true →
    e.rx.rxHolding.xoff = true
  toggle : new.rtsMask ≠ e.handFlow.rtsMask → new.transmitToggle = true →
    e.tx.txHolding.brk = false →
      SameMarks e.handFlow new ∨ QuietLine (e.setupDtr new).uart

section
omit [Uart U]

theorem not_overMark_of_below {new : HandFlow} {e : Extension (Board U)}
    (h : e.belowNewLimit new = true) : ¬new.overMark e.rx := by
  rintro ⟨-, hmark⟩
  have hbelow : e.rx.bufferSize - new.xoffLimit > e.rx.charsInInterruptBuffer := of_decide_eq_true h
  omega

end

/-- Filling a field leaves the other bits. -/
theorem fill_and_of_disjoint (v : UInt32) {mask other : UInt32} (h : mask &&& other = 0) :
    ((v &&& ~~~mask) ||| mask) &&& other = v &&& other := by
  apply UInt32.toBitVec_inj.mp
  ext i hi
  have hbit := congrArg (fun u : UInt32 => u.toBitVec[i]) h
  simp at hbit ⊢
  grind

theorem fill_and_self (v mask : UInt32) : ((v &&& ~~~mask) ||| mask) &&& mask = mask := by
  apply UInt32.toBitVec_inj.mp
  ext i hi
  simp
  grind

omit [Uart U] in
/-- The toggle mode is a matter of the RTS bits. -/
theorem xoffInput_enterToggle (e : Extension U) : e.enterToggle.xoffInput = e.xoffInput := by
  have hmode : e.enterToggle.handFlow.autoReceive = e.handFlow.autoReceive := by
    show has32 ((e.handFlow.flowReplace &&& ~~~0xc0) ||| 0xc0) 0x02 = has32 e.handFlow.flowReplace 0x02
    unfold has32
    rw [fill_and_of_disjoint e.handFlow.flowReplace (by decide)]
  rw [xoffInput, hmode]
  rfl

namespace Setup

variable {a b c : HandFlow} {k : Bool × Bool × (Base × Nat × Nat)} {e : Extension (Board U)}
  (h : Setup a b c k e)
include h

theorem setDtr (new : HandFlow) (bit : Bool)
    (hdtr : ∀ up, Holdoff new.dtrHandshake bit up (new.overMark e.rx)) :
    Setup new b c k (e.setRxDtr bit).serialSetDtr := by
  have hplain : PlainBoard (e.setRxDtr bit) := h.plain.congr_rx rfl rfl
  refine ⟨hplain.congr_rx (by simp) (by simp), ?_, ?_, ?_, ?_⟩
  · rw [xoffInput, rx_serialSetDtr, Extension.handFlow, cfg_serialSetDtr]
    exact h.input
  all_goals rw [rx_serialSetDtr]
  · exact hdtr _
  · rw [hplain.rts_serialSetDtr]
    exact h.rts
  · exact h.xoff

theorem clrDtr (new : HandFlow) (bit : Bool)
    (hdtr : Holdoff new.dtrHandshake bit false (new.overMark e.rx)) :
    Setup new b c k (e.setRxDtr bit).serialClrDtr := by
  have hplain : PlainBoard (e.setRxDtr bit) := h.plain.congr_rx rfl rfl
  refine ⟨hplain.congr_rx (by simp) (by simp), ?_, ?_, ?_, ?_⟩
  · rw [xoffInput, rx_serialClrDtr, Extension.handFlow, cfg_serialClrDtr]
    exact h.input
  all_goals rw [rx_serialClrDtr]
  · rw [hplain.dtr_serialClrDtr]
    exact hdtr
  · rw [hplain.rts_serialClrDtr]
    exact h.rts
  · exact h.xoff

theorem setupDtr {new : HandFlow} (ha : a.dtrMask = e.handFlow.dtrMask)
    (hkeep : new.overMark e.rx → new.dtrMask = e.handFlow.dtrMask → new.dtrHandshake = true →
      e.rx.rxHolding.dtr = true) : Setup new b c k (e.setupDtr new) := by
  unfold Extension.setupDtr
  split
  · next hne =>
    have hmask : e.handFlow.dtrMask ≠ new.dtrMask := by simpa using hne
    split
    · split
      · next hmode =>
        unfold setupDtrHandshake
        split
        · next hbelow =>
          -- the handshake was switched off until now, so its bit was clear
          have hoff : a.dtrHandshake = false := by
            have hnew : new.dtrMask = 0x02 := beq_iff_eq.mp hmode
            rw [HandFlow.dtrHandshake, ha]
            simpa [hnew] using hmask
          have hclear := h.dtr.held_eq_false hoff
          rw [if_neg (by simp [hclear])]
          have hset := h.setDtr new false fun up =>
            .release up (not_overMark_of_below hbelow)
          rwa [← hclear] at hset
        · exact h.clrDtr _ _ (.hold hmode)
      · next hmode => exact h.setDtr _ _ fun up => .off up (by simpa using hmode)
    · next hzero =>
      refine h.clrDtr _ _ (.off _ ?_)
      have hmask : new.dtrMask = 0 := by simpa using hzero
      rw [HandFlow.dtrHandshake, hmask]
      rfl
  · next heq =>
    have hmask : new.dtrMask = e.handFlow.dtrMask := by
      simp only [bne_iff_ne, ne_eq, Decidable.not_not] at heq
      exact heq.symm
    have hmode : new.dtrHandshake = a.dtrHandshake := by
      rw [HandFlow.dtrHandshake, HandFlow.dtrHandshake, hmask, ha]
    refine ⟨h.plain, h.input, ?_, h.rts, h.xoff⟩
    rw [hmode]
    exact h.dtr.fill fun hover hon => hkeep hover hmask (hmode.trans hon)

theorem setRts (new : HandFlow) (bit : Bool)
    (hrts : ∀ up, Holdoff new.rtsHandshake bit up (new.overMark e.rx)) :
    Setup a new c k (e.setRxRts bit).serialSetRts := by
  have hplain : PlainBoard (e.setRxRts bit) := h.plain.congr_rx rfl rfl
  refine ⟨hplain.congr_rx rfl rfl, h.input, ?_, hrts _, h.xoff⟩
  rw [hplain.dtr_serialSetRts]
  exact h.dtr

theorem clrRts (new : HandFlow) (bit : Bool)
    (hrts : Holdoff new.rtsHandshake bit false (new.overMark e.rx)) :
    Setup a new c k (e.setRxRts bit).serialClrRts := by
  have hplain : PlainBoard (e.setRxRts bit) := h.plain.congr_rx rfl rfl
  refine ⟨hplain.congr_rx rfl rfl, h.input, ?_, ?_, h.xoff⟩
  · rw [hplain.dtr_serialClrRts]
    exact h.dtr
  · rw [hplain.rts_serialClrRts]
    exact hrts

/-! ### The way to the toggle mode -/

omit [Uart U] in
theorem congr {e' : Extension (Board U)} (hs : SameFlow e e') (hrx : e'.rx = e.rx) :
    Setup a b c k e' := by
  refine ⟨h.plain.congr hs, ?_, ?_, ?_, ?_⟩
  · rw [xoffInput, hrx, hs.handFlow]
    exact h.input
  all_goals rw [hrx]
  · rw [Board.dtr, hs.mcr]
    exact h.dtr
  · rw [Board.rts, hs.mcr]
    exact h.rts
  · exact h.xoff

theorem lsr (hquiet : lineError (Uart.read .lsr e.uart).1 = false) :
    Setup a b c k e.serialProcessLsr.2 ∧
      e.serialProcessLsr.2.uart = (Uart.read .lsr e.uart).2 := by
  have heq : e.serialProcessLsr.2 =
      (e.readReg .lsr).2.setHoldingEmpty (has (e.readReg .lsr).1 lsrThre) := by
    have hread : lineError (e.readReg .lsr).1 = false := hquiet
    simp [serialProcessLsr, processLineStatus, hread]
  rw [heq]
  exact ⟨h.congr ⟨rfl, rfl, rfl, rfl, rfl, rfl, rfl⟩ rfl, rfl⟩

theorem perhapsLowerRts (hquiet : lineError (Uart.read .lsr e.uart).1 = false) :
    Setup a b c k e.serialPerhapsLowerRts := by
  have htry : Setup a b c k e.tryToLowerRts := by
    refine rel_ite (R := fun _ => Setup a b c k) (e := e) (fun _ => ?_) (fun _ => h)
    have hlsr := (h.lsr hquiet).1
    refine rel_ite (R := fun _ => Setup a b c k) (e := e) (fun _ => ?_) (fun _ => ?_)
    · exact hlsr.clrRts _ e.serialProcessLsr.2.rx.rxHolding.rts hlsr.rts.lower
    · unfold insertStartTimerLowerRts
      split
      · exact hlsr
      · exact hlsr.congr ⟨rfl, rfl, rfl, rfl, rfl, rfl, rfl⟩ rfl
  exact htry.congr ⟨rfl, rfl, rfl, rfl, rfl, rfl, rfl⟩ rfl

theorem setupToggle (hoff : b.rtsHandshake = false)
    (hquiet : e.tx.txHolding.brk = false → QuietLine e.uart) : Setup a b c k e.setupToggle := by
  have hset {e : Extension (Board U)} (h : Setup a b c k e) : Setup a b c k e.serialSetRts :=
    h.setRts _ e.rx.rxHolding.rts fun up => h.rts.of_off hoff up
  unfold Extension.setupToggle
  split
  · exact hset h
  · next hbrk =>
    have hline := hquiet (by simpa using hbrk)
    obtain ⟨hlsr, huart⟩ := h.lsr hline.1
    refine rel_ite (R := fun _ => Setup a b c k) (e := e) (fun _ => hset hlsr) fun _ => ?_
    have hcount : Setup a b c k (e.serialProcessLsr.2.addTryingToLowerRts 1) :=
      hlsr.congr ⟨rfl, rfl, rfl, rfl, rfl, rfl, rfl⟩ rfl
    refine hcount.perhapsLowerRts ?_
    show lineError (Uart.read .lsr e.serialProcessLsr.2.uart).1 = false
    rw [huart]
    exact hline.2

theorem setupRts (new : HandFlow) (hb : b.rtsMask = e.handFlow.rtsMask)
    (hkeep : new.overMark e.rx → new.rtsMask = e.handFlow.rtsMask → new.rtsHandshake = true →
      e.rx.rxHolding.rts = true)
    (hquiet : new.rtsMask ≠ e.handFlow.rtsMask → new.transmitToggle = true →
      e.tx.txHolding.brk = false → QuietLine e.uart) : Setup a new c k (e.setupRts new) := by
  unfold Extension.setupRts
  split
  -- the mode of RTS changes
  · next hne =>
    have hmask : e.handFlow.rtsMask ≠ new.rtsMask := by simpa using hne
    split
    · next hmode =>
      unfold setupRtsHandshake
      split
      · next hbelow =>
        have hoff : b.rtsHandshake = false := by
          have hnew : new.rtsMask = 0x80 := beq_iff_eq.mp hmode
          rw [HandFlow.rtsHandshake, hb]
          simpa [hnew] using hmask
        have hclear := h.rts.held_eq_false hoff
        rw [if_neg (by simp [hclear])]
        have hset := h.setRts new false fun up =>
          .release up (not_overMark_of_below hbelow)
        rwa [← hclear] at hset
      · exact h.clrRts _ _ (.hold hmode)
    · next hmode =>
      have hoff : new.rtsHandshake = false := by simpa using hmode
      split
      · exact h.setRts _ _ fun up => .off up hoff
      · split
        · next htoggle =>
          have henter : Setup a new c k (e.setRxRts false).enterToggle :=
            ⟨⟨h.plain.card, h.plain.acr, h.plain.register⟩,
              .trans (xoffInput_enterToggle _) h.input, h.dtr, .off _ hoff, h.xoff⟩
          exact henter.setupToggle hoff fun hbrk => hquiet hmask.symm htoggle hbrk
        · exact h.clrRts _ _ (.off _ hoff)
  -- the mode stays: whoever is held off stays so while the mark is passed
  · next heq =>
    have hmask : new.rtsMask = e.handFlow.rtsMask := by
      simp only [bne_iff_ne, ne_eq, Decidable.not_not] at heq
      exact heq.symm
    have hmode : new.rtsHandshake = b.rtsHandshake := by
      rw [HandFlow.rtsHandshake, HandFlow.rtsHandshake, hmask, hb]
    refine ⟨h.plain, h.input, h.dtr, ?_, h.xoff⟩
    rw [hmode]
    exact h.rts.fill fun hover hon => hkeep hover hmask (hmode.trans hon)

theorem prod (s : Bool) : Setup a b c k (e.serialProdXonXoff s) := by
  unfold serialProdXonXoff
  split <;> exact h.congr ⟨rfl, rfl, rfl, rfl, rfl, rfl, rfl⟩ rfl

theorem setupAutoReceive (new : HandFlow) (hc : c.autoReceive = e.handFlow.autoReceive)
    (hkeep : new.overMark e.rx → new.autoReceive = e.handFlow.autoReceive →
      new.autoReceive = true → e.rx.rxHolding.xoff = true) :
    ∃ k', k'.2.2 = k.2.2 ∧ Setup a b new k' (e.setupAutoReceive new) := by
  have hbit (bit : Bool)
      (hxoff : Holdoff new.autoReceive bit false (new.overMark e.rx)) (s : Bool) :
      ∃ k', k'.2.2 = k.2.2 ∧ Setup a b new k' ((e.setRxXoff bit).serialProdXonXoff s) := by
    have hset : Setup a b new (e.setRxXoff bit).xoffInput (e.setRxXoff bit) :=
      ⟨h.plain.congr_rx rfl rfl, rfl, h.dtr, h.rts, hxoff⟩
    exact ⟨_, congrArg (·.2.2) h.input, hset.prod s⟩
  unfold Extension.setupAutoReceive
  split
  -- XON/XOFF for input is switched on or off
  · next hne =>
    have hother : c.autoReceive ≠ new.autoReceive := by
      rw [hc]
      simpa using hne
    split
    · next hon =>
      have hoff : c.autoReceive = false := by simpa [hon] using hother
      split
      · next hbelow =>
        refine ⟨k, rfl, h.plain, h.input, h.dtr, h.rts, ?_⟩
        rw [h.xoff.held_eq_false hoff]
        exact .release _ (not_overMark_of_below hbelow)
      · exact hbit true (.hold hon) false
    · next hon =>
      have hoff : new.autoReceive = false := by simpa using hon
      split
      · exact hbit false (.off _ hoff) true
      · next hclear =>
        refine ⟨k, rfl, h.plain, h.input, h.dtr, h.rts, ?_⟩
        rw [(by simpa using hclear : e.rx.rxHolding.xoff = false)]
        exact .off _ hoff
  -- it stays as it is
  · next heq =>
    have hsame : new.autoReceive = e.handFlow.autoReceive := by
      simp only [bne_iff_ne, ne_eq, Decidable.not_not] at heq
      exact heq.symm
    refine ⟨k, rfl, h.plain, h.input, h.dtr, h.rts, ?_⟩
    rw [hsame, ← hc]
    exact h.xoff.fill fun hover hon => hkeep hover hsame (hsame.trans (hc ▸ hon))

theorem setupAutoTransmit (new : HandFlow) : Setup a b c k (e.setupAutoTransmit new) := by
  unfold Extension.setupAutoTransmit
  split
  · have hset : Setup a b c k (e.setTxXoff false) :=
      h.congr ⟨rfl, rfl, rfl, rfl, rfl, rfl, rfl⟩ rfl
    exact hset.prod true
  · exact h

end Setup

/-! ### All of it -/

theorem KeepsFlow.setupToggle {e : Extension (Board U)} (h : e.handFlow.transmitToggle = true) :
    KeepsFlow e e.setupToggle := by
  have hcfg := cfg_sharedRule.statusRule.serialProcessLsr e
  have hmode : e.serialProcessLsr.2.handFlow.rtsHandshake = false := by
    rw [Extension.handFlow, hcfg]
    exact rtsHandshake_of_toggle h
  have hraise (status : UInt8) :
      KeepsFlow e.serialProcessLsr.2 (e.serialProcessLsr.2.raiseOrLowerRts status) :=
    rel_ite (fun _ => serialSetRts hmode)
      (fun _ => (addTryingToLowerRts _ 1).trans (serialPerhapsLowerRts _))
  exact rel_ite (fun _ => serialSetRts (rtsHandshake_of_toggle h))
    (fun _ => (statusRule.serialProcessLsr e).trans (hraise _))

/-- What the setup of DTR leaves as it is. -/
def BesidesDtr (e e' : Extension U) : Prop :=
  e'.cfg = e.cfg ∧ e'.tx = e.tx ∧
    e'.rx = { e.rx with rxHolding := { e.rx.rxHolding with dtr := e'.rx.rxHolding.dtr } }

theorem besidesDtr_setupDtr (new : HandFlow) (e : Extension U) : BesidesDtr e (e.setupDtr new) := by
  have hset (e : Extension U) : BesidesDtr e e.serialSetDtr := by
    unfold serialSetDtr
    split <;> exact ⟨rfl, rfl, rfl⟩
  have hrelease (e : Extension U) : BesidesDtr e (e.setRxDtr false).serialSetDtr := by
    unfold serialSetDtr
    split <;> exact ⟨rfl, rfl, rfl⟩
  have hhold (b : Bool) (e : Extension U) : BesidesDtr e (e.setRxDtr b).serialClrDtr := by
    unfold serialClrDtr
    split <;> exact ⟨rfl, rfl, rfl⟩
  have hrefl (e : Extension U) : BesidesDtr e e := ⟨rfl, rfl, rfl⟩
  have hshake : BesidesDtr e (e.setupDtrHandshake new) :=
    rel_ite (fun _ => rel_ite (fun _ => rel_ite (fun _ => hrelease e) (fun _ => hrefl e))
      (fun _ => hset e)) (fun _ => hhold true e)
  exact rel_ite (fun _ => rel_ite (fun _ => rel_ite (fun _ => hshake) (fun _ => hrelease e))
    (fun _ => hhold false e)) (fun _ => hrefl e)

theorem cfg_setupToggle (e : Extension U) : e.setupToggle.cfg = e.cfg := by
  have hlower (e : Extension U) : (e.addTryingToLowerRts 1).serialPerhapsLowerRts.cfg = e.cfg :=
    cfg_sharedRule.serialPerhapsLowerRts (fun _ _ => rfl) (e.addTryingToLowerRts 1)
  have hraise (status : UInt8) (e : Extension U) : (e.raiseOrLowerRts status).cfg = e.cfg :=
    rel_ite (R := fun e e' : Extension U => e'.cfg = e.cfg) (fun _ => rfl) (fun _ => hlower e)
  exact rel_ite (R := fun e e' : Extension U => e'.cfg = e.cfg) (fun _ => rfl)
    (fun _ => (hraise _ _).trans (cfg_sharedRule.statusRule.serialProcessLsr e))

/-- The interrupt buffer is replaced by the read path only. -/
theorem bufferSize_flowRule :
    FlowRule fun e e' : Extension U => e'.rx.bufferSize = e.rx.bufferSize where
  refl _ := rfl
  trans h h' := h'.trans h
  readReg _ _ := rfl
  writeReg _ _ _ _ _ := rfl
  events _ _ _ _ := rfl
  txHolding _ _ := rfl
  holdingEmpty _ _ := rfl
  special _ b := by cases b <;> rfl
  rxHolding _ _ := rfl
  tryingToLowerRts _ _ := rfl
  insertDpc _ _ _ := rfl
  answerWait _ _ := congrArg Rx.bufferSize (rx_modifyCurrent _ _ _)
  countXoff e := by
    have hfill := congrArg (·.2.1.2.2) (shared_countXoff e)
    exact hfill
  storeUser e c _ := by
    have hput : (e.putUser c).rx.bufferSize = e.rx.bufferSize :=
      congrArg (·.2.2) (fill_putUser c e)
    unfold storeUser
    split
    · show ((e.putUser c).resetRing.modifyCurrent .read _).rx.bufferSize = e.rx.bufferSize
      rw [rx_modifyCurrent]
      exact hput
    · exact hput
  putRing _ _ _ _ := rfl
  overwriteLast _ _ _ := rfl
  handFlow _ _ := rfl

namespace InputFlow

variable {e : Extension (Board U)} {new : HandFlow} (h : InputFlow e)
include h

/-- Nothing is stored on the way. -/
theorem setup_of_quiet (hsafe : SafeHandFlow new e)
    (hquiet : new.rtsMask ≠ e.handFlow.rtsMask → new.transmitToggle = true →
      e.tx.txHolding.brk = false → QuietLine (e.setupDtr new).uart) :
    ∃ k, k.2.2.2.2 = e.rx.bufferSize ∧
      Setup new new new k (((e.setupDtr new).setupRts new).setupAutoReceive new) := by
  have hstart : Setup e.handFlow e.handFlow e.handFlow e.xoffInput e :=
    ⟨h.plain, rfl, h.heldOff.dtr, h.heldOff.rts, h.heldOff.xoff⟩
  have hdtr := hstart.setupDtr rfl hsafe.dtr
  obtain ⟨hcfg, htx, hrx⟩ := besidesDtr_setupDtr new e
  have hflow : (e.setupDtr new).handFlow = e.handFlow := congrArg Config.handFlow hcfg
  have hover : new.overMark (e.setupDtr new).rx → new.overMark e.rx := by
    rw [hrx]
    exact id
  have hrts := hdtr.setupRts new (by rw [hflow])
    (fun hmark hmask hon => by
      rw [hrx]
      exact hsafe.rts (hover hmark) (by rwa [hflow] at hmask) hon)
    (fun hmask htoggle hbrk => hquiet (by rwa [hflow] at hmask) htoggle (by rwa [htx] at hbrk))
  have hinput := hrts.input
  simp only [xoffInput, Prod.mk.injEq] at hinput
  obtain ⟨hmode, hbit, hfill⟩ := hinput
  obtain ⟨k, hk, hxoff⟩ := hrts.setupAutoReceive new (by rw [hmode])
    (fun hmark hsame hon => by
      rw [hbit]
      exact hsafe.xoff ((overMark_congr hfill).mp hmark) (by rw [hsame, hmode]) hon)
  exact ⟨k, congrArg (·.2.2) hk, hxoff⟩

/-- The marks stay as they are, so that characters may be stored on the way. -/
theorem setup_of_sameMarks (hmarks : SameMarks e.handFlow new)
    (hmask : new.rtsMask ≠ e.handFlow.rtsMask) (htoggle : new.transmitToggle = true) :
    ∃ k, k.2.2.2.2 = e.rx.bufferSize ∧
      Setup new new new k (((e.setupDtr new).setupRts new).setupAutoReceive new) := by
  have hoff := KeepsFlow.rtsHandshake_of_toggle htoggle
  have hdtr : e.setupDtr new = e := if_neg (by simp [hmarks.1])
  -- toggle mode is new: RTS is raised, and RtsHandshake is off before and after
  have hrts : e.setupRts new = (e.setRxRts false).enterToggle.setupToggle := by
    have hcontrol : new.rtsControl = false := by
      have hmode : new.rtsMask = 0xc0 := beq_iff_eq.mp htoggle
      rw [HandFlow.rtsControl, hmode]
      rfl
    simp [Extension.setupRts, hmask.symm, hoff, hcontrol, htoggle]
  have henter : (e.setRxRts false).enterToggle.handFlow.transmitToggle = true := by
    show ((e.handFlow.flowReplace &&& ~~~0xc0) ||| 0xc0) &&& 0xc0 == 0xc0
    rw [fill_and_self]
    rfl
  have hentered : InputFlow (e.setRxRts false).enterToggle := by
    have hinput := congrArg (·.1) (xoffInput_enterToggle (e.setRxRts false))
    have hmode : (e.setRxRts false).enterToggle.handFlow.autoReceive = e.handFlow.autoReceive :=
      hinput
    refine ⟨⟨h.plain.card, h.plain.acr, h.plain.register⟩, h.limits, h.heldOff.dtr,
      .off _ (KeepsFlow.rtsHandshake_of_toggle henter), ?_⟩
    rw [hmode]
    exact h.heldOff.xoff
  -- none of that changes what decides about the marks
  have hcfg := cfg_setupToggle (e.setRxRts false).enterToggle
  have hsize := bufferSize_flowRule.setupToggle (e.setRxRts false).enterToggle
  have hflow := (KeepsFlow.setupToggle henter).1 hentered
  have hinput : (e.setRxRts false).enterToggle.handFlow.autoReceive = e.handFlow.autoReceive :=
    congrArg (·.1) (xoffInput_enterToggle (e.setRxRts false))
  rw [hdtr, hrts]
  generalize (e.setRxRts false).enterToggle.setupToggle = e₂ at hcfg hsize hflow
  have hmode : e₂.handFlow.dtrMask = e.handFlow.dtrMask := by rw [Extension.handFlow, hcfg]; rfl
  have hreceive : e₂.handFlow.autoReceive = e.handFlow.autoReceive := by
    rw [Extension.handFlow, hcfg]
    exact hinput
  have hlimit : e₂.handFlow.xoffLimit = e.handFlow.xoffLimit := by
    rw [Extension.handFlow, hcfg]
    rfl
  have hover : new.overMark e₂.rx ↔ e₂.handFlow.overMark e₂.rx := by
    rw [HandFlow.overMark, HandFlow.overMark, hmarks.2.2, hlimit]
  -- with equal marks, who is held off now is held off under the new settings
  have hsetup : Setup new new new e₂.xoffInput e₂ := by
    have hdtr : new.dtrHandshake = e₂.handFlow.dtrHandshake := by
      rw [HandFlow.dtrHandshake, HandFlow.dtrHandshake, hmode, hmarks.1]
    have hxoff : new.autoReceive = e₂.handFlow.autoReceive := by rw [hreceive, hmarks.2.1]
    have hrts : e₂.handFlow.rtsHandshake = false := by
      rw [Extension.handFlow, hcfg]
      exact KeepsFlow.rtsHandshake_of_toggle henter
    refine ⟨hflow.plain, rfl, ?_, ?_, ?_⟩
    · rw [hdtr]
      exact hflow.heldOff.dtr.drain hover.mp
    · rw [hflow.heldOff.rts.held_eq_false hrts]
      exact .off _ hoff
    · rw [hxoff]
      exact hflow.heldOff.xoff.drain hover.mp
  -- what is left is the XOFF side
  obtain ⟨k, hk, hlast⟩ := hsetup.setupAutoReceive new (by rw [hreceive, hmarks.2.1])
    (fun hmark _ hon => hsetup.xoff.held_of_over hmark hon)
  exact ⟨k, (congrArg (·.2.2) hk).trans hsize, hlast⟩

/-- **New handshaking** keeps the law if it is safe. -/
theorem serialSetHandFlow (hsafe : SafeHandFlow new e) : InputFlow (e.serialSetHandFlow new) := by
  have hcard : e.handFlowForCard new = new := by simp [handFlowForCard, h.plain.card]
  have hsetup : ∃ k, k.2.2.2.2 = e.rx.bufferSize ∧
      Setup new new new k (((e.setupDtr new).setupRts new).setupAutoReceive new) := by
    by_cases htoggle : new.rtsMask ≠ e.handFlow.rtsMask ∧ new.transmitToggle = true ∧
        e.tx.txHolding.brk = false
    · rcases hsafe.toggle htoggle.1 htoggle.2.1 htoggle.2.2 with hmarks | hline
      · exact h.setup_of_sameMarks hmarks htoggle.1 htoggle.2.1
      · exact h.setup_of_quiet hsafe fun _ _ _ => hline
    · exact h.setup_of_quiet hsafe fun hmask hmode hbrk => absurd ⟨hmask, hmode, hbrk⟩ htoggle
  obtain ⟨k, hk, hsetup⟩ := hsetup
  have hlast := hsetup.setupAutoTransmit new
  have hsize := congrArg (·.2.2.2.2) hlast.input
  rw [hk] at hsize
  have hflow : InputFlow (e.serialSetupNewHandFlow new) := by
    refine ⟨⟨hlast.plain.card, hlast.plain.acr, hlast.plain.register⟩, ?_,
      hlast.dtr, hlast.rts, hlast.xoff⟩
    have hsize' : (e.serialSetupNewHandFlow new).rx.bufferSize = e.rx.bufferSize :=
      hsize
    rw [hsize']
    exact hsafe.limits
  unfold Extension.serialSetHandFlow
  rw [hcard]
  exact (KeepsFlow.statusRule.serialHandleModemUpdate false _).1 hflow

end InputFlow

/-- The last look at the modem status sets `SERIAL_RX_DSR` right. -/
theorem followsDsr_serialHandleModemUpdate (b : Bool) (e : Extension (Board U)) :
    FollowsDsr (e.serialHandleModemUpdate b).2 := by
  have hbody (put : UInt8 → Extension (Board U) → Extension (Board U)) (b : Bool)
      (e : Extension (Board U)) : FollowsDsr (e.modemUpdateWith put b).2 := by
    have hfollow (status : UInt8) (e : Extension (Board U)) : FollowsDsr (e.followDsr status) := by
      intro hdsr
      have hboth : (e.handFlow.dsrSensitivity && !has status msrDsr) = true := hdsr
      simp only [Bool.and_eq_true] at hboth
      exact hboth.1
    have hlast := (KeepsFlow.statusRule (U := U)).modemEvents (e.readReg .msr).1
      (((e.readReg .msr).2.insertMst put (e.readReg .msr).1).followDsr (e.readReg .msr).1)
    exact (hlast.trans (KeepsFlow.modemHolding _ _ _ _)).2 (hfollow _ _)
  unfold serialHandleModemUpdate
  cases Uart.modemChanges e.uart with
  | zero => exact hbody _ b e
  | succ n => exact hbody _ b e

/-! ## A larger buffer -/

/-- The mark that comes with an interrupt buffer of `size` has not been reached, or the sender is
held already. -/
def SafeResize (size : Nat) (e : Extension U) : Prop :=
  size - size / 8 ≤ e.rx.charsInInterruptBuffer → e.handFlow.holds e.rx.rxHolding

theorem KeepsFlow.serialUpdateAndSwitchToNew {e : Extension (Board U)} {n : Nat}
    {buffer : List UInt8} (hreceived : Received (.moved n buffer) e.reception)
    (hsafe : SafeResize buffer.length e) : KeepsFlow e (e.serialUpdateAndSwitchToNew n buffer) := by
  have hlength := (moved_moveToNew hreceived).2
  have hroom : e.rx.bufferSize < buffer.length := hreceived.phase.1
  unfold Extension.serialUpdateAndSwitchToNew
  refine .trans ?_ (KeepsFlow.serialHandleReducedIntBuffer _)
  refine ⟨fun h => ⟨h.plain.congr_rx_cfg rfl rfl rfl, ?_, ?_⟩, id⟩
  · show buffer.length / 2 < List.length _ - buffer.length / 8
    rw [hlength]
    omega
  · have hheld (hover : HandFlow.overMark
        { e.handFlow with xoffLimit := buffer.length / 8, xonLimit := buffer.length / 2 }
        (e.installBuffer (e.moveToNew (e.rx.charsInInterruptBuffer - n) n buffer)).rx) :
        e.handFlow.holds e.rx.rxHolding := by
      have hmark : List.length _ - buffer.length / 8 ≤ e.rx.charsInInterruptBuffer := hover.2
      rw [hlength] at hmark
      exact hsafe hmark
    exact ⟨h.heldOff.dtr.fill fun hover => (hheld hover).1,
      h.heldOff.rts.fill fun hover => (hheld hover).2.1,
      h.heldOff.xoff.fill fun hover => (hheld hover).2.2⟩

/-! ## Steps -/

namespace Extension

/-- The handshaking that the step sets up. -/
def newHandFlow (l : Label (Uart.Input U)) (e : Extension U) : Option HandFlow :=
  match l with
  | .callback (.setHandFlow new) =>
    if e.serialCompleteIfError || e.handFlowRefused new then none else some new
  | _ => none

/-- The size of the interrupt buffer that takes over in the step. -/
def newSize (l : Label (Uart.Input U)) (e : Extension U) : Option Nat :=
  match l, e.pc with
  | .readStep, .moved _ buffer => some buffer.length
  | _, _ => none

/-- The states in which the step writes `XonChar`. -/
def xons (l : Label (Uart.Input U)) (e : Extension U) : List (Extension U) :=
  match l with
  | .isr fuel => e.serialIsrXons fuel
  | _ => []

end Extension

theorem KeepsFlow.lowerRule : LowerRule (KeepsFlow (U := U)) where
  expireLowerRts _ _ := of_same ⟨rfl, rfl, rfl, rfl, rfl, rfl, rfl⟩
  startTimerLowerRts e _ := by
    have htake : KeepsFlow e (e.takeDpc .startTimerLowerRts) :=
      of_same ⟨rfl, rfl, rfl, rfl, rfl, rfl, rfl⟩
    have hset (e : Extension (Board U)) : KeepsFlow e (e.serialSetTimer .lowerRts).2 :=
      of_same ⟨rfl, rfl, rfl, rfl, rfl, rfl, rfl⟩
    exact htake.trans (rel_ite (fun _ => (hset _).trans (addTryingToLowerRts _ _))
      (fun _ => hset _))
  lowerRtsTimer e _ := by
    have htake : KeepsFlow e (e.takeTimer .lowerRts) :=
      of_same ⟨rfl, rfl, rfl, rfl, rfl, rfl, rfl⟩
    exact htake.trans (serialPerhapsLowerRts _)

/-! The conditions can be checked. -/

section
omit [Uart U]

instance (hf : HandFlow) (x : Rx) : Decidable (hf.overMark x) :=
  inferInstanceAs (Decidable (_ ∧ _))

instance (hf : HandFlow) (y : RxHolding) : Decidable (hf.holds y) :=
  inferInstanceAs (Decidable (_ ∧ _ ∧ _))

instance (old new : HandFlow) : Decidable (SameMarks old new) :=
  inferInstanceAs (Decidable (_ ∧ _ ∧ _))

instance (size : Nat) (e : Extension U) : Decidable (SafeResize size e) :=
  inferInstanceAs (Decidable (_ → _))

end

instance (u : U) : Decidable (QuietLine u) := inferInstanceAs (Decidable (_ ∧ _))

instance (new : HandFlow) (e : Extension (Board U)) : Decidable (SafeHandFlow new e) :=
  decidable_of_iff (_ ∧ _ ∧ _ ∧ _ ∧ _)
    ⟨fun h => ⟨h.1, h.2.1, h.2.2.1, h.2.2.2.1, h.2.2.2.2⟩,
      fun h => ⟨h.limits, h.dtr, h.rts, h.xoff, h.toggle⟩⟩

end SerialFc
