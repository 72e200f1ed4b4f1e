import SerialFc.Properties.XonTiming

/-!
# Receive flow control

The sender is held off over the mark, in every run whose steps are safe. The ISR is one of those
that could let it go on: it clears the XOFF bit of `RXHolding` when it sends the XON.

* `SafeStep` — new limits, a new size and a pending XON meet their conditions
* `FlowReady` — the law of the lines with what a pending XON finds
-/

namespace SerialFc

open Extension Lib

variable {U : Type} [Uart U]

/-- What the steps have to meet that could lift the law: new handshaking, a new interrupt buffer,
and what comes in while an XON is pending. -/
def SafeStep (l : Label (Uart.Input (Board U))) (e : Extension (Board U)) : Prop :=
  (∀ new ∈ e.newHandFlow l, SafeHandFlow new e) ∧ (∀ size ∈ e.newSize l, SafeResize size e) ∧
    TimelyStep l e

/-- The law, and that a pending XON finds the buffer below the mark. -/
structure FlowReady (e : Extension (Board U)) : Prop extends XonReady e where
  flow : InputFlow e
  dsr : FollowsDsr e

/-- **Step lemma.** -/
theorem FlowReady.step {l : Label (Uart.Input (Board U))} {e e' : Extension (Board U)}
    (h : FlowReady e) (hstep : step l e = some e') (hsafe : SafeStep l e) : FlowReady e' := by
  have hisr (hisr : l.isIsr = true) : KeepsFlow e e' := by
    cases l with
    | isr fuel =>
      -- the XON of the pass finds the buffer below the mark
      have hbelow := h.low.below_mark hstep hsafe.2.2
      cases fires_of_step hstep with
      | isr hpass =>
        exact KeepsFlow.sendRule.serialIsr hpass fun x hx => KeepsFlow.transmitXon (hbelow x hx)
    | _ => cases hisr
  have hset (new : HandFlow) (hl : l = .callback (.setHandFlow new))
      (herror : e.serialCompleteIfError = false) (hrefused : e.handFlowRefused new = false) :
      KeepsFlow e (e.serialSetHandFlow new) := by
    subst hl
    have hnew : new ∈ e.newHandFlow (.callback (.setHandFlow new)) := by
      simp [newHandFlow, herror, hrefused]
    exact ⟨fun hflow => hflow.serialSetHandFlow (hsafe.1 new hnew),
      fun _ => followsDsr_serialHandleModemUpdate false _⟩
  have hresize (n : Nat) (buffer : List UInt8) (hl : l = .readStep)
      (hpc : e.pc = .moved n buffer) : KeepsFlow e (e.serialUpdateAndSwitchToNew n buffer) := by
    subst hl
    have hreceived : Received (.moved n buffer) e.reception := hpc ▸ h.receiving
    exact .serialUpdateAndSwitchToNew hreceived (hsafe.2.1 buffer.length (by simp [newSize, hpc]))
  have hkeep := (KeepsFlow.callbackRule.step hstep (fun _ _ => id) hisr
    (KeepsFlow.lowerRule.step hstep) hset (fun n b hl _ hpc => hresize n b hl hpc)
    h.disciplined.accounted).2
  exact ⟨h.toXonReady.step hstep hsafe.2.2, hkeep.1 h.flow, hkeep.2 h.dsr⟩

/-- **Run lemma.** -/
theorem flowReady_run {chip : U} {cfg : Config} {size : Nat}
    {ls : List (Label (Uart.Input (Board U)))} {e : Extension (Board U)} (hsize : 0 < size)
    (hcard : cfg.cardType ≠ .pcie) (hacr : has cfg.acr 0x80 = false)
    (hrun : run step ls (opened (Board.start chip) cfg size) = some e)
    (hsafe : RunMeets step SafeStep ls (opened (Board.start chip) cfg size)) : FlowReady e := by
  refine run_invariant_of_meets (fun _ _ _ hstep hsafe h => h.step hstep hsafe) hrun hsafe
    ⟨xonReady_opened _ cfg hsize, ⟨⟨?_, hacr, rfl⟩, ?_, ?_⟩, nofun⟩
  · exact beq_eq_false_iff_ne.mpr hcard
  · show size / 2 < size - size / 8
    omega
  · have hover : ¬HandFlow.overMark { cfg.handFlow with xoffLimit := size / 8, xonLimit := size / 2 }
        (opened (Board.start chip) cfg size).rx := by
      rintro ⟨-, hmark⟩
      have hfull : size - size / 8 ≤ 0 := hmark
      omega
    exact ⟨.release _ hover, .release _ hover, .release _ hover⟩

/-- What receive flow control is for: a bit of `RXHolding` is set only while its mechanism is
switched on, with the line down, and the sender is held by every mechanism that is switched on
while the interrupt buffer is over the mark. -/
structure ReceiveFlow (e : Extension (Board U)) : Prop where
  dtr : e.rx.rxHolding.dtr = true → e.handFlow.dtrHandshake = true ∧ e.uart.dtr = false
  rts : e.rx.rxHolding.rts = true → e.handFlow.rtsHandshake = true ∧ e.uart.rts = false
  xoff : e.rx.rxHolding.xoff = true → e.handFlow.autoReceive = true
  dsr : e.rx.rxHolding.dsr = true → e.handFlow.dsrSensitivity = true
  held : e.handFlow.overMark e.rx → e.handFlow.holds e.rx.rxHolding

/-- **Receive flow control.** A port with RS485 off, on a card whose DTR line is DTR, comes in a run
of safe steps only to states in which its sender is held off over the mark. -/
theorem receive_flow_invariant {chip : U} {cfg : Config} {size : Nat}
    {ls : List (Label (Uart.Input (Board U)))} {e : Extension (Board U)} (hsize : 0 < size)
    (hcard : cfg.cardType ≠ .pcie) (hacr : has cfg.acr 0x80 = false)
    (hrun : run step ls (opened (Board.start chip) cfg size) = some e)
    (hsafe : RunMeets step SafeStep ls (opened (Board.start chip) cfg size)) : ReceiveFlow e := by
  have hready := flowReady_run hsize hcard hacr hrun hsafe
  obtain ⟨hdtr, hrts, hxoff⟩ := hready.flow.heldOff
  exact ⟨fun h => ⟨hdtr.enabled_of_held h, hdtr.down_of_held h⟩,
    fun h => ⟨hrts.enabled_of_held h, hrts.down_of_held h⟩, hxoff.enabled_of_held, hready.dsr,
    fun hover => ⟨hdtr.held_of_over hover, hrts.held_of_over hover, hxoff.held_of_over hover⟩⟩

instance (l : Label (Uart.Input (Board U))) (e : Extension (Board U)) : Decidable (SafeStep l e) :=
  inferInstanceAs (Decidable (_ ∧ _ ∧ _))

/-- Six characters fill the buffer up to the mark: DTR, RTS and XOFF hold the sender. A read takes
four of them, and the ISR sends the XON. -/
def fillAndDrain : List (Label Chip.Input) :=
  [.callback (.setHandFlow ⟨0x02, 0x82, 2, 2⟩),
    .hardware (.receive ⟨1, 0⟩), .hardware (.receive ⟨2, 0⟩), .hardware (.receive ⟨3, 0⟩),
    .hardware (.receive ⟨4, 0⟩), .hardware (.receive ⟨5, 0⟩), .hardware (.receive ⟨6, 0⟩), .isr 9,
    .callback (.evtIoRead 4), .readStep, .readStep, .readStep, .readStep,
    .hardware (.shift 1), .isr 9]

theorem receive_flow_invariant_fillAndDrain :
    ∃ e, run step fillAndDrain (opened (Board.start Chip.idle) .plain 8) = some e ∧
      (e.uart.sent == [(0x13, false), (0x11, true)] && e.rx.rxHolding == .none) = true ∧
        ReceiveFlow e := by
  have hrun : (run step fillAndDrain (opened (Board.start Chip.idle) .plain 8)).any
      (fun e => e.uart.sent == [(0x13, false), (0x11, true)] && e.rx.rxHolding == .none) = true := by
    decide +kernel
  obtain ⟨e, he, hdrained⟩ := (Option.any_eq_true _ _).mp hrun
  have hsafe : RunMeets step SafeStep fillAndDrain (opened (Board.start Chip.idle) .plain 8) := by
    decide +kernel
  exact ⟨e, he, hdrained, receive_flow_invariant (by decide) (by decide) (by decide) he hsafe⟩

/-- Eight characters are below the mark until new handshaking lowers it, and nothing else. -/
def lowerMark : List (Label Chip.Input) :=
  [.callback (.setHandFlow ⟨0x02, 0, 4, 2⟩),
    .hardware (.receive ⟨1, 0⟩), .hardware (.receive ⟨2, 0⟩), .hardware (.receive ⟨3, 0⟩),
    .hardware (.receive ⟨4, 0⟩), .hardware (.receive ⟨5, 0⟩), .hardware (.receive ⟨6, 0⟩),
    .hardware (.receive ⟨7, 0⟩), .hardware (.receive ⟨8, 0⟩), .isr 9,
    .callback (.setHandFlow ⟨0x02, 0, 4, 10⟩)]

/-- `XonLimit` is below the mark. -/
def LimitsApart (e : Extension U) : Prop :=
  e.handFlow.xonLimit < e.rx.bufferSize - e.handFlow.xoffLimit

instance (e : Extension U) : Decidable (LimitsApart e) := inferInstanceAs (Decidable (_ < _))

/-- New limits alone let the sender go on over the mark. -/
theorem receive_flow_lowerMark :
    ¬∀ (ls : List (Label Chip.Input)) (e : Extension (Board Chip)),
      run step ls (opened (Board.start Chip.idle) .plain 16) = some e →
        RunMeets step (fun _ e => LimitsApart e) ls (opened (Board.start Chip.idle) .plain 16) →
          LimitsApart e → ReceiveFlow e := by
  intro hall
  have hrun : (run step lowerMark (opened (Board.start Chip.idle) .plain 16)).any
      (fun e => decide (LimitsApart e) && decide (e.handFlow.overMark e.rx)
        && e.handFlow.dtrHandshake && !e.rx.rxHolding.dtr) = true := by decide +kernel
  obtain ⟨e, he, hstate⟩ := (Option.any_eq_true _ _).mp hrun
  simp only [Bool.and_eq_true, Bool.not_eq_true', decide_eq_true_eq] at hstate
  obtain ⟨⟨⟨hlimits, hover⟩, hmode⟩, hclear⟩ := hstate
  have hflow := hall lowerMark e he (by decide +kernel) hlimits
  exact nomatch hclear.symm.trans ((hflow.held hover).1 hmode)

end SerialFc
