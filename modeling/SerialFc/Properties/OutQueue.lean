import SerialFc.Model.Chip
import SerialFc.Model.CommStatus
import SerialFc.Properties.DeskSteps
import SerialFc.Properties.StreamIntegrity
import SerialFc.Properties.TransmitStream

/-!
# Characters on their way out

`TotalCharsQueued` is changed wherever a write comes, leaves or is cancelled; it is the count of
the desks, and so it is the sum over what is there. `SerialGetCommStatus` reads it.

* `total_chars_queued` — `TotalCharsQueued` in every state of a run
* `comm_status` — what the status tells about what is queued on either side
-/

namespace SerialFc

open Extension Lib

variable {U : Type} {e e' : Extension U}

/-! ## The sum over what is there -/

/-- The characters the requests stand for. -/
def charsOf : List Request → Int
  | [] => 0
  | r :: l => charsQueued r + charsOf l

theorem charsOf_append (l l' : List Request) : charsOf (l ++ l') = charsOf l + charsOf l' := by
  induction l with
  | nil => simp [charsOf]
  | cons r l ih =>
    rw [List.cons_append, charsOf, charsOf, ih]
    omega

theorem charsQueued_nonneg (r : Request) : 0 ≤ charsQueued r := by
  unfold charsQueued
  split <;> omega

theorem charsOf_nonneg (l : List Request) : 0 ≤ charsOf l := by
  induction l with
  | nil => simp [charsOf]
  | cons r l ih =>
    have hr := charsQueued_nonneg r
    rw [charsOf]
    omega

theorem charsOf_eq_zero {l : List Request} (h : ∀ r ∈ l, charsQueued r = 0) : charsOf l = 0 := by
  induction l with
  | nil => rfl
  | cons r l ih =>
    rw [charsOf, h r List.mem_cons_self, ih fun r' hr' => h r' (List.mem_cons_of_mem r hr')]
    omega

theorem weigh_jobs (l : List Request) : deskPlan.weigh (l.map Request.job) = charsOf l := by
  induction l with
  | nil => rfl
  | cons r l ih =>
    rw [List.map_cons, DeskPlan.weigh, charsOf, ih]
    rfl

theorem held_job (s : Slot) (v : Option Request) (hs : s.charged = true) :
    deskPlan.held s (v.map Request.job) = charsOf v.toList := by
  unfold DeskPlan.held
  have hcounted : deskPlan.counted s = true := hs
  rw [hcounted, if_pos rfl]
  cases v with
  | none => rfl
  | some r =>
    show charsQueued r = charsQueued r + 0
    omega

theorem sum_slots (f : Slot → Int) :
    ∑ s, f s = f .read + f .write + f .mask + f .purge + f .wait + f .immediate + f .xoff := by
  show f .read + (f .write + (f .mask + (f .purge + (f .wait + (f .immediate + (f .xoff + 0))))))
    = _
  omega

theorem sum_queues (f : QueueId → Int) :
    ∑ q, f q = f .readQueue + f .writeQueue + f .maskQueue + f .purgeQueue := by
  show f .readQueue + (f .writeQueue + (f .maskQueue + (f .purgeQueue + 0))) = _
  omega

/-- Only the writes, and what waits for them, count. -/
theorem charsOf_queue (hacc : Accounted e) {q : QueueId} (hq : q ≠ .writeQueue) :
    charsOf (e.queue q).waiting = 0 :=
  charsOf_eq_zero fun r hr => charsQueued_eq_zero hq (hacc.waiting q r hr).2.2

theorem charsOf_slot (hacc : Accounted e) {q : QueueId} (hq : q ≠ .writeQueue) :
    charsOf (e.current q.slot).toList = 0 := by
  refine charsOf_eq_zero ?_
  intro r hr
  exact charsQueued_eq_zero hq (hacc.served _ r (Option.mem_toList.mp hr))

/-- What is there: in the write queue, withdrawn from a queue, in the slots. -/
theorem load_desk (hacc : Accounted e) : deskPlan.load e.desk =
    charsOf (e.queue .writeQueue).waiting + charsOf e.canceledOnQueue
      + charsOf (e.current .write).toList + charsOf (e.current .immediate).toList := by
  have hslot (s : Slot) (hs : s.charged = true) :
      deskPlan.held s (e.desk.slot s) = charsOf (e.current s).toList := held_job s _ hs
  have hfree (s : Slot) (hs : s.charged = false) : deskPlan.held s (e.desk.slot s) = 0 :=
    DeskPlan.held_uncounted hs _
  have hline (q : QueueId) :
      deskPlan.weigh (e.desk.line q).waiting = charsOf (e.queue q).waiting := weigh_jobs _
  have hwithdrawn : deskPlan.weigh e.desk.withdrawn = charsOf e.canceledOnQueue := weigh_jobs _
  have hread : charsOf (e.current .read).toList = 0 := charsOf_slot (q := .readQueue) hacc (by simp)
  have hmask : charsOf (e.current .mask).toList = 0 := charsOf_slot (q := .maskQueue) hacc (by simp)
  have hpurge : charsOf (e.current .purge).toList = 0 :=
    charsOf_slot (q := .purgeQueue) hacc (by simp)
  unfold DeskPlan.load
  rw [sum_slots, sum_queues, hwithdrawn, hslot .read rfl, hslot .write rfl, hslot .mask rfl,
    hslot .purge rfl, hslot .immediate rfl, hfree .wait rfl, hfree .xoff rfl, hread, hmask, hpurge,
    hline .readQueue, hline .writeQueue, hline .maskQueue, hline .purgeQueue,
    charsOf_queue hacc (q := .readQueue) (by simp), charsOf_queue hacc (q := .maskQueue) (by simp),
    charsOf_queue hacc (q := .purgeQueue) (by simp)]
  omega

/-! ## Runs -/

theorem balanced_desk [Uart U] {u : U} {cfg : Config} {size : Nat}
    {ls : List (Label (Uart.Input U))} (hrun : run step ls (opened u cfg size) = some e) :
    deskPlan.Balanced e.desk := by
  let Inv (e : Extension U) : Prop := Manned e ∧ deskPlan.Balanced e.desk
  have hstep (l : Label (Uart.Input U)) (s s' : Extension U) (h : step l s = some s') :
      Inv s → Inv s' :=
    fun hs => ⟨hs.1.step h, (moves_step hs.1 h).path.keep
      (fun _ _ _ _ hdoes hbalanced => hbalanced.move hdoes) hs.2⟩
  have hopened : deskPlan.Balanced (opened u cfg size).desk :=
    (load_desk (accounted_opened u cfg size)).symm
  have hend : Inv e := run_invariant hstep hrun ⟨manned_opened u cfg size, hopened⟩
  exact hend.2

/-- The requests whose characters are to go out, or were to go out when they were cancelled. -/
def Extension.outgoing (e : Extension U) : List Request :=
  (e.queue .writeQueue).waiting ++ e.canceledOnQueue ++ (e.current .write).toList
    ++ (e.current .immediate).toList

/-- **`TotalCharsQueued` in every state of a run.** -/
theorem total_chars_queued [Uart U] {u : U} {cfg : Config} {size : Nat}
    {ls : List (Label (Uart.Input U))} (hrun : run step ls (opened u cfg size) = some e) :
    e.totalCharsQueued = charsOf e.outgoing ∧ 0 ≤ e.totalCharsQueued := by
  have hbalanced : e.totalCharsQueued = deskPlan.load e.desk := balanced_desk hrun
  have htotal : e.totalCharsQueued = charsOf e.outgoing := by
    rw [hbalanced, load_desk (manned_run hrun).accounted, outgoing, charsOf_append, charsOf_append,
      charsOf_append]
  refine ⟨htotal, ?_⟩
  rw [htotal]
  exact charsOf_nonneg _

/-- Two of three bytes of a write are on the line, another write waits, and an immediate character
is to go out. -/
def halfSent : List (Label Chip.Input) :=
  [.callback (.evtIoWrite [1, 2, 3]), .callback (.evtIoWrite [4, 5]), .isr 4, .hardware (.shift 1),
    .isr 4, .callback (.immediateChar 9), .hardware (.receive ⟨7, 0⟩), .isr 4]

def Config.oneByte : Config := { Config.plain with txFifoAmount := 1 }

theorem total_chars_queued_halfSent :
    ∃ e, run step halfSent (opened Chip.idle .oneByte 8) = some e ∧
      (e.totalCharsQueued == 6) = true ∧
      e.totalCharsQueued = charsOf e.outgoing ∧ 0 ≤ e.totalCharsQueued := by
  have hrun : (run step halfSent (opened Chip.idle .oneByte 8)).any
      (fun e => e.totalCharsQueued == 6) = true := by decide +kernel
  obtain ⟨e, he, hsix⟩ := (Option.any_eq_true _ _).mp hrun
  exact ⟨e, he, hsix, total_chars_queued he⟩

/-! ## The communication status -/

/-- The bytes on the line of the request that was started last. -/
def Extension.lastSent (e : Extension U) : List UInt8 :=
  ((segments e.wire).head?.map Segment.sent).getD []

theorem orIf_eq_zero (b : Bool) {reason : UInt32} (hreason : reason ≠ 0) (reasons : UInt32) :
    orIf b reason reasons = 0 ↔ b = false ∧ reasons = 0 := by
  unfold orIf
  cases b with
  | false => simp
  | true => simp [UInt32.or_eq_zero_iff, hreason]

theorem holdReasons_eq_zero (t : TxHolding) (r : RxHolding) :
    holdReasons t r = 0 ↔ t.any = false ∧ r.xoff = false ∧ r.dsr = false := by
  unfold holdReasons
  rw [orIf_eq_zero _ (by decide), orIf_eq_zero _ (by decide)]
  unfold txHoldReasons
  split
  · next hany =>
    simp only [TxHolding.any, Bool.or_eq_true] at hany
    rw [orIf_eq_zero _ (by decide), orIf_eq_zero _ (by decide), orIf_eq_zero _ (by decide),
      orIf_eq_zero _ (by decide), orIf_eq_zero _ (by decide)]
    simp [TxHolding.any]
    grind
  · next hany => grind

theorem ofInt_cast (n : Nat) : UInt32.ofInt n = UInt32.ofNat n := by
  have hmod : ((n : Int) % 2 ^ 32).toNat = n % 2 ^ 32 := by omega
  unfold UInt32.ofInt
  rw [hmod]
  apply UInt32.toNat_inj.mp
  simp

/-- What is left of `a`, taken from `n`, when `b` of it are left to send. -/
theorem ofInt_sub_sent (n : Int) (a b : Nat) :
    UInt32.ofInt n - (UInt32.ofNat a - UInt32.ofNat b) = UInt32.ofInt (n - (a - b)) := by
  rw [Int.sub_eq_add_neg, Int.neg_sub, Int.sub_eq_add_neg, UInt32.ofInt_add, UInt32.ofInt_add,
    UInt32.ofInt_neg, ofInt_cast, ofInt_cast, UInt32.sub_eq_add_neg, UInt32.neg_sub,
    UInt32.sub_eq_add_neg]

/-- What `SERIAL_STATUS` says about the port. -/
structure Extension.TellsStatus (e : Extension U) (stat : SerialStatus) : Prop where
  /-- The characters that no read has got. -/
  inQueue : stat.amountInInQueue = .ofNat e.unread.length
  /-- While the ISR is sending a write, its bytes that are on the line do not count any more. -/
  sending : e.tx.writeLength ≠ 0 → ∀ r, e.current .write = some r → r.isWrite = true →
    e.lastSent <+: r.payload ∧ e.lastSent.length < r.length ∧
      stat.amountInOutQueue = .ofInt (charsOf e.outgoing - e.lastSent.length)
  /-- Until it is sent, the character of an XOFF counter counts twice. -/
  counter : e.tx.writeLength ≠ 0 → ∀ r, e.current .write = some r → r.isWrite = false →
    stat.amountInOutQueue = .ofInt (charsOf e.outgoing + 1 - r.length)
  /-- When it has been sent whole, a write counts as a whole until it is completed. -/
  sent : e.tx.writeLength = 0 → stat.amountInOutQueue = .ofInt (charsOf e.outgoing)
  immediate : stat.waitForImmediate = true → (e.current .immediate).isSome = true
  held : stat.holdReasons = 0 ↔
    e.tx.txHolding.any = false ∧ e.rx.rxHolding.xoff = false ∧ e.rx.rxHolding.dsr = false

theorem length_unread_of_idle (h : e.Receiving) (hpc : e.pc = .idle) :
    e.unread.length = e.rx.charsInInterruptBuffer := by
  have hreceived : Received .idle e.reception := by
    rw [← hpc]
    exact h
  unfold Extension.unread
  rw [hpc]
  cases hbase : e.reception.base with
  | ring => exact hreceived.length_unread hbase
  | user =>
    have hzero : e.rx.charsInInterruptBuffer = 0 := (hreceived.user hbase).count
    unfold Reception.unread
    show (Ring.window _ _ (e.rx.charsInInterruptBuffer - 0)).length = _
    rw [hzero]
    rfl

/-- **The status tells the truth**, in every state of a run in which it can be asked for, and there
always is a current write when it is looked at. -/
theorem comm_status [Uart U] {u : U} {cfg : Config} {size : Nat} (hsize : 0 < size)
    {ls : List (Label (Uart.Input U))} (hrun : run step ls (opened u cfg size) = some e)
    (hpc : e.pc = .idle) :
    ∃ stat, e.serialGetCommStatus = some (stat, e.ioctlGetCommStatus) ∧ e.TellsStatus stat := by
  have hlogged : Logged e := (streamed_run hrun).logged
  have htotal : e.totalCharsQueued = charsOf e.outgoing := (total_chars_queued hrun).1
  have hunread : e.unread.length = e.rx.charsInInterruptBuffer :=
    length_unread_of_idle (receiving_run hsize hrun).2 hpc
  have himmediate : e.tx.transmitImmediate = true → (e.current .immediate).isSome = true := by
    intro htransmit
    by_contra hnone
    rw [Option.not_isSome_iff_eq_none] at hnone
    have hheld := (((disciplined_run hrun).tracked (by decide)).vacant hnone).1.1
    rw [show e.isrHolds .immediate = e.tx.transmitImmediate from rfl, htransmit] at hheld
    cases hheld
  by_cases hzero : e.tx.writeLength = 0
  · have hamount : e.amountInOutQueue = some (.ofInt e.totalCharsQueued) := if_pos hzero
    unfold serialGetCommStatus
    rw [hamount, htotal]
    refine ⟨_, rfl, ?_⟩
    constructor
    · rw [hunread]
    · exact fun hne => absurd hzero hne
    · exact fun hne => absurd hzero hne
    · exact fun _ => rfl
    · exact himmediate
    · exact holdReasons_eq_zero _ _
  · obtain ⟨r, s, segs, hr, hs, hpending⟩ := hlogged.pending hzero
    have hlast : e.lastSent = s.sent := by
      unfold lastSent
      rw [hs]
      rfl
    have hsplit : s.sent.length + e.tx.writeLength = r.payload.length := by
      rw [hpending.length, ← List.length_append, hpending.rest, hpending.payload]
    have hsized := hlogged.sized r hr
    have hamount : e.amountInOutQueue =
        some (.ofInt (charsOf e.outgoing - (r.length - e.tx.writeLength))) := by
      unfold amountInOutQueue
      rw [if_neg hzero, hr, Option.map_some, ofInt_sub_sent, htotal]
    have hthis (r' : Request) (hr' : e.current .write = some r') : r' = r := by
      rw [hr] at hr'
      exact (Option.some.inj hr').symm
    unfold serialGetCommStatus
    rw [hamount]
    refine ⟨_, rfl, ?_⟩
    constructor
    · rw [hunread]
    · intro _ r' hr' hwrite
      cases hthis r' hr'
      rw [if_pos hwrite] at hsized
      rw [hlast]
      refine ⟨?_, by omega, ?_⟩
      · rw [← hpending.payload, ← hpending.rest]
        exact List.prefix_append _ _
      · show UInt32.ofInt _ = _
        congr 1
        omega
    · intro _ r' hr' hcounter
      cases hthis r' hr'
      -- one character is all that an XOFF counter has to send
      have hone : e.tx.writeLength = 1 := by
        rw [hcounter] at hsized
        simp only [Bool.false_eq_true, if_false] at hsized
        omega
      show UInt32.ofInt _ = _
      congr 1
      omega
    · exact fun hzero' => absurd hzero' hzero
    · exact himmediate
    · exact holdReasons_eq_zero _ _

theorem comm_status_halfSent :
    ∃ e, run step halfSent (opened Chip.idle .oneByte 8) = some e ∧ (e.lastSent == [1, 2]) = true ∧
      ∃ stat, e.serialGetCommStatus = some (stat, e.ioctlGetCommStatus) ∧ e.TellsStatus stat := by
  have hrun : (run step halfSent (opened Chip.idle .oneByte 8)).any
      (fun e => e.lastSent == [1, 2] && e.pc == .idle) = true := by decide +kernel
  obtain ⟨e, he, hboth⟩ := (Option.any_eq_true _ _).mp hrun
  rw [Bool.and_eq_true] at hboth
  exact ⟨e, he, hboth.1, comm_status (by decide) he (by simpa using hboth.2)⟩

/-- One character is queued, and two are told of. -/
example : (run step [.callback (.evtIoWrite [1]), .callback (.xoffCounter 0 5 0x13), .isr 4,
    .callback (.dpc .completeWrite)] (opened Chip.idle .oneByte 8)).bind
    (fun e => e.serialGetCommStatus.map fun s => (e.totalCharsQueued, s.1.amountInOutQueue)) =
    some (1, 2) := by decide +kernel

end SerialFc
