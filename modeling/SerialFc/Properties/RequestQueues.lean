import SerialFc.Model.Chip
import SerialFc.Properties.DeskSteps

/-!
# Requests in their queues

What the desks say about the requests that wait, in every state of a run.

* `first_come_first_served` — a queue hands its requests out in the order in which they came
* `no_request_stranded` — none waits while its slot is empty; in the write queue that is so as long
  as nothing is flushed and no XOFF counter comes
-/

namespace SerialFc

open Extension Lib

variable {U : Type} {e e' : Extension U}

/-! ## The order -/

theorem ordered_run [Uart U] {u : U} {cfg : Config} {size : Nat} {ls : List (Label (Uart.Input U))}
    (hrun : run step ls (opened u cfg size) = some e) (q : QueueId) :
    deskPlan.Ordered q e.desk := by
  let Inv (e : Extension U) : Prop := Manned e ∧ deskPlan.Ordered q e.desk
  have hstep (l : Label (Uart.Input U)) (s s' : Extension U) (h : step l s = some s') :
      Inv s → Inv s' :=
    fun hs => ⟨hs.1.step h, (moves_step hs.1 h).path.keep
      (fun _ _ _ _ hdoes hordered => hordered.move hdoes) hs.2⟩
  have hopened : deskPlan.Ordered q (opened u cfg size).desk :=
    ⟨List.Pairwise.nil, fun n hn => by cases hn⟩
  have hend : Inv e := run_invariant hstep hrun ⟨manned_opened u cfg size, hopened⟩
  exact hend.2

/-- Who holds the slot of a queue, then who waits in it. -/
theorem line_desk (e : Extension U) (q : QueueId) : deskPlan.line q e.desk =
    ((e.current q.slot).toList ++ (e.queue q).waiting).map Request.id := by
  unfold DeskPlan.line
  rw [List.map_append, List.map_append]
  show ((e.current q.slot).map Request.job).toList.map Job.id
    ++ ((e.queue q).waiting.map Request.job).map Job.id = _
  rw [List.map_map]
  cases e.current q.slot <;> rfl

/-- **First come, first served.** In every reachable state the request in the slot of a queue came
before all that wait in the queue, and these stand in the order in which they came. -/
theorem first_come_first_served [Uart U] {u : U} {cfg : Config} {size : Nat}
    {ls : List (Label (Uart.Input U))} (hrun : run step ls (opened u cfg size) = some e)
    (q : QueueId) :
    (((e.current q.slot).toList ++ (e.queue q).waiting).map Request.id).Pairwise (· < ·) := by
  have hsorted := (ordered_run hrun q).sorted
  rwa [line_desk] at hsorted

/-- One write is current and two wait. -/
def threeWrites : List (Label Chip.Input) :=
  [.callback (.evtIoWrite [1]), .callback (.evtIoWrite [2]), .callback (.evtIoWrite [3])]

theorem first_come_first_served_threeWrites :
    ∃ e, run step threeWrites (opened Chip.idle .plain 8) = some e ∧
      (e.queue .writeQueue).waiting.length = 2 ∧
      (((e.current .write).toList ++ (e.queue .writeQueue).waiting).map Request.id).Pairwise
        (· < ·) := by
  have hrun : (run step threeWrites (opened Chip.idle .plain 8)).any
      (fun e => (e.queue .writeQueue).waiting.length == 2) = true := by decide +kernel
  obtain ⟨e, he, hlength⟩ := (Option.any_eq_true _ _).mp hrun
  exact ⟨e, he, by simpa using hlength, first_come_first_served he .writeQueue⟩

/-! ## Nobody waits before an empty slot -/

/-- The steps after which a write may be left to wait: a flush, whose stopped queue hands nothing
out, and an XOFF counter, which the write queue counts as its own until it is over. -/
def Label.maystrand {Input : Type} : Label Input → Bool
  | .callback .flushStop | .callback (.xoffCounter _ _ _) => true
  | _ => false

theorem xoffCounter_of_asks {c : Callback} {body : Body} (hasks : c.asks = some body)
    (hserves : Slot.xoff.serves body = true) : ∃ t n x, c = .xoffCounter t n x := by
  cases c <;> cases hasks <;> first | exact ⟨_, _, _, rfl⟩ | cases hserves

/-- What a step may do feeds a queue, unless it may strand its requests. -/
theorem feeds_of_permits {Input : Type} {l : Label Input} {op : DeskOp Slot QueueId Job}
    (h : l.permits op) {q : QueueId} (hmask : q ≠ .maskQueue)
    (hstrand : q = .writeQueue → l.maystrand = false) : deskPlan.Feeds q op := by
  have hbring (c : Callback) (j : Job) (hl : l = .callback c) (hasks : c.asks = some j.body)
      (t : Slot) : ¬deskPlan.movable q t j := by
    rintro ⟨hlater, hserves⟩
    cases q with
    | readQueue | purgeQueue => cases hlater
    | maskQueue => exact hmask rfl
    | writeQueue =>
      cases hlater
      obtain ⟨_, _, _, rfl⟩ := xoffCounter_of_asks hasks hserves
      rw [hl] at hstrand
      cases hstrand rfl
  cases l with
  | callback c =>
    cases op with
    | start r j | occupy r j => exact hbring c j rfl h
    | wait r j => exact hbring c j rfl h.1
    | stop r =>
      obtain ⟨rfl, rfl⟩ := h
      intro hq
      cases hstrand hq.symm
    | _ => trivial
  | readStep => cases op <;> trivial
  | cancelWaiting r i =>
    cases h
    trivial
  | _ => cases h

theorem fed_run [Uart U] {u : U} {cfg : Config} {size : Nat} {ls : List (Label (Uart.Input U))}
    (hrun : run step ls (opened u cfg size) = some e) {q : QueueId} (hmask : q ≠ .maskQueue)
    (hstrand : q = .writeQueue → ∀ l ∈ ls, l.maystrand = false) : deskPlan.Fed q e.desk := by
  let Inv (e : Extension U) : Prop := Manned e ∧ deskPlan.Fed q e.desk
  have hstep (l : Label (Uart.Input U)) (s s' : Extension U) (h : step l s = some s')
      (hl : q = .writeQueue → l.maystrand = false) : Inv s → Inv s' :=
    fun hs => ⟨hs.1.step h, (moves_step hs.1 h).path.keep
      (fun _ _ _ hok hdoes hfed => hfed.move (feeds_of_permits hok hmask hl) hdoes) hs.2⟩
  have hopened : deskPlan.Fed q (opened u cfg size).desk :=
    { taken := fun _ => rfl
      accepts := fun _ => rfl
      runs := fun hne => absurd rfl hne
      home := fun _ _ hs => by cases hs
      kept := fun _ hj => by cases hj
      fixed := fun _ _ hs => by cases hs
      waits := fun _ _ hj => by cases hj }
  have hmeets : RunMeets step (fun l _ => q = .writeQueue → l.maystrand = false) ls
      (opened u cfg size) := .of_forall fun l hl hq => hstrand hq l hl
  have hend : Inv e := run_invariant_of_meets hstep hrun hmeets
    ⟨manned_opened u cfg size, hopened⟩
  exact hend.2

/-- **No request is stranded.** In every reachable state a request waits only while another one has
the slot it waits for. For writes that holds of the runs in which nothing is flushed and no XOFF
counter comes. -/
theorem no_request_stranded [Uart U] {u : U} {cfg : Config} {size : Nat}
    {ls : List (Label (Uart.Input U))} (hrun : run step ls (opened u cfg size) = some e)
    {q : QueueId} (hstrand : q = .writeQueue → ∀ l ∈ ls, l.maystrand = false)
    (hfree : e.current q.slot = none) : (e.queue q).waiting = [] := by
  by_cases hmask : q = .maskQueue
  · have hunused := (manned_run hrun).unused.empty
    rw [hmask]
    exact List.map_eq_nil_iff.mp hunused
  · have hfed := fed_run hrun hmask hstrand
    exact List.map_eq_nil_iff.mp (hfed.taken (congrArg (Option.map Request.job) hfree))

/-- The second write waits until the first one is done; then both are. -/
def writesInTurn : List (Label Chip.Input) :=
  [.callback (.evtIoWrite [1, 2]), .callback (.evtIoWrite [3]), .isr 4,
    .callback (.dpc .completeWrite), .hardware (.shift 2), .isr 4, .callback (.dpc .completeWrite)]

theorem no_request_stranded_writesInTurn :
    ∃ e, run step writesInTurn (opened Chip.idle .plain 8) = some e ∧ e.done.length = 2 ∧
      (e.queue .writeQueue).waiting = [] := by
  have hrun : (run step writesInTurn (opened Chip.idle .plain 8)).any
      (fun e => e.done.length == 2 && (e.current .write).isNone) = true := by decide +kernel
  obtain ⟨e, he, hboth⟩ := (Option.any_eq_true _ _).mp hrun
  rw [Bool.and_eq_true, Option.isNone_iff_eq_none] at hboth
  refine ⟨e, he, by simpa using hboth.1, no_request_stranded (q := .writeQueue) he ?_ hboth.2⟩
  intro _
  decide

/-- A write waits before an empty slot. -/
def Extension.strands (e : Extension U) : Bool :=
  (e.current .write).isNone && !(e.queue .writeQueue).waiting.isEmpty

/-- A write that waits while the queue is stopped for a flush is not fetched when it starts. -/
example : (run step [.callback (.evtIoWrite [1]), .callback (.evtIoWrite [2]),
    .callback .flushStop, .isr 4, .callback (.dpc .completeWrite), .callback .flushStart]
    (opened Chip.idle .plain 8)).any strands = true := by decide +kernel

/-- A write that comes while an XOFF counter from the queue is held waits for nobody. -/
example : (run step [.callback (.evtIoWrite [1]), .callback (.xoffCounter 0 5 0x13), .isr 4,
    .callback (.dpc .completeWrite), .hardware (Chip.Input.shift 1), .isr 4,
    .callback (.dpc .completeWrite), .callback (.evtIoWrite [2])]
    (opened Chip.idle .plain 8)).any strands = true := by decide +kernel

end SerialFc
