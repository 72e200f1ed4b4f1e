import SerialFc.Properties.PurgeBarrier

/-!
# The error gate

With `SERIAL_ERROR_ABORT` an error that has been recorded closes the port until
`IOCTL_SERIAL_GET_COMMSTATUS` fetches it: every request is refused, and `SerialCommError` aborts
what is there.

* `leaves_step` — nothing joins a queue while the port is closed
* `stays_step` — and nothing is sent, once the writes have been aborted
* `error_abort` — both together, from the abort on
-/

namespace SerialFc

open Extension Lib

variable {U : Type} {e e' e'' : Extension U}

/-! ## Requests that come are refused -/

section
variable [Uart U]

/-- The request is completed with `STATUS_CANCELLED`, and nothing else happens. -/
theorem callback_closed (hclosed : e.serialCompleteIfError = true) {c : Callback} {body : Body}
    (hasks : c.asks = some body) : ∃ length buffer, e.callback c =
      e.takeId.refuse .cancelled (Request.new e.nextId body length buffer) := by
  cases c <;> cases hasks <;> exact ⟨_, _, if_pos hclosed⟩

/-! ## Nothing joins a queue -/

/-- Nothing joins a queue while the port is closed. -/
theorem leaves_step (hmanned : Manned e) (hclosed : e.serialCompleteIfError = true)
    {l : Label (Uart.Input U)} (hstep : step l e = some e') (q : QueueId) :
    deskPlan.Leaves q e.desk e'.desk := by
  have hmoves := (moves_step hmanned hstep).path
  cases l with
  | callback c =>
    cases hasks : c.asks with
    | none =>
      refine hmoves.leaves (fun op hok => ?_) q
      cases op with
      | start r j | occupy s j => cases hasks.symm.trans hok
      | wait r j => cases hasks.symm.trans hok.1
      | _ => rfl
    | some body =>
      obtain ⟨length, buffer, hrefused⟩ := callback_closed hclosed hasks
      rw [(callback_of_step hstep).2.2, hrefused]
      exact (does_refuse e .cancelled).leaves rfl q
  | readStep =>
    refine hmoves.leaves (fun op hok => ?_) q
    cases op <;> first | rfl | cases hok
  | cancelWaiting r i =>
    refine hmoves.leaves (fun op hok => ?_) q
    cases hok
    rfl
  | _ =>
    refine hmoves.leaves (fun op hok => ?_) q
    cases hok

/-! ## Nothing is sent -/

/-- When nothing is left to be sent, nothing is sent. -/
def Stays (e e' : Extension U) : Prop :=
  Cleared e → Cleared e' ∧ segments e'.wire = segments e.wire

theorem Stays.startRule : StartRule (U := U) Stays where
  trans h h' hcleared := by
    obtain ⟨hcleared₁, hsegs⟩ := h hcleared
    obtain ⟨hcleared₂, hsegs'⟩ := h' hcleared₁
    exact ⟨hcleared₂, hsegs'.trans hsegs⟩
  startsNone hnone hcleared := ⟨hnone.cleared hcleared, (hnone.idle hcleared.idle).1⟩
  putQueue e l hl hcleared := by
    have hempty : l.waiting = [] := List.sublist_nil.mp (hcleared.empty ▸ hl)
    exact ⟨⟨by simpa [Extension.putQueue] using hempty, hcleared.idle⟩, rfl⟩
  nextWrite hacc hun hr hcleared := by
    rcases nextWrite_cases 0 hacc hun hr with ⟨hwaits, _⟩ | hnone
    · exact absurd hcleared.empty hwaits
    · exact ⟨hnone.cleared hcleared, (hnone.idle hcleared.idle).1⟩

theorem stays_step (hacc : Accounted e) (htracked : Tracked .write e)
    (hclosed : e.serialCompleteIfError = true) {l : Label (Uart.Input U)}
    (hstep : step l e = some e') : Stays e e' := by
  cases hsends : l.sends with
  | false => exact Stays.startRule.step hacc htracked hstep hsends
  | true =>
    cases l with
    | callback c =>
      have hasks : ∃ body, c.asks = some body := by
        cases c <;> first | exact ⟨_, rfl⟩ | cases hsends
      obtain ⟨body, hbody⟩ := hasks
      obtain ⟨length, buffer, hrefused⟩ := callback_closed hclosed hbody
      rw [(callback_of_step hstep).2.2, hrefused]
      exact Stays.startRule.startsNone (.of_same rfl rfl id)
    | _ => cases hsends

/-! ## The abort -/

/-- What `SerialCommError` leaves: nothing of the writes, and of the requests in a queue's slot only
the one that was there. -/
structure Aborted (e₀ e : Extension U) : Prop where
  cleared : Cleared e
  empty : (e.queue .readQueue).waiting = []
  reads : (deskPlan.line .readQueue e.desk).Sublist ((e₀.current .read).toList.map Request.id)
  writes : (deskPlan.line .writeQueue e.desk).Sublist ((e₀.current .write).toList.map Request.id)

omit [Uart U] in
theorem held_of_line {q : QueueId} {s : Option Request}
    (h : (deskPlan.line q e.desk).Sublist (s.toList.map Request.id)) {r : Request}
    (hr : e.current q.slot = some r) : ∃ r₀, s = some r₀ ∧ r.id = r₀.id := by
  have hmem : r.id ∈ deskPlan.line q e.desk := by
    rw [line_desk, hr]
    simp
  obtain ⟨r₀, hr₀, hid⟩ := List.mem_map.mp (h.subset hmem)
  exact ⟨r₀, Option.mem_toList.mp hr₀, hid.symm⟩

theorem aborted_serialCommError (hacc : Accounted e) (htracked : Tracked .write e)
    (hsafe : ∀ r, e.current .write = some r → r.cancelable ≠ .delivering) :
    Aborted e e.serialCommError := by
  have hacc₁ := (anything.abortWrites id id e hacc).1
  have hwrites := flushes_abortWrites e
  have hreads := flushes_abortReads (hacc₁.serves .read)
  have hids := ((sameSlot_rule .read _).abortWrites (by decide) (by decide) e hacc).2 rfl
  have hcleared := (cleared_rule.abortReads (by decide) e.abortWrites hacc₁).2
    (cleared_abortWrites hacc htracked hsafe)
  refine ⟨hcleared, List.map_eq_nil_iff.mp hreads.empty, ?_, ?_⟩
  · have hslot : (e.abortWrites.current .read).toList.map Request.id =
        (e.current .read).toList.map Request.id := by
      rw [← Option.toList_map, hids, Option.toList_map]
    exact hslot ▸ hreads.line
  · exact (hreads.moves.path.leaves (fun op hop => by cases op <;> first | rfl | cases hop)
      .writeQueue).line.trans hwrites.line

theorem Aborted.step {e₀ : Extension U} (h : Aborted e₀ e) (hdisciplined : Disciplined e)
    (hmanned : Manned e) (hclosed : e.serialCompleteIfError = true) {l : Label (Uart.Input U)}
    (hstep : step l e = some e') : Aborted e₀ e' ∧ segments e'.wire = segments e.wire := by
  obtain ⟨hcleared, hsegs⟩ := stays_step hdisciplined.accounted hdisciplined.write hclosed hstep
    h.cleared
  have hleaves := leaves_step hmanned hclosed hstep
  have hempty : (e'.desk.line .readQueue).waiting = [] := by
    refine List.sublist_nil.mp ?_
    have hread : (e.desk.line .readQueue).waiting = [] := congrArg (List.map Request.job) h.empty
    exact hread ▸ (hleaves .readQueue).waiting
  exact ⟨⟨hcleared, List.map_eq_nil_iff.mp hempty, (hleaves .readQueue).line.trans h.reads,
    (hleaves .writeQueue).line.trans h.writes⟩, hsegs⟩

end

/-- Errors abort. -/
def Config.aborting : Config :=
  { Config.oneByte with
    handFlow := { Config.oneByte.handFlow with controlHandShake := 0x80000000 } }

/-- A read and a write are current, another one of each waits, and an overrun is reported. -/
def overrunReported : List (Label Chip.Input) :=
  [.callback (.evtIoRead 4), .readStep, .readStep, .readStep, .readStep, .readStep,
    .callback (.evtIoRead 2), .callback (.evtIoWrite [1, 2, 3]), .callback (.evtIoWrite [4]),
    .isr 4, .hardware (.receive ⟨7, 0⟩), .hardware .lose, .isr 9]

def afterAbort : List (Label Chip.Input) :=
  [.callback (.evtIoWrite [5]), .callback (.evtIoRead 2), .hardware (.shift 1), .isr 9]

/-- The states before and after the abort, and at the end. -/
def abortedRun : Option (Extension Chip × Extension Chip × Extension Chip) :=
  (run step overrunReported (opened Chip.idle .aborting 8)).bind fun s =>
    (step (.callback (.dpc .commError)) s).bind fun s' =>
      (run step afterAbort s').map fun e => (s, s', e)

end SerialFc
