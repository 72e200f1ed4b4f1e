import SerialFc.Model.Receiver
import Mathlib.Data.List.Basic

/-!
# What a receive FIFO gives

* `pending` — the frames that are there or on their way, in their order
* `taken`, `after` — what the next reads of RBR take, and what they leave
* `Orderly` — the flags of a frame are read once
-/

namespace SerialFc

namespace ReceiveFifo

variable {r : ReceiveFifo}

/-- The frames that are there and those that are still to arrive. -/
def pending (r : ReceiveFifo) : List ReceivedFrame := r.frames ++ r.arrivals.flatten

/-- What the next `n` reads of RBR take. -/
def taken : Nat → ReceiveFifo → List (Option ReceivedFrame)
  | 0, _ => []
  | n + 1, r => r.readData.1 :: taken n r.readData.2

/-- What they leave. -/
def after : Nat → ReceiveFifo → ReceiveFifo
  | 0, r => r
  | n + 1, r => after n r.readData.2

/-- If the flags of the head were read it is still there, and with `SERIAL_ERROR_CHAR` it had
none. -/
def Orderly (errorChar : Bool) (r : ReceiveFifo) : Prop :=
  r.seen = true → ∃ f frames, r.frames = f :: frames ∧ (errorChar = true → f.flagged = false)

/-! ## Arrivals -/

/-- The first batch and the others are all of them. -/
theorem flatten_arrivals (batches : List (List ReceivedFrame)) :
    batches.headD [] ++ batches.tail.flatten = batches.flatten := by
  cases batches <;> rfl

/-- A batch that arrives was pending before. -/
@[simp] theorem pending_arrive (r : ReceiveFifo) : r.arrive.pending = r.pending := by
  simp only [pending, arrive, List.append_assoc, flatten_arrivals]

theorem arrivals_arrive (r : ReceiveFifo) :
    r.arrive.arrivals.flatten.length ≤ r.arrivals.flatten.length := by
  have hlength := congrArg List.length (flatten_arrivals r.arrivals)
  rw [List.length_append] at hlength
  exact Nat.le_of_add_left_le (Nat.le_of_eq hlength)

@[simp] theorem seen_arrive (r : ReceiveFifo) : r.arrive.seen = r.seen := rfl

/-- The head stays at the head. -/
theorem frames_arrive {f : ReceivedFrame} {frames : List ReceivedFrame} (h : r.frames = f :: frames) :
    r.arrive.frames = f :: (frames ++ r.arrivals.headD []) := by
  simp [arrive, h]

/-- Nothing was there before, if nothing is there now. -/
theorem frames_of_arrive (h : r.arrive.frames = []) : r.frames = [] :=
  (List.append_eq_nil_iff.mp h).1

/-- Arrivals do not touch the head. -/
theorem Orderly.arrive {errorChar : Bool} (h : Orderly errorChar r) : Orderly errorChar r.arrive := by
  intro hseen
  obtain ⟨f, frames, hframes, hclean⟩ := h hseen
  exact ⟨f, _, frames_arrive hframes, hclean⟩

theorem Orderly.unseen {errorChar : Bool} (h : Orderly errorChar r) (hnil : r.frames = []) :
    r.seen = false := by
  refine Bool.eq_false_iff.mpr fun hseen => ?_
  obtain ⟨f, frames, hframes, -⟩ := h hseen
  rw [hnil] at hframes
  cases hframes

/-! ## Reading RBR -/

/-- RBR of an empty FIFO. -/
theorem readData_none (h : r.arrive.frames = []) :
    r.readData = (none, { r.arrive with frames := [], reads := r.reads ++ [none] }) := by
  rw [readData, pop, h]
  rfl

/-- RBR takes the head, and its flags are read anew. -/
theorem readData_some {f : ReceivedFrame} {frames : List ReceivedFrame}
    (h : r.arrive.frames = f :: frames) :
    r.readData =
      (some f, { r.arrive with frames := frames, seen := false, reads := r.reads ++ [some f] }) := by
  rw [readData, pop, h]
  rfl

theorem reads_readData (r : ReceiveFifo) : r.readData.2.reads = r.reads ++ [r.readData.1] := by
  cases h : r.arrive.frames with
  | nil => rw [readData_none h]
  | cons f frames => rw [readData_some h]

/-- What is read was pending. -/
theorem pending_readData (r : ReceiveFifo) :
    r.pending = r.readData.1.toList ++ r.readData.2.pending := by
  rw [← pending_arrive]
  cases h : r.arrive.frames with
  | nil =>
    rw [readData_none h, pending, h]
    rfl
  | cons f frames =>
    rw [readData_some h, pending, h]
    rfl

theorem arrivals_readData (r : ReceiveFifo) :
    r.readData.2.arrivals.flatten.length ≤ r.arrivals.flatten.length := by
  refine Nat.le_trans (Nat.le_of_eq ?_) (arrivals_arrive r)
  cases h : r.arrive.frames with
  | nil => rw [readData_none h]
  | cons f frames => rw [readData_some h]

/-- The next head has not been looked at. -/
theorem Orderly.readData {errorChar : Bool} (h : Orderly errorChar r) :
    Orderly errorChar r.readData.2 := by
  cases hframes : r.arrive.frames with
  | nil =>
    rw [readData_none hframes]
    intro hseen
    rw [seen_arrive, h.unseen (frames_of_arrive hframes)] at hseen
    cases hseen
  | cons f frames =>
    rw [readData_some hframes]
    nofun

/-! ## Reading RBR several times -/

/-- **Reads of RBR** take what was pending, from the front. -/
theorem pending_after (n : Nat) (r : ReceiveFifo) :
    r.pending = (taken n r).flatMap Option.toList ++ (after n r).pending := by
  induction n generalizing r with
  | zero => rfl
  | succ n ih =>
    show r.pending =
      (r.readData.1 :: taken n r.readData.2).flatMap Option.toList ++ (after n r.readData.2).pending
    rw [List.flatMap_cons, List.append_assoc, ← ih, ← pending_readData]

theorem Orderly.after {errorChar : Bool} (n : Nat) (h : Orderly errorChar r) :
    Orderly errorChar (after n r) := by
  induction n generalizing r with
  | zero => exact h
  | succ n ih => exact ih h.readData

/-! ## Reading LSR -/

/-- The status of a frame, bit by bit. -/
structure Shows (status : UInt8) (f : ReceivedFrame) : Prop where
  data : has status lsrDr = true
  overrun : has status lsrOe = f.overrun
  parity : has status lsrPe = f.parity
  framing : has status lsrFe = f.framing
  brk : has status lsrBi = false
  error : has status (~~~(lsrThre ||| lsrTemt ||| lsrDr)) = f.flagged
  thre : has status lsrThre = false

/-- The flags of LSR are in other bits than DR. -/
theorem shows_errors (overrun parity framing : Bool) :
    Shows (lsrDr ||| lineErrors overrun parity framing) ⟨0, overrun, parity, framing⟩ := by
  cases overrun <;> cases parity <;> cases framing <;> constructor <;> decide

theorem shows_flags (f : ReceivedFrame) : Shows (lsrDr ||| f.flags) f :=
  have h := shows_errors f.overrun f.parity f.framing
  ⟨h.data, h.overrun, h.parity, h.framing, h.brk, h.error, h.thre⟩

/-- A frame whose flags were read shows none. -/
def shown (r : ReceiveFifo) (f : ReceivedFrame) : ReceivedFrame :=
  if r.seen then ⟨f.data, false, false, false⟩ else f

/-- LSR shows the head as it is, or without the flags that were read. -/
theorem shows_lineStatus {f : ReceivedFrame} {frames : List ReceivedFrame}
    (h : r.frames = f :: frames) : Shows r.lineStatus (r.shown f) := by
  rw [lineStatus, h, shown]
  cases r.seen with
  | true =>
    have hnone : lineErrors false false false = 0 := by decide
    have hshows := shows_flags ⟨f.data, false, false, false⟩
    rw [ReceivedFrame.flags, hnone] at hshows
    exact hshows
  | false => exact shows_flags f

/-- LSR of an empty FIFO. -/
theorem lineStatus_nil (h : r.frames = []) : r.lineStatus = 0 := by
  rw [lineStatus, h]

end ReceiveFifo

end SerialFc
