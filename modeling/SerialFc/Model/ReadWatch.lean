import SerialFc.Model.Driver

/-!
# An observer of interval timeouts

What `SerialIntervalReadTimeout` is about, told without `CountOnLastRead` and `ReadByIsr`: of the
read that waits, the observer notes how many characters the driver has seen, when it last saw a new
one, and which callback wanted the read to end. The observer changes nothing.
-/

namespace SerialFc

open Extension

variable {U : Type}

/-- The characters that the current read has got. Until it is satisfied or taken back from the ISR,
`Information` does not count what the ISR puts into its buffer. -/
def Extension.charsOfRead (e : Extension U) : Nat :=
  if e.rx.readBufferBase = .user then e.rx.currentCharSlot
  else ((e.current .read).map Request.information).getD 0

/-- What `CountOnLastRead` is set to when a read is to end with a status. -/
def Extension.sentinel : NtStatus → Option Int
  | .success => some completeReadComplete
  | .timeout => some completeReadTotal
  | .cancelled => some completeReadCancel
  | _ => none

/-- The status that a callback wants the current read to end with: the buffer is full, the total
timer has fired, the read is cancelled, or reads are aborted, by a purge that asks for that or after
an error. -/
def Callback.readStatus : Callback → Option NtStatus
  | .dpc .completeRead => some .success
  | .timer .readRequestTotal => some .timeout
  | .cancelRoutine .read | .dpc .commError => some .cancelled
  | .purge mask => if has32 mask purgeRxAbort then some .cancelled else none
  | _ => none

/-- What an observer notes down of the current read since it began to wait: how many of its
characters the driver has seen, when it last saw a new one, and what has ended the read. -/
structure ReadWatch where
  seen : Nat
  observedAt : Nat
  ended : Option (Nat × NtStatus)
  deriving DecidableEq, Repr

namespace ReadWatch

/-- A read begins to wait with what it has found in the interrupt buffer. -/
def noteWait (w : ReadWatch) (e e' : Extension U) : ReadWatch :=
  match e.pc with
  | .copied _ _ => { w with seen := e'.charsOfRead, ended := none }
  | .arm l => if l.useIntervalTimer ∧ (e.current .read).isSome then
      { w with observedAt := e.clock } else w
  | _ => w

/-- The interval timer shows characters that the driver has not seen. -/
def noteTick (w : ReadWatch) (e : Extension U) : ReadWatch :=
  if w.ended = none ∧ w.seen < e.charsOfRead then
    { w with seen := e.charsOfRead, observedAt := e.clock }
  else w

/-- The read is marked as one that has ended. -/
def noteEnd (w : ReadWatch) (status : NtStatus) (e e' : Extension U) : ReadWatch :=
  if sentinel status = some e'.rx.countOnLastRead then
    { w with ended := (e.current .read).map fun r => (r.id, status) }
  else w

def note [Uart U] (w : ReadWatch) (e e' : Extension U) : Label (Uart.Input U) → ReadWatch
  | .readStep => w.noteWait e e'
  | .callback (.timer .readRequestInterval) => w.noteTick e
  | .callback c =>
    match c.readStatus with
    | some status => w.noteEnd status e e'
    | none => w
  | _ => w

end ReadWatch

/-- The driver, and its observer. -/
structure WatchedPort (U : Type) where
  ext : Extension U
  watch : ReadWatch

namespace WatchedPort

variable [Uart U]

def step (l : Label (Uart.Input U)) (p : WatchedPort U) : Option (WatchedPort U) :=
  (p.ext.step l).map fun e => ⟨e, p.watch.note p.ext e l⟩

omit [Uart U] in
def opened (u : U) (cfg : Config) (size : Nat) : WatchedPort U :=
  ⟨Extension.opened u cfg size, ⟨0, 0, none⟩⟩

end WatchedPort

end SerialFc
