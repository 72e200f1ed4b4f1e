import SerialFc.Model.Read
import SerialFc.Model.Write

/-!
# Due times

When the total timers are due that `SerialStartRead`, `SerialStartWrite` and `SerialStartImmediate`
arm. A due time is a signed 64-bit number in units of 100 nanoseconds, and a relative one is
negative; the timeouts are in milliseconds.
-/

namespace SerialFc

/-- `multiplierVal` and `constantVal`, if `SerialStartRead` uses the total timer. -/
def readTotals (t : Timeouts) : Option (UInt32 × UInt32) :=
  if t.readIntervalTimeout = maxUlong then
    if t.readTotalTimeoutConstant = 0 ∧ t.readTotalTimeoutMultiplier = 0 then none
    else if t.readTotalTimeoutConstant ≠ maxUlong ∧ t.readTotalTimeoutMultiplier ≠ maxUlong then
      some (t.readTotalTimeoutMultiplier, t.readTotalTimeoutConstant)
    else if t.readTotalTimeoutConstant ≠ maxUlong ∧ t.readTotalTimeoutMultiplier = maxUlong then
      some (0, t.readTotalTimeoutConstant)
    else none
  else if t.readTotalTimeoutMultiplier ≠ 0 ∨ t.readTotalTimeoutConstant ≠ 0 then
    some (t.readTotalTimeoutMultiplier, t.readTotalTimeoutConstant)
  else none

def writeTotals (t : Timeouts) : Option (UInt32 × UInt32) :=
  if t.writeTotalTimeoutConstant ≠ 0 ∨ t.writeTotalTimeoutMultiplier ≠ 0 then
    some (t.writeTotalTimeoutMultiplier, t.writeTotalTimeoutConstant)
  else none

/-- `UInt32x32To64` -/
def uint32x32To64 (a b : UInt32) : UInt64 := a.toUInt64 * b.toUInt64

/-- `(LONGLONG)(UInt32x32To64(length, multiplier) + constant) * -10000` -/
def totalTime (length multiplier constant : UInt32) : Int64 :=
  (uint32x32To64 length multiplier + constant.toUInt64).toInt64 * -10000

/-- `SerialStartImmediate` adds up signed numbers. -/
def immediateTotalTime (multiplier constant : UInt32) : Int64 :=
  (multiplier.toUInt64.toInt64 + constant.toUInt64.toInt64) * -10000

/-- What is started. An XOFF counter masquerades as a write. -/
inductive TimedStart
  | read (length : UInt32)
  | write (length : UInt32)
  | xoffCounter
  | immediate
  deriving DecidableEq, Repr

namespace TimedStart

/-- Length, multiplier and constant that a total timer goes by. -/
def selected (t : Timeouts) : TimedStart → Option (UInt32 × UInt32 × UInt32)
  | read length => (readTotals t).map fun totals => (length, totals)
  | write length => (writeTotals t).map fun totals => (length, totals)
  | xoffCounter | immediate => (writeTotals t).map fun totals => (1, totals)

/-- When the total timer is due, if it is armed. -/
def dueTime (t : Timeouts) : TimedStart → Option Int64
  | read length => (readTotals t).map fun (multiplier, constant) => totalTime length multiplier constant
  | write length =>
    (writeTotals t).map fun (multiplier, constant) => totalTime length multiplier constant
  | xoffCounter => (writeTotals t).map fun (multiplier, constant) => totalTime 1 multiplier constant
  | immediate =>
    (writeTotals t).map fun (multiplier, constant) => immediateTotalTime multiplier constant

end TimedStart

/-- `IOCTL_SERIAL_SET_TIMEOUTS` rejects one combination. -/
def Timeouts.accepted (t : Timeouts) : Bool :=
  !(t.readIntervalTimeout == maxUlong && t.readTotalTimeoutMultiplier == maxUlong &&
    t.readTotalTimeoutConstant == maxUlong)

end SerialFc
