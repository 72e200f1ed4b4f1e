import Mathlib.Data.Nat.Notation
import Mathlib.Algebra.Group.Nat.Defs

/-!
# Clock bits of an ICS307-02

`GetICS30702Data` of `calculate-clock-bits.c`: the search for dividers that come close to a
frequency, and the word that programs them. An `unsigned long` has 32 bits on Windows.
-/

namespace SerialFc

def ulong (n : ℕ) : ℕ := n % 2 ^ 32

/-- `a - b` on `unsigned long`. -/
def ulongSub (a b : ℕ) : ℕ := ulong (a + 2 ^ 32 - b)

/-- `struct clock_data_335` -/
structure ClockData335 where
  frequency : ℕ
  clockBits : ℕ
  deriving DecidableEq, Repr

/-- Output divider, VCO divider word and reference divider word. -/
structure Dividers where
  od : ℕ
  vdw : ℕ
  rdw : ℕ
  deriving DecidableEq, Repr

def inFreq : ℕ := 18432000

namespace Dividers

variable (d : Dividers)

def check : ℕ := ulong (inFreq * 2 / ((d.rdw + 2) * d.od) * (d.vdw + 8))

def range1 : ℕ := ulong (inFreq * 2 * (d.vdw + 8)) / (d.rdw + 2)

def range2 : ℕ := inFreq / (d.rdw + 2)

/-- The tests of the operating ranges. -/
def inRange : Bool := d.range1 > 60000000 && d.range1 < 360000000 && d.range2 > 200000

end Dividers

/-! ## The search -/

/-- `lowest` and `highest` are the dividers that attain `low` and `hi`. -/
structure ClockSearch where
  low : ℕ
  hi : ℕ
  lowest : Dividers
  highest : Dividers
  deriving DecidableEq, Repr

namespace ClockSearch

def takeLow (d : Dividers) (s : ClockSearch) : ClockSearch := { s with low := d.check, lowest := d }

def takeHi (d : Dividers) (s : ClockSearch) : ClockSearch := { s with hi := d.check, highest := d }

/-- Of two settings with the same result, one with a lower `rdw`, then one with a higher `vdw`. -/
def preferred (old new : Dividers) : Bool :=
  old.rdw > new.rdw || (old.rdw == new.rdw && old.vdw < new.vdw)

/-- The settings that come out at one of the bounds. -/
def tie (d : Dividers) (s : ClockSearch) : ClockSearch :=
  if d.check = s.low then if preferred s.lowest d then s.takeLow d else s
  else if d.check = s.hi then if preferred s.highest d then s.takeHi d else s
  else s

/-- The body of the inner loop. -/
def tryDividers (rate : ℕ) (s : ClockSearch) (d : Dividers) : ClockSearch :=
  if d.inRange then
    let s := s.tie d
    if d.check > s.low ∧ d.check < s.hi then
      if d.check > rate then s.takeHi d else s.takeLow d
    else s
  else s

def vdwLoop (rate od : ℕ) (s : ClockSearch) (rdw : ℕ) : ClockSearch :=
  (List.range' 4 508).foldl (fun s vdw => s.tryDividers rate ⟨od, vdw, rdw⟩) s

def rdwLoop (rate : ℕ) (s : ClockSearch) (od : ℕ) : ClockSearch :=
  (List.range' 1 127).foldl (vdwLoop rate od) s

/-- The highest frequency for an output divider. -/
def odSkip (rate : ℕ) : ℕ → Bool
  | 2 => rate > 180000000
  | 3 => rate > 120000000
  | 4 => rate > 90000000
  | 5 => rate > 72000000
  | 6 => rate > 60000000
  | 7 => rate > 50000000
  | 8 => rate > 45000000
  | 10 => rate > 36000000
  | _ => true

/-- `od` from 2 to 10; the end of the loop steps over 9. -/
def odLoop (rate : ℕ) (s : ClockSearch) : ClockSearch :=
  [2, 3, 4, 5, 6, 7, 8, 10].foldl (fun s od => if odSkip rate od then s else s.rdwLoop rate od) s

def start (rate : ℕ) : ClockSearch where
  low := ulongSub rate (rate / 10)
  hi := ulong (rate + rate / 10)
  lowest := ⟨1, 1, 1⟩
  highest := ⟨1, 1, 1⟩

/-- The nearer of the two sides. -/
def best (rate : ℕ) (s : ClockSearch) : Dividers :=
  if ulongSub s.hi rate < ulongSub rate s.low then s.highest else s.lowest

end ClockSearch

/-! ## The word -/

/-- The output divider as the chip wants it. -/
def odCode : ℕ → Option ℕ
  | 2 => some 0x11
  | 3 => some 0x16
  | 4 => some 0x13
  | 5 => some 0x14
  | 6 => some 0x17
  | 7 => some 0x15
  | 8 => some 0x12
  | 10 => some 0x10
  | _ => none

def clockWord (code : ℕ) (d : Dividers) : ℕ := ulong ((code <<< 9 ||| d.vdw) <<< 7 ||| d.rdw)

/-- The last part of `GetICS30702Data`, for the dividers it has settled on. -/
def programDividers (clockData : ClockData335) (best : Dividers) : ℕ × ClockData335 :=
  match odCode best.od with
  | none => (1, { clockData with frequency := 0 })
  | some code => (0, ⟨best.check, clockWord code best⟩)

/-- `GetICS30702Data`, with the value it returns. -/
def getIcs30702Data (clockData : ClockData335) : ℕ × ClockData335 :=
  programDividers clockData
    (((ClockSearch.start clockData.frequency).odLoop clockData.frequency).best clockData.frequency)

end SerialFc
