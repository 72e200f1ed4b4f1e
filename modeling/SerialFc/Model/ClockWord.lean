import Mathlib.Data.Nat.Notation
import Mathlib.Logic.Function.Basic
import SerialFc.Model.ClockSearch

/-!
# Programming word of an ICS307-03

The second half of `GetICS30703Data` of `calculate-clock-bits.c`, from the dividers and the loop
filter that the search has settled on to the 20 bytes, and the steps of the search through the
output dividers.
-/

namespace SerialFc

/-- `progdata` -/
abbrev ProgData := Fin 20 → UInt8

namespace ProgData

def put (k : Fin 20) (b : UInt8) (p : ProgData) : ProgData := Function.update p k b

/-- `progdata[k] |= m` -/
def orAt (k : Fin 20) (m : UInt8) (p : ProgData) : ProgData := p.put k (p k ||| m)

/-- `progdata[k] &= m` -/
def andAt (k : Fin 20) (m : UInt8) (p : ProgData) : ProgData := p.put k (p k &&& m)

/-- `CLK1` is enabled, and the counter, the charge pump and the VCO are up. -/
def initial : ProgData :=
  (orAt 13 0x40 (orAt 14 0x01 fun k =>
    if k = 15 then 0x04 else if 17 ≤ k then 0xff else 0x00))

end ProgData

/-- What the search hands on: `theOne` and `theOther`. -/
structure ClockSetting where
  refDiv : ℕ
  vcoDiv : ℕ
  outDiv : ℕ
  rs : ℕ
  icpnum : ℕ
  deriving DecidableEq, Repr

/-- `(unsigned char)temp & 0xff` -/
def uchar (temp : ℕ) : UInt8 := UInt8.ofNat temp

/-- `~n`, as an `unsigned long`. -/
def ulongNot (n : ℕ) : ℕ := 2 ^ 32 - 1 - ulong n

open ProgData

/-! ## Tables of the data sheet -/

/-- Table 1. -/
def inputDivider (n : ℕ) (p : ProgData) : Except ℕ ProgData :=
  if n = 1 then .ok (p.andAt 0 0xfc |>.andAt 1 0xf0)
  else if n = 2 then .ok (p.andAt 0 0xfc |>.orAt 0 0x01 |>.andAt 1 0xf0)
  else if 3 ≤ n ∧ n ≤ 17 then
    let temp := ulong (ulongNot (n - 2) <<< 2)
    .ok (p.put 0 (uchar temp) |>.andAt 0 0x3e |>.orAt 0 0x02)
  else if 18 ≤ n ∧ n ≤ 2055 then
    let temp := ulong ((n - 8) <<< 2)
    .ok (p.put 0 (uchar temp) |>.put 1 (uchar (temp >>> 8)) |>.orAt 0 0x03)
  else .error 3

/-- Table 2. -/
def vcoDivider (n : ℕ) (p : ProgData) : Except ℕ ProgData :=
  if 12 ≤ n ∧ n ≤ 2055 then
    let temp := ulong ((n - 8) <<< 5)
    .ok (p.orAt 1 (uchar temp) |>.orAt 2 (uchar (temp >>> 8)))
  else .error 4

/-- Table 4. -/
def loopFilterResistor (rs : ℕ) (p : ProgData) : Except ℕ ProgData :=
  match rs with
  | 64000 => .ok (p.andAt 11 0xf9)
  | 52000 => .ok (p.andAt 11 0xf9 |>.orAt 11 0x04)
  | 16000 => .ok (p.andAt 11 0xf9 |>.orAt 11 0x02)
  | 4000 => .ok (p.orAt 11 0x06)
  | _ => .error 5

/-- What a case of the charge pump does to byte 11, first `|=` and then `&=` (0 and 0xff where the
case lacks one), and whether it sets bit 7 of byte 15 and bit 0 of byte 16 or clears them. -/
structure ChargePump where
  set11 : UInt8
  keep11 : UInt8
  bit15 : Bool
  bit16 : Bool
  deriving DecidableEq, Repr

def chargePump : ℕ → Option ChargePump
  | 125 => some ⟨0x38, 0xff, false, false⟩
  | 250 => some ⟨0x38, 0xff, true, false⟩
  | 375 => some ⟨0x38, 0xff, false, true⟩
  | 500 => some ⟨0x38, 0xff, true, true⟩
  | 625 => some ⟨0x18, 0xdf, false, false⟩
  | 750 => some ⟨0x10, 0xd7, false, false⟩
  | 875 => some ⟨0x08, 0xcf, false, false⟩
  | 1000 => some ⟨0x00, 0xc7, false, false⟩
  | 1125 => some ⟨0x28, 0xef, false, true⟩
  | 1250 => some ⟨0x18, 0xdf, true, false⟩
  | 1500 => some ⟨0x28, 0xef, true, true⟩
  | 1750 => some ⟨0x08, 0xcf, true, false⟩
  | 1875 => some ⟨0x18, 0xdf, false, true⟩
  | 2000 => some ⟨0x00, 0xc7, true, false⟩
  | 2250 => some ⟨0x10, 0xff, false, true⟩
  | 2500 => some ⟨0x18, 0xdf, true, true⟩
  | 2625 => some ⟨0x08, 0xcf, false, true⟩
  | 3000 => some ⟨0x00, 0xc7, false, true⟩
  | 3500 => some ⟨0x08, 0xcf, true, true⟩
  | 4000 => some ⟨0x00, 0xc7, true, true⟩
  | _ => none

def setBit (on : Bool) (k : Fin 20) (m : UInt8) (p : ProgData) : ProgData :=
  if on then p.orAt k m else p.andAt k (~~~m)

/-- Table 3. -/
def chargePumpCurrent (icp : ℕ) (p : ProgData) : Except ℕ ProgData :=
  match chargePump icp with
  | some c => .ok (p.orAt 11 c.set11 |>.andAt 11 c.keep11 |> setBit c.bit15 15 0x80
      |> setBit c.bit16 16 0x01)
  | none => .error 6

/-! ## Output divider -/

/-- The dividers with a code of their own: bit 7 of byte 11, and what is kept of byte 12 and set
in it. -/
def odSmall : ℕ → Option (Bool × UInt8 × UInt8)
  | 2 => some (false, 0x00, 0x00)
  | 3 => some (true, 0x00, 0x00)
  | 4 => some (false, 0xff, 0x04)
  | 5 => some (false, 0xff, 0x01)
  | 6 => some (true, 0xff, 0x04)
  | 7 => some (true, 0xff, 0x01)
  | 11 => some (true, 0xff, 0x09)
  | 9 => some (true, 0xff, 0x05)
  | 13 => some (true, 0xff, 0x0d)
  | _ => none

/-- The test for one `i`, with the masks of the branch that is taken. -/
def odForm (od i : ℕ) : Option (UInt8 × UInt8) :=
  if od = ((i + 3) * 2 + 0) * 1 then some (0xe7, 0x04)
  else if od = ((i + 3) * 2 + 0) * 2 then some (0xef, 0x0c)
  else if od = ((i + 3) * 2 + 0) * 4 then some (0xf7, 0x14)
  else if od = ((i + 3) * 2 + 0) * 8 then some (0xff, 0x1c)
  else if od = ((i + 3) * 2 + 1) * 1 then some (0xe3, 0x00)
  else if od = ((i + 3) * 2 + 1) * 2 then some (0xeb, 0x08)
  else if od = ((i + 3) * 2 + 1) * 4 then some (0xf7, 0x10)
  else if od = ((i + 3) * 2 + 1) * 8 then some (0xfb, 0x18)
  else none

/-- The loop over `i`, which is left at the first match. -/
def odLoopMatch (od : ℕ) : Option (ℕ × UInt8 × UInt8) :=
  (List.range 512).findSome? fun i => (odForm od i).map (i, ·)

/-- A branch of the loop. -/
def putForm (form : ℕ × UInt8 × UInt8) (p : ProgData) : ProgData :=
  let temp := ulong (form.1 <<< 5)
  p.orAt 12 (uchar temp) |>.orAt 13 (uchar (temp >>> 8)) |>.andAt 12 form.2.1
    |>.orAt 12 form.2.2

/-- Table 5. -/
def outputDivider (od : ℕ) (p : ProgData) : Except ℕ ProgData :=
  if 2 ≤ od ∧ od ≤ 8232 then
    match odSmall od with
    | some (high, keep, set) =>
      .ok (p |> setBit high 11 0x80 |>.andAt 12 keep |>.orAt 12 set |>.andAt 13 0xc0)
    | none =>
      if od ≤ 37 then
        let temp := ulong (ulongNot (od - 6) <<< 2)
        .ok (p.put 12 (uchar temp &&& 0x7f) |>.andAt 11 0x7f |>.andAt 12 0xfe |>.orAt 12 0x02
          |>.andAt 13 0xc0)
      else
        let p := match odLoopMatch od with
          | some form => putForm form p
          | none => p
        .ok (p.orAt 11 0x80 |>.andAt 12 0xfe |>.orAt 12 0x02)
  else .error 7

/-- From the settings to the bytes, or the number of the error. -/
def progData (t : ClockSetting) : Except ℕ ProgData := do
  let p ← inputDivider t.refDiv ProgData.initial
  let p ← vcoDivider t.vcoDiv p
  let p ← loopFilterResistor t.rs p
  let p ← chargePumpCurrent t.icpnum p
  outputDivider t.outDiv p

/-! ## What the search goes through -/

/-- From one output divider to the next. -/
def odNext (od : ℕ) : ℕ :=
  if od ≤ 1030 then od - 1
  else if od ≤ 2060 then od - 2
  else if od ≤ 4120 then od - 4
  else od - 8

/-- The output dividers of `while (od > 1)`. -/
inductive OdStep : ℕ → Prop
  | start : OdStep 8232
  | next {od : ℕ} (h : OdStep od) (hmore : odNext od > 1) : OdStep (odNext od)

/-- The resistors of the loop over `i`. -/
def resistors : List ℕ := [64000, 52000, 16000, 4000]

/-- The currents of the loop over `j`. -/
def currents : List ℕ :=
  [125, 250, 375, 500, 625, 750, 875, 1000, 1125, 1250, 1500, 1750, 1875, 2000, 2250, 2500, 2625,
    3000, 3500, 4000]

/-- A setting that the search can end with: `maxR` is 1200, `min_V` and `max_V` are 12 and 2055. -/
structure Selectable (t : ClockSetting) : Prop where
  refDiv : 1 ≤ t.refDiv ∧ t.refDiv ≤ 1200
  vcoDiv : 12 ≤ t.vcoDiv ∧ t.vcoDiv ≤ 2055
  outDiv : OdStep t.outDiv
  rs : t.rs ∈ resistors
  icpnum : t.icpnum ∈ currents

end SerialFc
