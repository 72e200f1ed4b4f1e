import SerialFc.Model.Hardware

/-!
# `IOCTL_SERIAL_SET_LINE_CONTROL`

What the three bytes of `SERIAL_LINE_CONTROL` stand for: bits of LCR, a mask for received characters
and fields of `WmiCommData`.

* `wordLength`, `parity`, `stopBits` — the three `switch` statements
* `lineControlBits` — the bits of LCR, if all three bytes are accepted
-/

namespace SerialFc

/-- `SERIAL_WMI_PARITY_…`. -/
inductive WmiParity
  | none | odd | even | mark | space
  deriving DecidableEq, Repr

/-- `SERIAL_WMI_STOP_…`. -/
inductive WmiStop
  | one | oneAndHalf | two
  deriving DecidableEq, Repr

namespace LineControl

/-- `LData` and `Mask`. -/
def wordLength : UInt8 → Option (UInt8 × UInt8)
  | 5 => some (0x00, 0x1f)
  | 6 => some (0x01, 0x3f)
  | 7 => some (0x02, 0x7f)
  | 8 => some (0x03, 0xff)
  | _ => none

/-- The parity for WMI, and `LParity`. -/
def parity : UInt8 → Option (WmiParity × UInt8)
  | 0 => some (.none, 0x00)
  | 1 => some (.odd, 0x08)
  | 2 => some (.even, 0x18)
  | 3 => some (.mark, 0x28)
  | 4 => some (.space, 0x38)
  | _ => none

/-- The stop bits for WMI, and `LStop`: one and a half only go with five data bits, and two only
with more. -/
def stopBits (data : UInt8) : UInt8 → Option (WmiStop × UInt8)
  | 0 => some (.one, 0x00)
  | 1 => if data = 0x00 then some (.oneAndHalf, 0x04) else none
  | 2 => if data = 0x00 then none else some (.two, 0x04)
  | _ => none

/-- `LData | LParity | LStop`. -/
def lineControlBits (word par stop : UInt8) : Option UInt8 :=
  match wordLength word, parity par with
  | some (data, _), some (_, code) => (stopBits data stop).map fun stops => data ||| code ||| stops.2
  | _, _ => none

theorem wordLength_cases {w : UInt8} {lengths : UInt8 × UInt8}
    (h : wordLength w = some lengths) : (w = 5 ∧ lengths.1 = 0) ∨ (w = 6 ∧ lengths.1 = 1) ∨
      (w = 7 ∧ lengths.1 = 2) ∨ (w = 8 ∧ lengths.1 = 3) := by
  unfold wordLength at h
  split at h <;> cases h <;> decide

theorem parity_cases {p : UInt8} {parities : WmiParity × UInt8} (h : parity p = some parities) :
    (p = 0 ∧ parities.2 = 0x00) ∨ (p = 1 ∧ parities.2 = 0x08) ∨ (p = 2 ∧ parities.2 = 0x18) ∨
      (p = 3 ∧ parities.2 = 0x28) ∨ (p = 4 ∧ parities.2 = 0x38) := by
  unfold parity at h
  split at h <;> cases h <;> decide

theorem stopBits_cases {data b : UInt8} {stops : WmiStop × UInt8}
    (h : stopBits data b = some stops) : (b = 0 ∧ stops.2 = 0x00) ∨
      (b = 1 ∧ data = 0 ∧ stops.2 = 0x04) ∨ (b = 2 ∧ data ≠ 0 ∧ stops.2 = 0x04) := by
  unfold stopBits at h
  split at h
  · cases h
    exact .inl ⟨rfl, rfl⟩
  · split at h
    · next hdata =>
      cases h
      exact .inr (.inl ⟨rfl, hdata, rfl⟩)
    · cases h
  · split at h
    · cases h
    · next hdata =>
      cases h
      exact .inr (.inr ⟨rfl, hdata, rfl⟩)
  · cases h

/-- The three bytes that were accepted. -/
theorem lineControlBits_cases {word par stop bits : UInt8}
    (h : lineControlBits word par stop = some bits) : ∃ lengths parities stops,
      wordLength word = some lengths ∧ parity par = some parities ∧
        stopBits lengths.1 stop = some stops ∧ bits = lengths.1 ||| parities.2 ||| stops.2 := by
  unfold lineControlBits at h
  split at h
  · next data mask wmiParity code hword hparity =>
    obtain ⟨stops, hstop, rfl⟩ := Option.map_eq_some_iff.mp h
    exact ⟨_, _, stops, hword, hparity, hstop, rfl⟩
  · cases h

/-- The divisor latch stays out of the way. -/
theorem lineControlBits_dlab {word par stop bits : UInt8}
    (h : lineControlBits word par stop = some bits) : bits &&& lcrDlab = 0 := by
  obtain ⟨lengths, parities, stops, hword, hparity, hstop, rfl⟩ := lineControlBits_cases h
  rcases wordLength_cases hword with ⟨-, hw⟩ | ⟨-, hw⟩ | ⟨-, hw⟩ | ⟨-, hw⟩ <;>
  rcases parity_cases hparity with ⟨-, hp⟩ | ⟨-, hp⟩ | ⟨-, hp⟩ | ⟨-, hp⟩ | ⟨-, hp⟩ <;>
  rcases stopBits_cases hstop with ⟨-, hs⟩ | ⟨-, -, hs⟩ | ⟨-, -, hs⟩ <;>
  · rw [hw, hp, hs]
    decide

end LineControl

end SerialFc
