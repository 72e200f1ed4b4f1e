import SerialFc.Lib.ShiftOut
import SerialFc.Model.ClockBits
import SerialFc.Properties.CardSettings
import Mathlib.Data.Nat.Bitwise

/-!
# What the clock generator sees of its pins

The clock bits of a card go out bit by bit over three pins of a register that has other pins too.

* `fsccClock_sequence` — the words of an FSCC card send the bits and touch no other pin
* `pciClock_iff` — the writes of a PCI card send the bits, and spare the other pins if those are low
-/

namespace SerialFc

open Lib.ShiftOut

/-! ## Masks -/

theorem or_and (a b mask : UInt32) : (a ||| b) &&& mask = a &&& mask ||| b &&& mask := by
  apply UInt32.toBitVec_inj.mp
  exact BitVec.and_or_distrib_right

theorem masked_or {keep mask : UInt32} (h : keep &&& mask = 0) (v c : UInt32) :
    (v &&& keep ||| c) &&& mask = c &&& mask := by
  have hv : v &&& keep &&& mask = 0 := by
    rw [UInt32.and_assoc, h, UInt32.and_zero]
  apply UInt32.toBitVec_inj.mp
  have hbits := congrArg UInt32.toBitVec hv
  simp only [UInt32.toBitVec_and, UInt32.toBitVec_or, UInt32.toBitVec_ofNat] at hbits ⊢
  rw [BitVec.and_or_distrib_right, hbits]
  exact BitVec.zero_or

theorem masked_and_not {keep mask : UInt32} (h : keep &&& ~~~mask = keep) (v : UInt32) :
    v &&& keep &&& ~~~mask = v &&& keep := by
  rw [UInt32.and_assoc, h]

theorem or_and_not {base v mask : UInt32} (h : base &&& ~~~mask = base) :
    (base ||| v) &&& ~~~mask = base ||| (v &&& ~~~mask) := by
  apply UInt32.toBitVec_inj.mp
  have hbits := congrArg UInt32.toBitVec h
  simp only [UInt32.toBitVec_and, UInt32.toBitVec_or, UInt32.toBitVec_not] at hbits ⊢
  rw [BitVec.and_or_distrib_right, hbits]

/-! ## Filling the array -/

theorem ClockArray.put_of_lt {a : ClockArray} (h : a.dataIndex < 323) (v : UInt32) :
    ∃ a', a.put v = some a' ∧ a'.dataIndex = a.dataIndex + 1 ∧ a'.words = a.words ++ [v] := by
  refine ⟨_, dif_pos h, rfl, ?_⟩
  have hlen : a.dataIndex < a.data.toList.length := by simpa using h
  simp only [words]
  rw [Vector.toList_set, List.take_add_one, List.take_set_of_le (Nat.le_refl _),
    List.getElem?_set_self hlen]
  rfl

/-- The running value is `base` with the data pin at the last bit. -/
def Level (base dta v : UInt32) : Prop := v = base ∨ v = base ||| dta

/-- From `s` the code goes on to `s'` and puts `ws` into the array. -/
structure Writes (base dta : UInt32) (s s' : UInt32 × ClockArray) (ws : List UInt32) : Prop where
  level : Level base dta s'.1
  dataIndex : s'.2.dataIndex = s.2.dataIndex + ws.length
  words : s'.2.words = s.2.words ++ ws

/-- `f` finds room for the words `out x` that it writes. -/
def Fills {α : Type} (base dta : UInt32) (out : α → List UInt32)
    (f : UInt32 × ClockArray → α → Option (UInt32 × ClockArray)) : Prop :=
  ∀ s x, Level base dta s.1 → s.2.dataIndex + (out x).length ≤ 323 →
    ∃ s', f s x = some s' ∧ Writes base dta s s' (out x)

/-- A loop writes what its turns write, one after another. -/
theorem Fills.foldlM {α : Type} {base dta : UInt32} {out : α → List UInt32}
    {f : UInt32 × ClockArray → α → Option (UInt32 × ClockArray)} (h : Fills base dta out f) :
    Fills base dta (fun xs : List α => xs.flatMap out) fun s xs => xs.foldlM f s := by
  intro s xs hlevel hroom
  induction xs generalizing s with
  | nil => exact ⟨s, rfl, hlevel, rfl, (List.append_nil _).symm⟩
  | cons x xs ih =>
    simp only [List.flatMap_cons, List.length_append] at hroom ⊢
    obtain ⟨s₁, hf, hone⟩ := h s x hlevel (by omega)
    have hroom' : s₁.2.dataIndex + (xs.flatMap out).length ≤ 323 := by
      rw [hone.dataIndex]
      omega
    obtain ⟨s₂, hfs, hrest⟩ := ih s₁ hone.level hroom'
    refine ⟨s₂, ?_, hrest.level, ?_, ?_⟩
    · rw [List.foldlM_cons, hf]
      exact hfs
    · rw [hrest.dataIndex, hone.dataIndex, List.length_append, Nat.add_assoc]
    · rw [hrest.words, hone.words, List.append_assoc]

/-- The two words of one bit. -/
def pulseWords (base dta clk : UInt32) (bit : Bool) : List UInt32 :=
  let level := if bit then base ||| dta else base
  [level ||| clk, level]

section
variable {base dta clk : UInt32} (hdta : base &&& ~~~dta = base) (hclk : base &&& ~~~clk = base)
  (hapart : dta &&& ~~~clk = dta)
include hdta

theorem withBits32_level {v : UInt32} (h : Level base dta v) (bit : Bool) :
    withBits32 bit dta v = if bit then base ||| dta else base := by
  have hself : dta &&& ~~~dta = 0 := by
    apply UInt32.toBitVec_inj.mp
    simp
  rcases h with rfl | rfl <;> cases bit
  · exact hdta
  · rfl
  · show (base ||| dta) &&& ~~~dta = base
    rw [or_and_not hdta, hself]
    exact UInt32.or_zero
  · show base ||| dta ||| dta = base ||| dta
    rw [UInt32.or_assoc, UInt32.or_self]

include hclk hapart

omit hdta in
theorem clock_down (bit : Bool) :
    ((if bit then base ||| dta else base) ||| clk) &&& ~~~clk =
      if bit then base ||| dta else base := by
  have hself : clk &&& ~~~clk = 0 := by
    apply UInt32.toBitVec_inj.mp
    simp
  cases bit with
  | false =>
    show (base ||| clk) &&& ~~~clk = base
    rw [or_and_not hclk, hself]
    exact UInt32.or_zero
  | true =>
    show (base ||| dta ||| clk) &&& ~~~clk = base ||| dta
    have hboth : (base ||| dta) &&& ~~~clk = base ||| dta := by
      rw [or_and_not hclk, hapart]
    rw [or_and_not hboth, hself]
    exact UInt32.or_zero

theorem clockWords_eq (bits : List Bool) {v : UInt32} (h : Level base dta v) :
    Device.clockWords dta clk v bits = bits.flatMap (pulseWords base dta clk) := by
  induction bits generalizing v with
  | nil => rfl
  | cons bit bits ih =>
    simp only [Device.clockWords, List.flatMap_cons, pulseWords]
    rw [withBits32_level hdta h, clock_down hclk hapart, ih]
    · rfl
    · unfold Level
      cases bit <;> simp

theorem putClockBit_fills : Fills base dta (pulseWords base dta clk) (putClockBit dta clk) := by
  intro s bit hlevel hroom
  have hroom' : s.2.dataIndex + 2 ≤ 323 := hroom
  obtain ⟨a₁, hput₁, hindex₁, hwords₁⟩ := s.2.put_of_lt (by omega)
    ((if bit then base ||| dta else base) ||| clk)
  obtain ⟨a₂, hput₂, hindex₂, hwords₂⟩ := a₁.put_of_lt (by omega)
    (if bit then base ||| dta else base)
  refine ⟨(if bit then base ||| dta else base, a₂), ?_, ?_, ?_, ?_⟩
  · simp only [putClockBit]
    rw [withBits32_level hdta hlevel, clock_down hclk hapart, hput₁]
    simp [hput₂]
  · unfold Level
    cases bit <;> simp
  · rw [hindex₂, hindex₁]
    rfl
  · rw [hwords₂, hwords₁, List.append_assoc]
    rfl

end

/-- The bits of a byte, from bit 7 down. -/
def byteBits (byte : UInt8) : List Bool :=
  (List.range 8).reverse.map fun j => byte.toNat.testBit j

theorem clockBit_eq (byte : UInt8) {j : Nat} (h : j < 8) :
    ((byte >>> j.toUInt8) &&& 1 != 0) = byte.toNat.testBit j := by
  have hj : j.toUInt8.toNat = j := by
    simp only [Nat.toUInt8, UInt8.toNat_ofNat']
    omega
  have hshift : ((byte >>> j.toUInt8) &&& 1).toNat = 1 &&& (byte.toNat >>> j) := by
    rw [UInt8.toNat_and, UInt8.toNat_shiftRight, hj, Nat.mod_eq_of_lt h, Nat.and_comm]
    rfl
  rw [Nat.testBit, ← hshift]
  rw [Bool.eq_iff_iff, bne_iff_ne, bne_iff_ne, ne_eq, ne_eq, ← UInt8.toNat_inj]
  rfl

theorem putClockByte_eq (dta clk : UInt32) (s : UInt32 × ClockArray) (byte : UInt8) :
    putClockByte dta clk s byte = (byteBits byte).foldlM (putClockBit dta clk) s := by
  unfold putClockByte byteBits
  rw [List.foldlM_map]
  have hmem : ∀ j ∈ (List.range 8).reverse, j < 8 := by simp
  generalize (List.range 8).reverse = js at hmem
  induction js generalizing s with
  | nil => rfl
  | cons j js ih =>
    rw [List.foldlM_cons, List.foldlM_cons, clockBit_eq byte (hmem j List.mem_cons_self)]
    exact bind_congr fun s' => ih s' fun i hi => hmem i (List.mem_cons_of_mem j hi)

/-! ## FSCC cards -/

namespace Device

/-- The pins of the clock generator of the port's channel. -/
def fcrPins (d : Device) (w : UInt32) : Pins :=
  ⟨has32 w (d.clockMask 0x1), has32 w (d.clockMask 0x2), has32 w (d.clockMask 0x8)⟩

/-- A mask of `clockMask`, for the channel that is not the port's. -/
def otherClockMask (d : Device) (v : UInt32) : UInt32 := if d.channel = 1 then v else v <<< 8

/-- The words send the bits to the clock generator of the channel and do nothing else. -/
structure ClockSequence (d : Device) (bits : List Bool) (words : List UInt32) : Prop where
  length : words.length = 323
  last : words.getLast? = some d.hw.bar2
  outside : ∀ w ∈ words, w &&& ~~~0x00000f0f = d.hw.bar2 &&& ~~~0x00000f0f
  otherChannel : ∀ w ∈ words.dropLast,
    has32 w (d.otherClockMask 0x2) = false ∧ has32 w (d.otherClockMask 0x8) = false
  latched : Latches (d.fcrPins d.hw.bar2) (words.dropLast.map d.fcrPins) bits

section
variable (d : Device)

/-- Masks of one channel. -/
theorem clockMask_cases : (d.clockMask 0x1 = 0x1 ∧ d.clockMask 0x2 = 0x2 ∧ d.clockMask 0x8 = 0x8 ∧
      d.otherClockMask 0x2 = 0x200 ∧ d.otherClockMask 0x8 = 0x800) ∨
    (d.clockMask 0x1 = 0x100 ∧ d.clockMask 0x2 = 0x200 ∧ d.clockMask 0x8 = 0x800 ∧
      d.otherClockMask 0x2 = 0x2 ∧ d.otherClockMask 0x8 = 0x8) := by
  unfold clockMask otherClockMask
  split
  · exact .inr (by decide)
  · exact .inl (by decide)

/-- The word that all others start from, with all pins of both channels low. -/
def clockBase : UInt32 := d.hw.bar2 &&& 0xfffff0f0

/-- The words of `FastcomSetClockBitsFSCC`. -/
def clockSequence (bits : List Bool) : List UInt32 :=
  d.clockBase :: bits.flatMap (pulseWords d.clockBase (d.clockMask 0x1) (d.clockMask 0x2)) ++
    [d.clockBase ||| d.clockMask 0x8, d.hw.bar2]

theorem clockBase_pins : d.clockBase &&& ~~~d.clockMask 0x1 = d.clockBase ∧
    d.clockBase &&& ~~~d.clockMask 0x2 = d.clockBase ∧
    d.clockMask 0x1 &&& ~~~d.clockMask 0x2 = d.clockMask 0x1 ∧
    d.clockMask 0x8 &&& ~~~d.clockMask 0x2 = d.clockMask 0x8 := by
  rcases d.clockMask_cases with ⟨h₁, h₂, h₃, _⟩ | ⟨h₁, h₂, h₃, _⟩ <;> rw [h₁, h₂, h₃] <;>
    exact ⟨masked_and_not (by decide) _, masked_and_not (by decide) _, by decide, by decide⟩

theorem clockStrobe : (d.clockBase ||| d.clockMask 0x8) &&& ~~~d.clockMask 0x2 =
    d.clockBase ||| d.clockMask 0x8 := by
  obtain ⟨_, hclk, _, hstrobe⟩ := d.clockBase_pins
  rw [or_and_not hclk, hstrobe]

/-- The loop over the bytes goes through them from the last one down. -/
theorem clockBytes_eq {bytes : List UInt8} (h : bytes.length = 20) :
    (List.range 20).reverse.map (bytes.getD · 0) = bytes.reverse := by
  rw [List.map_reverse]
  congr 1
  refine List.ext_getElem (by simp [h]) fun i hi hi' => ?_
  simp [hi']

theorem length_clockPulses (bits : List Bool) (base dta clk : UInt32) :
    (bits.flatMap (pulseWords base dta clk)).length = 2 * bits.length := by
  induction bits with
  | nil => rfl
  | cons bit bits ih =>
    rw [List.flatMap_cons, List.length_append, ih, List.length_cons]
    show 2 + 2 * bits.length = _
    omega

theorem length_clockBitsFscc (bytes : List UInt8) :
    (clockBitsFscc bytes).length = 8 * bytes.length := by
  have hbyte : ∀ byte ∈ bytes.reverse, ((List.range 8).reverse.map fun j =>
      byte.toNat.testBit j).length = 8 := fun byte _ => by simp
  rw [clockBitsFscc, List.length_flatMap, List.map_congr_left hbyte]
  simp [Nat.mul_comm]

/-- The array has room for the words of 160 bits. -/
theorem clockArray_eq {bytes : List UInt8} (h : bytes.length = 20) :
    ∃ a, d.clockArray bytes = some a ∧
      a.words = d.clockSequence (clockBitsFscc (d.withXtal bytes)) := by
  obtain ⟨hdta, hclk, hapart, _⟩ := d.clockBase_pins
  have hbytes : (d.withXtal bytes).length = 20 := by simp [withXtal, h]
  have hbits := length_clockBitsFscc (d.withXtal bytes)
  unfold clockArray
  dsimp only
  generalize d.withXtal bytes = xtal at hbytes hbits
  -- the loop over bytes fills the array with two words for each bit
  have hfills : Fills d.clockBase (d.clockMask 0x1)
      (fun bytes : List UInt8 => bytes.flatMap fun byte =>
        (byteBits byte).flatMap (pulseWords d.clockBase (d.clockMask 0x1) (d.clockMask 0x2)))
      fun s bytes => bytes.foldlM (putClockByte (d.clockMask 0x1) (d.clockMask 0x2)) s := by
    refine Fills.foldlM ?_
    have hbyte := (putClockBit_fills hdta hclk hapart).foldlM
    intro s byte hlevel hroom
    obtain ⟨s', hs', hwrites⟩ := hbyte s (byteBits byte) hlevel hroom
    exact ⟨s', (putClockByte_eq ..).trans hs', hwrites⟩
  -- the word before the loop
  obtain ⟨a₁, hput₁, hindex₁, hwords₁⟩ := ClockArray.put_of_lt (a := .allocated) (by decide)
    (d.hw.bar2 &&& 0xfffff0f0)
  have hflat : (xtal.reverse.flatMap fun byte =>
      (byteBits byte).flatMap (pulseWords d.clockBase (d.clockMask 0x1) (d.clockMask 0x2))) =
      (clockBitsFscc xtal).flatMap (pulseWords d.clockBase (d.clockMask 0x1) (d.clockMask 0x2)) :=
    List.flatMap_assoc.symm
  have hlength := length_clockPulses (clockBitsFscc xtal) d.clockBase (d.clockMask 0x1)
    (d.clockMask 0x2)
  rw [hbits, hbytes] at hlength
  have hindex : a₁.dataIndex = 1 := hindex₁
  obtain ⟨s₂, hfold, hwrites⟩ := hfills (d.hw.bar2 &&& 0xfffff0f0, a₁) xtal.reverse (.inl rfl) (by
    dsimp only
    rw [hflat, hlength, hindex]
    omega)
  dsimp only at hfold
  have hindex₂' := hwrites.dataIndex
  have hwords₂ := hwrites.words
  dsimp only at hindex₂' hwords₂
  have hindex₂ : s₂.2.dataIndex = 321 := by
    rw [hindex₂', hflat, hlength, hindex]
  -- the two words after it
  obtain ⟨a₃, hput₃, hindex₃, hwords₃⟩ := s₂.2.put_of_lt (by omega)
    (d.clockBase ||| d.clockMask 0x8)
  obtain ⟨a₄, hput₄, _, hwords₄⟩ := a₃.put_of_lt (by omega) d.hw.bar2
  refine ⟨a₄, ?_, ?_⟩
  · have hloop : (List.range 20).reverse.foldlM (fun s i =>
        putClockByte (d.clockMask 0x1) (d.clockMask 0x2) s (xtal.getD i 0))
          (d.hw.bar2 &&& 0xfffff0f0, a₁) = some s₂ := by
      rw [← clockBytes_eq hbytes, List.foldlM_map] at hfold
      exact hfold
    have hstrobe := d.clockStrobe
    unfold clockBase at hstrobe hput₃
    rw [hput₁]
    dsimp only [Option.bind_eq_bind, Option.bind_some]
    rw [hloop]
    dsimp only [Option.bind_some]
    rw [hstrobe, hput₃]
    exact hput₄
  · rw [hwords₄, hwords₃, hwords₂, hwords₁, hflat]
    simp [clockSequence, clockBase, ClockArray.words, ClockArray.allocated]

theorem fastcomSetClockBitsFscc_eq (frequency : UInt32) (clockBits : List UInt8) :
    d.fastcomSetClockBitsFscc true frequency clockBits =
      (.success, { (d.clockSequence (clockBitsFscc (d.withXtal clockBits))).foldl writeBar2 d with
        clockRate := frequency }) := by
  obtain ⟨hdta, hclk, hapart, _⟩ := d.clockBase_pins
  have hwords := clockWords_eq hdta hclk hapart (clockBitsFscc (d.withXtal clockBits)) (.inl rfl)
  have hstrobe := d.clockStrobe
  unfold clockBase at hwords hstrobe
  unfold clockMask at hwords hstrobe
  simp only [fastcomSetClockBitsFscc, clockSequence, clockBase, clockMask]
  rw [hwords, hstrobe]
  rfl

/-! ### What the generator sees -/

/-- The last word, after all others. -/
theorem clockSequence_concat (bits : List Bool) : d.clockSequence bits =
    [d.clockBase] ++ bits.flatMap (pulseWords d.clockBase (d.clockMask 0x1) (d.clockMask 0x2)) ++
      [d.clockBase ||| d.clockMask 0x8] ++ [d.hw.bar2] := by
  simp [clockSequence]

theorem dropLast_clockSequence (bits : List Bool) : (d.clockSequence bits).dropLast =
    [d.clockBase] ++ bits.flatMap (pulseWords d.clockBase (d.clockMask 0x1) (d.clockMask 0x2)) ++
      [d.clockBase ||| d.clockMask 0x8] := by
  rw [clockSequence_concat, List.dropLast_concat]

/-- Pins of the channel that are high in a word. -/
def clockPins : List UInt32 :=
  [0, d.clockMask 0x1, d.clockMask 0x2, d.clockMask 0x1 ||| d.clockMask 0x2, d.clockMask 0x8]

theorem mem_clockSequence {bits : List Bool} {w : UInt32}
    (h : w ∈ (d.clockSequence bits).dropLast) : ∃ pins ∈ d.clockPins, w = d.clockBase ||| pins := by
  rw [dropLast_clockSequence, List.mem_append, List.mem_append] at h
  rcases h with (h | h) | h
  · rw [List.mem_singleton.mp h]
    exact ⟨0, by simp [clockPins], UInt32.or_zero.symm⟩
  · obtain ⟨bit, _, hmem⟩ := List.mem_flatMap.mp h
    cases bit with
    | false =>
      rcases List.mem_pair.mp hmem with rfl | rfl
      · exact ⟨d.clockMask 0x2, by simp [clockPins], rfl⟩
      · exact ⟨0, by simp [clockPins], UInt32.or_zero.symm⟩
    | true =>
      rcases List.mem_pair.mp hmem with rfl | rfl
      · exact ⟨d.clockMask 0x1 ||| d.clockMask 0x2, by simp [clockPins], UInt32.or_assoc ..⟩
      · exact ⟨d.clockMask 0x1, by simp [clockPins], rfl⟩
  · rw [List.mem_singleton.mp h]
    exact ⟨d.clockMask 0x8, by simp [clockPins], rfl⟩

/-- The pins of the channel, and no others, are what is added to the base. -/
theorem clockPins_spec {pins : UInt32} (h : pins ∈ d.clockPins) :
    pins &&& ~~~0x00000f0f = 0 ∧ pins &&& d.otherClockMask 0x2 = 0 ∧
      pins &&& d.otherClockMask 0x8 = 0 := by
  rcases d.clockMask_cases with ⟨h₁, h₂, h₃, h₄, h₅⟩ | ⟨h₁, h₂, h₃, h₄, h₅⟩
  all_goals
    rw [clockPins, h₁, h₂, h₃] at h
    rw [h₄, h₅]
    simp only [List.mem_cons, List.not_mem_nil, or_false] at h
    rcases h with rfl | rfl | rfl | rfl | rfl <;> decide

theorem outside_of_pins {pins : UInt32} (h : pins &&& ~~~0x00000f0f = 0) :
    (d.clockBase ||| pins) &&& ~~~0x00000f0f = d.hw.bar2 &&& ~~~0x00000f0f := by
  unfold clockBase
  rw [or_and, h, UInt32.or_zero, UInt32.and_assoc]
  rfl

theorem has32_of_pins {pins mask : UInt32} (hmask : 0xfffff0f0 &&& mask = 0) :
    has32 (d.clockBase ||| pins) mask = has32 pins mask := by
  unfold has32 clockBase
  rw [masked_or hmask]

/-- Both clock pins and both strobe pins are low in the base. -/
theorem base_of_otherMask : 0xfffff0f0 &&& d.otherClockMask 0x2 = 0 ∧
    0xfffff0f0 &&& d.otherClockMask 0x8 = 0 := by
  rcases d.clockMask_cases with ⟨_, _, _, h₄, h₅⟩ | ⟨_, _, _, h₄, h₅⟩ <;> rw [h₄, h₅] <;> decide

/-- How the generator sees one bit. -/
def fsccPulse (bit : Bool) : List Pins := [⟨bit, true, false⟩, ⟨bit, false, false⟩]

theorem fsccPulse_sends (bit : Bool) : Sends (fsccPulse bit) bit where
  sampled prev hlow := by simp [fsccPulse, sampled, hlow]
  low prev := by simp [fsccPulse]
  still p hp := by
    rcases List.mem_pair.mp hp with rfl | rfl <;> rfl

theorem fcrPins_of_pins (pins : UInt32) : d.fcrPins (d.clockBase ||| pins) = d.fcrPins pins := by
  unfold fcrPins
  rcases d.clockMask_cases with ⟨h₁, h₂, h₃, _⟩ | ⟨h₁, h₂, h₃, _⟩ <;>
    rw [h₁, h₂, h₃, has32_of_pins d (by decide), has32_of_pins d (by decide),
      has32_of_pins d (by decide)]

theorem fcrPins_pulse (bit : Bool) :
    (pulseWords d.clockBase (d.clockMask 0x1) (d.clockMask 0x2) bit).map d.fcrPins =
      fsccPulse bit := by
  have hbase : d.fcrPins d.clockBase = d.fcrPins 0 := by
    rw [← d.fcrPins_of_pins 0, UInt32.or_zero]
  cases bit with
  | false =>
    show [d.fcrPins (d.clockBase ||| d.clockMask 0x2), d.fcrPins d.clockBase] = _
    rw [fcrPins_of_pins, hbase]
    unfold fcrPins
    rcases d.clockMask_cases with ⟨h₁, h₂, h₃, _⟩ | ⟨h₁, h₂, h₃, _⟩ <;> rw [h₁, h₂, h₃] <;> rfl
  | true =>
    show [d.fcrPins (d.clockBase ||| d.clockMask 0x1 ||| d.clockMask 0x2),
      d.fcrPins (d.clockBase ||| d.clockMask 0x1)] = _
    rw [UInt32.or_assoc, fcrPins_of_pins, fcrPins_of_pins]
    unfold fcrPins
    rcases d.clockMask_cases with ⟨h₁, h₂, h₃, _⟩ | ⟨h₁, h₂, h₃, _⟩ <;> rw [h₁, h₂, h₃] <;> rfl

theorem latches_clockSequence (bits : List Bool) : Latches (d.fcrPins d.hw.bar2)
    ((d.clockSequence bits).dropLast.map d.fcrPins) bits := by
  have hbase : d.fcrPins d.clockBase = ⟨false, false, false⟩ := by
    rw [← UInt32.or_zero (a := d.clockBase), fcrPins_of_pins]
    rcases d.clockMask_cases with ⟨h₁, h₂, h₃, _⟩ | ⟨h₁, h₂, h₃, _⟩ <;> unfold fcrPins <;>
      rw [h₁, h₂, h₃] <;> rfl
  have hstrobe : d.fcrPins (d.clockBase ||| d.clockMask 0x8) = ⟨false, false, true⟩ := by
    rw [fcrPins_of_pins]
    rcases d.clockMask_cases with ⟨h₁, h₂, h₃, _⟩ | ⟨h₁, h₂, h₃, _⟩ <;> unfold fcrPins <;>
      rw [h₁, h₂, h₃] <;> rfl
  have hpulses : (bits.flatMap (pulseWords d.clockBase (d.clockMask 0x1) (d.clockMask 0x2))).map
      d.fcrPins = bits.flatMap fsccPulse := by
    rw [List.map_flatMap]
    exact congrArg (bits.flatMap ·) (funext d.fcrPins_pulse)
  rw [dropLast_clockSequence, List.map_append, List.map_append, hpulses, List.map_singleton,
    List.map_singleton, hbase, hstrobe]
  refine latches_of_pulses fsccPulse_sends bits _ ⟨?_, rfl, ?_⟩ ⟨rfl, rfl⟩ nofun
  · exact sampled_low _ fun p hp => by rw [List.mem_singleton.mp hp]
  · intro p hp
    rw [List.mem_singleton.mp hp]

/-- **Clock bits of an FSCC card.** The array takes all words of the 20 bytes, and what is sent of
it programs the clock generator of the channel and nothing else. -/
theorem fsccClock_sequence (frequency : UInt32) (clockBits : Vector UInt8 20) :
    ∃ a, d.clockArray clockBits.toList = some a ∧
      d.fastcomSetClockBitsFscc true frequency clockBits.toList =
        (.success, { a.words.foldl writeBar2 d with clockRate := frequency }) ∧
      (clockBitsFscc (d.withXtal clockBits.toList)).length = 160 ∧
      d.ClockSequence (clockBitsFscc (d.withXtal clockBits.toList)) a.words := by
  have hlength : clockBits.toList.length = 20 := by simp
  obtain ⟨a, ha, hwords⟩ := d.clockArray_eq hlength
  have hbytes : (d.withXtal clockBits.toList).length = 20 := by simp [withXtal]
  have hbits := length_clockBitsFscc (d.withXtal clockBits.toList)
  rw [hbytes] at hbits
  refine ⟨a, ha, ?_, hbits, ?_⟩
  · rw [hwords]
    exact d.fastcomSetClockBitsFscc_eq frequency clockBits.toList
  rw [hwords]
  have hlast : (d.clockSequence (clockBitsFscc (d.withXtal clockBits.toList))).getLast? =
      some d.hw.bar2 := by rw [clockSequence_concat, List.getLast?_concat]
  refine ⟨?_, hlast, fun w hw => ?_, fun w hw => ?_, d.latches_clockSequence _⟩
  · simp only [clockSequence, List.length_cons, List.length_append, length_clockPulses, hbits]
    rfl
  · have hsplit := List.dropLast_append_getLast? _ hlast
    rw [← hsplit, List.mem_append] at hw
    rcases hw with hw | hw
    · obtain ⟨pins, hpins, rfl⟩ := d.mem_clockSequence hw
      exact d.outside_of_pins (d.clockPins_spec hpins).1
    · rw [List.mem_singleton.mp hw]
  · obtain ⟨pins, hpins, rfl⟩ := d.mem_clockSequence hw
    obtain ⟨_, hclk, hstrb⟩ := d.clockPins_spec hpins
    obtain ⟨hbase, hbase'⟩ := d.base_of_otherMask
    rw [has32_of_pins d hbase, has32_of_pins d hbase']
    unfold has32
    rw [hclk, hstrb]
    decide

end

/-! ## PCI cards -/

/-- The three pins of the clock generator among those of MPIOLVL. -/
def mpioPins (v : UInt8) : Pins := ⟨has v mpioSdta, has v mpioSclk, has v mpioSstb⟩

/-- The lower 24 bits, from bit 23 down. -/
def pciClockBits (clockBits : UInt32) : List Bool :=
  (List.range 24).map fun k => clockBits.toNat.testBit (23 - k)

/-- The writes program the clock generator and leave the other pins and the register as they
were. -/
structure ClockBitsSent (saved : UInt8) (clockBits : UInt32) (values : List UInt8) : Prop where
  latched : Latches (mpioPins saved) (values.map mpioPins) (pciClockBits clockBits)
  restored : values.getLast? = some saved
  frame : ∀ v ∈ values, v &&& ~~~(mpioSdta ||| mpioSclk ||| mpioSstb) =
    saved &&& ~~~(mpioSdta ||| mpioSclk ||| mpioSstb)

theorem sendClockBits_eq (n : Nat) (tempValue : UInt32) (data : UInt8) (d : Device) :
    sendClockBits n tempValue data d = (lastClockValue data (sendClockValues n tempValue data),
      (sendClockValues n tempValue data).foldl (writeReg · .mpiolvl) d) := by
  induction n generalizing tempValue data d with
  | zero => rfl
  | succ n ih =>
    simp only [sendClockBits, sendClockValues, List.foldl_cons]
    rw [ih]
    simp [lastClockValue, List.getLast?_cons]

/-- What the model of the routine does to the card is what these writes do. -/
theorem fastcomSetClockBitsPci_writes (d : Device) (frequency clockBits : UInt32) :
    d.fastcomSetClockBitsPci frequency clockBits =
      (.success, { (clockValues clockBits (d.readReg .mpiolvl)).foldl (writeReg · .mpiolvl) d with
        clockRate := frequency }) := by
  simp only [fastcomSetClockBitsPci, sendClockBits_eq, clockValues, strobeClockBits,
    List.foldl_append, List.foldl_cons, List.foldl_nil]

/-- The loop looks at bit 23 of what it shifts up. -/
theorem has32_top (v : UInt32) : has32 v 0x800000 = v.toNat.testBit 23 := by
  have hand : (v &&& 0x800000).toNat = (v.toNat.testBit 23).toNat * 2 ^ 23 := by
    rw [UInt32.toNat_and, ← Nat.and_two_pow]
    rfl
  unfold has32
  rw [Bool.eq_iff_iff, bne_iff_ne, ne_eq, ← UInt32.toNat_inj, hand]
  cases v.toNat.testBit 23 <;> simp

theorem testBit_shifted (v : UInt32) {i : Nat} (h : i + 1 < 32) :
    (v <<< 1).toNat.testBit (i + 1) = v.toNat.testBit i := by
  rw [UInt32.toNat_shiftLeft, Nat.testBit_mod_two_pow]
  simp [h]

/-- How the generator sees one bit. -/
def pciPulse (bit : Bool) : List Pins :=
  [⟨bit, false, false⟩, ⟨bit, true, false⟩, ⟨bit, false, false⟩]

theorem pciPulse_sends (bit : Bool) : Sends (pciPulse bit) bit where
  sampled prev hlow := by simp [pciPulse, sampled]
  low prev := by simp [pciPulse]
  still p hp := by
    simp only [pciPulse, List.mem_cons, List.not_mem_nil, or_false] at hp
    rcases hp with rfl | rfl | rfl <;> rfl

theorem mpioPins_of_down {v : UInt8} (h : PinsDown v) : mpioPins v = ⟨has v mpioSdta, false, false⟩ := by
  rw [mpioPins, h.sclk, h.sstb]

theorem pinsDown_and_sdta (v : UInt8) : PinsDown (v &&& mpioSdta) := by
  unfold PinsDown
  rw [UInt8.and_assoc]
  exact UInt8.and_zero

/-- The three values of one turn. -/
theorem mpioPins_turn {data : UInt8} (h : PinsDown data) (bit : Bool) :
    [withBits bit mpioSdta data, withBits bit mpioSdta data ||| mpioSclk,
      (withBits bit mpioSdta data ||| mpioSclk) &&& mpioSdta].map mpioPins = pciPulse bit := by
  have hdown := h.withSdta bit
  have hself : has (withBits bit mpioSdta data) mpioSdta = bit := by
    rw [has_withBits_self]
    simp [mpioSdta]
  have hup : mpioPins (withBits bit mpioSdta data ||| mpioSclk) = ⟨bit, true, false⟩ := by
    have hsdta : has (withBits bit mpioSdta data ||| mpioSclk) mpioSdta = bit :=
      (has_withBits_of_disjoint (by decide) true _).trans hself
    have hsstb : has (withBits bit mpioSdta data ||| mpioSclk) mpioSstb = false :=
      (has_withBits_of_disjoint (by decide) true _).trans hdown.sstb
    rw [mpioPins, hsdta, hsstb, has_or_self _ (by decide)]
  have hlast : mpioPins ((withBits bit mpioSdta data ||| mpioSclk) &&& mpioSdta) =
      ⟨bit, false, false⟩ := by
    have hsdta : has (withBits bit mpioSdta data ||| mpioSclk) mpioSdta = bit :=
      (has_withBits_of_disjoint (by decide) true _).trans hself
    rw [mpioPins_of_down (pinsDown_and_sdta _)]
    unfold has at hsdta ⊢
    rw [UInt8.and_assoc, UInt8.and_self, hsdta]
  rw [List.map_cons, List.map_cons, List.map_singleton, mpioPins_of_down hdown, hself, hup, hlast]
  rfl

theorem mpioPins_sendClockValues (n : Nat) (tempValue : UInt32) {data : UInt8} (h : PinsDown data)
    (hn : n ≤ 24) : (sendClockValues n tempValue data).map mpioPins =
      ((List.range n).map fun k => tempValue.toNat.testBit (23 - k)).flatMap pciPulse := by
  induction n generalizing tempValue data with
  | zero => rfl
  | succ n ih =>
    have hrest := ih (tempValue <<< 1) (pinsDown_and_sdta
      (withBits (has32 tempValue 0x800000) mpioSdta data ||| mpioSclk)) (by omega)
    have hbits : ((List.range n).map fun k => (tempValue <<< 1).toNat.testBit (23 - k)) =
        (List.range n).map fun k => tempValue.toNat.testBit (23 - (k + 1)) := by
      refine List.map_congr_left fun k hk => ?_
      have hk' : k < n := List.mem_range.mp hk
      have hindex : 23 - k = 23 - (k + 1) + 1 := by omega
      rw [hindex]
      exact testBit_shifted tempValue (by omega)
    rw [hbits] at hrest
    rw [List.range_succ_eq_map, List.map_cons, List.map_map, List.flatMap_cons, ← has32_top,
      ← mpioPins_turn h]
    simp only [sendClockValues, List.map_cons, List.map_nil, List.cons_append, List.nil_append]
    rw [hrest]
    rfl

/-- With the other pins low, they stay low. -/
theorem frame_sendClockValues (n : Nat) (tempValue : UInt32) {data : UInt8}
    (h : data &&& 0xf8 = 0) : ∀ v ∈ sendClockValues n tempValue data, v &&& 0xf8 = 0 := by
  induction n generalizing tempValue data with
  | zero => exact nofun
  | succ n ih =>
    have hbit : withBits (has32 tempValue 0x800000) mpioSdta data &&& 0xf8 = 0 := by
      rw [withBits_and_of_disjoint (by decide), h]
    have hup : (withBits (has32 tempValue 0x800000) mpioSdta data ||| mpioSclk) &&& 0xf8 = 0 :=
      (withBits_and_of_disjoint (by decide) true _).trans hbit
    have hdown (u : UInt8) : u &&& mpioSdta &&& 0xf8 = 0 := by
      rw [UInt8.and_assoc]
      exact UInt8.and_zero
    intro v hv
    simp only [sendClockValues, List.mem_cons] at hv
    rcases hv with rfl | rfl | rfl | hv
    · exact hbit
    · exact hup
    · exact hdown _
    · exact ih _ (hdown _) v hv

theorem frame_lastClockValue {saved : UInt8} {values : List UInt8} (hsaved : saved &&& 0xf8 = 0)
    (h : ∀ v ∈ values, v &&& 0xf8 = 0) : lastClockValue saved values &&& 0xf8 = 0 := by
  unfold lastClockValue
  cases hlast : values.getLast? with
  | none => exact hsaved
  | some v => exact h v (List.mem_of_getLast? hlast)

/-- The shift loses the upper byte and nothing else. -/
theorem pciClockBits_masked (clockBits : UInt32) :
    ((List.range 24).map fun k => (clockBits &&& 0x00ffffff).toNat.testBit (23 - k)) =
      pciClockBits clockBits := by
  refine List.map_congr_left fun k hk => ?_
  have hmask : (clockBits &&& 0x00ffffff).toNat = clockBits.toNat % 2 ^ 24 := by
    rw [UInt32.toNat_and]
    exact Nat.and_two_pow_sub_one_eq_mod _ 24
  rw [hmask, Nat.testBit_mod_two_pow]
  have hlt : 23 - k < 24 := by omega
  simp [hlt]

/-- The third write clears the pins that are not the generator's. -/
theorem third_clockValues (clockBits : UInt32) (saved : UInt8) :
    ∃ v ∈ clockValues clockBits saved, v &&& 0xf8 = 0 := by
  refine ⟨(withBits (has32 (clockBits &&& 0x00ffffff) 0x800000) mpioSdta saved ||| mpioSclk) &&&
    mpioSdta, ?_, ?_⟩
  · exact List.mem_append_left _ (by simp [sendClockValues])
  · rw [UInt8.and_assoc]
    exact UInt8.and_zero

theorem clockBitsSent_of_low (clockBits : UInt32) {saved : UInt8} (hdown : PinsDown saved)
    (hsaved : saved &&& 0xf8 = 0) : ClockBitsSent saved clockBits (clockValues clockBits saved) := by
  have hsent := frame_sendClockValues 24 (clockBits &&& 0x00ffffff) hsaved
  have hpulses := mpioPins_sendClockValues 24 (clockBits &&& 0x00ffffff) hdown (Nat.le_refl 24)
  rw [pciClockBits_masked] at hpulses
  have hlast := frame_lastClockValue hsaved hsent
  simp only [clockValues]
  generalize sendClockValues 24 (clockBits &&& 0x00ffffff) saved = sent at *
  generalize lastClockValue saved sent = last at *
  rw [hlast]
  refine ⟨?_, by simp, fun v hv => ?_⟩
  · have hpins : mpioPins saved = ⟨has saved mpioSdta, false, false⟩ := mpioPins_of_down hdown
    have hone : mpioPins (0 ||| mpioSstb) = ⟨false, false, true⟩ := by decide
    have hzero : mpioPins ((0 ||| mpioSstb) &&& ~~~mpioSstb) = ⟨false, false, false⟩ := by decide
    rw [List.map_append, hpulses, List.map_cons, List.map_cons, List.map_singleton, hone, hzero]
    have hrest : ∀ p ∈ [⟨false, false, false⟩, mpioPins saved],
        p.strobe = false ∧ p.clock = false := by
      intro p hp
      rcases List.mem_pair.mp hp with rfl | rfl
      · exact ⟨rfl, rfl⟩
      · rw [hpins]
        exact ⟨rfl, rfl⟩
    have hlow : sampled (mpioPins saved) [] = [] ∧ (final (mpioPins saved) []).clock = false ∧
        ∀ p ∈ ([] : List Pins), p.strobe = false := ⟨rfl, by rw [final_nil, hpins], nofun⟩
    have hstrobe : (⟨false, false, true⟩ : Pins).strobe = true ∧
        (⟨false, false, true⟩ : Pins).clock = false := ⟨rfl, rfl⟩
    exact latches_of_pulses pciPulse_sends (pciClockBits clockBits) (mpioPins saved) hlow hstrobe hrest
  · have hmask : ~~~(mpioSdta ||| mpioSclk ||| mpioSstb) = (0xf8 : UInt8) := by decide
    rw [hmask, hsaved]
    simp only [List.mem_append, List.mem_cons, List.not_mem_nil, or_false] at hv
    rcases hv with hv | rfl | rfl | rfl
    · exact hsent v hv
    · decide
    · decide
    · exact hsaved

/-- **Clock bits of a PCI card.** The routine writes the values of `clockValues`. They program the
clock generator and spare the other pins exactly if the other pins are low. -/
theorem pciClock_iff (clockBits : UInt32) (saved : UInt8)
    (hpins : saved &&& (mpioSdta ||| mpioSclk ||| mpioSstb) = 0) :
    (∀ (d : Device) (frequency : UInt32), d.readReg .mpiolvl = saved →
      d.fastcomSetClockBitsPci frequency clockBits =
        (.success, { (clockValues clockBits saved).foldl (writeReg · .mpiolvl) d with
          clockRate := frequency })) ∧
      (ClockBitsSent saved clockBits (clockValues clockBits saved) ↔
        saved &&& ~~~(mpioSdta ||| mpioSclk ||| mpioSstb) = 0) := by
  have hmask : ~~~(mpioSdta ||| mpioSclk ||| mpioSstb) = (0xf8 : UInt8) := by decide
  have hdown : PinsDown saved := and_eq_zero_of_sub hpins (by decide)
  refine ⟨fun d frequency hd => hd ▸ fastcomSetClockBitsPci_writes d frequency clockBits, ?_⟩
  rw [hmask]
  constructor
  · intro h
    obtain ⟨v, hv, hzero⟩ := third_clockValues clockBits saved
    have hframe := h.frame v hv
    rw [hmask, hzero] at hframe
    exact hframe.symm
  · intro hsaved
    exact clockBitsSent_of_low clockBits hdown hsaved

/-- Echo cancelling is on. -/
theorem pciClock_iff_echoCancel : (∀ (d : Device) (frequency : UInt32), d.readReg .mpiolvl = 0x80 →
      d.fastcomSetClockBitsPci frequency 1049473 =
        (.success, { (clockValues 1049473 0x80).foldl (writeReg · .mpiolvl) d with
          clockRate := frequency })) ∧
      (ClockBitsSent 0x80 1049473 (clockValues 1049473 0x80) ↔
        0x80 &&& ~~~(mpioSdta ||| mpioSclk ||| mpioSstb) = (0 : UInt8)) :=
  pciClock_iff 1049473 0x80 (by decide)

/-- The echo-cancel pin drops when the first clock pulse ends. -/
theorem not_clockBitsSent_echoCancel : ¬∀ (clockBits : UInt32) (saved : UInt8),
    saved &&& (mpioSdta ||| mpioSclk ||| mpioSstb) = 0 →
      ClockBitsSent saved clockBits (clockValues clockBits saved) := by
  intro h
  obtain ⟨v, hv, hzero⟩ := third_clockValues 1049473 0x80
  have hframe := (h 1049473 0x80 (by decide)).frame v hv
  have hmask : ~~~(mpioSdta ||| mpioSclk ||| mpioSstb) = (0xf8 : UInt8) := by decide
  rw [hmask, hzero] at hframe
  exact absurd hframe (by decide)

end Device

end SerialFc
