import SerialFc.Properties.SettingRequest
import Mathlib.Tactic.IntervalCases

/-!
# A setting is read back as it was set

* `lineValue_lineBits`, `isochronousMode_newCks`, `…_readBack` — what is written is decoded again
* `Settles` — what the card must have, and what the address of the buffer must be
* `get_set_iff` — after a request that succeeds the setting is the one that was asked for exactly if
  the request settles it
-/

namespace SerialFc

/-! ## Bits -/

theorem has32_withBits32_self (enable : Bool) (mask v : UInt32) :
    has32 (withBits32 enable mask v) mask = (enable && mask != 0) := by
  unfold withBits32 has32
  cases enable with
  | true =>
    have h : (v ||| mask) &&& mask = mask := by
      apply UInt32.toBitVec_inj.mp
      ext i
      simp
      grind
    simp [h]
  | false =>
    have h : v &&& ~~~mask &&& mask = 0 := by rw [UInt32.and_assoc]; simp
    simp [h]

theorem has32_withBits32_of_disjoint {mask k : UInt32} (h : mask &&& k = 0) (enable : Bool)
    (v : UInt32) : has32 (withBits32 enable mask v) k = has32 v k := by
  have hbit (i : Nat) (hi : i < 32) : (mask.toBitVec[i] && k.toBitVec[i]) = false := by
    have := congrArg (fun x : UInt32 => x.toBitVec[i]) h
    simpa using this
  have hand : withBits32 enable mask v &&& k = v &&& k := by
    apply UInt32.toBitVec_inj.mp
    ext i hi
    have := hbit i hi
    cases enable <;> simp [withBits32] <;> grind
  simp only [has32, hand]

/-! ## Line control -/

section

open Machine

/-- The lower bits are not those of the break. -/
theorem line_and {bits k : UInt8} (hk : lcrBreak &&& k = 0) (old : UInt8) :
    ((old &&& lcrBreak) ||| bits) &&& k = bits &&& k := by
  have hdisjoint : (old &&& lcrBreak) &&& k = 0 := by
    rw [UInt8.and_assoc, hk, UInt8.and_zero]
  rw [UInt8.or_comm]
  exact withBits_and_of_disjoint hdisjoint true bits

theorem lineValue_break (old bits : UInt8) :
    lineValue ((old &&& lcrBreak) ||| bits) = lineValue bits := by
  have hword : lineWordLength ((old &&& lcrBreak) ||| bits) = lineWordLength bits := by
    unfold lineWordLength
    rw [line_and (by decide)]
  have hparity : lineParity ((old &&& lcrBreak) ||| bits) = lineParity bits := by
    unfold lineParity
    rw [line_and (by decide)]
  have hstop : lineStopBits ((old &&& lcrBreak) ||| bits) = lineStopBits bits := by
    unfold lineStopBits has
    rw [line_and (by decide), hword]
  rw [lineValue, hword, hparity, hstop]
  rfl

/-- Every combination that is accepted is read back, and has no break bit. -/
theorem lineValue_lineBits {input : ControlInput} {bits : UInt8} (h : lineBits input = some bits) :
    lineValue bits = .line (input.byteAt 2) (input.byteAt 1) (input.byteAt 0) ∧
      bits &&& lcrBreak = 0 := by
  obtain ⟨lengths, parities, stops, hword, hparity, hstop, rfl⟩ := LineControl.lineControlBits_cases h
  rcases LineControl.wordLength_cases hword with ⟨hw, hl⟩ | ⟨hw, hl⟩ | ⟨hw, hl⟩ | ⟨hw, hl⟩ <;>
  rcases LineControl.parity_cases hparity with
    ⟨hp, hc⟩ | ⟨hp, hc⟩ | ⟨hp, hc⟩ | ⟨hp, hc⟩ | ⟨hp, hc⟩ <;>
  rcases LineControl.stopBits_cases hstop with ⟨hb, hs⟩ | ⟨hb, hdata, hs⟩ | ⟨hb, hdata, hs⟩ <;>
  first
    | exact absurd hl hdata
    | exact absurd (hl.symm.trans hdata) (by decide)
    | rw [hw, hp, hb, hl, hc, hs]
      decide

/-- The break bit stays. -/
theorem line_break {bits : UInt8} (hbits : bits &&& lcrBreak = 0) (old : UInt8) :
    ((old &&& lcrBreak) ||| bits) &&& lcrBreak = old &&& lcrBreak := by
  have hkeep := withBits_and_of_disjoint hbits true (old &&& lcrBreak)
  rw [UInt8.and_assoc, UInt8.and_self] at hkeep
  exact hkeep

end

/-! ## Registers of a 16C950 -/

theorem isochronousMode_newCks {mode : Int} (h : ¬(mode > 10 ∨ mode < -1)) :
    isochronousMode (newCks mode) = some mode := by
  have hlow : -1 ≤ mode := by omega
  have hhigh : mode ≤ 10 := by omega
  interval_cases mode <;> rfl

theorem trigger_readBack {value : UInt32} (h : ¬value > 127) :
    (value.toUInt8 &&& 0x7f).toUInt32 = value := by
  have hle : value.toNat ≤ 127 := UInt32.le_iff_toNat_le.mp (UInt32.not_lt.mp h)
  have hmask : (0x7f : UInt8).toNat = 2 ^ 7 - 1 := rfl
  apply UInt32.toNat_inj.mp
  rw [UInt8.toNat_toUInt32, UInt8.toNat_and, hmask, Nat.and_two_pow_sub_one_eq_mod,
    UInt32.toNat_toUInt8]
  omega

/-- Thirteen bits in two registers. -/
theorem externalTransmit_readBack {n : UInt32} (h : ¬n > 8191) :
    ((n >>> 8).toUInt8 &&& 0x1f).toUInt32 <<< 8 + n.toUInt8.toUInt32 = n := by
  have hle : n.toNat ≤ 8191 := UInt32.le_iff_toNat_le.mp (UInt32.not_lt.mp h)
  have hmask : (0x1f : UInt8).toNat = 2 ^ 5 - 1 := rfl
  have hshift : (8 : UInt32).toNat % 32 = 8 := rfl
  apply UInt32.toNat_inj.mp
  rw [UInt32.toNat_add, UInt32.toNat_shiftLeft, UInt8.toNat_toUInt32, UInt8.toNat_and, hmask,
    Nat.and_two_pow_sub_one_eq_mod, UInt32.toNat_toUInt8, UInt32.toNat_shiftRight,
    UInt8.toNat_toUInt32, UInt32.toNat_toUInt8, hshift, Nat.shiftLeft_eq,
    Nat.shiftRight_eq_div_pow]
  omega

/-- A length of 256 is written as 255, since the register counts from zero. -/
theorem frameLength_readBack {n : UInt32} (h : ¬(n = 0 ∨ n > 256)) :
    (n.toUInt8 - 1).toUInt32 + 1 = n := by
  have hzero : n.toNat ≠ 0 := fun hn => h (.inl (UInt32.toNat_inj.mp hn))
  have hle : n.toNat ≤ 256 :=
    UInt32.le_iff_toNat_le.mp (UInt32.not_lt.mp fun hn => h (.inr hn))
  apply UInt32.toNat_inj.mp
  rw [UInt32.toNat_add, UInt8.toNat_toUInt32, UInt8.toNat_sub, UInt32.toNat_toUInt8]
  simp only [UInt8.reduceToNat, UInt32.reduceToNat]
  omega

/-! ## Reading back what was set -/

namespace CardView

variable {c : CardView}

/-- Only the first eight ports have a pin in the register. -/
theorem channelMask_ne_zero_iff : c.channelMask 0x1 ≠ 0 ↔ c.channel < 8 := by
  unfold channelMask
  generalize c.channel = n
  by_cases h : n < 8
  · refine iff_of_true ?_ h
    interval_cases n <;> decide
  · refine iff_of_false (not_not_intro ?_) h
    obtain ⟨k, rfl⟩ := Nat.exists_eq_add_of_le (Nat.le_of_not_lt h)
    have hshift : 0x1 <<< (8 + k) = 2 ^ 8 * 2 ^ k := by
      rw [Nat.shiftLeft_eq, Nat.pow_add, Nat.one_mul]
    apply UInt8.toNat_inj.mp
    rw [hshift, UInt8.toNat_ofNat', Nat.mul_mod_right]
    rfl

theorem has_set {mask : UInt8} (hmask : mask ≠ 0) (enable : Bool) (v : UInt8) :
    has (withBits enable mask v) mask = enable := by
  rw [has_withBits_self, bne_iff_ne.mpr hmask, Bool.and_true]

theorem has32_set {mask : UInt32} (hmask : mask ≠ 0) (enable : Bool) (v : UInt32) :
    has32 (withBits32 enable mask v) mask = enable := by
  rw [has32_withBits32_self, bne_iff_ne.mpr hmask, Bool.and_true]

/-- The pins of the two ports of a 16C950 card. -/
theorem pin_ne_zero {p : Prop} [Decidable p] {a b : UInt32} (ha : a ≠ 0) (hb : b ≠ 0) :
    (if p then a else b) ≠ 0 := by
  split
  · exact ha
  · exact hb

/-- On an unknown card the request for RS-485 changes nothing. -/
theorem rs485_setRs485_iff (enable : Bool) :
    (c.setRs485 enable).rs485 = some enable ↔ c.kind ≠ .other := by
  unfold setRs485 rs485 kind
  cases hkind : fastcomGetCardType c.deviceId with
  | pci | pcie =>
    dsimp only
    rw [hkind]
    exact iff_of_true (congrArg some (has_set (by decide) enable c.fctr)) nofun
  | fscc =>
    dsimp only
    rw [hkind]
    dsimp only
    rw [has_set (by decide), has32_set (pin_ne_zero (by decide) (by decide)), Bool.and_self]
    exact iff_of_true rfl nofun
  | other =>
    dsimp only
    rw [hkind]
    exact iff_of_false nofun (not_not_intro rfl)

/-- Switching on what has no pin does nothing, switching it off asks for nothing. -/
theorem echoCancel_setEchoCancel_iff (enable : Bool) :
    (c.setEchoCancel enable).echoCancel = some enable ↔
      c.kind ≠ .other ∧ (c.kind = .pcie → enable = true → c.channel < 8) := by
  unfold setEchoCancel echoCancel kind
  cases hkind : fastcomGetCardType c.deviceId with
  | pci =>
    dsimp only
    rw [hkind]
    exact iff_of_true (congrArg some (has_set (by decide) enable c.mpiolvl)) ⟨nofun, nofun⟩
  | pcie =>
    dsimp only
    rw [hkind]
    show some (has (withBits enable (c.channelMask 0x1) c.mpiolvlh) (c.channelMask 0x1)) = _ ↔ _
    rw [has_withBits_self, Option.some_inj, ← channelMask_ne_zero_iff]
    cases enable with
    | false => exact iff_of_true rfl ⟨nofun, nofun⟩
    | true => simp
  | fscc =>
    dsimp only
    rw [hkind]
    exact iff_of_true
      (congrArg some (has32_set (pin_ne_zero (by decide) (by decide)) enable c.bar2))
      ⟨nofun, nofun⟩
  | other =>
    dsimp only
    rw [hkind]
    exact iff_of_false nofun fun h => h.1 rfl

/-- The pin is active low. -/
theorem termination_setTermination_iff (hkind : c.kind = .pcie) (enable : Bool) :
    (c.setTermination enable).termination = some enable ↔ (enable = false → c.channel < 8) := by
  unfold kind at hkind
  unfold setTermination termination kind
  dsimp only
  rw [hkind]
  show some (!has (withBits (!enable) (c.channelMask 0x1) c.mpiolvl) (c.channelMask 0x1)) = _ ↔ _
  rw [has_withBits_self, Option.some_inj, ← channelMask_ne_zero_iff]
  cases enable with
  | false => simp
  | true => exact iff_of_true rfl nofun

/-- On a 16C950 the register has the trigger, on the other cards it is remembered. -/
theorem trigger_setTrigger {value : UInt32} (hkind : c.kind ≠ .other)
    (hrange : c.kind = .fscc → ¬value > 127) (index : UInt8) :
    (c.setTrigger index value).trigger value index = some value := by
  unfold kind at hkind hrange
  unfold setTrigger trigger kind
  cases hcard : fastcomGetCardType c.deviceId with
  | pci | pcie =>
    dsimp only
    rw [hcard]
  | fscc =>
    unfold setIcr
    dsimp only
    rw [hcard]
    dsimp only
    rw [Function.update_self, trigger_readBack (hrange hcard)]
  | other => exact absurd hcard hkind

theorem isochronous_setIsochronous {mode : Int} (hkind : c.kind = .fscc)
    (hrange : ¬(mode > 10 ∨ mode < -1)) : (c.setIsochronous mode).isochronous = some mode := by
  unfold kind at hkind
  unfold setIsochronous isochronous kind setIcr
  dsimp only
  rw [hkind]
  dsimp only
  rw [Function.update_self, isochronousMode_newCks hrange]

theorem externalTransmit_setExternalTransmit {numFrames : UInt32} (hkind : c.kind = .fscc)
    (hrange : ¬numFrames > 8191) :
    (c.setExternalTransmit numFrames).externalTransmit = some numFrames := by
  have hne : exthOffset ≠ extOffset := by decide
  unfold kind at hkind
  unfold setExternalTransmit externalTransmit kind setIcr
  dsimp only
  rw [hkind]
  dsimp only
  rw [Function.update_self, Function.update_of_ne hne, Function.update_self,
    externalTransmit_readBack hrange]

theorem frameLength_setFrameLength {numChars : UInt32} (hkind : c.kind = .fscc)
    (hrange : ¬(numChars = 0 ∨ numChars > 256)) (hfrev : ¬c.frev < 0x20) :
    (c.setFrameLength numChars).frameLength = some numChars := by
  unfold kind at hkind
  unfold frev at hfrev
  unfold setFrameLength frameLength kind setIcr frev
  dsimp only
  rw [hkind]
  dsimp only
  rw [if_neg hfrev, Function.update_self, frameLength_readBack hrange]

/-- The other cards have no such register. -/
theorem nineBit_set9Bit_iff (enable : Bool) :
    (c.set9Bit enable).nineBit = some enable ↔ c.kind = .fscc := by
  unfold set9Bit nineBit kind setIcr
  cases hkind : fastcomGetCardType c.deviceId with
  | fscc =>
    dsimp only
    rw [hkind]
    dsimp only
    rw [Function.update_self]
    cases enable <;> exact iff_of_true rfl rfl
  | pci | pcie | other =>
    dsimp only
    rw [hkind]
    exact iff_of_false nofun nofun

end CardView

namespace Machine

variable {U : Type} {m : Machine U} {code : ConfigCode} {s : Setting}

/-- The request, if it succeeds, sets what it is asked for: the card has what the setting is about
and a bit for it, and the address of the buffer ends in the modem control word. -/
def Settles (code : ConfigCode) (input : ControlInput) (m : Machine U) : Prop :=
  match code with
  | .setModemControl =>
    (if m.device.hw.hidden m.device.card then 0 else input.address.toUInt8.toUInt32) =
      input.ulongAt 0
  | .enableRs485 | .disableRs485 | .disableEchoCancel => m.device.card ≠ .other
  | .enableEchoCancel =>
    m.device.card ≠ .other ∧ (m.device.card = .pcie → m.device.channel < 8)
  | .disableTermination => m.device.channel < 8
  | .enable9Bit | .disable9Bit => m.device.card = .fscc
  | _ => True

theorem map_boolean_iff {result : Option Bool} {b : Bool} :
    result.map Value.boolean = some (.boolean b) ↔ result = some b := by
  cases result <;> simp

/-- **The setting.** What a request sets is read back if and only if it settles it. -/
theorem get_set_iff (hcode : code.setting = some s) (hmodem : s ≠ .modemControl)
    (hback : m.ReadsBack s) {input : ControlInput} (haccepts : m.view.Accepts code input) :
    (m.view.set code input (m.ext.handFlowForCard (handFlowAt input))).get s =
      some (m.valueSet code input) ↔ m.Settles code input := by
  cases code with
  -- requests without a setting that can be read back
  | setFifoControl | setDtr | setRts | setXoff | setXon | setBreakOn | setBreakOff
  | setQueueSize | setWaitMask | setClockRate | setClockBits => cases hcode
  | setModemControl => exact absurd (Option.some.inj hcode).symm hmodem
  -- kept by the driver as it came
  | setTimeouts | setChars | setHandFlow | setSampleRate | enableFixedBaudRate
  | disableFixedBaudRate =>
    obtain rfl := Option.some.inj hcode
    exact iff_of_true rfl trivial
  -- the bits of LCR are decoded again; a break in progress is no part of the value
  | setLineControl =>
    obtain rfl := Option.some.inj hcode
    obtain ⟨bits, hbits⟩ := Option.isSome_iff_exists.mp haccepts
    refine iff_of_true ?_ trivial
    show some (lineValue ((m.device.lineControl &&& lcrBreak) ||| (lineBits input).getD 0)) = _
    rw [hbits, Option.getD_some, lineValue_break, (lineValue_lineBits hbits).1]
    rfl
  -- a fixed baud rate would be read in place of the one that was set
  | setBaudRate =>
    obtain rfl := Option.some.inj hcode
    have hfixed := hback rfl
    refine iff_of_true ?_ trivial
    show some (Value.ulong (if m.device.fixedBaudRate ≠ 0xffffffff then m.device.fixedBaudRate
      else input.ulongAt 0)) = _
    rw [hfixed, if_neg (by decide)]
    rfl
  -- registers of the card: what the card has no such register for, or shares, is in `Settles`
  | enableRs485 =>
    obtain rfl := Option.some.inj hcode
    exact map_boolean_iff.trans (CardView.rs485_setRs485_iff true)
  | disableRs485 =>
    obtain rfl := Option.some.inj hcode
    exact map_boolean_iff.trans (CardView.rs485_setRs485_iff false)
  | enableEchoCancel =>
    obtain rfl := Option.some.inj hcode
    refine (map_boolean_iff.trans (CardView.echoCancel_setEchoCancel_iff true)).trans ?_
    exact and_congr_right fun _ => ⟨fun h hcard => h hcard rfl, fun h hcard _ => h hcard⟩
  | disableEchoCancel =>
    obtain rfl := Option.some.inj hcode
    refine (map_boolean_iff.trans (CardView.echoCancel_setEchoCancel_iff false)).trans ?_
    exact and_iff_left fun _ => nofun
  | enableTermination =>
    obtain rfl := Option.some.inj hcode
    refine (map_boolean_iff.trans (CardView.termination_setTermination_iff haccepts true)).trans ?_
    exact iff_of_true nofun trivial
  | disableTermination =>
    obtain rfl := Option.some.inj hcode
    refine (map_boolean_iff.trans (CardView.termination_setTermination_iff haccepts false)).trans ?_
    exact ⟨fun h => h rfl, fun h _ => h⟩
  | setTxTrigger =>
    obtain rfl := Option.some.inj hcode
    exact iff_of_true (congrArg (Option.map Value.ulong)
      (CardView.trigger_setTrigger haccepts.1 haccepts.2 ttlOffset)) trivial
  | setRxTrigger =>
    obtain rfl := Option.some.inj hcode
    exact iff_of_true (congrArg (Option.map Value.ulong)
      (CardView.trigger_setTrigger haccepts.1 haccepts.2 rtlOffset)) trivial
  | enableIsochronous =>
    obtain rfl := Option.some.inj hcode
    exact iff_of_true (congrArg (Option.map Value.long)
      (CardView.isochronous_setIsochronous haccepts.1 haccepts.2)) trivial
  | disableIsochronous =>
    obtain rfl := Option.some.inj hcode
    exact iff_of_true (congrArg (Option.map Value.long)
      (CardView.isochronous_setIsochronous haccepts (by decide))) trivial
  | enableExternalTransmit =>
    obtain rfl := Option.some.inj hcode
    exact iff_of_true (congrArg (Option.map Value.ulong)
      (CardView.externalTransmit_setExternalTransmit haccepts.1 haccepts.2)) trivial
  | disableExternalTransmit =>
    obtain rfl := Option.some.inj hcode
    exact iff_of_true (congrArg (Option.map Value.ulong)
      (CardView.externalTransmit_setExternalTransmit haccepts (by decide))) trivial
  | setFrameLength =>
    obtain rfl := Option.some.inj hcode
    exact iff_of_true (congrArg (Option.map Value.ulong)
      (CardView.frameLength_setFrameLength haccepts.1 haccepts.2.1 haccepts.2.2)) trivial
  | enable9Bit =>
    obtain rfl := Option.some.inj hcode
    exact map_boolean_iff.trans (CardView.nineBit_set9Bit_iff true)
  | disable9Bit =>
    obtain rfl := Option.some.inj hcode
    exact map_boolean_iff.trans (CardView.nineBit_set9Bit_iff false)

end Machine

end SerialFc
