import SerialFc.Properties.CardSettings
import Mathlib.Data.Rat.Defs
import Mathlib.Tactic.FieldSimp
import Mathlib.Tactic.Linarith
import Mathlib.Tactic.Positivity

/-!
# The divisor of a baud rate

`SerialGetDivisorFromBaud` on other cards than PCIe. Its product and its remainder are 32-bit
numbers, its divisor is a `SHORT`, and nine pairs of a clock rate and a baud rate have a divisor of
their own.

* `calculatedDivisor_plain` — the divisor in terms of natural numbers; it is never rounded up
* `exactDivisor_iff` — when the divisor is the one the baud rate takes, or the request fails
-/

namespace SerialFc

/-! ## A `ULONG` read as a `LONG` -/

namespace Device

theorem toLong_eq (v : UInt32) :
    toLong v = if v.toNat < 2 ^ 31 then (v.toNat : Int) else (v.toNat : Int) - 2 ^ 32 := by
  unfold toLong
  rw [BitVec.toInt_eq_toNat_cond]
  show (if 2 * v.toNat < 2 ^ 32 then _ else _) = _
  split <;> split <;> first | rfl | omega

theorem toLong_nonpos_iff (v : UInt32) : toLong v ≤ 0 ↔ v.toNat = 0 ∨ 2 ^ 31 ≤ v.toNat := by
  have hlt := v.toNat_lt
  rw [toLong_eq]
  split <;> omega

/-- Against a positive number. -/
theorem toLong_lt_iff {v w : UInt32} (hw : w.toNat < 2 ^ 31) :
    toLong v < toLong w ↔ 2 ^ 31 ≤ v.toNat ∨ v.toNat < w.toNat := by
  have hlt := v.toNat_lt
  rw [toLong_eq, toLong_eq, if_pos hw]
  split <;> omega

/-! ## The divisor in natural numbers -/

/-- The divisors that are given beforehand. -/
def specialDivisor (clockRate desiredBaud : UInt32) : Option UInt16 :=
  if clockRate = 1843200 then
    if desiredBaud = 56000 then some 2 else none
  else if clockRate = 3072000 then
    if desiredBaud = 14400 then some 13 else none
  else if clockRate = 4233600 then
    if desiredBaud = 9600 then some 28
    else if desiredBaud = 14400 then some 18
    else if desiredBaud = 19200 then some 14
    else if desiredBaud = 38400 then some 7
    else if desiredBaud = 56000 then some 5
    else none
  else if clockRate = 8000000 then
    if desiredBaud = 14400 then some 35
    else if desiredBaud = 56000 then some 9
    else none
  else none

/-- The baud rate is rejected before anything is divided. -/
def RejectedAtOnce (sampleRate desiredBaud : UInt32) : Prop :=
  let denominator := desiredBaud.toNat * sampleRate.toNat % 2 ^ 32
  desiredBaud.toNat = 0 ∨ 2 ^ 31 ≤ desiredBaud.toNat ∨ 2 ^ 31 ≤ denominator ∨
    denominator < desiredBaud.toNat

instance (sampleRate desiredBaud : UInt32) : Decidable (RejectedAtOnce sampleRate desiredBaud) :=
  inferInstanceAs (Decidable (_ ∨ _))

theorem toNat_denominator (sampleRate desiredBaud : UInt32) :
    (desiredBaud * sampleRate).toNat = desiredBaud.toNat * sampleRate.toNat % 2 ^ 32 :=
  UInt32.toNat_mul _ _

theorem calculatedDivisor_rejected (clockRate : UInt32) {sampleRate desiredBaud : UInt32}
    (h : RejectedAtOnce sampleRate desiredBaud) :
    calculatedDivisor clockRate sampleRate desiredBaud = 0xffff := by
  unfold calculatedDivisor
  simp only
  by_cases hbaud : toLong desiredBaud ≤ 0
  · exact if_pos hbaud
  · rw [if_neg hbaud]
    rw [toLong_nonpos_iff] at hbaud
    refine if_pos ((toLong_lt_iff (by omega)).mpr ?_)
    rw [toNat_denominator]
    unfold RejectedAtOnce at h
    simp only at h
    omega

theorem calculatedDivisor_special {clockRate sampleRate desiredBaud : UInt32} {r : UInt16}
    (h : ¬RejectedAtOnce sampleRate desiredBaud)
    (hspecial : specialDivisor clockRate desiredBaud = some r) :
    calculatedDivisor clockRate sampleRate desiredBaud = r := by
  unfold RejectedAtOnce at h
  simp only at h
  unfold calculatedDivisor
  simp only
  rw [if_neg (by rw [toLong_nonpos_iff]; omega),
    if_neg (by rw [toLong_lt_iff (by omega), toNat_denominator]; omega)]
  unfold specialDivisor at hspecial
  split at hspecial
  · next hclock =>
    split at hspecial
    · next hbaud => rw [if_pos hclock, if_pos hbaud, Option.some.inj hspecial]
    · exact absurd hspecial nofun
  · next hnot =>
    rw [if_neg hnot]
    split at hspecial
    · next hclock =>
      split at hspecial
      · next hbaud => rw [if_pos hclock, if_pos hbaud, Option.some.inj hspecial]
      · exact absurd hspecial nofun
    · next hnot =>
      rw [if_neg hnot]
      split at hspecial
      · next hclock =>
        rw [if_pos hclock]
        repeat' split at hspecial
        all_goals simp_all
      · next hnot =>
        rw [if_neg hnot]
        repeat' split at hspecial
        all_goals simp_all

/-- The remainder is less than half of the clock rate, so that it never rounds up. -/
theorem two_mul_mod_le {c n : Nat} (hn : 0 < n) (hle : n ≤ c) : 2 * (c % n) ≤ c := by
  have hlt := Nat.mod_lt c hn
  have hdiv := Nat.div_add_mod c n
  have hone : 1 ≤ c / n := (Nat.one_le_div_iff hn).mpr hle
  have hmul : n * 1 ≤ n * (c / n) := Nat.mul_le_mul_left n hone
  omega

theorem calculatedDivisor_plain {clockRate sampleRate desiredBaud : UInt32}
    (h : ¬RejectedAtOnce sampleRate desiredBaud)
    (hplain : specialDivisor clockRate desiredBaud = none) :
    (calculatedDivisor clockRate sampleRate desiredBaud).toNat =
      let denominator := desiredBaud.toNat * sampleRate.toNat % 2 ^ 32
      if clockRate.toNat < denominator ∨
          (9600 ≤ desiredBaud.toNat ∧ clockRate.toNat / 100 ≤ clockRate.toNat % denominator) then
        65535
      else clockRate.toNat / denominator % 65536 := by
  have hden := toNat_denominator sampleRate desiredBaud
  unfold RejectedAtOnce at h
  simp only at h ⊢
  rw [← hden] at h ⊢
  generalize hd : desiredBaud * sampleRate = denominator at h hden ⊢
  have hguard : ¬toLong desiredBaud ≤ 0 := by rw [toLong_nonpos_iff]; omega
  have hguard' : ¬toLong denominator < toLong desiredBaud := by
    rw [toLong_lt_iff (by omega)]
    omega
  have hbaud : toLong desiredBaud ≥ 9600 ↔ 9600 ≤ desiredBaud.toNat := by
    rw [toLong_eq, if_pos (by omega)]
    omega
  unfold calculatedDivisor
  simp only [hd, if_neg hguard, if_neg hguard']
  -- No special case applies.
  have hrest (r : UInt16) :
      (if clockRate = 1843200 then if desiredBaud = 56000 then 2 else r
        else if clockRate = 3072000 then if desiredBaud = 14400 then 13 else r
        else if clockRate = 4233600 then
          if desiredBaud = 9600 then 28
          else if desiredBaud = 14400 then 18
          else if desiredBaud = 19200 then 14
          else if desiredBaud = 38400 then 7
          else if desiredBaud = 56000 then 5
          else r
        else if clockRate = 8000000 then
          if desiredBaud = 14400 then 35 else if desiredBaud = 56000 then 9 else r
        else r) = r := by
    unfold specialDivisor at hplain
    repeat' split at hplain
    all_goals simp_all
  rw [hrest]
  by_cases hhigh : denominator > clockRate
  · rw [if_pos hhigh, if_pos (.inl (UInt32.lt_iff_toNat_lt.mp hhigh))]
    rfl
  · rw [if_neg hhigh]
    have hle : denominator.toNat ≤ clockRate.toNat := by
      rw [gt_iff_lt, UInt32.lt_iff_toNat_lt] at hhigh
      omega
    have hclt := clockRate.toNat_lt
    have hhalf := two_mul_mod_le (c := clockRate.toNat) (n := denominator.toNat) (by omega) hle
    have hrem : (clockRate % denominator).toNat = clockRate.toNat % denominator.toNat :=
      UInt32.toNat_mod _ _
    have hmax : (clockRate / 100).toNat = clockRate.toNat / 100 := UInt32.toNat_div _ _
    have hround : ¬(clockRate % denominator * 2 > clockRate ∧ desiredBaud ≠ 110) := by
      rintro ⟨hgt, -⟩
      rw [gt_iff_lt, UInt32.lt_iff_toNat_lt, UInt32.toNat_mul, hrem] at hgt
      have htwo : UInt32.toNat 2 = 2 := rfl
      rw [htwo, Nat.mod_eq_of_lt (by omega)] at hgt
      omega
    rw [if_neg hround]
    have hreject : (toLong desiredBaud ≥ 9600 ∧ clockRate % denominator ≥ clockRate / 100 ∧
        clockRate % denominator + clockRate / 100 < clockRate) ↔
          9600 ≤ desiredBaud.toNat ∧
            clockRate.toNat / 100 ≤ clockRate.toNat % denominator.toNat := by
      have hsum : (clockRate % denominator + clockRate / 100).toNat =
          clockRate.toNat % denominator.toNat + clockRate.toNat / 100 := by
        rw [UInt32.toNat_add, hrem, hmax]
        exact Nat.mod_eq_of_lt (by omega)
      rw [hbaud, ge_iff_le, UInt32.le_iff_toNat_le, UInt32.lt_iff_toNat_lt, hsum, hrem, hmax]
      omega
    by_cases hrej : 9600 ≤ desiredBaud.toNat ∧
        clockRate.toNat / 100 ≤ clockRate.toNat % denominator.toNat
    · rw [if_pos (hreject.mpr hrej), if_pos (.inr hrej)]
      rfl
    · rw [if_neg (fun h => hrej (hreject.mp h)), if_neg (by omega)]
      rw [UInt32.toNat_toUInt16, UInt32.toNat_div]

/-! ## The divisor that a baud rate takes -/

/-- The line rate is within 3 percent of the baud rate. -/
def WithinThreePercent (clockRate sampleRate desiredBaud : UInt32) (divisor : Nat) : Prop :=
  |(clockRate.toNat : ℚ) / (sampleRate.toNat * divisor) - desiredBaud.toNat| ≤
    3 / 100 * desiredBaud.toNat

/-- The divisor that a baud rate takes, rounded down or up. -/
def IsDivisor (clockRate sampleRate desiredBaud : UInt32) (divisor : Nat) : Prop :=
  let exact := clockRate.toNat / (desiredBaud.toNat * sampleRate.toNat)
  1 ≤ divisor ∧ (divisor = exact ∨ divisor = exact + 1) ∧
    (9600 ≤ desiredBaud.toNat → WithinThreePercent clockRate sampleRate desiredBaud divisor)

/-- A baud rate is set with such a divisor in the latch, or the request fails and the latch is not
written. -/
def SetsDivisor (around : Surroundings) (baudRate : UInt32) (d : Device) : Prop :=
  ∃ status d', d.serialEvtIoDeviceControl around (.setBaudRate baudRate) = some (status, d') ∧
    ((status.ok = true ∧ IsDivisor d.clockRate d.sampleRate (d.effectiveBaud baudRate)
        (d'.hw.dlm.toNat * 256 + d'.hw.dll.toNat)) ∨
      (status.ok = false ∧ (d'.hw.dlm, d'.hw.dll) = (d.hw.dlm, d.hw.dll)))

/-- The sampling rate for which a special divisor is meant. -/
def specialSampleRate (clockRate desiredBaud : UInt32) : Nat :=
  if clockRate = 4233600 ∧ desiredBaud = 56000 then 15 else 16

/-- Of the special divisors each is for one sampling rate. Otherwise the baud rate is rejected, or
its product with the sampling rate is a 32-bit number and the quotient a 16-bit one. -/
def DivisorFits (clockRate sampleRate desiredBaud : UInt32) : Prop :=
  let product := desiredBaud.toNat * sampleRate.toNat
  let denominator := product % 2 ^ 32
  if (specialDivisor clockRate desiredBaud).isSome then
    sampleRate.toNat = specialSampleRate clockRate desiredBaud
  else
    RejectedAtOnce sampleRate desiredBaud ∨ clockRate.toNat < denominator ∨
      (9600 ≤ desiredBaud.toNat ∧ clockRate.toNat / 100 ≤ clockRate.toNat % denominator) ∨
      clockRate.toNat / denominator % 65536 = 65535 ∨
      (product < 2 ^ 32 ∧ clockRate.toNat / product < 65536)

instance (clockRate sampleRate desiredBaud : UInt32) :
    Decidable (DivisorFits clockRate sampleRate desiredBaud) :=
  inferInstanceAs (Decidable (ite ((specialDivisor clockRate desiredBaud).isSome = true)
    (_ = _) (_ ∨ _)))

theorem withinThreePercent_iff {clockRate sampleRate desiredBaud : UInt32} {divisor : Nat}
    (hrate : 0 < sampleRate.toNat) (hdivisor : 0 < divisor) :
    WithinThreePercent clockRate sampleRate desiredBaud divisor ↔
      97 * (desiredBaud.toNat * sampleRate.toNat * divisor) ≤ 100 * clockRate.toNat ∧
        100 * clockRate.toNat ≤ 103 * (desiredBaud.toNat * sampleRate.toNat * divisor) := by
  have hpos : (0 : ℚ) < sampleRate.toNat * divisor := by positivity
  have hclock : (clockRate.toNat : ℚ) =
      clockRate.toNat / (sampleRate.toNat * divisor) * (sampleRate.toNat * divisor) := by
    field_simp
  have hlow : 97 * (desiredBaud.toNat * sampleRate.toNat * divisor) ≤ 100 * clockRate.toNat ↔
      (97 * desiredBaud.toNat : ℚ) ≤ 100 * (clockRate.toNat / (sampleRate.toNat * divisor)) := by
    rw [← Nat.cast_le (α := ℚ)]
    push_cast
    constructor
    · intro h
      refine le_of_mul_le_mul_right ?_ hpos
      linarith
    · intro h
      have := mul_le_mul_of_nonneg_right h hpos.le
      linarith
  have hhigh : 100 * clockRate.toNat ≤ 103 * (desiredBaud.toNat * sampleRate.toNat * divisor) ↔
      100 * (clockRate.toNat / (sampleRate.toNat * divisor)) ≤ (103 * desiredBaud.toNat : ℚ) := by
    rw [← Nat.cast_le (α := ℚ)]
    push_cast
    constructor
    · intro h
      refine le_of_mul_le_mul_right ?_ hpos
      linarith
    · intro h
      have := mul_le_mul_of_nonneg_right h hpos.le
      linarith
  rw [hlow, hhigh]
  unfold WithinThreePercent
  rw [abs_le]
  constructor
  · rintro ⟨h, h'⟩
    constructor <;> linarith
  · rintro ⟨h, h'⟩
    constructor <;> linarith

/-- What the latch holds after the request. -/
theorem setsDivisor_iff {d : Device} (hcard : d.card ≠ .pcie) (around : Surroundings)
    (baudRate : UInt32) :
    d.SetsDivisor around baudRate ↔
      let divisor := calculatedDivisor d.clockRate d.sampleRate (d.effectiveBaud baudRate)
      divisor.toNat = 65535 ∨
        IsDivisor d.clockRate d.sampleRate (d.effectiveBaud baudRate) divisor.toNat := by
  have hcontrol : d.serialEvtIoDeviceControl around (.setBaudRate baudRate) =
      let baud := d.effectiveBaud baudRate
      let divisor := calculatedDivisor d.clockRate d.sampleRate baud
      if divisor = 0xffff then some (.invalidParameter, d)
      else some (.success, { d with
        hw := { d.hw with dll := divisor.toUInt8, dlm := (divisor >>> 8).toUInt8 }
        currentBaud := baud }) := by
    simp only [serialEvtIoDeviceControl, serialGetDivisorFromBaud, hcard, if_false]
    split
    · rfl
    · rw [serialSetBaud_of_ne_pcie (by exact hcard)]
      rfl
  have hminus (r : UInt16) : r = 0xffff ↔ r.toNat = 65535 := UInt16.toNat_inj.symm
  simp only [SetsDivisor, hcontrol]
  generalize calculatedDivisor d.clockRate d.sampleRate (d.effectiveBaud baudRate) = r
  rw [← hminus]
  split
  · next hr =>
    refine iff_of_true ⟨_, _, rfl, .inr ⟨rfl, rfl⟩⟩ (.inl hr)
  · next hr =>
    rw [or_iff_right hr]
    have hlatch := latch_toNat r
    constructor
    · rintro ⟨status, d', hrun, hall⟩
      cases hrun
      rcases hall with ⟨-, hdivisor⟩ | ⟨hfail, -⟩
      · simpa only [hlatch] using hdivisor
      · exact absurd hfail (by decide)
    · intro hdivisor
      refine ⟨_, _, rfl, .inl ⟨rfl, ?_⟩⟩
      simpa only [hlatch] using hdivisor

/-- From 9600 baud on. -/
theorem isDivisor_iff {clockRate sampleRate desiredBaud : UInt32} {divisor : Nat}
    (hrate : 0 < sampleRate.toNat) (hdivisor : 0 < divisor) (hbaud : 9600 ≤ desiredBaud.toNat) :
    IsDivisor clockRate sampleRate desiredBaud divisor ↔
      (divisor = clockRate.toNat / (desiredBaud.toNat * sampleRate.toNat) ∨
        divisor = clockRate.toNat / (desiredBaud.toNat * sampleRate.toNat) + 1) ∧
      97 * (desiredBaud.toNat * sampleRate.toNat * divisor) ≤ 100 * clockRate.toNat ∧
        100 * clockRate.toNat ≤ 103 * (desiredBaud.toNat * sampleRate.toNat * divisor) := by
  unfold IsDivisor
  simp only
  rw [withinThreePercent_iff hrate hdivisor]
  constructor
  · rintro ⟨-, hexact, hnear⟩
    exact ⟨hexact, hnear hbaud⟩
  · rintro ⟨hexact, hnear⟩
    exact ⟨hdivisor, hexact, fun _ => hnear⟩

/-- Clock rate, baud rate and divisor. -/
def specialDivisors : List (UInt32 × UInt32 × UInt16) :=
  [(1843200, 56000, 2), (3072000, 14400, 13), (4233600, 9600, 28), (4233600, 14400, 18),
    (4233600, 19200, 14), (4233600, 38400, 7), (4233600, 56000, 5), (8000000, 14400, 35),
    (8000000, 56000, 9)]

theorem mem_specialDivisors {clockRate desiredBaud : UInt32} {r : UInt16}
    (h : specialDivisor clockRate desiredBaud = some r) :
    (clockRate, desiredBaud, r) ∈ specialDivisors := by
  unfold specialDivisor at h
  repeat' split at h
  all_goals simp_all [specialDivisors]

/-- A special divisor is the one of its sampling rate. -/
theorem isDivisor_special {clockRate sampleRate desiredBaud : UInt32} {r : UInt16}
    (hrate : 0 < sampleRate.toNat) (hspecial : specialDivisor clockRate desiredBaud = some r) :
    IsDivisor clockRate sampleRate desiredBaud r.toNat ↔
      sampleRate.toNat = specialSampleRate clockRate desiredBaud := by
  have hmem := mem_specialDivisors hspecial
  simp only [specialDivisors, List.mem_cons, Prod.mk.injEq, List.not_mem_nil, or_false] at hmem
  rcases hmem with ⟨rfl, rfl, rfl⟩ | ⟨rfl, rfl, rfl⟩ | ⟨rfl, rfl, rfl⟩ | ⟨rfl, rfl, rfl⟩ |
    ⟨rfl, rfl, rfl⟩ | ⟨rfl, rfl, rfl⟩ | ⟨rfl, rfl, rfl⟩ | ⟨rfl, rfl, rfl⟩ | ⟨rfl, rfl, rfl⟩
  all_goals
    rw [isDivisor_iff hrate (by decide) (by decide)]
    constructor
    · -- The bounds of the line rate leave one sampling rate.
      rintro ⟨-, hlow, hhigh⟩
      simp [specialSampleRate] at hlow hhigh ⊢
      omega
    · intro h
      rw [h]
      decide

/-- Without an overflow the quotient is the divisor, and the remainder is what the line rate is
off. -/
theorem isDivisor_of_fits {clockRate sampleRate desiredBaud : UInt32}
    (hrate : 0 < sampleRate.toNat)
    (hpos : 0 < desiredBaud.toNat * sampleRate.toNat)
    (hle : desiredBaud.toNat * sampleRate.toNat ≤ clockRate.toNat)
    (hrem : 9600 ≤ desiredBaud.toNat →
      clockRate.toNat % (desiredBaud.toNat * sampleRate.toNat) < clockRate.toNat / 100) :
    IsDivisor clockRate sampleRate desiredBaud
      (clockRate.toNat / (desiredBaud.toNat * sampleRate.toNat)) := by
  have hone : 1 ≤ clockRate.toNat / (desiredBaud.toNat * sampleRate.toNat) :=
    (Nat.one_le_div_iff hpos).mpr hle
  refine ⟨hone, .inl rfl, fun hbaud => ?_⟩
  rw [withinThreePercent_iff hrate hone]
  have hsplit := Nat.div_add_mod clockRate.toNat (desiredBaud.toNat * sampleRate.toNat)
  have hless := hrem hbaud
  omega

/-- An overflow of the product leaves no divisor that is right. -/
theorem not_isDivisor_of_overflow {clockRate sampleRate desiredBaud : UInt32} {divisor : Nat}
    (hrate : 0 < sampleRate.toNat) (hmax : sampleRate.toNat ≤ 16)
    (hover : 2 ^ 32 ≤ desiredBaud.toNat * sampleRate.toNat)
    (hwrap : desiredBaud.toNat ≤ desiredBaud.toNat * sampleRate.toNat % 2 ^ 32) :
    ¬IsDivisor clockRate sampleRate desiredBaud divisor := by
  intro h
  have hclock := clockRate.toNat_lt
  have hzero : clockRate.toNat / (desiredBaud.toNat * sampleRate.toNat) = 0 :=
    Nat.div_eq_of_lt (by omega)
  have hsixteen : desiredBaud.toNat * sampleRate.toNat ≤ desiredBaud.toNat * 16 :=
    Nat.mul_le_mul_left _ hmax
  have hbaud : 9600 ≤ desiredBaud.toNat := by omega
  obtain ⟨hexact, hlow, -⟩ := (isDivisor_iff hrate h.1 hbaud).mp h
  have hone : divisor = 1 := by
    have := h.1
    omega
  rw [hone, Nat.mul_one] at hlow
  omega

/-- The divisor in the latch is right, or the baud rate is rejected, if and only if it fits. -/
theorem divisor_iff_fits {clockRate sampleRate desiredBaud : UInt32}
    (hmin : 4 ≤ sampleRate.toNat) (hmax : sampleRate.toNat ≤ 16) :
    ((calculatedDivisor clockRate sampleRate desiredBaud).toNat = 65535 ∨
        IsDivisor clockRate sampleRate desiredBaud
          (calculatedDivisor clockRate sampleRate desiredBaud).toNat) ↔
      DivisorFits clockRate sampleRate desiredBaud := by
  have hrate : 0 < sampleRate.toNat := by omega
  unfold DivisorFits
  simp only
  cases hspecial : specialDivisor clockRate desiredBaud with
  -- the table: its baud rates lie between 9600 and 56000, so none of them is rejected
  | some r =>
    simp only [Option.isSome_some, if_true]
    have hmem := mem_specialDivisors hspecial
    have hsmall : 9600 ≤ desiredBaud.toNat ∧ desiredBaud.toNat ≤ 56000 ∧ r.toNat ≠ 65535 := by
      simp only [specialDivisors, List.mem_cons, Prod.mk.injEq, List.not_mem_nil, or_false] at hmem
      rcases hmem with ⟨-, rfl, rfl⟩ | ⟨-, rfl, rfl⟩ | ⟨-, rfl, rfl⟩ | ⟨-, rfl, rfl⟩ |
        ⟨-, rfl, rfl⟩ | ⟨-, rfl, rfl⟩ | ⟨-, rfl, rfl⟩ | ⟨-, rfl, rfl⟩ | ⟨-, rfl, rfl⟩ <;> decide
    have hhigh : desiredBaud.toNat * sampleRate.toNat ≤ 56000 * 16 :=
      Nat.mul_le_mul hsmall.2.1 hmax
    have hlow : desiredBaud.toNat * 4 ≤ desiredBaud.toNat * sampleRate.toNat :=
      Nat.mul_le_mul_left _ hmin
    have hnot : ¬RejectedAtOnce sampleRate desiredBaud := by
      unfold RejectedAtOnce
      simp only
      omega
    rw [calculatedDivisor_special hnot hspecial, or_iff_right hsmall.2.2]
    exact isDivisor_special hrate hspecial
  -- the division, whose product is computed modulo 2 ^ 32
  | none =>
    simp only [Option.isSome_none, Bool.false_eq_true, if_false]
    by_cases hreject : RejectedAtOnce sampleRate desiredBaud
    · refine iff_of_true (.inl ?_) (.inl hreject)
      rw [calculatedDivisor_rejected _ hreject]
      rfl
    have heq := calculatedDivisor_plain hreject hspecial
    simp only at heq
    rw [heq, or_iff_right hreject]
    unfold RejectedAtOnce at hreject
    simp only at hreject
    have hbound := clockRate.toNat_lt
    generalize hp : desiredBaud.toNat * sampleRate.toNat = p at hreject ⊢
    split
    · next h =>
      refine iff_of_true (.inl rfl) ?_
      rcases h with h | h
      · exact .inl h
      · exact .inr (.inl h)
    · next h =>
      push Not at h
      by_cases hover : p < 2 ^ 32
      · -- The product is exact.
        rw [Nat.mod_eq_of_lt hover] at h hreject ⊢
        have hpos : 0 < p := by omega
        have hright : IsDivisor clockRate sampleRate desiredBaud (clockRate.toNat / p) := by
          have hfits := @isDivisor_of_fits clockRate sampleRate desiredBaud hrate
          rw [hp] at hfits
          exact hfits hpos (by omega) (by omega)
        constructor
        · rintro (hmod | hdivisor)
          · exact .inr (.inr (.inl hmod))
          · have hexact := hdivisor.2.1
            rw [hp] at hexact
            exact .inr (.inr (.inr ⟨hover, by omega⟩))
        · rintro (hlt | hrem | hmod | ⟨-, hquotient⟩)
          · omega
          · omega
          · exact .inl hmod
          · rw [Nat.mod_eq_of_lt hquotient]
            exact .inr hright
      -- the product wraps: what is divided by has nothing to do with the baud rate
      · have hnever (divisor : Nat) : ¬IsDivisor clockRate sampleRate desiredBaud divisor :=
          not_isDivisor_of_overflow hrate hmax (by omega) (by rw [hp]; omega)
        constructor
        · rintro (hmod | hdivisor)
          · exact .inr (.inr (.inl hmod))
          · exact absurd hdivisor (hnever _)
        · rintro (hlt | hrem | hmod | ⟨hlt, -⟩)
          · omega
          · omega
          · exact .inl hmod
          · omega

/-- **Divisor of a baud rate.** On other cards than PCIe, with a sampling rate that is accepted, a
request to set the baud rate leaves the divisor that the baud rate takes, or fails and leaves the
latch alone, if and only if the divisor fits. -/
theorem exactDivisor_iff {d : Device} (hcard : d.card ≠ .pcie) (hmin : 4 ≤ d.sampleRate.toNat)
    (hmax : d.sampleRate.toNat ≤ 16) (around : Surroundings) (baudRate : UInt32) :
    d.SetsDivisor around baudRate ↔
      DivisorFits d.clockRate d.sampleRate (d.effectiveBaud baudRate) := by
  rw [setsDivisor_iff hcard]
  exact divisor_iff_fits hmin hmax

/-- A PCI port after it was opened, with the default settings. -/
def pciPort : Device where
  hw := ⟨0x0f, 0xc1, 0x1a, 0x08, 0, 0xc0, 0x03, 0, 0, fun _ => 0, 0xc0, 32, 32, 0, 0, 0x08, 0, 0,
    0, 0, 0, [], []⟩
  vstr := 0
  deviceId := 0x0004
  channel := 0
  fifoPresent := true
  rxFifoTrigger := 0xc0
  clockRate := 18432000
  sampleRate := 16
  txTrigger := 32
  rxTrigger := 32
  rs485 := false
  termination := false
  echoCancel := false
  isochronous := 0
  frameLength := 0
  nineBit := false
  fixedBaudRate := 0xffffffff
  currentBaud := 1200
  lineControl := 0x1a
  acr := 0
  deviceIsOpened := true
  state := ⟨0, 0, 0, false⟩

theorem exactDivisor_iff_9600 : pciPort.SetsDivisor ⟨0, true⟩ 9600 :=
  (exactDivisor_iff (by decide) (by decide) (by decide) _ _).mpr (by decide)

/-- The divisor of 1 baud takes more than 16 bits, of which the latch gets the lower ones. -/
theorem not_setsDivisor_oneBaud : ¬pciPort.SetsDivisor ⟨0, true⟩ 1 := by
  rw [setsDivisor_iff (by decide)]
  exact fun h => absurd ((divisor_iff_fits (by decide) (by decide)).mp h) (by decide)

end Device
end SerialFc
