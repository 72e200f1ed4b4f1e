import SerialFc.Lib.BitField
import SerialFc.Model.ClockWord

/-!
# The programming word is read back

One layout of bit fields gives back the dividers, the resistor and the current from the 20 bytes.

* `ProgData.decode` — the layout
* `inputDivider_spec` … `outputDivider_spec` — what each table leaves in its fields and keeps of the
  others
* `exists_odForm` — the loop over the output dividers finds a match
* `progData_decodable` — the bytes are read back as what they were made of
-/

namespace SerialFc

open Lib

/-! ## Layout -/

namespace ProgData

def bytes (p : ProgData) (k : ℕ) : ℕ := if h : k < 20 then (p ⟨k, h⟩).toNat else 0

/-- The class, and what follows it in the third and in the last. -/
def refValue (low middle large : ℕ) : ℕ :=
  match low with
  | 0 => 1
  | 1 => 2
  | 2 => 17 - middle
  | _ => 8 + large

def refDiv (p : ProgData) : ℕ :=
  refValue (field p.bytes 0 2) (field p.bytes 2 4) (field p.bytes 2 11)

def vcoDiv (p : ProgData) : ℕ := 8 + field p.bytes 13 11

def rsValue : ℕ → ℕ
  | 0 => 64000
  | 1 => 16000
  | 2 => 52000
  | _ => 4000

def rs (p : ProgData) : ℕ := rsValue (field p.bytes 89 2)

/-- `125 * (8 - b) * m` -/
def icpValue (b m : ℕ) : ℕ := 125 * (8 - b) * m

def icpnum (p : ProgData) : ℕ :=
  icpValue (field p.bytes 91 3) (1 + field p.bytes 127 1 + 2 * field p.bytes 128 1)

/-- The dividers with a code of their own. -/
def smallDiv : ℕ → ℕ → Option ℕ
  | 0, 0 => some 2
  | 1, 0 => some 3
  | 0, 4 => some 4
  | 0, 1 => some 5
  | 1, 4 => some 6
  | 1, 1 => some 7
  | 1, 5 => some 9
  | 1, 9 => some 11
  | 1, 13 => some 13
  | _, _ => none

/-- The complement up to 37, `(2 * x + 6 + y) * 2 ^ z`, or a code. -/
def outValue (low high complement x y z code : ℕ) : Option ℕ :=
  match low, high with
  | 2, 0 => some (37 - complement)
  | 2, _ => some ((2 * x + 6 + y) * 2 ^ z)
  | _, high => smallDiv high code

def outDiv (p : ProgData) : Option ℕ :=
  outValue (field p.bytes 96 2) (field p.bytes 95 1) (field p.bytes 98 5) (field p.bytes 101 9)
    (1 - field p.bytes 98 1) (field p.bytes 99 2) (field p.bytes 96 4)

/-- The five values of a word. -/
def decode (p : ProgData) : Option ClockSetting :=
  p.outDiv.map fun od => ⟨p.refDiv, p.vcoDiv, od, p.rs, p.icpnum⟩

/-- The bits that belong to no field. -/
structure Constants (p : ProgData) : Prop where
  unused : ∀ k, 3 ≤ k → k ≤ 10 → p k = 0x00
  bit88 : field p.bytes 88 1 = 0
  bit94 : field p.bytes 94 1 = 0
  clk1 : field p.bytes 110 2 = 1
  power : p 14 = 0x01
  source : field p.bytes 120 7 = 4
  clk3 : field p.bytes 129 7 = 0
  ones : ∀ k, 17 ≤ k → p k = 0xff

/-! ## Bytes -/

@[simp] theorem put_apply (k : Fin 20) (b : UInt8) (p : ProgData) (j : Fin 20) :
    p.put k b j = if j = k then b else p j :=
  Function.update_apply p k b j

@[simp] theorem orAt_apply (k : Fin 20) (m : UInt8) (p : ProgData) (j : Fin 20) :
    p.orAt k m j = if j = k then p k ||| m else p j :=
  put_apply k _ p j

@[simp] theorem andAt_apply (k : Fin 20) (m : UInt8) (p : ProgData) (j : Fin 20) :
    p.andAt k m j = if j = k then p k &&& m else p j :=
  put_apply k _ p j

end ProgData

@[simp] theorem setBit_apply (on : Bool) (k : Fin 20) (m : UInt8) (p : ProgData) (j : Fin 20) :
    setBit on k m p j = if j = k then if on then p k ||| m else p k &&& ~~~m else p j := by
  cases on <;> simp [setBit]

theorem toNat_uchar (n : ℕ) : (uchar n).toNat = n % 256 := UInt8.toNat_ofNat'

/-- Bits above the others. -/
theorem toNat_or {a m : UInt8} (i : ℕ) (ha : 2 ^ i ∣ a.toNat) (hm : m.toNat < 2 ^ i) :
    (a ||| m).toNat = a.toNat + m.toNat := by
  obtain ⟨k, hk⟩ := ha
  rw [UInt8.toNat_or, hk]
  exact (Nat.two_pow_add_eq_or_of_lt hm k).symm

theorem toNat_or_comm {a m : UInt8} (i : ℕ) (ha : a.toNat < 2 ^ i) (hm : 2 ^ i ∣ m.toNat) :
    (a ||| m).toNat = a.toNat + m.toNat := by
  rw [UInt8.or_comm, toNat_or i hm ha, Nat.add_comm]

/-! ## Tables -/

section
open ProgData
variable {p : ProgData}

theorem inputDivider_spec {n : ℕ} (hn : 1 ≤ n ∧ n ≤ 1200) (h₀ : p 0 = 0) (h₁ : p 1 = 0) :
    ∃ p', inputDivider n p = .ok p' ∧ (∀ j, j ≠ 0 → j ≠ 1 → p' j = p j) ∧ (p' 1).toNat < 32 ∧
      refValue ((p' 0).toNat % 4) ((p' 0).toNat / 4 % 16) ((p' 0).toNat / 4 + 64 * (p' 1).toNat) =
        n := by
  unfold inputDivider
  split
  · next heq =>
    refine ⟨_, rfl, fun j hj₀ hj₁ => by simp [hj₀, hj₁], ?_, ?_⟩
    · simp [h₁]
    · simp [h₀, heq, refValue]
  split
  · next heq =>
    refine ⟨_, rfl, fun j hj₀ hj₁ => by simp [hj₀, hj₁], ?_, ?_⟩
    · simp [h₁]
    · simp [h₀, heq, refValue]
  split
  -- 3 to 17: the complement of n - 2 in four bits, checked one by one
  · next hmiddle =>
    have hall : ∀ n ∈ List.range' 3 15,
        (uchar (ulong (ulongNot (n - 2) <<< 2)) &&& 0x3e ||| 0x02).toNat = 4 * (17 - n) + 2 := by
      decide
    have hbyte := hall n (by simp only [List.mem_range'_1]; omega)
    refine ⟨_, rfl, fun j hj₀ _ => by simp [hj₀], by simp [h₁], ?_⟩
    simp only [orAt_apply, andAt_apply, put_apply, if_true, hbyte]
    have hclass : (4 * (17 - n) + 2) % 4 = 2 := by omega
    rw [hclass, refValue]
    omega
  split
  -- 18 and up: n - 8 in ten bits, over two bytes
  · next hlarge =>
    have htemp : ulong ((n - 8) <<< 2) = 4 * (n - 8) := by
      rw [ulong, Nat.shiftLeft_eq]
      omega
    have hlow : (uchar (4 * (n - 8)) ||| 0x03).toNat = 4 * ((n - 8) % 64) + 3 := by
      have hbyte : (uchar (4 * (n - 8))).toNat = 4 * ((n - 8) % 64) := by
        rw [toNat_uchar]
        omega
      rw [toNat_or 2 ⟨_, hbyte⟩ (by decide), hbyte]
      rfl
    have hhigh : (uchar ((4 * (n - 8)) >>> 8)).toNat = (n - 8) / 64 := by
      rw [toNat_uchar, Nat.shiftRight_eq_div_pow]
      omega
    refine ⟨_, rfl, fun j hj₀ hj₁ => by simp [hj₀, hj₁], ?_, ?_⟩
    · simp only [orAt_apply, put_apply, htemp, Fin.reduceEq, if_true, if_false, hhigh]
      omega
    · have hclass : (4 * ((n - 8) % 64) + 3) % 4 = 3 := by omega
      simp only [orAt_apply, put_apply, htemp, Fin.reduceEq, if_true, if_false, hhigh, hlow, hclass,
        refValue]
      omega
  · omega

theorem vcoDivider_spec {n : ℕ} (hn : 12 ≤ n ∧ n ≤ 2055) (h₁ : (p 1).toNat < 32) (h₂ : p 2 = 0) :
    ∃ p', vcoDivider n p = .ok p' ∧ (∀ j, j ≠ 1 → j ≠ 2 → p' j = p j) ∧
      (p' 1).toNat % 32 = (p 1).toNat ∧ 8 + ((p' 1).toNat / 32 + 8 * (p' 2).toNat) = n := by
  have htemp : ulong ((n - 8) <<< 5) = 32 * (n - 8) := by
    rw [ulong, Nat.shiftLeft_eq]
    omega
  have hlow : (uchar (32 * (n - 8))).toNat = 32 * ((n - 8) % 8) := by
    rw [toNat_uchar]
    omega
  have hhigh : (uchar ((32 * (n - 8)) >>> 8)).toNat = (n - 8) / 8 := by
    rw [toNat_uchar, Nat.shiftRight_eq_div_pow]
    omega
  have hbyte : (p 1 ||| uchar (32 * (n - 8))).toNat = (p 1).toNat + 32 * ((n - 8) % 8) := by
    rw [toNat_or_comm 5 h₁ ⟨_, hlow⟩, hlow]
  rw [vcoDivider, if_pos hn]
  refine ⟨_, rfl, fun j hj₁ hj₂ => by simp [hj₁, hj₂], ?_, ?_⟩
  · simp only [orAt_apply, htemp, Fin.reduceEq, if_true, if_false, hbyte]
    omega
  · simp only [orAt_apply, htemp, Fin.reduceEq, if_true, if_false, hbyte, h₂, UInt8.zero_or, hhigh]
    omega

/-- What a resistor and a current leave in byte 11. -/
def rsBits : List UInt8 := [0x00, 0x02, 0x04, 0x06]

theorem loopFilterResistor_spec {rs : ℕ} (hrs : rs ∈ resistors) (h₁₁ : p 11 = 0) :
    ∃ p', loopFilterResistor rs p = .ok p' ∧ (∀ j, j ≠ 11 → p' j = p j) ∧ p' 11 ∈ rsBits ∧
      rsValue ((p' 11).toNat / 2 % 4) = rs := by
  simp only [resistors, List.mem_cons, List.not_mem_nil, or_false] at hrs
  rcases hrs with rfl | rfl | rfl | rfl
  all_goals
    refine ⟨_, rfl, fun j hj => by simp [hj], ?_⟩
    simp [h₁₁, rsBits, rsValue]

theorem chargePumpCurrent_spec {icp : ℕ} (hicp : icp ∈ currents) (h₁₁ : p 11 ∈ rsBits)
    (h₁₅ : p 15 = 0x04) (h₁₆ : p 16 = 0x00) :
    ∃ p', chargePumpCurrent icp p = .ok p' ∧ (∀ j, j ≠ 11 → j ≠ 15 → j ≠ 16 → p' j = p j) ∧
      ((p' 11).toNat / 2 % 4 = (p 11).toNat / 2 % 4 ∧ (p' 11).toNat % 2 = 0 ∧ (p' 11).toNat < 64 ∧
        (p' 15).toNat % 128 = 4 ∧ (p' 16).toNat < 2) ∧
      icpValue ((p' 11).toNat / 8 % 8) (1 + (p' 15).toNat / 128 + 2 * ((p' 16).toNat % 2)) =
        icp := by
  -- a test of four bytes, not a statement about all of them
  have hall : ∀ icp ∈ currents, (rsBits.all fun b => decide (∃ c ∈ chargePump icp,
      (((b ||| c.set11) &&& c.keep11).toNat / 2 % 4 = b.toNat / 2 % 4 ∧
        ((b ||| c.set11) &&& c.keep11).toNat % 2 = 0 ∧ ((b ||| c.set11) &&& c.keep11).toNat < 64) ∧
      icpValue (((b ||| c.set11) &&& c.keep11).toNat / 8 % 8)
        (1 + c.bit15.toNat + 2 * c.bit16.toNat) = icp)) = true := by
    decide
  obtain ⟨c, hc, ⟨hkeep, heven, hlow⟩, hvalue⟩ :=
    of_decide_eq_true (List.all_eq_true.mp (hall icp hicp) (p 11) h₁₁)
  rw [chargePumpCurrent, Option.mem_def.mp hc]
  refine ⟨_, rfl, fun j hj₁₁ hj₁₅ hj₁₆ => by simp [hj₁₁, hj₁₅, hj₁₆], ⟨?_, ?_, ?_, ?_, ?_⟩, ?_⟩
  · simpa using hkeep
  · simpa using heven
  · simpa using hlow
  · cases c.bit15 <;> simp [h₁₅]
  · cases c.bit16 <;> simp [h₁₆]
  · rw [← hvalue]
    cases c.bit15 <;> cases c.bit16 <;> simp [h₁₅, h₁₆]

/-! ## Output divider -/

/-- From 38 on the search goes in steps of the power of two that the form has at least. -/
theorem OdStep.shape {od : ℕ} (h : OdStep od) : 2 ≤ od ∧ (od ≤ 1030 ∨ od ≤ 2060 ∧ 2 ∣ od ∨
    od ≤ 4120 ∧ 4 ∣ od ∨ od ≤ 8232 ∧ 8 ∣ od) := by
  induction h with
  | start => exact ⟨by omega, .inr (.inr (.inr ⟨le_refl _, by decide⟩))⟩
  | @next od _ hmore ih =>
    unfold odNext at hmore ⊢
    split_ifs at hmore ⊢ <;> omega

theorem isSome_odForm {od i y z : ℕ} (hy : y < 2) (hz : z < 4)
    (hod : od = ((i + 3) * 2 + y) * 2 ^ z) : (odForm od i).isSome = true := by
  have hz' : z = 0 ∨ z = 1 ∨ z = 2 ∨ z = 3 := by omega
  have hy' : y = 0 ∨ y = 1 := by omega
  unfold odForm
  split_ifs
  all_goals first
    | rfl
    | rcases hz' with rfl | rfl | rfl | rfl <;> rcases hy' with rfl | rfl <;> omega

/-- The loop over `i` finds a match for all dividers that it is entered with. -/
theorem exists_odForm {od : ℕ} (h : OdStep od) (hlarge : 38 ≤ od) :
    ∃ i < 512, (odForm od i).isSome = true := by
  obtain ⟨_, hshape⟩ := h.shape
  have hform (n z : ℕ) (hz : z < 4) (hn : 6 ≤ n ∧ n ≤ 1029) (hod : od = n * 2 ^ z) :
      ∃ i < 512, (odForm od i).isSome = true := by
    refine ⟨n / 2 - 3, by omega, isSome_odForm (Nat.mod_lt n (by omega)) hz ?_⟩
    have hsplit : (n / 2 - 3 + 3) * 2 + n % 2 = n := by omega
    rw [hsplit, hod]
  rcases Nat.lt_or_ge 1029 od with h₁ | h₁
  · rcases Nat.lt_or_ge 2059 od with h₂ | h₂
    · rcases Nat.lt_or_ge 4119 od with h₃ | h₃
      · exact hform (od / 8) 3 (by omega) (by omega) (by omega)
      · exact hform (od / 4) 2 (by omega) (by omega) (by omega)
    · exact hform (od / 2) 1 (by omega) (by omega) (by omega)
  · exact hform od 0 (by omega) (by omega) (by omega)

theorem odLoopMatch_spec {od : ℕ} (h : OdStep od) (hlarge : 38 ≤ od) :
    ∃ i masks, odLoopMatch od = some (i, masks) ∧ i < 512 ∧ odForm od i = some masks := by
  obtain ⟨i, hi, hsome⟩ := exists_odForm h hlarge
  have hfound : (odLoopMatch od).isSome = true := by
    rw [odLoopMatch, List.findSome?_isSome_iff]
    exact ⟨i, List.mem_range.mpr hi, by simpa using hsome⟩
  obtain ⟨found, heq⟩ := Option.isSome_iff_exists.mp hfound
  obtain ⟨j, hj, hform⟩ := List.exists_of_findSome?_eq_some heq
  obtain ⟨masks, hmasks, rfl⟩ := Option.map_eq_some_iff.mp hform
  exact ⟨j, masks, heq, List.mem_range.mp hj, hmasks⟩

/-- The masks of a branch are those of its `y` and `z`. -/
theorem odForm_spec {od i : ℕ} {masks : UInt8 × UInt8} (h : odForm od i = some masks) :
    ∃ y z, y < 2 ∧ z < 4 ∧ od = (2 * i + 6 + y) * 2 ^ z ∧ ∀ k < 8,
      ((uchar (32 * k) &&& masks.1 ||| masks.2) &&& 0xfe ||| 0x02).toNat =
        32 * k + 8 * z + 4 * (1 - y) + 2 := by
  unfold odForm at h
  split_ifs at h with h₁ h₂ h₃ h₄ h₅ h₆ h₇ h₈
  · cases h
    exact ⟨0, 0, by omega, by omega, by omega, by decide⟩
  · cases h
    exact ⟨0, 1, by omega, by omega, by omega, by decide⟩
  · cases h
    exact ⟨0, 2, by omega, by omega, by omega, by decide⟩
  · cases h
    exact ⟨0, 3, by omega, by omega, by omega, by decide⟩
  · cases h
    exact ⟨1, 0, by omega, by omega, by omega, by decide⟩
  · cases h
    exact ⟨1, 1, by omega, by omega, by omega, by decide⟩
  · cases h
    exact ⟨1, 2, by omega, by omega, by omega, by decide⟩
  · cases h
    exact ⟨1, 3, by omega, by omega, by omega, by decide⟩

/-- Bit 7 of byte 11 is set or cleared, and the others stay. -/
theorem toNat_bit95 {b : UInt8} (h : b.toNat < 128) (high : Bool) :
    (if high then b ||| 0x80 else b &&& ~~~0x80).toNat = b.toNat + 128 * high.toNat := by
  cases high with
  | false =>
    have hand : (b &&& ~~~0x80).toNat = b.toNat % 2 ^ 7 := by
      rw [UInt8.toNat_and]
      exact Nat.and_two_pow_sub_one_eq_mod b.toNat 7
    simp only [Bool.false_eq_true, if_false, hand, Bool.toNat_false]
    omega
  | true =>
    exact toNat_or_comm 7 h ⟨1, rfl⟩

theorem outputDivider_spec {od : ℕ} (h : OdStep od) (h₁₁ : (p 11).toNat < 128) (h₁₂ : p 12 = 0x00)
    (h₁₃ : p 13 = 0x40) :
    ∃ p', outputDivider od p = .ok p' ∧ (∀ j, j ≠ 11 → j ≠ 12 → j ≠ 13 → p' j = p j) ∧
      ((p' 11).toNat % 128 = (p 11).toNat ∧ (p' 13).toNat / 64 = 1) ∧
      outValue ((p' 12).toNat % 4) ((p' 11).toNat / 128) ((p' 12).toNat / 4 % 32)
        ((p' 12).toNat / 32 + 8 * ((p' 13).toNat % 64)) (1 - (p' 12).toNat / 4 % 2)
        ((p' 12).toNat / 8 % 4) ((p' 12).toNat % 16) = some od := by
  have hshape := h.shape
  have hbit95 := toNat_bit95 h₁₁
  rw [outputDivider, if_pos (by omega)]
  cases hsmall : odSmall od with
  | some code =>
    obtain ⟨high, keep, set⟩ := code
    -- the codes are told apart by bit 7 of byte 11 and the low bits of byte 12
    have hall : ∀ od ∈ List.range 14, ((odSmall od).all fun code => decide (
        outValue ((0x00 &&& code.2.1 ||| code.2.2).toNat % 4) code.1.toNat
          ((0x00 &&& code.2.1 ||| code.2.2).toNat / 4 % 32) 0
          (1 - (0x00 &&& code.2.1 ||| code.2.2).toNat / 4 % 2)
          ((0x00 &&& code.2.1 ||| code.2.2).toNat / 8 % 4)
          ((0x00 &&& code.2.1 ||| code.2.2).toNat % 16) = some od ∧
        (0x00 &&& code.2.1 ||| code.2.2).toNat / 32 = 0)) = true := by decide
    have hrange : od < 14 := by
      by_contra hge
      have hnone : odSmall od = none := by
        unfold odSmall
        split
        all_goals first | omega | rfl
      rw [hnone] at hsmall
      cases hsmall
    have hcode := hall od (List.mem_range.mpr hrange)
    rw [hsmall] at hcode
    obtain ⟨hvalue, hno⟩ := of_decide_eq_true hcode
    have hhigh : ((p 11).toNat + 128 * high.toNat) / 128 = high.toNat := by omega
    have hkeep : ((p 11).toNat + 128 * high.toNat) % 128 = (p 11).toNat := by omega
    have h₁₃' : (p 13 &&& 0xc0).toNat = 64 := by
      rw [h₁₃]
      decide
    refine ⟨_, rfl, fun j hj₁₁ hj₁₂ hj₁₃ => by simp [hj₁₁, hj₁₂, hj₁₃], ⟨?_, ?_⟩, ?_⟩
    · simp only [setBit_apply, andAt_apply, orAt_apply, Fin.reduceEq, if_true, if_false, hbit95, hkeep]
    · simp only [setBit_apply, andAt_apply, orAt_apply, Fin.reduceEq, if_true, if_false, h₁₃']
    · simp only [setBit_apply, andAt_apply, orAt_apply, Fin.reduceEq, if_true, if_false, hbit95, hhigh,
        h₁₃', h₁₂, hno]
      exact hvalue
  | none =>
    dsimp only
    split
    · next hmiddle =>
      have hall : ∀ od ∈ List.range 38, 2 ≤ od → odSmall od = none →
          (uchar (ulong (ulongNot (od - 6) <<< 2)) &&& 0x7f &&& 0xfe ||| 0x02).toNat =
            4 * (37 - od) + 2 ∧ 8 ≤ od := by decide
      obtain ⟨hbyte, hge⟩ := hall od (List.mem_range.mpr (by omega)) hshape.1 hsmall
      have hclear : (p 11 &&& 0x7f).toNat = (p 11).toNat := hbit95 false
      have h₁₃' : (p 13 &&& 0xc0).toNat = 64 := by
        rw [h₁₃]
        decide
      have hclass : (4 * (37 - od) + 2) % 4 = 2 := by omega
      have hhigh : (p 11).toNat / 128 = 0 := by omega
      refine ⟨_, rfl, fun j hj₁₁ hj₁₂ hj₁₃ => by simp [hj₁₁, hj₁₂, hj₁₃], ⟨?_, ?_⟩, ?_⟩
      · simp only [put_apply, andAt_apply, orAt_apply, Fin.reduceEq, if_true, if_false, hclear]
        omega
      · simp only [put_apply, andAt_apply, orAt_apply, Fin.reduceEq, if_true, if_false, h₁₃']
      · simp only [put_apply, andAt_apply, orAt_apply, Fin.reduceEq, if_true, if_false, hclear, hbyte,
          hclass, hhigh, outValue, Option.some.injEq]
        omega
    · next hlarge =>
      obtain ⟨i, masks, hmatch, hi, hform⟩ := odLoopMatch_spec h (by omega)
      obtain ⟨y, z, hy, hz, hod, hmasks⟩ := odForm_spec hform
      have htemp : ulong (i <<< 5) = 32 * i := by
        rw [ulong, Nat.shiftLeft_eq]
        omega
      have hlow : uchar (32 * i) = uchar (32 * (i % 8)) := by
        rw [← UInt8.toNat_inj, toNat_uchar, toNat_uchar]
        omega
      have hbyte₁₂ := hmasks (i % 8) (by omega)
      have hbyte₁₃ : ((0x40 : UInt8) ||| uchar ((32 * i) >>> 8)).toNat = 64 + i / 8 := by
        have hshift : (uchar ((32 * i) >>> 8)).toNat = i / 8 := by
          rw [toNat_uchar, Nat.shiftRight_eq_div_pow]
          omega
        rw [toNat_or 6 (by decide) (by omega), hshift]
        rfl
      have hset : (p 11 ||| 0x80).toNat = (p 11).toNat + 128 := hbit95 true
      have hhigh : ((p 11).toNat + 128) / 128 = 1 := by omega
      have hclass : (32 * (i % 8) + 8 * z + 4 * (1 - y) + 2) % 4 = 2 := by omega
      rw [hmatch]
      refine ⟨_, rfl, fun j hj₁₁ hj₁₂ hj₁₃ => by simp [putForm, hj₁₁, hj₁₂, hj₁₃], ⟨?_, ?_⟩, ?_⟩
      · simp only [putForm, andAt_apply, orAt_apply, Fin.reduceEq, if_true, if_false, hset]
        omega
      · simp only [putForm, andAt_apply, orAt_apply, Fin.reduceEq, if_true, if_false, htemp, h₁₃,
          hbyte₁₃]
        omega
      · have hx : (32 * (i % 8) + 8 * z + 4 * (1 - y) + 2) / 32 + 8 * ((64 + i / 8) % 64) = i := by
          omega
        have hy' : 1 - (32 * (i % 8) + 8 * z + 4 * (1 - y) + 2) / 4 % 2 = y := by omega
        have hz' : (32 * (i % 8) + 8 * z + 4 * (1 - y) + 2) / 8 % 4 = z := by omega
        simp only [putForm, andAt_apply, orAt_apply, Fin.reduceEq, if_true, if_false, htemp, h₁₂, h₁₃,
          UInt8.zero_or, hlow, hbyte₁₂, hbyte₁₃, hset, hhigh, hclass, hx, hy', hz', outValue, hod]

end

/-! ## Fields -/

namespace ProgData
variable (p : ProgData)

theorem refDiv_eq : p.refDiv = refValue ((p 0).toNat % 4) ((p 0).toNat / 4 % 16)
    ((p 0).toNat / 4 + 64 * ((p 1).toNat % 32)) := by
  have h₀ : p.bytes 0 = (p 0).toNat := rfl
  have h₁ : p.bytes 1 = (p 1).toNat := rfl
  have hlt₀ := (p 0).toNat_lt
  have hclass : field p.bytes 0 2 = (p 0).toNat % 4 := by
    rw [field_byte 0 (show 0 = 8 * 0 + 0 from rfl) (show 0 + 2 ≤ 8 by omega), h₀]
    omega
  have hmiddle : field p.bytes 2 4 = (p 0).toNat / 4 % 16 := by
    rw [field_byte 0 (show 2 = 8 * 0 + 2 from rfl) (show 2 + 4 ≤ 8 by omega), h₀]
    omega
  have hlarge : field p.bytes 2 11 = (p 0).toNat / 4 + 64 * ((p 1).toNat % 32) := by
    rw [field_across 0 6 5 (show 2 = 8 * 0 + 2 from rfl) rfl rfl (by omega), h₀, h₁]
    omega
  rw [refDiv, hclass, hmiddle, hlarge]

theorem vcoDiv_eq : p.vcoDiv = 8 + ((p 1).toNat / 32 + 8 * (p 2).toNat) := by
  have h₁ : p.bytes 1 = (p 1).toNat := rfl
  have h₂ : p.bytes 2 = (p 2).toNat := rfl
  have hlt₁ := (p 1).toNat_lt
  have hlt₂ := (p 2).toNat_lt
  have hfield : field p.bytes 13 11 = (p 1).toNat / 32 + 8 * (p 2).toNat := by
    rw [field_across 1 3 8 (show 13 = 8 * 1 + 5 from rfl) rfl rfl (by omega), h₁, h₂]
    omega
  rw [vcoDiv, hfield]

theorem rs_eq : p.rs = rsValue ((p 11).toNat / 2 % 4) := by
  have h₁₁ : p.bytes 11 = (p 11).toNat := rfl
  have hfield : field p.bytes 89 2 = (p 11).toNat / 2 % 4 := by
    rw [field_byte 11 (show 89 = 8 * 11 + 1 from rfl) (show 1 + 2 ≤ 8 by omega), h₁₁]
    omega
  rw [rs, hfield]

theorem icpnum_eq : p.icpnum = icpValue ((p 11).toNat / 8 % 8)
    (1 + (p 15).toNat / 128 + 2 * ((p 16).toNat % 2)) := by
  have h₁₁ : p.bytes 11 = (p 11).toNat := rfl
  have h₁₅ : p.bytes 15 = (p 15).toNat := rfl
  have h₁₆ : p.bytes 16 = (p 16).toNat := rfl
  have hlt₁₅ := (p 15).toNat_lt
  have hb : field p.bytes 91 3 = (p 11).toNat / 8 % 8 := by
    rw [field_byte 11 (show 91 = 8 * 11 + 3 from rfl) (show 3 + 3 ≤ 8 by omega), h₁₁]
    omega
  have hlow : field p.bytes 127 1 = (p 15).toNat / 128 := by
    rw [field_byte 15 (show 127 = 8 * 15 + 7 from rfl) (show 7 + 1 ≤ 8 by omega), h₁₅]
    omega
  have hhigh : field p.bytes 128 1 = (p 16).toNat % 2 := by
    rw [field_byte 16 (show 128 = 8 * 16 + 0 from rfl) (show 0 + 1 ≤ 8 by omega), h₁₆]
    omega
  rw [icpnum, hb, hlow, hhigh]

theorem outDiv_eq : p.outDiv = outValue ((p 12).toNat % 4) ((p 11).toNat / 128)
    ((p 12).toNat / 4 % 32) ((p 12).toNat / 32 + 8 * ((p 13).toNat % 64))
    (1 - (p 12).toNat / 4 % 2) ((p 12).toNat / 8 % 4) ((p 12).toNat % 16) := by
  have h₁₁ : p.bytes 11 = (p 11).toNat := rfl
  have h₁₂ : p.bytes 12 = (p 12).toNat := rfl
  have h₁₃ : p.bytes 13 = (p 13).toNat := rfl
  have hlt₁₁ := (p 11).toNat_lt
  have hlt₁₂ := (p 12).toNat_lt
  have hclass : field p.bytes 96 2 = (p 12).toNat % 4 := by
    rw [field_byte 12 (show 96 = 8 * 12 + 0 from rfl) (show 0 + 2 ≤ 8 by omega), h₁₂]
    omega
  have hhigh : field p.bytes 95 1 = (p 11).toNat / 128 := by
    rw [field_byte 11 (show 95 = 8 * 11 + 7 from rfl) (show 7 + 1 ≤ 8 by omega), h₁₁]
    omega
  have hmiddle : field p.bytes 98 5 = (p 12).toNat / 4 % 32 := by
    rw [field_byte 12 (show 98 = 8 * 12 + 2 from rfl) (show 2 + 5 ≤ 8 by omega), h₁₂]
    omega
  have hx : field p.bytes 101 9 = (p 12).toNat / 32 + 8 * ((p 13).toNat % 64) := by
    rw [field_across 12 3 6 (show 101 = 8 * 12 + 5 from rfl) rfl rfl (by omega), h₁₂, h₁₃]
    omega
  have hy : field p.bytes 98 1 = (p 12).toNat / 4 % 2 := by
    rw [field_byte 12 (show 98 = 8 * 12 + 2 from rfl) (show 2 + 1 ≤ 8 by omega), h₁₂]
    omega
  have hz : field p.bytes 99 2 = (p 12).toNat / 8 % 4 := by
    rw [field_byte 12 (show 99 = 8 * 12 + 3 from rfl) (show 3 + 2 ≤ 8 by omega), h₁₂]
    omega
  have hcode : field p.bytes 96 4 = (p 12).toNat % 16 := by
    rw [field_byte 12 (show 96 = 8 * 12 + 0 from rfl) (show 0 + 4 ≤ 8 by omega), h₁₂]
    omega
  rw [outDiv, hclass, hhigh, hmiddle, hx, hy, hz, hcode]

variable {p}

theorem constants_of (h₁₁ : (p 11).toNat % 2 = 0 ∧ (p 11).toNat / 64 % 2 = 0)
    (h₁₃ : (p 13).toNat / 64 = 1) (h₁₅ : (p 15).toNat % 128 = 4) (h₁₆ : (p 16).toNat < 2)
    (hrest : ∀ j : Fin 20, 3 ≤ j → ¬(11 ≤ j ∧ j ≤ 13) → ¬(15 ≤ j ∧ j ≤ 16) →
      p j = ProgData.initial j) : p.Constants where
  unused k h₃ h₁₀ := by
    have hall : ∀ k : Fin 20, k ≤ 10 → 3 ≤ k → ProgData.initial k = 0x00 := by decide
    rw [hrest k h₃ (by omega) (by omega), hall k h₁₀ h₃]
  bit88 := by
    have hbyte : p.bytes 11 = (p 11).toNat := rfl
    rw [field_byte 11 (show 88 = 8 * 11 + 0 from rfl) (show 0 + 1 ≤ 8 by omega), hbyte]
    omega
  bit94 := by
    have hbyte : p.bytes 11 = (p 11).toNat := rfl
    rw [field_byte 11 (show 94 = 8 * 11 + 6 from rfl) (show 6 + 1 ≤ 8 by omega), hbyte]
    exact h₁₁.2
  clk1 := by
    have hbyte : p.bytes 13 = (p 13).toNat := rfl
    rw [field_byte 13 (show 110 = 8 * 13 + 6 from rfl) (show 6 + 2 ≤ 8 by omega), hbyte]
    omega
  power := hrest 14 (by decide) (by decide) (by decide)
  source := by
    have hbyte : p.bytes 15 = (p 15).toNat := rfl
    rw [field_byte 15 (show 120 = 8 * 15 + 0 from rfl) (show 0 + 7 ≤ 8 by omega), hbyte]
    omega
  clk3 := by
    have hbyte : p.bytes 16 = (p 16).toNat := rfl
    rw [field_byte 16 (show 129 = 8 * 16 + 1 from rfl) (show 1 + 7 ≤ 8 by omega), hbyte]
    omega
  ones k h₁₇ := by
    have hall : ∀ k : Fin 20, 17 ≤ k → ProgData.initial k = 0xff := by decide
    rw [hrest k (by omega) (by omega) (by omega), hall k h₁₇]

end ProgData

/-! ## Word -/

/-- The tables one after another, each read back from the bytes that the later ones leave. -/
theorem progData_spec {t : ClockSetting} (h : Selectable t) :
    ∃ p, progData t = .ok p ∧ p.decode = some t ∧ p.Constants := by
  obtain ⟨p₁, hok₁, hframe₁, hlow, href⟩ := inputDivider_spec h.refDiv
    (show ProgData.initial 0 = 0 from rfl) (show ProgData.initial 1 = 0 from rfl)
  obtain ⟨p₂, hok₂, hframe₂, hkeep₂, hvco⟩ := vcoDivider_spec h.vcoDiv hlow
    (hframe₁ 2 (by decide) (by decide))
  have hframe₂' (j : Fin 20) (hj : 3 ≤ j) : p₂ j = ProgData.initial j := by
    rw [hframe₂ j (by omega) (by omega), hframe₁ j (by omega) (by omega)]
  obtain ⟨p₃, hok₃, hframe₃, hbits, hrs⟩ := loopFilterResistor_spec h.rs (hframe₂' 11 (by decide))
  obtain ⟨p₄, hok₄, hframe₄, ⟨hkeep₄, heven, hlt, h₁₅, h₁₆⟩, hicp⟩ :=
    chargePumpCurrent_spec h.icpnum hbits
      ((hframe₃ 15 (by decide)).trans (hframe₂' 15 (by decide)))
      ((hframe₃ 16 (by decide)).trans (hframe₂' 16 (by decide)))
  have hframe₄' (j : Fin 20) (h₁₁ : j ≠ 11) (h₁₅ : j ≠ 15) (h₁₆ : j ≠ 16) : p₄ j = p₂ j := by
    rw [hframe₄ j h₁₁ h₁₅ h₁₆, hframe₃ j h₁₁]
  obtain ⟨p₅, hok₅, hframe₅, ⟨h₁₁, h₁₃⟩, hod⟩ := outputDivider_spec h.outDiv (by omega)
    ((hframe₄' 12 (by decide) (by decide) (by decide)).trans (hframe₂' 12 (by decide)))
    ((hframe₄' 13 (by decide) (by decide) (by decide)).trans (hframe₂' 13 (by decide)))
  -- each part leaves the bytes of the parts before it alone
  have hfirst (j : Fin 20) (hj : j < 3) : p₅ j = p₂ j := by
    rw [hframe₅ j (by omega) (by omega) (by omega), hframe₄' j (by omega) (by omega) (by omega)]
  have hrest (j : Fin 20) (hj : 3 ≤ j) (hout : ¬(11 ≤ j ∧ j ≤ 13)) (hicp : ¬(15 ≤ j ∧ j ≤ 16)) :
      p₅ j = ProgData.initial j := by
    rw [hframe₅ j (by omega) (by omega) (by omega), hframe₄' j (by omega) (by omega) (by omega),
      hframe₂' j hj]
  have hlate (j : Fin 20) (hj : 15 ≤ j) : p₅ j = p₄ j :=
    hframe₅ j (by omega) (by omega) (by omega)
  refine ⟨p₅, ?_, ?_, ?_⟩
  · simp only [progData, bind, Except.bind, hok₁, hok₂, hok₃, hok₄, hok₅]
  -- so each part is still decoded as it was encoded
  · have hrefDiv : p₅.refDiv = t.refDiv := by
      rw [p₅.refDiv_eq, hfirst 0 (by decide), hfirst 1 (by decide), hkeep₂,
        hframe₂ 0 (by decide) (by decide), href]
    have hvcoDiv : p₅.vcoDiv = t.vcoDiv := by
      rw [p₅.vcoDiv_eq, hfirst 1 (by decide), hfirst 2 (by decide), hvco]
    have hrs' : p₅.rs = t.rs := by
      have hfield : (p₅ 11).toNat / 2 % 4 = (p₃ 11).toNat / 2 % 4 := by omega
      rw [p₅.rs_eq, hfield, hrs]
    have hicp' : p₅.icpnum = t.icpnum := by
      have hfield : (p₅ 11).toNat / 8 % 8 = (p₄ 11).toNat / 8 % 8 := by omega
      rw [p₅.icpnum_eq, hfield, hlate 15 (by decide), hlate 16 (by decide), hicp]
    rw [ProgData.decode, p₅.outDiv_eq, hod, Option.map_some, hrefDiv, hvcoDiv, hrs', hicp']
  · exact ProgData.constants_of (by omega) h₁₃ (by rw [hlate 15 (by decide)]; exact h₁₅)
      (by rw [hlate 16 (by decide)]; exact h₁₆) hrest

/-- **The word is decodable.** Whatever the search ends with, the bytes are read back as it, the bits
that belong to no field are what they always are, no other setting gives the same bytes, and the
loop over the output dividers finds a match when it is entered. -/
theorem progData_decodable (t : ClockSetting) (h : Selectable t) :
    (∃ p, progData t = .ok p ∧ p.decode = some t ∧ p.Constants) ∧
      (∀ t', Selectable t' → progData t' = progData t → t' = t) ∧
      (38 ≤ t.outDiv → ∃ i < 512, (odForm t.outDiv i).isSome = true) := by
  obtain ⟨p, hok, hdecode, hconstants⟩ := progData_spec h
  refine ⟨⟨p, hok, hdecode, hconstants⟩, fun t' h' heq => ?_, exists_odForm h.outDiv⟩
  obtain ⟨p', hok', hdecode', _⟩ := progData_spec h'
  rw [hok', hok] at heq
  rw [Except.ok.inj heq, hdecode] at hdecode'
  exact (Option.some.inj hdecode').symm

/-- The setting that comes first for the output divider it starts with. -/
theorem progData_decodable_start :
    ∃ p, progData ⟨1, 12, 8232, 64000, 125⟩ = .ok p ∧
      p.decode = some ⟨1, 12, 8232, 64000, 125⟩ ∧ p.Constants :=
  (progData_decodable ⟨1, 12, 8232, 64000, 125⟩
    ⟨by decide, by decide, .start, by decide, by decide⟩).1

end SerialFc
