import SerialFc.Model.DueTime
import Mathlib.Algebra.Group.Nat.Defs
import Mathlib.Algebra.Group.Int.Defs

/-!
# The arithmetic of due times

* `toInt_totalTime` — the due time is the exact one, reduced to 64 bits
* `dueTime_exact_iff` — it is the exact one if and only if that fits in 64 bits
-/

namespace SerialFc

/-! ## 64-bit arithmetic -/

theorem toInt_toInt64 (x : UInt64) : x.toInt64.toInt = (x.toNat : Int).bmod (2 ^ 64) :=
  BitVec.toInt_eq_toNat_bmod x.toBitVec

theorem mul_bmod_bmod (x k : Int) (n : Nat) : (x.bmod n * k).bmod n = (x * k).bmod n :=
  Int.bmod_mul_bmod

/-- The product of two 32-bit numbers leaves room for a third one. -/
theorem toNat_uint32x32To64_add (n m c : UInt32) :
    (uint32x32To64 n m + c.toUInt64).toNat = n.toNat * m.toNat + c.toNat := by
  have hprod : n.toNat * m.toNat ≤ (2 ^ 32 - 1) * (2 ^ 32 - 1) :=
    Nat.mul_le_mul (Nat.le_sub_one_of_lt n.toNat_lt) (Nat.le_sub_one_of_lt m.toNat_lt)
  have hc := c.toNat_lt
  unfold uint32x32To64
  rw [UInt64.toNat_add, UInt64.toNat_mul]
  simp only [UInt32.toNat_toUInt64]
  omega

theorem toInt_totalTime (n m c : UInt32) :
    (totalTime n m c).toInt = (-10000 * ((n.toNat * m.toNat + c.toNat : Nat) : Int)).bmod (2 ^ 64) := by
  have hfactor : Int64.toInt (-10000) = -10000 := by decide
  unfold totalTime
  rw [Int64.toInt_mul, toInt_toInt64, toNat_uint32x32To64_add, hfactor, mul_bmod_bmod, Int.mul_comm]

theorem toInt_immediateTotalTime (m c : UInt32) :
    (immediateTotalTime m c).toInt = -10000 * ((m.toNat + c.toNat : Nat) : Int) := by
  have hm := m.toNat_lt
  have hc := c.toNat_lt
  have hfactor : Int64.toInt (-10000) = -10000 := by decide
  unfold immediateTotalTime
  rw [Int64.toInt_mul, Int64.toInt_add, toInt_toInt64, toInt_toInt64, hfactor]
  simp only [UInt32.toNat_toUInt64, Int.bmod]
  omega

/-! ## Exact due times -/

namespace TimedStart

/-- The milliseconds that a total timer stands for, in unbounded integers. -/
def total (t : Timeouts) (s : TimedStart) : Option Nat :=
  (s.selected t).map fun (length, multiplier, constant) =>
    length.toNat * multiplier.toNat + constant.toNat

/-- Whatever total timer is armed is due when its milliseconds are over. -/
def Exact (t : Timeouts) (s : TimedStart) : Prop :=
  ∀ due, s.dueTime t = some due → ∃ total, s.total t = some total ∧ due.toInt = -10000 * total

/-- The due time fits in 64 bits. An immediate character has no length. -/
def Fits (t : Timeouts) (s : TimedStart) : Prop :=
  s = .immediate ∨ ∀ total, s.total t = some total → 10000 * total ≤ 2 ^ 63

theorem bmod_eq_iff {k : Nat} (h : k < 2 ^ 64) :
    (-10000 * (k : Int)).bmod (2 ^ 64) = -10000 * k ↔ 10000 * k ≤ 2 ^ 63 := by
  simp only [Int.bmod]
  omega

/-- All but immediate characters go by the same formula. -/
theorem dueTime_of_ne_immediate {t : Timeouts} {s : TimedStart} (hs : s ≠ .immediate) :
    s.dueTime t = (s.selected t).map fun (length, multiplier, constant) =>
      totalTime length multiplier constant := by
  cases s with
  | immediate => exact absurd rfl hs
  | read length => simp [dueTime, selected, Option.map_map, Function.comp_def]
  | write length => simp [dueTime, selected, Option.map_map, Function.comp_def]
  | xoffCounter => simp [dueTime, selected, Option.map_map, Function.comp_def]

theorem exact_immediate (t : Timeouts) : Exact t .immediate := by
  intro due hdue
  obtain ⟨totals, htotals, rfl⟩ := Option.map_eq_some_iff.mp hdue
  refine ⟨totals.1.toNat + totals.2.toNat, ?_, toInt_immediateTotalTime _ _⟩
  simp [total, selected, htotals]

theorem exact_iff {t : Timeouts} {s : TimedStart} : Exact t s ↔ Fits t s := by
  by_cases hs : s = .immediate
  · subst hs
    exact iff_of_true (exact_immediate t) (.inl rfl)
  unfold Exact Fits
  rw [or_iff_right hs, dueTime_of_ne_immediate hs]
  unfold total
  cases hsel : s.selected t with
  | none => simp
  | some x =>
    have hlt := (uint32x32To64 x.1 x.2.1 + x.2.2.toUInt64).toNat_lt
    rw [toNat_uint32x32To64_add] at hlt
    have hdue := toInt_totalTime x.1 x.2.1 x.2.2
    simp only [Option.map_some, Option.some.injEq, forall_eq', exists_eq_left']
    rw [hdue]
    exact bmod_eq_iff hlt

/-- A due time that is exact is relative. -/
theorem Exact.relative {t : Timeouts} {s : TimedStart} (h : Exact t s) {due : Int64}
    (hdue : s.dueTime t = some due) : due.toInt ≤ 0 := by
  obtain ⟨total, -, heq⟩ := h due hdue
  omega

/-- Of two due times that are exact, the one with more milliseconds is not the earlier one. -/
theorem Exact.antitone {t t' : Timeouts} {s s' : TimedStart} (h : Exact t s) (h' : Exact t' s')
    {due due' : Int64} (hdue : s.dueTime t = some due) (hdue' : s'.dueTime t' = some due')
    {k k' : Nat} (hk : s.total t = some k) (hk' : s'.total t' = some k') (hle : k ≤ k') :
    due' ≤ due := by
  obtain ⟨total, htotal, heq⟩ := h due hdue
  obtain ⟨total', htotal', heq'⟩ := h' due' hdue'
  cases hk.symm.trans htotal
  cases hk'.symm.trans htotal'
  rw [Int64.le_iff_toInt_le]
  omega

/-- The decisions of `SerialStartRead` agree on whether there is a total timer. -/
theorem isSome_readTotals (t : Timeouts) : (readTotals t).isSome = (readStart t).useTotalTimer := by
  unfold readTotals readStart
  repeat' split
  all_goals simp_all

/-- **Timeout arithmetic.** A total timer is due exactly when its milliseconds are over if and only
if that fits in 64 bits; its due time is then a relative one, and no later than any that fits and
has more milliseconds. -/
theorem dueTime_exact_iff (t : Timeouts) (s : TimedStart) :
    (Exact t s ↔ Fits t s) ∧
      (Fits t s → ∀ due, s.dueTime t = some due → due.toInt ≤ 0 ∧
        ∀ t' s' due' k k', Fits t' s' → s'.dueTime t' = some due' → s.total t = some k →
          s'.total t' = some k' → k ≤ k' → due' ≤ due) := by
  refine ⟨exact_iff, fun hfits due hdue => ?_⟩
  have hexact := exact_iff.mpr hfits
  refine ⟨hexact.relative hdue, fun t' s' due' k k' hfits' hdue' hk hk' hle => ?_⟩
  exact hexact.antitone (exact_iff.mpr hfits') hdue hdue' hk hk' hle

/-- 10 milliseconds for each of 100 characters, and one second. -/
theorem dueTime_exact_iff_hundredChars :
    (read 100).dueTime ⟨0, 10, 1000, 0, 0⟩ = some (-20000000) ∧ Exact ⟨0, 10, 1000, 0, 0⟩ (read 100) :=
  ⟨by decide, (dueTime_exact_iff _ _).1.mpr (.inr (by decide))⟩

/-- The largest multiplier and length give an absolute time. -/
theorem not_exact_largest :
    Timeouts.accepted ⟨0, 0, 0, 0xffffffff, 0⟩ = true ∧
      (write 0xffffffff).dueTime ⟨0, 0, 0, 0xffffffff, 0⟩ = some 85899345910000 ∧
      ¬Exact ⟨0, 0, 0, 0xffffffff, 0⟩ (write 0xffffffff) := by
  have hdue : (write 0xffffffff).dueTime ⟨0, 0, 0, 0xffffffff, 0⟩ = some 85899345910000 := by decide
  refine ⟨by decide, hdue, fun h => ?_⟩
  exact absurd (h.relative hdue) (by decide)

end TimedStart

end SerialFc
