import SerialFc.Properties.ClockSearch

/-!
# Range tests of the clock search, against the limits of the chip

The products of the tests are formed in 32 bits. Above 116 times the crystal they wrap, so that a
setting far too fast can pass, and one that is allowed can fail.

* `Dividers.Legal` — the limits, on exact frequencies
* `inRange_iff_legal` — which settings pass that should not
* `nearLimits` — the rates at which such a setting comes out nearest
* `getIcs30702Data_legal_iff` — everywhere else the result is within the limits
-/

namespace SerialFc

open Lib ClockSearch

/-! ## Limits -/

namespace Dividers

/-- VCO between 60 and 360 MHz and reference above 200 kHz, with the divisions multiplied out. -/
structure Legal (d : Dividers) : Prop where
  vcoLow : 60000000 * (d.rdw + 2) < 36864000 * (d.vdw + 8)
  vcoHigh : 36864000 * (d.vdw + 8) < 360000000 * (d.rdw + 2)
  reference : 200000 * (d.rdw + 2) < 18432000

/-- The product of the first test as it is formed. -/
def product (d : Dividers) : ℕ := 36864000 * (d.vdw + 8) % 2 ^ 32

theorem inRange_iff (d : Dividers) :
    d.inRange = true ↔ 60000000 * (d.rdw + 2) < d.product ∧ d.product < 360000000 * (d.rdw + 2) ∧
      200000 * (d.rdw + 2) < 18432000 := by
  have hfirst : d.range1 = d.product / (d.rdw + 2) := rfl
  have hsecond : d.range2 = 18432000 / (d.rdw + 2) := rfl
  have hpos : 0 < d.rdw + 2 := by omega
  simp only [inRange, hfirst, hsecond, Bool.and_eq_true, decide_eq_true_eq, gt_iff_lt, and_assoc]
  have hlow : 60000000 < d.product / (d.rdw + 2) ↔ 60000001 * (d.rdw + 2) ≤ d.product :=
    Nat.le_div_iff_mul_le hpos
  have hhigh : d.product / (d.rdw + 2) < 360000000 ↔ d.product < 360000000 * (d.rdw + 2) :=
    Nat.div_lt_iff_lt_mul hpos
  have href : 200000 < 18432000 / (d.rdw + 2) ↔ 200001 * (d.rdw + 2) ≤ 18432000 :=
    Nat.le_div_iff_mul_le hpos
  rw [hlow, hhigh, href]
  -- all products are multiples of 256, and a divider within the limits is smaller
  unfold product
  omega

/-- Of the settings that pass, those whose product wraps to one in the range are too fast. -/
theorem legal_iff_of_inRange {d : Dividers} (h : d.inRange = true) :
    d.Legal ↔ 36864000 * (d.vdw + 8) < 360000000 * (d.rdw + 2) := by
  obtain ⟨hlow, _, href⟩ := d.inRange_iff.mp h
  refine ⟨Legal.vcoHigh, fun hhigh => ⟨?_, hhigh, href⟩⟩
  exact hlow.trans_le (Nat.mod_le _ _)

/-- Of the allowed settings, those whose product wraps below the range are rejected. -/
theorem inRange_iff_of_legal {d : Dividers} (h : d.Legal) :
    d.inRange = true ↔ 60000000 * (d.rdw + 2) < d.product := by
  rw [inRange_iff]
  refine ⟨And.left, fun hlow => ⟨hlow, ?_, h.reference⟩⟩
  exact (Nat.mod_le _ _).trans_lt h.vcoHigh

end Dividers

/-! ## Slowest of those that are too fast -/

/-- An output divider with the highest rate it serves, a clock that no setting passed for it and too
fast falls below, and a setting within the limits that serves the same rates. -/
structure OdLimit where
  od : ℕ
  top : ℕ
  tooFast : ℕ
  near : Dividers
  deriving DecidableEq, Repr

def odLimits : List OdLimit :=
  [⟨2, 180000000, 180006030, ⟨2, 158, 15⟩⟩, ⟨3, 120000000, 120003714, ⟨2, 311, 47⟩⟩,
    ⟨4, 90000000, 90003015, ⟨2, 75, 15⟩⟩, ⟨5, 72000000, 72002412, ⟨5, 158, 15⟩⟩,
    ⟨6, 60000000, 60001857, ⟨4, 311, 47⟩⟩, ⟨7, 50000000, 51430032, ⟨7, 457, 47⟩⟩,
    ⟨8, 45000000, 45001278, ⟨5, 169, 27⟩⟩, ⟨10, 36000000, 36001206, ⟨10, 158, 15⟩⟩]

theorem exists_odLimit {rate : ℕ} {d : Dividers} (h : Candidate rate d) :
    ∃ l ∈ odLimits, l.od = d.od ∧ rate ≤ l.top := by
  have hall : ∀ od ∈ [2, 3, 4, 5, 6, 7, 8, 10], odSkip rate od = false →
      ∃ l ∈ odLimits, l.od = od ∧ rate ≤ l.top := by
    simp [odSkip, odLimits]
  refine hall d.od ?_ h.allowed
  have hod := h.od
  simp only [List.mem_cons, List.not_mem_nil, or_false]
  omega

theorem odSkip_of_mem {rate : ℕ} {l : OdLimit} (hl : l ∈ odLimits) (hrate : rate ≤ l.top) :
    odSkip rate l.od = false ∧ odSkip rate l.near.od = false := by
  simp only [odLimits, List.mem_cons, List.not_mem_nil, or_false] at hl
  rcases hl with rfl | rfl | rfl | rfl | rfl | rfl | rfl | rfl <;>
    dsimp only at hrate <;> simp [odSkip] <;> omega

theorem near_candidate {rate : ℕ} {l : OdLimit} (hl : l ∈ odLimits) (hrate : rate ≤ l.top) :
    Candidate rate l.near := by
  have hall : ∀ l ∈ odLimits, (2 ≤ l.near.od ∧ l.near.od ≤ 8 ∨ l.near.od = 10) ∧
      (1 ≤ l.near.rdw ∧ l.near.rdw ≤ 127) ∧ (4 ≤ l.near.vdw ∧ l.near.vdw ≤ 511) ∧
      l.near.inRange = true := by decide
  obtain ⟨hod, hrdw, hvdw, hrange⟩ := hall l hl
  exact ⟨hod, (odSkip_of_mem hl hrate).2, hrdw, hvdw, hrange⟩

theorem order_odLimits : ∀ l ∈ odLimits, l.near.clock < l.tooFast ∧ l.top < l.tooFast ∧
    l.tooFast < l.near.clock + l.near.clock / 10 ∧
    ∀ other ∈ odLimits, other.top < l.top → 2 * other.top ≤ l.tooFast + l.near.clock := by decide

/-- The tests of a product, for `m` the reference divider and `v` the VCO divider. -/
abbrev Passes (m v : ℕ) : Prop :=
  60000000 * m < 36864000 * v % 2 ^ 32 ∧ 36864000 * v % 2 ^ 32 < 360000000 * m

theorem tooFast_le {rate : ℕ} {d : Dividers} (h : Candidate rate d) (hlegal : ¬d.Legal) {l : OdLimit}
    (hl : l ∈ odLimits) (hod : l.od = d.od) : l.tooFast ≤ d.clock := by
  -- `v` is the first VCO divider from 360 MHz on
  have hall : ∀ l ∈ odLimits, ∀ m ∈ List.range' 3 90, ∀ v ∈ [(625 * m + 63) / 64], v ≤ 519 →
      (Passes m v → l.tooFast ≤ 36864000 / (m * l.od) * v) ∧
        l.tooFast ≤ 36864000 / (m * l.od) * (v + 1) := by decide +kernel
  obtain ⟨hlow, hhigh, href⟩ := d.inRange_iff.mp h.inRange
  have hfast := mt (d.legal_iff_of_inRange h.inRange).mpr hlegal
  have hrdw := h.rdw
  have hvdw := h.vdw
  obtain ⟨hfirst, hnext⟩ := hall l hl (d.rdw + 2) (by simp only [List.mem_range'_1]; omega) _
    (List.mem_singleton.mpr rfl) (by omega)
  rw [hod] at hfirst hnext
  obtain heq | hlt : d.vdw + 8 = (625 * (d.rdw + 2) + 63) / 64 ∨
      (625 * (d.rdw + 2) + 63) / 64 + 1 ≤ d.vdw + 8 := by omega
  · rw [← heq] at hfirst
    exact hfirst ⟨hlow, hhigh⟩
  · exact hnext.trans (Nat.mul_le_mul_left _ hlt)

/-! ## Around the top of an output divider -/

/-- Past the middle between the two clocks the one that is too fast is nearer. -/
def OdLimit.Upper (l : OdLimit) (rate : ℕ) : Prop := rate ≤ l.top ∧ l.tooFast + l.near.clock < 2 * rate

/-- The setting that is too fast is one the search comes across. -/
theorem tooFast_candidate {rate : ℕ} {l : OdLimit} (hl : l ∈ odLimits) (hrate : rate ≤ l.top) :
    Candidate rate ⟨l.od, 451, 45⟩ ∧ Dividers.clock ⟨l.od, 451, 45⟩ = l.tooFast := by
  have hall : ∀ l ∈ odLimits, (2 ≤ l.od ∧ l.od ≤ 8 ∨ l.od = 10) ∧
      Dividers.clock ⟨l.od, 451, 45⟩ = l.tooFast := by decide
  obtain ⟨hod, hclock⟩ := hall l hl
  have hpasses : Passes 47 459 ∧ 200000 * 47 < 18432000 := by decide
  have hrange : Dividers.inRange ⟨l.od, 451, 45⟩ = true :=
    (Dividers.inRange_iff _).mpr ⟨hpasses.1.1, hpasses.1.2, hpasses.2⟩
  exact ⟨⟨hod, (odSkip_of_mem hl hrate).1, by simp, by simp, hrange⟩, hclock⟩

/-- Between the two there is no clock of a setting within the limits. -/
theorem gap {rate : ℕ} {l : OdLimit} (hl : l ∈ odLimits) (hupper : l.Upper rate) {d : Dividers}
    (h : Candidate rate d) (hlegal : d.Legal) : d.clock ≤ l.near.clock ∨ l.tooFast < d.clock := by
  -- `q` is the last VCO divider up to the clock that is too fast
  have hall : ∀ l ∈ odLimits, l.tooFast + l.near.clock < 2 * l.top → ∀ other ∈ odLimits,
      l.top ≤ other.top → ∀ m ∈ List.range' 3 90, ∀ a ∈ [36864000 / (m * other.od)],
      ∀ q ∈ [l.tooFast / a], 0 < a ∧ (a * q ≤ l.near.clock ∨
        ¬(36864000 * q < 360000000 * m ∧ (12 ≤ q ∧ q ≤ 519) ∧ Passes m q) ∧
          a * (q - 1) ≤ l.near.clock) := by decide +kernel
  obtain ⟨hrate, hmiddle⟩ := hupper
  obtain ⟨other, hother, hod, hserved⟩ := exists_odLimit h
  have htop : l.top ≤ other.top := by
    by_contra hlt
    have hbelow := (order_odLimits l hl).2.2.2 other hother (by omega)
    omega
  obtain ⟨hlow, hhigh, href⟩ := d.inRange_iff.mp h.inRange
  have hrdw := h.rdw
  have hvdw := h.vdw
  have hspeed := hlegal.vcoHigh
  obtain ⟨hpos, hcase⟩ := hall l hl (by omega) other hother htop (d.rdw + 2)
    (by simp only [List.mem_range'_1]; omega) _ (List.mem_singleton.mpr rfl) _
    (List.mem_singleton.mpr rfl)
  rw [hod] at hpos hcase
  have hclock : d.clock = 36864000 / ((d.rdw + 2) * d.od) * (d.vdw + 8) := rfl
  rw [hclock]
  generalize 36864000 / ((d.rdw + 2) * d.od) = a at hpos hcase
  rcases Nat.lt_trichotomy (d.vdw + 8) (l.tooFast / a) with hlt | heq | hgt
  · left
    rcases hcase with hle | ⟨_, hle⟩
    · exact (Nat.mul_le_mul_left a hlt.le).trans hle
    · exact (Nat.mul_le_mul_left a (by omega)).trans hle
  · left
    rw [← heq] at hcase
    rcases hcase with hle | ⟨hnot, _⟩
    · exact hle
    · exact absurd ⟨hspeed, by omega, hlow, hhigh⟩ hnot
  · right
    calc l.tooFast < a * (l.tooFast / a + 1) := Nat.lt_mul_div_succ _ hpos
      _ ≤ a * (d.vdw + 8) := Nat.mul_le_mul_left a hgt

/-! ## The routine -/

/-- What is programmed when the routine succeeds is within the limits. -/
def ReturnsLegal (data : ClockData335) : Prop :=
  (getIcs30702Data data).1 = 0 →
    ∃ best, decodeWord (getIcs30702Data data).2.clockBits = some best ∧ best.Legal

/-- All output dividers are skipped above the top of the first. -/
theorem getIcs30702Data_of_skip {data : ClockData335} (h : 180000000 < data.frequency) :
    (getIcs30702Data data).1 = 1 := by
  have hskip : ∀ od ∈ [2, 3, 4, 5, 6, 7, 8, 10], odSkip data.frequency od = true := by
    simp only [List.mem_cons, List.not_mem_nil, or_false, forall_eq_or_imp, forall_eq, odSkip,
      decide_eq_true_eq]
    omega
  have hloop (ods : List ℕ) (hods : ∀ od ∈ ods, odSkip data.frequency od = true) (s : ClockSearch) :
      ods.foldl (fun s od => if odSkip data.frequency od then s else s.rdwLoop data.frequency od) s =
        s := by
    induction ods generalizing s with
    | nil => rfl
    | cons od ods ih =>
      rw [List.foldl_cons, if_pos (hods od (by simp))]
      exact ih (fun x hx => hods x (by simp [hx])) s
  have hstart : (start data.frequency).odLoop data.frequency = start data.frequency := hloop _ hskip _
  have hbest : (start data.frequency).best data.frequency = ⟨1, 1, 1⟩ := by
    unfold best
    split <;> rfl
  rw [getIcs30702Data, hstart, hbest]
  rfl

/-- The dividers that the search settles on. -/
abbrev settled (rate : ℕ) : Dividers := Brackets.nearer rate ((start rate).odLoop rate).view

theorem not_candidate_start (rate : ℕ) : ¬Candidate rate ⟨1, 1, 1⟩ := fun h => by
  have hod := h.od
  simp at hod

/-- The routine succeeds with a candidate. -/
theorem returnsLegal_iff {data : ClockData335} (hrate : data.frequency < 2 ^ 31) :
    ReturnsLegal data ↔
      (Candidate data.frequency (settled data.frequency) → (settled data.frequency).Legal) := by
  rw [ReturnsLegal, getIcs30702Data_eq hrate]
  constructor
  · intro hlegal hcandidate
    obtain ⟨hok, hdecode, _⟩ := programDividers_candidate hcandidate data
    obtain ⟨best, hbest, hwithin⟩ := hlegal hok
    rw [hdecode] at hbest
    exact Option.some.inj hbest ▸ hwithin
  · intro hlegal hok
    rcases (tight_search hrate).nearer_mem with hstart | hmem
    · rw [hstart] at hok
      exact absurd hok (by simp [programDividers, odCode])
    · obtain ⟨_, hdecode, _⟩ := programDividers_candidate hmem data
      exact ⟨_, hdecode, hlegal hmem⟩

/-- In the upper part a setting that is too fast is settled on. -/
theorem not_legal_of_upper {rate : ℕ} (hrate : rate < 2 ^ 31) {l : OdLimit} (hl : l ∈ odLimits)
    (hupper : l.Upper rate) : Candidate rate (settled rate) ∧ ¬(settled rate).Legal := by
  obtain ⟨hcandidate, hclock⟩ := tooFast_candidate hl hupper.1
  obtain ⟨hnear, htop, hmargin, _⟩ := order_odLimits l hl
  obtain ⟨hbelow, hmiddle⟩ := hupper
  obtain ⟨hlow, hhi⟩ := start_eq hrate
  obtain ⟨hmem, hclosest, _⟩ := (tight_search hrate).chosen (by omega) (by omega)
    ⟨_, hcandidate, by rw [hlow, hcandidate.check_eq]; omega,
      by rw [hhi, hcandidate.check_eq]; omega⟩
  have hsettled : Candidate rate (settled rate) := hmem
  refine ⟨hsettled, fun hlegal => ?_⟩
  have hdist := hclosest _ hcandidate
  rw [hcandidate.check_eq, hclock, hsettled.check_eq] at hdist
  have hgap := gap hl ⟨hbelow, hmiddle⟩ hsettled hlegal
  simp only [Nat.dist] at hdist
  omega

/-- A setting that is too fast is settled on in the upper part only. -/
theorem upper_of_not_legal {rate : ℕ} (hrate : rate < 2 ^ 31) (h : Candidate rate (settled rate))
    (hlegal : ¬(settled rate).Legal) : ∃ l ∈ odLimits, l.Upper rate := by
  obtain ⟨l, hl, hod, hserved⟩ := exists_odLimit h
  obtain ⟨hnear, htop, _, _⟩ := order_odLimits l hl
  have hslow := tooFast_le h hlegal hl hod
  have hcandidate := near_candidate hl hserved
  obtain ⟨hbelow, habove⟩ := (tight_search hrate).nearer_above (not_candidate_start rate) h
    (by rw [h.check_eq]; omega)
  have hcloser := hbelow _ hcandidate
  have hleast := habove _ hcandidate
  rw [hcandidate.check_eq, h.check_eq] at hcloser hleast
  refine ⟨l, hl, hserved, ?_⟩
  omega

/-! ## The rates -/

/-- The rates just below the top of an output divider, first and last. -/
def nearLimits : List (ℕ × ℕ) :=
  [(35998905, 36000000), (59999849, 60000000), (71997809, 72000000), (89997261, 90000000),
    (119999856, 120000000), (179994521, 180000000)]

def NearLimit (rate : ℕ) : Prop := ∃ i ∈ nearLimits, i.1 ≤ rate ∧ rate ≤ i.2

theorem nearLimit_iff (rate : ℕ) : NearLimit rate ↔ ∃ l ∈ odLimits, l.Upper rate := by
  simp only [NearLimit, nearLimits, odLimits, OdLimit.Upper, Dividers.clock, List.mem_cons,
    List.not_mem_nil, or_false, exists_eq_or_imp, exists_eq_left]
  omega

theorem returnsLegal_iff_nearLimit {data : ClockData335} (h : data.frequency < 2 ^ 32) :
    ReturnsLegal data ↔ ¬NearLimit data.frequency := by
  rw [nearLimit_iff]
  rcases Nat.lt_or_ge 180000000 data.frequency with hskip | hserved
  · refine iff_of_true (fun hok => ?_) ?_
    · rw [getIcs30702Data_of_skip hskip] at hok
      omega
    · rintro ⟨l, hl, hrate, _⟩
      have hall : ∀ l ∈ odLimits, l.top ≤ 180000000 := by decide
      have htop := hall l hl
      omega
  · have hrate : data.frequency < 2 ^ 31 := by omega
    rw [returnsLegal_iff hrate]
    constructor
    · rintro hlegal ⟨l, hl, hupper⟩
      obtain ⟨hcandidate, hnot⟩ := not_legal_of_upper hrate hl hupper
      exact hnot (hlegal hcandidate)
    · intro hnone hcandidate
      by_contra hnot
      exact hnone (upper_of_not_legal hrate hcandidate hnot)

/-- **Limits of the chip.** What the routine returns is within them except at rates just below the
top of an output divider, and a setting within them passes the tests where its product, as it
wraps, does not fall below the range. -/
theorem getIcs30702Data_legal_iff (data : ClockData335) (h : data.frequency < 2 ^ 32) :
    (ReturnsLegal data ↔ ¬NearLimit data.frequency) ∧
      ∀ d : Dividers, d.Legal → (d.inRange = true ↔ 60000000 * (d.rdw + 2) < d.product) :=
  ⟨returnsLegal_iff_nearLimit h, fun _ hd => Dividers.inRange_iff_of_legal hd⟩

/-- The clock of the crystal, and the least settings that make it. -/
theorem getIcs30702Data_legal_iff_inFreq :
    ReturnsLegal ⟨18432000, 0⟩ ∧ Dividers.inRange ⟨10, 7, 1⟩ = true := by
  have hfar : ¬NearLimit 18432000 := by
    simp [NearLimit, nearLimits]
  obtain ⟨hreturns, htests⟩ := getIcs30702Data_legal_iff ⟨18432000, 0⟩ (by decide)
  exact ⟨hreturns.mpr hfar, (htests ⟨10, 7, 1⟩ ⟨by decide, by decide, by decide⟩).mpr (by decide)⟩

/-- At 36 MHz the VCO is set to 360.01 MHz; 109 and 10 make 359.4 MHz and are rejected. -/
theorem not_returnsLegal_36000000 :
    ¬ReturnsLegal ⟨36000000, 0⟩ ∧
      ¬∀ od ∈ [2, 3, 4, 5, 6, 7, 8, 10], ∀ rdw vdw, 1 ≤ rdw → rdw ≤ 127 → 4 ≤ vdw → vdw ≤ 511 →
        Dividers.Legal ⟨od, vdw, rdw⟩ → Dividers.inRange ⟨od, vdw, rdw⟩ = true := by
  constructor
  · intro hlegal
    exact (returnsLegal_iff_nearLimit (by decide)).mp hlegal
      ⟨(35998905, 36000000), by simp [nearLimits], by decide, le_refl _⟩
  · intro hall
    have hrejected : Dividers.inRange ⟨2, 109, 10⟩ = false := by decide
    have hpass := hall 2 (by simp) 10 109 (by decide) (by decide) (by decide) (by decide)
      ⟨by decide, by decide, by decide⟩
    rw [hrejected] at hpass
    exact Bool.false_ne_true hpass

end SerialFc
