import SerialFc.Lib.Bracket
import SerialFc.Model.ClockSearch

/-!
# The search for clock dividers finds the nearest

* `brackets_odLoop` — the loops bracket all candidates for the rate
* `decodeWord_clockWord` — the word is read back as the dividers
* `getIcs30702Data_closest` — no candidate is closer than the one that is returned
-/

namespace SerialFc

open Lib ClockSearch

/-! ## Candidates -/

/-- The clock that the dividers make, rounded as the code rounds it. -/
def Dividers.clock (d : Dividers) : ℕ := 36864000 / ((d.rdw + 2) * d.od) * (d.vdw + 8)

/-- Dividers that the loops go through and the tests let pass. -/
structure Candidate (rate : ℕ) (d : Dividers) : Prop where
  od : 2 ≤ d.od ∧ d.od ≤ 8 ∨ d.od = 10
  allowed : odSkip rate d.od = false
  rdw : 1 ≤ d.rdw ∧ d.rdw ≤ 127
  vdw : 4 ≤ d.vdw ∧ d.vdw ≤ 511
  inRange : d.inRange = true

theorem Candidate.check_eq {rate : ℕ} {d : Dividers} (h : Candidate rate d) : d.check = d.clock := by
  have hod : 2 ≤ d.od := by rcases h.od with h | h <;> omega
  have hrdw := h.rdw
  have hvdw := h.vdw
  have hdiv : 36864000 / ((d.rdw + 2) * d.od) ≤ 36864000 / (3 * 2) :=
    Nat.div_le_div_left (Nat.mul_le_mul (by omega) hod) (by omega)
  have hclock : d.clock ≤ 36864000 / (3 * 2) * 519 := Nat.mul_le_mul hdiv (by omega)
  exact Nat.mod_eq_of_lt (by show d.clock < 2 ^ 32; omega)

/-! ## One turn -/

namespace ClockSearch

def view (s : ClockSearch) : Bracket Dividers := ⟨s.low, s.hi, s.lowest, s.highest⟩

/-- The margins that the search starts from. -/
abbrev Tight (rate : ℕ) (seen : Set Dividers) (s : ClockSearch) : Prop :=
  Brackets Dividers.check rate (start rate).low (start rate).hi ⟨1, 1, 1⟩ seen s.view

variable {rate : ℕ} {seen : Set Dividers} {s : ClockSearch}

theorem tie_eq_of_ne {d : Dividers} (hlow : d.check ≠ s.low) (hhi : d.check ≠ s.hi) :
    s.tie d = s := by
  rw [tie, if_neg hlow, if_neg hhi]

/-- What comes out at a bound may take the place of what attained it before. -/
theorem considers_tie {d : Dividers} (h : Tight rate seen s) (hbound : d.check = s.low ∨ d.check = s.hi) :
    Considers Dividers.check rate d s.view (s.tie d).view ∧
      ¬(d.check > (s.tie d).low ∧ d.check < (s.tie d).hi) := by
  by_cases hlow : d.check = s.low
  · rw [tie, if_pos hlow]
    split
    · refine ⟨?_, by simp [takeLow]⟩
      have hview : (s.takeLow d).view = { s.view with below := d } := by
        simp [view, takeLow, hlow]
      rw [hview]
      exact .tieLow hlow
    · exact ⟨.keep (.inl hlow.le), by omega⟩
  · have hhi : d.check = s.hi := hbound.resolve_left hlow
    have habove : rate < d.check := by
      have hapart : s.low = rate ∨ rate < s.hi := h.apart
      have hle : rate ≤ s.hi := h.le_hi
      omega
    rw [tie, if_neg hlow, if_pos hhi]
    split
    · refine ⟨?_, by simp [takeHi]⟩
      have hview : (s.takeHi d).view = { s.view with above := d } := by
        simp [view, takeHi, hhi]
      rw [hview]
      exact .tieHi hhi habove
    · exact ⟨.keep (.inr ⟨hhi.ge, habove⟩), by omega⟩

/-- One turn of the inner loop. -/
theorem tight_tryDividers (d : Dividers) (h : Tight rate seen s) :
    Tight rate (seen ∪ {x | x = d ∧ x.inRange = true}) (s.tryDividers rate d) := by
  unfold tryDividers
  split
  · next hrange =>
    have hnew : ({x | x = d ∧ x.inRange = true} : Set Dividers) = {d} := by
      ext x
      simp only [Set.mem_ofPred_eq, Set.mem_singleton_iff]
      exact ⟨And.left, fun hx => ⟨hx, hx ▸ hrange⟩⟩
    rw [hnew]
    dsimp only
    by_cases hbound : d.check = s.low ∨ d.check = s.hi
    · obtain ⟨hconsiders, hout⟩ := considers_tie h hbound
      rw [if_neg hout]
      exact h.considers hconsiders
    · rw [not_or] at hbound
      rw [tie_eq_of_ne hbound.1 hbound.2]
      split
      · next hin =>
        split
        · next hgt => exact h.considers (.lower hin.2 hgt)
        · next hle => exact h.considers (.raise hin.1 (Nat.le_of_not_lt hle))
      · next hin =>
        refine h.considers (.keep ?_)
        have hle : s.low ≤ rate := h.low_le
        have hhi : rate ≤ s.hi := h.le_hi
        show d.check ≤ s.low ∨ s.hi ≤ d.check ∧ rate < d.check
        omega
  · next hrange =>
    have hnew : ({x | x = d ∧ x.inRange = true} : Set Dividers) = ∅ := by
      ext x
      simp only [Set.mem_ofPred_eq, Set.mem_empty_iff_false, iff_false]
      rintro ⟨rfl, hx⟩
      exact hrange hx
    rw [hnew, Set.union_empty]
    exact h

/-! ## The loops -/

theorem tight_vdwLoop (od rdw : ℕ) (h : Tight rate seen s) : Tight rate
    (seen ∪ ⋃ vdw ∈ List.range' 4 508, {x | x = ⟨od, vdw, rdw⟩ ∧ x.inRange = true})
    (s.vdwLoop rate od rdw) :=
  Brackets.foldl (fun _ _ vdw h => tight_tryDividers ⟨od, vdw, rdw⟩ h) _ h

theorem tight_rdwLoop (od : ℕ) (h : Tight rate seen s) : Tight rate
    (seen ∪ ⋃ rdw ∈ List.range' 1 127, ⋃ vdw ∈ List.range' 4 508,
      {x | x = ⟨od, vdw, rdw⟩ ∧ x.inRange = true}) (s.rdwLoop rate od) :=
  Brackets.foldl (fun _ _ rdw h => tight_vdwLoop od rdw h) _ h

/-- What the loops go through for one output divider. -/
def tried (rate od : ℕ) : Set Dividers :=
  {x | x.od = od ∧ odSkip rate od = false ∧ (1 ≤ x.rdw ∧ x.rdw ≤ 127) ∧ (4 ≤ x.vdw ∧ x.vdw ≤ 511) ∧
    x.inRange = true}

/-- An output divider is skipped or gone through. -/
theorem tight_od (od : ℕ) (h : Tight rate seen s) :
    Tight rate (seen ∪ tried rate od) (if odSkip rate od then s else s.rdwLoop rate od) := by
  split
  · next hskip =>
    have hnone : tried rate od = ∅ := by
      ext x
      simp [tried, hskip]
    rw [hnone, Set.union_empty]
    exact h
  · next hskip =>
    refine (tight_rdwLoop od h).congr (congrArg (seen ∪ ·) ?_)
    ext x
    simp only [tried, Set.mem_ofPred_eq, Set.mem_iUnion, List.mem_range'_1, exists_prop]
    constructor
    · rintro ⟨rfl, _, hrdw, hvdw, hrange⟩
      exact ⟨x.rdw, by omega, x.vdw, by omega, rfl, hrange⟩
    · rintro ⟨rdw, hrdw, vdw, hvdw, rfl, hrange⟩
      exact ⟨rfl, by simpa using hskip, by dsimp only; omega, by dsimp only; omega, hrange⟩

/-- **The loops bracket the candidates.** -/
theorem tight_odLoop (h : Tight rate ∅ s) : Tight rate {d | Candidate rate d} (s.odLoop rate) := by
  refine (Brackets.foldl (fun _ _ od h => tight_od od h) _ h).congr ?_
  ext d
  simp only [tried, Set.empty_union, Set.mem_ofPred_eq, Set.mem_iUnion, exists_prop]
  constructor
  · rintro ⟨hod, hallowed, hrdw, hvdw, hrange⟩
    refine ⟨d.od, ?_, rfl, hallowed, hrdw, hvdw, hrange⟩
    simp only [List.mem_cons, List.not_mem_nil, or_false]
    omega
  · rintro ⟨od, hod, rfl, hallowed, hrdw, hvdw, hrange⟩
    simp only [List.mem_cons, List.not_mem_nil, or_false] at hod
    exact ⟨by omega, hallowed, hrdw, hvdw, hrange⟩

/-- Below half the range of an `unsigned long` the margins do not wrap. -/
theorem start_eq (hrate : rate < 2 ^ 31) :
    (start rate).low = rate - rate / 10 ∧ (start rate).hi = rate + rate / 10 := by
  have hle : rate / 10 ≤ rate := Nat.div_le_self rate 10
  refine ⟨?_, Nat.mod_eq_of_lt (by omega)⟩
  show (rate + 2 ^ 32 - rate / 10) % 2 ^ 32 = _
  omega

/-- The search of the whole routine. -/
theorem tight_search (hrate : rate < 2 ^ 31) :
    Tight rate {d | Candidate rate d} ((start rate).odLoop rate) := by
  obtain ⟨hlow, hhi⟩ := start_eq hrate
  refine tight_odLoop ?_
  have hinitial : Tight rate ∅ (start rate) :=
    .initial (by rw [hlow]; omega) (by rw [hhi]; omega) (by rw [hlow, hhi]; omega)
  exact hinitial

theorem best_eq (hrate : rate < 2 ^ 31) (h : Tight rate seen s) :
    s.best rate = Brackets.nearer rate s.view := by
  obtain ⟨_, hhi⟩ := start_eq hrate
  have hle : s.low ≤ rate := h.low_le
  have hge : rate ≤ s.hi := h.le_hi
  have hanti : s.hi ≤ (start rate).hi := h.hi_anti
  have hsub (a b : ℕ) (hab : b ≤ a) (ha : a < 2 ^ 32) : ulongSub a b = a - b := by
    simp only [ulongSub, ulong]
    omega
  unfold best Brackets.nearer
  rw [hsub _ _ hge (by omega), hsub _ _ hle (by omega)]
  rfl

end ClockSearch

/-! ## The word -/

/-- The output divider of a code. -/
def odOfCode : ℕ → Option ℕ
  | 0x11 => some 2
  | 0x16 => some 3
  | 0x13 => some 4
  | 0x14 => some 5
  | 0x17 => some 6
  | 0x15 => some 7
  | 0x12 => some 8
  | 0x10 => some 10
  | _ => none

/-- How the chip reads a word: 7 bits, 9 bits and the code. -/
def decodeWord (clockBits : ℕ) : Option Dividers :=
  (odOfCode (clockBits / 2 ^ 16)).map fun od => ⟨od, clockBits / 2 ^ 7 % 2 ^ 9, clockBits % 2 ^ 7⟩

theorem odCode_of_od {od : ℕ} (h : 2 ≤ od ∧ od ≤ 8 ∨ od = 10) :
    ∃ code, odCode od = some code ∧ code < 2 ^ 5 ∧ odOfCode code = some od := by
  have hall : ∀ od ∈ [2, 3, 4, 5, 6, 7, 8, 10],
      ∃ code, odCode od = some code ∧ code < 2 ^ 5 ∧ odOfCode code = some od := by
    simp [odCode, odOfCode]
  exact hall od (by simp only [List.mem_cons, List.not_mem_nil, or_false]; omega)

/-- The word is read back as the dividers. -/
theorem decodeWord_clockWord {d : Dividers} {code : ℕ} (hcode : code < 2 ^ 5)
    (hod : odOfCode code = some d.od) (hvdw : d.vdw < 2 ^ 9) (hrdw : d.rdw < 2 ^ 7) :
    decodeWord (clockWord code d) = some d := by
  have hword : clockWord code d = (code * 2 ^ 9 + d.vdw) * 2 ^ 7 + d.rdw := by
    have hinner : code <<< 9 ||| d.vdw = code * 2 ^ 9 + d.vdw := by
      rw [Nat.shiftLeft_eq, Nat.mul_comm]
      exact (Nat.two_pow_add_eq_or_of_lt hvdw code).symm
    have houter : (code <<< 9 ||| d.vdw) <<< 7 ||| d.rdw = (code * 2 ^ 9 + d.vdw) * 2 ^ 7 + d.rdw := by
      rw [hinner, Nat.shiftLeft_eq, Nat.mul_comm]
      exact (Nat.two_pow_add_eq_or_of_lt hrdw _).symm
    rw [clockWord, houter, ulong]
    omega
  have hhigh : clockWord code d / 2 ^ 16 = code := by
    rw [hword]
    omega
  have hmiddle : clockWord code d / 2 ^ 7 % 2 ^ 9 = d.vdw := by
    rw [hword]
    omega
  have hlow : clockWord code d % 2 ^ 7 = d.rdw := by
    rw [hword]
    omega
  rw [decodeWord, hhigh, hmiddle, hlow, hod]
  rfl

/-! ## The routine -/

theorem getIcs30702Data_eq {data : ClockData335} (hrate : data.frequency < 2 ^ 31) :
    getIcs30702Data data = programDividers data (Brackets.nearer data.frequency
      ((start data.frequency).odLoop data.frequency).view) := by
  rw [getIcs30702Data, best_eq hrate (tight_search hrate)]

/-- A candidate can be programmed. -/
theorem programDividers_candidate {rate : ℕ} {best : Dividers} (h : Candidate rate best)
    (data : ClockData335) :
    (programDividers data best).1 = 0 ∧
      decodeWord (programDividers data best).2.clockBits = some best ∧
      (programDividers data best).2.frequency = best.clock := by
  obtain ⟨code, hcode, hlt, hback⟩ := odCode_of_od h.od
  have hrdw := h.rdw
  have hvdw := h.vdw
  rw [programDividers, hcode]
  exact ⟨rfl, decodeWord_clockWord hlt hback (by omega) (by omega), h.check_eq⟩

/-- **The nearest setting.** With a candidate within a tenth of the rate, the routine returns one
that no other candidate is closer than; with none that near, it fails. -/
theorem getIcs30702Data_closest (data : ClockData335) (hrate : data.frequency < 2 ^ 31) :
    ((∃ d, Candidate data.frequency d ∧ data.frequency - data.frequency / 10 < d.clock ∧
        d.clock < data.frequency + data.frequency / 10) →
      ∃ best, (getIcs30702Data data).1 = 0 ∧
        decodeWord (getIcs30702Data data).2.clockBits = some best ∧
        Candidate data.frequency best ∧ (getIcs30702Data data).2.frequency = best.clock ∧
        ∀ d, Candidate data.frequency d →
          Nat.dist best.clock data.frequency ≤ Nat.dist d.clock data.frequency) ∧
    ((∀ d, Candidate data.frequency d → ¬(data.frequency - data.frequency / 10 ≤ d.clock ∧
        d.clock ≤ data.frequency + data.frequency / 10)) →
      (getIcs30702Data data).1 = 1 ∧ (getIcs30702Data data).2.frequency = 0) := by
  have htight := tight_search hrate
  obtain ⟨hlow, hhi⟩ := start_eq hrate
  constructor
  · rintro ⟨d, hd, hinside⟩
    obtain ⟨hmem, hclosest, _⟩ := htight.chosen (by omega) (by omega)
      ⟨d, hd, by rw [hlow, hd.check_eq]; exact hinside.1, by rw [hhi, hd.check_eq]; exact hinside.2⟩
    have hbest : Candidate data.frequency _ := hmem
    obtain ⟨hok, hdecode, hfrequency⟩ := programDividers_candidate hbest data
    rw [getIcs30702Data_eq hrate]
    refine ⟨_, hok, hdecode, hbest, hfrequency, fun x hx => ?_⟩
    rw [← hbest.check_eq, ← hx.check_eq]
    exact hclosest x hx
  · intro hnone
    have hstart := htight.nearer_of_none (by omega) fun d hd => by
      have hcandidate : Candidate data.frequency d := hd
      rw [hlow, hhi, hcandidate.check_eq]
      exact hnone d hcandidate
    rw [getIcs30702Data_eq hrate, hstart]
    exact ⟨rfl, rfl⟩

/-- The clock of the crystal. -/
theorem getIcs30702Data_closest_inFreq :
    ∃ best, (getIcs30702Data ⟨18432000, 0⟩).1 = 0 ∧
      decodeWord (getIcs30702Data ⟨18432000, 0⟩).2.clockBits = some best ∧
      Candidate 18432000 best ∧ (getIcs30702Data ⟨18432000, 0⟩).2.frequency = best.clock ∧
      ∀ d, Candidate 18432000 d → Nat.dist best.clock 18432000 ≤ Nat.dist d.clock 18432000 :=
  (getIcs30702Data_closest ⟨18432000, 0⟩ (by decide)).1
    ⟨⟨10, 7, 1⟩, ⟨.inr rfl, by decide, by decide, by decide, by decide⟩, by decide, by decide⟩

end SerialFc
