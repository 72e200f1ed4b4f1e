import Mathlib.Data.Nat.Dist
import Mathlib.Data.Set.Lattice

/-!
# Bracketing a target from both sides

A search goes through items one by one and keeps the largest value that is not above a target and
the smallest one that is, within margins it starts from. At the end the nearer of the two is chosen.

* `Considers` — what looking at one more item may do to the bracket, ties replaced or not
* `Brackets` — the bracket is as tight as the items seen so far allow
* `Brackets.foldl` — a loop brackets all its items if one turn brackets those of the turn
* `Brackets.chosen` — the item chosen is as close to the target as any
-/

namespace SerialFc.Lib

/-- The bounds, and the items that attain them. -/
structure Bracket (ι : Type*) where
  low : Nat
  hi : Nat
  below : ι
  above : ι

section
variable {ι : Type*}

/-- The bracket `b` becomes `b'` when the item `i` is looked at. -/
inductive Considers (f : ι → Nat) (t : Nat) (i : ι) (b : Bracket ι) : Bracket ι → Prop
  | tieLow (h : f i = b.low) : Considers f t i b { b with below := i }
  | tieHi (h : f i = b.hi) (ht : t < f i) : Considers f t i b { b with above := i }
  | raise (h : b.low < f i) (ht : f i ≤ t) : Considers f t i b { b with low := f i, below := i }
  | lower (h : f i < b.hi) (ht : t < f i) : Considers f t i b { b with hi := f i, above := i }
  | keep (h : f i ≤ b.low ∨ b.hi ≤ f i ∧ t < f i) : Considers f t i b b

/-- The bracket is as tight as the items of `seen` allow, from the margins `low` and `hi` on; while
no item has attained a bound the item there is `start`. -/
structure Brackets (f : ι → Nat) (t low hi : Nat) (start : ι) (seen : Set ι) (b : Bracket ι) :
    Prop where
  low_le : b.low ≤ t
  le_hi : t ≤ b.hi
  low_mono : low ≤ b.low
  hi_anti : b.hi ≤ hi
  apart : b.low = t ∨ t < b.hi
  below : b.below = start ∧ b.low = low ∨ b.below ∈ seen ∧ f b.below = b.low
  above : b.above = start ∧ b.hi = hi ∨ b.above ∈ seen ∧ f b.above = b.hi ∧ t < b.hi
  low_bound : ∀ i ∈ seen, f i ≤ t → f i ≤ b.low
  hi_bound : ∀ i ∈ seen, t < f i → b.hi ≤ f i

namespace Brackets

variable {f : ι → Nat} {t low hi : Nat} {start : ι} {seen : Set ι} {b b' : Bracket ι}

theorem initial (hlow : low ≤ t) (hhi : t ≤ hi) (h : low = t ∨ t < hi) :
    Brackets f t low hi start ∅ ⟨low, hi, start, start⟩ where
  low_le := hlow
  le_hi := hhi
  low_mono := le_refl low
  hi_anti := le_refl hi
  apart := h
  below := .inl ⟨rfl, rfl⟩
  above := .inl ⟨rfl, rfl⟩
  low_bound _ hi := hi.elim
  hi_bound _ hi := hi.elim

theorem congr (h : Brackets f t low hi start seen b) {seen' : Set ι} (hseen : seen' = seen) :
    Brackets f t low hi start seen' b := hseen ▸ h

/-- One more item. -/
theorem considers (h : Brackets f t low hi start seen b) {i : ι} (hstep : Considers f t i b b') :
    Brackets f t low hi start (seen ∪ {i}) b' := by
  have hbelow : b.below = start ∧ b.low = low ∨ b.below ∈ seen ∪ {i} ∧ f b.below = b.low :=
    h.below.imp_right fun hb => ⟨.inl hb.1, hb.2⟩
  have habove : b.above = start ∧ b.hi = hi ∨ b.above ∈ seen ∪ {i} ∧ f b.above = b.hi ∧ t < b.hi :=
    h.above.imp_right fun hb => ⟨.inl hb.1, hb.2⟩
  have hself : i ∈ seen ∪ {i} := .inr rfl
  have hlow_le := h.low_le
  have hle_hi := h.le_hi
  have hlow_mono := h.low_mono
  have hhi_anti := h.hi_anti
  have hapart := h.apart
  -- each case moves at most one end, and the new item is inside it or outside
  cases hstep with
  | tieLow heq =>
    refine ⟨hlow_le, hle_hi, hlow_mono, hhi_anti, hapart, .inr ⟨hself, heq⟩, habove, ?_, ?_⟩
    · rintro j (hj | rfl) hle
      · exact h.low_bound j hj hle
      · exact heq.le
    · rintro j (hj | rfl) hlt
      · exact h.hi_bound j hj hlt
      · omega
  | tieHi heq ht =>
    refine ⟨hlow_le, hle_hi, hlow_mono, hhi_anti, hapart, hbelow, .inr ⟨hself, heq, heq ▸ ht⟩, ?_, ?_⟩
    · rintro j (hj | rfl) hle
      · exact h.low_bound j hj hle
      · omega
    · rintro j (hj | rfl) hlt
      · exact h.hi_bound j hj hlt
      · exact heq.ge
  | raise hlt ht =>
    refine ⟨ht, hle_hi, by dsimp only; omega, hhi_anti, ?_, .inr ⟨hself, rfl⟩, habove, ?_, ?_⟩
    · rcases hapart with heq | hhi
      · dsimp only
        omega
      · exact .inr hhi
    · rintro j (hj | rfl) hle
      · exact (h.low_bound j hj hle).trans hlt.le
      · exact le_refl _
    · rintro j (hj | rfl) hlt
      · exact h.hi_bound j hj hlt
      · omega
  | lower hlt ht =>
    refine ⟨hlow_le, ht.le, hlow_mono, by dsimp only; omega, .inr ht, hbelow, .inr ⟨hself, rfl, ht⟩, ?_, ?_⟩
    · rintro j (hj | rfl) hle
      · exact h.low_bound j hj hle
      · omega
    · rintro j (hj | rfl) hgt
      · exact hlt.le.trans (h.hi_bound j hj hgt)
      · exact le_refl _
  | keep hout =>
    refine ⟨hlow_le, hle_hi, hlow_mono, hhi_anti, hapart, hbelow, habove, ?_, ?_⟩
    · rintro j (hj | rfl) hle
      · exact h.low_bound j hj hle
      · omega
    · rintro j (hj | rfl) hgt
      · exact h.hi_bound j hj hgt
      · omega

/-- A loop whose turns see the items of `new`. -/
theorem foldl {σ β : Type*} {view : σ → Bracket ι} {g : σ → β → σ} {new : β → Set ι}
    (hg : ∀ seen s x, Brackets f t low hi start seen (view s) →
      Brackets f t low hi start (seen ∪ new x) (view (g s x)))
    (xs : List β) {s : σ} (h : Brackets f t low hi start seen (view s)) :
    Brackets f t low hi start (seen ∪ ⋃ x ∈ xs, new x) (view (xs.foldl g s)) := by
  induction xs generalizing seen s with
  | nil => simpa using h
  | cons x xs ih =>
    refine (ih (hg seen s x h)).congr ?_
    simp [Set.union_assoc]

/-- The nearer bound, the lower one if both are equally near. -/
def nearer (t : Nat) (b : Bracket ι) : ι := if b.hi - t < t - b.low then b.above else b.below

/-- With equal margins on both sides and an item strictly within them, one of the items is chosen,
and no other is closer; one above the target is chosen only if all others are further away. -/
theorem chosen (h : Brackets f t low hi start seen b) (hmargin : hi - t = t - low) (ht : t ≤ hi)
    (hinside : ∃ i ∈ seen, low < f i ∧ f i < hi) :
    nearer t b ∈ seen ∧ (∀ i ∈ seen, Nat.dist (f (nearer t b)) t ≤ Nat.dist (f i) t) ∧
      (t < f (nearer t b) → ∀ i ∈ seen, f i ≤ t → Nat.dist (f (nearer t b)) t < Nat.dist (f i) t) := by
  obtain ⟨i, hi, hbetween⟩ := hinside
  have hlow_le := h.low_le
  have hlow_mono := h.low_mono
  have hhi_anti := h.hi_anti
  have hitem := h.low_bound i hi
  have hitem' := h.hi_bound i hi
  unfold nearer
  split
  · next hnear =>
    rcases h.above with ⟨_, heq⟩ | ⟨hmem, heq, hlt⟩
    · omega
    · refine ⟨hmem, fun j hj => ?_, fun _ j hj hle => ?_⟩
      · have hj₁ := h.low_bound j hj
        have hj₂ := h.hi_bound j hj
        simp only [Nat.dist, heq]
        omega
      · have hj₁ := h.low_bound j hj hle
        simp only [Nat.dist, heq]
        omega
  · next hfar =>
    rcases h.below with ⟨_, heq⟩ | ⟨hmem, heq⟩
    · have hhi := h.apart
      omega
    · refine ⟨hmem, fun j hj => ?_, fun hgt => by omega⟩
      have hj₁ := h.low_bound j hj
      have hj₂ := h.hi_bound j hj
      simp only [Nat.dist, heq]
      omega

/-- With no item within the margins none is chosen. -/
theorem nearer_of_none (h : Brackets f t low hi start seen b) (ht : t ≤ hi)
    (hnone : ∀ i ∈ seen, ¬(low ≤ f i ∧ f i ≤ hi)) : nearer t b = start := by
  have hlow_le := h.low_le
  have hlow_mono := h.low_mono
  have hhi_anti := h.hi_anti
  unfold nearer
  split
  · rcases h.above with ⟨heq, _⟩ | ⟨hmem, heq, hlt⟩
    · exact heq
    · exact absurd ⟨by omega, by omega⟩ (hnone _ hmem)
  · rcases h.below with ⟨heq, _⟩ | ⟨hmem, heq⟩
    · exact heq
    · exact absurd ⟨by omega, by omega⟩ (hnone _ hmem)

theorem nearer_mem (h : Brackets f t low hi start seen b) : nearer t b = start ∨ nearer t b ∈ seen := by
  unfold nearer
  split
  · exact h.above.imp And.left And.left
  · exact h.below.imp And.left And.left

/-- An item above the target is chosen only if no other one is as near. -/
theorem nearer_above (h : Brackets f t low hi start seen b) (hstart : start ∉ seen)
    (hmem : nearer t b ∈ seen) (hgt : t < f (nearer t b)) :
    (∀ i ∈ seen, f i ≤ t → f (nearer t b) - t < t - f i) ∧
      ∀ i ∈ seen, t < f i → f (nearer t b) ≤ f i := by
  unfold nearer at hmem hgt ⊢
  split at hmem
  · next hnear =>
    rw [if_pos hnear] at hgt ⊢
    rcases h.above with ⟨heq, _⟩ | ⟨_, heq, _⟩
    · exact absurd (heq ▸ hmem) hstart
    · rw [heq]
      refine ⟨fun i hi hle => ?_, h.hi_bound⟩
      have hlow := h.low_bound i hi hle
      omega
  · next hfar =>
    rw [if_neg hfar] at hgt
    rcases h.below with ⟨heq, _⟩ | ⟨_, heq⟩
    · exact absurd (heq ▸ hmem) hstart
    · have hle := h.low_le
      omega

end Brackets

end

end SerialFc.Lib
