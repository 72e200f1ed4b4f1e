import Mathlib.Data.List.Basic

/-!
# Taking turns

Numbers are handed out in increasing order to those who come. Who has come waits, or has been
started, or went away; `fresh` is the number of the next one.

* `Turns.Next` — some have been started, some have come, some have gone away
* `Turns.InOrder` — they were started in the order in which they came, and nobody who waits has come
  before one of them
* `Turns.Next.started_after` — when nobody waits, only those are started who come later
-/

namespace SerialFc.Lib

structure Turns where
  started : List Nat
  waiting : List Nat
  fresh : Nat
  deriving DecidableEq, Repr

namespace Turns

variable {t t' t'' : Turns}

/-- Who was started, in that order, then who waits. -/
def line (t : Turns) : List Nat := t.started ++ t.waiting

structure Next (t t' : Turns) : Prop where
  started : t.started <+: t'.started
  /-- `l` have come in the meantime. -/
  line : ∃ l, t'.line.Sublist (t.line ++ l) ∧ l.Pairwise (· < ·) ∧
    ∀ i ∈ l, t.fresh ≤ i ∧ i < t'.fresh
  fresh : t.fresh ≤ t'.fresh

namespace Next

/-- Nobody has come. -/
theorem of_sublist (hstarted : t.started <+: t'.started) (hline : t'.line.Sublist t.line)
    (hfresh : t.fresh ≤ t'.fresh) : Next t t' where
  started := hstarted
  line := ⟨[], by simpa using hline, List.Pairwise.nil, by simp⟩
  fresh := hfresh

theorem refl (t : Turns) : Next t t :=
  of_sublist (List.prefix_refl _) (List.Sublist.refl _) (Nat.le_refl _)

theorem trans (h : Next t t') (h' : Next t' t'') : Next t t'' := by
  obtain ⟨l, hline, hsorted, hnew⟩ := h.line
  obtain ⟨l', hline', hsorted', hnew'⟩ := h'.line
  refine ⟨h.started.trans h'.started, ⟨l ++ l', ?_, ?_, ?_⟩, Nat.le_trans h.fresh h'.fresh⟩
  · rw [← List.append_assoc]
    exact hline'.trans (hline.append_right l')
  · rw [List.pairwise_append]
    refine ⟨hsorted, hsorted', ?_⟩
    intro i hi j hj
    have hlast := (hnew i hi).2
    have hfirst := (hnew' j hj).1
    omega
  · intro i hi
    have hfresh := h.fresh
    have hfresh' := h'.fresh
    rcases List.mem_append.mp hi with hi | hi
    · have hbounds := hnew i hi
      omega
    · have hbounds := hnew' i hi
      omega

/-- Somebody comes and waits. -/
theorem join (t : Turns) :
    Next t { t with waiting := t.waiting ++ [t.fresh], fresh := t.fresh + 1 } where
  started := List.prefix_refl _
  line := ⟨[t.fresh], by simp [Turns.line], by simp, by simp⟩
  fresh := Nat.le_succ _

/-- Somebody comes when nobody waits, and is started at once. -/
theorem begin (hempty : t.waiting = []) :
    Next t { t with started := t.started ++ [t.fresh], fresh := t.fresh + 1 } where
  started := List.prefix_append _ _
  line := ⟨[t.fresh], by simp [Turns.line, hempty], by simp, by simp⟩
  fresh := Nat.le_succ _

/-- The first of those who wait is started. -/
theorem take {i : Nat} {rest : List Nat} (hwaiting : t.waiting = i :: rest) :
    Next t { t with started := t.started ++ [i], waiting := rest } :=
  of_sublist (List.prefix_append _ _) (by simp [Turns.line, hwaiting]) (Nat.le_refl _)

end Next

structure InOrder (t : Turns) : Prop where
  sorted : t.line.Pairwise (· < ·)
  old : ∀ i ∈ t.line, i < t.fresh

theorem InOrder.next (h : t.InOrder) (hnext : Next t t') : t'.InOrder := by
  obtain ⟨l, hline, hsorted, hnew⟩ := hnext.line
  have hfresh := hnext.fresh
  constructor
  · refine List.Pairwise.sublist hline ?_
    rw [List.pairwise_append]
    refine ⟨h.sorted, hsorted, ?_⟩
    intro i hi j hj
    have hi := h.old i hi
    have hj := (hnew j hj).1
    omega
  · intro i hi
    rcases List.mem_append.mp (hline.subset hi) with hi | hi
    · have hi := h.old i hi
      omega
    · exact (hnew i hi).2

/-- **Nobody overtakes.** When nobody waits, only those are started, and only those wait, who come
later. -/
theorem Next.started_after (h : t.InOrder) (hempty : t.waiting = []) (hnext : Next t t') :
    (∃ l, t'.started = t.started ++ l ∧ ∀ i ∈ l, t.fresh ≤ i) ∧ ∀ i ∈ t'.waiting, t.fresh ≤ i := by
  obtain ⟨l, hl⟩ := hnext.started
  obtain ⟨new, hline, _, hnew⟩ := hnext.line
  have hsorted := (h.next hnext).sorted
  have hline' : t'.line = t.started ++ (l ++ t'.waiting) := by
    rw [Turns.line, ← hl, List.append_assoc]
  -- whoever is in the line again would be in it twice
  have hlater : ∀ i ∈ l ++ t'.waiting, t.fresh ≤ i := by
    intro i hi
    have hmem : i ∈ t.line ++ new := by
      refine hline.subset ?_
      rw [hline']
      exact List.mem_append_right _ hi
    rcases List.mem_append.mp hmem with hold | hi'
    · rw [Turns.line, hempty, List.append_nil] at hold
      rw [hline', List.pairwise_append] at hsorted
      exact absurd (hsorted.2.2 i hold i hi) (Nat.lt_irrefl i)
    · exact (hnew i hi').1
  refine ⟨⟨l, hl.symm, ?_⟩, ?_⟩
  · intro i hi
    exact hlater i (List.mem_append_left _ hi)
  · intro i hi
    exact hlater i (List.mem_append_right _ hi)

end Turns

end SerialFc.Lib
