import SerialFc.Lib.Run
import Mathlib.Data.Set.Basic

/-!
# An event latch

Events of a type `ε` happen one after the other and are latched until somebody who waits is told
about them. An event that happens again before it has been told is the same event. Which events
are latched at all is chosen by a mask, and at most one can wait at a time.

* `LatchOp`, `Latch.step` — the operations and when they are possible
* `Latch.Sound` — what is latched is enabled, and nothing is latched while somebody waits
* `Latch.Balanced` — every event that was latched is told once, or was dropped, or is still there
-/

namespace SerialFc.Lib

open Classical

variable {ε : Type*}

/-- Who waits: nobody, somebody, or somebody who has been told and is about to leave. -/
inductive Waiter (ε : Type*)
  | idle
  | waiting
  | told (events : Set ε)

/-- Events that have been told and not yet reported. -/
def Waiter.held : Waiter ε → Set ε
  | .told s => s
  | .idle | .waiting => ∅

/-- A latch and its history: the events that were latched, each time some were, those that were
reported, each time somebody left, and those that were dropped. -/
structure Latch (ε : Type*) where
  enabled : Set ε
  pending : Set ε
  waiter : Waiter ε
  latched : List (Set ε)
  reports : List (Set ε)
  dropped : List (Set ε)

inductive LatchOp (ε : Type*)
  /-- Events happen. -/
  | happen (s : Set ε)
  /-- The mask is changed. -/
  | enable (s : Set ε)
  /-- Somebody comes to wait. -/
  | wait
  /-- Who waits is told that nothing has happened. -/
  | release
  /-- Who has been told leaves with the report. -/
  | finish
  /-- Who has been told leaves without it. -/
  | cancel

namespace Latch

/-- Nothing is enabled and nobody waits. -/
def off : Latch ε := ⟨∅, ∅, .idle, [], [], []⟩

/-- New events are latched, and told at once if somebody waits. -/
noncomputable def happen (s : Set ε) (l : Latch ε) : Latch ε :=
  match l.waiter with
  | .waiting =>
    if l.pending ∪ s = ∅ then l
    else { l with
      pending := ∅, waiter := .told (l.pending ∪ s), latched := l.latched ++ [s \ l.pending] }
  | _ => { l with pending := l.pending ∪ s, latched := l.latched ++ [s \ l.pending] }

def enable (s : Set ε) (l : Latch ε) : Latch ε :=
  { l with enabled := s, pending := l.pending ∩ s, dropped := l.dropped ++ [l.pending \ s] }

noncomputable def wait (l : Latch ε) : Latch ε :=
  if l.pending = ∅ then { l with waiter := .waiting }
  else { l with waiter := .told l.pending, pending := ∅ }

/-- One operation, where it is possible. -/
noncomputable def step : LatchOp ε → Latch ε → Option (Latch ε)
  | .happen s, l => if s ⊆ l.enabled then some (l.happen s) else none
  | .enable s, l => some (l.enable s)
  | .wait, l =>
    match l.waiter with
    | .idle => if l.enabled = ∅ then none else some l.wait
    | _ => none
  | .release, l =>
    match l.waiter with
    | .waiting => some { l with waiter := .told ∅ }
    | _ => none
  | .finish, l =>
    match l.waiter with
    | .told s => some { l with waiter := .idle, reports := l.reports ++ [s] }
    | _ => none
  | .cancel, l =>
    match l.waiter with
    | .told s => some { l with waiter := .idle, dropped := l.dropped ++ [s] }
    | _ => none

/-! ## What happens -/

section Happen

variable {l : Latch ε} {s : Set ε}

theorem happen_of_empty (hw : l.waiter = .waiting) (hnone : l.pending ∪ s = ∅) :
    l.happen s = l := by
  unfold happen
  rw [hw]
  exact if_pos hnone

theorem happen_of_waiting (hw : l.waiter = .waiting) (hsome : l.pending ∪ s ≠ ∅) :
    l.happen s = { l with
      pending := ∅, waiter := .told (l.pending ∪ s), latched := l.latched ++ [s \ l.pending] } := by
  unfold happen
  rw [hw]
  exact if_neg hsome

theorem happen_of_nobody (hw : l.waiter ≠ .waiting) : l.happen s = { l with
    pending := l.pending ∪ s, latched := l.latched ++ [s \ l.pending] } := by
  unfold happen
  split
  · next hwait => exact absurd hwait hw
  · rfl

end Happen

/-! ## What is latched -/

structure Sound (l : Latch ε) : Prop where
  /-- Only what is enabled is latched. -/
  enabled : l.pending ⊆ l.enabled
  /-- While somebody waits there is nothing to tell. -/
  quiet : l.waiter = .waiting → l.pending = ∅

theorem sound_off : (off : Latch ε).Sound where
  enabled := Set.empty_subset _
  quiet _ := rfl

theorem Sound.step {l l' : Latch ε} {op : LatchOp ε} (h : l.Sound) (hstep : step op l = some l') :
    l'.Sound := by
  cases op with
  | happen s =>
    simp only [Latch.step] at hstep
    split at hstep
    · next hs =>
      cases hstep
      unfold happen
      -- with a waiter the set goes to it; without one it is kept
      split
      · split
        · exact h
        · exact ⟨Set.empty_subset _, fun _ => rfl⟩
      · next hw => exact ⟨Set.union_subset h.enabled hs, fun hwait => absurd hwait hw⟩
    · cases hstep
  | enable s =>
    cases hstep
    refine ⟨Set.inter_subset_right, fun hwait => ?_⟩
    show l.pending ∩ s = ∅
    rw [h.quiet hwait, Set.empty_inter]
  | wait =>
    simp only [Latch.step] at hstep
    split at hstep
    · split at hstep
      · cases hstep
      · cases hstep
        unfold wait
        split
        · next hnone => exact ⟨h.enabled, fun _ => hnone⟩
        · exact ⟨Set.empty_subset _, fun _ => rfl⟩
    · cases hstep
  | release =>
    simp only [Latch.step] at hstep
    split at hstep
    · cases hstep
      exact ⟨h.enabled, fun hwait => by cases hwait⟩
    · cases hstep
  | finish | cancel =>
    simp only [Latch.step] at hstep
    split at hstep
    · cases hstep
      exact ⟨h.enabled, fun hwait => by cases hwait⟩
    · cases hstep

/-! ## Every event once -/

/-- How often `x` is in a set: once or not at all. -/
noncomputable def once (x : ε) (s : Set ε) : Nat := if x ∈ s then 1 else 0

theorem once_empty (x : ε) : once x ∅ = 0 := if_neg (Set.notMem_empty x)

theorem once_union (x : ε) (s t : Set ε) : once x (s ∪ t) = once x s + once x (t \ s) := by
  unfold once
  by_cases hs : x ∈ s <;> by_cases ht : x ∈ t <;> simp [hs, ht]

theorem once_inter_add_once_diff (x : ε) (s t : Set ε) :
    once x (s ∩ t) + once x (s \ t) = once x s := by
  unfold once
  by_cases hs : x ∈ s <;> by_cases ht : x ∈ t <;> simp [hs, ht]

/-- In how many of the sets `x` is. -/
noncomputable def times (x : ε) : List (Set ε) → Nat
  | [] => 0
  | s :: l => once x s + times x l

theorem times_nil (x : ε) : times x [] = 0 := rfl

theorem times_snoc (x : ε) (l : List (Set ε)) (s : Set ε) :
    times x (l ++ [s]) = times x l + once x s := by
  induction l with
  | nil => exact Nat.add_comm _ _
  | cons t l ih =>
    show once x t + times x (l ++ [s]) = once x t + times x l + once x s
    rw [ih, Nat.add_assoc]

/-- Each time `x` was latched, it was reported once, or dropped, or it is still there. -/
def Balanced (l : Latch ε) : Prop :=
  ∀ x, times x l.latched =
    times x l.reports + times x l.dropped + once x l.pending + once x l.waiter.held

theorem balanced_off : (off : Latch ε).Balanced := by
  intro x
  simp [off, times_nil, once_empty, Waiter.held]

theorem Balanced.happen {l : Latch ε} (h : l.Balanced) (hs : l.Sound) (s : Set ε) :
    (l.happen s).Balanced := by
  intro x
  have hx := h x
  have hunion := once_union x l.pending s
  unfold Latch.happen
  split
  · next hw =>
    split
    · exact hx
    · rw [hw, hs.quiet hw] at hx
      rw [hs.quiet hw] at hunion
      simp only [times_snoc, hs.quiet hw, Waiter.held, once_empty] at hx hunion ⊢
      omega
  · simp only [times_snoc]
    omega

theorem Balanced.step {l l' : Latch ε} {op : LatchOp ε} (h : l.Balanced) (hs : l.Sound)
    (hstep : step op l = some l') : l'.Balanced := by
  cases op with
  | happen s =>
    simp only [Latch.step] at hstep
    split at hstep
    · cases hstep
      exact h.happen hs s
    · cases hstep
  | enable s =>
    cases hstep
    -- what was pending and is no longer enabled is dropped
    intro x
    have hx := h x
    have hcut := once_inter_add_once_diff x l.pending s
    simp only [enable, times_snoc]
    omega
  | wait =>
    simp only [Latch.step] at hstep
    split at hstep
    · next hw =>
      split at hstep
      · cases hstep
      · cases hstep
        -- a waiter that finds something pending takes it along
        intro x
        have hx := h x
        rw [hw] at hx
        unfold wait
        split
        · exact hx
        · simp only [Waiter.held, once_empty] at hx ⊢
          omega
    · cases hstep
  | release =>
    simp only [Latch.step] at hstep
    split at hstep
    · next hw =>
      cases hstep
      intro x
      have hx := h x
      rw [hw] at hx
      exact hx
    · cases hstep
  | finish | cancel =>
    simp only [Latch.step] at hstep
    split at hstep
    · next s hw =>
      cases hstep
      intro x
      have hx := h x
      -- the set moves from the waiter to the reports or the dropped ones
      rw [hw] at hx
      simp only [Waiter.held, times_snoc, once_empty] at hx ⊢
      omega
    · cases hstep

/-- **Every event once.** In every run of a latch that was off at first. -/
theorem balanced_run {ops : List (LatchOp ε)} {l : Latch ε} (hrun : run step ops off = some l) :
    l.Sound ∧ l.Balanced := by
  have hstep (op : LatchOp ε) (l l' : Latch ε) (hop : step op l = some l')
      (h : l.Sound ∧ l.Balanced) : l'.Sound ∧ l'.Balanced :=
    ⟨h.1.step hop, h.2.step h.1 hop⟩
  exact @run_invariant _ _ step off l ops (fun l => l.Sound ∧ l.Balanced) hstep hrun
    ⟨sound_off, balanced_off⟩

end Latch

end SerialFc.Lib
