import SerialFc.Lib.Run
import Mathlib.Data.List.Forall2

/-!
# Simulation of runs

A concrete system is simulated by an abstract one if each of its steps is matched by a few abstract
steps, of a kind that its label permits. Then each of its runs is matched by an abstract run that
is put together from what matches its steps.

* `run_simulated` — simulation of steps gives simulation of runs
-/

namespace SerialFc.Lib

variable {Label State Op Abs : Type*} {step : Label → State → Option State}
  {apply : Op → Abs → Option Abs}

/-- From `a`, operations that `may` permits lead to a state related by `R` to the concrete one. -/
def Matched (apply : Op → Abs → Option Abs) (may : Op → Prop) (R : Abs → Prop) (a : Abs) : Prop :=
  ∃ ops b, (∀ op ∈ ops, may op) ∧ run apply ops a = some b ∧ R b

namespace Matched

variable {may : Op → Prop} {R R' : Abs → Prop} {a : Abs}

/-- Nothing has to be done. -/
theorem none (h : R a) : Matched apply may R a := by
  refine ⟨[], a, fun op hop => ?_, rfl, h⟩
  cases hop

theorem one {op : Op} {b : Abs} (hmay : may op) (hop : apply op a = some b) (h : R b) :
    Matched apply may R a := by
  refine ⟨[op], b, fun op' hop' => ?_, ?_, h⟩
  · rw [List.mem_singleton.mp hop']
    exact hmay
  · exact run_cons_eq_some.mpr ⟨b, hop, rfl⟩

theorem trans (h : Matched apply may R a) (h' : ∀ b, R b → Matched apply may R' b) :
    Matched apply may R' a := by
  obtain ⟨ops, b, hmay, hrun, hb⟩ := h
  obtain ⟨ops', c, hmay', hrun', hc⟩ := h' b hb
  refine ⟨ops ++ ops', c, fun op hop => ?_, ?_, hc⟩
  · rcases List.mem_append.mp hop with hop | hop
    · exact hmay op hop
    · exact hmay' op hop
  · rw [run_append, hrun]
    exact hrun'

theorem mono {may' : Op → Prop} (h : Matched apply may R a) (hmay : ∀ op, may op → may' op)
    (hR : ∀ b, R b → R' b) : Matched apply may' R' a := by
  obtain ⟨ops, b, hops, hrun, hb⟩ := h
  exact ⟨ops, b, fun op hop => hmay op (hops op hop), hrun, hR b hb⟩

end Matched

/-- **Simulation of runs.** The abstract run is cut into the pieces that match the steps. -/
theorem run_simulated {may : Label → Op → Prop} {R : State → Abs → Prop}
    (hstep : ∀ l s s' a, step l s = some s' → R s a → Matched apply (may l) (R s') a)
    {ls : List Label} {s s' : State} {a : Abs} (hrun : run step ls s = some s') (ha : R s a) :
    ∃ pieces b, List.Forall₂ (fun l ops => ∀ op ∈ ops, may l op) ls pieces ∧
      run apply pieces.flatten a = some b ∧ R s' b := by
  induction ls generalizing s a with
  | nil =>
    cases hrun
    exact ⟨[], a, List.Forall₂.nil, rfl, ha⟩
  | cons l ls ih =>
    obtain ⟨t, ht, hrest⟩ := run_cons_eq_some.mp hrun
    obtain ⟨ops, b, hmay, hops, hb⟩ := hstep l s t a ht ha
    obtain ⟨pieces, c, hpieces, hflat, hc⟩ := ih hrest hb
    refine ⟨ops :: pieces, c, List.Forall₂.cons hmay hpieces, ?_, hc⟩
    rw [List.flatten_cons, run_append, hops]
    exact hflat

end SerialFc.Lib
