import Mathlib.Logic.Relation
import Mathlib.Data.Option.Basic

/-!
# Runs of a labelled step function

A system is a partial step function `step : Label → State → Option State`. A run fires a list of
labels; it is defined only if every label is enabled where it is fired.

* `run_invariant` — what one step keeps, a whole run keeps
* `run_invariant_of_meets` — the same when only the steps that meet a condition keep it
-/

namespace SerialFc.Lib

variable {Label State : Type*} (step : Label → State → Option State)

/-- Fires the labels from left to right. -/
def run : List Label → State → Option State
  | [], s => some s
  | l :: ls, s => (step l s).bind (run ls)

/-- Every step of the run from `s` meets `ok`. -/
def RunMeets (ok : Label → State → Prop) : List Label → State → Prop
  | [], _ => True
  | l :: ls, s => ok l s ∧ ∀ s', step l s = some s' → RunMeets ok ls s'

variable {step} {s s' : State} {l : Label} {ls ks : List Label}

instance {ok : Label → State → Prop} [∀ l s, Decidable (ok l s)] :
    ∀ ls s, Decidable (RunMeets step ok ls s)
  | [], _ => isTrue trivial
  | l :: ls, s =>
    have hrest : Decidable (∀ s', step l s = some s' → RunMeets step ok ls s') :=
      match step l s with
      | none => isTrue fun _ h => nomatch h
      | some t =>
        match instDecidableRunMeets ls t with
        | isTrue h => isTrue fun _ hs => by cases hs; exact h
        | isFalse h => isFalse fun hall => h (hall t rfl)
    instDecidableAnd

@[simp] theorem run_nil : run step [] s = some s := rfl

theorem run_cons_eq_some :
    run step (l :: ls) s = some s' ↔ ∃ t, step l s = some t ∧ run step ls t = some s' :=
  Option.bind_eq_some_iff

theorem run_append :
    run step (ls ++ ks) s = (run step ls s).bind (run step ks) := by
  induction ls generalizing s with
  | nil => rfl
  | cons l ls ih =>
    show (step l s).bind (run step (ls ++ ks)) = ((step l s).bind (run step ls)).bind (run step ks)
    cases h : step l s with
    | none => rfl
    | some t => exact ih

/-- **Run rule.** An invariant of every step is an invariant of every run. -/
theorem run_invariant {Inv : State → Prop}
    (hstep : ∀ l s s', step l s = some s' → Inv s → Inv s')
    (hrun : run step ls s = some s') (hs : Inv s) : Inv s' := by
  induction ls generalizing s with
  | nil => cases hrun; exact hs
  | cons l ls ih =>
    obtain ⟨t, ht, hrest⟩ := run_cons_eq_some.mp hrun
    exact ih hrest (hstep l s t ht hs)

/-- **Run rule under a condition.** Steps that meet `ok` keep `Inv`; so does a run of them. -/
theorem run_invariant_of_meets {Inv : State → Prop} {ok : Label → State → Prop}
    (hstep : ∀ l s s', step l s = some s' → ok l s → Inv s → Inv s')
    (hrun : run step ls s = some s') (hok : RunMeets step ok ls s) (hs : Inv s) : Inv s' := by
  induction ls generalizing s with
  | nil => cases hrun; exact hs
  | cons l ls ih =>
    obtain ⟨t, ht, hrest⟩ := run_cons_eq_some.mp hrun
    exact ih hrest (hok.2 t ht) (hstep l s t ht hok.1 hs)

/-- A weaker condition. -/
theorem RunMeets.mono {ok ok' : Label → State → Prop} (himp : ∀ l s, ok l s → ok' l s)
    (h : RunMeets step ok ls s) : RunMeets step ok' ls s := by
  induction ls generalizing s with
  | nil => trivial
  | cons l ls ih => exact ⟨himp l s h.1, fun s' hs => ih (h.2 s' hs)⟩

/-- A condition on the labels alone. -/
theorem RunMeets.of_forall {ok : Label → Prop} (h : ∀ l ∈ ls, ok l) :
    RunMeets step (fun l _ => ok l) ls s := by
  induction ls generalizing s with
  | nil => trivial
  | cons l ls ih =>
    exact ⟨h l List.mem_cons_self, fun s' _ => ih fun k hk => h k (List.mem_cons_of_mem l hk)⟩

/-- What comes after a run meets the condition if the whole does. -/
theorem RunMeets.append_right {ok : Label → State → Prop} (h : RunMeets step ok (ls ++ ks) s)
    (hrun : run step ls s = some s') : RunMeets step ok ks s' := by
  induction ls generalizing s with
  | nil => cases hrun; exact h
  | cons l ls ih =>
    obtain ⟨t, ht, hrest⟩ := run_cons_eq_some.mp hrun
    exact ih (h.2 t ht) hrest

/-- A condition keeps an invariant, with which it gives another condition. -/
theorem RunMeets.of_invariant {Inv : State → Prop} {ok ok' : Label → State → Prop}
    (hstep : ∀ l s s', step l s = some s' → ok l s → Inv s → Inv s')
    (himp : ∀ l s, ok l s → Inv s → ok' l s) (h : RunMeets step ok ls s) (hs : Inv s) :
    RunMeets step ok' ls s := by
  induction ls generalizing s with
  | nil => trivial
  | cons l ls ih =>
    refine ⟨himp l s h.1 hs, fun s' hs' => ?_⟩
    exact ih (h.2 s' hs') (hstep l s s' hs' h.1 hs)

/-- Two conditions that agree wherever an invariant holds are met by the same runs. -/
theorem runMeets_congr {Inv : State → Prop} {ok ok' : Label → State → Prop}
    (hstep : ∀ l s s', step l s = some s' → Inv s → Inv s')
    (hiff : ∀ l s, Inv s → (ok l s ↔ ok' l s)) (hs : Inv s) :
    RunMeets step ok ls s ↔ RunMeets step ok' ls s := by
  induction ls generalizing s with
  | nil => exact Iff.rfl
  | cons l ls ih =>
    refine and_congr (hiff l s hs) (forall_congr' fun s' => ?_)
    refine forall_congr' fun h => ?_
    exact ih (hstep l s s' h hs)

/-- States that look the same, and go on to look the same, have runs that do. -/
theorem run_map_congr {Seen : Type _} {see : State → Seen}
    (hstep : ∀ l s t, see s = see t → (step l s).map see = (step l t).map see) {t : State}
    (h : see s = see t) : (run step ls s).map see = (run step ls t).map see := by
  induction ls generalizing s t with
  | nil => exact congrArg some h
  | cons l ls ih =>
    have hl := hstep l s t h
    show ((step l s).bind (run step ls)).map see = ((step l t).bind (run step ls)).map see
    cases hs : step l s with
    | none =>
      rw [hs, Option.map_none, eq_comm, Option.map_eq_none_iff] at hl
      rw [hl]
    | some s' =>
      rw [hs, Option.map_some, eq_comm, Option.map_eq_some_iff] at hl
      obtain ⟨t', ht, hsee⟩ := hl
      rw [ht]
      exact ih hsee.symm

end SerialFc.Lib
