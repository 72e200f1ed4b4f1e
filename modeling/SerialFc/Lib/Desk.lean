import Mathlib.Logic.Relation
import Mathlib.Logic.Function.Basic
import Mathlib.Algebra.BigOperators.Fin

/-!
# Desks with queues

Jobs come to desks. Some desks have a queue: a job that comes while its queue is idle is taken at
once, any other one waits and is fetched when the job before it has left the desk. A job may leave
its desk for another desk before it is done.

* `DeskPlan` — which desk a queue is for, what a job is known by, and what it weighs
* `DeskPlan.Does`, `DeskPlan.Course` — one move, and moves one after the other
* `DeskPlan.Fed` — nobody waits before an empty desk
* `DeskPlan.Unused` — nobody ever waits
* `DeskPlan.Does.leaves` — who joins a queue has just come
* `DeskPlan.Ordered` — who came first is first
* `DeskPlan.Balanced` — a count that is changed at every move is the weight of what is there
-/

namespace SerialFc.Lib

variable {Slot Queue Job : Type*}

/-- The jobs that wait in a queue. A queue that does not accept turns jobs away, and nothing can be
fetched from one that is not started. -/
structure Line (Job : Type*) where
  waiting : List Job
  accepting : Bool
  started : Bool

/-- `withdrawn` are the jobs that were taken out of a queue, `lost` those whose desk was given to
another job. `count` is the sum somebody keeps, `fresh` the number of the next job. -/
structure Desk (Slot Queue Job : Type*) where
  slot : Slot → Option Job
  line : Queue → Line Job
  withdrawn : List Job
  lost : List Job
  done : List Job
  count : Int
  fresh : Nat

namespace Desk

variable (d : Desk Slot Queue Job)

def put [DecidableEq Slot] (s : Slot) (v : Option Job) : Desk Slot Queue Job :=
  { d with slot := Function.update d.slot s v }

def putLine [DecidableEq Queue] (q : Queue) (l : Line Job) : Desk Slot Queue Job :=
  { d with line := Function.update d.line q l }

/-- A new job of weight `n` has come. -/
def come (n : Int) : Desk Slot Queue Job := { d with count := d.count + n, fresh := d.fresh + 1 }

/-- A job of weight `n` is done. -/
def leave (j : Job) (n : Int) : Desk Slot Queue Job :=
  { d with done := d.done ++ [j], count := d.count - n }

@[grind =] theorem slot_put [DecidableEq Slot] (s t : Slot) (v : Option Job) :
    (d.put s v).slot t = if t = s then v else d.slot t := Function.update_apply ..

@[grind =] theorem line_put [DecidableEq Slot] (s : Slot) (v : Option Job) (q : Queue) :
    (d.put s v).line q = d.line q := rfl

@[grind =] theorem lost_put [DecidableEq Slot] (s : Slot) (v : Option Job) :
    (d.put s v).lost = d.lost := rfl

@[grind =] theorem fresh_put [DecidableEq Slot] (s : Slot) (v : Option Job) :
    (d.put s v).fresh = d.fresh := rfl

@[grind =] theorem line_putLine [DecidableEq Queue] (q r : Queue) (l : Line Job) :
    (d.putLine q l).line r = if r = q then l else d.line r := Function.update_apply ..

@[grind =] theorem slot_putLine [DecidableEq Queue] (q : Queue) (l : Line Job) (s : Slot) :
    (d.putLine q l).slot s = d.slot s := rfl

@[grind =] theorem lost_putLine [DecidableEq Queue] (q : Queue) (l : Line Job) :
    (d.putLine q l).lost = d.lost := rfl

@[grind =] theorem fresh_putLine [DecidableEq Queue] (q : Queue) (l : Line Job) :
    (d.putLine q l).fresh = d.fresh := rfl

/-- The job is at a desk or has lost it. -/
def Owned (j : Job) : Prop := (∃ s, d.slot s = some j) ∨ j ∈ d.lost

end Desk

/-- What the desks, the queues and the jobs are to one another. -/
structure DeskPlan (Slot Queue Job : Type*) where
  /-- The desk that a queue is for. -/
  home : Queue → Slot
  number : Job → Nat
  /-- The queue that the job was fetched from. -/
  origin : Job → Option Queue
  fetched : Queue → Job → Job
  weight : Job → Int
  /-- Is what lies on the desk part of the count? -/
  counted : Slot → Bool
  /-- The jobs that may leave the desk of a queue for another one. -/
  movable : Queue → Slot → Job → Prop
  home_injective : Function.Injective home
  origin_fetched : ∀ q j, origin (fetched q j) = some q
  number_fetched : ∀ q j, number (fetched q j) = number j
  weight_fetched : ∀ q j, weight (fetched q j) = weight j
  counted_home : ∀ q, counted (home q) = true
  not_counted : ∀ q t j, movable q t j → counted t = false
  movable_fetched : ∀ q q' t j, movable q t (fetched q' j) → movable q t j

inductive DeskOp (Slot Queue Job : Type*)
  /-- A new job is turned away. -/
  | refuse (j : Job)
  /-- A new job is taken at once. -/
  | start (q : Queue) (j : Job)
  /-- A new job waits. -/
  | wait (q : Queue) (j : Job)
  /-- A new job takes a desk without a queue. -/
  | occupy (s : Slot) (j : Job)
  /-- The job is done and the next one is fetched. -/
  | next (q : Queue)
  /-- The job of a desk without a queue is done. -/
  | finish (s : Slot)
  /-- The job leaves for desk `t` and the next one is fetched. -/
  | shift (q : Queue) (t : Slot)
  /-- Everybody who waits is sent away. -/
  | purge (q : Queue)
  | reopen (q : Queue)
  | stop (q : Queue)
  /-- Who waits in place `i` goes away. -/
  | withdraw (q : Queue) (i : Nat)
  /-- The job in place `i` of those withdrawn is given back. -/
  | give (i : Nat)

/-- The moves by which a job comes to a desk or a queue. -/
def DeskOp.admits : DeskOp Slot Queue Job → Bool
  | .start _ _ | .wait _ _ | .occupy _ _ => true
  | _ => false

/-- Changing one summand of a sum over all indices. -/
theorem sum_change {ι β : Type*} [Fintype ι] [DecidableEq ι] (f : ι → β) (g : ι → β → Int) (a : ι)
    (v : β) : ∑ i, g i (Function.update f a v i) = ∑ i, g i (f i) - g a (f a) + g a v := by
  have hrest : ∀ i ∈ Finset.univ.erase a, g i (Function.update f a v i) = g i (f i) := by
    intro i hi
    rw [Function.update_of_ne (Finset.ne_of_mem_erase hi)]
  rw [← Finset.add_sum_erase _ _ (Finset.mem_univ a),
    ← Finset.add_sum_erase _ (fun i => g i (f i)) (Finset.mem_univ a),
    Finset.sum_congr rfl hrest, Function.update_self]
  omega

namespace DeskPlan

variable [DecidableEq Slot] [DecidableEq Queue] (P : DeskPlan Slot Queue Job)
  {d d' : Desk Slot Queue Job} {op : DeskOp Slot Queue Job} {q : Queue}

/-- Nobody waits, and nobody who was fetched from the queue is still there. -/
def Idle (q : Queue) (d : Desk Slot Queue Job) : Prop :=
  (d.line q).waiting = [] ∧ (∀ j, d.Owned j → P.origin j ≠ some q) ∧ d.slot (P.home q) = none

/-- The desk gets the first job of its queue, or stays empty. -/
def fetch (q : Queue) (d : Desk Slot Queue Job) : Desk Slot Queue Job :=
  match (d.line q).started, (d.line q).waiting with
  | true, j :: rest =>
    (d.putLine q { d.line q with waiting := rest }).put (P.home q) (some (P.fetched q j))
  | _, _ => d.put (P.home q) none

/-- A job that comes to the desks. -/
def New (j : Job) (d : Desk Slot Queue Job) : Prop :=
  P.number j = d.fresh ∧ P.origin j = none

/-- One move. -/
def Does (op : DeskOp Slot Queue Job) (d d' : Desk Slot Queue Job) : Prop :=
  match op with
  | .refuse j => P.New j d ∧ d' = (d.leave j 0).come 0
  | .start q j =>
    P.New j d ∧ P.Idle q d ∧ d' = (d.put (P.home q) (some j)).come (P.weight j)
  | .wait q j =>
    P.New j d ∧ ¬P.Idle q d ∧ (d.line q).accepting = true ∧
      d' = (d.putLine q { d.line q with waiting := (d.line q).waiting ++ [j] }).come (P.weight j)
  | .occupy s j =>
    P.New j d ∧ (∀ q, P.home q ≠ s) ∧ P.counted s = true ∧ d.slot s = none ∧
      d' = (d.put s (some j)).come (P.weight j)
  | .next q => ∃ j, d.slot (P.home q) = some j ∧ d' = (P.fetch q d).leave j (P.weight j)
  | .finish s =>
    (∀ q, P.home q ≠ s) ∧ ∃ j, d.slot s = some j ∧
      d' = (d.put s none).leave j (if P.counted s then P.weight j else 0)
  | .shift q t =>
    ∃ j, d.slot (P.home q) = some j ∧ P.movable q t j ∧
      d' = P.fetch q ({ d with
        lost := d.lost ++ (d.slot t).toList, count := d.count - P.weight j }.put t (some j))
  | .purge q =>
    d' = { d.putLine q ⟨[], false, false⟩ with withdrawn := d.withdrawn ++ (d.line q).waiting }
  | .reopen q => d' = d.putLine q { d.line q with accepting := true, started := true }
  | .stop q => d' = d.putLine q { d.line q with started := false }
  | .withdraw q i =>
    ∃ j, (d.line q).waiting[i]? = some j ∧
      d' = { d.putLine q { d.line q with waiting := (d.line q).waiting.eraseIdx i } with
        withdrawn := d.withdrawn ++ [j] }
  | .give i =>
    ∃ j, d.withdrawn[i]? = some j ∧
      d' = { d with withdrawn := d.withdrawn.eraseIdx i }.leave j (P.weight j)

/-- Moves of a kind, one after the other. -/
def Path (ok : DeskOp Slot Queue Job → Prop) : Desk Slot Queue Job → Desk Slot Queue Job → Prop :=
  Relation.ReflTransGen fun d d' => ∃ op, ok op ∧ P.Does op d d'

variable {P}

theorem Path.one {ok : DeskOp Slot Queue Job → Prop} (hok : ok op) (h : P.Does op d d') :
    P.Path ok d d' := Relation.ReflTransGen.single ⟨op, hok, h⟩

/-- What the moves keep, a path keeps. -/
theorem Path.keep {ok : DeskOp Slot Queue Job → Prop} {Inv : Desk Slot Queue Job → Prop}
    (hkeep : ∀ op d d', ok op → P.Does op d d' → Inv d → Inv d') (h : P.Path ok d d')
    (hd : Inv d) : Inv d' := by
  induction h with
  | refl => exact hd
  | tail _ hmove ih =>
    obtain ⟨op, hok, hdoes⟩ := hmove
    exact hkeep op _ _ hok hdoes ih

theorem Path.mono {ok ok' : DeskOp Slot Queue Job → Prop} (himp : ∀ op, ok op → ok' op)
    (h : P.Path ok d d') : P.Path ok' d d' := by
  induction h with
  | refl => exact Relation.ReflTransGen.refl
  | tail _ hmove ih =>
    obtain ⟨op, hok, hdoes⟩ := hmove
    exact ih.tail ⟨op, himp op hok, hdoes⟩

theorem Does.accepting (hdoes : P.Does op d d') (hopen : ∀ r, op ≠ .purge r) (q : Queue)
    (hq : (d.line q).accepting = true) : (d'.line q).accepting = true := by
  have hfetch (q' : Queue) (d : Desk Slot Queue Job) (hd : (d.line q).accepting = true) :
      ((P.fetch q' d).line q).accepting = true := by
    unfold fetch
    split <;> grind
  cases op with
  | refuse j => obtain ⟨_, rfl⟩ := hdoes; exact hq
  | start q' j => obtain ⟨_, _, rfl⟩ := hdoes; exact hq
  | wait q' j =>
    obtain ⟨_, _, hacc, rfl⟩ := hdoes
    show ((d.putLine q' _).line q).accepting = true
    grind
  | occupy s j => obtain ⟨_, _, _, _, rfl⟩ := hdoes; exact hq
  | next q' => obtain ⟨j, _, rfl⟩ := hdoes; exact hfetch q' d hq
  | finish s => obtain ⟨_, j, _, rfl⟩ := hdoes; exact hq
  | shift q' t => obtain ⟨j, _, _, rfl⟩ := hdoes; exact hfetch q' _ hq
  | purge q' => exact absurd rfl (hopen q')
  | reopen q' | stop q' =>
    cases hdoes
    grind
  | withdraw q' i =>
    obtain ⟨j, _, rfl⟩ := hdoes
    show ((d.putLine q' _).line q).accepting = true
    grind
  | give i => obtain ⟨j, _, rfl⟩ := hdoes; exact hq

theorem fresh_fetch (q : Queue) (d : Desk Slot Queue Job) : (P.fetch q d).fresh = d.fresh := by
  unfold fetch
  split <;> rfl

/-- No number is given out twice. -/
theorem Does.fresh_le (hdoes : P.Does op d d') : d.fresh ≤ d'.fresh := by
  cases op with
  | refuse j => obtain ⟨_, rfl⟩ := hdoes; exact Nat.le_succ _
  | start q j => obtain ⟨_, _, rfl⟩ := hdoes; exact Nat.le_succ _
  | wait q j => obtain ⟨_, _, _, rfl⟩ := hdoes; exact Nat.le_succ _
  | occupy s j => obtain ⟨_, _, _, _, rfl⟩ := hdoes; exact Nat.le_succ _
  | next q =>
    obtain ⟨j, _, rfl⟩ := hdoes
    exact Nat.le_of_eq (fresh_fetch q d).symm
  | finish s => obtain ⟨_, j, _, rfl⟩ := hdoes; exact Nat.le_refl _
  | shift q t =>
    obtain ⟨j, _, _, rfl⟩ := hdoes
    rw [fresh_fetch]
    exact Nat.le_refl _
  | purge q | reopen q | stop q => cases hdoes; exact Nat.le_refl _
  | withdraw q i => obtain ⟨j, _, rfl⟩ := hdoes; exact Nat.le_refl _
  | give i => obtain ⟨j, _, rfl⟩ := hdoes; exact Nat.le_refl _

theorem Path.fresh_le {ok : DeskOp Slot Queue Job → Prop} (h : P.Path ok d d') :
    d.fresh ≤ d'.fresh :=
  h.keep (fun _ _ _ _ hdoes hle => Nat.le_trans hle hdoes.fresh_le) (Nat.le_refl d.fresh)

variable (P) in
/-- A path at whose end no queue is closed that was open before. -/
structure Course (ok : DeskOp Slot Queue Job → Prop) (d d' : Desk Slot Queue Job) : Prop where
  path : P.Path ok d d'
  stays : ∀ q, (d.line q).accepting = true → (d'.line q).accepting = true

namespace Course

variable {ok ok' : DeskOp Slot Queue Job → Prop} {d₁ d₂ : Desk Slot Queue Job}

theorem refl (d : Desk Slot Queue Job) : P.Course ok d d := ⟨Relation.ReflTransGen.refl, fun _ => id⟩

theorem of_eq (h : d' = d) : P.Course ok d d' := by
  rw [h]
  exact refl d

theorem trans (h : P.Course ok d d₁) (h' : P.Course ok d₁ d') : P.Course ok d d' :=
  ⟨Relation.ReflTransGen.trans h.path h'.path, fun q hq => h'.stays q (h.stays q hq)⟩

theorem one (hok : ok op) (hdoes : P.Does op d d') (hopen : ∀ r, op ≠ .purge r) :
    P.Course ok d d' := ⟨Path.one hok hdoes, hdoes.accepting hopen⟩

theorem mono (himp : ∀ op, ok op → ok' op) (h : P.Course ok d d') : P.Course ok' d d' :=
  ⟨h.path.mono himp, h.stays⟩

/-- A queue is emptied, something is done, and the queue is opened again. -/
theorem clear (hok : ok (.purge q)) (hok' : ok (.reopen q)) (hpurge : P.Does (.purge q) d d₁)
    (h : P.Course ok d₁ d₂) (hreopen : P.Does (.reopen q) d₂ d') : P.Course ok d d' := by
  refine ⟨?_, fun r hr => ?_⟩
  · exact (Path.one hok hpurge).trans (h.path.trans (Path.one hok' hreopen))
  · cases hpurge
    cases hreopen
    have hkept : r ≠ q → (d₂.line r).accepting = true := fun hne => h.stays r (by grind)
    grind

end Course

/-! ## Nobody waits before an empty desk -/

omit [DecidableEq Slot] [DecidableEq Queue] in
/-- A job never moves to the desk of a queue. -/
theorem home_ne {t : Slot} {j : Job} (h : P.movable q t j) (q' : Queue) : P.home q' ≠ t := by
  rintro rfl
  have hnot := P.not_counted _ _ _ h
  rw [P.counted_home] at hnot
  cases hnot

variable (P) in
/-- Somebody waits in the queue only while its desk is taken. With it goes what is needed to keep
it: the queue is started, and what was fetched from it lies on its desk, to stay there until it is
done. -/
structure Fed (q : Queue) (d : Desk Slot Queue Job) : Prop where
  taken : d.slot (P.home q) = none → (d.line q).waiting = []
  accepts : (d.line q).accepting = true → (d.line q).started = true
  runs : (d.line q).waiting ≠ [] → (d.line q).started = true
  home : ∀ s j, d.slot s = some j → P.origin j = some q → s = P.home q
  kept : ∀ j ∈ d.lost, P.origin j ≠ some q
  fixed : ∀ s j, d.slot s = some j → ∀ t, ¬P.movable q t j
  waits : ∀ q', ∀ j ∈ (d.line q').waiting, ∀ t, ¬P.movable q t j

variable (P) in
/-- The move does not stop the queue, and brings no job that would leave its desk for another. -/
def Feeds (q : Queue) : DeskOp Slot Queue Job → Prop
  | .start _ j | .wait _ j | .occupy _ j => ∀ t, ¬P.movable q t j
  | .stop q' => q' ≠ q
  | _ => True

omit [DecidableEq Slot] [DecidableEq Queue] in
theorem Fed.congr (h : P.Fed q d) (hslot : d'.slot = d.slot) (hline : d'.line = d.line)
    (hlost : d'.lost = d.lost) : P.Fed q d' := by
  obtain ⟨htaken, haccepts, hruns, hhome, hkept, hfixed, hwaits⟩ := h
  constructor <;> simp only [hslot, hline, hlost] <;> assumption

omit [DecidableEq Queue] in
theorem Fed.place (h : P.Fed q d) {s : Slot} {j : Job}
    (hplace : P.origin j = some q → s = P.home q) (hstay : ∀ t, ¬P.movable q t j) :
    P.Fed q (d.put s (some j)) := by
  refine ⟨?_, h.accepts, h.runs, ?_, h.kept, ?_, h.waits⟩
  · intro hnone
    rw [Desk.slot_put] at hnone
    split at hnone
    · cases hnone
    · exact h.taken hnone
  · intro s' j' hj' horigin
    rw [Desk.slot_put] at hj'
    split at hj'
    · next heq =>
      cases hj'
      rw [heq, hplace horigin]
    · exact h.home s' j' hj' horigin
  · intro s' j' hj'
    rw [Desk.slot_put] at hj'
    split at hj'
    · cases hj'
      exact hstay
    · exact h.fixed s' j' hj'

omit [DecidableEq Queue] in
theorem Fed.vacate (h : P.Fed q d) {s : Slot} (hempty : P.home q = s → (d.line q).waiting = []) :
    P.Fed q (d.put s none) := by
  refine ⟨?_, h.accepts, h.runs, ?_, h.kept, ?_, h.waits⟩
  · intro hnone
    by_cases hs : P.home q = s
    · exact hempty hs
    · rw [Desk.slot_put, if_neg hs] at hnone
      exact h.taken hnone
  · intro s' j' hj' horigin
    rw [Desk.slot_put] at hj'
    split at hj'
    · cases hj'
    · exact h.home s' j' hj' horigin
  · intro s' j' hj'
    rw [Desk.slot_put] at hj'
    split at hj'
    · cases hj'
    · exact h.fixed s' j' hj'

omit [DecidableEq Slot] in
/-- What is needed of the new line of a queue. -/
theorem Fed.reline (h : P.Fed q d) {q' : Queue} {l : Line Job}
    (htaken : q = q' → d.slot (P.home q) = none → l.waiting = [])
    (haccepts : q = q' → l.accepting = true → l.started = true)
    (hruns : q = q' → l.waiting ≠ [] → l.started = true)
    (hwaits : ∀ j ∈ l.waiting, ∀ t, ¬P.movable q t j) : P.Fed q (d.putLine q' l) := by
  by_cases hq : q = q'
  · have hline : (d.putLine q' l).line q = l := by rw [Desk.line_putLine, if_pos hq]
    refine ⟨?_, ?_, ?_, h.home, h.kept, h.fixed, ?_⟩
    · rw [hline]
      exact htaken hq
    · rw [hline]
      exact haccepts hq
    · rw [hline]
      exact hruns hq
    · intro r j hj
      rw [Desk.line_putLine] at hj
      split at hj
      · exact hwaits j hj
      · exact h.waits r j hj
  · have hline : (d.putLine q' l).line q = d.line q := by rw [Desk.line_putLine, if_neg hq]
    refine ⟨?_, ?_, ?_, h.home, h.kept, h.fixed, ?_⟩
    · rw [hline]
      exact h.taken
    · rw [hline]
      exact h.accepts
    · rw [hline]
      exact h.runs
    · intro r j hj
      rw [Desk.line_putLine] at hj
      split at hj
      · exact hwaits j hj
      · exact h.waits r j hj

/-- The next one is fetched, whoever had the desk before. -/
theorem Fed.fetch (h : P.Fed q d) (q' : Queue) : P.Fed q (P.fetch q' d) := by
  unfold DeskPlan.fetch
  split
  · next j rest hstarted hwait =>
    have hmem (i : Job) (hi : i ∈ rest) : i ∈ (d.line q').waiting := by
      rw [hwait]
      exact List.mem_cons_of_mem j hi
    have hrest : P.Fed q (d.putLine q' { d.line q' with waiting := rest }) := by
      refine h.reline ?_ ?_ ?_ ?_
      · rintro rfl hnone
        rw [h.taken hnone] at hwait
        cases hwait
      · intro _ _
        exact hstarted
      · intro _ _
        exact hstarted
      · intro i hi
        exact h.waits q' i (hmem i hi)
    refine hrest.place ?_ ?_
    · intro horigin
      rw [P.origin_fetched] at horigin
      cases horigin
      rfl
    · intro t hmove
      have hj : j ∈ (d.line q').waiting := by simp [hwait]
      exact h.waits q' j hj t (P.movable_fetched _ _ _ _ hmove)
  · next hempty =>
    refine h.vacate ?_
    intro hhome
    cases P.home_injective hhome
    by_contra hsome
    obtain ⟨j, rest, hwait⟩ := List.exists_cons_of_ne_nil hsome
    exact hempty j rest (h.runs hsome) hwait

omit [DecidableEq Slot] [DecidableEq Queue] in
/-- A queue that is not idle has its desk taken: what was fetched from it lies nowhere else. -/
theorem Fed.busy (h : P.Fed q d) (hidle : ¬P.Idle q d) : d.slot (P.home q) ≠ none := by
  intro hnone
  refine hidle ⟨h.taken hnone, ?_, hnone⟩
  rintro j (⟨s, hs⟩ | hlost) horigin
  · rw [h.home s j hs horigin, hnone] at hs
    cases hs
  · exact h.kept j hlost horigin

omit [DecidableEq Slot] [DecidableEq Queue] in
theorem Fed.lose (h : P.Fed q d) {t : Slot} (ht : P.home q ≠ t) (n : Int) :
    P.Fed q { d with lost := d.lost ++ (d.slot t).toList, count := n } := by
  refine ⟨h.taken, h.accepts, h.runs, h.home, ?_, h.fixed, h.waits⟩
  intro j hj horigin
  rcases List.mem_append.mp hj with hlost | hslot
  · exact h.kept j hlost horigin
  · exact ht (h.home t j (Option.mem_toList.mp hslot) horigin).symm

theorem Fed.move (h : P.Fed q d) (hok : P.Feeds q op) (hdoes : P.Does op d d') : P.Fed q d' := by
  cases op with
  | refuse j =>
    obtain ⟨_, rfl⟩ := hdoes
    exact h.congr rfl rfl rfl
  | start q' j =>
    obtain ⟨⟨_, hnew⟩, _, rfl⟩ := hdoes
    have hput : P.Fed q (d.put (P.home q') (some j)) := h.place (by simp [hnew]) hok
    exact hput.congr rfl rfl rfl
  | wait q' j =>
    obtain ⟨_, hidle, haccepting, rfl⟩ := hdoes
    -- the four facts about a line: who is served, accepting, running, who waits
    have hjoin : P.Fed q (d.putLine q' { d.line q' with
        waiting := (d.line q').waiting ++ [j] }) := by
      refine h.reline ?_ ?_ ?_ ?_
      · rintro rfl hnone
        exact absurd hnone (h.busy hidle)
      · rintro rfl _
        exact h.accepts haccepting
      · rintro rfl _
        exact h.accepts haccepting
      · intro i hi
        rcases List.mem_append.mp hi with hwaits | hnew
        · exact h.waits q' i hwaits
        · cases List.mem_singleton.mp hnew
          exact hok
    exact hjoin.congr rfl rfl rfl
  | occupy s j =>
    obtain ⟨⟨_, hnew⟩, _, _, _, rfl⟩ := hdoes
    have hput : P.Fed q (d.put s (some j)) := h.place (by simp [hnew]) hok
    exact hput.congr rfl rfl rfl
  | next q' =>
    obtain ⟨j, _, rfl⟩ := hdoes
    exact (h.fetch q').congr rfl rfl rfl
  | finish s =>
    obtain ⟨hhomes, j, _, rfl⟩ := hdoes
    have hput : P.Fed q (d.put s none) := h.vacate fun hs => absurd hs (hhomes q)
    exact hput.congr rfl rfl rfl
  -- the one who had `t` is lost, the one at the desk moves there and the next is fetched
  | shift q' t =>
    obtain ⟨j, hj, hmove, rfl⟩ := hdoes
    refine Fed.fetch (Fed.place (h.lose (home_ne hmove q) _) ?_ ?_) q'
    · intro horigin
      cases P.home_injective (h.home _ j hj horigin)
      exact absurd hmove (h.fixed _ j hj t)
    · exact h.fixed _ j hj
  | purge q' =>
    cases hdoes
    have hnobody : P.Fed q (d.putLine q' ⟨[], false, false⟩) := by
      apply h.reline <;> simp
    exact hnobody.congr rfl rfl rfl
  | reopen q' =>
    cases hdoes
    refine h.reline ?_ (fun _ _ => rfl) (fun _ _ => rfl) (h.waits q')
    rintro rfl
    exact h.taken
  | stop q' =>
    cases hdoes
    have hne : q ≠ q' := Ne.symm hok
    exact h.reline (absurd · hne) (absurd · hne) (absurd · hne) (h.waits q')
  | withdraw q' i =>
    obtain ⟨j, _, rfl⟩ := hdoes
    have hrest : P.Fed q (d.putLine q' { d.line q' with
        waiting := (d.line q').waiting.eraseIdx i }) := by
      refine h.reline ?_ ?_ ?_ ?_
      · rintro rfl hnone
        simp [h.taken hnone]
      · rintro rfl
        exact h.accepts
      · rintro rfl hsome
        refine h.runs fun hempty => hsome ?_
        simp [hempty]
      · intro k hk
        exact h.waits q' k (List.mem_of_mem_eraseIdx hk)
    exact hrest.congr rfl rfl rfl
  | give i =>
    obtain ⟨j, _, rfl⟩ := hdoes
    exact h.congr rfl rfl rfl

/-! ## A queue that is not needed -/

variable (P) in
/-- Nobody waits in the queue, and nobody was ever fetched from it who is still there. -/
structure Unused (q : Queue) (d : Desk Slot Queue Job) : Prop where
  empty : (d.line q).waiting = []
  foreign : ∀ s j, d.slot s = some j → P.origin j ≠ some q
  kept : ∀ j ∈ d.lost, P.origin j ≠ some q

omit [DecidableEq Slot] [DecidableEq Queue] in
theorem Unused.idle (h : P.Unused q d) (hnone : d.slot (P.home q) = none) : P.Idle q d := by
  refine ⟨h.empty, fun j hj => ?_, hnone⟩
  rcases hj with ⟨s, hs⟩ | hlost
  · exact h.foreign s j hs
  · exact h.kept j hlost

omit [DecidableEq Queue] in
theorem Unused.place (h : P.Unused q d) {s : Slot} {j : Job} (hforeign : P.origin j ≠ some q) :
    P.Unused q (d.put s (some j)) := by
  refine ⟨h.empty, ?_, h.kept⟩
  intro s' j' hj'
  rw [Desk.slot_put] at hj'
  split at hj'
  · cases hj'
    exact hforeign
  · exact h.foreign s' j' hj'

omit [DecidableEq Queue] in
theorem Unused.vacate (h : P.Unused q d) (s : Slot) : P.Unused q (d.put s none) := by
  refine ⟨h.empty, ?_, h.kept⟩
  intro s' j' hj'
  rw [Desk.slot_put] at hj'
  split at hj'
  · cases hj'
  · exact h.foreign s' j' hj'

omit [DecidableEq Slot] in
theorem Unused.reline (h : P.Unused q d) {q' : Queue} {l : Line Job}
    (hempty : q = q' → l.waiting = []) : P.Unused q (d.putLine q' l) := by
  refine ⟨?_, h.foreign, h.kept⟩
  rw [Desk.line_putLine]
  split
  · next hq => exact hempty hq
  · exact h.empty

theorem Unused.fetch (h : P.Unused q d) (q' : Queue) : P.Unused q (P.fetch q' d) := by
  unfold DeskPlan.fetch
  split
  · next j rest _ hwait =>
    have hne : q ≠ q' := by
      rintro rfl
      rw [h.empty] at hwait
      cases hwait
    refine (h.reline (absurd · hne)).place ?_
    rw [P.origin_fetched]
    simpa using hne.symm
  · exact h.vacate _

theorem Unused.move (h : P.Unused q d) (hok : ∀ j, op ≠ .wait q j) (hdoes : P.Does op d d') :
    P.Unused q d' := by
  cases op with
  | refuse j =>
    obtain ⟨_, rfl⟩ := hdoes
    exact ⟨h.empty, h.foreign, h.kept⟩
  | start q' j =>
    obtain ⟨⟨_, hnew⟩, _, rfl⟩ := hdoes
    have hput : P.Unused q (d.put (P.home q') (some j)) := h.place (by simp [hnew])
    exact ⟨hput.empty, hput.foreign, hput.kept⟩
  | wait q' j =>
    obtain ⟨_, _, _, rfl⟩ := hdoes
    have hne : q ≠ q' := by
      rintro rfl
      exact hok j rfl
    have hjoin : P.Unused q (d.putLine q' { d.line q' with
        waiting := (d.line q').waiting ++ [j] }) := h.reline (absurd · hne)
    exact ⟨hjoin.empty, hjoin.foreign, hjoin.kept⟩
  | occupy s j =>
    obtain ⟨⟨_, hnew⟩, _, _, _, rfl⟩ := hdoes
    have hput : P.Unused q (d.put s (some j)) := h.place (by simp [hnew])
    exact ⟨hput.empty, hput.foreign, hput.kept⟩
  | next q' =>
    obtain ⟨j, _, rfl⟩ := hdoes
    have hfetch := h.fetch q'
    exact ⟨hfetch.empty, hfetch.foreign, hfetch.kept⟩
  | finish s =>
    obtain ⟨_, j, _, rfl⟩ := hdoes
    have hput := h.vacate s
    exact ⟨hput.empty, hput.foreign, hput.kept⟩
  | shift q' t =>
    obtain ⟨j, hj, _, rfl⟩ := hdoes
    have hlost : P.Unused q { d with
        lost := d.lost ++ (d.slot t).toList, count := d.count - P.weight j } := by
      refine ⟨h.empty, h.foreign, ?_⟩
      intro j' hj'
      rcases List.mem_append.mp hj' with hlost | hslot
      · exact h.kept j' hlost
      · exact h.foreign t j' (Option.mem_toList.mp hslot)
    exact (hlost.place (h.foreign _ j hj)).fetch q'
  | purge q' =>
    cases hdoes
    have hnobody : P.Unused q (d.putLine q' ⟨[], false, false⟩) := h.reline fun _ => rfl
    exact ⟨hnobody.empty, hnobody.foreign, hnobody.kept⟩
  | reopen q' | stop q' =>
    cases hdoes
    refine h.reline ?_
    rintro rfl
    exact h.empty
  | withdraw q' i =>
    obtain ⟨j, _, rfl⟩ := hdoes
    have hrest : P.Unused q (d.putLine q' { d.line q' with
        waiting := (d.line q').waiting.eraseIdx i }) := by
      refine h.reline ?_
      rintro rfl
      simp [h.empty]
    exact ⟨hrest.empty, hrest.foreign, hrest.kept⟩
  | give i =>
    obtain ⟨j, _, rfl⟩ := hdoes
    exact ⟨h.empty, h.foreign, h.kept⟩

/-! ## Who came first is first -/

variable (P) in
/-- Who has the desk of the queue, and who waits for it. -/
def line (q : Queue) (d : Desk Slot Queue Job) : List Nat :=
  ((d.slot (P.home q)).toList ++ (d.line q).waiting).map P.number

variable (P) in
/-- The numbers of those who have the desk or wait for it increase. -/
structure Ordered (q : Queue) (d : Desk Slot Queue Job) : Prop where
  sorted : (P.line q d).Pairwise (· < ·)
  old : ∀ n ∈ P.line q d, n < d.fresh

omit [DecidableEq Slot] [DecidableEq Queue] in
theorem Ordered.of_sublist (h : P.Ordered q d) (hline : (P.line q d').Sublist (P.line q d))
    (hfresh : d.fresh ≤ d'.fresh) : P.Ordered q d' :=
  ⟨h.sorted.sublist hline, fun n hn => (h.old n (hline.subset hn)).trans_le hfresh⟩

omit [DecidableEq Slot] [DecidableEq Queue] in
/-- Someone joins at the end. -/
theorem Ordered.join {j : Job} (h : P.Ordered q d) (hj : P.number j = d.fresh)
    (hline : P.line q d' = P.line q d ++ [P.number j]) (hfresh : d'.fresh = d.fresh + 1) :
    P.Ordered q d' := by
  refine ⟨?_, fun n hn => ?_⟩
  · rw [hline, List.pairwise_append]
    refine ⟨h.sorted, List.pairwise_singleton _ _, fun n hn m hm => ?_⟩
    rw [List.mem_singleton.mp hm, hj]
    exact h.old n hn
  · rw [hline, List.mem_append, List.mem_singleton] at hn
    rcases hn with hn | rfl
    · exact (h.old n hn).trans (by omega)
    · omega

/-- Who is fetched was the first of those who waited. -/
theorem line_fetch (q' : Queue) : (P.line q (P.fetch q' d)).Sublist (P.line q d) := by
  have hinj : P.home q = P.home q' → q = q' := fun h => P.home_injective h
  unfold line fetch
  split
  · next j rest _ hwait =>
    by_cases hq : q = q'
    · subst hq
      rw [hwait]
      simp [Desk.slot_put, Desk.line_put, Desk.line_putLine, P.number_fetched]
    · simp [Desk.slot_put, Desk.line_put, Desk.line_putLine, Desk.slot_putLine, hq, mt hinj hq]
  · rw [Desk.slot_put, Desk.line_put]
    refine List.Sublist.map _ (List.Sublist.append_right ?_ _)
    split
    · exact List.nil_sublist _
    · exact List.Sublist.refl _

omit [DecidableEq Queue] in
theorem line_put_ne {s : Slot} (hs : P.home q ≠ s) (v : Option Job) :
    P.line q (d.put s v) = P.line q d := by
  unfold line
  rw [Desk.slot_put, if_neg hs, Desk.line_put]

omit [DecidableEq Slot] in
theorem line_putLine_ne {q' : Queue} (hq : q ≠ q') (l : Line Job) :
    P.line q (d.putLine q' l) = P.line q d := by
  unfold line
  rw [Desk.line_putLine, if_neg hq, Desk.slot_putLine]

variable (P) in
/-- Some have left the queue, and nobody has joined it. -/
structure Leaves (q : Queue) (d d' : Desk Slot Queue Job) : Prop where
  waiting : (d'.line q).waiting.Sublist (d.line q).waiting
  line : (P.line q d').Sublist (P.line q d)

namespace Leaves

variable {d'' : Desk Slot Queue Job}

omit [DecidableEq Slot] [DecidableEq Queue] in
theorem of_eq (hslot : d'.slot (P.home q) = d.slot (P.home q)) (hline : d'.line q = d.line q) :
    P.Leaves q d d' where
  waiting := by rw [hline]
  line := by rw [DeskPlan.line, DeskPlan.line, hslot, hline]

omit [DecidableEq Slot] [DecidableEq Queue] in
theorem trans (h : P.Leaves q d d') (h' : P.Leaves q d' d'') : P.Leaves q d d'' where
  waiting := h'.waiting.trans h.waiting
  line := h'.line.trans h.line

omit [DecidableEq Slot] in
theorem putLine (q' : Queue) {l : Line Job} (hl : l.waiting.Sublist (d.line q').waiting) :
    P.Leaves q d (d.putLine q' l) := by
  by_cases hq : q = q'
  · subst hq
    refine ⟨?_, ?_⟩
    · rwa [Desk.line_putLine, if_pos rfl]
    · unfold DeskPlan.line
      rw [Desk.line_putLine, if_pos rfl, Desk.slot_putLine]
      exact List.Sublist.map _ (List.Sublist.append_left hl _)
  · exact .of_eq rfl (by rw [Desk.line_putLine, if_neg hq])

theorem fetch (q' : Queue) : P.Leaves q d (P.fetch q' d) where
  waiting := by
    unfold DeskPlan.fetch
    split
    · next j rest _ hwait =>
      rw [Desk.line_put, Desk.line_putLine]
      split
      · next hq =>
        rw [hq, hwait]
        exact List.sublist_cons_self j rest
      · exact List.Sublist.refl _
    · exact List.Sublist.refl _
  line := line_fetch q'

end Leaves

/-- Nobody joins a queue by any other move. -/
theorem Does.leaves (hdoes : P.Does op d d') (hop : op.admits = false) (q : Queue) :
    P.Leaves q d d' := by
  cases op with
  | start q' j => cases hop
  | wait q' j => cases hop
  | occupy s j => cases hop
  | refuse j =>
    obtain ⟨_, rfl⟩ := hdoes
    exact .of_eq rfl rfl
  | next q' =>
    obtain ⟨j, _, rfl⟩ := hdoes
    exact (Leaves.fetch q').trans (.of_eq rfl rfl)
  | finish s =>
    obtain ⟨hhomes, j, _, rfl⟩ := hdoes
    exact .of_eq ((Desk.slot_put ..).trans (if_neg (hhomes q))) rfl
  | shift q' t =>
    obtain ⟨j, _, hmove, rfl⟩ := hdoes
    refine Leaves.trans ?_ (Leaves.fetch q')
    exact .of_eq ((Desk.slot_put ..).trans (if_neg (home_ne hmove q))) rfl
  | purge q' =>
    cases hdoes
    exact (Leaves.putLine q' (List.nil_sublist _)).trans (.of_eq rfl rfl)
  | reopen q' | stop q' =>
    cases hdoes
    exact .putLine q' (List.Sublist.refl _)
  | withdraw q' i =>
    obtain ⟨j, _, rfl⟩ := hdoes
    exact (Leaves.putLine q' (List.eraseIdx_sublist _ i)).trans (.of_eq rfl rfl)
  | give i =>
    obtain ⟨j, _, rfl⟩ := hdoes
    exact .of_eq rfl rfl

theorem Path.leaves {ok : DeskOp Slot Queue Job → Prop} (h : P.Path ok d d')
    (hok : ∀ op, ok op → op.admits = false) (q : Queue) : P.Leaves q d d' :=
  h.keep (fun op _ _ hop hdoes hleaves => hleaves.trans (hdoes.leaves (hok op hop) q))
    (.of_eq rfl rfl)

theorem Ordered.move (h : P.Ordered q d) (hdoes : P.Does op d d') : P.Ordered q d' := by
  cases hop : op.admits with
  | false => exact h.of_sublist (hdoes.leaves hop q).line hdoes.fresh_le
  | true =>
    cases op with
    | start q' j =>
      obtain ⟨hnew, ⟨hempty, _, hnone⟩, rfl⟩ := hdoes
      by_cases hq : q = q'
      · subst hq
        refine h.join hnew.1 ?_ rfl
        have hbefore : P.line q d = [] := by simp [line, hempty, hnone]
        rw [hbefore]
        simp [line, Desk.come, Desk.put, hempty]
      · refine h.of_sublist ?_ (Nat.le_succ _)
        show (P.line q (d.put (P.home q') (some j))).Sublist _
        rw [line_put_ne (fun heq => hq (P.home_injective heq))]
    | wait q' j =>
      obtain ⟨hnew, _, _, rfl⟩ := hdoes
      by_cases hq : q = q'
      · subst hq
        refine h.join hnew.1 ?_ rfl
        simp [line, Desk.come, Desk.putLine]
      · refine h.of_sublist ?_ (Nat.le_succ _)
        show (P.line q (d.putLine q' _)).Sublist _
        rw [line_putLine_ne hq]
    | occupy s j =>
      obtain ⟨_, hhomes, _, _, rfl⟩ := hdoes
      refine h.of_sublist ?_ (Nat.le_succ _)
      show (P.line q (d.put s (some j))).Sublist _
      rw [line_put_ne (hhomes q)]
    | _ => cases hop

/-! ## The count -/

variable (P) in
def weigh : List Job → Int
  | [] => 0
  | j :: l => P.weight j + weigh l

omit [DecidableEq Slot] [DecidableEq Queue] in
theorem weigh_append (l l' : List Job) : P.weigh (l ++ l') = P.weigh l + P.weigh l' := by
  induction l with
  | nil => simp [weigh]
  | cons j l ih =>
    rw [List.cons_append, weigh, weigh, ih]
    omega

omit [DecidableEq Slot] [DecidableEq Queue] in
theorem weigh_eraseIdx {l : List Job} {i : Nat} {j : Job} (hj : l[i]? = some j) :
    P.weigh (l.eraseIdx i) + P.weight j = P.weigh l := by
  induction l generalizing i with
  | nil => cases hj
  | cons k l ih =>
    cases i with
    | zero =>
      cases hj
      rw [List.eraseIdx_cons_zero, weigh]
      omega
    | succ i =>
      have hrest := ih hj
      rw [List.eraseIdx_cons_succ, weigh, weigh]
      omega

variable (P) in
/-- What a desk adds to the count. -/
def held (s : Slot) (v : Option Job) : Int := if P.counted s then (v.elim 0 P.weight) else 0

omit [DecidableEq Slot] [DecidableEq Queue] in
theorem held_some {s : Slot} (hs : P.counted s = true) {v : Option Job} {j : Job}
    (hv : v = some j) : P.held s v = P.weight j := by
  unfold held
  rw [hs, hv]
  rfl

omit [DecidableEq Slot] [DecidableEq Queue] in
theorem held_none (s : Slot) {v : Option Job} (hv : v = none) : P.held s v = 0 := by
  unfold held
  rw [hv, Option.elim_none, ite_self]

omit [DecidableEq Slot] [DecidableEq Queue] in
theorem held_uncounted {s : Slot} (hs : P.counted s = false) (v : Option Job) :
    P.held s v = 0 := by
  unfold held
  rw [hs]
  rfl

theorem count_fetch (q : Queue) : (P.fetch q d).count = d.count := by
  unfold fetch
  split <;> rfl

variable [Fintype Slot] [Fintype Queue]

variable (P) in
/-- The weight of all that is there. -/
def load (d : Desk Slot Queue Job) : Int :=
  ∑ s, P.held s (d.slot s) + ∑ q, P.weigh (d.line q).waiting + P.weigh d.withdrawn

omit [DecidableEq Queue] in
theorem load_put (s : Slot) (v : Option Job) :
    P.load (d.put s v) = P.load d - P.held s (d.slot s) + P.held s v := by
  have hsum := sum_change d.slot P.held s v
  unfold load
  show ∑ t, P.held t (Function.update d.slot s v t) + ∑ q, P.weigh (d.line q).waiting
    + P.weigh d.withdrawn = _
  omega

omit [DecidableEq Slot] in
theorem load_putLine (q : Queue) (l : Line Job) :
    P.load (d.putLine q l) = P.load d - P.weigh (d.line q).waiting + P.weigh l.waiting := by
  have hsum := sum_change d.line (fun _ l => P.weigh l.waiting) q l
  unfold load
  show ∑ s, P.held s (d.slot s) + ∑ r, P.weigh (Function.update d.line q l r).waiting
    + P.weigh d.withdrawn = _
  omega

/-- What is fetched was part of the count before. -/
theorem load_fetch (q : Queue) :
    P.load (P.fetch q d) = P.load d - P.held (P.home q) (d.slot (P.home q)) := by
  unfold fetch
  split
  · next j rest _ hwait =>
    rw [load_put, load_putLine, hwait, Desk.slot_putLine]
    simp only [held, P.counted_home, if_true, Option.elim_some, P.weight_fetched, weigh]
    omega
  · rw [load_put]
    simp [held]

variable (P) in
/-- The count is the weight of all that is there. -/
def Balanced (d : Desk Slot Queue Job) : Prop := d.count = P.load d

theorem Balanced.move (h : P.Balanced d) (hdoes : P.Does op d d') : P.Balanced d' := by
  unfold Balanced at h ⊢
  cases op with
  | refuse j =>
    obtain ⟨_, rfl⟩ := hdoes
    show d.count - 0 + 0 = P.load d
    omega
  | start q' j =>
    obtain ⟨_, ⟨_, _, hnone⟩, rfl⟩ := hdoes
    show d.count + P.weight j = P.load (d.put (P.home q') (some j))
    rw [load_put, held_none _ hnone, held_some (P.counted_home q') rfl]
    omega
  | wait q' j =>
    obtain ⟨_, _, _, rfl⟩ := hdoes
    show d.count + P.weight j = P.load (d.putLine q' _)
    rw [load_putLine, weigh_append]
    simp only [weigh]
    omega
  | occupy s j =>
    obtain ⟨_, _, hs, hnone, rfl⟩ := hdoes
    show d.count + P.weight j = P.load (d.put s (some j))
    rw [load_put, held_none _ hnone, held_some hs rfl]
    omega
  | next q' =>
    obtain ⟨j, hj, rfl⟩ := hdoes
    show (P.fetch q' d).count - P.weight j = P.load (P.fetch q' d)
    rw [load_fetch, count_fetch, held_some (P.counted_home q') hj]
    omega
  | finish s =>
    obtain ⟨_, j, hj, rfl⟩ := hdoes
    show d.count - (if P.counted s then P.weight j else 0) = P.load (d.put s none)
    have hheld : P.held s (d.slot s) = if P.counted s then P.weight j else 0 := by
      unfold held
      rw [hj]
      rfl
    rw [load_put, hheld, held_none s rfl]
    omega
  -- who is moved aside counts no longer, nor did the one who was there
  | shift q' t =>
    obtain ⟨j, hj, hmove, rfl⟩ := hdoes
    have ht := P.not_counted _ _ _ hmove
    have hput := load_put (P := P) (d := d) t (some j)
    rw [held_uncounted ht, held_uncounted ht] at hput
    rw [load_fetch, count_fetch, Desk.slot_put, if_neg (home_ne hmove q'),
      held_some (P.counted_home q') hj]
    show d.count - P.weight j = P.load (d.put t (some j)) - P.weight j
    omega
  | purge q' =>
    cases hdoes
    have hput := load_putLine (P := P) (d := d) q' ⟨[], false, false⟩
    simp only [load, weigh_append, weigh] at hput h ⊢
    show d.count = _
    simp only [Desk.putLine] at hput ⊢
    omega
  | reopen q' | stop q' =>
    cases hdoes
    rw [load_putLine]
    show d.count = P.load d - P.weigh (d.line q').waiting + P.weigh (d.line q').waiting
    omega
  -- one who withdraws counts until the cancellation is delivered
  | withdraw q' i =>
    obtain ⟨j, hj, rfl⟩ := hdoes
    have hput := load_putLine (P := P) (d := d) q' { d.line q' with
      waiting := (d.line q').waiting.eraseIdx i }
    have herase := weigh_eraseIdx (P := P) hj
    simp only [load, weigh_append, weigh] at hput h ⊢
    show d.count = _
    simp only [Desk.putLine] at hput ⊢
    omega
  | give i =>
    obtain ⟨j, hj, rfl⟩ := hdoes
    have herase := weigh_eraseIdx (P := P) hj
    simp only [load] at h ⊢
    show d.count - P.weight j = _
    simp only [Desk.leave]
    omega

end DeskPlan

end SerialFc.Lib
