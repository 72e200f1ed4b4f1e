import Mathlib.Data.List.Basic

/-!
# A byte queue with losses

What a receive path is for: symbols are put in at one end and handed out at the other. The
queue also knows the ways a symbol may get lost.

* `put` — a symbol enters
* `replaceLast` — the newest symbol still held is overwritten
* `clear n` — the `n` newest symbols are thrown away
* `take n` — the `n` oldest symbols are handed out
* `drop n` — the `n` oldest symbols are thrown away

`out` is everything handed out so far and `held` what is still inside, both in order.
-/

namespace SerialFc.Lib.Fifo

variable {α : Type*}

/-- One operation on the queue. -/
inductive Op (α : Type*)
  | put (a : α)
  | replaceLast (a : α)
  | clear (n : Nat)
  | take (n : Nat)
  | drop (n : Nat)
  deriving DecidableEq, Repr

/-- What has been handed out, and what is held, oldest first. -/
structure State (α : Type*) where
  out : List α
  held : List α
  deriving DecidableEq, Repr

/-- Nothing has happened yet. -/
def State.empty : State α := ⟨[], []⟩

/-- What one operation does. -/
def apply (q : State α) : Op α → State α
  | .put a => { q with held := q.held ++ [a] }
  | .replaceLast a => { q with held := q.held.dropLast ++ [a] }
  | .clear n => { q with held := q.held.take (q.held.length - n) }
  | .take n => ⟨q.out ++ q.held.take n, q.held.drop n⟩
  | .drop n => { q with held := q.held.drop n }

/-- The queue after the operations, oldest first. -/
def exec (ops : List (Op α)) : State α := ops.foldl apply .empty

@[simp] theorem exec_nil : exec ([] : List (Op α)) = .empty := rfl

@[simp] theorem exec_snoc (ops : List (Op α)) (o : Op α) :
    exec (ops ++ [o]) = apply (exec ops) o := by
  simp [exec]

section
variable {a b out : List α} {n : Nat}

theorem apply_take_append (h : a.length = n) :
    apply ⟨out, a ++ b⟩ (.take n) = ⟨out ++ a, b⟩ := by
  simp only [apply, List.take_left' h, List.drop_left' h]

theorem apply_drop_append (h : a.length = n) : apply ⟨out, a ++ b⟩ (.drop n) = ⟨out, b⟩ := by
  simp only [apply, List.drop_left' h]

theorem apply_clear_append (h : b.length = n) : apply ⟨out, a ++ b⟩ (.clear n) = ⟨out, a⟩ := by
  simp only [apply, List.length_append, h, Nat.add_sub_cancel, List.take_left' rfl]

end

/-! ## What was put in comes out in order -/

/-- The symbols put in, in order. -/
def puts : List (Op α) → List α
  | [] => []
  | .put a :: ops => a :: puts ops
  | _ :: ops => puts ops

/-- Symbols are put in operation by operation. -/
theorem puts_append (ops ops' : List (Op α)) : puts (ops ++ ops') = puts ops ++ puts ops' := by
  induction ops with
  | nil => rfl
  | cons o ops ih => cases o <;> simp [puts, ih]

/-- No operation loses or changes a symbol. -/
def Lossless : List (Op α) → Prop
  | [] => True
  | .put _ :: ops => Lossless ops
  | .take _ :: ops => Lossless ops
  | _ :: _ => False

/-- No operation changes a symbol. -/
def Faithful : List (Op α) → Prop
  | [] => True
  | .replaceLast _ :: _ => False
  | _ :: ops => Faithful ops

/-- Symbols only move from one end of the queue to the other. -/
theorem foldl_apply_of_lossless {ops : List (Op α)} (h : Lossless ops) (q : State α) :
    (ops.foldl apply q).out ++ (ops.foldl apply q).held = q.out ++ q.held ++ puts ops := by
  induction ops generalizing q with
  | nil => simp [puts]
  | cons o ops ih =>
    cases o with
    | put a =>
      rw [List.foldl_cons, ih h]
      simp [apply, puts]
    | take n =>
      rw [List.foldl_cons, ih h]
      simp [apply, puts]
    | replaceLast a => exact h.elim
    | clear n => exact h.elim
    | drop n => exact h.elim

/-- **Without losses**, what was handed out followed by what is held is what was put in. -/
theorem exec_of_lossless {ops : List (Op α)} (h : Lossless ops) :
    (exec ops).out ++ (exec ops).held = puts ops := by
  simpa [exec, State.empty] using foldl_apply_of_lossless h State.empty

/-- Operations that overwrite nothing only leave symbols out. -/
theorem foldl_apply_sublist {ops : List (Op α)} (h : Faithful ops) (q : State α) :
    ((ops.foldl apply q).out ++ (ops.foldl apply q).held).Sublist (q.out ++ q.held ++ puts ops) := by
  induction ops generalizing q with
  | nil => simp [puts]
  | cons o ops ih =>
    cases o with
    | put a => simpa [apply, puts] using ih h (apply q (.put a))
    | take n =>
      have := ih h (apply q (.take n))
      simpa [apply, puts] using this
    | replaceLast a => exact h.elim
    | clear n =>
      refine (ih h (apply q (.clear n))).trans ?_
      exact ((List.Sublist.refl _).append (List.take_sublist _ _)).append (List.Sublist.refl _)
    | drop n =>
      refine (ih h (apply q (.drop n))).trans ?_
      exact ((List.Sublist.refl _).append (List.drop_sublist _ _)).append (List.Sublist.refl _)

/-- **With losses** but no overwriting, nothing is duplicated or reordered. -/
theorem exec_sublist {ops : List (Op α)} (h : Faithful ops) :
    ((exec ops).out ++ (exec ops).held).Sublist (puts ops) := by
  simpa [exec, State.empty] using foldl_apply_sublist h State.empty

end SerialFc.Lib.Fifo
