import Mathlib.Data.List.Perm.Basic
import Mathlib.Data.List.Range

/-!
# A pool of numbered blocks

A pool gives out blocks with numbers that it never uses again and keeps a record of what is freed.

* `Holds` — every block that was given out is held in one place or was freed, once
* `Holds.alloc`, `Holds.free` — what allocation and freeing do to it
* `Holds.not_drop` — blocks that are held nowhere any more are lost for good
-/

namespace SerialFc.Lib

structure Pool where
  allocated : Nat
  freed : List Nat
  deriving DecidableEq, Repr

namespace Pool

def empty : Pool := ⟨0, []⟩

/-- The number of a new block, and the pool without it. -/
def alloc (p : Pool) : Nat × Pool := (p.allocated, { p with allocated := p.allocated + 1 })

/-- A null pointer is not freed. -/
def free (b : Option Nat) (p : Pool) : Pool := { p with freed := b.toList ++ p.freed }

/-- `held` lists who holds what: with what was freed, every block that was given out appears in it
exactly once. -/
def Holds (p : Pool) (held : List Nat) : Prop := (held ++ p.freed).Perm (List.range p.allocated)

variable {p : Pool} {held held' : List Nat}

theorem holds_empty : empty.Holds [] := .refl []

@[simp] theorem free_none (p : Pool) : p.free none = p := rfl

/-- It does not matter who is asked first. -/
theorem Holds.perm (h : p.Holds held) (hperm : held'.Perm held) : p.Holds held' :=
  (hperm.append_right p.freed).trans h

theorem Holds.alloc (h : p.Holds held) : p.alloc.2.Holds (p.alloc.1 :: held) := by
  have hlast : (p.allocated :: (held ++ p.freed)).Perm (p.allocated :: List.range p.allocated) :=
    h.cons p.allocated
  refine hlast.trans ?_
  show List.Perm (p.allocated :: List.range p.allocated) (List.range (p.allocated + 1))
  rw [List.range_succ]
  exact (List.perm_append_singleton _ _).symm

theorem Holds.free {b : Option Nat} (h : p.Holds (b.toList ++ held)) : (p.free b).Holds held := by
  refine List.Perm.trans ?_ h
  show (held ++ (b.toList ++ p.freed)).Perm (b.toList ++ held ++ p.freed)
  rw [← List.append_assoc]
  exact List.perm_append_comm.append_right p.freed

theorem Holds.nodup (h : p.Holds held) : (held ++ p.freed).Nodup :=
  h.nodup_iff.mpr List.nodup_range

theorem Holds.length (h : p.Holds held) : held.length + p.freed.length = p.allocated := by
  rw [← List.length_append, h.length_eq, List.length_range]

/-- With fewer holders the pool does not add up. -/
theorem Holds.not_drop {lost : List Nat} (h : p.Holds (lost ++ held)) (hlost : lost ≠ []) :
    ¬p.Holds held := by
  intro hless
  have hmore := h.length
  have hheld := hless.length
  have hpos : 0 < lost.length := List.length_pos_of_ne_nil hlost
  rw [List.length_append] at hmore
  omega

/-- With no holder left everything has been freed. -/
theorem Holds.all_freed (h : p.Holds []) : p.freed.Perm (List.range p.allocated) := h

end Pool

end SerialFc.Lib
