import Mathlib.Data.List.Rotate
import Mathlib.Data.Nat.ModEq

/-!
# Windows on a ring buffer

A ring buffer is a list read from some position on and around its end. `window buf first n` are the
`n` symbols from position `first` on.

* `window_put`, `window_replaceLast` — writing behind the window, or at its last position
* `window_take`, `window_drop` — a window from the front
* `window_of_le`, `window_advance` — a window and slices of the list
-/

namespace SerialFc.Lib.Ring

variable {α : Type*}

def window (buf : List α) (first n : Nat) : List α := (buf.rotate first).take n

@[simp] theorem window_zero (buf : List α) (first : Nat) : window buf first 0 = [] := by
  simp [window]

variable {buf : List α} {first n k : Nat}

theorem length_window (h : n ≤ buf.length) : (window buf first n).length = n := by
  simp [window, h]

theorem getElem?_window {i : Nat} (hi : i < n) (hn : n ≤ buf.length) :
    (window buf first n)[i]? = buf[(i + first) % buf.length]? := by
  rw [window, List.getElem?_take_of_lt hi, List.getElem?_rotate (by omega)]

theorem window_take (h : k ≤ n) : (window buf first n).take k = window buf first k := by
  rw [window, List.take_take, Nat.min_eq_left h, window]

/-- Two windows are equal if they show the same symbols. -/
theorem window_ext {l : List α} (hn : n ≤ buf.length) (hl : l.length = n)
    (h : ∀ i < n, l[i]? = buf[(i + first) % buf.length]?) : l = window buf first n := by
  refine List.ext_getElem? fun i => ?_
  by_cases hi : i < n
  · rw [getElem?_window hi hn]
    exact h i hi
  · rw [List.getElem?_eq_none (by omega),
      List.getElem?_eq_none (by rw [length_window hn]; omega)]

theorem window_drop (hn : n ≤ buf.length) (h : k ≤ n) :
    (window buf first n).drop k = window buf ((first + k) % buf.length) (n - k) := by
  refine window_ext (by omega) (by rw [List.length_drop, length_window hn]) fun i hi => ?_
  rw [List.getElem?_drop, getElem?_window (by omega) hn]
  congr 1
  rw [Nat.add_mod_mod]
  congr 1
  omega

/-- Different positions of a window are different places. -/
theorem place_injective {i j : Nat} (hi : i < buf.length) (hj : j < buf.length)
    (h : (i + first) % buf.length = (j + first) % buf.length) : i = j := by
  have hmod : i % buf.length = j % buf.length := Nat.ModEq.add_right_cancel' first h
  rwa [Nat.mod_eq_of_lt hi, Nat.mod_eq_of_lt hj] at hmod

theorem getElem?_set_place {i j : Nat} (a : α) (hi : i < buf.length) (hj : j < buf.length) :
    (buf.set ((first + j) % buf.length) a)[(i + first) % buf.length]? =
      if i = j then some a else buf[(i + first) % buf.length]? := by
  have hpos : 0 < buf.length := by omega
  rw [List.getElem?_set, Nat.add_comm first j]
  by_cases hij : i = j
  · subst hij
    rw [if_pos rfl, if_pos (Nat.mod_lt _ hpos), if_pos rfl]
  · rw [if_neg fun h => hij (place_injective hj hi h).symm, if_neg hij]

/-- A symbol is written right behind the window. -/
theorem window_put (a : α) (h : n < buf.length) :
    window (buf.set ((first + n) % buf.length) a) first (n + 1) = window buf first n ++ [a] := by
  symm
  refine window_ext (by rw [List.length_set]; omega) (by simp [length_window (Nat.le_of_lt h)]) fun i hi => ?_
  rw [List.length_set, getElem?_set_place a (by omega) h]
  by_cases hin : i = n
  · rw [if_pos hin, hin, List.getElem?_append_right (by rw [length_window (Nat.le_of_lt h)]),
      length_window (Nat.le_of_lt h)]
    simp
  · rw [if_neg hin, List.getElem?_append_left (by rw [length_window (Nat.le_of_lt h)]; omega),
      getElem?_window (by omega) (by omega)]

/-- The last symbol of the window is overwritten. -/
theorem window_replaceLast (a : α) (h : n < buf.length) :
    window (buf.set ((first + n) % buf.length) a) first (n + 1) =
      (window buf first (n + 1)).dropLast ++ [a] := by
  rw [window_put a h, List.dropLast_eq_take, length_window h, window_take (by omega)]
  rfl

/-- A window that does not reach the end is a slice. -/
theorem window_of_le (h : first + n ≤ buf.length) : window buf first n = (buf.drop first).take n := by
  symm
  refine window_ext (by omega) (by rw [List.length_take, List.length_drop]; omega) fun i hi => ?_
  rw [List.getElem?_take_of_lt hi, List.getElem?_drop, Nat.mod_eq_of_lt (by omega), Nat.add_comm]

/-- The front of a window is a slice, and the rest is a window. -/
theorem window_advance (hk : k ≤ n) (hn : n ≤ buf.length) (hend : first + k ≤ buf.length) :
    window buf first n =
      (buf.drop first).take k ++ window buf ((first + k) % buf.length) (n - k) := by
  rw [← window_drop hn hk, ← window_of_le hend, ← window_take hk, List.take_append_drop]

end SerialFc.Lib.Ring
