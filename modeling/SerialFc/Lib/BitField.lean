import Mathlib.Data.Nat.Notation
import Mathlib.Tactic.Ring

/-!
# Fields of bits in a row of bytes

Bit `n` is bit `n % 8` of byte `n / 8`, and a field is a number made of bits one after another, the
lowest first.

* `field_add` — a field in two parts
* `field_byte` — a field within a byte
-/

namespace SerialFc.Lib

/-- Bit `n` of the bytes. -/
def bitAt (bytes : ℕ → ℕ) (n : ℕ) : ℕ := bytes (n / 8) / 2 ^ (n % 8) % 2

/-- The bits from `lo` on, `len` of them. -/
def field (bytes : ℕ → ℕ) (lo : ℕ) : ℕ → ℕ
  | 0 => 0
  | len + 1 => bitAt bytes lo + 2 * field bytes (lo + 1) len

variable {bytes : ℕ → ℕ}

theorem field_add (lo a b : ℕ) :
    field bytes lo (a + b) = field bytes lo a + 2 ^ a * field bytes (lo + a) b := by
  induction a generalizing lo with
  | zero => simp [field]
  | succ a ih =>
    have hshift : lo + 1 + a = lo + (a + 1) := by omega
    rw [Nat.add_right_comm, field, ih, hshift, field]
    ring

theorem field_byte (k : ℕ) {s len lo : ℕ} (hlo : lo = 8 * k + s) (h : s + len ≤ 8) :
    field bytes lo len = bytes k / 2 ^ s % 2 ^ len := by
  subst hlo
  induction len generalizing s with
  | zero => simp [field, Nat.mod_one]
  | succ len ih =>
    have hbyte : (8 * k + s) / 8 = k := by omega
    have hplace : (8 * k + s) % 8 = s := by omega
    have hnext : field bytes (8 * k + s + 1) len = bytes k / 2 ^ s / 2 % 2 ^ len := by
      rw [Nat.add_assoc, ih (by omega), Nat.div_div_eq_div_mul, Nat.pow_succ]
    rw [field, bitAt, hbyte, hplace, hnext, Nat.pow_succ', Nat.mod_mul]

/-- A field across the end of byte `k`, `a` bits before and `b` behind. -/
theorem field_across (k a b : ℕ) {s lo len : ℕ} (hlo : lo = 8 * k + s) (hlen : len = a + b)
    (ha : s + a = 8) (hb : b ≤ 8) :
    field bytes lo len = bytes k / 2 ^ s % 2 ^ a + 2 ^ a * (bytes (k + 1) % 2 ^ b) := by
  have hnext : lo + a = 8 * (k + 1) + 0 := by omega
  rw [hlen, field_add, field_byte k hlo ha.le, field_byte (k + 1) hnext (by omega), Nat.pow_zero,
    Nat.div_one]

end SerialFc.Lib
