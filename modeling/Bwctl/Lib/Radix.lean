import Mathlib.Tactic

/-!
# Fractions in two denominators

A fraction of a unit is counted in `a`ths or in `b`ths, and converted from one count to the other by
an integer division that truncates.

* `rescale_strictMono` — nothing is lost on the way to the finer count.
* `rescale_rescale_le`, `le_rescale_rescale` — the way to the finer count and back never increases
  the fraction and loses at most one.
-/

set_option autoImplicit false

namespace Radix

variable {a b : Nat}

/-- `n` `a`ths as a count of `b`ths. -/
def rescale (a b n : Nat) : Nat := n * b / a

theorem rescale_lt {n : Nat} (hb : 0 < b) (hn : n < a) : rescale a b n < b := by
  unfold rescale
  rw [Nat.div_lt_iff_lt_mul (by omega), Nat.mul_comm b]
  exact Nat.mul_lt_mul_of_pos_right hn hb

/-- The truncation of one conversion. -/
theorem rescale_bounds (ha : 0 < a) (n : Nat) :
    rescale a b n * a ≤ n * b ∧ n * b < (rescale a b n + 1) * a :=
  ⟨Nat.div_mul_le_self _ _, Nat.lt_mul_of_div_lt (Nat.lt_succ_self _) ha⟩

/-- **The finer count** tells different fractions apart. -/
theorem rescale_strictMono (ha : 0 < a) (h : a ≤ b) {n m : Nat} (hnm : n < m) :
    rescale a b n < rescale a b m := by
  have hn := (rescale_bounds (b := b) ha n).1
  have hroom : (rescale a b n + 1) * a ≤ m * b :=
    calc (rescale a b n + 1) * a = rescale a b n * a + a := Nat.succ_mul _ _
      _ ≤ n * b + b := Nat.add_le_add hn h
      _ = (n + 1) * b := (Nat.succ_mul n b).symm
      _ ≤ m * b := Nat.mul_le_mul_right b hnm
  exact (Nat.le_div_iff_mul_le ha).2 hroom

/-- **There and back** never increases a fraction. -/
theorem rescale_rescale_le (ha : 0 < a) (n : Nat) :
    rescale b a (rescale a b n) ≤ n := by
  have := (rescale_bounds (b := b) ha n).1
  exact Nat.div_le_of_le_mul (by rwa [Nat.mul_comm b])

/-- **There and back** loses at most one. -/
theorem le_rescale_rescale (ha : 0 < a) (h : a ≤ b) (n : Nat) :
    n ≤ rescale b a (rescale a b n) + 1 := by
  have hforth := (rescale_bounds (b := b) ha n).2
  have hback := (rescale_bounds (b := a) (show 0 < b by omega) (rescale a b n)).2
  have hlt : n * b < (rescale b a (rescale a b n) + 1 + 1) * b :=
    calc n * b < (rescale a b n + 1) * a := hforth
      _ = rescale a b n * a + a := Nat.succ_mul _ _
      _ < (rescale b a (rescale a b n) + 1) * b + b := Nat.add_lt_add_of_lt_of_le hback h
      _ = (rescale b a (rescale a b n) + 1 + 1) * b := (Nat.succ_mul _ b).symm
  have := Nat.lt_of_mul_lt_mul_right hlt
  omega

end Radix
