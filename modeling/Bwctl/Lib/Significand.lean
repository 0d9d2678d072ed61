import Mathlib.Tactic
import Mathlib.Data.Nat.Log

/-!
# Rounding a natural number to a fixed number of significant bits

The conversion of an unsigned integer to a binary floating-point format with `p` significand
bits: round to nearest, ties to the even significand.  Nothing here bounds the exponent, so
the results hold for every format whose range covers the integers in question.

* `roundSig_of_lt` — integers below `2 ^ p` are exact.
* `roundSig_mul_pow` — so are their multiples by a power of two.
* `roundSig_mono` — rounding is monotone.
* `le_of_roundSig_le` — a number that rounds to at most an exact bound is at most the bound.
* `le_add_of_roundSig_le` — in general it exceeds the bound by the two rounding errors only.
-/

set_option autoImplicit false

namespace Significand

/-- Quotient by `2 ^ e`, rounded to nearest, ties to even. -/
def roundQuot (e n : Nat) : Nat :=
  let q := n / 2 ^ e
  let r := n % 2 ^ e
  if 2 ^ e < 2 * r ∨ (2 ^ e = 2 * r ∧ q % 2 = 1) then q + 1 else q

/-- The number of low bits a `p`-bit significand cannot hold. -/
def excess (p n : Nat) : Nat := Nat.log 2 n + 1 - p

/-- `n` rounded to `p` significant bits. -/
def roundSig (p n : Nat) : Nat :=
  if n < 2 ^ p then n else roundQuot (excess p n) n * 2 ^ excess p n

/-- The quotient `n / d` in half units: below the integral quotient stands a bit that says whether
the division left a remainder, which is all that rounding can see of the rest. -/
def stickyQuot (n d : Nat) : Nat := 2 * (n / d) + if n % d = 0 then 0 else 1

theorem stickyQuot_le {n d m : Nat} (hd : 0 < d) (h : n ≤ m * d) : stickyQuot n d ≤ 2 * m := by
  have hdiv := Nat.div_add_mod n d
  unfold stickyQuot
  split
  · have : n / d ≤ m := Nat.div_le_of_le_mul (by rwa [Nat.mul_comm])
    omega
  · rename_i hrest
    have : n / d < m := by
      rw [Nat.div_lt_iff_lt_mul hd]
      refine h.lt_of_ne fun heq => hrest ?_
      rw [heq, Nat.mul_mod_left]
    omega

theorem roundQuot_mono (e : Nat) {n m : Nat} (h : n ≤ m) : roundQuot e n ≤ roundQuot e m := by
  have hq : n / 2 ^ e ≤ m / 2 ^ e := Nat.div_le_div_right h
  have hn := Nat.div_add_mod n (2 ^ e)
  have hm := Nat.div_add_mod m (2 ^ e)
  unfold roundQuot
  rcases Nat.lt_or_eq_of_le hq with hlt | heq
  · dsimp only; split <;> split <;> omega
  · have hr : n % 2 ^ e ≤ m % 2 ^ e := by
      rw [heq] at hn; omega
    dsimp only; rw [heq]
    split
    · rename_i hup
      have : 2 ^ e < 2 * (m % 2 ^ e) ∨ 2 ^ e = 2 * (m % 2 ^ e) ∧ m / 2 ^ e % 2 = 1 := by
        rcases hup with h1 | ⟨h1, h2⟩
        · left; omega
        · rcases Nat.lt_or_eq_of_le hr with h3 | h3
          · left; omega
          · right; exact ⟨by omega, h2⟩
      rw [if_pos this]
    · split <;> omega

theorem roundQuot_le (e n : Nat) : roundQuot e n ≤ n / 2 ^ e + 1 := by
  unfold roundQuot; dsimp only; split <;> omega

theorem le_roundQuot (e n : Nat) : n / 2 ^ e ≤ roundQuot e n := by
  unfold roundQuot; dsimp only; split <;> omega

/-- The rounding error is at most half a unit in the last place. -/
theorem roundQuot_error (e n : Nat) :
    2 * (roundQuot e n * 2 ^ e) ≤ 2 * n + 2 ^ e ∧ 2 * n ≤ 2 * (roundQuot e n * 2 ^ e) + 2 ^ e := by
  have hn := Nat.div_add_mod n (2 ^ e)
  have hr := Nat.mod_lt n (Nat.two_pow_pos e)
  rw [Nat.mul_comm] at hn
  unfold roundQuot
  dsimp only
  split
  · rename_i hup
    rw [Nat.add_mul, Nat.one_mul]
    omega
  · rename_i hdown
    push Not at hdown
    omega

theorem roundSig_of_lt {p n : Nat} (h : n < 2 ^ p) : roundSig p n = n := if_pos h

theorem roundSig_of_le {p n : Nat} (h : 2 ^ p ≤ n) :
    roundSig p n = roundQuot (excess p n) n * 2 ^ excess p n := if_neg (by omega)

/-- Above `2 ^ p` the excess is what the leading bit leaves over. -/
theorem excess_add {p n : Nat} (h : 2 ^ p ≤ n) : excess p n + p = Nat.log 2 n + 1 := by
  have hp : p ≤ Nat.log 2 n := Nat.le_log_of_pow_le (by norm_num) h
  unfold excess
  omega

theorem roundSig_lower {p n : Nat} (hp : 0 < p) (h : 2 ^ p ≤ n) :
    2 ^ Nat.log 2 n ≤ roundSig p n := by
  have hn : n ≠ 0 := by have := Nat.two_pow_pos p; omega
  have hlog := Nat.pow_log_le_self 2 hn
  have hex := excess_add h
  have hsplit : 2 ^ Nat.log 2 n = 2 ^ (p - 1) * 2 ^ excess p n := by
    rw [← Nat.pow_add]; congr 1; omega
  rw [roundSig_of_le h, hsplit]
  refine Nat.mul_le_mul_right _ (le_trans ?_ (le_roundQuot _ _))
  rw [Nat.le_div_iff_mul_le (Nat.two_pow_pos _), ← hsplit]
  exact hlog

theorem roundSig_upper {p n : Nat} (h : 2 ^ p ≤ n) :
    roundSig p n ≤ 2 ^ (Nat.log 2 n + 1) := by
  have hlog := Nat.lt_pow_succ_log_self (show 1 < 2 by norm_num) n
  have hsplit : 2 ^ (Nat.log 2 n + 1) = 2 ^ p * 2 ^ excess p n := by
    rw [← Nat.pow_add, Nat.add_comm p, excess_add h]
  rw [roundSig_of_le h, hsplit]
  refine Nat.mul_le_mul_right _ ((roundQuot_le _ _).trans ?_)
  rw [Nat.succ_le_iff, Nat.div_lt_iff_lt_mul (Nat.two_pow_pos _), ← hsplit]
  exact hlog

/-- **Rounding is monotone.** -/
theorem roundSig_mono {p n m : Nat} (hp : 0 < p) (h : n ≤ m) : roundSig p n ≤ roundSig p m := by
  by_cases hm : m < 2 ^ p
  · rw [roundSig_of_lt hm, roundSig_of_lt (by omega)]; exact h
  have hm' : 2 ^ p ≤ m := by omega
  by_cases hn : n < 2 ^ p
  · rw [roundSig_of_lt hn]
    have hpow : 2 ^ p ≤ 2 ^ Nat.log 2 m :=
      Nat.pow_le_pow_right (by norm_num) (Nat.le_log_of_pow_le (by norm_num) hm')
    have := roundSig_lower hp hm'
    omega
  have hn' : 2 ^ p ≤ n := by omega
  rcases Nat.lt_or_eq_of_le (Nat.log_mono_right (b := 2) h) with hlt | heq
  · -- the leading bit of `m` is already above everything `n` can round to
    calc roundSig p n ≤ 2 ^ (Nat.log 2 n + 1) := roundSig_upper hn'
      _ ≤ 2 ^ Nat.log 2 m := Nat.pow_le_pow_right (by norm_num) hlt
      _ ≤ roundSig p m := roundSig_lower hp hm'
  · have he : excess p n = excess p m := by unfold excess; rw [heq]
    rw [roundSig_of_le hn', roundSig_of_le hm', he]
    exact Nat.mul_le_mul_right _ (roundQuot_mono _ h)

/-- Twice the rounding error of `n` is at most one unit in its last place. -/
theorem roundSig_error (p n : Nat) :
    2 * roundSig p n ≤ 2 * n + 2 ^ excess p n ∧ 2 * n ≤ 2 * roundSig p n + 2 ^ excess p n := by
  by_cases h : n < 2 ^ p
  · have := Nat.two_pow_pos (excess p n)
    rw [roundSig_of_lt h]; omega
  · rw [roundSig_of_le (by omega)]; exact roundQuot_error _ n

/-- A number that rounds to at most an exact bound is at most the bound. -/
theorem le_of_roundSig_le {p n m : Nat} (hp : 0 < p) (hm : m < 2 ^ p)
    (h : roundSig p n ≤ roundSig p m) : n ≤ m := by
  rw [roundSig_of_lt hm] at h
  by_cases hn : n < 2 ^ p
  · rwa [roundSig_of_lt hn] at h
  · have hn' : 2 ^ p ≤ n := by omega
    have hpow : 2 ^ p ≤ 2 ^ Nat.log 2 n :=
      Nat.pow_le_pow_right (by norm_num) (Nat.le_log_of_pow_le (by norm_num) hn')
    have := roundSig_lower hp hn'
    omega

/-- A number that rounds to at most the rounding of `m` exceeds `m` by the two errors only. -/
theorem le_add_of_roundSig_le {p n m : Nat} (h : roundSig p n ≤ roundSig p m) :
    2 * n ≤ 2 * m + 2 ^ excess p m + 2 ^ excess p n := by
  have hn := (roundSig_error p n).2
  have hm := (roundSig_error p m).1
  omega

theorem log_mul_pow {m : Nat} (hm : m ≠ 0) (k : Nat) :
    Nat.log 2 (m * 2 ^ k) = Nat.log 2 m + k := by
  induction k with
  | zero => simp
  | succ k ih =>
    have hne : m * 2 ^ k ≠ 0 := Nat.mul_ne_zero hm (Nat.two_pow_pos k).ne'
    rw [Nat.pow_succ, ← Nat.mul_assoc, Nat.log_mul_base (by norm_num) hne, ih, Nat.add_assoc]

/-- Numbers that need no more than `p` bits are exact. -/
theorem roundSig_mul_pow {p m : Nat} (k : Nat) (hm : m < 2 ^ p) :
    roundSig p (m * 2 ^ k) = m * 2 ^ k := by
  by_cases h : m * 2 ^ k < 2 ^ p
  · exact roundSig_of_lt h
  have h' : 2 ^ p ≤ m * 2 ^ k := by omega
  have hm0 : m ≠ 0 := by
    rintro rfl
    have := Nat.two_pow_pos p
    omega
  have hlog := log_mul_pow hm0 k
  have hlt : Nat.log 2 m < p := Nat.log_lt_of_lt_pow hm0 hm
  have hex : excess p (m * 2 ^ k) ≤ k := by
    unfold excess
    omega
  rw [roundSig_of_le h']
  have hdvd : 2 ^ excess p (m * 2 ^ k) ∣ m * 2 ^ k := (Nat.pow_dvd_pow 2 hex).mul_left m
  have hmod := Nat.mod_eq_zero_of_dvd hdvd
  have hquot : roundQuot (excess p (m * 2 ^ k)) (m * 2 ^ k) =
      m * 2 ^ k / 2 ^ excess p (m * 2 ^ k) := by
    have hpos := Nat.two_pow_pos (excess p (m * 2 ^ k))
    unfold roundQuot
    rw [hmod]
    exact if_neg (by omega)
  rw [hquot]
  exact Nat.div_mul_cancel hdvd

end Significand
