import Mathlib.Tactic

/-!
# Octets as polynomials over two elements

A number below 256 is a polynomial of degree below eight; sums are exclusive or, and products are
taken modulo `x ^ 8 + x ^ 4 + x ^ 3 + x + 1`.

* `mul_xor` — the product with a fixed factor is additive.
-/

set_option autoImplicit false

namespace ByteField

/-- The product with `x`. -/
def xtime (b : Nat) : Nat := bif b.blt 128 then 2 * b else (2 * b) ^^^ 0x11b

/-- The product with a factor of that many bits. -/
def product : Nat → Nat → Nat → Nat
  | 0, _, _ => 0
  | n + 1, c, b =>
    bif Nat.beq c 0 then 0
    else (bif Nat.beq (c % 2) 1 then b else 0) ^^^ product n (c / 2) (xtime b)

/-- The product of the powers `b ^ 2`, `b ^ 4`, …, `b ^ 2 ^ n`. -/
def powers : Nat → Nat → Nat
  | 0, _ => 1
  | n + 1, b => product 8 (product 8 b b) (powers n (product 8 b b))

/-- The inverse, `b ^ 254`; that of zero is zero. -/
def inverse (b : Nat) : Nat := powers 7 b

/-- The product of octets. -/
def mul (c b : UInt8) : UInt8 := UInt8.ofNat (product 8 c.toNat b.toNat)

theorem xtime_lt : ∀ b < 256, xtime b < 256 := by decide +kernel

theorem blt_testBit : ∀ b < 256, b.blt 128 = !b.testBit 7 := by decide +kernel

theorem xtime_xor {a b : Nat} (ha : a < 256) (hb : b < 256) :
    xtime (a ^^^ b) = xtime a ^^^ xtime b := by
  have htwo : 2 * (a ^^^ b) = 2 * a ^^^ 2 * b := by
    have h := Nat.shiftLeft_xor_distrib (a := a) (b := b) (i := 1)
    simpa [Nat.shiftLeft_eq, Nat.mul_comm] using h
  have hab : a ^^^ b < 256 := Nat.xor_lt_two_pow (n := 8) ha hb
  unfold xtime
  rw [blt_testBit _ hab, blt_testBit _ ha, blt_testBit _ hb, htwo, Nat.testBit_xor]
  cases a.testBit 7 <;> cases b.testBit 7
  · rfl
  · exact Nat.xor_assoc _ _ _
  · change 2 * a ^^^ 2 * b ^^^ 0x11b = 2 * a ^^^ 0x11b ^^^ 2 * b
    rw [Nat.xor_assoc, Nat.xor_comm (2 * b), ← Nat.xor_assoc]
  · change 2 * a ^^^ 2 * b = 2 * a ^^^ 0x11b ^^^ (2 * b ^^^ 0x11b)
    rw [Nat.xor_comm (2 * b) 0x11b, Nat.xor_assoc, ← Nat.xor_assoc 0x11b, Nat.xor_self, Nat.zero_xor]

theorem product_lt (n c : Nat) {b : Nat} (hb : b < 256) : product n c b < 256 := by
  induction n generalizing c b with
  | zero => exact Nat.zero_lt_of_lt hb
  | succ n ih =>
    rw [product]
    cases Nat.beq c 0
    · refine Nat.xor_lt_two_pow (n := 8) ?_ (ih _ (xtime_lt b hb))
      cases Nat.beq (c % 2) 1
      · exact Nat.zero_lt_of_lt hb
      · exact hb
    · exact Nat.zero_lt_of_lt hb

theorem product_xor (n c : Nat) {a b : Nat} (ha : a < 256) (hb : b < 256) :
    product n c (a ^^^ b) = product n c a ^^^ product n c b := by
  induction n generalizing c a b with
  | zero => exact (Nat.xor_self 0).symm
  | succ n ih =>
    rw [product, product, product, xtime_xor ha hb, ih _ (xtime_lt a ha) (xtime_lt b hb)]
    cases Nat.beq c 0
    · cases Nat.beq (c % 2) 1
      · simp only [cond_false, Nat.zero_xor]
      · simp only [cond_true, cond_false]
        rw [Nat.xor_assoc, Nat.xor_assoc, ← Nat.xor_assoc b, Nat.xor_comm b,
          Nat.xor_assoc (product _ _ _) b]
    · exact (Nat.xor_self 0).symm

theorem toNat_mul (c b : UInt8) : (mul c b).toNat = product 8 c.toNat b.toNat :=
  UInt8.toNat_ofNat_of_lt' (product_lt 8 _ b.toNat_lt)

/-- **A product with a fixed factor is additive.** -/
theorem mul_xor (c a b : UInt8) : mul c (a ^^^ b) = mul c a ^^^ mul c b := by
  apply UInt8.toNat_inj.1
  rw [UInt8.toNat_xor, toNat_mul, toNat_mul, toNat_mul, UInt8.toNat_xor,
    product_xor 8 _ a.toNat_lt b.toNat_lt]

theorem mul_one_left (b : UInt8) : mul 1 b = b := by
  apply UInt8.toNat_inj.1
  rw [toNat_mul]
  change b.toNat ^^^ 0 = b.toNat
  exact Nat.xor_zero _

end ByteField
