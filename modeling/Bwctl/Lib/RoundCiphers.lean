import Mathlib.Tactic

/-!
# Ciphers in rounds

A cipher in rounds adds a key, goes through full rounds of a substitution, a mixing and a key each,
and ends with a round without mixing.  Where the mixing is additive its inverse is a cipher of the
same form, with the keys in the other order.

* `rounds_succ` — the last of the full rounds.
* `decrypt_encrypt` — the inverse cipher undoes the cipher.
-/

set_option autoImplicit false

namespace RoundCipher

section Cipher

variable {α : Type*} (add : α → α → α) (σ μ : α → α) (key : Nat → α)

/-- Full rounds, the first of them with the given key. -/
def rounds : Nat → Nat → α → α
  | 0, _, x => x
  | n + 1, r, x => rounds n (r + 1) (add (μ (σ x)) (key r))

/-- The cipher with `n` full rounds. -/
def encrypt (n : Nat) (x : α) : α := add (σ (rounds add σ μ key n 1 (add x (key 0)))) (key (n + 1))

/-- The keys of the inverse cipher: in the other order, and those between the first and the last
    through the inverse of the mixing. -/
def inverseKey (μ' : α → α) (n r : Nat) : α :=
  if r = 0 ∨ r = n + 1 then key (n + 1 - r) else μ' (key (n + 1 - r))

/-- The last of the full rounds. -/
theorem rounds_succ (n r : Nat) (x : α) :
    rounds add σ μ key (n + 1) r x = add (μ (σ (rounds add σ μ key n r x))) (key (r + n)) := by
  induction n generalizing r x with
  | zero => rfl
  | succ n ih =>
    rw [rounds, ih, rounds]
    congr 2
    omega

theorem rounds_congr {key' : Nat → α} (n r : Nat) (x : α)
    (h : ∀ i, r ≤ i → i < r + n → key i = key' i) :
    rounds add σ μ key n r x = rounds add σ μ key' n r x := by
  induction n generalizing r x with
  | zero => rfl
  | succ n ih =>
    rw [rounds, rounds, h r le_rfl (by omega)]
    exact ih _ _ fun i hi hlt => h i (by omega) (by omega)

/-- Only the keys of the rounds matter. -/
theorem encrypt_congr {key' : Nat → α} (n : Nat) (x : α) (h : ∀ i ≤ n + 1, key i = key' i) :
    encrypt add σ μ key n x = encrypt add σ μ key' n x := by
  unfold encrypt
  rw [h 0 (Nat.zero_le _), h (n + 1) le_rfl,
    rounds_congr add σ μ key n 1 _ fun i _ hi => h i (by omega)]

variable {add σ μ}

/-- What is left of the rounds after the same number of inverse rounds. -/
theorem rounds_inverse {σ' μ' : α → α} (hadd : ∀ x y, add (add x y) y = x)
    (hσ : ∀ x, σ' (σ x) = x) (hμ : ∀ x, μ' (μ x) = x)
    (hlinear : ∀ x y, μ' (add x y) = add (μ' x) (μ' y)) (n i : Nat) (hi : i ≤ n) (x : α) :
    rounds add σ' μ' (inverseKey key μ' n) i 1 (σ (rounds add σ μ key n 1 x)) =
      σ (rounds add σ μ key (n - i) 1 x) := by
  induction i with
  | zero => rfl
  | succ i ih =>
    obtain ⟨k, hk⟩ : ∃ k, n - i = k + 1 := ⟨n - i - 1, by omega⟩
    have hkey : inverseKey key μ' n (1 + i) = μ' (key (1 + k)) := by
      unfold inverseKey
      rw [if_neg (by omega)]
      congr 2
      omega
    rw [rounds_succ, ih (by omega), hσ, hk, rounds_succ, hkey, hlinear, hμ, hadd]
    congr 2
    omega

/-- **The inverse cipher undoes the cipher.** -/
theorem decrypt_encrypt {σ' μ' : α → α} (hadd : ∀ x y, add (add x y) y = x)
    (hσ : ∀ x, σ' (σ x) = x) (hμ : ∀ x, μ' (μ x) = x)
    (hlinear : ∀ x y, μ' (add x y) = add (μ' x) (μ' y)) (n : Nat) (x : α) :
    encrypt add σ' μ' (inverseKey key μ' n) n (encrypt add σ μ key n x) = x := by
  have hfirst : inverseKey key μ' n 0 = key (n + 1) := if_pos (Or.inl rfl)
  have hlast : inverseKey key μ' n (n + 1) = key 0 := by
    unfold inverseKey
    rw [if_pos (Or.inr rfl), Nat.sub_self]
  unfold encrypt
  rw [hfirst, hlast, hadd, rounds_inverse key hadd hσ hμ hlinear n n le_rfl, Nat.sub_self, hσ]
  exact hadd x (key 0)

/-- The inverse of the inverse has the keys of the cipher. -/
theorem inverseKey_inverseKey {μ' : α → α} (hμ : ∀ x, μ (μ' x) = x) {n r : Nat} (hr : r ≤ n + 1) :
    inverseKey (inverseKey key μ' n) μ n r = key r := by
  unfold inverseKey
  by_cases hend : r = 0 ∨ r = n + 1
  · rw [if_pos hend, if_pos (by omega)]
    congr 1
    omega
  · rw [if_neg hend, if_neg (by omega), hμ]
    congr 1
    omega

/-- **The cipher undoes its inverse.** -/
theorem encrypt_decrypt {σ' μ' : α → α} (hadd : ∀ x y, add (add x y) y = x)
    (hσ : ∀ x, σ (σ' x) = x) (hμ : ∀ x, μ (μ' x) = x)
    (hlinear : ∀ x y, μ (add x y) = add (μ x) (μ y)) (n : Nat) (x : α) :
    encrypt add σ μ key n (encrypt add σ' μ' (inverseKey key μ' n) n x) = x := by
  rw [encrypt_congr add σ μ key n _ fun i hi => (inverseKey_inverseKey key hμ hi).symm]
  exact decrypt_encrypt (inverseKey key μ' n) hadd hσ hμ hlinear n x

end Cipher

end RoundCipher
