import Mathlib.Data.List.Basic

/-!
# Chained blocks

A chain of blocks starts from a vector: every block is joined with the block in front of it in the
chain and goes through a cipher.  What stands behind a chain is a chain that starts from its last
block, so the writer and the reader of a stream may cut it at different places.

* `decrypt_append` — a chain in two pieces.
* `decrypt_encrypt` — the reader undoes what the writer did.
* `decrypt_take` — the reader takes a piece of the stream.
-/

set_option autoImplicit false

namespace BlockChains

variable {α : Type*} (join : α → α → α) {E D : α → α}

/-- The vector behind a chain: its last block, if there is one. -/
def next : α → List α → α
  | iv, [] => iv
  | _, c :: cs => next c cs

/-- The chain of plain blocks. -/
def encrypt (E : α → α) : α → List α → List α
  | _, [] => []
  | iv, x :: xs => E (join x iv) :: encrypt E (E (join x iv)) xs

/-- The plain blocks of a chain. -/
def decrypt (D : α → α) : α → List α → List α
  | _, [] => []
  | iv, c :: cs => join (D c) iv :: decrypt D c cs

@[simp] theorem next_nil (iv : α) : next iv [] = iv := rfl

@[simp] theorem next_cons (iv c : α) (cs : List α) : next iv (c :: cs) = next c cs := rfl

theorem next_append (iv : α) (cs ds : List α) : next iv (cs ++ ds) = next (next iv cs) ds := by
  induction cs generalizing iv with
  | nil => rfl
  | cons c cs ih => exact ih c

@[simp] theorem length_encrypt (iv : α) (xs : List α) : (encrypt join E iv xs).length = xs.length := by
  induction xs generalizing iv with
  | nil => rfl
  | cons x xs ih => simp [encrypt, ih]

@[simp] theorem length_decrypt (iv : α) (cs : List α) : (decrypt join D iv cs).length = cs.length := by
  induction cs generalizing iv with
  | nil => rfl
  | cons c cs ih => simp [decrypt, ih]

/-- **A chain in two pieces**: the second one starts from the last block of the first. -/
theorem decrypt_append (iv : α) (cs ds : List α) :
    decrypt join D iv (cs ++ ds) = decrypt join D iv cs ++ decrypt join D (next iv cs) ds := by
  induction cs generalizing iv with
  | nil => rfl
  | cons c cs ih =>
    rw [List.cons_append, decrypt, ih]
    rfl

/-- **Decryption undoes encryption** from the same vector. -/
theorem decrypt_encrypt (hcipher : ∀ x, D (E x) = x) (hjoin : ∀ x y, join (join x y) y = x)
    (iv : α) (xs : List α) : decrypt join D iv (encrypt join E iv xs) = xs := by
  induction xs generalizing iv with
  | nil => rfl
  | cons x xs ih => rw [encrypt, decrypt, ih, hcipher, hjoin]

/-- A piece of a chain and what is left of it. -/
theorem decrypt_take (iv : α) (n : Nat) (cs : List α) :
    decrypt join D iv (cs.take n) ++ decrypt join D (next iv (cs.take n)) (cs.drop n) =
      decrypt join D iv cs := by
  rw [← decrypt_append, List.take_append_drop]

end BlockChains
