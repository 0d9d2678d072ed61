import Mathlib.Data.List.GetD
import Mathlib.Tactic

/-!
# Octets in memory

A memory gives an octet for every address.  A region is read as a list, and a list is written over a
region.

* `read_write` — a region that was just written.
* `read_add` — a region in two pieces.
-/

set_option autoImplicit false

abbrev Memory := Nat → UInt8

namespace Memory

variable {m : Memory} {a : Nat} {bytes : List UInt8}

/-- The octets of a region. -/
def read (m : Memory) (a n : Nat) : List UInt8 := (List.range n).map fun i => m (a + i)

/-- Octets copied into the memory. -/
def write (m : Memory) (a : Nat) (bytes : List UInt8) : Memory :=
  fun x => if a ≤ x ∧ x < a + bytes.length then bytes.getD (x - a) 0 else m x

@[simp] theorem length_read (m : Memory) (a n : Nat) : (m.read a n).length = n := by simp [read]

@[simp] theorem read_zero (m : Memory) (a : Nat) : m.read a 0 = [] := rfl

/-- A region in two pieces. -/
theorem read_add (m : Memory) (a n k : Nat) : m.read a (n + k) = m.read a n ++ m.read (a + n) k := by
  simp [read, List.range_add, Nat.add_assoc]

/-- An octet outside what was written. -/
theorem write_of_disjoint {x : Nat} (h : x < a ∨ a + bytes.length ≤ x) : m.write a bytes x = m x :=
  if_neg (by omega)

/-- **A region that was just written.** -/
theorem read_write (m : Memory) (a : Nat) (bytes : List UInt8) :
    (m.write a bytes).read a bytes.length = bytes := by
  apply List.ext_getElem
  · simp
  · intro i h1 h2
    simp only [read, List.getElem_map, List.getElem_range, write]
    rw [if_pos (by omega), Nat.add_sub_cancel_left, List.getD_eq_getElem _ _ h2]

end Memory
