import Mathlib.Data.List.TakeWhile

/-!
# Cutting a list where a predicate ends

A scan over a list takes elements as long as a predicate holds.  What it takes and what it leaves is
a cut of the list in two parts, and there is only one such cut.

* `takeWhile_of_stops`, `dropWhile_of_stops` — the scan finds the cut.
* `exists_cut` — there is a cut, and the scan is it.
-/

set_option autoImplicit false

namespace Spans

variable {α : Type} {p : α → Bool} {a b : List α}

/-- The predicate does not hold at the front of the list. -/
def Stops (p : α → Bool) (b : List α) : Prop := ∀ c rest, b = c :: rest → p c = false

@[simp] theorem stops_nil : Stops p [] := fun _ _ h => by cases h

@[simp] theorem stops_cons {c : α} : Stops p (c :: b) ↔ p c = false :=
  ⟨fun h => h c b rfl, fun h _ _ heq => by cases heq; exact h⟩

theorem takeWhile_of_stops (ha : ∀ c ∈ a, p c = true) (hb : Stops p b) :
    (a ++ b).takeWhile p = a := by
  rw [List.takeWhile_append_of_pos ha]
  cases b with
  | nil => simp
  | cons c b => simp [stops_cons.1 hb]

theorem dropWhile_of_stops (ha : ∀ c ∈ a, p c = true) (hb : Stops p b) :
    (a ++ b).dropWhile p = b := by
  rw [List.dropWhile_append_of_pos ha]
  cases b with
  | nil => simp
  | cons c b => simp [stops_cons.1 hb]

theorem stops_dropWhile (p : α → Bool) (l : List α) : Stops p (l.dropWhile p) := by
  induction l with
  | nil => simp
  | cons c l ih =>
    cases hc : p c with
    | true => simpa [List.dropWhile_cons, hc] using ih
    | false => simp [hc]

/-- **The cut a scan makes.** -/
theorem exists_cut (p : α → Bool) (l : List α) :
    ∃ a b, l = a ++ b ∧ (∀ c ∈ a, p c = true) ∧ Stops p b ∧
      l.takeWhile p = a ∧ l.dropWhile p = b :=
  ⟨_, _, List.takeWhile_append_dropWhile.symm, fun _ => List.mem_takeWhile_imp,
    stops_dropWhile p l, rfl, rfl⟩

end Spans
