import Mathlib.Tactic
import Mathlib.Data.List.Perm.Basic

/-!
# Lists of parties

A system of several parties is a list that grows at its end, changes one member at a time and
loses single members.  What the members hold is a `filterMap`; two views of the same parties
are two lists kept in step.

* `perm_of_gain`, `perm_of_loss`, `eq_of_same` — the holdings when one member changes.
* `countP_exchange` — two counts differ by the members that are in one of them only.
* `Paired` — two lists in step, with a relation between the members at each index.
-/

set_option autoImplicit false

namespace Population

variable {α β γ : Type*} {f : α → Option γ} {l : List α} {i : Nat} {a b : α} {c : γ}

/-- A list around one of its members. -/
theorem split_at (h : l[i]? = some a) :
    ∃ front back, l = front ++ a :: back ∧ front.length = i := by
  obtain ⟨hi, rfl⟩ := List.getElem?_eq_some_iff.1 h
  refine ⟨l.take i, l.drop (i + 1), ?_, ?_⟩
  · rw [List.getElem_cons_drop, List.take_append_drop]
  · rw [List.length_take]
    omega

theorem set_split {front back : List α} (h : front.length = i) :
    (front ++ a :: back).set i b = front ++ b :: back := by
  subst h
  rw [List.set_append_right _ _ (Nat.le_refl _), Nat.sub_self, List.set_cons_zero]

/-- The member that changes comes to hold `c`. -/
theorem perm_of_gain (h : l[i]? = some a) (ha : f a = none) (hb : f b = some c) :
    ((l.set i b).filterMap f).Perm (c :: l.filterMap f) := by
  obtain ⟨front, back, rfl, hlen⟩ := split_at h
  rw [set_split hlen, List.filterMap_append, List.filterMap_append, List.filterMap_cons_some hb,
    List.filterMap_cons_none ha]
  exact List.perm_middle

/-- The member that changes has held `c`. -/
theorem perm_of_loss [DecidableEq γ] (h : l[i]? = some a) (ha : f a = some c) (hb : f b = none) :
    ((l.set i b).filterMap f).Perm ((l.filterMap f).erase c) := by
  obtain ⟨front, back, rfl, hlen⟩ := split_at h
  rw [set_split hlen, List.filterMap_append, List.filterMap_append, List.filterMap_cons_none hb,
    List.filterMap_cons_some ha]
  have hmid := (@List.perm_middle _ c (front.filterMap f) (back.filterMap f)).erase c
  rw [List.erase_cons_head] at hmid
  exact hmid.symm

/-- The member that changes holds what it held. -/
theorem eq_of_same (h : l[i]? = some a) (hab : f b = f a) :
    (l.set i b).filterMap f = l.filterMap f := by
  obtain ⟨front, back, rfl, hlen⟩ := split_at h
  rw [set_split hlen, List.filterMap_append, List.filterMap_append, List.filterMap_cons,
    List.filterMap_cons, hab]

/-- A member that holds nothing leaves. -/
theorem eraseIdx_of_none (h : l[i]? = some a) (ha : f a = none) :
    (l.eraseIdx i).filterMap f = l.filterMap f := by
  obtain ⟨front, back, rfl, rfl⟩ := split_at h
  rw [List.eraseIdx_append_of_length_le (Nat.le_refl _), Nat.sub_self, List.eraseIdx_cons_zero,
    List.filterMap_append, List.filterMap_append, List.filterMap_cons_none ha]

/-- Members with `P` against members with `Q`: the two counts differ by those with only one. -/
theorem countP_exchange (P Q : α → Bool) (l : List α) :
    l.countP P + l.countP (fun a => !P a && Q a) = l.countP Q + l.countP (fun a => P a && !Q a) := by
  induction l with
  | nil => rfl
  | cons a l ih =>
    simp only [List.countP_cons]
    cases hP : P a <;> cases hQ : Q a <;> simp <;> omega

/-! ## Two views of the same parties -/

/-- Two lists of one length whose members are related index by index. -/
structure Paired (R : α → β → Prop) (l : List α) (m : List β) : Prop where
  length : l.length = m.length
  related : ∀ (i : Nat) (a : α) (b : β), l[i]? = some a → m[i]? = some b → R a b

namespace Paired

variable {R : α → β → Prop} {m : List β} {x : β}

theorem nil : Paired R [] ([] : List β) := ⟨rfl, fun _ _ _ h => by simp at h⟩

/-- The partner of a member. -/
theorem partner (h : Paired R l m) (hb : m[i]? = some x) : ∃ a, l[i]? = some a ∧ R a x := by
  have hi : i < l.length := by
    rw [h.length]
    exact (List.getElem?_eq_some_iff.1 hb).1
  exact ⟨l[i], List.getElem?_eq_getElem hi, h.related i _ x (List.getElem?_eq_getElem hi) hb⟩

theorem concat (h : Paired R l m) (hR : R a x) : Paired R (l ++ [a]) (m ++ [x]) := by
  refine ⟨by rw [List.length_append, List.length_append, h.length]; rfl, fun i a' b' ha hb => ?_⟩
  rw [List.getElem?_append] at ha hb
  rw [h.length] at ha
  split at ha
  · rename_i hi
    rw [if_pos hi] at hb
    exact h.related i a' b' ha hb
  · rename_i hi
    rw [if_neg hi] at hb
    rw [List.getElem?_singleton] at ha hb
    split at ha
    · rename_i h0
      rw [if_pos h0] at hb
      cases ha
      cases hb
      exact hR
    · cases ha

/-- Both views of one party change. -/
theorem set (h : Paired R l m) (hR : R a x) : Paired R (l.set i a) (m.set i x) := by
  refine ⟨by rw [List.length_set, List.length_set, h.length], fun j a' b' ha hb => ?_⟩
  rw [List.getElem?_set] at ha hb
  split at ha
  · rename_i hij
    rw [if_pos hij] at hb
    split at ha
    · split at hb
      · cases ha
        cases hb
        exact hR
      · cases hb
    · cases ha
  · rename_i hij
    rw [if_neg hij] at hb
    exact h.related j a' b' ha hb

/-- Only the second view of a party changes. -/
theorem set_right (h : Paired R l m) (ha : l[i]? = some a) (hR : R a x) :
    Paired R l (m.set i x) := by
  have hset := h.set (i := i) hR
  obtain ⟨hi, hget⟩ := List.getElem?_eq_some_iff.1 ha
  rw [← hget, List.set_getElem_self] at hset
  exact hset

theorem eraseIdx (h : Paired R l m) (i : Nat) : Paired R (l.eraseIdx i) (m.eraseIdx i) := by
  refine ⟨by rw [List.length_eraseIdx, List.length_eraseIdx, h.length], fun j a' b' ha hb => ?_⟩
  rw [List.getElem?_eraseIdx] at ha hb
  split at ha
  · rename_i hj
    rw [if_pos hj] at hb
    exact h.related j a' b' ha hb
  · rename_i hj
    rw [if_neg hj] at hb
    exact h.related (j + 1) a' b' ha hb

end Paired

end Population
