import Mathlib.Tactic

/-!
# Records with two keys

A list of records gives the first key of each and, for some, a second one.  The index by the second
key is derived from it; where both keys are unique, taking a record out of the list takes its entry
out of the index.

* `index_append`, `index_remove` — the index of a longer and of a shorter list.
* `WellKeyed.append`, `WellKeyed.filter` — the keys stay unique.
* `filter_eq_eraseIdx` — a record is taken out at its place.
-/

set_option autoImplicit false

namespace Registry

variable {κ φ : Type*} {K : List (κ × Option φ)}

/-- The index by the second key. -/
def index (K : List (κ × Option φ)) : List (φ × κ) := K.filterMap fun k => k.2.map fun f => (f, k.1)

/-- Both keys are unique. -/
structure WellKeyed (K : List (κ × Option φ)) : Prop where
  first : (K.map Prod.fst).Nodup
  second : ((index K).map Prod.fst).Nodup

@[simp] theorem index_nil : index ([] : List (κ × Option φ)) = [] := rfl

@[simp] theorem index_append (K L : List (κ × Option φ)) : index (K ++ L) = index K ++ index L :=
  List.filterMap_append

@[simp] theorem mem_index {f : φ} {k : κ} : (f, k) ∈ index K ↔ (k, some f) ∈ K := by
  unfold index
  rw [List.mem_filterMap]
  constructor
  · rintro ⟨⟨k', f'?⟩, hmem, hf⟩
    cases f'? with
    | none => cases hf
    | some f' =>
      cases hf
      exact hmem
  · exact fun h => ⟨(k, some f), h, rfl⟩

theorem wellKeyed_nil : WellKeyed ([] : List (κ × Option φ)) := ⟨List.nodup_nil, List.nodup_nil⟩

/-- A first key belongs to one record. -/
theorem WellKeyed.eq_of_first (h : WellKeyed K) {k : κ} {f f' : Option φ} (hf : (k, f) ∈ K)
    (hf' : (k, f') ∈ K) : f = f' := by
  have heq := List.inj_on_of_nodup_map h.first hf hf' rfl
  exact congrArg Prod.snd heq

/-- A second key belongs to one record. -/
theorem WellKeyed.eq_of_second (h : WellKeyed K) {k k' : κ} {f : φ} (hk : (k, some f) ∈ K)
    (hk' : (k', some f) ∈ K) : k = k' := by
  have heq := List.inj_on_of_nodup_map h.second (mem_index.2 hk) (mem_index.2 hk') rfl
  exact congrArg Prod.snd heq

/-- **The index without a record** is the index without its entry. -/
theorem index_remove [DecidableEq κ] [DecidableEq φ] (h : WellKeyed K) {k : κ} {f : φ} (hk : (k, some f) ∈ K) :
    index (K.filter (·.1 ≠ k)) = (index K).filter (·.1 ≠ f) := by
  unfold index
  rw [List.filterMap_filter, List.filter_filterMap]
  refine List.filterMap_congr fun x hx => ?_
  obtain ⟨k', f'?⟩ := x
  by_cases hkk : k' = k
  · subst hkk
    have hf := h.eq_of_first hx hk
    subst hf
    simp [Option.filter]
  · cases f'? with
    | none => simp [hkk]
    | some f' =>
      have hff : f' ≠ f := fun heq => hkk (h.eq_of_second (heq ▸ hx) hk)
      simp [hkk, hff, Option.filter]

/-- A record without a second key is not in the index. -/
theorem index_remove_none [DecidableEq κ] (h : WellKeyed K) {k : κ} (hk : (k, none) ∈ K) :
    index (K.filter (·.1 ≠ k)) = index K := by
  unfold index
  rw [List.filterMap_filter]
  refine List.filterMap_congr fun x hx => ?_
  obtain ⟨k', f'?⟩ := x
  by_cases hkk : k' = k
  · subst hkk
    have hf := h.eq_of_first hx hk
    subst hf
    simp
  · simp [hkk]

theorem WellKeyed.filter (h : WellKeyed K) (p : κ × Option φ → Bool) : WellKeyed (K.filter p) := by
  refine ⟨h.first.sublist (List.filter_sublist.map _), h.second.sublist (List.Sublist.map _ ?_)⟩
  exact List.filter_sublist.filterMap _

theorem nodup_concat {α : Type*} {l : List α} {a : α} (h : l.Nodup) (ha : a ∉ l) :
    (l ++ [a]).Nodup := by
  rw [← List.concat_eq_append]
  exact h.concat ha

/-- A record with new keys. -/
theorem WellKeyed.append (h : WellKeyed K) {k : κ} {f : φ} (hk : k ∉ K.map Prod.fst)
    (hf : f ∉ (index K).map Prod.fst) : WellKeyed (K ++ [(k, some f)]) := by
  refine ⟨?_, ?_⟩
  · rw [List.map_append]
    exact nodup_concat h.first hk
  · rw [index_append, List.map_append]
    exact nodup_concat h.second hf

/-- **A record is taken out at its place.** -/
theorem filter_eq_eraseIdx [DecidableEq κ] {α : Type*} {l : List α} {g : α → κ}
    (h : (l.map g).Nodup) {i : Nat} {a : α} (hi : l[i]? = some a) :
    l.filter (fun b => g b ≠ g a) = l.eraseIdx i := by
  induction l generalizing i with
  | nil => cases hi
  | cons b l ih =>
    rw [List.map_cons, List.nodup_cons] at h
    cases i with
    | zero =>
      cases hi
      rw [List.eraseIdx_cons_zero, List.filter_cons_of_neg (by simp), List.filter_eq_self]
      intro c hc
      have hne : g c ≠ g a := fun heq => h.1 (heq ▸ List.mem_map_of_mem hc)
      simpa using hne
    | succ i =>
      have ha : a ∈ l := List.mem_of_getElem? hi
      have hne : g b ≠ g a := fun heq => h.1 (heq ▸ List.mem_map_of_mem ha)
      rw [List.eraseIdx_cons_succ, List.filter_cons_of_pos (by simpa using hne), ih h.2 hi]

end Registry
