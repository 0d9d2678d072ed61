import Mathlib.Tactic

/-!
# Ordered lists of disjoint intervals

Lists whose elements occupy closed integer intervals `[lo a, hi a]`, in order and pairwise
disjoint.  The elements may carry anything else.

* `Ordered.append_iff` — concatenation.
* `Ordered.filterMap` — dropping and relabelling elements in place.
* `Ordered.flatMap` — cutting each element into pieces.
-/

set_option autoImplicit false

namespace Intervals

variable {α : Type*} {lo hi : α → Int}

/-- In order, pairwise disjoint and none of them empty. -/
structure Ordered (lo hi : α → Int) (l : List α) : Prop where
  sorted : l.Pairwise fun a b => hi a < lo b
  proper : ∀ a ∈ l, lo a ≤ hi a

instance (lo hi : α → Int) (l : List α) : Decidable (Ordered lo hi l) :=
  decidable_of_iff ((l.Pairwise fun a b => hi a < lo b) ∧ ∀ a ∈ l, lo a ≤ hi a)
    ⟨fun h => ⟨h.1, h.2⟩, fun h => ⟨h.sorted, h.proper⟩⟩

theorem Ordered.nil : Ordered lo hi [] := ⟨List.Pairwise.nil, by simp⟩

theorem Ordered.singleton {a : α} (h : lo a ≤ hi a) : Ordered lo hi [a] :=
  ⟨List.pairwise_singleton _ a, by simpa using h⟩

theorem Ordered.cons_iff {a : α} {l : List α} :
    Ordered lo hi (a :: l) ↔ lo a ≤ hi a ∧ (∀ b ∈ l, hi a < lo b) ∧ Ordered lo hi l := by
  constructor
  · rintro ⟨hs, hp⟩
    obtain ⟨hlt, hs⟩ := List.pairwise_cons.1 hs
    exact ⟨hp a List.mem_cons_self, hlt, hs, fun b hb => hp b (List.mem_cons_of_mem a hb)⟩
  · rintro ⟨ha, hlt, hs, hp⟩
    refine ⟨List.pairwise_cons.2 ⟨hlt, hs⟩, fun b hb => ?_⟩
    rcases List.mem_cons.1 hb with rfl | hb
    · exact ha
    · exact hp b hb

theorem Ordered.append_iff {l m : List α} :
    Ordered lo hi (l ++ m) ↔
      Ordered lo hi l ∧ Ordered lo hi m ∧ ∀ a ∈ l, ∀ b ∈ m, hi a < lo b := by
  constructor
  · rintro ⟨hs, hp⟩
    obtain ⟨hl, hm, hlm⟩ := List.pairwise_append.1 hs
    exact ⟨⟨hl, fun a ha => hp a (List.mem_append_left m ha)⟩,
      ⟨hm, fun a ha => hp a (List.mem_append_right l ha)⟩, hlm⟩
  · rintro ⟨hl, hm, hlm⟩
    refine ⟨List.pairwise_append.2 ⟨hl.sorted, hm.sorted, hlm⟩, fun a ha => ?_⟩
    rcases List.mem_append.1 ha with ha | ha
    · exact hl.proper a ha
    · exact hm.proper a ha

/-- Dropping elements and relabelling others in place. -/
theorem Ordered.filterMap {l : List α} (h : Ordered lo hi l) {f : α → Option α}
    (hf : ∀ a b, f a = some b → lo b = lo a ∧ hi b = hi a) : Ordered lo hi (l.filterMap f) := by
  refine ⟨h.sorted.filterMap f fun a a' haa' b hb b' hb' => ?_, fun b hb => ?_⟩
  · have h1 := hf a b hb
    have h2 := hf a' b' hb'
    omega
  · obtain ⟨a, ha, hab⟩ := List.mem_filterMap.1 hb
    have h1 := hf a b hab
    have h2 := h.proper a ha
    omega

/-- Cutting each element into ordered pieces of itself. -/
theorem Ordered.flatMap {l : List α} (h : Ordered lo hi l) {f : α → List α}
    (hf : ∀ a ∈ l, Ordered lo hi (f a) ∧ ∀ b ∈ f a, lo a ≤ lo b ∧ hi b ≤ hi a) :
    Ordered lo hi (l.flatMap f) := by
  induction l with
  | nil => exact Ordered.nil
  | cons a l ih =>
    obtain ⟨-, hlt, hl⟩ := Ordered.cons_iff.1 h
    rw [List.flatMap_cons]
    refine Ordered.append_iff.2 ⟨(hf a List.mem_cons_self).1,
      ih hl fun b hb => hf b (List.mem_cons_of_mem a hb), fun b hb c hc => ?_⟩
    obtain ⟨d, hd, hcd⟩ := List.mem_flatMap.1 hc
    have h1 := (hf a List.mem_cons_self).2 b hb
    have h2 := (hf d (List.mem_cons_of_mem a hd)).2 c hcd
    have h3 := hlt d hd
    omega

end Intervals
