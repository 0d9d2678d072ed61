import Bwctl.Broker.Counting

/-!
# What the slots say about the live reservations

As long as every reservation is inserted cleanly, the slots are an exact account of the live
reservations: every second of a live reservation has a slot, a slot lies inside every live
reservation it overlaps, it counts them, and it carries the type of the typed ones.

* `Booked` — the account.
* `Booked.remove` — `ResRemove` of a live reservation keeps it.
* `Booked.insert` — a clean insertion keeps it.
* `Booked.compatible` — a reservation that is inserted conflicts with none of the live ones.
-/

set_option autoImplicit false

namespace Bwctl

open Intervals

/-- A kind of test that marks the slots it uses. -/
def TestType.Typed (t : TestType) : Prop := t = .throughput ∨ t = .latency

instance (t : TestType) : Decidable t.Typed := inferInstanceAs (Decidable (_ ∨ _))

/-- The mark a kind of test leaves on the slots it uses. -/
abbrev TestType.mark (t : TestType) : SlotType := slotTypeAfter t .slotAny

/-- The slots account for the live reservations. -/
structure Booked (ctx : Context) (slots : List TimeSlot) (live : List Reservation) : Prop where
  proper : ∀ r ∈ live, r.resStart ≤ r.resEnd
  count : ∀ u ∈ slots,
    u.numReservations = (live.countP (timeSlotHasReservation u) : Nat)
  within : ∀ u ∈ slots, ∀ r ∈ live, timeSlotHasReservation u r = true →
    r.resStart ≤ u.start ∧ u.end_ ≤ r.resEnd
  covered : ∀ r ∈ live, ∀ t, r.Covers t → ∃ u ∈ slots, u.Holds t
  marked : ∀ u ∈ slots, ∀ r ∈ live, timeSlotHasReservation u r = true →
    (r.testType ctx).Typed → u.type = (r.testType ctx).mark

theorem TestType.Typed.mark_ne {t : TestType} (h : t.Typed) : t.mark ≠ .slotAny := by
  rcases h with rfl | rfl <;> decide

/-- A test without a mark leaves the type of a slot as it is. -/
theorem slotTypeAfter_of_not_typed {t : TestType} (h : ¬ t.Typed) (ty : SlotType) :
    slotTypeAfter t ty = ty := by
  cases t with
  | undefined => rfl
  | throughput => exact absurd (Or.inl rfl) h
  | latency => exact absurd (Or.inr rfl) h
  | traceroute => rfl

theorem slotTypeAfter_of_typed {t : TestType} (h : t.Typed) (ty : SlotType) :
    slotTypeAfter t ty = t.mark := by
  rcases h with rfl | rfl <;> rfl

/-- Kinds of tests that exclude each other: one is throughput, and the other is throughput or
    latency. -/
def TestType.Excludes (t t' : TestType) : Prop :=
  t = .throughput ∧ t'.Typed ∨ t' = .throughput ∧ t.Typed

/-- Two reservations for kinds of tests that exclude each other, with a second that both cover. -/
def Conflict (ctx : Context) (r r' : Reservation) : Prop :=
  (∃ t, r.Covers t ∧ r'.Covers t) ∧ (r.testType ctx).Excludes (r'.testType ctx)

theorem Conflict.symm {ctx : Context} {r r' : Reservation} (h : Conflict ctx r r') :
    Conflict ctx r' r := by
  obtain ⟨⟨t, h1, h2⟩, h3⟩ := h
  exact ⟨⟨t, h2, h1⟩, h3.symm⟩

/-- An insertion that loses no slot type and leaves no second of the reservation without slot. -/
structure CleanInsert (ctx : Context) (slots : List TimeSlot) (r : Reservation) : Prop where
  tail : ∀ u ∈ slots, u.type ≠ .slotAny → u.start ≤ r.resEnd → u.end_ ≤ r.resEnd
  head : ¬ (r.testType ctx).Typed → ∀ u ∈ slots, u.type ≠ .slotAny → r.resStart ≤ u.end_ →
    r.resStart ≤ u.start
  gap : ∀ u ∈ slots, ∀ v ∈ slots, u.Meets r.resStart r.resEnd → v.Meets r.resStart r.resEnd →
    ∀ t, u.end_ < t → t < v.start → ∃ w ∈ slots, w.Holds t

instance (ctx : Context) (slots : List TimeSlot) (r : Reservation) :
    Decidable (CleanInsert ctx slots r) :=
  decidable_of_iff
    ((∀ u ∈ slots, u.type ≠ .slotAny → u.start ≤ r.resEnd → u.end_ ≤ r.resEnd) ∧
      (¬ (r.testType ctx).Typed → ∀ u ∈ slots, u.type ≠ .slotAny → r.resStart ≤ u.end_ →
        r.resStart ≤ u.start) ∧ NoGap slots r)
    ⟨fun ⟨h1, h2, h3⟩ => ⟨h1, h2, h3⟩, fun h => ⟨h.tail, h.head, h.gap⟩⟩

section Account

variable {ctx : Context} {slots slots' : List TimeSlot} {live rest : List Reservation}
  {r r' : Reservation} {u v : TimeSlot}

theorem Booked.nil (ctx : Context) : Booked ctx [] [] :=
  ⟨by simp, by simp, by simp, by simp, by simp⟩

/-- The order of the reservations does not matter. -/
theorem Booked.perm (h : Booked ctx slots live) (hp : live.Perm rest) : Booked ctx slots rest where
  proper r hr := h.proper r (hp.mem_iff.2 hr)
  count u hu := by rw [h.count u hu, hp.countP_eq]
  within u hu r hr := h.within u hu r (hp.mem_iff.2 hr)
  covered r hr := h.covered r (hp.mem_iff.2 hr)
  marked u hu r hr := h.marked u hu r (hp.mem_iff.2 hr)

/-- The marked slots count the live reservations. -/
theorem Booked.counted (h : Booked ctx slots live) : Counted slots live :=
  ⟨h.proper, h.count, h.within, h.covered⟩

/-- **Removing a live reservation** keeps the account. -/
theorem Booked.remove (h : Booked ctx slots (r :: rest)) : Booked ctx (resRemove slots r) rest := by
  have hcounted := h.counted.remove
  refine ⟨hcounted.proper, hcounted.count, hcounted.within, hcounted.covered, ?_⟩
  intro v hv r' hr' hhas
  obtain ⟨u, hu, -, -, hty, hh⟩ := resRemove_old hv
  rw [hty]
  exact h.marked u hu r' (List.mem_cons_of_mem _ hr') (by rw [← hh]; exact hhas)

/-- **A reservation that is inserted** conflicts with none of the live ones. -/
theorem Booked.compatible (h : Booked ctx slots live) (hins : Inserted ctx r slots slots') :
    ∀ r' ∈ live, ¬ Conflict ctx r r' := by
  rintro r' hr' ⟨⟨t, ht, ht'⟩, hkind⟩
  obtain ⟨u, hu, hut⟩ := h.covered r' hr' t ht'
  have hhas := hasReservation_of_covers hut ht'
  have hcan := hins.canUse hu ⟨hut.1.trans ht.2, ht.1.trans hut.2⟩
  have hmark := h.marked u hu r' hr' hhas
  rcases hkind with ⟨hr, h1⟩ | ⟨h1, hr | hr⟩
  · have := hmark h1
    rw [canUse_throughput hcan hr] at this
    exact h1.mark_ne this.symm
  · have := hmark (Or.inl h1)
    rw [canUse_throughput hcan hr, h1] at this
    cases this
  · have := hmark (Or.inl h1)
    rw [h1] at this
    exact canUse_latency hcan hr this

section Insert

variable (h : Booked ctx slots live) (hord : SlotsOrdered slots)
  (hins : Inserted ctx r slots slots') (hse : r.resStart ≤ r.resEnd)

include h hord hins hse

/-- **A clean insertion** keeps the account. -/
theorem Booked.insert (hclean : CleanInsert ctx slots r) : Booked ctx slots' (r :: live) := by
  have hcounted := h.counted.insert hord hins hse hclean.gap
  refine ⟨hcounted.proper, hcounted.count, hcounted.within, hcounted.covered, ?_⟩
  intro v hv r' hr' hhas hkind
  have hlive : ∀ u ∈ slots, PartOf live u v → r' ∈ live → u.type = (r'.testType ctx).mark :=
    fun u hu hp hr' => h.marked u hu r' hr' (by rw [← hp.same r' hr']; exact hhas) hkind
  cases h.counted.origin hord hins hse hv with
  | kept u hu hp hno _ hty =>
    rcases List.mem_cons.1 hr' with rfl | hr'
    · rw [hno] at hhas; cases hhas
    · rw [hty, hlive u hu hp hr']
  | cutOff u hu hp hno _ h1 h2 =>
    rcases List.mem_cons.1 hr' with rfl | hr'
    · rw [hno] at hhas; cases hhas
    · have := hclean.tail u hu (by rw [hlive u hu hp hr']; exact hkind.mark_ne) h1
      omega
  | shared u hu hp _ _ hmeet hty _ _ =>
    rcases List.mem_cons.1 hr' with rfl | hr'
    · rw [hty, slotTypeAfter_of_typed hkind]
    have hu' := hlive u hu hp hr'
    have hne : u.type ≠ .slotAny := by rw [hu']; exact hkind.mark_ne
    have hcan := hins.canUse hu hmeet
    by_cases hr : (r.testType ctx).Typed
    · -- only a latency test shares a marked slot, and the mark is its own
      rw [hty, slotTypeAfter_of_typed hr]
      rcases hr with hr | hr
      · exact absurd (canUse_throughput hcan hr) hne
      · rcases hkind with hr' | hr'
        · rw [hr'] at hu'
          exact absurd hu' (canUse_latency hcan hr)
        · rw [hr, hr']
    · have := hclean.head hr u hu hne hmeet.2
      rw [hty, slotTypeAfter_of_not_typed hr, if_neg (by omega), hu']
  | fresh hnone _ _ hty _ _ =>
    rcases List.mem_cons.1 hr' with rfl | hr'
    · exact hty
    · rw [hnone r' hr'] at hhas; cases hhas

end Insert

end Account

end Bwctl
