import Bwctl.Broker.SlotList

/-!
# Slots that count the live reservations

As long as no reservation spans seconds between two slots that have no slot themselves, the counts
of the slots are an account of the live reservations: every second of a live reservation has a
slot, a slot lies inside every live reservation it overlaps, and it counts them.

* `Counted` — the account.
* `Counted.origin` — where a slot comes from when a reservation was inserted.
* `Counted.remove`, `Counted.insert` — removals and insertions without gaps keep it.
-/

set_option autoImplicit false

namespace Bwctl

open Intervals

/-- The slots count the live reservations. -/
structure Counted (slots : List TimeSlot) (live : List Reservation) : Prop where
  proper : ∀ r ∈ live, r.resStart ≤ r.resEnd
  count : ∀ u ∈ slots,
    u.numReservations = (live.countP (timeSlotHasReservation u) : Nat)
  within : ∀ u ∈ slots, ∀ r ∈ live, timeSlotHasReservation u r = true →
    r.resStart ≤ u.start ∧ u.end_ ≤ r.resEnd
  covered : ∀ r ∈ live, ∀ t, r.Covers t → ∃ u ∈ slots, u.Holds t

/-- **No gap**: a second between two overlapped slots has a slot. -/
def NoGap (slots : List TimeSlot) (r : Reservation) : Prop :=
  ∀ u ∈ slots, ∀ v ∈ slots, u.Meets r.resStart r.resEnd → v.Meets r.resStart r.resEnd →
    ∀ t, u.end_ < t → t < v.start → ∃ w ∈ slots, w.Holds t

instance (slots : List TimeSlot) (r : Reservation) : Decidable (NoGap slots r) :=
  decidable_of_iff (∀ u ∈ slots, ∀ v ∈ slots, u.Meets r.resStart r.resEnd →
    v.Meets r.resStart r.resEnd → ∀ t, u.end_ + 1 ≤ t → t < v.start → ∃ w ∈ slots, w.Holds t)
    Iff.rfl

/-- `v` is a part of the slot `u` and overlaps the same live reservations. -/
structure PartOf (live : List Reservation) (u v : TimeSlot) : Prop where
  start_le : u.start ≤ v.start
  le_end : v.end_ ≤ u.end_
  same : ∀ r ∈ live, timeSlotHasReservation v r = timeSlotHasReservation u r

/-- Where a slot comes from when `r` was inserted, seen from the live reservations. -/
inductive Origin (ctx : Context) (slots : List TimeSlot) (live : List Reservation)
    (r : Reservation) (v : TimeSlot) : Prop
  | kept (u : TimeSlot) : u ∈ slots → PartOf live u v → timeSlotHasReservation v r = false →
      v.numReservations = u.numReservations → v.type = u.type → Origin ctx slots live r v
  | cutOff (u : TimeSlot) : u ∈ slots → PartOf live u v → timeSlotHasReservation v r = false →
      v.numReservations = u.numReservations → u.start ≤ r.resEnd → r.resEnd < u.end_ →
      Origin ctx slots live r v
  | shared (u : TimeSlot) : u ∈ slots → PartOf live u v → timeSlotHasReservation v r = true →
      v.numReservations = u.numReservations + 1 → u.Meets r.resStart r.resEnd →
      v.type = slotTypeAfter (r.testType ctx)
        (if u.start < r.resStart then .slotAny else u.type) →
      r.resStart ≤ v.start → v.end_ ≤ r.resEnd → Origin ctx slots live r v
  | fresh : (∀ r' ∈ live, timeSlotHasReservation v r' = false) →
      timeSlotHasReservation v r = true → v.numReservations = 1 →
      v.type = slotTypeAfter (r.testType ctx) .slotAny →
      r.resStart ≤ v.start → v.end_ ≤ r.resEnd → Origin ctx slots live r v

section Account

variable {ctx : Context} {slots slots' : List TimeSlot} {live rest : List Reservation}
  {r r' : Reservation} {u v : TimeSlot}

theorem Counted.nil : Counted [] [] := ⟨by simp, by simp, by simp, by simp⟩

/-- The order of the reservations does not matter. -/
theorem Counted.perm (h : Counted slots live) (hp : live.Perm rest) : Counted slots rest where
  proper r hr := h.proper r (hp.mem_iff.2 hr)
  count u hu := by rw [h.count u hu, hp.countP_eq]
  within u hu r hr := h.within u hu r (hp.mem_iff.2 hr)
  covered r hr := h.covered r (hp.mem_iff.2 hr)

/-- A slot counts at least the live reservations that overlap it. -/
theorem Counted.num_ne_one (h : Counted slots (r :: rest)) (hu : u ∈ slots)
    (hr : timeSlotHasReservation u r = true) (hr' : r' ∈ rest)
    (hu' : timeSlotHasReservation u r' = true) : u.numReservations ≠ 1 := by
  have hpos : 0 < rest.countP (timeSlotHasReservation u) := List.countP_pos_iff.2 ⟨r', hr', hu'⟩
  rw [h.count u hu, List.countP_cons, if_pos hr]
  omega

/-- A slot that is left by a removal has the seconds and the type of an old one. -/
theorem resRemove_old (hv : v ∈ resRemove slots r) : ∃ u ∈ slots, v.start = u.start ∧
    v.end_ = u.end_ ∧ v.type = u.type ∧
      ∀ r', timeSlotHasReservation v r' = timeSlotHasReservation u r' := by
  obtain ⟨u, hu, ⟨-, rfl⟩ | ⟨-, -, rfl⟩⟩ := mem_resRemove.1 hv
  · exact ⟨v, hu, rfl, rfl, rfl, fun _ => rfl⟩
  · exact ⟨u, hu, rfl, rfl, rfl, fun _ => rfl⟩

/-- **Removing a live reservation** keeps the account. -/
theorem Counted.remove (h : Counted slots (r :: rest)) : Counted (resRemove slots r) rest := by
  refine ⟨fun r' hr' => h.proper r' (List.mem_cons_of_mem _ hr'), fun v hv => ?_,
    fun v hv r' hr' hhas => ?_, fun r' hr' t ht => ?_⟩
  · obtain ⟨u, hu, ⟨hhas, rfl⟩ | ⟨hhas, -, rfl⟩⟩ := mem_resRemove.1 hv
    · have hc := h.count _ hu
      rwa [List.countP_cons, if_neg (by simp [hhas])] at hc
    · have hc := h.count u hu
      rw [List.countP_cons, if_pos hhas] at hc
      show u.numReservations - 1 = (rest.countP (timeSlotHasReservation u) : Nat)
      omega
  · obtain ⟨u, hu, hs, he, -, hh⟩ := resRemove_old hv
    rw [hs, he]
    exact h.within u hu r' (List.mem_cons_of_mem _ hr') (by rw [← hh]; exact hhas)
  · obtain ⟨u, hu, hut⟩ := h.covered r' (List.mem_cons_of_mem _ hr') t ht
    cases hhas : timeSlotHasReservation u r with
    | false => exact ⟨u, mem_resRemove.2 ⟨u, hu, Or.inl ⟨hhas, rfl⟩⟩, hut⟩
    | true =>
      have hne := h.num_ne_one hu hhas hr' (hasReservation_of_covers hut ht)
      exact ⟨_, mem_resRemove.2 ⟨u, hu, Or.inr ⟨hhas, hne, rfl⟩⟩, hut⟩

/-- The slots that overlap an inserted reservation can all be shared. -/
theorem Inserted.canUse (hins : Inserted ctx r slots slots') (hu : u ∈ slots)
    (hmeet : u.Meets r.resStart r.resEnd) : reservationCanUseSlot ctx r u = true := by
  obtain ⟨before, ov, after, rfl, -, hb, hov, ha⟩ := hins.split
  obtain ⟨h1, h2⟩ := hmeet
  rcases List.mem_append.1 hu with hu | hu
  · rcases List.mem_append.1 hu with hu | hu
    · have := hb u hu; omega
    · exact (hov u hu).2
  · have := ha u hu; omega

/-- A non-empty part of a slot overlaps the live reservations that the slot lies inside of. -/
theorem Counted.partOf (h : Counted slots live) (hu : u ∈ slots) (hs : u.start ≤ v.start)
    (hv : v.start ≤ v.end_) (he : v.end_ ≤ u.end_) : PartOf live u v := by
  refine ⟨hs, he, fun r' hr' => ?_⟩
  rw [Bool.eq_iff_iff, hasReservation_iff, hasReservation_iff]
  constructor
  · rintro ⟨h1, h2⟩
    omega
  · intro hm
    have := h.within u hu r' hr' (hasReservation_iff.2 hm)
    omega

/-- Seconds without a slot belong to no live reservation. -/
theorem Counted.not_has_of_off (h : Counted slots live) (hv : v.start ≤ v.end_)
    (hoff : ∀ u ∈ slots, v.end_ < u.start ∨ u.end_ < v.start) :
    ∀ r' ∈ live, timeSlotHasReservation v r' = false := by
  intro r' hr'
  have hp := h.proper r' hr'
  rw [hasReservation_eq_false]
  by_contra hno
  obtain ⟨u, hu, hut⟩ := h.covered r' hr' (max v.start r'.resStart) ⟨le_max_right _ _, by omega⟩
  obtain ⟨h1, h2⟩ := hut
  have := hoff u hu
  omega

section Insert

variable (h : Counted slots live) (hord : SlotsOrdered slots)
  (hins : Inserted ctx r slots slots') (hse : r.resStart ≤ r.resEnd)

include h hord hins hse

/-- **The origin of every slot after an insertion.** -/
theorem Counted.origin (hv : v ∈ slots') : Origin ctx slots live r v := by
  have hvp := (hins.ordered hord hse).proper v hv
  rcases hins.mem_cases hord hse hv with
    ⟨hv, hoff⟩ | ⟨u, hu, hmeet, -, hvu⟩ | ⟨a, b, rfl, h1, h2, h3, hoff⟩
  · exact .kept v hv ⟨le_rfl, le_rfl, fun _ _ => rfl⟩ (hasReservation_eq_false.2 hoff.symm) rfl rfl
  · obtain ⟨-, hsub⟩ := cutSlot_ordered ctx r hse (hord.proper u hu) hmeet
    have hpart := h.partOf hu (hsub v hvu).1 hvp (hsub v hvu).2
    rcases mem_cutSlot.1 hvu with ⟨-, rfl⟩ | rfl | ⟨htail, rfl⟩
    · refine .kept u hu hpart (hasReservation_eq_false.2 (Or.inr ?_)) rfl rfl
      exact Int.sub_one_lt_of_le le_rfl
    · refine .shared u hu hpart (hasReservation_iff.2 ⟨?_, ?_⟩) rfl hmeet rfl ?_ ?_
      · exact max_le hmeet.1 hse
      · exact le_min hmeet.2 hse
      · exact le_max_right _ _
      · exact min_le_right _ _
    · exact .cutOff u hu hpart (hasReservation_eq_false.2 (Or.inl (Int.lt_succ _))) rfl hmeet.1 htail
  · exact .fresh (h.not_has_of_off h2 hoff) (hasReservation_iff.2 ⟨h2.trans h3, h1.trans h2⟩) rfl rfl
      h1 h3

/-- **An insertion without gaps** keeps the account. -/
theorem Counted.insert (hgap : NoGap slots r) : Counted slots' (r :: live) := by
  refine ⟨?_, fun v hv => ?_, fun v hv r' hr' hhas => ?_, fun r' hr' t ht => ?_⟩
  · intro r' hr'
    rcases List.mem_cons.1 hr' with rfl | hr'
    · exact hse
    · exact h.proper r' hr'
  · have hsame : ∀ u, PartOf live u v →
        live.countP (timeSlotHasReservation v) = live.countP (timeSlotHasReservation u) :=
      fun u hp => List.countP_congr fun r' hr' => by rw [hp.same r' hr']
    cases h.origin hord hins hse hv with
    | kept u hu hp hno hnum _ =>
      rw [List.countP_cons, if_neg (by simp [hno]), hnum, hsame u hp, h.count u hu]; rfl
    | cutOff u hu hp hno hnum _ _ =>
      rw [List.countP_cons, if_neg (by simp [hno]), hnum, hsame u hp, h.count u hu]; rfl
    | shared u hu hp hyes hnum _ _ _ _ =>
      rw [List.countP_cons, if_pos hyes, hnum, hsame u hp, h.count u hu]; rfl
    | fresh hnone hyes hnum _ _ _ =>
      have h0 : live.countP (timeSlotHasReservation v) = 0 :=
        List.countP_eq_zero.2 fun r' hr' => by simp [hnone r' hr']
      rw [List.countP_cons, if_pos hyes, hnum, h0]; rfl
  · have hlive : ∀ u ∈ slots, PartOf live u v → r' ∈ live →
        r'.resStart ≤ v.start ∧ v.end_ ≤ r'.resEnd := fun u hu hp hr' => by
      have := h.within u hu r' hr' (by rw [← hp.same r' hr']; exact hhas)
      have := hp.start_le
      have := hp.le_end
      omega
    cases h.origin hord hins hse hv with
    | kept u hu hp hno _ _ =>
      rcases List.mem_cons.1 hr' with rfl | hr'
      · rw [hno] at hhas; cases hhas
      · exact hlive u hu hp hr'
    | cutOff u hu hp hno _ _ _ =>
      rcases List.mem_cons.1 hr' with rfl | hr'
      · rw [hno] at hhas; cases hhas
      · exact hlive u hu hp hr'
    | shared u hu hp _ _ _ _ h1 h2 =>
      rcases List.mem_cons.1 hr' with rfl | hr'
      · exact ⟨h1, h2⟩
      · exact hlive u hu hp hr'
    | fresh hnone _ _ _ h1 h2 =>
      rcases List.mem_cons.1 hr' with rfl | hr'
      · exact ⟨h1, h2⟩
      · rw [hnone r' hr'] at hhas; cases hhas
  · rcases List.mem_cons.1 hr' with rfl | hr'
    · refine hins.holds_new hord hse ht ?_
      by_contra hno
      push Not at hno
      obtain ⟨hnone, ⟨u, hu, hmu, h1⟩, v, hv, hmv, h2⟩ := hno
      obtain ⟨w, hw, hwt⟩ := hgap u hu v hv hmu hmv t h1 h2
      exact hnone w hw hwt
    · obtain ⟨u, hu, hut⟩ := h.covered r' hr' t ht
      exact hins.holds_old hord hse hu hut

end Insert

end Account

end Bwctl
