import Bwctl.Broker.ReservationDemand
import Bwctl.Lib.Intervals

/-!
# What the insertion of a reservation does to the slots

The insertion cuts every overlapped slot at the edges of the reservation, adds the
reservation to the inner part, and creates slots for the seconds before the first and behind
the last overlapped slot.  The seconds between two overlapped slots get no slot, and every
part cut off by `TimeSlotSplit` behind the split has type `SLOT_ANY`.

* `place_eq` — the edits as one cut of every overlapped slot, between two created slots.
* `Placed.ordered` — the result is ordered.
* `Placed.mem_cases` — where a slot of the result comes from.
* `Placed.covers` — which seconds of the reservation get a slot.
-/

set_option autoImplicit false

namespace Bwctl

open Intervals

/-- Slots in order, disjoint and not empty. -/
abbrev SlotsOrdered (slots : List TimeSlot) : Prop :=
  Ordered TimeSlot.start TimeSlot.end_ slots

section Cut

variable (ctx : Context) (res : Reservation) (s e : Int)

/-- The part of a slot before the seconds `[s, e]` of a reservation. -/
def headPart (slot : TimeSlot) : TimeSlot := { slot with end_ := s - 1 }

/-- The part of a slot inside the reservation; cut off in front it has lost its type. -/
def innerPart (slot : TimeSlot) : TimeSlot :=
  timeSlotAddReservation ctx
    { slot with
      type := if slot.start < s then .slotAny else slot.type
      start := max slot.start s
      end_ := min slot.end_ e } res

/-- The part of a slot behind the reservation. -/
def tailPart (slot : TimeSlot) : TimeSlot := { slot with type := .slotAny, start := e + 1 }

/-- A slot cut at the edges of the reservation. -/
def cutSlot (slot : TimeSlot) : List TimeSlot :=
  (if slot.start < s then [headPart s slot] else []) ++
    innerPart ctx res s e slot :: if e < slot.end_ then [tailPart e slot] else []

/-- The slot created in front of the overlapped slots, whose starts are given, if any. -/
def Lead (starts : List Int) (lead : List TimeSlot) : Prop :=
  lead = [] ∧ (∃ a ∈ starts, a ≤ s) ∨
    ∃ b, lead = [timeSlotCreate ctx res s b] ∧ s ≤ b ∧ b ≤ e ∧
      (∀ a ∈ starts, b < a) ∧ (b = e ∨ b + 1 ∈ starts)

/-- The slot created behind the overlapped slots, whose ends are given, if any. -/
def Trail (ends : List Int) (trail : List TimeSlot) : Prop :=
  trail = [] ∧ (ends = [] ∨ ∃ b ∈ ends, e ≤ b) ∨
    ∃ a, trail = [timeSlotCreate ctx res a e] ∧ s ≤ a ∧ a ≤ e ∧
      (∀ b ∈ ends, b < a) ∧ a - 1 ∈ ends

/-- The slots an insertion leaves in place of the overlapped slots. -/
def placeAll : List TimeSlot → List TimeSlot
  | [] => [timeSlotCreate ctx res s e]
  | first :: more => place ctx res s e first more

end Cut

/-- A slot and the seconds `[s, e]` overlap. -/
abbrev TimeSlot.Meets (slot : TimeSlot) (s e : Int) : Prop := slot.start ≤ e ∧ s ≤ slot.end_

section Place

variable {ctx : Context} {res : Reservation} {s e : Int}

theorem mem_cutSlot {slot v : TimeSlot} :
    v ∈ cutSlot ctx res s e slot ↔ (slot.start < s ∧ v = headPart s slot) ∨
      v = innerPart ctx res s e slot ∨ (e < slot.end_ ∧ v = tailPart e slot) := by
  unfold cutSlot
  split <;> split <;> simp [*]

/-- A slot that does not start before the reservation keeps its start and type. -/
theorem innerPart_of_le {slot : TimeSlot} (h : s ≤ slot.start) :
    innerPart ctx res s e slot =
      timeSlotAddReservation ctx { slot with end_ := min slot.end_ e } res := by
  unfold innerPart
  rw [if_neg (by omega), max_eq_left h]

/-- The first half of a split slot stays, and the second half is cut like the slot itself. -/
theorem cutSlot_of_lt {slot : TimeSlot} (h : slot.start < s) :
    cutSlot ctx res s e slot =
      (timeSlotSplit slot s).1 :: cutSlot ctx res s e (timeSlotSplit slot s).2 := by
  have hinner : innerPart ctx res s e slot = innerPart ctx res s e (timeSlotSplit slot s).2 := by
    unfold innerPart
    rw [if_pos h, max_eq_right h.le]
    simp [timeSlotSplit]
  have hnot : ¬ (timeSlotSplit slot s).2.start < s := lt_irrefl s
  unfold cutSlot
  rw [if_pos h, hinner, if_neg hnot]
  rfl

variable (ctx res) in
/-- From the first overlapped slot on, when it does not start before the reservation. -/
theorem addToSlots_eq : ∀ {first : TimeSlot} {more : List TimeSlot},
    s ≤ first.start → SlotsOrdered (first :: more) → (∀ u ∈ first :: more, u.Meets s e) →
    ∃ trail, Trail ctx res s e ((first :: more).map TimeSlot.end_) trail ∧
      addToSlots ctx res e first more = (first :: more).flatMap (cutSlot ctx res s e) ++ trail
  | first, [], hfirst, hord, hmeet => by
    have hp := hord.proper first (by simp)
    have hf := hmeet first (by simp)
    have hcut : cutSlot ctx res s e first =
        innerPart ctx res s e first :: if e < first.end_ then [tailPart e first] else [] := by
      unfold cutSlot; rw [if_neg (by omega)]; rfl
    rw [List.flatMap_singleton, hcut, innerPart_of_le hfirst]
    simp only [addToSlots, closeLastSlot]
    by_cases h1 : e < first.end_
    · rw [if_pos (by omega), if_pos h1, min_eq_right (by omega)]
      refine ⟨[], Or.inl ⟨rfl, Or.inr ⟨first.end_, by simp, by omega⟩⟩, ?_⟩
      simp [timeSlotSplit, tailPart]
    · rw [if_neg (by omega), if_neg h1, min_eq_left (by omega)]
      by_cases h2 : first.end_ < e
      · rw [if_pos (by omega)]
        exact ⟨_, Or.inr ⟨first.end_ + 1, rfl, by omega, by omega, by simp, by simp⟩, rfl⟩
      · rw [if_neg (by omega)]
        exact ⟨[], Or.inl ⟨rfl, Or.inr ⟨first.end_, by simp, by omega⟩⟩, rfl⟩
  | first, next :: more, hfirst, hord, hmeet => by
    obtain ⟨hp, hlt, hord'⟩ := Ordered.cons_iff.1 hord
    have hnext := hlt next List.mem_cons_self
    have hm := hmeet next (by simp)
    obtain ⟨trail, htrail, heq⟩ :=
      addToSlots_eq (by omega) hord'
        fun u hu => hmeet u (List.mem_cons_of_mem _ hu)
    have hcut : cutSlot ctx res s e first = [timeSlotAddReservation ctx first res] := by
      unfold cutSlot
      rw [if_neg (by omega), if_neg (by omega), innerPart_of_le hfirst, min_eq_left (by omega)]
      rfl
    refine ⟨trail, ?_, ?_⟩
    · have hend := hord'.proper next List.mem_cons_self
      rcases htrail with ⟨h0, h1⟩ | ⟨a, h0, h1, h2, h3, h4⟩
      · obtain ⟨b, hb, hle⟩ := h1.resolve_left (by simp)
        exact Or.inl ⟨h0, Or.inr ⟨b, List.mem_cons_of_mem _ hb, hle⟩⟩
      · have := h3 next.end_ (by simp)
        refine Or.inr ⟨a, h0, h1, h2, fun b hb => ?_, List.mem_cons_of_mem _ h4⟩
        rcases List.mem_cons.1 hb with rfl | hb
        · omega
        · exact h3 b hb
    · have hflat : (first :: next :: more).flatMap (cutSlot ctx res s e) =
          cutSlot ctx res s e first ++ (next :: more).flatMap (cutSlot ctx res s e) :=
        List.flatMap_cons
      rw [addToSlots, heq, hflat, hcut]
      rfl

variable (ctx res) in
/-- **The edits of an insertion: the overlapped slots cut, between slots created up to the edges
    of the reservation.** -/
theorem placeAll_eq (hse : s ≤ e) : ∀ {ov : List TimeSlot},
    SlotsOrdered ov → (∀ u ∈ ov, u.Meets s e) →
    ∃ lead trail, Lead ctx res s e (ov.map TimeSlot.start) lead ∧
      Trail ctx res s e (ov.map TimeSlot.end_) trail ∧
      placeAll ctx res s e ov = lead ++ ov.flatMap (cutSlot ctx res s e) ++ trail
  | [], _, _ =>
    ⟨[timeSlotCreate ctx res s e], [], Or.inr ⟨e, rfl, hse, le_rfl, by simp, Or.inl rfl⟩,
      Or.inl ⟨rfl, Or.inl rfl⟩, rfl⟩
  | first :: more, hord, hmeet => by
    obtain ⟨hp, hlt, hord'⟩ := Ordered.cons_iff.1 hord
    have hm := hmeet first (by simp)
    by_cases h1 : first.start < s
    · -- the insertion goes on with the second half of the first slot
      have hord'' : SlotsOrdered ((timeSlotSplit first s).2 :: more) :=
        Ordered.cons_iff.2 ⟨hm.2, hlt, hord'⟩
      obtain ⟨trail, htrail, heq⟩ :=
        addToSlots_eq ctx res (s := s) (e := e) le_rfl hord'' fun u hu => by
          rcases List.mem_cons.1 hu with rfl | hu
          · exact ⟨hse, hm.2⟩
          · exact hmeet u (List.mem_cons_of_mem _ hu)
      refine ⟨[], trail, Or.inl ⟨rfl, first.start, by simp, by omega⟩, htrail, ?_⟩
      simp only [placeAll, place, openFirstSlot]
      rw [if_pos (by omega), heq, List.flatMap_cons, List.flatMap_cons, cutSlot_of_lt h1]
      rfl
    · obtain ⟨trail, htrail, heq⟩ :=
        addToSlots_eq ctx res (s := s) (e := e) (by omega) hord hmeet
      simp only [placeAll, place, openFirstSlot]
      rw [if_neg (by omega)]
      by_cases h2 : s < first.start
      · rw [if_pos (by omega)]
        refine ⟨[timeSlotCreate ctx res s (first.start - 1)], trail,
          Or.inr ⟨first.start - 1, rfl, by omega, by omega, ?_, Or.inr (by simp)⟩, htrail, ?_⟩
        · intro a ha
          rw [List.map_cons, List.mem_cons] at ha
          rcases ha with rfl | ha
          · omega
          · obtain ⟨u, hu, rfl⟩ := List.mem_map.1 ha
            have := hlt u hu
            omega
        · rw [heq, List.append_assoc]
      · rw [if_neg (by omega)]
        exact ⟨[], trail, Or.inl ⟨rfl, first.start, by simp, by omega⟩, htrail, heq⟩

/-! ## The slots of the result -/

@[simp] theorem innerPart_start {slot : TimeSlot} :
    (innerPart ctx res s e slot).start = max slot.start s := rfl

@[simp] theorem innerPart_end {slot : TimeSlot} :
    (innerPart ctx res s e slot).end_ = min slot.end_ e := rfl

variable (ctx res) in
/-- The parts of a cut slot lie in the slot, in order. -/
theorem cutSlot_ordered (hse : s ≤ e) {slot : TimeSlot} (hp : slot.start ≤ slot.end_)
    (hm : slot.Meets s e) : SlotsOrdered (cutSlot ctx res s e slot) ∧
      ∀ v ∈ cutSlot ctx res s e slot, slot.start ≤ v.start ∧ v.end_ ≤ slot.end_ := by
  obtain ⟨hm1, hm2⟩ := hm
  have htail : SlotsOrdered
      (innerPart ctx res s e slot :: if e < slot.end_ then [tailPart e slot] else []) := by
    refine Ordered.cons_iff.2 ⟨by simp; omega, fun v hv => ?_, ?_⟩
    · split at hv
      · rw [List.mem_singleton] at hv; subst hv; simp [tailPart]
      · cases hv
    · split
      · exact Ordered.singleton (by simp [tailPart]; omega)
      · exact Ordered.nil
  refine ⟨?_, fun v hv => ?_⟩
  · unfold cutSlot
    split
    · refine Ordered.cons_iff.2 ⟨by simp [headPart]; omega, fun v hv => ?_, htail⟩
      rcases List.mem_cons.1 hv with rfl | hv
      · simp [headPart]
      · split at hv
        · rw [List.mem_singleton] at hv; subst hv; simp [headPart, tailPart]; omega
        · cases hv
    · exact htail
  · rcases mem_cutSlot.1 hv with ⟨h, rfl⟩ | rfl | ⟨h, rfl⟩
    · simp [headPart]; omega
    · simp
    · simp [tailPart]; omega

/-- A cut loses no second. -/
theorem cutSlot_holds (ctx : Context) (res : Reservation) (s e : Int) {slot : TimeSlot} {t : Int}
    (ht : slot.Holds t) : ∃ v ∈ cutSlot ctx res s e slot, v.Holds t := by
  obtain ⟨h1, h2⟩ := ht
  by_cases hlt : t < s
  · exact ⟨headPart s slot, mem_cutSlot.2 (Or.inl ⟨by omega, rfl⟩), h1, by simp [headPart]; omega⟩
  by_cases hgt : e < t
  · exact ⟨tailPart e slot, mem_cutSlot.2 (Or.inr (Or.inr ⟨by omega, rfl⟩)),
      by simp [tailPart]; omega, h2⟩
  · exact ⟨innerPart ctx res s e slot, mem_cutSlot.2 (Or.inr (Or.inl rfl)),
      max_le h1 (by omega), le_min h2 (by omega)⟩

/-- A created slot with its seconds inside the reservation and off the overlapped slots. -/
def CreatedOff (ctx : Context) (res : Reservation) (s e : Int) (ov : List TimeSlot)
    (v : TimeSlot) : Prop :=
  ∃ a b, v = timeSlotCreate ctx res a b ∧ s ≤ a ∧ a ≤ b ∧ b ≤ e ∧
    ((∀ u ∈ ov, b < u.start) ∨ ∀ u ∈ ov, u.end_ < a)

section Result

variable {ov : List TimeSlot} (hse : s ≤ e) (hord : SlotsOrdered ov)
  (hmeet : ∀ u ∈ ov, u.Meets s e)

include hse hord hmeet

/-- **Where a slot of the result comes from.** -/
theorem mem_placeAll {v : TimeSlot} (hv : v ∈ placeAll ctx res s e ov) :
    (∃ u ∈ ov, v ∈ cutSlot ctx res s e u) ∨ CreatedOff ctx res s e ov v := by
  obtain ⟨lead, trail, hlead, htrail, heq⟩ := placeAll_eq ctx res hse hord hmeet
  rw [heq, List.mem_append, List.mem_append] at hv
  rcases hv with (hv | hv) | hv
  · rcases hlead with ⟨rfl, -⟩ | ⟨b, rfl, h1, h2, h3, -⟩
    · cases hv
    · rw [List.mem_singleton] at hv
      exact Or.inr ⟨s, b, hv, le_rfl, h1, h2, Or.inl fun u hu =>
        h3 u.start (List.mem_map_of_mem hu)⟩
  · exact Or.inl (List.mem_flatMap.1 hv)
  · rcases htrail with ⟨rfl, -⟩ | ⟨a, rfl, h1, h2, h3, -⟩
    · cases hv
    · rw [List.mem_singleton] at hv
      exact Or.inr ⟨a, e, hv, h1, h2, le_rfl, Or.inr fun u hu =>
        h3 u.end_ (List.mem_map_of_mem hu)⟩

/-- Every part of an overlapped slot is in the result. -/
theorem cutSlot_subset {u v : TimeSlot} (hu : u ∈ ov) (hv : v ∈ cutSlot ctx res s e u) :
    v ∈ placeAll ctx res s e ov := by
  obtain ⟨lead, trail, -, -, heq⟩ := placeAll_eq ctx res hse hord hmeet
  rw [heq, List.mem_append, List.mem_append]
  exact Or.inl (Or.inr (List.mem_flatMap.2 ⟨u, hu, hv⟩))

/-- The slots of the result are no wider than the overlapped slots and the reservation. -/
theorem placeAll_bounds {v : TimeSlot} (hv : v ∈ placeAll ctx res s e ov) :
    (s ≤ v.start ∨ ∃ u ∈ ov, u.start ≤ v.start) ∧ (v.end_ ≤ e ∨ ∃ u ∈ ov, v.end_ ≤ u.end_) := by
  rcases mem_placeAll hse hord hmeet hv with ⟨u, hu, hvu⟩ | ⟨a, b, rfl, h1, h2, h3, -⟩
  · have := (cutSlot_ordered ctx res hse (hord.proper u hu) (hmeet u hu)).2 v hvu
    exact ⟨Or.inr ⟨u, hu, this.1⟩, Or.inr ⟨u, hu, this.2⟩⟩
  · exact ⟨Or.inl h1, Or.inl h3⟩

/-- **The result is ordered.** -/
theorem placeAll_ordered : SlotsOrdered (placeAll ctx res s e ov) := by
  have hcut : ∀ u ∈ ov, SlotsOrdered (cutSlot ctx res s e u) ∧
      ∀ v ∈ cutSlot ctx res s e u, u.start ≤ v.start ∧ v.end_ ≤ u.end_ := fun u hu =>
    cutSlot_ordered ctx res hse (hord.proper u hu) (hmeet u hu)
  obtain ⟨lead, trail, hlead, htrail, heq⟩ := placeAll_eq ctx res hse hord hmeet
  rw [heq]
  refine Ordered.append_iff.2 ⟨Ordered.append_iff.2 ⟨?_, hord.flatMap hcut, ?_⟩, ?_, ?_⟩
  · rcases hlead with ⟨rfl, -⟩ | ⟨b, rfl, h1, -⟩
    · exact Ordered.nil
    · exact Ordered.singleton h1
  · rintro v hv w hw
    obtain ⟨u, hu, hwu⟩ := List.mem_flatMap.1 hw
    have hw' := (hcut u hu).2 w hwu
    rcases hlead with ⟨rfl, -⟩ | ⟨b, rfl, -, -, h3, -⟩
    · cases hv
    · rw [List.mem_singleton] at hv
      subst hv
      exact lt_of_lt_of_le (h3 u.start (List.mem_map_of_mem hu)) hw'.1
  · rcases htrail with ⟨rfl, -⟩ | ⟨a, rfl, -, h2, -⟩
    · exact Ordered.nil
    · exact Ordered.singleton h2
  · rintro v hv w hw
    rcases htrail with ⟨rfl, -⟩ | ⟨a, rfl, -, -, h3, h4⟩
    · cases hw
    rw [List.mem_singleton] at hw
    subst hw
    rcases List.mem_append.1 hv with hv | hv
    · obtain ⟨u, hu, hua⟩ := List.mem_map.1 h4
      have hpu := hord.proper u hu
      rcases hlead with ⟨rfl, -⟩ | ⟨b, rfl, -, -, h5, -⟩
      · cases hv
      · rw [List.mem_singleton] at hv
        subst hv
        have := h5 u.start (List.mem_map_of_mem hu)
        simp only [create_start, create_end]
        omega
    · obtain ⟨u, hu, hvu⟩ := List.mem_flatMap.1 hv
      exact lt_of_le_of_lt ((hcut u hu).2 v hvu).2 (h3 u.end_ (List.mem_map_of_mem hu))

variable (ctx res) in
/-- **Which seconds of the reservation get a slot**: those of an overlapped slot and those in front
    of or behind all overlapped slots. -/
theorem placeAll_holds {t : Int} (ht : s ≤ t ∧ t ≤ e)
    (hov : (∃ u ∈ ov, u.Holds t) ∨ (∀ u ∈ ov, t < u.start) ∨ ∀ u ∈ ov, u.end_ < t) :
    ∃ v ∈ placeAll ctx res s e ov, v.Holds t := by
  rcases hov with ⟨u, hu, htu⟩ | hov
  · exact ⟨innerPart ctx res s e u, cutSlot_subset hse hord hmeet hu
      (mem_cutSlot.2 (Or.inr (Or.inl rfl))), max_le htu.1 ht.1, le_min htu.2 ht.2⟩
  obtain ⟨lead, trail, hlead, htrail, heq⟩ := placeAll_eq ctx res hse hord hmeet
  simp only [heq, List.mem_append]
  rcases hov with hlt | hgt
  · rcases hlead with ⟨-, a, ha, has⟩ | ⟨b, rfl, -, -, -, h4⟩
    · obtain ⟨u, hu, rfl⟩ := List.mem_map.1 ha
      have := hlt u hu
      omega
    · refine ⟨timeSlotCreate ctx res s b, Or.inl (Or.inl (List.mem_singleton_self _)), ht.1, ?_⟩
      rcases h4 with rfl | h4
      · exact ht.2
      · obtain ⟨u, hu, hub⟩ := List.mem_map.1 h4
        have := hlt u hu
        simp only [create_end]
        omega
  · rcases htrail with ⟨-, h0 | ⟨b, hb, heb⟩⟩ | ⟨a, rfl, -, -, -, h4⟩
    · -- no slot is overlapped, so the created slot takes the whole reservation
      rw [List.map_eq_nil_iff] at h0
      subst h0
      rcases hlead with ⟨-, a, ha, -⟩ | ⟨b, rfl, -, -, -, rfl | h4⟩
      · cases ha
      · exact ⟨timeSlotCreate ctx res s b, Or.inl (Or.inl (List.mem_singleton_self _)), ht⟩
      · cases h4
    · obtain ⟨u, hu, rfl⟩ := List.mem_map.1 hb
      have := hgt u hu
      omega
    · obtain ⟨u, hu, hua⟩ := List.mem_map.1 h4
      have := hgt u hu
      refine ⟨timeSlotCreate ctx res a e, Or.inr (List.mem_singleton_self _), ?_, ht.2⟩
      simp only [create_start]
      omega

end Result

end Place

/-! ## A reservation put among all slots -/

/-- A reservation put among the slots: the slots it overlaps can all be shared and are replaced. -/
structure Inserted (ctx : Context) (res : Reservation) (slots slots' : List TimeSlot) : Prop where
  split : ∃ before ov after, slots = before ++ ov ++ after ∧
    slots' = before ++ placeAll ctx res res.resStart res.resEnd ov ++ after ∧
    (∀ u ∈ before, u.end_ < res.resStart) ∧
    (∀ u ∈ ov, u.Meets res.resStart res.resEnd ∧ reservationCanUseSlot ctx res u = true) ∧
    ∀ u ∈ after, res.resEnd < u.start

namespace Inserted

variable {ctx : Context} {res : Reservation} {slots slots' rest : List TimeSlot} {slot : TimeSlot}

/-- A slot in front of the insertion. -/
theorem cons (h : Inserted ctx res rest slots') (hend : slot.end_ < res.resStart) :
    Inserted ctx res (slot :: rest) (slot :: slots') := by
  obtain ⟨before, ov, after, h1, h2, h3, h4, h5⟩ := h.split
  refine ⟨slot :: before, ov, after, by rw [h1]; rfl, by rw [h2]; rfl, fun u hu => ?_, h4, h5⟩
  rcases List.mem_cons.1 hu with rfl | hu
  · exact hend
  · exact h3 u hu

variable (h : Inserted ctx res slots slots') (hord : SlotsOrdered slots)
  (hse : res.resStart ≤ res.resEnd)

include h hord hse

/-- **The list stays ordered.** -/
theorem ordered : SlotsOrdered slots' := by
  obtain ⟨before, ov, after, rfl, rfl, hb, hov, ha⟩ := h.split
  obtain ⟨hbo, hao, hba⟩ := Ordered.append_iff.1 hord
  obtain ⟨hbord, hoord, hbov⟩ := Ordered.append_iff.1 hbo
  have hmeet : ∀ u ∈ ov, u.Meets res.resStart res.resEnd := fun u hu => (hov u hu).1
  refine Ordered.append_iff.2 ⟨Ordered.append_iff.2
    ⟨hbord, placeAll_ordered hse hoord hmeet, fun u hu v hv => ?_⟩, hao, fun v hv u hu => ?_⟩
  · rcases (placeAll_bounds hse hoord hmeet hv).1 with h1 | ⟨w, hw, h1⟩
    · exact lt_of_lt_of_le (hb u hu) h1
    · exact lt_of_lt_of_le (hbov u hu w hw) h1
  · rcases List.mem_append.1 hv with hv | hv
    · exact hba v (List.mem_append_left _ hv) u hu
    · rcases (placeAll_bounds hse hoord hmeet hv).2 with h1 | ⟨w, hw, h1⟩
      · exact lt_of_le_of_lt h1 (ha u hu)
      · exact lt_of_le_of_lt h1 (hba w (List.mem_append_right _ hw) u hu)

/-- **Where a slot comes from**: an old one off the reservation, a part of an old one that can be
    shared, or a new one on seconds that had no slot. -/
theorem mem_cases {v : TimeSlot} (hv : v ∈ slots') :
    (v ∈ slots ∧ (v.end_ < res.resStart ∨ res.resEnd < v.start)) ∨
    (∃ u ∈ slots, u.Meets res.resStart res.resEnd ∧ reservationCanUseSlot ctx res u = true ∧
      v ∈ cutSlot ctx res res.resStart res.resEnd u) ∨
    (∃ a b, v = timeSlotCreate ctx res a b ∧ res.resStart ≤ a ∧ a ≤ b ∧ b ≤ res.resEnd ∧
      ∀ u ∈ slots, b < u.start ∨ u.end_ < a) := by
  obtain ⟨before, ov, after, rfl, rfl, hb, hov, ha⟩ := h.split
  obtain ⟨hbo, -, -⟩ := Ordered.append_iff.1 hord
  obtain ⟨-, hoord, -⟩ := Ordered.append_iff.1 hbo
  have hmeet : ∀ u ∈ ov, u.Meets res.resStart res.resEnd := fun u hu => (hov u hu).1
  rcases List.mem_append.1 hv with hv | hv
  · rcases List.mem_append.1 hv with hv | hv
    · exact Or.inl ⟨by simp [hv], Or.inl (hb v hv)⟩
    · rcases mem_placeAll hse hoord hmeet hv with ⟨u, hu, hvu⟩ | ⟨a, b, rfl, h1, h2, h3, h4⟩
      · exact Or.inr (Or.inl ⟨u, by simp [hu], hmeet u hu, (hov u hu).2, hvu⟩)
      · refine Or.inr (Or.inr ⟨a, b, rfl, h1, h2, h3, fun u hu => ?_⟩)
        rcases List.mem_append.1 hu with hu | hu
        · rcases List.mem_append.1 hu with hu | hu
          · have := hb u hu; omega
          · rcases h4 with h4 | h4
            · exact Or.inl (h4 u hu)
            · exact Or.inr (h4 u hu)
        · have := ha u hu; omega
  · exact Or.inl ⟨by simp [hv], Or.inr (ha v hv)⟩

/-- Seconds that have a slot keep one. -/
theorem holds_old {u : TimeSlot} (hu : u ∈ slots) {t : Int} (ht : u.Holds t) :
    ∃ v ∈ slots', v.Holds t := by
  obtain ⟨before, ov, after, rfl, rfl, hb, hov, ha⟩ := h.split
  obtain ⟨hbo, -, -⟩ := Ordered.append_iff.1 hord
  obtain ⟨-, hoord, -⟩ := Ordered.append_iff.1 hbo
  have hmeet : ∀ u ∈ ov, u.Meets res.resStart res.resEnd := fun u hu => (hov u hu).1
  rcases List.mem_append.1 hu with hu | hu
  · rcases List.mem_append.1 hu with hu | hu
    · exact ⟨u, by simp [hu], ht⟩
    · obtain ⟨v, hv, hvt⟩ := cutSlot_holds ctx res res.resStart res.resEnd ht
      exact ⟨v, by simp [cutSlot_subset hse hoord hmeet hu hv], hvt⟩
  · exact ⟨u, by simp [hu], ht⟩

/-- A second of the reservation gets a slot unless it had none and lies between two overlapped
    slots. -/
theorem holds_new {t : Int} (ht : res.Covers t)
    (hgap : (∃ u ∈ slots, u.Holds t) ∨
      ¬ ((∃ u ∈ slots, u.Meets res.resStart res.resEnd ∧ u.end_ < t) ∧
        ∃ u ∈ slots, u.Meets res.resStart res.resEnd ∧ t < u.start)) :
    ∃ v ∈ slots', v.Holds t := by
  rcases hgap with ⟨u, hu, hut⟩ | hgap
  · exact h.holds_old hord hse hu hut
  by_cases hold : ∃ u ∈ slots, u.Holds t
  · obtain ⟨u, hu, hut⟩ := hold
    exact h.holds_old hord hse hu hut
  obtain ⟨before, ov, after, rfl, rfl, hb, hov, ha⟩ := h.split
  obtain ⟨hbo, -, -⟩ := Ordered.append_iff.1 hord
  obtain ⟨-, hoord, -⟩ := Ordered.append_iff.1 hbo
  have hmeet : ∀ u ∈ ov, u.Meets res.resStart res.resEnd := fun u hu => (hov u hu).1
  -- an overlapped slot lies on one side of a second it does not hold
  have hside : ∀ u ∈ ov, t < u.start ∨ u.end_ < t := fun u hu => by
    by_contra hno
    exact hold ⟨u, by simp [hu], by omega, by omega⟩
  obtain ⟨v, hv, hvt⟩ := placeAll_holds ctx res hse hoord hmeet ht (Or.inr (by
    by_contra hno
    push Not at hno
    obtain ⟨⟨u, hu, h1⟩, w, hw, h2⟩ := hno
    have h3 := (hside u hu).resolve_left (by omega)
    have h4 := (hside w hw).resolve_right (by omega)
    exact hgap ⟨⟨u, by simp [hu], hmeet u hu, h3⟩, w, by simp [hw], hmeet w hw, h4⟩))
  exact ⟨v, by simp [hv], hvt⟩

/-- A second without slot between two overlapped slots is left without one. -/
theorem holds_none {t : Int} (hnone : ∀ u ∈ slots, ¬ u.Holds t) {u w : TimeSlot} (hu : u ∈ slots)
    (hum : u.Meets res.resStart res.resEnd) (hut : u.end_ < t) (hw : w ∈ slots)
    (hwm : w.Meets res.resStart res.resEnd) (htw : t < w.start) : ∀ v ∈ slots', ¬ v.Holds t := by
  obtain ⟨before, ov, after, rfl, rfl, hb, hov, ha⟩ := h.split
  obtain ⟨hbo, -, -⟩ := Ordered.append_iff.1 hord
  obtain ⟨-, hoord, -⟩ := Ordered.append_iff.1 hbo
  have hmeet : ∀ u ∈ ov, u.Meets res.resStart res.resEnd := fun u hu => (hov u hu).1
  -- the two slots are among those the insertion cuts
  have hmem : ∀ u ∈ before ++ ov ++ after, u.Meets res.resStart res.resEnd → u ∈ ov := by
    intro u hu hm
    rcases List.mem_append.1 hu with hu | hu
    · rcases List.mem_append.1 hu with hu | hu
      · have := hb u hu
        have := hm.2
        omega
      · exact hu
    · have := ha u hu
      have := hm.1
      omega
  intro v hv hvt
  rcases List.mem_append.1 hv with hv | hv
  · rcases List.mem_append.1 hv with hv | hv
    · exact hnone v (by simp [hv]) hvt
    · rcases mem_placeAll hse hoord hmeet hv with ⟨c, hc, hvc⟩ | ⟨a, b, rfl, -, -, -, hoff⟩
      · have hsub := (cutSlot_ordered ctx res hse (hoord.proper c hc) (hmeet c hc)).2 v hvc
        exact hnone c (by simp [hc]) ⟨hsub.1.trans hvt.1, hvt.2.trans hsub.2⟩
      · obtain ⟨h1, h2⟩ := hvt
        simp only [create_start, create_end] at h1 h2
        rcases hoff with hoff | hoff
        · have h3 := hoff u (hmem u hu hum)
          have h4 := hord.proper u hu
          omega
        · have h3 := hoff w (hmem w hw hwm)
          have h4 := hord.proper w hw
          omega
  · exact hnone v (by simp [hv]) hvt

end Inserted

end Bwctl
