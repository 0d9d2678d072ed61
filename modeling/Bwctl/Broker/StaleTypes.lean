import Bwctl.Broker.Booking

/-!
# The type of a slot after its test has ended

`TimeSlotRemoveReservation` counts a slot down and leaves its type alone, so a slot that a
typed reservation shared with others keeps the type when the typed one leaves, and refuses
tests for the sake of one that has ended.  In a run in which another live reservation of the kind
still holds each such slot, every second of a typed slot is covered by a live reservation of that
kind: the slots of a live typed reservation lie inside it.

* `NothingStale` — a removal that leaves no stale type behind.
* `TypedInside` — the slots that overlap a live typed reservation lie inside it.
* `FreshInv.step` — steps that leave nothing stale keep the types live.
* `kinds_live` — the types are live in every state of such a run.
* `bandwidth_slot_without_test` — a run after which a throughput slot holds a traceroute only.
-/

set_option autoImplicit false

namespace Bwctl

open GuardedRuns

/-- Every second of a marked slot is covered by a live reservation of that kind. -/
def MarksLive (ctx : Context) (slots : List TimeSlot) (live : List Reservation) : Prop :=
  ∀ k : TestType, k.Typed → ∀ u ∈ slots, u.type = k.mark → ∀ t, u.Holds t →
    ∃ r ∈ live, r.Covers t ∧ r.testType ctx = k

/-- The slots that overlap a live typed reservation lie inside it. -/
structure TypedInside (ctx : Context) (slots : List TimeSlot) (live : List Reservation) : Prop where
  proper : ∀ r ∈ live, r.resStart ≤ r.resEnd
  inside : ∀ r ∈ live, (r.testType ctx).Typed → ∀ u ∈ slots, timeSlotHasReservation u r = true →
    r.resStart ≤ u.start ∧ u.end_ ≤ r.resEnd

/-- Each slot of its type that a removed reservation shares is held by another live reservation
    of its kind. -/
def NothingStale (ctx : Context) (slots : List TimeSlot) (others : List Reservation)
    (r : Reservation) : Prop :=
  (r.testType ctx).Typed → ∀ u ∈ slots, timeSlotHasReservation u r = true →
    u.numReservations ≠ 1 → u.type = (r.testType ctx).mark →
      ∃ r' ∈ others, timeSlotHasReservation u r' = true ∧ r'.testType ctx = r.testType ctx

/-- No second that a reservation shares with a live typed one has lost its slot. -/
def FindsSlots (ctx : Context) (slots : List TimeSlot) (others : List Reservation)
    (r : Reservation) : Prop :=
  ∀ r' ∈ others, (r'.testType ctx).Typed → ∀ t, r.Covers t → r'.Covers t →
    ∃ u ∈ slots, u.Holds t

instance (ctx : Context) (slots : List TimeSlot) (others : List Reservation) (r : Reservation) :
    Decidable (NothingStale ctx slots others r) :=
  inferInstanceAs (Decidable ((r.testType ctx).Typed → ∀ u ∈ slots,
    timeSlotHasReservation u r = true → u.numReservations ≠ 1 → u.type = (r.testType ctx).mark →
      ∃ r' ∈ others, timeSlotHasReservation u r' = true ∧ r'.testType ctx = r.testType ctx))

instance (ctx : Context) (slots : List TimeSlot) (others : List Reservation) (r : Reservation) :
    Decidable (FindsSlots ctx slots others r) :=
  decidable_of_iff (∀ r' ∈ others, (r'.testType ctx).Typed → ∀ t, r.resStart ≤ t → t ≤ r.resEnd →
    r'.Covers t → ∃ u ∈ slots, u.Holds t)
    ⟨fun h r' hr' hk t ht => h r' hr' hk t ht.1 ht.2,
      fun h r' hr' hk t h1 h2 => h r' hr' hk t ⟨h1, h2⟩⟩

/-- The live reservations but the one an event takes off the list. -/
def Broker.others (b : Broker) (e : BrokerEvent) : List Reservation :=
  (b.removed? e).elim b.live fun r => b.live.erase r

/-- An event whose times do not wrap, whose removal leaves no stale type behind, and whose grant
    finds the slots of the live typed reservations. -/
structure FreshStep (ctx : Context) (b : Broker) (e : BrokerEvent) : Prop where
  fits : NoWrap ctx b e
  removal : ∀ r, b.removed? e = some r → NothingStale ctx b.slots (b.others e) r
  grant : ∀ d, b.demand? e = some d → ∀ x, d.GrantedAt ctx x →
    FindsSlots ctx d.slots (b.others e) (d.startAt x)

/-- The types of the slots are those of live reservations, and a slot refuses a test only for
    these. -/
structure KindsLive (ctx : Context) (slots : List TimeSlot) (live : List Reservation) : Prop where
  bandwidth : ∀ u ∈ slots, u.type = .slotBandwidth → ∀ t, u.Holds t →
    ∃ r ∈ live, r.Covers t ∧ r.testType ctx = .throughput
  latency : ∀ u ∈ slots, u.type = .slotLatency → ∀ t, u.Holds t →
    ∃ r ∈ live, r.Covers t ∧ r.testType ctx = .latency
  refusal : ∀ u ∈ slots, ∀ res, reservationCanUseSlot ctx res u = false →
    u.numReservations = u.maxReservations ∨
      ∀ t, u.Holds t → ∃ r ∈ live, r.Covers t ∧ (res.testType ctx).Excludes (r.testType ctx)

section Marks

variable {ctx : Context} {slots slots' : List TimeSlot} {live rest : List Reservation}
  {r : Reservation}

theorem TestType.Typed.mark_inj {k k' : TestType} (h : k.Typed) (h' : k'.Typed)
    (heq : k.mark = k'.mark) : k = k' := by
  rcases h with rfl | rfl <;> rcases h' with rfl | rfl <;> first | rfl | cases heq

theorem TypedInside.perm (h : TypedInside ctx slots live) (hp : live.Perm rest) :
    TypedInside ctx slots rest :=
  ⟨fun r hr => h.proper r (hp.mem_iff.2 hr), fun r hr => h.inside r (hp.mem_iff.2 hr)⟩

/-- Counting slots down or dropping them leaves the others inside. -/
theorem TypedInside.resRemove (h : TypedInside ctx slots live) (r : Reservation) :
    TypedInside ctx (Bwctl.resRemove slots r) live := by
  refine ⟨h.proper, fun r' hr' hk v hv hhas => ?_⟩
  obtain ⟨u, hu, hs, he, -, hh⟩ := resRemove_old hv
  rw [hs, he]
  exact h.inside r' hr' hk u hu (by rw [← hh]; exact hhas)

theorem TypedInside.tail (h : TypedInside ctx slots (r :: rest)) : TypedInside ctx slots rest :=
  ⟨fun r' hr' => h.proper r' (List.mem_cons_of_mem _ hr'),
    fun r' hr' => h.inside r' (List.mem_cons_of_mem _ hr')⟩

/-- **Inserting a reservation** cuts the slots at its ends, and creates none over the seconds of a
    live typed reservation that still have their slots. -/
theorem TypedInside.insert (h : TypedInside ctx slots live) (hord : SlotsOrdered slots)
    (hins : Inserted ctx r slots slots') (hse : r.resStart ≤ r.resEnd)
    (hfinds : FindsSlots ctx slots live r) : TypedInside ctx slots' (r :: live) := by
  refine ⟨List.forall_mem_cons.2 ⟨hse, h.proper⟩, fun r' hr' hk v hv hhas => ?_⟩
  rw [hasReservation_iff] at hhas
  rcases hins.mem_cases hord hse hv with
    ⟨hv, hoff⟩ | ⟨u, hu, hmeet, -, hvu⟩ | ⟨a, b, rfl, h1, h2, h3, hoff⟩
  · rcases List.mem_cons.1 hr' with rfl | hr'
    · omega
    · exact h.inside r' hr' hk v hv (hasReservation_iff.2 hhas)
  · obtain ⟨-, hsub⟩ := cutSlot_ordered ctx r hse (hord.proper u hu) hmeet
    obtain ⟨hs, he⟩ := hsub v hvu
    rcases List.mem_cons.1 hr' with rfl | hr'
    · rcases mem_cutSlot.1 hvu with ⟨-, rfl⟩ | rfl | ⟨-, rfl⟩
      · have h1 : r'.resStart ≤ r'.resStart - 1 := hhas.2
        omega
      · exact ⟨le_max_right _ _, min_le_right _ _⟩
      · have h1 : r'.resEnd + 1 ≤ r'.resEnd := hhas.1
        omega
    · have := h.inside r' hr' hk u hu (hasReservation_iff.2 (by omega))
      omega
  · rcases List.mem_cons.1 hr' with rfl | hr'
    · exact ⟨h1, h3⟩
    · -- a second of both would have a slot already
      have hp := h.proper r' hr'
      simp only [create_start, create_end] at hhas
      obtain ⟨u, hu, hut⟩ := hfinds r' hr' hk (max a r'.resStart)
        ⟨h1.trans (le_max_left _ _), by omega⟩ ⟨le_max_right _ _, by omega⟩
      obtain ⟨h4, h5⟩ := hut
      have := hoff u hu
      omega

theorem MarksLive.perm (h : MarksLive ctx slots live) (hp : live.Perm rest) :
    MarksLive ctx slots rest := by
  intro k hk u hu hty t ht
  obtain ⟨r, hr, hcov⟩ := h k hk u hu hty t ht
  exact ⟨r, hp.mem_iff.1 hr, hcov⟩

/-- Counting slots down or dropping them does not matter to the reservations that stay. -/
theorem MarksLive.resRemove (h : MarksLive ctx slots live) (r : Reservation) :
    MarksLive ctx (resRemove slots r) live := by
  intro k hk v hv hty t ht
  obtain ⟨u, hu, ⟨-, rfl⟩ | ⟨-, -, rfl⟩⟩ := mem_resRemove.1 hv
  · exact h k hk _ hu hty t ht
  · exact h k hk u hu hty t ht

/-- **Removing a live reservation** keeps the marks live when it leaves nothing stale. -/
theorem MarksLive.remove (h : MarksLive ctx slots (r :: rest))
    (hin : TypedInside ctx slots (r :: rest)) (hstale : NothingStale ctx slots rest r) :
    MarksLive ctx (Bwctl.resRemove slots r) rest := by
  intro k hk v hv hty t ht
  obtain ⟨u, hu, ⟨hno, rfl⟩ | ⟨hyes, hnum, rfl⟩⟩ := mem_resRemove.1 hv
  · obtain ⟨r', hr', hcov, hkind⟩ := h k hk _ hu hty t ht
    rcases List.mem_cons.1 hr' with rfl | hr'
    · rw [hasReservation_of_covers ht hcov] at hno; cases hno
    · exact ⟨r', hr', hcov, hkind⟩
  · obtain ⟨r', hr', hcov, hkind⟩ := h k hk u hu hty t ht
    rcases List.mem_cons.1 hr' with rfl | hr'
    · -- the removed one covered the second: the other holder of the slot lies over all of it
      subst hkind
      obtain ⟨w, hw, hhas, hkind⟩ := hstale hk u hu hyes hnum hty
      obtain ⟨h1, h2⟩ := hin.inside w (List.mem_cons_of_mem _ hw) (by rw [hkind]; exact hk) u hu hhas
      exact ⟨w, hw, ⟨h1.trans ht.1, ht.2.trans h2⟩, hkind⟩
    · exact ⟨r', hr', hcov, hkind⟩

/-- **Inserting a reservation** keeps the marks live: a slot gets its mark inside the reservation
    only. -/
theorem MarksLive.insert (h : MarksLive ctx slots live) (hord : SlotsOrdered slots)
    (hins : Inserted ctx r slots slots') (hse : r.resStart ≤ r.resEnd) :
    MarksLive ctx slots' (r :: live) := by
  intro k hk v hv hty t ht
  have hold : ∀ u ∈ slots, u.type = k.mark → u.Holds t →
      ∃ r' ∈ r :: live, r'.Covers t ∧ r'.testType ctx = k := fun u hu hty ht => by
    obtain ⟨r', hr', hcov⟩ := h k hk u hu hty t ht
    exact ⟨r', List.mem_cons_of_mem _ hr', hcov⟩
  have hnew : (r.testType ctx).Typed → (r.testType ctx).mark = k.mark → r.Covers t →
      ∃ r' ∈ r :: live, r'.Covers t ∧ r'.testType ctx = k := fun hr hm hcov =>
    ⟨r, List.mem_cons_self, hcov, hr.mark_inj hk hm⟩
  have hfresh : slotTypeAfter (r.testType ctx) .slotAny = k.mark → (r.testType ctx).Typed := by
    intro hm
    by_contra hno
    rw [slotTypeAfter_of_not_typed hno] at hm
    exact hk.mark_ne hm.symm
  rcases hins.mem_cases hord hse hv with
    ⟨hv, -⟩ | ⟨u, hu, hmeet, -, hvu⟩ | ⟨a, b, rfl, h1, h2, h3, -⟩
  · exact hold v hv hty ht
  · obtain ⟨-, hsub⟩ := cutSlot_ordered ctx r hse (hord.proper u hu) hmeet
    have hut : u.Holds t := ⟨(hsub v hvu).1.trans ht.1, ht.2.trans (hsub v hvu).2⟩
    rcases mem_cutSlot.1 hvu with ⟨-, rfl⟩ | rfl | ⟨-, rfl⟩
    · exact hold u hu hty hut
    · have hcov : r.Covers t := ⟨(le_max_right _ _).trans ht.1, ht.2.trans (min_le_right _ _)⟩
      by_cases hr : (r.testType ctx).Typed
      · refine hnew hr ?_ hcov
        rw [← hty]
        exact (slotTypeAfter_of_typed hr _).symm
      · have hty' : (if u.start < r.resStart then SlotType.slotAny else u.type) = k.mark := by
          rw [← hty]
          exact (slotTypeAfter_of_not_typed hr _).symm
        split at hty'
        · exact absurd hty'.symm hk.mark_ne
        · exact hold u hu hty' hut
    · exact absurd hty.symm hk.mark_ne
  · exact hnew (hfresh hty) hty ⟨h1.trans ht.1, ht.2.trans h3⟩

theorem MarksLive.kindsLive (h : MarksLive ctx slots live) : KindsLive ctx slots live where
  bandwidth u hu hty := h .throughput (Or.inl rfl) u hu hty
  latency u hu hty := h .latency (Or.inr rfl) u hu hty
  refusal u hu res hcan := by
    have hthr : u.type = .slotBandwidth → (res.testType ctx).Typed → ∀ t, u.Holds t →
        ∃ r ∈ live, r.Covers t ∧ (res.testType ctx).Excludes (r.testType ctx) :=
      fun hty hres t ht => by
        obtain ⟨r, hr, hcov, hkind⟩ := h .throughput (Or.inl rfl) u hu hty t ht
        exact ⟨r, hr, hcov, Or.inr ⟨hkind, hres⟩⟩
    unfold reservationCanUseSlot at hcan
    split at hcan
    · rename_i hc
      exact Or.inr (hthr hc.2 (Or.inl hc.1))
    split at hcan
    · rename_i hc
      refine Or.inr fun t ht => ?_
      obtain ⟨r, hr, hcov, hkind⟩ := h .latency (Or.inr rfl) u hu hc.2 t ht
      exact ⟨r, hr, hcov, Or.inl ⟨hc.1, Or.inr hkind⟩⟩
    split at hcan
    · rename_i hc
      exact Or.inr (hthr hc.2 (Or.inr hc.1))
    split at hcan
    · rename_i hnum; exact Or.inl hnum
    · cases hcan

end Marks

section Run

variable {ctx : Context} {policy : Policy} {b b' : Broker} {e : BrokerEvent}
  {rest : List Reservation}

/-- What steps that leave nothing stale keep. -/
structure FreshInv (ctx : Context) (slots : List TimeSlot) (live : List Reservation) : Prop where
  ok : SlotsOk slots
  inside : TypedInside ctx slots live
  marks : MarksLive ctx slots live

theorem FreshInv.nil (ctx : Context) : FreshInv ctx [] [] :=
  ⟨SlotsOk.nil, ⟨by simp, by simp⟩, fun k _ u hu => by cases hu⟩

theorem FreshInv.perm {slots : List TimeSlot} {live : List Reservation}
    (h : FreshInv ctx slots live) (hp : live.Perm rest) : FreshInv ctx slots rest :=
  ⟨h.ok, h.inside.perm hp, h.marks.perm hp⟩

/-- A demand keeps the marks live, granted or denied. -/
theorem FreshInv.demand {d : OpenDemand} (h : FreshInv ctx d.slots rest) (hfits : d.Fits ctx)
    (hfinds : ∀ x, d.GrantedAt ctx x → FindsSlots ctx d.slots rest (d.startAt x)) :
    FreshInv ctx (d.outcome ctx).slots ((d.outcome ctx).res.toList ++ rest) := by
  have hok := h.ok.demand hfits
  have hout := OpenDemand.outcome_spec h.ok.ordered hfits
  generalize d.outcome ctx = o at hok hout
  cases hout with
  | granted x slots hg hfit hins =>
    have hse := resStart_le_resEnd hfit
    exact ⟨hok, h.inside.insert h.ok.ordered hins hse (hfinds x hg),
      h.marks.insert h.ok.ordered hins hse⟩
  | denied x hden hfit =>
    exact ⟨hok, h.inside.resRemove (d.startAt x), h.marks.resRemove (d.startAt x)⟩

/-- The live reservations but the removed one are those a step goes on with. -/
theorem Broker.others_perm (h : b.live.Perm ((b.removed? e).toList ++ rest)) :
    (b.others e).Perm rest := by
  unfold Broker.others
  cases hr : b.removed? e with
  | none => simpa [hr] using h
  | some r => simpa [hr] using h.erase r

/-- **One step** that leaves nothing stale keeps the slots in order and their marks live. -/
theorem FreshInv.step (h : FreshInv ctx b.slots b.live) (hfresh : FreshStep ctx b e)
    (hstep : b.step ctx policy e = some b') : FreshInv ctx b'.slots b'.live := by
  refine Broker.step_keeps FreshInv.perm (fun {r rest} hr hlive h => ?_)
    (fun {d rest} hd hlive h => ?_) h hstep
  · have hothers : (b.others e).Perm rest := Broker.others_perm (by simpa [hr] using hlive)
    refine ⟨h.ok.resRemove r, h.inside.tail.resRemove r, h.marks.remove h.inside ?_⟩
    intro hk u hu hhas hnum hty
    obtain ⟨r', hr', hheld⟩ := hfresh.removal r hr hk u hu hhas hnum hty
    exact ⟨r', hothers.mem_iff.1 hr', hheld⟩
  · refine h.demand (hfresh.fits d hd) fun x hx r' hr' => ?_
    exact hfresh.grant d hd x hx r' ((Broker.others_perm hlive).mem_iff.2 hr')

/-- **In every run whose removals leave no stale type behind, every second of a typed slot is
    covered by a live reservation of that kind, and a slot refuses a test only when it is full or
    for the sake of these.** -/
theorem kinds_live (h : Reach (Broker.step ctx policy) (FreshStep ctx) Broker.start b) :
    KindsLive ctx b.slots b.live := by
  have hinv : FreshInv ctx b.slots b.live :=
    h.invariant (I := fun b => FreshInv ctx b.slots b.live) (FreshInv.nil ctx)
      fun _ _ _ _ hi hok he => hi.step hok he
  exact hinv.marks.kindsLive

end Run

/-- A demand that the search grants over slots that are still there, in an event that leaves
    nothing stale. -/
theorem FreshStep.of_grantsOn {ctx : Context} {b : Broker} {e : BrokerEvent}
    (h : b.GrantsOn ctx (fun slots r => FindsSlots ctx slots (b.others e) r) e)
    (hrem : ∀ r ∈ b.removed? e, NothingStale ctx b.slots (b.others e) r) : FreshStep ctx b e := by
  refine ⟨fun d hd => (h d hd).2.1, hrem, fun d hd x hx => ?_⟩
  obtain ⟨hord, hfits, r, hr, hfinds⟩ := h d hd
  obtain ⟨-, hgranted, -⟩ := OpenDemand.of_outcome_res hord hfits hr
  exact hgranted x hx ▸ hfinds

/-- Two latency tests and a traceroute share their slots; the shorter latency test is complete,
    and the other one holds every slot that it leaves. -/
theorem kinds_live_campus : ∃ b,
    Reach (Broker.step campusContext campusPolicy) (FreshStep campusContext) Broker.start b ∧
      b.slots.map (fun u => (u.type, u.start, u.end_, u.numReservations)) =
        [(.slotLatency, 1691011300, 1691011300, 1), (.slotAny, 1691011301, 1691011302, 2),
          (.slotLatency, 1691011303, 1691011309, 2), (.slotLatency, 1691011310, 1691011312, 2),
          (.slotAny, 1691011313, 1691011321, 1)] ∧
      KindsLive campusContext b.slots b.live := by
  have hrun : (replay (Broker.step campusContext campusPolicy)
      (fun b e => decide (b.GrantsOn campusContext
        (fun slots r => FindsSlots campusContext slots (b.others e) r) e ∧
          ∀ r ∈ b.removed? e, NothingStale campusContext b.slots (b.others e) r)) Broker.start
      (campusConnects ++ [campusDemand 0 0x10 103 5 0, campusDemand 1 0x10 100 20 0,
        campusDemand 2 0x20 101 10 0, .mesg 0 (.complete (Vector.replicate 16 0))])).map
      (fun b => b.slots.map fun u => (u.type, u.start, u.end_, u.numReservations)) =
        some [(.slotLatency, 1691011300, 1691011300, 1), (.slotAny, 1691011301, 1691011302, 2),
          (.slotLatency, 1691011303, 1691011309, 2), (.slotLatency, 1691011310, 1691011312, 2),
          (.slotAny, 1691011313, 1691011321, 1)] := by decide +kernel
  obtain ⟨b, hb, hslots⟩ := Option.map_eq_some_iff.1 hrun
  have hreach : Reach (Broker.step campusContext campusPolicy) (FreshStep campusContext)
      Broker.start b :=
    Reach.of_replay (fun b e h => FreshStep.of_grantsOn (of_decide_eq_true h).1
      (of_decide_eq_true h).2) Reach.start hb
  exact ⟨b, hreach, hslots, kinds_live hreach⟩

/-- A throughput test and a traceroute share their slot; when the throughput test is complete the
    slot is still a throughput slot. -/
theorem bandwidth_slot_without_test : ∃ b,
    Reach (Broker.step campusContext campusPolicy) (NoWrap campusContext) Broker.start b ∧
      ∃ u ∈ b.slots, u.type = .slotBandwidth ∧ u.Holds 1691011305 ∧
        ∀ r ∈ b.live, r.testType campusContext ≠ .throughput := by
  have hrun : (campusRun [campusDemand 0 0x01 100 10 0, campusDemand 1 0x20 100 10 0,
      .mesg 0 (.complete (Vector.replicate 16 0))]).map (fun b => decide
        (∃ u ∈ b.slots, u.type = .slotBandwidth ∧ u.Holds 1691011305 ∧
          ∀ r ∈ b.live, r.testType campusContext ≠ .throughput)) = some true := by decide +kernel
  obtain ⟨b, hb, h⟩ := Option.map_eq_some_iff.1 hrun
  exact ⟨b, reach_campusRun hb, of_decide_eq_true h⟩

end Bwctl
