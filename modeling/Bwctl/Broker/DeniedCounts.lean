import Bwctl.Broker.SlotList

/-!
# What a denied demand does to the other reservations

The denial of `ChldReservationDemand` shares `DeleteReservation` with reservations that really
were inserted, so it counts down every slot that overlaps the start at which the search gave
up.  The call leaves the others alone exactly when no such slot is left, and the child's
earlier reservation, if it had one, is taken off exactly on its own seconds.

* `recorded_resRemove` — what a removal does to the count of a second.
* `LateStart` — the start a demand is denied at.
* `denied_counts_iff` — when a demand that is not granted leaves the others alone.
* `denied_demand_deletes_other` — a denied demand that deletes another child's slot.
-/

set_option autoImplicit false

namespace Bwctl

open GuardedRuns Intervals

/-- The number of reservations recorded for a second. -/
def recorded (slots : List TimeSlot) (t : Int) : Int :=
  (slots.map fun u => if u.Holds t then u.numReservations else 0).sum

/-- The slots that hold a second and overlap a reservation. -/
def hits (slots : List TimeSlot) (r : Reservation) (t : Int) : Nat :=
  slots.countP fun u => decide (u.Holds t) && timeSlotHasReservation u r

/-- No slot that holds a second overlaps the reservation. -/
def Untouched (slots : List TimeSlot) (r : Reservation) : Prop :=
  ∀ u ∈ slots, u.start ≤ u.end_ → timeSlotHasReservation u r = false

/-- Every second of the reservation is held by one slot, and the slots that overlap it hold no
    other second. -/
structure OwnExact (slots : List TimeSlot) (r : Reservation) : Prop where
  one : ∀ t, r.Covers t → slots.countP (fun u => decide (u.Holds t)) = 1
  inside : ∀ u ∈ slots, timeSlotHasReservation u r = true → ∀ t, u.Holds t → r.Covers t

def DemandReply.isGranted : DemandReply → Bool
  | .granted _ _ => true
  | _ => false

/-- One on the seconds of the requester's earlier reservation when the demand was denied by the
    check of the latest time. -/
def ownSecond : DemandReply → Option Reservation → Int → Int
  | .denied _ _, some r, t => if r.Covers t then 1 else 0
  | _, _, _ => 0

/-- The counts after a demand that was not granted are the counts before, less the requester's own
    earlier reservation. -/
def OthersKept (ctx : Context) (env : DemandEnv) (node : PolicyNode) (res? : Option Reservation)
    (q : ReservationQuery) (slots : List TimeSlot) : Prop :=
  ∀ t, recorded (chldReservationDemand ctx env node res? q slots).slots t =
    recorded slots t - ownSecond (chldReservationDemand ctx env node res? q slots).reply res? t

/-! ## Counts -/

section Counts

variable {slots : List TimeSlot} {r : Reservation} {t : Int} {u : TimeSlot}

/-- A second without slot counts nothing. -/
theorem recorded_eq_zero (h : ∀ v ∈ slots, ¬ v.Holds t) : recorded slots t = 0 := by
  unfold recorded
  rw [List.map_congr_left (g := fun _ => 0) fun v hv => if_neg (h v hv)]
  simp

/-- On an ordered list the count of a second is that of the slot that holds it. -/
theorem recorded_of_holds (hord : SlotsOrdered slots) (hu : u ∈ slots) (ht : u.Holds t) :
    recorded slots t = u.numReservations := by
  induction slots with
  | nil => cases hu
  | cons v slots ih =>
    obtain ⟨-, hlt, hord'⟩ := Ordered.cons_iff.1 hord
    have hcons : recorded (v :: slots) t =
        (if v.Holds t then v.numReservations else 0) + recorded slots t := by
      simp [recorded]
    rw [hcons]
    rcases List.mem_cons.1 hu with rfl | hu'
    · rw [if_pos ht, recorded_eq_zero fun w hw hwt => ?_, add_zero]
      have h1 := hlt w hw
      have h2 := ht.2
      have h3 := hwt.1
      omega
    · have hne : ¬ v.Holds t := fun hvt => by
        have h1 := hlt u hu'
        have h2 := ht.1
        have h3 := hvt.2
        omega
      rw [if_neg hne, zero_add, ih hord' hu']

/-- **A removal** takes one off a second for every slot that holds it and overlaps the
    reservation. -/
theorem recorded_resRemove (slots : List TimeSlot) (r : Reservation) (t : Int) :
    recorded (resRemove slots r) t = recorded slots t - hits slots r t := by
  induction slots with
  | nil => rfl
  | cons u slots ih =>
    have hcons : ∀ l : List TimeSlot, ∀ v, recorded (v :: l) t =
        (if v.Holds t then v.numReservations else 0) + recorded l t := fun l v => by
      simp [recorded]
    have hhits : hits (u :: slots) r t =
        hits slots r t + if u.Holds t ∧ timeSlotHasReservation u r = true then 1 else 0 := by
      simp [hits, List.countP_cons]
    have hrem : resRemove (u :: slots) r =
        (resRemoveSlot r u).toList ++ resRemove slots r := by
      unfold resRemove
      cases h : resRemoveSlot r u <;> simp [h]
    rw [hrem, hhits, hcons]
    cases hv : resRemoveSlot r u with
    | none =>
      have hyes := resRemoveSlot_eq_none.1 hv
      simp only [Option.toList_none, List.nil_append, ih, hyes.1, hyes.2, and_true]
      split <;> push_cast <;> omega
    | some v =>
      simp only [Option.toList_some, List.singleton_append, hcons, ih]
      rcases resRemoveSlot_eq_some.1 hv with ⟨hno, rfl⟩ | ⟨hyes, -, rfl⟩
      · simp [hno]; omega
      · have hh : (timeSlotRemoveReservation u).Holds t ↔ u.Holds t := Iff.rfl
        simp only [hh, hyes, and_true]
        split
        · simp only [timeSlotRemoveReservation]; push_cast; omega
        · push_cast; omega

theorem hits_eq_zero : (∀ t, hits slots r t = 0) ↔ Untouched slots r := by
  unfold hits Untouched
  simp only [List.countP_eq_zero, Bool.and_eq_true, decide_eq_true_eq, not_and,
    Bool.not_eq_true]
  constructor
  · exact fun h u hu hp => h u.start u hu ⟨le_rfl, hp⟩
  · exact fun h t u hu ht => h u hu (ht.1.trans ht.2)

/-- A slot that holds a second of the reservation overlaps it. -/
theorem hits_of_covers (ht : r.Covers t) :
    hits slots r t = slots.countP (fun u => decide (u.Holds t)) := by
  refine List.countP_congr fun u _ => ?_
  simp only [Bool.and_eq_true, decide_eq_true_eq, and_iff_left_iff_imp]
  exact fun hu => hasReservation_of_covers hu ht

theorem ownExact_iff :
    OwnExact slots r ↔ ∀ t, hits slots r t = if r.Covers t then 1 else 0 := by
  constructor
  · intro h t
    split
    · rename_i ht
      rw [hits_of_covers ht, h.one t ht]
    · rename_i ht
      refine List.countP_eq_zero.2 fun u hu => ?_
      simp only [Bool.and_eq_true, decide_eq_true_eq, not_and]
      exact fun hut hhas => ht (h.inside u hu hhas t hut)
  · intro h
    refine ⟨fun t ht => ?_, fun u hu hhas t hut => ?_⟩
    · rw [← hits_of_covers ht, h t, if_pos ht]
    · by_contra ht
      have h0 := h t
      rw [if_neg ht] at h0
      have := List.countP_eq_zero.1 h0 u hu
      simp [hut, hhas] at this

/-- The own reservation and the denied one together take one off each own second and nothing else
    exactly when the own one does and the denied one takes nothing. -/
theorem hits_add_iff {w : Reservation} :
    (∀ t, (hits slots r t : Int) + hits (resRemove slots r) w t = if r.Covers t then 1 else 0) ↔
      OwnExact slots r ∧ Untouched (resRemove slots r) w := by
  rw [ownExact_iff, ← hits_eq_zero]
  constructor
  · intro h
    have hboth : ∀ t, hits slots r t = (if r.Covers t then 1 else 0) ∧
        hits (resRemove slots r) w t = 0 := by
      intro t
      have ht := h t
      split at ht
      · rename_i hc
        by_cases h0 : hits slots r t = 0
        · -- a second without slot has none after the removal either
          have hnone : hits (resRemove slots r) w t = 0 := by
            refine List.countP_eq_zero.2 fun v hv => ?_
            rw [hits_of_covers hc, List.countP_eq_zero] at h0
            obtain ⟨u, hu, ⟨-, rfl⟩ | ⟨-, -, rfl⟩⟩ := mem_resRemove.1 hv
            · have := h0 _ hu
              simp only [decide_eq_true_eq] at this
              simp [this]
            · have hu' := h0 u hu
              have hh : (timeSlotRemoveReservation u).Holds t ↔ u.Holds t := Iff.rfl
              simp only [decide_eq_true_eq] at hu'
              simp [hh, hu']
          omega
        · rw [if_pos hc]; omega
      · rename_i hc
        rw [if_neg hc]; omega
    exact ⟨fun t => (hboth t).1, fun t => (hboth t).2⟩
  · rintro ⟨h1, h2⟩ t
    rw [h1 t, h2 t]
    split <;> rfl

end Counts

/-! ## The start of a denial -/

/-- The result of a search is the reservation with some start. -/
theorem search_denied {ctx : Context} {dtime ltime : Num64} {base : Reservation} :
    ∀ {slots : List TimeSlot} {prevSlot : Option TimeSlot} {s0 : Num64} {res : Reservation},
      search ctx dtime ltime prevSlot (moveTo dtime base s0) slots = .denied res →
        ∃ x, res = moveTo dtime base x
  | [], prevSlot, s0, res, h => by
    unfold search at h
    split at h
    · cases h; exact ⟨s0, rfl⟩
    · cases h
  | slot :: rest, prevSlot, s0, res, h => by
    have hbehind : ∀ {r : SearchResult}, r.behind slot = .denied res → r = .denied res := by
      intro r hr
      cases r with
      | denied res' => exact hr
      | added res' slots' => cases hr
    rw [search, fixEnd_moveTo] at h
    split at h
    · cases h; exact ⟨s0, rfl⟩
    · exact search_denied (hbehind h)
    · cases h
    · rw [moveTo_moveTo] at h
      exact search_denied (hbehind h)
    · rw [moveTo_moveTo] at h
      exact search_denied (hbehind h)
    · cases h

namespace OpenDemand

/-- Going through the slots by hand, the demand is given up at the start `x`. -/
def GivenUpAt (ctx : Context) (d : OpenDemand) (x : Num64) : Prop :=
  (tooLate d.ltime (d.startAt d.firstStart) = true ∧ x = d.firstStart) ∨
    (tooLate d.ltime (d.startAt d.firstStart) = false ∧
      search ctx d.q.dtime d.ltime none (d.startAt d.firstStart) d.slots = .denied (d.startAt x))

/-- The slots are in order and no time of the demand wraps. -/
def Plain (ctx : Context) (d : OpenDemand) : Prop := SlotsOrdered d.slots ∧ d.Fits ctx

/-- The start a demand is denied at: on an ordered list and without wraps the first candidate that
    is too late when every start before it is blocked, else where the scan gives up.  A time that
    wraps puts a start in front of the slots already passed, and on a list out of order a slot is
    passed that lies behind the start; which starts are tried then depends on the scan alone. -/
def LateStart (ctx : Context) (d : OpenDemand) (x : Num64) : Prop :=
  (d.Plain ctx → d.DeniedAt ctx x) ∧ (¬ d.Plain ctx → d.GivenUpAt ctx x)

/-- **A demand that is not granted** is denied at its late start, and has only one. -/
theorem denied_outcome {ctx : Context} {d : OpenDemand}
    (h : (d.outcome ctx).reply.isGranted = false) :
    ∃ x, d.outcome ctx = denyReservation (d.startAt x) d.slots ∧ d.LateStart ctx x ∧
      ∀ y, d.LateStart ctx y → y = x := by
  by_cases hplain : d.Plain ctx
  · have hout := outcome_spec hplain.1 hplain.2
    generalize d.outcome ctx = o at hout h
    cases hout with
    | granted x slots _ _ _ => cases h
    | denied x hd _ =>
      exact ⟨x, rfl, ⟨fun _ => hd, fun hno => absurd hplain hno⟩, fun y hy =>
        DeniedAt.unique (hy.1 hplain) hd⟩
  · rw [outcome_eq] at h ⊢
    cases hlate : tooLate d.ltime (d.startAt d.firstStart) with
    | true =>
      rw [if_pos rfl]
      refine ⟨d.firstStart, rfl, ⟨fun hp => absurd hp hplain, fun _ => Or.inl ⟨hlate, rfl⟩⟩,
        fun y hy => ?_⟩
      rcases hy.2 hplain with ⟨-, hx⟩ | ⟨hno, -⟩
      · exact hx
      · rw [hlate] at hno; cases hno
    | false =>
      rw [hlate, if_neg (by simp)] at h
      rw [if_neg (by simp)]
      cases hs : search ctx d.q.dtime d.ltime none (d.startAt d.firstStart) d.slots with
      | added res slots => rw [hs] at h; cases h
      | denied res =>
        obtain ⟨x, rfl⟩ : ∃ x, res = d.startAt x := search_denied hs
        refine ⟨x, rfl, ⟨fun hp => absurd hp hplain, fun _ => Or.inr ⟨hlate, hs⟩⟩, fun y hy => ?_⟩
        rcases hy.2 hplain with ⟨hyes, -⟩ | ⟨-, hy⟩
        · rw [hlate] at hyes; cases hyes
        · rw [hs] at hy
          have hstart := congrArg Reservation.start (SearchResult.denied.inj hy)
          exact hstart.symm

end OpenDemand

/-! ## The demand as a whole -/

/-- The clean-up of a demand that is not granted touches nothing but the requester's own earlier
    reservation: when the clock fails, it overlaps no slot; when the demand is too late, it has
    exactly its own seconds, and no slot left overlaps the late start. -/
def CleanUpExact (ctx : Context) (env : DemandEnv) (node : PolicyNode) (res? : Option Reservation)
    (q : ReservationQuery) (slots : List TimeSlot) : Prop :=
  ∀ res left, claimReservation env res? q slots = some (res, left) →
    match env.currtime with
    | none => ∀ r ∈ res?, Untouched slots r
    | some currtime =>
      let d : OpenDemand := ⟨getLimit node BWLDLimEventHorizon, q, currtime, res, left⟩
      (∀ r ∈ res?, OwnExact slots r) ∧ ∀ x, d.LateStart ctx x → Untouched left (d.startAt x)

section Denial

variable {ctx : Context} {env : DemandEnv} {node : PolicyNode} {res? : Option Reservation}
  {q : ReservationQuery} {slots : List TimeSlot}

/-- The clock cannot be read: the earlier reservation is gone without a denial. -/
theorem clock_failure_iff (slots : List TimeSlot) (res? : Option Reservation) :
    (∀ t, recorded (slotsWithout slots res?) t =
      recorded slots t - ownSecond DemandReply.failed res? t) ↔ ∀ r ∈ res?, Untouched slots r := by
  cases res? with
  | none => simp [slotsWithout, ownSecond]
  | some r =>
    simp only [slotsWithout, recorded_resRemove, ownSecond, Option.mem_some_iff, forall_eq',
      ← hits_eq_zero]
    refine forall_congr' fun t => ?_
    omega

/-- The latest time is passed at the start of `w`. -/
theorem denial_iff (slots : List TimeSlot) (res? : Option Reservation) (w : Reservation)
    (restime : Num64) (toolport : UInt16) :
    (∀ t, recorded (resRemove (slotsWithout slots res?) w) t =
      recorded slots t - ownSecond (.denied restime toolport) res? t) ↔
      (∀ r ∈ res?, OwnExact slots r) ∧ Untouched (slotsWithout slots res?) w := by
  cases res? with
  | none =>
    simp only [slotsWithout, recorded_resRemove, ownSecond, ← hits_eq_zero]
    refine ⟨fun h => ⟨by simp, fun t => ?_⟩, fun h t => ?_⟩
    · have := h t; omega
    · have := h.2 t; omega
  | some r =>
    simp only [slotsWithout, recorded_resRemove, ownSecond, Option.mem_some_iff, forall_eq',
      ← hits_add_iff]
    refine forall_congr' fun t => ?_
    constructor <;> intro h <;> omega

/-- **A demand that is not granted leaves the reservations of the others alone exactly when its
    clean-up touches nothing but the requester's own earlier reservation.** -/
theorem denied_counts_iff
    (h : (chldReservationDemand ctx env node res? q slots).reply.isGranted = false) :
    OthersKept ctx env node res? q slots ↔ CleanUpExact ctx env node res? q slots := by
  unfold OthersKept CleanUpExact
  cases hclaim : claimReservation env res? q slots with
  | none =>
    rw [chldReservationDemand_unclaimed hclaim]
    simp [ownSecond]
  | some p =>
    obtain ⟨res, left⟩ := p
    obtain ⟨rfl, -⟩ := Broker.claimReservation_eq_some hclaim
    simp only [Option.some.injEq, Prod.mk.injEq]
    cases hnow : env.currtime with
    | none =>
      rw [chldReservationDemand_clockless hclaim hnow, clock_failure_iff]
      exact ⟨fun hu _ _ _ => hu, fun hu => hu _ _ ⟨rfl, rfl⟩⟩
    | some currtime =>
      rw [chldReservationDemand_open hclaim hnow] at h ⊢
      obtain ⟨x, hout, hx, huniq⟩ := OpenDemand.denied_outcome h
      rw [hout]
      refine (denial_iff slots res? _ _ _).trans ⟨?_, fun hc => ?_⟩
      · rintro ⟨hown, hun⟩ res' left' ⟨rfl, rfl⟩
        exact ⟨hown, fun y hy => by rw [huniq y hy]; exact hun⟩
      · obtain ⟨hown, hun⟩ := hc _ _ ⟨rfl, rfl⟩
        exact ⟨hown, hun x hx⟩

/-- A demand for the seconds of one test is moved behind it, past its latest time, and denied
    there; the slot of the test after that keeps its count. -/
theorem denied_counts_iff_campus : ∃ (q : ReservationQuery) (slots : List TimeSlot),
    (chldReservationDemand campusContext ⟨some (campusTime 0), some 5001⟩ (.root "root" []) none q
        slots).reply = .denied (campusTime 112) 5001 ∧ q.rtime = campusTime 100 ∧ slots.length = 2 ∧
      OthersKept campusContext ⟨some (campusTime 0), some 5001⟩ (.root "root" []) none q slots ∧
      CleanUpExact campusContext ⟨some (campusTime 0), some 5001⟩ (.root "root" []) none q slots := by
  let env : DemandEnv := ⟨some (campusTime 0), some 5001⟩
  let q : ReservationQuery :=
    ⟨Vector.replicate 16 0, campusTime 100, 0, campusTime 105, 10, 0, 0, 0x01, "", ""⟩
  let slots : List TimeSlot := [⟨.slotBandwidth, 1691011300, 1691011311, 1, 30⟩,
    ⟨.slotBandwidth, 1691011340, 1691011351, 1, 30⟩]
  have hrun : (chldReservationDemand campusContext env (.root "root" []) none q slots).reply =
        .denied (campusTime 112) 5001 ∧
      (chldReservationDemand campusContext env (.root "root" []) none q slots).slots = slots := by
    decide +kernel
  obtain ⟨hreply, hslots⟩ := hrun
  have hkept : OthersKept campusContext env (.root "root" []) none q slots := fun t => by
    rw [hreply, hslots]
    simp [ownSecond]
  exact ⟨q, slots, hreply, rfl, rfl, hkept, (denied_counts_iff (by rw [hreply]; rfl)).1 hkept⟩

end Denial

/-- The search for a third test runs past its latest time inside the slot of the second one, and
    the denial deletes that slot. -/
theorem denied_demand_deletes_other : ∃ b q,
    Reach (Broker.step campusContext campusPolicy) (NoWrap campusContext) Broker.start b ∧
      (chldReservationDemand campusContext ⟨some (campusTime 0), some 5001⟩ (.root "root" []) none
        q b.slots).reply.isGranted = false ∧
      ¬ OthersKept campusContext ⟨some (campusTime 0), some 5001⟩ (.root "root" []) none q
        b.slots := by
  let q : ReservationQuery :=
    ⟨Vector.replicate 16 0, campusTime 100, 0, campusTime 102, 5, 0, 0, 0x01, "", ""⟩
  let env : DemandEnv := ⟨some (campusTime 0), some 5001⟩
  have hrun : (campusRun [campusDemand 0 0x01 100 5 0, campusDemand 1 0x01 107 5 0]).map
      (fun b =>
        let o := chldReservationDemand campusContext env (.root "root" []) none q b.slots
        (o.reply.isGranted, recorded b.slots 1691011309, recorded o.slots 1691011309,
          ownSecond o.reply none 1691011309)) = some (false, 1, 0, 0) := by decide +kernel
  obtain ⟨b, hb, h⟩ := Option.map_eq_some_iff.1 hrun
  simp only [Prod.mk.injEq] at h
  obtain ⟨hreply, hbefore, hafter, hown⟩ := h
  refine ⟨b, q, reach_campusRun hb, hreply, fun hk => ?_⟩
  have := hk 1691011309
  rw [hafter, hbefore, hown] at this
  omega

end Bwctl
