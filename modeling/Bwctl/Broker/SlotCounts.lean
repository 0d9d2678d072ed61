import Bwctl.Broker.DeniedCounts
import Bwctl.Broker.Exclusive

/-!
# Exact slot counts

The number of reservations recorded for a second is the number of live reservations that cover it,
as long as no reservation spans seconds without slot between two slots it overlaps: the insertion
creates a slot in front of the first and behind the last overlapped slot, and none between two.
Such a second stays without slot, and its count at zero.

* `Inserted.recorded` — what an insertion does to the count of a second.
* `Inserted.recorded_iff` — an insertion counts every second exactly when it has no gap.
* `Counted.recorded` — slots that count the live reservations record them.
* `slot_counts` — the counts of one grant and of a whole run.
* `gap_is_not_counted` — a grant that leaves seconds uncounted.
-/

set_option autoImplicit false

namespace Bwctl

open GuardedRuns

/-- The number of reservations that cover a second. -/
def covering (live : List Reservation) (t : Int) : Nat :=
  live.countP fun r => decide (r.Covers t)

section Insertion

variable {ctx : Context} {slots slots' : List TimeSlot} {live : List Reservation}
  {r : Reservation} {t : Int}

/-- **What an insertion does to the count of a second**: it adds one to a covered second that has a
    slot afterwards. -/
theorem Inserted.recorded (hins : Inserted ctx r slots slots') (hord : SlotsOrdered slots)
    (hse : r.resStart ≤ r.resEnd) (t : Int) :
    recorded slots' t =
      Bwctl.recorded slots t + if r.Covers t ∧ ∃ v ∈ slots', v.Holds t then 1 else 0 := by
  have hord' := hins.ordered hord hse
  by_cases hheld : ∃ v ∈ slots', v.Holds t
  · obtain ⟨v, hv, hvt⟩ := hheld
    rw [recorded_of_holds hord' hv hvt]
    have hif : (r.Covers t ∧ ∃ v ∈ slots', v.Holds t) ↔ r.Covers t :=
      and_iff_left ⟨v, hv, hvt⟩
    simp only [hif]
    rcases hins.mem_cases hord hse hv with
      ⟨hv, hoff⟩ | ⟨u, hu, hmeet, -, hvu⟩ | ⟨a, b, rfl, h1, h2, h3, hoff⟩
    · have hno : ¬ r.Covers t := fun hc => by
        obtain ⟨h1, h2⟩ := hvt
        obtain ⟨h3, h4⟩ := hc
        omega
      rw [recorded_of_holds hord hv hvt, if_neg hno, add_zero]
    · obtain ⟨-, hsub⟩ := cutSlot_ordered ctx r hse (hord.proper u hu) hmeet
      have hut : u.Holds t := ⟨(hsub v hvu).1.trans hvt.1, hvt.2.trans (hsub v hvu).2⟩
      rw [recorded_of_holds hord hu hut]
      rcases mem_cutSlot.1 hvu with ⟨-, rfl⟩ | rfl | ⟨-, rfl⟩
      · have hno : ¬ r.Covers t := fun hc => by
          have h1 : t ≤ r.resStart - 1 := hvt.2
          have h2 := hc.1
          omega
        rw [if_neg hno, add_zero]
        rfl
      · have hyes : r.Covers t :=
          ⟨(le_max_right _ _).trans hvt.1, hvt.2.trans (min_le_right _ _)⟩
        rw [if_pos hyes]
        rfl
      · have hno : ¬ r.Covers t := fun hc => by
          have h1 : r.resEnd + 1 ≤ t := hvt.1
          have h2 := hc.2
          omega
        rw [if_neg hno, add_zero]
        rfl
    · have hyes : r.Covers t := ⟨h1.trans hvt.1, hvt.2.trans h3⟩
      have hnone : ∀ u ∈ slots, ¬ u.Holds t := fun u hu hut => by
        have h4 := hoff u hu
        obtain ⟨h5, h6⟩ := hut
        obtain ⟨h7, h8⟩ := hvt
        simp only [create_start, create_end] at h7 h8
        omega
      rw [recorded_eq_zero hnone, if_pos hyes]
      rfl
  · have hnone : ∀ u ∈ slots, ¬ u.Holds t := fun u hu hut =>
      hheld (hins.holds_old hord hse hu hut)
    have hnone' : ∀ v ∈ slots', ¬ v.Holds t := fun v hv hvt => hheld ⟨v, hv, hvt⟩
    rw [recorded_eq_zero hnone, recorded_eq_zero hnone', if_neg fun h => hheld h.2, add_zero]

/-- A covered second gets a slot exactly when it is in no gap. -/
theorem Inserted.holds_iff (hins : Inserted ctx r slots slots') (hord : SlotsOrdered slots)
    (hse : r.resStart ≤ r.resEnd) :
    (∀ t, r.Covers t → ∃ v ∈ slots', v.Holds t) ↔ NoGap slots r := by
  constructor
  · intro hall u hu w hw hum hwm t hut htw
    by_contra hno
    push Not at hno
    have hcov : r.Covers t := by
      have h1 := hum.2
      have h2 := hwm.1
      exact ⟨by omega, by omega⟩
    obtain ⟨v, hv, hvt⟩ := hall t hcov
    exact hins.holds_none hord hse hno hu hum hut hw hwm htw v hv hvt
  · intro hgap t ht
    refine hins.holds_new hord hse ht ?_
    by_contra hno
    push Not at hno
    obtain ⟨hnone, ⟨u, hu, hum, hut⟩, w, hw, hwm, htw⟩ := hno
    obtain ⟨v, hv, hvt⟩ := hgap u hu w hw hum hwm t hut htw
    exact hnone v hv hvt

/-- **An insertion adds one to exactly the seconds of its reservation exactly when it has no
    gap.** -/
theorem Inserted.recorded_iff (hins : Inserted ctx r slots slots') (hord : SlotsOrdered slots)
    (hse : r.resStart ≤ r.resEnd) :
    (∀ t, Bwctl.recorded slots' t = Bwctl.recorded slots t + if r.Covers t then 1 else 0) ↔
      NoGap slots r := by
  rw [← hins.holds_iff hord hse]
  refine forall_congr' fun t => ?_
  rw [hins.recorded hord hse t]
  by_cases hc : r.Covers t
  · by_cases hv : ∃ v ∈ slots', v.Holds t
    · simp [hc, hv]
    · simp [hc, hv]
  · simp [hc]

/-- **Slots that count the live reservations record them**, second by second. -/
theorem Counted.recorded (h : Counted slots live) (hord : SlotsOrdered slots) (t : Int) :
    Bwctl.recorded slots t = covering live t := by
  by_cases hheld : ∃ u ∈ slots, u.Holds t
  · obtain ⟨u, hu, hut⟩ := hheld
    rw [recorded_of_holds hord hu hut, h.count u hu]
    unfold covering
    congr 1
    refine List.countP_congr fun r hr => ?_
    rw [decide_eq_true_eq]
    constructor
    · intro hhas
      obtain ⟨h1, h2⟩ := h.within u hu r hr hhas
      exact ⟨h1.trans hut.1, hut.2.trans h2⟩
    · exact fun hc => hasReservation_of_covers hut hc
  · have hnone : ∀ u ∈ slots, ¬ u.Holds t := fun u hu hut => hheld ⟨u, hu, hut⟩
    have hzero : covering live t = 0 := by
      refine List.countP_eq_zero.2 fun r hr hc => hheld ?_
      exact h.covered r hr t (of_decide_eq_true hc)
    rw [recorded_eq_zero hnone, hzero]
    rfl

end Insertion

/-! ## Runs -/

/-- A demand that, granted, has no gap and, denied, overlaps none of the slots it is deleted
    from. -/
structure CountedDemand (ctx : Context) (d : OpenDemand) : Prop where
  fits : d.Fits ctx
  granted : ∀ x, d.GrantedAt ctx x → NoGap d.slots (d.startAt x)
  denied : ∀ x, d.DeniedAt ctx x → ∀ u ∈ d.slots, timeSlotHasReservation u (d.startAt x) = false

/-- The demand of an event, if it makes one, is counted. -/
def CountedStep (ctx : Context) (b : Broker) (e : BrokerEvent) : Prop :=
  ∀ d, b.demand? e = some d → CountedDemand ctx d

/-- The reservation an event grants. -/
def Broker.granted? (ctx : Context) (b : Broker) (e : BrokerEvent) : Option Reservation :=
  (b.demand? e).bind fun d => (d.outcome ctx).res

section Run

variable {ctx : Context} {policy : Policy} {b b' : Broker} {e : BrokerEvent}
  {rest : List Reservation}

/-- A counted demand keeps the account, granted or denied. -/
theorem Counted.demand {d : OpenDemand} (hok : SlotsOk d.slots) (h : Counted d.slots rest)
    (hd : CountedDemand ctx d) :
    Counted (d.outcome ctx).slots ((d.outcome ctx).res.toList ++ rest) := by
  have hout := OpenDemand.outcome_spec hok.ordered hd.fits
  generalize d.outcome ctx = o at hout
  cases hout with
  | granted x slots hg hfit hins =>
    exact h.insert hok.ordered hins (resStart_le_resEnd hfit) (hd.granted x hg)
  | denied x hden hfit =>
    show Counted (resRemove d.slots (d.startAt x)) rest
    rw [resRemove_eq_self (hd.denied x hden)]
    exact h

/-- **One counted step** keeps the account. -/
theorem Counted.step (h : SlotsOk b.slots ∧ Counted b.slots b.live) (hcounted : CountedStep ctx b e)
    (hstep : b.step ctx policy e = some b') : SlotsOk b'.slots ∧ Counted b'.slots b'.live :=
  Broker.step_keeps (P := fun slots live => SlotsOk slots ∧ Counted slots live)
    (fun h hp => ⟨h.1, h.2.perm hp⟩) (fun _ _ h => ⟨h.1.resRemove _, h.2.remove⟩)
    (fun hd _ h => ⟨h.1.demand (hcounted _ hd).fits, h.2.demand h.1 (hcounted _ hd)⟩) h hstep

theorem counted_of_reach (h : Reach (Broker.step ctx policy) (CountedStep ctx) Broker.start b) :
    SlotsOk b.slots ∧ Counted b.slots b.live :=
  h.invariant (I := fun b => SlotsOk b.slots ∧ Counted b.slots b.live) ⟨SlotsOk.nil, Counted.nil⟩
    fun _ _ _ _ hi hok he => Counted.step hi hok he

/-- What a step does to the number of live reservations that cover a second. -/
theorem Broker.covering_step (hstep : b.step ctx policy e = some b') (t : Int) :
    covering b'.live t + covering (b.removed? e).toList t =
      covering b.live t + covering (b.granted? ctx e).toList t := by
  obtain ⟨rest, hspec⟩ := Broker.step_spec hstep
  have hbefore : covering b.live t = covering (b.removed? e).toList t + covering rest t := by
    unfold covering
    rw [hspec.live_eq.countP_eq, List.countP_append]
  have hafter : covering b'.live t = covering (b.granted? ctx e).toList t + covering rest t := by
    unfold covering Broker.granted?
    cases hd : b.demand? e with
    | none =>
      rw [(hspec.quiet hd).2.countP_eq]
      simp
    | some d =>
      rw [(hspec.demand d hd).2.countP_eq, List.countP_append]
      rfl
  omega

end Run

section Counts

variable {ctx : Context} {policy : Policy}

/-- **A grant adds one to exactly the seconds of its reservation exactly when it has no gap at its
    start.  In a run without gaps, and without denials that hit other slots, the count of a second
    is the number of live reservations that cover it: a step takes one off exactly the seconds of
    the reservation it removes and adds one to exactly the seconds of the reservation it
    grants.** -/
theorem slot_counts :
    (∀ d : OpenDemand, SlotsOrdered d.slots → d.Fits ctx → ∀ x, d.GrantedAt ctx x →
      StartFits d.q.dtime (d.startAt x) → (d.outcome ctx).res = some (d.startAt x) ∧
        ((∀ t, recorded (d.outcome ctx).slots t =
          recorded d.slots t + if (d.startAt x).Covers t then 1 else 0) ↔
            NoGap d.slots (d.startAt x))) ∧
    (∀ b, Reach (Broker.step ctx policy) (CountedStep ctx) Broker.start b →
      (∀ t, recorded b.slots t = covering b.live t) ∧
      ∀ e b', CountedStep ctx b e → b.step ctx policy e = some b' → ∀ t,
        recorded b'.slots t = recorded b.slots t - covering (b.removed? e).toList t +
          covering (b.granted? ctx e).toList t) := by
  refine ⟨fun d hord hfits x hx hfit => ?_, fun b hb => ?_⟩
  · obtain ⟨hres, hins⟩ := OpenDemand.outcome_granted hord hfits hx hfit
    exact ⟨hres, hins.recorded_iff hord (resStart_le_resEnd hfit)⟩
  · obtain ⟨hok, hcounted⟩ := counted_of_reach hb
    refine ⟨fun t => hcounted.recorded hok.ordered t, fun e b' he hstep t => ?_⟩
    obtain ⟨hok', hcounted'⟩ := Counted.step ⟨hok, hcounted⟩ he hstep
    have hcov := Broker.covering_step hstep t
    rw [hcounted.recorded hok.ordered, hcounted'.recorded hok'.ordered]
    omega

end Counts

/-- A demand that the search grants without gaps is counted. -/
theorem CountedStep.of_grantsOn {ctx : Context} {b : Broker} {e : BrokerEvent}
    (h : b.GrantsOn ctx NoGap e) : CountedStep ctx b e := by
  intro d hd
  obtain ⟨hord, hfits, r, hr, hgap⟩ := h d hd
  obtain ⟨-, hgranted, hdenied⟩ := OpenDemand.of_outcome_res hord hfits hr
  exact ⟨hfits, fun x hx => hgranted x hx ▸ hgap, fun x hx => absurd hx (hdenied x)⟩

/-- A traceroute over two throughput tests, the second one moved behind the first, is rescheduled:
    its old seconds are counted down and its new ones up. -/
theorem slot_counts_campus : ∃ b b' e d x,
    Reach (Broker.step campusContext campusPolicy) (CountedStep campusContext) Broker.start b ∧
      b.live.map (fun r => (r.resStart, r.resEnd)) =
        [(1691011300, 1691011311), (1691011312, 1691011323), (1691011305, 1691011316)] ∧
      b.step campusContext campusPolicy e = some b' ∧
      b'.live.map (fun r => (r.resStart, r.resEnd)) =
        [(1691011300, 1691011311), (1691011312, 1691011323), (1691011308, 1691011319)] ∧
      b.demand? e = some d ∧ d.GrantedAt campusContext x ∧
      (∀ t, recorded (d.outcome campusContext).slots t =
        recorded d.slots t + if (d.startAt x).Covers t then 1 else 0) ∧
      (∀ t, recorded b'.slots t = recorded b.slots t - covering (b.removed? e).toList t +
        covering (b.granted? campusContext e).toList t) ∧
      ∀ t, recorded b'.slots t = covering b'.live t := by
  let e := campusDemand 2 0x20 108 10 0
  have hrun : (replay (Broker.step campusContext campusPolicy)
      (fun b e => decide (b.GrantsOn campusContext NoGap e)) Broker.start
      (campusConnects ++ [campusDemand 0 0x01 100 10 0, campusDemand 1 0x01 100 10 0,
        campusDemand 2 0x20 105 10 0])).bind
      (fun b => (b.demand? e).bind fun d => (b.step campusContext campusPolicy e).map fun b' =>
        (decide (b.GrantsOn campusContext NoGap e),
          b.live.map (fun r => (r.resStart, r.resEnd)),
          b'.live.map (fun r => (r.resStart, r.resEnd)))) =
      some (true,
        [(1691011300, 1691011311), (1691011312, 1691011323), (1691011305, 1691011316)],
        [(1691011300, 1691011311), (1691011312, 1691011323), (1691011308, 1691011319)]) := by
    decide +kernel
  obtain ⟨b, hb, hrun⟩ := Option.bind_eq_some_iff.1 hrun
  obtain ⟨d, hd, hrun⟩ := Option.bind_eq_some_iff.1 hrun
  obtain ⟨b', hstep, hrun⟩ := Option.map_eq_some_iff.1 hrun
  simp only [Prod.mk.injEq, decide_eq_true_eq] at hrun
  obtain ⟨hgrants, hlive, hlive'⟩ := hrun
  have hreach : Reach (Broker.step campusContext campusPolicy) (CountedStep campusContext)
      Broker.start b :=
    Reach.of_replay (fun b e h => CountedStep.of_grantsOn (of_decide_eq_true h)) Reach.start hb
  have hcounted := CountedStep.of_grantsOn hgrants
  obtain ⟨hord, hfits, r, hr, -⟩ := hgrants d hd
  obtain ⟨⟨x, hx, hfit⟩, -, -⟩ := OpenDemand.of_outcome_res hord hfits hr
  obtain ⟨hgrant, hruns⟩ := @slot_counts campusContext campusPolicy
  refine ⟨b, b', e, d, x, hreach, hlive, hstep, hlive', hd, hx, ?_, ?_, ?_⟩
  · exact (hgrant d hord hfits x hx hfit).2.2 ((hcounted d hd).granted x hx)
  · exact (hruns b hreach).2 e b' hcounted hstep
  · exact (hruns b' (hreach.step hcounted hstep)).1

/-- A traceroute that begins during a first test and ends during a second one: the seconds between
    the two tests get no slot, and the traceroute is not counted on them. -/
theorem gap_is_not_counted : ∃ b b' e r,
    Reach (Broker.step campusContext campusPolicy) (NoWrap campusContext) Broker.start b ∧
      NoWrap campusContext b e ∧ b.step campusContext campusPolicy e = some b' ∧
      b.granted? campusContext e = some r ∧ r.Covers 1691011320 ∧
      recorded b.slots 1691011320 = 0 ∧ recorded b'.slots 1691011320 = 0 := by
  let e := campusDemand 2 0x20 105 30 0
  have hrun : (campusRun [campusDemand 0 0x01 100 10 0, campusDemand 1 0x01 130 10 0]).bind
      (fun b => (b.step campusContext campusPolicy e).bind fun b' =>
        (b.granted? campusContext e).map fun r =>
          (decide (NoWrap campusContext b e), decide (r.Covers 1691011320),
            recorded b.slots 1691011320, recorded b'.slots 1691011320)) =
        some (true, true, 0, 0) := by decide +kernel
  obtain ⟨b, hb, hrun⟩ := Option.bind_eq_some_iff.1 hrun
  obtain ⟨b', hstep, hrun⟩ := Option.bind_eq_some_iff.1 hrun
  obtain ⟨r, hr, hrun⟩ := Option.map_eq_some_iff.1 hrun
  simp only [Prod.mk.injEq, decide_eq_true_eq] at hrun
  obtain ⟨hfits, hcov, hbefore, hafter⟩ := hrun
  exact ⟨b, b', e, r, reach_campusRun hb, hfits, hstep, hr, hcov, hbefore, hafter⟩

end Bwctl
