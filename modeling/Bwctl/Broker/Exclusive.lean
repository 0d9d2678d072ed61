import Bwctl.Broker.Booking

/-!
# Exclusive use of the link

A throughput test must not run together with another throughput test or with a latency test.
The slots enforce this through their types, and three things break it: a slot that is split
loses its type behind the split, the seconds between two overlapped slots get no slot, and a
denied demand is deleted from slots it never entered.  In a run without these every second is
exclusive; a traceroute that straddles a throughput slot is enough to break it.

* `CleanDemand` — a demand that does none of the three.
* `ScheduleInv.step` — clean steps keep the account and the exclusion.
* `live_exclusive` — no two live reservations conflict in any state of a clean run.
* `two_throughput_tests_at_once` — a run with a traceroute that loses the exclusion.
-/

set_option autoImplicit false

namespace Bwctl

open GuardedRuns

/-- Granted, the demand is inserted cleanly; denied, it overlaps none of the slots it is deleted
    from. -/
structure CleanDemand (ctx : Context) (d : OpenDemand) : Prop where
  fits : d.Fits ctx
  granted : ∀ x, d.GrantedAt ctx x → CleanInsert ctx d.slots (d.startAt x)
  denied : ∀ x, d.DeniedAt ctx x → ∀ u ∈ d.slots, timeSlotHasReservation u (d.startAt x) = false

/-- The demand of an event, if it makes one, is clean. -/
def CleanStep (ctx : Context) (b : Broker) (e : BrokerEvent) : Prop :=
  ∀ d, b.demand? e = some d → CleanDemand ctx d

/-- No two of the reservations conflict. -/
def Exclusive (ctx : Context) (live : List Reservation) : Prop :=
  live.Pairwise fun r r' => ¬ Conflict ctx r r'

theorem Exclusive.perm {ctx : Context} {live rest : List Reservation} (h : Exclusive ctx live)
    (hp : live.Perm rest) : Exclusive ctx rest :=
  hp.pairwise h fun hno hc => hno hc.symm

/-- The schedule of a clean run: an ordered list that accounts for exclusive reservations. -/
structure ScheduleInv (ctx : Context) (slots : List TimeSlot) (live : List Reservation) : Prop where
  ok : SlotsOk slots
  booked : Booked ctx slots live
  exclusive : Exclusive ctx live

section Run

variable {ctx : Context} {policy : Policy} {b b' : Broker} {e : BrokerEvent}
  {slots slots' : List TimeSlot} {live rest : List Reservation} {r : Reservation}

theorem ScheduleInv.perm (h : ScheduleInv ctx slots live) (hp : live.Perm rest) :
    ScheduleInv ctx slots rest :=
  ⟨h.ok, h.booked.perm hp, h.exclusive.perm hp⟩

theorem ScheduleInv.remove (h : ScheduleInv ctx slots (r :: rest)) :
    ScheduleInv ctx (resRemove slots r) rest :=
  ⟨h.ok.resRemove r, h.booked.remove, (List.pairwise_cons.1 h.exclusive).2⟩

theorem ScheduleInv.insert (h : ScheduleInv ctx slots live) (hins : Inserted ctx r slots slots')
    (hse : r.resStart ≤ r.resEnd) (hclean : CleanInsert ctx slots r) :
    ScheduleInv ctx slots' (r :: live) :=
  ⟨h.ok.inserted hins hse, h.booked.insert h.ok.ordered hins hse hclean,
    List.pairwise_cons.2 ⟨h.booked.compatible hins, h.exclusive⟩⟩

/-- A clean demand keeps the account and the exclusion, granted or denied. -/
theorem ScheduleInv.demand {d : OpenDemand} (h : ScheduleInv ctx d.slots rest)
    (hclean : CleanDemand ctx d) :
    ScheduleInv ctx (d.outcome ctx).slots ((d.outcome ctx).res.toList ++ rest) := by
  have hout := OpenDemand.outcome_spec h.ok.ordered hclean.fits
  generalize d.outcome ctx = o at hout
  cases hout with
  | granted x slots hg hfit hins =>
    exact h.insert hins (resStart_le_resEnd hfit) (hclean.granted x hg)
  | denied x hden hfit =>
    show ScheduleInv ctx (resRemove d.slots (d.startAt x)) rest
    rw [resRemove_eq_self (hclean.denied x hden)]
    exact h

/-- **One clean step** keeps the account and the exclusion. -/
theorem ScheduleInv.step (h : ScheduleInv ctx b.slots b.live) (hclean : CleanStep ctx b e)
    (hstep : b.step ctx policy e = some b') : ScheduleInv ctx b'.slots b'.live :=
  Broker.step_keeps ScheduleInv.perm (fun _ _ h => h.remove)
    (fun hd _ h => h.demand (hclean _ hd)) h hstep

/-- **In every run of clean demands no second is covered by two live reservations of which one is
    for a throughput test and the other for a throughput or a latency test.** -/
theorem live_exclusive (h : Reach (Broker.step ctx policy) (CleanStep ctx) Broker.start b) :
    b.live.Pairwise fun r r' => ¬ Conflict ctx r r' := by
  have hinv : ScheduleInv ctx b.slots b.live :=
    h.invariant (I := fun b => ScheduleInv ctx b.slots b.live)
      ⟨SlotsOk.nil, Booked.nil ctx, by simp [Exclusive, Broker.live, Broker.start]⟩
      fun _ _ _ _ hi hok he => hi.step hok he
  exact hinv.exclusive

end Run

/-- A demand that is granted cleanly by the search is clean. -/
theorem CleanStep.of_grantsOn {ctx : Context} {b : Broker} {e : BrokerEvent}
    (h : b.GrantsOn ctx (CleanInsert ctx) e) : CleanStep ctx b e := by
  intro d hd
  obtain ⟨hord, hfits, r, hr, hclean⟩ := h d hd
  obtain ⟨-, hgranted, hdenied⟩ := OpenDemand.of_outcome_res hord hfits hr
  exact ⟨hfits, fun x hx => hgranted x hx ▸ hclean, fun x hx => absurd hx (hdenied x)⟩

/-- Three tests are asked for the same second: a throughput test gets it, a second one is moved
    behind the first and a latency test behind both; then the first is complete and its child asks
    for a traceroute. -/
theorem live_exclusive_campus : ∃ b,
    Reach (Broker.step campusContext campusPolicy) (CleanStep campusContext) Broker.start b ∧
      b.live.map (fun r => (r.testType campusContext, r.resStart, r.resEnd)) =
        [(.traceroute, 1691011400, 1691011406), (.throughput, 1691011312, 1691011323),
          (.latency, 1691011324, 1691011335)] ∧
      b.live.Pairwise fun r r' => ¬ Conflict campusContext r r' := by
  have hrun : (replay (Broker.step campusContext campusPolicy)
      (fun b e => decide (b.GrantsOn campusContext (CleanInsert campusContext) e)) Broker.start
      (campusConnects ++ [campusDemand 0 0x01 100 10 0, campusDemand 1 0x01 100 10 0,
        campusDemand 2 0x10 100 10 0, .mesg 0 (.complete (Vector.replicate 16 0)),
        campusDemand 0 0x20 200 5 0])).map
      (fun b => b.live.map fun r => (r.testType campusContext, r.resStart, r.resEnd)) =
        some [(.traceroute, 1691011400, 1691011406), (.throughput, 1691011312, 1691011323),
          (.latency, 1691011324, 1691011335)] := by decide +kernel
  obtain ⟨b, hb, hlive⟩ := Option.map_eq_some_iff.1 hrun
  have hreach : Reach (Broker.step campusContext campusPolicy) (CleanStep campusContext)
      Broker.start b :=
    Reach.of_replay (fun b e h => CleanStep.of_grantsOn (of_decide_eq_true h)) Reach.start hb
  exact ⟨b, hreach, hlive, live_exclusive hreach⟩

/-- A traceroute in the middle of a throughput test takes the type off the slots behind its start,
    and a second throughput test is granted there. -/
theorem two_throughput_tests_at_once : ∃ b,
    Reach (Broker.step campusContext campusPolicy) (NoWrap campusContext) Broker.start b ∧
      ¬ b.live.Pairwise fun r r' => ¬ Conflict campusContext r r' := by
  have hrun : (campusRun [campusDemand 0 0x01 100 20 0, campusDemand 1 0x20 105 3 0,
      campusDemand 2 0x01 112 5 0]).map (fun b => decide (b.live.Pairwise fun r r' =>
        ¬ ((r.Covers 1691011315 ∧ r'.Covers 1691011315) ∧
          r.testType campusContext = .throughput ∧ r'.testType campusContext = .throughput))) =
      some false := by decide +kernel
  obtain ⟨b, hb, hpair⟩ := Option.map_eq_some_iff.1 hrun
  refine ⟨b, reach_campusRun hb, fun h => of_decide_eq_false hpair (h.imp ?_)⟩
  exact fun hno hc => hno ⟨⟨1691011315, hc.1⟩, Or.inl ⟨hc.2.1, Or.inl hc.2.2⟩⟩

end Bwctl
