import Bwctl.Broker.Deadline

/-!
# Earliest fit

The single pass over the slots, with its jumps and its three tests of the latest time, agrees with
the naive search over all starts: it grants the least start from the first one on at which every
overlapped slot can be shared and which is in time, and denies when there is none.

* `OpenDemand.Feasible` — a start at which the demand can be granted.
* `feasible_of_grantedAt`, `not_feasible_of_deniedAt` — the two ends of the search.
* `earliest_fit` — the pass is the naive search.
-/

set_option autoImplicit false

namespace Bwctl

namespace OpenDemand

variable {ctx : Context} {d : OpenDemand} {x y : Num64}

/-- The end of a test that starts at `x`, in exact arithmetic. -/
def endOf (d : OpenDemand) (x : Num64) : Nat :=
  x.toNat + 2 * d.q.ftime.toNat + d.q.duration.toNat * 2 ^ 32

/-- **A feasible start**: its times do not wrap, every slot that overlaps the seconds of the test
    can be shared, and the test is in time. -/
structure Feasible (ctx : Context) (d : OpenDemand) (x : Num64) : Prop where
  fits : 2208988800 * 2 ^ 32 ≤ x.toNat ∧ d.endOf x < 2 ^ 64
  canUse : ∀ u ∈ d.slots, u.start ≤ num64ToTimestamp (UInt64.ofNat (d.endOf x)) + 1 →
    num64ToTimestamp x ≤ u.end_ → reservationCanUseSlot ctx d.res u = true
  inTime : d.ltime ≠ 0 → x.toNat + d.q.ftime.toNat ≤ d.ltime.toNat

/-- The duration with fuzz applied does not wrap. -/
def DurationFits (q : ReservationQuery) : Prop :=
  q.duration.toNat * 2 ^ 32 + q.ftime.toNat < 2 ^ 64

instance (q : ReservationQuery) : Decidable (DurationFits q) := Nat.decLt _ _

theorem dtime_toNat {q : ReservationQuery} (h : DurationFits q) :
    q.dtime.toNat = q.duration.toNat * 2 ^ 32 + q.ftime.toNat := by
  unfold ReservationQuery.dtime
  rw [num64Add_toNat_of_lt, uLongToNum64_toNat]
  rw [uLongToNum64_toNat]
  exact h

/-- The times of a start fit exactly when its end does. -/
theorem startFits_iff (h : DurationFits d.q) :
    StartFits d.q.dtime (d.startAt x) ↔ 2208988800 * 2 ^ 32 ≤ x.toNat ∧ d.endOf x < 2 ^ 64 := by
  have hdtime := dtime_toNat h
  have hfuzz : (d.startAt x).fuzz = d.q.ftime := rfl
  have hstart : (d.startAt x).start = x := rfl
  unfold StartFits endOf
  rw [hdtime, hfuzz, hstart]
  constructor <;> rintro ⟨h1, h2⟩ <;> exact ⟨h1, by omega⟩

/-- The last second of a start is the one of its end. -/
theorem resEnd_startAt (h : DurationFits d.q) (hfit : StartFits d.q.dtime (d.startAt x)) :
    (d.startAt x).resEnd = num64ToTimestamp (UInt64.ofNat (d.endOf x)) + 1 := by
  have hends := ((startFits_iff h).1 hfit).2
  have hend : (d.startAt x).end_ = UInt64.ofNat (d.endOf x) := by
    apply UInt64.toNat_inj.1
    rw [show (d.startAt x).end_.toNat = _ from end_moveTo hfit, dtime_toNat h,
      UInt64.toNat_ofNat_of_lt' hends]
    have hfuzz : d.base.fuzz = d.q.ftime := rfl
    unfold endOf
    rw [hfuzz]
    omega
  unfold Reservation.resEnd
  rw [hend]

/-- A start is blocked exactly when some overlapped slot cannot be shared. -/
theorem not_blocked_iff (h : DurationFits d.q) (hfit : StartFits d.q.dtime (d.startAt x)) :
    ¬ Blocked ctx d.q.dtime d.base d.slots x ↔
      ∀ u ∈ d.slots, u.start ≤ num64ToTimestamp (UInt64.ofNat (d.endOf x)) + 1 →
        num64ToTimestamp x ≤ u.end_ → reservationCanUseSlot ctx d.res u = true := by
  have hend : (moveTo d.q.dtime d.base x).resEnd = _ := resEnd_startAt h hfit
  have hstart : (moveTo d.q.dtime d.base x).resStart = num64ToTimestamp x := rfl
  have hcan : ∀ u, reservationCanUseSlot ctx d.base u = reservationCanUseSlot ctx d.res u :=
    fun u => rfl
  unfold Blocked TimeSlot.Meets
  rw [hend, hstart]
  push Not
  constructor
  · intro hno u hu h1 h2
    by_contra hcant
    have hlt := hno u hu ((hcan u).trans (by simpa using hcant)) h1
    omega
  · intro hall u hu hcant h1
    by_contra hle
    have hyes := hall u hu h1 (by omega)
    rw [← hcan, hcant] at hyes
    cases hyes

theorem inTime_iff (hfit : StartFits d.q.dtime (d.startAt x)) :
    tooLate d.ltime (d.startAt x) = false ↔
      (d.ltime ≠ 0 → x.toNat + d.q.ftime.toNat ≤ d.ltime.toNat) := by
  have hrestime : (d.startAt x).restime.toNat = x.toNat + d.q.ftime.toNat := restime_moveTo hfit
  rw [tooLate_eq_false, hrestime]
  tauto

theorem feasible_iff (h : DurationFits d.q) (hfit : StartFits d.q.dtime (d.startAt x)) :
    d.Feasible ctx x ↔ ¬ Blocked ctx d.q.dtime d.base d.slots x ∧
      tooLate d.ltime (d.startAt x) = false := by
  rw [not_blocked_iff h hfit, inTime_iff hfit]
  constructor
  · rintro ⟨-, hcan, hin⟩
    exact ⟨hcan, hin⟩
  · rintro ⟨hcan, hin⟩
    exact ⟨(startFits_iff h).1 hfit, hcan, hin⟩

/-- **The start a search grants** is feasible, and no earlier one is. -/
theorem feasible_of_grantedAt (h : DurationFits d.q) (hg : d.GrantedAt ctx x)
    (hfit : StartFits d.q.dtime (d.startAt x)) :
    d.Feasible ctx x ∧ ∀ y : Num64, d.firstStart.toNat ≤ y.toNat → d.Feasible ctx y →
      x.toNat ≤ y.toNat := by
  refine ⟨(feasible_iff h hfit).2 ⟨hg.free, hg.inTime⟩, ?_⟩
  intro y hy hfeasible
  by_contra hlt
  have hfity := (startFits_iff h).2 hfeasible.fits
  exact ((feasible_iff h hfity).1 hfeasible).1 (hg.earliest y hy (by omega))

/-- **A search that gives up**: no start is feasible. -/
theorem not_feasible_of_deniedAt (h : DurationFits d.q) (hd : d.DeniedAt ctx x)
    (hfit : StartFits d.q.dtime (d.startAt x)) :
    ∀ y : Num64, d.firstStart.toNat ≤ y.toNat → ¬ d.Feasible ctx y := by
  intro y hy hfeasible
  have hfity := (startFits_iff h).2 hfeasible.fits
  by_cases hlt : y.toNat < x.toNat
  · exact ((feasible_iff h hfity).1 hfeasible).1 (hd.blocked y hy hlt)
  · -- a later start is later for the latest time, too
    have hlate : ¬ (d.ltime ≠ 0 → x.toNat + d.q.ftime.toNat ≤ d.ltime.toNat) := by
      rw [← inTime_iff hfit, show tooLate d.ltime (d.startAt x) = true from hd.late]
      decide
    apply hlate
    intro hne
    have hin := hfeasible.inTime hne
    omega

end OpenDemand

section Fit

variable {ctx : Context} {env : DemandEnv} {node : PolicyNode} {res? : Option Reservation}
  {q : ReservationQuery} {slots left : List TimeSlot} {res : Reservation} {currtime : Num64}

/-- **Earliest fit**: a demand is granted exactly when some start from the first one on is feasible,
    and then at the least of them. -/
theorem earliest_fit (hord : SlotsOrdered slots)
    (hclaim : claimReservation env res? q slots = some (res, left))
    (hnow : env.currtime = some currtime) {d : OpenDemand}
    (hd : d = ⟨getLimit node BWLDLimEventHorizon, q, currtime, res, left⟩)
    (hduration : OpenDemand.DurationFits q) (hfits : d.Fits ctx) :
    ((∃ restime port, (chldReservationDemand ctx env node res? q slots).reply =
        .granted restime port) ↔
      ∃ s : Num64, d.firstStart.toNat ≤ s.toNat ∧ d.Feasible ctx s) ∧
    ∀ restime port, (chldReservationDemand ctx env node res? q slots).reply =
        .granted restime port →
      ∃ s : Num64, (chldReservationDemand ctx env node res? q slots).res = some (d.startAt s) ∧
        d.firstStart.toNat ≤ s.toNat ∧ d.Feasible ctx s ∧
        ∀ y : Num64, d.firstStart.toNat ≤ y.toNat → d.Feasible ctx y → s.toNat ≤ y.toNat := by
  have hleft : SlotsOrdered d.slots := by
    obtain ⟨hslots, -⟩ := Broker.claimReservation_eq_some hclaim
    rw [hd, hslots]
    unfold slotsWithout
    split
    · exact hord
    · exact resRemove_ordered hord _
  have hq : OpenDemand.DurationFits d.q := by rwa [hd]
  rw [chldReservationDemand_open hclaim hnow, ← hd]
  have hout := OpenDemand.outcome_spec hleft hfits
  generalize d.outcome ctx = o at hout
  cases hout with
  | granted x slots' hg hfit _ =>
    obtain ⟨hfeasible, hleast⟩ := OpenDemand.feasible_of_grantedAt hq hg hfit
    refine ⟨⟨fun _ => ⟨x, hg.ge, hfeasible⟩, fun _ => ⟨_, _, rfl⟩⟩, ?_⟩
    intro restime port _
    exact ⟨x, rfl, hg.ge, hfeasible, hleast⟩
  | denied x hden hfit =>
    have hnone := OpenDemand.not_feasible_of_deniedAt hq hden hfit
    refine ⟨⟨?_, ?_⟩, ?_⟩
    · rintro ⟨restime, port, h⟩
      cases h
    · rintro ⟨s, hge, hfeasible⟩
      exact absurd hfeasible (hnone s hge)
    · intro restime port h
      cases h

end Fit

/-- A ten second iperf test at the second of another one. -/
def campusOpenDemand : OpenDemand where
  hsecs := 0
  q := ⟨Vector.replicate 16 0, campusTime 100, 0, 0, 10, 0, 0, 0x01, "", ""⟩
  currtime := campusTime 0
  res := ⟨0x01, Vector.replicate 16 0, 0, 0, 0, 0, "", "", 0, 5001⟩
  slots := [⟨.slotBandwidth, 1691011300, 1691011309, 1, 30⟩]

/-- It is moved behind the other test. -/
theorem earliest_fit_campus : ∃ s : Num64,
    (chldReservationDemand campusContext ⟨some (campusTime 0), some 5001⟩ (.root "root" []) none
      campusOpenDemand.q campusOpenDemand.slots).res = some (campusOpenDemand.startAt s) ∧
    campusOpenDemand.firstStart.toNat ≤ s.toNat ∧ campusOpenDemand.Feasible campusContext s ∧
    ∀ y : Num64, campusOpenDemand.firstStart.toNat ≤ y.toNat →
      campusOpenDemand.Feasible campusContext y → s.toNat ≤ y.toNat := by
  have hord : SlotsOrdered campusOpenDemand.slots :=
    Intervals.Ordered.singleton (show (1691011300 : Int) ≤ 1691011309 by decide)
  have hreply : (chldReservationDemand campusContext ⟨some (campusTime 0), some 5001⟩
      (.root "root" []) none campusOpenDemand.q campusOpenDemand.slots).reply =
        .granted (campusTime 110) 5001 := by decide +kernel
  exact (earliest_fit (d := campusOpenDemand) hord rfl rfl rfl (by decide) (by decide +kernel)).2
    _ _ hreply

end Bwctl
