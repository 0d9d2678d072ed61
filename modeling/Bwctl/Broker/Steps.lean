import Bwctl.Broker.Daemon
import Bwctl.Broker.Search

/-!
# What a step of the broker does to the schedule

Every event first takes at most one live reservation off the list, and then makes at most one
demand on the slots left.  `Broker.step_spec` says this once for all events; the invariants of
the schedule are derived from it.

* `Broker.removed?` — the live reservation an event takes off.
* `Broker.demand?` — the demand an event makes on the slots left.
* `OpenDemand.outcome_spec` — a demand is granted at the earliest start or denied.
* `Broker.step_spec` — all a step does to the slots and the live reservations.
* `Broker.step_keeps` — what removals and demands keep is kept by every step.
-/

set_option autoImplicit false

namespace Bwctl

/-- A demand that has reached its search: the reservation it works on, the slots left and what
    decides its times. -/
structure OpenDemand where
  hsecs : BWLDLimitT
  q : ReservationQuery
  currtime : Num64
  res : Reservation
  slots : List TimeSlot

namespace OpenDemand

/-- The reservation of the demand, still without times. -/
def base (d : OpenDemand) : Reservation :=
  { d.res with fuzz := d.q.ftime, duration := d.q.duration }

def firstStart (d : OpenDemand) : Num64 := Bwctl.firstStart d.q d.currtime

def ltime (d : OpenDemand) : Num64 := latestTime d.q d.currtime d.hsecs

/-- The reservation of the demand with the start `x`. -/
def startAt (d : OpenDemand) (x : Num64) : Reservation := moveTo d.q.dtime d.base x

def outcome (ctx : Context) (d : OpenDemand) : DemandOutcome :=
  findOpenSlot ctx d.hsecs d.q d.currtime d.res d.slots

/-- None of the times the demand tries wraps. -/
def Fits (ctx : Context) (d : OpenDemand) : Prop :=
  searchFits ctx d.q.dtime d.ltime none (d.startAt d.firstStart) d.slots = true

/-- The demand is to be granted at `x`: the earliest start that is not blocked is in time. -/
def GrantedAt (ctx : Context) (d : OpenDemand) (x : Num64) : Prop :=
  Bwctl.GrantedAt ctx d.q.dtime d.ltime d.base d.slots d.firstStart x

/-- The demand is to be denied at `x`, the first start it tries that is too late. -/
def DeniedAt (ctx : Context) (d : OpenDemand) (x : Num64) : Prop :=
  Bwctl.DeniedAt ctx d.q.dtime d.ltime d.base d.slots d.firstStart x

/-- The demand in terms of its starts. -/
theorem outcome_eq (ctx : Context) (d : OpenDemand) : d.outcome ctx =
    if tooLate d.ltime (d.startAt d.firstStart) then
      denyReservation (d.startAt d.firstStart) d.slots
    else
      match search ctx d.q.dtime d.ltime none (d.startAt d.firstStart) d.slots with
      | .denied res => denyReservation res d.slots
      | .added res slots => ⟨.granted res.restime res.toolport, some res, slots⟩ := rfl

/-- The two ends of a demand. -/
inductive OutcomeSpec (ctx : Context) (d : OpenDemand) : DemandOutcome → Prop
  | granted (x : Num64) (slots : List TimeSlot) :
      d.GrantedAt ctx x → StartFits d.q.dtime (d.startAt x) →
      Inserted ctx (d.startAt x) d.slots slots →
      OutcomeSpec ctx d
        ⟨.granted (d.startAt x).restime d.res.toolport, some (d.startAt x), slots⟩
  | denied (x : Num64) : d.DeniedAt ctx x → StartFits d.q.dtime (d.startAt x) →
      OutcomeSpec ctx d (denyReservation (d.startAt x) d.slots)

/-- **A demand is granted at the earliest start, or denied at the first start it tries that is too
    late.** -/
theorem outcome_spec {ctx : Context} {d : OpenDemand} (hord : SlotsOrdered d.slots)
    (hfits : d.Fits ctx) : OutcomeSpec ctx d (d.outcome ctx) := by
  have hfit : StartFits d.q.dtime (d.startAt d.firstStart) := searchFits_start hfits
  have hspec := search_spec ctx d.ltime none hord (by simp) hfits
  rw [outcome_eq]
  split
  · rename_i hlate
    exact .denied d.firstStart ⟨le_rfl, Or.inl rfl, hlate, fun y h1 h2 => by omega,
      fun y h1 h2 => by omega⟩ hfit
  · unfold startAt at hspec ⊢
    split
    · rename_i res hres
      rw [hres] at hspec
      obtain ⟨x, rfl, hfx, hd⟩ := hspec
      exact .denied x hd hfx
    · rename_i res slots hres
      rw [hres] at hspec
      obtain ⟨x, rfl, hfx, hg, hins⟩ := hspec
      exact .granted x slots hg hfx hins

/-- **A demand whose start of a grant does not wrap** is granted at this start, whatever the end of
    its search. -/
theorem outcome_granted {ctx : Context} {d : OpenDemand} {x : Num64} (hord : SlotsOrdered d.slots)
    (hfits : d.Fits ctx) (hx : d.GrantedAt ctx x) (hfit : StartFits d.q.dtime (d.startAt x)) :
    (d.outcome ctx).res = some (d.startAt x) ∧
      Inserted ctx (d.startAt x) d.slots (d.outcome ctx).slots := by
  have hout := outcome_spec hord hfits
  generalize d.outcome ctx = o at hout
  cases hout with
  | granted y slots hg _ hins =>
    obtain rfl : x = y := GrantedAt.unique hx hg
    exact ⟨rfl, hins⟩
  | denied y hd _ => exact (GrantedAt.not_deniedAt hx hfit hd).elim

/-- A demand that was granted has one start of a grant, and none of a denial. -/
theorem of_outcome_res {ctx : Context} {d : OpenDemand} {r : Reservation}
    (hord : SlotsOrdered d.slots) (hfits : d.Fits ctx) (hr : (d.outcome ctx).res = some r) :
    (∃ x, d.GrantedAt ctx x ∧ StartFits d.q.dtime (d.startAt x)) ∧
      (∀ x, d.GrantedAt ctx x → d.startAt x = r) ∧ ∀ x, ¬ d.DeniedAt ctx x := by
  have hout := outcome_spec hord hfits
  generalize d.outcome ctx = o at hout hr
  cases hout with
  | granted y slots hg hfit _ =>
    cases hr
    refine ⟨⟨y, hg, hfit⟩, fun x hx => ?_, fun x hx => GrantedAt.not_deniedAt hg hfit hx⟩
    rw [GrantedAt.unique hx hg]
  | denied y hd _ => cases hr

end OpenDemand

section Demand

variable {ctx : Context} {env : DemandEnv} {node : PolicyNode} {res? : Option Reservation}
  {q : ReservationQuery} {slots left : List TimeSlot} {res : Reservation} {currtime : Num64}

/-- The demand of another session, or a tool that cannot be initialised. -/
theorem chldReservationDemand_unclaimed (h : claimReservation env res? q slots = none) :
    chldReservationDemand ctx env node res? q slots = ⟨.failed, res?, slots⟩ := by
  unfold chldReservationDemand
  rw [getFixedLimit_eventHorizon, h]

/-- A clock that cannot be read. -/
theorem chldReservationDemand_clockless
    (h : claimReservation env res? q slots = some (res, left)) (hnow : env.currtime = none) :
    chldReservationDemand ctx env node res? q slots = ⟨.failed, none, left⟩ := by
  unfold chldReservationDemand
  rw [getFixedLimit_eventHorizon, h, hnow]

/-- A demand that reaches its search. -/
theorem chldReservationDemand_open
    (h : claimReservation env res? q slots = some (res, left)) (hnow : env.currtime = some currtime) :
    chldReservationDemand ctx env node res? q slots =
      OpenDemand.outcome ctx ⟨getLimit node BWLDLimEventHorizon, q, currtime, res, left⟩ := by
  unfold chldReservationDemand
  rw [getFixedLimit_eventHorizon, h, hnow]
  rfl

end Demand

namespace Broker

/-- The live reservation an event takes off the list: its test is complete, its child has
    exited, or it is rescheduled. -/
def removed? (b : Broker) : BrokerEvent → Option Reservation
  | .connect => none
  | .exit i => (b.children[i]?).bind (·.res)
  | .mesg i mesg =>
    match b.children[i]? with
    | some ⟨some _, res?⟩ =>
      match mesg with
      | .complete sid => res?.filter fun res => sidCmp sid res.sid
      | .reservation q _ => res?.filter fun res => sidCmp q.sid res.sid
      | _ => none
    | _ => none

/-- The demand an event makes on the slots left, when the reservation is there and the clock can
    be read. -/
def demand? (b : Broker) : BrokerEvent → Option OpenDemand
  | .mesg i (.reservation q env) =>
    match b.children[i]? with
    | some ⟨some node, res?⟩ =>
      match claimReservation env res? q b.slots, env.currtime with
      | some (res, slots), some currtime =>
        some ⟨getLimit node BWLDLimEventHorizon, q, currtime, res, slots⟩
      | _, _ => none
    | _ => none
  | _ => none

/-- The slots left when an event has taken its reservation off. -/
def slotsLeft (b : Broker) (e : BrokerEvent) : List TimeSlot := slotsWithout b.slots (b.removed? e)

end Broker

section Children

variable {children : List ChldState} {i : Nat} {c : ChldState}

theorem live_cons (c : ChldState) (cs : List ChldState) :
    (c :: cs).filterMap (·.res) = c.res.toList ++ cs.filterMap (·.res) := by
  cases h : c.res <;> simp [h]

/-- The live reservations of all children but one. -/
theorem live_split (h : children[i]? = some c) : ∃ rest,
    (children.filterMap (·.res)).Perm (c.res.toList ++ rest) ∧
    (∀ c' : ChldState, ((children.set i c').filterMap (·.res)).Perm (c'.res.toList ++ rest)) ∧
    ((children.eraseIdx i).filterMap (·.res)).Perm rest := by
  obtain ⟨hi, rfl⟩ := List.getElem?_eq_some_iff.1 h
  refine ⟨(children.eraseIdx i).filterMap (·.res), ?_, fun c' => ?_, List.Perm.refl _⟩
  · rw [← live_cons]
    exact (List.getElem_cons_eraseIdx_perm hi).symm.filterMap _
  · rw [← live_cons]
    exact (List.set_perm_cons_eraseIdx hi c').filterMap _

end Children

namespace Broker

variable {ctx : Context} {policy : Policy} {b b' : Broker} {e : BrokerEvent}

/-- All a step does to the slots and the live reservations: one reservation at most is taken off,
    and the demand the event makes decides the rest. -/
structure StepSpec (ctx : Context) (b : Broker) (e : BrokerEvent) (b' : Broker)
    (rest : List Reservation) : Prop where
  live_eq : b.live.Perm ((b.removed? e).toList ++ rest)
  quiet : b.demand? e = none → b'.slots = b.slotsLeft e ∧ b'.live.Perm rest
  demand : ∀ d, b.demand? e = some d →
    b'.slots = (d.outcome ctx).slots ∧ b'.live.Perm ((d.outcome ctx).res.toList ++ rest)

theorem step_connect (h : b.step ctx policy .connect = some b') :
    StepSpec ctx b .connect b' b.live := by
  cases h
  refine ⟨List.Perm.refl _, fun _ => ⟨rfl, ?_⟩, fun d hd => by cases hd⟩
  simp [live]

theorem step_exit {i : Nat} (h : b.step ctx policy (.exit i) = some b') :
    ∃ rest, StepSpec ctx b (.exit i) b' rest := by
  simp only [step, Option.map_eq_some_iff] at h
  obtain ⟨c, hc, rfl⟩ := h
  obtain ⟨rest, hlive, -, herase⟩ := live_split hc
  have hrem : b.removed? (.exit i) = c.res := by simp [removed?, hc]
  refine ⟨rest, ?_, fun _ => ⟨?_, herase⟩, fun d hd => by cases hd⟩
  · rw [hrem]; exact hlive
  · rw [slotsLeft, hrem]; rfl

/-- A message that leaves the reservations of all children as they are. -/
theorem StepSpec.untouched (hrem : b.removed? e = none) (hdem : b.demand? e = none)
    (hslots : b'.slots = b.slots) (hlive : b'.live.Perm b.live) :
    StepSpec ctx b e b' b.live := by
  refine ⟨by rw [hrem]; exact List.Perm.refl _, fun _ => ⟨?_, hlive⟩, fun d hd => ?_⟩
  · rw [hslots, slotsLeft, hrem]; rfl
  · rw [hdem] at hd; cases hd

/-- A demand that goes on takes the child's earlier reservation off. -/
theorem claimReservation_eq_some {env : DemandEnv} {res? : Option Reservation}
    {q : ReservationQuery} {res : Reservation} {slots left : List TimeSlot}
    (h : claimReservation env res? q slots = some (res, left)) :
    left = slotsWithout slots res? ∧ res?.filter (fun res => sidCmp q.sid res.sid) = res? := by
  cases res? with
  | none =>
    simp only [claimReservation, Option.map_eq_some_iff, Prod.mk.injEq] at h
    obtain ⟨-, -, -, rfl⟩ := h
    exact ⟨rfl, rfl⟩
  | some old =>
    simp only [claimReservation] at h
    split at h
    · rename_i hsid
      cases h
      exact ⟨rfl, by simp [hsid]⟩
    · cases h

/-- A demand that fails at once leaves everything as it was. -/
theorem claimReservation_eq_none {env : DemandEnv} {res? : Option Reservation}
    {q : ReservationQuery} {slots : List TimeSlot}
    (h : claimReservation env res? q slots = none) :
    res?.filter (fun res => sidCmp q.sid res.sid) = none := by
  cases res? with
  | none => rfl
  | some old =>
    simp only [claimReservation] at h
    split at h
    · cases h
    · rename_i hsid
      simp [hsid]

/-- The slots a demand is made on are those its event leaves. -/
theorem demand?_slots {d : OpenDemand} (h : b.demand? e = some d) : d.slots = b.slotsLeft e := by
  cases e with
  | connect => cases h
  | exit i => cases h
  | mesg i mesg =>
    cases mesg with
    | className name => cases h
    | resource query lim => cases h
    | complete sid => cases h
    | reservation q env =>
      simp only [demand?] at h
      split at h
      · rename_i node res? hc
        split at h
        · rename_i res slots currtime hclaim henv
          obtain ⟨hslots, hfilter⟩ := claimReservation_eq_some hclaim
          have hrem : b.removed? (.mesg i (.reservation q env)) = res? := by
            simp [removed?, hc, hfilter]
          cases h
          rw [slotsLeft, hrem]
          exact hslots
        · cases h
      · cases h

section Message

variable {i : Nat} {node : PolicyNode} {res? : Option Reservation}
  (hc : b.children[i]? = some ⟨some node, res?⟩)

include hc

theorem step_reservation (q : ReservationQuery) (env : DemandEnv) :
    ∃ rest, StepSpec ctx b (.mesg i (.reservation q env))
      (b.serve ctx i ⟨some node, res?⟩ node (.reservation q env)).1 rest := by
  obtain ⟨rest, hlive, hset, -⟩ := live_split hc
  have hrem : b.removed? (.mesg i (.reservation q env)) =
      res?.filter fun res => sidCmp q.sid res.sid := by simp [removed?, hc]
  have hserve : (b.serve ctx i ⟨some node, res?⟩ node (.reservation q env)).1 =
      { b with slots := (chldReservationDemand ctx env node res? q b.slots).slots }.setChild i
        ⟨some node, (chldReservationDemand ctx env node res? q b.slots).res⟩ := rfl
  rw [hserve]
  cases hclaim : claimReservation env res? q b.slots with
  | none =>
    rw [chldReservationDemand_unclaimed hclaim]
    rw [claimReservation_eq_none hclaim] at hrem
    refine ⟨_, StepSpec.untouched hrem (by simp [demand?, hc, hclaim]) rfl ?_⟩
    exact (hset ⟨some node, res?⟩).trans hlive.symm
  | some p =>
    obtain ⟨res, slots⟩ := p
    obtain ⟨hslots, hfilter⟩ := claimReservation_eq_some hclaim
    rw [hfilter] at hrem
    have hleft : slots = b.slotsLeft (.mesg i (.reservation q env)) := by
      rw [slotsLeft, hrem]; exact hslots
    cases henv : env.currtime with
    | none =>
      rw [chldReservationDemand_clockless hclaim henv]
      refine ⟨rest, by rw [hrem]; exact hlive, fun _ => ⟨hleft, hset ⟨some node, none⟩⟩,
        fun d hd => ?_⟩
      simp [demand?, hc, hclaim, henv] at hd
    | some currtime =>
      rw [chldReservationDemand_open hclaim henv]
      have hdem : b.demand? (.mesg i (.reservation q env)) =
          some ⟨getLimit node BWLDLimEventHorizon, q, currtime, res, slots⟩ := by
        simp [demand?, hc, hclaim, henv]
      refine ⟨rest, by rw [hrem]; exact hlive, fun hd => ?_, fun d hd => ?_⟩
      · rw [hdem] at hd; cases hd
      · rw [hdem] at hd; cases hd
        exact ⟨rfl, hset _⟩

theorem step_complete (sid : SID) :
    ∃ rest, StepSpec ctx b (.mesg i (.complete sid))
      (b.serve ctx i ⟨some node, res?⟩ node (.complete sid)).1 rest := by
  obtain ⟨rest, hlive, hset, -⟩ := live_split hc
  have hrem : b.removed? (.mesg i (.complete sid)) =
      res?.filter fun res => sidCmp sid res.sid := by simp [removed?, hc]
  have hserve : (b.serve ctx i ⟨some node, res?⟩ node (.complete sid)).1 =
      { b with slots := (chldReservationComplete res? sid b.slots).2.2 }.setChild i
        ⟨some node, (chldReservationComplete res? sid b.slots).2.1⟩ := rfl
  rw [hserve]
  cases res? with
  | none =>
    refine ⟨_, StepSpec.untouched hrem rfl rfl ?_⟩
    exact (hset ⟨some node, none⟩).trans hlive.symm
  | some res =>
    simp only [chldReservationComplete]
    by_cases hsid : sidCmp sid res.sid = true
    · rw [Option.filter_some, if_pos hsid] at hrem
      rw [if_pos hsid]
      refine ⟨rest, by rw [hrem]; exact hlive, fun _ => ⟨?_, hset ⟨some node, none⟩⟩,
        fun d hd => by cases hd⟩
      rw [slotsLeft, hrem]; rfl
    · rw [Option.filter_some, if_neg hsid] at hrem
      rw [if_neg hsid]
      refine ⟨_, StepSpec.untouched hrem rfl rfl ?_⟩
      exact (hset ⟨some node, some res⟩).trans hlive.symm

/-- Messages about resources do not touch the schedule. -/
theorem step_resource (query : BWLDMesgT) (lim : LimRec) :
    ∃ rest, StepSpec ctx b (.mesg i (.resource query lim))
      (b.serve ctx i ⟨some node, res?⟩ node (.resource query lim)).1 rest := by
  have hrem : b.removed? (.mesg i (.resource query lim)) = none := by simp [removed?, hc]
  unfold serve
  dsimp only
  split
  · exact ⟨_, StepSpec.untouched hrem rfl rfl (List.Perm.refl _)⟩
  · exact ⟨_, StepSpec.untouched hrem rfl rfl (List.Perm.refl _)⟩

end Message

/-- **All a step of the broker does to the schedule.** -/
theorem step_spec (h : b.step ctx policy e = some b') : ∃ rest, StepSpec ctx b e b' rest := by
  cases e with
  | connect => exact ⟨_, step_connect h⟩
  | exit i => exact step_exit h
  | mesg i mesg =>
    simp only [step, Option.map_eq_some_iff] at h
    obtain ⟨⟨node?, res?⟩, hc, rfl⟩ := h
    cases node? with
    | none =>
      -- the first message: only the class of the child changes
      obtain ⟨rest, hlive, hset, -⟩ := live_split hc
      have hrem : b.removed? (.mesg i mesg) = none := by simp [removed?, hc]
      have hdem : b.demand? (.mesg i mesg) = none := by cases mesg <;> simp [demand?, hc]
      refine ⟨_, StepSpec.untouched hrem hdem ?_ ?_⟩
      · unfold checkFD
        dsimp only
        split
        · split <;> rfl
        · rfl
      · unfold checkFD
        dsimp only
        split
        · split
          · exact (hset _).trans hlive.symm
          · exact List.Perm.refl _
        · exact List.Perm.refl _
    | some node =>
      cases mesg with
      | className name =>
        refine ⟨_, StepSpec.untouched ?_ rfl rfl (List.Perm.refl _)⟩
        simp [removed?, hc]
      | resource query lim => exact step_resource hc query lim
      | reservation q env => exact step_reservation hc q env
      | complete sid => exact step_complete hc sid

/-- **A property of the schedule** that does not depend on the order of the live reservations, and
    that the removal and the demand of an event keep, is kept by the event. -/
theorem step_keeps {P : List TimeSlot → List Reservation → Prop}
    (hperm : ∀ {slots live rest}, P slots live → live.Perm rest → P slots rest)
    (hremove : ∀ {r rest}, b.removed? e = some r → b.live.Perm (r :: rest) →
      P b.slots (r :: rest) → P (resRemove b.slots r) rest)
    (hdemand : ∀ {d rest}, b.demand? e = some d → b.live.Perm ((b.removed? e).toList ++ rest) →
      P d.slots rest → P (d.outcome ctx).slots ((d.outcome ctx).res.toList ++ rest))
    (h : P b.slots b.live) (hstep : b.step ctx policy e = some b') : P b'.slots b'.live := by
  obtain ⟨rest, hspec⟩ := step_spec hstep
  have hleft : P (b.slotsLeft e) rest := by
    have hlive := hspec.live_eq
    unfold slotsLeft slotsWithout
    cases hr : b.removed? e with
    | none =>
      rw [hr] at hlive
      exact hperm h hlive
    | some r =>
      rw [hr] at hlive
      exact hremove hr hlive (hperm h hlive)
  cases hd : b.demand? e with
  | none =>
    obtain ⟨hslots, hlive⟩ := hspec.quiet hd
    rw [hslots]
    exact hperm hleft hlive.symm
  | some d =>
    obtain ⟨hslots, hlive⟩ := hspec.demand d hd
    rw [← demand?_slots hd] at hleft
    rw [hslots]
    exact hperm (hdemand hd hspec.live_eq hleft) hlive.symm

end Broker

end Bwctl
