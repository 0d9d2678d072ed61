import Bwctl.Children.System
import Bwctl.Policy.RequestExact

/-!
# What the checks of an admitted request say

A request is checked against the fixed limits of its class and of every ancestor.  Nothing is ever
booked on a fixed limit, so in every child of a run the amount demanded is compared with the limit
alone, both rounded to the significand of a `float`.

* `FixedUnused` — nothing is booked on a fixed limit.
* `fixedUnused_of_reach` — so it is in every child of a run.
* `admitRequest_checks` — the checks of an admitted request.
* `demandFixed_iff` — the check of one fixed limit.
-/

set_option autoImplicit false

namespace Bwctl

open GuardedRuns Significand

/-- Nothing is booked on a fixed limit. -/
def FixedUnused (used : Used) : Prop := ∀ name lim, limKind lim = .limFixedInt → used name lim = 0

/-! ## Fixed limits are never booked -/

section Demand

variable {query : BWLDMesgT} {lim : LimRec} {limkind : LimType} {node : PolicyNode}
  {name : String} {l : BWLDMesgT}

theorem Used.set_of_ne {used : Used} {v : BWLDLimitT} {name' : String} (h : l ≠ lim.limit) :
    used.set name' lim.limit v name l = used name l := by
  unfold Used.set
  rw [if_neg fun hc => h hc.2]

/-- One node leaves the counters of the fixed limits alone. -/
theorem demandAt_fixed {up : Used → Bool × Used} (hl : limkind = .limFixedInt ∨ l ≠ lim.limit)
    (hup : ∀ used, (up used).2 name l = used name l) (used : Used) :
    (demandAt query lim limkind node up used).2 name l = used name l := by
  have hafter : ∀ book : Used → Used, (∀ used, book used name l = used name l) →
      (afterParent (up used) book).2 name l = used name l := by
    intro book hbook
    unfold afterParent
    split
    · exact (hbook _).trans (hup used)
    · exact hup used
  unfold demandAt
  split
  · rfl
  split
  · exact hup used
  split
  · split
    · rfl
    rename_i hkind
    split
    · rfl
    · exact hafter _ fun used => Used.set_of_ne (hl.resolve_left hkind)
  split
  · rfl
  split
  · rfl
  split
  · rfl
  · refine hafter _ fun used => ?_
    split
    · rename_i hkind
      refine Used.set_of_ne (hl.resolve_left fun h => ?_)
      rw [hkind] at h
      cases h
    · rfl

theorem integerResourceDemand_fixed (hl : limkind = .limFixedInt ∨ l ≠ lim.limit) (used : Used) :
    (integerResourceDemand query lim limkind node used).2 name l = used name l := by
  induction node generalizing used with
  | root name limits => exact demandAt_fixed hl (fun _ => rfl) used
  | child name parent limits ih => exact demandAt_fixed hl ih used

/-- **A demand** leaves the counters of the fixed limits alone. -/
theorem FixedUnused.demand {used : Used} (h : FixedUnused used) :
    FixedUnused (resourceDemand node query lim used).2 := by
  intro name l hfixed
  have hl : (resourceDemand node query lim used).2 name l = used name l := by
    unfold resourceDemand
    split
    · rfl
    · rfl
    · exact integerResourceDemand_fixed (Or.inl rfl) used
    · rename_i hkind
      refine integerResourceDemand_fixed (Or.inr ?_) used
      rintro rfl
      rw [hkind] at hfixed
      cases hfixed
  rw [hl]
  exact h name l hfixed

end Demand

/-! ## The children of a run -/

section Run

variable {ctx : Context} {policy : Policy} {s s' : System} {e : SystemEvent}

/-- Serving a message books nothing on a fixed limit. -/
theorem Broker.checkFD_fixedUnused {b : Broker} (h : FixedUnused b.used) (i : Nat) (c : ChldState)
    (mesg : ChldMesg) : FixedUnused (b.checkFD ctx policy i c mesg).1.used := by
  unfold Broker.checkFD
  split
  · split
    · split
      · exact h
      · exact h
    · exact h
  · unfold Broker.serve
    split
    · exact h
    · split
      · exact h.demand
      · exact h
    · exact h
    · exact h

theorem receive_used (p : Proc) (reply : ChldReply) : (p.receive reply).used = p.used := by
  have hset : ∀ r, (p.setReservation r reply).used = p.used := fun r => by
    unfold Proc.setReservation
    repeat' split
    all_goals rfl
  unfold Proc.receive
  split
  case h_2 => split <;> rfl
  case h_3 => dsimp only; split <;> simp [Proc.done, hset]
  all_goals rfl

theorem checkTestPolicy_used (p : Proc) (host : HostState) (r : TestRequest) :
    (p.checkTestPolicy host r).used = p.used := by
  unfold Proc.checkTestPolicy
  split
  · rfl
  · split <;> rfl

theorem testComplete_used (p : Proc) (tinfo : TestInfo) :
    (p.testComplete tinfo).used = p.used := by
  unfold Proc.testComplete
  split <;> rfl

/-- Nothing is booked on a fixed limit, as the broker and as each child sees it. -/
structure System.FixedUnused (s : System) : Prop where
  broker : Bwctl.FixedUnused s.broker.used
  procs : ∀ p ∈ s.procs, Bwctl.FixedUnused p.used

theorem System.FixedUnused.setProc {i : Nat} {p p' : Proc} (h : s.FixedUnused)
    (hp : s.procs[i]? = some p) (hused : p'.used = p.used) : (s.setProc i p').FixedUnused := by
  refine ⟨h.broker, fun q hq => ?_⟩
  rcases List.mem_or_eq_of_mem_set hq with hq | rfl
  · exact h.procs q hq
  · rw [hused]
    exact h.procs p (List.mem_of_getElem? hp)

/-- **One event** books nothing on a fixed limit. -/
theorem System.FixedUnused.step (h : s.FixedUnused) (hstep : s.step ctx policy e = some s') :
    s'.FixedUnused := by
  cases e with
  | connect pid node =>
    simp only [System.step] at hstep
    split at hstep
    · cases hstep
      refine ⟨h.broker, fun p hp => ?_⟩
      rcases List.mem_append.1 hp with hp | hp
      · exact h.procs p hp
      · cases List.mem_singleton.1 hp
        exact h.broker
    · cases hstep
  | serve i env =>
    obtain ⟨p, hp, hstep⟩ := Option.bind_eq_some_iff.1 hstep
    split at hstep
    · rename_i mesg hm
      obtain ⟨c, hc, rfl⟩ := Option.map_eq_some_iff.1 hstep
      refine ⟨Broker.checkFD_fixedUnused h.broker i c _, fun q hq => ?_⟩
      rcases List.mem_or_eq_of_mem_set hq with hq | rfl
      · exact h.procs q hq
      · exact h.procs p (List.mem_of_getElem? hp)
    · cases hstep
  | receive i =>
    obtain ⟨p, hp, hstep⟩ := Option.bind_eq_some_iff.1 hstep
    split at hstep
    · cases hstep
      exact h.setProc hp (receive_used p _)
    · cases hstep
  | request i host r =>
    obtain ⟨p, hp, hstep⟩ := Option.bind_eq_some_iff.1 hstep
    split at hstep
    · cases hstep
      exact h.setProc hp (checkTestPolicy_used p host r)
    · cases hstep
  | free i =>
    obtain ⟨p, hp, hstep⟩ := Option.bind_eq_some_iff.1 hstep
    split at hstep
    · obtain ⟨tinfo, -, rfl⟩ := Option.map_eq_some_iff.1 hstep
      exact h.setProc hp (testComplete_used p tinfo)
    · cases hstep
  | exit i =>
    obtain ⟨p, hp, hstep⟩ := Option.bind_eq_some_iff.1 hstep
    split at hstep
    · obtain ⟨b, hb, rfl⟩ := Option.map_eq_some_iff.1 hstep
      obtain ⟨c, -, rfl⟩ := Option.map_eq_some_iff.1 hb
      exact ⟨h.broker, fun q hq => h.procs q (List.mem_of_mem_eraseIdx hq)⟩
    · cases hstep

/-- **In every run** a child has a class of the policy and nothing booked on a fixed limit. -/
theorem fixedUnused_of_reach (hp : PolicyInv policy)
    (h : Reach (System.step ctx policy) anyEvent System.start s) :
    ∀ p ∈ s.procs, p.node ∈ policy.nodes ∧ FixedUnused p.used := by
  have hinv : s.Linked policy ∧ s.FixedUnused :=
    h.invariant (I := fun s => s.Linked policy ∧ s.FixedUnused)
      ⟨System.Linked.start policy, fun _ _ _ => rfl, by simp [System.start]⟩
      fun _ _ _ _ hi _ he => ⟨hi.1.step hp he, hi.2.step he⟩
  intro p hmem
  refine ⟨?_, hinv.2.procs p hmem⟩
  obtain ⟨i, hi⟩ := List.getElem?_of_mem hmem
  obtain ⟨c, -, hlink⟩ := hinv.1.paired.partner hi
  exact hlink.mem

/-- A child of any class of the policy is there once it has connected. -/
theorem connected_child (ctx : Context) {policy : Policy} {node : PolicyNode}
    (hn : node ∈ policy.nodes) :
    ∃ s p, Reach (System.step ctx policy) anyEvent System.start s ∧ p ∈ s.procs ∧
      p.node = node ∧ p.used = Used.zero := by
  have hstep : System.step ctx policy System.start (.connect 7 node) =
      some ⟨{ Broker.start with children := [⟨none, none⟩] }, [.start 7 node Used.zero]⟩ := by
    simp only [System.step]
    rw [if_pos ⟨hn, by simp [System.start]⟩]
    rfl
  exact ⟨_, _, Reach.step Reach.start trivial hstep, List.mem_singleton_self _, rfl, rfl⟩

end Run

/-! ## The checks -/

section Checks

variable {host : HostState} {node : PolicyNode} {used : Used} {r : TestRequest} {t : TestSpec}

/-- The first TTL is all the checks may change. -/
theorem admitFirstTtl_spec (h : admitFirstTtl node r = some t) :
    ∃ ttl, t = { r.tspec with tracerouteFirstTtl := ttl } := by
  unfold admitFirstTtl at h
  split at h
  · split at h
    · cases h
      exact ⟨r.tspec.tracerouteFirstTtl, rfl⟩
    · split at h
      · cases h
      · split at h
        · cases h
          exact ⟨_, rfl⟩
        · cases h
          exact ⟨r.tspec.tracerouteFirstTtl, rfl⟩
  · cases h
    exact ⟨r.tspec.tracerouteFirstTtl, rfl⟩

/-- **An admitted request** passed the checks of its duration and of its clock error, and has kept
    all but its first TTL. -/
theorem admitRequest_checks (h : admitRequest host node used r = some t) :
    demandFixed node used BWLDLimDuration r.tspec.length.toUInt64 = true ∧
      demandFixed node used BWLDLimMaxTimeError (ceilSeconds r.fuzzTime) = true ∧
      ∃ ttl, t = { r.tspec with tracerouteFirstTtl := ttl } := by
  unfold admitRequest at h
  split at h
  · cases h
  split at h
  · cases h
  rename_i hduration
  split at h
  · cases h
  rename_i htime
  iterate 5
    split at h
    · cases h
  exact ⟨by simpa using hduration, by simpa using htime, admitFirstTtl_spec h⟩

/-- **The check of one fixed limit**: the amount and each non-zero limit of the path are compared
    after rounding to 24 bits. -/
theorem demandFixed_iff {policy : Policy} (hp : PolicyInv policy) (hn : node ∈ policy.nodes)
    (hused : FixedUnused used) {lim : BWLDMesgT} (hk : limKind lim = .limFixedInt)
    {amount : BWLDLimitT} : demandFixed node used lim amount = true ↔
      ∀ a ∈ node.path, ∀ limit, a.limit? lim = some limit → limit ≠ 0 →
        roundSig 24 amount.toNat ≤ roundSig 24 limit.toNat := by
  unfold demandFixed
  rw [(resourceDemand_request hp hn (Or.inr hk) used).1]
  unfold ForLimited
  refine forall₂_congr fun a _ => forall₃_congr fun limit _ _ => ?_
  have hamount := amount.toNat_lt
  rw [requestOk_iff, hused _ _ hk, UInt64.toNat_zero, Nat.add_zero, Nat.mod_eq_of_lt hamount]

end Checks

end Bwctl
