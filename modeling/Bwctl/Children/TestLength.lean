import Bwctl.Broker.GrantedStarts
import Bwctl.Children.AdmittedRequest

/-!
# The length of a test, its limit and its reservation

The duration and the omitted seconds of a request are added as 32-bit numbers for the check of the
limit and for the reservation, and as 64-bit times for the timer of the endpoint.  As long as the
32-bit sum does not wrap, the limit bounds the whole test; and the reservation covers the whole
test, up to the timer of the endpoint, when its end does not wrap either.

* `TestRequest.query` — the reservation query of a request.
* `endOfTestTimer` — the timer of the endpoint.
* `length_le_iff` — when the limits bound the test.
* `coversTest_iff` — when a reservation covers the test.
* `granted_coversTest_iff` — the reservation granted on one list of slots.
* `test_length_iff` — the admitted requests whose whole test is bounded and covered.
* `endless_test_admitted` — a test of `2 ^ 32` seconds under a limit of a minute.
-/

set_option autoImplicit false

namespace Bwctl

open GuardedRuns Significand

/-- The message `BWLDReservationQuery` sends for a request with the SID of its session. -/
def TestRequest.query (r : TestRequest) (sid : SID) : ReservationQuery where
  sid := sid
  rtime := r.tspec.reqTime
  ftime := r.fuzzTime
  ltime := r.tspec.latestTime
  duration := r.tspec.length
  rtttime := r.rttBound
  toolport := r.toolPort
  toolId := r.tspec.toolId
  sender := if r.tspec.serverSends then r.tspec.server else r.tspec.client
  receiver := if r.tspec.serverSends then r.tspec.client else r.tspec.server

theorem askReservation_query (p : Proc) (tinfo : TestInfo) (r : TestRequest) :
    p.askReservation tinfo r = p.ask (.reserving tinfo r) (.reservation (r.query tinfo.sid)) := rfl

/-- The reservation query of a new request whose specification the checks have left as `t`. -/
def TestRequest.admittedQuery (r : TestRequest) (t : TestSpec) : ReservationQuery :=
  ({ r with tspec := t } : TestRequest).query r.sid

/-- `reltime` in `_BWLEndpointStart`: the timer for the end of a test, set when the clock reads
    `currtime`. -/
def endOfTestTimer (reserveTime currtime fuzz : Num64) (t : TestSpec) : Num64 :=
  let reltime := num64Sub reserveTime currtime
  let reltime := num64Add reltime fuzz
  let reltime := num64Add reltime (uLongToNum64 t.duration)
  num64Add reltime (uLongToNum64 t.omit_.toUInt32)

/-- The length of the test in exact arithmetic. -/
def TestSpec.seconds (t : TestSpec) : Nat := t.duration.toNat + t.omit_.toNat

/-- **The reservation covers the test**: it lasts as long as the test after the time of the
    reservation, and the timer of the endpoint fires no later than it ends. -/
structure CoversTest (t : TestSpec) (res : Reservation) : Prop where
  length : res.restime.toNat + t.seconds * 2 ^ 32 ≤ res.end_.toNat
  timer : ∀ now : Num64, now.toNat ≤ res.restime.toNat →
    now.toNat + (endOfTestTimer res.restime now res.fuzz t).toNat ≤ res.end_.toNat

/-- The non-zero duration limits of a class and of its ancestors bound the test. -/
def LengthBounded (node : PolicyNode) (t : TestSpec) : Prop :=
  ∀ a ∈ node.path, ∀ limit, a.limit? BWLDLimDuration = some limit → limit ≠ 0 →
    t.seconds ≤ limit.toNat

section Length

variable {node : PolicyNode} {used : Used} {policy : Policy} {t : TestSpec}

theorem length_toNat (t : TestSpec) : t.length.toNat = t.seconds % 2 ^ 32 := by
  unfold TestSpec.length TestSpec.seconds
  rw [UInt32.toNat_add, UInt8.toNat_toUInt32]

/-- **When the limits bound the test**: a request that passed the check of its 32-bit length is
    within them exactly when that length did not wrap, or there is no limit. -/
theorem length_le_iff (hp : PolicyInv policy) (hn : node ∈ policy.nodes) (hused : FixedUnused used)
    (hsmall : ∀ a ∈ node.path, ∀ limit, a.limit? BWLDLimDuration = some limit →
      limit.toNat < 2 ^ 24)
    (hpass : demandFixed node used BWLDLimDuration t.length.toUInt64 = true) :
    LengthBounded node t ↔ t.seconds < 2 ^ 32 ∨ ∀ a ∈ node.path, ¬ a.Limited BWLDLimDuration := by
  rw [demandFixed_iff hp hn hused rfl] at hpass
  have hlength : t.length.toUInt64.toNat = t.seconds % 2 ^ 32 := by
    rw [UInt32.toNat_toUInt64, length_toNat]
  constructor
  · intro hb
    by_cases hlim : ∀ a ∈ node.path, ¬ a.Limited BWLDLimDuration
    · exact Or.inr hlim
    · push Not at hlim
      obtain ⟨a, ha, limit, hl, h0⟩ := hlim
      have h1 := hb a ha limit hl h0
      have h2 := hsmall a ha limit hl
      exact Or.inl (by omega)
  · rintro (hlt | hnone) a ha limit hl h0
    · have h1 := le_of_roundSig_le (by norm_num) (hsmall a ha limit hl) (hpass a ha limit hl h0)
      rwa [hlength, Nat.mod_eq_of_lt hlt] at h1
    · exact absurd ⟨limit, hl, h0⟩ (hnone a ha)

end Length

section Cover

variable {r : TestRequest} {sid : SID} {res : Reservation} {x : Num64}

/-- **When a reservation covers the test**: exactly when its end, the fuzz included, comes before
    the end of the era. -/
theorem coversTest_iff : CoversTest r.tspec ((r.query sid).at res x) ↔
    (x.toNat + r.fuzzTime.toNat) % 2 ^ 64 + r.tspec.seconds * 2 ^ 32 + r.fuzzTime.toNat <
      2 ^ 64 := by
  have hrestime : ((r.query sid).at res x).restime.toNat =
      (x.toNat + r.fuzzTime.toNat) % 2 ^ 64 := num64Add_toNat x r.fuzzTime
  have hend : ((r.query sid).at res x).end_.toNat = (((r.query sid).at res x).restime.toNat +
      (r.tspec.seconds % 2 ^ 32 * 2 ^ 32 + r.fuzzTime.toNat)) % 2 ^ 64 := by
    show (num64Add (num64Add x r.fuzzTime) (num64Add (uLongToNum64 r.tspec.length)
      r.fuzzTime)).toNat = _
    rw [hrestime, num64Add_toNat, num64Add_toNat, num64Add_toNat, uLongToNum64_toNat, length_toNat]
    omega
  have hfuzz := r.fuzzTime.toNat_lt
  rw [← hrestime]
  constructor
  · intro h
    have hlength := h.length
    have hlt := UInt64.toNat_lt ((r.query sid).at res x).end_
    generalize ((r.query sid).at res x).restime.toNat = restime at *
    rw [hend] at hlength hlt
    omega
  · intro hroom
    have hseconds : r.tspec.seconds < 2 ^ 32 := by omega
    rw [Nat.mod_eq_of_lt hseconds, Nat.mod_eq_of_lt (by omega)] at hend
    refine ⟨by omega, fun now hnow => ?_⟩
    have hsum : r.tspec.seconds = r.tspec.duration.toNat + r.tspec.omit_.toNat := rfl
    show now.toNat + (num64Add (num64Add (num64Add (num64Sub _ now) r.fuzzTime)
      (uLongToNum64 r.tspec.duration)) (uLongToNum64 r.tspec.omit_.toUInt32)).toNat ≤ _
    rw [num64Add_toNat, num64Add_toNat, num64Add_toNat, num64Sub_toNat_of_le hnow,
      uLongToNum64_toNat, uLongToNum64_toNat, UInt8.toNat_toUInt32]
    omega

/-- **The reservation granted on one list of slots** to the question of a child covers the test
    exactly when the time found leaves room for the test and the fuzz. -/
theorem granted_coversTest_iff {ctx : Context} {env : DemandEnv} {node : PolicyNode}
    {p : Proc} {tinfo : TestInfo} {q : ReservationQuery} {res? : Option Reservation}
    {slots : List TimeSlot} {currtime restime : Num64} {toolport : UInt16}
    (hask : (p.askReservation tinfo r).pipe = .query (.reservation q))
    (hnow : env.currtime = some currtime) (hord : SlotsOrdered slots)
    (hj : ∀ u ∈ slots, JumpFits u)
    (hgr : (chldReservationDemand ctx env node res? q slots).reply = .granted restime toolport)
    (hres : (chldReservationDemand ctx env node res? q slots).res = some res) :
    CoversTest r.tspec res ↔
      res.restime.toNat + r.tspec.seconds * 2 ^ 32 + r.fuzzTime.toNat < 2 ^ 64 := by
  obtain rfl : r.query tinfo.sid = q := by
    rw [askReservation_query] at hask
    exact PipeMesg.reservation.inj (Pipe.query.inj hask)
  obtain ⟨res0, x, rfl, -⟩ := grantable_of_granted hnow hord hj hgr hres
  have hrestime : ((r.query tinfo.sid).at res0 x).restime.toNat =
      (x.toNat + r.fuzzTime.toNat) % 2 ^ 64 := num64Add_toNat x r.fuzzTime
  rw [coversTest_iff, hrestime]

end Cover

section Admitted

variable {lib : I2Util} {ctx : Context} {policy : Policy} {s : System} {p : Proc}
  {host : HostState} {r : TestRequest} {t : TestSpec}

/-- **The whole test of a new request that was admitted is within the duration limits of its class
    and covered by its reservation exactly when the 32-bit sum of duration and omitted seconds does
    not wrap, or there is no limit, and every start the reservation can be granted at leaves room
    for the test in the era.** -/
theorem test_length_iff (hb : PolicyBuilt lib policy)
    (h : Reach (System.step ctx policy) anyEvent System.start s) (hmem : p ∈ s.procs)
    (hsmall : ∀ a ∈ p.node.path, ∀ limit, a.limit? BWLDLimDuration = some limit →
      limit.toNat < 2 ^ 24)
    (hadmitted : admitRequest host p.node p.used r = some t) (currtime : Num64) :
    (LengthBounded p.node t ∧
      AllGrants ctx p.node (r.admittedQuery t) currtime (CoversTest t)) ↔
    (t.seconds < 2 ^ 32 ∨ ∀ a ∈ p.node.path, ¬ a.Limited BWLDLimDuration) ∧
      ∀ x, Grantable (r.admittedQuery t) currtime
        (latestTime (r.admittedQuery t) currtime (getLimit p.node BWLDLimEventHorizon)) x →
        (x.toNat + r.fuzzTime.toNat) % 2 ^ 64 + t.seconds * 2 ^ 32 + r.fuzzTime.toNat < 2 ^ 64 := by
  obtain ⟨hn, hused⟩ := fixedUnused_of_reach hb.inv h p hmem
  obtain ⟨hpass, -, ttl, ht⟩ := admitRequest_checks hadmitted
  have hlength : demandFixed p.node p.used BWLDLimDuration t.length.toUInt64 = true := by
    rw [ht]
    exact hpass
  refine and_congr (length_le_iff hb.inv hn hused hsmall hlength) (allGrants_iff fun res x => ?_)
  exact coversTest_iff (r := { r with tspec := t })

end Admitted

/-! ## A class with a minute of testing -/

def minuteRoot : PolicyNode := .root "root" [⟨BWLDLimDuration, 60⟩]

/-- A request for a test at second 100, by second 1000 at the latest. -/
def minuteRequest (duration : UInt32) (omit_ : UInt8) : TestRequest :=
  ⟨Vector.replicate 16 0, false, ⟨"", "", campusTime 100, campusTime 1000, false, false, duration,
    0x01, false, 0, omit_, 0⟩, 0, 0, 0⟩

/-- Ten seconds and two omitted ones are within the minute, and their reservation covers them. -/
theorem test_length_iff_minute : ∃ t,
    admitRequest ⟨true, true, false⟩ minuteRoot Used.zero (minuteRequest 10 2) = some t ∧
      LengthBounded minuteRoot t ∧
      AllGrants campusContext minuteRoot ((minuteRequest 10 2).admittedQuery t) (campusTime 0)
        (CoversTest t) := by
  obtain ⟨s, p, hreach, hmem, hnode, hused⟩ :=
    connected_child campusContext
      (show minuteRoot ∈ (⟨[minuteRoot]⟩ : Policy).nodes from List.mem_singleton_self _)
  have hadmitted : admitRequest ⟨true, true, false⟩ minuteRoot Used.zero (minuteRequest 10 2) =
      some (minuteRequest 10 2).tspec := by decide +kernel
  have hbuilt : PolicyBuilt plainI2Util ⟨[minuteRoot]⟩ := ⟨["root with duration=60"], by decide⟩
  have hsmall : ∀ a ∈ minuteRoot.path, ∀ limit, a.limit? BWLDLimDuration = some limit →
      limit.toNat < 2 ^ 24 := by
    intro a ha limit hl
    obtain rfl : a = minuteRoot := by simpa [minuteRoot] using ha
    obtain rfl : 60 = limit := Option.some.inj hl
    decide
  have hltime : latestTime ((minuteRequest 10 2).admittedQuery (minuteRequest 10 2).tspec)
      (campusTime 0) (getLimit minuteRoot BWLDLimEventHorizon) = campusTime 1000 := by decide
  refine ⟨_, hadmitted, ?_⟩
  rw [← hnode, ← hused] at hadmitted
  rw [← hnode] at hsmall hltime ⊢
  refine (test_length_iff hbuilt hreach hmem hsmall hadmitted (campusTime 0)).2
    ⟨Or.inl (by decide), fun x hx => ?_⟩
  have hin := hx.inTime
  rw [hltime] at hin
  have hlate : (num64Add x 0).toNat ≤ (campusTime 1000).toNat := hin.resolve_left (by decide)
  rw [num64Add_toNat, UInt64.toNat_zero, Nat.add_zero, Nat.mod_eq_of_lt x.toNat_lt] at hlate
  have hlast : (campusTime 1000).toNat = 3900001000 * 2 ^ 32 := by decide
  have hseconds : (minuteRequest 10 2).tspec.seconds = 12 := by decide
  have hfuzz : (minuteRequest 10 2).fuzzTime.toNat = 0 := by decide
  rw [hseconds, hfuzz]
  omega

/-- A test of `2 ^ 32 - 1` seconds with one omitted second has the 32-bit length zero: it is admitted
    under the limit of a minute, and its reservation lasts no time at all. -/
theorem endless_test_admitted : ∃ s p t,
    Reach (System.step campusContext ⟨[minuteRoot]⟩) anyEvent System.start s ∧ p ∈ s.procs ∧
      admitRequest ⟨true, true, false⟩ p.node p.used (minuteRequest 0xffffffff 1) = some t ∧
      ¬ LengthBounded p.node t ∧
      (chldReservationDemand campusContext ⟨some (campusTime 0), some 5001⟩ p.node none
        ((minuteRequest 0xffffffff 1).admittedQuery t) []).reply =
          .granted (campusTime 100) 5001 ∧
      ∀ res, (chldReservationDemand campusContext ⟨some (campusTime 0), some 5001⟩ p.node none
        ((minuteRequest 0xffffffff 1).admittedQuery t) []).res = some res →
          ¬ CoversTest t res := by
  obtain ⟨s, p, hreach, hmem, hnode, hused⟩ :=
    connected_child campusContext
      (show minuteRoot ∈ (⟨[minuteRoot]⟩ : Policy).nodes from List.mem_singleton_self _)
  refine ⟨s, p, (minuteRequest 0xffffffff 1).tspec, hreach, hmem, ?_, ?_, ?_, ?_⟩
  · rw [hnode, hused]
    decide +kernel
  · intro hbounded
    rw [hnode] at hbounded
    have hle := hbounded minuteRoot (by simp [minuteRoot]) 60 rfl (by decide)
    exact absurd hle (by decide)
  · rw [hnode]
    decide +kernel
  · intro res _ hcovers
    have hlength := hcovers.length
    have hlt := res.end_.toNat_lt
    have hseconds : (minuteRequest 0xffffffff 1).tspec.seconds = 2 ^ 32 := by decide
    rw [hseconds] at hlength
    omega

end Bwctl
