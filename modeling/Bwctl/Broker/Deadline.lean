import Bwctl.Broker.SlotList

/-!
# The event horizon and the deadline of the client

The requested latest time and the event horizon of the class are merged into one value in
which zero means "no limit".  The minimum of a missing latest time and the horizon is zero, so
a client that sends no latest time is not bound by the horizon; and a horizon whose wrapped
sum with the clock is zero takes the client's deadline away.

* `search_added` — whatever is granted is not too late for the merged value.
* `LimitsBind` — when clock, horizon and latest time bind every demand.
* `limits_bind_iff` — they bind every demand exactly then.
* `beyond_event_horizon` — a reservation a year ahead under a horizon of five minutes.
-/

set_option autoImplicit false

namespace Bwctl

/-- A granted reservation keeps the requested latest time and the event horizon of the class, when
    they are non-zero. -/
def KeepsLimits (ctx : Context) (env : DemandEnv) (node : PolicyNode) (res? : Option Reservation)
    (q : ReservationQuery) (slots : List TimeSlot) (currtime : Num64) : Prop :=
  ∀ restime toolport,
    (chldReservationDemand ctx env node res? q slots).reply = .granted restime toolport →
      (q.ltime ≠ 0 → restime.toNat ≤ q.ltime.toNat) ∧
      (getLimit node BWLDLimEventHorizon ≠ 0 →
        restime.toNat ≤ currtime.toNat + (getLimit node BWLDLimEventHorizon).toNat * 2 ^ 32)

/-- The end of the event horizon as the code computes it. -/
def horizonEnd (currtime : Num64) (hsecs : BWLDLimitT) : Num64 :=
  num64Add currtime (i2numTToNum64 hsecs)

/-- Clock, horizon and latest time leave no demand unbound: there is no horizon; or there is a
    latest time and the horizon does not wrap to zero, or no time is later anyway; or there is no
    latest time and the horizon takes in every time. -/
def LimitsBind (currtime : Num64) (hsecs : BWLDLimitT) (ltime : Num64) : Prop :=
  hsecs = 0 ∨
    (ltime ≠ 0 ∧ (horizonEnd currtime hsecs ≠ 0 ∨ ltime.toNat = 2 ^ 64 - 1)) ∨
    (ltime = 0 ∧ 2 ^ 64 - 1 ≤ currtime.toNat + hsecs.toNat * 2 ^ 32)

/-- What the search adds is not too late. -/
theorem search_added {ctx : Context} {dtime ltime : Num64} :
    ∀ {slots slots' : List TimeSlot} {prevSlot : Option TimeSlot} {res0 res : Reservation},
      search ctx dtime ltime prevSlot res0 slots = .added res slots' → tooLate ltime res = false
  | [], slots', prevSlot, res0, res, h => by
    unfold search at h
    split at h
    · cases h
    · rename_i hlate; cases h; simpa using hlate
  | slot :: rest, slots', prevSlot, res0, res, h => by
    have hbehind : ∀ {r : SearchResult}, r.behind slot = .added res slots' →
        ∃ slots'', r = .added res slots'' := by
      intro r hr
      cases r with
      | denied res' => cases hr
      | added res' slots'' => cases hr; exact ⟨slots'', rfl⟩
    have hvisit : ∀ {res1 : Reservation} {v : Visit},
        visit ctx ltime prevSlot res1 slot rest = v → v ≠ .late → tooLate ltime res1 = false := by
      intro res1 v hv hne
      unfold visit at hv
      split at hv
      · exact absurd hv.symm hne
      · rename_i hlate; simpa using hlate
    rw [search] at h
    split at h
    · cases h
    · obtain ⟨_, h'⟩ := hbehind h
      exact search_added h'
    · rename_i hv; cases h; exact hvisit hv (by simp)
    · obtain ⟨_, h'⟩ := hbehind h
      exact search_added h'
    · obtain ⟨_, h'⟩ := hbehind h
      exact search_added h'
    · rename_i hv; cases h; exact hvisit hv (by simp)

/-- A granted demand is in time for the merged latest time. -/
theorem OpenDemand.granted_inTime {ctx : Context} {d : OpenDemand} {restime : Num64}
    {toolport : UInt16} (h : (d.outcome ctx).reply = .granted restime toolport) :
    d.ltime = 0 ∨ restime.toNat ≤ d.ltime.toNat := by
  rw [outcome_eq] at h
  split at h
  · cases h
  · split at h
    · cases h
    · rename_i res slots hs
      cases h
      exact tooLate_eq_false.1 (search_added hs)

/-- The sum behind the end of the horizon. -/
theorem horizonEnd_toNat (currtime : Num64) (hsecs : BWLDLimitT) :
    (horizonEnd currtime hsecs).toNat = (currtime.toNat + hsecs.toNat * 2 ^ 32) % 2 ^ 64 := by
  unfold horizonEnd
  rw [num64Add_toNat, i2numTToNum64_toNat, Nat.add_mod_mod]

theorem num64_eq_zero {x : Num64} : x = 0 ↔ x.toNat = 0 := by
  rw [← UInt64.toNat_inj]; rfl

theorem num64_ne_zero {x : Num64} : x ≠ 0 ↔ 0 < x.toNat := by
  rw [Nat.pos_iff_ne_zero, ne_eq, ne_eq, num64_eq_zero]

/-- The condition in numbers. -/
theorem limitsBind_iff {currtime ltime : Num64} {hsecs : BWLDLimitT} :
    LimitsBind currtime hsecs ltime ↔ hsecs.toNat = 0 ∨
      (0 < ltime.toNat ∧ (0 < (horizonEnd currtime hsecs).toNat ∨ ltime.toNat = 2 ^ 64 - 1)) ∨
      (ltime.toNat = 0 ∧ 2 ^ 64 - 1 ≤ currtime.toNat + hsecs.toNat * 2 ^ 32) := by
  unfold LimitsBind
  rw [num64_ne_zero, num64_ne_zero, num64_eq_zero, num64_eq_zero]

/-- The merged latest time under a horizon. -/
theorem latestTime_toNat {q : ReservationQuery} {currtime : Num64} {hsecs : BWLDLimitT}
    (hs : hsecs.toNat ≠ 0) : (latestTime q currtime hsecs).toNat =
      min q.ltime.toNat (horizonEnd currtime hsecs).toNat := by
  unfold latestTime
  rw [if_pos (fun h => hs (num64_eq_zero.1 h)), num64Min_toNat]
  rfl

/-- The merged latest time bounds both limits when they bind. -/
theorem keepsLimits_of_bind {q : ReservationQuery} {currtime restime : Num64} {hsecs : BWLDLimitT}
    (hbind : LimitsBind currtime hsecs q.ltime)
    (hin : latestTime q currtime hsecs = 0 ∨
      restime.toNat ≤ (latestTime q currtime hsecs).toNat) :
    (q.ltime ≠ 0 → restime.toNat ≤ q.ltime.toNat) ∧
      (hsecs ≠ 0 → restime.toNat ≤ currtime.toNat + hsecs.toNat * 2 ^ 32) := by
  have hmax := restime.toNat_lt
  rw [num64_ne_zero, num64_ne_zero]
  rw [num64_eq_zero] at hin
  by_cases hs : hsecs.toNat = 0
  · have hl : latestTime q currtime hsecs = q.ltime := by
      unfold latestTime
      rw [if_neg (by simpa using num64_eq_zero.2 hs)]
    rw [hl] at hin
    constructor <;> intro h0 <;> omega
  · have hsum := horizonEnd_toNat currtime hsecs
    rw [latestTime_toNat hs] at hin
    rcases limitsBind_iff.1 hbind with h0 | ⟨h1, h2⟩ | ⟨h1, h2⟩
    · exact absurd h0 hs
    · constructor <;> intro h0 <;> omega
    · constructor <;> intro h0 <;> omega

/-- A request for the last instant of the era. -/
def lastQuery (ltime : Num64) : ReservationQuery :=
  ⟨Vector.replicate 16 0, 18446744073709551615, 0, ltime, 0, 0, 0, 0, "", ""⟩

theorem firstStart_lastQuery (ltime currtime : Num64) :
    firstStart (lastQuery ltime) currtime = 18446744073709551615 := by
  have hstart : num64Sub (lastQuery ltime).rtime (lastQuery ltime).ftime =
      18446744073709551615 := by
    show num64Sub 18446744073709551615 0 = 18446744073709551615
    decide
  have hmin := (minStart (lastQuery ltime) currtime).toNat_lt
  unfold firstStart
  rw [hstart, if_neg]
  rw [num64Cmp_neg]
  exact Nat.not_lt.2 (Nat.le_of_lt_succ hmin)

/-- Without a merged latest time the last instant of the era is granted on an empty list. -/
theorem lastQuery_granted (ctx : Context) (node : PolicyNode) {currtime ltime : Num64}
    (h0 : latestTime (lastQuery ltime) currtime (getLimit node BWLDLimEventHorizon) = 0) :
    (chldReservationDemand ctx ⟨some currtime, some 0⟩ node none (lastQuery ltime) []).reply =
      .granted 18446744073709551615 0 := by
  let d : OpenDemand := ⟨getLimit node BWLDLimEventHorizon, lastQuery ltime, currtime,
    ⟨0, Vector.replicate 16 0, 0, 0, 0, 0, "", "", 0, 0⟩, []⟩
  have hopen : chldReservationDemand ctx ⟨some currtime, some 0⟩ node none (lastQuery ltime) [] =
      d.outcome ctx := chldReservationDemand_open rfl rfl
  have hltime : d.ltime = 0 := h0
  have hlate : ∀ res, ¬ tooLate 0 res = true := fun res => by
    rw [Bool.not_eq_true]; exact tooLate_eq_false.2 (Or.inl rfl)
  have hstart : d.firstStart = 18446744073709551615 := firstStart_lastQuery ltime currtime
  have hslots : d.slots = [] := rfl
  rw [hopen, OpenDemand.outcome_eq, hltime, if_neg (hlate _), hslots, search, if_neg (hlate _),
    hstart]
  rfl

/-- **The requested latest time and the event horizon bind every demand exactly when there is no
    horizon, or a latest time and a horizon that does not wrap to zero, or no time past them.** -/
theorem limits_bind_iff (ctx : Context) (node : PolicyNode) (currtime ltime : Num64) :
    (∀ env res? q slots, env.currtime = some currtime → q.ltime = ltime →
      KeepsLimits ctx env node res? q slots currtime) ↔
      LimitsBind currtime (getLimit node BWLDLimEventHorizon) ltime := by
  constructor
  · intro h
    by_contra hno
    rw [limitsBind_iff] at hno
    have hs : (getLimit node BWLDLimEventHorizon).toNat ≠ 0 := fun h0 => hno (Or.inl h0)
    have hltime : (lastQuery ltime).ltime = ltime := rfl
    have hzero : latestTime (lastQuery ltime) currtime (getLimit node BWLDLimEventHorizon) = 0 := by
      rw [num64_eq_zero, latestTime_toNat hs, hltime]
      omega
    obtain ⟨hdead, hhor⟩ := h ⟨some currtime, some 0⟩ none (lastQuery ltime) [] rfl rfl _ _
      (lastQuery_granted ctx node hzero)
    have hlast : (18446744073709551615 : UInt64).toNat = 2 ^ 64 - 1 := rfl
    have hmax := ltime.toNat_lt
    rw [num64_ne_zero, hltime, hlast] at hdead
    rw [num64_ne_zero, hlast] at hhor
    omega
  · intro hbind env res? q slots hnow hq restime toolport hgr
    cases hclaim : claimReservation env res? q slots with
    | none =>
      rw [chldReservationDemand_unclaimed hclaim] at hgr
      cases hgr
    | some p =>
      obtain ⟨res, left⟩ := p
      rw [chldReservationDemand_open hclaim hnow] at hgr
      rw [← hq] at hbind
      exact keepsLimits_of_bind hbind (OpenDemand.granted_inTime hgr)

/-- A client that sends no latest time gets a reservation a year ahead from a class with an event
    horizon of five minutes. -/
theorem beyond_event_horizon :
    ¬ KeepsLimits campusContext ⟨some (campusTime 0), some 5001⟩
      (.root "root" [⟨BWLDLimEventHorizon, 300⟩]) none
      ⟨Vector.replicate 16 0, campusTime 31536000, 0, 0, 10, 0, 0, 0x01, "", ""⟩ []
      (campusTime 0) := by
  intro h
  have hgr : (chldReservationDemand campusContext ⟨some (campusTime 0), some 5001⟩
      (.root "root" [⟨BWLDLimEventHorizon, 300⟩]) none
      ⟨Vector.replicate 16 0, campusTime 31536000, 0, 0, 10, 0, 0, 0x01, "", ""⟩ []).reply =
        .granted (campusTime 31536000) 5001 := by decide +kernel
  have hlim : getLimit (.root "root" [⟨BWLDLimEventHorizon, 300⟩]) BWLDLimEventHorizon = 300 := by
    decide
  have hle := (h _ _ hgr).2
  rw [hlim] at hle
  exact absurd (hle (by decide)) (by decide)

end Bwctl
