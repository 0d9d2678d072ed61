import Bwctl.Broker.GrantedStarts

/-!
# The times of a grant in exact arithmetic

The demand adds and subtracts unsigned 64-bit times without a check.  A requested time below the
fuzz makes the first start wrap to the end of the era, where it is no longer corrected to the
minimum start, and a test near the end of the era ends before it starts.  The grants of a demand
are sound on every slot list of the era exactly when the demand is refused at once, or the fuzz
fits before the requested time and every start that is in time leaves room for the test.

* `SoundTimes` — the times of a granted reservation, without wraps.
* `firstStart_of_room`, `room_of_soundTimes` — when the first start is sound.
* `granted_soundTimes_iff` — the grant on one list of slots.
* `sound_times_iff` — the demands whose grants are all sound.
* `request_before_fuzz` — a request for the first second of the era.
-/

set_option autoImplicit false

namespace Bwctl

open Intervals

/-- **The times of a granted reservation**, as natural numbers: the start leaves the client its
    round trips, the test is no earlier than requested, and the reservation ends behind it. -/
structure SoundTimes (q : ReservationQuery) (currtime : Num64) (res : Reservation) : Prop where
  start_ge : currtime.toNat + q.ftime.toNat + 2 * q.rtttime.toNat ≤ res.start.toNat
  restime_eq : res.restime.toNat = res.start.toNat + q.ftime.toNat
  restime_ge : q.rtime.toNat ≤ res.restime.toNat
  end_eq : res.end_.toNat = res.restime.toNat + q.duration.toNat * 2 ^ 32 + q.ftime.toNat
  start_lt : res.start.toNat < res.end_.toNat
  seconds : 2208988800 * 2 ^ 32 ≤ currtime.toNat →
    (res.resStart + 2208988800) * 2 ^ 32 ≤ res.start.toNat ∧
      (res.end_.toNat : Int) < (res.resEnd + 2208988800) * 2 ^ 32

/-- The time from the start to the end of the reservation. -/
def ReservationQuery.span (q : ReservationQuery) : Nat :=
  2 * q.ftime.toNat + q.duration.toNat * 2 ^ 32

/-- The minimum start in exact arithmetic. -/
def ReservationQuery.leastStart (q : ReservationQuery) (currtime : Num64) : Nat :=
  currtime.toNat + q.ftime.toNat + 2 * q.rtttime.toNat

/-- The first start in exact arithmetic. -/
def ReservationQuery.exactStart (q : ReservationQuery) (currtime : Num64) : Nat :=
  if q.rtime.toNat - q.ftime.toNat < q.leastStart currtime then q.leastStart currtime + 2 ^ 32
  else q.rtime.toNat - q.ftime.toNat

/-- The fuzz fits before the requested time, and the first start and every later second that is in
    time leave room for the test before the era ends. -/
structure RoomInEra (q : ReservationQuery) (currtime ltime : Num64) : Prop where
  fuzz_le : q.ftime.toNat ≤ q.rtime.toNat
  proper : 0 < q.span
  first : q.exactStart currtime + q.span < 2 ^ 64
  later : 2208988800 * 2 ^ 32 ≤ q.exactStart currtime →
    ∀ n : Nat, q.exactStart currtime < n * 2 ^ 32 → n < 2 ^ 32 →
      (ltime = 0 ∨ (n * 2 ^ 32 + q.ftime.toNat) % 2 ^ 64 ≤ ltime.toNat) →
        n * 2 ^ 32 + q.span < 2 ^ 64

/-! ## The times of a start -/

section Start

variable {q : ReservationQuery} {currtime ltime : Num64} {res : Reservation} {x : Num64}

theorem minStart_toNat (q : ReservationQuery) (currtime : Num64) :
    (minStart q currtime).toNat = q.leastStart currtime % 2 ^ 64 := by
  unfold minStart ReservationQuery.leastStart
  rw [num64Add_toNat, num64Add_toNat, num64Mult_two_toNat]
  omega

/-- The first start, the sums taken modulo `2 ^ 64`. -/
theorem firstStart_toNat (q : ReservationQuery) (currtime : Num64) :
    (firstStart q currtime).toNat =
      if (2 ^ 64 - q.ftime.toNat + q.rtime.toNat) % 2 ^ 64 < q.leastStart currtime % 2 ^ 64 then
        (q.leastStart currtime % 2 ^ 64 + 2 ^ 32) % 2 ^ 64
      else (2 ^ 64 - q.ftime.toNat + q.rtime.toNat) % 2 ^ 64 := by
  have hone : (uLongToNum64 1).toNat = 2 ^ 32 := by decide
  unfold firstStart
  simp only [num64Cmp_neg, num64Sub_toNat, minStart_toNat]
  split
  · rw [num64Add_toNat, minStart_toNat, hone]
  · rw [num64Sub_toNat]

/-- With room for it the first start does not wrap. -/
theorem firstStart_of_room (hle : q.ftime.toNat ≤ q.rtime.toNat)
    (hfirst : q.exactStart currtime + q.span < 2 ^ 64) :
    (firstStart q currtime).toNat = q.exactStart currtime := by
  have hr := q.rtime.toNat_lt
  unfold ReservationQuery.exactStart at hfirst ⊢
  rw [firstStart_toNat]
  split at hfirst <;> split <;> omega

/-- The exact first start leaves the round trips and is no earlier than requested. -/
theorem exactStart_ge (q : ReservationQuery) (currtime : Num64) :
    q.leastStart currtime ≤ q.exactStart currtime ∧
      q.rtime.toNat ≤ q.exactStart currtime + q.ftime.toNat := by
  unfold ReservationQuery.exactStart ReservationQuery.leastStart
  split <;> omega

/-- The end of a start, the sums taken modulo `2 ^ 64`. -/
theorem moveTo_end_toNat (q : ReservationQuery) (res : Reservation) (x : Num64) :
    (q.at res x).end_.toNat =
      (x.toNat + q.span) % 2 ^ 64 := by
  show (num64Add (num64Add x q.ftime) q.dtime).toNat = _
  unfold ReservationQuery.dtime ReservationQuery.span
  rw [num64Add_toNat, num64Add_toNat, num64Add_toNat, uLongToNum64_toNat]
  omega

/-- **A start with room** from the exact first start on has sound times. -/
theorem soundTimes_of_room (hx : q.exactStart currtime ≤ x.toNat) (hproper : 0 < q.span)
    (hroom : x.toNat + q.span < 2 ^ 64) : SoundTimes q currtime (q.at res x) := by
  obtain ⟨hleast, hreq⟩ := exactStart_ge q currtime
  have hend := moveTo_end_toNat q res x
  rw [Nat.mod_eq_of_lt hroom] at hend
  have hspan : q.span = 2 * q.ftime.toNat + q.duration.toNat * 2 ^ 32 := rfl
  have hleast' : q.leastStart currtime =
      currtime.toNat + q.ftime.toNat + 2 * q.rtttime.toNat := rfl
  have hrestime : (q.at res x).restime.toNat = x.toNat + q.ftime.toNat := by
    show (num64Add x q.ftime).toNat = _
    rw [num64Add_toNat_of_lt (by omega)]
  refine ⟨?_, hrestime, ?_, ?_, ?_, fun hnow => ?_⟩
  · rw [ReservationQuery.at_start]; omega
  · rw [hrestime]; omega
  · rw [hend, hrestime]; omega
  · rw [hend, ReservationQuery.at_start]; omega
  · have hx0 : 2208988800 * 2 ^ 32 ≤ x.toNat := by omega
    have hstart : (q.at res x).resStart = (x.toNat / 2 ^ 32 : Nat) - (2208988800 : Int) := num64ToTimestamp_of_le hx0
    rw [hstart, Reservation.resEnd, num64ToTimestamp_of_le (by omega), hend, ReservationQuery.at_start]
    omega

/-- A start whose times are sound leaves room. -/
theorem SoundTimes.room
    (h : SoundTimes q currtime
      (q.at res x)) :
    x.toNat + q.span < 2 ^ 64 ∧ 0 < q.span := by
  have hlt := UInt64.toNat_lt
    (q.at res x).end_
  have hend := h.end_eq
  have hrestime := h.restime_eq
  have hstart := h.start_lt
  rw [ReservationQuery.at_start] at hrestime hstart
  unfold ReservationQuery.span
  omega

/-- **The first start is sound** only when nothing of it wraps. -/
theorem room_of_soundTimes
    (h : SoundTimes q currtime
      (q.at res (firstStart q currtime))) :
    q.ftime.toNat ≤ q.rtime.toNat ∧ (firstStart q currtime).toNat = q.exactStart currtime := by
  obtain ⟨hroom, -⟩ := h.room
  have hge := h.start_ge
  rw [ReservationQuery.at_start] at hge
  have hleast : q.leastStart currtime = currtime.toNat + q.ftime.toNat + 2 * q.rtttime.toNat := rfl
  have hspan : q.span = 2 * q.ftime.toNat + q.duration.toNat * 2 ^ 32 := rfl
  have hr := q.rtime.toNat_lt
  have hf := q.ftime.toNat_lt
  have hfirst := firstStart_toNat q currtime
  rw [← hleast] at hge
  have hlt := (firstStart q currtime).toNat_lt
  generalize (firstStart q currtime).toNat = s at *
  rw [Nat.mod_eq_of_lt (show q.leastStart currtime < 2 ^ 64 by omega)] at hfirst
  unfold ReservationQuery.exactStart
  generalize q.leastStart currtime = least at *
  split at hfirst
  · have hle : q.ftime.toNat ≤ q.rtime.toNat := by
      -- otherwise the start wraps to the end of the era, where no fuzz fits
      by_contra hgt
      omega
    refine ⟨hle, ?_⟩
    rw [if_pos (by omega)]
    omega
  · have hle : q.ftime.toNat ≤ q.rtime.toNat := by
      by_contra hgt
      omega
    refine ⟨hle, ?_⟩
    rw [if_neg (by omega)]
    omega

end Start

/-! ## The grants of a demand -/

section Grants

variable {q : ReservationQuery} {currtime ltime : Num64}

/-- The times of a start depend on the start alone. -/
theorem soundTimes_congr (res res' : Reservation) (x : Num64) :
    SoundTimes q currtime (q.at res x) ↔ SoundTimes q currtime (q.at res' x) :=
  ⟨fun h => ⟨h.start_ge, h.restime_eq, h.restime_ge, h.end_eq, h.start_lt, h.seconds⟩,
    fun h => ⟨h.start_ge, h.restime_eq, h.restime_ge, h.end_eq, h.start_lt, h.seconds⟩⟩

theorem inTime_toNat {x : Num64} : InTime q ltime x ↔
    ltime = 0 ∨ (x.toNat + q.ftime.toNat) % 2 ^ 64 ≤ ltime.toNat := by
  unfold InTime
  rw [num64Add_toNat]

/-- **Room in the era** makes every grantable start sound. -/
theorem soundTimes_of_grantable {res : Reservation} {x : Num64} (h : RoomInEra q currtime ltime)
    (hx : Grantable q currtime ltime x) : SoundTimes q currtime (q.at res x) := by
  have hfirst := firstStart_of_room h.fuzz_le h.first
  have hin := inTime_toNat.1 hx.inTime
  rcases hx.later with hx | ⟨h1970, hlt, n, hn⟩
  · rw [hx]
    refine soundTimes_of_room hfirst.ge h.proper ?_
    rw [hfirst]
    exact h.first
  · have hera : n < 2 ^ 32 := by
      have := x.toNat_lt
      omega
    rw [hfirst] at h1970 hlt
    rw [hn] at hlt hin
    have hroom := h.later h1970 n hlt hera hin
    rw [← hn] at hlt hroom
    exact soundTimes_of_room hlt.le h.proper hroom

/-- **The grant on one list of slots**: when the first start does not wrap, the reservation is sound
    exactly when the start found leaves room for the test, whatever starts another list would
    have led to. -/
theorem granted_soundTimes_iff {ctx : Context} {env : DemandEnv} {node : PolicyNode}
    {res? : Option Reservation} {slots : List TimeSlot} {restime : Num64} {toolport : UInt16}
    {res : Reservation} (hnow : env.currtime = some currtime) (hord : SlotsOrdered slots)
    (hj : ∀ u ∈ slots, JumpFits u) (hle : q.ftime.toNat ≤ q.rtime.toNat)
    (hproper : 0 < q.span) (hfirst : q.exactStart currtime + q.span < 2 ^ 64)
    (hgr : (chldReservationDemand ctx env node res? q slots).reply = .granted restime toolport)
    (hres : (chldReservationDemand ctx env node res? q slots).res = some res) :
    SoundTimes q currtime res ↔ res.start.toNat + q.span < 2 ^ 64 := by
  obtain ⟨res0, x, rfl, hx⟩ := grantable_of_granted hnow hord hj hgr hres
  have hge : q.exactStart currtime ≤ x.toNat := by
    rw [← firstStart_of_room hle hfirst]
    rcases hx.later with hx | ⟨-, hlt, -⟩
    · rw [hx]
    · exact hlt.le
  rw [ReservationQuery.at_start]
  exact ⟨fun h => h.room.1, fun hroom => soundTimes_of_room hge hproper hroom⟩

/-- **Sound grants** need room in the era, unless the demand is refused at once. -/
theorem room_of_grantable {res : Reservation} (hin : InTime q ltime (firstStart q currtime))
    (h : ∀ x, Grantable q currtime ltime x → SoundTimes q currtime (q.at res x)) :
    RoomInEra q currtime ltime := by
  have hfirst := h _ ⟨hin, hin, Or.inl rfl⟩
  obtain ⟨hroom, hproper⟩ := hfirst.room
  obtain ⟨hfuzz, hexact⟩ := room_of_soundTimes hfirst
  rw [hexact] at hroom
  refine ⟨hfuzz, hproper, hroom, fun h1970 n hlt hn htime => ?_⟩
  have hof : (UInt64.ofNat (n * 2 ^ 32)).toNat = n * 2 ^ 32 :=
    UInt64.toNat_ofNat_of_lt' (show n * 2 ^ 32 < 2 ^ 64 by omega)
  have hx : Grantable q currtime ltime (UInt64.ofNat (n * 2 ^ 32)) := by
    refine ⟨hin, inTime_toNat.2 (by rwa [hof]), Or.inr ⟨?_, ?_, n, hof⟩⟩
    · rwa [hexact]
    · rwa [hexact, hof]
  have hroom := (h _ hx).room.1
  rwa [hof] at hroom

/-- **Every grant of a demand on a list of slots of the era is sound exactly when the demand is
    refused at once or has room in the era.** -/
theorem sound_times_iff (ctx : Context) (node : PolicyNode) (q : ReservationQuery)
    (currtime : Num64) : AllGrants ctx node q currtime (SoundTimes q currtime) ↔
      ¬ InTime q (latestTime q currtime (getLimit node BWLDLimEventHorizon))
          (firstStart q currtime) ∨
        RoomInEra q currtime (latestTime q currtime (getLimit node BWLDLimEventHorizon)) := by
  rw [allGrants_iff (Q := fun x => SoundTimes q currtime
    (q.at (newDemand node q currtime []).res x)) fun res x => soundTimes_congr res _ x]
  constructor
  · intro h
    by_cases hin : InTime q (latestTime q currtime (getLimit node BWLDLimEventHorizon))
        (firstStart q currtime)
    · exact Or.inr (room_of_grantable hin h)
    · exact Or.inl hin
  · rintro (hin | hroom) x hx
    · exact absurd hx.first hin
    · exact soundTimes_of_grantable hroom hx

end Grants

/-- A request for the first second of the era with two seconds of fuzz: the start wraps to the end
    of the era, so it is not corrected to the minimum start, and the test is granted for a second
    of the year 1900. -/
theorem request_before_fuzz : ∃ q restime res,
    (chldReservationDemand campusContext ⟨some (campusTime 0), some 5001⟩ (.root "root" []) none q
      []).reply = .granted restime 5001 ∧ restime.toNat < (campusTime 0).toNat ∧
    (chldReservationDemand campusContext ⟨some (campusTime 0), some 5001⟩ (.root "root" []) none q
      []).res = some res ∧ ¬ SoundTimes q (campusTime 0) res := by
  let q : ReservationQuery :=
    ⟨Vector.replicate 16 0, 0x100000000, 0x200000000, 0, 10, 0, 0, 0x01, "", ""⟩
  have hreply : (chldReservationDemand campusContext ⟨some (campusTime 0), some 5001⟩
      (.root "root" []) none q []).reply = .granted 0x100000000 5001 := by decide +kernel
  have hres : (chldReservationDemand campusContext ⟨some (campusTime 0), some 5001⟩
      (.root "root" []) none q []).res.map (fun res => (res.start.toNat, res.restime.toNat)) =
        some (2 ^ 64 - 2 ^ 32, 2 ^ 32) := by decide +kernel
  obtain ⟨res, hres, htimes⟩ := Option.map_eq_some_iff.1 hres
  simp only [Prod.mk.injEq] at htimes
  refine ⟨q, _, res, hreply, by decide, hres, fun h => ?_⟩
  have hrestime := h.restime_eq
  rw [htimes.1, htimes.2] at hrestime
  exact absurd hrestime (by decide)

end Bwctl
