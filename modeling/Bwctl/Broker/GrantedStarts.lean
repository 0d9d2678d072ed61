import Bwctl.Broker.Deadline

/-!
# The starts a demand can be granted at

Whatever the slots of the era are, a demand is granted at its first start or at a later whole
second, and only in time for its latest time; and each of these starts is granted on some list of
slots.  None of this asks the times of the starts not to wrap.

* `search_tries` — the starts a search moves to.
* `Grantable` — the starts a demand can be granted at.
* `grantable_of_granted` — a granted reservation has one of these starts.
* `search_fullSlot` — a full slot moves the start to any later second.
* `allGrants_iff` — what holds of every grant holds of every grantable start.
-/

set_option autoImplicit false

namespace Bwctl

open Intervals

/-! ## The starts of a search -/

section Search

variable {ctx : Context} {dtime ltime : Num64} {base : Reservation}

/-- A start the search may move to from the start `y`: `y` itself or a later whole second. -/
def Later (y x : Num64) : Prop :=
  x = y ∨ (2208988800 * 2 ^ 32 ≤ y.toNat ∧ y.toNat < x.toNat ∧ ∃ n : Nat, x.toNat = n * 2 ^ 32)

theorem Later.trans {x y z : Num64} (h : Later y x) (h' : Later z y) : Later z x := by
  rcases h with rfl | ⟨h1, h2, hn⟩
  · exact h'
  · rcases h' with rfl | ⟨h3, h4, -⟩
    · exact Or.inr ⟨h1, h2, hn⟩
    · exact Or.inr ⟨h3, h4.trans h2, hn⟩

/-- The slots of the era lie before the seconds of a start before 1970. -/
theorem le_of_meets {u : TimeSlot} {y : Num64} (hj : JumpFits u)
    (hend : (moveTo dtime base y).resStart ≤ u.end_) : 2208988800 * 2 ^ 32 ≤ y.toNat := by
  by_contra hlt
  have hy := y.toNat_lt
  have hstart : (moveTo dtime base y).resStart =
      (((8959209420479266816 + y.toNat) % 2 ^ 64 / 2 ^ 32 : Nat) : Int) := num64ToTimestamp_toNat y
  unfold JumpFits at hj
  omega

/-- A jump behind an overlapped slot leads to a later whole second, the first one behind the
    slot. -/
theorem later_jump {u : TimeSlot} {y : Num64} (hj : JumpFits u)
    (hend : (moveTo dtime base y).resStart ≤ u.end_) :
    Later y (timestampToNum64 (u.end_ + 1)) ∧
      (moveTo dtime base (timestampToNum64 (u.end_ + 1))).resStart = u.end_ + 1 := by
  have hy := le_of_meets hj hend
  have hstart : (moveTo dtime base y).resStart = (y.toNat / 2 ^ 32 : Nat) - (2208988800 : Int) :=
    num64ToTimestamp_of_le hy
  have hjump : (timestampToNum64 (u.end_ + 1)).toNat =
      ((u.end_ + 1).toNat + 2208988800) * 2 ^ 32 :=
    timestampToNum64_of_lt (by omega) hj
  refine ⟨Or.inr ⟨hy, by omega, _, hjump⟩, ?_⟩
  show num64ToTimestamp (timestampToNum64 (u.end_ + 1)) = u.end_ + 1
  rw [num64ToTimestamp_of_le (by omega)]
  omega

variable (ctx dtime ltime base) in
/-- **The starts a search moves to** on a list of slots of the era. -/
theorem search_tries : ∀ {slots slots' : List TimeSlot} {prevSlot : Option TimeSlot} {y : Num64}
    {res : Reservation}, SlotsOrdered slots → (∀ u ∈ slots, JumpFits u) →
    (∀ p ∈ prevSlot, p.end_ < (moveTo dtime base y).resStart) →
    search ctx dtime ltime prevSlot (moveTo dtime base y) slots = .added res slots' →
      ∃ x, res = moveTo dtime base x ∧ Later y x
  | [], slots', prevSlot, y, res, _, _, _, h => by
    unfold search at h
    split at h
    · cases h
    · cases h
      exact ⟨y, rfl, Or.inl rfl⟩
  | slot :: rest, slots', prevSlot, y, res, hord, hj, hprev, h => by
    have hbehind : ∀ {r : SearchResult}, r.behind slot = .added res slots' →
        ∃ slots'', r = .added res slots'' := by
      intro r hr
      cases r with
      | denied res' => cases hr
      | added res' slots'' => cases hr; exact ⟨slots'', rfl⟩
    have hvisit := visit_spec ctx ltime hord hprev
    obtain ⟨-, hlt, hord'⟩ := Ordered.cons_iff.1 hord
    have hj' : ∀ u ∈ rest, JumpFits u := fun u hu => hj u (List.mem_cons_of_mem _ hu)
    rw [search, fixEnd_moveTo] at h
    generalize hv : visit ctx ltime prevSlot (moveTo dtime base y) slot rest = v at *
    cases v with
    | late => cases h
    | skip =>
      obtain ⟨_, h'⟩ := hbehind h
      refine search_tries hord' hj' ?_ h'
      rintro p ⟨⟩
      exact hvisit.2
    | insertBefore =>
      cases h
      exact ⟨y, rfl, Or.inl rfl⟩
    | full =>
      obtain ⟨-, hmeet, -⟩ := hvisit
      obtain ⟨hlater, hstart⟩ := later_jump (hj slot List.mem_cons_self) hmeet.2
      obtain ⟨_, h'⟩ := hbehind h
      rw [moveTo_moveTo] at h'
      obtain ⟨x, hx, hxl⟩ := search_tries hord' hj' (by rintro p ⟨⟩; rw [hstart]; omega) h'
      exact ⟨x, hx, hxl.trans hlater⟩
    | conflict c =>
      obtain ⟨-, hsc, hmeet, -, mid, tail, heq, -⟩ := hvisit
      have hc : c ∈ slot :: rest := by rw [heq]; simp
      obtain ⟨hlater, hstart⟩ := later_jump (hj c hc) hmeet.2
      obtain ⟨_, h'⟩ := hbehind h
      rw [moveTo_moveTo] at h'
      have hprev' : ∀ p ∈ prevSlot,
          p.end_ < (moveTo dtime base (timestampToNum64 (c.end_ + 1))).resStart := by
        intro p hp
        have h1 := hprev p hp
        have h2 := hmeet.2
        rw [hstart]
        omega
      obtain ⟨x, hx, hxl⟩ := search_tries hord' hj' hprev' h'
      exact ⟨x, hx, hxl.trans hlater⟩
    | overlap more after =>
      cases h
      exact ⟨y, rfl, Or.inl rfl⟩

end Search

/-! ## Grantable starts -/

/-- A start whose time is not past the latest time, if there is one. -/
def InTime (q : ReservationQuery) (ltime : Num64) (x : Num64) : Prop :=
  ltime = 0 ∨ (num64Add x q.ftime).toNat ≤ ltime.toNat

/-- **A start the demand can be granted at**: the first start or a later whole second, both in
    time. -/
structure Grantable (q : ReservationQuery) (currtime ltime : Num64) (x : Num64) : Prop where
  first : InTime q ltime (firstStart q currtime)
  inTime : InTime q ltime x
  later : Later (firstStart q currtime) x

/-- A property of every grant of a demand on an ordered list of slots of the era. -/
def AllGrants (ctx : Context) (node : PolicyNode) (q : ReservationQuery) (currtime : Num64)
    (P : Reservation → Prop) : Prop :=
  ∀ env res? slots, env.currtime = some currtime → SlotsOrdered slots →
    (∀ u ∈ slots, JumpFits u) → ∀ restime toolport res,
      (chldReservationDemand ctx env node res? q slots).reply = .granted restime toolport →
      (chldReservationDemand ctx env node res? q slots).res = some res → P res

/-- A reservation of the request with the start `x`. -/
def ReservationQuery.at (q : ReservationQuery) (res : Reservation) (x : Num64) : Reservation :=
  moveTo q.dtime { res with fuzz := q.ftime, duration := q.duration } x

section Times

variable {q : ReservationQuery} {res : Reservation} {ltime x : Num64}

@[simp] theorem ReservationQuery.at_start : (q.at res x).start = x := rfl

@[simp] theorem ReservationQuery.at_restime : (q.at res x).restime = num64Add x q.ftime := rfl

@[simp] theorem ReservationQuery.at_end :
    (q.at res x).end_ = num64Add (num64Add x q.ftime) q.dtime := rfl

theorem inTime_iff_tooLate : InTime q ltime x ↔ tooLate ltime (q.at res x) = false := by
  rw [tooLate_eq_false]
  rfl

end Times

section Grants

variable {ctx : Context} {node : PolicyNode} {q : ReservationQuery} {currtime : Num64}

/-- **A granted start is grantable.** -/
theorem OpenDemand.grantable {d : OpenDemand} {res : Reservation} (hord : SlotsOrdered d.slots)
    (hj : ∀ u ∈ d.slots, JumpFits u) (hres : (d.outcome ctx).res = some res) :
    ∃ x, res = d.q.at d.res x ∧ Grantable d.q d.currtime d.ltime x := by
  rw [outcome_eq] at hres
  cases hlate : tooLate d.ltime (d.startAt d.firstStart) with
  | true =>
    rw [if_pos hlate] at hres
    cases hres
  | false =>
    rw [if_neg (by simp [hlate])] at hres
    cases hs : search ctx d.q.dtime d.ltime none (d.startAt d.firstStart) d.slots with
    | denied res' =>
      rw [hs] at hres
      cases hres
    | added res' slots' =>
      rw [hs] at hres
      obtain rfl : res' = res := Option.some.inj hres
      have hin := search_added hs
      obtain ⟨x, rfl, hx⟩ := search_tries ctx d.q.dtime d.ltime d.base hord hj (by simp) hs
      exact ⟨x, rfl, inTime_iff_tooLate.2 hlate, inTime_iff_tooLate.2 hin, hx⟩

/-- **A granted reservation** has the times of the request at a grantable start. -/
theorem grantable_of_granted {env : DemandEnv} {res? : Option Reservation} {slots : List TimeSlot}
    {restime : Num64} {toolport : UInt16} {res : Reservation} (hnow : env.currtime = some currtime)
    (hord : SlotsOrdered slots) (hj : ∀ u ∈ slots, JumpFits u)
    (hgr : (chldReservationDemand ctx env node res? q slots).reply = .granted restime toolport)
    (hres : (chldReservationDemand ctx env node res? q slots).res = some res) :
    ∃ res0 x, res = q.at res0 x ∧
      Grantable q currtime (latestTime q currtime (getLimit node BWLDLimEventHorizon)) x := by
  cases hclaim : claimReservation env res? q slots with
  | none =>
    rw [chldReservationDemand_unclaimed hclaim] at hgr
    cases hgr
  | some p =>
    obtain ⟨res0, left⟩ := p
    obtain ⟨rfl, -⟩ := Broker.claimReservation_eq_some hclaim
    rw [chldReservationDemand_open hclaim hnow] at hres
    have hleft : SlotsOrdered (slotsWithout slots res?) ∧
        ∀ u ∈ slotsWithout slots res?, JumpFits u := by
      unfold slotsWithout
      split
      · exact ⟨hord, hj⟩
      · refine ⟨resRemove_ordered hord _, fun v hv => ?_⟩
        obtain ⟨u, hu, ⟨-, rfl⟩ | ⟨-, -, rfl⟩⟩ := mem_resRemove.1 hv
        · exact hj v hu
        · exact hj u hu
    exact ⟨res0, OpenDemand.grantable
      (d := ⟨getLimit node BWLDLimEventHorizon, q, currtime, res0, slotsWithout slots res?⟩)
      hleft.1 hleft.2 hres⟩

/-- The demand of a new child. -/
def newDemand (node : PolicyNode) (q : ReservationQuery) (currtime : Num64)
    (slots : List TimeSlot) : OpenDemand where
  hsecs := getLimit node BWLDLimEventHorizon
  q := q
  currtime := currtime
  res := ⟨q.toolId, q.sid, 0, 0, 0, 0, q.sender, q.receiver, 0, 0⟩
  slots := slots

/-- A slot that is full from the seconds of the start `y` on up to the second `n` of the era. -/
def fullSlot (res : Reservation) (n : Nat) : TimeSlot where
  type := .slotAny
  start := min res.resStart res.resEnd
  end_ := n - 2208988800 - 1
  numReservations := 30
  maxReservations := 30

/-- **A full slot** moves the start to any later second. -/
theorem search_fullSlot (ctx : Context) {dtime ltime y x : Num64} {base : Reservation} {n : Nat}
    (hy : 2208988800 * 2 ^ 32 ≤ y.toNat) (hlt : y.toNat < x.toNat) (hn : x.toNat = n * 2 ^ 32)
    (hlate : tooLate ltime (moveTo dtime base y) = false)
    (hlate' : tooLate ltime (moveTo dtime base x) = false) :
    SlotsOrdered [fullSlot (moveTo dtime base y) n] ∧ JumpFits (fullSlot (moveTo dtime base y) n) ∧
      ∃ slots, search ctx dtime ltime none (moveTo dtime base y)
        [fullSlot (moveTo dtime base y) n] = .added (moveTo dtime base x) slots := by
  generalize hu : fullSlot (moveTo dtime base y) n = u
  have hx := x.toNat_lt
  have hustart : u.start = min (moveTo dtime base y).resStart (moveTo dtime base y).resEnd := by
    rw [← hu]; rfl
  have huend : u.end_ = n - 2208988800 - 1 := by rw [← hu]; rfl
  have hstart : (moveTo dtime base y).resStart = (y.toNat / 2 ^ 32 : Nat) - (2208988800 : Int) :=
    num64ToTimestamp_of_le hy
  have hjump : timestampToNum64 (u.end_ + 1) = x := by
    apply UInt64.toNat_inj.1
    rw [huend, timestampToNum64_of_lt (by omega) (by omega)]
    omega
  have hcan : reservationCanUseSlot ctx (moveTo dtime base y) u = false := by
    rw [← hu]
    unfold reservationCanUseSlot
    simp [fullSlot]
  have hfull : visit ctx ltime none (moveTo dtime base y) u [] = .full := by
    unfold visit
    rw [if_neg (by simp [hlate]), if_neg (by omega), if_neg, if_pos hcan]
    rintro ⟨-, hlt⟩
    omega
  have hrest : ∃ slots, search ctx dtime ltime (some u) (moveTo dtime base x) [] =
      .added (moveTo dtime base x) slots := by
    rw [search, if_neg (by rw [hlate']; decide)]
    exact ⟨_, rfl⟩
  obtain ⟨slots, hrest⟩ := hrest
  refine ⟨Ordered.singleton (by omega), by unfold JumpFits; omega, ?_⟩
  rw [search, fixEnd_moveTo, hfull]
  simp only [moveTo_moveTo, hjump, hrest]
  exact ⟨_, rfl⟩

/-- What the search of a new child adds is granted. -/
theorem AllGrants.added {P : Reservation → Prop} (hall : AllGrants ctx node q currtime P)
    {slots : List TimeSlot} {res : Reservation} (hord : SlotsOrdered slots)
    (hj : ∀ u ∈ slots, JumpFits u)
    (hlate : tooLate (newDemand node q currtime slots).ltime
      ((newDemand node q currtime slots).startAt (newDemand node q currtime slots).firstStart) =
        false)
    (hs : ∃ slots', search ctx q.dtime (newDemand node q currtime slots).ltime none
      ((newDemand node q currtime slots).startAt (newDemand node q currtime slots).firstStart)
        slots = .added res slots') : P res := by
  obtain ⟨slots', hs⟩ := hs
  have hopen : chldReservationDemand ctx ⟨some currtime, some 0⟩ node none q slots =
      (newDemand node q currtime slots).outcome ctx := chldReservationDemand_open rfl rfl
  have hs' : search ctx (newDemand node q currtime slots).q.dtime
      (newDemand node q currtime slots).ltime none
      ((newDemand node q currtime slots).startAt (newDemand node q currtime slots).firstStart)
      (newDemand node q currtime slots).slots = .added res slots' := hs
  rw [OpenDemand.outcome_eq, if_neg (by rw [hlate]; decide), hs'] at hopen
  exact hall ⟨some currtime, some 0⟩ none slots rfl hord hj _ _ _ (by rw [hopen]) (by rw [hopen])

/-- **Every grantable start is granted** to a new child on some list of slots. -/
theorem Grantable.granted {x : Num64}
    (h : Grantable q currtime (latestTime q currtime (getLimit node BWLDLimEventHorizon)) x)
    {P : Reservation → Prop} (hall : AllGrants ctx node q currtime P) :
    P (q.at (newDemand node q currtime []).res x) := by
  have hlate : tooLate (newDemand node q currtime []).ltime ((newDemand node q currtime []).startAt
      (newDemand node q currtime []).firstStart) = false := inTime_iff_tooLate.1 h.first
  rcases h.later with hx | ⟨hy, hlt, n, hn⟩
  · refine hall.added (show SlotsOrdered [] from Ordered.nil) (by simp) hlate ?_
    rw [search, if_neg (by rw [hlate]; decide), hx]
    exact ⟨_, rfl⟩
  · obtain ⟨hord, hj, hs⟩ := search_fullSlot ctx hy hlt hn hlate
      (inTime_iff_tooLate.1 h.inTime)
    exact hall.added hord (by simpa using hj) hlate hs

/-- **What holds of every grant** of a demand: a property of the times of a reservation holds of
    every grant exactly when it holds of every grantable start. -/
theorem allGrants_iff {P : Reservation → Prop} {Q : Num64 → Prop}
    (htimes : ∀ res x, P (q.at res x) ↔ Q x) : AllGrants ctx node q currtime P ↔
      ∀ x, Grantable q currtime (latestTime q currtime (getLimit node BWLDLimEventHorizon)) x →
        Q x := by
  constructor
  · exact fun hall x hx => (htimes _ x).1 (hx.granted hall)
  · intro hq env res? slots hnow hord hj restime toolport res hgr hres
    obtain ⟨res0, x, rfl, hx⟩ := grantable_of_granted hnow hord hj hgr hres
    exact (htimes res0 x).2 (hq x hx)

end Grants

end Bwctl
