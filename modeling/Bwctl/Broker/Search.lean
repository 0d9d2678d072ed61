import Bwctl.Broker.Placement

/-!
# What the search for an open slot finds

A start is blocked when some slot that cannot be shared overlaps the seconds of the
reservation from there on.  As long as no time of a start it tries wraps, the search on an
ordered list grants at the earliest start that is not blocked, or gives up at the first start
it tries that is too late.

* `searchFits` — no time the search computes wraps.
* `GrantedAt`, `DeniedAt` — the two ends of a search, in terms of starts and slots.
* `search_spec` — the search ends in one of them.
-/

set_option autoImplicit false

namespace Bwctl

open Intervals

/-- The times of a start do not wrap: it lies after 1970 and its end before the era ends. -/
def StartFits (dtime : Num64) (res : Reservation) : Prop :=
  2208988800 * 2 ^ 32 ≤ res.start.toNat ∧ res.start.toNat + res.fuzz.toNat + dtime.toNat < 2 ^ 64

instance (dtime : Num64) (res : Reservation) : Decidable (StartFits dtime res) :=
  inferInstanceAs (Decidable (_ ∧ _))

/-- The second after a slot has a 32.32 time. -/
def JumpFits (slot : TimeSlot) : Prop := slot.end_ + 1 + 2208988800 < 2 ^ 32

instance (slot : TimeSlot) : Decidable (JumpFits slot) := Int.decLt _ _

/-- None of the times the search computes wraps. -/
def searchFits (ctx : Context) (dtime ltime : Num64) (prevSlot : Option TimeSlot)
    (res : Reservation) : List TimeSlot → Bool
  | [] => decide (StartFits dtime res)
  | slot :: rest =>
    let res := fixEnd dtime res
    decide (StartFits dtime res) &&
    match visit ctx ltime prevSlot res slot rest with
    | .late | .insertBefore | .overlap _ _ => true
    | .skip => searchFits ctx dtime ltime (some slot) res rest
    | .full =>
      decide (JumpFits slot) &&
        searchFits ctx dtime ltime (some slot) (moveTo dtime res (timestampToNum64 (slot.end_ + 1)))
          rest
    | .conflict c =>
      decide (JumpFits c) &&
        searchFits ctx dtime ltime prevSlot (moveTo dtime res (timestampToNum64 (c.end_ + 1))) rest

/-! ## Starts and their seconds -/

section Starts

variable {dtime : Num64} {base : Reservation} {x y : Num64}

@[simp] theorem moveTo_start : (moveTo dtime base x).start = x := rfl

@[simp] theorem moveTo_fuzz : (moveTo dtime base x).fuzz = base.fuzz := rfl

@[simp] theorem moveTo_moveTo : moveTo dtime (moveTo dtime base x) y = moveTo dtime base y := rfl

theorem fixEnd_moveTo : fixEnd dtime (moveTo dtime base x) = moveTo dtime base x := by
  unfold fixEnd
  split <;> rfl

theorem StartFits.of_le (h : StartFits dtime (moveTo dtime base y)) (hxy : x.toNat ≤ y.toNat)
    (hx : 2208988800 * 2 ^ 32 ≤ x.toNat) : StartFits dtime (moveTo dtime base x) := by
  obtain ⟨-, h2⟩ := h
  refine ⟨hx, ?_⟩
  simp only [moveTo_start, moveTo_fuzz] at h2 ⊢
  omega

/-- The first second of a start. -/
theorem resStart_moveTo (h : StartFits dtime (moveTo dtime base x)) :
    (moveTo dtime base x).resStart = (x.toNat / 2 ^ 32 : Nat) - (2208988800 : Int) :=
  num64ToTimestamp_of_le h.1

theorem restime_moveTo (h : StartFits dtime (moveTo dtime base x)) :
    (moveTo dtime base x).restime.toNat = x.toNat + base.fuzz.toNat := by
  obtain ⟨-, h2⟩ := h
  simp only [moveTo_start, moveTo_fuzz] at h2
  exact num64Add_toNat_of_lt (by omega)

theorem end_moveTo (h : StartFits dtime (moveTo dtime base x)) :
    (moveTo dtime base x).end_.toNat = x.toNat + base.fuzz.toNat + dtime.toNat := by
  have h1 := restime_moveTo h
  obtain ⟨-, h2⟩ := h
  simp only [moveTo_start, moveTo_fuzz] at h2
  have h3 := num64Add_toNat_of_lt (x := (moveTo dtime base x).restime) (y := dtime) (by omega)
  rw [← h1]
  exact h3

theorem tooLate_eq_false {ltime : Num64} {res : Reservation} :
    tooLate ltime res = false ↔ ltime = 0 ∨ res.restime.toNat ≤ ltime.toNat := by
  unfold tooLate
  rw [decide_eq_false_iff_not, num64Cmp_pos, not_and_or, not_not, not_lt]

/-- The last second of a start. -/
theorem resEnd_moveTo (h : StartFits dtime (moveTo dtime base x)) :
    (moveTo dtime base x).resEnd =
      ((x.toNat + base.fuzz.toNat + dtime.toNat) / 2 ^ 32 : Nat) - (2208988800 : Int) + 1 := by
  have h1 := end_moveTo h
  have h2 := h.1
  simp only [moveTo_start] at h2
  unfold Reservation.resEnd
  rw [num64ToTimestamp_of_le (by omega), h1]

theorem resStart_le_resEnd (h : StartFits dtime (moveTo dtime base x)) :
    (moveTo dtime base x).resStart ≤ (moveTo dtime base x).resEnd := by
  rw [resStart_moveTo h, resEnd_moveTo h]
  omega

/-- A later start has later seconds. -/
theorem resStart_mono (hx : StartFits dtime (moveTo dtime base x))
    (hy : StartFits dtime (moveTo dtime base y)) (hxy : x.toNat ≤ y.toNat) :
    (moveTo dtime base x).resStart ≤ (moveTo dtime base y).resStart := by
  rw [resStart_moveTo hx, resStart_moveTo hy]
  omega

theorem resEnd_mono (hx : StartFits dtime (moveTo dtime base x))
    (hy : StartFits dtime (moveTo dtime base y)) (hxy : x.toNat ≤ y.toNat) :
    (moveTo dtime base x).resEnd ≤ (moveTo dtime base y).resEnd := by
  rw [resEnd_moveTo hx, resEnd_moveTo hy]
  omega

/-- The second after a slot that ends no earlier than a start lies behind that start. -/
theorem jump_toNat {slot : TimeSlot} (hx : StartFits dtime (moveTo dtime base x))
    (hend : (moveTo dtime base x).resStart ≤ slot.end_) (hj : JumpFits slot) :
    ((timestampToNum64 (slot.end_ + 1)).toNat : Int) = (slot.end_ + 1 + 2208988800) * 2 ^ 32 := by
  have h1 := hx.1
  rw [resStart_moveTo hx] at hend
  simp only [moveTo_start] at h1
  unfold JumpFits at hj
  rw [timestampToNum64_of_lt (by omega) hj]
  omega

theorem lt_jump {slot : TimeSlot} (hx : StartFits dtime (moveTo dtime base x))
    (hend : (moveTo dtime base x).resStart ≤ slot.end_) (hj : JumpFits slot) :
    x.toNat < (timestampToNum64 (slot.end_ + 1)).toNat := by
  have h := jump_toNat hx hend hj
  have h1 := hx.1
  rw [resStart_moveTo hx] at hend
  simp only [moveTo_start] at h1
  omega

/-- The second a jump leads to is the second after the slot. -/
theorem resStart_jump {slot : TimeSlot} (hx : StartFits dtime (moveTo dtime base x))
    (hend : (moveTo dtime base x).resStart ≤ slot.end_) (hj : JumpFits slot)
    (hy : StartFits dtime (moveTo dtime base (timestampToNum64 (slot.end_ + 1)))) :
    (moveTo dtime base (timestampToNum64 (slot.end_ + 1))).resStart = slot.end_ + 1 := by
  have h := jump_toNat hx hend hj
  rw [resStart_moveTo hy]
  omega

/-- A start below a jump still begins no later than the slot ends. -/
theorem resStart_le_of_lt_jump {slot : TimeSlot} (hx : StartFits dtime (moveTo dtime base x))
    (hend : (moveTo dtime base x).resStart ≤ slot.end_) (hj : JumpFits slot)
    (hy : StartFits dtime (moveTo dtime base y))
    (hlt : y.toNat < (timestampToNum64 (slot.end_ + 1)).toNat) :
    (moveTo dtime base y).resStart ≤ slot.end_ := by
  have h := jump_toNat hx hend hj
  have h1 := hy.1
  rw [resStart_moveTo hy]
  simp only [moveTo_start] at h1
  omega

end Starts

/-! ## One iteration -/

section Iteration

variable {ctx : Context} {ltime : Num64} {res : Reservation}

/-- What the loop for `last_slot` finds behind a slot. -/
def OverlapSpec (ctx : Context) (res : Reservation) (e : Int) (rest : List TimeSlot) :
    Overlap → Prop
  | .conflict c => ∃ mid tail, rest = mid ++ c :: tail ∧
      (∀ u ∈ mid, reservationCanUseSlot ctx res u = true) ∧
      reservationCanUseSlot ctx res c = false ∧ c.start ≤ e
  | .run more after => rest = more ++ after ∧
      (∀ u ∈ more, reservationCanUseSlot ctx res u = true ∧ u.start ≤ e) ∧ ∀ u ∈ after, e < u.start

variable (ctx res) in
theorem lastSlotLoop_spec (e : Int) : ∀ {last : TimeSlot} {rest : List TimeSlot},
    SlotsOrdered (last :: rest) → OverlapSpec ctx res e rest (lastSlotLoop ctx res e last rest)
  | _, [], _ => by simp [lastSlotLoop, OverlapSpec]
  | last, next :: rest, hord => by
    obtain ⟨-, hlt, hord'⟩ := Ordered.cons_iff.1 hord
    obtain ⟨hpn, hltn, -⟩ := Ordered.cons_iff.1 hord'
    -- no slot from `next` on starts before `next` does
    have hge : ∀ u ∈ next :: rest, next.start ≤ u.start := fun u hu => by
      rcases List.mem_cons.1 hu with rfl | hu
      · exact le_rfl
      · have := hltn u hu; omega
    have hstop : e < next.start → OverlapSpec ctx res e (next :: rest) (.run [] (next :: rest)) :=
      fun h => ⟨rfl, by simp, fun u hu => lt_of_lt_of_le h (hge u hu)⟩
    unfold lastSlotLoop
    split
    · split
      · exact hstop (by omega)
      · rename_i hstart
        split
        · rename_i hcan
          exact ⟨[], rest, rfl, by simp, hcan, by omega⟩
        · rename_i hcan
          have hcan : reservationCanUseSlot ctx res next = true := by simpa using hcan
          have ih := lastSlotLoop_spec e hord'
          split
          · rename_i c hc
            rw [hc] at ih
            obtain ⟨mid, tail, h1, h2, h3⟩ := ih
            refine ⟨next :: mid, tail, by rw [h1]; rfl, fun u hu => ?_, h3⟩
            rcases List.mem_cons.1 hu with rfl | hu
            · exact hcan
            · exact h2 u hu
          · rename_i more after hrun
            rw [hrun] at ih
            obtain ⟨h1, h2, h3⟩ := ih
            refine ⟨by rw [h1]; rfl, fun u hu => ?_, h3⟩
            rcases List.mem_cons.1 hu with rfl | hu
            · exact ⟨hcan, by omega⟩
            · exact h2 u hu
    · have := hlt next List.mem_cons_self
      exact hstop (by omega)

/-- What one iteration tells about the slots from `slot` on. -/
def VisitSpec (ctx : Context) (ltime : Num64) (res : Reservation) (slot : TimeSlot)
    (rest : List TimeSlot) : Visit → Prop
  | .late => tooLate ltime res = true
  | .skip => tooLate ltime res = false ∧ slot.end_ < res.resStart
  | .insertBefore => tooLate ltime res = false ∧ ∀ u ∈ slot :: rest, res.resEnd < u.start
  | .full => tooLate ltime res = false ∧ slot.Meets res.resStart res.resEnd ∧
      reservationCanUseSlot ctx res slot = false
  | .conflict c => tooLate ltime res = false ∧ slot.end_ < c.start ∧
      c.Meets res.resStart res.resEnd ∧ reservationCanUseSlot ctx res c = false ∧
      ∃ mid tail, slot :: rest = mid ++ c :: tail ∧
        ∀ u ∈ mid, reservationCanUseSlot ctx res u = true
  | .overlap more after => tooLate ltime res = false ∧ rest = more ++ after ∧
      (∀ u ∈ slot :: more, u.Meets res.resStart res.resEnd ∧
        reservationCanUseSlot ctx res u = true) ∧ ∀ u ∈ after, res.resEnd < u.start

variable (ctx ltime) in
theorem visit_spec {prevSlot : Option TimeSlot} {slot : TimeSlot} {rest : List TimeSlot}
    (hord : SlotsOrdered (slot :: rest)) (hprev : ∀ p ∈ prevSlot, p.end_ < res.resStart) :
    VisitSpec ctx ltime res slot rest (visit ctx ltime prevSlot res slot rest) := by
  obtain ⟨hp, hlt, hord'⟩ := Ordered.cons_iff.1 hord
  unfold visit
  split
  · rename_i hlate; exact hlate
  rename_i hlate
  have hlate : tooLate ltime res = false := by simpa using hlate
  split
  · exact ⟨hlate, by omega⟩
  rename_i hend
  split
  · rename_i hins
    refine ⟨hlate, fun u hu => ?_⟩
    rcases List.mem_cons.1 hu with rfl | hu
    · omega
    · have := hlt u hu; omega
  rename_i hins
  have hstart : slot.start ≤ res.resEnd := by
    by_contra hgt
    exact hins ⟨fun p hp => by have := hprev p hp; omega, by omega⟩
  split
  · rename_i hcan
    exact ⟨hlate, ⟨hstart, by omega⟩, hcan⟩
  rename_i hcan
  have hcan : reservationCanUseSlot ctx res slot = true := by simpa using hcan
  have hloop := lastSlotLoop_spec ctx res res.resEnd hord
  split
  · rename_i c hc
    rw [hc] at hloop
    obtain ⟨mid, tail, h1, h2, h3, h4⟩ := hloop
    have hcm : c ∈ rest := by rw [h1]; simp
    have hsc := hlt c hcm
    have hpc := hord'.proper c hcm
    refine ⟨hlate, hsc, ⟨h4, by omega⟩, h3, slot :: mid, tail, by rw [h1]; rfl, fun u hu => ?_⟩
    rcases List.mem_cons.1 hu with rfl | hu
    · exact hcan
    · exact h2 u hu
  · rename_i more after hrun
    rw [hrun] at hloop
    obtain ⟨h1, h2, h3⟩ := hloop
    refine ⟨hlate, h1, fun u hu => ?_, h3⟩
    rcases List.mem_cons.1 hu with rfl | hu
    · exact ⟨⟨hstart, by omega⟩, hcan⟩
    · have hur : u ∈ rest := by rw [h1]; exact List.mem_append_left _ hu
      have h4 := hlt u hur
      have h5 := hord'.proper u hur
      exact ⟨⟨(h2 u hu).2, by omega⟩, (h2 u hu).1⟩

end Iteration

/-! ## The whole search -/

section Outcome

variable (ctx : Context) (dtime ltime : Num64) (base : Reservation)

/-- A slot that cannot be shared overlaps the seconds of the start `x`. -/
def Blocked (slots : List TimeSlot) (x : Num64) : Prop :=
  ∃ u ∈ slots, reservationCanUseSlot ctx base u = false ∧
    u.Meets (moveTo dtime base x).resStart (moveTo dtime base x).resEnd

/-- The starts a search may try: the first one, and the second after a slot that cannot be
    shared. -/
def Candidate (slots : List TimeSlot) (s0 x : Num64) : Prop :=
  x = s0 ∨ ∃ u ∈ slots, reservationCanUseSlot ctx base u = false ∧
    (x.toNat : Int) = (u.end_ + 1 + 2208988800) * 2 ^ 32

/-- `x` is the earliest start from `s0` on that is not blocked, and it is in time. -/
structure GrantedAt (slots : List TimeSlot) (s0 x : Num64) : Prop where
  ge : s0.toNat ≤ x.toNat
  inTime : tooLate ltime (moveTo dtime base x) = false
  free : ¬ Blocked ctx dtime base slots x
  earliest : ∀ y : Num64, s0.toNat ≤ y.toNat → y.toNat < x.toNat → Blocked ctx dtime base slots y

/-- `x` is the first candidate from `s0` on that is too late, and every earlier start is blocked. -/
structure DeniedAt (slots : List TimeSlot) (s0 x : Num64) : Prop where
  ge : s0.toNat ≤ x.toNat
  candidate : Candidate ctx base slots s0 x
  late : tooLate ltime (moveTo dtime base x) = true
  blocked : ∀ y : Num64, s0.toNat ≤ y.toNat → y.toNat < x.toNat → Blocked ctx dtime base slots y
  first : ∀ y : Num64, s0.toNat ≤ y.toNat → y.toNat < x.toNat →
    Candidate ctx base slots s0 y → tooLate ltime (moveTo dtime base y) = false

/-- What the end of a search means. -/
def SearchSpec (slots : List TimeSlot) (s0 : Num64) : SearchResult → Prop
  | .denied res => ∃ x, res = moveTo dtime base x ∧ StartFits dtime res ∧
      DeniedAt ctx dtime ltime base slots s0 x
  | .added res slots' => ∃ x, res = moveTo dtime base x ∧ StartFits dtime res ∧
      GrantedAt ctx dtime ltime base slots s0 x ∧ Inserted ctx res slots slots'

end Outcome

section Induction

variable {ctx : Context} {dtime ltime : Num64} {base : Reservation} {slots rest : List TimeSlot}
  {slot : TimeSlot} {s0 s1 x y : Num64} {r : SearchResult}

theorem Blocked.mono (h : Blocked ctx dtime base rest x) (hsub : ∀ u ∈ rest, u ∈ slots) :
    Blocked ctx dtime base slots x := by
  obtain ⟨u, hu, h⟩ := h
  exact ⟨u, hsub u hu, h⟩

/-- At most one start is the one a search gives up at. -/
theorem DeniedAt.unique (hx : DeniedAt ctx dtime ltime base slots s0 x)
    (hy : DeniedAt ctx dtime ltime base slots s0 y) : x = y := by
  rcases lt_trichotomy x.toNat y.toNat with hlt | heq | hgt
  · have := hy.first x hx.ge hlt hx.candidate
    rw [hx.late] at this; cases this
  · exact UInt64.toNat_inj.1 heq
  · have := hx.first y hy.ge hgt hy.candidate
    rw [hy.late] at this; cases this

/-- At most one start is the one a search grants. -/
theorem GrantedAt.unique (hx : GrantedAt ctx dtime ltime base slots s0 x)
    (hy : GrantedAt ctx dtime ltime base slots s0 y) : x = y := by
  rcases lt_trichotomy x.toNat y.toNat with hlt | heq | hgt
  · exact absurd (hy.earliest x hx.ge hlt) hx.free
  · exact UInt64.toNat_inj.1 heq
  · exact absurd (hx.earliest y hy.ge hgt) hy.free

/-- A start that is granted is not given up: a later start is no less late. -/
theorem GrantedAt.not_deniedAt (hx : GrantedAt ctx dtime ltime base slots s0 x)
    (hfit : StartFits dtime (moveTo dtime base x))
    (hy : DeniedAt ctx dtime ltime base slots s0 y) : False := by
  have hin := hx.inTime
  rcases lt_trichotomy y.toNat x.toNat with hlt | heq | hgt
  · have hrx := restime_moveTo hfit
    have hry : (moveTo dtime base y).restime.toNat = y.toNat + base.fuzz.toNat := by
      have h2 := hfit.2
      simp only [moveTo_start, moveTo_fuzz] at h2
      exact num64Add_toNat_of_lt (by omega)
    have hyin : tooLate ltime (moveTo dtime base y) = false := by
      rw [tooLate_eq_false] at hin ⊢
      exact hin.imp_right fun h => by omega
    rw [hy.late] at hyin; cases hyin
  · rw [← UInt64.toNat_inj.1 heq, hy.late] at hin; cases hin
  · exact hx.free (hy.blocked x hx.ge hgt)

/-- A search that skips a slot which ends before the start. -/
theorem SearchSpec.skip (hfit : StartFits dtime (moveTo dtime base s0))
    (hend : slot.end_ < (moveTo dtime base s0).resStart)
    (h : SearchSpec ctx dtime ltime base rest s0 r) :
    SearchSpec ctx dtime ltime base (slot :: rest) s0 (r.behind slot) := by
  cases r with
  | denied res =>
    obtain ⟨x, rfl, hfx, hd⟩ := h
    refine ⟨x, rfl, hfx, hd.ge, ?_, hd.late,
      fun y h1 h2 => (hd.blocked y h1 h2).mono fun u hu => List.mem_cons_of_mem _ hu,
      fun y h1 h2 hc => hd.first y h1 h2 ?_⟩
    · rcases hd.candidate with h0 | ⟨u, hu, h0⟩
      · exact Or.inl h0
      · exact Or.inr ⟨u, List.mem_cons_of_mem _ hu, h0⟩
    · rcases hc with h0 | ⟨u, hu, hcan, htime⟩
      · exact Or.inl h0
      · rcases List.mem_cons.1 hu with rfl | hu
        · have h3 := hfit.1
          rw [resStart_moveTo hfit] at hend
          simp only [moveTo_start] at h3
          exact Or.inl (UInt64.toNat_inj.1 (by omega))
        · exact Or.inr ⟨u, hu, hcan, htime⟩
  | added res slots' =>
    obtain ⟨x, rfl, hfx, hg, hins⟩ := h
    have hend' := lt_of_lt_of_le hend (resStart_mono hfit hfx hg.ge)
    refine ⟨x, rfl, hfx, ⟨hg.ge, hg.inTime, ?_, fun y h1 h2 =>
      (hg.earliest y h1 h2).mono fun u hu => List.mem_cons_of_mem _ hu⟩, hins.cons hend'⟩
    rintro ⟨u, hu, hcan, hmeet⟩
    rcases List.mem_cons.1 hu with rfl | hu
    · have := hmeet.2; omega
    · exact hg.free ⟨u, hu, hcan, hmeet⟩

/-- A search that moves the start behind the first slot `c` it cannot share. -/
theorem SearchSpec.jump {c : TimeSlot} (hfit : StartFits dtime (moveTo dtime base s0))
    (hlate : tooLate ltime (moveTo dtime base s0) = false) (hc : c ∈ slot :: rest)
    (hcan : reservationCanUseSlot ctx base c = false)
    (hmeet : c.Meets (moveTo dtime base s0).resStart (moveTo dtime base s0).resEnd)
    (hslot : slot.end_ ≤ c.end_)
    (hfirst : ∀ u ∈ slot :: rest, reservationCanUseSlot ctx base u = false → c.end_ ≤ u.end_)
    (hj : JumpFits c) (hfit1 : StartFits dtime (moveTo dtime base (timestampToNum64 (c.end_ + 1))))
    (h : SearchSpec ctx dtime ltime base rest (timestampToNum64 (c.end_ + 1)) r) :
    SearchSpec ctx dtime ltime base (slot :: rest) s0 (r.behind slot) := by
  have hjump := jump_toNat hfit hmeet.2 hj
  have hlt := lt_jump hfit hmeet.2 hj
  have hstart1 := resStart_jump hfit hmeet.2 hj hfit1
  generalize hs1 : timestampToNum64 (c.end_ + 1) = s1 at *
  -- every start up to the jump is blocked by `c`
  have hblock : ∀ y : Num64, s0.toNat ≤ y.toNat → y.toNat < s1.toNat →
      Blocked ctx dtime base (slot :: rest) y := fun y h1 h2 => by
    have hfy : StartFits dtime (moveTo dtime base y) :=
      hfit1.of_le h2.le (by have := hfit.1; simp only [moveTo_start] at this; omega)
    exact ⟨c, hc, hcan, hmeet.1.trans (resEnd_mono hfit hfy h1),
      resStart_le_of_lt_jump hfit hmeet.2 hj hfy (by rw [hs1]; exact h2)⟩
  have hblock' : ∀ {x : Num64}, (∀ y : Num64, s1.toNat ≤ y.toNat → y.toNat < x.toNat →
      Blocked ctx dtime base rest y) → ∀ y : Num64, s0.toNat ≤ y.toNat → y.toNat < x.toNat →
      Blocked ctx dtime base (slot :: rest) y := fun hb y h1 h2 => by
    by_cases hy : y.toNat < s1.toNat
    · exact hblock y h1 hy
    · exact (hb y (by omega) h2).mono fun u hu => List.mem_cons_of_mem _ hu
  cases r with
  | denied res =>
    obtain ⟨x, rfl, hfx, hd⟩ := h
    have hge := hd.ge
    refine ⟨x, rfl, hfx, by omega, ?_, hd.late, hblock' hd.blocked, fun y h1 h2 hcd => ?_⟩
    · rcases hd.candidate with rfl | ⟨u, hu, h0⟩
      · exact Or.inr ⟨c, hc, hcan, hjump⟩
      · exact Or.inr ⟨u, List.mem_cons_of_mem _ hu, h0⟩
    · rcases hcd with rfl | ⟨u, hu, hucan, htime⟩
      · exact hlate
      -- a candidate below the jump would come from a slot that ends before `c` does
      have hcu := hfirst u hu hucan
      have hsy : s1.toNat ≤ y.toNat := by omega
      refine hd.first y hsy h2 ?_
      rcases List.mem_cons.1 hu with rfl | hu
      · exact Or.inl (UInt64.toNat_inj.1 (by omega))
      · exact Or.inr ⟨u, hu, hucan, htime⟩
  | added res slots' =>
    obtain ⟨x, rfl, hfx, hg, hins⟩ := h
    have hge := hg.ge
    have hmono := resStart_mono hfit1 hfx hge
    refine ⟨x, rfl, hfx, ⟨by omega, hg.inTime, ?_, hblock' hg.earliest⟩, hins.cons (by omega)⟩
    rintro ⟨u, hu, hucan, humeet⟩
    rcases List.mem_cons.1 hu with rfl | hu
    · have := humeet.2; omega
    · exact hg.free ⟨u, hu, hucan, humeet⟩

/-- The start a search begins with is one of those it tries. -/
theorem searchFits_start {prevSlot : Option TimeSlot} :
    ∀ {slots : List TimeSlot},
      searchFits ctx dtime ltime prevSlot (moveTo dtime base s0) slots = true →
        StartFits dtime (moveTo dtime base s0)
  | [], h => by simpa [searchFits] using h
  | slot :: rest, h => by
    rw [searchFits, fixEnd_moveTo, Bool.and_eq_true] at h
    simpa using h.1

variable (ctx ltime) in
/-- **The search ends at the earliest start that is not blocked, or at the first start it tries
    that is too late.** -/
theorem search_spec : ∀ {slots : List TimeSlot} (prevSlot : Option TimeSlot) {s0 : Num64},
    SlotsOrdered slots → (∀ p ∈ prevSlot, p.end_ < (moveTo dtime base s0).resStart) →
    searchFits ctx dtime ltime prevSlot (moveTo dtime base s0) slots = true →
    SearchSpec ctx dtime ltime base slots s0
      (search ctx dtime ltime prevSlot (moveTo dtime base s0) slots)
  | [], prevSlot, s0, _, _, hfits => by
    have hfit := searchFits_start hfits
    unfold search
    split
    · rename_i hlate
      exact ⟨s0, rfl, hfit, le_rfl, Or.inl rfl, hlate, fun y h1 h2 => by omega,
        fun y h1 h2 => by omega⟩
    · rename_i hlate
      refine ⟨s0, rfl, hfit, ⟨le_rfl, by simpa using hlate, ?_, fun y h1 h2 => by omega⟩,
        [], [], [], rfl, rfl, by simp, by simp, by simp⟩
      rintro ⟨u, hu, -⟩
      cases hu
  | slot :: rest, prevSlot, s0, hord, hprev, hfits => by
    have hvisit := visit_spec ctx ltime hord hprev
    obtain ⟨hp, hlt, hord'⟩ := Ordered.cons_iff.1 hord
    have hfit := searchFits_start hfits
    rw [searchFits, fixEnd_moveTo, Bool.and_eq_true] at hfits
    replace hfits := hfits.2
    rw [search, fixEnd_moveTo]
    generalize hv : visit ctx ltime prevSlot (moveTo dtime base s0) slot rest = v at *
    cases v with
    | late =>
      exact ⟨s0, rfl, hfit, le_rfl, Or.inl rfl, hvisit, fun y h1 h2 => by omega,
        fun y h1 h2 => by omega⟩
    | skip =>
      exact SearchSpec.skip hfit hvisit.2
        (search_spec _ hord' (by rintro p ⟨⟩; exact hvisit.2) hfits)
    | insertBefore =>
      refine ⟨s0, rfl, hfit, ⟨le_rfl, hvisit.1, ?_, fun y h1 h2 => by omega⟩,
        [], [], slot :: rest, rfl, rfl, by simp, by simp, hvisit.2⟩
      rintro ⟨u, hu, -, hmeet⟩
      have := hvisit.2 u hu
      have := hmeet.1
      omega
    | full =>
      obtain ⟨hlate, hmeet, hcan⟩ := hvisit
      rw [Bool.and_eq_true, decide_eq_true_eq, moveTo_moveTo] at hfits
      obtain ⟨hj, hfits⟩ := hfits
      have hfit1 := searchFits_start hfits
      refine SearchSpec.jump hfit hlate List.mem_cons_self hcan hmeet le_rfl (fun u hu _ => ?_) hj
        hfit1 (search_spec _ hord' ?_ hfits)
      · rcases List.mem_cons.1 hu with rfl | hu
        · exact le_rfl
        · have h1 := hlt u hu
          have h2 := hord'.proper u hu
          omega
      · rintro p ⟨⟩
        rw [resStart_jump hfit hmeet.2 hj hfit1]
        omega
    | conflict c =>
      obtain ⟨hlate, hsc, hmeet, hcan, mid, tail, heq, hmid⟩ := hvisit
      rw [Bool.and_eq_true, decide_eq_true_eq, moveTo_moveTo] at hfits
      obtain ⟨hj, hfits⟩ := hfits
      have hfit1 := searchFits_start hfits
      have hc : c ∈ slot :: rest := by rw [heq]; simp
      have hpc := hord.proper c hc
      refine SearchSpec.jump hfit hlate hc hcan hmeet (by omega) (fun u hu hucan => ?_) hj
        hfit1 (search_spec _ hord' ?_ hfits)
      · rw [heq] at hu hord
        obtain ⟨-, hct, -⟩ := Ordered.append_iff.1 hord
        obtain ⟨-, hltc, hordt⟩ := Ordered.cons_iff.1 hct
        rcases List.mem_append.1 hu with hu | hu
        · have hum := hmid u hu
          have hucan' : reservationCanUseSlot ctx (moveTo dtime base s0) u = false := hucan
          rw [hucan'] at hum; cases hum
        · rcases List.mem_cons.1 hu with rfl | hu
          · exact le_rfl
          · have h1 := hltc u hu
            have h2 := hordt.proper u hu
            omega
      · intro p hp
        rw [resStart_jump hfit hmeet.2 hj hfit1]
        have := hprev p hp
        have := hmeet.2
        omega
    | overlap more after =>
      obtain ⟨hlate, heq, hmeet, hafter⟩ := hvisit
      refine ⟨s0, rfl, hfit, ⟨le_rfl, hlate, ?_, fun y h1 h2 => by omega⟩,
        [], slot :: more, after, by rw [heq]; rfl, rfl, by simp, hmeet, hafter⟩
      rintro ⟨u, hu, hcan, hm⟩
      rw [heq, ← List.cons_append] at hu
      rcases List.mem_append.1 hu with hu | hu
      · have h1 := (hmeet u hu).2
        have hcan' : reservationCanUseSlot ctx (moveTo dtime base s0) u = false := hcan
        rw [hcan'] at h1; cases h1
      · have h1 := hafter u hu
        have h2 := hm.1
        omega

end Induction

end Bwctl
