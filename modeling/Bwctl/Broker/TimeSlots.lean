import Bwctl.Time

/-!
# Time slots and reservations of the broker (`bwctld/bwctldP.h`, `bwctld/bwctld.c`)

The broker keeps one list of time slots on whole seconds.  A slot counts the reservations
that use it and remembers the kind of test that forbids sharing.  Reservations keep their
times as 32.32 values; `resStart` and `resEnd` are the seconds the slots see.

* `timeSlotAddReservation`, `timeSlotCreate`, `timeSlotSplit` — the edits of a single slot.
* `timeSlotHasReservation` — the overlap test of `ResRemove`.
* `resRemove` — the removal of a reservation from the list.
* `reservationCanUseSlot` — which kinds of tests share a slot.
-/

set_option autoImplicit false

namespace Bwctl

abbrev BWLToolType := UInt32

/-- `BWLSID`, 16 octets. -/
abbrev SID := Vector UInt8 16

/-- `memcmp(sid,cstate->res->sid,sizeof(sid))` finds no difference.  `sid` is an array
    parameter, so `sizeof` is the size of a pointer and eight octets are compared. -/
def sidCmp (sid sid' : SID) : Bool := sid.toList.take 8 == sid'.toList.take 8

/-- `BWLTestType`. -/
inductive TestType where
  | undefined
  | throughput
  | latency
  | traceroute
  deriving DecidableEq, Repr

/-- The `tool_list` of a context: tool identifiers with their `test_types`. -/
structure Context where
  toolList : List (BWLToolType × TestType)

/-- `BWLToolGetTestTypesByID`. -/
def toolGetTestTypesByID (ctx : Context) (toolId : BWLToolType) : TestType :=
  match ctx.toolList.find? (fun t => toolId == t.1) with
  | some t => t.2
  | none => .undefined

/-- `time_slot_types`. -/
inductive SlotType where
  | slotAny
  | slotBandwidth
  | slotLatency
  deriving DecidableEq, Repr

/-- `TimeSlotRec`; the slot takes in its first and its last second. -/
structure TimeSlot where
  type : SlotType
  start : Int
  end_ : Int
  numReservations : Int
  maxReservations : Int
  deriving DecidableEq, Repr

/-- `ReservationRec`. -/
structure Reservation where
  tool : BWLToolType
  sid : SID
  restime : Num64
  start : Num64
  end_ : Num64
  fuzz : Num64
  sender : String
  receiver : String
  duration : UInt32
  toolport : UInt16
  deriving DecidableEq

/-- `res_start`: the first second of a reservation. -/
def Reservation.resStart (res : Reservation) : Int := num64ToTimestamp res.start

/-- `res_end`: the last second of a reservation. -/
def Reservation.resEnd (res : Reservation) : Int := num64ToTimestamp res.end_ + 1

/-- The kind of test a reservation is for. -/
def Reservation.testType (ctx : Context) (res : Reservation) : TestType :=
  toolGetTestTypesByID ctx res.tool

/-- The seconds a reservation covers. -/
def Reservation.Covers (res : Reservation) (t : Int) : Prop := res.resStart ≤ t ∧ t ≤ res.resEnd

instance (res : Reservation) (t : Int) : Decidable (res.Covers t) :=
  inferInstanceAs (Decidable (_ ∧ _))

/-- The seconds of a slot. -/
def TimeSlot.Holds (slot : TimeSlot) (t : Int) : Prop := slot.start ≤ t ∧ t ≤ slot.end_

instance (slot : TimeSlot) (t : Int) : Decidable (slot.Holds t) :=
  inferInstanceAs (Decidable (_ ∧ _))

/-! ## Edits of one slot -/

/-- The type a slot has after a test of this kind was added. -/
def slotTypeAfter (testType : TestType) (type : SlotType) : SlotType :=
  match testType with
  | .throughput => .slotBandwidth
  | .latency => .slotLatency
  | _ => type

/-- `TimeSlotAddReservation`. -/
def timeSlotAddReservation (ctx : Context) (slot : TimeSlot) (res : Reservation) : TimeSlot :=
  { slot with
    type := slotTypeAfter (res.testType ctx) slot.type
    numReservations := slot.numReservations + 1 }

/-- `TimeSlotCreate`. -/
def timeSlotCreate (ctx : Context) (res : Reservation) (start end_ : Int) : TimeSlot :=
  timeSlotAddReservation ctx ⟨.slotAny, start, end_, 0, 30⟩ res

/-- `TimeSlotSplit`: the old slot, cut short, and the new one.  The new slot comes from
    `calloc`, so its type is `SLOT_ANY` whatever the type of the old one. -/
def timeSlotSplit (slot : TimeSlot) (time : Int) : TimeSlot × TimeSlot :=
  ({ slot with end_ := time - 1 },
   ⟨.slotAny, time, slot.end_, slot.numReservations, slot.maxReservations⟩)

/-- `TimeSlotHasReservation`. -/
def timeSlotHasReservation (slot : TimeSlot) (res : Reservation) : Bool :=
  if slot.start - res.resEnd > 0 then false
  else if slot.end_ - res.resStart < 0 then false
  else true

/-- `TimeSlotRemoveReservation`. -/
def timeSlotRemoveReservation (slot : TimeSlot) : TimeSlot :=
  { slot with numReservations := slot.numReservations - 1 }

/-- The body of the loop of `ResRemove`; `none` when the slot is taken off the list. -/
def resRemoveSlot (res : Reservation) (slot : TimeSlot) : Option TimeSlot :=
  if timeSlotHasReservation slot res = false then some slot
  else
    let slot := timeSlotRemoveReservation slot
    if slot.numReservations = 0 then none else some slot

/-- `ResRemove`. -/
def resRemove (slots : List TimeSlot) (res : Reservation) : List TimeSlot :=
  slots.filterMap (resRemoveSlot res)

/-- `ReservationCanUseSlot`. -/
def reservationCanUseSlot (ctx : Context) (res : Reservation) (slot : TimeSlot) : Bool :=
  if res.testType ctx = .throughput ∧ slot.type = .slotBandwidth then false
  else if res.testType ctx = .throughput ∧ slot.type = .slotLatency then false
  else if res.testType ctx = .latency ∧ slot.type = .slotBandwidth then false
  else if slot.numReservations = slot.maxReservations then false
  else true

/-! ## Their effects -/

section Effects

variable {ctx : Context} {slot slot' : TimeSlot} {slots : List TimeSlot} {res : Reservation}

theorem hasReservation_iff :
    timeSlotHasReservation slot res = true ↔ slot.start ≤ res.resEnd ∧ res.resStart ≤ slot.end_ := by
  unfold timeSlotHasReservation
  split
  · simp; omega
  · split
    · simp; omega
    · simp; omega

theorem hasReservation_eq_false :
    timeSlotHasReservation slot res = false ↔ res.resEnd < slot.start ∨ slot.end_ < res.resStart := by
  rw [← Bool.not_eq_true, hasReservation_iff]
  omega

/-- A slot that holds a second of the reservation overlaps it. -/
theorem hasReservation_of_covers {t : Int} (hs : slot.Holds t) (hr : res.Covers t) :
    timeSlotHasReservation slot res = true :=
  hasReservation_iff.2 ⟨le_trans hs.1 hr.2, le_trans hr.1 hs.2⟩

@[simp] theorem addReservation_start : (timeSlotAddReservation ctx slot res).start = slot.start := rfl

@[simp] theorem addReservation_end : (timeSlotAddReservation ctx slot res).end_ = slot.end_ := rfl

@[simp] theorem addReservation_num :
    (timeSlotAddReservation ctx slot res).numReservations = slot.numReservations + 1 := rfl

@[simp] theorem addReservation_max :
    (timeSlotAddReservation ctx slot res).maxReservations = slot.maxReservations := rfl

@[simp] theorem addReservation_type :
    (timeSlotAddReservation ctx slot res).type = slotTypeAfter (res.testType ctx) slot.type := rfl

@[simp] theorem create_start (a b : Int) : (timeSlotCreate ctx res a b).start = a := rfl

@[simp] theorem create_end (a b : Int) : (timeSlotCreate ctx res a b).end_ = b := rfl

@[simp] theorem create_num (a b : Int) : (timeSlotCreate ctx res a b).numReservations = 1 := rfl

@[simp] theorem create_max (a b : Int) : (timeSlotCreate ctx res a b).maxReservations = 30 := rfl

@[simp] theorem create_type (a b : Int) :
    (timeSlotCreate ctx res a b).type = slotTypeAfter (res.testType ctx) .slotAny := rfl

theorem canUse_num (h : reservationCanUseSlot ctx res slot = true) :
    slot.numReservations ≠ slot.maxReservations := by
  unfold reservationCanUseSlot at h
  intro heq
  simp [heq] at h

/-- Where a throughput test fits no other typed test is booked. -/
theorem canUse_throughput (h : reservationCanUseSlot ctx res slot = true)
    (ht : res.testType ctx = .throughput) : slot.type = .slotAny := by
  unfold reservationCanUseSlot at h
  cases hty : slot.type with
  | slotAny => rfl
  | slotBandwidth => simp [ht, hty] at h
  | slotLatency => simp [ht, hty] at h

/-- Where a latency test fits no throughput test is booked. -/
theorem canUse_latency (h : reservationCanUseSlot ctx res slot = true)
    (ht : res.testType ctx = .latency) : slot.type ≠ .slotBandwidth := by
  unfold reservationCanUseSlot at h
  intro hty
  simp [ht, hty] at h

/-- A slot that is left by `ResRemove`: untouched, or counted down and not empty. -/
theorem resRemoveSlot_eq_some :
    resRemoveSlot res slot = some slot' ↔
      (timeSlotHasReservation slot res = false ∧ slot' = slot) ∨
      (timeSlotHasReservation slot res = true ∧ slot.numReservations ≠ 1 ∧
        slot' = timeSlotRemoveReservation slot) := by
  have hnum : (timeSlotRemoveReservation slot).numReservations = 0 ↔ slot.numReservations = 1 := by
    simp only [timeSlotRemoveReservation]; omega
  unfold resRemoveSlot
  cases h : timeSlotHasReservation slot res with
  | false => simp [eq_comm]
  | true => by_cases h1 : slot.numReservations = 1 <;> simp [hnum, h1, eq_comm]

theorem resRemoveSlot_eq_none :
    resRemoveSlot res slot = none ↔
      timeSlotHasReservation slot res = true ∧ slot.numReservations = 1 := by
  have hnum : (timeSlotRemoveReservation slot).numReservations = 0 ↔ slot.numReservations = 1 := by
    simp only [timeSlotRemoveReservation]; omega
  unfold resRemoveSlot
  cases h : timeSlotHasReservation slot res with
  | false => simp
  | true => by_cases h1 : slot.numReservations = 1 <;> simp [hnum, h1]

theorem mem_resRemove :
    slot' ∈ resRemove slots res ↔ ∃ slot ∈ slots,
      (timeSlotHasReservation slot res = false ∧ slot' = slot) ∨
      (timeSlotHasReservation slot res = true ∧ slot.numReservations ≠ 1 ∧
        slot' = timeSlotRemoveReservation slot) := by
  simp only [resRemove, List.mem_filterMap, resRemoveSlot_eq_some]

/-- A reservation that overlaps no slot leaves the list as it is. -/
theorem resRemove_eq_self (h : ∀ slot ∈ slots, timeSlotHasReservation slot res = false) :
    resRemove slots res = slots := by
  have hsome : ∀ slot ∈ slots, resRemoveSlot res slot = some slot := fun slot hs =>
    resRemoveSlot_eq_some.2 (Or.inl ⟨h slot hs, rfl⟩)
  unfold resRemove
  rw [List.filterMap_congr hsome, List.filterMap_some]

end Effects

end Bwctl
