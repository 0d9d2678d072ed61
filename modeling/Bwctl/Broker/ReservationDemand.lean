import Bwctl.Broker.TimeSlots
import Bwctl.Policy.Limits

/-!
# Reservation demands (`ChldReservationDemand`)

A demand takes the child's earlier reservation off the list, computes the earliest start and
the latest time, and walks the slot list.  At each slot it skips ahead, inserts a new slot in
front, moves the start behind a slot it cannot share, or shares every slot it overlaps.  A
demand that runs past the latest time is denied, and the denial deletes the reservation.

* `visit` — what one iteration of the search decides.
* `place` — the edits around the overlapped slots.
* `search` — the search over the list.
* `chldReservationDemand` — the whole demand.
-/

set_option autoImplicit false

namespace Bwctl

/-- What a child sends in a reservation query. -/
structure ReservationQuery where
  sid : SID
  rtime : Num64
  ftime : Num64
  ltime : Num64
  duration : UInt32
  rtttime : Num64
  toolport : UInt16
  toolId : BWLToolType
  sender : String
  receiver : String
  deriving DecidableEq

/-- What the demand reads from outside: `BWLGetTimeStamp`, and the port `BWLToolInitTest`
    returns, if each succeeds. -/
structure DemandEnv where
  currtime : Option Num64
  initTest : Option UInt16
  deriving DecidableEq

/-! ## The search for an open slot -/

section Search

variable (ctx : Context) (dtime ltime : Num64)

/-- `res->start = start`, with `restime` and `end` recomputed from it. -/
def moveTo (res : Reservation) (start : Num64) : Reservation :=
  let restime := num64Add start res.fuzz
  { res with start := start, restime := restime, end_ := num64Add restime dtime }

/-- "Make sure the reservation time, and end time matches what's expected". -/
def fixEnd (res : Reservation) : Reservation :=
  if num64Cmp res.end_ res.start ≤ 0 then moveTo dtime res res.start else res

/-- `ltime && (BWLNum64Cmp(res->restime,ltime) > 0)`. -/
def tooLate (res : Reservation) : Bool := decide (ltime ≠ 0 ∧ num64Cmp res.restime ltime > 0)

/-- The slots after the first overlapped one: a slot that cannot be shared, or the further
    overlapped slots and the slots behind them. -/
inductive Overlap where
  | conflict (slot : TimeSlot)
  | run (more after : List TimeSlot)

/-- The `while` loop that looks for `last_slot`. -/
def lastSlotLoop (res : Reservation) (resEnd : Int) (lastSlot : TimeSlot) :
    List TimeSlot → Overlap
  | [] => .run [] []
  | nextSlot :: rest =>
    if lastSlot.end_ - resEnd ≤ 0 then
      if resEnd - nextSlot.start < 0 then .run [] (nextSlot :: rest)
      else if reservationCanUseSlot ctx res nextSlot = false then .conflict nextSlot
      else
        match lastSlotLoop res resEnd nextSlot rest with
        | .conflict slot => .conflict slot
        | .run more after => .run (nextSlot :: more) after
    else .run [] (nextSlot :: rest)

/-- What one iteration of the search finds at a slot. -/
inductive Visit where
  | late
  | skip
  | insertBefore
  | full
  | conflict (slot : TimeSlot)
  | overlap (more after : List TimeSlot)

/-- The tests of one iteration, in the order of the source. -/
def visit (prevSlot : Option TimeSlot) (res : Reservation) (slot : TimeSlot)
    (rest : List TimeSlot) : Visit :=
  if tooLate ltime res then .late
  else if slot.end_ - res.resStart < 0 then .skip
  else if (∀ prev ∈ prevSlot, prev.end_ - res.resStart < 0) ∧ res.resEnd - slot.start < 0 then
    .insertBefore
  else if reservationCanUseSlot ctx res slot = false then .full
  else
    match lastSlotLoop ctx res res.resEnd slot rest with
    | .conflict c => .conflict c
    | .run more after => .overlap more after

/-- `first_slot`: the slot or its second half, with what is left or created before it. -/
def openFirstSlot (res : Reservation) (resStart : Int) (first : TimeSlot) :
    List TimeSlot × TimeSlot :=
  if first.start - resStart < 0 then
    let halves := timeSlotSplit first resStart
    ([halves.1], halves.2)
  else if resStart - first.start < 0 then
    ([timeSlotCreate ctx res resStart (first.start - 1)], first)
  else ([], first)

/-- `last_slot`: the slot or its first half, with what is left or created behind it. -/
def closeLastSlot (res : Reservation) (resEnd : Int) (last : TimeSlot) :
    TimeSlot × List TimeSlot :=
  if resEnd - last.end_ < 0 then
    let halves := timeSlotSplit last (resEnd + 1)
    (halves.1, [halves.2])
  else if last.end_ - resEnd < 0 then
    (last, [timeSlotCreate ctx res (last.end_ + 1) resEnd])
  else (last, [])

/-- From `first_slot` to the end of the overlapped slots: the last one is closed, and the
    reservation is added to each. -/
def addToSlots (res : Reservation) (resEnd : Int) (first : TimeSlot) :
    List TimeSlot → List TimeSlot
  | [] =>
    let closed := closeLastSlot ctx res resEnd first
    timeSlotAddReservation ctx closed.1 res :: closed.2
  | next :: more => timeSlotAddReservation ctx first res :: addToSlots res resEnd next more

/-- The edits around the overlapped slots `first :: more`. -/
def place (res : Reservation) (resStart resEnd : Int) (first : TimeSlot) (more : List TimeSlot) :
    List TimeSlot :=
  let opened := openFirstSlot ctx res resStart first
  opened.1 ++ addToSlots ctx res resEnd opened.2 more

/-- How a search ends, with the reservation as it was moved last. -/
inductive SearchResult where
  | denied (res : Reservation)
  | added (res : Reservation) (slots : List TimeSlot)

/-- The result for the whole list from the result for the rest of it. -/
def SearchResult.behind (slot : TimeSlot) : SearchResult → SearchResult
  | .denied res => .denied res
  | .added res slots => .added res (slot :: slots)

/-- The loop over `time_slots` and the insertion at the end when nothing was added. -/
def search (prevSlot : Option TimeSlot) (res : Reservation) : List TimeSlot → SearchResult
  | [] =>
    if tooLate ltime res then .denied res
    else .added res [timeSlotCreate ctx res res.resStart res.resEnd]
  | slot :: rest =>
    let res := fixEnd dtime res
    match visit ctx ltime prevSlot res slot rest with
    | .late => .denied res
    | .skip => (search (some slot) res rest).behind slot
    | .insertBefore =>
      .added res (timeSlotCreate ctx res res.resStart res.resEnd :: slot :: rest)
    | .full =>
      (search (some slot) (moveTo dtime res (timestampToNum64 (slot.end_ + 1))) rest).behind slot
    | .conflict c =>
      (search prevSlot (moveTo dtime res (timestampToNum64 (c.end_ + 1))) rest).behind slot
    | .overlap more after => .added res (place ctx res res.resStart res.resEnd slot more ++ after)

end Search

/-! ## The demand -/

/-- `minstart`: the client needs two round trips, the other server its fuzz. -/
def minStart (q : ReservationQuery) (currtime : Num64) : Num64 :=
  num64Add currtime (num64Add q.ftime (num64Mult q.rtttime (uLongToNum64 2)))

/-- The first `res->start`. -/
def firstStart (q : ReservationQuery) (currtime : Num64) : Num64 :=
  let start := num64Sub q.rtime q.ftime
  if num64Cmp start (minStart q currtime) < 0 then
    num64Add (minStart q currtime) (uLongToNum64 1)
  else start

/-- `dtime`: the duration with fuzz applied. -/
def ReservationQuery.dtime (q : ReservationQuery) : Num64 :=
  num64Add (uLongToNum64 q.duration) q.ftime

/-- `ltime` after the event horizon of the class. -/
def latestTime (q : ReservationQuery) (currtime : Num64) (hsecs : BWLDLimitT) : Num64 :=
  if hsecs ≠ 0 then num64Min q.ltime (num64Add currtime (i2numTToNum64 hsecs)) else q.ltime

/-- The fields of the reservation before the search. -/
def initReservation (q : ReservationQuery) (currtime : Num64) (res : Reservation) : Reservation :=
  let start := firstStart q currtime
  let restime := num64Add start q.ftime
  { res with
    start := start
    restime := restime
    end_ := num64Add restime q.dtime
    fuzz := q.ftime
    duration := q.duration }

/-- `AllocReservation`; the record comes from `calloc`. -/
def allocReservation (env : DemandEnv) (q : ReservationQuery) : Option Reservation :=
  env.initTest.map fun toolport =>
    { tool := q.toolId, sid := q.sid, restime := 0, start := 0, end_ := 0, fuzz := 0,
      sender := q.sender, receiver := q.receiver, duration := 0, toolport := toolport }

/-- The reservation the demand works on and the slots without it: the child's earlier one, taken
    off the list, or a new one. -/
def claimReservation (env : DemandEnv) (res? : Option Reservation) (q : ReservationQuery)
    (slots : List TimeSlot) : Option (Reservation × List TimeSlot) :=
  match res? with
  | some res =>
    if sidCmp q.sid res.sid then some ({ res with toolport := q.toolport }, resRemove slots res)
    else none
  | none => (allocReservation env q).map fun res => (res, slots)

/-- The return value with `*err`, `*restime` and `*toolport`: `True`, `False` with `*err == 0`,
    or `False` with `*err == 1`. -/
inductive DemandReply where
  | granted (restime : Num64) (toolport : UInt16)
  | denied (restime : Num64) (toolport : UInt16)
  | failed
  deriving DecidableEq

/-- The reply, `cstate->res` and `time_slots` after a demand. -/
structure DemandOutcome where
  reply : DemandReply
  res : Option Reservation
  slots : List TimeSlot

/-- The label `denied` of `ChldReservationDemand` with `DeleteReservation`. -/
def denyReservation (res : Reservation) (slots : List TimeSlot) : DemandOutcome :=
  ⟨.denied res.restime res.toolport, none, resRemove slots res⟩

/-- From `minstart` on: the search for the reservation among the slots left. -/
def findOpenSlot (ctx : Context) (hsecs : BWLDLimitT) (q : ReservationQuery) (currtime : Num64)
    (res : Reservation) (slots : List TimeSlot) : DemandOutcome :=
  let res := initReservation q currtime res
  let ltime := latestTime q currtime hsecs
  if tooLate ltime res then denyReservation res slots
  else
    match search ctx q.dtime ltime none res slots with
    | .denied res => denyReservation res slots
    | .added res slots => ⟨.granted res.restime res.toolport, some res, slots⟩

/-- `ChldReservationDemand` for a child of class `node` that holds `res?`. -/
def chldReservationDemand (ctx : Context) (env : DemandEnv) (node : PolicyNode)
    (res? : Option Reservation) (q : ReservationQuery) (slots : List TimeSlot) : DemandOutcome :=
  match getFixedLimit node BWLDLimEventHorizon with
  | none => ⟨.failed, res?, slots⟩
  | some hsecs =>
    match claimReservation env res? q slots with
    | none => ⟨.failed, res?, slots⟩
    | some (res, slots) =>
      match env.currtime with
      | none => ⟨.failed, none, slots⟩
      | some currtime => findOpenSlot ctx hsecs q currtime res slots

/-- `ChldReservationComplete` for a child that holds `res?`: the return value, `cstate->res` and
    `time_slots`. -/
def chldReservationComplete (res? : Option Reservation) (sid : SID) (slots : List TimeSlot) :
    Bool × Option Reservation × List TimeSlot :=
  match res? with
  | none => (false, none, slots)
  | some res =>
    if sidCmp sid res.sid then (true, none, resRemove slots res) else (false, some res, slots)

end Bwctl
