import Bwctl.Broker.ReservationDemand
import Bwctl.Policy.Accounting

/-!
# The broker process (`CheckFD`, `FreeChldState`)

The parent process serves its children one message at a time: the class of the connection
first, then resource queries, reservation queries and completed tests.  A child that exits
loses its reservation.  Everything the children share lies here: the counters of the limits
tree and the list of time slots.

* `checkFD` — one message of one child.
* `Broker.step` — a new child, a message, or the exit of a child.
-/

set_option autoImplicit false

namespace Bwctl

def BWLDMESGOK : BWLDMesgT := 0x1
def BWLDMESGDENIED : BWLDMesgT := 0x2

/-- `ChldStateRec`: the class once it was read, and the reservation. -/
structure ChldState where
  node : Option PolicyNode
  res : Option Reservation
  deriving DecidableEq

/-- What the broker keeps for all children. -/
structure Broker where
  used : Used
  slots : List TimeSlot
  children : List ChldState

def Broker.start : Broker := ⟨Used.zero, [], []⟩

/-- The messages of a child, after they were read off the pipe. -/
inductive ChldMesg where
  | className (name : String)
  | resource (query : BWLDMesgT) (lim : LimRec)
  | reservation (query : ReservationQuery) (env : DemandEnv)
  | complete (sid : SID)

/-- The answer; after `err` the child gets a `SIGTERM`, with what was sent before that. -/
inductive ChldReply where
  | response (mesg : BWLDMesgT)
  | reservation (mesg : BWLDMesgT) (restime : Num64) (toolport : UInt16)
  | err (mesg : Option BWLDMesgT)
  deriving DecidableEq

/-- `BWLDMESGOK` or `BWLDMESGDENIED`. -/
def okOrDenied (ok : Bool) : BWLDMesgT := if ok then BWLDMESGOK else BWLDMESGDENIED

/-- The answer to a reservation query. -/
def reservationResponse : DemandReply → ChldReply
  | .granted restime toolport => .reservation BWLDMESGOK restime toolport
  | .denied restime toolport => .reservation BWLDMESGDENIED restime toolport
  | .failed => .err none

/-- The slots after `DeleteReservation` of a child that may hold a reservation. -/
def slotsWithout (slots : List TimeSlot) (res? : Option Reservation) : List TimeSlot :=
  match res? with
  | none => slots
  | some res => resRemove slots res

namespace Broker

/-- The record of a child replaced. -/
def setChild (b : Broker) (i : Nat) (c : ChldState) : Broker :=
  { b with children := b.children.set i c }

/-- `CheckFD` for a child whose class is known. -/
def serve (ctx : Context) (b : Broker) (i : Nat) (c : ChldState) (node : PolicyNode) :
    ChldMesg → Broker × ChldReply
  | .className _ => (b, .err none)
  | .resource query lim =>
    if query = BWLDMESGREQUEST ∨ query = BWLDMESGRELEASE ∨ query = BWLDMESGCLAIM then
      let r := resourceDemand node query lim b.used
      ({ b with used := r.2 }, .response (okOrDenied r.1))
    else (b, .err none)
  | .reservation q env =>
    let o := chldReservationDemand ctx env node c.res q b.slots
    ({ b with slots := o.slots }.setChild i { c with res := o.res },
      reservationResponse o.reply)
  | .complete sid =>
    let r := chldReservationComplete c.res sid b.slots
    ({ b with slots := r.2.2 }.setChild i { c with res := r.2.1 },
      if r.1 then .response BWLDMESGOK else .err none)

/-- `CheckFD`: the first message of a child names its class (`BWLDReadClass`). -/
def checkFD (ctx : Context) (policy : Policy) (b : Broker) (i : Nat) (c : ChldState)
    (mesg : ChldMesg) : Broker × ChldReply :=
  match c.node with
  | none =>
    match mesg with
    | .className name =>
      match policy.fetch name with
      | some node => (b.setChild i { c with node := some node }, .response BWLDMESGOK)
      | none => (b, .err (some BWLDMESGDENIED))
    | _ => (b, .err none)
  | some node => b.serve ctx i c node mesg

/-- `FreeChldState`. -/
def freeChldState (b : Broker) (i : Nat) (c : ChldState) : Broker :=
  { b with slots := slotsWithout b.slots c.res, children := b.children.eraseIdx i }

end Broker

inductive BrokerEvent where
  | connect
  | mesg (i : Nat) (mesg : ChldMesg)
  | exit (i : Nat)

/-- One event of the broker process. -/
def Broker.step (ctx : Context) (policy : Policy) (b : Broker) : BrokerEvent → Option Broker
  | .connect => some { b with children := b.children ++ [⟨none, none⟩] }
  | .mesg i mesg => b.children[i]?.map fun c => (b.checkFD ctx policy i c mesg).1
  | .exit i => b.children[i]?.map fun c => b.freeChldState i c

/-- The live reservations: those granted and neither rescheduled nor deleted since. -/
def Broker.live (b : Broker) : List Reservation := b.children.filterMap (·.res)

end Bwctl
