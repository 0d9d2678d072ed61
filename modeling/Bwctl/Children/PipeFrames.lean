import Bwctl.Lib.Framing
import Bwctl.Children.TestPolicy
import Bwctl.Policy.Idents

/-!
# The messages on the pipe of a child, octet by octet

A child lays each message out by hand and the broker takes it apart by hand, the header in one
function and the rest in another, so that the places differ by the header.  The answers come in two
formats.

* `ChildMesg.write` — what a child writes.
* `readMesg` — what `CheckFD` reads.
* `Answer.send`, `readAnswer` — the answers, as the broker sends and the child reads them.
-/

set_option autoImplicit false

namespace Bwctl

open Octets

/-! ## The host -/

/-- Integers in the memory of the host. -/
structure HostOrder where
  put16 : UInt16 → List UInt8
  put32 : UInt32 → List UInt8
  put64 : UInt64 → List UInt8
  get16 : List UInt8 → UInt16
  get32 : List UInt8 → UInt32
  get64 : List UInt8 → UInt64
  length_put16 : ∀ v, (put16 v).length = 2
  length_put32 : ∀ v, (put32 v).length = 4
  length_put64 : ∀ v, (put64 v).length = 8
  get16_put16 : ∀ v, get16 (put16 v) = v
  get32_put32 : ∀ v, get32 (put32 v) = v
  get64_put64 : ∀ v, get64 (put64 v) = v

attribute [simp] HostOrder.length_put16 HostOrder.length_put32 HostOrder.length_put64
  HostOrder.get16_put16 HostOrder.get32_put32 HostOrder.get64_put64

/-- The low octet first. -/
def littleEndian : HostOrder where
  put16 v := (be16 v).reverse
  put32 v := (be32 v).reverse
  put64 v := (be32 v.toUInt32).reverse ++ (be32 (v >>> 32).toUInt32).reverse
  get16 l := UInt16.ofNat (ofBe l.reverse)
  get32 l := UInt32.ofNat (ofBe l.reverse)
  get64 l := (UInt32.ofNat (ofBe (l.drop 4).reverse)).toUInt64 <<< 32 |||
    (UInt32.ofNat (ofBe (l.take 4).reverse)).toUInt64
  length_put16 _ := rfl
  length_put32 _ := rfl
  length_put64 _ := rfl
  get16_put16 v := by
    rw [List.reverse_reverse, ofBe_be16, UInt16.ofNat_toNat]
  get32_put32 v := by
    rw [List.reverse_reverse, ofBe_be32, UInt32.ofNat_toNat]
  get64_put64 v := by
    rw [List.take_left' (by simp), List.drop_left' (by simp), List.reverse_reverse,
      List.reverse_reverse, ofBe_be32, ofBe_be32, UInt32.ofNat_toNat, UInt32.ofNat_toNat, join64]

def BWLDMESGMARK : BWLDMesgT := 0xfefefefe
def BWLDMESGCLASS : BWLDMesgT := 0xcdef
def BWLDMESGRESOURCE : BWLDMesgT := 0xbeef
def BWLDMESGRESERVATION : BWLDMesgT := 0xdeadbeef
def BWLDMESGCOMPLETE : BWLDMesgT := 0xabcdefab

/-- `BWLDMAXCLASSLEN`. -/
def maxClassLen : Nat := 80

/-! ## What a child writes -/

/-- The fields of a reservation query; the addresses as strings without their NUL. -/
structure ReservationMesg where
  sid : SID
  reqTime : Num64
  fuzzTime : Num64
  lastTime : Num64
  duration : UInt32
  rttTime : Num64
  toolport : UInt16
  tool : BWLToolType
  sender : List UInt8
  receiver : List UInt8
  deriving DecidableEq

/-- A message of a child. -/
inductive ChildMesg where
  | className (name : List UInt8)
  | resource (mesg : BWLDMesgT) (limit : BWLDMesgT) (value : BWLDLimitT)
  | reservation (query : ReservationMesg)
  | complete (sid : SID) (aval : UInt32)
  deriving DecidableEq

/-- A C string that fits into so many octets. -/
structure CStringOf (size : Nat) (octets : List UInt8) : Prop where
  short : octets.length < size
  noNul : (0 : UInt8) ∉ octets

/-- What a child may put into a message: a class name the parser let through, one of the three
    resource queries, and addresses `getnameinfo` fitted into their arrays. -/
def ChildMesg.Ok : ChildMesg → Prop
  | className name => CStringOf (maxClassLen + 1) name
  | resource mesg _ _ =>
    mesg = BWLDMESGREQUEST ∨ mesg = BWLDMESGRELEASE ∨ mesg = BWLDMESGCLAIM
  | reservation q => CStringOf 46 q.sender ∧ CStringOf 46 q.receiver
  | complete _ _ => True

section Write

variable (order : HostOrder) (stack : ∀ n, Vector UInt8 n)

/-- A string copied into zeros. -/
def addrStr (octets : List UInt8) : List UInt8 := octets ++ List.replicate (46 - octets.length) 0

/-- `BWLDSendClass`: the copies, in the order of the source. -/
def classLayout (name : List UInt8) : List (Nat × List UInt8) :=
  [(0, order.put32 BWLDMESGMARK), (4, order.put32 BWLDMESGCLASS), (8, name ++ [0]),
    (8 + (name.length + 1), order.put32 BWLDMESGMARK)]

/-- `BWLDQuery`. -/
def resourceLayout (mesg limit : BWLDMesgT) (value : BWLDLimitT) : List (Nat × List UInt8) :=
  [(24, order.put32 BWLDMESGMARK), (0, order.put32 BWLDMESGMARK),
    (4, order.put32 BWLDMESGRESOURCE), (8, order.put32 mesg), (12, order.put32 limit),
    (16, order.put64 value)]

/-- `BWLDReservationQuery`. -/
def reservationLayout (q : ReservationMesg) : List (Nat × List UInt8) :=
  [(0, order.put32 BWLDMESGMARK), (160, order.put32 BWLDMESGMARK),
    (4, order.put32 BWLDMESGRESERVATION), (8, q.sid.toList), (24, order.put64 q.reqTime),
    (32, order.put64 q.fuzzTime), (40, order.put64 q.lastTime), (48, order.put32 q.duration),
    (52, order.put64 q.rttTime), (60, order.put16 q.toolport), (62, [0, 0]),
    (64, order.put32 q.tool), (68, addrStr q.sender), (114, addrStr q.receiver)]

/-- `BWLDSendTestComplete`. -/
def completeLayout (sid : SID) (aval : UInt32) : List (Nat × List UInt8) :=
  [(28, order.put32 BWLDMESGMARK), (0, order.put32 BWLDMESGMARK),
    (4, order.put32 BWLDMESGCOMPLETE), (8, sid.toList), (24, order.put32 aval)]

/-- The octets a message is written as; the buffers start with what is on the stack. -/
def ChildMesg.write : ChildMesg → List UInt8
  | className name =>
    load (writeAll (stack 93) (classLayout order name)) 0 (8 + (name.length + 1) + 4)
  | resource mesg limit value =>
    load (writeAll (stack 28) (resourceLayout order mesg limit value)) 0 28
  | reservation q => load (writeAll (stack 164) (reservationLayout order q)) 0 164
  | complete sid aval => load (writeAll (stack 32) (completeLayout order sid aval)) 0 32

end Write

/-! ## What the broker reads -/

section Read

variable (order : HostOrder) (stack : ∀ n, Vector UInt8 n)

/-- "read classname": the octets up to a NUL, if it is one of the next ones. -/
def readName : Nat → List UInt8 → Option (List UInt8 × List UInt8)
  | 0, _ => none
  | _ + 1, [] => none
  | k + 1, b :: s => if b = 0 then some ([], s) else (readName k s).map fun r => (b :: r.1, r.2)

/-- `BWLDReadClass` up to its look into the table of classes. -/
def readClass (s : List UInt8) : Option (List UInt8 × List UInt8) :=
  match readn 8 s with
  | none => none
  | some (header, s) =>
    let buf := fill (stack 93) header
    if load buf 0 4 ≠ order.put32 BWLDMESGMARK ∨ load buf 4 4 ≠ order.put32 BWLDMESGCLASS then none
    else
      match readName (maxClassLen + 1) s with
      | none => none
      | some (name, s) =>
        match readn 4 s with
        | none => none
        | some (trailer, s) => if trailer ≠ order.put32 BWLDMESGMARK then none else some (name, s)

/-- `BWLDReadReqType`. -/
def readReqType (s : List UInt8) : Option (BWLDMesgT × List UInt8) :=
  match readn 8 s with
  | none => none
  | some (header, s) =>
    let buf := fill (stack 8) header
    if order.get32 (load buf 0 4) ≠ BWLDMESGMARK then none
    else some (order.get32 (load buf 4 4), s)

/-- `BWLDReadQuery`. -/
def readQuery (s : List UInt8) : Option ((BWLDMesgT × BWLDMesgT × BWLDLimitT) × List UInt8) :=
  match readn 20 s with
  | none => none
  | some (body, s) =>
    let buf := fill (stack 20) body
    if order.get32 (load buf 16 4) ≠ BWLDMESGMARK then none
    else
      let query := order.get32 (load buf 0 4)
      if query = BWLDMESGREQUEST ∨ query = BWLDMESGRELEASE ∨ query = BWLDMESGCLAIM then
        some ((query, order.get32 (load buf 4 4), order.get64 (load buf 8 8)), s)
      else none

/-- Octets copied into a SID. -/
def sidOf (octets : List UInt8) : SID := Vector.ofFn fun i => octets.getD i.val 0

/-- `BWLDReadReservationQuery`; the strings end at their NUL. -/
def readReservationQuery (s : List UInt8) : Option (ReservationMesg × List UInt8) :=
  match readn 156 s with
  | none => none
  | some (body, s) =>
    let buf := fill (stack 156) body
    if order.get32 (load buf 152 4) ≠ BWLDMESGMARK then none
    else
      some ({
        sid := sidOf (load buf 0 16)
        reqTime := order.get64 (load buf 16 8)
        fuzzTime := order.get64 (load buf 24 8)
        lastTime := order.get64 (load buf 32 8)
        duration := order.get32 (load buf 40 4)
        rttTime := order.get64 (load buf 44 8)
        toolport := order.get16 (load buf 52 2)
        tool := order.get32 (load buf 56 4)
        sender := cString (load buf 60 46)
        receiver := cString (load buf 106 46) }, s)

/-- `BWLDReadTestComplete`. -/
def readTestComplete (s : List UInt8) : Option ((SID × UInt32) × List UInt8) :=
  match readn 24 s with
  | none => none
  | some (body, s) =>
    let buf := fill (stack 24) body
    if order.get32 (load buf 20 4) ≠ BWLDMESGMARK then none
    else some ((sidOf (load buf 0 16), order.get32 (load buf 16 4)), s)

/-- The class of a child after a message: the table of classes is looked up once. -/
def nextClass {ν : Type} (limits : List UInt8 → Option ν) (node : Option ν) :
    ChildMesg → Option ν
  | .className name => limits name
  | _ => node

/-- `CheckFD`, the part that reads: the first message is the class, then the type of a message
    decides who reads the rest. -/
def readMesg {ν : Type} (limits : List UInt8 → Option ν) (node : Option ν) (s : List UInt8) :
    Option (ChildMesg × Option ν × List UInt8) :=
  match node with
  | none => (readClass order stack s).map fun r => (.className r.1, limits r.1, r.2)
  | some node =>
    match readReqType order stack s with
    | none => none
    | some (type, s) =>
      if type = BWLDMESGRESOURCE then
        (readQuery order stack s).map fun r =>
          (.resource r.1.1 r.1.2.1 r.1.2.2, some node, r.2)
      else if type = BWLDMESGRESERVATION then
        (readReservationQuery order stack s).map fun r => (.reservation r.1, some node, r.2)
      else if type = BWLDMESGCOMPLETE then
        (readTestComplete order stack s).map fun r => (.complete r.1.1 r.1.2, some node, r.2)
      else none

end Read

/-! ## The answers -/

/-- What the broker answers; only a reservation has a time and a port. -/
structure Answer where
  mesg : BWLDMesgT
  reservation : Num64
  toolport : UInt16
  deriving DecidableEq

section Answers

variable (order : HostOrder) (stack : ∀ n, Vector UInt8 n)

/-- `BWLDSendResponse`. -/
def sendResponse (mesg : BWLDMesgT) : List UInt8 :=
  load (writeAll (stack 12) [(8, order.put32 BWLDMESGMARK), (0, order.put32 BWLDMESGMARK),
    (4, order.put32 mesg)]) 0 12

/-- `BWLDSendReservationResponse`. -/
def sendReservationResponse (a : Answer) : List UInt8 :=
  load (writeAll (stack 24) [(0, order.put32 BWLDMESGMARK), (20, order.put32 BWLDMESGMARK),
    (4, order.put32 a.mesg), (8, order.put64 a.reservation), (16, order.put16 a.toolport),
    (18, [0, 0])]) 0 24

/-- `BWLDReadResponse`; a message that is not well formed is `BWLDMESGINVALID`. -/
def readResponse (s : List UInt8) : BWLDMesgT × List UInt8 :=
  match readn 12 s with
  | none => (BWLDMESGINVALID, [])
  | some (octets, s) =>
    let buf := fill (stack 12) octets
    if order.get32 (load buf 0 4) ≠ BWLDMESGMARK ∨ order.get32 (load buf 8 4) ≠ BWLDMESGMARK then
      (BWLDMESGINVALID, s)
    else (order.get32 (load buf 4 4), s)

/-- `BWLDReadReservationResponse`: the message, and the time and port if they were written. -/
def readReservationResponse (s : List UInt8) :
    BWLDMesgT × Option (Num64 × UInt16) × List UInt8 :=
  match readn 24 s with
  | none => (BWLDMESGINVALID, none, [])
  | some (octets, s) =>
    let buf := fill (stack 24) octets
    if load buf 0 4 ≠ order.put32 BWLDMESGMARK ∨ load buf 20 4 ≠ order.put32 BWLDMESGMARK then
      (BWLDMESGINVALID, none, s)
    else
      (order.get32 (load buf 4 4), some (order.get64 (load buf 8 8), order.get16 (load buf 16 2)), s)

/-- The answer `CheckFD` sends to a message. -/
def Answer.send (mesg : ChildMesg) (a : Answer) : List UInt8 :=
  match mesg with
  | .reservation _ => sendReservationResponse order stack a
  | _ => sendResponse order stack a.mesg

/-- The answer a child reads to its message: `BWLDReadReservationResponse` at the end of
    `BWLDReservationQuery`, else `BWLDReadResponse`. -/
def readAnswer (mesg : ChildMesg) (s : List UInt8) :
    (BWLDMesgT × Option (Num64 × UInt16)) × List UInt8 :=
  match mesg with
  | .reservation _ =>
    let r := readReservationResponse order stack s
    ((r.1, r.2.1), r.2.2)
  | _ =>
    let r := readResponse order stack s
    ((r.1, none), r.2)

/-- What a child is meant to read of an answer. -/
def Answer.view (mesg : ChildMesg) (a : Answer) : BWLDMesgT × Option (Num64 × UInt16) :=
  match mesg with
  | .reservation _ => (a.mesg, some (a.reservation, a.toolport))
  | _ => (a.mesg, none)

end Answers

end Bwctl
