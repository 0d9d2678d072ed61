import Bwctl.Lib.Octets
import Bwctl.Control.ControlAccept
import Bwctl.Broker.TimeSlots

/-!
# A control connection after the handshake (`bwlib/bwlibP.h`, `bwlib/protocol.c`)

The record both ends keep of a control connection: the state bits, the message buffer and the
reserved session.  Messages are blocks of 16 octets; what a read of blocks comes back with is a
`Recv`, in plain text (the cipher is transparent to everything here).

* `Conn`, `TestSession`, `BWLTestSpec` — the records.
* `readRequestType` — the first block of a message and the reading bit it sets.
* `encodeTimeStamp`, `decodeTimeStamp` — times on the wire.
* `readRequestType_spec` — everything the first block can do.
-/

set_option autoImplicit false

namespace Bwctl

open Octets

/-! ## State bits -/

def stateUptime : UInt32 := 0x0002
def stateTest : UInt32 := 0x0008
def stateTestRequest : UInt32 := 0x0010
def stateStartSession : UInt32 := 0x0020
def stateStopSession : UInt32 := 0x0040
def stateTestAccept : UInt32 := 0x0080
def stateStartAck : UInt32 := 0x0100
def stateTimeRequest : UInt32 := 0x0200
def stateTimeResponse : UInt32 := 0x0400

/-- "Reading indicates partial read request". -/
def stateReading : UInt32 :=
  stateTestRequest ||| stateStartSession ||| stateStopSession ||| stateTimeRequest

/-- "Pending indicates waiting for server response to a request". -/
def statePending : UInt32 :=
  stateTestAccept ||| stateStartAck ||| stateStopSession ||| stateTimeResponse

/-! ## The records -/

/-- `BWLTimeStamp`. -/
structure BWLTimeStamp where
  tstamp : Num64
  sync : Bool
  multiplier : UInt8
  scale : UInt8
  deriving DecidableEq

/-- `BWLTestSpec`: a `BWLBoolean` is kept as a truth value, an `I2Addr` as its `sockaddr` without
    the port, if it has one. -/
structure BWLTestSpec where
  verbose : Bool
  client : Option SockAddr
  server : Option SockAddr
  reqTime : BWLTimeStamp
  latestTime : Num64
  serverSends : Bool
  noServerEndpoint : Bool
  duration : UInt32
  toolId : BWLToolType
  udp : Bool
  tos : UInt8
  bandwidth : UInt64
  windowSize : UInt32
  lenBuffer : UInt32
  reportInterval : UInt16
  mss : UInt16
  omit_ : UInt8
  parallelStreams : UInt8
  units : UInt8
  outformat : UInt8
  dynamicWindowSize : Bool
  pingPacketCount : UInt16
  pingInterpacketTime : UInt16
  pingPacketSize : UInt16
  pingPacketTtl : UInt8
  tracerouteUdp : Bool
  traceroutePacketSize : UInt16
  tracerouteFirstTtl : UInt8
  tracerouteLastTtl : UInt8
  deriving DecidableEq

/-- A specification of zeros. -/
def BWLTestSpec.zero : BWLTestSpec :=
  ⟨false, none, none, ⟨0, false, 0, 0⟩, 0, false, false, 0, 0, false, 0, 0, 0, 0, 0, 0, 0, 0, 0, 0,
    false, 0, 0, 0, 0, false, 0, 0, 0⟩

/-- `BWLTestSessionRec`, the fields the protocol reads and writes.  `_BWLTestSessionAlloc` sets
    exactly one of `conf_client` and `conf_server`, and nothing changes them. -/
structure TestSession where
  sid : SID
  localtime : BWLTimeStamp
  reserveTime : Num64
  fuzz : Num64
  toolPort : UInt16
  confClient : Bool
  testSpec : BWLTestSpec
  deriving DecidableEq

def TestSession.confServer (s : TestSession) : Bool := !s.confClient

/-- `_BWLTestSessionAlloc`, once both addresses and the memory are there. -/
def testSessionAlloc (isClient : Bool) (client server : SockAddr) (toolPort : UInt16)
    (testSpec : BWLTestSpec) : TestSession where
  sid := Vector.replicate 16 0
  localtime := ⟨0, false, 0, 0⟩
  reserveTime := 0
  fuzz := 0
  toolPort := if isClient then toolPort else 0
  confClient := isClient
  testSpec := { testSpec with client := some client, server := some server }

/-- The message buffer of a connection: eight blocks. -/
abbrev Msg := Vector UInt8 128

/-- `BWLControlRec` after the handshake. -/
structure Conn where
  state : UInt32
  protocolVersion : UInt32
  msg : Msg
  tests : Option TestSession
  deriving DecidableEq

namespace Conn

/-- `_BWLStateIs`. -/
def stateIs (c : Conn) (teststate : UInt32) : Bool := teststate &&& c.state ≠ 0

def isRequest (c : Conn) : Bool := c.stateIs stateRequest
def isReading (c : Conn) : Bool := c.stateIs stateReading
def isPending (c : Conn) : Bool := c.stateIs statePending

/-- `cntrl->state |= bits`. -/
def enter (c : Conn) (bits : UInt32) : Conn := { c with state := c.state ||| bits }

/-- `cntrl->state &= ~bits`. -/
def leave (c : Conn) (bits : UInt32) : Conn := { c with state := c.state &&& ~~~bits }

/-- `cntrl->state = _BWLStateInvalid`, as `_BWLFailControlSession` does. -/
def fail (c : Conn) : Conn := { c with state := stateInvalid }

/-- Blocks read into the message buffer. -/
def receive (c : Conn) (off : Nat) (blocks : List Block) : Conn :=
  { c with msg := store c.msg off (flatten blocks) }

/-- `_BWLTestSessionFree`: the session that is freed is the one of the connection, or one made
    while the connection had none. -/
def free (c : Conn) : Conn := { c with tests := none }

variable (c : Conn)

@[simp] theorem receive_state (off : Nat) (blocks : List Block) :
    (c.receive off blocks).state = c.state := rfl

@[simp] theorem receive_tests (off : Nat) (blocks : List Block) :
    (c.receive off blocks).tests = c.tests := rfl

@[simp] theorem receive_version (off : Nat) (blocks : List Block) :
    (c.receive off blocks).protocolVersion = c.protocolVersion := rfl

@[simp] theorem enter_state (bits : UInt32) : (c.enter bits).state = c.state ||| bits := rfl
@[simp] theorem enter_tests (bits : UInt32) : (c.enter bits).tests = c.tests := rfl
@[simp] theorem leave_state (bits : UInt32) : (c.leave bits).state = c.state &&& ~~~bits := rfl
@[simp] theorem leave_tests (bits : UInt32) : (c.leave bits).tests = c.tests := rfl
@[simp] theorem fail_state : c.fail.state = stateInvalid := rfl
@[simp] theorem fail_tests : c.fail.tests = c.tests := rfl
@[simp] theorem free_state : c.free.state = c.state := rfl
@[simp] theorem free_tests : c.free.tests = none := rfl

end Conn

/-! ## The first block of a message -/

/-- What `_BWLReceiveBlocksIntr` comes back with: the blocks, a closed socket (a short read) or an
    error, with `*intr` set and `errno` `EINTR` or not. -/
inductive Recv where
  | data (blocks : List Block)
  | closed
  | failed (interrupted : Bool)
  deriving DecidableEq

/-- `BWLRequestType`. -/
inductive RequestType where
  | invalid
  | sockClose
  | test
  | startSession
  | stopSession
  | time
  deriving DecidableEq, Repr

/-- The number of a message; `none` for the first two, which are no messages. -/
def RequestType.number : RequestType → Option UInt8
  | .test => some 1
  | .startSession => some 2
  | .stopSession => some 3
  | .time => some 4
  | _ => none

/-- The reading bit of a message. -/
def RequestType.reading : RequestType → UInt32
  | .test => stateTestRequest
  | .startSession => stateStartSession
  | .stopSession => stateStopSession
  | .time => stateTimeRequest
  | _ => 0

/-- The `switch` over the first octet. -/
def requestType (msgtype : UInt8) : RequestType :=
  if msgtype = 1 then .test
  else if msgtype = 2 then .startSession
  else if msgtype = 3 then .stopSession
  else if msgtype = 4 then .time
  else .invalid

/-- `BWLReadRequestType`; the read is for one block. -/
def readRequestType (c : Conn) (r : Recv) : Conn × RequestType :=
  if !c.isRequest || c.isReading then (c, .invalid)
  else
    match r with
    | .data [block] =>
      let c := c.receive 0 [block]
      let msgtype := byte c.msg 0
      if (c.stateIs stateTest ∧ msgtype ≠ 3) ∨ (!c.stateIs stateTest ∧ msgtype = 3) then
        (c.fail, .invalid)
      else if requestType msgtype = .invalid then (c.fail, .invalid)
      else (c.enter (requestType msgtype).reading, requestType msgtype)
    | .failed true => (c.fail, .invalid)
    | _ => (c.fail, .sockClose)

/-! ## Times on the wire -/

/-- `_BWLEncodeTimeStamp`: seconds and fraction, each in network order. -/
def encodeTimeStamp (tstamp : Num64) : List UInt8 := be64 tstamp

/-- `_BWLDecodeTimeStamp`. -/
def decodeTimeStamp (buf : Msg) (off : Nat) : Num64 := load64 buf off

/-- `_BWLEncodeTimeStampErrEstimate`; `none` is the return value `False`. -/
def encodeErrEstimate (t : BWLTimeStamp) : Option (List UInt8) :=
  if t.multiplier = 0 then none
  else some [if t.sync then (t.scale &&& 0x3f) ||| 0x80 else t.scale &&& 0x3f, t.multiplier]

/-- `_BWLDecodeTimeStampErrEstimate`, into a time that has its `tstamp` already. -/
def decodeErrEstimate (buf : Msg) (off : Nat) (tstamp : Num64) : Option BWLTimeStamp :=
  if byte buf (off + 1) = 0 then none
  else some ⟨tstamp, byte buf off &&& 0x80 ≠ 0, byte buf (off + 1), byte buf off &&& 0x3f⟩

/-- `BWLGetTimeStampError`. -/
def timeStampError (t : BWLTimeStamp) : Num64 :=
  t.multiplier.toUInt64 <<< (t.scale &&& 0x3f).toUInt64

/-- `_BWLGetAcceptType`. -/
def getAcceptType (val : UInt8) : AcceptType :=
  if val = 0 then .accept
  else if val = 1 then .reject
  else if val = 2 then .failure
  else if val = 4 then .unsupported
  else .invalid

/-- `acceptval & 0xff`. -/
def AcceptType.octet : AcceptType → UInt8
  | .invalid => 0xff
  | .accept => 0
  | .reject => 1
  | .failure => 2
  | .unsupported => 4

@[simp] theorem getAcceptType_octet (a : AcceptType) : getAcceptType a.octet = a := by
  cases a <;> rfl

/-! ## What the first block can do -/

/-- The first octet of the message buffer after a block was read into its front. -/
theorem byte_receive_zero (c : Conn) (block : Block) :
    byte (c.receive 0 [block]).msg 0 = byte block 0 := by
  have hflat : flatten [block] = block.toList := List.append_nil _
  have hlen : (0 : Nat) < block.toList.length := by rw [Vector.length_toList]; omega
  unfold Conn.receive
  rw [hflat, byte_store, if_pos ⟨by omega, le_rfl, by omega⟩]
  rfl

/-- A known message has the number it was sent with. -/
theorem requestType_number {b : UInt8} (h : requestType b ≠ .invalid) :
    (requestType b).number = some b ∧ requestType b ≠ .sockClose ∧
      (requestType b = .stopSession ↔ b = 3) := by
  unfold requestType at h ⊢
  split
  · rename_i hb
    subst hb
    exact ⟨rfl, by decide, by decide⟩
  split
  · rename_i hb
    subst hb
    exact ⟨rfl, by decide, by decide⟩
  split
  · rename_i hb
    subst hb
    exact ⟨rfl, by decide, by decide⟩
  split
  · rename_i hb
    subst hb
    exact ⟨rfl, by decide, by decide⟩
  · rename_i h1 h2 h3 h4
    rw [if_neg h1, if_neg h2, if_neg h3, if_neg h4] at h
    exact absurd rfl h

/-- What reading the first block of a message does to a connection. -/
inductive FirstBlock (c : Conn) (r : Recv) : Conn × RequestType → Prop where
  | wrongState (h : (!c.isRequest || c.isReading) = true) : FirstBlock c r (c, .invalid)
  | refused (c' : Conn) (t : RequestType) (ht : t = .invalid ∨ t = .sockClose)
      (hstate : c'.state = stateInvalid) (htests : c'.tests = c.tests) : FirstBlock c r (c', t)
  | message (block : Block) (t : RequestType) (hr : r = .data [block])
      (hrequest : c.isRequest = true) (hreading : c.isReading = false)
      (hknown : t ≠ .invalid ∧ t ≠ .sockClose) (hnumber : t.number = some (byte block 0))
      (hstop : t = .stopSession ↔ c.stateIs stateTest = true) :
      FirstBlock c r ((c.receive 0 [block]).enter t.reading, t)

/-- **The first block** is a message, which sets its reading bit and is a `StopSession` exactly
    during a test, or it invalidates the connection; in a wrong state nothing is read. -/
theorem readRequestType_spec (c : Conn) (r : Recv) : FirstBlock c r (readRequestType c r) := by
  unfold readRequestType
  split
  · rename_i hwrong
    exact .wrongState hwrong
  rename_i hstate
  rw [Bool.or_eq_true, not_or, Bool.not_eq_true', Bool.not_eq_false, Bool.not_eq_true] at hstate
  rcases r with (_ | ⟨block, _ | ⟨second, rest⟩⟩) | _ | (_ | _)
  · exact .refused _ _ (Or.inr rfl) rfl rfl
  · have htest : (c.receive 0 [block]).stateIs stateTest = c.stateIs stateTest := by
      unfold Conn.stateIs
      rw [Conn.receive_state]
    dsimp only
    rw [byte_receive_zero, htest]
    split
    · exact .refused _ _ (Or.inl rfl) rfl rfl
    rename_i hstop
    split
    · exact .refused _ _ (Or.inl rfl) rfl rfl
    rename_i hknown
    obtain ⟨hnumber, hclose, h3⟩ := requestType_number hknown
    refine .message block _ rfl hstate.1 hstate.2 ⟨hknown, hclose⟩ hnumber ?_
    rw [h3]
    cases ht : c.stateIs stateTest <;> simpa [ht] using hstop
  · exact .refused _ _ (Or.inr rfl) rfl rfl
  · exact .refused _ _ (Or.inr rfl) rfl rfl
  · exact .refused _ _ (Or.inr rfl) rfl rfl
  · exact .refused _ _ (Or.inl rfl) rfl rfl

/-- The number of a message is recognized. -/
theorem requestType_of_number {t : RequestType} {b : UInt8} (h : t.number = some b) :
    requestType b = t ∧ t ≠ .invalid ∧ (b = 3 ↔ t = .stopSession) := by
  cases t with
  | invalid => cases h
  | sockClose => cases h
  | test => obtain rfl := Option.some.inj h; decide
  | startSession => obtain rfl := Option.some.inj h; decide
  | stopSession => obtain rfl := Option.some.inj h; decide
  | time => obtain rfl := Option.some.inj h; decide

/-- **A first block in its place** is taken. -/
theorem readRequestType_block {c : Conn} {block : Block} {t : RequestType}
    (hrequest : c.isRequest = true) (hreading : c.isReading = false)
    (hnumber : t.number = some (byte block 0))
    (hstop : t = .stopSession ↔ c.stateIs stateTest = true) :
    readRequestType c (.data [block]) = ((c.receive 0 [block]).enter t.reading, t) := by
  obtain ⟨htype, hvalid, h3⟩ := requestType_of_number hnumber
  have htest : (c.receive 0 [block]).stateIs stateTest = c.stateIs stateTest := rfl
  have hplace : ¬ ((c.stateIs stateTest = true ∧ byte block 0 ≠ 3) ∨
      ((!c.stateIs stateTest) = true ∧ byte block 0 = 3)) := by
    rintro (⟨hin, hne⟩ | ⟨hout, heq⟩)
    · exact hne (h3.2 (hstop.2 hin))
    · rw [hstop.1 (h3.1 heq)] at hout
      cases hout
  unfold readRequestType
  rw [hrequest, hreading]
  simp only [Bool.not_true, Bool.or_self, Bool.false_eq_true, if_false]
  rw [byte_receive_zero, htest, if_neg hplace, htype, if_neg hvalid]

end Bwctl
