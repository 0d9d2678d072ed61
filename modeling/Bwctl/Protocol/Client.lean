import Bwctl.Protocol.Server

/-!
# The client side of a control connection (`bwlib/capi.c`)

The calls an application makes on an open control connection.  A call sends a message and reads the
answer to it; what comes from outside is in its arguments.

* `sessionRequest` — a new request, an update or a cancellation.
* `controlTimeCheck`, `startSession`, `endSession` — the other calls.
* `ClientCall.out_eq` — what a call sends does not depend on what it is going to read.
-/

set_option autoImplicit false

namespace Bwctl

/-! ## BWLSessionRequest -/

/-- The process around one call of `BWLSessionRequest`: the tools, the addresses it settles on for a
    new session (or the severity if there are none, or no memory), and the outcome of the write. -/
structure RequestEnv where
  tools : ToolTable
  addrs : Except ErrSeverity (SockAddr × SockAddr)
  sent : Bool

/-- What `_BWLClientRequestTestReadResponse` leaves behind. -/
structure Response where
  conn : Conn
  wire : Wire
  granted : Bool
  err : ErrSeverity
  acceptval : AcceptType
  session : TestSession
  out : List Block

/-- `_BWLClientRequestTestReadResponse`, called with `BWL_CNTRL_FAILURE` and `BWLErrOK`. -/
def clientRequestTestReadResponse (env : RequestEnv) (c : Conn) (w : Wire) (s : TestSession) :
    Response :=
  let (c, rc, out) := writeTestRequest env.tools env.sent c s
  if rc.prio < ErrSeverity.ok.prio then ⟨c, w, false, rc, .failure, s, out⟩
  else
    let (r, w) := w.recv 2
    let (c, rc, aval, s) := readTestAccept c r s
    let acceptval := aval.getD .failure
    if rc.prio < ErrSeverity.ok.prio then ⟨c, w, false, rc, acceptval, s, out⟩
    else ⟨c, w, acceptval = .accept, .ok, acceptval, s, out⟩

/-- What `BWLSessionRequest` returns and leaves behind. -/
structure RequestResult where
  conn : Conn
  wire : Wire
  granted : Bool
  err : ErrSeverity
  acceptval : AcceptType
  availTime : Num64
  toolPort : UInt16
  sid : SID
  out : List Block

/-- `BWLSessionRequest` with its session, new or reserved. -/
def askSession (env : RequestEnv) (c : Conn) (w : Wire) (s : TestSession) (toolPort : UInt16)
    (sid : SID) : RequestResult :=
  let toolPort := if s.confServer then 0 else toolPort
  let s := if s.confServer then s else { s with sid := sid }
  let r := clientRequestTestReadResponse env c w s
  if r.granted then
    ⟨{ r.conn with tests := some r.session }, r.wire, true, r.err, r.acceptval,
      r.session.reserveTime, r.session.toolPort, if s.confServer then r.session.sid else sid, r.out⟩
  else
    ⟨r.conn.free, r.wire, false, r.err, r.acceptval, r.session.reserveTime, toolPort, sid, r.out⟩

/-- `cancel:` of `BWLSessionRequest`. -/
def cancelSession (env : RequestEnv) (c : Conn) (w : Wire) (s : TestSession) (toolPort : UInt16)
    (sid : SID) : RequestResult :=
  let (c, rc, out) := writeTestRequest env.tools env.sent c s
  if rc.prio < ErrSeverity.ok.prio then ⟨c.free, w, true, .ok, .failure, 0, toolPort, sid, out⟩
  else
    let (r, w) := w.recv 2
    let (c, rc, aval, _) := readTestAccept c r s
    let acceptval := aval.getD .failure
    if rc.prio < ErrSeverity.ok.prio then
      ⟨c.free, w, true, .ok, acceptval, 0, toolPort, sid, out⟩
    else
      let c := if acceptval ≠ .reject then c.fail else c
      ⟨c.free, w, true, .ok, acceptval, 0, toolPort, sid, out⟩

/-- The reserved session with the times of an update. -/
def TestSession.retime (s : TestSession) (testSpec : BWLTestSpec) : TestSession :=
  { s with testSpec := { s.testSpec with
      reqTime := testSpec.reqTime, latestTime := testSpec.latestTime } }

/-- `BWLSessionRequest`: with a session on the connection it is an update, or for the time 0 a
    cancellation, and without one it is a new request. -/
def sessionRequest (env : RequestEnv) (c : Conn) (w : Wire) (isClient : Bool)
    (testSpec : BWLTestSpec) (toolPort : UInt16) (sid : SID) : RequestResult :=
  let refused (err : ErrSeverity) : RequestResult :=
    ⟨c, w, false, err, .failure, 0, toolPort, sid, []⟩
  if !c.isRequest then refused .fatal
  else
    match c.tests with
    | some s =>
      if sid ≠ s.sid then refused .ok
      else if testSpec.reqTime.tstamp = 0 then
        cancelSession env c w (s.retime testSpec) toolPort sid
      else askSession env c w (s.retime testSpec) toolPort sid
    | none =>
      match env.addrs with
      | .error err => refused err
      | .ok (client, server) =>
        askSession env c w (testSessionAlloc isClient client server toolPort testSpec) toolPort sid

/-! ## The other calls -/

/-- `BWLControlTimeCheck`. -/
def controlTimeCheck (sent : Bool) (c : Conn) (w : Wire) :
    Conn × Wire × ErrSeverity × Option BWLTimeStamp × List Block :=
  let (c, err, out) := writeTimeRequest c sent
  if err ≠ .ok then (c.fail, w, .fatal, none, out)
  else
    let (r, w) := w.recv 2
    let (c, err, t) := readTimeResponse c r
    if err ≠ .ok then (c.fail, w, .fatal, none, out) else (c, w, .ok, t, out)

/-- `BWLStartSession`; the port is passed in and out. -/
def startSession (sent : Bool) (c : Conn) (w : Wire) (dataport : UInt16) :
    Conn × Wire × ErrSeverity × UInt16 × List Block :=
  let (c, rc, out) := writeStartSession c sent dataport
  if rc.prio < ErrSeverity.ok.prio then (c.fail, w, rc, dataport, out)
  else
    let (r, w) := w.recv 2
    let (c, rc, acceptval, port) := readStartAck c r
    let dataport := port.getD dataport
    if rc.prio < ErrSeverity.ok.prio ∨ acceptval ≠ .accept then (c.fail, w, .fatal, dataport, out)
    else (c, w, .ok, dataport, out)

/-- `BWLEndSession`: nothing but the session is given up. -/
def endSession (sent : StopSent) (fp : Option ResultFile) (freed : ErrSeverity) (c : Conn) (w : Wire)
    (intr : Int) (acceptval : AcceptType) : StopResult :=
  let (c, rc, out) := writeStopSession c sent acceptval none
  if rc.prio < ErrSeverity.ok.prio then ⟨c.fail, w, rc, .failure, intr, fp, out, none⟩
  else
    let asked := c
    let (c, msgtype, w) := nextRequest c w
    let asked := some (asked, msgtype)
    if msgtype ≠ .stopSession then ⟨c.fail, w, .fatal, acceptval, intr, fp, out, asked⟩
    else
      let read := readStopSession c w fp
      let acceptval := read.acceptval.getD acceptval
      if read.err.prio < ErrSeverity.ok.prio then
        ⟨read.conn.fail, read.wire, read.err, acceptval, intr, read.fp, out, asked⟩
      else ⟨read.conn.free, read.wire, freed, acceptval, intr, read.fp, out, asked⟩

/-! ## Calls -/

/-- A call with its arguments. -/
inductive ClientCall where
  | sessionRequest (env : RequestEnv) (isClient : Bool) (testSpec : BWLTestSpec)
      (toolPort : UInt16) (sid : SID)
  | controlTimeCheck (sent : Bool)
  | startSession (sent : Bool) (dataport : UInt16)
  | endSession (sent : StopSent) (fp : Option ResultFile) (freed : ErrSeverity) (intr : Int)
      (acceptval : AcceptType)

/-- What a call leaves of the connection, and what it sends. -/
structure CallResult where
  conn : Conn
  wire : Wire
  out : List Block

def ClientCall.run (call : ClientCall) (c : Conn) (w : Wire) : CallResult :=
  match call with
  | .sessionRequest env isClient testSpec toolPort sid =>
    let r := Bwctl.sessionRequest env c w isClient testSpec toolPort sid
    ⟨r.conn, r.wire, r.out⟩
  | .controlTimeCheck sent =>
    let (c, w, _, _, out) := Bwctl.controlTimeCheck sent c w
    ⟨c, w, out⟩
  | .startSession sent dataport =>
    let (c, w, _, _, out) := Bwctl.startSession sent c w dataport
    ⟨c, w, out⟩
  | .endSession sent fp freed intr acceptval =>
    let r := Bwctl.endSession sent fp freed c w intr acceptval
    ⟨r.conn, r.wire, r.out⟩

end Bwctl
