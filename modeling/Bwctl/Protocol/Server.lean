import Bwctl.Protocol.Messages

/-!
# The server side of a control connection (`bwlib/sapi.c`)

One function for each request the loop of a `bwctld` child serves.  What comes from outside, the
hooks of the application, clocks, random numbers, the process of the test and the outcome of a
write, is in the environment of a call.

* `processTestRequest` — reads a TestRequest and answers it.
* `processTimeRequest`, `processStartSession` — the two other requests.
* `stopSession`, `stopSessionWait` — the exchange of the StopSession messages.
-/

set_option autoImplicit false

namespace Bwctl

open Octets

/-! ## BWLProcessTestRequest -/

/-- What the `check_test_policy` hook returns, and what it leaves in the session. -/
structure PolicyAnswer where
  granted : Bool
  err : ErrSeverity
  testSpec : BWLTestSpec
  reserveTime : Num64
  toolPort : UInt16

/-- The process around one call of `BWLProcessTestRequest`. -/
structure TestRequestEnv where
  tools : ToolTable
  allocOk : Bool
  timeStamp : Option BWLTimeStamp
  randomBytes : Option (Vector UInt8 4)
  checkTestPolicy : TestSession → PolicyAnswer
  validateTest : BWLTestSpec → Bool
  answerSent : Bool

/-- `_BWLCreateSID`: the session, and whether the SID is complete. -/
def createSid (s : TestSession) (random : Option (Vector UInt8 4)) : TestSession × Bool :=
  let fill (addr : List UInt8) : TestSession × Bool :=
    let sid := store (store s.sid 0 addr) 4 (encodeTimeStamp s.localtime.tstamp)
    match random with
    | none => ({ s with sid := sid }, false)
    | some r => ({ s with sid := store sid 12 r.toList }, true)
  match s.testSpec.server with
  | some (.inet6 addr) => fill (addr.toList.drop 12)
  | some (.inet addr) => fill addr.toList
  | _ => (s, false)

/-- "If this new session is a receiver session, create a SID for it". -/
def newSid (s : TestSession) (random : Option (Vector UInt8 4)) : TestSession × Bool :=
  if s.confServer then createSid s random else (s, true)

/-- `BWLDoubleToNum64(1.5)`. -/
def iperfFuzz : Num64 := 0x180000000

/-- Where `BWLProcessTestRequest` goes to `error`: the severity, the accept value and the session. -/
structure TestRefusal where
  err : ErrSeverity
  acceptval : AcceptType
  session : TestSession

/-- A request up to the call of the hook: a cancellation and the lack of a clock, of a SID or of the
    tool end it. -/
def prepareTest (env : TestRequestEnv) (update : Bool) (s : TestSession) :
    Except TestRefusal TestSession :=
  match env.timeStamp with
  | none => .error ⟨.warning, .failure, s⟩
  | some localtime =>
    let s := { s with localtime := localtime, reserveTime := 0 }
    let fuzz := timeStampError s.testSpec.reqTime + timeStampError localtime + iperfFuzz
    if update then
      if s.testSpec.reqTime.tstamp = 0 then .error ⟨.info, .reject, s⟩
      else .ok { s with fuzz := fuzz }
    else
      let (s, ok) := newSid s env.randomBytes
      if !ok then .error ⟨.warning, .failure, s⟩
      else if (env.tools.format? s.testSpec.toolId).isNone then .error ⟨.warning, .unsupported, s⟩
      else .ok { s with fuzz := fuzz }

/-- The session the hook leaves behind. -/
def PolicyAnswer.apply (p : PolicyAnswer) (s : TestSession) : TestSession :=
  { s with testSpec := p.testSpec, reserveTime := p.reserveTime, toolPort := p.toolPort }

/-- The hook and the validation of the tool.  A hook that fails with a severity goes to `error` with
    the accept value of the request that was read. -/
def consultPolicy (env : TestRequestEnv) (s : TestSession) : Except TestRefusal TestSession :=
  let p := env.checkTestPolicy s
  let s := p.apply s
  if !p.granted then
    if p.err.prio < ErrSeverity.ok.prio then .error ⟨p.err, .accept, s⟩
    else .error ⟨.info, .reject, s⟩
  else if !env.validateTest s.testSpec then .error ⟨.warning, .unsupported, s⟩
  else .ok s

/-- `BWLProcessTestRequest`, after `BWLReadRequestType`: the connection, the severity and the blocks
    that were sent. -/
def processTestRequest (env : TestRequestEnv) (c : Conn) (r : Recv) :
    Conn × ErrSeverity × List Block :=
  let update := c.tests.isSome
  match readTestRequest env.tools env.allocOk c r with
  | (c, .error e) => (c, if e.acceptval = .invalid then .fatal else .warning, [])
  | (c, .ok s) =>
    match prepareTest env update s >>= consultPolicy env with
    | .ok s =>
      let (c, err, out) := writeTestAccept c env.answerSent .accept s
      if err.prio < ErrSeverity.ok.prio then (c.free, err, out)
      else ({ c with tests := some s }, .ok, out)
    | .error e =>
      if e.err.prio < ErrSeverity.warning.prio then (c.free, e.err, [])
      else
        let (c, _, out) := writeTestAccept c env.answerSent e.acceptval e.session
        (c.free, e.err, out)

/-! ## The other requests -/

/-- `BWLProcessTimeRequest`. -/
def processTimeRequest (timeStamp : Option BWLTimeStamp) (sent : Bool) (c : Conn) (r : Recv) :
    Conn × ErrSeverity × List Block :=
  let (c, err) := readTimeRequest c r
  if err.prio < ErrSeverity.ok.prio then (c.fail, err, [])
  else
    match timeStamp with
    | none => (c.fail, .fatal, [])
    | some t =>
      let (c, err, out) := writeTimeResponse c sent t
      if err.prio < ErrSeverity.ok.prio then (c.fail, err, out) else (c, .ok, out)

/-- What `_BWLEndpointStart` comes back with: the port of the peer, or a severity. -/
inductive EndpointStart where
  | started (peerport : UInt16)
  | failed (err : ErrSeverity)
  deriving DecidableEq

/-- `BWLProcessStartSession`; the endpoint gets the port of the peer. -/
def processStartSession (endpointStart : Option UInt16 → EndpointStart) (sent : Sent) (c : Conn)
    (r : Recv) : Conn × ErrSeverity × List Block :=
  let (c, err, peerport) := readStartSession c r
  if err.prio < ErrSeverity.ok.prio then (c.fail, err, [])
  else
    match endpointStart peerport with
    | .failed err =>
      let (c, _, out) := writeStartAck c sent 0 .failure
      (c.fail, err, out)
    | .started peerport =>
      let (c, err, out) := writeStartAck c sent peerport .accept
      if err.prio < ErrSeverity.ok.prio then (c.fail, err, out) else (c, .ok, out)

/-! ## The end of a test -/

/-- What `_BWLEndpointStop` comes upon: the process of the endpoint has not ended yet, `killpg` fails
    (with another error than `ESRCH`), and `waitpid` reports an exit. -/
structure EndpointProcess where
  running : Bool
  killFails : Bool
  exits : Bool

/-- `_BWLEndpointStop`: the severity.  A process that is not to be killed is only waited for. -/
def endpointStop (dontKill : Bool) (ep : EndpointProcess) : ErrSeverity :=
  if !ep.running then .ok
  else if !dontKill && ep.killFails then .fatal
  else if ep.exits then .ok
  else .warning

/-- The process around one exchange of StopSession messages: the end of the local endpoint, the files
    of the session, the writes and the clean-up. -/
structure StopEnv where
  endpoint : EndpointProcess
  localfp : Option DataFile
  remotefp : Option ResultFile
  sent : StopSent
  results : ErrSeverity
  freed : ErrSeverity

/-- The severity of stopping the local endpoint. -/
def StopEnv.stopErr (env : StopEnv) (dontKill : Bool) : ErrSeverity :=
  endpointStop dontKill env.endpoint

/-- The smaller of two severities. -/
def ErrSeverity.min (a b : ErrSeverity) : ErrSeverity := if b.prio < a.prio then b else a

/-- The number of an accept value. -/
def AcceptType.code : AcceptType → Int
  | .invalid => -1
  | .accept => 0
  | .reject => 1
  | .failure => 2
  | .unsupported => 4

/-- What a call that exchanges StopSession messages leaves behind: the severity, the two values that
    are passed in and out, the file with the results, the blocks that were sent, and the record
    `BWLReadRequestType` was called with and what it returned. -/
structure StopResult where
  conn : Conn
  wire : Wire
  err : ErrSeverity
  acceptval : AcceptType
  intr : Int
  remotefp : Option ResultFile
  out : List Block
  asked : Option (Conn × RequestType)
  deriving DecidableEq

/-- The accept value and the file of a side whose endpoint was stopped. -/
def afterStop (failed : Bool) (acceptval : AcceptType) (localfp : Option DataFile) :
    AcceptType × Option DataFile :=
  if failed then (.failure, none) else (acceptval, localfp)

/-- `BWLStopSession`: the accept value and the interrupt flag are passed to `_BWLReadStopSession` in
    each other's place. -/
def stopSession (env : StopEnv) (c : Conn) (w : Wire) (intr : Int) (acceptval : AcceptType) :
    StopResult :=
  if c.tests.isNone then ⟨c, w, .ok, acceptval, intr, env.remotefp, [], none⟩
  else
    let stopErr := env.stopErr false
    let failed : Bool := acceptval = .accept ∧ stopErr.prio < ErrSeverity.warning.prio
    let (acceptval, fp) := afterStop failed acceptval env.localfp
    let (c, err, out) := writeStopSession c env.sent acceptval fp
    if err.prio < ErrSeverity.warning.prio then
      ⟨c.fail, w, .fatal, acceptval, intr, env.remotefp, out, none⟩
    else
      let err2 := err.min stopErr
      let asked := c
      let (c, msgtype, w) := nextRequest c w
      let asked := some (asked, msgtype)
      if msgtype ≠ .stopSession then
        ⟨c.fail, w, .fatal, acceptval, intr, env.remotefp, out, asked⟩
      else
        let read := readStopSession c w env.remotefp
        let intr := read.acceptval.elim intr (·.code)
        if read.err ≠ .ok then
          ⟨read.conn.fail, read.wire, read.err, acceptval, intr, read.fp, out, asked⟩
        else
          let err2 := env.results.min (read.err.min err2)
          ⟨read.conn.free.leave stateTest, read.wire, env.freed.min err2, acceptval, intr, read.fp,
            out, asked⟩

/-- What `BWLStopSessionWait` comes upon after the last time it went back to `select`. -/
inductive WaitEvent where
  | clockFailed
  | selectError
  | interrupted
  | ended (acceptval : AcceptType)
  | timeout
  | notReady
  | readable
  deriving DecidableEq

/-- `BWLSessionsActive`: the endpoint is running, or has the accept value of its end. -/
inductive Sessions where
  | active
  | inactive (acceptval : AcceptType)
  deriving DecidableEq

/-- `BWLStopSessionWait` from the message of the peer on. -/
def answerStop (env : StopEnv) (c : Conn) (w : Wire) (intr : Int) : Int × StopResult :=
  let asked := c
  let (c, msgtype, w) := nextRequest c w
  let asked := some (asked, msgtype)
  if msgtype ≠ .stopSession then
    (-1, ⟨c.fail, w, .fatal, .accept, intr, env.remotefp, [], asked⟩)
  else
    let read := readStopSession c w env.remotefp
    let acceptval := read.acceptval.getD .accept
    if read.err ≠ .ok then
      (-1, ⟨read.conn.fail, read.wire, read.err, acceptval, intr, read.fp, [], asked⟩)
    else
      -- `dont_kill`: after an accept the endpoint is left to its own end
      let stopErr := env.stopErr (acceptval = .accept)
      let (acceptval, fp) := afterStop (stopErr.prio < ErrSeverity.warning.prio) acceptval
        env.localfp
      let (c, err2, out) := writeStopSession read.conn env.sent acceptval fp
      let c := if err2 ≠ .ok then c.fail else c
      let err := env.freed.min (env.results.min (err2.min (stopErr.min read.err)))
      (0, ⟨c.free.leave stateTest, read.wire, err, acceptval, intr, read.fp, out, asked⟩)

/-- `BWLStopSessionWait`: the return value, and the rest. -/
def stopSessionWait (env : StopEnv) (sessions : Sessions) (event : WaitEvent) (c : Conn) (w : Wire)
    (intr : Int) : Int × StopResult :=
  let same (err : ErrSeverity) (c : Conn) : StopResult :=
    ⟨c, w, err, .accept, intr, env.remotefp, [], none⟩
  match sessions with
  | .inactive acceptval => (0, stopSession env c w intr acceptval)
  | .active =>
    match event with
    | .clockFailed => (-1, same .ok c)
    | .selectError => (-1, same .fatal c)
    | .interrupted => (2, same .ok c)
    | .ended acceptval => (0, stopSession env c w intr acceptval)
    | .timeout => (1, same .ok c)
    | .notReady => (-1, same .fatal c.fail)
    | .readable => answerStop env c w intr

/-! ## The loop of a child (`NewConnection`, `bwctld/bwctld.c`) -/

/-- Where the loop is: about to read a request, waiting for the end of a test, or at `done`. -/
inductive LoopPoint where
  | request
  | waiting
  | done
  deriving DecidableEq, Repr

/-- A child with its connection. -/
structure Child where
  point : LoopPoint
  conn : Conn
  wire : Wire

/-- The process around one round of the loop. -/
structure LoopEnv where
  timer : Bool
  request : TestRequestEnv
  timeStamp : Option BWLTimeStamp
  timeSent : Bool
  endpointStart : Option UInt16 → EndpointStart
  ackSent : Sent
  exit : Bool
  sessions : Sessions
  waitSessions : Sessions
  wait : WaitEvent
  stop : StopEnv

/-- What the loop does with messages: `BWLReadRequestType` is called, it returns a message, the
    endpoint of the test is started. -/
inductive LoopEvent where
  | read (c : Conn)
  | message (c : Conn) (t : RequestType)
  | start (c : Conn)

/-- The events of one call of `BWLReadRequestType`. -/
def askEvents (c : Conn) (t : RequestType) : List LoopEvent :=
  if t.number.isSome then [.read c, .message c t] else [.read c]

/-- What one round of the loop leaves behind, does and sends. -/
structure Round where
  child : Child
  events : List LoopEvent
  out : List Block

/-- `nextreq:`, with the severity of the request. -/
def nextReq (err : ErrSeverity) (c : Conn) (w : Wire) : Child :=
  if err.prio < ErrSeverity.warning.prio then ⟨.done, c, w⟩ else ⟨.request, c, w⟩

/-- One round of the loop up to the wait for the end of a test. -/
def serveRequest (env : LoopEnv) (c : Conn) (w : Wire) : Round :=
  let asked := c
  let (c, t, w) := nextRequest c w
  let events := askEvents asked t
  match t with
  | .test =>
    let (r, w) := w.recv (requestBlocks c.protocolVersion - 1)
    let (c, err, out) := processTestRequest env.request c r
    ⟨nextReq err c w, events, out⟩
  | .time =>
    let (r, w) := w.recv 1
    let (c, err, out) := processTimeRequest env.timeStamp env.timeSent c r
    ⟨nextReq err c w, events, out⟩
  | .startSession =>
    let (r, w) := if c.tests.isSome then w.recv 1 else (.closed, w)
    let events := if (readStartSession c r).2.1 = .ok then
      events ++ [.start (readStartSession c r).1] else events
    let (c, err, out) := processStartSession env.endpointStart env.ackSent c r
    if err.prio < ErrSeverity.ok.prio then ⟨nextReq err c w, events, out⟩
    else if !env.timer || env.exit then ⟨⟨.done, c, w⟩, events, out⟩
    else ⟨⟨.waiting, c, w⟩, events, out⟩
  | _ => ⟨nextReq .fatal c w, events, []⟩

/-- The events of an exchange of StopSession messages. -/
def stopEvents (r : StopResult) : List LoopEvent := r.asked.elim [] fun a => askEvents a.1 a.2

/-- One round of the wait for the end of a test, or the exchange behind it. -/
def awaitEnd (env : LoopEnv) (c : Conn) (w : Wire) : Round :=
  match env.sessions with
  | .active =>
    let (wstate, r) := stopSessionWait env.stop env.waitSessions env.wait c w 0
    if env.exit ∨ wstate < 0 then ⟨⟨.done, r.conn, r.wire⟩, stopEvents r, r.out⟩
    else if wstate = 0 then ⟨nextReq r.err r.conn r.wire, stopEvents r, r.out⟩
    else ⟨⟨.waiting, r.conn, r.wire⟩, stopEvents r, r.out⟩
  | .inactive _ =>
    if !env.timer then ⟨⟨.done, c, w⟩, [], []⟩
    else
      let r := stopSession env.stop c w 0 .accept
      ⟨nextReq r.err r.conn r.wire, stopEvents r, r.out⟩

/-- One round of the loop; behind `done` there is none. -/
def childStep (env : LoopEnv) (s : Child) : Round :=
  match s.point with
  | .request =>
    if !env.timer then ⟨{ s with point := .done }, [], []⟩ else serveRequest env s.conn s.wire
  | .waiting => awaitEnd env s.conn s.wire
  | .done => ⟨s, [], []⟩

end Bwctl
