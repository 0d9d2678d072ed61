import Bwctl.Control.OfferedModes
import Bwctl.Protocol.Client

/-!
# The process of an endpoint (`_BWLEndpointStart`, `bwlib/endpoint.c`)

The agent `_BWLEndpointStart` forks connects to its peer, forks the tool, exchanges times with the
peer, waits for the end of the test, and trades results.  It exits with a combination of two
statuses.  What the process meets on the way, the signals that arrive at every point, the outcome of
its system calls and the messages of the peer, is in an `AgentEnv`; a signal that arrives is never
forgotten.

* `setup` — from the fork to the peer connection and the fork of the tool.
* `runTest` — from there to the end of the tool.
* `tradeResults` — the exchange of StopSession messages.
* `agent` — the whole process, and how it exits.
-/

set_option autoImplicit false

namespace Bwctl

/-! ## Signals -/

/-- The signals an agent catches. -/
inductive Signal where
  | term
  | int
  | hup
  | alrm
  | chld
  deriving DecidableEq, Repr

/-- `ipf_term`, `ipf_intr`, `ipf_alrm` and `ipf_chld`, which are asked only whether they are zero. -/
structure Caught where
  term : Bool
  intr : Bool
  alrm : Bool
  chld : Bool
  deriving DecidableEq, Repr

/-- `sig_catch`: a child that ends interrupts no I/O. -/
def Caught.sigCatch (f : Caught) : Signal → Caught
  | .term | .int | .hup => { f with term := true, intr := true }
  | .alrm => { f with alrm := true, intr := true }
  | .chld => { f with chld := true }

def Caught.arrived (f : Caught) (signals : List Signal) : Caught := signals.foldl Caught.sigCatch f

/-! ## How the agent exits -/

/-- `exit(BWL_CNTRL_FAILURE)`, or `end:` with the remote and the local status. -/
inductive AgentExit where
  | failure
  | ended (aval acceptval : AcceptType)
  deriving DecidableEq, Repr

/-- `goto end` before there is a status: what `aval` and `ep->acceptval` are initialized to. -/
def AgentExit.early : AgentExit := .ended .failure .invalid

/-- The status the parent sees; `exit` keeps eight bits of `aval & acceptval`. -/
def AgentExit.status : AgentExit → BitVec 8
  | .failure => BitVec.ofInt 8 AcceptType.failure.code
  | .ended aval acceptval =>
    (BitVec.ofInt 32 aval.code &&& BitVec.ofInt 32 acceptval.code).truncate 8

/-! ## From the fork to the fork of the tool -/

/-- The process around an agent that sets up: `control` is `BWLControlAccept` or `BWLControlOpen`. -/
structure SetupEnv where
  handlers : Bool
  pending : List Signal
  context : Bool
  clock : Option BWLTimeStamp
  timer : Bool
  addresses : Bool
  accepted : Bool
  control : SessionMode → Option (Conn × Wire)
  signals : List Signal
  forked : Bool

/-- The connection to the peer; the server waits for it and the client opens it. -/
def peerConnection (env : SetupEnv) (mode : SessionMode) (s : TestSession) :
    Except AgentExit (Option (Conn × Wire)) :=
  if s.testSpec.noServerEndpoint then .ok none
  else if !env.addresses then .error .early
  else if s.confServer && !env.accepted then .error .early
  else .ok (env.control (endpointMode mode))

/-- The agent up to the fork of the tool: what it caught, and the connection to the peer. -/
def setup (env : SetupEnv) (mode : SessionMode) (s : TestSession) :
    Except AgentExit (Caught × Option (Conn × Wire)) :=
  if !env.handlers then .error .failure
  else
    let caught := Caught.arrived ⟨false, false, false, false⟩ env.pending
    if caught.term then .error .failure
    else if !env.context then .error .early
    else
      match env.clock with
      | none => .error .early
      | some currtime =>
        if s.reserveTime < currtime.tstamp then .error .early
        else if !env.timer then .error .early
        else
          match peerConnection env mode s with
          | .error stop => .error stop
          | .ok rcntrl =>
            let caught := caught.arrived env.signals
            if (!s.testSpec.noServerEndpoint && rcntrl.isNone) || caught.term || caught.alrm then
              .error .early
            else if !env.forked then .error .failure
            else .ok (caught, rcntrl)

/-! ## The end of the tool -/

/-- How the process of the tool ends. -/
inductive ToolEnd where
  | exited (status : UInt8)
  | signaled
  deriving DecidableEq, Repr

/-- What `waitpid` comes back with. -/
inductive WaitPid where
  | failed
  | running
  | ended (tool : ToolEnd)
  deriving DecidableEq, Repr

/-- `waitpid` without `WNOHANG`: it fails, or the process has ended. -/
def WaitPid.blocking : Option ToolEnd → WaitPid
  | none => .failed
  | some tool => .ended tool

/-- The accept value of a tool that ended; a signal is not held against one the agent killed. -/
def ToolEnd.acceptval (killed : Bool) : ToolEnd → AcceptType
  | .exited status => if status ≠ 0 then .failure else .accept
  | .signaled => if killed then .reject else .failure

/-- `_BWLEndpointStatus`: the accept value of the endpoint; `none` is the return value `False`. -/
def endpointStatus (killed : Bool) (acceptval : AcceptType) (p : WaitPid) : Option AcceptType :=
  if acceptval.code < 0 then
    match p with
    | .failed => none
    | .running => some acceptval
    | .ended tool => some (tool.acceptval killed)
  else some acceptval

/-! ## From the fork of the tool to its end -/

/-- The process around an agent that waits for the end of its tool: `clocksApart` compares the time
    of the peer with the times before and after, in floating point. -/
structure TestEnv where
  clock : Option BWLTimeStamp
  timer : Bool
  atStart : List Signal
  timeClock : Option BWLTimeStamp
  timeSent : Bool
  clocksApart : BWLTimeStamp → BWLTimeStamp → BWLTimeStamp → Bool
  atTime : List Signal
  readable : Bool
  inTest : List Signal
  kill : Bool
  atKill : List Signal
  ready : Bool
  wait : WaitPid
  sigkill : Bool
  lastWait : Option ToolEnd

/-- The exchange of times with the peer; clocks that are too far apart interrupt the agent. -/
def exchangeTimes (env : TestEnv) (s : TestSession) (currtime : BWLTimeStamp) (caught : Caught)
    (c : Conn) (w : Wire) : Except AgentExit (Caught × Conn × Wire) :=
  if s.confServer then
    let (c, msgtype, w) := nextRequest c w
    if msgtype ≠ .time then .error .early
    else
      let (r, w) := w.recv 1
      let (c, err, _) := processTimeRequest env.timeClock env.timeSent c r
      if err ≠ .ok then .error .early else .ok (caught, c, w)
  else
    let (c, w, err, rtime, _) := controlTimeCheck env.timeSent c w
    if err ≠ .ok then .error .early
    else
      match env.timeClock with
      | none => .error .early
      | some currtime2 =>
        if rtime.any (env.clocksApart currtime currtime2) then
          .ok ({ caught with intr := true }, c, w)
        else .ok (caught, c, w)

/-- The exchange with a peer, after which its connection is in "test" mode. -/
def meetPeer (env : TestEnv) (s : TestSession) (currtime : BWLTimeStamp) (caught : Caught) :
    Option (Conn × Wire) → Except AgentExit (Caught × Option (Conn × Wire))
  | none => .ok (caught, none)
  | some (c, w) =>
    match exchangeTimes env s currtime caught c w with
    | .error stop => .error stop
    | .ok (caught, c, w) =>
      .ok (caught, some ({ c with tests := some s }.enter stateTest, w))

/-- What the agent's `select` came back with, if it was called. -/
inductive Selected where
  | nothing
  | readable
  | failed
  deriving DecidableEq, Repr

/-- `while(!rc && !ipf_intr)`: without a connection to the peer only a signal ends it. -/
def waitEvent (env : TestEnv) (caught : Caught) (rcntrl : Option (Conn × Wire)) : Selected :=
  if caught.intr then .nothing
  else if rcntrl.isSome && env.readable then .readable
  else .failed

/-- An agent whose tool has ended: whether it killed the tool, and the local status. -/
structure ToolEnded where
  caught : Caught
  rcntrl : Option (Conn × Wire)
  rc : Selected
  killed : Bool
  acceptval : AcceptType

/-- The status of the tool; one that is still running is killed for good and waited for. -/
def toolStatus (env : TestEnv) (killed : Bool) : Except AgentExit AcceptType :=
  match endpointStatus killed .invalid env.wait with
  | none => .error .failure
  | some acceptval =>
    if acceptval.code < 0 then
      if !env.sigkill then .error .failure
      else
        match endpointStatus killed acceptval (.blocking env.lastWait) with
        | none => .error .failure
        | some acceptval => .ok acceptval
    else .ok acceptval

/-- The agent from the wait for the end of the test to the status of the tool. -/
def awaitTool (env : TestEnv) (caught : Caught) (rcntrl : Option (Conn × Wire)) :
    Except AgentExit ToolEnded :=
  let caught := caught.arrived env.atTime
  let rc := waitEvent env caught rcntrl
  let caught := caught.arrived env.inTest
  if !caught.chld && !env.kill then .error .failure
  else
    let killed := !caught.chld
    let caught := caught.arrived env.atKill
    if caught.term then .error .early
    else if rc = .readable ∧ !env.ready then .error .early
    else
      match toolStatus env killed with
      | .error stop => .error stop
      | .ok acceptval => .ok ⟨caught, rcntrl, rc, killed, acceptval⟩

/-- The agent from the fork of the tool to its end. -/
def runTest (env : TestEnv) (s : TestSession) (caught : Caught) (rcntrl : Option (Conn × Wire)) :
    Except AgentExit ToolEnded :=
  match env.clock with
  | none => .error .early
  | some currtime =>
    if s.reserveTime < currtime.tstamp then .error .early
    else if !env.timer then .error .early
    else
      let caught := caught.arrived env.atStart
      if caught.term then .error .early
      else
        match meetPeer env s currtime caught rcntrl with
        | .error stop => .error stop
        | .ok (caught, rcntrl) => awaitTool env caught rcntrl

/-! ## The results -/

/-- The process around an agent that trades results. -/
structure TradeEnv where
  timer : Bool
  localfp : Option DataFile
  remotefp : Option ResultFile
  sent : StopSent
  readable : Bool
  signals : List Signal

/-- The StopSession messages; what was read of the peer's, if `_BWLReadStopSession` was called. -/
def tradeResults (env : TradeEnv) (t : ToolEnded) : Option StopRead :=
  match t.rcntrl with
  | none => none
  | some (c, w) =>
    if !env.timer then none
    else
      let (c, err, _) := writeStopSession c env.sent t.acceptval env.localfp
      if err ≠ .ok then none
      else if (t.caught.arrived env.signals).term then none
      else if t.rc ≠ .readable ∧ !env.readable then none
      else
        let (c, msgtype, w) := nextRequest c w
        if msgtype ≠ .stopSession then none
        else some (readStopSession c w env.remotefp)

/-- The remote status: what `_BWLReadStopSession` stored, and else what it is initialized to. -/
def remoteStatus (read : Option StopRead) : AcceptType := (read.bind (·.acceptval)).getD .failure

/-! ## The whole process -/

/-- The process around an agent. -/
structure AgentEnv where
  setup : SetupEnv
  test : TestEnv
  trade : TradeEnv

/-- The agent up to the end of its tool. -/
def untilToolEnd (env : AgentEnv) (mode : SessionMode) (s : TestSession) :
    Except AgentExit ToolEnded :=
  match setup env.setup mode s with
  | .error stop => .error stop
  | .ok (caught, rcntrl) => runTest env.test s caught rcntrl

/-- The child of `_BWLEndpointStart`. -/
def agent (env : AgentEnv) (mode : SessionMode) (s : TestSession) : AgentExit :=
  match untilToolEnd env mode s with
  | .error stop => stop
  | .ok t => .ended (remoteStatus (tradeResults env.trade t)) t.acceptval

end Bwctl
