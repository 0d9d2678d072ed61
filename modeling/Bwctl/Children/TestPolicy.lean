import Bwctl.Broker.Daemon

/-!
# The policy of a test request in a child (`BWLDCheckTestPolicy`, `BWLDTestComplete`)

A child decides the fixed limits of a new request by itself, from its copy of the limits tree,
and then asks the broker for one unit of `pending` and for a reservation; an update of a
reservation asks for the reservation only.  `BWLDTestComplete` gives the unit back and reports
the test as complete.  Every question waits for its answer, so a call is a list of points at
which the child waits: `Pc`, with what is in the pipe.

* `admitRequest` — the checks of a new request.
* `Proc.checkTestPolicy` — a call up to its first question.
* `Proc.testComplete` — the end of a session up to its first question.
* `Proc.receive` — how a call goes on when an answer was read.
-/

set_option autoImplicit false

namespace Bwctl

open Significand

def BWLDMESGINVALID : BWLDMesgT := 0x0

/-! ## The checks of a new request -/

/-- The fields of `BWLTestSpec` the policy reads; addresses as numeric hosts. -/
structure TestSpec where
  client : String
  server : String
  reqTime : Num64
  latestTime : Num64
  serverSends : Bool
  noServerEndpoint : Bool
  duration : UInt32
  toolId : BWLToolType
  udp : Bool
  bandwidth : UInt64
  omit_ : UInt8
  tracerouteFirstTtl : UInt8
  deriving DecidableEq

/-- The arguments of `BWLDCheckTestPolicy` and `BWLGetRTTBound`. -/
structure TestRequest where
  sid : SID
  localClient : Bool
  tspec : TestSpec
  fuzzTime : Num64
  rttBound : Num64
  toolPort : UInt16
  deriving DecidableEq

/-- What the checks read besides the limits: `BWLAllowUnsync`, `BWLNTPIsSynchronized`,
    `BWLCntrlIsLocal`. -/
structure HostState where
  allowUnsync : Bool
  synchronized : Bool
  cntrlIsLocal : Bool
  deriving DecidableEq

/-- `duration + omit`, a 32-bit sum. -/
def TestSpec.length (t : TestSpec) : UInt32 := t.duration + t.omit_.toUInt32

/-- `(BWLDLimitT)ceil(BWLNum64ToDouble(fuzz_time))`: the conversion rounds to 53 bits, the
    division by `2 ^ 32` is exact. -/
def ceilSeconds (fuzzTime : Num64) : BWLDLimitT :=
  UInt64.ofNat ((roundSig 53 fuzzTime.toNat + (2 ^ 32 - 1)) / 2 ^ 32)

/-- `BWLDResourceDemand` in the child, for a limit that is not consumed. -/
def demandFixed (node : PolicyNode) (used : Used) (lim : BWLDMesgT) (value : BWLDLimitT) : Bool :=
  (resourceDemand node BWLDMESGREQUEST ⟨lim, value⟩ used).1

/-- The first TTL of the request: refused below the minimum, filled in when it is zero. -/
def admitFirstTtl (node : PolicyNode) (r : TestRequest) : Option TestSpec :=
  if (r.localClient && !r.tspec.serverSends) || (!r.localClient && r.tspec.serverSends) then
    match getFixedLimit node BWLDLimMinimumTTL with
    | none => some r.tspec
    | some minimumTtl =>
      if minimumTtl > 0 ∧ r.tspec.tracerouteFirstTtl > 0 ∧
          r.tspec.tracerouteFirstTtl.toUInt64 < minimumTtl then none
      else if r.tspec.tracerouteFirstTtl = 0 then
        some { r.tspec with tracerouteFirstTtl := minimumTtl.toUInt8 }
      else some r.tspec
  else some r.tspec

/-- "VALIDATE THE REQUEST!"; the duration is demanded twice, as in the source. -/
def admitRequest (host : HostState) (node : PolicyNode) (used : Used) (r : TestRequest) :
    Option TestSpec :=
  if !host.allowUnsync && !host.synchronized then none
  else if !demandFixed node used BWLDLimDuration r.tspec.length.toUInt64 then none
  else if !demandFixed node used BWLDLimDuration r.tspec.length.toUInt64 then none
  else if !demandFixed node used BWLDLimMaxTimeError (ceilSeconds r.fuzzTime) then none
  else if r.tspec.toolId &&& 0xffffffff = 0 then none
  else if r.tspec.udp && !demandFixed node used BWLDLimAllowUDP 1 then none
  else if r.tspec.udp && !demandFixed node used BWLDLimBandwidth r.tspec.bandwidth then none
  else if !r.tspec.udp && !demandFixed node used BWLDLimAllowTCP 1 then none
  else if r.localClient && r.tspec.noServerEndpoint && !host.cntrlIsLocal &&
      !demandFixed node used BWLDLimAllowNoEndpoint 1 then none
  else admitFirstTtl node r

/-! ## A child and its pipe -/

/-- `BWLDTestInfoRec`, the closure of a session. -/
structure TestInfo where
  node : PolicyNode
  sid : SID
  res : LimRec
  deriving DecidableEq

/-- What a child writes to the broker. -/
inductive PipeMesg where
  | className (name : String)
  | resource (query : BWLDMesgT) (lim : LimRec)
  | reservation (query : ReservationQuery)
  | complete (sid : SID)
  deriving DecidableEq

/-- The message as the broker reads it, with what the demand will read from outside. -/
def PipeMesg.read (env : DemandEnv) : PipeMesg → ChldMesg
  | className name => .className name
  | resource query lim => .resource query lim
  | reservation query => .reservation query env
  | complete sid => .complete sid

/-- The `BWLDMesgT` a child takes from an answer; `SIGTERM` interrupts a read that finds none. -/
def ChldReply.read : ChldReply → BWLDMesgT
  | response mesg => mesg
  | reservation mesg _ _ => mesg
  | err mesg => mesg.getD BWLDMESGINVALID

/-- One question at a time is on its way to the broker, or its answer back. -/
inductive Pipe where
  | empty
  | query (mesg : PipeMesg)
  | reply (r : ChldReply)
  deriving DecidableEq

/-- Where a child is: in `BWLDSendClass`, between two requests, at one of the two questions of
    `BWLDCheckTestPolicy` or of `BWLDTestComplete`, or refused by the broker. -/
inductive Pc where
  | classing
  | ready
  | checking (tinfo : TestInfo) (r : TestRequest)
  | reserving (tinfo : TestInfo) (r : TestRequest)
  | releasing (tinfo : TestInfo)
  | completing (tinfo : TestInfo)
  | refused
  deriving DecidableEq

/-- A connection child: its class, the counters as they were when it was forked, and the fields of
    its session that the policy sets. -/
structure Proc where
  pid : UInt32
  node : PolicyNode
  used : Used
  closure : Option TestInfo
  reserveTime : Num64
  toolPort : UInt16
  localToolPort : UInt16
  pc : Pc
  pipe : Pipe

namespace Proc

/-- A new child that sends its class. -/
def start (pid : UInt32) (node : PolicyNode) (used : Used) : Proc :=
  ⟨pid, node, used, none, 0, 0, 0, .classing, .query (.className node.nodename)⟩

/-- The child sends a question and waits. -/
def ask (p : Proc) (pc : Pc) (mesg : PipeMesg) : Proc := { p with pc := pc, pipe := .query mesg }

/-- The broker has answered. -/
def answer (p : Proc) (reply : ChldReply) : Proc := { p with pipe := .reply reply }

/-- `BWLDReservationQuery`. -/
def askReservation (p : Proc) (tinfo : TestInfo) (r : TestRequest) : Proc :=
  p.ask (.reserving tinfo r) <| .reservation
    { sid := tinfo.sid
      rtime := r.tspec.reqTime
      ftime := r.fuzzTime
      ltime := r.tspec.latestTime
      duration := r.tspec.length
      rtttime := r.rttBound
      toolport := r.toolPort
      toolId := r.tspec.toolId
      sender := if r.tspec.serverSends then r.tspec.server else r.tspec.client
      receiver := if r.tspec.serverSends then r.tspec.client else r.tspec.server }

/-- The label `done`: the closure is gone, and the session is freed without it. -/
def done (p : Proc) : Proc := { p with closure := none, pc := .ready, pipe := .empty }

/-- `BWLDCheckTestPolicy` up to its first question. -/
def checkTestPolicy (p : Proc) (host : HostState) (r : TestRequest) : Proc :=
  match p.closure with
  | some tinfo => p.askReservation tinfo r
  | none =>
    match admitRequest host p.node p.used r with
    | none => p.done
    | some tspec =>
      p.ask (.checking ⟨p.node, r.sid, pendingUnit⟩ { r with tspec := tspec })
        (.resource BWLDMESGREQUEST pendingUnit)

/-- `BWLDTestComplete` up to its first question. -/
def testComplete (p : Proc) (tinfo : TestInfo) : Proc :=
  if tinfo.res.limit = 0 then p.ask (.completing tinfo) (.complete tinfo.sid)
  else p.ask (.releasing tinfo) (.resource BWLDMESGRELEASE tinfo.res)

/-- `*reservation_ret`, `*tool_port_ret` and `*local_tool_port_ret`; the time is set also by an
    answer that denies. -/
def setReservation (p : Proc) (r : TestRequest) (reply : ChldReply) : Proc :=
  match reply with
  | .reservation mesg restime toolport =>
    if mesg = BWLDMESGOK then
      { p with
        reserveTime := restime
        toolPort := if r.localClient then r.toolPort else toolport
        localToolPort := toolport }
    else { p with reserveTime := restime }
  | _ => p

/-- How the child goes on with an answer. -/
def receive (p : Proc) (reply : ChldReply) : Proc :=
  match p.pc with
  | .classing =>
    { p with pc := if reply.read = BWLDMESGOK then .ready else .refused, pipe := .empty }
  | .checking tinfo r =>
    if reply.read = BWLDMESGOK then p.askReservation tinfo r else p.done
  | .reserving tinfo r =>
    let p := p.setReservation r reply
    if reply.read = BWLDMESGOK then { p with closure := some tinfo, pc := .ready, pipe := .empty }
    else p.done
  | .releasing tinfo => p.ask (.completing tinfo) (.complete tinfo.sid)
  | .completing _ => p.done
  | .ready => p
  | .refused => p

@[simp] theorem setReservation_node (p : Proc) (r : TestRequest) (reply : ChldReply) :
    (p.setReservation r reply).node = p.node := by
  unfold setReservation
  repeat' split
  all_goals rfl

@[simp] theorem setReservation_pid (p : Proc) (r : TestRequest) (reply : ChldReply) :
    (p.setReservation r reply).pid = p.pid := by
  unfold setReservation
  repeat' split
  all_goals rfl

/-- A child never changes its class or its process id. -/
theorem receive_ident (p : Proc) (reply : ChldReply) :
    (p.receive reply).node = p.node ∧ (p.receive reply).pid = p.pid := by
  unfold receive
  split
  case h_2 => split <;> exact ⟨rfl, rfl⟩
  case h_3 => dsimp only; split <;> simp [done]
  all_goals exact ⟨rfl, rfl⟩

theorem checkTestPolicy_ident (p : Proc) (host : HostState) (r : TestRequest) :
    (p.checkTestPolicy host r).node = p.node ∧ (p.checkTestPolicy host r).pid = p.pid := by
  unfold checkTestPolicy
  split
  · exact ⟨rfl, rfl⟩
  · split <;> exact ⟨rfl, rfl⟩

theorem testComplete_ident (p : Proc) (tinfo : TestInfo) :
    (p.testComplete tinfo).node = p.node ∧ (p.testComplete tinfo).pid = p.pid := by
  unfold testComplete
  split <;> exact ⟨rfl, rfl⟩

end Proc

end Bwctl
