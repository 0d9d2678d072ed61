import Bwctl.Client.ToolChoice
import Bwctl.Protocol.Client
import Bwctl.Protocol.TimeStamps

/-!
# Negotiating the time of a test (`negotiate_test`, `bwctl/bwctl.c`)

The client asks the daemon of the server's side and the daemon of the client's side in turn, each for
the time the other has granted, until both reservations are for the same time.  When that fails it
cancels what it has requested.  A daemon is any machine that answers what is sent to it; the process
around the client (clock, addresses, signals, outcomes of writes) is in a `NegotiationEnv`.

* `IpSess.request` — `BWLSessionRequest` with the answer of the daemon.
* `negotiateIndividualTest`, `negotiateRound`, `negotiateRounds` — the requests.
* `negotiateTest` — the whole negotiation with its clean-up.
-/

set_option autoImplicit false

namespace Bwctl

/-! ## Times -/

/-- `BWLDoubleToNum64(.25)`. -/
def quarterSecond : Num64 := 0x40000000

/-! ## A session -/

/-- The tools of a context, as the requests look at them. -/
def ToolContext.table (ctx : ToolContext) : ToolTable where
  tools := ctx.tools.filterMap fun tool => toolList.find? fun p => p.1 == tool.id
  compiled := by
    intro p hp
    obtain ⟨tool, -, hfind⟩ := List.mem_filterMap.1 hp
    exact List.mem_of_find?_eq_some hfind

/-- What a call of `BWLSessionRequest` that was answered has asked for, and the answer. -/
structure RequestAnswer where
  asked : Num64
  acceptval : AcceptType
  time : Num64
  deriving DecidableEq

/-- `ipsess_t`, with the daemon at the other end of the control connection, what it has sent and the
    client has not read, and the answers so far. -/
structure IpSess (δ : Type) where
  isClient : Bool
  isLocal : Bool
  fakeDaemon : Bool
  availTools : UInt32
  rttbound : Num64
  hostTime : BWLTimeStamp
  cntrl : Conn
  tspec : BWLTestSpec
  sessionRequested : Bool
  wire : Wire
  daemon : δ
  answers : List RequestAnswer

/-- The time of the session's record. -/
def IpSess.time {δ : Type} (x : IpSess δ) : Num64 := x.tspec.reqTime.tstamp

/-- `sess->tspec.req_time.tstamp = tstamp`. -/
def IpSess.setTime {δ : Type} (x : IpSess δ) (tstamp : Num64) : IpSess δ :=
  { x with tspec := { x.tspec with reqTime := { x.tspec.reqTime with tstamp := tstamp } } }

/-- The answer a call comes back with, if it sent a request and the connection is fine. -/
def RequestResult.answer (r : RequestResult) (asked : Num64) : List RequestAnswer :=
  if r.err = .ok ∧ r.out ≠ [] then [⟨asked, r.acceptval, r.availTime⟩] else []

section Requests

variable {δ : Type} (answer : δ → List Block → δ × Wire)

/-- What the daemon sends when blocks are sent to it. -/
def IpSess.answered (x : IpSess δ) (out : List Block) : δ × Wire :=
  if out = [] then (x.daemon, []) else answer x.daemon out

/-- `BWLSessionRequest` for the record of a session, with the daemon's answer to what it sends. -/
def IpSess.request (env : RequestEnv) (x : IpSess δ) (toolPort : UInt16) (sid : SID) :
    IpSess δ × RequestResult :=
  let out := (sessionRequest env x.cntrl x.wire x.isClient x.tspec toolPort sid).out
  let (daemon, arrived) := x.answered answer out
  let r := sessionRequest env x.cntrl (x.wire ++ arrived) x.isClient x.tspec toolPort sid
  ({ x with
      cntrl := r.conn, wire := r.wire, daemon := daemon, answers := x.answers ++ r.answer x.time },
    r)

/-- The process around one call of `BWLSessionRequest`, apart from the tools of the context. -/
structure SendEnv where
  addrs : Except ErrSeverity (SockAddr × SockAddr)
  sent : Bool

def SendEnv.request (env : SendEnv) (ctx : ToolContext) : RequestEnv :=
  ⟨ctx.table, env.addrs, env.sent⟩

/-- The process around one request: `signal` is the `sig_check` of `negotiate_individual_test`, and
    `signalAfter` the one behind it. -/
structure CallEnv where
  send : SendEnv
  signal : Bool
  signalAfter : Bool

/-- What a negotiation carries along: the two sessions, the SID, the time in `req_time` and the
    port. -/
structure Negotiation (δ : Type) where
  server : IpSess δ
  client : IpSess δ
  sid : SID
  reqTime : Num64
  recvPort : UInt16

/-- What `negotiate_individual_test` returns and leaves behind. -/
structure Individual (δ : Type) where
  ok : Bool
  sess : IpSess δ
  sid : SID
  reqTime : Num64
  recvPort : UInt16

/-- `negotiate_individual_test`. -/
def negotiateIndividualTest (ctx : ToolContext) (env : CallEnv) (x : IpSess δ) (sid : SID)
    (recvPort : UInt16) : Individual δ :=
  let (x, r) := x.request answer (env.send.request ctx) recvPort sid
  if !r.granted then ⟨false, x, r.sid, r.availTime, r.toolPort⟩
  else if env.signal then ⟨false, x, r.sid, r.availTime, r.toolPort⟩
  else
    let x := { x with sessionRequested := true }
    if x.tspec.latestTime < r.availTime then ⟨false, x, r.sid, r.availTime, r.toolPort⟩
    else ⟨true, x.setTime r.availTime, r.sid, r.availTime, r.toolPort⟩

/-- The application: its tools and its options. -/
structure Application where
  ctx : ToolContext
  testType : BWLTestType
  opt : ToolOptions
  testerPort : UInt16
  seriesWindow : UInt32

/-- The port a test without a server endpoint uses. -/
def Application.clientPort (app : Application) (testSpec : BWLTestSpec) (recvPort : UInt16) :
    UInt16 :=
  if testSpec.noServerEndpoint then
    if app.testerPort ≠ 0 then app.testerPort
    else app.ctx.toolStandardTesterPortByID testSpec.toolId
  else recvPort

/-- The process around one round of the requests. -/
structure RoundEnv where
  server : CallEnv
  client : CallEnv

/-- Where a round of the requests goes on: to the next one, to `return True` or to `error_exit`. -/
inductive RoundEnd where
  | again
  | agreed
  | failed
  deriving DecidableEq, Repr

/-- The end of the loop's body. -/
def Negotiation.compare (n : Negotiation δ) : RoundEnd × Negotiation δ :=
  if n.client.time ≠ n.server.time then (.again, n) else (.agreed, n)

/-- The part of the loop's body that asks the server's side. -/
def askServer (app : Application) (env : CallEnv) (n : Negotiation δ) : Bool × Negotiation δ :=
  let r := negotiateIndividualTest answer app.ctx env (n.server.setTime n.reqTime) n.sid n.recvPort
  (r.ok && !env.signalAfter,
    { n with server := r.sess, sid := r.sid, reqTime := r.reqTime, recvPort := r.recvPort })

/-- The part of the loop's body that asks the client's side. -/
def askClient (app : Application) (env : CallEnv) (n : Negotiation δ) : Bool × Negotiation δ :=
  let r := negotiateIndividualTest answer app.ctx env (n.client.setTime n.reqTime) n.sid
    (app.clientPort n.client.tspec n.recvPort)
  (r.ok && !env.signalAfter,
    { n with client := r.sess, sid := r.sid, reqTime := r.reqTime, recvPort := r.recvPort })

/-- The body of the loop; the client's side is asked anew if its reservation is for another time. -/
def negotiateRound (app : Application) (env : RoundEnv) (n : Negotiation δ) :
    RoundEnd × Negotiation δ :=
  let (ok, n) := askServer answer app env.server n
  if !ok then (.failed, n)
  else if !n.client.sessionRequested ∨ n.client.time ≠ n.server.time then
    let (ok, n) := askClient answer app env.client n
    if !ok then (.failed, n) else n.compare
  else n.compare

/-- The loop, up to its round `k`. -/
def negotiateRounds (app : Application) (env : Nat → RoundEnv) (n : Negotiation δ) :
    Nat → RoundEnd × Negotiation δ
  | 0 => (.again, n)
  | k + 1 =>
    match negotiateRounds app env n k with
    | (.again, n) => negotiateRound answer app (env k) n
    | r => r

/-! ## The whole negotiation -/

/-- `error_exit`, for one session: cancel what was requested. -/
def cancelRequested (ctx : ToolContext) (env : SendEnv) (x : IpSess δ) (sid : SID)
    (recvPort : UInt16) : IpSess δ × SID × UInt16 :=
  if x.sessionRequested then
    let (x, r) := (x.setTime 0).request answer (env.request ctx) recvPort sid
    (x, r.sid, r.toolPort)
  else (x, sid, recvPort)

/-- `error_exit`. -/
def cleanUp (ctx : ToolContext) (client server : SendEnv) (n : Negotiation δ) : Negotiation δ :=
  let (x, sid, recvPort) := cancelRequested answer ctx client n.client n.sid n.recvPort
  let n := { n with client := x, sid := sid, recvPort := recvPort }
  let (x, sid, recvPort) := cancelRequested answer ctx server n.server n.sid n.recvPort
  { n with server := x, sid := sid, recvPort := recvPort }

/-- The process around a negotiation: the addresses `get_session_address` finds, the clock, the
    octets `sid` starts with, the rounds and the clean-up. -/
structure NegotiationEnv where
  client : Option SockAddr
  server : Option SockAddr
  clock : Option BWLTimeStamp
  garbage : SID
  rounds : Nat → RoundEnv
  cancelClient : SendEnv
  cancelServer : SendEnv

/-- The time of the first request: seven round trips and a quarter of a second from now. -/
def firstReqTime (now : BWLTimeStamp) (client server : IpSess δ) : Num64 :=
  num64Add now.tstamp
    (num64Add (num64Mult (num64Add client.rttbound server.rttbound) (uLongToNum64 7)) quarterSecond)

/-- The record of one side for its requests, with the error of the clock at the other side; the
    answers are those of this negotiation. -/
def IpSess.prepared (x : IpSess δ) (testSpec : BWLTestSpec) (noServerEndpoint : Bool)
    (hostTime : BWLTimeStamp) : IpSess δ :=
  { x with
    tspec := { testSpec with
      noServerEndpoint := testSpec.noServerEndpoint || noServerEndpoint
      reqTime := setTimeStampError testSpec.reqTime (timeStampError hostTime) }
    sessionRequested := false
    answers := [] }

/-- `negotiate_test` up to its loop: the options, and the sessions if it gets there. -/
def prepareNegotiation (app : Application) (env : NegotiationEnv) (server client : IpSess δ)
    (testOptions : BWLTestSpec) : BWLTestSpec × Option (Negotiation δ) :=
  let reqTime := env.clock.map fun now => firstReqTime now client server
  match prepareOptions app.ctx app.testType app.opt
      ⟨env.client, env.server, client.availTools, server.availTools,
        reqTime.map fun t => num64Add t (uLongToNum64 app.seriesWindow)⟩ testOptions with
  | (false, testOptions) => (testOptions, none)
  | (true, testOptions) =>
    let oneSided := server.fakeDaemon && !server.isLocal
    (testOptions, some
      { server := server.prepared testOptions oneSided client.hostTime
        client := client.prepared testOptions oneSided server.hostTime
        sid := Vector.replicate 16 0
        reqTime := reqTime.getD 0
        recvPort := 0 })

/-- What `negotiate_test` returns and leaves behind. -/
structure NegotiationResult (δ : Type) where
  ok : Bool
  testOptions : BWLTestSpec
  negotiation : Negotiation δ

/-- `negotiate_test`, if its loop ends within `k` rounds. -/
def negotiateTest (app : Application) (env : NegotiationEnv) (server client : IpSess δ)
    (testOptions : BWLTestSpec) (k : Nat) : Option (NegotiationResult δ) :=
  match prepareNegotiation app env server client testOptions with
  | (testOptions, none) =>
    some ⟨false, testOptions, cleanUp answer app.ctx env.cancelClient env.cancelServer
      ⟨server, client, env.garbage, 0, 0⟩⟩
  | (testOptions, some n) =>
    match negotiateRounds answer app env.rounds n k with
    | (.again, _) => none
    | (.agreed, n) => some ⟨true, testOptions, n⟩
    | (.failed, n) =>
      some ⟨false, testOptions, cleanUp answer app.ctx env.cancelClient env.cancelServer n⟩

end Requests

end Bwctl
