import Bwctl.Client.Negotiation
import Bwctl.Protocol.Lockstep

/-!
# The daemons of a negotiation

A daemon is a `bwctld` child that serves one request after the other.  A session of the negotiation
and its daemon are the two ends of one control connection, so a request of the negotiation is an
exchange on that line.

* `ServingEnd`, `IpSess.line` — a daemon, and the line to it.
* `request_open` — a line that works has worked before.
* `sessionRequest_spec` — what a request comes to for the client.
* `LineInv.call_sid` — an update keeps the SID.
* `Kept`, `Kept.request` — a session and its daemon, before and after a request.
-/

set_option autoImplicit false

namespace Bwctl

open Octets

/-! ## A daemon -/

/-- A child of `bwctld`, with the process around each of the rounds to come. -/
structure ServingEnd where
  child : Child
  envs : Nat → LoopEnv

/-- The round that answers a message. -/
def ServingEnd.answer (d : ServingEnd) (out : List Block) : ServingEnd × Wire :=
  let round := childStep (d.envs 0) { d.child with wire := d.child.wire ++ arrive out }
  (⟨round.child, fun k => d.envs (k + 1)⟩, arrive round.out)

/-- The hook of a daemon speaks out. -/
def ServingEnd.Outspoken (d : ServingEnd) : Prop :=
  ∀ k p, ((d.envs k).request.checkTestPolicy p).Outspoken

/-- The control connection of a session, with both its ends. -/
def IpSess.line (x : IpSess ServingEnd) : Line := ⟨x.cntrl, x.wire, x.daemon.child⟩

@[simp] theorem line_setTime (x : IpSess ServingEnd) (tstamp : Num64) :
    (x.setTime tstamp).line = x.line := rfl

/-- The call of a request. -/
def IpSess.call (x : IpSess ServingEnd) (env : RequestEnv) (toolPort : UInt16) (sid : SID) :
    ClientCall :=
  .sessionRequest env x.isClient x.tspec toolPort sid

section Request

variable (x : IpSess ServingEnd) (env : RequestEnv) (toolPort : UInt16) (sid : SID)

/-- **A request of the negotiation** is an exchange on the line. -/
theorem request_line : (x.request ServingEnd.answer env toolPort sid).1.line =
    x.line.exchange (x.call env toolPort sid) (x.daemon.envs 0) := by
  unfold IpSess.request IpSess.answered Line.exchange Line.round Line.sent IpSess.call ClientCall.run
    IpSess.line
  dsimp only
  split
  · rw [List.append_nil]
  · rfl

theorem request_cntrl : (x.request ServingEnd.answer env toolPort sid).1.cntrl =
    (x.request ServingEnd.answer env toolPort sid).2.conn := rfl

theorem request_answers : (x.request ServingEnd.answer env toolPort sid).1.answers =
    x.answers ++ (x.request ServingEnd.answer env toolPort sid).2.answer x.time := rfl

theorem request_daemon (h : x.daemon.Outspoken) :
    (x.request ServingEnd.answer env toolPort sid).1.daemon.Outspoken := by
  unfold IpSess.request IpSess.answered
  dsimp only
  split
  · exact h
  · exact fun k p => h (k + 1) p

/-- **A line that works has worked before.** -/
theorem request_open (h : (x.request ServingEnd.answer env toolPort sid).1.line.Open) :
    x.line.Open := by
  rw [request_line] at h
  obtain ⟨hclient, hserver, hpoint⟩ := h
  unfold Line.exchange at hclient hserver hpoint
  have hstays : ∀ w, x.cntrl.state = stateInvalid →
      ((x.call env toolPort sid).run x.cntrl w).conn.state = stateInvalid := by
    intro w hinvalid
    have hrequest : x.cntrl.isRequest = false := by
      unfold Conn.isRequest Conn.stateIs
      rw [hinvalid]
      decide
    unfold IpSess.call ClientCall.run sessionRequest
    dsimp only
    rw [hrequest]
    exact hinvalid
  refine ⟨fun hinvalid => ?_, fun hinvalid => ?_, fun hdone => ?_⟩
  · split at hclient <;> exact hclient (hstays _ hinvalid)
  · split at hserver
    · exact hserver hinvalid
    · exact hserver (childStep_invalid (s := { x.line.server with
        wire := x.line.server.wire ++ arrive (x.line.sent (x.call env toolPort sid)) }) _ hinvalid).1
  · split at hpoint
    · exact hpoint hdone
    · apply hpoint
      unfold Line.round childStep
      dsimp only
      rw [hdone]

end Request

/-! ## What a request comes to -/

theorem answer_unanswered {r : RequestResult} (h : r.err ≠ .ok) (asked : Num64) :
    r.answer asked = [] := by
  unfold RequestResult.answer
  rw [if_neg fun hanswered => h hanswered.1]

theorem answer_answered {r : RequestResult} (herr : r.err = .ok) (hout : r.out ≠ [])
    (asked : Num64) : r.answer asked = [⟨asked, r.acceptval, r.availTime⟩] := by
  unfold RequestResult.answer
  rw [if_pos ⟨herr, hout⟩]

/-- A session that was granted for one that was asked for. -/
structure GrantedFor (asked s : TestSession) : Prop where
  side : s.confClient = asked.confClient
  testSpec : s.testSpec = asked.testSpec
  sid : asked.confClient = true → s.sid = asked.sid

theorem readTestAccept_granted {c c' : Conn} {r : Recv} {asked s : TestSession} {err : ErrSeverity}
    {a : Option AcceptType} (h : readTestAccept c r asked = (c', err, a, s)) :
    GrantedFor asked s := by
  unfold readTestAccept at h
  split at h
  · cases h
    exact ⟨rfl, rfl, fun _ => rfl⟩
  split at h
  · dsimp only at h
    split at h
    · cases h
      exact ⟨rfl, rfl, fun _ => rfl⟩
    split at h
    · cases h
      exact ⟨rfl, rfl, fun _ => rfl⟩
    cases h
    split
    · rename_i hserver
      refine ⟨rfl, rfl, fun hclient => ?_⟩
      unfold TestSession.confServer at hserver
      rw [hclient] at hserver
      cases hserver
    · exact ⟨rfl, rfl, fun _ => rfl⟩
  · cases h
    exact ⟨rfl, rfl, fun _ => rfl⟩

/-- What a request with a session comes to if the connection survives it: the message cannot be
    written, or the daemon has denied or granted it. -/
inductive AskSpec (env : RequestEnv) (version : UInt32) (asked : TestSession) (sid : SID)
    (time : Num64) (r : RequestResult) : Prop
  | unwritable (hcause : ¬ Sendable env.tools asked version) (answer : r.answer time = [])
      (tests : r.conn.tests = none) (granted : r.granted = false) (same : r.sid = sid)
  | denied (a : AcceptType) (ha : a ≠ .accept) (availTime : Num64)
      (answer : r.answer time = [⟨time, a, availTime⟩]) (tests : r.conn.tests = none)
      (granted : r.granted = false) (same : r.sid = sid)
  | granted (s : TestSession) (answer : r.answer time = [⟨time, .accept, s.reserveTime⟩])
      (tests : r.conn.tests = some s) (granted : r.granted = true) (session : GrantedFor asked s)
      (sendable : Sendable env.tools asked version)
      (sid : r.sid = if asked.confServer then s.sid else sid)

theorem askSession_spec {env : RequestEnv} {c : Conn} {w : Wire} {s : TestSession}
    {toolPort : UInt16} {sid : SID} (hc : c.isRequest = true ∧ c.isPending = false) (time : Num64)
    (hopen : (askSession env c w s toolPort sid).conn.state ≠ stateInvalid) :
    AskSpec env c.protocolVersion (if s.confServer then s else { s with sid := sid }) sid time
      (askSession env c w s toolPort sid) := by
  have hside : (if s.confServer then s else { s with sid := sid }).confServer = s.confServer := by
    split <;> rfl
  unfold askSession clientRequestTestReadResponse at hopen ⊢
  dsimp only at hopen ⊢
  generalize (if s.confServer then s else { s with sid := sid }) = asked at hside hopen ⊢
  rw [← hside] at hopen ⊢
  obtain ⟨buf, hbuf, hwrite⟩ | ⟨hnone, hwrite⟩ := writeTestRequest_idle env.sent hc asked
  · rw [hwrite] at hopen ⊢
    cases hsent : env.sent with
    | false =>
      rw [hsent] at hopen
      exact absurd rfl hopen
    | true =>
      rw [hsent] at hopen
      simp only [if_true] at hopen ⊢
      rw [if_neg (show ¬ ErrSeverity.ok.prio < ErrSeverity.ok.prio by decide)] at hopen ⊢
      rcases readTestAccept_cases (enter_stateIs c (show stateTestAccept ≠ 0 by decide))
        (w.recv 2).1 asked with ⟨hfatal, hstate⟩ | ⟨c', a, s', hread⟩
      · rw [hfatal, if_pos fatal_prio] at hopen
        exact absurd hstate hopen
      · have hsession := readTestAccept_granted hread
        have hsend := (encodeTestRequest_isOk c.msg).1 ⟨buf, hbuf⟩
        have hsome := request_blocks_ne_nil c.protocolVersion buf
        rw [hread]
        dsimp only
        rw [if_neg (show ¬ ErrSeverity.ok.prio < ErrSeverity.ok.prio by decide)]
        by_cases ha : a = .accept
        · subst ha
          exact .granted s' (answer_answered rfl hsome time) rfl rfl hsession hsend rfl
        · have hrefused : decide ((some a).getD .failure = .accept) = false := by simpa using ha
          dsimp only
          rw [hrefused, if_neg (by simp)]
          exact .denied a ha _ (answer_answered rfl hsome time) rfl rfl rfl
  · rw [hwrite]
    dsimp only
    rw [if_pos fatal_prio]
    refine .unwritable ?_ (answer_unanswered (by simp) time) rfl rfl rfl
    rw [← encodeTestRequest_isOk c.msg]
    exact hnone

/-- A cancellation frees the session, whatever comes of it. -/
theorem cancelSession_left (env : RequestEnv) (c : Conn) (w : Wire) (s : TestSession)
    (toolPort : UInt16) (sid : SID) : (cancelSession env c w s toolPort sid).conn.tests = none ∧
      (cancelSession env c w s toolPort sid).granted = true ∧
      (cancelSession env c w s toolPort sid).sid = sid := by
  unfold cancelSession
  dsimp only
  split
  · exact ⟨rfl, rfl, rfl⟩
  split
  · exact ⟨rfl, rfl, rfl⟩
  · exact ⟨rfl, rfl, rfl⟩

theorem cancelSession_spec {env : RequestEnv} {c : Conn} {w : Wire} {s : TestSession}
    {toolPort : UInt16} {sid : SID} (hc : c.isRequest = true ∧ c.isPending = false) (time : Num64)
    (hsend : Sendable env.tools s c.protocolVersion)
    (hopen : (cancelSession env c w s toolPort sid).conn.state ≠ stateInvalid) :
    ∃ a, (cancelSession env c w s toolPort sid).answer time = [⟨time, a, 0⟩] := by
  unfold cancelSession at hopen ⊢
  obtain ⟨buf, hbuf, hwrite⟩ | ⟨hnone, -⟩ := writeTestRequest_idle env.sent hc s
  · rw [hwrite] at hopen ⊢
    cases hsent : env.sent with
    | false =>
      rw [hsent] at hopen
      exact absurd rfl hopen
    | true =>
      rw [hsent] at hopen
      simp only [if_true] at hopen ⊢
      rw [if_neg (show ¬ ErrSeverity.ok.prio < ErrSeverity.ok.prio by decide)] at hopen ⊢
      split
      · exact ⟨_, answer_answered rfl (request_blocks_ne_nil _ _) time⟩
      · exact ⟨_, answer_answered rfl (request_blocks_ne_nil _ _) time⟩
  · exact absurd ((encodeTestRequest_isOk c.msg).2 hsend) hnone

/-! ## Sessions that can be written again -/

theorem Sendable.congr {tools : ToolTable} {s s' : TestSession} {version : UInt32}
    (h : Sendable tools s version) (htest : s'.testSpec = s.testSpec)
    (hside : s'.confClient = s.confClient) : Sendable tools s' version := by
  refine ⟨?_, ?_, ?_, ?_, ?_⟩
  · rw [htest]
    exact h.addrs
  · rw [htest]
    exact h.timeError
  · rw [htest]
    exact h.outformat
  · rw [htest]
    exact h.direction
  · rw [htest, hside]
    exact h.tool

/-- The time of a request is no reason to refuse it. -/
theorem Sendable.setTime {tools : ToolTable} {s : TestSession} {version : UInt32}
    {testSpec : BWLTestSpec} (h : Sendable tools (s.retime testSpec) version) (tstamp : Num64) :
    Sendable tools (s.retime { testSpec with
      reqTime := { testSpec.reqTime with tstamp := tstamp } }) version := by
  refine ⟨?_, h.timeError, h.outformat, h.direction, ?_⟩
  · obtain ⟨ipvn, client, server, haddrs⟩ := h.addrs
    refine ⟨ipvn, client, server, ?_⟩
    cases haddrs with
    | inet c d hc hd => exact .inet c d hc hd
    | inet6 c d hc hd => exact .inet6 c d hc hd
  · exact h.tool.imp_left fun htool => ⟨htool.1,
      ⟨htool.2.tcpRate, htool.2.negotiated, htool.2.mss, htool.2.omit_⟩⟩

theorem retime_same {s : TestSession} {testSpec : BWLTestSpec}
    (hreq : s.testSpec.reqTime = testSpec.reqTime)
    (hlatest : s.testSpec.latestTime = testSpec.latestTime) :
    (s.retime testSpec).testSpec = s.testSpec := by
  unfold TestSession.retime
  rw [← hreq, ← hlatest]

/-- **What a request comes to** if the connection survives it: a new one is not sent, it is denied
    or granted, or a reservation is cancelled. -/
inductive RequestSpec (tools : ToolTable) (c : Conn) (isClient : Bool) (testSpec : BWLTestSpec)
    (sid : SID) (r : RequestResult) : Prop
  | unsent (new : c.tests = none) (answer : r.answer testSpec.reqTime.tstamp = [])
      (tests : r.conn.tests = none) (granted : r.granted = false) (same : r.sid = sid)
  | denied (a : AcceptType) (ha : a ≠ .accept) (availTime : Num64)
      (answer : r.answer testSpec.reqTime.tstamp = [⟨testSpec.reqTime.tstamp, a, availTime⟩])
      (tests : r.conn.tests = none) (granted : r.granted = false) (same : r.sid = sid)
  | granted (s : TestSession) (asked : c.tests = none ∨ testSpec.reqTime.tstamp ≠ 0)
      (answer : r.answer testSpec.reqTime.tstamp =
        [⟨testSpec.reqTime.tstamp, .accept, s.reserveTime⟩]) (tests : r.conn.tests = some s)
      (granted : r.granted = true) (side : s.confClient = isClient)
      (sendable : Sendable tools (s.retime testSpec) c.protocolVersion) (carried : r.sid = s.sid)
      (same : isClient = true → r.sid = sid)
  | cancelled (a : AcceptType) (update : c.tests ≠ none) (time : testSpec.reqTime.tstamp = 0)
      (answer : r.answer testSpec.reqTime.tstamp = [⟨testSpec.reqTime.tstamp, a, 0⟩])
      (tests : r.conn.tests = none) (granted : r.granted = true) (same : r.sid = sid)

/-- The session a request is sent for, and the SID it comes back with. -/
theorem askSession_request {env : RequestEnv} {c : Conn} {w : Wire} {s : TestSession}
    {toolPort : UInt16} {sid : SID} {isClient : Bool} {testSpec : BWLTestSpec}
    (hc : c.isRequest = true ∧ c.isPending = false) (hside : s.confClient = isClient)
    (hreq : s.testSpec.reqTime = testSpec.reqTime)
    (hlatest : s.testSpec.latestTime = testSpec.latestTime)
    (hagain : c.tests = none ∨
      testSpec.reqTime.tstamp ≠ 0 ∧ Sendable env.tools s c.protocolVersion)
    (hopen : (askSession env c w s toolPort sid).conn.state ≠ stateInvalid) :
    RequestSpec env.tools c isClient testSpec sid (askSession env c w s toolPort sid) := by
  have hspec := askSession_spec hc testSpec.reqTime.tstamp hopen
  generalize askSession env c w s toolPort sid = r at hspec ⊢
  have hasked : (if s.confServer then s else { s with sid := sid }).testSpec = s.testSpec ∧
      (if s.confServer then s else { s with sid := sid }).confClient = s.confClient ∧
      (s.confClient = true → (if s.confServer then s else { s with sid := sid }).sid = sid) := by
    unfold TestSession.confServer
    cases hclient : s.confClient with
    | true => exact ⟨rfl, rfl, fun _ => rfl⟩
    | false => exact ⟨rfl, hclient, fun h => (by cases h)⟩
  generalize (if s.confServer then s else { s with sid := sid }) = asked at hasked hspec
  obtain ⟨htest, hconf, hsid⟩ := hasked
  cases hspec with
  | unwritable hcause answer tests granted same =>
    refine .unsent ?_ answer tests granted same
    exact hagain.resolve_right fun hsend => hcause (hsend.2.congr htest hconf)
  | denied a ha availTime answer tests granted same =>
    exact .denied a ha availTime answer tests granted same
  | granted s' answer tests granted session sendable hrsid =>
    have htest' := session.testSpec.trans htest
    have hconf' := session.side.trans hconf
    refine .granted s' (hagain.imp_right And.left) answer tests granted (hconf'.trans hside) ?_ ?_ ?_
    · apply sendable.congr
      · rw [retime_same (by rw [htest', hreq]) (by rw [htest', hlatest])]
        exact session.testSpec
      · exact session.side
    · rw [hrsid]
      split
      · rfl
      · rename_i hserver
        unfold TestSession.confServer at hserver
        have hclient : asked.confClient = true := by simpa using hserver
        rw [session.sid hclient, hsid (hconf ▸ hclient)]
    · intro hclient
      rw [hrsid, if_neg]
      unfold TestSession.confServer
      rw [hconf, hside, hclient]
      simp

theorem sessionRequest_spec {env : RequestEnv} {c : Conn} {w : Wire} {isClient : Bool}
    {testSpec : BWLTestSpec} {toolPort : UInt16} {sid : SID}
    (hc : c.isRequest = true ∧ c.isPending = false)
    (hsession : ∀ s, c.tests = some s → s.sid = sid ∧ s.confClient = isClient ∧
      Sendable env.tools (s.retime testSpec) c.protocolVersion)
    (hopen : (sessionRequest env c w isClient testSpec toolPort sid).conn.state ≠ stateInvalid) :
    RequestSpec env.tools c isClient testSpec sid
      (sessionRequest env c w isClient testSpec toolPort sid) := by
  unfold sessionRequest at hopen ⊢
  rw [hc.1] at hopen ⊢
  simp only [Bool.not_true, Bool.false_eq_true, if_false] at hopen ⊢
  cases htests : c.tests with
  | some s =>
    obtain ⟨rfl, hside, hsend⟩ := hsession s htests
    rw [htests] at hopen
    simp only [ne_eq, not_true_eq_false, if_false] at hopen ⊢
    by_cases htime : testSpec.reqTime.tstamp = 0
    · rw [if_pos htime] at hopen ⊢
      obtain ⟨a, answer⟩ := cancelSession_spec hc testSpec.reqTime.tstamp hsend hopen
      obtain ⟨tests, granted, same⟩ := cancelSession_left env c w (s.retime testSpec) toolPort s.sid
      exact .cancelled a (by rw [htests]; simp) htime answer tests granted same
    · rw [if_neg htime] at hopen ⊢
      exact askSession_request hc hside rfl rfl (Or.inr ⟨htime, hsend⟩) hopen
  | none =>
    rw [htests] at hopen
    dsimp only at hopen ⊢
    have hrefused : ∀ err, RequestSpec env.tools c isClient testSpec sid
        ⟨c, w, false, err, .failure, 0, toolPort, sid, []⟩ := by
      intro err
      refine .unsent htests ?_ htests rfl rfl
      unfold RequestResult.answer
      rw [if_neg (by simp)]
    cases haddrs : env.addrs with
    | error err => exact hrefused err
    | ok addrs =>
      rw [haddrs] at hopen
      obtain ⟨client, server⟩ := addrs
      exact askSession_request hc rfl rfl rfl (Or.inl htests) hopen

/-! ## The SID of an update -/

/-- A request the daemon prepares for an update has the SID of the reservation. -/
theorem consulted_sid {env : TestRequestEnv} {s p : TestSession}
    (h : (prepareTest env true s >>= consultPolicy env) = .ok p) : p.sid = s.sid := by
  cases hprepare : prepareTest env true s with
  | error e =>
    rw [hprepare] at h
    cases h
  | ok s' =>
    rw [hprepare] at h
    change consultPolicy env s' = .ok p at h
    have hsid : s'.sid = s.sid := by
      unfold prepareTest at hprepare
      split at hprepare
      · cases hprepare
      dsimp only at hprepare
      rw [if_pos rfl] at hprepare
      split at hprepare
      · cases hprepare
      · cases hprepare
        rfl
    obtain ⟨-, -, hok⟩ | ⟨-, -, herror⟩ | ⟨e, herror, -⟩ := consultPolicy_cases env s'
    · rw [hok] at h
      cases h
      exact hsid
    · rw [herror] at h
      cases h
    · rw [herror] at h
      cases h

theorem readTestRequest_tests (tools : ToolTable) (allocOk : Bool) (c : Conn) (r : Recv) :
    (readTestRequest tools allocOk c r).1.tests = none ∨
      (readTestRequest tools allocOk c r).1.tests = c.tests := by
  have hfail : ∀ (c' : Conn) e, (c'.failRead e).tests = none ∨ (c'.failRead e).tests = c'.tests := by
    intro c' e
    unfold Conn.failRead
    cases e.freed with
    | true =>
      left
      dsimp only
      split <;> rfl
    | false =>
      right
      dsimp only
      split <;> rfl
  unfold readTestRequest
  split
  · exact Or.inr rfl
  dsimp only
  split
  · split
    · exact hfail _ _
    split
    · exact Or.inr rfl
    · exact hfail _ _
  · exact hfail _ _

theorem processTestRequest_sid {env : TestRequestEnv} {c : Conn} {r : Recv} {s p : TestSession}
    (hs : c.tests = some s) (hp : (processTestRequest env c r).1.tests = some p) : p.sid = s.sid := by
  unfold processTestRequest at hp
  have htests := readTestRequest_tests env.tools env.allocOk c r
  rw [hs] at hp htests
  cases hread : readTestRequest env.tools env.allocOk c r with
  | mk c' result =>
    rw [hread] at hp htests
    cases result with
    | error e =>
      dsimp only at hp htests
      rw [hp] at htests
      rcases htests with hnone | hsame
      · cases hnone
      · cases hsame
        rfl
    | ok asked =>
      dsimp only [Option.isSome_some] at hp
      obtain ⟨blocks, -, -, hdecode⟩ := readTestRequest_ok
        (show (readTestRequest env.tools env.allocOk c r).2 = .ok asked by rw [hread])
      rw [hs] at hdecode
      have hasked := (decodeTestRequest_reserved hdecode).2
      cases hpolicy : prepareTest env true asked >>= consultPolicy env with
      | ok p' =>
        rw [hpolicy] at hp
        dsimp only at hp
        split at hp
        · cases hp
        · cases hp
          exact (consulted_sid hpolicy).trans hasked
      | error e =>
        rw [hpolicy] at hp
        dsimp only at hp
        split at hp
        · cases hp
        · cases hp

theorem serveRequest_sid {env : LoopEnv} {c : Conn} (hc : c.state = stateRequest) {buf : Msg}
    (hkind : byte buf 0 = 1) {s p : TestSession} (hs : c.tests = some s)
    (hp : (serveRequest env c
      (arrive (chunks 16 (requestBlocks c.protocolVersion) buf))).child.conn.tests = some p) :
    p.sid = s.sid := by
  have hblocks := requestBlocks_le c.protocolVersion
  obtain ⟨first, rest, hchunks, -, hfirst, -⟩ := receive_blocks c buf stateTestRequest
    (k := requestBlocks c.protocolVersion) (by omega) (by omega)
  have hnumber : RequestType.test.number = some (byte first 0) := by
    rw [hfirst, hkind]
    rfl
  rw [hchunks] at hp
  change (serveRequest env c (.block first :: arrive rest)).child.conn.tests = some p at hp
  unfold serveRequest at hp
  rw [nextRequest_request hc hnumber (by decide)] at hp
  dsimp only at hp
  rw [nextReq_conn] at hp
  exact processTestRequest_sid (c := (c.receive 0 [first]).enter _) hs hp

section Update

variable {l : Line} {renv : RequestEnv} {isClient : Bool} {testSpec : BWLTestSpec}
  {toolPort : UInt16} {sid : SID} {env : LoopEnv}

/-- An update keeps the SID at the daemon. -/
theorem LineInv.round_sid (h : LineInv l)
    (hclean : CleanEvent l (.call (.sessionRequest renv isClient testSpec toolPort sid) env))
    (hopen : (l.exchange (.sessionRequest renv isClient testSpec toolPort sid) env).Open)
    {s p : TestSession} (hs : l.server.conn.tests = some s)
    (hp : (l.exchange (.sessionRequest renv isClient testSpec toolPort sid) env).server.conn.tests =
      some p) : p.sid = s.sid := by
  obtain ⟨c, fromServer, point, d, wire⟩ := l
  obtain ⟨hversion, hread, hserved, hplace, -⟩ := h
  dsimp only at hversion hread hserved hplace hs
  subst hread hserved
  unfold Line.exchange at hopen hp
  split at hopen
  · rename_i hsent
    rw [if_pos hsent] at hp
    change d.tests = some p at hp
    rw [hs] at hp
    cases hp
    rfl
  rename_i hsent
  rw [if_neg hsent] at hp
  rcases hplace with ⟨rfl, hc, hd⟩ | ⟨rfl, hc, hd⟩
  · obtain ⟨-, -, hpending⟩ := quiet_of_state hc
    obtain hrun | ⟨-, hrun⟩ | hrun | ⟨asked, buf, hbuf, -, hrun⟩ :=
      sessionRequest_asking renv testSpec sid hpending isClient toolPort
    · exact absurd (hrun []).1 hsent
    · exact absurd (hrun []).1 hsent
    · exact absurd (hrun []).1 hsent
    have hkind : byte buf 0 = 1 := by
      obtain ⟨ipvn, errest, client, server, hlaid⟩ := encodeTestRequest_ok hbuf
      exact hlaid.common.kind
    have hout := (hrun []).1
    rw [← hversion] at hout
    refine @serveRequest_sid env d hd buf hkind s p hs ?_
    have hpoint := hopen.2.2
    unfold Line.round childStep Line.sent ClientCall.run at hp hpoint
    dsimp only at hp hpoint
    rw [hout] at hp hpoint
    split at hp
    · rename_i htimer
      rw [if_pos htimer] at hpoint
      exact absurd rfl hpoint
    · exact hp
  · exact absurd hopen (exchange_waiting hc hclean.1 rfl hsent rfl)

/-- **An update keeps the SID**, at both ends. -/
theorem LineInv.call_sid (h : LineInv l)
    (hclean : CleanEvent l (.call (.sessionRequest renv isClient testSpec toolPort sid) env))
    (hopen : (l.exchange (.sessionRequest renv isClient testSpec toolPort sid) env).Open)
    {s s' : TestSession} (hs : l.client.tests = some s)
    (hs' : (l.exchange (.sessionRequest renv isClient testSpec toolPort sid) env).client.tests =
      some s') : s'.sid = s.sid := by
  have hbefore := h.agree
  have hafter := (h.call hclean hopen).agree
  have hsome := hbefore.session
  have hsome' := hafter.session
  rw [hs, Option.isSome_some, eq_comm, Option.isSome_iff_exists] at hsome
  rw [hs', Option.isSome_some, eq_comm, Option.isSome_iff_exists] at hsome'
  obtain ⟨ss, hss⟩ := hsome
  obtain ⟨p, hp⟩ := hsome'
  calc s'.sid = p.sid := (hafter.fields s' p hs' hp).1
    _ = ss.sid := h.round_sid hclean hopen hss hp
    _ = s.sid := (hbefore.fields s ss hs hss).1.symm

end Update

/-! ## A session and its daemon -/

theorem writeTestRequest_version (tools : ToolTable) (sent : Bool) (c : Conn) (s : TestSession) :
    (writeTestRequest tools sent c s).1.protocolVersion = c.protocolVersion := by
  unfold writeTestRequest
  split
  · rfl
  split
  · rfl
  split <;> rfl

theorem readTestAccept_version (c : Conn) (r : Recv) (s : TestSession) :
    (readTestAccept c r s).1.protocolVersion = c.protocolVersion := by
  unfold readTestAccept
  split
  · rfl
  split
  · dsimp only
    split
    · rfl
    split <;> rfl
  · rfl

theorem clientRequestTestReadResponse_version (env : RequestEnv) (c : Conn) (w : Wire)
    (s : TestSession) :
    (clientRequestTestReadResponse env c w s).conn.protocolVersion = c.protocolVersion := by
  have hwrite := writeTestRequest_version env.tools env.sent c s
  have hread := readTestAccept_version (writeTestRequest env.tools env.sent c s).1 (w.recv 2).1 s
  rw [hwrite] at hread
  unfold clientRequestTestReadResponse
  dsimp only
  split
  · exact hwrite
  split <;> exact hread

theorem askSession_version (env : RequestEnv) (c : Conn) (w : Wire) (s : TestSession)
    (toolPort : UInt16) (sid : SID) :
    (askSession env c w s toolPort sid).conn.protocolVersion = c.protocolVersion := by
  unfold askSession
  dsimp only
  generalize (if s.confServer = true then s else { s with sid := sid }) = asked
  have hresponse := clientRequestTestReadResponse_version env c w asked
  split
  · exact hresponse
  · exact hresponse

theorem cancelSession_version (env : RequestEnv) (c : Conn) (w : Wire) (s : TestSession)
    (toolPort : UInt16) (sid : SID) :
    (cancelSession env c w s toolPort sid).conn.protocolVersion = c.protocolVersion := by
  unfold cancelSession
  dsimp only
  have hwrite := writeTestRequest_version env.tools env.sent c s
  have hread := readTestAccept_version (writeTestRequest env.tools env.sent c s).1 (w.recv 2).1 s
  rw [hwrite] at hread
  split
  · exact hwrite
  split
  · exact hread
  · change (if _ then Conn.fail _ else _).protocolVersion = _
    split <;> exact hread

theorem sessionRequest_version (env : RequestEnv) (c : Conn) (w : Wire) (isClient : Bool)
    (testSpec : BWLTestSpec) (toolPort : UInt16) (sid : SID) :
    (sessionRequest env c w isClient testSpec toolPort sid).conn.protocolVersion =
      c.protocolVersion := by
  unfold sessionRequest
  dsimp only
  split
  · rfl
  split
  · split
    · rfl
    split
    · exact cancelSession_version _ _ _ _ _ _
    · exact askSession_version _ _ _ _ _ _
  · split
    · rfl
    · exact askSession_version _ _ _ _ _ _

/-- **A session of the negotiation and its daemon** between two requests: what is reserved is for
    the test of this SID, and can be asked for again. -/
structure Kept (tools : ToolTable) (sid : SID) (x : IpSess ServingEnd) : Prop where
  line : LineInv x.line
  speaks : x.daemon.Outspoken
  session : ∀ s, x.cntrl.tests = some s → s.sid = sid ∧ s.confClient = x.isClient ∧
    Sendable tools (s.retime x.tspec) x.cntrl.protocolVersion

theorem Kept.setTime {tools : ToolTable} {sid : SID} {x : IpSess ServingEnd} (h : Kept tools sid x)
    (tstamp : Num64) : Kept tools sid (x.setTime tstamp) where
  line := h.line
  speaks := h.speaks
  session := by
    intro s hs
    obtain ⟨hsid, hside, hsend⟩ := h.session s hs
    exact ⟨hsid, hside, hsend.setTime tstamp⟩

/-- The daemon of a session that has reserved nothing has reserved nothing. -/
theorem Kept.daemon_tests {tools : ToolTable} {sid : SID} {x : IpSess ServingEnd}
    (h : Kept tools sid x) (hnone : x.cntrl.tests = none) : x.daemon.child.conn.tests = none := by
  have hsession := h.line.agree.session
  change x.cntrl.tests.isSome = x.daemon.child.conn.tests.isSome at hsession
  rw [hnone] at hsession
  exact Option.isNone_iff_eq_none.1 (by simpa using hsession.symm)

section Request

variable {env : RequestEnv} {x : IpSess ServingEnd} {toolPort : UInt16} {sid : SID}

theorem Kept.clean (h : Kept env.tools sid x) :
    CleanEvent x.line (.call (x.call env toolPort sid) (x.daemon.envs 0)) :=
  ⟨fun s hs _ => (h.session s hs).2.2, fun p _ => h.speaks 0 p⟩

theorem Kept.request_spec (h : Kept env.tools sid x)
    (hopen : (x.request ServingEnd.answer env toolPort sid).1.line.Open) :
    RequestSpec env.tools x.cntrl x.isClient x.tspec sid
      (x.request ServingEnd.answer env toolPort sid).2 := by
  have hc : x.cntrl.isRequest = true ∧ x.cntrl.isPending = false := by
    unfold Conn.isRequest Conn.isPending Conn.stateIs
    rcases h.line.place with ⟨-, hc, -⟩ | ⟨-, hc, -⟩
    · change x.cntrl.state = _ at hc
      rw [hc]
      decide
    · change x.cntrl.state = _ at hc
      rw [hc]
      decide
  exact sessionRequest_spec hc h.session hopen.1

/-- **A request keeps a session and its daemon together.** -/
theorem Kept.request (h : Kept env.tools sid x)
    (hopen : (x.request ServingEnd.answer env toolPort sid).1.line.Open) :
    Kept env.tools (x.request ServingEnd.answer env toolPort sid).2.sid
      (x.request ServingEnd.answer env toolPort sid).1 := by
  have hversion : (x.request ServingEnd.answer env toolPort sid).2.conn.protocolVersion =
      x.cntrl.protocolVersion := sessionRequest_version _ _ _ _ _ _ _
  refine ⟨?_, request_daemon x env toolPort sid h.speaks, ?_⟩
  · rw [request_line] at hopen ⊢
    exact h.line.call h.clean hopen
  · intro s hs
    rw [request_cntrl] at hs ⊢
    rw [hversion]
    cases h.request_spec hopen with
    | unsent _ _ tests =>
      rw [tests] at hs
      cases hs
    | denied _ _ _ _ tests =>
      rw [tests] at hs
      cases hs
    | cancelled _ _ _ _ tests =>
      rw [tests] at hs
      cases hs
    | granted s' _ _ tests _ side sendable carried =>
      rw [tests] at hs
      cases hs
      exact ⟨carried.symm, side, sendable⟩

/-- The SID is made by the first request of the server's side. -/
theorem Kept.request_sid (h : Kept env.tools sid x)
    (hopen : (x.request ServingEnd.answer env toolPort sid).1.line.Open)
    (hask : x.isClient = true ∨ x.cntrl.tests ≠ none) :
    (x.request ServingEnd.answer env toolPort sid).2.sid = sid := by
  cases h.request_spec hopen with
  | unsent _ _ _ _ same => exact same
  | denied _ _ _ _ _ _ same => exact same
  | cancelled _ _ _ _ _ _ same => exact same
  | granted s' _ _ tests _ _ _ carried same =>
    rcases hask with hclient | hupdate
    · exact same hclient
    · obtain ⟨s, hs⟩ := Option.ne_none_iff_exists'.1 hupdate
      rw [← request_cntrl] at tests
      rw [carried, ← (h.session s hs).1]
      have hline := request_line x env toolPort sid
      rw [hline] at hopen
      refine h.line.call_sid h.clean hopen hs ?_
      have hclient := congrArg (fun l => l.client.tests) hline
      exact hclient.symm.trans tests

end Request

end Bwctl
