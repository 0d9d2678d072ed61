import Bwctl.Protocol.LegacyServers
import Bwctl.Protocol.Answers
import Bwctl.Protocol.TestEnd

/-!
# Client and server in lockstep

A control connection with both its ends: a call of the client and the round of the server's loop
that answers it are one step, and a run goes on as long as neither end gives up.  The two records
agree after every step, but for three slips: `BWLEndSession` leaves the bit of the test set, a hook
that refuses with a severity in between is answered with `ACCEPT`, and an update the client cannot
write is given up on its side alone.

* `Line`, `Line.step` — the two ends and their steps.
* `LineInv`, `LineInv.call`, `LineInv.pause` — the invariant.
* `lockstep` — every run that keeps clear of the slips.
-/

set_option autoImplicit false

namespace Bwctl

open Octets GuardedRuns

/-! ## The two ends -/

/-- A client and a server, with what the client has not read. -/
structure Line where
  client : Conn
  fromServer : Wire
  server : Child

/-- A call of the client with the process around the round that answers it, or a round of the
    server's wait that comes upon nothing. -/
inductive LineEvent where
  | call (call : ClientCall) (env : LoopEnv)
  | pause (env : LoopEnv)

/-- Neither end has given up the connection. -/
def Line.Open (l : Line) : Prop :=
  l.client.state ≠ stateInvalid ∧ l.server.conn.state ≠ stateInvalid ∧ l.server.point ≠ .done

instance (l : Line) : Decidable l.Open := inferInstanceAs (Decidable (_ ∧ _ ∧ _))

/-- The blocks a call sends. -/
def Line.sent (l : Line) (call : ClientCall) : List Block := (call.run l.client l.fromServer).out

/-- The round that answers a call. -/
def Line.round (l : Line) (call : ClientCall) (env : LoopEnv) : Round :=
  childStep env { l.server with wire := l.server.wire ++ arrive (l.sent call) }

/-- A call and the round that answers it; a call that sends nothing is answered by nobody. -/
def Line.exchange (l : Line) (call : ClientCall) (env : LoopEnv) : Line :=
  if l.sent call = [] then
    let r := call.run l.client l.fromServer
    ⟨r.conn, r.wire, l.server⟩
  else
    let r := call.run l.client (l.fromServer ++ arrive (l.round call env).out)
    ⟨r.conn, r.wire, (l.round call env).child⟩

def Line.step (l : Line) : LineEvent → Option Line
  | .call call env => if (l.exchange call env).Open then some (l.exchange call env) else none
  | .pause env =>
    let child := (childStep env l.server).child
    if l.server.point = .waiting ∧ child.point = .waiting then some { l with server := child }
    else none

/-- The two ends behind the handshake. -/
def Line.init (version : UInt32) (msg msg' : Msg) : Line :=
  ⟨⟨stateRequest, version, msg, none⟩, [], Child.init version msg' []⟩

/-- **The two records agree**: on the session, and on the bit of the test. -/
structure Line.Agree (l : Line) : Prop where
  session : l.client.tests.isSome = l.server.conn.tests.isSome
  fields : ∀ cs ss, l.client.tests = some cs → l.server.conn.tests = some ss →
    cs.sid = ss.sid ∧ cs.reserveTime = ss.reserveTime ∧
      (ss.confServer = true → cs.toolPort = ss.toolPort)
  test : l.client.stateIs stateTest = l.server.conn.stateIs stateTest

/-! ## Keeping clear of the slips -/

/-- A call that ends no test, and an update or a cancellation only if its message can be written. -/
def ClientCall.Clean (call : ClientCall) (c : Conn) : Prop :=
  match call with
  | .sessionRequest env _ testSpec _ sid => ∀ s, c.tests = some s → sid = s.sid →
      Sendable env.tools (s.retime testSpec) c.protocolVersion
  | .controlTimeCheck _ => True
  | .startSession _ _ => True
  | .endSession _ _ _ _ _ => False

/-- **A step that keeps clear of the slips**: a clean call, and a hook that speaks out about the
    session it is asked about. -/
def CleanEvent (l : Line) : LineEvent → Prop
  | .call call env => call.Clean l.client ∧
      ∀ p, HookAsked env l.server.conn (l.server.wire ++ arrive (l.sent call)) p →
        (env.request.checkTestPolicy p).Outspoken
  | .pause _ => True

/-! ## The invariant -/

/-- The sessions of the two ends. -/
inductive SameSession : Option TestSession → Option TestSession → Prop
  | none : SameSession none none
  | some (cs ss : TestSession) (side : cs.confClient = ss.confClient) (sid : cs.sid = ss.sid)
      (reserveTime : cs.reserveTime = ss.reserveTime)
      (toolPort : ss.confServer = true → cs.toolPort = ss.toolPort) : SameSession (some cs) (some ss)

/-- **The invariant of a connection**: nothing is on the way, and both ends are between two requests
    or both in a test, with the same session. -/
structure LineInv (l : Line) : Prop where
  version : l.server.conn.protocolVersion = l.client.protocolVersion
  clientRead : l.fromServer = []
  serverRead : l.server.wire = []
  place : l.server.point = .request ∧ l.client.state = stateRequest ∧
      l.server.conn.state = stateRequest ∨
    l.server.point = .waiting ∧ l.client.state = stateRequest ||| stateTest ∧
      l.server.conn.state = stateRequest ||| stateTest
  same : SameSession l.client.tests l.server.conn.tests

theorem LineInv.agree {l : Line} (h : LineInv l) : l.Agree := by
  have hsame := h.same
  refine ⟨?_, ?_, ?_⟩
  · generalize l.client.tests = a at hsame ⊢
    generalize l.server.conn.tests = b at hsame ⊢
    cases hsame <;> rfl
  · intro cs ss hcs hss
    rw [hcs, hss] at hsame
    cases hsame with
    | some _ _ side sid reserveTime toolPort => exact ⟨sid, reserveTime, toolPort⟩
  · unfold Conn.stateIs
    rcases h.place with ⟨-, hc, hs⟩ | ⟨-, hc, hs⟩ <;> rw [hc, hs]

theorem LineInv.init (version : UInt32) (msg msg' : Msg) : LineInv (Line.init version msg msg') :=
  ⟨rfl, rfl, rfl, Or.inl ⟨rfl, rfl, rfl⟩, .none⟩

/-! ## A server in a test -/

/-- In a test, a message that is no StopSession is not taken. -/
theorem nextRequest_other {c : Conn} {first : Block} {w : Wire} (hkind : byte first 0 ≠ 3) :
    (nextRequest c (.block first :: w)).2.1 ≠ .stopSession := by
  intro hstop
  have hknown : (nextRequest c (.block first :: w)).2.1.number ≠ none := by
    rw [hstop]
    decide
  obtain ⟨first', w', htaken⟩ := nextRequest_taken hknown
  have hnumber := htaken.number
  obtain ⟨hsame, -⟩ := List.cons.inj htaken.wire
  obtain rfl := Arrival.block.inj hsame
  rw [hstop] at hnumber
  exact hkind (Option.some.inj hnumber).symm

theorem stopSession_other {env : StopEnv} {c : Conn} {w : Wire} {intr : Int} {a : AcceptType}
    (hkind : (nextRequest c w).2.1 ≠ .stopSession) :
    (stopSession env c w intr a).out = [] ∨
      (stopSession env c w intr a).conn.state = stateInvalid := by
  by_cases hsession : c.tests = none
  · left
    unfold stopSession
    rw [if_pos (by rw [hsession]; rfl)]
  · right
    by_contra hdone
    obtain ⟨hstarted, -⟩ := stopSession_completed hsession hdone
    exact hkind hstarted.kind

/-- **A message that is no StopSession ends a test**: the round has sent nothing, or the connection
    is given up. -/
theorem awaitEnd_other (env : LoopEnv) (c : Conn) {first : Block} (w : Wire)
    (hkind : byte first 0 ≠ 3) :
    (awaitEnd env c (.block first :: w)).out = [] ∨
      (awaitEnd env c (.block first :: w)).child.conn.state = stateInvalid ∨
      (awaitEnd env c (.block first :: w)).child.point = .done := by
  have hother := nextRequest_other (c := c) (w := w) hkind
  have hstop : ∀ err a, (stopSession env.stop c (.block first :: w) 0 a).out = [] ∨
      (nextReq err (stopSession env.stop c (.block first :: w) 0 a).conn
        (stopSession env.stop c (.block first :: w) 0 a).wire).conn.state = stateInvalid := by
    intro err a
    rw [nextReq_conn]
    exact stopSession_other hother
  unfold awaitEnd
  cases env.sessions with
  | inactive a =>
    dsimp only
    split
    · exact Or.inl rfl
    · exact (hstop _ _).imp_right Or.inl
  | active =>
    have hcases := stopSessionWait_cases env.stop env.waitSessions env.wait c (.block first :: w) 0
    generalize stopSessionWait env.stop env.waitSessions env.wait c (.block first :: w) 0 = r
      at hcases ⊢
    dsimp only
    split
    · exact Or.inr (Or.inr rfl)
    rename_i hgo
    obtain ⟨-, hret⟩ := not_or.1 hgo
    cases hcases with
    | stopped a => exact (hstop _ _).imp_right Or.inl
    | answered =>
      have hzero := (answerStop_ret env.stop c (.block first :: w) 0).resolve_left hret
      right
      left
      rw [if_pos hzero, nextReq_conn]
      by_contra hdone
      exact hother (answerStop_completed hdone).1
    | failed ret hneg => exact absurd hneg hret
    | going ret hpos =>
      rw [if_neg (ne_of_gt hpos)]
      exact Or.inl rfl

/-- A round of the wait that goes on waiting changes nothing. -/
theorem awaitEnd_waiting {env : LoopEnv} {c : Conn} {w : Wire}
    (h : (awaitEnd env c w).child.point = .waiting) : (awaitEnd env c w).child = ⟨.waiting, c, w⟩ := by
  have hnext : ∀ err c' w', (nextReq err c' w').point ≠ .waiting := by
    intro err c' w'
    unfold nextReq
    split <;> simp
  unfold awaitEnd at h ⊢
  cases hsessions : env.sessions with
  | inactive a =>
    rw [hsessions] at h
    dsimp only at h
    split at h
    · cases h
    · exact absurd h (hnext _ _ _)
  | active =>
    rw [hsessions] at h
    have hcases := stopSessionWait_cases env.stop env.waitSessions env.wait c w 0
    generalize stopSessionWait env.stop env.waitSessions env.wait c w 0 = r at hcases h ⊢
    dsimp only at h ⊢
    split at h
    · cases h
    rename_i hgo
    rw [if_neg hgo]
    split at h
    · exact absurd h (hnext _ _ _)
    rename_i hmore
    rw [if_neg hmore]
    obtain ⟨-, hret⟩ := not_or.1 hgo
    cases hcases with
    | stopped a => exact absurd rfl hmore
    | answered => exact absurd ((answerStop_ret env.stop c w 0).resolve_left hret) hmore
    | failed ret hneg => exact absurd hneg hret
    | going ret hpos => rfl

/-! ## A call -/

/-- A call whose answer does not come gives up the connection. -/
theorem run_unanswered {call : ClientCall} {c : Conn} (hclean : call.Clean c)
    (hpending : c.isPending = false) (hsent : (call.run c []).out ≠ []) :
    (call.run c []).conn.state = stateInvalid := by
  by_contra hopen
  cases call with
  | sessionRequest env isClient testSpec toolPort sid =>
    obtain hrun | ⟨-, hrun⟩ | hrun | ⟨s, buf, hbuf, hsession, hrun⟩ :=
      sessionRequest_asking env testSpec sid hpending isClient toolPort
    · exact hsent (hrun []).1
    · exact hsent (hrun []).1
    · exact hsent (hrun []).1
    · rcases (hrun []).2 with hinvalid | ⟨c', a, s', hread, -⟩
      · exact hopen hinvalid
      · have hclosed := readTestAccept_closed (c.enter stateTestAccept) s
        change readTestAccept (c.enter stateTestAccept) .closed s = _ at hread
        rw [hread] at hclosed
        cases hclosed
  | controlTimeCheck sent =>
    obtain ⟨blocks, hread⟩ := (controlTimeCheck_completed hopen).read
    cases hread
  | startSession sent dataport =>
    obtain ⟨blocks, hread⟩ := (startSession_completed hopen).read
    cases hread
  | endSession => exact hclean

/-- **A call that sends nothing** and goes on has done nothing. -/
theorem run_silent {call : ClientCall} {c : Conn} (hclean : call.Clean c)
    (hpending : c.isPending = false) {w : Wire} (hsent : (call.run c w).out = [])
    (hopen : (call.run c w).conn.state ≠ stateInvalid) :
    (call.run c w).conn = c ∧ (call.run c w).wire = w := by
  cases call with
  | sessionRequest env isClient testSpec toolPort sid =>
    obtain hrun | ⟨hcause, hrun⟩ | hrun | ⟨s, buf, hbuf, hsession, hrun⟩ :=
      sessionRequest_asking env testSpec sid hpending isClient toolPort
    · exact (hrun w).2
    · obtain ⟨-, hconn, hwire⟩ := hrun w
      refine ⟨?_, hwire⟩
      have hnone : c.tests = none := by
        by_contra hsome
        obtain ⟨s, hs⟩ := Option.ne_none_iff_exists'.1 hsome
        obtain ⟨hsid, hnot⟩ := hcause s hs
        exact hnot ((encodeTestRequest_isOk c.msg).2 (hclean s hs hsid))
      change (sessionRequest env c w isClient testSpec toolPort sid).conn = c
      rw [hconn]
      unfold Conn.free
      rw [← hnone]
    · exact absurd (hrun w).2 hopen
    · exact absurd ((hrun w).1.symm.trans hsent) (request_blocks_ne_nil _ _)
  | controlTimeCheck sent =>
    obtain ⟨buf, hout, -⟩ := (controlTimeCheck_completed hopen).sent
    rw [hsent] at hout
    cases hout
  | startSession sent dataport =>
    obtain ⟨buf, hout, -⟩ := (startSession_completed hopen).sent
    rw [hsent] at hout
    cases hout
  | endSession => exact hclean.elim

/-- What a call sends does not depend on what it is going to read. -/
theorem run_out {call : ClientCall} {c : Conn} (hclean : call.Clean c)
    (hpending : c.isPending = false) (w w' : Wire) : (call.run c w).out = (call.run c w').out := by
  cases call with
  | sessionRequest env isClient testSpec toolPort sid =>
    obtain hrun | ⟨-, hrun⟩ | hrun | ⟨s, buf, hbuf, hsession, hrun⟩ :=
      sessionRequest_asking env testSpec sid hpending isClient toolPort
    · exact (hrun w).1.trans (hrun w').1.symm
    · exact (hrun w).1.trans (hrun w').1.symm
    · exact (hrun w).1.trans (hrun w').1.symm
    · exact (hrun w).1.trans (hrun w').1.symm
  | controlTimeCheck sent =>
    exact (controlTimeCheck_out sent c w).trans (controlTimeCheck_out sent c w').symm
  | startSession sent dataport =>
    exact (startSession_out sent c w dataport).trans (startSession_out sent c w' dataport).symm
  | endSession => exact hclean.elim

/-- The session the server reads out of a request is the one the client asked for. -/
theorem decoded_serves {tools rtools : ToolTable} {allocOk : Bool} {c d : Conn} {s r : TestSession}
    {buf msg : Msg} (hbuf : encodeTestRequest tools c.msg s c.protocolVersion = .ok buf)
    (hmsg : ∀ i < 16 * requestBlocks c.protocolVersion, byte msg i = byte buf i)
    (hsession : ∀ cs, c.tests = some cs → s.sid = cs.sid ∧ s.confClient = cs.confClient)
    (hsame : SameSession c.tests d.tests)
    (hdecode : decodeTestRequest rtools allocOk msg c.protocolVersion d.tests = .ok r) :
    Serves s r := by
  generalize c.tests = ct at hsame hsession
  generalize d.tests = dt at hsame hdecode
  cases hsame with
  | some cs ss side sid =>
    have hdecoded := decodeTestRequest_reserved hdecode
    obtain ⟨hsid, hside⟩ := hsession cs rfl
    refine ⟨?_, fun _ => ?_⟩
    · rw [hdecoded.1, hside, side]
    · rw [hdecoded.2, hsid, sid]
  | none =>
    have hdecoded := decodeTestRequest_new hdecode
    obtain ⟨ipvn, errest, client, server, hlaid⟩ := encodeTestRequest_ok hbuf
    have hblocks : 76 ≤ 16 * requestBlocks c.protocolVersion := by
      unfold requestBlocks
      split <;> omega
    refine ⟨?_, fun _ => ?_⟩
    · rw [hdecoded.1, hmsg 2 (by omega), hlaid.common.confClient]
      cases s.confClient <;> simp
    · rw [hdecoded.2]
      unfold decodeSid
      apply ofFn_of_load
      rw [load_congr fun i _ _ => hmsg i (by omega)]
      exact hlaid.common.sid

/-! ## A step -/

theorem recv_two_end (buf : Msg) :
    Wire.recv 2 (arrive (chunks 16 2 buf)) = (.data (chunks 16 2 buf), []) := by
  have hrecv := recv_two buf []
  rwa [List.append_nil] at hrecv

/-- **The session that is accepted is the same at both ends.** -/
theorem accepted_same {s p : TestSession} (h : Serves s p) :
    SameSession (some (s.accepted p)) (some p) := by
  unfold TestSession.accepted
  refine .some _ _ h.side.symm ?_ rfl ?_
  · dsimp only
    split
    · rfl
    · rename_i hserver
      refine (h.sid ?_).symm
      unfold TestSession.confServer at hserver
      simpa using hserver
  · intro hserver
    have hside : s.confServer = true := by
      unfold TestSession.confServer at hserver ⊢
      rw [← h.side]
      exact hserver
    exact if_pos hside

section Step

variable {c d : Conn} {env : LoopEnv}

/-- **A request and its answer**: the two ends keep the same session, or none. -/
theorem request_exchange {tools : ToolTable} (hversion : d.protocolVersion = c.protocolVersion)
    (hc : c.state = stateRequest) (hd : d.state = stateRequest)
    (hsame : SameSession c.tests d.tests) {s : TestSession} {buf : Msg}
    (hbuf : encodeTestRequest tools c.msg s c.protocolVersion = .ok buf)
    (hsession : ∀ cs, c.tests = some cs → s.sid = cs.sid ∧ s.confClient = cs.confClient)
    (hspeaks : ∀ p, HookAsked env d (arrive (chunks 16 (requestBlocks c.protocolVersion) buf)) p →
      (env.request.checkTestPolicy p).Outspoken)
    {conn : Conn} {wire : Wire} {round : Round}
    (hround : serveRequest env d (arrive (chunks 16 (requestBlocks c.protocolVersion) buf)) = round)
    (htaken : AnswerTaken c s (arrive round.out) conn wire)
    (hopen : (Line.mk conn wire round.child).Open) : LineInv ⟨conn, wire, round.child⟩ := by
  obtain ⟨hclient, hserver, hpoint⟩ := hopen
  rcases htaken with hinvalid | ⟨c', a, s', hread, hconn, hwire⟩
  · exact absurd hinvalid hclient
  have hkind : byte buf 0 = 1 := by
    obtain ⟨ipvn, errest, client, server, hlaid⟩ := encodeTestRequest_ok hbuf
    exact hlaid.common.kind
  have hout : round.out ≠ [] := by
    intro hnil
    rw [hnil] at hread
    have hclosed := readTestAccept_closed (c.enter stateTestAccept) s
    change readTestAccept (c.enter stateTestAccept) .closed s = _ at hread
    rw [hread] at hclosed
    cases hclosed
  subst hround
  rw [← hversion] at hspeaks hout hread hwire hpoint hserver ⊢
  obtain ⟨msg', hmsg, r, err, result, msg, a', p, hdecode, hanswer, hsent, hchild⟩ :=
    serve_test hd hkind hspeaks hout
  rw [hversion] at hmsg hdecode
  rw [hsent, hanswer.out, recv_two_end] at hread hwire
  obtain ⟨s'', hresult, haccepted⟩ := readTestAccept_sent
    (enter_stateIs c (show stateTestAccept ≠ 0 by decide)) msg hanswer.valid s p
  rw [hresult] at hread
  cases hread
  have hserves := decoded_serves hbuf hmsg hsession hsame hdecode
  rw [hchild] at hserver hpoint ⊢
  have hrequest : (nextReq err result.1 []).point = .request := by
    unfold nextReq at hpoint ⊢
    split
    · rename_i hfatal
      rw [if_pos hfatal] at hpoint
      exact absurd rfl hpoint
    · rfl
  subst hconn hwire
  refine ⟨?_, rfl, nextReq_wire _ _ _, Or.inl ⟨hrequest, ?_, ?_⟩, ?_⟩
  · rw [nextReq_conn, hanswer.version, hversion]
    rfl
  · change (c.state ||| stateTestAccept) &&& ~~~stateTestAccept = stateRequest
    rw [hc]
    decide
  · rw [nextReq_conn]
    exact hanswer.state
  · rw [nextReq_conn, hanswer.tests]
    dsimp only
    by_cases ha : a = .accept
    · have hp := hanswer.serves ha
      have hserved : Serves s p := ⟨hp.side.trans hserves.side,
        fun hclient => (hp.sid (hserves.side.trans hclient)).trans (hserves.sid hclient)⟩
      rw [if_pos ha, if_pos ha, haccepted hserved.side]
      exact accepted_same hserved
    · rw [if_neg ha, if_neg ha]
      exact .none

/-- A message of two blocks and its answer: the two ends keep their sessions. -/
theorem kept_exchange {number : UInt8} {state : UInt32} {point : LoopPoint}
    (hversion : d.protocolVersion = c.protocolVersion) (hsame : SameSession c.tests d.tests)
    {result : CallResult} {round : Round}
    (hcall : Completed c number state (arrive round.out) result)
    (hround : Answered d point state round)
    (hplace : point = .request ∧ state = stateRequest ∨
      point = .waiting ∧ state = stateRequest ||| stateTest) :
    LineInv ⟨result.conn, result.wire, round.child⟩ := by
  obtain ⟨buf, hout⟩ := hround.out
  refine ⟨?_, ?_, hround.wire, ?_, ?_⟩
  · rw [hround.version, hcall.version, hversion]
  · dsimp only
    rw [hcall.wire, hout, recv_two_end]
  · dsimp only
    rw [hround.point, hround.state, hcall.state]
    rcases hplace with ⟨hpoint, hstate⟩ | ⟨hpoint, hstate⟩
    · exact Or.inl ⟨hpoint, hstate, hstate⟩
    · exact Or.inr ⟨hpoint, hstate, hstate⟩
  · dsimp only
    rw [hcall.tests, hround.tests]
    exact hsame

/-- **A call at a server between two requests.** -/
theorem exchange_request (hversion : d.protocolVersion = c.protocolVersion)
    (hc : c.state = stateRequest) (hd : d.state = stateRequest)
    (hsame : SameSession c.tests d.tests) {call : ClientCall} (hclean : call.Clean c)
    {out : List Block} (hout : (call.run c []).out = out)
    (hspeaks : ∀ p, HookAsked env d (arrive out) p → (env.request.checkTestPolicy p).Outspoken)
    (hsent : out ≠ []) {round : Round} (hround : childStep env ⟨.request, d, arrive out⟩ = round)
    (hopen : (Line.mk (call.run c (arrive round.out)).conn (call.run c (arrive round.out)).wire
      round.child).Open) :
    LineInv ⟨(call.run c (arrive round.out)).conn, (call.run c (arrive round.out)).wire,
      round.child⟩ := by
  obtain ⟨hrequest, hreading, hpending⟩ := quiet_of_state hc
  have hserve : serveRequest env d (arrive out) = round := by
    unfold childStep at hround
    dsimp only at hround
    split at hround
    · subst hround
      exact absurd rfl hopen.2.2
    · exact hround
  have hlocal := (run_out hclean hpending (arrive round.out) []).trans hout
  cases call with
  | sessionRequest renv isClient testSpec toolPort sid =>
    obtain hrun | ⟨-, hrun⟩ | hrun | ⟨s, buf, hbuf, hsession, hrun⟩ :=
      sessionRequest_asking renv testSpec sid hpending isClient toolPort
    · exact absurd (hlocal.symm.trans (hrun _).1) hsent
    · exact absurd (hlocal.symm.trans (hrun _).1) hsent
    · exact absurd (hlocal.symm.trans (hrun _).1) hsent
    · obtain ⟨hblocks, htaken⟩ := hrun (arrive round.out)
      have hsame' := hblocks.symm.trans hlocal
      subst hsame'
      exact request_exchange hversion hc hd hsame hbuf hsession hspeaks hserve htaken hopen
  | controlTimeCheck sent =>
    have hcall := controlTimeCheck_completed hopen.1
    obtain ⟨buf, hblocks, hkind⟩ := hcall.sent
    rw [hlocal] at hblocks
    subst hblocks hserve
    rw [hc] at hcall
    exact kept_exchange hversion hsame hcall (serve_time hd hkind hopen.2.1) (Or.inl ⟨rfl, rfl⟩)
  | startSession sent dataport =>
    have hcall := startSession_completed hopen.1
    obtain ⟨buf, hblocks, hkind⟩ := hcall.sent
    rw [hlocal] at hblocks
    subst hblocks hserve
    rw [hc] at hcall
    exact kept_exchange hversion hsame hcall (serve_start hd hkind hopen.2.1 hopen.2.2)
      (Or.inr ⟨rfl, rfl⟩)
  | endSession => exact hclean.elim

/-- **A call that sends something to a server in a test** completes nothing. -/
theorem exchange_waiting (hc : c.state = stateRequest ||| stateTest) {call : ClientCall}
    (hclean : call.Clean c) {out : List Block} (hout : (call.run c []).out = out)
    (hsent : out ≠ []) {round : Round} (hround : childStep env ⟨.waiting, d, arrive out⟩ = round) :
    ¬ (Line.mk (call.run c (arrive round.out)).conn (call.run c (arrive round.out)).wire
      round.child).Open := by
  rintro ⟨hclient, hserver, hpoint⟩
  dsimp only at hclient hserver hpoint
  have hpending : c.isPending = false := by
    unfold Conn.isPending Conn.stateIs
    rw [hc]
    decide
  have hlocal := (run_out hclean hpending (arrive round.out) []).trans hout
  have hkind : ∃ first w, arrive out = .block first :: w ∧ byte first 0 ≠ 3 := by
    rw [← hlocal]
    cases call with
    | sessionRequest renv isClient testSpec toolPort sid =>
      obtain hrun | ⟨-, hrun⟩ | hrun | ⟨s, buf, hbuf, hsession, hrun⟩ :=
        sessionRequest_asking renv testSpec sid hpending isClient toolPort
      · exact absurd (hlocal.symm.trans (hrun _).1) hsent
      · exact absurd (hlocal.symm.trans (hrun _).1) hsent
      · exact absurd (hlocal.symm.trans (hrun _).1) hsent
      · obtain ⟨ipvn, errest, client, server, hlaid⟩ := encodeTestRequest_ok hbuf
        have hblocks := requestBlocks_le c.protocolVersion
        obtain ⟨first, rest, hchunks, -, hfirst, -⟩ := receive_blocks c buf 0
          (k := requestBlocks c.protocolVersion) (by omega) (by omega)
        change ∃ first w, arrive (sessionRequest renv c _ isClient testSpec toolPort sid).out = _ ∧ _
        rw [(hrun _).1, hchunks]
        refine ⟨first, arrive rest, rfl, ?_⟩
        rw [hfirst, hlaid.common.kind]
        decide
    | controlTimeCheck sent =>
      obtain ⟨buf, hblocks, hbyte⟩ := (controlTimeCheck_completed hclient).sent
      obtain ⟨first, second, hwire, hfirst⟩ := arrive_chunks_two hbyte
      rw [hblocks, hwire]
      exact ⟨first, _, rfl, by rw [hfirst]; decide⟩
    | startSession sent dataport =>
      obtain ⟨buf, hblocks, hbyte⟩ := (startSession_completed hclient).sent
      obtain ⟨first, second, hwire, hfirst⟩ := arrive_chunks_two hbyte
      rw [hblocks, hwire]
      exact ⟨first, _, rfl, by rw [hfirst]; decide⟩
    | endSession => exact hclean.elim
  obtain ⟨first, w, hwire, hother⟩ := hkind
  unfold childStep at hround
  dsimp only at hround
  rw [hwire] at hround
  subst hround
  rcases awaitEnd_other env d w hother with hnone | hinvalid | hdone
  · rw [hnone] at hclient
    apply hclient
    apply run_unanswered hclean hpending
    rw [hout]
    exact hsent
  · exact hserver hinvalid
  · exact hpoint hdone

end Step

/-- **A call** keeps the two ends in lockstep. -/
theorem LineInv.call {l : Line} (h : LineInv l) {call : ClientCall} {env : LoopEnv}
    (hclean : CleanEvent l (.call call env)) (hopen : (l.exchange call env).Open) :
    LineInv (l.exchange call env) := by
  obtain ⟨c, fromServer, point, d, wire⟩ := l
  obtain ⟨hversion, hread, hserved, hplace, hsame⟩ := h
  dsimp only at hversion hread hserved hplace hsame
  subst hread hserved
  obtain ⟨hcall, hspeaks⟩ := hclean
  have hpending : c.isPending = false := by
    unfold Conn.isPending Conn.stateIs
    rcases hplace with ⟨-, hc, -⟩ | ⟨-, hc, -⟩ <;> rw [hc] <;> decide
  unfold Line.exchange at hopen ⊢
  split at hopen
  · rename_i hsent
    obtain ⟨hconn, hwire⟩ := run_silent hcall hpending hsent hopen.1
    rw [if_pos hsent]
    dsimp only
    rw [hconn, hwire]
    exact ⟨hversion, rfl, rfl, hplace, hsame⟩
  · rename_i hsent
    rw [if_neg hsent]
    rcases hplace with ⟨rfl, hc, hd⟩ | ⟨rfl, hc, hd⟩
    · exact exchange_request hversion hc hd hsame hcall rfl hspeaks hsent rfl hopen
    · exact absurd hopen (exchange_waiting hc hcall rfl hsent rfl)

/-- **A round of the wait** changes nothing. -/
theorem LineInv.pause {l : Line} (h : LineInv l) {env : LoopEnv} (hpoint : l.server.point = .waiting)
    (hgoing : (childStep env l.server).child.point = .waiting) :
    LineInv { l with server := (childStep env l.server).child } := by
  obtain ⟨c, fromServer, point, d, wire⟩ := l
  dsimp only at hpoint
  subst hpoint
  have hsame : (childStep env ⟨.waiting, d, wire⟩).child = ⟨.waiting, d, wire⟩ :=
    awaitEnd_waiting hgoing
  dsimp only
  rw [hsame]
  exact h

theorem LineInv.step {l l' : Line} (h : LineInv l) {e : LineEvent} (hclean : CleanEvent l e)
    (hstep : l.step e = some l') : LineInv l' := by
  unfold Line.step at hstep
  cases e with
  | call call env =>
    dsimp only at hstep
    split at hstep
    · rename_i hopen
      obtain rfl := Option.some.inj hstep
      exact h.call hclean hopen
    · cases hstep
  | pause env =>
    dsimp only at hstep
    split at hstep
    · rename_i hwait
      obtain rfl := Option.some.inj hstep
      exact h.pause hwait.1 hwait.2
    · cases hstep

/-- **Client and server stay in lockstep** in every run that keeps clear of the slips. -/
theorem lockstep {version : UInt32} {msg msg' : Msg} {l : Line}
    (h : Reach Line.step CleanEvent (Line.init version msg msg') l) : l.Agree := by
  suffices hinv : LineInv l from hinv.agree
  apply Reach.invariant (I := LineInv) (LineInv.init version msg msg') ?_ h
  intro s e s' _ hinv hclean hstep
  exact hinv.step hclean hstep

/-! ## One test -/

/-- A client with every tool, between the two hosts of `tenGigabit`. -/
def hostsEnv : RequestEnv :=
  ⟨fullTable, .ok (docSender, docReceiver), true⟩

/-- The call that asks for a test of ten gigabit a second. -/
def askTenGigabit : ClientCall :=
  .sessionRequest hostsEnv true tenGigabit.testSpec 5001 tenGigabit.sid

/-- A connection of the current version behind the handshake. -/
def freshLine : Line :=
  Line.init 0x06000000 (Vector.replicate 128 0) (Vector.replicate 128 0)

/-- A test from its request to its end. -/
def wholeTest : List LineEvent :=
  [.call askTenGigabit servingEnv, .call (.startSession true 5001) servingEnv,
    .call (.endSession ⟨true, true⟩ none .ok 0 .accept) servingEnv]

/-- After a whole test the client still has the bit of the test set, and the server has not. -/
theorem ended_test_disagrees :
    ∃ l, Reach Line.step anyEvent freshLine l ∧ ¬ l.Agree := by
  have hrun : (replay Line.step (fun _ _ => true) freshLine wholeTest).any (fun l =>
      l.client.stateIs stateTest && !l.server.conn.stateIs stateTest) = true := by
    decide +kernel
  obtain ⟨l, hl, hbits⟩ := (Option.any_eq_true _ _).1 hrun
  refine ⟨l, Reach.of_replay (fun _ _ _ => trivial) Reach.start hl, fun hagree => ?_⟩
  rw [hagree.test] at hbits
  simp at hbits

/-- A process that refuses what it is asked. -/
def refusingEnv : LoopEnv :=
  { servingEnv with
    request := { grantingEnv with checkTestPolicy := fun s => ⟨false, .ok, s.testSpec, 0, 0⟩ } }

/-- A request for the time, a test that is refused, the same test granted, and its start. -/
def servedTest : List LineEvent :=
  [.call (.controlTimeCheck true) servingEnv, .call askTenGigabit refusingEnv,
    .call askTenGigabit servingEnv, .call (.startSession true 5001) servingEnv]

theorem granted_request_agrees : ∃ l : Line, l.client.stateIs stateTest = true ∧
    l.client.tests.isSome = true ∧ l.Agree := by
  -- the events of this run are clean where no session is held yet, and so is the start of one
  let okb : Line → LineEvent → Bool := fun l e =>
    l.client.tests.isNone || (e matches .call (.startSession _ _) _)
  have hrun : (replay Line.step okb freshLine servedTest).any (fun l =>
      l.client.stateIs stateTest && l.client.tests.isSome) = true := by
    decide +kernel
  obtain ⟨l, hl, hfinal⟩ := (Option.any_eq_true _ _).1 hrun
  rw [Bool.and_eq_true] at hfinal
  refine ⟨l, hfinal.1, hfinal.2, lockstep (Reach.of_replay_mem (fun l e he hok => ?_) Reach.start hl)⟩
  simp only [servedTest, List.mem_cons, List.not_mem_nil, or_false] at he
  rcases he with rfl | rfl | rfl | rfl
  · exact ⟨trivial, fun p _ => Or.inl rfl⟩
  · refine ⟨fun s hs => ?_, fun p _ => Or.inr (Or.inr rfl)⟩
    simp [okb, hs, askTenGigabit] at hok
  · refine ⟨fun s hs => ?_, fun p _ => Or.inl rfl⟩
    simp [okb, hs, askTenGigabit] at hok
  · exact ⟨trivial, fun p _ => Or.inl rfl⟩

end Bwctl
