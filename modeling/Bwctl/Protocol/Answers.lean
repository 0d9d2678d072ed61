import Bwctl.Protocol.ServerSafety
import Bwctl.Protocol.Client

/-!
# Requests and their answers

What one exchange between a client and the loop of a server leaves at both ends, if neither gives up
its connection.

* `readTestAccept_sent` — a TestAccept is read as it was sent.
* `askSession_taken`, `cancelSession_taken` — the client's side of a request.
* `processTestRequest_answer`, `serve_test` — the server's side.
* `serve_time`, `serve_start` — the other requests.
-/

set_option autoImplicit false

namespace Bwctl

open Octets

/-! ## TestAccept -/

/-- Everything a TestAccept says. -/
structure AcceptFields (buf : Msg) (a : AcceptType) (s : TestSession) : Prop where
  acceptval : byte buf 0 = a.octet
  toolPort : s.confServer = true → load16 buf 2 = s.toolPort
  sid : load buf 4 16 = s.sid.toList
  reserveTime : load64 buf 20 = s.reserveTime
  padding : load buf 28 4 = List.replicate 4 0

theorem acceptFields (msg : Msg) (a : AcceptType) (s : TestSession) :
    AcceptFields (encodeTestAccept msg a s) a s := by
  have hsid : s.sid.toList.length = 16 := Vector.length_toList
  have htime : (encodeTimeStamp s.reserveTime).length = 8 := length_be64 _
  refine ⟨byte_encodeTestAccept msg a s, ?_, ?_, ?_, ?_⟩
  · intro hserver
    unfold encodeTestAccept
    dsimp only
    rw [if_pos hserver, load16_store_of_disjoint (by simp), load16_store_of_disjoint (by omega),
      load16_store (by omega)]
  · unfold encodeTestAccept
    rw [load_store_of_disjoint (Or.inl (by omega)), load_store_of_length hsid (by omega)]
  · unfold encodeTestAccept
    exact load64_store (by omega)
  · unfold encodeTestAccept
    rw [load_store_of_disjoint (Or.inr (by omega)), load_store_of_disjoint (Or.inr (by omega))]
    split
    · rw [load_store_of_disjoint (by simp), load_store_of_disjoint (by simp),
        load_store_zeros (by omega) (by omega) (by omega)]
    · rw [load_store_of_disjoint (by simp), load_store_zeros (by omega) (by omega) (by omega)]

theorem AcceptFields.congr {buf buf' : Msg} {a : AcceptType} {s : TestSession}
    (h : AcceptFields buf a s) (hsame : ∀ i < 32, byte buf' i = byte buf i) :
    AcceptFields buf' a s where
  acceptval := (hsame 0 (by omega)).trans h.acceptval
  toolPort := fun hserver => (load16_congr fun i _ _ => hsame i (by omega)).trans (h.toolPort hserver)
  sid := (load_congr fun i _ _ => hsame i (by omega)).trans h.sid
  reserveTime := (load64_congr fun i _ _ => hsame i (by omega)).trans h.reserveTime
  padding := (load_congr fun i _ _ => hsame i (by omega)).trans h.padding

/-- The client's session after a TestAccept for the server's session. -/
def TestSession.accepted (s r : TestSession) : TestSession :=
  { s with
    toolPort := if s.confServer then r.toolPort else s.toolPort
    sid := if s.confServer then r.sid else s.sid
    reserveTime := r.reserveTime }

/-- A message of two blocks. -/
theorem chunks_two (buf : Msg) : ∃ first second, chunks 16 2 buf = [first, second] :=
  ⟨_, _, rfl⟩

theorem recv_two (buf : Msg) (w : Wire) :
    Wire.recv 2 (arrive (chunks 16 2 buf) ++ w) = (.data (chunks 16 2 buf), w) := by
  have hrecv := recv_arrive (chunks 16 2 buf) w
  rw [length_chunks] at hrecv
  exact hrecv

/-- **A TestAccept is read as it was sent.** -/
theorem readTestAccept_sent {c : Conn} (hc : c.stateIs stateTestAccept = true) (msg : Msg)
    {a : AcceptType} (ha : a ≠ .invalid) (s r : TestSession) :
    ∃ s', readTestAccept c (.data (chunks 16 2 (encodeTestAccept msg a r))) s =
        ((c.receive 0 (chunks 16 2 (encodeTestAccept msg a r))).leave stateTestAccept, .ok, some a,
          s') ∧
      (r.confClient = s.confClient → s' = s.accepted r) := by
  have hsame : ∀ i < 32, byte (c.receive 0 (chunks 16 2 (encodeTestAccept msg a r))).msg i =
      byte (encodeTestAccept msg a r) i := fun i hi => byte_store_chunks (by omega) (by omega)
  have hfields := (acceptFields msg a r).congr hsame
  obtain ⟨first, second, hblocks⟩ := chunks_two (encodeTestAccept msg a r)
  rw [hblocks] at hfields ⊢
  unfold readTestAccept TestSession.accepted decodeTimeStamp
  rw [hc]
  simp only [Bool.not_true, Bool.false_eq_true, if_false]
  rw [hfields.padding, hfields.acceptval, getAcceptType_octet, if_neg (by simp), if_neg ha,
    hfields.reserveTime]
  refine ⟨_, rfl, fun hside => ?_⟩
  have hserver : r.confServer = s.confServer := by
    unfold TestSession.confServer
    rw [hside]
  cases hs : s.confServer with
  | false => rfl
  | true =>
    rw [hs] at hserver
    simp only [if_true]
    rw [hfields.toolPort hserver, ofFn_of_load hfields.sid]

/-! ## The client's side of a request -/

/-- What a write of a TestRequest comes to on an idle connection. -/
theorem writeTestRequest_idle {tools : ToolTable} (sent : Bool) {c : Conn}
    (hc : c.isRequest = true ∧ c.isPending = false) (s : TestSession) :
    (∃ buf, encodeTestRequest tools c.msg s c.protocolVersion = .ok buf ∧
        writeTestRequest tools sent c s = if sent then (c.enter stateTestAccept, .ok,
          chunks 16 (requestBlocks c.protocolVersion) buf) else (c.fail, .fatal, [])) ∨
      (¬ ∃ buf, encodeTestRequest tools c.msg s c.protocolVersion = .ok buf) ∧
        writeTestRequest tools sent c s = (c, .fatal, []) := by
  unfold writeTestRequest
  rw [hc.1, hc.2]
  simp only [Bool.not_true, Bool.or_self, Bool.false_eq_true, if_false]
  cases hbuf : encodeTestRequest tools c.msg s c.protocolVersion with
  | error e => exact Or.inr ⟨by simp, rfl⟩
  | ok buf =>
    refine Or.inl ⟨buf, rfl, ?_⟩
    cases sent <;> rfl

/-- What reading the answer to a request comes to. -/
theorem readTestAccept_cases {c : Conn} (hc : c.stateIs stateTestAccept = true) (r : Recv)
    (s : TestSession) :
    ((readTestAccept c r s).2.1 = .fatal ∧ (readTestAccept c r s).1.state = stateInvalid) ∨
      ∃ c' a s', readTestAccept c r s = (c', .ok, some a, s') := by
  unfold readTestAccept
  rw [hc]
  simp only [Bool.not_true, Bool.false_eq_true, if_false]
  split
  · split
    · exact Or.inl ⟨rfl, rfl⟩
    split
    · exact Or.inl ⟨rfl, rfl⟩
    · exact Or.inr ⟨_, _, _, rfl⟩
  · exact Or.inl ⟨rfl, rfl⟩

theorem readTestAccept_closed (c : Conn) (s : TestSession) :
    (readTestAccept c .closed s).2.1 = .fatal := by
  unfold readTestAccept
  split <;> rfl

/-- A client that asked with a session has given up its connection, or has read an answer and keeps
    the session if it was accepted. -/
def AnswerTaken (c : Conn) (s : TestSession) (w : Wire) (conn : Conn) (wire : Wire) : Prop :=
  conn.state = stateInvalid ∨
    ∃ c' a s', readTestAccept (c.enter stateTestAccept) (w.recv 2).1 s = (c', .ok, some a, s') ∧
      conn = { c' with tests := if a = .accept then some s' else none } ∧ wire = (w.recv 2).2

theorem askSession_taken (toolPort : UInt16) {env : RequestEnv} {c : Conn} {s : TestSession}
    {blocks : List Block} {sid : SID} (hwrite : writeTestRequest env.tools env.sent c
      (if s.confServer then s else { s with sid := sid }) = (c.enter stateTestAccept, .ok, blocks))
    (w : Wire) :
    (askSession env c w s toolPort sid).out = blocks ∧
      AnswerTaken c (if s.confServer then s else { s with sid := sid }) w
        (askSession env c w s toolPort sid).conn (askSession env c w s toolPort sid).wire := by
  unfold askSession clientRequestTestReadResponse AnswerTaken
  dsimp only
  generalize (if s.confServer then s else { s with sid := sid }) = asked at hwrite ⊢
  rw [hwrite]
  dsimp only
  rw [if_neg (show ¬ ErrSeverity.ok.prio < ErrSeverity.ok.prio by decide)]
  rcases readTestAccept_cases (enter_stateIs c (show stateTestAccept ≠ 0 by decide)) (w.recv 2).1
    asked with ⟨hfatal, hstate⟩ | ⟨c', a, s', hread⟩
  · rw [hfatal, if_pos fatal_prio]
    exact ⟨rfl, Or.inl hstate⟩
  · rw [hread]
    dsimp only
    rw [if_neg (show ¬ ErrSeverity.ok.prio < ErrSeverity.ok.prio by decide)]
    by_cases ha : a = .accept
    · subst ha
      exact ⟨rfl, Or.inr ⟨c', .accept, s', rfl, rfl, rfl⟩⟩
    · have hgranted : decide ((some a).getD .failure = .accept) = false := by simpa using ha
      dsimp only
      rw [hgranted, if_neg (by simp)]
      exact ⟨rfl, Or.inr ⟨c', a, s', rfl, by rw [if_neg ha]; rfl, rfl⟩⟩

theorem cancelSession_taken {env : RequestEnv} {c : Conn} {s : TestSession} {blocks : List Block}
    {toolPort : UInt16} {sid : SID}
    (hwrite : writeTestRequest env.tools env.sent c s = (c.enter stateTestAccept, .ok, blocks))
    (w : Wire) :
    (cancelSession env c w s toolPort sid).out = blocks ∧
      AnswerTaken c s w (cancelSession env c w s toolPort sid).conn
        (cancelSession env c w s toolPort sid).wire := by
  unfold cancelSession AnswerTaken
  rw [hwrite]
  dsimp only
  rw [if_neg (show ¬ ErrSeverity.ok.prio < ErrSeverity.ok.prio by decide)]
  rcases readTestAccept_cases (enter_stateIs c (show stateTestAccept ≠ 0 by decide)) (w.recv 2).1
    s with ⟨hfatal, hstate⟩ | ⟨c', a, s', hread⟩
  · rw [hfatal, if_pos fatal_prio]
    exact ⟨rfl, Or.inl hstate⟩
  · rw [hread]
    dsimp only
    rw [if_neg (show ¬ ErrSeverity.ok.prio < ErrSeverity.ok.prio by decide)]
    by_cases ha : a = .reject
    · subst ha
      exact ⟨rfl, Or.inr ⟨c', .reject, s', rfl, rfl, rfl⟩⟩
    · rw [if_pos (show (some a).getD .failure ≠ .reject from ha)]
      exact ⟨rfl, Or.inl rfl⟩

/-- A request whose write fails is given up. -/
theorem askSession_unsent {env : RequestEnv} {c c' : Conn} {s : TestSession} {toolPort : UInt16}
    {sid : SID} (hwrite : writeTestRequest env.tools env.sent c
      (if s.confServer then s else { s with sid := sid }) = (c', .fatal, [])) (w : Wire) :
    (askSession env c w s toolPort sid).out = [] ∧
      (askSession env c w s toolPort sid).conn = c'.free ∧
      (askSession env c w s toolPort sid).wire = w := by
  unfold askSession clientRequestTestReadResponse
  dsimp only
  rw [hwrite]
  exact ⟨rfl, rfl, rfl⟩

theorem cancelSession_unsent {env : RequestEnv} {c c' : Conn} {s : TestSession} {toolPort : UInt16}
    {sid : SID} (hwrite : writeTestRequest env.tools env.sent c s = (c', .fatal, [])) (w : Wire) :
    (cancelSession env c w s toolPort sid).out = [] ∧
      (cancelSession env c w s toolPort sid).conn = c'.free ∧
      (cancelSession env c w s toolPort sid).wire = w := by
  unfold cancelSession
  rw [hwrite]
  exact ⟨rfl, rfl, rfl⟩

/-- **What a request of the client is**: refused at once, given up because its message cannot be
    written (or the write fails), or sent and its answer taken. -/
inductive Asking (env : RequestEnv) (c : Conn) (testSpec : BWLTestSpec) (sid : SID)
    (run : Wire → RequestResult) : Prop
  | refused (hrun : ∀ w, (run w).out = [] ∧ (run w).conn = c ∧ (run w).wire = w)
  | unwritable (hcause : ∀ s, c.tests = some s → sid = s.sid ∧
      ¬ ∃ buf, encodeTestRequest env.tools c.msg (s.retime testSpec) c.protocolVersion = .ok buf)
      (hrun : ∀ w, (run w).out = [] ∧ (run w).conn = c.free ∧ (run w).wire = w)
  | broken (hrun : ∀ w, (run w).out = [] ∧ (run w).conn.state = stateInvalid)
  | asked (s : TestSession) (buf : Msg)
      (hbuf : encodeTestRequest env.tools c.msg s c.protocolVersion = .ok buf)
      (hsession : ∀ cs, c.tests = some cs → s.sid = cs.sid ∧ s.confClient = cs.confClient)
      (hrun : ∀ w, (run w).out = chunks 16 (requestBlocks c.protocolVersion) buf ∧
        AnswerTaken c s w (run w).conn (run w).wire)

section Request

variable {env : RequestEnv} {c : Conn} {testSpec : BWLTestSpec} {sid : SID}

/-- A request is written, or not. -/
theorem asking_of_write {run : Wire → RequestResult} (hc : c.isRequest = true ∧ c.isPending = false)
    {s : TestSession}
    (hsession : ∀ cs, c.tests = some cs → s.sid = cs.sid ∧ s.confClient = cs.confClient)
    (hcause : ∀ cs, c.tests = some cs → sid = cs.sid ∧ s = cs.retime testSpec)
    (htaken : ∀ blocks, writeTestRequest env.tools env.sent c s =
        (c.enter stateTestAccept, .ok, blocks) →
      ∀ w, (run w).out = blocks ∧ AnswerTaken c s w (run w).conn (run w).wire)
    (hunsent : ∀ c', writeTestRequest env.tools env.sent c s = (c', .fatal, []) →
      ∀ w, (run w).out = [] ∧ (run w).conn = c'.free ∧ (run w).wire = w) :
    Asking env c testSpec sid run := by
  obtain ⟨buf, hbuf, hwrite⟩ | ⟨hnone, hwrite⟩ := writeTestRequest_idle env.sent hc s
  · cases hsent : env.sent with
    | true =>
      rw [hsent, if_pos rfl] at hwrite
      rw [hsent] at htaken
      exact .asked s buf hbuf hsession (htaken _ hwrite)
    | false =>
      rw [hsent, if_neg (by simp)] at hwrite
      rw [hsent] at hunsent
      refine .broken fun w => ?_
      obtain ⟨hout, hconn, -⟩ := hunsent _ hwrite w
      exact ⟨hout, by rw [hconn]; rfl⟩
  · refine .unwritable ?_ (hunsent _ hwrite)
    intro cs hcs
    obtain ⟨hsid, hs⟩ := hcause cs hcs
    rw [← hs]
    exact ⟨hsid, hnone⟩

/-- **Every request of the client.** -/
theorem sessionRequest_asking (env : RequestEnv) (testSpec : BWLTestSpec) (sid : SID)
    (hc : c.isPending = false) (isClient : Bool) (toolPort : UInt16) :
    Asking env c testSpec sid
      fun w => sessionRequest env c w isClient testSpec toolPort sid := by
  unfold sessionRequest
  cases hrequest : c.isRequest with
  | false => exact .refused fun w => ⟨rfl, rfl, rfl⟩
  | true =>
    simp only [Bool.not_true, Bool.false_eq_true, if_false]
    cases htests : c.tests with
    | some cs =>
      dsimp only
      by_cases hsid : sid = cs.sid
      · subst hsid
        have hsame : (if (cs.retime testSpec).confServer then cs.retime testSpec
            else { cs.retime testSpec with sid := cs.sid }) = cs.retime testSpec := by
          split <;> rfl
        have hsession : ∀ cs', c.tests = some cs' → (cs.retime testSpec).sid = cs'.sid ∧
            (cs.retime testSpec).confClient = cs'.confClient := by
          intro cs' hcs'
          rw [htests] at hcs'
          obtain rfl := Option.some.inj hcs'
          exact ⟨rfl, rfl⟩
        have hcause : ∀ cs', c.tests = some cs' →
            cs.sid = cs'.sid ∧ cs.retime testSpec = cs'.retime testSpec := by
          intro cs' hcs'
          rw [htests] at hcs'
          obtain rfl := Option.some.inj hcs'
          exact ⟨rfl, rfl⟩
        simp only [ne_eq, not_true_eq_false, if_false]
        split
        · apply asking_of_write ⟨hrequest, hc⟩ hsession hcause
          · intro blocks hwrite
            exact cancelSession_taken hwrite
          · intro c' hwrite
            exact cancelSession_unsent hwrite
        · apply asking_of_write ⟨hrequest, hc⟩ hsession hcause
          · intro blocks hwrite w
            rw [← hsame] at hwrite
            have htaken := askSession_taken toolPort hwrite w
            rw [hsame] at htaken
            exact htaken
          · intro c' hwrite
            rw [← hsame] at hwrite
            exact askSession_unsent hwrite
      · simp only [ne_eq, hsid, not_false_eq_true, if_true]
        exact .refused fun w => ⟨rfl, rfl, rfl⟩
    | none =>
      dsimp only
      cases env.addrs with
      | error err => exact .refused fun w => ⟨rfl, rfl, rfl⟩
      | ok addrs =>
        obtain ⟨client, server⟩ := addrs
        have hnone : ∀ (p : TestSession → Prop) cs, c.tests = some cs → p cs := by
          intro p cs hcs
          rw [htests] at hcs
          cases hcs
        apply asking_of_write ⟨hrequest, hc⟩ (hnone _) (hnone _)
        · intro blocks hwrite
          exact askSession_taken toolPort hwrite
        · intro c' hwrite
          exact askSession_unsent hwrite

end Request

/-! ## The server's side of a request -/

/-- What a read of a TestRequest that succeeds leaves. -/
theorem readTestRequest_ok {tools : ToolTable} {allocOk : Bool} {c : Conn} {r : Recv}
    {s : TestSession} (h : (readTestRequest tools allocOk c r).2 = .ok s) :
    ∃ blocks, r = .data blocks ∧
      readTestRequest tools allocOk c r =
        (((c.receive 16 blocks).leave stateTestRequest).enter stateTestAccept, .ok s) ∧
      decodeTestRequest tools allocOk (c.receive 16 blocks).msg c.protocolVersion c.tests = .ok s := by
  unfold readTestRequest at h ⊢
  split at h
  · cases h
  rename_i hstate
  rw [if_neg hstate]
  dsimp only at h ⊢
  split at h
  · rename_i blocks
    split at h
    · cases h
    rename_i hlen
    rw [if_neg hlen]
    cases hdecode : decodeTestRequest tools allocOk (c.receive 16 blocks).msg
      (c.receive 16 blocks).protocolVersion (c.receive 16 blocks).tests with
    | error e =>
      rw [hdecode] at h
      cases h
    | ok s' =>
      rw [hdecode] at h
      cases h
      exact ⟨blocks, rfl, rfl, hdecode⟩
  · cases h

/-- A session the server made for one that was asked for. -/
structure Serves (asked served : TestSession) : Prop where
  side : served.confClient = asked.confClient
  sid : asked.confClient = true → served.sid = asked.sid

/-- A message that is read with a session reserved is for that session. -/
theorem decodeTestRequest_reserved {tools : ToolTable} {allocOk : Bool} {buf : Msg}
    {version : UInt32} {reserved s : TestSession}
    (h : decodeTestRequest tools allocOk buf version (some reserved) = .ok s) :
    s.confClient = reserved.confClient ∧ s.sid = reserved.sid := by
  unfold decodeTestRequest at h
  split at h
  · cases h
  split at h
  · cases h
  dsimp only at h
  unfold decodeUpdate at h
  split at h
  · cases h
  · cases h
    exact ⟨rfl, rfl⟩

/-- A message that is read without one carries the side and the SID of its own. -/
theorem decodeTestRequest_new {tools : ToolTable} {allocOk : Bool} {buf : Msg} {version : UInt32}
    {s : TestSession} (h : decodeTestRequest tools allocOk buf version none = .ok s) :
    s.confClient = decide (byte buf 2 ≠ 0) ∧ s.sid = decodeSid buf := by
  unfold decodeTestRequest at h
  split at h
  · cases h
  split at h
  · cases h
  dsimp only at h
  unfold decodeNew at h
  dsimp only at h
  split at h
  · cases h
  split at h
  · cases h
  split at h
  · cases h
  split at h
  · cases h
  split at h
  · cases h
  · cases h
    exact ⟨rfl, rfl⟩

theorem createSid_side (s : TestSession) (random : Option (Vector UInt8 4)) :
    (createSid s random).1.confClient = s.confClient := by
  unfold createSid
  dsimp only
  split
  · cases random <;> rfl
  · cases random <;> rfl
  · rfl

/-- A SID is made for the server of a test only. -/
theorem newSid_serves (s : TestSession) (random : Option (Vector UInt8 4)) :
    Serves s (newSid s random).1 := by
  unfold newSid
  split
  · rename_i hserver
    refine ⟨createSid_side s random, fun hclient => ?_⟩
    unfold TestSession.confServer at hserver
    rw [hclient] at hserver
    cases hserver
  · exact ⟨rfl, fun _ => rfl⟩

/-- The preparation keeps what the client knows of the session. -/
theorem prepareTest_serves {env : TestRequestEnv} {update : Bool} {s p : TestSession}
    (h : prepareTest env update s = .ok p) : Serves s p := by
  unfold prepareTest at h
  split at h
  · cases h
  rename_i localtime _
  dsimp only at h
  split at h
  · split at h
    · cases h
    · cases h
      exact ⟨rfl, fun _ => rfl⟩
  split at h
  · cases h
  split at h
  · cases h
  · cases h
    have hserves := newSid_serves { s with localtime := localtime, reserveTime := 0 } env.randomBytes
    exact ⟨hserves.side, hserves.sid⟩

/-- A refusal has an accept value. -/
theorem refused_valid {env : TestRequestEnv} {update : Bool} {s : TestSession} {e : TestRefusal}
    (h : (prepareTest env update s >>= consultPolicy env) = .error e) : e.acceptval ≠ .invalid := by
  cases hprepare : prepareTest env update s with
  | ok p =>
    rw [hprepare] at h
    change consultPolicy env p = _ at h
    unfold consultPolicy at h
    dsimp only at h
    split at h
    · split at h <;> cases h <;> simp
    split at h
    · cases h
      simp
    · cases h
  | error e' =>
    rw [hprepare] at h
    cases h
    unfold prepareTest at hprepare
    split at hprepare
    · cases hprepare
      simp
    dsimp only at hprepare
    split at hprepare
    · split at hprepare <;> cases hprepare
      simp
    split at hprepare
    · cases hprepare
      simp
    split at hprepare
    · cases hprepare
      simp
    · cases hprepare

/-- The hook is asked about a session. -/
def Consulted (env : TestRequestEnv) (c : Conn) (r : Recv) (p : TestSession) : Prop :=
  ∃ s, (readTestRequest env.tools env.allocOk c r).2 = .ok s ∧
    prepareTest env c.tests.isSome s = .ok p

/-- A hook that grants, or refuses for good or for a reason of its own, but not with a severity in
    between. -/
def PolicyAnswer.Outspoken (p : PolicyAnswer) : Prop :=
  p.granted = true ∨ p.err = .fatal ∨ p.err = .ok

/-- An answered request: a TestAccept for a session goes out, and the connection has this session
    if and only if the answer accepts it. -/
structure TestAnswer (c : Conn) (s : TestSession) (result : Conn × ErrSeverity × List Block)
    (msg : Msg) (a : AcceptType) (p : TestSession) : Prop where
  serves : a = .accept → Serves s p
  valid : a ≠ .invalid
  out : result.2.2 = chunks 16 2 (encodeTestAccept msg a p)
  state : result.1.state = stateRequest
  version : result.1.protocolVersion = c.protocolVersion
  tests : result.1.tests = if a = .accept then some p else none

/-- **An answer is an answer**, if the hook speaks out. -/
theorem processTestRequest_answer {env : TestRequestEnv} {c : Conn} (hc : Requested c) {r : Recv}
    (hspeaks : ∀ p, Consulted env c r p → (env.checkTestPolicy p).Outspoken)
    (hout : (processTestRequest env c r).2.2 ≠ []) :
    ∃ s msg a p, (readTestRequest env.tools env.allocOk c r).2 = .ok s ∧
      TestAnswer c s (processTestRequest env c r) msg a p := by
  cases hread : (readTestRequest env.tools env.allocOk c r).2 with
  | error e =>
    exfalso
    apply hout
    unfold processTestRequest
    rw [show readTestRequest env.tools env.allocOk c r =
      ((readTestRequest env.tools env.allocOk c r).1, .error e) from Prod.ext rfl hread]
  | ok s =>
    obtain ⟨blocks, -, hresult, -⟩ := readTestRequest_ok hread
    have hstate : (((c.receive 16 blocks).leave stateTestRequest).enter stateTestAccept).state =
        stateRequest ||| stateTestAccept := by
      rw [Conn.enter_state, Conn.leave_state, Conn.receive_state, hc]
      decide
    unfold processTestRequest at hout ⊢
    rw [hresult] at hout ⊢
    dsimp only at hout ⊢
    cases hpolicy : prepareTest env c.tests.isSome s >>= consultPolicy env with
    | ok p =>
      rw [hpolicy] at hout
      dsimp only at hout ⊢
      obtain ⟨-, hwrite, hquiet⟩ | ⟨-, hwrite⟩ :=
        writeTestAccept_owing hstate env.answerSent .accept p
      · rw [hwrite] at hout ⊢
        dsimp only at hout ⊢
        rw [if_neg (show ¬ ErrSeverity.ok.prio < ErrSeverity.ok.prio by decide)]
        refine ⟨s, _, .accept, p, rfl, ⟨fun _ => ?_, by simp, rfl, hquiet, rfl, rfl⟩⟩
        cases hprepare : prepareTest env c.tests.isSome s with
        | error e =>
          rw [hprepare] at hpolicy
          cases hpolicy
        | ok p' =>
          rw [hprepare] at hpolicy
          change consultPolicy env p' = _ at hpolicy
          have hserves := prepareTest_serves hprepare
          obtain ⟨-, -, hok⟩ | ⟨-, -, herror⟩ | ⟨e, herror, -⟩ := consultPolicy_cases env p'
          · rw [hok] at hpolicy
            cases hpolicy
            exact ⟨hserves.side, hserves.sid⟩
          · rw [herror] at hpolicy
            cases hpolicy
          · rw [herror] at hpolicy
            cases hpolicy
      · rw [hwrite] at hout
        exact absurd rfl hout
    | error e =>
      rw [hpolicy] at hout
      dsimp only at hout ⊢
      split at hout
      · exact absurd rfl hout
      rename_i hprio
      rw [if_neg hprio]
      obtain ⟨-, hwrite, hquiet⟩ | ⟨-, hwrite⟩ :=
        writeTestAccept_owing hstate env.answerSent e.acceptval e.session
      · rw [hwrite]
        have hrefused : e.acceptval ≠ .accept := by
          cases hprepare : prepareTest env c.tests.isSome s with
          | error e' =>
            rw [hprepare] at hpolicy
            cases hpolicy
            exact (prepareTest_error hprepare).2
          | ok p =>
            have hspoken := hspeaks p ⟨s, hread, hprepare⟩
            rw [hprepare] at hpolicy
            change consultPolicy env p = _ at hpolicy
            obtain ⟨-, -, hok⟩ | ⟨hgranted, hne, herror⟩ | ⟨e', herror, -, hrefuse, -⟩ :=
              consultPolicy_cases env p
            · rw [hok] at hpolicy
              cases hpolicy
            · rw [herror] at hpolicy
              cases hpolicy
              rcases hspoken with hyes | hfatal | hown
              · rw [hgranted] at hyes
                cases hyes
              · rw [hfatal] at hprio
                exact absurd (show ErrSeverity.fatal.prio < _ by decide) hprio
              · exact absurd hown hne
            · rw [herror] at hpolicy
              cases hpolicy
              exact hrefuse
        refine ⟨s, _, e.acceptval, e.session, rfl,
          ⟨fun hyes => absurd hyes hrefused, refused_valid hpolicy, rfl, hquiet, rfl, ?_⟩⟩
        rw [if_neg hrefused]
        rfl
      · rw [hwrite] at hout
        exact absurd rfl hout

theorem nextReq_wire (err : ErrSeverity) (c : Conn) (w : Wire) : (nextReq err c w).wire = w := by
  unfold nextReq
  split <;> rfl

/-- The hook is asked in a round of the loop. -/
def HookAsked (env : LoopEnv) (c : Conn) (w : Wire) (p : TestSession) : Prop :=
  Consulted env.request (nextRequest c w).1
    ((nextRequest c w).2.2.recv (requestBlocks (nextRequest c w).1.protocolVersion - 1)).1 p

/-- The first block of a message in its place, at a server between two requests. -/
theorem nextRequest_request {c : Conn} (hc : c.state = stateRequest) {block : Block}
    {t : RequestType} (hnumber : t.number = some (byte block 0)) (hstop : t ≠ .stopSession) (w : Wire) :
    nextRequest c (.block block :: w) = ((c.receive 0 [block]).enter t.reading, t, w) := by
  obtain ⟨hrequest, hreading, -⟩ := quiet_of_state hc
  apply nextRequest_block hrequest hreading hnumber
  have htest : c.stateIs stateTest = false := by
    unfold Conn.stateIs
    rw [hc]
    decide
  rw [htest]
  simpa using hstop

/-- **A TestRequest that is answered** by a round of the loop. -/
theorem serve_test {env : LoopEnv} {c : Conn} (hc : c.state = stateRequest) {buf : Msg}
    (hkind : byte buf 0 = 1)
    (hspeaks : ∀ p, HookAsked env c (arrive (chunks 16 (requestBlocks c.protocolVersion) buf)) p →
      (env.request.checkTestPolicy p).Outspoken)
    (hout : (serveRequest env c (arrive (chunks 16 (requestBlocks c.protocolVersion) buf))).out ≠ []) :
    ∃ msg' : Msg, (∀ i < 16 * requestBlocks c.protocolVersion, byte msg' i = byte buf i) ∧
      ∃ s err result msg a p,
        decodeTestRequest env.request.tools env.request.allocOk msg' c.protocolVersion c.tests =
          .ok s ∧ TestAnswer c s result msg a p ∧
        (serveRequest env c (arrive (chunks 16 (requestBlocks c.protocolVersion) buf))).out =
          result.2.2 ∧
        (serveRequest env c (arrive (chunks 16 (requestBlocks c.protocolVersion) buf))).child =
          nextReq err result.1 [] := by
  have hblocks := requestBlocks_le c.protocolVersion
  obtain ⟨first, rest, hchunks, hlen, hfirst, hmsg⟩ := receive_blocks c buf stateTestRequest
    (k := requestBlocks c.protocolVersion) (by omega) (by omega)
  have hnumber : RequestType.test.number = some (byte first 0) := by
    rw [hfirst, hkind]
    rfl
  have hnext := nextRequest_request hc hnumber (by decide) (arrive rest)
  have hrecv : Wire.recv (requestBlocks c.protocolVersion - 1) (arrive rest) = (.data rest, []) := by
    have h := recv_arrive rest []
    rw [List.append_nil, hlen] at h
    exact h
  have hwire : arrive (chunks 16 (requestBlocks c.protocolVersion) buf) =
      .block first :: arrive rest := by
    rw [hchunks]
    rfl
  refine ⟨_, hmsg, ?_⟩
  rw [hwire] at hspeaks hout ⊢
  unfold HookAsked at hspeaks
  unfold serveRequest at hout ⊢
  rw [hnext] at hspeaks hout ⊢
  have hversion : ((c.receive 0 [first]).enter stateTestRequest).protocolVersion =
      c.protocolVersion := rfl
  have hrequested : Requested ((c.receive 0 [first]).enter stateTestRequest) := by
    unfold Requested
    rw [Conn.enter_state, Conn.receive_state, hc]
  dsimp only [RequestType.reading] at hspeaks hout ⊢
  rw [hversion, hrecv] at hspeaks hout ⊢
  dsimp only at hspeaks hout ⊢
  obtain ⟨s, msg, a, p, hread, hanswer⟩ := processTestRequest_answer hrequested hspeaks hout
  obtain ⟨blocks, hdata, -, hdecode⟩ := readTestRequest_ok hread
  cases hdata
  exact ⟨s, _, _, msg, a, p, hdecode, ⟨hanswer.serves, hanswer.valid, hanswer.out, hanswer.state,
    hanswer.version, hanswer.tests⟩, rfl, rfl⟩

/-! ## The other requests -/

theorem controlTimeCheck_out (sent : Bool) (c : Conn) (w : Wire) :
    (controlTimeCheck sent c w).2.2.2.2 = (writeTimeRequest c sent).2.2 := by
  unfold controlTimeCheck
  dsimp only
  split
  · rfl
  split <;> rfl

theorem startSession_out (sent : Bool) (c : Conn) (w : Wire) (dataport : UInt16) :
    (startSession sent c w dataport).2.2.2.2 = (writeStartSession c sent dataport).2.2 := by
  unfold startSession
  dsimp only
  split
  · rfl
  split <;> rfl

theorem writeTimeRequest_ok {c : Conn} {sent : Bool} (h : (writeTimeRequest c sent).2.1 = .ok) :
    ∃ buf : Msg, byte buf 0 = 4 ∧
      writeTimeRequest c sent = (c.enter stateTimeResponse, .ok, chunks 16 2 buf) := by
  unfold writeTimeRequest at h ⊢
  split at h
  · cases h
  rename_i hstate
  rw [if_neg hstate]
  split at h
  · cases h
  rename_i hsent
  rw [if_neg hsent]
  refine ⟨_, ?_, rfl⟩
  rw [byte_store_of_disjoint (Or.inl (by omega)), byte_store_one (by omega)]

theorem readTimeResponse_ok {c : Conn} {r : Recv} (h : (readTimeResponse c r).2.1 = .ok) :
    ∃ blocks, r = .data blocks ∧
      (readTimeResponse c r).1 = (c.receive 0 blocks).leave stateTimeResponse := by
  unfold readTimeResponse at h ⊢
  split at h
  · cases h
  rename_i hstate
  rw [if_neg hstate]
  split at h
  · rename_i first second
    dsimp only at h ⊢
    split at h
    · cases h
    rename_i hpad
    rw [if_neg hpad]
    split at h
    · cases h
    · exact ⟨_, rfl, rfl⟩
  · cases h

theorem writeStartSession_ok {c : Conn} {sent : Bool} {port : UInt16}
    (h : (writeStartSession c sent port).2.1 = .ok) :
    ∃ buf : Msg, byte buf 0 = 2 ∧ writeStartSession c sent port =
      ((c.enter stateStartAck).enter stateTest, .ok, chunks 16 2 buf) := by
  unfold writeStartSession at h ⊢
  cases htests : c.tests with
  | none =>
    rw [htests] at h
    cases h
  | some s =>
    rw [htests] at h
    dsimp only at h ⊢
    split at h
    · cases h
    rename_i hstate
    rw [if_neg hstate]
    split at h
    · cases h
    rename_i hsent
    rw [if_neg hsent]
    refine ⟨_, ?_, rfl⟩
    split
    · rw [byte_store_of_disjoint (Or.inl (by omega)), byte_store_one (by omega)]
    · exact byte_store_one (by omega)

theorem readStartAck_ok {c : Conn} {r : Recv} (h : (readStartAck c r).2.1 = .ok)
    (ha : (readStartAck c r).2.2.1 = .accept) :
    ∃ blocks, r = .data blocks ∧ (readStartAck c r).1 = (c.receive 0 blocks).leave stateStartAck := by
  unfold readStartAck at h ha ⊢
  split at h
  · cases h
  rename_i hstate
  rw [if_neg hstate] at ha ⊢
  split at h
  · rename_i first second
    dsimp only at h ha ⊢
    split at h
    · cases h
    rename_i hpad
    rw [if_neg hpad] at ha ⊢
    split at h
    · cases h
    rename_i hinvalid
    rw [if_neg hinvalid] at ha ⊢
    dsimp only at ha ⊢
    refine ⟨_, rfl, ?_⟩
    rw [if_neg]
    rintro ⟨-, hne⟩
    exact hne ha
  · cases h

/-- What a call that completes has sent (a message with a number of its own), read and left. -/
structure Completed (c : Conn) (number : UInt8) (state : UInt32) (w : Wire) (r : CallResult) :
    Prop where
  sent : ∃ buf : Msg, r.out = chunks 16 2 buf ∧ byte buf 0 = number
  read : ∃ blocks, (w.recv 2).1 = .data blocks
  wire : r.wire = (w.recv 2).2
  state : r.conn.state = state
  tests : r.conn.tests = c.tests
  version : r.conn.protocolVersion = c.protocolVersion

/-- **A time check that completes** leaves the session alone. -/
theorem controlTimeCheck_completed {sent : Bool} {c : Conn} {w : Wire}
    (h : (ClientCall.run (.controlTimeCheck sent) c w).conn.state ≠ stateInvalid) :
    Completed c 4 ((c.state ||| stateTimeResponse) &&& ~~~stateTimeResponse) w
      (ClientCall.run (.controlTimeCheck sent) c w) := by
  unfold ClientCall.run controlTimeCheck at h ⊢
  dsimp only at h ⊢
  by_cases hwritten : (writeTimeRequest c sent).2.1 = .ok
  · obtain ⟨buf, hkind, hwrite⟩ := writeTimeRequest_ok hwritten
    rw [hwrite] at h ⊢
    simp only [ne_eq, not_true_eq_false, if_false] at h ⊢
    by_cases hread : (readTimeResponse (c.enter stateTimeResponse) (w.recv 2).1).2.1 = .ok
    · obtain ⟨blocks, hdata, hconn⟩ := readTimeResponse_ok hread
      rw [if_neg (not_not.2 hread), hconn]
      exact ⟨⟨buf, rfl, hkind⟩, ⟨blocks, hdata⟩, rfl, rfl, rfl, rfl⟩
    · rw [if_pos hread] at h
      exact absurd rfl h
  · rw [if_pos hwritten] at h
    exact absurd rfl h

/-- **A start that completes** puts the connection into the test. -/
theorem startSession_completed {sent : Bool} {c : Conn} {dataport : UInt16} {w : Wire}
    (h : (ClientCall.run (.startSession sent dataport) c w).conn.state ≠ stateInvalid) :
    Completed c 2 ((c.state ||| stateStartAck ||| stateTest) &&& ~~~stateStartAck) w
      (ClientCall.run (.startSession sent dataport) c w) := by
  unfold ClientCall.run startSession at h ⊢
  dsimp only at h ⊢
  by_cases hwritten : (writeStartSession c sent dataport).2.1.prio < ErrSeverity.ok.prio
  · rw [if_pos hwritten] at h
    exact absurd rfl h
  obtain ⟨buf, hkind, hwrite⟩ := writeStartSession_ok (ErrSeverity.eq_ok hwritten)
  rw [if_neg hwritten] at h ⊢
  rw [hwrite] at h ⊢
  dsimp only at h ⊢
  generalize hstarted : (c.enter stateStartAck).enter stateTest = started at h ⊢
  by_cases hread : (readStartAck started (w.recv 2).1).2.1.prio < ErrSeverity.ok.prio ∨
      (readStartAck started (w.recv 2).1).2.2.1 ≠ .accept
  · rw [if_pos hread] at h
    exact absurd rfl h
  rw [if_neg hread]
  obtain ⟨hok, haccept⟩ := not_or.1 hread
  obtain ⟨blocks, hdata, hconn⟩ := readStartAck_ok (ErrSeverity.eq_ok hok) (not_not.1 haccept)
  dsimp only
  rw [hconn, ← hstarted]
  exact ⟨⟨buf, rfl, hkind⟩, ⟨blocks, hdata⟩, rfl, rfl, rfl, rfl⟩

/-- An answered request of two blocks: the session is as it was. -/
structure Answered (c : Conn) (point : LoopPoint) (state : UInt32) (r : Round) : Prop where
  point : r.child.point = point
  wire : r.child.wire = []
  out : ∃ buf : Msg, r.out = chunks 16 2 buf
  state : r.child.conn.state = state
  tests : r.child.conn.tests = c.tests
  version : r.child.conn.protocolVersion = c.protocolVersion

/-- The rest of a message of two blocks. -/
theorem arrive_chunks_two {buf : Msg} {number : UInt8} (hkind : byte buf 0 = number) :
    ∃ first second : Block, arrive (chunks 16 2 buf) = [.block first, .block second] ∧
      byte first 0 = number := by
  refine ⟨_, _, rfl, ?_⟩
  rw [byte_of_lt (by omega), Vector.getElem_ofFn]
  exact hkind

theorem serve_time {env : LoopEnv} {c : Conn} (hc : c.state = stateRequest) {buf : Msg}
    (hkind : byte buf 0 = 4)
    (hopen : (serveRequest env c (arrive (chunks 16 2 buf))).child.conn.state ≠ stateInvalid) :
    Answered c .request stateRequest (serveRequest env c (arrive (chunks 16 2 buf))) := by
  obtain ⟨first, second, hwire, hfirst⟩ := arrive_chunks_two hkind
  have hnumber : RequestType.time.number = some (byte first 0) := by
    rw [hfirst]
    rfl
  rw [hwire] at hopen ⊢
  unfold serveRequest at hopen ⊢
  rw [nextRequest_request hc hnumber (by decide)] at hopen ⊢
  dsimp only [RequestType.reading] at hopen ⊢
  rw [recv_block] at hopen ⊢
  rw [nextReq_conn] at hopen
  have hstate : ((c.receive 0 [first]).enter stateTimeRequest).state =
      stateRequest ||| stateTimeRequest := by
    rw [Conn.enter_state, Conn.receive_state, hc]
  obtain ⟨hok, hout, hleft, htests, hversion⟩ := processTimeRequest_answer hstate hopen
  dsimp only
  rw [hok]
  exact ⟨rfl, rfl, hout, hleft, htests, hversion⟩

theorem serve_start {env : LoopEnv} {c : Conn} (hc : c.state = stateRequest) {buf : Msg}
    (hkind : byte buf 0 = 2)
    (hopen : (serveRequest env c (arrive (chunks 16 2 buf))).child.conn.state ≠ stateInvalid)
    (hpoint : (serveRequest env c (arrive (chunks 16 2 buf))).child.point ≠ .done) :
    Answered c .waiting (stateRequest ||| stateTest)
      (serveRequest env c (arrive (chunks 16 2 buf))) := by
  obtain ⟨first, second, hwire, hfirst⟩ := arrive_chunks_two hkind
  have hnumber : RequestType.startSession.number = some (byte first 0) := by
    rw [hfirst]
    rfl
  have hstate : ((c.receive 0 [first]).enter stateStartSession).state =
      stateRequest ||| stateStartSession := by
    rw [Conn.enter_state, Conn.receive_state, hc]
  rw [hwire] at hopen hpoint ⊢
  unfold serveRequest at hopen hpoint ⊢
  rw [nextRequest_request hc hnumber (by decide)] at hopen hpoint ⊢
  dsimp only [RequestType.reading] at hopen hpoint ⊢
  generalize hrest : (if ((c.receive 0 [first]).enter stateStartSession).tests.isSome = true then
    Wire.recv 1 [.block second] else (.closed, [.block second])) = rest at hopen hpoint ⊢
  by_cases hfailed : (processStartSession env.endpointStart env.ackSent
      ((c.receive 0 [first]).enter stateStartSession) rest.1).2.1.prio < ErrSeverity.ok.prio
  · rw [if_pos hfailed] at hopen
    rw [nextReq_conn] at hopen
    rw [(processStartSession_answer hstate hopen).2.1] at hfailed
    exact absurd hfailed (by decide)
  rw [if_neg hfailed] at hopen hpoint ⊢
  split at hpoint
  · exact absurd rfl hpoint
  rename_i hgo
  rw [if_neg hgo] at hopen ⊢
  obtain ⟨hsession, -, hout, hleft, htests, hversion⟩ := processStartSession_answer hstate hopen
  rw [if_pos (Option.isSome_iff_ne_none.2 hsession)] at hrest
  refine ⟨rfl, ?_, hout, hleft, htests, hversion⟩
  rw [← hrest]
  rfl

end Bwctl
