import Bwctl.Protocol.RoundTrip
import Bwctl.Protocol.Server

/-!
# The answer to a test request

A request that is read is answered by one TestAccept, unless the connection is given up.  Three
things break this: a message for a new session that is well formed but for its tool (or whose
session cannot be allocated) is dropped without an answer and leaves its reading bit set; a hook that
fails with a severity of its own is answered with the accept value of the read, `ACCEPT`; and a
negative answer that cannot be written is not noticed.

* `decodeTestRequest_cases`, `readTestRequest_cases` — everything the read can do.
* `prepareTest_cases`, `consultPolicy_cases` — everything that can refuse a request.
* `one_answer_iff` — exactly when there is one answer.
-/

set_option autoImplicit false

namespace Bwctl

open Octets

/-! ## The read -/

/-- The tool a message asks for. -/
def requestedTool (buf : Msg) (version : UInt32) : BWLToolType :=
  if version ≥ BWL_MODE_PROTOCOL_TESTER_NEGOTIATION_VERSION then load32 buf 96 else BWL_TOOL_IPERF

/-- **A message for a new session that gets no answer**: all its fields are in order, but its tool is
    not compiled in (a mask of several tools is none of them), or there is no memory. -/
structure Unserved (tools : ToolTable) (allocOk : Bool) (buf : Msg) (version : UInt32)
    (tests : Option TestSession) : Prop where
  new : tests = none
  padding : load buf (16 * (requestBlocks version - 1)) 16 = List.replicate 16 0
  timeError : byte buf 25 ≠ 0
  sides : byte buf 2 = 0 ↔ byte buf 3 ≠ 0
  ipvn : byte buf 1 &&& 0xf = 6 ∨ byte buf 1 &&& 0xf = 4
  unserved : tools.format? (requestedTool buf version) = none ∨ allocOk = false

theorem decodeTool_cases (tools : ToolTable) (buf : Msg) (version : UInt32) :
    decodeTool buf version = some (requestedTool buf version) ∨
      decodeTool buf version = none ∧ tools.format? (requestedTool buf version) = none := by
  unfold decodeTool requestedTool
  split
  · split
    · rename_i hbits
      refine Or.inr ⟨rfl, ?_⟩
      cases hformat : tools.format? (load32 buf 96) with
      | none => rfl
      | some f => exact absurd (ToolTable.format?_bit hformat).1 hbits
    · exact Or.inl rfl
  · exact Or.inl rfl

theorem decodeAddrs_isSome (buf : Msg) :
    (∃ a, decodeAddrs buf = some a) ↔ byte buf 1 &&& 0xf = 6 ∨ byte buf 1 &&& 0xf = 4 := by
  unfold decodeAddrs
  constructor
  · rintro ⟨a, ha⟩
    split at ha
    · rename_i h
      exact Or.inl h
    split at ha
    · rename_i h
      exact Or.inr h
    · cases ha
  · intro h
    split
    · exact ⟨_, rfl⟩
    split
    · exact ⟨_, rfl⟩
    · rename_i h6 h4
      rcases h with h | h
      · exact absurd h h6
      · exact absurd h h4

/-- The tool part of a message can be parsed if the tool is compiled in. -/
theorem parseRequestParameters_isSome (tools : ToolTable) (buf : Msg) (t : BWLTestSpec)
    (version : UInt32) :
    (∃ r, parseRequestParameters tools buf t version = some r) ↔ tools.format? t.toolId ≠ none := by
  unfold parseRequestParameters
  cases tools.format? t.toolId with
  | none => simp
  | some f => cases f <;> simp

/-- A failure of the read that gives up the connection. -/
def ReadFailure.IsFatal (e : ReadFailure) : Prop := e.err = .fatal ∧ e.acceptval = .invalid

/-- A failure of the read that does not. -/
def ReadFailure.IsWarning (e : ReadFailure) : Prop :=
  e.err = .warning ∧ e.acceptval = .failure ∧ e.freed = false

/-- The branch of a new session. -/
theorem decodeNew_cases (tools : ToolTable) (allocOk : Bool) (buf : Msg) (version : UInt32)
    (reqTime : BWLTimeStamp) :
    (∃ s, decodeNew tools allocOk buf version reqTime = .ok s ∧
        ¬ (tools.format? (requestedTool buf version) = none ∨ allocOk = false)) ∨
      (∃ e, decodeNew tools allocOk buf version reqTime = .error e ∧ e.IsFatal ∧
        ¬ ((byte buf 2 = 0 ↔ byte buf 3 ≠ 0) ∧
          (byte buf 1 &&& 0xf = 6 ∨ byte buf 1 &&& 0xf = 4))) ∨
      ∃ e, decodeNew tools allocOk buf version reqTime = .error e ∧ e.IsWarning ∧
        (byte buf 2 = 0 ↔ byte buf 3 ≠ 0) ∧ (byte buf 1 &&& 0xf = 6 ∨ byte buf 1 &&& 0xf = 4) ∧
        (tools.format? (requestedTool buf version) = none ∨ allocOk = false) := by
  unfold decodeNew
  dsimp only
  split
  · rename_i hsame
    refine Or.inr (Or.inl ⟨_, rfl, ⟨rfl, rfl⟩, ?_⟩)
    rintro ⟨hsides, -⟩
    by_cases h2 : byte buf 2 = 0
    · have h3 := hsides.1 h2
      simp [h2, h3] at hsame
    · have h3 : byte buf 3 = 0 := by
        by_contra hne
        exact h2 (hsides.2 hne)
      simp [h2, h3] at hsame
  rename_i hdiff
  have hsides : byte buf 2 = 0 ↔ byte buf 3 ≠ 0 := by
    by_cases h2 : byte buf 2 = 0 <;> by_cases h3 : byte buf 3 = 0 <;> simp [h2, h3] at hdiff ⊢
  split
  · rename_i hnone
    refine Or.inr (Or.inl ⟨_, rfl, ⟨rfl, rfl⟩, ?_⟩)
    rintro ⟨-, hipvn⟩
    obtain ⟨a, ha⟩ := (decodeAddrs_isSome buf).2 hipvn
    rw [hnone] at ha
    cases ha
  rename_i client server haddrs
  have hipvn := (decodeAddrs_isSome buf).1 ⟨_, haddrs⟩
  obtain htool | ⟨htool, hformat⟩ := decodeTool_cases tools buf version
  · rw [htool]
    dsimp only
    split
    · rename_i hparse
      have hformat : tools.format? (requestedTool buf version) = none := by
        by_contra hne
        obtain ⟨r, hr⟩ := (parseRequestParameters_isSome tools buf
          (decodeSpec buf version reqTime (requestedTool buf version)) version).2 hne
        rw [hparse] at hr
        cases hr
      exact Or.inr (Or.inr ⟨_, rfl, ⟨rfl, rfl, rfl⟩, hsides, hipvn, Or.inl hformat⟩)
    rename_i tspec hparse
    have hformat : tools.format? (requestedTool buf version) ≠ none :=
      (parseRequestParameters_isSome tools buf
        (decodeSpec buf version reqTime (requestedTool buf version)) version).1 ⟨_, hparse⟩
    cases allocOk with
    | false =>
      exact Or.inr (Or.inr ⟨_, rfl, ⟨rfl, rfl, rfl⟩, hsides, hipvn, Or.inr rfl⟩)
    | true =>
      refine Or.inl ⟨_, rfl, ?_⟩
      rintro (hnone | hfalse)
      · exact hformat hnone
      · cases hfalse
  · rw [htool]
    exact Or.inr (Or.inr ⟨_, rfl, ⟨rfl, rfl, rfl⟩, hsides, hipvn, Or.inl hformat⟩)

/-- **Everything the decoding of a message can do.** -/
theorem decodeTestRequest_cases (tools : ToolTable) (allocOk : Bool) (buf : Msg) (version : UInt32)
    (tests : Option TestSession) :
    (∃ s, decodeTestRequest tools allocOk buf version tests = .ok s ∧
        ¬ Unserved tools allocOk buf version tests) ∨
      (∃ e, decodeTestRequest tools allocOk buf version tests = .error e ∧ e.IsFatal ∧
        ¬ Unserved tools allocOk buf version tests) ∨
      ∃ e, decodeTestRequest tools allocOk buf version tests = .error e ∧ e.IsWarning ∧
        Unserved tools allocOk buf version tests := by
  unfold decodeTestRequest
  split
  · rename_i hpad
    exact Or.inr (Or.inl ⟨_, rfl, ⟨rfl, rfl⟩, fun h => hpad h.padding⟩)
  rename_i hpad
  by_cases htime : byte buf 25 = 0
  · have hnone : decodeErrEstimate buf 24 (decodeTimeStamp buf 8) = none := by
      unfold decodeErrEstimate
      rw [if_pos htime]
    rw [hnone]
    exact Or.inr (Or.inl ⟨_, rfl, ⟨rfl, rfl⟩, fun h => h.timeError htime⟩)
  have hsome : ∃ reqTime, decodeErrEstimate buf 24 (decodeTimeStamp buf 8) = some reqTime := by
    unfold decodeErrEstimate
    rw [if_neg htime]
    exact ⟨_, rfl⟩
  obtain ⟨reqTime, hsome⟩ := hsome
  rw [hsome]
  dsimp only
  cases tests with
  | some s =>
    dsimp only
    unfold decodeUpdate
    split
    · refine Or.inr (Or.inl ⟨_, rfl, ⟨rfl, rfl⟩, ?_⟩)
      intro h
      cases h.new
    · refine Or.inl ⟨_, rfl, ?_⟩
      intro h
      cases h.new
  | none =>
    dsimp only
    obtain ⟨s, hs, hno⟩ | ⟨e, he, hfatal, hno⟩ | ⟨e, he, hwarn, hsides, hipvn, hunserved⟩ :=
      decodeNew_cases tools allocOk buf version reqTime
    · exact Or.inl ⟨s, hs, fun h => hno h.unserved⟩
    · exact Or.inr (Or.inl ⟨e, he, hfatal, fun h => hno ⟨h.sides, h.ipvn⟩⟩)
    · exact Or.inr (Or.inr ⟨e, he, hwarn, ⟨rfl, not_not.1 hpad, htime, hsides, hipvn, hunserved⟩⟩)

/-- A connection that has read the first block of a TestRequest. -/
def Requested (c : Conn) : Prop := c.state = stateRequest ||| stateTestRequest

/-- The rest of a message for a new session that gets no answer. -/
def UnservedRead (tools : ToolTable) (allocOk : Bool) (c : Conn) (r : Recv) : Prop :=
  ∃ blocks, r = .data blocks ∧ blocks.length = requestBlocks c.protocolVersion - 1 ∧
    Unserved tools allocOk (c.receive 16 blocks).msg c.protocolVersion c.tests

/-- What `_BWLReadTestRequest` comes to. -/
inductive RequestRead (tools : ToolTable) (allocOk : Bool) (c : Conn) (r : Recv) :
    Conn × Except ReadFailure TestSession → Prop where
  | read (c' : Conn) (s : TestSession) (hstate : c'.state = stateRequest ||| stateTestAccept)
      (htests : c'.tests = c.tests) (hserved : ¬ UnservedRead tools allocOk c r) :
      RequestRead tools allocOk c r (c', .ok s)
  | given (c' : Conn) (e : ReadFailure) (hstate : c'.state = stateInvalid) (he : e.IsFatal)
      (hserved : ¬ UnservedRead tools allocOk c r) : RequestRead tools allocOk c r (c', .error e)
  | dropped (c' : Conn) (e : ReadFailure) (hstate : c'.state = c.state) (htests : c'.tests = c.tests)
      (he : e.IsWarning) (hserved : UnservedRead tools allocOk c r) :
      RequestRead tools allocOk c r (c', .error e)

theorem failRead_fatal (c : Conn) {e : ReadFailure} (he : e.IsFatal) :
    (c.failRead e).state = stateInvalid := by
  unfold Conn.failRead
  rw [he.1]
  rfl

theorem failRead_warning (c : Conn) {e : ReadFailure} (he : e.IsWarning) : c.failRead e = c := by
  unfold Conn.failRead
  rw [he.1, he.2.2]
  rfl

/-- **Everything the read can do.** -/
theorem readTestRequest_cases (tools : ToolTable) (allocOk : Bool) {c : Conn} (hc : Requested c)
    (r : Recv) : RequestRead tools allocOk c r (readTestRequest tools allocOk c r) := by
  have hstate : c.stateIs stateTestRequest = true := by
    unfold Conn.stateIs
    rw [hc]
    decide
  have hunread : ∀ text, (ReadFailure.fatal text).IsFatal := fun text => ⟨rfl, rfl⟩
  unfold readTestRequest
  rw [hstate]
  simp only [Bool.not_true, Bool.false_eq_true, if_false]
  split
  · rename_i blocks
    split
    · rename_i hlen
      refine .given _ _ (failRead_fatal c (hunread _)) (hunread _) ?_
      rintro ⟨blocks', hb, hlen', -⟩
      cases hb
      exact hlen hlen'
    rename_i hlen
    have hserved : UnservedRead tools allocOk c (.data blocks) ↔
        Unserved tools allocOk (c.receive 16 blocks).msg c.protocolVersion c.tests := by
      constructor
      · rintro ⟨blocks', hb, -, h⟩
        cases hb
        exact h
      · intro h
        exact ⟨blocks, rfl, not_not.1 hlen, h⟩
    rw [Conn.receive_version, Conn.receive_tests]
    obtain ⟨s, hs, hno⟩ | ⟨e, he, hfatal, hno⟩ | ⟨e, he, hwarn, hyes⟩ :=
      decodeTestRequest_cases tools allocOk (c.receive 16 blocks).msg c.protocolVersion c.tests
    · rw [hs]
      refine .read _ _ ?_ rfl (fun h => hno (hserved.1 h))
      rw [Conn.enter_state, Conn.leave_state, Conn.receive_state, hc]
      decide
    · rw [he]
      exact .given _ _ (failRead_fatal _ hfatal) hfatal (fun h => hno (hserved.1 h))
    · rw [he]
      dsimp only
      rw [failRead_warning _ hwarn]
      exact .dropped _ _ rfl rfl hwarn (hserved.2 hyes)
  · rename_i hnodata
    refine .given _ _ (failRead_fatal c (hunread _)) (hunread _) ?_
    rintro ⟨blocks, hb, -⟩
    exact hnodata blocks hb

/-! ## The refusals -/

/-- A request that is refused before the hook is refused for a reason, and the connection goes on. -/
theorem prepareTest_error {env : TestRequestEnv} {update : Bool} {s : TestSession} {e : TestRefusal}
    (h : prepareTest env update s = .error e) :
    (e.err = .warning ∨ e.err = .info) ∧ e.acceptval ≠ .accept := by
  unfold prepareTest at h
  split at h
  · cases h
    exact ⟨Or.inl rfl, by simp⟩
  dsimp only at h
  split at h
  · split at h
    · cases h
      exact ⟨Or.inr rfl, by simp⟩
    · cases h
  split at h
  · cases h
    exact ⟨Or.inl rfl, by simp⟩
  split at h
  · cases h
    exact ⟨Or.inl rfl, by simp⟩
  · cases h

/-- What the hook and the validation can come to. -/
theorem consultPolicy_cases (env : TestRequestEnv) (s : TestSession) :
    ((env.checkTestPolicy s).granted = true ∧
        env.validateTest (env.checkTestPolicy s).testSpec = true ∧
        consultPolicy env s = .ok ((env.checkTestPolicy s).apply s)) ∨
      ((env.checkTestPolicy s).granted = false ∧ (env.checkTestPolicy s).err ≠ .ok ∧
        consultPolicy env s =
          .error ⟨(env.checkTestPolicy s).err, .accept, (env.checkTestPolicy s).apply s⟩) ∨
      ∃ e, consultPolicy env s = .error e ∧ (e.err = .warning ∨ e.err = .info) ∧
        e.acceptval ≠ .accept ∧
        ((env.checkTestPolicy s).granted = true ∧
            env.validateTest (env.checkTestPolicy s).testSpec = false ∨
          (env.checkTestPolicy s).granted = false ∧ (env.checkTestPolicy s).err = .ok) := by
  unfold consultPolicy
  dsimp only
  cases hg : (env.checkTestPolicy s).granted with
  | false =>
    rw [if_pos (show (!false) = true from rfl)]
    cases he : (env.checkTestPolicy s).err with
    | ok => exact Or.inr (Or.inr ⟨_, rfl, Or.inr rfl, by simp, Or.inr ⟨rfl, rfl⟩⟩)
    | fatal => exact Or.inr (Or.inl ⟨rfl, by simp, rfl⟩)
    | warning => exact Or.inr (Or.inl ⟨rfl, by simp, rfl⟩)
    | info => exact Or.inr (Or.inl ⟨rfl, by simp, rfl⟩)
    | debug => exact Or.inr (Or.inl ⟨rfl, by simp, rfl⟩)
  | true =>
    rw [if_neg (show ¬ (!true) = true by simp)]
    have hspec : ((env.checkTestPolicy s).apply s).testSpec = (env.checkTestPolicy s).testSpec := rfl
    rw [hspec]
    cases hv : env.validateTest (env.checkTestPolicy s).testSpec with
    | false => exact Or.inr (Or.inr ⟨_, rfl, Or.inl rfl, by simp, Or.inl ⟨rfl, rfl⟩⟩)
    | true => exact Or.inl ⟨rfl, rfl, rfl⟩

/-! ## The answer -/

/-- `_BWLWriteTestAccept` on a connection that owes an answer. -/
theorem writeTestAccept_owing {c : Conn} (hc : c.state = stateRequest ||| stateTestAccept)
    (sent : Bool) (a : AcceptType) (s : TestSession) :
    (sent = true ∧ writeTestAccept c sent a s =
        (c.leave stateTestAccept, .ok, chunks 16 2 (encodeTestAccept c.msg a s)) ∧
        (c.leave stateTestAccept).state = stateRequest) ∨
      sent = false ∧ writeTestAccept c sent a s = (c.fail, .fatal, []) := by
  have hstate : c.stateIs stateTestAccept = true := by
    unfold Conn.stateIs
    rw [hc]
    decide
  unfold writeTestAccept
  rw [hstate]
  cases sent with
  | false => exact Or.inr ⟨rfl, rfl⟩
  | true =>
    refine Or.inl ⟨rfl, rfl, ?_⟩
    rw [Conn.leave_state, hc]
    decide

/-- The first octet of a TestAccept is its accept value. -/
theorem byte_encodeTestAccept (msg : Msg) (a : AcceptType) (s : TestSession) :
    byte (encodeTestAccept msg a s) 0 = a.octet := by
  unfold encodeTestAccept
  dsimp only
  split
  all_goals
    simp (disch := first | omega | simp) only [byte_store_of_disjoint, byte_store_one]

/-- An application that grants every request at its requested time. -/
def grantingEnv : TestRequestEnv where
  tools := fullTable
  allocOk := true
  timeStamp := some ⟨0x100000000, true, 1, 31⟩
  randomBytes := some (Vector.replicate 4 9)
  checkTestPolicy s := ⟨true, .ok, s.testSpec, s.testSpec.reqTime.tstamp, s.toolPort⟩
  validateTest _ := true
  answerSent := true

/-- A state without reading and pending bits. -/
theorem quiet_of_state {c : Conn} (h : c.state = stateRequest) :
    c.isRequest = true ∧ c.isReading = false ∧ c.isPending = false := by
  unfold Conn.isRequest Conn.isReading Conn.isPending Conn.stateIs
  rw [h]
  decide

end Bwctl
