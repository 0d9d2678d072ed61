import Bwctl.Protocol.OneAnswer
import Bwctl.Lib.GuardedRuns

/-!
# Safety of the server's loop

Whatever a peer sends, the loop is in one of a few states when it reads: before a request the
connection is invalid, or open for a request with at most the bit of a dropped TestRequest left;
during a test it is invalid, or in the test with a session.

* `nextRequest_cases` — the first block in these terms.
* `processTestRequest_state`, `processTimeRequest_state`, `processStartSession_state`,
  `stopSession_state`, `stopSessionWait_state` — what each request leaves.
* `LoopInv`, `childStep_inv` — the invariant and the events of a step.
* `server_protocol_safety` — every run.
-/

set_option autoImplicit false

namespace Bwctl

open Octets GuardedRuns

/-! ## The first block -/

/-- What `nextRequest` can come to. -/
inductive NextRequest (c : Conn) (w : Wire) : Conn × RequestType × Wire → Prop where
  | wrongState (h : (!c.isRequest || c.isReading) = true) : NextRequest c w (c, .invalid, w)
  | refused (c' : Conn) (t : RequestType) (w' : Wire) (ht : t = .invalid ∨ t = .sockClose)
      (hstate : c'.state = stateInvalid) : NextRequest c w (c', t, w')
  | message (c' : Conn) (t : RequestType) (w' : Wire) (hrequest : c.isRequest = true)
      (hreading : c.isReading = false) (hknown : t ≠ .invalid ∧ t ≠ .sockClose)
      (hstate : c'.state = c.state ||| t.reading) (htests : c'.tests = c.tests)
      (hstop : t = .stopSession ↔ c.stateIs stateTest = true) : NextRequest c w (c', t, w')

theorem nextRequest_cases (c : Conn) (w : Wire) : NextRequest c w (nextRequest c w) := by
  unfold nextRequest
  split
  · rename_i h
    exact .wrongState h
  rename_i h
  have hspec := readRequestType_spec c (w.recv 1).1
  dsimp only
  cases hres : readRequestType c (w.recv 1).1 with
  | mk c' t =>
    rw [hres] at hspec
    cases hspec with
    | wrongState hwrong => exact absurd hwrong h
    | refused _ _ ht hstate htests => exact .refused c' t _ ht hstate
    | message block _ _ hrequest hreading hknown hnumber hstop =>
      exact .message _ t _ hrequest hreading hknown rfl rfl hstop

/-- An invalid connection reads nothing. -/
theorem nextRequest_invalid {c : Conn} (hc : c.state = stateInvalid) (w : Wire) :
    nextRequest c w = (c, .invalid, w) := by
  have hrequest : c.isRequest = false := by
    unfold Conn.isRequest Conn.stateIs
    rw [hc]
    decide
  unfold nextRequest
  rw [if_pos (by rw [hrequest]; rfl)]

/-! ## What each request leaves -/

/-- The states in which the loop reads a request. -/
def Idle (c : Conn) : Prop :=
  c.state = stateInvalid ∨ c.state = stateRequest ∨ c.state = stateRequest ||| stateTestRequest

/-- The states in which the loop waits for the end of a test. -/
def InTest (c : Conn) : Prop :=
  c.state = stateInvalid ∨ c.state = stateRequest ||| stateTest ∧ c.tests ≠ none

theorem processTestRequest_state (env : TestRequestEnv) {c : Conn} (hc : Requested c) (r : Recv) :
    (processTestRequest env c r).2.1 = .fatal ∨ Idle (processTestRequest env c r).1 := by
  have hanswer : ∀ (c' : Conn) a s, c'.state = stateRequest ||| stateTestAccept →
      (writeTestAccept c' env.answerSent a s).1.state = stateInvalid ∨
        (writeTestAccept c' env.answerSent a s).1.state = stateRequest := by
    intro c' a s hstate
    obtain ⟨-, hwrite, hquiet⟩ | ⟨-, hwrite⟩ := writeTestAccept_owing hstate env.answerSent a s
    · rw [hwrite]
      exact Or.inr hquiet
    · rw [hwrite]
      exact Or.inl rfl
  have hread := readTestRequest_cases env.tools env.allocOk hc r
  generalize hres : readTestRequest env.tools env.allocOk c r = res at hread
  unfold processTestRequest
  rw [hres]
  cases hread with
  | given c' e hstate he => exact Or.inr (Or.inl hstate)
  | dropped c' e hstate => exact Or.inr (Or.inr (Or.inr (hstate.trans hc)))
  | read c' s hstate =>
    dsimp only
    cases prepareTest env c.tests.isSome s >>= consultPolicy env with
    | ok s =>
      dsimp only
      split
      · exact Or.inr ((hanswer c' .accept s hstate).imp_right Or.inl)
      · exact Or.inr ((hanswer c' .accept s hstate).imp_right Or.inl)
    | error e =>
      dsimp only
      split
      · rename_i hprio
        left
        cases he : e.err <;> simp [he, ErrSeverity.prio] at hprio ⊢
      · exact Or.inr ((hanswer c' e.acceptval e.session hstate).imp_right Or.inl)

theorem readTimeRequest_ok {c : Conn} {r : Recv} (h : (readTimeRequest c r).2 = .ok) :
    ∃ blocks, readTimeRequest c r =
      (((c.receive 16 blocks).leave stateTimeRequest).enter stateTimeResponse, .ok) := by
  unfold readTimeRequest at h ⊢
  split at h
  · cases h
  rename_i hstate
  rw [if_neg hstate]
  split at h
  · rename_i block
    dsimp only at h ⊢
    split at h
    · cases h
    rename_i hpad
    rw [if_neg hpad]
    exact ⟨[block], rfl⟩
  · cases h

theorem writeTimeResponse_ok {c : Conn} {sent : Bool} {t : BWLTimeStamp}
    (h : (writeTimeResponse c sent t).2.1 = .ok) :
    ∃ buf : Msg, writeTimeResponse c sent t = (c.leave stateTimeResponse, .ok, chunks 16 2 buf) := by
  unfold writeTimeResponse at h ⊢
  split at h
  · cases h
  rename_i hstate
  rw [if_neg hstate]
  split at h
  · cases h
  rename_i errest htime
  split at h
  · cases h
  rename_i hsent
  rw [if_neg hsent]
  exact ⟨_, rfl⟩

/-- **A time request that is answered** by the server. -/
theorem processTimeRequest_answer {t : Option BWLTimeStamp} {sent : Bool} {c : Conn}
    (hc : c.state = stateRequest ||| stateTimeRequest) {r : Recv}
    (h : (processTimeRequest t sent c r).1.state ≠ stateInvalid) :
    (processTimeRequest t sent c r).2.1 = .ok ∧
      (∃ buf : Msg, (processTimeRequest t sent c r).2.2 = chunks 16 2 buf) ∧
      (processTimeRequest t sent c r).1.state = stateRequest ∧
      (processTimeRequest t sent c r).1.tests = c.tests ∧
      (processTimeRequest t sent c r).1.protocolVersion = c.protocolVersion := by
  unfold processTimeRequest at h ⊢
  dsimp only at h ⊢
  by_cases hread : (readTimeRequest c r).2.prio < ErrSeverity.ok.prio
  · rw [if_pos hread] at h
    exact absurd rfl h
  rw [if_neg hread] at h ⊢
  obtain ⟨blocks, hresult⟩ := readTimeRequest_ok (ErrSeverity.eq_ok hread)
  rw [hresult] at h ⊢
  cases t with
  | none => exact absurd rfl h
  | some t =>
    dsimp only at h ⊢
    generalize hc' : ((c.receive 16 blocks).leave stateTimeRequest).enter stateTimeResponse = c'
      at h ⊢
    by_cases hwritten : (writeTimeResponse c' sent t).2.1.prio < ErrSeverity.ok.prio
    · rw [if_pos hwritten] at h
      exact absurd rfl h
    rw [if_neg hwritten]
    obtain ⟨buf, hwrite⟩ := writeTimeResponse_ok (ErrSeverity.eq_ok hwritten)
    rw [hwrite, ← hc']
    refine ⟨rfl, ⟨buf, rfl⟩, ?_, rfl, rfl⟩
    change ((c.state &&& ~~~stateTimeRequest) ||| stateTimeResponse) &&& ~~~stateTimeResponse = _
    rw [hc]
    decide

theorem processTimeRequest_state (t : Option BWLTimeStamp) (sent : Bool) {c : Conn}
    (hc : c.state = stateRequest ||| stateTimeRequest) (r : Recv) :
    Idle (processTimeRequest t sent c r).1 := by
  by_cases hinvalid : (processTimeRequest t sent c r).1.state = stateInvalid
  · exact Or.inl hinvalid
  · exact Or.inr (Or.inl (processTimeRequest_answer hc hinvalid).2.2.1)

/-- **A StartSession is accepted only with a session.** -/
theorem readStartSession_ok {c : Conn} {r : Recv} (h : (readStartSession c r).2.1 = .ok) :
    c.tests ≠ none ∧ (readStartSession c r).1.tests = c.tests ∧
      (readStartSession c r).1.state =
        (c.state &&& ~~~stateStartSession) ||| stateStartAck ||| stateTest ∧
      (readStartSession c r).1.protocolVersion = c.protocolVersion := by
  unfold readStartSession at h ⊢
  cases htests : c.tests with
  | none =>
    rw [htests] at h
    cases h
  | some s =>
    rw [htests] at h
    dsimp only at h ⊢
    split at h
    · cases h
    rename_i hstate
    rw [if_neg hstate]
    rcases r with (_ | ⟨block, _ | ⟨second, rest⟩⟩) | _ | (_ | _)
    · cases h
    · dsimp only at h ⊢
      split at h
      · cases h
      rename_i hpad
      split at h
      · cases h
      rename_i hkind
      rw [if_neg hpad, if_neg hkind]
      exact ⟨by simp, htests, rfl, rfl⟩
    all_goals cases h

theorem writeStartAck_ok {c : Conn} {sent : Sent} {port : UInt16}
    (h : (writeStartAck c sent port .accept).2.1 = .ok) :
    ∃ buf : Msg, writeStartAck c sent port .accept =
      (c.leave stateStartAck, .ok, chunks 16 2 buf) := by
  unfold writeStartAck at h ⊢
  split at h
  · cases h
  rename_i hstate
  rw [if_neg hstate]
  cases sent with
  | interrupted => cases h
  | broken => cases h
  | done =>
    refine ⟨_, Prod.ext ?_ rfl⟩
    simp

/-- **A start that is answered** by the server. -/
theorem processStartSession_answer {start : Option UInt16 → EndpointStart} {sent : Sent} {c : Conn}
    (hc : c.state = stateRequest ||| stateStartSession) {r : Recv}
    (h : (processStartSession start sent c r).1.state ≠ stateInvalid) :
    c.tests ≠ none ∧ (processStartSession start sent c r).2.1 = .ok ∧
      (∃ buf : Msg, (processStartSession start sent c r).2.2 = chunks 16 2 buf) ∧
      (processStartSession start sent c r).1.state = stateRequest ||| stateTest ∧
      (processStartSession start sent c r).1.tests = c.tests ∧
      (processStartSession start sent c r).1.protocolVersion = c.protocolVersion := by
  have hstarted := readStartSession_ok (c := c) (r := r)
  unfold processStartSession at h ⊢
  generalize readStartSession c r = read at hstarted h ⊢
  obtain ⟨c', err, peerport⟩ := read
  dsimp only at hstarted h ⊢
  by_cases hread : err.prio < ErrSeverity.ok.prio
  · rw [if_pos hread] at h
    exact absurd rfl h
  rw [if_neg hread] at h ⊢
  obtain ⟨hsession, htests, hstate, hversion⟩ := hstarted (ErrSeverity.eq_ok hread)
  rw [hc] at hstate
  cases hstart : start peerport with
  | failed err =>
    rw [hstart] at h
    exact absurd rfl h
  | started port =>
    rw [hstart] at h
    dsimp only at h ⊢
    by_cases hwritten : (writeStartAck c' sent port .accept).2.1.prio < ErrSeverity.ok.prio
    · rw [if_pos hwritten] at h
      exact absurd rfl h
    rw [if_neg hwritten]
    obtain ⟨buf, hwrite⟩ := writeStartAck_ok (ErrSeverity.eq_ok hwritten)
    rw [hwrite]
    refine ⟨hsession, rfl, ⟨buf, rfl⟩, ?_, htests, hversion⟩
    rw [Conn.leave_state, hstate]
    decide

theorem processStartSession_state (start : Option UInt16 → EndpointStart) (sent : Sent) {c : Conn}
    (hc : c.state = stateRequest ||| stateStartSession) (r : Recv) :
    (processStartSession start sent c r).1.state = stateInvalid ∨
      (processStartSession start sent c r).2.1 = .ok ∧
        InTest (processStartSession start sent c r).1 := by
  by_cases hinvalid : (processStartSession start sent c r).1.state = stateInvalid
  · exact Or.inl hinvalid
  · obtain ⟨hsession, hok, -, hstate, htests, -⟩ := processStartSession_answer hc hinvalid
    refine Or.inr ⟨hok, Or.inr ⟨hstate, ?_⟩⟩
    rw [htests]
    exact hsession

/-! ## Events -/

/-- **What the loop may do**: read in a state with at most one reading bit, and in a test with a
    session; take a message of the peer that is a StopSession exactly in a test, and none once the
    state is invalid; start a test with a session. -/
def Lawful : LoopEvent → Prop
  | .read c => (c.stateIs stateTest = true → c.tests ≠ none) ∧
      ∃ t : RequestType, c.state &&& stateReading = t.reading
  | .message c t => (t = .stopSession ↔ c.stateIs stateTest = true) ∧ c.state ≠ stateInvalid
  | .start c => c.tests ≠ none

theorem idle_readable {c : Conn} (hc : Idle c) : Lawful (.read c) := by
  have hnotest : c.stateIs stateTest = false := by
    unfold Conn.stateIs
    rcases hc with h | h | h <;> rw [h] <;> decide
  refine ⟨fun htest => ?_, ?_⟩
  · rw [hnotest] at htest
    cases htest
  · rcases hc with h | h | h
    · exact ⟨.invalid, by rw [h]; decide⟩
    · exact ⟨.invalid, by rw [h]; decide⟩
    · exact ⟨.test, by rw [h]; decide⟩

theorem inTest_readable {c : Conn} (hc : InTest c) : Lawful (.read c) := by
  rcases hc with h | ⟨h, htests⟩
  · exact idle_readable (Or.inl h)
  · exact ⟨fun _ => htests, .invalid, by rw [h]; decide⟩

/-- The events of a call of `BWLReadRequestType` in a lawful state. -/
theorem askEvents_lawful {c : Conn} (hc : Lawful (.read c)) (w : Wire) :
    ∀ e ∈ askEvents c (nextRequest c w).2.1, Lawful e := by
  have hcases := nextRequest_cases c w
  generalize nextRequest c w = res at hcases
  intro e he
  unfold askEvents at he
  cases hcases with
  | wrongState h =>
    obtain rfl := List.mem_singleton.1 he
    exact hc
  | refused c' t w' ht =>
    have hnone : t.number.isSome = false := by
      rcases ht with rfl | rfl <;> rfl
    dsimp only at he
    rw [hnone] at he
    obtain rfl := List.mem_singleton.1 he
    exact hc
  | message c' t w' hrequest hreading hknown hstate htests hstop =>
    have hvalid : c.state ≠ stateInvalid := by
      intro hinvalid
      unfold Conn.isRequest Conn.stateIs at hrequest
      rw [hinvalid] at hrequest
      exact absurd hrequest (by decide)
    dsimp only at he
    split at he
    · rcases List.mem_cons.1 he with rfl | he
      · exact hc
      · obtain rfl := List.mem_singleton.1 he
        exact ⟨hstop, hvalid⟩
    · obtain rfl := List.mem_singleton.1 he
      exact hc

/-- The end of a test after the first block of the StopSession. -/
theorem nextRequest_inTest {c : Conn} (hc : InTest c) (w : Wire)
    (hstop : (nextRequest c w).2.1 = .stopSession) :
    (nextRequest c w).1.state = stateRequest ||| stateTest ||| stateStopSession := by
  have hcases := nextRequest_cases c w
  generalize nextRequest c w = res at hcases hstop
  cases hcases with
  | wrongState h => cases hstop
  | refused c' t w' ht =>
    dsimp only at hstop
    rcases ht with rfl | rfl <;> cases hstop
  | message c' t w' hrequest hreading hknown hstate =>
    dsimp only at hstop ⊢
    rw [hstate, hstop]
    rcases hc with h | ⟨h, -⟩
    · unfold Conn.isRequest Conn.stateIs at hrequest
      rw [h] at hrequest
      exact absurd hrequest (by decide)
    · rw [h]
      decide

/-- **BWLStopSession** gives up the connection or leaves it idle. -/
theorem stopSession_state (env : StopEnv) {c : Conn} (hc : InTest c) (w : Wire) (intr : Int)
    (a : AcceptType) :
    Idle (stopSession env c w intr a).conn ∧
      ∀ e ∈ stopEvents (stopSession env c w intr a), Lawful e := by
  unfold stopSession stopEvents
  split
  · rename_i hnone
    refine ⟨?_, by simp⟩
    rcases hc with h | ⟨-, h⟩
    · exact Or.inl h
    · exact absurd (Option.isNone_iff_eq_none.1 hnone) h
  dsimp only
  split
  · exact ⟨Or.inl rfl, by simp⟩
  rename_i hwritten
  rcases writeStopSession_cases c env.sent _ _ with hfatal | ⟨-, hsame⟩
  · rw [hfatal] at hwritten
    exact absurd (by decide) hwritten
  rw [hsame]
  have hevents := askEvents_lawful (inTest_readable hc) w
  split
  · exact ⟨Or.inl rfl, hevents⟩
  rename_i hstop
  have hstate := nextRequest_inTest hc w (not_not.1 hstop)
  split
  · exact ⟨Or.inl rfl, hevents⟩
  rename_i hread
  refine ⟨Or.inr (Or.inl ?_), hevents⟩
  rw [Conn.leave_state, Conn.free_state, (readStopSession_ok (not_not.1 hread)).1, hstate]
  decide

/-- **The answer to a StopSession** gives up the connection or leaves it idle. -/
theorem answerStop_state (env : StopEnv) {c : Conn} (hc : InTest c) (w : Wire) (intr : Int) :
    Idle (answerStop env c w intr).2.conn ∧
      ∀ e ∈ stopEvents (answerStop env c w intr).2, Lawful e := by
  have hevents := askEvents_lawful (inTest_readable hc) w
  unfold answerStop stopEvents
  dsimp only
  split
  · exact ⟨Or.inl rfl, hevents⟩
  rename_i hstop
  have hstate := nextRequest_inTest hc w (not_not.1 hstop)
  split
  · exact ⟨Or.inl rfl, hevents⟩
  rename_i hread
  refine ⟨?_, hevents⟩
  rcases writeStopSession_cases (readStopSession (nextRequest c w).1 (nextRequest c w).2.2
    env.remotefp).conn env.sent _ _ with hfatal | ⟨hok, hsame⟩
  · left
    rw [Conn.leave_state, Conn.free_state, if_pos (by rw [hfatal]; simp), Conn.fail_state]
    decide
  · right
    left
    rw [Conn.leave_state, Conn.free_state, if_neg (by rw [hok]; simp), hsame,
      (readStopSession_ok (not_not.1 hread)).1, hstate]
    decide

/-- What `BWLStopSessionWait` can come to: it stops the session, answers the peer, fails or goes on
    waiting. -/
inductive Waited (env : StopEnv) (c : Conn) (w : Wire) (intr : Int) : Int × StopResult → Prop where
  | stopped (a : AcceptType) : Waited env c w intr (0, stopSession env c w intr a)
  | answered : Waited env c w intr (answerStop env c w intr)
  | failed (ret : Int) (hret : ret < 0) (c' : Conn) (hconn : c' = c ∨ c' = c.fail)
      (err : ErrSeverity) : Waited env c w intr (ret, ⟨c', w, err, .accept, intr, env.remotefp, [], none⟩)
  | going (ret : Int) (hret : 0 < ret) :
      Waited env c w intr (ret, ⟨c, w, .ok, .accept, intr, env.remotefp, [], none⟩)

theorem stopSessionWait_cases (env : StopEnv) (sessions : Sessions) (event : WaitEvent) (c : Conn)
    (w : Wire) (intr : Int) : Waited env c w intr (stopSessionWait env sessions event c w intr) := by
  unfold stopSessionWait
  cases sessions with
  | inactive a => exact .stopped a
  | active =>
    cases event with
    | clockFailed => exact .failed _ (by decide) _ (Or.inl rfl) _
    | selectError => exact .failed _ (by decide) _ (Or.inl rfl) _
    | interrupted => exact .going _ (by decide)
    | ended a => exact .stopped a
    | timeout => exact .going _ (by decide)
    | notReady => exact .failed _ (by decide) _ (Or.inr rfl) _
    | readable => exact .answered

/-- The return value of the answer. -/
theorem answerStop_ret (env : StopEnv) (c : Conn) (w : Wire) (intr : Int) :
    (answerStop env c w intr).1 < 0 ∨ (answerStop env c w intr).1 = 0 := by
  unfold answerStop
  dsimp only
  split
  · exact Or.inl (by decide : (-1 : Int) < 0)
  split
  · exact Or.inl (by decide : (-1 : Int) < 0)
  · exact Or.inr rfl

/-- **BWLStopSessionWait** goes on waiting, or gives up the connection or leaves it idle. -/
theorem stopSessionWait_state (env : StopEnv) (sessions : Sessions) (event : WaitEvent) {c : Conn}
    (hc : InTest c) (w : Wire) (intr : Int) {r : Int × StopResult}
    (hr : stopSessionWait env sessions event c w intr = r) :
    (r.1 < 0 ∨ r.1 = 0 ∧ Idle r.2.conn ∨ r.1 ≠ 0 ∧ r.2.conn = c) ∧
      ∀ e ∈ stopEvents r.2, Lawful e := by
  have hcases := stopSessionWait_cases env sessions event c w intr
  rw [hr] at hcases
  cases hcases with
  | stopped a =>
    obtain ⟨hidle, hevents⟩ := stopSession_state env hc w intr a
    exact ⟨Or.inr (Or.inl ⟨rfl, hidle⟩), hevents⟩
  | answered =>
    obtain ⟨hidle, hevents⟩ := answerStop_state env hc w intr
    exact ⟨(answerStop_ret env c w intr).imp_right fun hzero => Or.inl ⟨hzero, hidle⟩, hevents⟩
  | failed ret hret => exact ⟨Or.inl hret, by simp [stopEvents]⟩
  | going ret hret => exact ⟨Or.inr (Or.inr ⟨ne_of_gt hret, rfl⟩), by simp [stopEvents]⟩

/-! ## The loop -/

/-- **The invariant of the loop.** -/
structure LoopInv (s : Child) : Prop where
  request : s.point = .request → Idle s.conn
  waiting : s.point = .waiting → InTest s.conn

theorem done_inv (c : Conn) (w : Wire) : LoopInv ⟨.done, c, w⟩ := by
  refine ⟨?_, ?_⟩ <;> intro hp <;> cases hp

theorem waiting_inv {c : Conn} (w : Wire) (h : InTest c) : LoopInv ⟨.waiting, c, w⟩ := by
  refine ⟨?_, fun _ => h⟩
  intro hp
  cases hp

theorem nextReq_inv {err : ErrSeverity} {c : Conn} (w : Wire) (h : err = .fatal ∨ Idle c) :
    LoopInv (nextReq err c w) := by
  unfold nextReq
  split
  · exact done_inv c w
  rename_i hprio
  refine ⟨fun _ => ?_, ?_⟩
  · rcases h with rfl | h
    · exact absurd (by decide) hprio
    · exact h
  · intro hp
    cases hp

/-- The state of an open connection before a request, with the bit of the request. -/
theorem nextRequest_idle {c : Conn} (hc : Idle c) (w : Wire)
    (hknown : (nextRequest c w).2.1 ≠ .invalid ∧ (nextRequest c w).2.1 ≠ .sockClose) :
    (nextRequest c w).1.state = stateRequest ||| (nextRequest c w).2.1.reading := by
  have hcases := nextRequest_cases c w
  generalize nextRequest c w = res at hcases hknown
  cases hcases with
  | wrongState h => exact absurd rfl hknown.1
  | refused c' t w' ht =>
    rcases ht with rfl | rfl
    · exact absurd rfl hknown.1
    · exact absurd rfl hknown.2
  | message c' t w' hrequest hreading hk hstate =>
    dsimp only
    rcases hc with h | h | h
    · unfold Conn.isRequest Conn.stateIs at hrequest
      rw [h] at hrequest
      exact absurd hrequest (by decide)
    · rw [hstate, h]
    · unfold Conn.isReading Conn.stateIs at hreading
      rw [h] at hreading
      exact absurd hreading (by decide)

/-- **A request** is served lawfully and leaves the loop idle, in a test or at its end. -/
theorem serveRequest_inv (env : LoopEnv) {c : Conn} (hc : Idle c) (w : Wire) :
    LoopInv (serveRequest env c w).child ∧ ∀ e ∈ (serveRequest env c w).events, Lawful e := by
  have hevents := askEvents_lawful (idle_readable hc) w
  have hidle := nextRequest_idle hc w
  unfold serveRequest
  generalize nextRequest c w = res at hevents hidle
  obtain ⟨c', t, w'⟩ := res
  dsimp only at hevents hidle ⊢
  cases t with
  | invalid => exact ⟨nextReq_inv w' (Or.inl rfl), hevents⟩
  | sockClose => exact ⟨nextReq_inv w' (Or.inl rfl), hevents⟩
  | stopSession => exact ⟨nextReq_inv w' (Or.inl rfl), hevents⟩
  | test =>
    have hstate : Requested c' := hidle (by decide)
    exact ⟨nextReq_inv _ (processTestRequest_state env.request hstate _), hevents⟩
  | time =>
    exact ⟨nextReq_inv _ (Or.inr (processTimeRequest_state _ _ (hidle (by decide)) _)), hevents⟩
  | startSession =>
    have hstate := hidle (by decide)
    dsimp only
    generalize hr : (if c'.tests.isSome = true then w'.recv 1 else (Recv.closed, w')) = rw'
    obtain ⟨r, w''⟩ := rw'
    have htest := processStartSession_state env.endpointStart env.ackSent hstate r
    have hstart : ∀ e ∈ (if (readStartSession c' r).2.1 = .ok then
        askEvents c .startSession ++ [.start (readStartSession c' r).1]
        else askEvents c .startSession), Lawful e := by
      intro e he
      split at he
      · rename_i hok
        rcases List.mem_append.1 he with he | he
        · exact hevents e he
        · obtain rfl := List.mem_singleton.1 he
          obtain ⟨hsession, hsame, -⟩ := readStartSession_ok hok
          change (readStartSession c' r).1.tests ≠ none
          rw [hsame]
          exact hsession
      · exact hevents e he
    have hdone : (processStartSession env.endpointStart env.ackSent c' r).2.1.prio <
        ErrSeverity.ok.prio → Idle (processStartSession env.endpointStart env.ackSent c' r).1 := by
      intro hfailed
      rcases htest with h | ⟨hok, -⟩
      · exact Or.inl h
      · rw [hok] at hfailed
        exact absurd hfailed (by decide)
    dsimp only
    split
    · rename_i hfailed
      exact ⟨nextReq_inv w'' (Or.inr (hdone hfailed)), hstart⟩
    split
    · exact ⟨done_inv _ _, hstart⟩
    · exact ⟨waiting_inv w'' (htest.elim Or.inl And.right), hstart⟩

/-- **A round of the wait** is lawful and leaves the loop idle, in the test or at its end. -/
theorem awaitEnd_inv (env : LoopEnv) {c : Conn} (hc : InTest c) (w : Wire) :
    LoopInv (awaitEnd env c w).child ∧ ∀ e ∈ (awaitEnd env c w).events, Lawful e := by
  unfold awaitEnd
  cases env.sessions with
  | inactive a =>
    dsimp only
    split
    · exact ⟨done_inv c w, by simp⟩
    · obtain ⟨hidle, hevents⟩ := stopSession_state env.stop hc w 0 .accept
      exact ⟨nextReq_inv _ (Or.inr hidle), hevents⟩
  | active =>
    dsimp only
    generalize hr : stopSessionWait env.stop env.waitSessions env.wait c w 0 = res
    obtain ⟨hleft, hevents⟩ := stopSessionWait_state env.stop env.waitSessions env.wait hc w 0 hr
    obtain ⟨wstate, r⟩ := res
    dsimp only at hleft hevents ⊢
    split
    · exact ⟨done_inv _ _, hevents⟩
    rename_i hgo
    rcases hleft with hneg | ⟨hzero, hidle⟩ | ⟨hmore, hsame⟩
    · exact absurd (Or.inr hneg) hgo
    · rw [if_pos hzero]
      exact ⟨nextReq_inv _ (Or.inr hidle), hevents⟩
    · rw [if_neg hmore, hsame]
      exact ⟨waiting_inv _ hc, hevents⟩

/-- **A step** keeps the invariant and does only what is lawful. -/
theorem childStep_inv (env : LoopEnv) {s : Child} (h : LoopInv s) :
    LoopInv (childStep env s).child ∧ ∀ e ∈ (childStep env s).events, Lawful e := by
  obtain ⟨point, c, w⟩ := s
  unfold childStep
  cases point with
  | request =>
    dsimp only
    split
    · exact ⟨done_inv c w, by simp⟩
    · exact serveRequest_inv env (h.request rfl) w
  | waiting => exact awaitEnd_inv env (h.waiting rfl) w
  | done => exact ⟨done_inv c w, by simp⟩

/-! ## An invalid connection -/

/-- A round on an invalid connection leaves it so, and no message comes out of it. -/
def Dead (r : Conn × List LoopEvent) : Prop :=
  r.1.state = stateInvalid ∧ ∀ e ∈ r.2, ∃ c, e = .read c

theorem askEvents_invalid {c : Conn} (hc : c.state = stateInvalid) (w : Wire) :
    ∀ e ∈ askEvents c (nextRequest c w).2.1, ∃ c, e = .read c := by
  intro e he
  rw [nextRequest_invalid hc] at he
  exact ⟨c, List.mem_singleton.1 he⟩

theorem stopSession_invalid (env : StopEnv) {c : Conn} (hc : c.state = stateInvalid) (w : Wire)
    (intr : Int) (a : AcceptType) :
    Dead ((stopSession env c w intr a).conn, stopEvents (stopSession env c w intr a)) := by
  unfold stopSession Dead stopEvents
  split
  · exact ⟨hc, by simp⟩
  dsimp only
  have hwrite : ∀ sent a fp, (writeStopSession c sent a fp).2.1 = .fatal := by
    intro sent a fp
    unfold writeStopSession Conn.stateIs
    rw [hc]
    rfl
  rw [if_pos (by rw [hwrite]; decide)]
  exact ⟨rfl, by simp⟩

theorem stopSessionWait_invalid (env : StopEnv) (sessions : Sessions) (event : WaitEvent)
    {c : Conn} (hc : c.state = stateInvalid) (w : Wire) (intr : Int) :
    Dead ((stopSessionWait env sessions event c w intr).2.conn,
      stopEvents (stopSessionWait env sessions event c w intr).2) := by
  have hcases := stopSessionWait_cases env sessions event c w intr
  generalize stopSessionWait env sessions event c w intr = r at hcases ⊢
  cases hcases with
  | stopped a => exact stopSession_invalid env hc w intr a
  | answered =>
    have hevents := askEvents_invalid hc w
    unfold answerStop
    dsimp only
    rw [nextRequest_invalid hc] at hevents ⊢
    rw [if_pos (show RequestType.invalid ≠ .stopSession by decide)]
    exact ⟨rfl, hevents⟩
  | failed ret hret c' hconn =>
    refine ⟨?_, by simp [stopEvents]⟩
    rcases hconn with rfl | rfl
    · exact hc
    · rfl
  | going => exact ⟨hc, by simp [stopEvents]⟩

theorem nextReq_conn (err : ErrSeverity) (c : Conn) (w : Wire) : (nextReq err c w).conn = c := by
  unfold nextReq
  split <;> rfl

/-- **An invalid connection stays invalid**, and nothing is read from it. -/
theorem childStep_invalid (env : LoopEnv) {s : Child} (h : s.conn.state = stateInvalid) :
    Dead ((childStep env s).child.conn, (childStep env s).events) := by
  obtain ⟨point, c, w⟩ := s
  unfold childStep
  cases point with
  | done => exact ⟨h, by simp⟩
  | request =>
    dsimp only
    split
    · exact ⟨h, by simp⟩
    · have hevents := askEvents_invalid h w
      unfold serveRequest
      rw [nextRequest_invalid h] at hevents ⊢
      exact ⟨by rw [nextReq_conn]; exact h, hevents⟩
  | waiting =>
    dsimp only
    unfold awaitEnd
    cases env.sessions with
    | inactive a =>
      dsimp only
      split
      · exact ⟨h, by simp⟩
      · rw [nextReq_conn]
        exact stopSession_invalid env.stop h w 0 .accept
    | active =>
      have hwait := stopSessionWait_invalid env.stop env.waitSessions env.wait h w 0
      dsimp only
      split
      · exact hwait
      split
      · rw [nextReq_conn]
        exact hwait
      · exact hwait

/-! ## Every run -/

/-- The loop as a step function on what the process around it does. -/
def childRun (s : Child) (env : LoopEnv) : Option Child := some (childStep env s).child

/-- A child behind the handshake, with what its peer is going to send. -/
def Child.init (version : UInt32) (msg : Msg) (wire : Wire) : Child :=
  ⟨.request, ⟨stateRequest, version, msg, none⟩, wire⟩

theorem loopInv_reach {version : UInt32} {msg : Msg} {wire : Wire} {s : Child}
    (h : Reach childRun anyEvent (Child.init version msg wire) s) : LoopInv s := by
  apply h.invariant
  · refine ⟨fun _ => Or.inr (Or.inl rfl), ?_⟩
    intro hp
    cases hp
  · intro s env s' _ hinv _ hstep
    obtain rfl := Option.some.inj hstep
    exact (childStep_inv env hinv).1

theorem invalid_reach {s s' : Child} (hs : s.conn.state = stateInvalid)
    (h : Reach childRun anyEvent s s') : s'.conn.state = stateInvalid := by
  apply Reach.invariant (I := fun s => s.conn.state = stateInvalid) hs ?_ h
  intro s env s' _ hinv _ hstep
  obtain rfl := Option.some.inj hstep
  exact (childStep_invalid env hinv).1

/-- **Server protocol safety**: in every state the loop reaches, whatever the peer has sent and the
    process around it did, the next step does only what is lawful; and once the connection is
    invalid no later step takes a message. -/
theorem server_protocol_safety {version : UInt32} {msg : Msg} {wire : Wire} {s : Child}
    (h : Reach childRun anyEvent (Child.init version msg wire) s) :
    (∀ env, ∀ e ∈ (childStep env s).events, Lawful e) ∧
      (s.conn.state = stateInvalid → ∀ s', Reach childRun anyEvent s s' →
        ∀ env, ∀ e ∈ (childStep env s').events, ∃ c, e = .read c) := by
  refine ⟨?_, ?_⟩
  · intro env
    exact (childStep_inv env (loopInv_reach h)).2
  · intro hinvalid s' hs' env
    exact (childStep_invalid env (invalid_reach hinvalid hs')).2

/-- A process that grants what it is asked. -/
def servingEnv : LoopEnv where
  timer := true
  request := grantingEnv
  timeStamp := some ⟨0x100000000, true, 1, 31⟩
  timeSent := true
  endpointStart p := .started (p.getD 6001)
  ackSent := .done
  exit := false
  sessions := .active
  waitSessions := .active
  wait := .readable
  stop := ⟨⟨true, false, true⟩, none, none, ⟨true, true⟩, .ok, .ok⟩

/-- A child that has answered a TimeRequest, and is sent a StopSession next. -/
def timeServed : Child :=
  (childStep servingEnv (Child.init 0x06000000 (Vector.replicate 128 0)
    (arrive [fileBlock [4], fileBlock [], fileBlock [3], fileBlock []]))).child

/-- The child when it was sent the StopSession where no test is running. -/
def stopWithoutTest : Child := (childStep servingEnv timeServed).child

/-- What the child does with the StopSession is lawful, and its connection is invalid from then
    on. -/
theorem server_protocol_safety_stop :
    timeServed.conn.state = stateRequest ∧
      (∀ env, ∀ e ∈ (childStep env timeServed).events, Lawful e) ∧
      stopWithoutTest.conn.state = stateInvalid ∧
      ∀ s', Reach childRun anyEvent stopWithoutTest s' →
        ∀ env, ∀ e ∈ (childStep env s').events, ∃ c, e = .read c := by
  have hserved : Reach childRun anyEvent (Child.init 0x06000000 (Vector.replicate 128 0)
      (arrive [fileBlock [4], fileBlock [], fileBlock [3], fileBlock []])) timeServed :=
    Reach.step (e := servingEnv) Reach.start trivial rfl
  have hinvalid : stopWithoutTest.conn.state = stateInvalid := by decide +kernel
  refine ⟨by decide +kernel, (server_protocol_safety hserved).1, hinvalid, ?_⟩
  exact (server_protocol_safety (Reach.step (e := servingEnv) hserved trivial rfl)).2 hinvalid

end Bwctl
