import Bwctl.Endpoint.Agent

/-!
# The exit status of an endpoint

The agent exits with the bitwise "and" of the remote and the local status.  That is 0 as soon as one
of them is `ACCEPT`, and for some pairs of failures as well; before there is a local status it never
is.

* `SuccessReported` — an agent that exits with 0 has seen a successful test.
* `untilToolEnd_error` — an agent that gives up before its tool has ended does not exit with 0.
* `toolStatus_ok` — the local status is that of the way the tool ended.
* `status_ended_iff` — the pairs of statuses that are taken for success.
* `agent_success_iff` — exactly when the report can be relied on.
* `failed_tool_reported` — a tool that failed, and a peer whose test was successful.
-/

set_option autoImplicit false

namespace Bwctl

/-! ## A successful test -/

/-- A StopSession message with the value `ACCEPT` was received. -/
def PeerAccepted (read : Option StopRead) : Prop :=
  ∃ r, read = some r ∧ r.err = .ok ∧ r.acceptval = some .accept

/-- The local tool has ended with `ACCEPT`, and so has the peer if the test has one. -/
def SuccessfulTest (env : AgentEnv) (mode : SessionMode) (s : TestSession) : Prop :=
  ∃ t, untilToolEnd env mode s = .ok t ∧ t.acceptval = .accept ∧
    (s.testSpec.noServerEndpoint = false → PeerAccepted (tradeResults env.trade t))

/-- The agent reports success only for a successful test. -/
def SuccessReported (env : AgentEnv) (mode : SessionMode) (s : TestSession) : Prop :=
  (agent env mode s).status = 0 → SuccessfulTest env mode s

/-! ## Agents that give up -/

/-- An exit before there is a local status. -/
def AgentExit.GaveUp (stop : AgentExit) : Prop := stop = .failure ∨ stop = .early

theorem AgentExit.GaveUp.status_ne {stop : AgentExit} (h : stop.GaveUp) : stop.status ≠ 0 := by
  rcases h with rfl | rfl <;> decide

theorem setup_error {env : SetupEnv} {mode : SessionMode} {s : TestSession} {stop : AgentExit}
    (h : setup env mode s = .error stop) : stop.GaveUp := by
  have hpeer : ∀ stop, peerConnection env mode s = .error stop → stop = .early := by
    intro stop h
    unfold peerConnection at h
    split at h
    · cases h
    split at h
    · cases h
      rfl
    split at h
    · cases h
      rfl
    · cases h
  unfold setup at h
  split at h
  · cases h
    exact Or.inl rfl
  dsimp only at h
  split at h
  · cases h
    exact Or.inl rfl
  split at h
  · cases h
    exact Or.inr rfl
  split at h
  · cases h
    exact Or.inr rfl
  split at h
  · cases h
    exact Or.inr rfl
  split at h
  · cases h
    exact Or.inr rfl
  split at h
  · rename_i stop' hstop
    cases h
    exact Or.inr (hpeer stop hstop)
  split at h
  · cases h
    exact Or.inr rfl
  split at h
  · cases h
    exact Or.inl rfl
  · cases h

theorem exchangeTimes_error {env : TestEnv} {s : TestSession} {t : BWLTimeStamp} {caught : Caught}
    {c : Conn} {w : Wire} {stop : AgentExit}
    (h : exchangeTimes env s t caught c w = .error stop) : stop.GaveUp := by
  unfold exchangeTimes at h
  split at h
  · dsimp only at h
    split at h
    · cases h
      exact Or.inr rfl
    split at h
    · cases h
      exact Or.inr rfl
    · cases h
  · dsimp only at h
    split at h
    · cases h
      exact Or.inr rfl
    split at h
    · cases h
      exact Or.inr rfl
    split at h <;> cases h

theorem toolStatus_error {env : TestEnv} {killed : Bool} {stop : AgentExit}
    (h : toolStatus env killed = .error stop) : stop.GaveUp := by
  unfold toolStatus at h
  split at h
  · cases h
    exact Or.inl rfl
  split at h
  · split at h
    · cases h
      exact Or.inl rfl
    split at h
    · cases h
      exact Or.inl rfl
    · cases h
  · cases h

theorem awaitTool_error {env : TestEnv} {caught : Caught} {rcntrl : Option (Conn × Wire)}
    {stop : AgentExit} (h : awaitTool env caught rcntrl = .error stop) : stop.GaveUp := by
  unfold awaitTool at h
  dsimp only at h
  split at h
  · cases h
    exact Or.inl rfl
  split at h
  · cases h
    exact Or.inr rfl
  split at h
  · cases h
    exact Or.inr rfl
  split at h
  · rename_i hstop
    cases h
    exact toolStatus_error hstop
  · cases h

theorem runTest_error {env : TestEnv} {s : TestSession} {caught : Caught}
    {rcntrl : Option (Conn × Wire)} {stop : AgentExit}
    (h : runTest env s caught rcntrl = .error stop) : stop.GaveUp := by
  unfold runTest at h
  split at h
  · cases h
    exact Or.inr rfl
  split at h
  · cases h
    exact Or.inr rfl
  split at h
  · cases h
    exact Or.inr rfl
  dsimp only at h
  split at h
  · cases h
    exact Or.inr rfl
  split at h
  · rename_i hstop
    cases h
    unfold meetPeer at hstop
    split at hstop
    · cases hstop
    split at hstop
    · rename_i hstop
      cases hstop
      exact exchangeTimes_error hstop
    · cases hstop
  · exact awaitTool_error h

/-- **An agent that gives up** before its tool has ended does so without a local status. -/
theorem untilToolEnd_error {env : AgentEnv} {mode : SessionMode} {s : TestSession}
    {stop : AgentExit} (h : untilToolEnd env mode s = .error stop) : stop.GaveUp := by
  unfold untilToolEnd at h
  split at h
  · rename_i hstop
    cases h
    exact setup_error hstop
  · exact runTest_error h

/-! ## The local status -/

/-- The way the tool ends, which the agent may have to wait for. -/
def TestEnv.toolEnd (env : TestEnv) : Option ToolEnd :=
  match env.wait with
  | .failed => none
  | .running => env.lastWait
  | .ended tool => some tool

/-- A tool that has ended has a status: `ACCEPT`, `REJECT` or `FAILURE`. -/
theorem ToolEnd.acceptval_code (killed : Bool) (tool : ToolEnd) :
    ¬ (tool.acceptval killed).code < 0 := by
  cases tool with
  | exited status =>
    dsimp only [ToolEnd.acceptval]
    split
    · decide
    · decide
  | signaled => cases killed <;> decide

/-- **The local status** is that of the way the tool ended. -/
theorem toolStatus_ok {env : TestEnv} {killed : Bool} {acceptval : AcceptType}
    (h : toolStatus env killed = .ok acceptval) :
    ∃ tool, env.toolEnd = some tool ∧ acceptval = tool.acceptval killed := by
  unfold toolStatus TestEnv.toolEnd at *
  cases hwait : env.wait with
  | failed =>
    rw [hwait] at h
    cases h
  | ended tool =>
    rw [hwait] at h
    refine ⟨tool, rfl, ?_⟩
    unfold endpointStatus at h
    rw [if_pos (by decide)] at h
    dsimp only at h
    rw [if_neg (tool.acceptval_code killed)] at h
    cases h
    rfl
  | running =>
    rw [hwait] at h
    unfold endpointStatus at h
    rw [if_pos (by decide)] at h
    dsimp only at h
    rw [if_pos (by decide)] at h
    split at h
    · cases h
    cases hlast : env.lastWait with
    | none =>
      rw [hlast] at h
      cases h
    | some tool =>
      rw [hlast] at h
      refine ⟨tool, rfl, ?_⟩
      cases h
      rfl

theorem awaitTool_ok {env : TestEnv} {caught : Caught} {rcntrl : Option (Conn × Wire)}
    {t : ToolEnded} (h : awaitTool env caught rcntrl = .ok t) :
    ∃ tool, env.toolEnd = some tool ∧ t.acceptval = tool.acceptval t.killed := by
  unfold awaitTool at h
  dsimp only at h
  split at h
  · cases h
  split at h
  · cases h
  split at h
  · cases h
  split at h
  · cases h
  · rename_i hstatus
    cases h
    exact toolStatus_ok hstatus

theorem untilToolEnd_ok {env : AgentEnv} {mode : SessionMode} {s : TestSession} {t : ToolEnded}
    (h : untilToolEnd env mode s = .ok t) :
    ∃ tool, env.test.toolEnd = some tool ∧ t.acceptval = tool.acceptval t.killed := by
  unfold untilToolEnd at h
  split at h
  · cases h
  unfold runTest at h
  split at h
  · cases h
  split at h
  · cases h
  split at h
  · cases h
  dsimp only at h
  split at h
  · cases h
  split at h
  · cases h
  · exact awaitTool_ok h

/-! ## The exit status -/

/-- The remote statuses that a local one turns into the exit status 0. -/
def takenForSuccess : AcceptType → List AcceptType
  | .accept => [.invalid, .accept, .reject, .failure, .unsupported]
  | .reject => [.accept, .failure, .unsupported]
  | .failure => [.accept, .reject, .unsupported]
  | .unsupported => [.accept, .reject, .failure]
  | .invalid => [.accept]

/-- **The exit status 0**, from the two statuses. -/
theorem status_ended_iff (aval acceptval : AcceptType) :
    (AgentExit.ended aval acceptval).status = 0 ↔ aval ∈ takenForSuccess acceptval := by
  cases aval <;> cases acceptval <;> decide

/-- What was read of the peer's message, if that has to be for the exit status to be right: after
    a tool that succeeded a whole message with `ACCEPT`, and after another one no value that is
    taken for success. -/
def ToolEnd.Matched (tool : ToolEnd) (killed peer : Bool) (read : Option StopRead) : Prop :=
  if tool = .exited 0 then peer = true → PeerAccepted read
  else remoteStatus read ∉ takenForSuccess (tool.acceptval killed)

theorem ToolEnd.acceptval_eq_accept_iff (killed : Bool) (tool : ToolEnd) :
    tool.acceptval killed = .accept ↔ tool = .exited 0 := by
  cases tool with
  | exited status =>
    dsimp only [ToolEnd.acceptval]
    rw [ToolEnd.exited.injEq]
    split
    · rename_i hne
      exact ⟨fun h => (by cases h), fun h => absurd h hne⟩
    · rename_i hzero
      exact ⟨fun _ => not_not.1 hzero, fun _ => rfl⟩
  | signaled => cases killed <;> decide

/-- **The report of an agent can be relied on** exactly when it gives up before its tool has ended,
    or what it reads from the peer matches the way the tool ended. -/
theorem agent_success_iff (env : AgentEnv) (mode : SessionMode) (s : TestSession) :
    SuccessReported env mode s ↔
      ∀ t tool, untilToolEnd env mode s = .ok t → env.test.toolEnd = some tool →
        tool.Matched t.killed (!s.testSpec.noServerEndpoint) (tradeResults env.trade t) := by
  unfold SuccessReported SuccessfulTest agent
  cases hrun : untilToolEnd env mode s with
  | error stop =>
    constructor
    · intro _ t tool ht
      cases ht
    · intro _ hstatus
      exact absurd hstatus (untilToolEnd_error hrun).status_ne
  | ok t =>
    obtain ⟨tool, htool, haval⟩ := untilToolEnd_ok hrun
    have hlocal := tool.acceptval_eq_accept_iff t.killed
    dsimp only
    rw [status_ended_iff, haval]
    constructor
    · intro h t' tool' ht htool'
      cases ht
      obtain rfl := Option.some.inj (htool.symm.trans htool')
      unfold ToolEnd.Matched
      split
      · rename_i hzero
        intro hpeer
        have hmem : remoteStatus (tradeResults env.trade t) ∈
            takenForSuccess (tool.acceptval t.killed) := by
          rw [hlocal.2 hzero]
          cases remoteStatus (tradeResults env.trade t) <;> decide
        obtain ⟨t', ht', _, hread⟩ := h hmem
        cases ht'
        exact hread (by simpa using hpeer)
      · rename_i hfailed
        intro hmem
        obtain ⟨t', ht', haccept, _⟩ := h hmem
        cases ht'
        exact hfailed (hlocal.1 (haval ▸ haccept))
    · intro h hmem
      have hmatched := h t tool rfl htool
      unfold ToolEnd.Matched at hmatched
      split at hmatched
      · rename_i hzero
        exact ⟨t, rfl, haval.trans (hlocal.2 hzero), fun hpeer => hmatched (by rw [hpeer]; rfl)⟩
      · exact absurd hmem hmatched

/-! ## A failure that is reported as a success -/

/-- The first block of a message. -/
def firstBlock (msgtype : UInt8) : Block := Octets.store zeroBlock 0 [msgtype]

/-- A server whose peer asks for the time and, at the end, sends a StopSession with `ACCEPT`; the
    tool exits with the status 1. -/
def failedToolEnv : AgentEnv where
  setup :=
    { handlers := true, pending := [], context := true, clock := some ⟨1, true, 1, 0⟩,
      timer := true, addresses := true, accepted := true,
      control := fun _ => some (⟨stateRequest, 0, Vector.replicate 128 0, none⟩,
        arrive [firstBlock 4, zeroBlock, firstBlock 3, zeroBlock]),
      signals := [], forked := true }
  test :=
    { clock := some ⟨2, true, 1, 0⟩, timer := true, atStart := [],
      timeClock := some ⟨3, true, 1, 0⟩, timeSent := true, clocksApart := fun _ _ _ => false,
      atTime := [], readable := true, inTest := [.chld], kill := true, atKill := [], ready := true,
      wait := .ended (.exited 1), sigkill := true, lastWait := none }
  trade := ⟨true, none, none, ⟨true, true⟩, true, []⟩

/-- The session of a server whose test is about to start. -/
def comingSession : TestSession :=
  { testSessionAlloc false campusSender campusReceiver 0 .zero with
    reserveTime := 10 }

/-- **A tool that failed is reported as a success**: `FAILURE & ACCEPT` is 0. -/
theorem failed_tool_reported : ¬ SuccessReported failedToolEnv BWL_MODE_OPEN comingSession := by
  have hstatus : (agent failedToolEnv BWL_MODE_OPEN comingSession).status = 0 := by
    decide +kernel
  intro h
  obtain ⟨t, ht, haccept, _⟩ := h hstatus
  obtain ⟨tool, htool, haval⟩ := untilToolEnd_ok ht
  cases htool
  rw [haval] at haccept
  cases haccept

end Bwctl
