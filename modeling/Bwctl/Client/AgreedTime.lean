import Bwctl.Client.Negotiation
import Bwctl.Protocol.RoundTrip

/-!
# The time both sides have granted

Every answered request leaves the time it was granted in the session's record and on the control
connection, so equal times in the two records are equal reservations.  The time 0 is an exception:
asking for it again cancels the reservation, and the call succeeds.

* `sessionRequest_granted` — what a granted request leaves behind.
* `negotiateIndividualTest_granted`, `negotiateRound_spec` — a request and a round of them.
* `negotiateRounds_waiting` — the invariant of the loop.
* `negotiateRounds_rising` — the measure: without earlier grants the times rise.
* `negotiate_agrees` — both sides agree, and the loop ends.
* `cancelled_while_agreeing` — a reservation that is cancelled because the other is for the time 0.
-/

set_option autoImplicit false

namespace Bwctl

/-! ## What the daemons grant -/

/-- The time of the last reservation that was granted. -/
def lastGrant (answers : List RequestAnswer) : Option Num64 :=
  (answers.filter fun a => a.acceptval = .accept).getLast?.map (·.time)

/-- No reservation was granted for the time 0. -/
def NonzeroGrants (answers : List RequestAnswer) : Prop :=
  ∀ a ∈ answers, a.acceptval = .accept → a.time ≠ 0

/-- No reservation was granted for an earlier time than the one asked for. -/
def NeverEarlier (answers : List RequestAnswer) : Prop :=
  ∀ a ∈ answers, a.acceptval = .accept → a.asked ≤ a.time

theorem lastGrant_append (answers : List RequestAnswer) (asked time : Num64) :
    lastGrant (answers ++ [⟨asked, .accept, time⟩]) = some time := by
  simp [lastGrant]

/-! ## A request -/

theorem writeTestRequest_sent {tools : ToolTable} {sent : Bool} {c : Conn} {s : TestSession}
    (h : ¬ (writeTestRequest tools sent c s).2.1.prio < ErrSeverity.ok.prio) :
    (writeTestRequest tools sent c s).2.2 ≠ [] := by
  unfold writeTestRequest at h ⊢
  split at h
  · exact absurd fatal_prio h
  rename_i hstate
  rw [if_neg hstate]
  split at h
  · exact absurd fatal_prio h
  split at h
  · exact absurd fatal_prio h
  rename_i hsent
  rw [if_neg hsent]
  exact request_blocks_ne_nil _ _

/-- What a granted request leaves behind: an answer with `ACCEPT`, and the session on the
    connection, both for the time that is returned. -/
structure RequestResult.Grants (r : RequestResult) : Prop where
  err : r.err = .ok
  out : r.out ≠ []
  acceptval : r.acceptval = .accept
  live : ∃ s, r.conn.tests = some s ∧ s.reserveTime = r.availTime

theorem askSession_granted {env : RequestEnv} {c : Conn} {w : Wire} {s : TestSession}
    {toolPort : UInt16} {sid : SID} (h : (askSession env c w s toolPort sid).granted = true) :
    (askSession env c w s toolPort sid).Grants := by
  unfold askSession at h ⊢
  dsimp only at h ⊢
  generalize (if s.confServer = true then s else { s with sid := sid }) = asked at h ⊢
  split at h
  · rename_i hgranted
    rw [if_pos hgranted]
    unfold clientRequestTestReadResponse at hgranted ⊢
    dsimp only at hgranted ⊢
    split at hgranted
    · cases hgranted
    rename_i hwrite
    rw [if_neg hwrite]
    split at hgranted
    · cases hgranted
    rename_i hread
    rw [if_neg hread]
    exact ⟨rfl, writeTestRequest_sent hwrite, of_decide_eq_true hgranted, _, rfl, rfl⟩
  · cases h

/-- **A granted request** that is no cancellation. -/
theorem sessionRequest_granted {env : RequestEnv} {c : Conn} {w : Wire} {isClient : Bool}
    {testSpec : BWLTestSpec} {toolPort : UInt16} {sid : SID}
    (h : (sessionRequest env c w isClient testSpec toolPort sid).granted = true)
    (hask : c.tests = none ∨ testSpec.reqTime.tstamp ≠ 0) :
    (sessionRequest env c w isClient testSpec toolPort sid).Grants := by
  unfold sessionRequest at h ⊢
  dsimp only at h ⊢
  split at h
  · cases h
  rename_i hrequest
  rw [if_neg hrequest]
  cases htests : c.tests with
  | some s =>
    rw [htests] at h
    dsimp only at h ⊢
    split at h
    · cases h
    rename_i hsid
    rw [if_neg hsid]
    have hne : testSpec.reqTime.tstamp ≠ 0 := by simpa [htests] using hask
    rw [if_neg hne] at h ⊢
    exact askSession_granted h
  | none =>
    rw [htests] at h
    dsimp only at h ⊢
    split at h
    · cases h
    · exact askSession_granted h

/-! ## The requests of a negotiation -/

section Negotiation

variable {δ : Type} {answer : δ → List Block → δ × Wire}

/-- A session whose last request was granted. -/
structure Granted (x x' : IpSess δ) (time : Num64) : Prop where
  answers : x'.answers = x.answers ++ [⟨x.time, .accept, time⟩]
  record : x'.time = time
  live : ∃ s, x'.cntrl.tests = some s ∧ s.reserveTime = time
  requested : x'.sessionRequested = true
  inTime : time ≤ x.tspec.latestTime
  latest : x'.tspec.latestTime = x.tspec.latestTime

/-- **A request that is granted.** -/
theorem negotiateIndividualTest_granted {ctx : ToolContext} {env : CallEnv} {x : IpSess δ} {sid : SID}
    {recvPort : UInt16} (h : (negotiateIndividualTest answer ctx env x sid recvPort).ok = true)
    (hask : x.cntrl.tests = none ∨ x.time ≠ 0) :
    Granted x (negotiateIndividualTest answer ctx env x sid recvPort).sess
      (negotiateIndividualTest answer ctx env x sid recvPort).reqTime := by
  unfold negotiateIndividualTest IpSess.request at h ⊢
  dsimp only at h ⊢
  split at h
  · cases h
  rename_i hgranted
  rw [if_neg hgranted]
  split at h
  · cases h
  rename_i hsignal
  rw [if_neg hsignal]
  split at h
  · cases h
  rename_i hlatest
  rw [if_neg hlatest]
  rw [Bool.not_eq_true', Bool.not_eq_false] at hgranted
  have hgrants := sessionRequest_granted hgranted hask
  refine ⟨?_, rfl, hgrants.live, rfl, UInt64.not_lt.1 hlatest, rfl⟩
  unfold IpSess.setTime RequestResult.answer
  rw [if_pos ⟨hgrants.err, hgrants.out⟩, hgrants.acceptval]

/-- The answers are never forgotten. -/
theorem negotiateIndividualTest_answers (answer : δ → List Block → δ × Wire) (ctx : ToolContext)
    (env : CallEnv) (x : IpSess δ) (sid : SID) (recvPort : UInt16) :
    x.answers <+: (negotiateIndividualTest answer ctx env x sid recvPort).sess.answers := by
  unfold negotiateIndividualTest IpSess.request IpSess.setTime
  dsimp only
  split
  · exact List.prefix_append _ _
  split
  · exact List.prefix_append _ _
  split
  · exact List.prefix_append _ _
  · exact List.prefix_append _ _

/-! ## A round -/

variable {app : Application} {n n' : Negotiation δ}

/-- What a round comes to: it fails, the reservation of the client's side is for the time the
    server's side has granted anew, or both sides have granted a request. -/
inductive RoundSpec (n : Negotiation δ) : RoundEnd × Negotiation δ → Prop where
  | failed (n' : Negotiation δ) : RoundSpec n (.failed, n')
  | kept (n' : Negotiation δ) (time : Num64)
      (server : Granted (n.server.setTime n.reqTime) n'.server time)
      (requested : n.client.sessionRequested = true) (same : n.client.time = time)
      (client : n'.client = n.client) : RoundSpec n (.agreed, n')
  | asked (n' : Negotiation δ) (time time' : Num64)
      (server : Granted (n.server.setTime n.reqTime) n'.server time)
      (client : Granted (n.client.setTime time) n'.client time') (reqTime : n'.reqTime = time') :
      RoundSpec n (if time' ≠ time then .again else .agreed, n')

/-- **A round of requests** that cancels nothing. -/
theorem negotiateRound_spec (env : RoundEnv)
    (hserver : n.server.cntrl.tests = none ∨ n.reqTime ≠ 0)
    (hclient : n.client.cntrl.tests = none ∨ ∀ time,
      Granted (n.server.setTime n.reqTime) (negotiateRound answer app env n).2.server time →
        time ≠ 0) :
    RoundSpec n (negotiateRound answer app env n) := by
  unfold negotiateRound askServer askClient Negotiation.compare at *
  dsimp only at hclient ⊢
  generalize hserv : negotiateIndividualTest answer app.ctx env.server
    (n.server.setTime n.reqTime) n.sid n.recvPort = r at hclient ⊢
  cases hok : r.ok && !env.server.signalAfter with
  | false => exact .failed _
  | true =>
    rw [hok] at hclient
    simp only [Bool.not_true, Bool.false_eq_true, if_false] at hclient ⊢
    have hgranted : Granted (n.server.setTime n.reqTime) r.sess r.reqTime := by
      rw [← hserv] at hok ⊢
      exact negotiateIndividualTest_granted (Bool.and_eq_true_iff.1 hok).1 hserver
    split
    · rename_i hagain
      rw [if_pos hagain] at hclient
      generalize hcli : negotiateIndividualTest answer app.ctx env.client
        (n.client.setTime r.reqTime) r.sid (app.clientPort n.client.tspec r.recvPort) = r' at hclient ⊢
      cases hok' : r'.ok && !env.client.signalAfter with
      | false => exact .failed _
      | true =>
        rw [hok'] at hclient
        simp only [Bool.not_true, Bool.false_eq_true, if_false] at hclient ⊢
        have hask : (n.client.setTime r.reqTime).cntrl.tests = none ∨
            (n.client.setTime r.reqTime).time ≠ 0 := by
          rcases hclient with hnone | hne
          · exact Or.inl hnone
          · right
            apply hne
            split <;> exact hgranted
        have hgranted' : Granted (n.client.setTime r.reqTime) r'.sess r'.reqTime := by
          rw [← hcli] at hok' ⊢
          exact negotiateIndividualTest_granted (Bool.and_eq_true_iff.1 hok').1 hask
        have hround := RoundSpec.asked
          ⟨r.sess, r'.sess, r'.sid, r'.reqTime, r'.recvPort⟩ _ _ hgranted hgranted' rfl
        rw [hgranted.record, hgranted'.record]
        split
        · rename_i hne
          rw [if_pos hne] at hround
          exact hround
        · rename_i hsame
          rw [if_neg hsame] at hround
          exact hround
    · rename_i hkeep
      rw [not_or, not_not, Bool.not_eq_true', Bool.not_eq_false] at hkeep
      rw [if_neg (not_not.2 hkeep.2)]
      exact .kept _ _ hgranted hkeep.1 (hkeep.2.trans hgranted.record) rfl

/-! ## The loop -/

variable {latest : Num64}

/-- A session that holds a reservation, for the time of its record. -/
structure Held (latest : Num64) (x : IpSess δ) : Prop where
  live : ∃ s, x.cntrl.tests = some s ∧ s.reserveTime = x.time
  last : lastGrant x.answers = some x.time
  requested : x.sessionRequested = true
  inTime : x.time ≤ latest
  latest : x.tspec.latestTime = latest

/-- A negotiation before its first request. -/
structure Fresh (latest : Num64) (n : Negotiation δ) : Prop where
  server : n.server.cntrl.tests = none
  client : n.client.cntrl.tests = none
  serverLatest : n.server.tspec.latestTime = latest
  clientLatest : n.client.tspec.latestTime = latest
  requested : n.client.sessionRequested = false

/-- **The invariant of the loop**: both sides hold reservations, and the server's side is asked for
    the time of the client's. -/
structure Waiting (latest : Num64) (n : Negotiation δ) : Prop where
  server : Held latest n.server
  client : Held latest n.client
  next : n.reqTime = n.client.time

theorem Granted.held {x x' : IpSess δ} {time : Num64} (h : Granted x x' time)
    (hlatest : x.tspec.latestTime = latest) : Held latest x' where
  live := by
    rw [h.record]
    exact h.live
  last := by
    rw [h.record, h.answers]
    exact lastGrant_append _ _ _
  requested := h.requested
  inTime := by
    rw [h.record, ← hlatest]
    exact h.inTime
  latest := h.latest.trans hlatest

theorem Granted.mem {x x' : IpSess δ} {time : Num64} (h : Granted x x' time) :
    ⟨x.time, .accept, time⟩ ∈ x'.answers := by
  rw [h.answers]
  exact List.mem_append_right _ (List.mem_singleton_self _)

theorem Held.mem {x : IpSess δ} (h : Held latest x) :
    ∃ a ∈ x.answers, a.acceptval = .accept ∧ a.time = x.time := by
  obtain ⟨a, ha, htime⟩ := Option.map_eq_some_iff.1 h.last
  obtain ⟨hmem, haccept⟩ := List.mem_filter.1 (List.mem_of_getLast? ha)
  exact ⟨a, hmem, of_decide_eq_true haccept, htime⟩

/-- What a round leaves that does not fail. -/
theorem RoundSpec.held {r : RoundEnd × Negotiation δ} (hround : RoundSpec n r)
    (hn : Fresh latest n ∨ Waiting latest n) (he : r.1 ≠ .failed) :
    Held latest r.2.server ∧ Held latest r.2.client ∧
      (r.1 = .again → r.2.reqTime = r.2.client.time ∧ r.2.client.time ≠ r.2.server.time) ∧
      (r.1 = .agreed → r.2.client.time = r.2.server.time) := by
  have hserver : n.server.tspec.latestTime = latest := hn.elim (·.serverLatest) (·.server.latest)
  have hclient : n.client.tspec.latestTime = latest := hn.elim (·.clientLatest) (·.client.latest)
  cases hround with
  | failed => exact absurd rfl he
  | kept n' time hgranted hrequested hsame hkept =>
    rcases hn with hfresh | hwaiting
    · rw [hfresh.requested] at hrequested
      cases hrequested
    · refine ⟨hgranted.held hserver, by rw [hkept]; exact hwaiting.client, fun h => (by cases h),
        fun _ => ?_⟩
      rw [hkept, hgranted.record, hsame]
  | asked n' time time' hgranted hgranted' hnext =>
    refine ⟨hgranted.held hserver, hgranted'.held hclient, ?_, ?_⟩
    · intro h
      rw [hgranted.record, hgranted'.record]
      refine ⟨hnext, fun heq => ?_⟩
      rw [if_neg (not_not.2 heq)] at h
      cases h
    · intro h
      rw [hgranted.record, hgranted'.record]
      by_contra hne
      rw [if_pos hne] at h
      cases h

/-- **A round that goes on** without an earlier grant ends in a later time. -/
theorem RoundSpec.rises {r : RoundEnd × Negotiation δ} (hround : RoundSpec n r)
    (hagain : r.1 = .again) (hserver : NeverEarlier r.2.server.answers)
    (hclient : NeverEarlier r.2.client.answers) : n.reqTime < r.2.client.time := by
  cases hround with
  | failed => cases hagain
  | kept => cases hagain
  | asked n' time time' hgranted hgranted' hnext =>
    have hle : n.reqTime ≤ time := hserver _ hgranted.mem rfl
    have hle' : time ≤ time' := hclient _ hgranted'.mem rfl
    have hne : time' ≠ time := by
      intro heq
      rw [if_neg (not_not.2 heq)] at hagain
      cases hagain
    rw [hgranted'.record]
    exact UInt64.lt_of_le_of_lt hle (UInt64.lt_of_le_of_ne hle' hne.symm)

/-- A round of the loop cancels nothing as long as no side has granted the time 0. -/
theorem negotiateRound_of_waiting (env : RoundEnv) (hn : Fresh latest n ∨ Waiting latest n)
    (hnext : Waiting latest n → n.client.time ≠ 0)
    (hgrant : Waiting latest n → ∀ time,
      Granted (n.server.setTime n.reqTime) (negotiateRound answer app env n).2.server time →
        time ≠ 0) :
    RoundSpec n (negotiateRound answer app env n) := by
  rcases hn with hfresh | hwaiting
  · exact negotiateRound_spec env (Or.inl hfresh.server) (Or.inl hfresh.client)
  · refine negotiateRound_spec env (Or.inr ?_) (Or.inr (hgrant hwaiting))
    rw [hwaiting.next]
    exact hnext hwaiting

theorem negotiateRound_answers (answer : δ → List Block → δ × Wire) (app : Application)
    (env : RoundEnv) (n : Negotiation δ) :
    n.server.answers <+: (negotiateRound answer app env n).2.server.answers ∧
      n.client.answers <+: (negotiateRound answer app env n).2.client.answers := by
  have hserver := negotiateIndividualTest_answers answer app.ctx env.server
    (n.server.setTime n.reqTime) n.sid n.recvPort
  unfold negotiateRound askServer askClient Negotiation.compare
  dsimp only
  generalize negotiateIndividualTest answer app.ctx env.server (n.server.setTime n.reqTime)
    n.sid n.recvPort = r at hserver ⊢
  have hclient := negotiateIndividualTest_answers answer app.ctx env.client
    (n.client.setTime r.reqTime) r.sid (app.clientPort n.client.tspec r.recvPort)
  split
  · exact ⟨hserver, List.prefix_rfl⟩
  split
  · split
    · exact ⟨hserver, hclient⟩
    · split <;> exact ⟨hserver, hclient⟩
  · split <;> exact ⟨hserver, List.prefix_rfl⟩

theorem negotiateRounds_succ {env : Nat → RoundEnv} {k : Nat}
    (h : (negotiateRounds answer app env n k).1 = .again) :
    negotiateRounds answer app env n (k + 1) =
      negotiateRound answer app (env k) (negotiateRounds answer app env n k).2 := by
  rw [negotiateRounds]
  generalize negotiateRounds answer app env n k = r at h ⊢
  obtain ⟨e, n'⟩ := r
  cases h
  rfl

/-- There is no round behind the end of the loop. -/
theorem negotiateRounds_stopped {env : Nat → RoundEnv} {k : Nat}
    (h : (negotiateRounds answer app env n k).1 ≠ .again) :
    negotiateRounds answer app env n (k + 1) = negotiateRounds answer app env n k := by
  rw [negotiateRounds]
  generalize negotiateRounds answer app env n k = r at h ⊢
  obtain ⟨e, n'⟩ := r
  cases e with
  | again => exact absurd rfl h
  | agreed => rfl
  | failed => rfl

/-- A round follows rounds that went on. -/
theorem negotiateRounds_again {env : Nat → RoundEnv} {k : Nat}
    (h : (negotiateRounds answer app env n (k + 1)).1 = .again) :
    (negotiateRounds answer app env n k).1 = .again := by
  by_contra hstopped
  rw [negotiateRounds_stopped hstopped] at h
  exact hstopped h

theorem negotiateRound_of_nonzero (env : RoundEnv) (hn : Fresh latest n ∨ Waiting latest n)
    (hserver : NonzeroGrants (negotiateRound answer app env n).2.server.answers)
    (hclient : NonzeroGrants n.client.answers) :
    RoundSpec n (negotiateRound answer app env n) := by
  apply negotiateRound_of_waiting env hn
  · intro hwaiting
    obtain ⟨a, hmem, haccept, htime⟩ := hwaiting.client.mem
    rw [← htime]
    exact hclient a hmem haccept
  · intro _ time hgranted
    exact hserver _ hgranted.mem rfl

/-- **The loop keeps its invariant** while no side grants the time 0. -/
theorem negotiateRounds_waiting {env : Nat → RoundEnv} (hn : Fresh latest n) (k : Nat)
    (hserver : NonzeroGrants (negotiateRounds answer app env n k).2.server.answers)
    (hclient : NonzeroGrants (negotiateRounds answer app env n k).2.client.answers)
    (hagain : (negotiateRounds answer app env n k).1 = .again) :
    Fresh latest (negotiateRounds answer app env n k).2 ∨
      Waiting latest (negotiateRounds answer app env n k).2 := by
  induction k with
  | zero => exact Or.inl hn
  | succ k ih =>
    have hbefore := negotiateRounds_again hagain
    rw [negotiateRounds_succ hbefore] at hserver hclient hagain ⊢
    have hanswers := negotiateRound_answers answer app (env k)
      (negotiateRounds answer app env n k).2
    have hclient' : NonzeroGrants (negotiateRounds answer app env n k).2.client.answers :=
      fun a ha => hclient a (hanswers.2.subset ha)
    have hgoing := ih (fun a ha => hserver a (hanswers.1.subset ha)) hclient' hbefore
    have hspec := negotiateRound_of_nonzero (env k) hgoing hserver hclient'
    obtain ⟨hserverHeld, hclientHeld, hnext, -⟩ := hspec.held hgoing (by rw [hagain]; decide)
    exact Or.inr ⟨hserverHeld, hclientHeld, (hnext hagain).1⟩

/-- **The times rise** while no side grants an earlier time than it is asked for. -/
theorem negotiateRounds_rising {env : Nat → RoundEnv} (hn : Fresh latest n)
    (hserver : ∀ k, NeverEarlier (negotiateRounds answer app env n k).2.server.answers)
    (hclient : ∀ k, NeverEarlier (negotiateRounds answer app env n k).2.client.answers) (k : Nat)
    (hagain : (negotiateRounds answer app env n k).1 = .again) :
    k = 0 ∧ Fresh latest (negotiateRounds answer app env n k).2 ∨
      Waiting latest (negotiateRounds answer app env n k).2 ∧
        k ≤ (negotiateRounds answer app env n k).2.client.time.toNat ∧
        (negotiateRounds answer app env n k).2.client.time ≠ 0 := by
  induction k with
  | zero => exact Or.inl ⟨rfl, hn⟩
  | succ k ih =>
    right
    have hbefore := negotiateRounds_again hagain
    have hgoing := ih hbefore
    have hserver' := hserver (k + 1)
    have hclient' := hclient (k + 1)
    rw [negotiateRounds_succ hbefore] at hserver' hclient' hagain ⊢
    generalize (negotiateRounds answer app env n k).2 = m at hgoing hserver' hclient' hagain ⊢
    have hstart : Fresh latest m ∨ Waiting latest m := hgoing.imp (·.2) (·.1)
    have hrise : Waiting latest m → k ≤ m.client.time.toNat ∧ m.client.time ≠ 0 := by
      intro hwaiting
      rcases hgoing with ⟨-, hfresh⟩ | ⟨-, h⟩
      · have hlive := hwaiting.client.live
        rw [hfresh.client] at hlive
        obtain ⟨s, hs, -⟩ := hlive
        cases hs
      · exact h
    have hle : ∀ time, Granted (m.server.setTime m.reqTime)
        (negotiateRound answer app (env k) m).2.server time → m.reqTime ≤ time := by
      intro time hgranted
      exact hserver' _ hgranted.mem rfl
    have hspec : RoundSpec m (negotiateRound answer app (env k) m) := by
      refine negotiateRound_of_waiting (env k) hstart (fun h => (hrise h).2) ?_
      intro hwaiting time hgranted
      have hpos := (hrise hwaiting).2
      rw [← hwaiting.next] at hpos
      exact fun hzero => hpos (UInt64.le_antisymm (hzero ▸ hle time hgranted) (UInt64.zero_le))
    obtain ⟨hserverHeld, hclientHeld, hnext, -⟩ := hspec.held hstart (by rw [hagain]; decide)
    refine ⟨⟨hserverHeld, hclientHeld, (hnext hagain).1⟩, ?_⟩
    have hrises := UInt64.lt_iff_toNat_lt.1 (hspec.rises hagain hserver' hclient')
    generalize (negotiateRound answer app (env k) m).2.client.time = later at hrises ⊢
    constructor
    · rcases hgoing with ⟨rfl, -⟩ | ⟨hwaiting, hk, -⟩
      · omega
      · rw [hwaiting.next] at hrises
        omega
    · rintro rfl
      exact absurd hrises (Nat.not_lt_zero _)

/-- **The loop ends** if no side grants an earlier time than it is asked for. -/
theorem negotiateRounds_ends {env : Nat → RoundEnv} (hn : Fresh latest n)
    (hserver : ∀ k, NeverEarlier (negotiateRounds answer app env n k).2.server.answers)
    (hclient : ∀ k, NeverEarlier (negotiateRounds answer app env n k).2.client.answers) :
    ∃ k, (negotiateRounds answer app env n k).1 ≠ .again := by
  by_contra hnever
  simp only [ne_eq, not_exists, not_not] at hnever
  rcases negotiateRounds_rising hn hserver hclient (2 ^ 64) (hnever _) with ⟨hzero, -⟩ | ⟨-, hle, -⟩
  · exact absurd hzero (by norm_num)
  · have hlt := (negotiateRounds answer app env n (2 ^ 64)).2.client.time.toNat_lt
    omega

/-! ## The whole negotiation -/

/-- Both sides hold a reservation, the last one they were granted, for the same time. -/
structure Agree (latest : Num64) (n : Negotiation δ) (time : Num64) : Prop where
  serverLast : lastGrant n.server.answers = some time
  clientLast : lastGrant n.client.answers = some time
  serverLive : ∃ s, n.server.cntrl.tests = some s ∧ s.reserveTime = time
  clientLive : ∃ s, n.client.cntrl.tests = some s ∧ s.reserveTime = time
  inTime : time ≤ latest

theorem prepareNegotiation_fresh {env : NegotiationEnv} {server client : IpSess δ}
    {testOptions testOptions' : BWLTestSpec} (hserver : server.cntrl.tests = none)
    (hclient : client.cntrl.tests = none)
    (h : prepareNegotiation app env server client testOptions = (testOptions', some n)) :
    Fresh testOptions'.latestTime n := by
  unfold prepareNegotiation at h
  dsimp only at h
  split at h
  · cases h
  · cases h
    exact ⟨hserver, hclient, rfl, rfl, rfl⟩

/-- The rounds before the one in which the loop ends go on. -/
theorem negotiateRounds_last {env : Nat → RoundEnv} {k : Nat}
    (h : (negotiateRounds answer app env n k).1 ≠ .again) :
    ∃ j, (negotiateRounds answer app env n j).1 = .again ∧
      negotiateRounds answer app env n k =
        negotiateRound answer app (env j) (negotiateRounds answer app env n j).2 := by
  induction k with
  | zero => exact absurd rfl h
  | succ k ih =>
    by_cases hagain : (negotiateRounds answer app env n k).1 = .again
    · exact ⟨k, hagain, negotiateRounds_succ hagain⟩
    · obtain ⟨j, hj, hlast⟩ := ih hagain
      exact ⟨j, hj, (negotiateRounds_stopped hagain).trans hlast⟩

/-- **A negotiation that succeeds** leaves both sides with reservations for the same time. -/
theorem negotiateRounds_agreed {env : Nat → RoundEnv} {k : Nat} (hn : Fresh latest n)
    (h : negotiateRounds answer app env n k = (.agreed, n'))
    (hserver : NonzeroGrants n'.server.answers) (hclient : NonzeroGrants n'.client.answers) :
    ∃ time, Agree latest n' time := by
  obtain ⟨j, hj, hlast⟩ := negotiateRounds_last (show (negotiateRounds answer app env n k).1 ≠ .again
    by rw [h]; simp)
  have hround : negotiateRound answer app (env j) (negotiateRounds answer app env n j).2 =
      (.agreed, n') := hlast.symm.trans h
  have hanswers := negotiateRound_answers answer app (env j)
    (negotiateRounds answer app env n j).2
  rw [hround] at hanswers
  have hclient' : NonzeroGrants (negotiateRounds answer app env n j).2.client.answers :=
    fun a ha => hclient a (hanswers.2.subset ha)
  have hgoing := negotiateRounds_waiting hn j (fun a ha => hserver a (hanswers.1.subset ha))
    hclient' hj
  have hspec : RoundSpec _ (negotiateRound answer app (env j)
      (negotiateRounds answer app env n j).2) :=
    negotiateRound_of_nonzero (env j) hgoing (by rw [hround]; exact hserver) hclient'
  rw [hround] at hspec
  obtain ⟨hserverHeld, hclientHeld, -, hsame⟩ := hspec.held hgoing (by simp)
  have htime : n'.client.time = n'.server.time := hsame rfl
  refine ⟨n'.server.time, hserverHeld.last, ?_, hserverHeld.live, ?_, hserverHeld.inTime⟩
  · rw [← htime]
    exact hclientHeld.last
  · rw [← htime]
    exact hclientHeld.live

/-- The rounds of a negotiation that gets as far as its loop. -/
def loopState (answer : δ → List Block → δ × Wire) (app : Application) (env : NegotiationEnv)
    (server client : IpSess δ) (testOptions : BWLTestSpec) (k : Nat) : Option (Negotiation δ) :=
  (prepareNegotiation app env server client testOptions).2.map fun n =>
    (negotiateRounds answer app env.rounds n k).2

/-- The answers of a round are among those of the rounds after it. -/
theorem negotiateRounds_prefix {env : Nat → RoundEnv} (k d : Nat) :
    (negotiateRounds answer app env n k).2.server.answers <+:
        (negotiateRounds answer app env n (k + d)).2.server.answers ∧
      (negotiateRounds answer app env n k).2.client.answers <+:
        (negotiateRounds answer app env n (k + d)).2.client.answers := by
  induction d with
  | zero => exact ⟨List.prefix_rfl, List.prefix_rfl⟩
  | succ d ih =>
    rw [← Nat.add_assoc]
    by_cases hagain : (negotiateRounds answer app env n (k + d)).1 = .again
    · rw [negotiateRounds_succ hagain]
      have hround := negotiateRound_answers answer app (env (k + d))
        (negotiateRounds answer app env n (k + d)).2
      exact ⟨ih.1.trans hround.1, ih.2.trans hround.2⟩
    · rw [negotiateRounds_stopped hagain]
      exact ih

theorem negotiateRounds_ended {env : Nat → RoundEnv} {k : Nat}
    (h : (negotiateRounds answer app env n k).1 ≠ .again) (d : Nat) :
    negotiateRounds answer app env n (k + d) = negotiateRounds answer app env n k := by
  induction d with
  | zero => rfl
  | succ d ih =>
    rw [← ih] at h
    rw [← Nat.add_assoc, negotiateRounds_stopped h, ih]

/-- **The end of a loop** has all its answers. -/
theorem loopState_answers {env : NegotiationEnv} {server client : IpSess δ}
    {testOptions : BWLTestSpec} {k k' : Nat} {n n' : Negotiation δ}
    (hended : (negotiateTest answer app env server client testOptions k').isSome)
    (hk : loopState answer app env server client testOptions k = some n)
    (hk' : loopState answer app env server client testOptions k' = some n') :
    n.server.answers <+: n'.server.answers ∧ n.client.answers <+: n'.client.answers := by
  unfold loopState at hk hk'
  unfold negotiateTest at hended
  generalize prepareNegotiation app env server client testOptions = p at hk hk' hended
  obtain ⟨testOptions', start⟩ := p
  cases start with
  | none => cases hk
  | some n₀ =>
    obtain rfl := Option.some.inj hk
    obtain rfl := Option.some.inj hk'
    have hstopped : (negotiateRounds answer app env.rounds n₀ k').1 ≠ .again := by
      intro hagain
      dsimp only at hended
      generalize negotiateRounds answer app env.rounds n₀ k' = r at hagain hended
      obtain ⟨e, n⟩ := r
      cases hagain
      cases hended
    rcases Nat.le_total k k' with hle | hle
    · obtain ⟨d, rfl⟩ := Nat.exists_eq_add_of_le hle
      exact negotiateRounds_prefix k d
    · obtain ⟨d, rfl⟩ := Nat.exists_eq_add_of_le hle
      dsimp only
      rw [negotiateRounds_ended hstopped]
      exact ⟨List.prefix_rfl, List.prefix_rfl⟩

/-- **Both ends agree on the test time** when a negotiation succeeds without a grant for the time 0,
    and it ends if no daemon grants an earlier time than it is asked for. -/
theorem negotiate_agrees (answer : δ → List Block → δ × Wire) (app : Application)
    (env : NegotiationEnv) (server client : IpSess δ) (testOptions : BWLTestSpec)
    (hserver : server.cntrl.tests = none) (hclient : client.cntrl.tests = none) :
    (∀ k r, negotiateTest answer app env server client testOptions k = some r → r.ok = true →
      NonzeroGrants r.negotiation.server.answers → NonzeroGrants r.negotiation.client.answers →
      ∃ time, Agree r.testOptions.latestTime r.negotiation time) ∧
    ((∀ k n, loopState answer app env server client testOptions k = some n →
        NeverEarlier n.server.answers ∧ NeverEarlier n.client.answers) →
      ∃ k, (negotiateTest answer app env server client testOptions k).isSome) := by
  unfold negotiateTest loopState
  cases hprepare : prepareNegotiation app env server client testOptions with
  | mk testOptions' start =>
    cases start with
    | none =>
      refine ⟨fun k r h hok => ?_, fun _ => ⟨0, rfl⟩⟩
      cases h
      cases hok
    | some n =>
      have hfresh := prepareNegotiation_fresh hserver hclient hprepare
      constructor
      · intro k r h hok hserverGrants hclientGrants
        dsimp only at h
        split at h
        · cases h
        · rename_i n' hrounds
          cases h
          exact negotiateRounds_agreed hfresh hrounds hserverGrants hclientGrants
        · cases h
          cases hok
      · intro hnever
        have hnever' := fun k => hnever k _ rfl
        obtain ⟨k, hk⟩ := negotiateRounds_ends hfresh (fun k => (hnever' k).1)
          fun k => (hnever' k).2
        refine ⟨k, ?_⟩
        dsimp only
        split
        · rename_i hrounds
          rw [hrounds] at hk
          exact absurd rfl hk
        · rfl
        · rfl

end Negotiation

/-! ## Two daemons that say what they are told to -/

/-- A daemon that gives prepared answers, and then closes the connection. -/
def scripted : List (AcceptType × Num64) → List Block → List (AcceptType × Num64) × Wire
  | [], _ => ([], [.closed])
  | (acceptval, time) :: rest, _ =>
    (rest, arrive (Octets.chunks 16 2 (encodeTestAccept (Vector.replicate 128 0) acceptval
      { testSessionAlloc true campusSender campusReceiver 0 .zero with
        reserveTime := time })))

/-- A session behind the handshake. -/
def scriptedSession (isClient : Bool) (answers : List (AcceptType × Num64)) :
    IpSess (List (AcceptType × Num64)) where
  isClient := isClient
  isLocal := false
  fakeDaemon := false
  availTools := BWL_TOOL_NUTTCP
  rttbound := 0
  hostTime := ⟨0, true, 1, 0⟩
  cntrl := ⟨stateRequest, 0x06000000, Vector.replicate 128 0, none⟩
  tspec := .zero
  sessionRequested := false
  wire := []
  daemon := answers
  answers := []

/-- A throughput test without a `-T` option. -/
def throughputApp : Application := ⟨allTools, .throughput, defaultOptions, 0, 300⟩

/-- Two hosts, no signals, and every write succeeds. -/
def calmEnv : NegotiationEnv where
  client := some campusSender
  server := some campusReceiver
  clock := some ⟨1000, true, 1, 0⟩
  garbage := Vector.replicate 16 0
  rounds := fun _ => ⟨⟨calmSend, false, false⟩, ⟨calmSend, false, false⟩⟩
  cancelClient := calmSend
  cancelServer := calmSend
where
  calmSend : SendEnv := ⟨.ok (campusSender, campusReceiver), true⟩

/-- What a negotiation of at most `k` rounds between scripted daemons comes to. -/
def scriptedTest (server client : List (AcceptType × Num64)) (k : Nat) :
    Option (NegotiationResult (List (AcceptType × Num64))) :=
  negotiateTest scripted throughputApp calmEnv (scriptedSession false server)
    (scriptedSession true client) pacedTcp k

/-- Two seconds into the era. -/
def secondTwo : Num64 := 0x200000000

/-- Three seconds into the era. -/
def secondThree : Num64 := 0x300000000

/-- The server's side grants the second two, the client's side the second three, and the server's
    side is asked again and grants that: two rounds, after which the loop has ended. -/
theorem negotiate_agrees_at_three : ∃ r,
    scriptedTest [(.accept, secondTwo), (.accept, secondThree)] [(.accept, secondThree)] 2 = some r ∧
      (r.negotiation.server.answers.map fun a => a.time) = [secondTwo, secondThree] ∧
      Agree r.testOptions.latestTime r.negotiation secondThree ∧
      ∃ k, (scriptedTest [(.accept, secondTwo), (.accept, secondThree)] [(.accept, secondThree)]
        k).isSome := by
  let server := scriptedSession false [(.accept, secondTwo), (.accept, secondThree)]
  let client := scriptedSession true [(.accept, secondThree)]
  have hrun : (scriptedTest [(.accept, secondTwo), (.accept, secondThree)] [(.accept, secondThree)]
      2).any (fun r => r.ok &&
        r.negotiation.server.answers.map (·.time) == [secondTwo, secondThree] &&
        r.negotiation.client.answers.map (·.time) == [secondThree] &&
        lastGrant r.negotiation.client.answers == some secondThree) = true := by
    decide +kernel
  have hloop : (loopState scripted throughputApp calmEnv server client pacedTcp 2).any (fun n =>
      n.server.answers.all (fun a => a.asked ≤ a.time) &&
        n.client.answers.all (fun a => a.asked ≤ a.time)) = true := by
    decide +kernel
  obtain ⟨r, hr, hall⟩ := (Option.any_eq_true _ _).1 hrun
  obtain ⟨n, hn, hlater⟩ := (Option.any_eq_true _ _).1 hloop
  simp only [Bool.and_eq_true, beq_iff_eq] at hall
  obtain ⟨⟨⟨hok, hserver⟩, hclient⟩, hlast⟩ := hall
  simp only [Bool.and_eq_true, List.all_eq_true, decide_eq_true_eq] at hlater
  have hnonzero : ∀ {answers : List RequestAnswer} {times : List Num64},
      answers.map (·.time) = times → 0 ∉ times → NonzeroGrants answers := by
    intro answers times htimes hzero a ha _ h0
    exact hzero (htimes ▸ h0 ▸ List.mem_map_of_mem ha)
  have hagrees := negotiate_agrees scripted throughputApp calmEnv server client pacedTcp rfl rfl
  obtain ⟨time, hagree⟩ := hagrees.1 2 r hr hok (hnonzero hserver (by decide))
    (hnonzero hclient (by decide))
  have htime : time = secondThree := Option.some.inj (hagree.clientLast.symm.trans hlast)
  refine ⟨r, hr, hserver, htime ▸ hagree, hagrees.2 fun k m hm => ?_⟩
  have hended : (negotiateTest scripted throughputApp calmEnv server client pacedTcp 2).isSome :=
    Option.isSome_iff_exists.2 ⟨r, hr⟩
  obtain ⟨hserverSub, hclientSub⟩ := loopState_answers hended hm hn
  exact ⟨fun a ha _ => hlater.1 a (hserverSub.subset ha),
    fun a ha _ => hlater.2 a (hclientSub.subset ha)⟩

/-- The client's side grants the time 0: the negotiation succeeds, and the reservation of the
    server's side was for another time and is cancelled. -/
theorem cancelled_while_agreeing : ∃ r, scriptedTest [(.accept, secondTwo), (.reject, 0)]
      [(.accept, 0)] 2 = some r ∧ r.ok = true ∧ r.negotiation.server.cntrl.tests = none ∧
    lastGrant r.negotiation.server.answers = some secondTwo ∧
    lastGrant r.negotiation.client.answers = some 0 := by
  have hrun : (scriptedTest [(.accept, secondTwo), (.reject, 0)] [(.accept, 0)] 2).any (fun r =>
      r.ok && r.negotiation.server.cntrl.tests.isNone &&
        lastGrant r.negotiation.server.answers = some secondTwo &&
        lastGrant r.negotiation.client.answers = some 0) = true := by
    decide +kernel
  obtain ⟨r, hr, hall⟩ := (Option.any_eq_true _ _).1 hrun
  simp only [Bool.and_eq_true, Option.isNone_iff_eq_none, decide_eq_true_eq] at hall
  exact ⟨r, hr, hall.1.1.1, hall.1.1.2, hall.1.2, hall.2⟩

end Bwctl
