import Bwctl.Client.AgreedTime
import Bwctl.Client.Daemons

/-!
# What a failed negotiation leaves behind

`error_exit` goes by two marks of the client: it calls `BWLSessionRequest` for the time 0 for every
session it has marked.  That call cancels a reservation if there is one on the connection, and is a
new request if there is none.  The marks are right as long as no update is denied or asked for the
time 0, no signal comes between the first grant and its mark, and the marks of an earlier test are
not used.

* `Marked`, `Coherent` — the marks are right.
* `negotiateIndividualTest_marked`, `negotiateRound_coherent` — kept by a request and by a round.
* `negotiateRounds_coherent` — in every run.
* `cleanUp_clears` — the clean-up then cancels everything, and nothing else.
* `failed_negotiation_clears` — a failed negotiation that keeps clear of the slips.
* `reservation_left_behind` — a signal before the mark, and the reservation that stays.
-/

set_option autoImplicit false

namespace Bwctl

/-! ## Keeping clear of the slips -/

/-- Nothing goes wrong with the requests to one daemon: no signal comes between its first grant and
    the mark of it, every update is granted, and none is for the time 0. -/
structure Untroubled (signal : Bool) (answers : List RequestAnswer) : Prop where
  first : ∀ a, answers.head? = some a → a.acceptval = .accept → signal = false
  updates : ∀ a ∈ answers.tail, a.acceptval = .accept ∧ a.asked ≠ 0

theorem Untroubled.of_prefix {signal : Bool} {answers answers' : List RequestAnswer}
    (h : Untroubled signal answers') (hbefore : answers <+: answers') :
    Untroubled signal answers := by
  obtain ⟨later, rfl⟩ := hbefore
  cases answers with
  | nil => exact ⟨fun a ha => (by cases ha), fun a ha => (by cases ha)⟩
  | cons first rest =>
    refine ⟨h.first, fun a ha => h.updates a ?_⟩
    exact List.mem_append_left later ha

/-- An answer behind another one is a grant for a time. -/
theorem Untroubled.update {signal : Bool} {answers : List RequestAnswer} {a : RequestAnswer}
    (h : Untroubled signal (answers ++ [a])) (hanswers : answers ≠ []) :
    a.acceptval = .accept ∧ a.asked ≠ 0 := by
  apply h.updates
  cases answers with
  | nil => exact absurd rfl hanswers
  | cons first rest => exact List.mem_append_right rest (List.mem_singleton_self a)

/-! ## The marks -/

/-- A session and its daemon, with the mark the client has made of its reservation. -/
structure Marked (tools : ToolTable) (sid : SID) (x : IpSess ServingEnd) : Prop
    extends Kept tools sid x where
  mark : x.sessionRequested = x.cntrl.tests.isSome

theorem Marked.setTime {tools : ToolTable} {sid : SID} {x : IpSess ServingEnd}
    (h : Marked tools sid x) (tstamp : Num64) : Marked tools sid (x.setTime tstamp) :=
  ⟨h.toKept.setTime tstamp, h.mark⟩

/-- A session without a reservation is good for every SID. -/
theorem Marked.of_idle {tools : ToolTable} {sid sid' : SID} {x : IpSess ServingEnd}
    (h : Marked tools sid x) (hidle : x.cntrl.tests = none) : Marked tools sid' x := by
  refine ⟨⟨h.line, h.speaks, fun s hs => ?_⟩, h.mark⟩
  rw [hidle] at hs
  cases hs

/-- The answers of a session that was asked for a reservation, or not yet. -/
def AskedFor (x : IpSess ServingEnd) : Prop := x.answers = [] ↔ x.cntrl.tests = none

section Individual

variable {ctx : ToolContext} {env : CallEnv} {x : IpSess ServingEnd} {sid : SID}
  {recvPort : UInt16} {signal : Bool}

/-- What `negotiate_individual_test` leaves of a session is what the request left, with its mark and
    its time if it was granted. -/
theorem negotiateIndividualTest_sess (answer : ServingEnd → List Block → ServingEnd × Wire)
    (ctx : ToolContext) (env : CallEnv) (x : IpSess ServingEnd) (sid : SID) (recvPort : UInt16) :
    let r := negotiateIndividualTest answer ctx env x sid recvPort
    let asked := x.request answer (env.send.request ctx) recvPort sid
    r.sid = asked.2.sid ∧ r.sess.line = asked.1.line ∧ r.sess.answers = asked.1.answers ∧
      r.sess.isClient = x.isClient := by
  unfold negotiateIndividualTest
  dsimp only
  split
  · exact ⟨rfl, rfl, rfl, rfl⟩
  split
  · exact ⟨rfl, rfl, rfl, rfl⟩
  split
  · exact ⟨rfl, rfl, rfl, rfl⟩
  · exact ⟨rfl, rfl, rfl, rfl⟩

/-- **A request that is answered without trouble** keeps the mark right. -/
theorem negotiateIndividualTest_marked (h : Marked ctx.table sid x) (hasked : AskedFor x)
    (hsignal : x.cntrl.tests = none → env.signal = signal)
    (hopen : (negotiateIndividualTest ServingEnd.answer ctx env x sid recvPort).sess.line.Open)
    (hclear : Untroubled signal
      (negotiateIndividualTest ServingEnd.answer ctx env x sid recvPort).sess.answers) :
    let r := negotiateIndividualTest ServingEnd.answer ctx env x sid recvPort
    Marked ctx.table r.sid r.sess ∧
      (r.ok = true → r.sess.cntrl.tests ≠ none ∧ AskedFor r.sess) := by
  obtain ⟨-, hline, hanswers, -⟩ := negotiateIndividualTest_sess ServingEnd.answer ctx env x sid
    recvPort
  rw [hline] at hopen
  rw [hanswers, request_answers] at hclear
  have hkeeps : Kept (env.send.request ctx).tools sid x := h.toKept
  have hkept := hkeeps.request hopen
  have hspec := hkeeps.request_spec hopen
  have hcntrl := request_cntrl x (env.send.request ctx) recvPort sid
  have hlist := request_answers x (env.send.request ctx) recvPort sid
  have hmark : (x.request ServingEnd.answer (env.send.request ctx) recvPort sid).1.sessionRequested =
      x.sessionRequested := rfl
  unfold negotiateIndividualTest
  dsimp only
  generalize x.request ServingEnd.answer (env.send.request ctx) recvPort sid = asked at *
  obtain ⟨x', r⟩ := asked
  dsimp only at hclear hkept hspec hcntrl hlist hmark ⊢
  have hidle : x.cntrl.tests = none → r.conn.tests = none → Marked ctx.table r.sid x' := by
    intro hbefore hafter
    refine ⟨hkept, ?_⟩
    rw [hmark, h.mark, hcntrl, hbefore, hafter]
  have hlater : x.cntrl.tests ≠ none → x.answers ≠ [] := fun hupdate hnil =>
    hupdate (hasked.1 hnil)
  cases hspec with
  | unsent new answer tests granted same =>
    rw [granted]
    exact ⟨hidle new tests, fun h => (by cases h)⟩
  | denied a ha availTime answer tests granted same =>
    rw [granted]
    change r.answer x.time = _ at answer
    rw [answer] at hclear
    have hnew : x.cntrl.tests = none := by
      by_contra hupdate
      exact ha (hclear.update (hlater hupdate)).1
    exact ⟨hidle hnew tests, fun h => (by cases h)⟩
  | cancelled a update time answer tests granted same =>
    change r.answer x.time = _ at answer
    rw [answer] at hclear
    exact absurd time (hclear.update (hlater update)).2
  | granted s again answer tests granted =>
    change r.answer x.time = _ at answer
    rw [answer] at hclear hlist
    have hsome : x'.cntrl.tests.isSome = true := by
      rw [hcntrl, tests]
      rfl
    have hmarked : Marked ctx.table r.sid { x' with sessionRequested := true } :=
      ⟨⟨hkept.line, hkept.speaks, hkept.session⟩, hsome.symm⟩
    rw [granted, if_neg (show ¬ (!true) = true by simp)]
    split
    · rename_i hcaught
      refine ⟨⟨hkept, ?_⟩, fun h => (by cases h)⟩
      rw [hmark, h.mark, hsome, Option.isSome_iff_ne_none]
      intro hnew
      rw [hasked.2 hnew] at hclear
      rw [← hsignal hnew, hcaught] at hclear
      exact absurd (hclear.first _ rfl rfl) (by simp)
    split
    · exact ⟨hmarked, fun h => (by cases h)⟩
    · refine ⟨hmarked.setTime _, fun _ => ⟨Option.isSome_iff_ne_none.1 hsome, ?_⟩⟩
      refine ⟨fun hnil => ?_, fun hnone => ?_⟩
      · change x'.answers = [] at hnil
        rw [hlist] at hnil
        exact absurd hnil (by simp)
      · exact absurd hnone (Option.isSome_iff_ne_none.1 hsome)

theorem negotiateIndividualTest_open
    (hopen : (negotiateIndividualTest ServingEnd.answer ctx env x sid recvPort).sess.line.Open) :
    x.line.Open := by
  rw [(negotiateIndividualTest_sess ServingEnd.answer ctx env x sid recvPort).2.1] at hopen
  exact request_open x (env.send.request ctx) recvPort sid hopen

/-- An update, and a request of the client's side, is for the SID there is. -/
theorem negotiateIndividualTest_sid (h : Marked ctx.table sid x)
    (hopen : (negotiateIndividualTest ServingEnd.answer ctx env x sid recvPort).sess.line.Open)
    (hask : x.isClient = true ∨ x.cntrl.tests ≠ none) :
    (negotiateIndividualTest ServingEnd.answer ctx env x sid recvPort).sid = sid := by
  obtain ⟨hsid, hline, -⟩ := negotiateIndividualTest_sess ServingEnd.answer ctx env x sid recvPort
  rw [hline] at hopen
  rw [hsid]
  have hkeeps : Kept (env.send.request ctx).tools sid x := h.toKept
  exact hkeeps.request_sid hopen hask

end Individual

/-! ## A round -/

/-- **The marks of both sides are right**, for one SID. -/
structure Coherent (tools : ToolTable) (n : Negotiation ServingEnd) : Prop where
  server : Marked tools n.sid n.server
  client : Marked tools n.sid n.client
  role : n.client.isClient = true

/-- A side that holds a reservation. -/
def Reserved (x : IpSess ServingEnd) : Prop := x.cntrl.tests ≠ none ∧ AskedFor x

/-- A side that was asked for nothing. -/
def Unasked (x : IpSess ServingEnd) : Prop := x.cntrl.tests = none ∧ AskedFor x

/-- Both sides hold a reservation, or none was asked for one. -/
def InStep (n : Negotiation ServingEnd) : Prop :=
  Unasked n.server ∧ Unasked n.client ∨ Reserved n.server ∧ Reserved n.client

section Round

variable {app : Application} {n : Negotiation ServingEnd} {signal : Bool}

theorem askServer_coherent {env : CallEnv} (h : Coherent app.ctx.table n) (hstep : InStep n)
    (hsignal : n.server.cntrl.tests = none → env.signal = signal)
    (hopen : (askServer ServingEnd.answer app env n).2.server.line.Open)
    (hclear : Untroubled signal (askServer ServingEnd.answer app env n).2.server.answers) :
    Coherent app.ctx.table (askServer ServingEnd.answer app env n).2 ∧
      ((askServer ServingEnd.answer app env n).1 = true →
        Reserved (askServer ServingEnd.answer app env n).2.server) := by
  have hserver := h.server.setTime n.reqTime
  have hasked : AskedFor (n.server.setTime n.reqTime) := hstep.elim (·.1.2) (·.1.2)
  obtain ⟨hmarked, hgranted⟩ := negotiateIndividualTest_marked hserver hasked hsignal hopen hclear
  have hclient : Marked app.ctx.table (askServer ServingEnd.answer app env n).2.sid n.client := by
    rcases hstep with ⟨-, hidle⟩ | ⟨hheld, -⟩
    · exact h.client.of_idle hidle.1
    · have hsid := negotiateIndividualTest_sid hserver hopen (Or.inr hheld.1)
      change Marked _ (negotiateIndividualTest _ _ _ _ _ _).sid _
      rw [hsid]
      exact h.client
  refine ⟨⟨hmarked, hclient, h.role⟩, fun hok => ?_⟩
  exact hgranted (Bool.and_eq_true_iff.1 hok).1

theorem askClient_coherent {env : CallEnv} (h : Coherent app.ctx.table n)
    (hasked : AskedFor n.client) (hsignal : n.client.cntrl.tests = none → env.signal = signal)
    (hopen : (askClient ServingEnd.answer app env n).2.client.line.Open)
    (hclear : Untroubled signal (askClient ServingEnd.answer app env n).2.client.answers) :
    Coherent app.ctx.table (askClient ServingEnd.answer app env n).2 ∧
      ((askClient ServingEnd.answer app env n).1 = true →
        Reserved (askClient ServingEnd.answer app env n).2.client) := by
  have hclient := h.client.setTime n.reqTime
  have hasked' : AskedFor (n.client.setTime n.reqTime) := hasked
  obtain ⟨hmarked, hgranted⟩ := negotiateIndividualTest_marked hclient hasked' hsignal hopen hclear
  have hsid := negotiateIndividualTest_sid hclient hopen (Or.inl h.role)
  have hserver : Marked app.ctx.table (askClient ServingEnd.answer app env n).2.sid n.server := by
    change Marked _ (negotiateIndividualTest _ _ _ _ _ _).sid _
    rw [hsid]
    exact h.server
  have hrole : (askClient ServingEnd.answer app env n).2.client.isClient = true :=
    (negotiateIndividualTest_sess ServingEnd.answer app.ctx env (n.client.setTime n.reqTime) n.sid
      (app.clientPort n.client.tspec n.recvPort)).2.2.2.trans h.role
  refine ⟨⟨hserver, hmarked, hrole⟩, fun hok => ?_⟩
  exact hgranted (Bool.and_eq_true_iff.1 hok).1

theorem askServer_open {env : CallEnv}
    (hopen : (askServer ServingEnd.answer app env n).2.server.line.Open) : n.server.line.Open :=
  negotiateIndividualTest_open (x := n.server.setTime n.reqTime) hopen

theorem askClient_open {env : CallEnv}
    (hopen : (askClient ServingEnd.answer app env n).2.client.line.Open) : n.client.line.Open :=
  negotiateIndividualTest_open (x := n.client.setTime n.reqTime) hopen

theorem compare_snd (n : Negotiation ServingEnd) : n.compare.2 = n := by
  unfold Negotiation.compare
  split <;> rfl

/-- A round asks the server's side, and the client's side if there is a need. -/
theorem negotiateRound_cases {answer : ServingEnd → List Block → ServingEnd × Wire}
    {env : RoundEnv} {e : RoundEnd} {n' n₁ n₂ : Negotiation ServingEnd} {ok ok' : Bool}
    (hround : negotiateRound answer app env n = (e, n'))
    (hserver : askServer answer app env.server n = (ok, n₁))
    (hclient : askClient answer app env.client n₁ = (ok', n₂)) :
    (ok = false ∧ e = .failed ∧ n' = n₁) ∨
      (ok = true ∧ n.client.sessionRequested = true ∧ n' = n₁) ∨
      (ok = true ∧ n' = n₂ ∧ (ok' = false → e = .failed)) := by
  have hkeeps : n₁.client = n.client := by
    rw [show n₁ = (askServer answer app env.server n).2 by rw [hserver]]
    rfl
  unfold negotiateRound at hround
  rw [hserver] at hround
  dsimp only at hround
  cases ok with
  | false =>
    obtain ⟨rfl, rfl⟩ := Prod.mk.inj hround
    exact Or.inl ⟨rfl, rfl, rfl⟩
  | true =>
    simp only [Bool.not_true, Bool.false_eq_true, if_false] at hround
    rw [hclient] at hround
    split at hround
    · right
      right
      cases ok' with
      | false =>
        obtain ⟨rfl, rfl⟩ := Prod.mk.inj hround
        exact ⟨rfl, rfl, fun _ => rfl⟩
      | true =>
        have hsame := congrArg Prod.snd hround
        exact ⟨rfl, hsame.symm.trans (compare_snd n₂), fun h => (by cases h)⟩
    · rename_i hkeep
      rw [not_or, Bool.not_eq_true', Bool.not_eq_false, hkeeps] at hkeep
      have hsame := congrArg Prod.snd hround
      exact Or.inr (Or.inl ⟨rfl, hkeep.1, hsame.symm.trans (compare_snd n₁)⟩)

/-- **A round without trouble** keeps the marks right. -/
theorem negotiateRound_coherent {env : RoundEnv} {signal' : Bool} (h : Coherent app.ctx.table n)
    (hstep : InStep n) (hsignal : n.server.cntrl.tests = none → env.server.signal = signal)
    (hsignal' : n.client.cntrl.tests = none → env.client.signal = signal')
    {e : RoundEnd} {n' : Negotiation ServingEnd}
    (hround : negotiateRound ServingEnd.answer app env n = (e, n'))
    (hopen : n'.server.line.Open ∧ n'.client.line.Open)
    (hclear : Untroubled signal n'.server.answers) (hclear' : Untroubled signal' n'.client.answers) :
    Coherent app.ctx.table n' ∧ (e ≠ .failed → Reserved n'.server ∧ Reserved n'.client) := by
  have hclient : AskedFor n.client := hstep.elim (·.2.2) (·.2.2)
  have hasked := askServer_coherent h hstep hsignal
  have hkeeps : (askServer ServingEnd.answer app env.server n).2.client = n.client := rfl
  generalize hserver : askServer ServingEnd.answer app env.server n = r at hasked hkeeps
  obtain ⟨ok, n₁⟩ := r
  have hanswer := @askClient_coherent app n₁ signal' env.client
  have hkeeps' : (askClient ServingEnd.answer app env.client n₁).2.server = n₁.server := rfl
  generalize hclient' : askClient ServingEnd.answer app env.client n₁ = r' at hanswer hkeeps'
  obtain ⟨ok', n₂⟩ := r'
  dsimp only at hasked hkeeps hanswer hkeeps'
  obtain ⟨-, rfl, rfl⟩ | ⟨hok, hmark, rfl⟩ | ⟨hok, rfl, hfailed⟩ :=
    negotiateRound_cases hround hserver hclient'
  · exact ⟨(hasked hopen.1 hclear).1, fun hne => absurd rfl hne⟩
  · obtain ⟨hcoherent, hheld⟩ := hasked hopen.1 hclear
    refine ⟨hcoherent, fun _ => ⟨hheld hok, ?_⟩⟩
    rw [hkeeps]
    refine ⟨?_, hclient⟩
    rw [h.client.mark, Option.isSome_iff_ne_none] at hmark
    exact hmark
  · rw [hkeeps'] at hopen hclear ⊢
    obtain ⟨hcoherent, hheld⟩ := hasked hopen.1 hclear
    rw [← hkeeps] at hclient hsignal'
    obtain ⟨hcoherent', hheld'⟩ := hanswer hcoherent hclient hsignal' hopen.2 hclear'
    refine ⟨hcoherent', fun hne => ⟨hheld hok, hheld' ?_⟩⟩
    by_contra hrefused
    exact hne (hfailed (Bool.not_eq_true _ ▸ hrefused))

/-- **Lines that work behind a round** have worked before it. -/
theorem negotiateRound_open {env : RoundEnv} {e : RoundEnd} {n' : Negotiation ServingEnd}
    (hround : negotiateRound ServingEnd.answer app env n = (e, n'))
    (hopen : n'.server.line.Open ∧ n'.client.line.Open) :
    n.server.line.Open ∧ n.client.line.Open := by
  have hasked := @askServer_open app n env.server
  have hkeeps : (askServer ServingEnd.answer app env.server n).2.client = n.client := rfl
  generalize hserver : askServer ServingEnd.answer app env.server n = r at hasked hkeeps
  obtain ⟨ok, n₁⟩ := r
  have hasked' := @askClient_open app n₁ env.client
  have hkeeps' : (askClient ServingEnd.answer app env.client n₁).2.server = n₁.server := rfl
  generalize hclient : askClient ServingEnd.answer app env.client n₁ = r' at hasked' hkeeps'
  obtain ⟨ok', n₂⟩ := r'
  dsimp only at hasked hkeeps hasked' hkeeps'
  rw [hkeeps] at hasked'
  obtain ⟨-, -, rfl⟩ | ⟨-, -, rfl⟩ | ⟨-, rfl, -⟩ := negotiateRound_cases hround hserver hclient
  · exact ⟨hasked hopen.1, hkeeps ▸ hopen.2⟩
  · exact ⟨hasked hopen.1, hkeeps ▸ hopen.2⟩
  · exact ⟨hasked (hkeeps' ▸ hopen.1), hasked' hopen.2⟩

/-! ## The loop -/

variable {env : Nat → RoundEnv}

/-- **Every run without trouble** keeps the marks right; behind the first round both sides hold
    reservations as long as it goes on. -/
theorem negotiateRounds_coherent (h : Coherent app.ctx.table n)
    (hstart : Unasked n.server ∧ Unasked n.client) {k : Nat} {e : RoundEnd}
    {n' : Negotiation ServingEnd}
    (hrounds : negotiateRounds ServingEnd.answer app env n k = (e, n'))
    (hopen : n'.server.line.Open ∧ n'.client.line.Open)
    (hclear : Untroubled (env 0).server.signal n'.server.answers)
    (hclear' : Untroubled (env 0).client.signal n'.client.answers) :
    Coherent app.ctx.table n' ∧
      (e ≠ .failed → k = 0 ∧ n' = n ∨ Reserved n'.server ∧ Reserved n'.client) := by
  induction k generalizing e n' with
  | zero =>
    cases hrounds
    exact ⟨h, fun _ => Or.inl ⟨rfl, rfl⟩⟩
  | succ k ih =>
    by_cases hagain : (negotiateRounds ServingEnd.answer app env n k).1 = .again
    · rw [negotiateRounds_succ hagain] at hrounds
      generalize hbefore : negotiateRounds ServingEnd.answer app env n k = r at hagain hrounds ih
      obtain ⟨e', m⟩ := r
      cases hagain
      have hanswers := negotiateRound_answers ServingEnd.answer app (env k) m
      rw [hrounds] at hanswers
      obtain ⟨hcoherent, hgoing⟩ := ih rfl (negotiateRound_open hrounds hopen)
        (hclear.of_prefix hanswers.1) (hclear'.of_prefix hanswers.2)
      have hstep : InStep m := by
        rcases hgoing (by simp) with ⟨-, rfl⟩ | hheld
        · exact Or.inl hstart
        · exact Or.inr hheld
      have hfirst : m.server.cntrl.tests = none ∨ m.client.cntrl.tests = none → k = 0 := by
        intro hnone
        rcases hgoing (by simp) with ⟨hzero, -⟩ | ⟨hserver, hclient⟩
        · exact hzero
        · rcases hnone with hnone | hnone
          · exact absurd hnone hserver.1
          · exact absurd hnone hclient.1
      obtain ⟨hcoherent', hheld⟩ := negotiateRound_coherent hcoherent hstep
        (fun hnone => by rw [hfirst (Or.inl hnone)]) (fun hnone => by rw [hfirst (Or.inr hnone)])
        hrounds hopen hclear hclear'
      exact ⟨hcoherent', fun hne => Or.inr (hheld hne)⟩
    · rw [negotiateRounds_stopped hagain] at hrounds
      obtain ⟨hcoherent, hgoing⟩ := ih hrounds hopen hclear hclear'
      refine ⟨hcoherent, fun hne => Or.inr ?_⟩
      rcases hgoing hne with ⟨rfl, -⟩ | hheld
      · exact absurd rfl hagain
      · exact hheld

end Round

/-! ## The clean-up -/

/-- The clean-up asks for nothing new: `BWLSessionRequest` is called for a connection with a session,
    and with its SID. -/
structure CancelsOnly (n : Negotiation ServingEnd) : Prop where
  client : n.client.sessionRequested = true → ∃ s, n.client.cntrl.tests = some s ∧ s.sid = n.sid
  server : n.server.sessionRequested = true → ∃ s, n.server.cntrl.tests = some s ∧ s.sid = n.sid

theorem Marked.reserved {tools : ToolTable} {sid : SID} {x : IpSess ServingEnd}
    (h : Marked tools sid x) (hmark : x.sessionRequested = true) :
    ∃ s, x.cntrl.tests = some s ∧ s.sid = sid := by
  rw [h.mark] at hmark
  obtain ⟨s, hs⟩ := Option.isSome_iff_exists.1 hmark
  exact ⟨s, hs, (h.session s hs).1⟩

/-- **A marked session is cancelled**, one without a mark has nothing reserved. -/
theorem cancelRequested_clears {ctx : ToolContext} {env : SendEnv} {x : IpSess ServingEnd}
    {sid : SID} {recvPort : UInt16} (h : Marked ctx.table sid x)
    (hopen : (cancelRequested ServingEnd.answer ctx env x sid recvPort).1.line.Open) :
    (cancelRequested ServingEnd.answer ctx env x sid recvPort).1.daemon.child.conn.tests = none ∧
      (cancelRequested ServingEnd.answer ctx env x sid recvPort).2.1 = sid := by
  unfold cancelRequested at hopen ⊢
  split at hopen
  · rename_i hmark
    rw [if_pos hmark]
    obtain ⟨s, hs, -⟩ := h.reserved hmark
    have hkept : Kept (env.request ctx).tools sid (x.setTime 0) := h.toKept.setTime 0
    have hafter := hkept.request hopen
    have hsid := hkept.request_sid hopen
      (Or.inr (by rw [show (x.setTime 0).cntrl.tests = some s from hs]; simp))
    have hcntrl := request_cntrl (x.setTime 0) (env.request ctx) recvPort sid
    refine ⟨hafter.daemon_tests ?_, hsid⟩
    rw [hcntrl]
    cases hkept.request_spec hopen with
    | unsent new answer tests => exact tests
    | denied a ha availTime answer tests => exact tests
    | cancelled a update time answer tests => exact tests
    | granted s' asked =>
      rcases asked with hnew | htime
      · rw [show (x.setTime 0).cntrl.tests = some s from hs] at hnew
        cases hnew
      · exact absurd rfl htime
  · rename_i hmark
    rw [if_neg hmark]
    refine ⟨h.daemon_tests ?_, rfl⟩
    rw [h.mark] at hmark
    simpa using hmark

/-- **The clean-up cancels what is reserved**, if the marks are right. -/
theorem cleanUp_clears {ctx : ToolContext} {client server : SendEnv} {n : Negotiation ServingEnd}
    (h : Coherent ctx.table n)
    (hopen : (cleanUp ServingEnd.answer ctx client server n).server.line.Open ∧
      (cleanUp ServingEnd.answer ctx client server n).client.line.Open) :
    (cleanUp ServingEnd.answer ctx client server n).server.daemon.child.conn.tests = none ∧
      (cleanUp ServingEnd.answer ctx client server n).client.daemon.child.conn.tests = none := by
  unfold cleanUp at hopen ⊢
  dsimp only at hopen ⊢
  obtain ⟨hclient, hsid⟩ := cancelRequested_clears h.client hopen.2
  refine ⟨?_, hclient⟩
  have hserver := h.server
  rw [← hsid] at hserver
  exact (cancelRequested_clears hserver hopen.1).1

theorem cleanUp_open {ctx : ToolContext} {client server : SendEnv} {n : Negotiation ServingEnd}
    (hopen : (cleanUp ServingEnd.answer ctx client server n).server.line.Open ∧
      (cleanUp ServingEnd.answer ctx client server n).client.line.Open) :
    n.server.line.Open ∧ n.client.line.Open := by
  have hcancel : ∀ {env : SendEnv} {x : IpSess ServingEnd} {sid : SID} {recvPort : UInt16},
      (cancelRequested ServingEnd.answer ctx env x sid recvPort).1.line.Open → x.line.Open := by
    intro env x sid recvPort h
    unfold cancelRequested at h
    split at h
    · exact request_open (x.setTime 0) (env.request ctx) recvPort sid h
    · exact h
  exact ⟨hcancel hopen.1, hcancel hopen.2⟩

/-! ## The whole negotiation -/

/-- Where `negotiate_test` goes to `error_exit` within `k` rounds. -/
def errorExit (app : Application) (env : NegotiationEnv) (server client : IpSess ServingEnd)
    (testOptions : BWLTestSpec) (k : Nat) : Option (Negotiation ServingEnd) :=
  match prepareNegotiation app env server client testOptions with
  | (_, none) => some ⟨server, client, env.garbage, 0, 0⟩
  | (_, some n) =>
    match negotiateRounds ServingEnd.answer app env.rounds n k with
    | (.failed, n) => some n
    | _ => none

/-- A session behind the handshake: both ends of its connection are at the same point, and nothing
    is reserved. -/
structure Connected (x : IpSess ServingEnd) : Prop where
  line : LineInv x.line
  idle : x.cntrl.tests = none

/-- **A negotiation that keeps clear of the slips.**  A daemon whose hook refuses with a severity in
    between answers `ACCEPT`; marks of an earlier test are used if there is no request. -/
structure CleanNegotiation (app : Application) (env : NegotiationEnv)
    (server client : IpSess ServingEnd) (testOptions : BWLTestSpec) (k : Nat) : Prop where
  serverHook : server.daemon.Outspoken
  clientHook : client.daemon.Outspoken
  unmarked : (prepareNegotiation app env server client testOptions).2 = none →
    server.sessionRequested = false ∧ client.sessionRequested = false
  requests : ∀ n, loopState ServingEnd.answer app env server client testOptions k = some n →
    Untroubled (env.rounds 0).server.signal n.server.answers ∧
      Untroubled (env.rounds 0).client.signal n.client.answers

theorem Connected.marked {x : IpSess ServingEnd} (h : Connected x) (hspeaks : x.daemon.Outspoken)
    (hmark : x.sessionRequested = false) (tools : ToolTable) (sid : SID) : Marked tools sid x := by
  refine ⟨⟨h.line, hspeaks, fun s hs => ?_⟩, ?_⟩
  · rw [h.idle] at hs
    cases hs
  · rw [hmark, h.idle]
    rfl

theorem prepared_start {app : Application} {env : NegotiationEnv}
    {server client : IpSess ServingEnd} {testOptions testOptions' : BWLTestSpec}
    {n : Negotiation ServingEnd} (hserver : Connected server) (hclient : Connected client)
    (hrole : client.isClient = true) (hserverHook : server.daemon.Outspoken)
    (hclientHook : client.daemon.Outspoken)
    (h : prepareNegotiation app env server client testOptions = (testOptions', some n)) :
    Coherent app.ctx.table n ∧ Unasked n.server ∧ Unasked n.client := by
  unfold prepareNegotiation at h
  dsimp only at h
  split at h
  · cases h
  · cases h
    have hmarked : ∀ (x : IpSess ServingEnd) (testSpec : BWLTestSpec) (oneSided : Bool)
        (hostTime : BWLTimeStamp), Connected x → x.daemon.Outspoken →
        Marked app.ctx.table (Vector.replicate 16 0) (x.prepared testSpec oneSided hostTime) ∧
          Unasked (x.prepared testSpec oneSided hostTime) := by
      intro x testSpec oneSided hostTime hx hspeaks
      have hconnected : Connected (x.prepared testSpec oneSided hostTime) := ⟨hx.line, hx.idle⟩
      exact ⟨hconnected.marked hspeaks rfl _ _, hx.idle, fun _ => hx.idle, fun _ => rfl⟩
    obtain ⟨hs, hsidle⟩ := hmarked server _ _ _ hserver hserverHook
    obtain ⟨hc, hcidle⟩ := hmarked client _ _ _ hclient hclientHook
    exact ⟨⟨hs, hc, hrole⟩, hsidle, hcidle⟩

/-- **A failed negotiation leaves no reservation behind** if it keeps clear of the slips and both
    control connections still work: no daemon holds a session, and the clean-up has asked for
    nothing new. -/
theorem failed_negotiation_clears (app : Application) (env : NegotiationEnv)
    (server client : IpSess ServingEnd) (testOptions : BWLTestSpec) (hserver : Connected server)
    (hclient : Connected client) (hrole : client.isClient = true) {k : Nat}
    {r : NegotiationResult ServingEnd}
    (h : negotiateTest ServingEnd.answer app env server client testOptions k = some r)
    (hfail : r.ok = false)
    (hopen : r.negotiation.server.line.Open ∧ r.negotiation.client.line.Open)
    (hclean : CleanNegotiation app env server client testOptions k) :
    r.negotiation.server.daemon.child.conn.tests = none ∧
      r.negotiation.client.daemon.child.conn.tests = none ∧
      ∃ n, errorExit app env server client testOptions k = some n ∧ CancelsOnly n ∧
        r.negotiation = cleanUp ServingEnd.answer app.ctx env.cancelClient env.cancelServer n := by
  obtain ⟨hserverHook, hclientHook, hunmarked, hrequests⟩ := hclean
  suffices hexit : ∀ n, Coherent app.ctx.table n →
      r.negotiation = cleanUp ServingEnd.answer app.ctx env.cancelClient env.cancelServer n →
      r.negotiation.server.daemon.child.conn.tests = none ∧
        r.negotiation.client.daemon.child.conn.tests = none ∧ CancelsOnly n by
    unfold negotiateTest at h
    unfold errorExit
    unfold loopState at hrequests
    cases hprepare : prepareNegotiation app env server client testOptions with
    | mk testOptions' start =>
      rw [hprepare] at h hunmarked hrequests
      cases start with
      | none =>
        cases h
        obtain ⟨hserverMark, hclientMark⟩ := hunmarked rfl
        obtain ⟨h1, h2, h3⟩ := hexit ⟨server, client, env.garbage, 0, 0⟩
          ⟨hserver.marked hserverHook hserverMark _ _, hclient.marked hclientHook hclientMark _ _,
            hrole⟩ rfl
        exact ⟨h1, h2, _, rfl, h3, rfl⟩
      | some start =>
        dsimp only at h ⊢
        generalize hrounds : negotiateRounds ServingEnd.answer app env.rounds start k = rounds at h ⊢
        obtain ⟨e, n⟩ := rounds
        cases e with
        | again => cases h
        | agreed =>
          cases h
          cases hfail
        | failed =>
          cases h
          obtain ⟨hcoherent, hstart⟩ := prepared_start hserver hclient hrole hserverHook hclientHook
            hprepare
          obtain ⟨hclear, hclear'⟩ := hrequests n (by rw [Option.map_some, hrounds])
          have hbefore := cleanUp_open hopen
          obtain ⟨h1, h2, h3⟩ := hexit n
            (negotiateRounds_coherent hcoherent hstart hrounds hbefore hclear hclear').1 rfl
          exact ⟨h1, h2, n, rfl, h3, rfl⟩
  intro n hcoherent hresult
  rw [hresult] at hopen ⊢
  obtain ⟨h1, h2⟩ := cleanUp_clears hcoherent hopen
  exact ⟨h1, h2, hcoherent.client.reserved, hcoherent.server.reserved⟩

/-! ## Two daemons that decide what they are told to -/

/-- A daemon whose hook grants one time after the other, or refuses. -/
def decidingEnv (decision : Option Num64) : LoopEnv :=
  { servingEnv with
    request := { grantingEnv with
      checkTestPolicy := fun s =>
        ⟨decision.isSome, .ok, s.testSpec, decision.getD 0, s.toolPort⟩ } }

/-- A session behind the handshake with such a daemon. -/
def decidedSession (isClient : Bool) (decisions : List (Option Num64)) : IpSess ServingEnd where
  isClient := isClient
  isLocal := false
  fakeDaemon := false
  availTools := BWL_TOOL_NUTTCP
  rttbound := 0
  hostTime := ⟨0, true, 1, 0⟩
  cntrl := freshLine.client
  tspec := .zero
  sessionRequested := false
  wire := []
  daemon := ⟨freshLine.server, fun k => decidingEnv (decisions.getD k none)⟩
  answers := []

/-- What a negotiation of at most `k` rounds between such daemons comes to. -/
def decidedTest (server client : List (Option Num64)) (k : Nat) :
    Option (NegotiationResult ServingEnd) :=
  negotiateTest ServingEnd.answer throughputApp calmEnv (decidedSession false server)
    (decidedSession true client) pacedTcp k

theorem decidedSession_connected (isClient : Bool) (decisions : List (Option Num64)) :
    Connected (decidedSession isClient decisions) ∧
      (decidedSession isClient decisions).daemon.Outspoken :=
  ⟨⟨LineInv.init _ _ _, rfl⟩, fun _ _ => Or.inr (Or.inr rfl)⟩

theorem failed_negotiation_clears_one : ∃ r, decidedTest [some secondTwo] [none] 1 = some r ∧
    r.negotiation.server.daemon.child.conn.tests = none := by
  have hrun : (decidedTest [some secondTwo] [none] 1).any (fun r => !r.ok &&
      decide r.negotiation.server.line.Open && decide r.negotiation.client.line.Open) = true := by
    decide +kernel
  have hloop : (loopState ServingEnd.answer throughputApp calmEnv
      (decidedSession false [some secondTwo]) (decidedSession true [none]) pacedTcp 1).all
      (fun n => n.server.answers.tail = [] && n.client.answers.tail = []) = true := by
    decide +kernel
  obtain ⟨r, hr, hall⟩ := (Option.any_eq_true _ _).1 hrun
  simp only [Bool.and_eq_true, Bool.not_eq_true', decide_eq_true_eq] at hall
  obtain ⟨⟨hfail, hserver⟩, hclient⟩ := hall
  have hfirst : ∀ answers : List RequestAnswer, answers.tail = [] → Untroubled false answers := by
    intro answers htail
    refine ⟨fun a _ _ => rfl, fun a ha => ?_⟩
    rw [htail] at ha
    cases ha
  obtain ⟨hserver', hserverHook⟩ := decidedSession_connected false [some secondTwo]
  obtain ⟨hclient', hclientHook⟩ := decidedSession_connected true [none]
  refine ⟨r, hr, (failed_negotiation_clears throughputApp calmEnv
    (decidedSession false [some secondTwo]) (decidedSession true [none]) pacedTcp hserver' hclient'
    rfl hr hfail ⟨hserver, hclient⟩ ⟨hserverHook, hclientHook, fun _ => ⟨rfl, rfl⟩, ?_⟩).1⟩
  intro n hn
  rw [hn, Option.all_some, Bool.and_eq_true, decide_eq_true_eq, decide_eq_true_eq] at hloop
  exact ⟨hfirst _ hloop.1, hfirst _ hloop.2⟩

/-- A signal that arrives while the server's side is asked for the first time. -/
def interruptedEnv : NegotiationEnv :=
  { calmEnv with
    rounds := fun _ =>
      ⟨⟨calmEnv.calmSend, true, false⟩, ⟨calmEnv.calmSend, false, false⟩⟩ }

/-- The granted reservation is not marked, and the clean-up leaves it. -/
theorem reservation_left_behind : ∃ r,
    negotiateTest ServingEnd.answer throughputApp interruptedEnv
      (decidedSession false [some secondTwo]) (decidedSession true []) pacedTcp 1 = some r ∧
    r.ok = false ∧ r.negotiation.server.line.Open ∧ r.negotiation.client.line.Open ∧
    ∃ s, r.negotiation.server.daemon.child.conn.tests = some s ∧ s.reserveTime = secondTwo := by
  have hrun : (negotiateTest ServingEnd.answer throughputApp interruptedEnv
      (decidedSession false [some secondTwo]) (decidedSession true []) pacedTcp 1).any (fun r =>
        !r.ok && decide r.negotiation.server.line.Open && decide r.negotiation.client.line.Open &&
        r.negotiation.server.daemon.child.conn.tests.any (·.reserveTime = secondTwo)) = true := by
    decide +kernel
  obtain ⟨r, hr, hall⟩ := (Option.any_eq_true _ _).1 hrun
  simp only [Bool.and_eq_true, Bool.not_eq_true', decide_eq_true_eq] at hall
  obtain ⟨⟨⟨hfail, hserver⟩, hclient⟩, hsession⟩ := hall
  obtain ⟨s, hs, htime⟩ := (Option.any_eq_true _ _).1 hsession
  exact ⟨r, hr, hfail, hserver, hclient, s, hs, of_decide_eq_true htime⟩

end Bwctl
