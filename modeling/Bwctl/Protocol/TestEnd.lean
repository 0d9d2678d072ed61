import Bwctl.Protocol.Results
import Bwctl.Protocol.Client

/-!
# How a test ended

One side sends a StopSession with its accept value, the other answers with one of its own.  The
side that answers returns the value it decided on, and so does `BWLEndSession`, which reads it.
`BWLStopSession` reads it into the interrupt flag of its caller and returns its own value.

* `readStop_value` — the value a StopSession is read with is the one it was sent with.
* `stopSession_completed`, `endSession_completed`, `answerStop_completed` — what a call that
  completes has sent and read.
* `same_end_iff` — exactly when both sides return the value of the answer.
-/

set_option autoImplicit false

namespace Bwctl

open Octets

/-! ## The value of a message -/

/-- The accept value of a StopSession. -/
def messageValue (out : List Block) : AcceptType := getAcceptType ((flatten out).getD 1 0)

/-- The octets of the message buffer after a block was read into its front. -/
theorem byte_receive_front (c : Conn) (block : Block) {i : Nat} (hi : i < 16) :
    byte (c.receive 0 [block]).msg i = block.toList.getD i 0 := by
  have hflat : flatten [block] = block.toList := List.append_nil _
  unfold Conn.receive
  rw [hflat, byte_store, Vector.length_toList, if_pos ⟨by omega, by omega, by omega⟩,
    Nat.sub_zero]

/-- What a StopSession is read with: its own value. -/
theorem readStopSession_value {c : Conn} {w : Wire} {file : Option ResultFile}
    (h : (readStopSession c w file).err = .ok) :
    (readStopSession c w file).acceptval = some (getAcceptType (byte c.msg 1)) := by
  unfold readStopSession at h ⊢
  split at h
  · cases h
  rename_i hstate
  rw [if_neg hstate]
  generalize w.recv 1 = read at h ⊢
  obtain ⟨(_ | ⟨block, _ | ⟨second, rest⟩⟩) | _ | (_ | _), w'⟩ := read
  · cases h
  · have hbyte : byte (c.receive 16 [block]).msg 1 = byte c.msg 1 :=
      byte_store_of_disjoint (Or.inl (by omega))
    dsimp only at h ⊢
    rw [hbyte] at h ⊢
    split at h
    · cases h
    rename_i hpad
    rw [if_neg hpad]
    split at h
    · cases h
    rename_i haval
    rw [if_neg haval]
    split at h
    · cases h
    rename_i hok
    rw [if_neg hok]
  all_goals cases h

theorem readStop_eq (c : Conn) (w : Wire) (file : Option ResultFile) :
    readStop c w file = ((nextRequest c w).2.1,
      readStopSession (nextRequest c w).1 (nextRequest c w).2.2 file) := rfl

/-- **A StopSession is read with the value it was sent with.** -/
theorem readStop_value {c : Conn} {out : List Block} {file : Option ResultFile}
    (hkind : (readStop c (arrive out) file).1 = .stopSession)
    (herr : (readStop c (arrive out) file).2.err = .ok) :
    (readStop c (arrive out) file).2.acceptval = some (messageValue out) := by
  have hnumber : (nextRequest c (arrive out)).2.1.number ≠ none := by
    change (nextRequest c (arrive out)).2.1 = .stopSession at hkind
    rw [hkind]
    decide
  obtain ⟨first, w', htaken⟩ := nextRequest_taken hnumber
  have hvalue : (readStop c (arrive out) file).2.acceptval =
      some (getAcceptType (byte (nextRequest c (arrive out)).1.msg 1)) := readStopSession_value herr
  rw [hvalue, htaken.result]
  cases out with
  | nil => cases htaken.wire
  | cons b out =>
    obtain ⟨hb, -⟩ := List.cons.inj htaken.wire
    obtain rfl := Arrival.block.inj hb
    unfold messageValue
    rw [flatten_cons, List.getD_append _ _ _ _ (by rw [Vector.length_toList]; omega)]
    exact congrArg (some ∘ getAcceptType) (byte_receive_front c b (by omega))

/-- The value a StopSession is sent with. -/
theorem messageValue_sent {c c' : Conn} {sent : StopSent} {a : AcceptType} {fp : Option DataFile}
    {out : List Block} (h : writeStopSession c sent a fp = (c', .ok, out)) :
    messageValue out = (announce a fp).1 := by
  unfold messageValue
  rw [writeStopSession_ok h, flatten_append,
    List.getD_append _ _ _ _ (by rw [length_flatten, length_chunks]; omega),
    getD_flatten_chunks (by omega), (stopHeader c.msg (announce a fp).1 (announce a fp).2).acceptval,
    getAcceptType_octet]

/-- Nothing but a file that cannot be sent changes the value. -/
theorem announce_eq_iff (a : AcceptType) (fp : Option DataFile) :
    (announce a fp).1 = a ↔ a = .failure ∨ Transferable fp := by
  by_cases h : Transferable fp
  · rw [(announce_of_transferable h a).1]
    exact ⟨fun _ => Or.inr h, fun _ => rfl⟩
  · rw [announce_of_not_transferable h a]
    constructor
    · intro heq
      exact Or.inl heq.symm
    · rintro (rfl | hsent)
      · rfl
      · exact absurd hsent h

theorem announce_failure (fp : Option DataFile) : (announce .failure fp).1 = .failure :=
  (announce_eq_iff .failure fp).2 (Or.inl rfl)

/-! ## Calls that complete -/

/-- A side whose endpoint failed has a failure and nothing to send. -/
theorem writeStopSession_valid {c : Conn} {sent : StopSent} {a : AcceptType} {fp : Option DataFile}
    (h : ¬ (writeStopSession c sent a fp).2.1.prio < ErrSeverity.warning.prio) :
    writeStopSession c sent a fp = (c, .ok, (writeStopSession c sent a fp).2.2) := by
  rcases writeStopSession_cases c sent a fp with hfatal | ⟨hok, hsame⟩
  · rw [hfatal] at h
    exact absurd (by decide) h
  · exact Prod.ext hsame (Prod.ext hok rfl)

/-- The endpoint of a side failed when it was stopped. -/
abbrev StopEnv.EndpointFailed (env : StopEnv) (dontKill : Bool) : Prop :=
  (env.stopErr dontKill).prio < ErrSeverity.warning.prio

/-- After an accept the endpoint is waited for and not killed, and cannot fail. -/
theorem StopEnv.endpointFailed_iff (env : StopEnv) (v : AcceptType) :
    env.EndpointFailed (v = .accept) ↔ v ≠ .accept ∧ env.EndpointFailed false := by
  by_cases hv : v = .accept
  · have hwait : ¬ env.EndpointFailed true := by
      unfold EndpointFailed stopErr endpointStop
      rcases env.endpoint with ⟨running, killFails, exits⟩
      cases running <;> cases killFails <;> cases exits <;> decide
    simp [hv, hwait]
  · simp [hv]

/-- What has been sent and read by a side that starts: `own` is its value, `fp` its file. -/
structure Started (c : Conn) (w : Wire) (own : AcceptType) (fp : Option DataFile)
    (out : List Block) (remotefp : Option ResultFile) : Prop where
  written : ∃ sent, writeStopSession c sent own fp = (c, .ok, out)
  kind : (readStop c w remotefp).1 = .stopSession
  read : (readStop c w remotefp).2.err = .ok

/-- **BWLStopSession that completes** returns its own value. -/
theorem stopSession_completed {env : StopEnv} {c : Conn} {w : Wire} {intr : Int} {a : AcceptType}
    (hsession : c.tests ≠ none) (hdone : (stopSession env c w intr a).conn.state ≠ stateInvalid) :
    Started c w (afterStop (a = .accept ∧ env.EndpointFailed false) a
        env.localfp).1
      (afterStop (a = .accept ∧ env.EndpointFailed false) a env.localfp).2
      (stopSession env c w intr a).out env.remotefp ∧
    (stopSession env c w intr a).acceptval =
      (afterStop (a = .accept ∧ env.EndpointFailed false) a env.localfp).1 ∧
    (stopSession env c w intr a).intr =
      (readStop c w env.remotefp).2.acceptval.elim intr (·.code) := by
  unfold stopSession at hdone ⊢
  rw [if_neg (by simpa using hsession)] at hdone ⊢
  dsimp only at hdone ⊢
  split at hdone
  · exact absurd rfl hdone
  rename_i hwritten
  have hwrite := writeStopSession_valid hwritten
  rw [if_neg hwritten]
  rw [hwrite] at hdone ⊢
  dsimp only at hdone ⊢
  split at hdone
  · exact absurd rfl hdone
  rename_i hkind
  rw [if_neg hkind]
  split at hdone
  · exact absurd rfl hdone
  rename_i hread
  rw [if_neg hread]
  exact ⟨⟨⟨env.sent, hwrite⟩, not_not.1 hkind, not_not.1 hread⟩, rfl, rfl⟩

/-- **BWLEndSession that completes** returns the value it read. -/
theorem endSession_completed {sent : StopSent} {fp : Option ResultFile} {freed : ErrSeverity}
    {c : Conn} {w : Wire} {intr : Int} {a : AcceptType}
    (hdone : (endSession sent fp freed c w intr a).conn.state ≠ stateInvalid) :
    Started c w a none (endSession sent fp freed c w intr a).out fp ∧
    (endSession sent fp freed c w intr a).acceptval = (readStop c w fp).2.acceptval.getD a ∧
    (endSession sent fp freed c w intr a).intr = intr := by
  unfold endSession at hdone ⊢
  dsimp only at hdone ⊢
  split at hdone
  · exact absurd rfl hdone
  rename_i hwritten
  have hwrite : writeStopSession c sent a none = (c, .ok, (writeStopSession c sent a none).2.2) := by
    apply writeStopSession_valid
    intro hless
    exact hwritten (Nat.lt_trans hless (by decide))
  rw [if_neg hwritten]
  rw [hwrite] at hdone ⊢
  dsimp only at hdone ⊢
  split at hdone
  · exact absurd rfl hdone
  rename_i hkind
  rw [if_neg hkind]
  split at hdone
  · exact absurd rfl hdone
  rename_i hread
  rw [if_neg hread]
  exact ⟨⟨⟨sent, hwrite⟩, not_not.1 hkind, ErrSeverity.eq_ok hread⟩, rfl, rfl⟩

/-- **The answer to a StopSession that completes**: the message was read, and the value that is
    returned was written. -/
theorem answerStop_completed {env : StopEnv} {c : Conn} {w : Wire} {intr : Int}
    (hdone : (answerStop env c w intr).2.conn.state ≠ stateInvalid) :
    (readStop c w env.remotefp).1 = .stopSession ∧ (readStop c w env.remotefp).2.err = .ok ∧
    ∃ own c', own = afterStop
        (env.EndpointFailed ((readStop c w env.remotefp).2.acceptval.getD .accept = .accept))
        ((readStop c w env.remotefp).2.acceptval.getD .accept) env.localfp ∧
      (answerStop env c w intr).2.acceptval = own.1 ∧ (answerStop env c w intr).2.intr = intr ∧
      writeStopSession c' env.sent own.1 own.2 = (c', .ok, (answerStop env c w intr).2.out) := by
  rw [readStop_eq]
  unfold answerStop at hdone ⊢
  dsimp only at hdone ⊢
  split at hdone
  · exact absurd rfl hdone
  rename_i hkind
  rw [if_neg hkind]
  split at hdone
  · exact absurd rfl hdone
  rename_i hread
  rw [if_neg hread]
  generalize readStopSession _ _ env.remotefp = read at hdone hread ⊢
  generalize afterStop (env.EndpointFailed (read.acceptval.getD .accept = .accept))
    (read.acceptval.getD .accept) env.localfp = own at hdone ⊢
  refine ⟨not_not.1 hkind, not_not.1 hread, own, read.conn, rfl, rfl, rfl, ?_⟩
  rcases writeStopSession_cases read.conn env.sent own.1 own.2 with hfatal | ⟨hok, hsame⟩
  · exfalso
    apply hdone
    rw [Conn.leave_state, Conn.free_state, if_pos (by rw [hfatal]; simp), Conn.fail_state]
    decide
  · exact Prod.ext hsame (Prod.ext hok rfl)

/-! ## Both sides -/

/-- Who starts the exchange. -/
inductive Initiator where
  | stopSession (env : StopEnv)
  | endSession (sent : StopSent) (fp : Option ResultFile) (freed : ErrSeverity)

def Initiator.run (i : Initiator) (c : Conn) (w : Wire) (intr : Int) (a : AcceptType) : StopResult :=
  match i with
  | .stopSession env => Bwctl.stopSession env c w intr a
  | .endSession sent fp freed => Bwctl.endSession sent fp freed c w intr a

/-- **An exchange of StopSession messages that completes**: each side reads what the other one sends,
    and no control connection fails. -/
structure StopExchange (i : Initiator) (c : Conn) (intr : Int) (a : AcceptType) (env : StopEnv)
    (d : Conn) (intr' : Int) (init resp : StopResult) : Prop where
  initRun : i.run c (arrive resp.out) intr a = init
  respRun : (stopSessionWait env .active .readable d (arrive init.out) intr').2 = resp
  session : c.tests ≠ none
  initDone : init.conn.state ≠ stateInvalid
  respDone : resp.conn.state ≠ stateInvalid

/-- **Agreement on the end**: both sides return the value in the answer, and the interrupt flags are
    as they were. -/
structure SameEnd (intr intr' : Int) (init resp : StopResult) : Prop where
  initValue : init.acceptval = messageValue resp.out
  respValue : resp.acceptval = messageValue resp.out
  initIntr : init.intr = intr
  respIntr : resp.intr = intr'

/-- When the two sides agree.  For `BWLStopSession`: it starts with a failure, and the flag happens to
    be the number of that; or neither endpoint fails, both files can be sent and the flag happens to
    be the number of the value.  For `BWLEndSession`: the file of the other side can be sent, or its
    answer is a failure anyway.  The endpoint of the other side can fail only when it is killed, which
    a test that was accepted is not. -/
def Initiator.Agrees (i : Initiator) (intr : Int) (a : AcceptType) (env : StopEnv) : Prop :=
  match i with
  | .stopSession ienv =>
    ((a = .failure ∨ a = .accept ∧ ienv.EndpointFailed false) ∧ intr = AcceptType.failure.code) ∨
      (a ≠ .failure ∧ ¬ (a = .accept ∧ ienv.EndpointFailed false) ∧
        ¬ (a ≠ .accept ∧ env.EndpointFailed false) ∧ Transferable ienv.localfp ∧
        Transferable env.localfp ∧ intr = a.code)
  | .endSession _ _ _ =>
    a = .failure ∨ (a ≠ .accept ∧ env.EndpointFailed false) ∨ Transferable env.localfp

theorem afterStop_of_failed {failed : Prop} [Decidable failed] (h : failed) (v : AcceptType)
    (fp : Option DataFile) : afterStop failed v fp = (.failure, none) := by
  unfold afterStop
  rw [if_pos (by simpa using h)]

theorem afterStop_of_not_failed {failed : Prop} [Decidable failed] (h : ¬ failed) (v : AcceptType)
    (fp : Option DataFile) : afterStop failed v fp = (v, fp) := by
  unfold afterStop
  rw [if_neg (by simpa using h)]

/-- A failure stays one. -/
theorem afterStop_failure (failed : Prop) [Decidable failed] (fp : Option DataFile) :
    (afterStop failed .failure fp).1 = .failure := by
  by_cases h : failed
  · rw [afterStop_of_failed h]
  · rw [afterStop_of_not_failed h]

/-- The side that answers sends the value it returns. -/
theorem answer_kept {env : StopEnv} {v : AcceptType} {own : AcceptType × Option DataFile}
    (hown : own = afterStop (env.EndpointFailed (v = .accept)) v env.localfp) :
    own.1 = .failure ∨ Transferable own.2 ↔
      v = .failure ∨ (v ≠ .accept ∧ env.EndpointFailed false) ∨ Transferable env.localfp := by
  rw [← env.endpointFailed_iff v]
  by_cases hfailed : env.EndpointFailed (v = .accept)
  · rw [afterStop_of_failed hfailed] at hown
    subst hown
    simp [hfailed]
  · rw [afterStop_of_not_failed hfailed] at hown
    subst hown
    simp [hfailed]

/-- The values of the two sides, when `BWLStopSession` starts: `first` is its value and its file, `v`
    the value in its message. -/
theorem stop_kept {ienv env : StopEnv} {a v : AcceptType} {intr : Int}
    {first own : AcceptType × Option DataFile}
    (hfirst : first = afterStop (a = .accept ∧ ienv.EndpointFailed false) a ienv.localfp)
    (hv : v = (announce first.1 first.2).1)
    (hown : own = afterStop (env.EndpointFailed (v = .accept)) v env.localfp) :
    (first.1 = own.1 ∧ own.1 = (announce own.1 own.2).1 ∧
        (announce own.1 own.2).1.code = intr) ↔
      (Initiator.stopSession ienv).Agrees intr a env := by
  unfold Initiator.Agrees
  dsimp only
  by_cases hbegun : a = .failure ∨ a = .accept ∧ ienv.EndpointFailed false
  · -- the failure of the initiator goes all the way round
    have hstart : first.1 = .failure := by
      rw [hfirst]
      rcases hbegun with rfl | hfailed
      · exact afterStop_failure _ _
      · rw [afterStop_of_failed hfailed]
    have hfailure : own.1 = .failure := by
      rw [hown, hv, hstart, announce_failure]
      exact afterStop_failure _ _
    rw [hstart, hfailure, announce_failure]
    constructor
    · rintro ⟨-, -, hcode⟩
      exact Or.inl ⟨hbegun, hcode.symm⟩
    · rintro (⟨-, hcode⟩ | ⟨hne, hno, -⟩)
      · exact ⟨rfl, rfl, hcode.symm⟩
      · exact absurd hbegun (not_or.2 ⟨hne, hno⟩)
  · obtain ⟨hne, hno⟩ := not_or.1 hbegun
    rw [afterStop_of_not_failed hno] at hfirst
    subst hfirst
    dsimp only at hv ⊢
    by_cases hfailed : env.EndpointFailed (v = .accept)
    · rw [afterStop_of_failed hfailed] at hown
      rw [hown]
      constructor
      · rintro ⟨heq, -⟩
        exact absurd heq hne
      · rintro (⟨hbad, -⟩ | ⟨-, -, hstop, hsent, -⟩)
        · exact absurd hbad hbegun
        · rw [(announce_eq_iff a ienv.localfp).2 (Or.inr hsent)] at hv
          rw [env.endpointFailed_iff v, hv] at hfailed
          exact absurd hfailed hstop
    · rw [afterStop_of_not_failed hfailed] at hown
      rw [hown]
      dsimp only
      constructor
      · rintro ⟨hsent, hkept, hcode⟩
        rw [env.endpointFailed_iff v, ← hsent] at hfailed
        rw [← hsent] at hkept hcode hv
        rw [← hkept] at hcode
        refine Or.inr ⟨hne, hno, hfailed, ?_, ?_, hcode.symm⟩
        · exact ((announce_eq_iff _ _).1 hv.symm).resolve_left hne
        · exact ((announce_eq_iff _ _).1 hkept.symm).resolve_left hne
      · rintro (⟨hbad, -⟩ | ⟨-, -, -, hsent, hkept, hcode⟩)
        · exact absurd hbad hbegun
        · rw [(announce_eq_iff a ienv.localfp).2 (Or.inr hsent)] at hv
          rw [hv, (announce_eq_iff a env.localfp).2 (Or.inr hkept)]
          exact ⟨rfl, rfl, hcode.symm⟩

/-- The side that answers: its value and the one in its message, and its flag. -/
theorem StopExchange.responder {i : Initiator} {c d : Conn} {intr intr' : Int} {a : AcceptType}
    {env : StopEnv} {init resp : StopResult} (h : StopExchange i c intr a env d intr' init resp) :
    resp.intr = intr' ∧ ∃ own, own = afterStop (env.EndpointFailed (messageValue init.out = .accept))
        (messageValue init.out) env.localfp ∧
      resp.acceptval = own.1 ∧ messageValue resp.out = (announce own.1 own.2).1 := by
  have hrun : (answerStop env d (arrive init.out) intr').2 = resp := h.respRun
  have hdone := h.respDone
  rw [← hrun] at hdone
  obtain ⟨hkind, hread, own, c', hown, hvalue, hintr, hwrite⟩ := answerStop_completed hdone
  rw [readStop_value hkind hread, Option.getD_some] at hown
  rw [hrun] at hvalue hintr hwrite
  exact ⟨hintr, own, hown, hvalue, messageValue_sent hwrite⟩

/-- **The two sides of an exchange agree on how the test ended if and only if** what they start with
    makes them. -/
theorem same_end_iff {i : Initiator} {c d : Conn} {intr intr' : Int} {a : AcceptType} {env : StopEnv}
    {init resp : StopResult} (h : StopExchange i c intr a env d intr' init resp) :
    SameEnd intr intr' init resp ↔ i.Agrees intr a env := by
  obtain ⟨hintr', own, hown, hvalue, hanswer⟩ := h.responder
  have hdone := h.initDone
  cases i with
  | endSession sent fp freed =>
    have hrun : endSession sent fp freed c (arrive resp.out) intr a = init := h.initRun
    rw [← hrun] at hdone
    obtain ⟨⟨⟨sent', hwrite⟩, hkind, hread⟩, hreturned, hintr⟩ := endSession_completed hdone
    rw [readStop_value hkind hread, Option.getD_some] at hreturned
    rw [hrun] at hwrite hreturned hintr
    have hsent : messageValue init.out = a := messageValue_sent hwrite
    rw [hsent] at hown
    have hsame : SameEnd intr intr' init resp ↔ own.1 = (announce own.1 own.2).1 := by
      rw [← hanswer, ← hvalue]
      exact ⟨fun hs => hs.respValue, fun hs => ⟨hreturned, hs, hintr, hintr'⟩⟩
    rw [hsame, eq_comm, announce_eq_iff]
    exact answer_kept hown
  | stopSession ienv =>
    have hrun : stopSession ienv c (arrive resp.out) intr a = init := h.initRun
    rw [← hrun] at hdone
    obtain ⟨⟨⟨sent', hwrite⟩, hkind, hread⟩, hreturned, hintr⟩ := stopSession_completed h.session hdone
    rw [readStop_value hkind hread] at hintr
    rw [hrun] at hwrite hreturned hintr
    have hsent := messageValue_sent hwrite
    have hsame : SameEnd intr intr' init resp ↔
        init.acceptval = own.1 ∧ own.1 = (announce own.1 own.2).1 ∧
          (announce own.1 own.2).1.code = intr := by
      rw [← hanswer, ← hvalue]
      constructor
      · intro hs
        exact ⟨hs.initValue.trans hs.respValue.symm, hs.respValue, hintr.symm.trans hs.initIntr⟩
      · rintro ⟨hinit, hresp, hcode⟩
        exact ⟨hinit.trans hresp, hresp, hintr.trans hcode, hintr'⟩
    rw [hsame, hreturned]
    exact stop_kept rfl hsent hown

/-- What `BWLStopSession` sends does not depend on what it is going to read. -/
theorem stopSession_out (env : StopEnv) (c : Conn) (w w' : Wire) (intr : Int) (a : AcceptType) :
    (stopSession env c w intr a).out = (stopSession env c w' intr a).out := by
  have hsends : ∀ w, (stopSession env c w intr a).out = if c.tests.isNone then [] else
      (writeStopSession c env.sent
        (afterStop (a = .accept ∧ env.EndpointFailed false) a env.localfp).1
        (afterStop (a = .accept ∧ env.EndpointFailed false) a
          env.localfp).2).2.2 := by
    intro w
    unfold stopSession
    split
    · rfl
    dsimp only
    split
    · rfl
    split
    · rfl
    split
    · rfl
    · rfl
  rw [hsends w, hsends w']

/-! ## A test that failed on one side -/

/-- A connection in a test of ten gigabit a second. -/
def testConn : Conn :=
  { idleConn 0x06000000 with state := stateRequest ||| stateTest, tests := some tenGigabit }

/-- A side with a file or none, whose endpoint is running and exits when it is stopped. -/
def stopEnd (localfp : Option DataFile) : StopEnv :=
  ⟨⟨true, false, true⟩, localfp, none, ⟨true, true⟩, .ok, .ok⟩

/-- The answer of a side to a StopSession that is sent with the value `a`. -/
def endAnswer (localfp : Option DataFile) (a : AcceptType) : StopResult :=
  (stopSessionWait (stopEnd localfp) .active .readable testConn
    (arrive (stopSession (stopEnd none) testConn [] 0 a).out) 0).2

/-- `BWLStopSession` of the other side. -/
def endStart (localfp : Option DataFile) (a : AcceptType) : StopResult :=
  stopSession (stopEnd none) testConn (arrive (endAnswer localfp a).out) 0 a

/-- Each side reads what the other one sends. -/
theorem endStart_run (localfp : Option DataFile) (a : AcceptType) :
    (stopSessionWait (stopEnd localfp) .active .readable testConn
      (arrive (endStart localfp a).out) 0).2 = endAnswer localfp a := by
  unfold endStart
  rw [stopSession_out _ _ _ []]
  rfl

/-- The test of the side that starts has failed: both sides return `FAILURE`, but the interrupt flag
    of the first has become the number of it.  A side whose file cannot be sent answers `FAILURE` to
    an `ACCEPT`, and both sides return `ACCEPT`. -/
theorem end_not_agreed :
    (StopExchange (.stopSession (stopEnd none)) testConn 0 .failure (stopEnd none) testConn 0
        (endStart none .failure) (endAnswer none .failure) ∧
      ¬ SameEnd 0 0 (endStart none .failure) (endAnswer none .failure)) ∧
    ∃ fp, StopExchange (.stopSession (stopEnd none)) testConn 0 .accept (stopEnd fp) testConn 0
        (endStart fp .accept) (endAnswer fp .accept) ∧
      (endStart fp .accept).acceptval = .accept ∧ (endAnswer fp .accept).acceptval = .accept ∧
      messageValue (endAnswer fp .accept).out = .failure := by
  refine ⟨⟨⟨rfl, endStart_run none .failure, by decide, by decide +kernel, by decide +kernel⟩,
    fun h => ?_⟩, some ⟨[104, 105], false⟩,
    ⟨rfl, endStart_run _ .accept, by decide, by decide +kernel, by decide +kernel⟩,
    by decide +kernel, by decide +kernel, by decide +kernel⟩
  exact absurd h.initIntr (by decide +kernel)

/-- A test that both ends accept, with two octets of results. -/
theorem good_end_same : ∃ fp, (∃ f ∈ fp, f.content.length = 2) ∧
    SameEnd 0 0 (endStart fp .accept) (endAnswer fp .accept) := by
  let fp : Option DataFile := some ⟨[104, 105], true⟩
  have h : StopExchange (.stopSession (stopEnd none)) testConn 0 .accept (stopEnd fp) testConn 0
      (endStart fp .accept) (endAnswer fp .accept) :=
    ⟨rfl, endStart_run fp .accept, by decide, by decide +kernel, by decide +kernel⟩
  have hrunning : ¬ (stopEnd none).EndpointFailed false := by decide
  have hnone : Transferable (stopEnd none).localfp := by
    intro f hf
    cases hf
  have hsent : Transferable (stopEnd fp).localfp := by
    rintro f ⟨⟩
    exact ⟨rfl, by decide⟩
  refine ⟨fp, ⟨_, rfl, rfl⟩, (same_end_iff h).2 (Or.inr ⟨by decide, fun hfailed => hrunning hfailed.2,
    fun hfailed => hfailed.1 rfl, hnone, hsent, rfl⟩)⟩

end Bwctl
