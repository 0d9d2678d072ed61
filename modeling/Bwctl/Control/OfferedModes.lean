import Bwctl.Control.ControlAccept
import Bwctl.Policy.Limits

/-!
# Accepted modes against offered modes

The test that should refuse a mode the server has not offered joins the two bit sets instead
of meeting them, so it never fires: under any non-empty offer every request for exactly one
mode goes on.  The checks of key and token are not affected.

* `newConnectionMode`, `endpointMode` — the two sets of modes the callers offer.
* `willingEnv_accepts` — a process that lets every request for one mode through.
* `offered_mode_iff` — every connection is accepted in an offered mode exactly when the
  greeting asks for one, for none that exists, or nothing is offered.
* `covered_newConnection_iff`, `covered_endpoint_iff` — what that is for the two callers.
* `open_mode_not_offered` — an open connection from an address whose class refuses open mode.
-/

set_option autoImplicit false

namespace Bwctl

/-- `BWLDAllowOpenMode`, for the class of the peer's address. -/
def allowOpenMode (node : PolicyNode) : Bool := getLimit node BWLDLimAllowOpenMode ≠ 0

/-- The modes `NewConnection` offers. -/
def newConnectionMode (node : PolicyNode) (mode : SessionMode) : SessionMode :=
  if mode &&& BWL_MODE_OPEN ≠ 0 ∧ !allowOpenMode node then mode &&& ~~~BWL_MODE_OPEN else mode

/-- The modes `_BWLEndpointStart` offers to the peer of a session. -/
def endpointMode (mode : SessionMode) : SessionMode :=
  if mode = BWL_MODE_OPEN then
    BWL_MODE_LEAST_RESTRICTIVE ||| BWL_MODE_OPEN ||| BWL_MODE_AUTHENTICATED ||| BWL_MODE_ENCRYPTED
  else if mode = BWL_MODE_AUTHENTICATED then
    BWL_MODE_LEAST_RESTRICTIVE ||| BWL_MODE_AUTHENTICATED ||| BWL_MODE_ENCRYPTED
  else if mode = BWL_MODE_ENCRYPTED then BWL_MODE_LEAST_RESTRICTIVE ||| BWL_MODE_ENCRYPTED
  else BWL_MODE_LEAST_RESTRICTIVE

/-- The modes in a set. -/
def modesIn (modes : SessionMode) : List SessionMode :=
  [BWL_MODE_OPEN, BWL_MODE_AUTHENTICATED, BWL_MODE_ENCRYPTED].filter fun m => m &&& modes ≠ 0

theorem mem_modesIn {mode modes : SessionMode} :
    mode ∈ modesIn modes ↔ OneMode mode ∧ mode &&& modes ≠ 0 := by
  simp [modesIn, OneMode]

/-- An accepted record has an offered mode; in a cipher mode its user is known and the first
    block of the decrypted token is the challenge. -/
structure AcceptedAsOffered (rijndaelDecrypt : Block → Block → Block) (env : AcceptEnv)
    (buf : Vector UInt8 68) (modeOffered : SessionMode) (cntrl : Control) : Prop where
  offered : cntrl.mode ∈ modesIn modeOffered
  authenticated : cntrl.mode = BWL_MODE_AUTHENTICATED ∨ cntrl.mode = BWL_MODE_ENCRYPTED →
    ∃ challenge, env.challenge = some challenge ∧
      Authenticated rijndaelDecrypt env (readClientGreeting buf).userid
        (readClientGreeting buf).token challenge

/-- The greeting asks for an offered mode, or for what is refused anyway. -/
def Covered (buf : Vector UInt8 68) (modeOffered : SessionMode) : Prop :=
  ¬ OneMode (readClientGreeting buf).mode ∨ modeOffered &&& BWL_MODE_ALLMODES = 0 ∨
    (readClientGreeting buf).mode &&& modeOffered ≠ 0

section Offer

variable (rijndaelDecrypt : Block → Block → Block) (buf : Vector UInt8 68)

/-- A process in which nothing fails, every user has the same key and the challenge is what the
    token of the greeting decrypts to. -/
def willingEnv : AcceptEnv where
  ctxValid := true
  toolAvail := 1
  connfd := 3
  cntrlAlloc := true
  remoteAddr := true
  localAddr := true
  serviceNames := true
  challenge := some (xorBlock (rijndaelDecrypt zeroBlock (readClientGreeting buf).token.head) zeroBlock)
  timestart := some 0
  greetingWritten := true
  clientGreeting := some buf
  timeend := some 0
  binKey := zeroBlock
  getAESKey := some fun _ => ⟨true, zeroBlock, .ok⟩
  writeIV := some zeroBlock
  checkControlPolicy := none
  serverOKWritten := true
  uptimeWritten := true

variable (cntrl : Control) {modeOffered : SessionMode}

theorem willingEnv_authenticate :
    ∃ cntrl', authenticate rijndaelDecrypt (willingEnv rijndaelDecrypt buf) cntrl
        (xorBlock (rijndaelDecrypt zeroBlock (readClientGreeting buf).token.head) zeroBlock)
        (readClientGreeting buf).token = .ok cntrl' ∧ cntrl'.state = cntrl.state := by
  unfold authenticate
  split
  · exact ⟨cntrl, rfl, rfl⟩
  · dsimp only
    rw [if_neg (by simp [callGetAESKey, willingEnv])]
    split
    · rename_i hnone; cases hnone
    · rename_i token htoken
      have hhead : (xorBlock (rijndaelDecrypt zeroBlock (readClientGreeting buf).token.head)
          zeroBlock) = token.head := by cases htoken; rfl
      rw [if_neg (by simp [hhead, callGetAESKey, willingEnv])]
      exact ⟨_, rfl, rfl⟩

variable {cntrl} in
theorem willingEnv_grantControl (hs : cntrl.state = stateSetup) :
    ∃ r, grantControl (willingEnv rijndaelDecrypt buf) cntrl 0 = .ok r := by
  have hpolicy : callCheckControlPolicy (willingEnv rijndaelDecrypt buf) cntrl.mode cntrl.userid =
      (true, .ok) := rfl
  have hw : writeServerOK (willingEnv rijndaelDecrypt buf) cntrl .accept 0
      (willingEnv rijndaelDecrypt buf).toolAvail = ({ cntrl with state := stateRequest }, .ok,
        [.serverOK 1 .accept cntrl.writeIV, .serverOKUptime 0]) := by
    unfold writeServerOK
    rw [if_neg (not_not.2 hs)]
    rfl
  refine ⟨({ cntrl with state := stateRequest },
    [.serverOK 1 .accept cntrl.writeIV, .serverOKUptime 0]), ?_⟩
  unfold grantControl
  rw [hpolicy, hw]
  rfl

/-- **Under a non-empty offer every request for exactly one mode can be accepted.** -/
theorem willingEnv_accepts {buf : Vector UInt8 68} (hone : OneMode (readClientGreeting buf).mode)
    (hoffer : modeOffered &&& BWL_MODE_ALLMODES ≠ 0) :
    ∃ cntrl sent,
      controlAccept rijndaelDecrypt (willingEnv rijndaelDecrypt buf) modeOffered 0 =
        .ok (cntrl, sent) := by
  let greeted : Control :=
    { Control.alloc with
      state := stateSetup
      mode := (readClientGreeting buf).mode
      protocolVersion := (readClientGreeting buf).protocolVersion
      useridBuffer := (readClientGreeting buf).userid
      readIV := (readClientGreeting buf).clientIV
      rttBound := num64Sub 0 0 }
  obtain ⟨cntrl, hauth, hstate⟩ :=
    willingEnv_authenticate rijndaelDecrypt buf greeted
  obtain ⟨⟨cntrl', answer⟩, hgrant⟩ := willingEnv_grantControl rijndaelDecrypt buf hstate
  have hreceive : receiveGreeting (willingEnv rijndaelDecrypt buf)
      { Control.alloc with state := stateSetup } 0 =
      .ok (greeted, (readClientGreeting buf).token) := rfl
  exact ⟨cntrl', _, controlAccept_of_stages rfl hoffer hreceive (checkMode_ok.2 hone) hauth hgrant⟩

end Offer

/-! ## The exact condition -/

/-- **A connection is only ever accepted in an offered mode, exactly for the offers and greetings
    in which the requested mode is offered, is not one of the three, or nothing is offered.** -/
theorem offered_mode_iff (rijndaelDecrypt : Block → Block → Block) (modeOffered : SessionMode)
    (buf : Vector UInt8 68) :
    (∀ env uptime cntrl sent, env.clientGreeting = some buf →
      controlAccept rijndaelDecrypt env modeOffered uptime = .ok (cntrl, sent) →
        AcceptedAsOffered rijndaelDecrypt env buf modeOffered cntrl) ↔ Covered buf modeOffered := by
  constructor
  · intro h
    by_contra hno
    unfold Covered at hno
    rw [not_or, not_or, not_not, not_not] at hno
    obtain ⟨hone, hoffer, hmeet⟩ := hno
    obtain ⟨cntrl, sent, hacc⟩ :=
      willingEnv_accepts rijndaelDecrypt hone hoffer
    have hin := (h (willingEnv rijndaelDecrypt buf) 0 cntrl sent rfl hacc).offered
    obtain ⟨-, buf', -, hbuf, -, hmode, -⟩ := controlAccept_ok hacc
    cases hbuf
    rw [mem_modesIn, hmode] at hin
    exact hin.2 hmeet
  · intro hcov env uptime cntrl sent hbuf hacc
    obtain ⟨challenge, buf', hch, hbuf', hoffer, hmode, hone, hauth⟩ := controlAccept_ok hacc
    rw [hbuf] at hbuf'
    cases hbuf'
    refine ⟨mem_modesIn.2 ⟨hone, ?_⟩, fun hcipher => ⟨challenge, hch, hauth ?_⟩⟩
    · rw [hmode] at hone ⊢
      rcases hcov with h | h | h
      · exact absurd hone h
      · exact absurd h hoffer
      · exact h
    · rcases hcipher with h | h <;> rw [h] <;> decide

/-- An open connection of a peer whose class refuses open mode is accepted. -/
theorem open_mode_not_offered :
    ∃ env cntrl sent,
      controlAccept (fun _ input => input) env
          (newConnectionMode (.root "root" [⟨BWLDLimAllowOpenMode, 0⟩]) BWL_MODE_ALLMODES) 0 =
        .ok (cntrl, sent) ∧
      env.clientGreeting = some (Vector.ofFn fun i => if i = 3 then 1 else 0) ∧
      ¬ AcceptedAsOffered (fun _ input => input) env
        (Vector.ofFn fun i => if i = 3 then 1 else 0)
        (newConnectionMode (.root "root" [⟨BWLDLimAllowOpenMode, 0⟩]) BWL_MODE_ALLMODES) cntrl := by
  have hone : OneMode (readClientGreeting (Vector.ofFn fun i => if i = 3 then 1 else 0)).mode := by
    decide
  have hoffer : newConnectionMode (.root "root" [⟨BWLDLimAllowOpenMode, 0⟩]) BWL_MODE_ALLMODES &&&
      BWL_MODE_ALLMODES ≠ 0 := by decide
  obtain ⟨cntrl, sent, hacc⟩ := willingEnv_accepts (fun _ input => input) hone hoffer
  refine ⟨_, cntrl, sent, hacc, rfl, fun h => ?_⟩
  obtain ⟨-, buf, -, hbuf, -, hmode, -⟩ := controlAccept_ok hacc
  cases hbuf
  have hin := h.offered
  rw [hmode] at hin
  exact absurd hin (by decide)

/-! ## The two callers -/

/-- Of the three modes `NewConnection` offers open mode when the class allows it, and the others
    always. -/
theorem newConnectionMode_iff (node : PolicyNode) {mode : SessionMode} (hone : OneMode mode) :
    mode &&& newConnectionMode node BWL_MODE_ALLMODES ≠ 0 ↔
      mode = BWL_MODE_OPEN → allowOpenMode node = true := by
  unfold newConnectionMode
  cases allowOpenMode node <;> rcases hone with rfl | rfl | rfl <;> decide

/-- Of the three modes the peer of a session is offered those at least as strict. -/
theorem endpointMode_iff {mode mode' : SessionMode} (hone : OneMode mode) (hone' : OneMode mode') :
    mode' &&& endpointMode mode ≠ 0 ↔ mode ≤ mode' := by
  rcases hone with rfl | rfl | rfl <;> rcases hone' with rfl | rfl | rfl <;> decide

/-- On a daemon that offers all modes the greetings that go wrong are those for open mode from an
    address whose class refuses it. -/
theorem covered_newConnection_iff (node : PolicyNode) (buf : Vector UInt8 68) :
    Covered buf (newConnectionMode node BWL_MODE_ALLMODES) ↔
      ((readClientGreeting buf).mode = BWL_MODE_OPEN → allowOpenMode node = true) := by
  have hoffer : newConnectionMode node BWL_MODE_ALLMODES &&& BWL_MODE_ALLMODES ≠ 0 := by
    unfold newConnectionMode
    cases allowOpenMode node <;> decide
  unfold Covered
  by_cases hone : OneMode (readClientGreeting buf).mode
  · rw [newConnectionMode_iff node hone]
    tauto
  · have hopen : (readClientGreeting buf).mode ≠ BWL_MODE_OPEN := fun h => hone (Or.inl h)
    tauto

/-- For the peer of a session the greetings that go wrong are those for a mode less strict than
    the session's own. -/
theorem covered_endpoint_iff {mode : SessionMode} (hmode : OneMode mode) (buf : Vector UInt8 68) :
    Covered buf (endpointMode mode) ↔
      (OneMode (readClientGreeting buf).mode → mode ≤ (readClientGreeting buf).mode) := by
  have hoffer : endpointMode mode &&& BWL_MODE_ALLMODES ≠ 0 := by
    rcases hmode with rfl | rfl | rfl <;> decide
  unfold Covered
  by_cases hone : OneMode (readClientGreeting buf).mode
  · rw [endpointMode_iff hmode hone]
    tauto
  · tauto

end Bwctl
