import Bwctl.Time

/-!
# Accepting a control connection (`BWLControlAccept`, `bwlib/sapi.c`)

The server sends its greeting with the modes it offers and a random challenge, reads the 68
octets of the client's greeting, checks mode, key and token, asks the policy hook and answers
with a `ServerOK`.  What the process meets on the way (socket results, randomness, clock, the
hooks of the application) is an `AcceptEnv`; the block cipher is a parameter.

* `readClientGreeting` — the fields of the client's greeting.
* `decryptToken` — the token decrypted with the key of the user.
* `controlAccept` — the record of an accepted connection, or where the server gave up.
* `authenticate_ok` — what a connection in a cipher mode has passed.
* `controlAccept_ok` — what every accepted connection has passed.
-/

set_option autoImplicit false

namespace Bwctl

abbrev SessionMode := UInt32
abbrev Block := Vector UInt8 16
abbrev UserID := Vector UInt8 16

def BWL_MODE_PROTOCOL_CURRENT_VERSION : UInt32 := 0x06000000
def BWL_MODE_PROTOCOL_VERSION_MASK : UInt32 := 0xff000000
def BWL_MODE_LEAST_RESTRICTIVE : SessionMode := 0x80
def BWL_MODE_OPEN : SessionMode := 0x1
def BWL_MODE_AUTHENTICATED : SessionMode := 0x2
def BWL_MODE_ENCRYPTED : SessionMode := 0x4
def BWL_MODE_DOCIPHER : SessionMode := BWL_MODE_AUTHENTICATED ||| BWL_MODE_ENCRYPTED
def BWL_MODE_ALLMODES : SessionMode := BWL_MODE_DOCIPHER ||| BWL_MODE_OPEN

/-- The family of a `sockaddr` and its address in network order. -/
inductive SockAddr where
  | inet (addr : Vector UInt8 4)
  | inet6 (addr : Vector UInt8 16)
  | other
  deriving DecidableEq

/-- `BWLErrSeverity`. -/
inductive ErrSeverity where
  | fatal
  | warning
  | info
  | debug
  | ok
  deriving DecidableEq, Repr

/-- The `syslog` priority of a severity: the smaller, the more severe. -/
def ErrSeverity.prio : ErrSeverity → Nat
  | fatal => 3
  | warning => 4
  | info => 6
  | debug => 7
  | ok => 8

/-- `BWLAcceptType`. -/
inductive AcceptType where
  | invalid
  | accept
  | reject
  | failure
  | unsupported
  deriving DecidableEq, Repr

def stateInitial : UInt32 := 0x0000
def stateInvalid : UInt32 := 0x0000
def stateSetup : UInt32 := 0x0001
def stateRequest : UInt32 := 0x0004

/-- `BWLControlRec`. -/
structure Control where
  state : UInt32
  mode : SessionMode
  protocolVersion : UInt32
  rttBound : Num64
  userid : Option UserID
  useridBuffer : UserID
  sessionKey : Block
  readIV : Block
  writeIV : Block
  deriving DecidableEq

def zeroBlock : Block := Vector.replicate 16 0

/-- `_BWLControlAlloc`: a record of zeros. -/
def Control.alloc : Control :=
  ⟨stateInitial, 0, 0, 0, none, zeroBlock, zeroBlock, zeroBlock, zeroBlock⟩

/-- What the server writes on the socket; `ServerOK` goes out in two parts. -/
inductive ServerMesg where
  | serverGreeting (availModes : UInt32) (challenge : Block)
  | serverOK (availTools : UInt32) (code : AcceptType) (serverIV : Block)
  | serverOKUptime (uptime : Num64)
  deriving DecidableEq

/-- What the `get_aes_key` hook returns, and the octets it leaves in `binKey`. -/
structure AESKeyReply where
  success : Bool
  binKey : Block
  err : ErrSeverity

/-- The process around one call of `BWLControlAccept`. -/
structure AcceptEnv where
  ctxValid : Bool
  toolAvail : UInt32
  connfd : Int
  cntrlAlloc : Bool
  remoteAddr : Bool
  localAddr : Bool
  serviceNames : Bool
  challenge : Option Block
  timestart : Option Num64
  greetingWritten : Bool
  clientGreeting : Option (Vector UInt8 68)
  timeend : Option Num64
  binKey : Block
  getAESKey : Option (UserID → AESKeyReply)
  writeIV : Option Block
  checkControlPolicy : Option (SessionMode → Option UserID → Bool × ErrSeverity)
  serverOKWritten : Bool
  uptimeWritten : Bool

/-! ## The client's greeting -/

/-- The two blocks of a token. -/
structure Token where
  head : Block
  tail : Block
  deriving DecidableEq

structure ClientGreeting where
  protocolVersion : UInt32
  mode : SessionMode
  userid : UserID
  token : Token
  clientIV : Block

def ntohl (b0 b1 b2 b3 : UInt8) : UInt32 :=
  b0.toUInt32 <<< 24 ||| b1.toUInt32 <<< 16 ||| b2.toUInt32 <<< 8 ||| b3.toUInt32

/-- 16 octets of a message. -/
def blockAt {n : Nat} (buf : Vector UInt8 n) (off : Nat) (h : off + 16 ≤ n) : Block :=
  Vector.ofFn fun i => buf[off + i.val]

/-- `_BWLReadClientGreeting`, after the 68 octets were read. -/
def readClientGreeting (buf : Vector UInt8 68) : ClientGreeting :=
  let mode := ntohl buf[0] buf[1] buf[2] buf[3]
  { protocolVersion := mode &&& BWL_MODE_PROTOCOL_VERSION_MASK
    mode := mode &&& ~~~BWL_MODE_PROTOCOL_VERSION_MASK
    userid := blockAt buf 4 (by omega)
    token := ⟨blockAt buf 20 (by omega), blockAt buf 36 (by omega)⟩
    clientIV := blockAt buf 52 (by omega) }

/-! ## The token -/

def TOKEN_BITS_LEN : Nat := 2 * 16 * 8

def xorBlock (a b : Block) : Block := Vector.zipWith (· ^^^ ·) a b

/-- The loop of `blockDecrypt`. -/
def cbcDecrypt (decrypt : Block → Block) : Block → List Block → List Block
  | _, [] => []
  | iv, input :: rest => xorBlock (decrypt input) iv :: cbcDecrypt decrypt input rest

/-- `blockDecrypt`: the number of bits and the output. -/
def blockDecrypt (decrypt : Block → Block) (iv : Block) (input : List Block) : Nat × List Block :=
  (128 * input.length, cbcDecrypt decrypt iv input)

section Accept

variable (rijndaelDecrypt : Block → Block → Block)

/-- `_BWLDecryptToken`; `none` is the return value `-1`. -/
def decryptToken (binKey : Block) (rawtoken : Token) : Option Token :=
  match blockDecrypt (rijndaelDecrypt binKey) zeroBlock [rawtoken.head, rawtoken.tail] with
  | (r, [head, tail]) => if r ≠ TOKEN_BITS_LEN then none else some ⟨head, tail⟩
  | _ => none

/-! ## The gauntlet -/

/-- `goto error`: the severity returned and what was written before. -/
structure Rejected where
  errRet : ErrSeverity
  sent : List ServerMesg
  deriving DecidableEq

/-- The record, the severity returned and what was written. -/
abbrev Written := Control × ErrSeverity × List ServerMesg

/-- `_BWLWriteServerGreeting`. -/
def writeServerGreeting (env : AcceptEnv) (cntrl : Control) (availModes : UInt32)
    (challenge : Block) : Written :=
  if cntrl.state ≠ stateInitial then (cntrl, .fatal, [])
  else if env.greetingWritten then
    ({ cntrl with state := stateSetup }, .ok,
      [.serverGreeting (availModes ||| BWL_MODE_PROTOCOL_CURRENT_VERSION) challenge])
  else (cntrl, .fatal, [])

/-- `_BWLWriteServerOK`. -/
def writeServerOK (env : AcceptEnv) (cntrl : Control) (code : AcceptType) (uptime : Num64)
    (availTools : UInt32) : Written :=
  if cntrl.state ≠ stateSetup then (cntrl, .fatal, [])
  else if !env.serverOKWritten then (cntrl, .fatal, [])
  else
    let head := ServerMesg.serverOK availTools code cntrl.writeIV
    if code = .accept then
      if !env.uptimeWritten then (cntrl, .fatal, [head])
      else ({ cntrl with state := stateRequest }, .ok, [head, .serverOKUptime uptime])
    else if !env.uptimeWritten then ({ cntrl with state := stateInvalid }, .fatal, [head])
    else ({ cntrl with state := stateInvalid }, .ok, [head, .serverOKUptime 0])

/-- `_BWLWriteServerOK` with a negative answer, then `goto error`. -/
def refuse (env : AcceptEnv) (cntrl : Control) (code : AcceptType) (errRet : ErrSeverity) :
    Rejected :=
  ⟨errRet, (writeServerOK env cntrl code 0 0).2.2⟩

/-- `_BWLCallGetAESKey`; without a hook `binKey` keeps what was on the stack. -/
def callGetAESKey (env : AcceptEnv) (userid : UserID) : AESKeyReply :=
  match env.getAESKey with
  | none => ⟨false, env.binKey, .ok⟩
  | some func => func userid

/-- `_BWLCallCheckControlPolicy`. -/
def callCheckControlPolicy (env : AcceptEnv) (mode : SessionMode) (userid : Option UserID) :
    Bool × ErrSeverity :=
  match env.checkControlPolicy with
  | none => (true, .ok)
  | some func => func mode userid

/-- From the arguments to the greeting of the server. -/
def sendGreeting (env : AcceptEnv) (modeOffered : UInt32) :
    Except Rejected (Control × Block × Num64 × List ServerMesg) :=
  if !env.ctxValid then .error ⟨.fatal, []⟩
  else if env.toolAvail = 0 then .error ⟨.fatal, []⟩
  else if env.connfd < 0 then .error ⟨.fatal, []⟩
  else if !env.cntrlAlloc then .error ⟨.fatal, []⟩
  else if !env.remoteAddr then .error ⟨.fatal, []⟩
  else if !env.localAddr then .error ⟨.fatal, []⟩
  else if !env.serviceNames then .error ⟨.ok, []⟩
  else
    match env.challenge, env.timestart with
    | none, _ => .error ⟨.fatal, []⟩
    | some _, none => .error ⟨.fatal, []⟩
    | some challenge, some timestart =>
      let w := writeServerGreeting env .alloc modeOffered challenge
      if w.2.1.prio < ErrSeverity.ok.prio then .error ⟨w.2.1, w.2.2⟩
      else .ok (w.1, challenge, timestart, w.2.2)

/-- The greeting of the client, read into the record, and its token. -/
def receiveGreeting (env : AcceptEnv) (cntrl : Control) (timestart : Num64) :
    Except Rejected (Control × Token) :=
  if cntrl.state ≠ stateSetup then .error ⟨.fatal, []⟩
  else
    match env.clientGreeting, env.timeend with
    | none, _ => .error ⟨.fatal, []⟩
    | some _, none => .error ⟨.fatal, []⟩
    | some buf, some timeend =>
      let g := readClientGreeting buf
      .ok ({ cntrl with
        mode := g.mode
        protocolVersion := g.protocolVersion
        useridBuffer := g.userid
        readIV := g.clientIV
        rttBound := num64Sub timeend timestart }, g.token)

/-- The checks of the requested mode. -/
def checkMode (env : AcceptEnv) (cntrl : Control) (modeOffered : UInt32) : Except Rejected Unit :=
  if cntrl.mode ≠ BWL_MODE_OPEN ∧ cntrl.mode ≠ BWL_MODE_AUTHENTICATED ∧
      cntrl.mode ≠ BWL_MODE_ENCRYPTED then .error ⟨.fatal, []⟩
  else if cntrl.mode ||| modeOffered = 0 then
    let w := writeServerOK env cntrl .reject 0 0
    .error ⟨w.2.1, w.2.2⟩
  else .ok ()

/-- Key and token of a connection in a cipher mode; an open connection goes on as it is. -/
def authenticate (env : AcceptEnv) (cntrl : Control) (challenge : Block) (rawtoken : Token) :
    Except Rejected Control :=
  if cntrl.mode &&& BWL_MODE_DOCIPHER = 0 then .ok cntrl
  else
    let key := callGetAESKey env cntrl.useridBuffer
    if !key.success ∧ key.err ≠ .ok then .error (refuse env cntrl .failure key.err)
    else
      match decryptToken rijndaelDecrypt key.binKey rawtoken with
      | none => .error (refuse env cntrl .failure .fatal)
      | some token =>
        if challenge ≠ token.head ∨ !key.success then .error (refuse env cntrl .reject key.err)
        else
          match env.writeIV with
          | none =>
            .error (refuse env { cntrl with userid := some cntrl.useridBuffer } .failure key.err)
          | some writeIV =>
            .ok { cntrl with
              userid := some cntrl.useridBuffer
              writeIV := writeIV
              sessionKey := token.tail }

/-- The policy hook and the positive answer. -/
def grantControl (env : AcceptEnv) (cntrl : Control) (uptime : Num64) :
    Except Rejected (Control × List ServerMesg) :=
  let policy := callCheckControlPolicy env cntrl.mode cntrl.userid
  if !policy.1 then
    if policy.2.prio > ErrSeverity.warning.prio then .error (refuse env cntrl .reject policy.2)
    else .error (refuse env cntrl .failure policy.2)
  else
    let w := writeServerOK env cntrl .accept uptime env.toolAvail
    if w.2.1.prio < ErrSeverity.ok.prio then .error ⟨w.2.1, w.2.2⟩
    else .ok (w.1, w.2.2)

/-- What was written before a later stage gave up. -/
def Rejected.after {α : Type} (sent : List ServerMesg) (r : Except Rejected α) : Except Rejected α :=
  r.mapError fun e => { e with sent := sent ++ e.sent }

/-- `BWLControlAccept`: the record of the accepted connection with all that was written. -/
def controlAccept (env : AcceptEnv) (modeOffered : UInt32) (uptime : Num64) :
    Except Rejected (Control × List ServerMesg) :=
  let modeOffered := modeOffered &&& BWL_MODE_ALLMODES
  match sendGreeting env modeOffered with
  | .error e => .error e
  | .ok (cntrl, challenge, timestart, sent) =>
    Rejected.after sent <|
      if modeOffered = 0 then .error ⟨.ok, []⟩
      else do
        let (cntrl, rawtoken) ← receiveGreeting env cntrl timestart
        checkMode env cntrl modeOffered
        let cntrl ← authenticate rijndaelDecrypt env cntrl challenge rawtoken
        let (cntrl, answer) ← grantControl env cntrl uptime
        return (cntrl, sent ++ answer)

/-! ## What the stages let through -/

theorem fatal_prio : ErrSeverity.fatal.prio < ErrSeverity.ok.prio := by decide

theorem Except.ok_of_toBool {ε α : Type} {x : Except ε α} (h : x.toBool = true) :
    ∃ a, x = .ok a := by
  cases x with
  | error e => cases h
  | ok a => exact ⟨a, rfl⟩

theorem Except.bind_ok {ε α β : Type} {x : Except ε α} {f : α → Except ε β} {b : β}
    (h : (x >>= f) = .ok b) : ∃ a, x = .ok a ∧ f a = .ok b := by
  cases x with
  | error e => cases h
  | ok a => exact ⟨a, rfl, h⟩

theorem Rejected.after_ok {α : Type} {sent : List ServerMesg} {r : Except Rejected α} {a : α}
    (h : Rejected.after sent r = .ok a) : r = .ok a := by
  cases r with
  | error e => cases h
  | ok b => exact h

variable {rijndaelDecrypt} {env : AcceptEnv} {cntrl cntrl' : Control} {challenge : Block}
  {rawtoken : Token} {timestart : Num64} {sent : List ServerMesg} {modeOffered : UInt32}

theorem sendGreeting_ok
    (h : sendGreeting env modeOffered = .ok (cntrl, challenge, timestart, sent)) :
    env.challenge = some challenge := by
  unfold sendGreeting at h
  dsimp only at h
  repeat' split at h
  all_goals try cases h
  rename_i hch _ _
  exact hch

/-- The record takes mode, user and IV over from the greeting. -/
theorem receiveGreeting_ok (h : receiveGreeting env cntrl timestart = .ok (cntrl', rawtoken)) :
    ∃ buf, env.clientGreeting = some buf ∧ cntrl'.state = cntrl.state ∧
      cntrl'.mode = (readClientGreeting buf).mode ∧
      cntrl'.useridBuffer = (readClientGreeting buf).userid ∧
      rawtoken = (readClientGreeting buf).token := by
  unfold receiveGreeting at h
  repeat' split at h
  all_goals try cases h
  rename_i buf _ hbuf _
  exact ⟨buf, hbuf, rfl, rfl, rfl, rfl⟩

/-- Exactly one of the three modes. -/
def OneMode (mode : SessionMode) : Prop :=
  mode = BWL_MODE_OPEN ∨ mode = BWL_MODE_AUTHENTICATED ∨ mode = BWL_MODE_ENCRYPTED

instance (mode : SessionMode) : Decidable (OneMode mode) :=
  inferInstanceAs (Decidable (_ ∨ _ ∨ _))

/-- The mode check lets through every request for exactly one mode: a bit of the mode is set in
    the union with whatever is offered. -/
theorem checkMode_ok : checkMode env cntrl modeOffered = .ok () ↔ OneMode cntrl.mode := by
  unfold checkMode OneMode
  split
  · rename_i h
    refine ⟨fun h' => ?_, fun h' => absurd h' (by tauto)⟩
    cases h'
  · rename_i h
    have hone : OneMode cntrl.mode := by unfold OneMode; tauto
    have hne : cntrl.mode ||| modeOffered ≠ 0 := by
      intro h0
      have hm : cntrl.mode = 0 := by
        rw [← UInt32.toNat_inj, UInt32.toNat_or] at h0
        exact UInt32.toNat_inj.1 (Nat.or_eq_zero_iff.1 h0).1
      rw [hm] at hone
      exact absurd hone (by decide)
    rw [if_neg hne]
    exact ⟨fun _ => hone, fun _ => rfl⟩

/-- The user of a greeting is known and its token decrypts to the challenge. -/
structure Authenticated (rijndaelDecrypt : Block → Block → Block) (env : AcceptEnv)
    (userid : UserID) (rawtoken : Token) (challenge : Block) : Prop where
  key : (callGetAESKey env userid).success = true
  token : ∃ token,
    decryptToken rijndaelDecrypt (callGetAESKey env userid).binKey rawtoken = some token ∧
      token.head = challenge

/-- The record of an authenticated user in a cipher mode. -/
theorem authenticate_record (hcipher : cntrl.mode &&& BWL_MODE_DOCIPHER ≠ 0)
    (h : authenticate rijndaelDecrypt env cntrl challenge rawtoken = .ok cntrl') :
    ∃ token writeIV, (callGetAESKey env cntrl.useridBuffer).success = true ∧
      decryptToken rijndaelDecrypt (callGetAESKey env cntrl.useridBuffer).binKey rawtoken =
        some token ∧ token.head = challenge ∧ env.writeIV = some writeIV ∧
      cntrl' = { cntrl with
        userid := some cntrl.useridBuffer
        writeIV := writeIV
        sessionKey := token.tail } := by
  unfold authenticate at h
  rw [if_neg hcipher] at h
  dsimp only at h
  split at h
  · cases h
  split at h
  · cases h
  rename_i token htoken
  split at h
  · cases h
  rename_i hcheck
  rw [not_or, not_not, Bool.not_eq_true, Bool.not_eq_false'] at hcheck
  split at h
  · cases h
  · rename_i writeIV hwrite
    cases h
    exact ⟨token, writeIV, hcheck.2, htoken, hcheck.1.symm, hwrite, rfl⟩

theorem authenticate_ok
    (h : authenticate rijndaelDecrypt env cntrl challenge rawtoken = .ok cntrl') :
    cntrl'.mode = cntrl.mode ∧ (cntrl.mode &&& BWL_MODE_DOCIPHER ≠ 0 →
      Authenticated rijndaelDecrypt env cntrl.useridBuffer rawtoken challenge) := by
  by_cases hcipher : cntrl.mode &&& BWL_MODE_DOCIPHER = 0
  · unfold authenticate at h
    rw [if_pos hcipher] at h
    cases h
    exact ⟨rfl, fun h => absurd hcipher h⟩
  · obtain ⟨token, writeIV, hkey, htoken, hhead, -, rfl⟩ := authenticate_record hcipher h
    exact ⟨rfl, fun _ => ⟨hkey, token, htoken, hhead⟩⟩

theorem writeServerOK_mode (env : AcceptEnv) (cntrl : Control) (code : AcceptType) (uptime : Num64)
    (availTools : UInt32) :
    (writeServerOK env cntrl code uptime availTools).1.mode = cntrl.mode := by
  unfold writeServerOK
  dsimp only
  repeat' split
  all_goals rfl

theorem grantControl_ok {uptime : Num64} {answer : List ServerMesg}
    (h : grantControl env cntrl uptime = .ok (cntrl', answer)) : cntrl'.mode = cntrl.mode := by
  unfold grantControl at h
  dsimp only at h
  repeat' split at h
  all_goals cases h
  exact writeServerOK_mode env cntrl .accept uptime env.toolAvail

/-- The stages in a row. -/
theorem controlAccept_of_stages {cntrl0 cntrl1 cntrl2 : Control} {uptime : Num64}
    {answer : List ServerMesg}
    (hsend : sendGreeting env (modeOffered &&& BWL_MODE_ALLMODES) =
      .ok (cntrl0, challenge, timestart, sent))
    (hoffer : modeOffered &&& BWL_MODE_ALLMODES ≠ 0)
    (hreceive : receiveGreeting env cntrl0 timestart = .ok (cntrl1, rawtoken))
    (hmode : checkMode env cntrl1 (modeOffered &&& BWL_MODE_ALLMODES) = .ok ())
    (hauth : authenticate rijndaelDecrypt env cntrl1 challenge rawtoken = .ok cntrl2)
    (hgrant : grantControl env cntrl2 uptime = .ok (cntrl, answer)) :
    controlAccept rijndaelDecrypt env modeOffered uptime = .ok (cntrl, sent ++ answer) := by
  unfold controlAccept
  dsimp only
  rw [hsend]
  dsimp only
  rw [if_neg hoffer, hreceive]
  dsimp only [bind, Except.bind]
  rw [hmode]
  dsimp only
  rw [hauth]
  dsimp only
  rw [hgrant]
  rfl

/-- **Whatever is accepted** was asked for in the greeting as exactly one mode, under a non-empty
    offer, and in a cipher mode the user has been authenticated against the challenge. -/
theorem controlAccept_ok {uptime : Num64}
    (h : controlAccept rijndaelDecrypt env modeOffered uptime = .ok (cntrl, sent)) :
    ∃ challenge buf, env.challenge = some challenge ∧ env.clientGreeting = some buf ∧
      modeOffered &&& BWL_MODE_ALLMODES ≠ 0 ∧ cntrl.mode = (readClientGreeting buf).mode ∧
      OneMode cntrl.mode ∧ (cntrl.mode &&& BWL_MODE_DOCIPHER ≠ 0 →
        Authenticated rijndaelDecrypt env (readClientGreeting buf).userid
          (readClientGreeting buf).token challenge) := by
  unfold controlAccept at h
  dsimp only at h
  split at h
  · cases h
  rename_i cntrl0 challenge timestart sent0 hsend
  have h := Rejected.after_ok h
  split at h
  · cases h
  rename_i hoffer
  obtain ⟨⟨cntrl1, rawtoken⟩, hreceive, h⟩ := Except.bind_ok h
  obtain ⟨_, hmode, h⟩ := Except.bind_ok h
  obtain ⟨cntrl2, hauth, h⟩ := Except.bind_ok h
  obtain ⟨⟨cntrl3, answer⟩, hgrant, h⟩ := Except.bind_ok h
  cases h
  obtain ⟨buf, hbuf, -, hm, huser, rfl⟩ := receiveGreeting_ok hreceive
  obtain ⟨hm2, hcipher⟩ := authenticate_ok hauth
  have hm3 := grantControl_ok hgrant
  rw [huser] at hcipher
  rw [hm3, hm2]
  exact ⟨challenge, buf, sendGreeting_ok hsend, hbuf, hoffer, hm, checkMode_ok.1 hmode, hcipher⟩

end Accept

end Bwctl
