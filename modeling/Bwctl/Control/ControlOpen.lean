import Bwctl.Control.CipherBlocks
import Bwctl.Protocol.TestRequest
import Bwctl.Lib.Framing

/-!
# Opening a control connection (`BWLControlOpen`, `bwlib/capi.c`)

The client reads the greeting of the server, picks one of the modes that are offered and wanted and
that its own policy allows, answers with a token that proves its key and carries a session key, and
reads the `ServerOK` and the uptime, which is the first block of the connection.

* `selectMode_cases` — the mode that is picked.
* `controlOpen` — the record of an open connection, or the severity of what went wrong.
* `OpenedAs`, `controlOpen_ok` — everything an open connection has gone through.
-/

set_option autoImplicit false

namespace Bwctl

open Octets

/-- The process around one call of `BWLControlOpen`: `received` is what arrives on the socket. -/
structure OpenEnv where
  ctxValid : Bool
  cntrlAlloc : Bool
  serverAddr : Bool
  sockType : Bool
  connected : Bool
  received : List UInt8
  getAESKey : Option (UserID → AESKeyReply)
  checkControlPolicy : Option (SessionMode → Option UserID → Bool × ErrSeverity)
  sessionKey : Option Block
  writeIV : Option Block
  timestart : Option Num64
  greetingWritten : Bool
  timeend : Option Num64

/-! ## Messages -/

/-- `I2Readni` of a whole buffer: the buffer and what is left. -/
def readni (n : Nat) (s : List UInt8) : Option (Vector UInt8 n × List UInt8) :=
  (readn n s).map fun r => (Vector.ofFn fun i => r.1.getD i.val 0, r.2)

/-- The fields `_BWLReadServerGreeting` takes out of 32 octets. -/
structure ServerGreeting where
  protocolVersion : UInt32
  modeAvail : SessionMode
  challenge : Block

def readServerGreeting (buf : Vector UInt8 32) : ServerGreeting :=
  let mode := load32 buf 12
  { protocolVersion := mode &&& BWL_MODE_PROTOCOL_VERSION_MASK
    modeAvail := mode &&& ~~~BWL_MODE_PROTOCOL_VERSION_MASK
    challenge := blockAt buf 16 (by omega) }

/-- The 68 octets of `_BWLWriteClientGreeting`; `userid` points to the buffer of the record. -/
def encodeClientGreeting (cntrl : Control) (token : Token) : Vector UInt8 68 :=
  let buf := store (Vector.replicate 68 0) 0 (be32 (cntrl.mode ||| cntrl.protocolVersion))
  if cntrl.mode &&& BWL_MODE_DOCIPHER ≠ 0 then
    store (store (store (store buf 4 cntrl.useridBuffer.toList) 20 token.head.toList)
      36 token.tail.toList) 52 cntrl.writeIV.toList
  else store buf 4 (List.replicate 64 0)

/-- The fields `_BWLReadServerOK` takes out of 32 octets. -/
structure ServerOKFields where
  acceptval : AcceptType
  availTools : UInt32
  serverIV : Block

def readServerOK (cntrl : Control) (buf : Vector UInt8 32) : ServerOKFields where
  acceptval := getAcceptType (byte buf 15)
  availTools := if cntrl.protocolVersion = 0 then BWL_TOOL_IPERF else load32 buf 0
  serverIV := blockAt buf 16 (by omega)

/-! ## The stages -/

section Open

variable (rijndaelEncrypt rijndaelDecrypt : Block → Block → Block)

/-- Up to the connection. -/
def startConnection (env : OpenEnv) : Except ErrSeverity Control :=
  if !env.ctxValid then .error .fatal
  else if !env.cntrlAlloc then .error .fatal
  else if !env.serverAddr then .error .fatal
  else if !env.sockType then .error .fatal
  else if !env.connected then .error .fatal
  else .ok .alloc

/-- The greeting of the server, read into the record. -/
def takeServerGreeting (cntrl : Control) (received : List UInt8) :
    Except ErrSeverity (Control × ServerGreeting × List UInt8) :=
  if cntrl.state ≠ stateInitial then .error .fatal
  else
    match readni 32 received with
    | none => .error .fatal
    | some (buf, rest) =>
      let g := readServerGreeting buf
      .ok ({ cntrl with protocolVersion := g.protocolVersion, state := stateSetup }, g, rest)

/-- `strncpy` into the zeros of `userid_buffer`. -/
def copyUserid (userid : List UInt8) : UserID :=
  Vector.ofFn fun i => (userid.takeWhile (· ≠ 0)).getD i.val 0

/-- "Retrieve key if needed". -/
def fetchKey (env : OpenEnv) (cntrl : Control) (userid : Option (List UInt8))
    (modeAvail : SessionMode) : Except ErrSeverity (Control × Option Block) :=
  match userid with
  | none => .ok (cntrl, none)
  | some userid =>
    if modeAvail &&& BWL_MODE_DOCIPHER = 0 then .ok (cntrl, none)
    else
      let name := copyUserid userid
      match env.getAESKey with
      | none => .ok ({ cntrl with useridBuffer := name }, none)
      | some func =>
        if (func name).success then
          .ok ({ cntrl with useridBuffer := name, userid := some name }, some (func name).binKey)
        else if (func name).err ≠ .ok then .error .fatal
        else .ok ({ cntrl with useridBuffer := name }, none)

/-- `_BWLCallCheckControlPolicy` of the client. -/
def checkOwnPolicy (env : OpenEnv) (mode : SessionMode) (userid : Option UserID) :
    Bool × ErrSeverity :=
  match env.checkControlPolicy with
  | none => (true, .ok)
  | some func => func mode userid

/-- The loop over the modes, with the severity the last call of the policy has left. -/
def selectMode (env : OpenEnv) (userid : Option UserID) (modeAvail : SessionMode) :
    List SessionMode → ErrSeverity → Except ErrSeverity (SessionMode × ErrSeverity)
  | [], err => if err ≠ .ok then .error .fatal else .error err
  | doMode :: modes, err =>
    if err ≠ .ok then .error .fatal
    else if modeAvail &&& doMode = 0 then selectMode env userid modeAvail modes err
    else
      let policy := checkOwnPolicy env doMode userid
      if policy.1 then .ok (doMode, policy.2)
      else selectMode env userid modeAvail modes policy.2

/-- The order in which the modes are tried. -/
def modeOrder (modeReqMask : SessionMode) : List SessionMode :=
  if modeReqMask &&& BWL_MODE_LEAST_RESTRICTIVE ≠ 0 then
    [BWL_MODE_OPEN, BWL_MODE_AUTHENTICATED, BWL_MODE_ENCRYPTED]
  else [BWL_MODE_ENCRYPTED, BWL_MODE_AUTHENTICATED, BWL_MODE_OPEN]

/-- "Initialize all the encryption values as necessary", with the token; an open connection sends
none. -/
def startCipher (env : OpenEnv) (cntrl : Control) (key : Option Block) (challenge : Block) :
    Except ErrSeverity (Control × Token) :=
  if cntrl.mode &&& BWL_MODE_DOCIPHER = 0 then .ok (cntrl, ⟨zeroBlock, zeroBlock⟩)
  else
    match key, env.sessionKey with
    -- a cipher mode is never picked without a key
    | none, _ => .error .fatal
    | some _, none => .error .fatal
    | some key, some sessionKey =>
      match encryptToken rijndaelEncrypt key ⟨challenge, sessionKey⟩, env.writeIV with
      | none, _ => .error .fatal
      | some _, none => .error .fatal
      | some token, some writeIV =>
        .ok ({ cntrl with sessionKey := sessionKey, writeIV := writeIV }, token)

/-- `_BWLWriteClientGreeting`, between two looks at the clock. -/
def giveClientGreeting (env : OpenEnv) (cntrl : Control) (token : Token) :
    Except ErrSeverity (Vector UInt8 68 × Num64) :=
  match env.timestart with
  | none => .error .fatal
  | some timestart =>
    if cntrl.state ≠ stateSetup then .error .fatal
    else if env.greetingWritten then .ok (encodeClientGreeting cntrl token, timestart)
    else .error .fatal

/-- `_BWLReadServerOK`, and the answer of the server. -/
def takeServerOK (env : OpenEnv) (cntrl : Control) (err : ErrSeverity) (timestart : Num64)
    (received : List UInt8) : Except ErrSeverity (Control × UInt32 × List UInt8) :=
  if cntrl.state ≠ stateSetup then .error .fatal
  else
    match readni 32 received with
    | none => .error .fatal
    | some (buf, rest) =>
      let ok := readServerOK cntrl buf
      if ok.acceptval = .invalid then .error .fatal
      else if ok.acceptval ≠ .accept then .error err
      else
        match env.timeend with
        | none => .error .fatal
        | some timeend =>
          .ok ({ cntrl with
            readIV := ok.serverIV
            state := stateUptime
            rttBound := num64Sub timeend timestart }, ok.availTools, rest)

/-- `_BWLReadServerUptime`. -/
def takeServerUptime (cntrl : Control) (received : List UInt8) :
    Except ErrSeverity (Control × Num64 × List UInt8) :=
  if stateUptime &&& cntrl.state = 0 then .error .fatal
  else
    match readni 16 received with
    | none => .error .fatal
    | some (block, rest) =>
      match receiveBlocks rijndaelDecrypt cntrl 1 [block] with
      | some ([buf], cntrl, _) =>
        if load buf 8 8 ≠ List.replicate 8 0 then .error .fatal
        else .ok ({ cntrl with state := stateRequest }, load64 buf 0, rest)
      | _ => .error .fatal

/-- An open connection: its record, what the caller gets with it, the greeting that was sent and
what has arrived behind the answer. -/
structure Opened where
  cntrl : Control
  uptime : Num64
  tools : UInt32
  greeting : Vector UInt8 68
  rest : List UInt8

/-- `BWLControlOpen`, with the severity it returns where it gives up. -/
def controlOpen (env : OpenEnv) (modeReqMask : SessionMode) (userid : Option (List UInt8)) :
    Except ErrSeverity Opened := do
  let cntrl ← startConnection env
  let (cntrl, greeting, received) ← takeServerGreeting cntrl env.received
  let modeAvail := greeting.modeAvail &&& modeReqMask
  let (cntrl, key) ← fetchKey env cntrl userid modeAvail
  let modeAvail := if key.isNone then modeAvail &&& ~~~BWL_MODE_DOCIPHER else modeAvail
  let (mode, err) ← selectMode env cntrl.userid modeAvail (modeOrder modeReqMask) .ok
  let cntrl := { cntrl with mode := mode }
  let (cntrl, token) ← startCipher rijndaelEncrypt env cntrl key greeting.challenge
  let (written, timestart) ← giveClientGreeting env cntrl token
  let (cntrl, tools, received) ← takeServerOK env cntrl err timestart received
  let (cntrl, uptime, rest) ← takeServerUptime rijndaelDecrypt cntrl received
  return ⟨cntrl, uptime, tools, written, rest⟩

variable {rijndaelEncrypt rijndaelDecrypt} {env : OpenEnv} {cntrl cntrl' : Control}
  {key : Option Block} {challenge : Block} {token : Token} {received rest : List UInt8}

/-! ## What the stages let through -/

theorem readni_eq_some {n : Nat} {s rest : List UInt8} {buf : Vector UInt8 n}
    (h : readni n s = some (buf, rest)) : s = buf.toList ++ rest := by
  unfold readni readn at h
  split at h
  · rename_i hlen
    cases h
    have hbuf : (Vector.ofFn fun i : Fin n => (s.take n).getD i.val 0).toList = s.take n := by
      apply List.ext_getElem
      · simp [hlen]
      · intro i hi hi'
        rw [List.length_take] at hi'
        simp [List.getD_eq_getElem?_getD, show i < s.length by omega]
    rw [hbuf, List.take_append_drop]
  · cases h

theorem takeServerGreeting_ok {g : ServerGreeting}
    (h : takeServerGreeting cntrl received = .ok (cntrl', g, rest)) :
    ∃ buf, received = buf.toList ++ rest ∧ g = readServerGreeting buf ∧
      cntrl' = { cntrl with protocolVersion := g.protocolVersion, state := stateSetup } := by
  unfold takeServerGreeting at h
  split at h
  · cases h
  split at h
  · cases h
  · rename_i buf _ hread
    cases h
    exact ⟨buf, readni_eq_some hread, rfl, rfl⟩

/-- A key comes from the hook, for the user that was named. -/
theorem fetchKey_ok {userid : Option (List UInt8)} {modeAvail : SessionMode}
    (h : fetchKey env cntrl userid modeAvail = .ok (cntrl', key)) :
    cntrl'.protocolVersion = cntrl.protocolVersion ∧
      ∀ k, key = some k → ∃ user func, userid = some user ∧
        cntrl'.useridBuffer = copyUserid user ∧ env.getAESKey = some func ∧
        (func (copyUserid user)).success = true ∧ (func (copyUserid user)).binKey = k := by
  unfold fetchKey at h
  split at h
  · cases h
    exact ⟨rfl, fun k hk => by cases hk⟩
  rename_i user
  split at h
  · cases h
    exact ⟨rfl, fun k hk => by cases hk⟩
  dsimp only at h
  split at h
  · cases h
    exact ⟨rfl, fun k hk => by cases hk⟩
  rename_i func hfunc
  split at h
  · rename_i hsuccess
    cases h
    refine ⟨rfl, fun k hk => ?_⟩
    cases hk
    exact ⟨user, func, rfl, rfl, hfunc, hsuccess, rfl⟩
  split at h
  · cases h
  · cases h
    exact ⟨rfl, fun k hk => by cases hk⟩

/-- **The mode that is picked** is one of the order and available. -/
theorem selectMode_ok {userid : Option UserID} {modeAvail mode : SessionMode} {err' : ErrSeverity}
    (modes : List SessionMode) : ∀ {err : ErrSeverity},
    selectMode env userid modeAvail modes err = .ok (mode, err') →
      mode ∈ modes ∧ modeAvail &&& mode ≠ 0 := by
  induction modes with
  | nil =>
    intro err h
    unfold selectMode at h
    split at h
    · cases h
    · cases h
  | cons m modes ih =>
    intro err h
    unfold selectMode at h
    split at h
    · cases h
    split at h
    · exact ⟨List.mem_cons_of_mem _ (ih h).1, (ih h).2⟩
    rename_i havail
    dsimp only at h
    split at h
    · cases h
      exact ⟨List.mem_cons_self, havail⟩
    · exact ⟨List.mem_cons_of_mem _ (ih h).1, (ih h).2⟩

theorem oneMode_of_mem_modeOrder {modeReqMask mode : SessionMode}
    (h : mode ∈ modeOrder modeReqMask) : OneMode mode := by
  unfold modeOrder at h
  unfold OneMode
  split at h
  · simpa using h
  · simp only [List.mem_cons, List.not_mem_nil, or_false] at h
    tauto

/-- In a cipher mode there is a key, and the token is made with it. -/
theorem startCipher_ok
    (h : startCipher rijndaelEncrypt env cntrl key challenge = .ok (cntrl', token)) :
    cntrl'.mode = cntrl.mode ∧ cntrl'.protocolVersion = cntrl.protocolVersion ∧
      cntrl'.useridBuffer = cntrl.useridBuffer ∧
      (cntrl.mode &&& BWL_MODE_DOCIPHER ≠ 0 → ∃ k, key = some k ∧
        encryptToken rijndaelEncrypt k ⟨challenge, cntrl'.sessionKey⟩ = some token) := by
  unfold startCipher at h
  split at h
  · rename_i hopen
    cases h
    exact ⟨rfl, rfl, rfl, fun hc => absurd hopen hc⟩
  split at h
  · cases h
  · cases h
  rename_i k sessionKey _
  split at h
  · cases h
  · cases h
  · rename_i htoken _
    cases h
    exact ⟨rfl, rfl, rfl, fun _ => ⟨k, rfl, htoken⟩⟩

theorem giveClientGreeting_ok {written : Vector UInt8 68} {timestart : Num64}
    (h : giveClientGreeting env cntrl token = .ok (written, timestart)) :
    written = encodeClientGreeting cntrl token := by
  unfold giveClientGreeting at h
  split at h
  · cases h
  split at h
  · cases h
  split at h
  · cases h
    rfl
  · cases h

theorem takeServerOK_ok {err : ErrSeverity} {timestart : Num64} {tools : UInt32}
    (h : takeServerOK env cntrl err timestart received = .ok (cntrl', tools, rest)) :
    ∃ (buf : Vector UInt8 32) (rttBound : Num64), received = buf.toList ++ rest ∧
      cntrl' = { cntrl with
        readIV := blockAt buf 16 (by omega)
        state := stateUptime
        rttBound := rttBound } := by
  unfold takeServerOK at h
  split at h
  · cases h
  split at h
  · cases h
  rename_i buf _ hread
  dsimp only at h
  split at h
  · cases h
  split at h
  · cases h
  split at h
  · cases h
  · cases h
    exact ⟨buf, _, readni_eq_some hread, rfl⟩

/-- The uptime is the first block of the connection. -/
theorem takeServerUptime_ok {uptime : Num64}
    (h : takeServerUptime rijndaelDecrypt cntrl received = .ok (cntrl', uptime, rest)) :
    ∃ block : Block, received = block.toList ++ rest ∧ cntrl' = { cntrl with
      readIV := if cntrl.mode &&& BWL_MODE_DOCIPHER ≠ 0 then block else cntrl.readIV
      state := stateRequest } := by
  unfold takeServerUptime at h
  split at h
  · cases h
  split at h
  · cases h
  rename_i block _ hread
  refine ⟨block, ?_⟩
  split at h
  · rename_i hreceive
    split at h
    · cases h
    cases h
    refine ⟨readni_eq_some hread, ?_⟩
    unfold receiveBlocks at hreceive
    rw [if_neg (by simp)] at hreceive
    dsimp only at hreceive
    split at hreceive
    · rename_i hcipher
      cases hreceive
      rw [if_pos hcipher]
      rfl
    · rename_i hcipher
      cases hreceive
      rw [if_neg hcipher]
  · cases h

/-- What an open connection has gone through: the messages it read, the mode it picked and the
token it sent. -/
structure OpenedAs (rijndaelEncrypt : Block → Block → Block) (env : OpenEnv)
    (modeReqMask : SessionMode) (userid : Option (List UInt8)) (greeting ok : Vector UInt8 32)
    (block : Block) (token : Token) (o : Opened) : Prop where
  received : env.received = greeting.toList ++ (ok.toList ++ (block.toList ++ o.rest))
  version : o.cntrl.protocolVersion = (readServerGreeting greeting).protocolVersion
  one : OneMode o.cntrl.mode
  offered : (readServerGreeting greeting).modeAvail &&& o.cntrl.mode ≠ 0
  wanted : modeReqMask &&& o.cntrl.mode ≠ 0
  written : o.greeting = encodeClientGreeting o.cntrl token
  cipher : o.cntrl.mode &&& BWL_MODE_DOCIPHER ≠ 0 → ∃ user func key, userid = some user ∧
    o.cntrl.useridBuffer = copyUserid user ∧ env.getAESKey = some func ∧
    (func (copyUserid user)).success = true ∧ (func (copyUserid user)).binKey = key ∧
    encryptToken rijndaelEncrypt key
      ⟨(readServerGreeting greeting).challenge, o.cntrl.sessionKey⟩ = some token
  readIV : o.cntrl.mode &&& BWL_MODE_DOCIPHER ≠ 0 → o.cntrl.readIV = block

theorem bits_of_meet {a b m : UInt32} (h : a &&& b &&& m ≠ 0) : a &&& m ≠ 0 ∧ b &&& m ≠ 0 := by
  refine ⟨fun h0 => h ?_, fun h0 => h ?_⟩
  · rw [show a &&& b &&& m = a &&& m &&& b by ac_rfl, h0, UInt32.zero_and]
  · rw [show a &&& b &&& m = b &&& m &&& a by ac_rfl, h0, UInt32.zero_and]

/-- **Every open connection** has read three messages, picked a mode that was offered and wanted,
and in a cipher mode sent its session key in a token for the key of its user. -/
theorem controlOpen_ok {modeReqMask : SessionMode} {userid : Option (List UInt8)} {o : Opened}
    (h : controlOpen rijndaelEncrypt rijndaelDecrypt env modeReqMask userid = .ok o) :
    ∃ greeting ok block token,
      OpenedAs rijndaelEncrypt env modeReqMask userid greeting ok block token o := by
  unfold controlOpen at h
  obtain ⟨cntrl₀, -, h⟩ := Except.bind_ok h
  obtain ⟨⟨cntrl₁, g, received₁⟩, hgreeting, h⟩ := Except.bind_ok h
  obtain ⟨⟨cntrl₂, key⟩, hkey, h⟩ := Except.bind_ok h
  obtain ⟨⟨mode, err⟩, hmode, h⟩ := Except.bind_ok h
  obtain ⟨⟨cntrl₃, token⟩, hcipher, h⟩ := Except.bind_ok h
  obtain ⟨⟨written, timestart⟩, hwritten, h⟩ := Except.bind_ok h
  obtain ⟨⟨cntrl₄, tools, received₂⟩, hok, h⟩ := Except.bind_ok h
  obtain ⟨⟨cntrl₅, uptime, rest⟩, huptime, h⟩ := Except.bind_ok h
  cases h
  obtain ⟨greeting, hreceived, rfl, rfl⟩ := takeServerGreeting_ok hgreeting
  obtain ⟨hversion, hhook⟩ := fetchKey_ok hkey
  obtain ⟨hmem, havail⟩ := selectMode_ok _ hmode
  obtain ⟨hmode₃, hversion₃, huserid₃, htoken⟩ := startCipher_ok hcipher
  obtain ⟨ok, rttBound, rfl, rfl⟩ := takeServerOK_ok hok
  obtain ⟨block, rfl, rfl⟩ := takeServerUptime_ok huptime
  obtain rfl := giveClientGreeting_ok hwritten
  dsimp only at hmode₃ hversion₃ huserid₃ htoken
  have havail' : (readServerGreeting greeting).modeAvail &&& mode ≠ 0 ∧
      modeReqMask &&& mode ≠ 0 := by
    split at havail
    · exact bits_of_meet (bits_of_meet havail).1
    · exact bits_of_meet havail
  refine ⟨greeting, ok, block, token, hreceived, ?_, ?_, ?_, ?_, rfl, fun hc => ?_, fun hc => ?_⟩
  · exact hversion₃.trans hversion
  · dsimp only
    rw [hmode₃]
    exact oneMode_of_mem_modeOrder hmem
  · dsimp only
    rw [hmode₃]
    exact havail'.1
  · dsimp only
    rw [hmode₃]
    exact havail'.2
  · dsimp only at hc
    rw [hmode₃] at hc
    obtain ⟨k, hk, hencrypt⟩ := htoken hc
    obtain ⟨user, func, huser, hname, hfunc, hsuccess, hbin⟩ := hhook k hk
    exact ⟨user, func, k, huser, huserid₃.trans hname, hfunc, hsuccess, hbin, hencrypt⟩
  · exact if_pos hc

end Open

end Bwctl
