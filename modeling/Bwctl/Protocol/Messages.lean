import Bwctl.Protocol.TestRequest

/-!
# The other messages of a control connection (`bwlib/protocol.c`)

What arrives on the socket is a `Wire`: blocks, and the places where a read fails.  A function that
writes gets the outcome of its write; the blocks it sends are those of the message when all of it
went out.

* `Wire.recv`, `nextRequest` — reading blocks, and the first block of a message.
* `writeTestAccept` … `readTimeResponse` — the messages of two blocks.
* `writeStopSession`, `readStopSession` — the message with the results.
* `nextRequest_block`, `nextRequest_taken` — the first block of a message, on a wire.
-/

set_option autoImplicit false

namespace Bwctl

open Octets

/-! ## What arrives -/

/-- One thing a read comes upon: a block, the end of the connection or an error. -/
inductive Arrival where
  | block (b : Block)
  | closed
  | failed (interrupted : Bool)
  deriving DecidableEq

/-- What a socket has for its reader; behind the list it is closed. -/
abbrev Wire := List Arrival

/-- `_BWLReceiveBlocksIntr` for some blocks. -/
def Wire.recv : Nat → Wire → Recv × Wire
  | 0, w => (.data [], w)
  | _ + 1, [] => (.closed, [])
  | _ + 1, .closed :: w => (.closed, w)
  | _ + 1, .failed i :: w => (.failed i, w)
  | n + 1, .block b :: w =>
    match Wire.recv n w with
    | (.data bs, w') => (.data (b :: bs), w')
    | r => r

/-- Blocks that were sent, at the other end. -/
def arrive (blocks : List Block) : Wire := blocks.map .block

/-- **Blocks that were sent are received**, and nothing behind them. -/
theorem recv_arrive (blocks : List Block) (w : Wire) :
    Wire.recv blocks.length (arrive blocks ++ w) = (.data blocks, w) := by
  induction blocks with
  | nil => rfl
  | cons b blocks ih =>
    change Wire.recv (blocks.length + 1) (.block b :: (arrive blocks ++ w)) = _
    unfold Wire.recv
    rw [ih]

/-- `BWLReadRequestType`; in a wrong state nothing is read. -/
def nextRequest (c : Conn) (w : Wire) : Conn × RequestType × Wire :=
  if !c.isRequest || c.isReading then (c, .invalid, w)
  else
    let (r, w) := w.recv 1
    let (c, t) := readRequestType c r
    (c, t, w)

/-! ## TestAccept -/

/-- The two blocks of a `TestAccept`. -/
def encodeTestAccept (msg : Msg) (acceptval : AcceptType) (s : TestSession) : Msg :=
  let buf := store msg 0 (List.replicate 32 0)
  let buf := store buf 0 [acceptval.octet]
  let buf := if s.confServer then store buf 2 (be16 s.toolPort) else buf
  let buf := store buf 4 s.sid.toList
  store buf 20 (encodeTimeStamp s.reserveTime)

/-- `_BWLWriteTestAccept`. -/
def writeTestAccept (c : Conn) (sent : Bool) (acceptval : AcceptType) (s : TestSession) :
    Conn × ErrSeverity × List Block :=
  if !c.stateIs stateTestAccept then (c, .fatal, [])
  else if !sent then (c.fail, .fatal, [])
  else (c.leave stateTestAccept, .ok, chunks 16 2 (encodeTestAccept c.msg acceptval s))

/-- `_BWLReadTestAccept`: the connection, the severity, the accept value if one was stored, and the
    session. -/
def readTestAccept (c : Conn) (r : Recv) (s : TestSession) :
    Conn × ErrSeverity × Option AcceptType × TestSession :=
  if !c.stateIs stateTestAccept then (c, .fatal, none, s)
  else
    match r with
    | .data [first, second] =>
      let c := c.receive 0 [first, second]
      if load c.msg 28 4 ≠ List.replicate 4 0 then (c.fail, .fatal, none, s)
      else
        let acceptval := getAcceptType (byte c.msg 0)
        if acceptval = .invalid then (c.fail, .fatal, some acceptval, s)
        else
          let s := if s.confServer then
            { s with toolPort := load16 c.msg 2, sid := Vector.ofFn fun i => byte c.msg (4 + i.val) }
            else s
          (c.leave stateTestAccept, .ok, some acceptval,
            { s with reserveTime := decodeTimeStamp c.msg 20 })
    | _ => (c.fail, .fatal, none, s)

/-! ## StartSession and StartAck -/

/-- How a write ends: everything went out, a signal came, or there was an error. -/
inductive Sent where
  | done
  | interrupted
  | broken
  deriving DecidableEq, Repr

/-- `_BWLWriteStartSession`. -/
def writeStartSession (c : Conn) (sent : Bool) (peerport : UInt16) :
    Conn × ErrSeverity × List Block :=
  match c.tests with
  | none => (c, .fatal, [])
  | some s =>
    if !c.isRequest || c.isPending then (c, .fatal, [])
    else if !sent then (c.fail, .fatal, [])
    else
      let buf := store c.msg 0 (List.replicate 32 0)
      let buf := store buf 0 [2]
      let buf := if s.confClient then store buf 2 (be16 peerport) else buf
      ((c.enter stateStartAck).enter stateTest, .ok, chunks 16 2 buf)

/-- `_BWLReadStartSession`, after `BWLReadRequestType`: the connection, the severity and the port of
    the peer, if it is stored. -/
def readStartSession (c : Conn) (r : Recv) : Conn × ErrSeverity × Option UInt16 :=
  match c.tests with
  | none => (c, .fatal, none)
  | some s =>
    if !c.stateIs stateStartSession then (c, .fatal, none)
    else
      match r with
      | .data [block] =>
        let c := c.receive 16 [block]
        if load c.msg 16 16 ≠ List.replicate 16 0 then (c.fail, .fatal, none)
        else if byte c.msg 0 ≠ 2 then (c.fail, .fatal, none)
        else
          (((c.leave stateStartSession).enter stateStartAck).enter stateTest, .ok,
            if s.confClient then some (load16 c.msg 2) else none)
      | .failed true => (c, .fatal, none)
      | _ => (c.fail, .fatal, none)

/-- `_BWLWriteStartAck`; it is called with a session. -/
def writeStartAck (c : Conn) (sent : Sent) (peerport : UInt16) (acceptval : AcceptType) :
    Conn × ErrSeverity × List Block :=
  if !c.stateIs stateStartAck then (c, .fatal, [])
  else
    match sent with
    | .interrupted => (c, .fatal, [])
    | .broken => (c.fail, .fatal, [])
    | .done =>
      let buf := store c.msg 0 (List.replicate 32 0)
      let buf := store buf 0 [acceptval.octet]
      let buf := if c.tests.any (·.confServer) then store buf 2 (be16 peerport) else buf
      let c := c.leave stateStartAck
      let c := if c.stateIs stateTest ∧ acceptval ≠ .accept then c.leave stateTest else c
      (c, .ok, chunks 16 2 buf)

/-- `_BWLReadStartAck`: the connection, the severity, the accept value and the port of the peer, if
    it is stored. -/
def readStartAck (c : Conn) (r : Recv) : Conn × ErrSeverity × AcceptType × Option UInt16 :=
  if !c.stateIs stateStartAck then (c, .fatal, .invalid, none)
  else
    match r with
    | .data [first, second] =>
      let c := c.receive 0 [first, second]
      if load c.msg 16 16 ≠ List.replicate 16 0 then (c.fail, .fatal, .invalid, none)
      else
        let acceptval := getAcceptType (byte c.msg 0)
        if acceptval = .invalid then (c.fail, .fatal, .invalid, none)
        else
          let peerport := if c.tests.any (·.confServer) then some (load16 c.msg 2) else none
          let c := c.leave stateStartAck
          let c := if c.stateIs stateTest ∧ acceptval ≠ .accept then
            (c.leave stateTest).enter stateRequest else c
          (c, .ok, acceptval, peerport)
    | _ => (c.fail, .fatal, .invalid, none)

/-! ## TimeRequest and TimeResponse -/

/-- `_BWLWriteTimeRequest`. -/
def writeTimeRequest (c : Conn) (sent : Bool) : Conn × ErrSeverity × List Block :=
  if !c.isRequest || c.isPending then (c, .fatal, [])
  else if !sent then (c.fail, .fatal, [])
  else (c.enter stateTimeResponse, .ok,
    chunks 16 2 (store (store c.msg 0 [4]) 1 (List.replicate 31 0)))

/-- `_BWLReadTimeRequest`, after `BWLReadRequestType`. -/
def readTimeRequest (c : Conn) (r : Recv) : Conn × ErrSeverity :=
  if !c.stateIs stateTimeRequest then (c, .fatal)
  else
    match r with
    | .data [block] =>
      let c := c.receive 16 [block]
      if load c.msg 16 16 ≠ List.replicate 16 0 then (c.fail, .fatal)
      else ((c.leave stateTimeRequest).enter stateTimeResponse, .ok)
    | _ => (c.fail, .fatal)

/-- `_BWLWriteTimeResponse`. -/
def writeTimeResponse (c : Conn) (sent : Bool) (t : BWLTimeStamp) :
    Conn × ErrSeverity × List Block :=
  if !c.stateIs stateTimeResponse then (c, .fatal, [])
  else
    match encodeErrEstimate t with
    | none => (c, .fatal, [])
    | some errest =>
      if !sent then (c.fail, .fatal, [])
      else
        let buf := store c.msg 0 (List.replicate 32 0)
        let buf := store buf 0 (encodeTimeStamp t.tstamp)
        (c.leave stateTimeResponse, .ok, chunks 16 2 (store buf 8 errest))

/-- `_BWLReadTimeResponse`. -/
def readTimeResponse (c : Conn) (r : Recv) : Conn × ErrSeverity × Option BWLTimeStamp :=
  if !c.stateIs stateTimeResponse then (c, .fatal, none)
  else
    match r with
    | .data [first, second] =>
      let c := c.receive 0 [first, second]
      if load c.msg 16 16 ≠ List.replicate 16 0 then (c.fail, .fatal, none)
      else
        match decodeErrEstimate c.msg 8 (decodeTimeStamp c.msg 0) with
        | none => (c.fail, .fatal, none)
        | some t => (c.leave stateTimeResponse, .ok, some t)
    | _ => (c.fail, .fatal, none)

/-! ## StopSession -/

/-- A file with results that are to be sent; it can be examined (`fstat`, `fseeko`) or not. -/
structure DataFile where
  content : List UInt8
  examined : Bool
  deriving DecidableEq

/-- A file results are appended to, as long as `fwrite` succeeds. -/
structure ResultFile where
  content : List UInt8
  writable : Bool
  deriving DecidableEq

/-- Octets in a block of zeros. -/
def fileBlock (octets : List UInt8) : Block := Vector.ofFn fun i => octets.getD i.val 0

/-- `while(fsize >= _BWL_RIJNDAEL_BLOCK_SIZE)` of the writer. -/
def fullBlocks : Nat → List UInt8 → List Block
  | 0, _ => []
  | k + 1, content => fileBlock (content.take 16) :: fullBlocks k (content.drop 16)

/-- The blocks behind the header of a `StopSession` with results. -/
def resultBlocks (content : List UInt8) : List Block :=
  fullBlocks (content.length / 16) content ++
    (if content.length % 16 > 0 then [fileBlock (content.drop (16 * (content.length / 16)))]
      else []) ++ [zeroBlock]

/-- The accept value and the size `_BWLWriteStopSession` announces. -/
def announce (acceptval : AcceptType) : Option DataFile → AcceptType × UInt32
  | none => (acceptval, 0)
  | some f =>
    if !f.examined then (.failure, 0)
    else if f.content.length ≠ (UInt32.ofNat f.content.length).toNat then (.failure, 0)
    else (acceptval, UInt32.ofNat f.content.length)

/-- How the writes of a `StopSession` end: those of the header, and those of the data with the reads
    of the file. -/
structure StopSent where
  header : Bool
  data : Bool
  deriving DecidableEq

/-- The header of a `StopSession`. -/
def encodeStopSession (msg : Msg) (acceptval : AcceptType) (fsize : UInt32) : Msg :=
  let buf := store msg 0 (List.replicate 32 0)
  let buf := store buf 0 [3]
  let buf := store buf 8 (be32 fsize)
  store buf 1 [acceptval.octet]

/-- `_BWLWriteStopSession`. -/
def writeStopSession (c : Conn) (sent : StopSent) (acceptval : AcceptType) (fp : Option DataFile) :
    Conn × ErrSeverity × List Block :=
  if !(c.stateIs stateRequest && c.stateIs stateTest) then (c, .fatal, [])
  else
    let (acceptval, fsize) := announce acceptval fp
    let header := chunks 16 2 (encodeStopSession c.msg acceptval fsize)
    if !sent.header then (c, .fatal, [])
    else if fsize = 0 then (c, .ok, header)
    else if !sent.data then (c.fail, .fatal, [])
    else (c, .ok, header ++ resultBlocks (fp.elim [] (·.content)))

/-- One block of results, of which some octets are appended to the file. -/
def recvResult (n : Nat) (w : Wire) (fp : Option ResultFile) : Wire × Option ResultFile × Bool :=
  match w.recv 1 with
  | (.data [b], w) =>
    match fp with
    | none => (w, none, true)
    | some f =>
      if f.writable then (w, some { f with content := f.content ++ b.toList.take n }, true)
      else (w, some f, false)
  | (_, w) => (w, fp, false)

/-- `while(fsize >= _BWL_RIJNDAEL_BLOCK_SIZE)` of the reader. -/
def recvFull : Nat → Wire → Option ResultFile → Wire × Option ResultFile × Bool
  | 0, w, fp => (w, fp, true)
  | k + 1, w, fp =>
    let (w, fp, ok) := recvResult 16 w fp
    if ok then recvFull k w fp else (w, fp, false)

/-- The part of a block behind the full ones. -/
def recvRest (n : Nat) (w : Wire) (fp : Option ResultFile) : Wire × Option ResultFile × Bool :=
  if n > 0 then recvResult n w fp else (w, fp, true)

/-- The results and the block of zeros behind them, if there are results. -/
def recvResults (fsize : Nat) (w : Wire) (fp : Option ResultFile) :
    Wire × Option ResultFile × Bool :=
  if fsize = 0 then (w, fp, true)
  else
    let (w, fp, ok) := recvFull (fsize / 16) w fp
    if !ok then (w, fp, false)
    else
      let (w, fp, ok) := recvRest (fsize % 16) w fp
      if !ok then (w, fp, false)
      else
        match w.recv 1 with
        | (.data [b], w) => (w, fp, b = zeroBlock)
        | (_, w) => (w, fp, false)

/-- What `_BWLReadStopSession` leaves behind; the accept value is there if it was stored. -/
structure StopRead where
  conn : Conn
  wire : Wire
  err : ErrSeverity
  acceptval : Option AcceptType
  fp : Option ResultFile
  deriving DecidableEq

/-- `_BWLReadStopSession`, after `BWLReadRequestType`.  The results pass through the message buffer,
    which the next message fills anew. -/
def readStopSession (c : Conn) (w : Wire) (fp : Option ResultFile) : StopRead :=
  if !(c.stateIs stateRequest && c.stateIs stateTest) then ⟨c, w, .fatal, none, fp⟩
  else
    match w.recv 1 with
    | (.data [block], w) =>
      let c := c.receive 16 [block]
      if load c.msg 16 16 ≠ List.replicate 16 0 then ⟨c.fail, w, .fatal, none, fp⟩
      else
        let aval := getAcceptType (byte c.msg 1)
        if aval = .invalid then ⟨c.fail, w, .fatal, some aval, fp⟩
        else
          let (w, fp, ok) := recvResults (load32 c.msg 8).toNat w fp
          if !ok then ⟨c.fail, w, .fatal, some aval, fp⟩
          else ⟨(c.leave stateStopSession).enter stateRequest, w, .ok, some aval, fp⟩
    | (.failed true, w) => ⟨c, w, .fatal, none, fp⟩
    | (_, w) => ⟨c.fail, w, .fatal, none, fp⟩

/-! ## Messages on a wire -/

/-- A bit that is set stays set when others are. -/
theorem stateIs_enter {c : Conn} {bits : UInt32} (h : c.stateIs bits = true) (more : UInt32) :
    (c.enter more).stateIs bits = true := by
  have habsorb : bits &&& c.state = bits &&& (c.state ||| more) &&& c.state := by
    apply UInt32.eq_of_toBitVec_eq
    ext i hi
    simp
    cases c.state.toBitVec[i] <;> simp
  unfold Conn.stateIs at *
  rw [decide_eq_true_iff] at h ⊢
  rw [Conn.enter_state]
  intro hzero
  apply h
  rw [habsorb, hzero]
  exact UInt32.zero_and

theorem arrive_append (bs cs : List Block) : arrive (bs ++ cs) = arrive bs ++ arrive cs :=
  List.map_append

/-- One block is received as it was sent. -/
theorem recv_block (b : Block) (w : Wire) : Wire.recv 1 (.block b :: w) = (.data [b], w) :=
  recv_arrive [b] w

/-- **The first block of a message** in its place, on a wire. -/
theorem nextRequest_block {c : Conn} {block : Block} {t : RequestType}
    (hrequest : c.isRequest = true) (hreading : c.isReading = false)
    (hnumber : t.number = some (byte block 0)) (hstop : t = .stopSession ↔ c.stateIs stateTest = true)
    (w : Wire) :
    nextRequest c (.block block :: w) = ((c.receive 0 [block]).enter t.reading, t, w) := by
  unfold nextRequest
  rw [hrequest, hreading]
  simp only [Bool.not_true, Bool.or_self, Bool.false_eq_true, if_false]
  rw [recv_block, readRequestType_block hrequest hreading hnumber hstop]

theorem recv_one {w w' : Wire} {blocks : List Block} (h : w.recv 1 = (.data blocks, w')) :
    ∃ b, blocks = [b] ∧ w = .block b :: w' := by
  cases w with
  | nil => cases h
  | cons x w =>
    cases x with
    | closed => cases h
    | failed i => cases h
    | block b =>
      rw [recv_block] at h
      cases h
      exact ⟨b, rfl, rfl⟩

/-- A message that was taken had its first block on the wire, in its place. -/
structure Taken (c : Conn) (w : Wire) (t : RequestType) (first : Block) (w' : Wire) : Prop where
  wire : w = .block first :: w'
  request : c.isRequest = true
  reading : c.isReading = false
  number : t.number = some (byte first 0)
  stop : t = .stopSession ↔ c.stateIs stateTest = true
  result : nextRequest c w = ((c.receive 0 [first]).enter t.reading, t, w')

/-- **A message that was taken.** -/
theorem nextRequest_taken {c : Conn} {w : Wire} (h : (nextRequest c w).2.1.number ≠ none) :
    ∃ first w', Taken c w (nextRequest c w).2.1 first w' := by
  unfold nextRequest at h ⊢
  split at h
  · exact absurd rfl h
  rename_i hopen
  rw [if_neg hopen]
  have hspec := readRequestType_spec c (w.recv 1).1
  cases hrecv : w.recv 1 with
  | mk r w' =>
    rw [hrecv] at hspec h
    dsimp only at hspec h ⊢
    cases hres : readRequestType c r with
    | mk c' t =>
      rw [hres] at hspec h
      cases hspec with
      | wrongState hwrong => exact absurd hwrong hopen
      | refused _ _ ht =>
        rcases ht with rfl | rfl <;> exact absurd rfl h
      | message block _ hr hrequest hreading hknown hnumber hstop =>
        obtain ⟨b, hb, hw⟩ := recv_one (hr ▸ hrecv)
        obtain rfl := List.singleton_inj.1 hb
        refine ⟨block, w', hw, hrequest, hreading, hnumber, hstop, ?_⟩
        rw [hw]
        exact nextRequest_block hrequest hreading hnumber hstop w'

/-! ## StopSession messages -/

/-- What is not below `BWLErrOK` is `BWLErrOK`. -/
theorem ErrSeverity.eq_ok {err : ErrSeverity} (h : ¬ err.prio < ErrSeverity.ok.prio) : err = .ok := by
  cases err <;> simp [ErrSeverity.prio] at h ⊢

/-- A StopSession is written in a test only, and leaves the connection as it is. -/
theorem writeStopSession_cases (c : Conn) (sent : StopSent) (a : AcceptType)
    (fp : Option DataFile) :
    (writeStopSession c sent a fp).2.1 = .fatal ∨
      (writeStopSession c sent a fp).2.1 = .ok ∧ (writeStopSession c sent a fp).1 = c := by
  unfold writeStopSession
  split
  · exact Or.inl rfl
  dsimp only
  split
  · exact Or.inl rfl
  split
  · exact Or.inr ⟨rfl, rfl⟩
  split
  · exact Or.inl rfl
  · exact Or.inr ⟨rfl, rfl⟩

/-- A StopSession that is read leaves the test as it was. -/
theorem readStopSession_ok {c : Conn} {w : Wire} {fp : Option ResultFile}
    (h : (readStopSession c w fp).err = .ok) :
    (readStopSession c w fp).conn.state = (c.state &&& ~~~stateStopSession) ||| stateRequest ∧
      (readStopSession c w fp).conn.tests = c.tests := by
  unfold readStopSession at h ⊢
  split at h
  · cases h
  rename_i hstate
  rw [if_neg hstate]
  generalize w.recv 1 = read at h ⊢
  obtain ⟨(_ | ⟨block, _ | ⟨second, rest⟩⟩) | _ | (_ | _), w'⟩ := read
  · cases h
  · dsimp only at h ⊢
    split at h
    · cases h
    rename_i hpad
    rw [if_neg hpad]
    split at h
    · cases h
    rename_i haval
    rw [if_neg haval]
    split at h
    · cases h
    rename_i hok
    rw [if_neg hok]
    exact ⟨rfl, rfl⟩
  all_goals cases h

end Bwctl
