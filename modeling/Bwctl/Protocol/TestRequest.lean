import Bwctl.Protocol.Connection

/-!
# The TestRequest message (`_BWLWriteTestRequest`, `_BWLReadTestRequest`, `bwlib/protocol.c`)

A part common to all tools and a part of the tool share one buffer; what is written into it and
what is read out of it depends on the protocol version of the connection.

* `encodeTestRequest`, `writeTestRequest` — the message of a session, or why there is none.
* `decodeTestRequest`, `readTestRequest` — the session of a message, or where the reader gave up.
* `scaleBandwidth_spec` — the bandwidth is scaled down as little as necessary.
-/

set_option autoImplicit false

namespace Bwctl

open Octets

/-! ## Versions and tools -/

def BWL_MODE_PROTOCOL_TESTER_NEGOTIATION_VERSION : UInt32 := 0x01000000
def BWL_MODE_PROTOCOL_OMIT_VERSION : UInt32 := 0x02000000
def BWL_MODE_PROTOCOL_1_5_VERSION : UInt32 := 0x04000000
def BWL_MODE_PROTOCOL_1_5_2_VERSION : UInt32 := 0x05000000
def BWL_MODE_PROTOCOL_MSS_VERSION : UInt32 := 0x06000000

def BWL_TOOL_IPERF : BWLToolType := 0x01
def BWL_TOOL_NUTTCP : BWLToolType := 0x02
def BWL_TOOL_THRULAY : BWLToolType := 0x04
def BWL_TOOL_IPERF3 : BWLToolType := 0x08
def BWL_TOOL_PING : BWLToolType := 0x10
def BWL_TOOL_TRACEROUTE : BWLToolType := 0x20
def BWL_TOOL_TRACEPATH : BWLToolType := 0x40
def BWL_TOOL_OWAMP : BWLToolType := 0x80
def BWL_TOOL_PARIS_TRACEROUTE : BWLToolType := 0x100

/-- The pair of functions a tool has for its part of the message. -/
inductive ToolFormat where
  | throughput
  | traceroute
  | ping
  deriving DecidableEq, Repr

/-- `tool_list`: the tools that can be compiled in. -/
def toolList : List (BWLToolType × ToolFormat) :=
  [(BWL_TOOL_OWAMP, .ping), (BWL_TOOL_TRACEPATH, .traceroute),
   (BWL_TOOL_TRACEROUTE, .traceroute), (BWL_TOOL_PARIS_TRACEROUTE, .traceroute),
   (BWL_TOOL_PING, .ping), (BWL_TOOL_IPERF, .throughput), (BWL_TOOL_IPERF3, .throughput),
   (BWL_TOOL_NUTTCP, .throughput), (BWL_TOOL_THRULAY, .throughput)]

/-- `ctx->tool_list`: the tools that are compiled in. -/
structure ToolTable where
  tools : List (BWLToolType × ToolFormat)
  compiled : tools ⊆ toolList

/-- The table of a build with every tool. -/
def fullTable : ToolTable := ⟨toolList, List.Subset.refl _⟩

/-- The hosts of the runs on fixed inputs. -/
def docSender : SockAddr := .inet #v[192, 0, 2, 1]

def docReceiver : SockAddr := .inet #v[192, 0, 2, 2]

def campusSender : SockAddr := .inet #v[10, 0, 0, 1]

def campusReceiver : SockAddr := .inet #v[10, 0, 0, 2]

/-- The loop over `ctx->tool_list`. -/
def ToolTable.format? (t : ToolTable) (id : BWLToolType) : Option ToolFormat :=
  (t.tools.find? fun p => p.1 == id).map (·.2)

/-- Seven blocks, and one more since tools are negotiated. -/
def requestBlocks (version : UInt32) : Nat :=
  if version ≥ BWL_MODE_PROTOCOL_TESTER_NEGOTIATION_VERSION then 8 else 7

/-! ## The part of the tool, written -/

/-- `while(bandwidth > 0xFFFFFFFFULL)`: the scaled bandwidth and its exponent. -/
def scaleBandwidth : Nat → UInt64 → UInt8 → UInt64 × UInt8
  | 0, bandwidth, exp => (bandwidth, exp)
  | fuel + 1, bandwidth, exp =>
    if bandwidth > 0xffffffff then scaleBandwidth fuel (bandwidth >>> 1) (exp + 1)
    else (bandwidth, exp)

def _BWL_DYNAMIC_WINDOW_SIZE : UInt8 := 0x1

/-- The options of a throughput tool that came with the negotiation of tools. -/
def unparseNegotiated (buf : Msg) (t : BWLTestSpec) (version : UInt32) (exp : UInt8) :
    Except String Msg :=
  if version ≥ BWL_MODE_PROTOCOL_TESTER_NEGOTIATION_VERSION then
    .ok (store (store (store (store buf 94 [t.parallelStreams]) 96 (be32 t.toolId)) 109 [exp])
      111 [t.units])
  else if t.parallelStreams ≠ 0 then .error "Legacy server does not support -P option"
  else if t.units ≠ 0 then .error "Legacy server does not support -f option"
  else if exp > 0 then .error "Legacy server does not support -b greater than 4.3g"
  else .ok buf

/-- The segment size of a throughput tool. -/
def unparseMss (buf : Msg) (t : BWLTestSpec) (version : UInt32) : Except String Msg :=
  if version ≥ BWL_MODE_PROTOCOL_MSS_VERSION then .ok (store buf 104 (be16 t.mss))
  else if t.mss > 0 then .error "Legacy server does not support -M option"
  else .ok buf

/-- The omitted seconds of a throughput tool. -/
def unparseOmit (buf : Msg) (t : BWLTestSpec) (version : UInt32) : Except String Msg :=
  if version ≥ BWL_MODE_PROTOCOL_OMIT_VERSION then .ok (store buf 110 [t.omit_])
  else if t.omit_ ≠ 0 then .error "Legacy server does not support -O option"
  else .ok buf

/-- `BWLGenericUnparseThroughputParameters`, up to the options. -/
def unparseRates (buf : Msg) (t : BWLTestSpec) (version : UInt32) (bandwidth : UInt64) : Msg :=
  let buf := if t.udp then store buf 1 [byte buf 1 ||| 0x10] else buf
  let buf := store buf 76 (be32 bandwidth.toUInt32)
  let buf := store buf 80 (be32 t.lenBuffer)
  let buf := store buf 84 (be32 t.windowSize)
  let buf := store buf 88 (be32 (if version ≥ BWL_MODE_PROTOCOL_1_5_VERSION then
    t.reportInterval.toUInt32 else (t.reportInterval / 1000).toUInt32))
  if t.dynamicWindowSize then store buf 92 [byte buf 92 ||| _BWL_DYNAMIC_WINDOW_SIZE] else buf

/-- `BWLGenericUnparseThroughputParameters`. -/
def unparseThroughput (buf : Msg) (t : BWLTestSpec) (version : UInt32) (confClient : Bool) :
    Except String Msg :=
  if version < BWL_MODE_PROTOCOL_1_5_VERSION ∧ (t.bandwidth > 0 ∧ !t.udp) ∧ confClient then
    .error "Legacy server does not support setting the TCP bandwidth"
  else do
    let scaled := scaleBandwidth 32 t.bandwidth 0
    let buf ← unparseNegotiated (unparseRates buf t version scaled.1) t version scaled.2
    let buf ← unparseMss buf t version
    unparseOmit buf t version

/-- `BWLGenericUnparseTracerouteParameters`. -/
def unparseTraceroute (buf : Msg) (t : BWLTestSpec) (version : UInt32) : Except String Msg :=
  if t.tos ≠ 0 ∧ ¬ version ≥ BWL_MODE_PROTOCOL_1_5_2_VERSION then
    .error "Legacy server does not support setting TOS bit"
  else
    .ok (store (store (store (store buf 4 (be32 t.duration)) 76 [t.tracerouteFirstTtl])
      77 [t.tracerouteLastTtl]) 78 (be16 t.traceroutePacketSize))

/-- `BWLGenericUnparsePingParameters`. -/
def unparsePing (buf : Msg) (t : BWLTestSpec) (version : UInt32) : Except String Msg :=
  if t.tos ≠ 0 ∧ ¬ version ≥ BWL_MODE_PROTOCOL_1_5_2_VERSION then
    .error "Legacy server does not support setting TOS bit"
  else
    .ok (store (store (store (store buf 76 (be16 t.pingPacketCount)) 78 (be16 t.pingPacketSize))
      80 (be16 t.pingInterpacketTime)) 84 [t.pingPacketTtl])

/-- `BWLToolUnparseRequestParameters`. -/
def unparseRequestParameters (tools : ToolTable) (buf : Msg) (s : TestSession) (version : UInt32) :
    Except String Msg :=
  match tools.format? s.testSpec.toolId with
  | some .throughput => unparseThroughput buf s.testSpec version s.confClient
  | some .traceroute => unparseTraceroute buf s.testSpec version
  | some .ping => unparsePing buf s.testSpec version
  | none => .error "Problem writing test request parameters"

/-! ## The message, written -/

/-- The IP version of the two addresses, and their octets at the front of 16. -/
def requestAddrs (t : BWLTestSpec) : Except String (UInt8 × List UInt8 × List UInt8) :=
  match t.client, t.server with
  | some (.inet client), some (.inet server) => .ok (4, client.toList, server.toList)
  | some (.inet6 client), some (.inet6 server) => .ok (6, client.toList, server.toList)
  | some .other, some .other => .error "Invalid IP Address Family"
  | some _, some _ => .error "Address Family mismatch"
  | _, _ => .error "_BWLWriteTestRequest: Unable to decode sockaddrs"

/-- The stores of `_BWLWriteTestRequest` up to the SID. -/
def storeHeader (buf : Msg) (s : TestSession) (ipvn : UInt8) (errest client server : List UInt8) :
    Msg :=
  let t := s.testSpec
  let buf := store buf 0 [1, ipvn &&& 0xf, if s.confClient then 1 else 0,
    if s.confServer then 1 else 0]
  let buf := store buf 8 (encodeTimeStamp t.reqTime.tstamp)
  let buf := store buf 16 (encodeTimeStamp t.latestTime)
  let buf := store buf 24 errest
  let buf := store buf 26 (be16 s.toolPort)
  let buf := store buf 28 client
  let buf := store buf 44 server
  store buf 60 s.sid.toList

/-- The stores of `_BWLWriteTestRequest` from the tool on; the output format is stored as a word of
    a little-endian host. -/
def storeOptions (buf : Msg) (t : BWLTestSpec) : Msg :=
  let buf := store buf 96 (be32 t.toolId)
  let buf := store buf 4 (be32 t.duration)
  let buf := store buf 100 [if t.verbose then 1 else 0]
  let buf := store buf 108 [t.outformat, 0, 0, 0]
  let buf := store buf 101 [if t.serverSends then 1 else 0]
  let buf := store buf 102 [if t.noServerEndpoint then 1 else 0]
  if t.tos ≠ 0 then store buf 93 [t.tos] else buf

/-- `_BWLWriteTestRequest`, the message buffer: both checks of the direction are in the source. -/
def encodeTestRequest (tools : ToolTable) (msg : Msg) (s : TestSession) (version : UInt32) :
    Except String Msg := do
  let t := s.testSpec
  let (ipvn, client, server) ← requestAddrs t
  let buf := store msg 0 (List.replicate (16 * requestBlocks version) 0)
  match encodeErrEstimate t.reqTime with
  | none => .error "Invalid req_time time errest"
  | some errest =>
    let buf := storeHeader buf s ipvn errest client server
    if ¬ version ≥ BWL_MODE_PROTOCOL_TESTER_NEGOTIATION_VERSION ∧ t.outformat ≠ 0 then
      .error "Legacy server does not support -y option"
    else if ¬ version ≥ BWL_MODE_PROTOCOL_1_5_VERSION ∧ t.serverSends then
      .error "Legacy server does not support firewall mode"
    else if ¬ version ≥ BWL_MODE_PROTOCOL_1_5_VERSION ∧ t.serverSends then
      .error "Legacy server does not support firewall mode"
    else unparseRequestParameters tools (storeOptions buf t) s version

/-- `_BWLWriteTestRequest`: the connection, the severity and the blocks that were sent. -/
def writeTestRequest (tools : ToolTable) (sent : Bool) (c : Conn) (s : TestSession) :
    Conn × ErrSeverity × List Block :=
  if !c.isRequest || c.isPending then (c, .fatal, [])
  else
    match encodeTestRequest tools c.msg s c.protocolVersion with
    | .error _ => (c, .fatal, [])
    | .ok buf =>
      if !sent then (c.fail, .fatal, [])
      else (c.enter stateTestAccept, .ok, chunks 16 (requestBlocks c.protocolVersion) buf)

/-! ## The part of the tool, read -/

/-- `BWLGenericParseThroughputParameters`; a shift by more than 63 bits, which C leaves undefined,
    is taken modulo 64. -/
def parseThroughput (buf : Msg) (t : BWLTestSpec) (version : UInt32) : BWLTestSpec :=
  let bandwidth := (load32 buf 76).toUInt64
  let t := { t with
    udp := byte buf 1 >>> 4 ≠ 0
    bandwidth := bandwidth
    lenBuffer := load32 buf 80
    windowSize := load32 buf 84
    reportInterval := if version < BWL_MODE_PROTOCOL_1_5_VERSION then
      (load32 buf 88 * 1000).toUInt16 else (load32 buf 88).toUInt16
    dynamicWindowSize := byte buf 92 &&& _BWL_DYNAMIC_WINDOW_SIZE ≠ 0 }
  let t := if version ≥ BWL_MODE_PROTOCOL_TESTER_NEGOTIATION_VERSION then
    { t with
      parallelStreams := byte buf 94
      bandwidth := bandwidth <<< (byte buf 109).toUInt64
      units := byte buf 111 } else t
  let t := if version ≥ BWL_MODE_PROTOCOL_OMIT_VERSION then
    { t with verbose := byte buf 100 ≠ 0, omit_ := byte buf 110 } else t
  if version ≥ BWL_MODE_PROTOCOL_MSS_VERSION then { t with mss := load16 buf 104 } else t

/-- "tos" of the tools that had none before version 1.5.2. -/
def parseTos (t : BWLTestSpec) (version : UInt32) : BWLTestSpec :=
  if t.tos ≠ 0 ∧ ¬ version ≥ BWL_MODE_PROTOCOL_1_5_2_VERSION then { t with tos := 0 } else t

/-- `BWLGenericParseTracerouteParameters`. -/
def parseTraceroute (buf : Msg) (t : BWLTestSpec) (version : UInt32) : BWLTestSpec :=
  { parseTos t version with
    tracerouteFirstTtl := byte buf 76
    tracerouteLastTtl := byte buf 77
    traceroutePacketSize := load16 buf 78 }

/-- `BWLGenericParsePingParameters`. -/
def parsePing (buf : Msg) (t : BWLTestSpec) (version : UInt32) : BWLTestSpec :=
  { parseTos t version with
    pingPacketCount := load16 buf 76
    pingPacketSize := load16 buf 78
    pingInterpacketTime := load16 buf 80
    pingPacketTtl := byte buf 84 }

/-- `BWLToolParseRequestParameters`; `none` is a tool that is not compiled in. -/
def parseRequestParameters (tools : ToolTable) (buf : Msg) (t : BWLTestSpec) (version : UInt32) :
    Option BWLTestSpec :=
  match tools.format? t.toolId with
  | some .throughput => some (parseThroughput buf t version)
  | some .traceroute => some (parseTraceroute buf t version)
  | some .ping => some (parsePing buf t version)
  | none => none

/-! ## The message, read -/

/-- Where `_BWLReadTestRequest` gives up: the severity, the accept value, whether the reserved session
    is freed, and what is logged. -/
structure ReadFailure where
  err : ErrSeverity
  acceptval : AcceptType
  freed : Bool
  text : String
  deriving DecidableEq

/-- `goto error` with the values the function starts with. -/
def ReadFailure.fatal (text : String) : ReadFailure := ⟨.fatal, .invalid, false, text⟩

/-- `goto error` with `BWLErrWARNING` and `BWL_CNTRL_FAILURE`. -/
def ReadFailure.warning (text : String) : ReadFailure := ⟨.warning, .failure, false, text⟩

/-- The addresses of a request. -/
def decodeAddrs (buf : Msg) : Option (SockAddr × SockAddr) :=
  if byte buf 1 &&& 0xf = 6 then
    some (.inet6 (Vector.ofFn fun i => byte buf (28 + i.val)),
      .inet6 (Vector.ofFn fun i => byte buf (44 + i.val)))
  else if byte buf 1 &&& 0xf = 4 then
    some (.inet (Vector.ofFn fun i => byte buf (28 + i.val)),
      .inet (Vector.ofFn fun i => byte buf (44 + i.val)))
  else none

/-- The SID of a request. -/
def decodeSid (buf : Msg) : SID := Vector.ofFn fun i => byte buf (60 + i.val)

/-- The tool a request names, if it names at most one. -/
def decodeTool (buf : Msg) (version : UInt32) : Option BWLToolType :=
  if version ≥ BWL_MODE_PROTOCOL_TESTER_NEGOTIATION_VERSION then
    if load32 buf 96 &&& (load32 buf 96 - 1) ≠ 0 then none else some (load32 buf 96)
  else some BWL_TOOL_IPERF

/-- The specification of a new request before the part of the tool is read. -/
def decodeSpec (buf : Msg) (version : UInt32) (reqTime : BWLTimeStamp) (toolId : BWLToolType) :
    BWLTestSpec :=
  let reverse := version ≥ BWL_MODE_PROTOCOL_1_5_VERSION
  { BWLTestSpec.zero with
    reqTime := reqTime
    latestTime := decodeTimeStamp buf 16
    toolId := toolId
    duration := load32 buf 4
    verbose := if version ≥ BWL_MODE_PROTOCOL_1_5_2_VERSION then byte buf 100 ≠ 0 else true
    tos := byte buf 93
    serverSends := if reverse then byte buf 101 ≠ 0 else false
    noServerEndpoint := if reverse then byte buf 102 ≠ 0 else false
    outformat := if version ≥ BWL_MODE_PROTOCOL_TESTER_NEGOTIATION_VERSION then byte buf 108 else 0 }

/-- The branch of `_BWLReadTestRequest` for a new request. -/
def decodeNew (tools : ToolTable) (allocOk : Bool) (buf : Msg) (version : UInt32)
    (reqTime : BWLTimeStamp) : Except ReadFailure TestSession :=
  let confClient : Bool := byte buf 2 ≠ 0
  let confServer : Bool := byte buf 3 ≠ 0
  if confClient = confServer then
    .error (.fatal "_BWLReadTestRequest: Invalid req(send/recv?)")
  else
    match decodeAddrs buf with
    | none => .error (.fatal ("_BWLReadTestRequest: Unsupported IP version (" ++
      toString (byte buf 1 &&& 0xf) ++ ")"))
    | some (client, server) =>
      match decodeTool buf version with
      | none => .error (.warning ("_BWLReadTestRequest: Multiple tools requested (" ++
        toString (load32 buf 96) ++ ")"))
      | some toolId =>
        match parseRequestParameters tools buf (decodeSpec buf version reqTime toolId) version with
        | none => .error (.warning
            ("_BWLReadTestRequest: Problem reading test parameters for tool (" ++
              toString toolId ++ ")"))
        | some tspec =>
          if !allocOk then .error (.warning "calloc(1,BWLTestSessionRec): %M")
          else
            .ok { testSessionAlloc confClient client server
                    (if confServer then 0 else load16 buf 26) tspec with
                  sid := decodeSid buf }

/-- The branch of `_BWLReadTestRequest` for a reserved session: only the times and the port of the
    request are used. -/
def decodeUpdate (buf : Msg) (reqTime : BWLTimeStamp) (s : TestSession) :
    Except ReadFailure TestSession :=
  if decodeSid buf ≠ s.sid then .error ⟨.fatal, .invalid, true, "_BWLReadTestRequest: sid mismatch"⟩
  else
    .ok { s with
      testSpec := { s.testSpec with reqTime := reqTime, latestTime := decodeTimeStamp buf 16 }
      toolPort := if !s.confServer then load16 buf 26 else s.toolPort }

/-- `_BWLReadTestRequest`, once all blocks are in the buffer. -/
def decodeTestRequest (tools : ToolTable) (allocOk : Bool) (buf : Msg) (version : UInt32)
    (tests : Option TestSession) : Except ReadFailure TestSession :=
  if load buf (16 * (requestBlocks version - 1)) 16 ≠ List.replicate 16 0 then
    .error (.fatal "_BWLReadTestRequest: Invalid zero padding")
  else
    match decodeErrEstimate buf 24 (decodeTimeStamp buf 8) with
    | none => .error (.fatal "_BWLReadTestRequest: Invalid time errest")
    | some reqTime =>
      match tests with
      | some s => decodeUpdate buf reqTime s
      | none => decodeNew tools allocOk buf version reqTime

/-- `error:` of `_BWLReadTestRequest`. -/
def Conn.failRead (c : Conn) (e : ReadFailure) : Conn :=
  let c := if e.freed then c.free else c
  if e.err.prio < ErrSeverity.warning.prio then c.fail else c

/-- `_BWLReadTestRequest`, after `BWLReadRequestType`: the connection, and the session or the
    failure.  A call without a request to read returns before it sets the accept value, which its
    only caller has set to `FAILURE`. -/
def readTestRequest (tools : ToolTable) (allocOk : Bool) (c : Conn) (r : Recv) :
    Conn × Except ReadFailure TestSession :=
  if !c.stateIs stateTestRequest then
    (c, .error ⟨.fatal, .failure, false, "_BWLReadTestRequest: called in wrong state."⟩)
  else
    let unread := ReadFailure.fatal "_BWLReadTestRequest: Unable to read from socket."
    match r with
    | .data blocks =>
      if blocks.length ≠ requestBlocks c.protocolVersion - 1 then
        (c.failRead unread, .error unread)
      else
        let c := c.receive 16 blocks
        match decodeTestRequest tools allocOk c.msg c.protocolVersion c.tests with
        | .ok s => ((c.leave stateTestRequest).enter stateTestAccept, .ok s)
        | .error e => (c.failRead e, .error e)
    | _ => (c.failRead unread, .error unread)

/-! ## The scaled bandwidth -/

/-- **The bandwidth is scaled down as little as necessary.** -/
theorem scaleBandwidth_spec (bandwidth : UInt64) :
    ∃ e : Nat, e ≤ 32 ∧ (scaleBandwidth 32 bandwidth 0).2 = UInt8.ofNat e ∧
      (scaleBandwidth 32 bandwidth 0).1.toNat = bandwidth.toNat / 2 ^ e ∧
      bandwidth.toNat / 2 ^ e < 2 ^ 32 ∧ ∀ e' < e, 2 ^ 32 ≤ bandwidth.toNat / 2 ^ e' := by
  suffices hloop : ∀ (fuel : Nat) (b : UInt64) (done : Nat), b.toNat < 2 ^ (32 + fuel) →
      ∃ e ≤ fuel, (scaleBandwidth fuel b (UInt8.ofNat done)).2 = UInt8.ofNat (done + e) ∧
        (scaleBandwidth fuel b (UInt8.ofNat done)).1.toNat = b.toNat / 2 ^ e ∧
        b.toNat / 2 ^ e < 2 ^ 32 ∧ ∀ e' < e, 2 ^ 32 ≤ b.toNat / 2 ^ e' by
    obtain ⟨e, he, h1, h2, h3, h4⟩ := hloop 32 bandwidth 0 bandwidth.toNat_lt
    rw [Nat.zero_add] at h1
    exact ⟨e, he, h1, h2, h3, h4⟩
  intro fuel
  induction fuel with
  | zero =>
    intro b done hb
    refine ⟨0, le_rfl, rfl, ?_, ?_, ?_⟩
    · rw [Nat.pow_zero, Nat.div_one]
      rfl
    · rw [Nat.pow_zero, Nat.div_one]
      exact hb
    · intro e' he'
      exact absurd he' (Nat.not_lt_zero _)
  | succ fuel ih =>
    intro b done hb
    unfold scaleBandwidth
    by_cases hbig : b > 0xffffffff
    · have hhalf : (b >>> 1).toNat = b.toNat / 2 := by
        simp [Nat.shiftRight_eq_div_pow]
      have hnext : UInt8.ofNat done + 1 = UInt8.ofNat (done + 1) := (UInt8.ofNat_add done 1).symm
      have hbig' : 2 ^ 32 ≤ b.toNat := by
        have hlt := UInt64.lt_iff_toNat_lt.1 hbig
        have hlit : (0xffffffff : UInt64).toNat = 4294967295 := rfl
        omega
      have hpow : 2 ^ (32 + (fuel + 1)) = 2 * 2 ^ (32 + fuel) := by
        rw [← Nat.add_assoc, Nat.pow_succ, Nat.mul_comm]
      obtain ⟨e, he, h1, h2, h3, h4⟩ := ih (b >>> 1) (done + 1) (by rw [hhalf]; omega)
      have hdiv : ∀ e, b.toNat / 2 / 2 ^ e = b.toNat / 2 ^ (e + 1) := by
        intro e
        rw [Nat.div_div_eq_div_mul, Nat.pow_succ, Nat.mul_comm]
      rw [if_pos hbig, hnext]
      rw [hhalf, hdiv] at h2 h3
      refine ⟨e + 1, by omega, ?_, h2, h3, ?_⟩
      · rw [h1, Nat.add_assoc, Nat.add_comm 1 e]
      · intro e' he'
        cases e' with
        | zero => rw [Nat.pow_zero, Nat.div_one]; exact hbig'
        | succ e' =>
          have hstep := h4 e' (by omega)
          rw [hhalf, hdiv] at hstep
          exact hstep
    · rw [if_neg hbig]
      refine ⟨0, Nat.zero_le _, rfl, ?_, ?_, ?_⟩
      · rw [Nat.pow_zero, Nat.div_one]
      · rw [Nat.pow_zero, Nat.div_one]
        have hle := UInt64.not_lt.1 hbig
        have hlit : (0xffffffff : UInt64).toNat = 4294967295 := rfl
        have hnat := UInt64.le_iff_toNat_le.1 hle
        omega
      · intro e' he'
        exact absurd he' (Nat.not_lt_zero _)

end Bwctl
