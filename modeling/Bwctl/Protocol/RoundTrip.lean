import Bwctl.Protocol.Delivery

/-!
# TestRequest round trip in the current protocol

From version 1.5.2 on, what the reader recovers is what was asked for: every field of the common
part and of the part of the tool, and the bandwidth up to the rounding of its 32 bits.

* `readRequest` — the first block by `BWLReadRequestType`, the rest by `_BWLReadTestRequest`.
* `readRequest_chunks` — the reader works on the buffer of the writer.
* `Recovered`, `test_request_round_trip` — the round trip.
-/

set_option autoImplicit false

namespace Bwctl

open Octets

/-! ## Reading a message -/

/-- A TestRequest is read: its first block, then the others. -/
def readRequest (tools : ToolTable) (allocOk : Bool) (c : Conn) (blocks : List Block) :
    RequestType × Except ReadFailure TestSession :=
  let (c, t) := readRequestType c (.data (blocks.take 1))
  (t, (readTestRequest tools allocOk c (.data (blocks.drop 1))).2)

/-- A server connection between two messages that has no session. -/
structure Ready (c : Conn) : Prop where
  request : c.isRequest = true
  reading : c.isReading = false
  test : c.stateIs stateTest = false
  tests : c.tests = none

theorem enter_stateIs (c : Conn) {bits : UInt32} (h : bits ≠ 0) : (c.enter bits).stateIs bits = true := by
  unfold Conn.stateIs Conn.enter
  dsimp only
  rw [decide_eq_true_iff]
  intro hzero
  apply h
  have habsorb : bits &&& (c.state ||| bits) = bits := by
    apply UInt32.eq_of_toBitVec_eq
    ext i hi
    simp
    exact fun hb => Or.inr hb
  rw [← habsorb, hzero]

/-- The first octet decides that the message is a TestRequest. -/
theorem readRequestType_test {c : Conn} {block : Block} (hc : Ready c) (hkind : byte block 0 = 1) :
    readRequestType c (.data [block]) = ((c.receive 0 [block]).enter stateTestRequest, .test) := by
  have hnumber : RequestType.test.number = some (byte block 0) := by rw [hkind]; rfl
  apply readRequestType_block hc.request hc.reading hnumber
  rw [hc.test]
  decide

/-- **The reader works on the buffer of the writer.** -/
theorem readRequest_chunks (tools : ToolTable) {c : Conn} (hc : Ready c) {buf : Msg}
    (hkind : byte buf 0 = 1) :
    ∃ msg : Msg, (∀ i < 16 * requestBlocks c.protocolVersion, byte msg i = byte buf i) ∧
      (readRequest tools true c (chunks 16 (requestBlocks c.protocolVersion) buf)).1 = .test ∧
      ∀ s, (readRequest tools true c (chunks 16 (requestBlocks c.protocolVersion) buf)).2 = .ok s ↔
        decodeTestRequest tools true msg c.protocolVersion none = .ok s := by
  have hblocks := requestBlocks_le c.protocolVersion
  obtain ⟨first, rest, hchunks, hlen, hfirst, hmsg⟩ := receive_blocks c buf stateTestRequest
    (k := requestBlocks c.protocolVersion) (by omega) (by omega)
  refine ⟨_, hmsg, ?_, ?_⟩
  · unfold readRequest
    rw [hchunks, List.take_succ_cons, List.take_zero, readRequestType_test hc (hfirst.trans hkind)]
  · intro s
    unfold readRequest
    rw [hchunks, List.take_succ_cons, List.take_zero, List.drop_succ_cons, List.drop_zero,
      readRequestType_test hc (hfirst.trans hkind)]
    dsimp only
    unfold readTestRequest
    have hstate := enter_stateIs (c.receive 0 [first]) (show stateTestRequest ≠ 0 by decide)
    have hversion : ((c.receive 0 [first]).enter stateTestRequest).protocolVersion =
        c.protocolVersion := rfl
    have htests : (((c.receive 0 [first]).enter stateTestRequest).receive 16 rest).tests = none :=
      hc.tests
    rw [hstate]
    simp only [Bool.not_true, Bool.false_eq_true, if_false]
    rw [hversion, if_neg (not_not.2 hlen), htests, Conn.receive_version, hversion]
    split
    · rename_i r hr
      rw [hr]
    · rename_i e he
      rw [he]

/-! ## The round trip -/

/-- **What is recovered** from version 1.5.2 on: everything, and the bandwidth never above what was
    asked for and exact below 2^32. -/
structure Recovered (f : ToolFormat) (version : UInt32) (s r : TestSession) : Prop
    extends Received f version s r where
  timeExact : r.testSpec.reqTime = s.testSpec.reqTime
  verboseExact : r.testSpec.verbose = s.testSpec.verbose
  endpointExact : r.testSpec.noServerEndpoint = s.testSpec.noServerEndpoint
  intervalExact : f = .throughput → r.testSpec.reportInterval = s.testSpec.reportInterval
  bandwidthBound : f = .throughput → r.testSpec.bandwidth ≤ s.testSpec.bandwidth
  bandwidthExact : f = .throughput → s.testSpec.bandwidth.toNat < 2 ^ 32 →
    r.testSpec.bandwidth = s.testSpec.bandwidth

theorem RoundedBandwidth.le {asked got : UInt64} (h : RoundedBandwidth asked got) : got ≤ asked := by
  obtain ⟨e, -, hgot⟩ := h
  rw [UInt64.le_iff_toNat_le, hgot, Nat.shiftRight_eq_div_pow, Nat.shiftLeft_eq]
  exact Nat.div_mul_le_self _ _

theorem RoundedBandwidth.exact {asked got : UInt64} (h : RoundedBandwidth asked got)
    (hfits : asked.toNat < 2 ^ 32) : got = asked := by
  obtain ⟨e, hleast, hgot⟩ := h
  have hzero : e = 0 := Nat.le_zero.1 (hleast.2 (by simpa using hfits))
  rw [hzero] at hgot
  exact UInt64.toNat_inj.1 hgot

theorem errest_scale (b : UInt8) (h : b ≤ 63) : b &&& 0x3f = b := by
  obtain ⟨b⟩ := b
  revert b
  decide +kernel

/-- What a successful write sends. -/
theorem writeTestRequest_ok {tools : ToolTable} {c c' : Conn} {s : TestSession} {blocks : List Block}
    (h : writeTestRequest tools true c s = (c', .ok, blocks)) :
    ∃ buf, encodeTestRequest tools c.msg s c.protocolVersion = .ok buf ∧
      blocks = chunks 16 (requestBlocks c.protocolVersion) buf := by
  unfold writeTestRequest at h
  split at h
  · cases h
  split at h
  · cases h
  rename_i buf hbuf
  cases h
  exact ⟨buf, hbuf, rfl⟩

theorem negotiation_of_1_5_2 {version : UInt32} (h : version ≥ BWL_MODE_PROTOCOL_1_5_2_VERSION) :
    version ≥ BWL_MODE_PROTOCOL_1_5_VERSION ∧
      version ≥ BWL_MODE_PROTOCOL_TESTER_NEGOTIATION_VERSION :=
  ⟨UInt32.le_trans (by decide) h, UInt32.le_trans (by decide) h⟩

/-- **TestRequest round trip.** -/
theorem test_request_round_trip (tools rtools : ToolTable) (c c' server : Conn) (s : TestSession)
    (blocks : List Block) (hversion : c.protocolVersion ≥ BWL_MODE_PROTOCOL_1_5_2_VERSION)
    (hsame : server.protocolVersion = c.protocolVersion) (hserver : Ready server)
    (hscale : s.testSpec.reqTime.scale ≤ 63) (hreader : (rtools.format? s.testSpec.toolId).isSome)
    (hwrite : writeTestRequest tools true c s = (c', .ok, blocks)) :
    ∃ f r, tools.format? s.testSpec.toolId = some f ∧
      readRequest rtools true server blocks = (.test, .ok r) ∧
      Recovered f c.protocolVersion s r := by
  obtain ⟨hv15, hvneg⟩ := negotiation_of_1_5_2 hversion
  obtain ⟨buf, hbuf, rfl⟩ := writeTestRequest_ok hwrite
  obtain ⟨ipvn, errest, client, remote, hlaid⟩ := encodeTestRequest_ok hbuf
  obtain ⟨msg, hmsg, htype, hread⟩ := readRequest_chunks rtools hserver hlaid.common.kind
  rw [hsame] at hmsg htype hread
  have h8 : requestBlocks c.protocolVersion = 8 := by
    unfold requestBlocks
    rw [if_pos hvneg]
  have hsameMsg : msg = buf := by
    apply Vector.ext
    intro i hi
    rw [← byte_of_lt hi, ← byte_of_lt hi, hmsg i (by omega)]
  obtain ⟨f, r, hformat, hdecode, hreceived⟩ := decode_laidOut hvneg hlaid hreader
  rw [← hsameMsg] at hdecode
  refine ⟨f, r, hformat, Prod.ext htype ((hread r).2 hdecode), ⟨hreceived, ?_, ?_, ?_, ?_, ?_, ?_⟩⟩
  · rw [hreceived.reqTime, errest_scale _ hscale]
  · have hsays : SaysVerbose f c.protocolVersion := Or.inl hversion
    rw [hreceived.verbose, if_pos hsays]
  · rw [hreceived.noServerEndpoint, if_pos hv15]
  · intro hf
    subst hf
    have hinterval := hreceived.parameters.1.reportInterval
    rwa [if_pos hv15] at hinterval
  · intro hf
    subst hf
    exact hreceived.parameters.1.bandwidth.le
  · intro hf
    subst hf
    exact hreceived.parameters.1.bandwidth.exact

/-! ## One request -/

/-- A client connection of the current version, between two messages. -/
def idleConn (version : UInt32) : Conn :=
  ⟨stateRequest, version, Vector.replicate 128 0, none⟩

/-- A throughput test of ten gigabit a second between two hosts. -/
def tenGigabit : TestSession where
  sid := Vector.replicate 16 7
  localtime := ⟨0, false, 0, 0⟩
  reserveTime := 0
  fuzz := 0
  toolPort := 5001
  confClient := true
  testSpec := { BWLTestSpec.zero with
    client := some docSender
    server := some docReceiver
    reqTime := ⟨0x100000000, true, 1, 31⟩
    latestTime := 0x200000000
    duration := 10
    toolId := BWL_TOOL_IPERF
    udp := true
    bandwidth := 10000000000 }

theorem ten_gigabit_round_trip :
    ∃ f r, fullTable.format? tenGigabit.testSpec.toolId = some f ∧
      readRequest fullTable true (idleConn 0x06000000)
        (writeTestRequest fullTable true (idleConn 0x06000000) tenGigabit).2.2 = (.test, .ok r) ∧
      Recovered f 0x06000000 tenGigabit r :=
  test_request_round_trip fullTable fullTable (idleConn 0x06000000)
    (writeTestRequest fullTable true (idleConn 0x06000000) tenGigabit).1 (idleConn 0x06000000)
    tenGigabit _ (by decide) rfl ⟨by decide, by decide, by decide, rfl⟩ (by decide) (by decide)
    (Prod.ext rfl (Prod.ext (by decide +kernel) rfl))

end Bwctl
