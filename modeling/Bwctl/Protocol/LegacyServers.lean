import Bwctl.Protocol.RoundTrip

/-!
# Requests to servers older than version 1.5.2

What a client may ask of an older server is refused when the message has no room for it, with
five exceptions.  Without the negotiation of tools the tool is stored over the padding, so that no
message is accepted; between that and version 1.5 the missing endpoint of the server is left out
without a word (the check of the direction is made twice in its place), and the interval between
reports loses what is less than a second; before version 1.5.2 the readers take the output to be
verbose, whatever was asked for; and a tool leaves out the options of the others.

* `Sendable`, `encodeTestRequest_isOk` — what is not refused.
* `padding_broken` — the reader of a message without the negotiation of tools rejects it.
* `sameOptions_iff` — which options a message carries.
* `no_silent_loss_iff` — exactly when nothing is lost.
-/

set_option autoImplicit false

namespace Bwctl

open Octets

/-! ## What is not refused -/

/-- **What `_BWLWriteTestRequest` checks.** -/
structure Sendable (tools : ToolTable) (s : TestSession) (version : UInt32) : Prop where
  addrs : ∃ ipvn client server, AddrOctets s.testSpec ipvn client server
  timeError : s.testSpec.reqTime.multiplier ≠ 0
  outformat : ¬ version ≥ BWL_MODE_PROTOCOL_TESTER_NEGOTIATION_VERSION → s.testSpec.outformat = 0
  direction : ¬ version ≥ BWL_MODE_PROTOCOL_1_5_VERSION → s.testSpec.serverSends = false
  tool : tools.format? s.testSpec.toolId = some .throughput ∧
        ThroughputSendable s.testSpec version s.confClient ∨
      (tools.format? s.testSpec.toolId = some .traceroute ∨
        tools.format? s.testSpec.toolId = some .ping) ∧
        (¬ version ≥ BWL_MODE_PROTOCOL_1_5_2_VERSION → s.testSpec.tos = 0)

theorem LaidOut.sendable {tools : ToolTable} {s : TestSession} {version : UInt32} {buf : Msg}
    {ipvn : UInt8} {errest client server : List UInt8}
    (h : LaidOut tools s version buf ipvn errest client server) : Sendable tools s version := by
  refine ⟨⟨_, _, _, h.addrs⟩, ?_, h.outformat, h.direction, ?_⟩
  · intro hzero
    have htime := h.timeError
    unfold encodeErrEstimate at htime
    rw [if_pos hzero] at htime
    cases htime
  · cases h.tool with
    | throughput hformat hsend => exact Or.inl ⟨hformat, hsend⟩
    | traceroute hformat htos => exact Or.inr ⟨Or.inl hformat, htos⟩
    | ping hformat htos => exact Or.inr ⟨Or.inr hformat, htos⟩

theorem requestAddrs_of_octets {t : BWLTestSpec} {ipvn : UInt8} {client server : List UInt8}
    (h : AddrOctets t ipvn client server) : requestAddrs t = .ok (ipvn, client, server) := by
  unfold requestAddrs
  cases h with
  | inet c d hc hd => rw [hc, hd]
  | inet6 c d hc hd => rw [hc, hd]

/-- The part of a tool is written unless one of its checks fails. -/
theorem unparseRequestParameters_sendable {tools : ToolTable} {s : TestSession} {version : UInt32}
    (h : Sendable tools s version) (buf : Msg) :
    ∃ buf', unparseRequestParameters tools buf s version = .ok buf' := by
  have htos : (¬ version ≥ BWL_MODE_PROTOCOL_1_5_2_VERSION → s.testSpec.tos = 0) →
      ¬ (s.testSpec.tos ≠ 0 ∧ ¬ version ≥ BWL_MODE_PROTOCOL_1_5_2_VERSION) := by
    rintro hno ⟨hset, hold⟩
    exact hset (hno hold)
  unfold unparseRequestParameters
  obtain ⟨hformat, hsend⟩ | ⟨hformat | hformat, hno⟩ := h.tool
  · rw [hformat]
    exact unparseThroughput_sendable buf hsend
  · rw [hformat]
    dsimp only
    unfold unparseTraceroute
    rw [if_neg (htos hno)]
    exact ⟨_, rfl⟩
  · rw [hformat]
    dsimp only
    unfold unparsePing
    rw [if_neg (htos hno)]
    exact ⟨_, rfl⟩

/-- **Exactly the sendable requests get a message.** -/
theorem encodeTestRequest_isOk {tools : ToolTable} (msg : Msg) {s : TestSession}
    {version : UInt32} :
    (∃ buf, encodeTestRequest tools msg s version = .ok buf) ↔ Sendable tools s version := by
  constructor
  · rintro ⟨buf, hbuf⟩
    obtain ⟨ipvn, errest, client, server, hlaid⟩ := encodeTestRequest_ok hbuf
    exact hlaid.sendable
  · intro h
    obtain ⟨ipvn, client, server, haddrs⟩ := h.addrs
    have htime : ∃ errest, encodeErrEstimate s.testSpec.reqTime = some errest := by
      unfold encodeErrEstimate
      rw [if_neg h.timeError]
      exact ⟨_, rfl⟩
    obtain ⟨errest, htime⟩ := htime
    have hout : ¬ (¬ version ≥ BWL_MODE_PROTOCOL_TESTER_NEGOTIATION_VERSION ∧
        s.testSpec.outformat ≠ 0) := by
      rintro ⟨hv, hset⟩
      exact hset (h.outformat hv)
    have hdir : ¬ (¬ version ≥ BWL_MODE_PROTOCOL_1_5_VERSION ∧ s.testSpec.serverSends = true) := by
      rintro ⟨hv, hset⟩
      rw [h.direction hv] at hset
      cases hset
    obtain ⟨buf, hbuf⟩ := unparseRequestParameters_sendable h (storeOptions (storeHeader
      (store msg 0 (List.replicate (16 * requestBlocks version) 0)) s ipvn errest client server)
      s.testSpec)
    refine ⟨buf, ?_⟩
    unfold encodeTestRequest
    change (requestAddrs s.testSpec >>= _) = _
    rw [requestAddrs_of_octets haddrs]
    dsimp only [bind, Except.bind]
    rw [htime]
    dsimp only
    rw [if_neg hout, if_neg hdir, if_neg hdir, hbuf]

/-- A request `_BWLWriteTestRequest` refuses: the connection is in no state for it, or a check
    fails. -/
def Refused (tools : ToolTable) (c : Conn) (s : TestSession) : Prop :=
  (!c.isRequest || c.isPending) = true ∨ ¬ Sendable tools s c.protocolVersion

/-- **A request is refused or sent.** -/
theorem writeTestRequest_cases (tools : ToolTable) (c : Conn) (s : TestSession) :
    Refused tools c s ∧ (writeTestRequest tools true c s).2.1 ≠ .ok ∨
      ¬ Refused tools c s ∧ ∃ buf, encodeTestRequest tools c.msg s c.protocolVersion = .ok buf ∧
        writeTestRequest tools true c s =
          (c.enter stateTestAccept, .ok, chunks 16 (requestBlocks c.protocolVersion) buf) := by
  unfold writeTestRequest Refused
  rw [← encodeTestRequest_isOk c.msg]
  split
  · rename_i hstate
    exact Or.inl ⟨Or.inl hstate, by simp⟩
  rename_i hstate
  split
  · rename_i e he
    refine Or.inl ⟨Or.inr ?_, by simp⟩
    rintro ⟨buf, hbuf⟩
    rw [he] at hbuf
    cases hbuf
  · rename_i buf hbuf
    refine Or.inr ⟨?_, buf, hbuf, rfl⟩
    rintro (hwrong | hno)
    · exact hstate hwrong
    · exact hno ⟨buf, hbuf⟩

/-! ## No silent loss -/

/-- The options a reader has to obtain as they were asked for: all there are, and the bandwidth up to
    its rounding. -/
structure SameOptions (t r : BWLTestSpec) : Prop where
  serverSends : r.serverSends = t.serverSends
  noServerEndpoint : r.noServerEndpoint = t.noServerEndpoint
  tos : r.tos = t.tos
  omit_ : r.omit_ = t.omit_
  mss : r.mss = t.mss
  parallelStreams : r.parallelStreams = t.parallelStreams
  units : r.units = t.units
  outformat : r.outformat = t.outformat
  dynamicWindowSize : r.dynamicWindowSize = t.dynamicWindowSize
  bandwidth : RoundedBandwidth t.bandwidth r.bandwidth
  verbose : r.verbose = t.verbose
  toolId : r.toolId = t.toolId
  duration : r.duration = t.duration
  udp : r.udp = t.udp
  lenBuffer : r.lenBuffer = t.lenBuffer
  windowSize : r.windowSize = t.windowSize
  reportInterval : r.reportInterval = t.reportInterval
  tracerouteUdp : r.tracerouteUdp = t.tracerouteUdp
  traceroute : ReceivedTraceroute t r
  ping : ReceivedPing t r

/-- A request is refused, or accepted by the reader with the options that were asked for: none is
    dropped without an error. -/
def NoSilentLoss (tools rtools : ToolTable) (c server : Conn) (s : TestSession) : Prop :=
  (writeTestRequest tools true c s).2.1 ≠ .ok ∨
    ∃ r, readRequest rtools true server (writeTestRequest tools true c s).2.2 = (.test, .ok r) ∧
      SameOptions s.testSpec r.testSpec

/-- **The options a message of a version carries** for a tool: the missing endpoint from version 1.5
    on, the interval between reports in whole seconds before that, output that is not verbose where
    the message says so, and the options of the tool only. -/
structure Carried (f : ToolFormat) (version : UInt32) (t : BWLTestSpec) : Prop where
  endpoint : version < BWL_MODE_PROTOCOL_1_5_VERSION → t.noServerEndpoint = false
  interval : version < BWL_MODE_PROTOCOL_1_5_VERSION → 1000 ∣ t.reportInterval.toNat
  verbose : ¬ SaysVerbose f version → t.verbose = true
  tracerouteUdp : t.tracerouteUdp = false
  throughput : f ≠ .throughput → NoThroughput t
  traceroute : f ≠ .traceroute → NoTraceroute t
  ping : f ≠ .ping → NoPing t

/-- A bandwidth is not rounded to nothing. -/
theorem roundedBandwidth_zero {asked : UInt64} : RoundedBandwidth asked 0 ↔ asked = 0 := by
  constructor
  · rintro ⟨e, ⟨hfits, hleast⟩, hgot⟩
    have hzero : asked.toNat >>> e = 0 := by
      rw [Nat.shiftLeft_eq] at hgot
      exact (Nat.mul_eq_zero.1 hgot.symm).resolve_right (by positivity)
    have he : e = 0 := by
      cases e with
      | zero => rfl
      | succ e =>
        have hless : ¬ e ∈ {e : Nat | asked.toNat >>> e < 2 ^ 32} := by
          intro hmem
          have hle := hleast hmem
          omega
        rw [Set.mem_ofPred_eq, Nat.not_lt] at hless
        rw [Nat.shiftRight_succ] at hzero
        omega
    rw [he, Nat.shiftRight_zero] at hzero
    exact UInt64.toNat_inj.1 hzero
  · rintro rfl
    refine ⟨0, ⟨by decide, fun _ _ => Nat.zero_le _⟩, rfl⟩

/-- **Without the negotiation of tools the padding is broken**: the tool is stored over it. -/
theorem padding_broken {tools rtools : ToolTable} {s : TestSession} {version : UInt32}
    {buf msg : Msg} {ipvn : UInt8} {errest client server : List UInt8}
    (hv : ¬ version ≥ BWL_MODE_PROTOCOL_TESTER_NEGOTIATION_VERSION)
    (h : LaidOut tools s version buf ipvn errest client server)
    (hmsg : ∀ i < 16 * requestBlocks version, byte msg i = byte buf i) (r : TestSession) :
    decodeTestRequest rtools true msg version none ≠ .ok r := by
  have h7 : requestBlocks version = 7 := by
    unfold requestBlocks
    rw [if_neg hv]
  have hbit : s.testSpec.toolId ≠ 0 := by
    cases h.tool with
    | throughput hformat => exact (ToolTable.format?_bit hformat).2
    | traceroute hformat => exact (ToolTable.format?_bit hformat).2
    | ping hformat => exact (ToolTable.format?_bit hformat).2
  have hpad : load msg (16 * (requestBlocks version - 1)) 16 ≠ List.replicate 16 0 := by
    rw [h7]
    intro hzero
    have htool : load32 msg 96 = s.testSpec.toolId := by
      rw [← h.common.tool]
      exact load32_congr fun i h1 h2 => hmsg i (by omega)
    have hfour : load msg 96 4 = (load msg (16 * (7 - 1)) 16).take 4 := rfl
    apply hbit
    rw [← htool, load32, hfour, hzero]
    rfl
  unfold decodeTestRequest
  rw [if_pos hpad]
  intro hok
  cases hok

theorem never_accepted {tools rtools : ToolTable} {c server : Conn} {s : TestSession}
    (hv : ¬ c.protocolVersion ≥ BWL_MODE_PROTOCOL_TESTER_NEGOTIATION_VERSION)
    (hsame : server.protocolVersion = c.protocolVersion) (hserver : Ready server)
    (href : ¬ Refused tools c s) (r : TestSession) :
    readRequest rtools true server (writeTestRequest tools true c s).2.2 ≠ (.test, .ok r) := by
  obtain ⟨hyes, -⟩ | ⟨-, buf, hbuf, hwrite⟩ := writeTestRequest_cases tools c s
  · exact absurd hyes href
  obtain ⟨ipvn, errest, client, remote, hlaid⟩ := encodeTestRequest_ok hbuf
  obtain ⟨msg, hmsg, -, hread⟩ := readRequest_chunks rtools hserver hlaid.common.kind
  rw [hsame] at hmsg hread
  rw [hwrite]
  intro hr
  exact padding_broken hv hlaid hmsg r ((hread r).1 (congrArg Prod.snd hr))

theorem wholeSeconds_iff (interval : UInt16) :
    interval / 1000 * 1000 = interval ↔ 1000 ∣ interval.toNat := by
  rw [← UInt16.toNat_inj, UInt16.toNat_mul, UInt16.toNat_div]
  have hlt := interval.toNat_lt
  have hthousand : (1000 : UInt16).toNat = 1000 := rfl
  rw [hthousand]
  omega

/-- The options of throughput tools as they were asked for, with the bandwidth up to its rounding. -/
structure SameThroughput (t r : BWLTestSpec) : Prop where
  udp : r.udp = t.udp
  bandwidth : RoundedBandwidth t.bandwidth r.bandwidth
  lenBuffer : r.lenBuffer = t.lenBuffer
  windowSize : r.windowSize = t.windowSize
  reportInterval : r.reportInterval = t.reportInterval
  dynamicWindowSize : r.dynamicWindowSize = t.dynamicWindowSize
  parallelStreams : r.parallelStreams = t.parallelStreams
  units : r.units = t.units
  mss : r.mss = t.mss
  omit_ : r.omit_ = t.omit_

/-- A throughput tool obtains its options but for what is lost of the interval. -/
theorem receivedThroughput_iff {version : UInt32} {t r : BWLTestSpec}
    (h : ReceivedThroughput version t r) : SameThroughput t r ↔
      (version < BWL_MODE_PROTOCOL_1_5_VERSION → 1000 ∣ t.reportInterval.toNat) := by
  have hinterval : r.reportInterval = t.reportInterval ↔
      (version < BWL_MODE_PROTOCOL_1_5_VERSION → 1000 ∣ t.reportInterval.toNat) := by
    rw [h.reportInterval]
    by_cases hv : version ≥ BWL_MODE_PROTOCOL_1_5_VERSION
    · rw [if_pos hv]
      exact iff_of_true rfl fun hold => absurd hv (UInt32.not_le.2 hold)
    · rw [if_neg hv, wholeSeconds_iff]
      exact (imp_iff_right (UInt32.not_le.1 hv)).symm
  rw [← hinterval]
  exact ⟨fun hs => hs.reportInterval, fun hi => ⟨h.udp, h.bandwidth, h.lenBuffer, h.windowSize, hi,
    h.dynamicWindowSize, h.parallelStreams, h.units, h.mss, h.omit_⟩⟩

/-- A reader without options of throughput tools has those that were asked for if there are none. -/
theorem noThroughput_iff {t r : BWLTestSpec} (hnone : NoThroughput r) :
    SameThroughput t r ↔ NoThroughput t := by
  obtain ⟨h1, h2, h3, h4, h5, h6, h7, h8, h9, h10⟩ := hnone
  constructor
  · rintro ⟨g1, g2, g3, g4, g5, g6, g7, g8, g9, g10⟩
    rw [h2, roundedBandwidth_zero] at g2
    exact ⟨g1.symm.trans h1, g2, g3.symm.trans h3, g4.symm.trans h4, g5.symm.trans h5,
      g6.symm.trans h6, g7.symm.trans h7, g8.symm.trans h8, g9.symm.trans h9, g10.symm.trans h10⟩
  · rintro ⟨g1, g2, g3, g4, g5, g6, g7, g8, g9, g10⟩
    have hband : RoundedBandwidth t.bandwidth r.bandwidth := by
      rw [h2, roundedBandwidth_zero]
      exact g2
    exact ⟨h1.trans g1.symm, hband, h3.trans g3.symm, h4.trans g4.symm, h5.trans g5.symm,
      h6.trans g6.symm, h7.trans g7.symm, h8.trans g8.symm, h9.trans g9.symm, h10.trans g10.symm⟩

theorem noTraceroute_iff {t r : BWLTestSpec} (hnone : NoTraceroute r) :
    ReceivedTraceroute t r ↔ NoTraceroute t := by
  obtain ⟨h1, h2, h3⟩ := hnone
  constructor
  · rintro ⟨a, b, c⟩
    exact ⟨a.symm.trans h1, b.symm.trans h2, c.symm.trans h3⟩
  · rintro ⟨a, b, c⟩
    exact ⟨h1.trans a.symm, h2.trans b.symm, h3.trans c.symm⟩

theorem noPing_iff {t r : BWLTestSpec} (hnone : NoPing r) : ReceivedPing t r ↔ NoPing t := by
  obtain ⟨h1, h2, h3, h4⟩ := hnone
  constructor
  · rintro ⟨a, b, c, d⟩
    exact ⟨a.symm.trans h1, b.symm.trans h2, c.symm.trans h3, d.symm.trans h4⟩
  · rintro ⟨a, b, c, d⟩
    exact ⟨h1.trans a.symm, h2.trans b.symm, h3.trans c.symm, h4.trans d.symm⟩

section Parameters

variable {f : ToolFormat} {version : UInt32} {t r : BWLTestSpec}

/-- The options of throughput tools are lost with another tool, and for the interval. -/
theorem ReceivedParameters.throughput_iff (h : ReceivedParameters f version t r) :
    SameThroughput t r ↔
      (version < BWL_MODE_PROTOCOL_1_5_VERSION → 1000 ∣ t.reportInterval.toNat) ∧
        (f ≠ .throughput → NoThroughput t) := by
  have hother : NoThroughput r → f ≠ .throughput → (SameThroughput t r ↔
      (version < BWL_MODE_PROTOCOL_1_5_VERSION → 1000 ∣ t.reportInterval.toNat) ∧
        (f ≠ .throughput → NoThroughput t)) := by
    intro hnone hf
    rw [noThroughput_iff hnone, imp_iff_right hf]
    refine ⟨fun ht => ⟨fun _ => ?_, ht⟩, fun ht => ht.2⟩
    rw [ht.reportInterval]
    exact dvd_zero 1000
  cases f with
  | throughput =>
    rw [receivedThroughput_iff h.1]
    exact ⟨fun hi => ⟨hi, fun hf => absurd rfl hf⟩, fun hi => hi.1⟩
  | traceroute => exact hother h.2.1 (by decide)
  | ping => exact hother h.2.1 (by decide)

theorem ReceivedParameters.traceroute_iff (h : ReceivedParameters f version t r) :
    ReceivedTraceroute t r ↔ (f ≠ .traceroute → NoTraceroute t) := by
  cases f with
  | throughput => rw [noTraceroute_iff h.2.1, imp_iff_right (by decide)]
  | traceroute => exact iff_of_true h.1 fun hf => absurd rfl hf
  | ping => rw [noTraceroute_iff h.2.2, imp_iff_right (by decide)]

theorem ReceivedParameters.ping_iff (h : ReceivedParameters f version t r) :
    ReceivedPing t r ↔ (f ≠ .ping → NoPing t) := by
  cases f with
  | throughput => rw [noPing_iff h.2.2, imp_iff_right (by decide)]
  | traceroute => rw [noPing_iff h.2.2, imp_iff_right (by decide)]
  | ping => exact iff_of_true h.1 fun hf => absurd rfl hf

end Parameters

/-- What is lost of the common part. -/
theorem commonKept_iff {f : ToolFormat} {version : UInt32} {s r : TestSession}
    (h : Received f version s r) :
    (r.testSpec.noServerEndpoint = s.testSpec.noServerEndpoint ↔
      (version < BWL_MODE_PROTOCOL_1_5_VERSION → s.testSpec.noServerEndpoint = false)) ∧
    (r.testSpec.verbose = s.testSpec.verbose ↔
      (¬ SaysVerbose f version → s.testSpec.verbose = true)) := by
  refine ⟨?_, ?_⟩
  · rw [h.noServerEndpoint]
    split
    · rename_i hv
      exact iff_of_true rfl fun hold => absurd hv (UInt32.not_le.2 hold)
    · rename_i hv
      rw [imp_iff_right (UInt32.not_le.1 hv)]
      exact eq_comm
  · rw [h.verbose]
    split
    · rename_i hsays
      exact iff_of_true rfl fun hno => absurd hsays hno
    · rename_i hno
      rw [imp_iff_right hno]
      exact eq_comm

/-- **What a reader obtains of a message that is accepted** is what was asked for exactly when the
    message carries it. -/
theorem sameOptions_iff {f : ToolFormat} {version : UInt32} {s r : TestSession}
    (h : Received f version s r) :
    SameOptions s.testSpec r.testSpec ↔ Carried f version s.testSpec := by
  obtain ⟨hendpoint, hverbose⟩ := commonKept_iff h
  have hparams := h.parameters
  constructor
  · intro hs
    have hthroughput := hparams.throughput_iff.1 ⟨hs.udp, hs.bandwidth, hs.lenBuffer, hs.windowSize,
      hs.reportInterval, hs.dynamicWindowSize, hs.parallelStreams, hs.units, hs.mss, hs.omit_⟩
    exact ⟨hendpoint.1 hs.noServerEndpoint, hthroughput.1, hverbose.1 hs.verbose,
      hs.tracerouteUdp.symm.trans h.tracerouteUdp, hthroughput.2,
      hparams.traceroute_iff.1 hs.traceroute, hparams.ping_iff.1 hs.ping⟩
  · intro hc
    have hthroughput := hparams.throughput_iff.2 ⟨hc.interval, hc.throughput⟩
    exact ⟨h.serverSends, hendpoint.2 hc.endpoint, h.tos, hthroughput.omit_, hthroughput.mss,
      hthroughput.parallelStreams, hthroughput.units, h.outformat, hthroughput.dynamicWindowSize,
      hthroughput.bandwidth, hverbose.2 hc.verbose, h.toolId, h.duration, hthroughput.udp,
      hthroughput.lenBuffer, hthroughput.windowSize, hthroughput.reportInterval,
      h.tracerouteUdp.trans hc.tracerouteUdp.symm, hparams.traceroute_iff.2 hc.traceroute,
      hparams.ping_iff.2 hc.ping⟩

/-- **Exactly when nothing is lost**: the request is refused, or the message has room for the tool
    and carries every option that was asked for. -/
theorem no_silent_loss_iff (tools rtools : ToolTable) (c server : Conn) (s : TestSession)
    (hsame : server.protocolVersion = c.protocolVersion) (hserver : Ready server)
    (hreader : (rtools.format? s.testSpec.toolId).isSome) :
    NoSilentLoss tools rtools c server s ↔
      Refused tools c s ∨
        c.protocolVersion ≥ BWL_MODE_PROTOCOL_TESTER_NEGOTIATION_VERSION ∧
          ∃ f, tools.format? s.testSpec.toolId = some f ∧
            Carried f c.protocolVersion s.testSpec := by
  unfold NoSilentLoss
  by_cases hv : c.protocolVersion ≥ BWL_MODE_PROTOCOL_TESTER_NEGOTIATION_VERSION
  · obtain ⟨href, herr⟩ | ⟨href, buf, hbuf, hwrite⟩ := writeTestRequest_cases tools c s
    · exact ⟨fun _ => Or.inl href, fun _ => Or.inl herr⟩
    obtain ⟨ipvn, errest, client, remote, hlaid⟩ := encodeTestRequest_ok hbuf
    obtain ⟨msg, hmsg, htype, hread⟩ := readRequest_chunks rtools hserver
      hlaid.common.kind
    rw [hsame] at hmsg htype hread
    rw [hwrite]
    dsimp only
    rw [or_iff_right (by simp), or_iff_right href]
    obtain ⟨f, r, hformat, hdecode, hreceived⟩ := decode_laidOut hv hlaid hreader
    have h8 : requestBlocks c.protocolVersion = 8 := by
      unfold requestBlocks
      rw [if_pos hv]
    have hsameMsg : msg = buf := by
      apply Vector.ext
      intro i hi
      rw [← byte_of_lt hi, ← byte_of_lt hi, hmsg i (by omega)]
    rw [← hsameMsg] at hdecode
    have hrequest : readRequest rtools true server (chunks 16 (requestBlocks c.protocolVersion) buf) =
        (.test, .ok r) := Prod.ext htype ((hread r).2 hdecode)
    constructor
    · rintro ⟨r', hr', hsame'⟩
      cases hrequest.symm.trans hr'
      exact ⟨hv, f, hformat, (sameOptions_iff hreceived).1 hsame'⟩
    · rintro ⟨-, f', hformat', hcarried⟩
      obtain rfl : f' = f := Option.some.inj (hformat'.symm.trans hformat)
      exact ⟨r, hrequest, (sameOptions_iff hreceived).2 hcarried⟩
  · constructor
    · rintro (herr | ⟨r, hr, -⟩)
      · obtain ⟨href, -⟩ | ⟨-, buf, -, hwrite⟩ := writeTestRequest_cases tools c s
        · exact Or.inl href
        · rw [hwrite] at herr
          exact absurd rfl herr
      · left
        by_contra href
        exact never_accepted hv hsame hserver href r hr
    · rintro (href | ⟨hyes, -⟩)
      · obtain ⟨-, herr⟩ | ⟨hno, -⟩ := writeTestRequest_cases tools c s
        · exact Or.inl herr
        · exact absurd href hno
      · exact absurd hyes hv

/-- A plain test of ten seconds with iperf. -/
def plainIperf : TestSession :=
  { tenGigabit with testSpec := { tenGigabit.testSpec with bandwidth := 0 } }

/-- A server without the negotiation of tools rejects the plainest test. -/
theorem plain_iperf_rejected :
    ¬ NoSilentLoss fullTable fullTable (idleConn 0) (idleConn 0) plainIperf := by
  have hsend : Sendable fullTable plainIperf 0 := by
    refine ⟨⟨_, _, _, .inet _ _ rfl rfl⟩, by decide, fun _ => rfl, fun _ => rfl, Or.inl ⟨rfl, ?_⟩⟩
    exact ⟨fun _ _ => Or.inl rfl, fun _ => ⟨rfl, rfl, by decide⟩, fun _ => rfl, fun _ => rfl⟩
  have href : ¬ Refused fullTable (idleConn 0) plainIperf := by
    rintro (hstate | hno)
    · exact absurd hstate (by decide)
    · exact hno hsend
  rintro (herr | ⟨r, hr, -⟩)
  · obtain ⟨hyes, -⟩ | ⟨-, buf, -, hwrite⟩ := writeTestRequest_cases fullTable (idleConn 0) plainIperf
    · exact href hyes
    · rw [hwrite] at herr
      exact herr rfl
  · exact never_accepted (by decide) rfl ⟨by decide, by decide, by decide, rfl⟩ href r hr

/-- A test with iperf and options: ten gigabit a second in four streams, a report every two seconds,
    two seconds left out and quiet output. -/
def busyIperf : TestSession :=
  { tenGigabit with
    testSpec := { tenGigabit.testSpec with
      tos := 32, omit_ := 2, parallelStreams := 4, units := 109, outformat := 99,
      dynamicWindowSize := true, windowSize := 65536, lenBuffer := 1470, reportInterval := 2000 } }

/-- With the negotiation of tools, and before version 1.5, its message carries all of them. -/
theorem busy_iperf_negotiated :
    (writeTestRequest fullTable true (idleConn 0x03000000) busyIperf).2.1 = .ok ∧
      NoSilentLoss fullTable fullTable (idleConn 0x03000000) (idleConn 0x03000000) busyIperf := by
  have hcarried : Carried .throughput 0x03000000 busyIperf.testSpec :=
    ⟨fun _ => rfl, fun _ => by decide, fun hno => absurd (by decide) hno, rfl,
      fun hne => absurd rfl hne, fun _ => ⟨rfl, rfl, rfl⟩, fun _ => ⟨rfl, rfl, rfl, rfl⟩⟩
  exact ⟨by decide +kernel, (no_silent_loss_iff fullTable fullTable (idleConn 0x03000000)
    (idleConn 0x03000000) busyIperf rfl ⟨by decide, by decide, by decide, rfl⟩ (by decide)).2
    (Or.inr ⟨by decide, .throughput, by decide, hcarried⟩)⟩

end Bwctl
