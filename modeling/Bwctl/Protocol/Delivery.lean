import Bwctl.Protocol.RequestFields
import Bwctl.Protocol.TimeStamps
import Mathlib.Order.Bounds.Basic

/-!
# A TestRequest that is delivered

The message the writer lays out, described once for all tools and versions, and what a reader of
the same version makes of it.  From the version that negotiates tools on the reader accepts the
message.

* `LaidOut`, `encodeTestRequest_ok` — everything a written message says.
* `Received`, `decode_laidOut` — everything the reader recovers from it.
* `receive_blocks` — the blocks of a message, read one by one, are its buffer.
-/

set_option autoImplicit false

namespace Bwctl

open Octets

/-! ## Tools -/

theorem ToolTable.format?_mem {tools : ToolTable} {id : BWLToolType} {f : ToolFormat}
    (h : tools.format? id = some f) : (id, f) ∈ toolList := by
  unfold ToolTable.format? at h
  obtain ⟨p, hp, rfl⟩ := Option.map_eq_some_iff.1 h
  have hid := List.find?_some hp
  obtain rfl := beq_iff_eq.1 hid
  exact tools.compiled (List.mem_of_find?_eq_some hp)

/-- A tool has the same format wherever it is compiled in. -/
theorem ToolTable.format?_agree {tools rtools : ToolTable} {id : BWLToolType} {f : ToolFormat}
    (h : tools.format? id = some f) (hr : (rtools.format? id).isSome) :
    rtools.format? id = some f := by
  obtain ⟨f', hf'⟩ := Option.isSome_iff_exists.1 hr
  have hsame : ∀ p ∈ toolList, ∀ q ∈ toolList, p.1 = q.1 → p.2 = q.2 := by decide
  have hff : f = f' := hsame _ (format?_mem h) _ (format?_mem hf') rfl
  rw [hf', hff]

/-- A tool is one bit of the mask. -/
theorem ToolTable.format?_bit {tools : ToolTable} {id : BWLToolType} {f : ToolFormat}
    (h : tools.format? id = some f) : id &&& (id - 1) = 0 ∧ id ≠ 0 := by
  have hbit : ∀ p ∈ toolList, p.1 &&& (p.1 - 1) = 0 ∧ p.1 ≠ 0 := by decide
  exact hbit _ (format?_mem h)

/-! ## The written message -/

/-- The part of the tool in a written message. -/
inductive ToolPart (tools : ToolTable) (buf : Msg) (s : TestSession) (version : UInt32) : Prop where
  | throughput (hformat : tools.format? s.testSpec.toolId = some .throughput)
      (hsend : ThroughputSendable s.testSpec version s.confClient)
      (hfields : ThroughputFields buf s.testSpec version)
  | traceroute (hformat : tools.format? s.testSpec.toolId = some .traceroute)
      (htos : ¬ version ≥ BWL_MODE_PROTOCOL_1_5_2_VERSION → s.testSpec.tos = 0)
      (hfields : TracerouteFields buf s.testSpec)
  | ping (hformat : tools.format? s.testSpec.toolId = some .ping)
      (htos : ¬ version ≥ BWL_MODE_PROTOCOL_1_5_2_VERSION → s.testSpec.tos = 0)
      (hfields : PingFields buf s.testSpec)

/-- The two addresses are of one family, and their octets go into the message. -/
inductive AddrOctets (t : BWLTestSpec) : UInt8 → List UInt8 → List UInt8 → Prop where
  | inet (client server : Vector UInt8 4) (hclient : t.client = some (.inet client))
      (hserver : t.server = some (.inet server)) : AddrOctets t 4 client.toList server.toList
  | inet6 (client server : Vector UInt8 16) (hclient : t.client = some (.inet6 client))
      (hserver : t.server = some (.inet6 server)) : AddrOctets t 6 client.toList server.toList

/-- **A message `_BWLWriteTestRequest` lays out.** -/
structure LaidOut (tools : ToolTable) (s : TestSession) (version : UInt32) (buf : Msg)
    (ipvn : UInt8) (errest client server : List UInt8) : Prop where
  addrs : AddrOctets s.testSpec ipvn client server
  timeError : encodeErrEstimate s.testSpec.reqTime = some errest
  outformat : ¬ version ≥ BWL_MODE_PROTOCOL_TESTER_NEGOTIATION_VERSION → s.testSpec.outformat = 0
  direction : ¬ version ≥ BWL_MODE_PROTOCOL_1_5_VERSION → s.testSpec.serverSends = false
  common : CommonFields buf s ipvn errest client server
  tool : ToolPart tools buf s version
  padding : version ≥ BWL_MODE_PROTOCOL_TESTER_NEGOTIATION_VERSION →
    load buf 112 16 = List.replicate 16 0

theorem requestAddrs_ok {t : BWLTestSpec} {ipvn : UInt8} {client server : List UInt8}
    (h : requestAddrs t = .ok (ipvn, client, server)) : AddrOctets t ipvn client server := by
  unfold requestAddrs at h
  cases hc : t.client with
  | none =>
    rw [hc] at h
    cases h
  | some c =>
    cases hs : t.server with
    | none =>
      rw [hc, hs] at h
      cases c <;> cases h
    | some s =>
      rw [hc, hs] at h
      cases c with
      | inet c =>
        cases s with
        | inet s =>
          cases h
          exact .inet c s hc hs
        | inet6 => cases h
        | other => cases h
      | inet6 c =>
        cases s with
        | inet => cases h
        | inet6 s =>
          cases h
          exact .inet6 c s hc hs
        | other => cases h
      | other => cases s <;> cases h

theorem AddrOctets.lengths {t : BWLTestSpec} {ipvn : UInt8} {client server : List UInt8}
    (h : AddrOctets t ipvn client server) :
    (ipvn = 4 ∨ ipvn = 6) ∧ client.length ≤ 16 ∧ server.length ≤ 16 := by
  cases h <;> simp

theorem encodeErrEstimate_length {t : BWLTimeStamp} {errest : List UInt8}
    (h : encodeErrEstimate t = some errest) : errest.length = 2 := by
  unfold encodeErrEstimate at h
  split at h
  · cases h
  · cases h
    rfl

/-- The part of the tool ends before the padding. -/
theorem unparseRequestParameters_frame {tools : ToolTable} {buf buf' : Msg} {s : TestSession}
    {version : UInt32} (h : unparseRequestParameters tools buf s version = .ok buf') {i : Nat}
    (hi : 112 ≤ i) : byte buf' i = byte buf i := by
  unfold unparseRequestParameters at h
  split at h
  · unfold unparseThroughput at h
    split at h
    · cases h
    obtain ⟨b1, h1, h⟩ := Except.bind_ok h
    obtain ⟨b2, h2, h3⟩ := Except.bind_ok h
    have hrates : byte (unparseRates buf s.testSpec version
        (scaleBandwidth 32 s.testSpec.bandwidth 0).1) i = byte buf i := by
      unfold unparseRates
      dsimp only
      split
      all_goals
        simp (disch := first | omega | (simp; omega)) only [byte_store_of_disjoint]
        split
        · exact byte_store_of_disjoint (by simp; omega)
        · rfl
    have hmss : byte b2 i = byte b1 i := by
      obtain ⟨-, -, rfl | rfl⟩ := unparseMss_ok h2
      · exact byte_store_of_disjoint (by simp; omega)
      · rfl
    have homit : byte buf' i = byte b2 i := by
      obtain ⟨-, -, rfl | rfl⟩ := unparseOmit_ok h3
      · exact byte_store_of_disjoint (by simp; omega)
      · rfl
    rw [homit, hmss, (unparseNegotiated_ok h1).frame i (by omega), hrates]
  · unfold unparseTraceroute at h
    split at h
    · cases h
    cases h
    simp (disch := (simp; omega)) only [byte_store_of_disjoint]
  · unfold unparsePing at h
    split at h
    · cases h
    cases h
    simp (disch := (simp; omega)) only [byte_store_of_disjoint]
  · cases h

/-- **What `_BWLWriteTestRequest` lays out.** -/
theorem encodeTestRequest_ok {tools : ToolTable} {msg buf : Msg} {s : TestSession} {version : UInt32}
    (h : encodeTestRequest tools msg s version = .ok buf) :
    ∃ ipvn errest client server, LaidOut tools s version buf ipvn errest client server := by
  unfold encodeTestRequest at h
  obtain ⟨⟨ipvn, client, server⟩, haddrs, h⟩ := Except.bind_ok h
  have hoctets := requestAddrs_ok haddrs
  obtain ⟨hipvn, hclient, hserver⟩ := hoctets.lengths
  dsimp only at h
  split at h
  · cases h
  rename_i errest herr
  split at h
  · cases h
  rename_i hformat
  split at h
  · cases h
  rename_i hdirection
  have hcommon : CommonFields (commonPart msg s version ipvn errest client server) s ipvn errest
      client server :=
    commonFields msg version hipvn (encodeErrEstimate_length herr) hclient hserver
  have hone : byte (commonPart msg s version ipvn errest client server) 1 = 4 ∨
      byte (commonPart msg s version ipvn errest client server) 1 = 6 := by
    rw [byte_one_commonPart msg version hipvn]
    exact hipvn
  have hblocks := requestBlocks_le version
  have hdynamic : byte (commonPart msg s version ipvn errest client server) 92 = 0 :=
    byte_commonPart msg version (encodeErrEstimate_length herr) hclient hserver (by omega) (by omega)
  have hpad : version ≥ BWL_MODE_PROTOCOL_TESTER_NEGOTIATION_VERSION →
      load buf 112 16 = List.replicate 16 0 := by
    intro hv
    have h8 : requestBlocks version = 8 := by
      unfold requestBlocks
      rw [if_pos hv]
    apply List.eq_replicate_iff.2
    refine ⟨length_load _ _, ?_⟩
    intro b hb
    obtain ⟨i, hi, rfl⟩ := List.mem_map.1 hb
    rw [List.mem_range] at hi
    rw [unparseRequestParameters_frame h (by omega)]
    exact byte_commonPart msg version (encodeErrEstimate_length herr) hclient hserver (by omega)
      (by omega)
  have hformat' : ¬ version ≥ BWL_MODE_PROTOCOL_TESTER_NEGOTIATION_VERSION →
      s.testSpec.outformat = 0 := by
    intro hv
    by_contra hset
    exact hformat ⟨hv, hset⟩
  have hdirection' : ¬ version ≥ BWL_MODE_PROTOCOL_1_5_VERSION → s.testSpec.serverSends = false := by
    intro hv
    rw [← Bool.not_eq_true]
    intro hset
    exact hdirection ⟨hv, hset⟩
  unfold unparseRequestParameters at h
  split at h
  · rename_i htool
    obtain ⟨hsend, hfields⟩ := unparseThroughput_ok hone hdynamic h
    exact ⟨ipvn, errest, client, server, hoctets, herr, hformat', hdirection',
      hcommon.throughput hclient hserver h, .throughput htool hsend hfields, hpad⟩
  · rename_i htool
    obtain ⟨htos, hfields⟩ := unparseTraceroute_ok h
    exact ⟨ipvn, errest, client, server, hoctets, herr, hformat', hdirection',
      hcommon.traceroute hclient hserver h, .traceroute htool htos hfields, hpad⟩
  · rename_i htool
    obtain ⟨htos, hfields⟩ := unparsePing_ok h
    exact ⟨ipvn, errest, client, server, hoctets, herr, hformat', hdirection',
      hcommon.ping hclient hserver h, .ping htool htos hfields, hpad⟩
  · cases h

/-! ## What the reader recovers -/

/-- The bandwidth as the message carries it: scaled down until it fits into 32 bits, and up
    again. -/
def RoundedBandwidth (asked got : UInt64) : Prop :=
  ∃ e : Nat, IsLeast {e : Nat | asked.toNat >>> e < 2 ^ 32} e ∧
    got.toNat = (asked.toNat >>> e) <<< e

/-- The options of a throughput test; before version 1.5 the interval between reports is sent in whole
    seconds. -/
structure ReceivedThroughput (version : UInt32) (t r : BWLTestSpec) : Prop where
  udp : r.udp = t.udp
  bandwidth : RoundedBandwidth t.bandwidth r.bandwidth
  lenBuffer : r.lenBuffer = t.lenBuffer
  windowSize : r.windowSize = t.windowSize
  reportInterval : r.reportInterval = if version ≥ BWL_MODE_PROTOCOL_1_5_VERSION then
    t.reportInterval else t.reportInterval / 1000 * 1000
  dynamicWindowSize : r.dynamicWindowSize = t.dynamicWindowSize
  parallelStreams : r.parallelStreams = t.parallelStreams
  units : r.units = t.units
  mss : r.mss = t.mss
  omit_ : r.omit_ = t.omit_

/-- No option of a throughput test. -/
structure NoThroughput (r : BWLTestSpec) : Prop where
  udp : r.udp = false
  bandwidth : r.bandwidth = 0
  lenBuffer : r.lenBuffer = 0
  windowSize : r.windowSize = 0
  reportInterval : r.reportInterval = 0
  dynamicWindowSize : r.dynamicWindowSize = false
  parallelStreams : r.parallelStreams = 0
  units : r.units = 0
  mss : r.mss = 0
  omit_ : r.omit_ = 0

/-- The options of a traceroute. -/
structure ReceivedTraceroute (t r : BWLTestSpec) : Prop where
  firstTtl : r.tracerouteFirstTtl = t.tracerouteFirstTtl
  lastTtl : r.tracerouteLastTtl = t.tracerouteLastTtl
  packetSize : r.traceroutePacketSize = t.traceroutePacketSize

/-- No option of a traceroute. -/
structure NoTraceroute (r : BWLTestSpec) : Prop where
  firstTtl : r.tracerouteFirstTtl = 0
  lastTtl : r.tracerouteLastTtl = 0
  packetSize : r.traceroutePacketSize = 0

/-- The options of a ping. -/
structure ReceivedPing (t r : BWLTestSpec) : Prop where
  packetCount : r.pingPacketCount = t.pingPacketCount
  packetSize : r.pingPacketSize = t.pingPacketSize
  interpacketTime : r.pingInterpacketTime = t.pingInterpacketTime
  packetTtl : r.pingPacketTtl = t.pingPacketTtl

/-- No option of a ping. -/
structure NoPing (r : BWLTestSpec) : Prop where
  packetCount : r.pingPacketCount = 0
  packetSize : r.pingPacketSize = 0
  interpacketTime : r.pingInterpacketTime = 0
  packetTtl : r.pingPacketTtl = 0

/-- The part of a tool: its own options, and none of the others. -/
def ReceivedParameters (f : ToolFormat) (version : UInt32) (t r : BWLTestSpec) : Prop :=
  match f with
  | .throughput => ReceivedThroughput version t r ∧ NoTraceroute r ∧ NoPing r
  | .traceroute => ReceivedTraceroute t r ∧ NoThroughput r ∧ NoPing r
  | .ping => ReceivedPing t r ∧ NoThroughput r ∧ NoTraceroute r

section Addresses

variable {t r : BWLTestSpec} {client server : Option SockAddr}

theorem NoThroughput.addrs (h : NoThroughput r) :
    NoThroughput { r with client := client, server := server } :=
  ⟨h.udp, h.bandwidth, h.lenBuffer, h.windowSize, h.reportInterval, h.dynamicWindowSize,
    h.parallelStreams, h.units, h.mss, h.omit_⟩

theorem NoTraceroute.addrs (h : NoTraceroute r) :
    NoTraceroute { r with client := client, server := server } :=
  ⟨h.firstTtl, h.lastTtl, h.packetSize⟩

theorem NoPing.addrs (h : NoPing r) : NoPing { r with client := client, server := server } :=
  ⟨h.packetCount, h.packetSize, h.interpacketTime, h.packetTtl⟩

/-- The addresses are no part of it. -/
theorem ReceivedParameters.addrs {f : ToolFormat} {version : UInt32}
    (h : ReceivedParameters f version t r) :
    ReceivedParameters f version t { r with client := client, server := server } := by
  cases f with
  | throughput =>
    obtain ⟨⟨h1, h2, h3, h4, h5, h6, h7, h8, h9, h10⟩, htraceroute, hping⟩ := h
    exact ⟨⟨h1, h2, h3, h4, h5, h6, h7, h8, h9, h10⟩, htraceroute.addrs, hping.addrs⟩
  | traceroute =>
    obtain ⟨⟨h1, h2, h3⟩, hthroughput, hping⟩ := h
    exact ⟨⟨h1, h2, h3⟩, hthroughput.addrs, hping.addrs⟩
  | ping =>
    obtain ⟨⟨h1, h2, h3, h4⟩, hthroughput, htraceroute⟩ := h
    exact ⟨⟨h1, h2, h3, h4⟩, hthroughput.addrs, htraceroute.addrs⟩

end Addresses

/-- A message of this version says whether the output is to be verbose: in version 1.5.2, and for
    throughput tools since the version with omitted seconds. -/
def SaysVerbose (f : ToolFormat) (version : UInt32) : Prop :=
  version ≥ BWL_MODE_PROTOCOL_1_5_2_VERSION ∨
    f = .throughput ∧ version ≥ BWL_MODE_PROTOCOL_OMIT_VERSION

instance (f : ToolFormat) (version : UInt32) : Decidable (SaysVerbose f version) :=
  inferInstanceAs (Decidable (_ ∨ _))

/-- **What a reader of the same version recovers** from a message with tool negotiation. -/
structure Received (f : ToolFormat) (version : UInt32) (s r : TestSession) : Prop where
  confClient : r.confClient = s.confClient
  toolPort : r.toolPort = if s.confClient then s.toolPort else 0
  sid : r.sid = s.sid
  client : r.testSpec.client = s.testSpec.client
  server : r.testSpec.server = s.testSpec.server
  reqTime : r.testSpec.reqTime =
    { s.testSpec.reqTime with scale := s.testSpec.reqTime.scale &&& 0x3f }
  latestTime : r.testSpec.latestTime = s.testSpec.latestTime
  toolId : r.testSpec.toolId = s.testSpec.toolId
  duration : r.testSpec.duration = s.testSpec.duration
  tos : r.testSpec.tos = s.testSpec.tos
  verbose : r.testSpec.verbose = if SaysVerbose f version then s.testSpec.verbose else true
  serverSends : r.testSpec.serverSends = s.testSpec.serverSends
  noServerEndpoint : r.testSpec.noServerEndpoint =
    if version ≥ BWL_MODE_PROTOCOL_1_5_VERSION then s.testSpec.noServerEndpoint else false
  outformat : r.testSpec.outformat = s.testSpec.outformat
  tracerouteUdp : r.testSpec.tracerouteUdp = false
  parameters : ReceivedParameters f version s.testSpec r.testSpec

/-- Octets that are loaded, one by one. -/
theorem ofFn_of_load {n m off : Nat} {buf : Vector UInt8 n} {v : Vector UInt8 m}
    (h : load buf off m = v.toList) : (Vector.ofFn fun i => byte buf (off + i.val)) = v := by
  apply Vector.ext
  intro i hi
  rw [Vector.getElem_ofFn, ← Vector.getElem_toList (by simpa using hi)]
  simp only [← h, load, List.getElem_map, List.getElem_range]

/-- The addresses come back. -/
theorem decodeAddrs_of_fields {buf : Msg} {s : TestSession} {ipvn : UInt8}
    {errest client server : List UInt8} (haddrs : AddrOctets s.testSpec ipvn client server)
    (h : CommonFields buf s ipvn errest client server) :
    ∃ c d, s.testSpec.client = some c ∧ s.testSpec.server = some d ∧
      decodeAddrs buf = some (c, d) := by
  unfold decodeAddrs
  rw [h.ipvn]
  cases haddrs with
  | inet c d hc hd =>
    have hclient := h.client
    have hserver := h.server
    rw [Vector.length_toList] at hclient hserver
    refine ⟨_, _, hc, hd, ?_⟩
    rw [if_neg (by decide), if_pos rfl, ofFn_of_load hclient, ofFn_of_load hserver]
  | inet6 c d hc hd =>
    have hclient := h.client
    have hserver := h.server
    rw [Vector.length_toList] at hclient hserver
    refine ⟨_, _, hc, hd, ?_⟩
    rw [if_pos rfl, ofFn_of_load hclient, ofFn_of_load hserver]

/-- The part of a throughput tool, field by field. -/
theorem parseThroughput_eq (buf : Msg) (t : BWLTestSpec) (version : UInt32) :
    parseThroughput buf t version =
      { t with
        udp := byte buf 1 >>> 4 ≠ 0
        bandwidth := if version ≥ BWL_MODE_PROTOCOL_TESTER_NEGOTIATION_VERSION then
          (load32 buf 76).toUInt64 <<< (byte buf 109).toUInt64 else (load32 buf 76).toUInt64
        lenBuffer := load32 buf 80
        windowSize := load32 buf 84
        reportInterval := if version < BWL_MODE_PROTOCOL_1_5_VERSION then
          (load32 buf 88 * 1000).toUInt16 else (load32 buf 88).toUInt16
        dynamicWindowSize := byte buf 92 &&& _BWL_DYNAMIC_WINDOW_SIZE ≠ 0
        parallelStreams := if version ≥ BWL_MODE_PROTOCOL_TESTER_NEGOTIATION_VERSION then
          byte buf 94 else t.parallelStreams
        units := if version ≥ BWL_MODE_PROTOCOL_TESTER_NEGOTIATION_VERSION then byte buf 111
          else t.units
        verbose := if version ≥ BWL_MODE_PROTOCOL_OMIT_VERSION then byte buf 100 ≠ 0 else t.verbose
        omit_ := if version ≥ BWL_MODE_PROTOCOL_OMIT_VERSION then byte buf 110 else t.omit_
        mss := if version ≥ BWL_MODE_PROTOCOL_MSS_VERSION then load16 buf 104 else t.mss } := by
  unfold parseThroughput
  split_ifs <;> rfl

theorem shift_back {b x : UInt64} {e : Nat} (he : e ≤ 32) (hx : x.toNat = b.toNat / 2 ^ e) :
    (x <<< (UInt8.ofNat e).toUInt64).toNat = (b.toNat >>> e) <<< e := by
  have hexp : (UInt8.ofNat e).toUInt64.toNat % 64 = e := by
    simp
    omega
  have hle : b.toNat / 2 ^ e * 2 ^ e ≤ b.toNat := Nat.div_mul_le_self _ _
  have hlt := b.toNat_lt
  rw [UInt64.toNat_shiftLeft, hexp, hx, Nat.shiftRight_eq_div_pow, Nat.shiftLeft_eq,
    Nat.mod_eq_of_lt (by omega)]

/-- The bandwidth comes back rounded. -/
theorem roundedBandwidth (b : UInt64) :
    RoundedBandwidth b ((scaleBandwidth 32 b 0).1.toUInt32.toUInt64 <<<
      (scaleBandwidth 32 b 0).2.toUInt64) := by
  obtain ⟨e, he, hexp, hval, hfits, hleast⟩ := scaleBandwidth_spec b
  refine ⟨e, ⟨?_, ?_⟩, ?_⟩
  · rw [Set.mem_ofPred_eq, Nat.shiftRight_eq_div_pow]
    exact hfits
  · intro e' he'
    rw [Set.mem_ofPred_eq, Nat.shiftRight_eq_div_pow] at he'
    by_contra hlt
    have := hleast e' (by omega)
    omega
  · rw [hexp]
    apply shift_back he
    rw [← hval]
    simp
    omega

/-- An interval that is sent in whole seconds. -/
theorem wholeSeconds (interval : UInt16) :
    ((interval / 1000).toUInt32 * 1000).toUInt16 = interval / 1000 * 1000 := by
  rw [UInt32.toUInt16_mul, UInt16.toUInt16_toUInt32]
  rfl

theorem receivedThroughput {buf : Msg} {t r : BWLTestSpec} {version : UInt32} {confClient : Bool}
    (hsend : ThroughputSendable t version confClient) (hfields : ThroughputFields buf t version)
    (hv : version ≥ BWL_MODE_PROTOCOL_TESTER_NEGOTIATION_VERSION) (hmss : r.mss = 0)
    (homit : r.omit_ = 0) : ReceivedThroughput version t (parseThroughput buf r version) := by
  obtain ⟨hrates, hparallel, hexp, hunits, hmss', homit'⟩ := hfields
  rw [parseThroughput_eq]
  constructor
  case udp =>
    dsimp only
    rw [Bool.decide_congr (iff_of_eq hrates.udp), Bool.decide_coe]
  case bandwidth =>
    dsimp only
    rw [if_pos hv, hrates.bandwidth, hexp hv]
    exact roundedBandwidth t.bandwidth
  case lenBuffer => exact hrates.lenBuffer
  case windowSize => exact hrates.windowSize
  case reportInterval =>
    dsimp only
    rw [hrates.reportInterval]
    by_cases hv15 : version ≥ BWL_MODE_PROTOCOL_1_5_VERSION
    · rw [if_neg (UInt32.not_lt.2 hv15), if_pos hv15, if_pos hv15]
      simp
    · rw [if_pos (UInt32.not_le.1 hv15), if_neg hv15, if_neg hv15]
      exact wholeSeconds t.reportInterval
  case dynamicWindowSize =>
    dsimp only
    rw [Bool.decide_congr (iff_of_eq hrates.dynamicWindowSize), Bool.decide_coe]
  case parallelStreams =>
    dsimp only
    rw [if_pos hv, hparallel hv]
  case units =>
    dsimp only
    rw [if_pos hv, hunits hv]
  case mss =>
    dsimp only
    split
    · rename_i h
      exact hmss' h
    · rename_i h
      rw [hmss, hsend.mss h]
  case omit_ =>
    dsimp only
    split
    · rename_i h
      exact homit' h
    · rename_i h
      rw [homit, hsend.omit_ h]

/-- What the part of a tool leaves as it is. -/
theorem parse_keeps {tools : ToolTable} {buf : Msg} {t r : BWLTestSpec} {version : UInt32}
    (h : parseRequestParameters tools buf t version = some r) :
    r.reqTime = t.reqTime ∧ r.latestTime = t.latestTime ∧ r.toolId = t.toolId ∧
      r.duration = t.duration ∧ r.serverSends = t.serverSends ∧
      r.noServerEndpoint = t.noServerEndpoint ∧ r.outformat = t.outformat := by
  unfold parseRequestParameters at h
  split at h
  · cases h
    rw [parseThroughput_eq]
    exact ⟨rfl, rfl, rfl, rfl, rfl, rfl, rfl⟩
  · cases h
    unfold parseTraceroute parseTos
    split <;> exact ⟨rfl, rfl, rfl, rfl, rfl, rfl, rfl⟩
  · cases h
    unfold parsePing parseTos
    split <;> exact ⟨rfl, rfl, rfl, rfl, rfl, rfl, rfl⟩
  · cases h

/-- What the part of a tool makes of a specification that is zero outside the common options. -/
theorem parse_laidOut {tools rtools : ToolTable} {buf : Msg} {s : TestSession} {t : BWLTestSpec}
    {version : UInt32} (hv : version ≥ BWL_MODE_PROTOCOL_TESTER_NEGOTIATION_VERSION)
    (h : ToolPart tools buf s version) (htool : t.toolId = s.testSpec.toolId)
    (hreader : (rtools.format? s.testSpec.toolId).isSome)
    (htos : t.tos = s.testSpec.tos) (hnone : NoThroughput t) (htrace : NoTraceroute t)
    (hping : NoPing t) (hverbose : byte buf 100 = if s.testSpec.verbose then 1 else 0)
    (ht : t.verbose =
      if version ≥ BWL_MODE_PROTOCOL_1_5_2_VERSION then s.testSpec.verbose else true) :
    ∃ f r, tools.format? s.testSpec.toolId = some f ∧
      parseRequestParameters rtools buf t version = some r ∧ r.tos = s.testSpec.tos ∧
      r.verbose = (if SaysVerbose f version then s.testSpec.verbose else true) ∧
      r.tracerouteUdp = t.tracerouteUdp ∧ ReceivedParameters f version s.testSpec r := by
  have hparse : ∀ f, tools.format? s.testSpec.toolId = some f → rtools.format? t.toolId = some f := by
    intro f hf
    rw [htool]
    exact ToolTable.format?_agree hf hreader
  have hkept : (¬ version ≥ BWL_MODE_PROTOCOL_1_5_2_VERSION → s.testSpec.tos = 0) →
      parseTos t version = t := by
    intro hno
    unfold parseTos
    rw [if_neg]
    rintro ⟨hset, hold⟩
    exact hset (htos.trans (hno hold))
  have hother : ∀ f, f ≠ .throughput → (SaysVerbose f version ↔
      version ≥ BWL_MODE_PROTOCOL_1_5_2_VERSION) := fun f hf =>
    or_iff_left fun hthr => hf hthr.1
  unfold parseRequestParameters
  cases h with
  | throughput hformat hsend hfields =>
    refine ⟨_, _, hformat, by rw [hparse _ hformat], ?_, ?_, ?_,
      receivedThroughput hsend hfields hv hnone.mss hnone.omit_, ?_, ?_⟩
    · rw [parseThroughput_eq]
      exact htos
    · rw [parseThroughput_eq]
      dsimp only
      by_cases homit : version ≥ BWL_MODE_PROTOCOL_OMIT_VERSION
      · have hsays : SaysVerbose .throughput version := Or.inr ⟨rfl, homit⟩
        rw [if_pos homit, if_pos hsays, hverbose]
        cases s.testSpec.verbose <;> rfl
      · have hold : ¬ version ≥ BWL_MODE_PROTOCOL_1_5_2_VERSION := fun h152 =>
          homit (UInt32.le_trans (by decide) h152)
        have hsilent : ¬ SaysVerbose .throughput version := by
          rintro (h152 | ⟨-, hyes⟩)
          · exact hold h152
          · exact homit hyes
        rw [if_neg homit, ht, if_neg hold, if_neg hsilent]
    · rw [parseThroughput_eq]
    · rw [parseThroughput_eq]
      exact ⟨htrace.1, htrace.2, htrace.3⟩
    · rw [parseThroughput_eq]
      exact ⟨hping.1, hping.2, hping.3, hping.4⟩
  | traceroute hformat hno hfields =>
    refine ⟨_, _, hformat, by rw [hparse _ hformat], ?_, ?_, ?_, ?_, ?_, ?_⟩
    all_goals
      unfold parseTraceroute
      rw [hkept hno]
    · exact htos
    · simp only [hother .traceroute (by decide)]
      exact ht
    · exact ⟨hfields.firstTtl, hfields.lastTtl, hfields.packetSize⟩
    · exact ⟨hnone.1, hnone.2, hnone.3, hnone.4, hnone.5, hnone.6, hnone.7, hnone.8, hnone.9,
        hnone.10⟩
    · exact ⟨hping.1, hping.2, hping.3, hping.4⟩
  | ping hformat hno hfields =>
    refine ⟨_, _, hformat, by rw [hparse _ hformat], ?_, ?_, ?_, ?_, ?_, ?_⟩
    all_goals
      unfold parsePing
      rw [hkept hno]
    · exact htos
    · simp only [hother .ping (by decide)]
      exact ht
    · exact ⟨hfields.packetCount, hfields.packetSize, hfields.interpacketTime, hfields.packetTtl⟩
    · exact ⟨hnone.1, hnone.2, hnone.3, hnone.4, hnone.5, hnone.6, hnone.7, hnone.8, hnone.9,
        hnone.10⟩
    · exact ⟨htrace.1, htrace.2, htrace.3⟩

/-- **A reader of the same version accepts the message** and recovers what it says. -/
theorem decode_laidOut {tools rtools : ToolTable} {buf : Msg} {s : TestSession} {version : UInt32}
    {ipvn : UInt8} {errest client server : List UInt8}
    (hv : version ≥ BWL_MODE_PROTOCOL_TESTER_NEGOTIATION_VERSION)
    (h : LaidOut tools s version buf ipvn errest client server)
    (hreader : (rtools.format? s.testSpec.toolId).isSome) :
    ∃ f r, tools.format? s.testSpec.toolId = some f ∧
      decodeTestRequest rtools true buf version none = .ok r ∧ Received f version s r := by
  have h8 : requestBlocks version = 8 := by
    unfold requestBlocks
    rw [if_pos hv]
  have hpad : ¬ load buf (16 * (requestBlocks version - 1)) 16 ≠ List.replicate 16 0 := by
    rw [h8]
    exact not_not.2 (h.padding hv)
  have hc := h.common
  have htime : decodeTimeStamp buf 8 = s.testSpec.reqTime.tstamp := hc.reqTime
  obtain ⟨c, d, hclient, hserver, haddrs⟩ := decodeAddrs_of_fields h.addrs hc
  have hflag : ∀ b : Bool, decide ((if b then 1 else 0 : UInt8) ≠ 0) = b := by
    intro b
    cases b <;> simp
  have hsides : (decide (byte buf 2 ≠ 0) : Bool) = s.confClient ∧
      (decide (byte buf 3 ≠ 0) : Bool) = s.confServer := by
    rw [hc.confClient, hc.confServer, hflag, hflag]
    exact ⟨rfl, rfl⟩
  have hbit : s.testSpec.toolId &&& (s.testSpec.toolId - 1) = 0 := by
    cases h.tool with
    | throughput hformat => exact (ToolTable.format?_bit hformat).1
    | traceroute hformat => exact (ToolTable.format?_bit hformat).1
    | ping hformat => exact (ToolTable.format?_bit hformat).1
  have htool : decodeTool buf version = some s.testSpec.toolId := by
    unfold decodeTool
    rw [if_pos hv, hc.tool, if_neg (not_not.2 hbit)]
  obtain ⟨f, spec, hformat, hparse, htos, hverbose, hudp, hparams⟩ := parse_laidOut
    (t := decodeSpec buf version
      { s.testSpec.reqTime with scale := s.testSpec.reqTime.scale &&& 0x3f } s.testSpec.toolId)
    hv h.tool rfl hreader hc.tos ⟨rfl, rfl, rfl, rfl, rfl, rfl, rfl, rfl, rfl, rfl⟩ ⟨rfl, rfl, rfl⟩
    ⟨rfl, rfl, rfl, rfl⟩ hc.verbose (by
      unfold decodeSpec
      dsimp only
      rw [hc.verbose, hflag])
  obtain ⟨hreq, hlatest, hid, hduration, hsends, hendpoint, hout⟩ := parse_keeps hparse
  refine ⟨f, { testSessionAlloc s.confClient c d (if s.confServer then 0 else load16 buf 26) spec with
    sid := decodeSid buf }, hformat, ?_, ?_⟩
  · unfold decodeTestRequest
    rw [if_neg hpad, htime, decodeErrEstimate_encode h.timeError hc.errest]
    dsimp only
    unfold decodeNew
    dsimp only
    rw [hsides.1, hsides.2, if_neg (by unfold TestSession.confServer; cases s.confClient <;> simp),
      haddrs]
    dsimp only
    rw [htool]
    dsimp only
    rw [hparse]
    rfl
  · constructor
    case confClient => rfl
    case toolPort =>
      rw [← hc.toolPort]
      unfold testSessionAlloc TestSession.confServer
      cases s.confClient <;> rfl
    case sid => exact ofFn_of_load hc.sid
    case client => exact hclient.symm
    case server => exact hserver.symm
    case reqTime => exact hreq
    case latestTime => exact hlatest.trans hc.latestTime
    case toolId => exact hid
    case duration => exact hduration.trans hc.duration
    case tos => exact htos
    case verbose => exact hverbose
    case serverSends =>
      refine hsends.trans ?_
      unfold decodeSpec
      dsimp only
      split
      · rw [hc.serverSends, hflag]
      · rename_i hold
        exact (h.direction hold).symm
    case noServerEndpoint =>
      refine hendpoint.trans ?_
      unfold decodeSpec
      dsimp only
      rw [hc.noServerEndpoint, hflag]
    case outformat =>
      refine hout.trans ?_
      unfold decodeSpec
      dsimp only
      rw [if_pos hv, hc.outformat]
    case tracerouteUdp => exact hudp
    case parameters => exact hparams.addrs

/-! ## The blocks of a message -/

/-- **The blocks of a message, read one by one, are its buffer.** -/
theorem receive_blocks (c : Conn) (buf : Msg) {k : Nat} (bits : UInt32) (hk : 0 < k)
    (hfits : 16 * k ≤ 128) :
    ∃ first rest, chunks 16 k buf = first :: rest ∧ rest.length = k - 1 ∧ byte first 0 = byte buf 0 ∧
      ∀ i < 16 * k,
        byte (((c.receive 0 [first]).enter bits).receive 16 rest).msg i = byte buf i := by
  cases hblocks : chunks 16 k buf with
  | nil =>
    have hlen := congrArg List.length hblocks
    rw [length_chunks, List.length_nil] at hlen
    omega
  | cons first rest =>
    have hlen := congrArg List.length hblocks
    rw [length_chunks, List.length_cons] at hlen
    have hmsg : (((c.receive 0 [first]).enter bits).receive 16 rest).msg =
        store c.msg 0 (flatten (chunks 16 k buf)) := by
      have hone : flatten [first] = first.toList := List.append_nil _
      rw [hblocks, flatten_cons, store_append, Vector.length_toList]
      unfold Conn.receive Conn.enter
      rw [hone]
    refine ⟨first, rest, rfl, by omega, ?_, ?_⟩
    · have hzero : (flatten (chunks 16 k buf)).getD 0 0 = byte buf 0 :=
        getD_flatten_chunks (by omega)
      rw [hblocks, flatten_cons, List.getD_append _ _ _ _ (by rw [Vector.length_toList]; omega)] at hzero
      exact hzero
    · intro i hi
      rw [hmsg]
      exact byte_store_chunks hi (by omega)

end Bwctl
