import Bwctl.Protocol.TestRequest

/-!
# The fields of a TestRequest

Every field of the message is what was stored last over its octets.  The stores fall into the
header, the options all tools share and the part of the tool; each leaves the octets of the
others alone, apart from the flag for UDP beside the IP version, and the tool and the duration,
which are stored twice.

* `CommonFields` — the header and the options, as they are read.
* `commonFields` — the writer puts them there.
* `CommonFields.store` — a store of the part of the tool leaves them alone.
* `unparseThroughput_fields`, `unparseTraceroute_fields`, `unparsePing_fields` — the part of the
  tool, and when it can be written.
-/

set_option autoImplicit false

namespace Bwctl

open Octets

/-! ## Loads of stored values -/

section Loads

variable {n off len : Nat} {buf : Vector UInt8 n}

theorem load_store_of_length {octets : List UInt8} (hlen : octets.length = len)
    (h : off + len ≤ n) : load (store buf off octets) off len = octets := by
  subst hlen
  exact load_store h

theorem byte_store_at {octets : List UInt8} {i : Nat} (h : i < n) (hoff : off ≤ i)
    (hlen : i < off + octets.length) :
    byte (store buf off octets) i = octets.getD (i - off) 0 := by
  rw [byte_store, if_pos ⟨h, hoff, hlen⟩]

end Loads

/-! ## The common fields -/

/-- A store into the part of the tool: octets 76 to 92, 94, 103 to 107 or 109 to 111. -/
def ToolStore (off len : Nat) : Prop :=
  76 ≤ off ∧ off + len ≤ 93 ∨ 94 ≤ off ∧ off + len ≤ 96 ∨ 103 ≤ off ∧ off + len ≤ 108 ∨
    109 ≤ off ∧ off + len ≤ 112

/-- The fields all tools share, as the reader loads them, and the zero padding of eight blocks. -/
structure CommonFields (buf : Msg) (s : TestSession) (ipvn : UInt8) (errest client server : List UInt8) :
    Prop where
  kind : byte buf 0 = 1
  ipvn : byte buf 1 &&& 0xf = ipvn
  confClient : byte buf 2 = if s.confClient then 1 else 0
  confServer : byte buf 3 = if s.confServer then 1 else 0
  duration : load32 buf 4 = s.testSpec.duration
  reqTime : load64 buf 8 = s.testSpec.reqTime.tstamp
  latestTime : load64 buf 16 = s.testSpec.latestTime
  errest : load buf 24 2 = errest
  toolPort : load16 buf 26 = s.toolPort
  client : load buf 28 client.length = client
  server : load buf 44 server.length = server
  sid : load buf 60 16 = s.sid.toList
  tos : byte buf 93 = s.testSpec.tos
  tool : load32 buf 96 = s.testSpec.toolId
  verbose : byte buf 100 = if s.testSpec.verbose then 1 else 0
  serverSends : byte buf 101 = if s.testSpec.serverSends then 1 else 0
  noServerEndpoint : byte buf 102 = if s.testSpec.noServerEndpoint then 1 else 0
  outformat : byte buf 108 = s.testSpec.outformat

section Common

variable {buf : Msg} {s : TestSession} {ipvn : UInt8} {errest client server : List UInt8}

/-- Buffers that agree on the common octets have the same common fields. -/
theorem CommonFields.congr {buf' : Msg} (hclient : client.length ≤ 16) (hserver : server.length ≤ 16)
    (h : CommonFields buf s ipvn errest client server)
    (hbyte : ∀ i, i = 0 ∨ 2 ≤ i ∧ i < 4 ∨ 8 ≤ i ∧ i < 76 ∨ i = 93 ∨ 100 ≤ i ∧ i < 103 ∨ i = 108 →
      byte buf' i = byte buf i)
    (hipvn : byte buf' 1 &&& 0xf = byte buf 1 &&& 0xf) (hduration : load32 buf' 4 = load32 buf 4)
    (htool : load32 buf' 96 = load32 buf 96) : CommonFields buf' s ipvn errest client server := by
  constructor
  · rw [hbyte 0 (by omega), h.kind]
  · rw [hipvn, h.ipvn]
  · rw [hbyte 2 (by omega), h.confClient]
  · rw [hbyte 3 (by omega), h.confServer]
  · rw [hduration, h.duration]
  · rw [load64_congr fun i h1 h2 => hbyte i (by omega), h.reqTime]
  · rw [load64_congr fun i h1 h2 => hbyte i (by omega), h.latestTime]
  · rw [load_congr fun i h1 h2 => hbyte i (by omega), h.errest]
  · rw [load16_congr fun i h1 h2 => hbyte i (by omega), h.toolPort]
  · rw [load_congr fun i h1 h2 => hbyte i (by omega), h.client]
  · rw [load_congr fun i h1 h2 => hbyte i (by omega), h.server]
  · rw [load_congr fun i h1 h2 => hbyte i (by omega), h.sid]
  · rw [hbyte 93 (by omega), h.tos]
  · rw [htool, h.tool]
  · rw [hbyte 100 (by omega), h.verbose]
  · rw [hbyte 101 (by omega), h.serverSends]
  · rw [hbyte 102 (by omega), h.noServerEndpoint]
  · rw [hbyte 108 (by omega), h.outformat]

/-- **A store of the part of the tool leaves the common fields alone.** -/
theorem CommonFields.store {off : Nat} {octets : List UInt8} (hclient : client.length ≤ 16)
    (hserver : server.length ≤ 16) (h : CommonFields buf s ipvn errest client server)
    (htool : ToolStore off octets.length) :
    CommonFields (Octets.store buf off octets) s ipvn errest client server := by
  unfold ToolStore at htool
  apply h.congr hclient hserver
  · intro i hi
    exact byte_store_of_disjoint (by omega)
  · rw [byte_store_of_disjoint (by omega)]
  · exact load32_store_of_disjoint (by omega)
  · exact load32_store_of_disjoint (by omega)

/-- The flag for UDP is stored beside the IP version. -/
theorem CommonFields.storeUdp (hclient : client.length ≤ 16) (hserver : server.length ≤ 16)
    (h : CommonFields buf s ipvn errest client server) :
    CommonFields (Octets.store buf 1 [byte buf 1 ||| 0x10]) s ipvn errest client server := by
  have hlen : [byte buf 1 ||| 0x10].length = 1 := rfl
  apply h.congr hclient hserver
  · intro i hi
    exact byte_store_of_disjoint (by omega)
  · rw [byte_store_one (by omega)]
    apply UInt8.eq_of_toBitVec_eq
    simp [BitVec.and_or_distrib_right]
  · exact load32_store_of_disjoint (by omega)
  · exact load32_store_of_disjoint (by omega)

/-- The tool is stored once more. -/
theorem CommonFields.storeTool (hclient : client.length ≤ 16) (hserver : server.length ≤ 16)
    (h : CommonFields buf s ipvn errest client server) :
    CommonFields (Octets.store buf 96 (be32 s.testSpec.toolId)) s ipvn errest client server := by
  have hlen := length_be32 s.testSpec.toolId
  apply h.congr hclient hserver
  · intro i hi
    exact byte_store_of_disjoint (by omega)
  · rw [byte_store_of_disjoint (by omega)]
  · exact load32_store_of_disjoint (by omega)
  · rw [load32_store (by omega), h.tool]

/-- The duration is stored once more. -/
theorem CommonFields.storeDuration (hclient : client.length ≤ 16) (hserver : server.length ≤ 16)
    (h : CommonFields buf s ipvn errest client server) :
    CommonFields (Octets.store buf 4 (be32 s.testSpec.duration)) s ipvn errest client server := by
  have hlen := length_be32 s.testSpec.duration
  apply h.congr hclient hserver
  · intro i hi
    exact byte_store_of_disjoint (by omega)
  · rw [byte_store_of_disjoint (by omega)]
  · rw [load32_store (by omega), h.duration]
  · exact load32_store_of_disjoint (by omega)

/-- The buffer of `_BWLWriteTestRequest` before the part of the tool. -/
def commonPart (msg : Msg) (s : TestSession) (version : UInt32) (ipvn : UInt8)
    (errest client server : List UInt8) : Msg :=
  storeOptions (storeHeader (store msg 0 (List.replicate (16 * requestBlocks version) 0)) s ipvn
    errest client server) s.testSpec

theorem requestBlocks_le (version : UInt32) : 7 ≤ requestBlocks version ∧ requestBlocks version ≤ 8 := by
  unfold requestBlocks
  split <;> omega

theorem request_blocks_ne_nil (version : UInt32) (buf : Msg) :
    chunks 16 (requestBlocks version) buf ≠ [] := by
  intro hnil
  have hlen := congrArg List.length hnil
  rw [length_chunks, List.length_nil] at hlen
  unfold requestBlocks at hlen
  split at hlen <;> omega

/-- Octets the common part never stores are zeros. -/
theorem byte_commonPart (msg : Msg) (version : UInt32) (herrest : errest.length = 2)
    (hclient : client.length ≤ 16) (hserver : server.length ≤ 16) {i : Nat}
    (hi : 76 ≤ i ∧ i < 93 ∨ 94 ≤ i ∧ i < 96 ∨ 103 ≤ i ∧ i < 108 ∨ 112 ≤ i)
    (hlen : i < 16 * requestBlocks version) :
    byte (commonPart msg s version ipvn errest client server) i = 0 := by
  have hsid : s.sid.toList.length = 16 := Vector.length_toList
  have hblocks := requestBlocks_le version
  unfold commonPart storeOptions storeHeader encodeTimeStamp
  dsimp only
  split
  all_goals
    simp (disch := first
      | omega
      | (simp only [length_be16, length_be32, length_be64, List.length_cons, List.length_nil,
          hsid, herrest]
         omega)) only [byte_store_of_disjoint]
    rw [byte_store_at (by omega) (Nat.zero_le _) (by rw [List.length_replicate]; omega)]
    rw [List.getD_eq_getElem _ _ (by rw [List.length_replicate]; omega), List.getElem_replicate]

/-- **The writer puts the common fields where the reader finds them.** -/
theorem commonFields (msg : Msg) (version : UInt32) (hipvn : ipvn = 4 ∨ ipvn = 6)
    (herrest : errest.length = 2) (hclient : client.length ≤ 16) (hserver : server.length ≤ 16) :
    CommonFields (commonPart msg s version ipvn errest client server) s ipvn errest client server := by
  have hsid : s.sid.toList.length = 16 := Vector.length_toList
  have hblocks := requestBlocks_le version
  have hblocks' : 16 * requestBlocks version ≤ 128 := by omega
  unfold commonPart storeOptions storeHeader encodeTimeStamp
  dsimp only
  -- a set traffic class is stored; where there is none the octet is still zero
  split
  all_goals
    rename_i htos
    constructor
    -- each field is what the last store over its octets put there
    all_goals
      simp (disch := first
        | omega
        | (simp only [length_be16, length_be32, length_be64, List.length_cons, List.length_nil,
            List.length_replicate, hsid, herrest]
           omega)) only [byte_store_of_disjoint, byte_store_at, load32_store_of_disjoint,
        load32_store, load64_store_of_disjoint, load64_store, load_store_of_disjoint,
        load_store_of_length, load16_store_of_disjoint, load16_store]
    case kind => rfl
    case ipvn =>
      rcases hipvn with rfl | rfl
      · exact (by decide : (4 : UInt8) &&& 15 &&& 15 = 4)
      · exact (by decide : (6 : UInt8) &&& 15 &&& 15 = 6)
    case confClient => rfl
    case confServer => rfl
    case verbose => rfl
    case serverSends => rfl
    case noServerEndpoint => rfl
    case outformat => rfl
  · rfl
  · rw [List.getD_eq_getElem _ _ (by rw [List.length_replicate]; omega), List.getElem_replicate]
    exact (not_not.1 htos).symm

/-- The octet of the IP version, before the part of the tool. -/
theorem byte_one_commonPart (msg : Msg) (version : UInt32) (hipvn : ipvn = 4 ∨ ipvn = 6) :
    byte (commonPart msg s version ipvn errest client server) 1 = ipvn := by
  unfold commonPart storeOptions storeHeader
  dsimp only
  split
  all_goals
    simp (disch := first | omega | simp) only [byte_store_of_disjoint, byte_store_at]
    rcases hipvn with rfl | rfl
    · exact (by decide : (4 : UInt8) &&& 15 = 4)
    · exact (by decide : (6 : UInt8) &&& 15 = 6)

end Common

/-! ## The part of a throughput tool -/

section Throughput

variable {buf buf' : Msg} {t : BWLTestSpec} {version : UInt32}

/-- The options that came with the negotiation of tools: written, or not asked for. -/
structure NegotiatedStage (buf buf' : Msg) (t : BWLTestSpec) (version : UInt32) (exp : UInt8) :
    Prop where
  written : version ≥ BWL_MODE_PROTOCOL_TESTER_NEGOTIATION_VERSION →
    byte buf' 94 = t.parallelStreams ∧ byte buf' 109 = exp ∧ byte buf' 111 = t.units
  unasked : ¬ version ≥ BWL_MODE_PROTOCOL_TESTER_NEGOTIATION_VERSION →
    t.parallelStreams = 0 ∧ t.units = 0 ∧ exp = 0
  frame : ∀ i, i < 94 ∨ i = 95 ∨ 100 ≤ i ∧ i ≠ 109 ∧ i ≠ 111 → byte buf' i = byte buf i
  common : ∀ (s : TestSession) (ipvn : UInt8) (errest client server : List UInt8), s.testSpec = t →
    client.length ≤ 16 → server.length ≤ 16 → CommonFields buf s ipvn errest client server →
      CommonFields buf' s ipvn errest client server

theorem unparseNegotiated_ok {exp : UInt8} (h : unparseNegotiated buf t version exp = .ok buf') :
    NegotiatedStage buf buf' t version exp := by
  unfold unparseNegotiated at h
  split at h
  · rename_i hv
    cases h
    constructor
    · intro _
      refine ⟨?_, ?_, ?_⟩
      · simp (disch := first | omega | simp) only [byte_store_of_disjoint, byte_store_one]
      · simp (disch := first | omega | simp) only [byte_store_of_disjoint, byte_store_one]
      · exact byte_store_one (by omega)
    · intro hno
      exact absurd hv hno
    · intro i hi
      have hlen := length_be32 t.toolId
      rw [byte_store_of_disjoint (by simp; omega), byte_store_of_disjoint (by simp; omega),
        byte_store_of_disjoint (by omega), byte_store_of_disjoint (by simp; omega)]
    · intro s ipvn errest client server ht hclient hserver hcommon
      subst ht
      apply CommonFields.store hclient hserver _ (by simp [ToolStore])
      apply CommonFields.store hclient hserver _ (by simp [ToolStore])
      apply CommonFields.storeTool hclient hserver
      exact hcommon.store hclient hserver (by simp [ToolStore])
  rename_i hv
  split at h
  · cases h
  rename_i hparallel
  split at h
  · cases h
  rename_i hunits
  split at h
  · cases h
  rename_i hexp
  cases h
  refine ⟨fun hyes => absurd hyes hv, ?_, fun _ _ => rfl, fun _ _ _ _ _ _ _ _ hcommon => hcommon⟩
  intro _
  exact ⟨not_not.1 hparallel, not_not.1 hunits, UInt8.le_zero_iff.1 (UInt8.not_lt.1 hexp)⟩

/-- The segment size: written, or not asked for. -/
theorem unparseMss_ok (h : unparseMss buf t version = .ok buf') :
    (version ≥ BWL_MODE_PROTOCOL_MSS_VERSION → load16 buf' 104 = t.mss) ∧
      (¬ version ≥ BWL_MODE_PROTOCOL_MSS_VERSION → t.mss = 0) ∧
      (buf' = store buf 104 (be16 t.mss) ∨ buf' = buf) := by
  unfold unparseMss at h
  split at h
  · rename_i hv
    cases h
    refine ⟨?_, fun hno => absurd hv hno, Or.inl rfl⟩
    intro _
    exact load16_store (by omega)
  rename_i hv
  split at h
  · cases h
  rename_i hmss
  cases h
  refine ⟨fun hyes => absurd hyes hv, ?_, Or.inr rfl⟩
  intro _
  exact UInt16.le_zero_iff.1 (UInt16.not_lt.1 hmss)

/-- The omitted seconds: written, or not asked for. -/
theorem unparseOmit_ok (h : unparseOmit buf t version = .ok buf') :
    (version ≥ BWL_MODE_PROTOCOL_OMIT_VERSION → byte buf' 110 = t.omit_) ∧
      (¬ version ≥ BWL_MODE_PROTOCOL_OMIT_VERSION → t.omit_ = 0) ∧
      (buf' = store buf 110 [t.omit_] ∨ buf' = buf) := by
  unfold unparseOmit at h
  split at h
  · rename_i hv
    cases h
    refine ⟨?_, fun hno => absurd hv hno, Or.inl rfl⟩
    intro _
    exact byte_store_one (by omega)
  rename_i hv
  split at h
  · cases h
  rename_i homit
  cases h
  refine ⟨fun hyes => absurd hyes hv, ?_, Or.inr rfl⟩
  intro _
  exact not_not.1 homit

/-- A bandwidth that fits is not scaled. -/
theorem scaleBandwidth_exp {b : UInt64} : (scaleBandwidth 32 b 0).2 = 0 ↔ b.toNat < 2 ^ 32 := by
  obtain ⟨e, he, hexp, -, hfits, hleast⟩ := scaleBandwidth_spec b
  rw [hexp]
  constructor
  · intro hzero
    have hnat := congrArg UInt8.toNat hzero
    rw [UInt8.toNat_ofNat', Nat.mod_eq_of_lt (by omega)] at hnat
    obtain rfl : e = 0 := hnat
    rwa [Nat.pow_zero, Nat.div_one] at hfits
  · intro hb
    have hzero : e = 0 := by
      by_contra hne
      have hbig := hleast 0 (by omega)
      rw [Nat.pow_zero, Nat.div_one] at hbig
      omega
    rw [hzero]
    rfl

/-- The rates of a throughput test, as the reader loads them. -/
structure RateFields (buf : Msg) (t : BWLTestSpec) (version : UInt32) : Prop where
  udp : (byte buf 1 >>> 4 ≠ 0) = (t.udp = true)
  bandwidth : load32 buf 76 = (scaleBandwidth 32 t.bandwidth 0).1.toUInt32
  lenBuffer : load32 buf 80 = t.lenBuffer
  windowSize : load32 buf 84 = t.windowSize
  reportInterval : load32 buf 88 = if version ≥ BWL_MODE_PROTOCOL_1_5_VERSION then
    t.reportInterval.toUInt32 else (t.reportInterval / 1000).toUInt32
  dynamicWindowSize : (byte buf 92 &&& _BWL_DYNAMIC_WINDOW_SIZE ≠ 0) = (t.dynamicWindowSize = true)

/-- Buffers that agree up to the rates have the same rates. -/
theorem RateFields.congr (h : RateFields buf t version)
    (hframe : ∀ i, i < 93 → byte buf' i = byte buf i) : RateFields buf' t version := by
  constructor
  · rw [hframe 1 (by omega), h.udp]
  · rw [load32_congr fun i h1 h2 => hframe i (by omega), h.bandwidth]
  · rw [load32_congr fun i h1 h2 => hframe i (by omega), h.lenBuffer]
  · rw [load32_congr fun i h1 h2 => hframe i (by omega), h.windowSize]
  · rw [load32_congr fun i h1 h2 => hframe i (by omega), h.reportInterval]
  · rw [hframe 92 (by omega), h.dynamicWindowSize]

/-- The rates are where the reader finds them. -/
theorem rateFields (t : BWLTestSpec) (version : UInt32) (hipvn : byte buf 1 = 4 ∨ byte buf 1 = 6) (hdynamic : byte buf 92 = 0) :
    RateFields (unparseRates buf t version (scaleBandwidth 32 t.bandwidth 0).1) t version := by
  unfold unparseRates
  dsimp only
  constructor
  case udp =>
    have hrest : ∀ b : Msg, byte (if t.dynamicWindowSize then
        store b 92 [byte b 92 ||| _BWL_DYNAMIC_WINDOW_SIZE] else b) 1 = byte b 1 := by
      intro b
      split
      · exact byte_store_of_disjoint (by omega)
      · rfl
    rw [hrest, byte_store_of_disjoint (by omega), byte_store_of_disjoint (by omega),
      byte_store_of_disjoint (by omega), byte_store_of_disjoint (by omega)]
    split
    · rename_i hudp
      rw [byte_store_one (by omega)]
      rcases hipvn with h | h <;> simp [h, hudp] <;> decide
    · rename_i hudp
      rcases hipvn with h | h <;> simp [h, hudp] <;> decide
  case dynamicWindowSize =>
    have hudp : byte (if t.udp then store buf 1 [byte buf 1 ||| 0x10] else buf) 92 = 0 := by
      split
      · rw [byte_store_of_disjoint (by simp), hdynamic]
      · exact hdynamic
    split
    · rename_i hdyn
      simp (disch := first | omega | simp) only [byte_store_one, byte_store_of_disjoint]
      rw [hudp, hdyn]
      decide
    · rename_i hdyn
      simp (disch := first | omega | simp) only [byte_store_of_disjoint]
      rw [hudp]
      simp [hdyn]
  all_goals
    -- the store of the dynamic window is behind the rates
    split
    all_goals
      simp (disch := first | omega | simp) only [load32_store_of_disjoint, load32_store]

/-- The part of a throughput tool, as the reader loads it. -/
structure ThroughputFields (buf : Msg) (t : BWLTestSpec) (version : UInt32) : Prop where
  rates : RateFields buf t version
  parallelStreams : version ≥ BWL_MODE_PROTOCOL_TESTER_NEGOTIATION_VERSION →
    byte buf 94 = t.parallelStreams
  exponent : version ≥ BWL_MODE_PROTOCOL_TESTER_NEGOTIATION_VERSION →
    byte buf 109 = (scaleBandwidth 32 t.bandwidth 0).2
  units : version ≥ BWL_MODE_PROTOCOL_TESTER_NEGOTIATION_VERSION → byte buf 111 = t.units
  mss : version ≥ BWL_MODE_PROTOCOL_MSS_VERSION → load16 buf 104 = t.mss
  omit_ : version ≥ BWL_MODE_PROTOCOL_OMIT_VERSION → byte buf 110 = t.omit_

/-- What a throughput test must not ask of an older server. -/
structure ThroughputSendable (t : BWLTestSpec) (version : UInt32) (confClient : Bool) : Prop where
  tcpRate : version < BWL_MODE_PROTOCOL_1_5_VERSION → confClient = true →
    t.bandwidth = 0 ∨ t.udp = true
  negotiated : ¬ version ≥ BWL_MODE_PROTOCOL_TESTER_NEGOTIATION_VERSION →
    t.parallelStreams = 0 ∧ t.units = 0 ∧ t.bandwidth.toNat < 2 ^ 32
  mss : ¬ version ≥ BWL_MODE_PROTOCOL_MSS_VERSION → t.mss = 0
  omit_ : ¬ version ≥ BWL_MODE_PROTOCOL_OMIT_VERSION → t.omit_ = 0

/-- **What a written part of a throughput tool says.** -/
theorem unparseThroughput_ok {confClient : Bool} (hipvn : byte buf 1 = 4 ∨ byte buf 1 = 6)
    (hdynamic : byte buf 92 = 0) (h : unparseThroughput buf t version confClient = .ok buf') :
    ThroughputSendable t version confClient ∧ ThroughputFields buf' t version := by
  unfold unparseThroughput at h
  split at h
  · cases h
  rename_i hrate
  obtain ⟨b1, h1, h⟩ := Except.bind_ok h
  obtain ⟨b2, h2, h3⟩ := Except.bind_ok h
  have hrates := rateFields t version hipvn hdynamic
  obtain ⟨hwritten, hunasked, hframe1, -⟩ := unparseNegotiated_ok h1
  obtain ⟨hmss, hnomss, hstore2⟩ := unparseMss_ok h2
  obtain ⟨homit, hnoomit, hstore3⟩ := unparseOmit_ok h3
  have hframe2 : ∀ i, i < 104 ∨ 106 ≤ i → byte b2 i = byte b1 i := by
    intro i hi
    have hlen := length_be16 t.mss
    obtain rfl | rfl := hstore2
    · exact byte_store_of_disjoint (by omega)
    · rfl
  have hframe3 : ∀ i, i ≠ 110 → byte buf' i = byte b2 i := by
    intro i hi
    obtain rfl | rfl := hstore3
    · exact byte_store_of_disjoint (by simp; omega)
    · rfl
  constructor
  · refine ⟨?_, ?_, hnomss, hnoomit⟩
    case refine_2 =>
      intro hv
      obtain ⟨hparallel, hunits, hexp⟩ := hunasked hv
      exact ⟨hparallel, hunits, scaleBandwidth_exp.1 hexp⟩
    intro hv hc
    by_contra hno
    rw [not_or, Bool.not_eq_true] at hno
    exact hrate ⟨hv, ⟨UInt64.pos_iff_ne_zero.2 hno.1, by simp [hno.2]⟩, hc⟩
  · refine ⟨?_, ?_, ?_, ?_, ?_, homit⟩
    · apply hrates.congr
      intro i hi
      rw [hframe3 i (by omega), hframe2 i (by omega), hframe1 i (by omega)]
    · intro hv
      rw [hframe3 94 (by omega), hframe2 94 (by omega), (hwritten hv).1]
    · intro hv
      rw [hframe3 109 (by omega), hframe2 109 (by omega), (hwritten hv).2.1]
    · intro hv
      rw [hframe3 111 (by omega), hframe2 111 (by omega), (hwritten hv).2.2]
    · intro hv
      rw [load16_congr fun i h1 h2 => hframe3 i (by omega), hmss hv]

/-- The part of a throughput tool leaves the common fields alone. -/
theorem CommonFields.throughput {s : TestSession} {ipvn : UInt8} {errest client server : List UInt8}
    {confClient : Bool} (hclient : client.length ≤ 16) (hserver : server.length ≤ 16)
    (h : CommonFields buf s ipvn errest client server)
    (hok : unparseThroughput buf s.testSpec version confClient = .ok buf') :
    CommonFields buf' s ipvn errest client server := by
  unfold unparseThroughput at hok
  split at hok
  · cases hok
  obtain ⟨b1, h1, hok⟩ := Except.bind_ok hok
  obtain ⟨b2, h2, h3⟩ := Except.bind_ok hok
  have hrates : CommonFields (unparseRates buf s.testSpec version
      (scaleBandwidth 32 s.testSpec.bandwidth 0).1) s ipvn errest client server := by
    unfold unparseRates
    dsimp only
    have hudp : CommonFields (if s.testSpec.udp then
        Octets.store buf 1 [byte buf 1 ||| 0x10] else buf) s ipvn errest client server := by
      split
      · exact h.storeUdp hclient hserver
      · exact h
    have hwords : ∀ b : Msg, CommonFields b s ipvn errest client server →
        ∀ v1 v2 v3 v4 : UInt32, CommonFields (Octets.store (Octets.store (Octets.store (Octets.store b
          76 (be32 v1)) 80 (be32 v2)) 84 (be32 v3)) 88 (be32 v4)) s ipvn errest client server := by
      intro b hb v1 v2 v3 v4
      apply CommonFields.store hclient hserver _ (by simp [ToolStore])
      apply CommonFields.store hclient hserver _ (by simp [ToolStore])
      apply CommonFields.store hclient hserver _ (by simp [ToolStore])
      exact hb.store hclient hserver (by simp [ToolStore])
    split
    · apply CommonFields.store hclient hserver _ (by simp [ToolStore])
      exact hwords _ hudp _ _ _ _
    · exact hwords _ hudp _ _ _ _
  have hcommon1 := (unparseNegotiated_ok h1).common s ipvn errest client server rfl hclient hserver
    hrates
  have hcommon2 : CommonFields b2 s ipvn errest client server := by
    obtain ⟨-, -, rfl | rfl⟩ := unparseMss_ok h2
    · exact hcommon1.store hclient hserver (by simp [ToolStore])
    · exact hcommon1
  obtain ⟨-, -, rfl | rfl⟩ := unparseOmit_ok h3
  · exact hcommon2.store hclient hserver (by simp [ToolStore])
  · exact hcommon2

/-- A throughput test that asks nothing of an older server it does not know can be written. -/
theorem unparseThroughput_sendable {confClient : Bool} (buf : Msg)
    (h : ThroughputSendable t version confClient) :
    ∃ buf', unparseThroughput buf t version confClient = .ok buf' := by
  have h1 : ∀ b, ∃ b', unparseNegotiated b t version (scaleBandwidth 32 t.bandwidth 0).2 = .ok b' := by
    intro b
    unfold unparseNegotiated
    split
    · exact ⟨_, rfl⟩
    · rename_i hv
      obtain ⟨hparallel, hunits, hexp⟩ := h.negotiated hv
      rw [hparallel, hunits, scaleBandwidth_exp.2 hexp]
      exact ⟨b, rfl⟩
  have h2 : ∀ b, ∃ b', unparseMss b t version = .ok b' := by
    intro b
    unfold unparseMss
    split
    · exact ⟨_, rfl⟩
    · rename_i hv
      rw [h.mss hv]
      exact ⟨b, rfl⟩
  have h3 : ∀ b, ∃ b', unparseOmit b t version = .ok b' := by
    intro b
    unfold unparseOmit
    split
    · exact ⟨_, rfl⟩
    · rename_i hv
      rw [h.omit_ hv]
      exact ⟨b, rfl⟩
  unfold unparseThroughput
  rw [if_neg]
  · obtain ⟨b1, e1⟩ := h1 (unparseRates buf t version (scaleBandwidth 32 t.bandwidth 0).1)
    obtain ⟨b2, e2⟩ := h2 b1
    obtain ⟨b3, e3⟩ := h3 b2
    refine ⟨b3, ?_⟩
    dsimp only
    rw [e1]
    change (unparseMss b1 t version >>= fun buf => unparseOmit buf t version) = .ok b3
    rw [e2]
    exact e3
  · rintro ⟨hv, ⟨hband, hudp⟩, hc⟩
    obtain hzero | hset := h.tcpRate hv hc
    · rw [hzero] at hband
      exact absurd hband (by decide)
    · rw [hset] at hudp
      cases hudp

end Throughput

/-! ## The part of the other tools -/

section Other

variable {buf buf' : Msg} {t : BWLTestSpec} {version : UInt32}

/-- The part of a traceroute tool, as the reader loads it. -/
structure TracerouteFields (buf : Msg) (t : BWLTestSpec) : Prop where
  firstTtl : byte buf 76 = t.tracerouteFirstTtl
  lastTtl : byte buf 77 = t.tracerouteLastTtl
  packetSize : load16 buf 78 = t.traceroutePacketSize

/-- The part of a ping tool, as the reader loads it. -/
structure PingFields (buf : Msg) (t : BWLTestSpec) : Prop where
  packetCount : load16 buf 76 = t.pingPacketCount
  packetSize : load16 buf 78 = t.pingPacketSize
  interpacketTime : load16 buf 80 = t.pingInterpacketTime
  packetTtl : byte buf 84 = t.pingPacketTtl

theorem unparseTraceroute_ok (h : unparseTraceroute buf t version = .ok buf') :
    (¬ version ≥ BWL_MODE_PROTOCOL_1_5_2_VERSION → t.tos = 0) ∧ TracerouteFields buf' t := by
  unfold unparseTraceroute at h
  split at h
  · cases h
  rename_i htos
  cases h
  refine ⟨?_, ?_, ?_, ?_⟩
  · intro hv
    by_contra hset
    exact htos ⟨hset, hv⟩
  · simp (disch := first | omega | simp) only [byte_store_of_disjoint, byte_store_one]
  · simp (disch := first | omega | simp) only [byte_store_of_disjoint, byte_store_one]
  · exact load16_store (by omega)

theorem unparsePing_ok (h : unparsePing buf t version = .ok buf') :
    (¬ version ≥ BWL_MODE_PROTOCOL_1_5_2_VERSION → t.tos = 0) ∧ PingFields buf' t := by
  unfold unparsePing at h
  split at h
  · cases h
  rename_i htos
  cases h
  refine ⟨?_, ?_, ?_, ?_, ?_⟩
  · intro hv
    by_contra hset
    exact htos ⟨hset, hv⟩
  · simp (disch := first | omega | simp) only [load16_store_of_disjoint, load16_store]
  · simp (disch := first | omega | simp) only [load16_store_of_disjoint, load16_store]
  · simp (disch := first | omega | simp) only [load16_store_of_disjoint, load16_store]
  · exact byte_store_one (by omega)

section Frame

variable {s : TestSession} {ipvn : UInt8} {errest client server : List UInt8}

theorem CommonFields.traceroute (hclient : client.length ≤ 16) (hserver : server.length ≤ 16)
    (h : CommonFields buf s ipvn errest client server)
    (hok : unparseTraceroute buf s.testSpec version = .ok buf') :
    CommonFields buf' s ipvn errest client server := by
  unfold unparseTraceroute at hok
  split at hok
  · cases hok
  cases hok
  apply CommonFields.store hclient hserver _ (by simp [ToolStore])
  apply CommonFields.store hclient hserver _ (by simp [ToolStore])
  apply CommonFields.store hclient hserver _ (by simp [ToolStore])
  exact h.storeDuration hclient hserver

theorem CommonFields.ping (hclient : client.length ≤ 16) (hserver : server.length ≤ 16)
    (h : CommonFields buf s ipvn errest client server)
    (hok : unparsePing buf s.testSpec version = .ok buf') :
    CommonFields buf' s ipvn errest client server := by
  unfold unparsePing at hok
  split at hok
  · cases hok
  cases hok
  apply CommonFields.store hclient hserver _ (by simp [ToolStore])
  apply CommonFields.store hclient hserver _ (by simp [ToolStore])
  apply CommonFields.store hclient hserver _ (by simp [ToolStore])
  exact h.store hclient hserver (by simp [ToolStore])

end Frame

end Other

end Bwctl
