import Bwctl.Protocol.RoundTrip
import Bwctl.Protocol.Messages

/-!
# The transfer of results

A StopSession carries the results of a test behind its header: full blocks, a padded rest and a
block of zeros.  The reader takes exactly the blocks that were written and appends exactly the
octets of the file.

* `recvFull_fullBlocks`, `recvResults_resultBlocks` — the blocks of a file, one by one.
* `readStop_sent` — the header, and what is behind it.
* `result_transfer` — every file, and the files that cannot be sent.
-/

set_option autoImplicit false

namespace Bwctl

open Octets

/-! ## Blocks of a file -/

/-- The octets of a block come first in it. -/
theorem take_fileBlock {octets : List UInt8} (h : octets.length ≤ 16) :
    (fileBlock octets).toList.take octets.length = octets := by
  apply List.ext_getElem
  · rw [List.length_take, Vector.length_toList]
    omega
  · intro i h1 h2
    rw [List.getElem_take, Vector.getElem_toList]
    unfold fileBlock
    rw [Vector.getElem_ofFn, List.getD_eq_getElem _ _ h2]

/-- A file with octets appended. -/
def ResultFile.append (f : ResultFile) (octets : List UInt8) : ResultFile :=
  { f with content := f.content ++ octets }

/-- `fwrite` succeeds, or there is no file. -/
def Writable (file : Option ResultFile) : Prop := ∀ f ∈ file, f.writable = true

theorem Writable.append {file : Option ResultFile} (h : Writable file) (octets : List UInt8) :
    Writable (file.map (·.append octets)) := by
  intro f hf
  obtain ⟨g, hg, rfl⟩ := Option.mem_map.1 hf
  exact h g hg

theorem append_append (file : Option ResultFile) (a b : List UInt8) :
    (file.map (·.append a)).map (·.append b) = file.map (·.append (a ++ b)) := by
  cases file with
  | none => rfl
  | some f => simp [ResultFile.append]

theorem append_nil (file : Option ResultFile) : file.map (·.append []) = file := by
  cases file with
  | none => rfl
  | some f => simp [ResultFile.append]

/-- One block of a file. -/
theorem recvResult_fileBlock (octets : List UInt8) (h : octets.length ≤ 16) (w : Wire)
    {file : Option ResultFile} (hfile : Writable file) :
    recvResult octets.length (.block (fileBlock octets) :: w) file =
      (w, file.map (·.append octets), true) := by
  unfold recvResult
  rw [recv_block]
  cases file with
  | none => rfl
  | some f =>
    dsimp only
    rw [if_pos (hfile f rfl), take_fileBlock h]
    rfl

/-- **The full blocks of a file** are appended one by one. -/
theorem recvFull_fullBlocks {k : Nat} {content : List UInt8} (hlen : 16 * k ≤ content.length)
    (w : Wire) {file : Option ResultFile} (hfile : Writable file) :
    recvFull k (arrive (fullBlocks k content) ++ w) file =
      (w, file.map (·.append (content.take (16 * k))), true) := by
  induction k generalizing content file with
  | zero =>
    rw [Nat.mul_zero, List.take_zero, append_nil]
    rfl
  | succ k ih =>
    have hblock : (content.take 16).length = 16 := by
      rw [List.length_take]
      omega
    have hone := recvResult_fileBlock (content.take 16) (by omega)
      (arrive (fullBlocks k (content.drop 16)) ++ w) hfile
    rw [hblock] at hone
    have hrest : recvFull k (arrive (fullBlocks k (content.drop 16)) ++ w)
        (file.map (·.append (content.take 16))) = _ :=
      ih (by rw [List.length_drop]; omega) (hfile.append _)
    have hsplit : content.take 16 ++ (content.drop 16).take (16 * k) =
        content.take (16 * (k + 1)) := by
      rw [Nat.mul_succ, Nat.add_comm, List.take_add]
    change recvFull (k + 1) (.block (fileBlock (content.take 16)) ::
      (arrive (fullBlocks k (content.drop 16)) ++ w)) file = _
    unfold recvFull
    rw [hone]
    dsimp only
    rw [if_pos rfl, hrest, append_append, hsplit]

/-- **The blocks of a file**, with the rest and the block of zeros. -/
theorem recvResults_resultBlocks {content : List UInt8} (hlen : content.length ≠ 0) (w : Wire)
    {file : Option ResultFile} (hfile : Writable file) :
    recvResults content.length (arrive (resultBlocks content) ++ w) file =
      (w, file.map (·.append content), true) := by
  have hrestLen : (content.drop (16 * (content.length / 16))).length = content.length % 16 := by
    rw [List.length_drop]
    omega
  have hrest : recvRest (content.length % 16)
      (arrive (if content.length % 16 > 0 then
        [fileBlock (content.drop (16 * (content.length / 16)))] else []) ++
        (arrive [zeroBlock] ++ w)) (file.map (·.append (content.take (16 * (content.length / 16))))) =
      (arrive [zeroBlock] ++ w, file.map (·.append content), true) := by
    unfold recvRest
    by_cases hpos : content.length % 16 > 0
    · have hone := recvResult_fileBlock
        (content.drop (16 * (content.length / 16))) (by omega) (arrive [zeroBlock] ++ w)
        (hfile.append (content.take (16 * (content.length / 16))))
      rw [hrestLen, append_append, List.take_append_drop] at hone
      rw [if_pos hpos, if_pos hpos]
      exact hone
    · have hall : content.take (16 * (content.length / 16)) = content := by
        apply List.take_of_length_le
        omega
      rw [if_neg hpos, if_neg hpos, hall]
      rfl
  unfold recvResults resultBlocks
  rw [if_neg hlen, arrive_append, arrive_append, List.append_assoc, List.append_assoc,
    recvFull_fullBlocks (by omega) _ hfile]
  dsimp only
  rw [if_neg (by simp), hrest]
  dsimp only
  rw [if_neg (by simp), show arrive [zeroBlock] ++ w = .block zeroBlock :: w from rfl, recv_block]
  simp

/-! ## The header -/

/-- Everything the header of a StopSession says. -/
structure StopHeader (buf : Msg) (a : AcceptType) (fsize : UInt32) : Prop where
  kind : byte buf 0 = 3
  acceptval : byte buf 1 = a.octet
  size : load32 buf 8 = fsize
  padding : load buf 16 16 = List.replicate 16 0

theorem stopHeader (msg : Msg) (a : AcceptType) (fsize : UInt32) :
    StopHeader (encodeStopSession msg a fsize) a fsize := by
  unfold encodeStopSession
  refine ⟨?_, ?_, ?_, ?_⟩
  · simp (disch := first | omega | simp) only [byte_store_of_disjoint, byte_store_one]
  · exact byte_store_one (by omega)
  · rw [load32_store_of_disjoint (by simp), load32_store (by omega)]
  · rw [load_store_of_disjoint (by simp), load_store_of_disjoint (by simp),
      load_store_of_disjoint (by simp), load_store_zeros (by omega) (by omega) (by omega)]

/-- A header is the same wherever its octets are. -/
theorem StopHeader.congr {buf buf' : Msg} {a : AcceptType} {fsize : UInt32}
    (h : StopHeader buf a fsize) (hsame : ∀ i < 32, byte buf' i = byte buf i) :
    StopHeader buf' a fsize where
  kind := (hsame 0 (by omega)).trans h.kind
  acceptval := (hsame 1 (by omega)).trans h.acceptval
  size := (load32_congr fun i _ _ => hsame i (by omega)).trans h.size
  padding := (load_congr fun i _ _ => hsame i (by omega)).trans h.padding

/-- A connection in a test, between two messages. -/
structure Testing (c : Conn) : Prop where
  request : c.isRequest = true
  reading : c.isReading = false
  test : c.stateIs stateTest = true

/-- `BWLReadRequestType`, then `_BWLReadStopSession`. -/
def readStop (c : Conn) (w : Wire) (file : Option ResultFile) : RequestType × StopRead :=
  let (c, t, w) := nextRequest c w
  (t, readStopSession c w file)

/-- A StopSession comes over with its accept value and octets for the file, and nothing of what
    is behind it is read. -/
def Transferred (d : Conn) (blocks : List Block) (w : Wire) (file : Option ResultFile)
    (a : AcceptType) (octets : List UInt8) : Prop :=
  ∃ conn, readStop d (arrive blocks ++ w) file =
    (.stopSession, ⟨conn, w, .ok, some a, file.map (·.append octets)⟩)

/-- **A StopSession is read as it was sent**, header and results. -/
theorem transferred_of_results {d : Conn} (hd : Testing d) {a : AcceptType} (ha : a ≠ .invalid)
    (msg : Msg) {fsize : UInt32} {results : List Block} {w : Wire} {file : Option ResultFile}
    {octets : List UInt8} (hresults : recvResults fsize.toNat (arrive results ++ w) file =
      (w, file.map (·.append octets), true)) :
    Transferred d (chunks 16 2 (encodeStopSession msg a fsize) ++ results) w file a octets := by
  obtain ⟨first, rest, hchunks, hlen, hfirst, hmsg⟩ := receive_blocks d
    (encodeStopSession msg a fsize) stateStopSession (show 0 < 2 by omega) (by omega)
  obtain ⟨second, rfl⟩ := List.length_eq_one_iff.1 hlen
  have hheader := (stopHeader msg a fsize).congr hmsg
  have hnumber : RequestType.stopSession.number = some (byte first 0) := by
    rw [hfirst, (stopHeader msg a fsize).kind]
    rfl
  have hnext := nextRequest_block hd.request hd.reading hnumber (by simp [hd.test])
    (arrive (second :: results) ++ w)
  have hopen : (((d.receive 0 [first]).enter stateStopSession).stateIs stateRequest &&
      ((d.receive 0 [first]).enter stateStopSession).stateIs stateTest) = true := by
    rw [Bool.and_eq_true]
    exact ⟨stateIs_enter hd.request _, stateIs_enter hd.test _⟩
  refine ⟨((((d.receive 0 [first]).enter stateStopSession).receive 16 [second]).leave
    stateStopSession).enter stateRequest, ?_⟩
  unfold readStop
  rw [hchunks, show arrive ([first, second] ++ results) ++ w =
    .block first :: (arrive (second :: results) ++ w) from rfl, hnext]
  dsimp only [RequestType.reading]
  unfold readStopSession
  rw [hopen, show arrive (second :: results) ++ w = .block second :: (arrive results ++ w) from rfl,
    recv_block]
  simp only [Bool.not_true, Bool.false_eq_true, if_false]
  rw [hheader.padding, hheader.acceptval, getAcceptType_octet, hheader.size, if_neg ha, hresults]
  simp

/-! ## Every file -/

/-- A file that can be sent: it can be examined and its length fits into 32 bits. -/
def Transferable (fp : Option DataFile) : Prop :=
  ∀ f ∈ fp, f.examined = true ∧ f.content.length < 2 ^ 32

theorem announce_of_transferable {fp : Option DataFile} (h : Transferable fp) (a : AcceptType) :
    announce a fp = (a, UInt32.ofNat (fp.elim [] (·.content)).length) ∧
      (UInt32.ofNat (fp.elim [] (·.content)).length).toNat = (fp.elim [] (·.content)).length := by
  cases fp with
  | none => exact ⟨rfl, rfl⟩
  | some f =>
    obtain ⟨hexamined, hlen⟩ := h f rfl
    have hsize : (UInt32.ofNat f.content.length).toNat = f.content.length := by
      rw [UInt32.toNat_ofNat']
      exact Nat.mod_eq_of_lt hlen
    refine ⟨?_, hsize⟩
    unfold announce
    dsimp only [Option.elim]
    rw [hexamined, if_neg (by simp), if_neg (by rw [hsize]; simp)]

theorem announce_of_not_transferable {fp : Option DataFile} (h : ¬ Transferable fp)
    (a : AcceptType) : announce a fp = (.failure, 0) := by
  cases fp with
  | none =>
    exfalso
    apply h
    intro f hf
    cases hf
  | some f =>
    unfold announce
    dsimp only
    split
    · rfl
    rename_i hexamined
    rw [if_pos]
    intro hlen
    apply h
    intro g hg
    obtain rfl := Option.some.inj hg
    refine ⟨by simpa using hexamined, ?_⟩
    rw [hlen]
    exact UInt32.toNat_lt _

/-- What a successful write sends. -/
theorem writeStopSession_ok {c c' : Conn} {sent : StopSent} {a : AcceptType}
    {fp : Option DataFile} {out : List Block} (h : writeStopSession c sent a fp = (c', .ok, out)) :
    out = chunks 16 2 (encodeStopSession c.msg (announce a fp).1 (announce a fp).2) ++
      if (announce a fp).2 = 0 then [] else resultBlocks (fp.elim [] (·.content)) := by
  unfold writeStopSession at h
  split at h
  · cases h
  dsimp only at h
  split at h
  · cases h
  split at h
  · rename_i hzero
    cases h
    rw [if_pos hzero, List.append_nil]
  rename_i hzero
  split at h
  · cases h
  · cases h
    rw [if_neg hzero]

/-- **Result transfer**: a file that can be sent comes over octet by octet with the accept value,
    and any other file as a failure without data; the reader stops right behind the message. -/
theorem result_transfer {c c' : Conn} {sent : StopSent} {a : AcceptType} (ha : a ≠ .invalid)
    {fp : Option DataFile} {out : List Block} (hwrite : writeStopSession c sent a fp = (c', .ok, out))
    {d : Conn} (hd : Testing d) {file : Option ResultFile} (hfile : Writable file) (w : Wire) :
    (Transferable fp → Transferred d out w file a (fp.elim [] (·.content))) ∧
      (¬ Transferable fp → out.length = 2 ∧ Transferred d out w file .failure []) := by
  have hout := writeStopSession_ok hwrite
  constructor
  · intro h
    obtain ⟨hannounce, hsize⟩ := announce_of_transferable h a
    rw [hannounce] at hout
    dsimp only at hout
    rw [hout]
    apply transferred_of_results hd ha
    rw [hsize]
    split
    · rename_i hzero
      rw [hzero] at hsize
      have hnil : fp.elim [] (·.content) = [] := List.length_eq_zero_iff.1 hsize.symm
      rw [hnil, append_nil]
      rfl
    · rename_i hne
      apply recvResults_resultBlocks _ w hfile
      intro hzero
      apply hne
      rw [hzero]
      rfl
  · intro h
    rw [announce_of_not_transferable h a, if_pos rfl, List.append_nil] at hout
    refine ⟨by rw [hout, length_chunks], ?_⟩
    rw [hout, ← List.append_nil (chunks 16 2 _)]
    apply transferred_of_results hd (by decide)
    rw [append_nil]
    rfl

/-- Twenty octets between two ends that are in a test. -/
theorem result_transfer_twenty :
    Transferred { idleConn 0x06000000 with state := stateRequest ||| stateTest }
      (writeStopSession { idleConn 0x06000000 with state := stateRequest ||| stateTest }
        ⟨true, true⟩ .accept (some ⟨List.replicate 20 65, true⟩)).2.2 []
      (some ⟨[66], true⟩) .accept (List.replicate 20 65) := by
  have hwrite : writeStopSession { idleConn 0x06000000 with state := stateRequest ||| stateTest }
      ⟨true, true⟩ .accept (some ⟨List.replicate 20 65, true⟩) =
      ({ idleConn 0x06000000 with state := stateRequest ||| stateTest }, .ok, _) :=
    Prod.ext rfl (Prod.ext rfl rfl)
  have hfile : Writable (some ⟨[66], true⟩) := by
    intro f hf
    obtain rfl := Option.some.inj hf
    rfl
  apply (result_transfer (by decide) hwrite ⟨by decide, by decide, by decide⟩ hfile []).1
  intro f hf
  obtain rfl := Option.some.inj hf
  exact ⟨rfl, by simp⟩

end Bwctl
