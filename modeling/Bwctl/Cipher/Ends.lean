import Bwctl.Cipher.Chaining

/-!
# The octets of a connection (`bwlib/io.c`)

Each end of a connection holds its buffers, the two IVs and the two key schedules in its own memory.
What it sends is enciphered in the buffer it stands in, and what it reads is deciphered where it was
put.  The ends on blocks (`BlockLine`) are what these ends do, with the cipher of the code.

* `EndAction.Clear` — a buffer away from the IVs.
* `Realises.send`, `Realises.receive` — one end does what the end on blocks does.
* `ends_simulate` — so do two ends, in every run.
* `octets_read_back` — every octet that is sent is read as it was before.
-/

set_option autoImplicit false

namespace Bwctl

open Octets

/-! ## One end -/

/-- `keyInstance`. -/
structure KeyInstance where
  Nr : Nat
  rk : KeySchedule

/-- The fields of a `BWLControl` for the blocks, with the addresses of the IVs. -/
structure CipherRecord where
  mode : SessionMode
  encryptKey : KeyInstance
  decryptKey : KeyInstance
  readIV : Nat
  writeIV : Nat

/-- `_BWLMakeKey`. -/
def makeKey (cntrl : CipherRecord) (binKey : List UInt8) : CipherRecord :=
  let enc := rijndaelKeySetupEnc cntrl.encryptKey.rk binKey 128
  let dec := rijndaelKeySetupDec cntrl.decryptKey.rk binKey 128
  { cntrl with encryptKey := ⟨enc.2, enc.1⟩, decryptKey := ⟨dec.2, dec.1⟩ }

/-- `_BWLEncryptBlocks`: the memory and what is returned.  `num_blocks*16*8` is an `int`, so that a
group has fewer than `2 ^ 24` blocks; the largest of `protocol.c` has eight. -/
def encryptBlocksAt (cntrl : CipherRecord) (m : Memory) (buf numBlocks out : Nat) : Memory × Int :=
  let (m, r) := blockEncryptAt (rijndaelEncrypt cntrl.encryptKey.rk cntrl.encryptKey.Nr) m
    cntrl.writeIV buf (numBlocks * 16 * 8) out
  if r ≠ numBlocks * 16 * 8 then (m, -1) else (m, 0)

/-- `_BWLDecryptBlocks`, for groups of the same sizes. -/
def decryptBlocksAt (cntrl : CipherRecord) (m : Memory) (buf numBlocks out : Nat) : Memory × Int :=
  let (m, r) := blockDecryptAt (rijndaelDecrypt cntrl.decryptKey.rk cntrl.decryptKey.Nr) m
    cntrl.readIV buf (numBlocks * 16 * 8) out
  if r ≠ numBlocks * 16 * 8 then (m, -1) else (m, 0)

/-- `_BWLSendBlocksIntr`, when all octets are written: the memory and the octets on the socket. -/
def sendBlocksAt (cntrl : CipherRecord) (m : Memory) (buf numBlocks : Nat) : Memory × List UInt8 :=
  let m := if cntrl.mode &&& BWL_MODE_DOCIPHER ≠ 0 then (encryptBlocksAt cntrl m buf numBlocks buf).1
    else m
  (m, m.read buf (16 * numBlocks))

/-- `_BWLReceiveBlocksIntr` on the octets that have been sent: the memory and the octets left,
nothing while there are fewer than asked for. -/
def receiveBlocksAt (cntrl : CipherRecord) (m : Memory) (buf numBlocks : Nat) (inbox : List UInt8) :
    Option (Memory × List UInt8) :=
  if inbox.length < 16 * numBlocks then none
  else
    let m := m.write buf (inbox.take (16 * numBlocks))
    let m := if cntrl.mode &&& BWL_MODE_DOCIPHER ≠ 0 then
      (decryptBlocksAt cntrl m buf numBlocks buf).1 else m
    some (m, inbox.drop (16 * numBlocks))

/-! ## Two ends -/

/-- One end of a connection: its record and its memory, the octets on their way to it, those it has
had in its buffers when it sent them, and those it has had there when it had read them. -/
structure End where
  cntrl : CipherRecord
  memory : Memory
  inbox : List UInt8
  sent : List UInt8
  got : List UInt8

structure Ends where
  client : End
  server : End

/-- The calls on blocks, and whatever else an end writes in its memory. -/
inductive EndAction where
  | send (buf numBlocks : Nat)
  | receive (buf numBlocks : Nat)
  | write (buf : Nat) (octets : List UInt8)

def Ends.swap (ends : Ends) : Ends := ⟨ends.server, ends.client⟩

def Ends.act (ends : Ends) : EndAction → Option Ends
  | .send buf numBlocks =>
    let e := ends.client
    let r := sendBlocksAt e.cntrl e.memory buf numBlocks
    some ⟨{ e with memory := r.1, sent := e.sent ++ e.memory.read buf (16 * numBlocks) },
      { ends.server with inbox := ends.server.inbox ++ r.2 }⟩
  | .receive buf numBlocks =>
    let e := ends.client
    match receiveBlocksAt e.cntrl e.memory buf numBlocks e.inbox with
    | none => none
    | some (m, inbox) =>
      some ⟨{ e with memory := m, inbox := inbox, got := e.got ++ m.read buf (16 * numBlocks) },
        ends.server⟩
  | .write buf octets =>
    some ⟨{ ends.client with memory := ends.client.memory.write buf octets }, ends.server⟩

def Ends.step (ends : Ends) : Side → EndAction → Option Ends
  | .client, action => ends.act action
  | .server, action => (ends.swap.act action).map Ends.swap

/-- Both ends send, read and compute in any order. -/
def Ends.run (ends : Ends) : List (Side × EndAction) → Option Ends
  | [] => some ends
  | (side, action) :: events =>
    match ends.step side action with
    | none => none
    | some ends' => ends'.run events

/-- A buffer away from the IVs. -/
def EndAction.Clear (cntrl : CipherRecord) : EndAction → Prop
  | .send buf n => Apart cntrl.readIV 16 buf (16 * n) ∧ Apart cntrl.writeIV 16 buf (16 * n)
  | .receive buf n => Apart cntrl.readIV 16 buf (16 * n) ∧ Apart cntrl.writeIV 16 buf (16 * n)
  | .write buf octets =>
    Apart cntrl.readIV 16 buf octets.length ∧ Apart cntrl.writeIV 16 buf octets.length

def Ends.Clear (ends : Ends) : Side → EndAction → Prop
  | .client, action => action.Clear ends.client.cntrl
  | .server, action => action.Clear ends.server.cntrl

/-! ## The cipher of the code on blocks -/

def zeroSchedule : KeySchedule := ⟨Vector.replicate 60 0⟩

/-- The cipher of a session key. -/
def aesEncrypt (key : Block) : Block → Block := encryptUnder .bits128 zeroSchedule key.toList

def aesDecrypt (key : Block) : Block → Block := decryptUnder .bits128 zeroSchedule key.toList

theorem aesDecrypt_aesEncrypt (key x : Block) : aesDecrypt key (aesEncrypt key x) = x :=
  decryptUnder_encryptUnder .bits128 zeroSchedule zeroSchedule key.toList x

/-- What the schedule held before does not matter. -/
theorem encryptUnder_schedule (size : KeySize) (rk rk' : KeySchedule) (cipherKey : List UInt8) :
    encryptUnder size rk cipherKey = encryptUnder size rk' cipherKey := by
  funext x
  apply blockGrid_injective
  rw [encryptUnder_grid, encryptUnder_grid]

theorem decryptUnder_schedule (size : KeySize) (rk rk' : KeySchedule) (cipherKey : List UInt8) :
    decryptUnder size rk cipherKey = decryptUnder size rk' cipherKey := by
  funext x
  apply blockGrid_injective
  rw [decryptUnder_grid, decryptUnder_grid]

/-- The record has the schedules of a key. -/
def Keyed (cntrl : CipherRecord) (key : Block) : Prop :=
  ∃ old, cntrl = makeKey old key.toList

theorem Keyed.encrypt {cntrl : CipherRecord} {key : Block} (h : Keyed cntrl key) :
    rijndaelEncrypt cntrl.encryptKey.rk cntrl.encryptKey.Nr = aesEncrypt key := by
  obtain ⟨old, rfl⟩ := h
  exact encryptUnder_schedule .bits128 old.encryptKey.rk zeroSchedule key.toList

theorem Keyed.decrypt {cntrl : CipherRecord} {key : Block} (h : Keyed cntrl key) :
    rijndaelDecrypt cntrl.decryptKey.rk cntrl.decryptKey.Nr = aesDecrypt key := by
  obtain ⟨old, rfl⟩ := h
  exact decryptUnder_schedule .bits128 old.decryptKey.rk zeroSchedule key.toList

/-! ## One end does what the end on blocks does -/

variable {m : Memory} {a n : Nat}

theorem toList_readBlock (m : Memory) (a : Nat) : (readBlock m a).toList = m.read a 16 := by
  apply List.ext_getElem
  · simp
  · intro i h1 h2
    simp [readBlock, Memory.read]

theorem flatten_readBlocks (m : Memory) (a n : Nat) : flatten (readBlocks m a n) = m.read a (16 * n) := by
  induction n generalizing a with
  | zero => rfl
  | succ n ih =>
    rw [readBlocks, flatten_cons, ih, toList_readBlock, show 16 * (n + 1) = 16 + 16 * n by ring,
      Memory.read_add]

theorem flatten_injective {cs ds : List Block} (h : flatten cs = flatten ds) : cs = ds := by
  have hlen := congrArg List.length h
  rw [length_flatten, length_flatten] at hlen
  induction cs generalizing ds with
  | nil => exact (List.eq_nil_of_length_eq_zero (by simpa using hlen.symm)).symm
  | cons c cs ih =>
    cases ds with
    | nil => simp at hlen
    | cons d ds =>
      rw [flatten_cons, flatten_cons] at h
      obtain ⟨hhead, htail⟩ := List.append_inj h (by simp)
      rw [Vector.toList_inj.1 hhead, ih htail (by simpa using hlen)]

theorem readBlocks_write (m : Memory) (a : Nat) (blocks : List Block) :
    readBlocks (m.write a (flatten blocks)) a blocks.length = blocks := by
  apply flatten_injective
  have hlen := length_flatten blocks
  rw [flatten_readBlocks, ← hlen, Memory.read_write]

/-- The group is enciphered where it stands. -/
theorem encryptBlocksAt_spec {cntrl : CipherRecord} {key : Block} {buf : Nat} (hkey : Keyed cntrl key)
    (hiv : Apart cntrl.writeIV 16 buf (16 * n)) :
    Chained m (encryptBlocksAt cntrl m buf n buf).1 cntrl.writeIV buf n
      (blockEncrypt (aesEncrypt key) (readBlock m cntrl.writeIV) (readBlocks m buf n)).2.1
      (blockEncrypt (aesEncrypt key) (readBlock m cntrl.writeIV) (readBlocks m buf n)).2.2 := by
  have hspec := blockEncryptAt_spec (aesEncrypt key) m (.inl le_rfl) hiv
  unfold encryptBlocksAt
  rw [hkey.encrypt]
  dsimp only
  rw [if_neg (not_not.2 hspec.1)]
  exact hspec.2

/-- The group is deciphered where it was put. -/
theorem decryptBlocksAt_spec {cntrl : CipherRecord} {key : Block} {buf : Nat} (hkey : Keyed cntrl key)
    (hiv : Apart cntrl.readIV 16 buf (16 * n)) :
    Chained m (decryptBlocksAt cntrl m buf n buf).1 cntrl.readIV buf n
      (blockDecrypt (aesDecrypt key) (readBlock m cntrl.readIV) (readBlocks m buf n)).2
      (blockDecryptIV (readBlock m cntrl.readIV) (readBlocks m buf n)) := by
  have hspec := blockDecryptAt_spec (aesDecrypt key) m (.inl le_rfl) hiv hiv
  unfold decryptBlocksAt
  rw [hkey.decrypt]
  dsimp only
  rw [if_neg (not_not.2 hspec.1)]
  exact hspec.2

/-- An end and the same end on blocks. -/
structure Realises (e : End) (p : Peer) : Prop where
  mode : e.cntrl.mode = p.cntrl.mode
  key : e.cntrl.mode &&& BWL_MODE_DOCIPHER ≠ 0 → Keyed e.cntrl p.cntrl.sessionKey
  readIV : readBlock e.memory e.cntrl.readIV = p.cntrl.readIV
  writeIV : readBlock e.memory e.cntrl.writeIV = p.cntrl.writeIV
  apart : Apart e.cntrl.readIV 16 e.cntrl.writeIV 16
  inbox : e.inbox = flatten p.inbox
  sent : e.sent = flatten p.sent
  got : e.got = flatten p.got

variable {e : End} {p : Peer} {buf : Nat}

/-- **A group that is sent**: the octets on the socket are those of the blocks. -/
theorem Realises.send (h : Realises e p) (hclear : (EndAction.send buf n).Clear e.cntrl) :
    Realises
        { e with
          memory := (sendBlocksAt e.cntrl e.memory buf n).1
          sent := e.sent ++ e.memory.read buf (16 * n) }
        { p with
          cntrl := (sendBlocks aesEncrypt p.cntrl (readBlocks e.memory buf n)).2
          sent := p.sent ++ readBlocks e.memory buf n } ∧
      (sendBlocksAt e.cntrl e.memory buf n).2 =
        flatten (sendBlocks aesEncrypt p.cntrl (readBlocks e.memory buf n)).1 := by
  obtain ⟨hread, hwrite⟩ := hclear
  have hsent : e.sent ++ e.memory.read buf (16 * n) =
      flatten (p.sent ++ readBlocks e.memory buf n) := by
    rw [flatten_append, flatten_readBlocks, h.sent]
  unfold sendBlocksAt sendBlocks
  rw [← h.mode]
  by_cases hc : e.cntrl.mode &&& BWL_MODE_DOCIPHER ≠ 0
  · have hspec := encryptBlocksAt_spec (m := e.memory) (h.key hc) hwrite
    have hapart := h.apart
    unfold Apart at hapart hread
    have hother : readBlock (encryptBlocksAt e.cntrl e.memory buf n buf).1 e.cntrl.readIV =
        readBlock e.memory e.cntrl.readIV :=
      readBlock_congr fun x _ _ => hspec.frame x (by omega) (by omega)
    rw [if_pos hc, if_pos hc]
    dsimp only
    refine ⟨⟨h.mode, h.key, hother.trans h.readIV, ?_, h.apart, h.inbox, hsent, h.got⟩, ?_⟩
    · rw [hspec.iv, h.writeIV]
      rfl
    · rw [← flatten_readBlocks, hspec.output, h.writeIV]
      rfl
  · rw [if_neg hc, if_neg hc]
    exact ⟨⟨h.mode, h.key, h.readIV, h.writeIV, h.apart, h.inbox, hsent, h.got⟩,
      (flatten_readBlocks _ _ _).symm⟩

/-- A group that is sent to the end. -/
theorem Realises.arrive (h : Realises e p) {octets : List UInt8} {blocks : List Block}
    (hblocks : octets = flatten blocks) :
    Realises { e with inbox := e.inbox ++ octets } { p with inbox := p.inbox ++ blocks } :=
  ⟨h.mode, h.key, h.readIV, h.writeIV, h.apart, by
    rw [flatten_append, hblocks, h.inbox], h.sent, h.got⟩

/-- What else is written does not matter. -/
theorem Realises.write (h : Realises e p) {octets : List UInt8}
    (hclear : (EndAction.write buf octets).Clear e.cntrl) :
    Realises { e with memory := e.memory.write buf octets } p := by
  obtain ⟨hread, hwrite⟩ := hclear
  unfold Apart at hread hwrite
  have hsame (iv : Nat) (hiv : iv + 16 ≤ buf ∨ buf + octets.length ≤ iv) :
      readBlock (e.memory.write buf octets) iv = readBlock e.memory iv :=
    readBlock_congr fun x _ _ => Memory.write_of_disjoint (by omega)
  exact ⟨h.mode, h.key, (hsame _ hread).trans h.readIV, (hsame _ hwrite).trans h.writeIV, h.apart,
    h.inbox, h.sent, h.got⟩

/-- The octets of the first blocks. -/
theorem take_flatten (cs : List Block) (n : Nat) :
    (flatten cs).take (16 * n) = flatten (cs.take n) ∧ (flatten cs).drop (16 * n) = flatten (cs.drop n) := by
  by_cases hn : n ≤ cs.length
  · have hlen : (flatten (cs.take n)).length = 16 * n := by
      rw [length_flatten, List.length_take, Nat.min_eq_left hn]
    have happ : flatten cs = flatten (cs.take n) ++ flatten (cs.drop n) := by
      rw [← flatten_append, List.take_append_drop]
    rw [happ, List.take_left' hlen, List.drop_left' hlen]
    exact ⟨rfl, rfl⟩
  · have hlen := length_flatten cs
    rw [List.take_of_length_le (by omega), List.take_of_length_le (by omega),
      List.drop_eq_nil_of_le (by omega), List.drop_eq_nil_of_le (by omega)]
    exact ⟨rfl, rfl⟩

/-- **A group that is read**: the buffer holds the blocks that are read. -/
theorem Realises.receive (h : Realises e p) (hclear : (EndAction.receive buf n).Clear e.cntrl)
    {m' : Memory} {inbox : List UInt8}
    (hread : receiveBlocksAt e.cntrl e.memory buf n e.inbox = some (m', inbox)) :
    ∃ blocks cntrl rest, receiveBlocks aesDecrypt p.cntrl n p.inbox = some (blocks, cntrl, rest) ∧
      m'.read buf (16 * n) = flatten blocks ∧
      Realises { e with memory := m', inbox := inbox, got := e.got ++ m'.read buf (16 * n) }
        ⟨cntrl, p.sent, p.got ++ blocks, rest⟩ := by
  have hinbox := length_flatten p.inbox
  rw [← h.inbox] at hinbox
  unfold receiveBlocksAt at hread
  split at hread
  · cases hread
  rename_i hlen
  -- the octets that are read are the next blocks, in the buffer
  have htake : (p.inbox.take n).length = n := by
    rw [List.length_take]
    omega
  have hoctets := (take_flatten p.inbox n).1
  rw [← h.inbox] at hoctets
  have hput : readBlocks (e.memory.write buf (e.inbox.take (16 * n))) buf n = p.inbox.take n := by
    have hwrite := readBlocks_write e.memory buf (p.inbox.take n)
    rwa [htake, ← hoctets] at hwrite
  have hclear' : (EndAction.write buf (e.inbox.take (16 * n))).Clear e.cntrl := by
    rw [EndAction.Clear, List.length_take, Nat.min_eq_left (by omega)]
    exact hclear
  have hwritten := h.write hclear'
  have hrest : e.inbox.drop (16 * n) = flatten (p.inbox.drop n) := by
    rw [h.inbox]
    exact (take_flatten p.inbox n).2
  unfold receiveBlocks
  rw [if_neg (by omega), ← h.mode]
  dsimp only at hread ⊢
  by_cases hc : e.cntrl.mode &&& BWL_MODE_DOCIPHER ≠ 0
  · rw [if_pos hc] at hread ⊢
    cases hread
    obtain ⟨hreadIV, hwriteIV⟩ := hclear
    have hspec := decryptBlocksAt_spec (m := e.memory.write buf (e.inbox.take (16 * n))) (h.key hc)
      hreadIV
    have hreadIV' := hwritten.readIV
    have hapart := h.apart
    unfold Apart at hapart hreadIV hwriteIV
    dsimp only at hreadIV'
    rw [hput, hreadIV'] at hspec
    have hother := readBlock_congr (a := e.cntrl.writeIV) fun x _ _ =>
      hspec.frame x (by omega) (by omega)
    have hbuf := flatten_readBlocks
      (decryptBlocksAt e.cntrl (e.memory.write buf (e.inbox.take (16 * n))) buf n buf).1 buf n
    rw [hspec.output] at hbuf
    refine ⟨_, _, _, rfl, hbuf.symm, h.mode, h.key, hspec.iv, hother.trans hwritten.writeIV, h.apart,
      hrest, h.sent, ?_⟩
    rw [flatten_append, ← h.got, ← hbuf]
    rfl
  · rw [if_neg hc] at hread ⊢
    cases hread
    have hbuf := flatten_readBlocks (e.memory.write buf (e.inbox.take (16 * n))) buf n
    rw [hput] at hbuf
    refine ⟨_, _, _, rfl, hbuf.symm, h.mode, h.key, hwritten.readIV, hwritten.writeIV, h.apart, hrest,
      h.sent, ?_⟩
    rw [flatten_append, ← h.got, ← hbuf]

/-! ## Two ends -/

/-- Both ends and the same ends on blocks. -/
structure Simulates (ends : Ends) (line : BlockLine) : Prop where
  client : Realises ends.client line.client
  server : Realises ends.server line.server

variable {ends ends' : Ends} {line : BlockLine}

theorem Simulates.swap (h : Simulates ends line) : Simulates ends.swap line.swap :=
  ⟨h.server, h.client⟩

/-- What a step keeps of the two records: all but the memories. -/
structure SameRecords (ends ends' : Ends) : Prop where
  client : ends'.client.cntrl = ends.client.cntrl
  server : ends'.server.cntrl = ends.server.cntrl

theorem Ends.act_records {action : EndAction} (h : ends.act action = some ends') :
    SameRecords ends ends' := by
  cases action with
  | send buf n =>
    cases h
    exact ⟨rfl, rfl⟩
  | receive buf n =>
    unfold Ends.act at h
    dsimp only at h
    split at h
    · cases h
    · cases h
      exact ⟨rfl, rfl⟩
  | write buf octets =>
    cases h
    exact ⟨rfl, rfl⟩

theorem Ends.step_records {side : Side} {action : EndAction} (h : ends.step side action = some ends') :
    SameRecords ends ends' := by
  cases side with
  | client => exact Ends.act_records h
  | server =>
    obtain ⟨ends₁, hact, rfl⟩ := Option.map_eq_some_iff.1 h
    have hsame := Ends.act_records hact
    exact ⟨hsame.server, hsame.client⟩

/-- The calls of one end on blocks: what an end computes is nothing there. -/
theorem Simulates.act (h : Simulates ends line) {action : EndAction}
    (hclear : action.Clear ends.client.cntrl) (hact : ends.act action = some ends') :
    ∃ line', Simulates ends' line' ∧
      (line' = line ∨ ∃ call, line.act aesEncrypt aesDecrypt call = some line') := by
  cases action with
  | send buf n =>
    cases hact
    obtain ⟨hsender, hoctets⟩ := h.client.send hclear
    exact ⟨_, ⟨hsender, h.server.arrive hoctets⟩,
      .inr ⟨.send (readBlocks ends.client.memory buf n), rfl⟩⟩
  | receive buf n =>
    unfold Ends.act at hact
    dsimp only at hact
    split at hact
    · cases hact
    · rename_i m' inbox hread
      cases hact
      obtain ⟨blocks, cntrl, rest, hblocks, -, hreader⟩ := h.client.receive hclear hread
      refine ⟨⟨⟨cntrl, line.client.sent, line.client.got ++ blocks, rest⟩, line.server⟩,
        ⟨hreader, h.server⟩, .inr ⟨.receive n, ?_⟩⟩
      unfold BlockLine.act
      dsimp only
      rw [hblocks]
  | write buf octets =>
    cases hact
    exact ⟨line, ⟨h.client.write hclear, h.server⟩, .inl rfl⟩

theorem Simulates.step (h : Simulates ends line) {side : Side} {action : EndAction}
    (hclear : ends.Clear side action) (hstep : ends.step side action = some ends') :
    ∃ line', Simulates ends' line' ∧
      (line' = line ∨ ∃ call, line.step aesEncrypt aesDecrypt side call = some line') := by
  cases side with
  | client => exact h.act hclear hstep
  | server =>
    obtain ⟨ends₁, hact, rfl⟩ := Option.map_eq_some_iff.1 hstep
    obtain ⟨line₁, hsim, hcall⟩ := h.swap.act hclear hact
    refine ⟨line₁.swap, hsim.swap, ?_⟩
    rcases hcall with rfl | ⟨call, hcall⟩
    · exact .inl rfl
    · exact .inr ⟨call, Option.map_eq_some_iff.2 ⟨line₁, hcall, rfl⟩⟩

/-- **Every run of the ends is a run of the ends on blocks**, with the cipher of the code. -/
theorem ends_simulate (events : List (Side × EndAction)) : ∀ {ends : Ends} {line : BlockLine},
    Simulates ends line → (∀ event ∈ events, ends.Clear event.1 event.2) →
    ends.run events = some ends' →
    ∃ calls line', line.run aesEncrypt aesDecrypt calls = some line' ∧ Simulates ends' line' := by
  induction events with
  | nil =>
    intro ends line h _ hrun
    cases hrun
    exact ⟨[], line, rfl, h⟩
  | cons event events ih =>
    intro ends line h hclear hrun
    obtain ⟨side, action⟩ := event
    rw [Ends.run] at hrun
    split at hrun
    · cases hrun
    rename_i ends₁ hstep
    obtain ⟨line₁, hsim, hcall⟩ := h.step (hclear _ List.mem_cons_self) hstep
    have hsame := Ends.step_records hstep
    have hclear₁ : ∀ event ∈ events, ends₁.Clear event.1 event.2 := by
      intro event hevent
      have hc := hclear event (List.mem_cons_of_mem _ hevent)
      unfold Ends.Clear at hc ⊢
      rw [hsame.client, hsame.server]
      exact hc
    obtain ⟨calls, line', hcalls, hsim'⟩ := ih hsim hclear₁ hrun
    rcases hcall with rfl | ⟨call, hcall⟩
    · exact ⟨calls, line', hcalls, hsim'⟩
    · refine ⟨(side, call) :: calls, line', ?_, hsim'⟩
      rw [BlockLine.run, hcall]
      exact hcalls

/-- What one end has read is what the other one has sent, the rest is on its way, and the next
octets are read as they were sent, into any buffer away from the IVs. -/
structure OctetsReadBack (a b : End) : Prop where
  text : b.got = a.sent.take b.got.length
  count : b.got.length + b.inbox.length = a.sent.length
  next : ∀ buf n, (EndAction.receive buf n).Clear b.cntrl → 16 * n ≤ b.inbox.length →
    ∃ m rest, receiveBlocksAt b.cntrl b.memory buf n b.inbox = some (m, rest) ∧
      m.read buf (16 * n) = (a.sent.drop b.got.length).take (16 * n)

theorem Realises.readBack {a b : End} {p q : Peer} (ha : Realises a p) (hb : Realises b q)
    (h : ReadBack aesDecrypt p q) : OctetsReadBack a b := by
  have hgot := length_flatten q.got
  have hinbox := length_flatten q.inbox
  have hsent := length_flatten p.sent
  have hcount := h.count
  rw [← hb.got] at hgot
  rw [← hb.inbox] at hinbox
  rw [← ha.sent] at hsent
  refine ⟨?_, by omega, fun buf n hclear hn => ?_⟩
  · rw [hgot, ha.sent, (take_flatten p.sent q.got.length).1, ← h.text, hb.got]
  · obtain ⟨⟨m, rest⟩, hread⟩ :
        ∃ r, receiveBlocksAt b.cntrl b.memory buf n b.inbox = some r := by
      unfold receiveBlocksAt
      rw [if_neg (by omega)]
      exact ⟨_, rfl⟩
    obtain ⟨blocks, cntrl, rest', hblocks, hbuf, -⟩ := hb.receive hclear hread
    obtain ⟨cntrl', rest₁, hnext⟩ := h.next n (by omega)
    rw [hblocks] at hnext
    cases hnext
    refine ⟨m, rest, hread, ?_⟩
    rw [hbuf, hgot, ha.sent, (take_flatten p.sent q.got.length).2, (take_flatten _ n).1]

/-- **Every octet that is sent is read as it was before**, in every run of two ends whose records fit
    together, whatever the groups, the buffers and the octets. -/
theorem octets_read_back {client server : Control} (h : Crossed client server) {ends ends' : Ends}
    (hstart : Simulates ends (BlockLine.start client server)) {events : List (Side × EndAction)}
    (hclear : ∀ event ∈ events, ends.Clear event.1 event.2) (hrun : ends.run events = some ends') :
    OctetsReadBack ends'.client ends'.server ∧ OctetsReadBack ends'.server ends'.client := by
  obtain ⟨calls, line, hcalls, hsim⟩ := ends_simulate events hstart hclear hrun
  obtain ⟨hthere, hback⟩ := h.run aesDecrypt_aesEncrypt hcalls
  exact ⟨hsim.client.readBack hsim.server hthere, hsim.server.readBack hsim.client hback⟩

/-- A record in the encrypted mode. -/
def cipherControl : Control := { Control.alloc with mode := BWL_MODE_ENCRYPTED }

/-- An end with that record, its IVs at the start of its memory. -/
def cipherEnd : End where
  cntrl := makeKey ⟨BWL_MODE_ENCRYPTED, ⟨0, zeroSchedule⟩, ⟨0, zeroSchedule⟩, 0, 16⟩ zeroBlock.toList
  memory := fun _ => 0
  inbox := []
  sent := []
  got := []

def cipherEvents : List (Side × EndAction) :=
  [(.client, .write 32 [1, 2, 3]), (.client, .send 32 2), (.server, .receive 48 1),
    (.server, .send 48 1), (.client, .receive 32 1), (.server, .receive 64 1)]

theorem cipherEnd_realises : Realises cipherEnd ⟨cipherControl, [], [], []⟩ where
  mode := rfl
  key _ := ⟨_, rfl⟩
  readIV := by decide
  writeIV := by decide
  apart := .inl (by decide)
  inbox := rfl
  sent := rfl
  got := rfl

theorem octets_read_back_groups : ∃ ends', (Ends.mk cipherEnd cipherEnd).run cipherEvents = some ends' ∧
    OctetsReadBack ends'.client ends'.server ∧ OctetsReadBack ends'.server ends'.client := by
  obtain ⟨ends', hrun⟩ : ∃ ends', (Ends.mk cipherEnd cipherEnd).run cipherEvents = some ends' :=
    Option.isSome_iff_exists.1 rfl
  have hcrossed : Crossed cipherControl cipherControl :=
    ⟨rfl, fun _ => rfl, fun _ => rfl, fun _ => rfl⟩
  refine ⟨ends', hrun, octets_read_back hcrossed ⟨cipherEnd_realises, cipherEnd_realises⟩ ?_ hrun⟩
  intro event hevent
  simp only [cipherEvents, List.mem_cons, List.not_mem_nil, or_false] at hevent
  rcases hevent with rfl | rfl | rfl | rfl | rfl | rfl <;>
    exact ⟨.inl (by decide), .inl (by decide)⟩

end Bwctl
