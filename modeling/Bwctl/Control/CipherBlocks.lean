import Bwctl.Lib.BlockChains
import Bwctl.Control.ControlAccept

/-!
# Blocks on a control connection (`bwlib/io.c`, `bwlib/rijndael-api-fst.c`)

In a cipher mode the blocks of a connection are chained, in each direction from an IV of its own
that both ends move on with every block.  The cipher for one block, with the schedule of its key,
is a parameter.

* `sendBlocks`, `receiveBlocks` — a group of blocks at one end.
* `BlockLine` — two ends and the blocks in flight between them.
* `Carries.send`, `Carries.receive` — what each direction keeps.
* `Crossed.run` — everything that is sent is read back, whatever the groups.
-/

set_option autoImplicit false

namespace Bwctl

/-! ## The cipher -/

theorem cbcDecrypt_eq (decrypt : Block → Block) (iv : Block) (input : List Block) :
    cbcDecrypt decrypt iv input = BlockChains.decrypt xorBlock decrypt iv input := by
  induction input generalizing iv with
  | nil => rfl
  | cons c cs ih => rw [cbcDecrypt, BlockChains.decrypt, ih]

/-- `blockEncrypt`: the number of bits, the output and the IV it leaves. -/
def blockEncrypt (encrypt : Block → Block) (iv : Block) (input : List Block) :
    Nat × List Block × Block :=
  let output := BlockChains.encrypt xorBlock encrypt iv input
  (128 * input.length, output, BlockChains.next iv output)

/-- The IV `blockDecrypt` leaves. -/
def blockDecryptIV (iv : Block) (input : List Block) : Block := BlockChains.next iv input

theorem xorBlock_cancel (x y : Block) : xorBlock (xorBlock x y) y = x := by
  apply Vector.ext
  intro i hi
  simp only [xorBlock, Vector.getElem_zipWith, UInt8.xor_assoc, UInt8.xor_self, UInt8.xor_zero]

section Blocks

variable (rijndaelEncrypt rijndaelDecrypt : Block → Block → Block)

/-- `_BWLEncryptToken`; `none` is the return value `-1`. -/
def encryptToken (binKey : Block) (tokenIn : Token) : Option Token :=
  match blockEncrypt (rijndaelEncrypt binKey) zeroBlock [tokenIn.head, tokenIn.tail] with
  | (r, [head, tail], _) => if r ≠ TOKEN_BITS_LEN then none else some ⟨head, tail⟩
  | _ => none

/-- `_BWLEncryptBlocks`, with the key the record was given by `_BWLMakeKey`. -/
def encryptBlocks (cntrl : Control) (buf : List Block) : List Block × Control :=
  let r := blockEncrypt (rijndaelEncrypt cntrl.sessionKey) cntrl.writeIV buf
  (r.2.1, { cntrl with writeIV := r.2.2 })

/-- `_BWLDecryptBlocks`. -/
def decryptBlocks (cntrl : Control) (buf : List Block) : List Block × Control :=
  ((blockDecrypt (rijndaelDecrypt cntrl.sessionKey) cntrl.readIV buf).2,
    { cntrl with readIV := blockDecryptIV cntrl.readIV buf })

/-- `_BWLSendBlocksIntr`, when all octets are written: the blocks on the socket and the record. -/
def sendBlocks (cntrl : Control) (buf : List Block) : List Block × Control :=
  if cntrl.mode &&& BWL_MODE_DOCIPHER ≠ 0 then encryptBlocks rijndaelEncrypt cntrl buf
  else (buf, cntrl)

/-- `_BWLReceiveBlocksIntr` on the blocks that have been sent: the blocks read, the record and the
blocks left, nothing while there are fewer than asked for. -/
def receiveBlocks (cntrl : Control) (numBlocks : Nat) (inbox : List Block) :
    Option (List Block × Control × List Block) :=
  if inbox.length < numBlocks then none
  else
    let buf := inbox.take numBlocks
    let r := if cntrl.mode &&& BWL_MODE_DOCIPHER ≠ 0 then decryptBlocks rijndaelDecrypt cntrl buf
      else (buf, cntrl)
    some (r.1, r.2, inbox.drop numBlocks)

/-! ## Two ends -/

/-- One end of a connection: its record, the plain blocks it has sent and has read, and the blocks
on their way to it. -/
structure Peer where
  cntrl : Control
  sent : List Block
  got : List Block
  inbox : List Block

structure BlockLine where
  client : Peer
  server : Peer

inductive Side where
  | client
  | server

inductive BlockAction where
  | send (group : List Block)
  | receive (numBlocks : Nat)

def BlockLine.swap (line : BlockLine) : BlockLine := ⟨line.server, line.client⟩

/-- What one end does; nothing while there are too few blocks to read. -/
def BlockLine.act (line : BlockLine) : BlockAction → Option BlockLine
  | .send group =>
    let r := sendBlocks rijndaelEncrypt line.client.cntrl group
    some ⟨{ line.client with cntrl := r.2, sent := line.client.sent ++ group },
      { line.server with inbox := line.server.inbox ++ r.1 }⟩
  | .receive numBlocks =>
    match receiveBlocks rijndaelDecrypt line.client.cntrl numBlocks line.client.inbox with
    | none => none
    | some (buf, cntrl, inbox) =>
      some ⟨⟨cntrl, line.client.sent, line.client.got ++ buf, inbox⟩, line.server⟩

def BlockLine.step (line : BlockLine) : Side → BlockAction → Option BlockLine
  | .client, action => line.act rijndaelEncrypt rijndaelDecrypt action
  | .server, action => (line.swap.act rijndaelEncrypt rijndaelDecrypt action).map BlockLine.swap

/-- Both ends send and read in any order. -/
def BlockLine.run (line : BlockLine) : List (Side × BlockAction) → Option BlockLine
  | [] => some line
  | (side, action) :: events =>
    match line.step rijndaelEncrypt rijndaelDecrypt side action with
    | none => none
    | some line' => line'.run events

/-- The plain blocks of what is on its way. -/
def plainBlocks (cntrl : Control) (inbox : List Block) : List Block :=
  if cntrl.mode &&& BWL_MODE_DOCIPHER ≠ 0 then
    BlockChains.decrypt xorBlock (rijndaelDecrypt cntrl.sessionKey) cntrl.readIV inbox
  else inbox

/-- The direction from one end to the other: nothing is lost or changed, and the writer's IV is
where the reader's will be. -/
structure Carries (a b : Peer) : Prop where
  mode : a.cntrl.mode = b.cntrl.mode
  key : a.cntrl.mode &&& BWL_MODE_DOCIPHER ≠ 0 → a.cntrl.sessionKey = b.cntrl.sessionKey
  text : a.sent = b.got ++ plainBlocks rijndaelDecrypt b.cntrl b.inbox
  iv : a.cntrl.mode &&& BWL_MODE_DOCIPHER ≠ 0 →
    a.cntrl.writeIV = BlockChains.next b.cntrl.readIV b.inbox

/-- What one end has read is what the other one has sent, the rest is on its way, and the next
blocks are read as they were sent, whatever their number. -/
structure ReadBack (a b : Peer) : Prop where
  text : b.got = a.sent.take b.got.length
  count : b.got.length + b.inbox.length = a.sent.length
  next : ∀ n ≤ b.inbox.length, ∃ cntrl rest,
    receiveBlocks rijndaelDecrypt b.cntrl n b.inbox =
      some ((a.sent.drop b.got.length).take n, cntrl, rest)

/-- Two records that fit together. -/
structure Crossed (a b : Control) : Prop where
  mode : a.mode = b.mode
  key : a.mode &&& BWL_MODE_DOCIPHER ≠ 0 → a.sessionKey = b.sessionKey
  there : a.mode &&& BWL_MODE_DOCIPHER ≠ 0 → a.writeIV = b.readIV
  back : a.mode &&& BWL_MODE_DOCIPHER ≠ 0 → b.writeIV = a.readIV

variable {rijndaelEncrypt rijndaelDecrypt} {a b : Peer} {line line' : BlockLine}

/-! ## What one group does -/

@[simp] theorem sendBlocks_mode (cntrl : Control) (buf : List Block) :
    (sendBlocks rijndaelEncrypt cntrl buf).2.mode = cntrl.mode := by
  unfold sendBlocks
  split <;> rfl

@[simp] theorem sendBlocks_sessionKey (cntrl : Control) (buf : List Block) :
    (sendBlocks rijndaelEncrypt cntrl buf).2.sessionKey = cntrl.sessionKey := by
  unfold sendBlocks
  split <;> rfl

@[simp] theorem sendBlocks_readIV (cntrl : Control) (buf : List Block) :
    (sendBlocks rijndaelEncrypt cntrl buf).2.readIV = cntrl.readIV := by
  unfold sendBlocks
  split <;> rfl

/-- A group that is sent stands behind what is on its way, with its own plain blocks. -/
theorem Carries.send (hcipher : ∀ key x, rijndaelDecrypt key (rijndaelEncrypt key x) = x)
    (h : Carries rijndaelDecrypt a b) (group : List Block) :
    Carries rijndaelDecrypt
      { a with
        cntrl := (sendBlocks rijndaelEncrypt a.cntrl group).2
        sent := a.sent ++ group }
      { b with inbox := b.inbox ++ (sendBlocks rijndaelEncrypt a.cntrl group).1 } := by
  by_cases hmode : a.cntrl.mode &&& BWL_MODE_DOCIPHER ≠ 0
  · have hmode' : b.cntrl.mode &&& BWL_MODE_DOCIPHER ≠ 0 := h.mode ▸ hmode
    have hsend : sendBlocks rijndaelEncrypt a.cntrl group =
        encryptBlocks rijndaelEncrypt a.cntrl group := if_pos hmode
    refine ⟨by simpa using h.mode, fun _ => by simpa using h.key hmode, ?_, fun _ => ?_⟩
    · have htext := h.text
      unfold plainBlocks at htext ⊢
      rw [if_pos hmode'] at htext ⊢
      dsimp only
      rw [hsend, BlockChains.decrypt_append, htext, List.append_assoc, ← h.iv hmode, ← h.key hmode]
      unfold encryptBlocks blockEncrypt
      rw [BlockChains.decrypt_encrypt xorBlock (hcipher _) xorBlock_cancel]
    · dsimp only
      rw [hsend, BlockChains.next_append, ← h.iv hmode]
      rfl
  · have hmode' : ¬ b.cntrl.mode &&& BWL_MODE_DOCIPHER ≠ 0 := h.mode ▸ hmode
    have hsend : sendBlocks rijndaelEncrypt a.cntrl group = (group, a.cntrl) := if_neg hmode
    rw [hsend]
    refine ⟨h.mode, fun hc => absurd hc hmode, ?_, fun hc => absurd hc hmode⟩
    have htext := h.text
    unfold plainBlocks at htext ⊢
    rw [if_neg hmode'] at htext ⊢
    rw [htext, List.append_assoc]

/-- The other direction does not see it. -/
theorem Carries.send_back (h : Carries rijndaelDecrypt b a) (group : List Block) :
    Carries rijndaelDecrypt
      { b with inbox := b.inbox ++ (sendBlocks rijndaelEncrypt a.cntrl group).1 }
      { a with
        cntrl := (sendBlocks rijndaelEncrypt a.cntrl group).2
        sent := a.sent ++ group } := by
  refine ⟨by simpa using h.mode, fun hc => by simpa using h.key hc, ?_,
    fun hc => by simpa using h.iv hc⟩
  have htext := h.text
  unfold plainBlocks at htext ⊢
  simpa using htext

theorem receiveBlocks_cases {cntrl cntrl' : Control} {n : Nat} {inbox buf inbox' : List Block}
    (h : receiveBlocks rijndaelDecrypt cntrl n inbox = some (buf, cntrl', inbox')) :
    cntrl'.mode = cntrl.mode ∧ cntrl'.sessionKey = cntrl.sessionKey ∧
      cntrl'.writeIV = cntrl.writeIV ∧
      buf = plainBlocks rijndaelDecrypt cntrl (inbox.take n) ∧ inbox' = inbox.drop n ∧
      (cntrl.mode &&& BWL_MODE_DOCIPHER ≠ 0 →
        cntrl'.readIV = BlockChains.next cntrl.readIV (inbox.take n)) := by
  unfold receiveBlocks at h
  split at h
  · cases h
  unfold plainBlocks
  dsimp only at h
  split at h
  · rename_i hmode
    cases h
    rw [if_pos hmode]
    exact ⟨rfl, rfl, rfl, cbcDecrypt_eq _ _ _, rfl, fun _ => rfl⟩
  · rename_i hmode
    cases h
    rw [if_neg hmode]
    exact ⟨rfl, rfl, rfl, rfl, rfl, fun hc => absurd hc hmode⟩

/-- What is read leaves the rest as it is. -/
theorem plainBlocks_take {cntrl cntrl' : Control} {n : Nat} {inbox buf inbox' : List Block}
    (h : receiveBlocks rijndaelDecrypt cntrl n inbox = some (buf, cntrl', inbox')) :
    plainBlocks rijndaelDecrypt cntrl inbox = buf ++ plainBlocks rijndaelDecrypt cntrl' inbox' := by
  obtain ⟨hmode, hkey, -, rfl, rfl, hiv⟩ := receiveBlocks_cases h
  unfold plainBlocks
  rw [hmode]
  by_cases hcipher : cntrl.mode &&& BWL_MODE_DOCIPHER ≠ 0
  · rw [if_pos hcipher, if_pos hcipher, if_pos hcipher, hkey, hiv hcipher,
      BlockChains.decrypt_take]
  · rw [if_neg hcipher, if_neg hcipher, if_neg hcipher, List.take_append_drop]

/-- A group that is read is the next plain blocks. -/
theorem Carries.receive (h : Carries rijndaelDecrypt a b) {n : Nat} {buf inbox : List Block}
    {cntrl : Control}
    (hread : receiveBlocks rijndaelDecrypt b.cntrl n b.inbox = some (buf, cntrl, inbox)) :
    Carries rijndaelDecrypt a ⟨cntrl, b.sent, b.got ++ buf, inbox⟩ := by
  obtain ⟨hmode, hkey, -, -, hinbox, hiv⟩ := receiveBlocks_cases hread
  refine ⟨h.mode.trans hmode.symm, fun hc => (h.key hc).trans hkey.symm, ?_, fun hc => ?_⟩
  · dsimp only
    rw [h.text, plainBlocks_take hread, List.append_assoc]
  · dsimp only
    rw [h.iv hc, hinbox, hiv (h.mode ▸ hc), ← BlockChains.next_append, List.take_append_drop]

/-- The other direction does not see it. -/
theorem Carries.receive_back (h : Carries rijndaelDecrypt b a) {n : Nat} {buf inbox : List Block}
    {cntrl : Control}
    (hread : receiveBlocks rijndaelDecrypt b.cntrl n b.inbox = some (buf, cntrl, inbox)) :
    Carries rijndaelDecrypt ⟨cntrl, b.sent, b.got ++ buf, inbox⟩ a := by
  obtain ⟨hmode, hkey, hwrite, -⟩ := receiveBlocks_cases hread
  refine ⟨hmode.trans h.mode, fun hc => ?_, h.text, fun hc => ?_⟩
  · dsimp only at hc ⊢
    rw [hmode] at hc
    exact hkey.trans (h.key hc)
  · dsimp only at hc ⊢
    rw [hmode] at hc
    exact hwrite.trans (h.iv hc)

/-! ## Runs -/

/-- Both directions carry what is sent. -/
structure BlockLine.Ok (rijndaelDecrypt : Block → Block → Block) (line : BlockLine) : Prop where
  there : Carries rijndaelDecrypt line.client line.server
  back : Carries rijndaelDecrypt line.server line.client

theorem BlockLine.Ok.swap (h : line.Ok rijndaelDecrypt) : line.swap.Ok rijndaelDecrypt :=
  ⟨h.back, h.there⟩

theorem BlockLine.Ok.act (hcipher : ∀ key x, rijndaelDecrypt key (rijndaelEncrypt key x) = x)
    (h : line.Ok rijndaelDecrypt) {action : BlockAction}
    (hact : line.act rijndaelEncrypt rijndaelDecrypt action = some line') :
    line'.Ok rijndaelDecrypt := by
  cases action with
  | send group =>
    cases hact
    exact ⟨h.there.send hcipher group, h.back.send_back group⟩
  | receive n =>
    unfold BlockLine.act at hact
    dsimp only at hact
    split at hact
    · cases hact
    · rename_i hread
      cases hact
      exact ⟨h.there.receive_back hread, h.back.receive hread⟩

theorem BlockLine.Ok.step (hcipher : ∀ key x, rijndaelDecrypt key (rijndaelEncrypt key x) = x)
    (h : line.Ok rijndaelDecrypt) {side : Side} {action : BlockAction}
    (hstep : line.step rijndaelEncrypt rijndaelDecrypt side action = some line') :
    line'.Ok rijndaelDecrypt := by
  cases side with
  | client => exact h.act hcipher hstep
  | server =>
    obtain ⟨line₁, hact, rfl⟩ := Option.map_eq_some_iff.1 hstep
    exact (h.swap.act hcipher hact).swap

theorem BlockLine.Ok.run (hcipher : ∀ key x, rijndaelDecrypt key (rijndaelEncrypt key x) = x)
    (events : List (Side × BlockAction)) : ∀ {line : BlockLine}, line.Ok rijndaelDecrypt →
      line.run rijndaelEncrypt rijndaelDecrypt events = some line' → line'.Ok rijndaelDecrypt := by
  induction events with
  | nil =>
    intro line h hrun
    cases hrun
    exact h
  | cons event events ih =>
    intro line h hrun
    obtain ⟨side, action⟩ := event
    rw [BlockLine.run] at hrun
    split at hrun
    · cases hrun
    · rename_i hstep
      exact ih (h.step hcipher hstep) hrun

theorem length_plainBlocks (cntrl : Control) (inbox : List Block) :
    (plainBlocks rijndaelDecrypt cntrl inbox).length = inbox.length := by
  unfold plainBlocks
  split
  · exact BlockChains.length_decrypt _ _ _
  · rfl

theorem Carries.readBack (h : Carries rijndaelDecrypt a b) : ReadBack rijndaelDecrypt a b := by
  refine ⟨?_, ?_, fun n hn => ?_⟩
  · rw [h.text, List.take_left]
  · rw [h.text, List.length_append, length_plainBlocks]
  · obtain ⟨⟨buf, cntrl, inbox⟩, hread⟩ :
        ∃ r, receiveBlocks rijndaelDecrypt b.cntrl n b.inbox = some r := by
      unfold receiveBlocks
      rw [if_neg (by omega)]
      exact ⟨_, rfl⟩
    have hlen : buf.length = n := by
      rw [(receiveBlocks_cases hread).2.2.2.1, length_plainBlocks, List.length_take]
      omega
    refine ⟨cntrl, inbox, ?_⟩
    rw [hread, h.text, List.drop_left, plainBlocks_take hread, List.take_left' hlen]

/-- Two ends that have sent nothing. -/
def BlockLine.start (client server : Control) : BlockLine := ⟨⟨client, [], [], []⟩, ⟨server, [], [], []⟩⟩

theorem Crossed.start {client server : Control} (h : Crossed client server) :
    (BlockLine.start client server).Ok rijndaelDecrypt := by
  have hplain (cntrl : Control) : plainBlocks rijndaelDecrypt cntrl [] = [] :=
    List.eq_nil_of_length_eq_zero (length_plainBlocks _ _)
  exact ⟨⟨h.mode, h.key, (hplain server).symm, h.there⟩,
    ⟨h.mode.symm, fun hc => (h.key (h.mode ▸ hc)).symm, (hplain client).symm,
      fun hc => h.back (h.mode ▸ hc)⟩⟩

/-- **Two ends whose records fit together** read back what the other one sends, in every run. -/
theorem Crossed.run (hcipher : ∀ key x, rijndaelDecrypt key (rijndaelEncrypt key x) = x)
    {client server : Control} (h : Crossed client server) {events : List (Side × BlockAction)}
    (hrun : (BlockLine.start client server).run rijndaelEncrypt rijndaelDecrypt events = some line') :
    ReadBack rijndaelDecrypt line'.client line'.server ∧
      ReadBack rijndaelDecrypt line'.server line'.client :=
  have hok := BlockLine.Ok.run hcipher events h.start hrun
  ⟨hok.there.readBack, hok.back.readBack⟩

end Blocks

end Bwctl
