import Bwctl.Cipher.Schedule
import Bwctl.Control.Handshake
import Bwctl.Lib.Memory

/-!
# Chaining in memory (`bwlib/rijndael-api-fst.c`)

`blockEncrypt` and `blockDecrypt` move two pointers through the memory, from which the same octets
may be read that are written: a connection enciphers its buffers where they are.

* `blockEncryptAt_spec`, `blockDecryptAt_spec` — the output is the chain of the input, the vector is
  the last block of the chain, and nothing else is written.
-/

set_option autoImplicit false

namespace Bwctl

open Octets

/-! ## Blocks in memory -/

def readBlock (m : Memory) (a : Nat) : Block := Vector.ofFn fun i => m (a + i)

def writeBlock (m : Memory) (a : Nat) (b : Block) : Memory := m.write a b.toList

/-- The blocks from an address on. -/
def readBlocks (m : Memory) : Nat → Nat → List Block
  | _, 0 => []
  | a, n + 1 => readBlock m a :: readBlocks m (a + 16) n

variable {m m' : Memory} {a b n : Nat}

theorem readBlock_congr (h : ∀ x, a ≤ x → x < a + 16 → m x = m' x) : readBlock m a = readBlock m' a := by
  apply Vector.ext
  intro i hi
  simp only [readBlock, Vector.getElem_ofFn]
  exact h _ (by omega) (by omega)

theorem readBlocks_congr (h : ∀ x, a ≤ x → x < a + 16 * n → m x = m' x) :
    readBlocks m a n = readBlocks m' a n := by
  induction n generalizing a with
  | zero => rfl
  | succ n ih =>
    rw [readBlocks, readBlocks, readBlock_congr fun x hx hlt => h x hx (by omega),
      ih fun x hx hlt => h x (by omega) (by omega)]

@[simp] theorem length_readBlocks (m : Memory) (a n : Nat) : (readBlocks m a n).length = n := by
  induction n generalizing a with
  | zero => rfl
  | succ n ih => rw [readBlocks, List.length_cons, ih]

theorem writeBlock_of_disjoint {x : Nat} (h : x < a ∨ a + 16 ≤ x) (blk : Block) :
    writeBlock m a blk x = m x := by
  have hlen : blk.toList.length = 16 := Vector.length_toList
  exact Memory.write_of_disjoint (by omega)

@[simp] theorem readBlock_writeBlock (m : Memory) (a : Nat) (blk : Block) :
    readBlock (writeBlock m a blk) a = blk := by
  have hlen : blk.toList.length = 16 := Vector.length_toList
  apply Vector.ext
  intro i hi
  simp only [readBlock, Vector.getElem_ofFn, writeBlock, Memory.write]
  rw [if_pos (by omega), Nat.add_sub_cancel_left, List.getD_eq_getElem _ _ (by omega)]
  exact Vector.getElem_toList _

theorem readBlock_writeBlock_of_disjoint (m : Memory) (h : b + 16 ≤ a ∨ a + 16 ≤ b) (blk : Block) :
    readBlock (writeBlock m a blk) b = readBlock m b :=
  readBlock_congr fun _ _ _ => writeBlock_of_disjoint (by omega) blk

theorem readBlocks_writeBlock_of_disjoint (m : Memory) (h : b + 16 * n ≤ a ∨ a + 16 ≤ b)
    (blk : Block) : readBlocks (writeBlock m a blk) b n = readBlocks m b n :=
  readBlocks_congr fun _ _ _ => writeBlock_of_disjoint (by omega) blk

/-! ## The two loops -/

/-- The loop of `blockEncrypt`, with that many blocks to go: the memory, and where `iv` points. -/
def encryptLoop (encrypt : Block → Block) : Nat → Nat → Nat → Nat → Memory → Memory × Nat
  | 0, iv, _, _, m => (m, iv)
  | n + 1, iv, input, outBuffer, m =>
    let block := xorBlock (readBlock m input) (readBlock m iv)
    let m := writeBlock m outBuffer (encrypt block)
    encryptLoop encrypt n outBuffer (input + 16) (outBuffer + 16) m

/-- `blockEncrypt`: the memory and the number of bits, which is an `int`: the bound on `inputLen` is
    `2 ^ 31`. -/
def blockEncryptAt (encrypt : Block → Block) (m : Memory) (binIV input : Nat) (inputLen : Int)
    (outBuffer : Nat) : Memory × Int :=
  if inputLen ≤ 0 then (m, 0)
  else
    let numBlocks := (inputLen / 128).toNat
    let (m, iv) := encryptLoop encrypt numBlocks binIV input outBuffer m
    (writeBlock m binIV (readBlock m iv), 128 * numBlocks)

/-- The loop of `blockDecrypt`, which moves the vector on with every block. -/
def decryptLoop (decrypt : Block → Block) (binIV : Nat) : Nat → Nat → Nat → Memory → Memory
  | 0, _, _, m => m
  | n + 1, input, outBuffer, m =>
    let block := xorBlock (decrypt (readBlock m input)) (readBlock m binIV)
    let m := writeBlock m binIV (readBlock m input)
    decryptLoop decrypt binIV n (input + 16) (outBuffer + 16) (writeBlock m outBuffer block)

/-- `blockDecrypt`. -/
def blockDecryptAt (decrypt : Block → Block) (m : Memory) (binIV input : Nat) (inputLen : Int)
    (outBuffer : Nat) : Memory × Int :=
  if inputLen ≤ 0 then (m, 0)
  else
    let numBlocks := (inputLen / 128).toNat
    (decryptLoop decrypt binIV numBlocks input outBuffer m, 128 * numBlocks)

/-- Two regions without a common octet. -/
def Apart (a n b k : Nat) : Prop := a + n ≤ b ∨ b + k ≤ a

/-- The output may stand where the input does or in front of it, but not over blocks that are still
    to be read. -/
def Ahead (input outBuffer n : Nat) : Prop := outBuffer ≤ input ∨ input + 16 * n ≤ outBuffer

/-- What a call leaves: its output, its vector, and the rest of the memory as it was. -/
structure Chained (m m' : Memory) (binIV outBuffer n : Nat) (output : List Block) (iv : Block) :
    Prop where
  output : readBlocks m' outBuffer n = output
  iv : readBlock m' binIV = iv
  frame : ∀ x, x < outBuffer ∨ outBuffer + 16 * n ≤ x → x < binIV ∨ binIV + 16 ≤ x → m' x = m x

theorem encryptLoop_spec (encrypt : Block → Block) (n iv : Nat) {input outBuffer : Nat} (m : Memory)
    (h : Ahead input outBuffer n) :
    readBlocks (encryptLoop encrypt n iv input outBuffer m).1 outBuffer n =
        BlockChains.encrypt xorBlock encrypt (readBlock m iv) (readBlocks m input n) ∧
      readBlock (encryptLoop encrypt n iv input outBuffer m).1
          (encryptLoop encrypt n iv input outBuffer m).2 =
        BlockChains.next (readBlock m iv)
          (BlockChains.encrypt xorBlock encrypt (readBlock m iv) (readBlocks m input n)) ∧
      ∀ x, x < outBuffer ∨ outBuffer + 16 * n ≤ x →
        (encryptLoop encrypt n iv input outBuffer m).1 x = m x := by
  unfold Ahead at h
  induction n generalizing iv input outBuffer m with
  | zero => exact ⟨rfl, rfl, fun _ _ => rfl⟩
  | succ n ih =>
    -- the pass writes its block, which is the vector of what is left
    have hrest := @ih outBuffer (input + 16) (outBuffer + 16)
      (writeBlock m outBuffer (encrypt (xorBlock (readBlock m input) (readBlock m iv)))) (by omega)
    rw [readBlock_writeBlock, readBlocks_writeBlock_of_disjoint _ (by omega)] at hrest
    obtain ⟨houtput, hiv, hframe⟩ := hrest
    have hfirst := readBlock_congr (a := outBuffer) fun x _ hlt => hframe x (by omega)
    rw [readBlock_writeBlock] at hfirst
    exact ⟨congrArg₂ List.cons hfirst houtput, hiv, fun x hx =>
      (hframe x (by omega)).trans (writeBlock_of_disjoint (by omega) _)⟩

/-- **`blockEncrypt` in memory**: the output is the chain of the input, also where the buffers are
    the same. -/
theorem blockEncryptAt_spec (encrypt : Block → Block) (m : Memory) {binIV input outBuffer n : Nat}
    (h : Ahead input outBuffer n) (hiv : Apart binIV 16 outBuffer (16 * n)) :
    (blockEncryptAt encrypt m binIV input (n * 16 * 8) outBuffer).2 = n * 16 * 8 ∧
      Chained m (blockEncryptAt encrypt m binIV input (n * 16 * 8) outBuffer).1 binIV outBuffer n
        (blockEncrypt encrypt (readBlock m binIV) (readBlocks m input n)).2.1
        (blockEncrypt encrypt (readBlock m binIV) (readBlocks m input n)).2.2 := by
  unfold blockEncryptAt
  by_cases hn : n = 0
  · subst hn
    rw [if_pos (by omega)]
    exact ⟨rfl, rfl, rfl, fun _ _ _ => rfl⟩
  have hlen : ((n : Int) * 16 * 8 / 128).toNat = n := by omega
  unfold Apart at hiv
  obtain ⟨houtput, hlast, hframe⟩ := encryptLoop_spec encrypt n binIV m h
  rw [if_neg (by omega), hlen]
  dsimp only
  refine ⟨by omega, ?_, ?_, fun x hout hx => ?_⟩
  · rw [readBlocks_writeBlock_of_disjoint _ (by omega), houtput]
    rfl
  · rw [readBlock_writeBlock, hlast]
    rfl
  · rw [writeBlock_of_disjoint hx, hframe x hout]

theorem decryptLoop_spec (decrypt : Block → Block) (n : Nat) {binIV input outBuffer : Nat} (m : Memory)
    (h : Ahead input outBuffer n) (hin : Apart binIV 16 input (16 * n))
    (hout : Apart binIV 16 outBuffer (16 * n)) :
    Chained m (decryptLoop decrypt binIV n input outBuffer m) binIV outBuffer n
      (BlockChains.decrypt xorBlock decrypt (readBlock m binIV) (readBlocks m input n))
      (BlockChains.next (readBlock m binIV) (readBlocks m input n)) := by
  unfold Ahead at h
  unfold Apart at hin hout
  induction n generalizing input outBuffer m with
  | zero => exact ⟨rfl, rfl, fun _ _ _ => rfl⟩
  | succ n ih =>
    have hrest := @ih (input + 16) (outBuffer + 16)
      (writeBlock (writeBlock m binIV (readBlock m input)) outBuffer
        (xorBlock (decrypt (readBlock m input)) (readBlock m binIV)))
      (by omega) (by omega) (by omega)
    rw [readBlock_writeBlock_of_disjoint _ (by omega), readBlock_writeBlock,
      readBlocks_writeBlock_of_disjoint _ (by omega),
      readBlocks_writeBlock_of_disjoint _ (by omega)] at hrest
    obtain ⟨houtput, hlast, hframe⟩ := hrest
    have hfirst := readBlock_congr (a := outBuffer) fun x _ hlt =>
      hframe x (by omega) (by omega)
    rw [readBlock_writeBlock] at hfirst
    rw [readBlocks, BlockChains.next_cons]
    exact ⟨congrArg₂ List.cons hfirst houtput, hlast, fun x hx hxiv =>
      (hframe x (by omega) hxiv).trans
        ((writeBlock_of_disjoint (by omega) _).trans (writeBlock_of_disjoint (by omega) _))⟩

/-- **`blockDecrypt` in memory.** -/
theorem blockDecryptAt_spec (decrypt : Block → Block) (m : Memory) {binIV input outBuffer n : Nat}
    (h : Ahead input outBuffer n) (hin : Apart binIV 16 input (16 * n))
    (hout : Apart binIV 16 outBuffer (16 * n)) :
    (blockDecryptAt decrypt m binIV input (n * 16 * 8) outBuffer).2 = n * 16 * 8 ∧
      Chained m (blockDecryptAt decrypt m binIV input (n * 16 * 8) outBuffer).1 binIV outBuffer n
        (blockDecrypt decrypt (readBlock m binIV) (readBlocks m input n)).2
        (blockDecryptIV (readBlock m binIV) (readBlocks m input n)) := by
  unfold blockDecryptAt
  by_cases hn : n = 0
  · subst hn
    rw [if_pos (by omega)]
    exact ⟨rfl, rfl, rfl, fun _ _ _ => rfl⟩
  have hlen : ((n : Int) * 16 * 8 / 128).toNat = n := by omega
  have hloop := decryptLoop_spec decrypt n m h hin hout
  rw [if_neg (by omega), hlen]
  refine ⟨by dsimp only; omega, ?_⟩
  unfold blockDecrypt
  rw [cbcDecrypt_eq]
  exact hloop

end Bwctl
