import Bwctl.Control.ControlAccept
import Bwctl.Cipher.Tables
import Bwctl.Lib.Octets

/-!
# Rijndael (`bwlib/rijndael-alg-fst.c`)

The optimised cipher works on the four columns of a block as words of 32 bits.  The key schedule is
the array `rk`, of which the functions take pieces by moving the pointer.

* `rijndaelKeySetupEnc`, `rijndaelKeySetupDec` — the schedules of a key of 128, 192 or 256 bits.
* `rijndaelEncrypt`, `rijndaelDecrypt` — one block.
-/

set_option autoImplicit false

namespace Bwctl

open Octets

/-! ## Words -/

/-- `GETU32`. -/
def getU32 (pt : List UInt8) (i : Nat) : UInt32 :=
  ((pt.getD i 0).toUInt32 <<< 24) ^^^ ((pt.getD (i + 1) 0).toUInt32 <<< 16) ^^^
    ((pt.getD (i + 2) 0).toUInt32 <<< 8) ^^^ (pt.getD (i + 3) 0).toUInt32

/-- `PUTU32`. -/
def putU32 (ct : Block) (i : Nat) (st : UInt32) : Block :=
  store ct i [(st >>> 24).toUInt8, (st >>> 16).toUInt8, (st >>> 8).toUInt8, st.toUInt8]

/-- An entry of a table. -/
def entry (table : List UInt32) (i : UInt32) : UInt32 := table.getD i.toNat 0

/-- The four words of a block. -/
structure Words where
  s0 : UInt32
  s1 : UInt32
  s2 : UInt32
  s3 : UInt32
  deriving DecidableEq, Repr

/-- The array `rk`, of `4 * (MAXNR + 1)` words. -/
structure KeySchedule where
  words : Vector UInt32 60
  deriving DecidableEq

/-- `rk[i]`. -/
def KeySchedule.word (rk : KeySchedule) (i : Nat) : UInt32 := rk.words.toList.getD i 0

/-- `rk[i] = v`. -/
def KeySchedule.set (rk : KeySchedule) (i : Nat) (v : UInt32) : KeySchedule :=
  ⟨rk.words.setIfInBounds i v⟩

/-! ## Key schedules -/

/-- The substitution of a rotated word, with the constant of the round. -/
def rotated (temp : UInt32) (i : Nat) : UInt32 :=
  (entry Te4 ((temp >>> 16) &&& 0xff) &&& (0xff000000 : UInt32)) ^^^
    (entry Te4 ((temp >>> 8) &&& 0xff) &&& (0x00ff0000 : UInt32)) ^^^
    (entry Te4 (temp &&& 0xff) &&& (0x0000ff00 : UInt32)) ^^^
    (entry Te4 (temp >>> 24) &&& (0x000000ff : UInt32)) ^^^ rcon.getD i 0

/-- The substitution of a word. -/
def substituted (temp : UInt32) : UInt32 :=
  (entry Te4 (temp >>> 24) &&& (0xff000000 : UInt32)) ^^^
    (entry Te4 ((temp >>> 16) &&& 0xff) &&& (0x00ff0000 : UInt32)) ^^^
    (entry Te4 ((temp >>> 8) &&& 0xff) &&& (0x0000ff00 : UInt32)) ^^^
    (entry Te4 (temp &&& 0xff) &&& (0x000000ff : UInt32))

/-- `rk[j] = rk[i] ^ rk[j - 1]`. -/
def KeySchedule.chain (rk : KeySchedule) (i j : Nat) : KeySchedule :=
  rk.set j (rk.word i ^^^ rk.word (j - 1))

/-- The loop for 128 bits, with the pointer at `p` and `n` passes to go. -/
def loop128 : Nat → Nat → Nat → KeySchedule → KeySchedule
  | 0, _, _, rk => rk
  | n + 1, i, p, rk =>
    let rk := rk.set (p + 4) (rk.word p ^^^ rotated (rk.word (p + 3)) i)
    let rk := rk.chain (p + 1) (p + 5)
    let rk := rk.chain (p + 2) (p + 6)
    let rk := rk.chain (p + 3) (p + 7)
    loop128 n (i + 1) (p + 4) rk

/-- The loop for 192 bits, which ends in the middle of the last pass. -/
def loop192 : Nat → Nat → Nat → KeySchedule → KeySchedule
  | 0, _, _, rk => rk
  | n + 1, i, p, rk =>
    let rk := rk.set (p + 6) (rk.word p ^^^ rotated (rk.word (p + 5)) i)
    let rk := rk.chain (p + 1) (p + 7)
    let rk := rk.chain (p + 2) (p + 8)
    let rk := rk.chain (p + 3) (p + 9)
    if n = 0 then rk
    else
      let rk := rk.chain (p + 4) (p + 10)
      let rk := rk.chain (p + 5) (p + 11)
      loop192 n (i + 1) (p + 6) rk

/-- The loop for 256 bits, which ends in the middle of the last pass. -/
def loop256 : Nat → Nat → Nat → KeySchedule → KeySchedule
  | 0, _, _, rk => rk
  | n + 1, i, p, rk =>
    let rk := rk.set (p + 8) (rk.word p ^^^ rotated (rk.word (p + 7)) i)
    let rk := rk.chain (p + 1) (p + 9)
    let rk := rk.chain (p + 2) (p + 10)
    let rk := rk.chain (p + 3) (p + 11)
    if n = 0 then rk
    else
      let rk := rk.set (p + 12) (rk.word (p + 4) ^^^ substituted (rk.word (p + 11)))
      let rk := rk.chain (p + 5) (p + 13)
      let rk := rk.chain (p + 6) (p + 14)
      let rk := rk.chain (p + 7) (p + 15)
      loop256 n (i + 1) (p + 8) rk

/-- `rijndaelKeySetupEnc`: the schedule and the number of rounds. -/
def rijndaelKeySetupEnc (rk : KeySchedule) (cipherKey : List UInt8) (keyBits : Nat) :
    KeySchedule × Nat :=
  let rk := rk.set 0 (getU32 cipherKey 0)
  let rk := rk.set 1 (getU32 cipherKey 4)
  let rk := rk.set 2 (getU32 cipherKey 8)
  let rk := rk.set 3 (getU32 cipherKey 12)
  if keyBits = 128 then (loop128 10 0 0 rk, 10)
  else
    let rk := rk.set 4 (getU32 cipherKey 16)
    let rk := rk.set 5 (getU32 cipherKey 20)
    if keyBits = 192 then (loop192 8 0 0 rk, 12)
    else
      let rk := rk.set 6 (getU32 cipherKey 24)
      let rk := rk.set 7 (getU32 cipherKey 28)
      if keyBits = 256 then (loop256 7 0 0 rk, 14) else (rk, 0)

/-- Two words in each other's place. -/
def KeySchedule.swap (rk : KeySchedule) (i j : Nat) : KeySchedule :=
  (rk.set i (rk.word j)).set j (rk.word i)

/-- The loop that inverts the order of the round keys. -/
def invertOrder : Nat → Nat → Nat → KeySchedule → KeySchedule
  | 0, _, _, rk => rk
  | n + 1, i, j, rk =>
    if i < j then
      let rk := rk.swap i j
      let rk := rk.swap (i + 1) (j + 1)
      let rk := rk.swap (i + 2) (j + 2)
      let rk := rk.swap (i + 3) (j + 3)
      invertOrder n (i + 4) (j - 4) rk
    else rk

/-- The inverse MixColumn transform of a word. -/
def invMixWord (w : UInt32) : UInt32 :=
  entry Td0 (entry Te4 (w >>> 24) &&& 0xff) ^^^
    entry Td1 (entry Te4 ((w >>> 16) &&& 0xff) &&& 0xff) ^^^
    entry Td2 (entry Te4 ((w >>> 8) &&& 0xff) &&& 0xff) ^^^
    entry Td3 (entry Te4 (w &&& 0xff) &&& 0xff)

/-- The loop over all round keys but the first and the last, with the pointer at `p`. -/
def invMixKeys : Nat → Nat → KeySchedule → KeySchedule
  | 0, _, rk => rk
  | n + 1, p, rk =>
    let rk := rk.set (p + 4) (invMixWord (rk.word (p + 4)))
    let rk := rk.set (p + 5) (invMixWord (rk.word (p + 5)))
    let rk := rk.set (p + 6) (invMixWord (rk.word (p + 6)))
    let rk := rk.set (p + 7) (invMixWord (rk.word (p + 7)))
    invMixKeys n (p + 4) rk

/-- `rijndaelKeySetupDec`. -/
def rijndaelKeySetupDec (rk : KeySchedule) (cipherKey : List UInt8) (keyBits : Nat) :
    KeySchedule × Nat :=
  let (rk, Nr) := rijndaelKeySetupEnc rk cipherKey keyBits
  let rk := invertOrder Nr 0 (4 * Nr) rk
  (invMixKeys (Nr - 1) 0 rk, Nr)

/-! ## Blocks -/

/-- The words of the round key at `p` added. -/
def addRoundKey (rk : KeySchedule) (p : Nat) (s : Words) : Words :=
  ⟨s.s0 ^^^ rk.word p, s.s1 ^^^ rk.word (p + 1), s.s2 ^^^ rk.word (p + 2),
    s.s3 ^^^ rk.word (p + 3)⟩

/-- A block as four words. -/
def blockWords (pt : Block) : Words :=
  ⟨getU32 pt.toList 0, getU32 pt.toList 4, getU32 pt.toList 8, getU32 pt.toList 12⟩

/-- Four words as a block. -/
def Words.block (s : Words) : Block :=
  putU32 (putU32 (putU32 (putU32 zeroBlock 0 s.s0) 4 s.s1) 8 s.s2) 12 s.s3

/-- One column of a full round of the cipher. -/
def encColumn (a b c d : UInt32) : UInt32 :=
  entry Te0 (a >>> 24) ^^^ entry Te1 ((b >>> 16) &&& 0xff) ^^^ entry Te2 ((c >>> 8) &&& 0xff) ^^^
    entry Te3 (d &&& 0xff)

/-- A full round, with its key at `p`. -/
def encRound (rk : KeySchedule) (p : Nat) (s : Words) : Words :=
  addRoundKey rk p ⟨encColumn s.s0 s.s1 s.s2 s.s3, encColumn s.s1 s.s2 s.s3 s.s0,
    encColumn s.s2 s.s3 s.s0 s.s1, encColumn s.s3 s.s0 s.s1 s.s2⟩

/-- The loop over pairs of rounds, left in the middle of the last pair; the pointer behind it. -/
def encLoop (rk : KeySchedule) : Nat → Nat → Words → Words × Nat
  | 0, p, s => (s, p)
  | r + 1, p, s =>
    let t := encRound rk (p + 4) s
    let p := p + 8
    if r = 0 then (t, p) else encLoop rk r p (encRound rk p t)

/-- One column of the last round. -/
def encLast (a b c d : UInt32) : UInt32 :=
  (entry Te4 (a >>> 24) &&& (0xff000000 : UInt32)) ^^^
    (entry Te4 ((b >>> 16) &&& 0xff) &&& (0x00ff0000 : UInt32)) ^^^
    (entry Te4 ((c >>> 8) &&& 0xff) &&& (0x0000ff00 : UInt32)) ^^^
    (entry Te4 (d &&& 0xff) &&& (0x000000ff : UInt32))

/-- `rijndaelEncrypt`. -/
def rijndaelEncrypt (rk : KeySchedule) (Nr : Nat) (pt : Block) : Block :=
  let (t, p) := encLoop rk (Nr / 2) 0 (addRoundKey rk 0 (blockWords pt))
  (addRoundKey rk p ⟨encLast t.s0 t.s1 t.s2 t.s3, encLast t.s1 t.s2 t.s3 t.s0,
    encLast t.s2 t.s3 t.s0 t.s1, encLast t.s3 t.s0 t.s1 t.s2⟩).block

/-- One column of a full round of the inverse cipher. -/
def decColumn (a b c d : UInt32) : UInt32 :=
  entry Td0 (a >>> 24) ^^^ entry Td1 ((b >>> 16) &&& 0xff) ^^^ entry Td2 ((c >>> 8) &&& 0xff) ^^^
    entry Td3 (d &&& 0xff)

/-- A full round of the inverse cipher, with its key at `p`. -/
def decRound (rk : KeySchedule) (p : Nat) (s : Words) : Words :=
  addRoundKey rk p ⟨decColumn s.s0 s.s3 s.s2 s.s1, decColumn s.s1 s.s0 s.s3 s.s2,
    decColumn s.s2 s.s1 s.s0 s.s3, decColumn s.s3 s.s2 s.s1 s.s0⟩

def decLoop (rk : KeySchedule) : Nat → Nat → Words → Words × Nat
  | 0, p, s => (s, p)
  | r + 1, p, s =>
    let t := decRound rk (p + 4) s
    let p := p + 8
    if r = 0 then (t, p) else decLoop rk r p (decRound rk p t)

/-- One column of the last round of the inverse cipher. -/
def decLast (a b c d : UInt32) : UInt32 :=
  (entry Td4 (a >>> 24) &&& (0xff000000 : UInt32)) ^^^
    (entry Td4 ((b >>> 16) &&& 0xff) &&& (0x00ff0000 : UInt32)) ^^^
    (entry Td4 ((c >>> 8) &&& 0xff) &&& (0x0000ff00 : UInt32)) ^^^
    (entry Td4 (d &&& 0xff) &&& (0x000000ff : UInt32))

/-- `rijndaelDecrypt`. -/
def rijndaelDecrypt (rk : KeySchedule) (Nr : Nat) (ct : Block) : Block :=
  let (t, p) := decLoop rk (Nr / 2) 0 (addRoundKey rk 0 (blockWords ct))
  (addRoundKey rk p ⟨decLast t.s0 t.s3 t.s2 t.s1, decLast t.s1 t.s0 t.s3 t.s2,
    decLast t.s2 t.s1 t.s0 t.s3, decLast t.s3 t.s2 t.s1 t.s0⟩).block

end Bwctl
