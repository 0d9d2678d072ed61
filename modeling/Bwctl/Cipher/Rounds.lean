import Bwctl.Cipher.Standard

/-!
# The rounds of the cipher

A full round of the code looks the octets of a diagonal up in four tables; it is the substitution,
the shift of the rows and the mixing of the columns in one.

* `Boxes` — what a set of tables stands for.
* `encRound_grid`, `decRound_grid` — a full round.
* `encLoop_grid`, `decLoop_grid` — the full rounds of the loop.
* `rijndaelEncrypt_grid`, `rijndaelDecrypt_grid` — the whole of a block.
-/

set_option autoImplicit false

namespace Bwctl

open Octets RoundCipher

/-! ## Look-ups -/

theorem octets_and (v w : UInt32) : octets (v &&& w) =
    ⟨(octets v).b0 &&& (octets w).b0, (octets v).b1 &&& (octets w).b1,
      (octets v).b2 &&& (octets w).b2, (octets v).b3 &&& (octets w).b3⟩ := by
  simp [octets, UInt32.shiftRight_and]

/-- A substitution in each row. -/
def Column.map (f : UInt8 → UInt8) (x : Column) : Column := ⟨f x.b0, f x.b1, f x.b2, f x.b3⟩

/-- One octet of each of four words. -/
def diagonal (a b c d : UInt32) : Column :=
  ⟨(octets a).b0, (octets b).b1, (octets c).b2, (octets d).b3⟩

/-- Tables for a substitution and a mixing. -/
structure Boxes (c : Column) (f : UInt8 → UInt8) (T0 T1 T2 T3 T4 : List UInt32) : Prop where
  t0 : ∀ b, T0.getD (UInt8.toNat b) 0 = (c.scale (f b)).word
  t1 : ∀ b, T1.getD (UInt8.toNat b) 0 = (c.rotate.scale (f b)).word
  t2 : ∀ b, T2.getD (UInt8.toNat b) 0 = (c.rotate.rotate.scale (f b)).word
  t3 : ∀ b, T3.getD (UInt8.toNat b) 0 = (c.rotate.rotate.rotate.scale (f b)).word
  t4 : ∀ b, T4.getD (UInt8.toNat b) 0 = (⟨f b, f b, f b, f b⟩ : Column).word

namespace Boxes

theorem of_scales {c : Column} {T0 T1 T2 T3 T4 : List UInt32} (hlen : T4.length = 256)
    (h4 : Scales ⟨1, 1, 1, 1⟩ T4 T4) (h0 : Scales c T4 T0) (h1 : Scales c.rotate T4 T1)
    (h2 : Scales c.rotate.rotate T4 T2) (h3 : Scales c.rotate.rotate.rotate T4 T3) :
    Boxes c (fun b => (T4.getD b.toNat 0).toUInt8) T0 T1 T2 T3 T4 := by
  have hlt (b : UInt8) : b.toNat < T4.length := hlen ▸ b.toNat_lt
  refine ⟨fun b => h0.entry (hlt b), fun b => h1.entry (hlt b), fun b => h2.entry (hlt b),
    fun b => h3.entry (hlt b), fun b => ?_⟩
  have h := h4.entry (hlt b)
  simpa only [Column.scale, ByteField.mul_one_left] using h

variable {k : Column} {f : UInt8 → UInt8} {T0 T1 T2 T3 T4 : List UInt32}

/-- The four look-ups of a full round. -/
theorem column (h : Boxes k f T0 T1 T2 T3 T4) (a b c d : UInt32) :
    octets (entry T0 (a >>> 24) ^^^ entry T1 ((b >>> 16) &&& 0xff) ^^^
      entry T2 ((c >>> 8) &&& 0xff) ^^^ entry T3 (d &&& 0xff)) =
      k.mixWith ((diagonal a b c d).map f) := by
  rw [entry_b0, entry_b1, entry_b2, entry_b3, h.t0, h.t1, h.t2, h.t3]
  simp only [octets_xor, octets_word]
  rfl

/-- Four entries of the last table, each in a place of its own. -/
theorem masked (h : Boxes k f T0 T1 T2 T3 T4) (p q r s : UInt8) :
    octets ((T4.getD p.toNat 0 &&& (0xff000000 : UInt32)) ^^^
      (T4.getD q.toNat 0 &&& (0x00ff0000 : UInt32)) ^^^
      (T4.getD r.toNat 0 &&& (0x0000ff00 : UInt32)) ^^^
      (T4.getD s.toNat 0 &&& (0x000000ff : UInt32))) = ⟨f p, f q, f r, f s⟩ := by
  have m0 : octets 0xff000000 = ⟨-1, 0, 0, 0⟩ := by decide
  have m1 : octets 0x00ff0000 = ⟨0, -1, 0, 0⟩ := by decide
  have m2 : octets 0x0000ff00 = ⟨0, 0, -1, 0⟩ := by decide
  have m3 : octets 0x000000ff = ⟨0, 0, 0, -1⟩ := by decide
  rw [h.t4, h.t4, h.t4, h.t4]
  simp [octets_xor, octets_and, octets_word, m0, m1, m2, m3, Column.add]

/-- The four look-ups of the last round. -/
theorem last (h : Boxes k f T0 T1 T2 T3 T4) (a b c d : UInt32) :
    octets ((entry T4 (a >>> 24) &&& (0xff000000 : UInt32)) ^^^
      (entry T4 ((b >>> 16) &&& 0xff) &&& (0x00ff0000 : UInt32)) ^^^
      (entry T4 ((c >>> 8) &&& 0xff) &&& (0x0000ff00 : UInt32)) ^^^
      (entry T4 (d &&& 0xff) &&& (0x000000ff : UInt32))) = (diagonal a b c d).map f := by
  rw [entry_b0, entry_b1, entry_b2, entry_b3, h.masked]
  rfl

end Boxes

theorem encBoxes : Boxes mixing sbox Te0 Te1 Te2 Te3 Te4 := by
  obtain ⟨-, h4, h0, h1, h2, h3⟩ := enc_tables
  have h := Boxes.of_scales length_Te4 h4 h0 h1 h2 h3
  rwa [funext getD_Te4] at h

theorem decBoxes : Boxes invMixing invSbox Td0 Td1 Td2 Td3 Td4 := by
  obtain ⟨h4, h0, h1, h2, h3⟩ := dec_tables
  exact Boxes.of_scales length_Td4 h4 h0 h1 h2 h3

/-- The transform of the key schedule: the tables of the inverse cipher undo the substitution. -/
theorem octets_invMixWord (w : UInt32) : octets (invMixWord w) = invMixing.mixWith (octets w) := by
  have hentry (table : List UInt32) (v : UInt32) :
      entry table (v &&& 0xff) = table.getD v.toUInt8.toNat 0 := entry_b3 table v
  rw [invMixWord, entry_b0 Te4, entry_b1 Te4, entry_b2 Te4, entry_b3 Te4, hentry Td0, hentry Td1,
    hentry Td2, hentry Td3, getD_Te4, getD_Te4, getD_Te4, getD_Te4, decBoxes.t0, decBoxes.t1,
    decBoxes.t2, decBoxes.t3]
  simp only [invSbox_sbox, octets_xor, octets_word]
  rfl

/-! ## Grids -/

/-- The four columns of a block. -/
structure Grid where
  c0 : Column
  c1 : Column
  c2 : Column
  c3 : Column
  deriving DecidableEq, Repr

namespace Grid

def add (x y : Grid) : Grid := ⟨x.c0.add y.c0, x.c1.add y.c1, x.c2.add y.c2, x.c3.add y.c3⟩

/-- The same substitution in each octet. -/
def subBytes (f : UInt8 → UInt8) (x : Grid) : Grid := ⟨x.c0.map f, x.c1.map f, x.c2.map f, x.c3.map f⟩

/-- Row `r` shifted to the left by `r`. -/
def shiftRows (x : Grid) : Grid :=
  ⟨⟨x.c0.b0, x.c1.b1, x.c2.b2, x.c3.b3⟩, ⟨x.c1.b0, x.c2.b1, x.c3.b2, x.c0.b3⟩,
    ⟨x.c2.b0, x.c3.b1, x.c0.b2, x.c1.b3⟩, ⟨x.c3.b0, x.c0.b1, x.c1.b2, x.c2.b3⟩⟩

def invShiftRows (x : Grid) : Grid :=
  ⟨⟨x.c0.b0, x.c3.b1, x.c2.b2, x.c1.b3⟩, ⟨x.c1.b0, x.c0.b1, x.c3.b2, x.c2.b3⟩,
    ⟨x.c2.b0, x.c1.b1, x.c0.b2, x.c3.b3⟩, ⟨x.c3.b0, x.c2.b1, x.c1.b2, x.c0.b3⟩⟩

/-- The matrix with a given first column, applied to each column. -/
def mixColumns (c : Column) (x : Grid) : Grid :=
  ⟨c.mixWith x.c0, c.mixWith x.c1, c.mixWith x.c2, c.mixWith x.c3⟩

@[simp] theorem add_add (x y : Grid) : (x.add y).add y = x := by simp [add]

theorem mixColumns_add (c : Column) (x y : Grid) :
    (x.add y).mixColumns c = (x.mixColumns c).add (y.mixColumns c) := by
  simp [mixColumns, add, Column.mixWith_add]

@[simp] theorem invMix_mixColumns (x : Grid) : (x.mixColumns mixing).mixColumns invMixing = x := by
  simp [mixColumns, invMix_mix]

@[simp] theorem mix_invMixColumns (x : Grid) : (x.mixColumns invMixing).mixColumns mixing = x := by
  simp [mixColumns, mix_invMix]

/-- The substitution and the shift of the rows. -/
def sub (x : Grid) : Grid := (x.subBytes sbox).shiftRows

/-- The same of the inverse cipher. -/
def invSub (x : Grid) : Grid := (x.subBytes invSbox).invShiftRows

@[simp] theorem invSub_sub (x : Grid) : x.sub.invSub = x := by
  simp [sub, invSub, subBytes, shiftRows, invShiftRows, Column.map]

@[simp] theorem sub_invSub (x : Grid) : x.invSub.sub = x := by
  simp [sub, invSub, subBytes, shiftRows, invShiftRows, Column.map]

end Grid

/-- The columns of four words. -/
def Words.grid (s : Words) : Grid := ⟨octets s.s0, octets s.s1, octets s.s2, octets s.s3⟩

/-! ## Rounds -/

/-- The key of a round. -/
def KeySchedule.key (rk : KeySchedule) (r : Nat) : Grid :=
  ⟨octets (rk.word (4 * r)), octets (rk.word (4 * r + 1)), octets (rk.word (4 * r + 2)),
    octets (rk.word (4 * r + 3))⟩

theorem addRoundKey_grid (rk : KeySchedule) (r : Nat) (s : Words) :
    (addRoundKey rk (4 * r) s).grid = s.grid.add (rk.key r) := by
  simp [addRoundKey, Words.grid, Grid.add, KeySchedule.key, octets_xor]

/-- **A full round of the code.** -/
theorem encRound_grid (rk : KeySchedule) (r : Nat) (s : Words) :
    (encRound rk (4 * r) s).grid = (s.grid.sub.mixColumns mixing).add (rk.key r) := by
  rw [encRound, addRoundKey_grid]
  simp only [Words.grid, encColumn, encBoxes.column]
  rfl

theorem decRound_grid (rk : KeySchedule) (r : Nat) (s : Words) :
    (decRound rk (4 * r) s).grid = (s.grid.invSub.mixColumns invMixing).add (rk.key r) := by
  rw [decRound, addRoundKey_grid]
  simp only [Words.grid, decColumn, decBoxes.column]
  rfl

/-- The loop of both ciphers, over pairs of rounds. -/
def pairLoop (round : Nat → Words → Words) : Nat → Nat → Words → Words × Nat
  | 0, p, s => (s, p)
  | r + 1, p, s =>
    let t := round (p + 4) s
    let p := p + 8
    if r = 0 then (t, p) else pairLoop round r p (round p t)

theorem encLoop_eq (rk : KeySchedule) (r p : Nat) (s : Words) :
    encLoop rk r p s = pairLoop (encRound rk) r p s := by
  induction r generalizing p s with
  | zero => rfl
  | succ r ih => simp only [encLoop, pairLoop, ih]

theorem decLoop_eq (rk : KeySchedule) (r p : Nat) (s : Words) :
    decLoop rk r p s = pairLoop (decRound rk) r p s := by
  induction r generalizing p s with
  | zero => rfl
  | succ r ih => simp only [decLoop, pairLoop, ih]

/-- **The loop**, left in the middle of its last pair, with the pointer behind that pair. -/
theorem pairLoop_grid {round : Nat → Words → Words} {σ μ : Grid → Grid} {key : Nat → Grid}
    (h : ∀ r s, (round (4 * r) s).grid = (μ (σ s.grid)).add (key r)) (n r : Nat) (s : Words) :
    (pairLoop round (n + 1) (4 * r) s).1.grid =
        rounds Grid.add σ μ key (2 * n + 1) (r + 1) s.grid ∧
      (pairLoop round (n + 1) (4 * r) s).2 = 4 * (r + 2 * (n + 1)) := by
  induction n generalizing r s with
  | zero => exact ⟨h (r + 1) s, by rw [pairLoop, if_pos rfl]; omega⟩
  | succ n ih =>
    have hfirst := h (r + 1) s
    have hsecond := h (r + 2) (round (4 * (r + 1)) s)
    obtain ⟨hgrid, hend⟩ := ih (r + 2) (round (4 * (r + 2)) (round (4 * (r + 1)) s))
    rw [pairLoop, if_neg (Nat.succ_ne_zero n)]
    refine ⟨?_, hend.trans (by omega)⟩
    rw [show 2 * (n + 1) + 1 = 2 * n + 1 + 1 + 1 by omega, rounds, rounds, ← hfirst, ← hsecond]
    exact hgrid

/-! ## Blocks -/

/-- Four octets of a block. -/
def columnAt (b : Block) (i : Nat) : Column :=
  ⟨byte b i, byte b (i + 1), byte b (i + 2), byte b (i + 3)⟩

theorem octets_getU32 (b : Block) (i : Nat) : octets (getU32 b.toList i) = columnAt b i :=
  octets_word ⟨byte b i, byte b (i + 1), byte b (i + 2), byte b (i + 3)⟩

theorem columnAt_putU32 (b : Block) {i : Nat} (hi : i + 4 ≤ 16) (w : UInt32) :
    columnAt (putU32 b i w) i = octets w := by
  have hbyte (k : Nat) (hk : k < 4) : byte (putU32 b i w) (i + k) =
      [(w >>> 24).toUInt8, (w >>> 16).toUInt8, (w >>> 8).toUInt8, w.toUInt8].getD k 0 := by
    have hlen : i + k < i + [(w >>> 24).toUInt8, (w >>> 16).toUInt8, (w >>> 8).toUInt8,
      w.toUInt8].length := Nat.add_lt_add_left hk i
    rw [putU32, byte_store, if_pos ⟨by omega, by omega, hlen⟩, Nat.add_sub_cancel_left]
  have h0 := hbyte 0 (by omega)
  rw [Nat.add_zero] at h0
  simp [columnAt, h0, hbyte 1 (by omega), hbyte 2 (by omega), hbyte 3 (by omega), octets]

theorem columnAt_putU32_of_disjoint (b : Block) {i j : Nat} (h : j + 4 ≤ i ∨ i + 4 ≤ j) (w : UInt32) :
    columnAt (putU32 b i w) j = columnAt b j := by
  have hbyte (k : Nat) (hk : k < 4) : byte (putU32 b i w) (j + k) = byte b (j + k) := by
    refine byte_store_of_disjoint ?_
    change j + k < i ∨ i + 4 ≤ j + k
    omega
  have h0 := hbyte 0 (by omega)
  rw [Nat.add_zero] at h0
  simp [columnAt, h0, hbyte 1 (by omega), hbyte 2 (by omega), hbyte 3 (by omega)]

/-- The octets of a block, column by column. -/
def blockGrid (b : Block) : Grid := ⟨columnAt b 0, columnAt b 4, columnAt b 8, columnAt b 12⟩

theorem blockWords_grid (b : Block) : (blockWords b).grid = blockGrid b := by
  simp [blockWords, Words.grid, blockGrid, octets_getU32]

@[simp] theorem blockGrid_block (s : Words) : blockGrid s.block = s.grid := by
  simp [blockGrid, Words.block, Words.grid, columnAt_putU32, columnAt_putU32_of_disjoint]

theorem blockGrid_injective {b b' : Block} (h : blockGrid b = blockGrid b') : b = b' := by
  simp only [blockGrid, columnAt, Grid.mk.injEq, Column.mk.injEq] at h
  apply Vector.ext
  intro i hi
  rw [← byte_of_lt, ← byte_of_lt]
  interval_cases i <;> simp only [h]

/-- **`rijndaelEncrypt` is a cipher in rounds**, whatever the schedule. -/
theorem rijndaelEncrypt_grid (rk : KeySchedule) (n : Nat) (pt : Block) :
    blockGrid (rijndaelEncrypt rk (2 * (n + 1)) pt) =
      encrypt Grid.add Grid.sub (Grid.mixColumns mixing) rk.key (2 * n + 1) (blockGrid pt) := by
  have hfirst := addRoundKey_grid rk 0 (blockWords pt)
  obtain ⟨hgrid, hend⟩ := pairLoop_grid (encRound_grid rk) n 0 (addRoundKey rk (4 * 0) (blockWords pt))
  rw [← encLoop_eq] at hgrid hend
  rw [hfirst, blockWords_grid] at hgrid
  unfold rijndaelEncrypt encrypt
  rw [Nat.mul_div_cancel_left _ (by omega)]
  dsimp only
  rw [blockGrid_block, hend, addRoundKey_grid, ← hgrid, Nat.zero_add]
  simp only [Words.grid, encLast, encBoxes.last]
  rfl

theorem rijndaelDecrypt_grid (rk : KeySchedule) (n : Nat) (ct : Block) :
    blockGrid (rijndaelDecrypt rk (2 * (n + 1)) ct) =
      encrypt Grid.add Grid.invSub (Grid.mixColumns invMixing) rk.key (2 * n + 1) (blockGrid ct) := by
  have hfirst := addRoundKey_grid rk 0 (blockWords ct)
  obtain ⟨hgrid, hend⟩ := pairLoop_grid (decRound_grid rk) n 0 (addRoundKey rk (4 * 0) (blockWords ct))
  rw [← decLoop_eq] at hgrid hend
  rw [hfirst, blockWords_grid] at hgrid
  unfold rijndaelDecrypt encrypt
  rw [Nat.mul_div_cancel_left _ (by omega)]
  dsimp only
  rw [blockGrid_block, hend, addRoundKey_grid, ← hgrid, Nat.zero_add]
  simp only [Words.grid, decLast, decBoxes.last]
  rfl

end Bwctl
