import Bwctl.Cipher.Rijndael
import Bwctl.Lib.ByteField
import Bwctl.Lib.RoundCiphers

/-!
# The cipher as the standard has it

A block is a grid of four columns of four octets.  The substitution inverts an octet in the field
and applies an affine map, the rows are shifted, and the columns are mixed by a matrix over the
field.

* `octets_word` — a word of 32 bits and its column.
* `Te0_eq`, `Td0_eq`, … — the tables of the code are columns of the matrices.
* `encColumn_eq`, `decColumn_eq` — a column of a round of the code.
* `invMix_mix`, `mix_invMix` — the matrices are inverse to each other.
-/

set_option autoImplicit false

namespace Bwctl

open ByteField

/-! ## Columns -/

theorem xor_pairs8 (a b c d a' b' c' d' : UInt8) :
    (a ^^^ a') ^^^ (b ^^^ b') ^^^ (c ^^^ c') ^^^ (d ^^^ d') =
      (a ^^^ b ^^^ c ^^^ d) ^^^ (a' ^^^ b' ^^^ c' ^^^ d') := by ac_rfl

/-- A column: the octets of a word from the highest to the lowest. -/
structure Column where
  b0 : UInt8
  b1 : UInt8
  b2 : UInt8
  b3 : UInt8
  deriving DecidableEq, Repr

namespace Column

def add (x y : Column) : Column := ⟨x.b0 ^^^ y.b0, x.b1 ^^^ y.b1, x.b2 ^^^ y.b2, x.b3 ^^^ y.b3⟩

def word (x : Column) : UInt32 :=
  (x.b0.toUInt32 <<< 24) ^^^ (x.b1.toUInt32 <<< 16) ^^^ (x.b2.toUInt32 <<< 8) ^^^ x.b3.toUInt32

theorem add_comm (x y : Column) : x.add y = y.add x := by simp [add, UInt8.xor_comm]

theorem add_assoc (x y z : Column) : (x.add y).add z = x.add (y.add z) := by
  simp [add, UInt8.xor_assoc]

@[simp] theorem add_self_right (x y : Column) : (x.add y).add y = x := by
  simp only [add, UInt8.xor_assoc, UInt8.xor_self, UInt8.xor_zero]

end Column

/-- The octets of a word. -/
def octets (w : UInt32) : Column :=
  ⟨(w >>> 24).toUInt8, (w >>> 16).toUInt8, (w >>> 8).toUInt8, w.toUInt8⟩

theorem octets_xor (v w : UInt32) : octets (v ^^^ w) = (octets v).add (octets w) := by
  simp [octets, Column.add, UInt32.shiftRight_xor]

/-- A word as a number. -/
theorem toNat_octets (w : UInt32) : w.toNat = (octets w).b0.toNat * 2 ^ 24 +
    (octets w).b1.toNat * 2 ^ 16 + (octets w).b2.toNat * 2 ^ 8 + (octets w).b3.toNat := by
  have hw := w.toNat_lt
  simp [octets, Nat.shiftRight_eq_div_pow]
  omega

/-- The octets of a word with one octet. -/
theorem octets_unit : ∀ n < 256,
    octets ((UInt8.ofNat n).toUInt32 <<< 24) = ⟨UInt8.ofNat n, 0, 0, 0⟩ ∧
      octets ((UInt8.ofNat n).toUInt32 <<< 16) = ⟨0, UInt8.ofNat n, 0, 0⟩ ∧
      octets ((UInt8.ofNat n).toUInt32 <<< 8) = ⟨0, 0, UInt8.ofNat n, 0⟩ ∧
      octets (UInt8.ofNat n).toUInt32 = ⟨0, 0, 0, UInt8.ofNat n⟩ := by
  decide +kernel

theorem octets_word (x : Column) : octets x.word = x := by
  have h0 := (octets_unit _ x.b0.toNat_lt).1
  have h1 := (octets_unit _ x.b1.toNat_lt).2.1
  have h2 := (octets_unit _ x.b2.toNat_lt).2.2.1
  have h3 := (octets_unit _ x.b3.toNat_lt).2.2.2
  rw [UInt8.ofNat_toNat] at h0 h1 h2 h3
  rw [Column.word, octets_xor, octets_xor, octets_xor, h0, h1, h2, h3]
  simp only [Column.add, UInt8.xor_zero, UInt8.zero_xor]

theorem toNat_word (x : Column) : x.word.toNat =
    x.b0.toNat * 2 ^ 24 + x.b1.toNat * 2 ^ 16 + x.b2.toNat * 2 ^ 8 + x.b3.toNat := by
  rw [toNat_octets, octets_word]

/-! ## Indices -/

theorem and_octet (w : UInt32) : (w &&& 0xff).toNat = w.toUInt8.toNat := by
  have h := Nat.and_two_pow_sub_one_eq_mod w.toNat 8
  simpa using h

theorem entry_b0 (table : List UInt32) (w : UInt32) :
    entry table (w >>> 24) = table.getD (octets w).b0.toNat 0 := by
  have hw := w.toNat_lt
  have h : (w >>> 24).toNat = (octets w).b0.toNat := by
    simp [octets, Nat.shiftRight_eq_div_pow]
    omega
  rw [entry, h]

theorem entry_b1 (table : List UInt32) (w : UInt32) :
    entry table ((w >>> 16) &&& 0xff) = table.getD (octets w).b1.toNat 0 := by
  rw [entry, and_octet]
  rfl

theorem entry_b2 (table : List UInt32) (w : UInt32) :
    entry table ((w >>> 8) &&& 0xff) = table.getD (octets w).b2.toNat 0 := by
  rw [entry, and_octet]
  rfl

theorem entry_b3 (table : List UInt32) (w : UInt32) :
    entry table (w &&& 0xff) = table.getD (octets w).b3.toNat 0 := by
  rw [entry, and_octet]
  rfl

/-! ## Substitution and mixing -/

/-- The bits of an octet rotated to the left. -/
def rotl (c n : Nat) : Nat := (c <<< n ||| c >>> (8 - n)) % 256

/-- The substitution of the standard: the inverse in the field, and an affine map. -/
def sbox (b : UInt8) : UInt8 :=
  let c := inverse b.toNat
  UInt8.ofNat (c ^^^ rotl c 1 ^^^ rotl c 2 ^^^ rotl c 3 ^^^ rotl c 4 ^^^ 0x63)

/-- The inverse substitution, as the code has it. -/
def invSbox (b : UInt8) : UInt8 := (Td4.getD b.toNat 0).toUInt8

/-- A column of a matrix times an octet. -/
def Column.scale (c : Column) (s : UInt8) : Column :=
  ⟨mul c.b0 s, mul c.b1 s, mul c.b2 s, mul c.b3 s⟩

/-- The rows of a column one place down. -/
def Column.rotate (x : Column) : Column := ⟨x.b3, x.b0, x.b1, x.b2⟩

/-- A column times the circulant matrix with a given first column. -/
def Column.mixWith (c x : Column) : Column :=
  (((c.scale x.b0).add (c.rotate.scale x.b1)).add (c.rotate.rotate.scale x.b2)).add
    (c.rotate.rotate.rotate.scale x.b3)

/-- The first column of the matrix of the cipher. -/
def mixing : Column := ⟨0x02, 0x01, 0x01, 0x03⟩

/-- The first column of the matrix of the inverse cipher. -/
def invMixing : Column := ⟨0x0e, 0x09, 0x0d, 0x0b⟩

/-! ## The tables -/

/-- The word of a scaled column. -/
def weight (c : Column) (s : Nat) : Nat :=
  product 8 c.b0.toNat s * 2 ^ 24 + product 8 c.b1.toNat s * 2 ^ 16 +
    product 8 c.b2.toNat s * 2 ^ 8 + product 8 c.b3.toNat s

theorem toNat_scale (c : Column) (s : UInt8) : (c.scale s).word.toNat = weight c s.toNat := by
  rw [toNat_word, Column.scale, toNat_mul, toNat_mul, toNat_mul, toNat_mul, weight]

/-- The entries of a table are scaled columns over the octets of another one. -/
def Scales (c : Column) (base table : List UInt32) : Prop :=
  table.map UInt32.toNat = base.map fun w => weight c (w.toNat % 256)

instance (c : Column) (base table : List UInt32) : Decidable (Scales c base table) :=
  inferInstanceAs (Decidable (table.map UInt32.toNat = base.map fun w => weight c (w.toNat % 256)))

theorem getD_map_of_lt {α β : Type} (f : α → β) {l : List α} {n : Nat} (hn : n < l.length)
    (a : α) (b : β) : (l.map f).getD n b = f (l.getD n a) := by
  rw [List.getD_eq_getElem _ _ (by simpa using hn), List.getD_eq_getElem _ _ hn, List.getElem_map]

theorem Scales.entry {c : Column} {base table : List UInt32} (h : Scales c base table) {n : Nat}
    (hn : n < base.length) : table.getD n 0 = (c.scale (base.getD n 0).toUInt8).word := by
  have hlen := congrArg List.length h
  rw [List.length_map, List.length_map] at hlen
  apply UInt32.toNat_inj.1
  rw [toNat_scale, ← getD_map_of_lt UInt32.toNat (by omega) 0 0, h,
    getD_map_of_lt (fun w : UInt32 => weight c (w.toNat % 256)) hn 0 0]
  simp

/-- **The tables of the cipher** are what the code says they are. -/
theorem enc_tables : Te4.map (fun w => w.toUInt8.toNat) =
      (List.range 256).map (fun n => (sbox (UInt8.ofNat n)).toNat) ∧
    Scales ⟨1, 1, 1, 1⟩ Te4 Te4 ∧ Scales mixing Te4 Te0 ∧ Scales mixing.rotate Te4 Te1 ∧
    Scales mixing.rotate.rotate Te4 Te2 ∧ Scales mixing.rotate.rotate.rotate Te4 Te3 := by
  decide +kernel

/-- The tables of the inverse cipher. -/
theorem dec_tables : Scales ⟨1, 1, 1, 1⟩ Td4 Td4 ∧ Scales invMixing Td4 Td0 ∧
    Scales invMixing.rotate Td4 Td1 ∧ Scales invMixing.rotate.rotate Td4 Td2 ∧
    Scales invMixing.rotate.rotate.rotate Td4 Td3 := by
  decide +kernel

/-- The substitutions of the two tables undo each other. -/
theorem sub_tables :
    (Te4.map fun w => (Td4.getD w.toUInt8.toNat 0).toUInt8.toNat) = (List.range 256).map id ∧
      (Td4.map fun w => (Te4.getD w.toUInt8.toNat 0).toUInt8.toNat) = (List.range 256).map id := by
  decide +kernel

theorem length_Te4 : Te4.length = 256 := by decide +kernel

theorem length_Td4 : Td4.length = 256 := by decide +kernel

/-- One entry of a table that is known as a whole. -/
theorem getD_of_map {table : List UInt32} {f : UInt32 → Nat} {g : Nat → Nat}
    (h : table.map f = (List.range 256).map g) (b : UInt8) :
    f (table.getD b.toNat 0) = g b.toNat := by
  have hlen := congrArg List.length h
  rw [List.length_map, List.length_map, List.length_range] at hlen
  have hb : b.toNat < table.length := hlen ▸ b.toNat_lt
  have hrange : b.toNat < (List.range 256).length := List.length_range.symm ▸ b.toNat_lt
  rw [← getD_map_of_lt f hb 0 0, h, getD_map_of_lt g hrange 0 0,
    List.getD_eq_getElem _ _ hrange, List.getElem_range]

theorem getD_Te4 (b : UInt8) : (Te4.getD b.toNat 0).toUInt8 = sbox b := by
  have h := getD_of_map enc_tables.1 b
  rw [UInt8.ofNat_toNat] at h
  exact UInt8.toNat_inj.1 h

/-- The substitution of the inverse cipher undoes the one of the cipher. -/
@[simp] theorem invSbox_sbox (b : UInt8) : invSbox (sbox b) = b := by
  have h := getD_of_map sub_tables.1 b
  rw [getD_Te4] at h
  exact UInt8.toNat_inj.1 h

@[simp] theorem sbox_invSbox (b : UInt8) : sbox (invSbox b) = b := by
  have h := getD_of_map sub_tables.2 b
  rw [getD_Te4] at h
  exact UInt8.toNat_inj.1 h

/-! ## Mixing -/

namespace Column

/-- A column with one octet, the first. -/
def unit (b : UInt8) : Column := ⟨b, 0, 0, 0⟩

/-- **Mixing is additive.** -/
theorem mixWith_add (c x y : Column) : c.mixWith (x.add y) = (c.mixWith x).add (c.mixWith y) := by
  simp only [mixWith, add, scale, mul_xor, xor_pairs8]

/-- Mixing goes with the rows. -/
theorem mixWith_rotate (c x : Column) : c.mixWith x.rotate = (c.mixWith x).rotate := by
  have h (p q r s : UInt8) : p ^^^ q ^^^ r ^^^ s = q ^^^ r ^^^ s ^^^ p := by ac_rfl
  simp only [mixWith, add, scale, rotate, mk.injEq]
  exact ⟨h _ _ _ _, h _ _ _ _, h _ _ _ _, h _ _ _ _⟩

/-- A column in its four rows. -/
theorem eq_add_units (x : Column) : x = (((unit x.b0).add (unit x.b1).rotate).add
    (unit x.b2).rotate.rotate).add (unit x.b3).rotate.rotate.rotate := by
  simp [unit, rotate, add]

/-- Two mixings that undo each other on one octet undo each other. -/
theorem mixWith_mixWith {c d : Column}
    (h : ∀ n < 256, d.mixWith (c.mixWith (unit (UInt8.ofNat n))) = unit (UInt8.ofNat n))
    (x : Column) : d.mixWith (c.mixWith x) = x := by
  have hunit (b : UInt8) : d.mixWith (c.mixWith (unit b)) = unit b := by
    simpa using h _ b.toNat_lt
  rw [eq_add_units x]
  simp only [mixWith_add, mixWith_rotate, hunit]

end Column

/-- **The matrices of the two ciphers are inverse to each other.** -/
theorem invMix_mix : ∀ x, invMixing.mixWith (mixing.mixWith x) = x :=
  Column.mixWith_mixWith (by decide +kernel)

theorem mix_invMix : ∀ x, mixing.mixWith (invMixing.mixWith x) = x :=
  Column.mixWith_mixWith (by decide +kernel)

end Bwctl
