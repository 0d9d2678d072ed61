import Bwctl.Cipher.Rounds

/-!
# The key schedules

The schedule of the cipher is the key expansion of the standard, for each size of a key; the one of
the inverse cipher has the same keys in the other order, those between the first and the last through
the inverse of the mixing.

* `rijndaelKeySetupEnc_words` — the words of the schedule of the cipher.
* `rijndaelKeySetupDec_key` — the keys of the schedule of the inverse cipher.
* `rijndaelEncrypt_cipher` — a block under a key is enciphered as the standard has it.
* `rijndael_inverse` — the two ciphers undo each other.
-/

set_option autoImplicit false

namespace Bwctl

open Octets RoundCipher

/-! ## The key expansion of the standard -/

/-- The sizes of a key. -/
inductive KeySize where
  | bits128
  | bits192
  | bits256
  deriving DecidableEq, Repr

namespace KeySize

def bits : KeySize → Nat
  | bits128 => 128
  | bits192 => 192
  | bits256 => 256

/-- The words of the key. -/
def nk : KeySize → Nat
  | bits128 => 4
  | bits192 => 6
  | bits256 => 8

def nr : KeySize → Nat
  | bits128 => 10
  | bits192 => 12
  | bits256 => 14

end KeySize

/-- The constant of a round: a power of `x`. -/
def roundConstant (i : Nat) : Column := ⟨UInt8.ofNat (ByteField.xtime^[i] 1), 0, 0, 0⟩

/-- The rows of a column one place up. -/
def Column.rotWord (x : Column) : Column := ⟨x.b1, x.b2, x.b3, x.b0⟩

/-- What is added to word `i - nk`, from the word in front of word `i`. -/
def expansionTerm (nk i : Nat) (temp : Column) : Column :=
  if i % nk = 0 then (temp.rotWord.map sbox).add (roundConstant (i / nk - 1))
  else if 6 < nk ∧ i % nk = 4 then temp.map sbox
  else temp

/-- A word of the key expansion. -/
def expansion (nk : Nat) (key : Nat → Column) (i : Nat) : Column :=
  if i < nk ∨ nk = 0 then key i
  else (expansion nk key (i - nk)).add (expansionTerm nk i (expansion nk key (i - 1)))
termination_by i
decreasing_by all_goals omega

theorem expansion_of_lt {nk i : Nat} (key : Nat → Column) (h : i < nk) :
    expansion nk key i = key i := by
  rw [expansion, if_pos (Or.inl h)]

theorem expansion_add {nk : Nat} (key : Nat → Column) (hnk : 0 < nk) (i : Nat) :
    expansion nk key (i + nk) =
      (expansion nk key i).add (expansionTerm nk (i + nk) (expansion nk key (i + nk - 1))) := by
  rw [expansion, if_neg (by omega), Nat.add_sub_cancel]

/-! ## Words of a schedule -/

namespace KeySchedule

variable {rk : KeySchedule}

theorem word_of_le {i : Nat} (hi : 60 ≤ i) : rk.word i = 0 :=
  List.getD_eq_default _ _ (by simpa using hi)

theorem word_set {i : Nat} (hi : i < 60) (v : UInt32) (j : Nat) :
    (rk.set i v).word j = if j = i then v else rk.word j := by
  by_cases hj : j < 60
  · unfold set word
    rw [List.getD_eq_getElem _ _ (by simpa using hj), List.getD_eq_getElem _ _ (by simpa using hj),
      Vector.getElem_toList, Vector.getElem_toList, Vector.getElem_setIfInBounds]
    simp only [eq_comm]
  · rw [word_of_le (by omega), word_of_le (by omega), if_neg (by omega)]

@[simp] theorem word_set_self {i : Nat} (hi : i < 60) (v : UInt32) : (rk.set i v).word i = v := by
  rw [word_set hi, if_pos rfl]

theorem word_set_of_ne {i j : Nat} (hi : i < 60) (v : UInt32) (hj : j ≠ i) :
    (rk.set i v).word j = rk.word j := by
  rw [word_set hi, if_neg hj]

end KeySchedule

theorem rcon_eq : ∀ i < 10, octets (rcon.getD i 0) = roundConstant i := by decide +kernel

theorem octets_rotated (temp : UInt32) {i : Nat} (hi : i < 10) :
    octets (rotated temp i) = ((octets temp).rotWord.map sbox).add (roundConstant i) := by
  rw [rotated, octets_xor, entry_b0, entry_b1, entry_b2, entry_b3, encBoxes.masked, rcon_eq i hi]
  rfl

theorem octets_substituted (temp : UInt32) :
    octets (substituted temp) = (octets temp).map sbox := by
  rw [substituted, entry_b0, entry_b1, entry_b2, entry_b3, encBoxes.masked]
  rfl

/-- The words below a bound are those of the key expansion. -/
def Filled (nk : Nat) (key : Nat → Column) (rk : KeySchedule) (m : Nat) : Prop :=
  ∀ j < m, octets (rk.word j) = expansion nk key j

namespace Filled

variable {nk : Nat} {key : Nat → Column} {rk : KeySchedule}

/-- One more word. -/
theorem set {m : Nat} (h : Filled nk key rk m) (hm : m < 60) {v : UInt32}
    (hv : octets v = expansion nk key m) : Filled nk key (rk.set m v) (m + 1) := by
  intro j hj
  rw [KeySchedule.word_set hm]
  by_cases hjm : j = m
  · rw [if_pos hjm, hjm, hv]
  · rw [if_neg hjm, h j (by omega)]

/-- One more word, from a term for the word in front of it. -/
theorem next {i : Nat} (h : Filled nk key rk (i + nk)) (hnk : 0 < nk) (hi : i + nk < 60) {t : UInt32}
    (ht : octets t = expansionTerm nk (i + nk) (octets (rk.word (i + nk - 1)))) :
    Filled nk key (rk.set (i + nk) (rk.word i ^^^ t)) (i + nk + 1) := by
  refine h.set hi ?_
  rw [octets_xor, ht, expansion_add key hnk, h i (by omega), h (i + nk - 1) (by omega)]

theorem chain {i : Nat} (h : Filled nk key rk (i + nk)) (hnk : 0 < nk) (hi : i + nk < 60)
    (hfirst : i % nk ≠ 0) (hmiddle : ¬(6 < nk ∧ i % nk = 4)) :
    Filled nk key (rk.chain i (i + nk)) (i + nk + 1) := by
  refine h.next hnk hi ?_
  rw [expansionTerm, Nat.add_mod_right, if_neg hfirst, if_neg hmiddle]

/-- The first word of a pass. -/
theorem rotated {k : Nat} (h : Filled nk key rk (nk * k + nk)) (hnk : 0 < nk)
    (hi : nk * k + nk < 60) (hk : k < 10) :
    Filled nk key (rk.set (nk * k + nk) (rk.word (nk * k) ^^^ rotated (rk.word (nk * k + nk - 1)) k))
      (nk * k + nk + 1) := by
  refine h.next hnk hi ?_
  rw [octets_rotated _ hk, expansionTerm, ← Nat.mul_succ, Nat.mul_mod_right, if_pos rfl,
    Nat.mul_div_cancel_left _ hnk]
  rfl

/-- The word in the middle of a pass, of the longest keys only. -/
theorem substituted {i : Nat} (h : Filled 8 key rk (i + 8)) (hi : i + 8 < 60) (hmiddle : i % 8 = 4) :
    Filled 8 key (rk.set (i + 8) (rk.word i ^^^ substituted (rk.word (i + 7)))) (i + 9) := by
  refine h.next (by omega) hi ?_
  rw [octets_substituted, expansionTerm, Nat.add_mod_right, if_neg (by omega),
    if_pos ⟨by omega, hmiddle⟩]
  rfl

end Filled

/-! ## The loops -/

theorem loop128_filled {key : Nat → Column} (n i : Nat) {rk : KeySchedule}
    (h : Filled 4 key rk (4 * i + 4)) (hn : n + i ≤ 10) :
    Filled 4 key (loop128 n i (4 * i) rk) (4 * (n + i) + 4) := by
  induction n generalizing i rk with
  | zero => rwa [Nat.zero_add]
  | succ n ih =>
    have h4 := h.rotated (by omega) (by omega) (by omega)
    have h5 := h4.chain (i := 4 * i + 1) (by omega) (by omega) (by omega) (by omega)
    have h6 := h5.chain (i := 4 * i + 2) (by omega) (by omega) (by omega) (by omega)
    have h7 := h6.chain (i := 4 * i + 3) (by omega) (by omega) (by omega) (by omega)
    have hend := ih (i + 1) h7 (by omega)
    rwa [show n + (i + 1) = n + 1 + i by omega] at hend

theorem loop192_filled {key : Nat → Column} (n i : Nat) {rk : KeySchedule}
    (h : Filled 6 key rk (6 * i + 6)) (hn : n + 1 + i ≤ 8) :
    Filled 6 key (loop192 (n + 1) i (6 * i) rk) (6 * (n + i) + 10) := by
  induction n generalizing i rk with
  | zero =>
    have h6 := h.rotated (by omega) (by omega) (by omega)
    have h7 := h6.chain (i := 6 * i + 1) (by omega) (by omega) (by omega) (by omega)
    have h8 := h7.chain (i := 6 * i + 2) (by omega) (by omega) (by omega) (by omega)
    have h9 := h8.chain (i := 6 * i + 3) (by omega) (by omega) (by omega) (by omega)
    rw [loop192, if_pos rfl, Nat.zero_add]
    exact h9
  | succ n ih =>
    have h6 := h.rotated (by omega) (by omega) (by omega)
    have h7 := h6.chain (i := 6 * i + 1) (by omega) (by omega) (by omega) (by omega)
    have h8 := h7.chain (i := 6 * i + 2) (by omega) (by omega) (by omega) (by omega)
    have h9 := h8.chain (i := 6 * i + 3) (by omega) (by omega) (by omega) (by omega)
    have h10 := h9.chain (i := 6 * i + 4) (by omega) (by omega) (by omega) (by omega)
    have h11 := h10.chain (i := 6 * i + 5) (by omega) (by omega) (by omega) (by omega)
    have hend := ih (i + 1) h11 (by omega)
    rw [show n + (i + 1) = n + 1 + i by omega] at hend
    rw [loop192, if_neg (Nat.succ_ne_zero n)]
    exact hend

theorem loop256_filled {key : Nat → Column} (n i : Nat) {rk : KeySchedule}
    (h : Filled 8 key rk (8 * i + 8)) (hn : n + 1 + i ≤ 7) :
    Filled 8 key (loop256 (n + 1) i (8 * i) rk) (8 * (n + i) + 12) := by
  induction n generalizing i rk with
  | zero =>
    have h8 := h.rotated (by omega) (by omega) (by omega)
    have h9 := h8.chain (i := 8 * i + 1) (by omega) (by omega) (by omega) (by omega)
    have h10 := h9.chain (i := 8 * i + 2) (by omega) (by omega) (by omega) (by omega)
    have h11 := h10.chain (i := 8 * i + 3) (by omega) (by omega) (by omega) (by omega)
    rw [loop256, if_pos rfl, Nat.zero_add]
    exact h11
  | succ n ih =>
    have h8 := h.rotated (by omega) (by omega) (by omega)
    have h9 := h8.chain (i := 8 * i + 1) (by omega) (by omega) (by omega) (by omega)
    have h10 := h9.chain (i := 8 * i + 2) (by omega) (by omega) (by omega) (by omega)
    have h11 := h10.chain (i := 8 * i + 3) (by omega) (by omega) (by omega) (by omega)
    have h12 := h11.substituted (i := 8 * i + 4) (by omega) (by omega)
    have h13 := h12.chain (i := 8 * i + 5) (by omega) (by omega) (by omega) (by omega)
    have h14 := h13.chain (i := 8 * i + 6) (by omega) (by omega) (by omega) (by omega)
    have h15 := h14.chain (i := 8 * i + 7) (by omega) (by omega) (by omega) (by omega)
    have hend := ih (i + 1) h15 (by omega)
    rw [show n + (i + 1) = n + 1 + i by omega] at hend
    rw [loop256, if_neg (Nat.succ_ne_zero n)]
    exact hend

/-! ## The schedule of the cipher -/

/-- The words of a key. -/
def keyColumn (cipherKey : List UInt8) (i : Nat) : Column :=
  ⟨cipherKey.getD (4 * i) 0, cipherKey.getD (4 * i + 1) 0, cipherKey.getD (4 * i + 2) 0,
    cipherKey.getD (4 * i + 3) 0⟩

/-- The words of the key at the front of the schedule. -/
def loadWords (rk : KeySchedule) (cipherKey : List UInt8) : Nat → KeySchedule
  | 0 => rk
  | m + 1 => (loadWords rk cipherKey m).set m (getU32 cipherKey (4 * m))

theorem loadWords_filled {nk : Nat} (hnk : nk ≤ 8) (rk : KeySchedule) (cipherKey : List UInt8)
    {m : Nat} (hm : m ≤ nk) : Filled nk (keyColumn cipherKey) (loadWords rk cipherKey m) m := by
  induction m with
  | zero => exact fun j hj => absurd hj (Nat.not_lt_zero j)
  | succ m ih =>
    refine (ih (by omega)).set (by omega) ?_
    rw [expansion_of_lt _ (by omega)]
    exact octets_word (keyColumn cipherKey m)

theorem rijndaelKeySetupEnc_bits128 (rk : KeySchedule) (cipherKey : List UInt8) :
    rijndaelKeySetupEnc rk cipherKey 128 = (loop128 10 0 (4 * 0) (loadWords rk cipherKey 4), 10) := by
  unfold rijndaelKeySetupEnc
  rw [if_pos rfl]
  rfl

theorem rijndaelKeySetupEnc_bits192 (rk : KeySchedule) (cipherKey : List UInt8) :
    rijndaelKeySetupEnc rk cipherKey 192 = (loop192 8 0 (6 * 0) (loadWords rk cipherKey 6), 12) := by
  unfold rijndaelKeySetupEnc
  rw [if_neg (by decide), if_pos rfl]
  rfl

theorem rijndaelKeySetupEnc_bits256 (rk : KeySchedule) (cipherKey : List UInt8) :
    rijndaelKeySetupEnc rk cipherKey 256 = (loop256 7 0 (8 * 0) (loadWords rk cipherKey 8), 14) := by
  unfold rijndaelKeySetupEnc
  rw [if_neg (by decide), if_neg (by decide), if_pos rfl]
  rfl

/-- **The schedule of the cipher is the key expansion.** -/
theorem rijndaelKeySetupEnc_words (size : KeySize) (rk : KeySchedule) (cipherKey : List UInt8) :
    Filled size.nk (keyColumn cipherKey) (rijndaelKeySetupEnc rk cipherKey size.bits).1
        (4 * (size.nr + 1)) ∧
      (rijndaelKeySetupEnc rk cipherKey size.bits).2 = size.nr := by
  have hnk : size.nk ≤ 8 := by cases size <;> decide
  have hload := loadWords_filled hnk rk cipherKey le_rfl
  cases size with
  | bits128 =>
    rw [KeySize.bits, rijndaelKeySetupEnc_bits128]
    exact ⟨loop128_filled 10 0 hload (by decide), rfl⟩
  | bits192 =>
    rw [KeySize.bits, rijndaelKeySetupEnc_bits192]
    exact ⟨loop192_filled 7 0 hload (by decide), rfl⟩
  | bits256 =>
    rw [KeySize.bits, rijndaelKeySetupEnc_bits256]
    exact ⟨loop256_filled 6 0 hload (by decide), rfl⟩

/-! ## The schedule of the inverse cipher -/

namespace KeySchedule

variable {rk : KeySchedule}

theorem word_swap {i j : Nat} (hi : i < 60) (hj : j < 60) (k : Nat) :
    (rk.swap i j).word k = rk.word (Equiv.swap i j k) := by
  rw [swap, word_set hj, word_set hi, Equiv.swap_apply_def]
  by_cases hkj : k = j
  · by_cases hki : k = i
    · rw [if_pos hkj, if_pos hki, ← hki, ← hkj]
    · rw [if_pos hkj, if_neg hki, if_pos hkj]
  · rw [if_neg hkj, if_neg hkj]
    by_cases hki : k = i
    · rw [if_pos hki, if_pos hki]
    · rw [if_neg hki, if_neg hki]

/-- One word of two keys in each other's place. -/
theorem word_swap_quads {a b : Nat} (ha : a < 15) (hb : b < 15) {d e : Nat} (hd : d < 4) (he : e < 4)
    (r : Nat) : (rk.swap (4 * a + e) (4 * b + e)).word (4 * r + d) =
      rk.word (4 * (if d = e then Equiv.swap a b r else r) + d) := by
  rw [word_swap (by omega) (by omega), Equiv.swap_apply_def, Equiv.swap_apply_def]
  by_cases hde : d = e
  · subst hde
    rw [if_pos rfl]
    by_cases hra : r = a
    · rw [if_pos (by omega), if_pos hra]
    · rw [if_neg (by omega), if_neg hra]
      by_cases hrb : r = b
      · rw [if_pos (by omega), if_pos hrb]
      · rw [if_neg (by omega), if_neg hrb]
  · rw [if_neg hde, if_neg (by omega), if_neg (by omega)]

/-- Two keys in each other's place. -/
def swapKeys (rk : KeySchedule) (a b : Nat) : KeySchedule :=
  (((rk.swap (4 * a) (4 * b)).swap (4 * a + 1) (4 * b + 1)).swap (4 * a + 2) (4 * b + 2)).swap
    (4 * a + 3) (4 * b + 3)

theorem key_swapKeys {a b : Nat} (ha : a < 15) (hb : b < 15) (r : Nat) :
    (rk.swapKeys a b).key r = rk.key (Equiv.swap a b r) := by
  have hword (d : Nat) (hd : d < 4) :
      (rk.swapKeys a b).word (4 * r + d) = rk.word (4 * Equiv.swap a b r + d) := by
    have h0 := @word_swap_quads rk a b ha hb d 0 hd (by omega)
    rw [swapKeys, word_swap_quads ha hb hd (by omega), word_swap_quads ha hb hd (by omega),
      word_swap_quads ha hb hd (by omega)]
    refine (h0 _).trans ?_
    interval_cases d <;> rfl
  have h0 := hword 0 (by omega)
  rw [Nat.add_zero, Nat.add_zero] at h0
  rw [key, h0, hword 1 (by omega), hword 2 (by omega), hword 3 (by omega)]
  rfl

end KeySchedule

/-- **The loop that inverts the order** of the keys from `a` to `b`. -/
theorem invertOrder_key (n : Nat) {a b : Nat} (hb : b < 15) (hn : b ≤ a + 2 * n) (rk : KeySchedule)
    (r : Nat) : (invertOrder n (4 * a) (4 * b) rk).key r =
      rk.key (if a ≤ r ∧ r ≤ b then a + b - r else r) := by
  induction n generalizing a b rk with
  | zero =>
    rw [show (if a ≤ r ∧ r ≤ b then a + b - r else r) = r by split_ifs <;> omega]
    rfl
  | succ n ih =>
    rw [invertOrder]
    by_cases hab : a < b
    · have hnext : 4 * b - 4 = 4 * (b - 1) := by omega
      rw [if_pos (by omega), hnext]
      change (invertOrder n (4 * (a + 1)) (4 * (b - 1)) (rk.swapKeys a b)).key r = _
      rw [ih (by omega) (by omega), KeySchedule.key_swapKeys (by omega) hb, Equiv.swap_apply_def]
      congr 1
      split_ifs <;> omega
    · rw [if_neg (by omega), show (if a ≤ r ∧ r ≤ b then a + b - r else r) = r by split_ifs <;> omega]

/-- A key through the inverse of the mixing, word by word. -/
def mixKey (rk : KeySchedule) (r : Nat) : KeySchedule :=
  let rk := rk.set (4 * r) (invMixWord (rk.word (4 * r)))
  let rk := rk.set (4 * r + 1) (invMixWord (rk.word (4 * r + 1)))
  let rk := rk.set (4 * r + 2) (invMixWord (rk.word (4 * r + 2)))
  rk.set (4 * r + 3) (invMixWord (rk.word (4 * r + 3)))

theorem mixKey_key {r : Nat} (hr : r < 15) (rk : KeySchedule) (q : Nat) :
    (mixKey rk r).key q = if q = r then (rk.key r).mixColumns invMixing else rk.key q := by
  by_cases hqr : q = r
  · subst hqr
    rw [if_pos rfl]
    simp (disch := omega) [mixKey, KeySchedule.key, KeySchedule.word_set, octets_invMixWord,
      Grid.mixColumns]
  · rw [if_neg hqr]
    simp (disch := omega) only [mixKey, KeySchedule.key, KeySchedule.word_set_of_ne]

/-- **The loop over the keys behind `k`.** -/
theorem invMixKeys_key (n k : Nat) (hk : k + n < 15) (rk : KeySchedule) (r : Nat) :
    (invMixKeys n (4 * k) rk).key r =
      if k < r ∧ r ≤ k + n then (rk.key r).mixColumns invMixing else rk.key r := by
  induction n generalizing k rk with
  | zero =>
    rw [if_neg (by omega)]
    rfl
  | succ n ih =>
    change (invMixKeys n (4 * (k + 1)) (mixKey rk (k + 1))).key r = _
    rw [ih (k + 1) (by omega), mixKey_key (by omega)]
    split_ifs <;> first | omega | rfl | simp_all

theorem KeySize.nr_lt (size : KeySize) : size.nr < 15 := by cases size <;> decide

/-- **The keys of the inverse cipher**, whatever the two schedules held before. -/
theorem rijndaelKeySetupDec_key (size : KeySize) (rk : KeySchedule) (cipherKey : List UInt8) {r : Nat}
    (hr : r ≤ size.nr) : (rijndaelKeySetupDec rk cipherKey size.bits).1.key r =
      inverseKey (rijndaelKeySetupEnc rk cipherKey size.bits).1.key (Grid.mixColumns invMixing)
        (size.nr - 1) r := by
  have hpos : 0 < size.nr := by cases size <;> decide
  have hnr := (rijndaelKeySetupEnc_words size rk cipherKey).2
  have hlt := size.nr_lt
  unfold rijndaelKeySetupDec
  dsimp only
  rw [hnr]
  have horder := invertOrder_key size.nr (a := 0) hlt (by omega)
    (rijndaelKeySetupEnc rk cipherKey size.bits).1 r
  have hmix := invMixKeys_key (size.nr - 1) 0 (by omega)
    (invertOrder size.nr (4 * 0) (4 * size.nr) (rijndaelKeySetupEnc rk cipherKey size.bits).1) r
  rw [if_pos ⟨Nat.zero_le r, hr⟩, Nat.zero_add] at horder
  rw [horder, Nat.zero_add] at hmix
  unfold inverseKey
  rw [Nat.sub_add_cancel hpos]
  refine hmix.trans ?_
  by_cases hend : r = 0 ∨ r = size.nr
  · rw [if_neg (by omega), if_pos hend]
  · rw [if_pos (by omega), if_neg hend]

/-! ## Blocks under a key -/

/-- A round key of the standard: four words of the key expansion. -/
def expandedKey (size : KeySize) (cipherKey : List UInt8) (r : Nat) : Grid :=
  let w := expansion size.nk (keyColumn cipherKey)
  ⟨w (4 * r), w (4 * r + 1), w (4 * r + 2), w (4 * r + 3)⟩

/-- The cipher of the standard. -/
def standardCipher (size : KeySize) (cipherKey : List UInt8) (x : Grid) : Grid :=
  encrypt Grid.add (fun y => (y.subBytes sbox).shiftRows) (Grid.mixColumns mixing)
    (expandedKey size cipherKey) (size.nr - 1) x

/-- The keys of the schedule of the cipher. -/
theorem rijndaelKeySetupEnc_key (size : KeySize) (rk : KeySchedule) (cipherKey : List UInt8) {r : Nat}
    (hr : r ≤ size.nr) :
    (rijndaelKeySetupEnc rk cipherKey size.bits).1.key r = expandedKey size cipherKey r := by
  have h := (rijndaelKeySetupEnc_words size rk cipherKey).1
  rw [KeySchedule.key, h _ (by omega), h _ (by omega), h _ (by omega), h _ (by omega)]
  rfl

/-- The number of rounds is even. -/
theorem KeySize.nr_eq (size : KeySize) : ∃ n, size.nr = 2 * (n + 1) := by
  cases size with
  | bits128 => exact ⟨4, rfl⟩
  | bits192 => exact ⟨5, rfl⟩
  | bits256 => exact ⟨6, rfl⟩

/-- A block through the cipher under a key, on a schedule that held something else before. -/
def encryptUnder (size : KeySize) (rk : KeySchedule) (cipherKey : List UInt8) (pt : Block) : Block :=
  let (rk, Nr) := rijndaelKeySetupEnc rk cipherKey size.bits
  rijndaelEncrypt rk Nr pt

/-- The same through the inverse cipher. -/
def decryptUnder (size : KeySize) (rk : KeySchedule) (cipherKey : List UInt8) (ct : Block) : Block :=
  let (rk, Nr) := rijndaelKeySetupDec rk cipherKey size.bits
  rijndaelDecrypt rk Nr ct

theorem encryptUnder_grid (size : KeySize) (rk : KeySchedule) (cipherKey : List UInt8) (pt : Block) :
    blockGrid (encryptUnder size rk cipherKey pt) =
      encrypt Grid.add Grid.sub (Grid.mixColumns mixing) (expandedKey size cipherKey) (size.nr - 1)
        (blockGrid pt) := by
  obtain ⟨n, hn⟩ := size.nr_eq
  unfold encryptUnder
  dsimp only
  rw [(rijndaelKeySetupEnc_words size rk cipherKey).2, hn, rijndaelEncrypt_grid]
  exact encrypt_congr _ _ _ _ _ _ fun i hi => rijndaelKeySetupEnc_key size rk cipherKey (by omega)

theorem decryptUnder_grid (size : KeySize) (rk : KeySchedule) (cipherKey : List UInt8) (ct : Block) :
    blockGrid (decryptUnder size rk cipherKey ct) =
      encrypt Grid.add Grid.invSub (Grid.mixColumns invMixing)
        (inverseKey (expandedKey size cipherKey) (Grid.mixColumns invMixing) (size.nr - 1))
        (size.nr - 1) (blockGrid ct) := by
  obtain ⟨n, hn⟩ := size.nr_eq
  have hsetup : (rijndaelKeySetupDec rk cipherKey size.bits).2 = size.nr :=
    (rijndaelKeySetupEnc_words size rk cipherKey).2
  unfold decryptUnder
  dsimp only
  rw [hsetup, hn, rijndaelDecrypt_grid]
  refine encrypt_congr _ _ _ _ _ _ fun i hi => ?_
  rw [rijndaelKeySetupDec_key size rk cipherKey (by omega), inverseKey, inverseKey, hn,
    rijndaelKeySetupEnc_key size rk cipherKey (by omega)]

/-- **A block under a key** is enciphered as the standard has it, for each size of the key. -/
theorem rijndaelEncrypt_cipher (size : KeySize) (rk : KeySchedule) (cipherKey : List UInt8)
    (pt : Block) : blockGrid (encryptUnder size rk cipherKey pt) =
      standardCipher size cipherKey (blockGrid pt) :=
  encryptUnder_grid size rk cipherKey pt

example : (encryptUnder .bits128 ⟨Vector.replicate 60 0⟩
      [0x00, 0x01, 0x02, 0x03, 0x04, 0x05, 0x06, 0x07, 0x08, 0x09, 0x0a, 0x0b, 0x0c, 0x0d, 0x0e, 0x0f]
      (store zeroBlock 0 [0x00, 0x11, 0x22, 0x33, 0x44, 0x55, 0x66, 0x77, 0x88, 0x99, 0xaa, 0xbb,
        0xcc, 0xdd, 0xee, 0xff])).toList =
    [0x69, 0xc4, 0xe0, 0xd8, 0x6a, 0x7b, 0x04, 0x30, 0xd8, 0xcd, 0xb7, 0x80, 0x70, 0xb4, 0xc5, 0x5a] := by
  decide +kernel

theorem decryptUnder_encryptUnder (size : KeySize) (rk rk' : KeySchedule) (cipherKey : List UInt8)
    (b : Block) : decryptUnder size rk' cipherKey (encryptUnder size rk cipherKey b) = b := by
  apply blockGrid_injective
  rw [decryptUnder_grid, encryptUnder_grid]
  exact decrypt_encrypt _ Grid.add_add Grid.invSub_sub Grid.invMix_mixColumns
    (Grid.mixColumns_add invMixing) _ _

theorem encryptUnder_decryptUnder (size : KeySize) (rk rk' : KeySchedule) (cipherKey : List UInt8)
    (b : Block) : encryptUnder size rk cipherKey (decryptUnder size rk' cipherKey b) = b := by
  apply blockGrid_injective
  rw [encryptUnder_grid, decryptUnder_grid]
  exact encrypt_decrypt _ Grid.add_add Grid.sub_invSub Grid.mix_invMixColumns
    (Grid.mixColumns_add mixing) _ _

/-- **The two ciphers of the code undo each other**, for each size of the key and whatever their
    schedules held before. -/
theorem rijndael_inverse (size : KeySize) (rk rk' : KeySchedule) (cipherKey : List UInt8)
    (b : Block) : decryptUnder size rk' cipherKey (encryptUnder size rk cipherKey b) = b ∧
      encryptUnder size rk cipherKey (decryptUnder size rk' cipherKey b) = b :=
  ⟨decryptUnder_encryptUnder size rk rk' cipherKey b,
    encryptUnder_decryptUnder size rk rk' cipherKey b⟩

end Bwctl
