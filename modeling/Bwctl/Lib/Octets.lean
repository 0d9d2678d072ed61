import Mathlib.Tactic
import Mathlib.Data.List.GetD

/-!
# Octet buffers

A message is laid out in a buffer by stores at fixed offsets and read back by loads.  A load
sees the last store over its octets; a store somewhere else does not matter to it.

* `load_store`, `load_store_of_disjoint` — a load of what was stored, and past another store.
* `load16_store`, `load32_store`, `load64_store` — the same for numbers in network order.
* `byte_store_chunks` — a buffer cut into chunks and put together again.
-/

set_option autoImplicit false

namespace Octets

variable {n : Nat} {buf : Vector UInt8 n}

/-- The octet at an offset; behind the buffer there are zeros. -/
def byte (buf : Vector UInt8 n) (i : Nat) : UInt8 := buf.toList.getD i 0

/-- A list with octets copied over it from an offset on; what does not fit is dropped. -/
def overlay : Nat → List UInt8 → List UInt8 → List UInt8
  | _, [], _ => []
  | 0, b :: bs, [] => b :: bs
  | 0, _ :: bs, o :: os => o :: overlay 0 bs os
  | off + 1, b :: bs, os => b :: overlay off bs os

@[simp] theorem length_overlay (off : Nat) (bs os : List UInt8) :
    (overlay off bs os).length = bs.length := by
  fun_induction overlay off bs os <;> simp_all

theorem getD_overlay (off : Nat) (bs os : List UInt8) (i : Nat) :
    (overlay off bs os).getD i 0 =
      if i < bs.length ∧ off ≤ i ∧ i < off + os.length then os.getD (i - off) 0
      else bs.getD i 0 := by
  induction bs generalizing off os i with
  | nil => simp [overlay]
  | cons b bs ih =>
    cases off with
    | zero =>
      cases os with
      | nil => simp [overlay]
      | cons o os =>
        cases i with
        | zero => simp [overlay]
        | succ i =>
          simp only [overlay, List.getD_cons_succ, ih, List.length_cons, Nat.zero_add,
            Nat.sub_zero, Nat.zero_le, true_and]
          congr 1
          apply propext
          omega
    | succ off =>
      cases i with
      | zero => simp [overlay]
      | succ i =>
        simp only [overlay, List.getD_cons_succ, ih, List.length_cons, Nat.add_sub_add_right]
        congr 1
        apply propext
        omega

/-- The buffer with octets copied over it; what does not fit is dropped. -/
@[irreducible] def store (buf : Vector UInt8 n) (off : Nat) (octets : List UInt8) : Vector UInt8 n :=
  ⟨(overlay off buf.toList octets).toArray, by simp⟩

/-- The octets from an offset on. -/
def load (buf : Vector UInt8 n) (off len : Nat) : List UInt8 :=
  (List.range len).map fun i => byte buf (off + i)

theorem byte_of_lt {i : Nat} (hi : i < n) : byte buf i = buf[i] := by
  unfold byte
  rw [List.getD_eq_getElem _ _ (by simpa using hi)]
  simp

theorem byte_of_le {i : Nat} (hi : n ≤ i) : byte buf i = 0 :=
  List.getD_eq_default _ _ (by simpa using hi)

theorem byte_store (off : Nat) (octets : List UInt8) (i : Nat) :
    byte (store buf off octets) i =
      if i < n ∧ off ≤ i ∧ i < off + octets.length then octets.getD (i - off) 0
      else byte buf i := by
  have hlen : buf.toList.length = n := Vector.length_toList
  unfold byte store
  change (overlay off buf.toList octets).getD i 0 = _
  rw [getD_overlay, hlen]

theorem byte_store_of_disjoint {off i : Nat} {octets : List UInt8}
    (h : i < off ∨ off + octets.length ≤ i) : byte (store buf off octets) i = byte buf i := by
  rw [byte_store, if_neg (by omega)]

@[simp] theorem length_load (off len : Nat) : (load buf off len).length = len := by
  simp [load]

/-- **A load sees the store over its octets.** -/
theorem load_store {off : Nat} {octets : List UInt8} (h : off + octets.length ≤ n) :
    load (store buf off octets) off octets.length = octets := by
  apply List.ext_getElem
  · simp
  · intro i h1 h2
    simp only [load, List.getElem_map, List.getElem_range]
    rw [byte_store, if_pos ⟨by omega, by omega, by omega⟩, Nat.add_sub_cancel_left,
      List.getD_eq_getElem _ _ h2]

/-- **A store somewhere else does not matter.** -/
theorem load_store_of_disjoint {off off' len : Nat} {octets : List UInt8}
    (h : off' + len ≤ off ∨ off + octets.length ≤ off') :
    load (store buf off octets) off' len = load buf off' len := by
  apply List.map_congr_left
  intro i hi
  rw [List.mem_range] at hi
  exact byte_store_of_disjoint (by omega)

/-- A load inside zeros that were stored. -/
theorem load_store_zeros {off k off' len : Nat} (hlow : off ≤ off') (hhigh : off' + len ≤ off + k)
    (hfits : off + k ≤ n) :
    load (store buf off (List.replicate k 0)) off' len = List.replicate len 0 := by
  apply List.ext_getElem
  · simp
  · intro i h1 h2
    rw [length_load] at h1
    simp only [load, List.getElem_map, List.getElem_range, List.getElem_replicate]
    rw [byte_store, List.length_replicate, if_pos ⟨by omega, by omega, by omega⟩,
      List.getD_eq_getElem _ _ (by rw [List.length_replicate]; omega), List.getElem_replicate]

/-- Buffers with the same octets are loaded alike. -/
theorem load_congr {m : Nat} {buf' : Vector UInt8 m} {off len : Nat}
    (h : ∀ i, off ≤ i → i < off + len → byte buf i = byte buf' i) :
    load buf off len = load buf' off len := by
  apply List.map_congr_left
  intro i hi
  rw [List.mem_range] at hi
  exact h _ (by omega) (by omega)

/-! ## Single octets -/

theorem byte_store_one {off : Nat} {b : UInt8} (h : off < n) : byte (store buf off [b]) off = b := by
  rw [byte_store, if_pos ⟨h, le_rfl, by simp⟩]
  simp

/-! ## Numbers in network order -/

/-- The number octets in network order stand for. -/
def ofBe (octets : List UInt8) : Nat := octets.foldl (fun n b => 256 * n + b.toNat) 0

def be16 (v : UInt16) : List UInt8 := [(v >>> 8).toUInt8, v.toUInt8]

def be32 (v : UInt32) : List UInt8 :=
  [(v >>> 24).toUInt8, (v >>> 16).toUInt8, (v >>> 8).toUInt8, v.toUInt8]

def be64 (v : UInt64) : List UInt8 := be32 (v >>> 32).toUInt32 ++ be32 v.toUInt32

def load16 (buf : Vector UInt8 n) (off : Nat) : UInt16 := UInt16.ofNat (ofBe (load buf off 2))

def load32 (buf : Vector UInt8 n) (off : Nat) : UInt32 := UInt32.ofNat (ofBe (load buf off 4))

def load64 (buf : Vector UInt8 n) (off : Nat) : UInt64 :=
  (load32 buf off).toUInt64 <<< 32 ||| (load32 buf (off + 4)).toUInt64

@[simp] theorem length_be16 (v : UInt16) : (be16 v).length = 2 := rfl
@[simp] theorem length_be32 (v : UInt32) : (be32 v).length = 4 := rfl
@[simp] theorem length_be64 (v : UInt64) : (be64 v).length = 8 := rfl

theorem ofBe_be16 (v : UInt16) : ofBe (be16 v) = v.toNat := by
  have hv := v.toNat_lt
  simp [be16, ofBe, Nat.shiftRight_eq_div_pow]
  omega

theorem ofBe_be32 (v : UInt32) : ofBe (be32 v) = v.toNat := by
  have hv := v.toNat_lt
  simp [be32, ofBe, Nat.shiftRight_eq_div_pow]
  omega

theorem load16_store {off : Nat} {v : UInt16} (h : off + 2 ≤ n) :
    load16 (store buf off (be16 v)) off = v := by
  have hload : load (store buf off (be16 v)) off (be16 v).length = be16 v := load_store h
  rw [length_be16] at hload
  rw [load16, hload, ofBe_be16, UInt16.ofNat_toNat]

theorem load32_store {off : Nat} {v : UInt32} (h : off + 4 ≤ n) :
    load32 (store buf off (be32 v)) off = v := by
  have hload : load (store buf off (be32 v)) off (be32 v).length = be32 v := load_store h
  rw [length_be32] at hload
  rw [load32, hload, ofBe_be32, UInt32.ofNat_toNat]

theorem load16_store_of_disjoint {off off' : Nat} {octets : List UInt8}
    (h : off' + 2 ≤ off ∨ off + octets.length ≤ off') :
    load16 (store buf off octets) off' = load16 buf off' := by
  rw [load16, load_store_of_disjoint h, load16]

theorem load32_store_of_disjoint {off off' : Nat} {octets : List UInt8}
    (h : off' + 4 ≤ off ∨ off + octets.length ≤ off') :
    load32 (store buf off octets) off' = load32 buf off' := by
  rw [load32, load_store_of_disjoint h, load32]

theorem load64_store_of_disjoint {off off' : Nat} {octets : List UInt8}
    (h : off' + 8 ≤ off ∨ off + octets.length ≤ off') :
    load64 (store buf off octets) off' = load64 buf off' := by
  rw [load64, load32_store_of_disjoint (by omega), load32_store_of_disjoint (by omega), load64]

theorem load16_congr {m : Nat} {buf' : Vector UInt8 m} {off : Nat}
    (h : ∀ i, off ≤ i → i < off + 2 → byte buf i = byte buf' i) : load16 buf off = load16 buf' off := by
  rw [load16, load_congr h, load16]

theorem load32_congr {m : Nat} {buf' : Vector UInt8 m} {off : Nat}
    (h : ∀ i, off ≤ i → i < off + 4 → byte buf i = byte buf' i) : load32 buf off = load32 buf' off := by
  rw [load32, load_congr h, load32]

theorem load64_congr {m : Nat} {buf' : Vector UInt8 m} {off : Nat}
    (h : ∀ i, off ≤ i → i < off + 8 → byte buf i = byte buf' i) : load64 buf off = load64 buf' off := by
  have hhi : load32 buf off = load32 buf' off := load32_congr fun i h1 h2 => h i h1 (by omega)
  have hlo : load32 buf (off + 4) = load32 buf' (off + 4) :=
    load32_congr fun i h1 h2 => h i (by omega) (by omega)
  rw [load64, hhi, hlo, load64]

/-- Storing in two steps. -/
theorem store_append {off : Nat} {a b : List UInt8} :
    store buf off (a ++ b) = store (store buf off a) (off + a.length) b := by
  apply Vector.ext
  intro i hi
  rw [← byte_of_lt hi, ← byte_of_lt hi, byte_store, byte_store, byte_store, List.length_append]
  by_cases ha : i < off + a.length
  · rw [if_neg (show ¬ (i < n ∧ off + a.length ≤ i ∧ i < off + a.length + b.length) by omega)]
    by_cases hoff : off ≤ i
    · rw [if_pos ⟨hi, hoff, by omega⟩, if_pos ⟨hi, hoff, ha⟩, List.getD_append _ _ _ _ (by omega)]
    · rw [if_neg (by omega), if_neg (by omega)]
  · by_cases hb : i < off + a.length + b.length
    · rw [if_pos ⟨hi, by omega, by omega⟩, if_pos ⟨hi, by omega, hb⟩,
        List.getD_append_right _ _ _ _ (by omega), Nat.sub_sub]
    · rw [if_neg (by omega), if_neg (by omega), if_neg (by omega)]

theorem join64 (v : UInt64) :
    (v >>> 32).toUInt32.toUInt64 <<< 32 ||| v.toUInt32.toUInt64 = v := by
  have hv := v.toNat_lt
  apply UInt64.toNat_inj.1
  have hhi : (v >>> 32).toUInt32.toUInt64.toNat = v.toNat / 2 ^ 32 := by
    simp [Nat.shiftRight_eq_div_pow]
    omega
  have hlo : v.toUInt32.toUInt64.toNat = v.toNat % 2 ^ 32 := by simp
  rw [UInt64.toNat_or, UInt64.toNat_shiftLeft, hhi, hlo]
  have h32 : (32 : UInt64).toNat % 64 = 32 := rfl
  rw [h32, Nat.mod_eq_of_lt (by rw [Nat.shiftLeft_eq]; omega),
    ← Nat.shiftLeft_add_eq_or_of_lt (Nat.mod_lt _ (by decide)), Nat.shiftLeft_eq]
  omega

theorem load64_store {off : Nat} {v : UInt64} (h : off + 8 ≤ n) :
    load64 (store buf off (be64 v)) off = v := by
  rw [load64, be64, store_append, length_be32, load32_store (by omega),
    load32_store_of_disjoint (Or.inl le_rfl), load32_store (by omega), join64]

/-! ## Chunks -/

/-- The first `m` chunks of `k` octets. -/
def chunks (k m : Nat) (buf : Vector UInt8 n) : List (Vector UInt8 k) :=
  (List.range m).map fun j => Vector.ofFn fun i => byte buf (k * j + i.val)

/-- Chunks, one behind the other. -/
def flatten {k : Nat} (cs : List (Vector UInt8 k)) : List UInt8 := cs.flatMap Vector.toList

theorem chunks_succ (k m : Nat) :
    chunks k (m + 1) buf = chunks k m buf ++ [Vector.ofFn fun i => byte buf (k * m + i.val)] := by
  simp [chunks, List.range_succ]

theorem flatten_append {k : Nat} (cs ds : List (Vector UInt8 k)) :
    flatten (cs ++ ds) = flatten cs ++ flatten ds := by
  simp [flatten]

@[simp] theorem flatten_cons {k : Nat} (c : Vector UInt8 k) (cs : List (Vector UInt8 k)) :
    flatten (c :: cs) = c.toList ++ flatten cs := rfl

theorem length_flatten {k : Nat} (cs : List (Vector UInt8 k)) :
    (flatten cs).length = k * cs.length := by
  induction cs with
  | nil => rfl
  | cons c cs ih =>
    rw [flatten_cons, List.length_append, ih, List.length_cons, Vector.length_toList]
    ring

@[simp] theorem length_chunks (k m : Nat) : (chunks k m buf).length = m := by
  simp [chunks]

theorem getD_flatten_chunks {k m i : Nat} (hi : i < k * m) :
    (flatten (chunks k m buf)).getD i 0 = byte buf i := by
  induction m with
  | zero => omega
  | succ m ih =>
    have hlen : (flatten (chunks k m buf)).length = k * m := by simp [length_flatten]
    rw [chunks_succ, flatten_append]
    by_cases hlt : i < k * m
    · rw [List.getD_append _ _ _ _ (by omega), ih hlt]
    · have hik : i - k * m < k := by
        rw [Nat.mul_succ] at hi
        omega
      rw [List.getD_append_right _ _ _ _ (by omega), hlen]
      simp only [flatten, List.flatMap_cons, List.flatMap_nil, List.append_nil]
      rw [List.getD_eq_getElem _ _ (by simpa using hik)]
      simp only [Vector.getElem_toList, Vector.getElem_ofFn]
      congr 1
      omega

/-- **A buffer that is filled with chunks of another** has its octets. -/
theorem byte_store_chunks {l : Nat} {old : Vector UInt8 l} {k m i : Nat} (hi : i < k * m)
    (hl : i < l) : byte (store old 0 (flatten (chunks k m buf))) i = byte buf i := by
  rw [byte_store, if_pos ⟨hl, Nat.zero_le _, by rw [length_flatten, length_chunks]; omega⟩,
    Nat.sub_zero, getD_flatten_chunks hi]

end Octets
