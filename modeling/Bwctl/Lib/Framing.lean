import Bwctl.Lib.Octets

/-!
# Messages on a stream of octets

A message is laid out in a buffer by copies to fixed places and sent from its front; the reader
fills buffers of its own from the stream.  When no two copies touch the same octets, every field is
loaded as it was copied, whatever part of the message the buffer holds.

* `load_writeAll` — a field of a layout.
* `readn_load`, `load_fill` — what a buffer filled from a sent message holds.
* `readAll_flatMap` — a stream of messages read one by one.
-/

set_option autoImplicit false

namespace Octets

variable {n : Nat} {buf : Vector UInt8 n}

/-! ## Layouts -/

/-- Copies into a buffer, each with its place. -/
def writeAll (buf : Vector UInt8 n) (layout : List (Nat × List UInt8)) : Vector UInt8 n :=
  layout.foldl (fun buf field => store buf field.1 field.2) buf

/-- Two copies that touch none of the same octets. -/
def Apart (f g : Nat × List UInt8) : Prop :=
  f.1 + f.2.length ≤ g.1 ∨ g.1 + g.2.length ≤ f.1

theorem load_writeAll_of_apart {layout : List (Nat × List UInt8)} {off len : Nat}
    (h : ∀ f ∈ layout, off + len ≤ f.1 ∨ f.1 + f.2.length ≤ off) :
    load (writeAll buf layout) off len = load buf off len := by
  induction layout generalizing buf with
  | nil => rfl
  | cons f layout ih =>
    unfold writeAll at ih ⊢
    rw [List.foldl_cons, ih fun g hg => h g (List.mem_cons_of_mem f hg),
      load_store_of_disjoint (h f List.mem_cons_self)]

/-- **A field of a layout** is loaded as it was copied. -/
theorem load_writeAll {layout : List (Nat × List UInt8)} {off len : Nat} {octets : List UInt8}
    (hapart : layout.Pairwise Apart) (hmem : (off, octets) ∈ layout) (hlen : octets.length = len)
    (hfits : off + len ≤ n) : load (writeAll buf layout) off len = octets := by
  subst hlen
  induction layout generalizing buf with
  | nil => cases hmem
  | cons f layout ih =>
    obtain ⟨hhead, hrest⟩ := List.pairwise_cons.1 hapart
    rcases List.mem_cons.1 hmem with rfl | hmem
    · -- the copies after it are elsewhere
      have hload : load (writeAll (store buf off octets) layout) off octets.length = _ :=
        load_writeAll_of_apart hhead
      unfold writeAll at hload ⊢
      rw [List.foldl_cons, hload, load_store hfits]
    · exact ih hrest hmem

/-! ## Buffers filled from a stream -/

theorem load_add (off a b : Nat) : load buf off (a + b) = load buf off a ++ load buf (off + a) b := by
  unfold load
  rw [List.range_add, List.map_append, List.map_map]
  congr 1
  apply List.map_congr_left
  intro i _
  simp only [Function.comp_apply]
  rw [Nat.add_assoc]

/-- The next octets of a stream, if there are so many. -/
def readn (k : Nat) (s : List UInt8) : Option (List UInt8 × List UInt8) :=
  if k ≤ s.length then some (s.take k, s.drop k) else none

theorem readn_append {k : Nat} {octets : List UInt8} (hlen : octets.length = k)
    (rest : List UInt8) : readn k (octets ++ rest) = some (octets, rest) := by
  unfold readn
  rw [if_pos (by simp; omega), List.take_left' hlen, List.drop_left' hlen]

/-- The first octets of what is left of a sent message. -/
theorem readn_load {off k m : Nat} (hk : k ≤ m) (rest : List UInt8) :
    readn k (load buf off m ++ rest) =
      some (load buf off k, load buf (off + k) (m - k) ++ rest) := by
  obtain ⟨m, rfl⟩ := Nat.exists_eq_add_of_le hk
  rw [load_add, List.append_assoc, Nat.add_sub_cancel_left, readn_append (length_load off k)]

/-- A buffer with octets from a stream at its front. -/
def fill {k : Nat} (stack : Vector UInt8 k) (octets : List UInt8) : Vector UInt8 k :=
  store stack 0 octets

/-- **A buffer filled from a message** holds the octets of the message. -/
theorem load_fill {k off m i len : Nat} {stack : Vector UInt8 k} (hin : i + len ≤ m) (hm : m ≤ k) :
    load (fill stack (load buf off m)) i len = load buf (off + i) len := by
  unfold load
  apply List.map_congr_left
  intro j hj
  rw [List.mem_range] at hj
  have hlen : (load buf off m).length = m := length_load off m
  unfold fill
  change byte (store stack 0 (load buf off m)) (i + j) = _
  rw [byte_store, if_pos ⟨by omega, by omega, by omega⟩, Nat.sub_zero,
    List.getD_eq_getElem _ _ (by omega)]
  unfold load
  simp only [List.getElem_map, List.getElem_range]
  rw [Nat.add_assoc]

/-! ## Streams of messages -/

section Streams

variable {α β σ : Type*}

/-- A number of messages read one by one, by a reader that keeps a state. -/
def readAll (read : σ → List β → Option (α × σ × List β)) :
    Nat → σ → List β → Option (List α × σ × List β)
  | 0, s, l => some ([], s, l)
  | k + 1, s, l =>
    match read s l with
    | none => none
    | some (a, s, l) => (readAll read k s l).map fun r => (a :: r.1, r.2)

/-- Messages of which each may be sent in the state the ones before it lead to. -/
def Follows (Ok : σ → α → Prop) (next : σ → α → σ) : σ → List α → Prop
  | _, [] => True
  | s, a :: as => Ok s a ∧ Follows Ok next (next s a) as

/-- **Messages one behind the other** are read one by one, and nothing behind them is touched. -/
theorem readAll_flatMap {read : σ → List β → Option (α × σ × List β)} {write : α → List β}
    {Ok : σ → α → Prop} {next : σ → α → σ}
    (hread : ∀ s a rest, Ok s a → read s (write a ++ rest) = some (a, next s a, rest))
    {as : List α} {s : σ} (h : Follows Ok next s as) (rest : List β) :
    readAll read as.length s (as.flatMap write ++ rest) = some (as, as.foldl next s, rest) := by
  induction as generalizing s with
  | nil => rfl
  | cons a as ih =>
    obtain ⟨hok, hfollow⟩ := h
    rw [List.flatMap_cons, List.append_assoc, List.length_cons, readAll, hread s a _ hok]
    dsimp only
    rw [ih hfollow]
    rfl

end Streams

end Octets
