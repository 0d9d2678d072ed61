import Bwctl.Lib.Significand
import Bwctl.Policy.Parse

/-!
# Port ranges (`bwlib/util.c`, `bwlib/endpoint.c`)

A range is read from the configuration file, keeps a current position, and hands out one port
after another.  `BWLPortsRange` is the difference of the two ends, and `BWLPortsNext` counts
modulo that difference.

* `portsParse_ok` — a range that is accepted is ordered and its position lies in it.
* `portsNext_ok` — so does every later position.
* `portsCall_succ_lt` — no call but the first one returns the upper end of a proper range.
-/

set_option autoImplicit false

namespace Bwctl

open Significand

/-! ## The record -/

/-- `BWLPortRangeRec`. -/
structure PortRange where
  low : UInt16
  high : UInt16
  i : UInt16
  deriving DecidableEq, Repr

/-- `BWLPortsRange`, an `int`. -/
def PortRange.range (prange : PortRange) : Int := (prange.high.toNat : Int) - prange.low.toNat

/-- A range from `low` to `high` with its position in it. -/
structure PortRange.Ok (prange : PortRange) : Prop where
  low_le : prange.low.toNat ≤ prange.i.toNat
  le_high : prange.i.toNat ≤ prange.high.toNat

theorem PortRange.Ok.ordered {prange : PortRange} (h : prange.Ok) :
    prange.low.toNat ≤ prange.high.toNat := h.low_le.trans h.le_high

/-! ## The first position -/

/-- `(double)r / 0xffffffff` in units of `2 ^ -101`: the quotient rounded to 53 bits. -/
def drawnFraction (r : UInt32) : Nat :=
  roundSig 53 (stickyQuot (r.toNat * 2 ^ 100) 0xffffffff)

/-- `prange->low + ((double)r / 0xffffffff * range)`, truncated to an integer. -/
def drawnPort (low range : UInt16) (r : UInt32) : UInt16 :=
  let product := roundSig 53 (drawnFraction r * range.toNat)
  UInt16.ofNat (roundSig 53 (low.toNat * 2 ^ 101 + product) / 2 ^ 101)

/-- `BWLPortsSetI`; `random` is what `I2RandomBytes` delivers. -/
def portsSetI (random : Option UInt32) (prange : PortRange) (i : UInt16) : PortRange :=
  if i ≠ 0 ∧ i > prange.low ∧ i < prange.high then { prange with i := i }
  else
    let range := UInt16.ofInt prange.range
    match random with
    | some r =>
      if range ≠ 0 then { prange with i := drawnPort prange.low range r }
      else { prange with i := prange.low }
    | none => { prange with i := prange.low }

theorem drawnFraction_le (r : UInt32) : drawnFraction r ≤ 2 ^ 101 := by
  have hr : r.toNat * 2 ^ 100 ≤ 2 ^ 100 * 0xffffffff := by
    have := r.toNat_lt
    rw [Nat.mul_comm]
    exact Nat.mul_le_mul_left _ (by omega)
  have hone : roundSig 53 (1 * 2 ^ 101) = 1 * 2 ^ 101 := roundSig_mul_pow 101 (by norm_num)
  rw [Nat.one_mul] at hone
  rw [← hone]
  exact roundSig_mono (by norm_num) (stickyQuot_le (by norm_num) hr)

theorem drawnPort_toNat {low range : UInt16} (h : low.toNat + range.toNat < 2 ^ 16) (r : UInt32) :
    low.toNat ≤ (drawnPort low range r).toNat ∧
      (drawnPort low range r).toNat ≤ low.toNat + range.toNat := by
  have hexact {n : Nat} (hn : n < 2 ^ 53) : roundSig 53 (n * 2 ^ 101) = n * 2 ^ 101 :=
    roundSig_mul_pow 101 hn
  have hproduct : roundSig 53 (drawnFraction r * range.toNat) ≤ range.toNat * 2 ^ 101 := by
    rw [← hexact (by omega)]
    refine roundSig_mono (by norm_num) ?_
    rw [Nat.mul_comm]
    exact Nat.mul_le_mul_left _ (drawnFraction_le r)
  set product := roundSig 53 (drawnFraction r * range.toNat) with hp
  set sum := roundSig 53 (low.toNat * 2 ^ 101 + product) with hs
  have hlow : low.toNat * 2 ^ 101 ≤ sum := by
    rw [hs, ← hexact (show low.toNat < 2 ^ 53 by omega)]
    refine roundSig_mono (by norm_num) ?_
    rw [hexact (by omega)]
    exact Nat.le_add_right _ _
  have hhigh : sum ≤ (low.toNat + range.toNat) * 2 ^ 101 := by
    rw [hs, ← hexact (show low.toNat + range.toNat < 2 ^ 53 by omega), Nat.add_mul]
    exact roundSig_mono (by norm_num) (Nat.add_le_add_left hproduct _)
  have hq : low.toNat ≤ sum / 2 ^ 101 := (Nat.le_div_iff_mul_le (by norm_num)).2 hlow
  have hq' : sum / 2 ^ 101 ≤ low.toNat + range.toNat := Nat.div_le_of_le_mul (by omega)
  have hvalue : (drawnPort low range r).toNat = sum / 2 ^ 101 := by
    unfold drawnPort
    rw [UInt16.toNat_ofNat', ← hp, ← hs]
    exact Nat.mod_eq_of_lt (by omega)
  omega

theorem range_toNat {prange : PortRange} (h : prange.low.toNat ≤ prange.high.toNat) :
    (UInt16.ofInt prange.range).toNat = prange.high.toNat - prange.low.toNat := by
  have := prange.high.toNat_lt
  unfold PortRange.range UInt16.ofInt
  rw [UInt16.toNat_ofNat']
  omega

@[simp] theorem portsSetI_low (random : Option UInt32) (prange : PortRange) (i : UInt16) :
    (portsSetI random prange i).low = prange.low := by
  unfold portsSetI
  split
  · rfl
  · cases random with
    | none => rfl
    | some r => dsimp only; split <;> rfl

@[simp] theorem portsSetI_high (random : Option UInt32) (prange : PortRange) (i : UInt16) :
    (portsSetI random prange i).high = prange.high := by
  unfold portsSetI
  split
  · rfl
  · cases random with
    | none => rfl
    | some r => dsimp only; split <;> rfl

/-- **Every position that is set** lies in the range. -/
theorem portsSetI_ok (random : Option UInt32) {prange : PortRange} (i : UInt16)
    (h : prange.low.toNat ≤ prange.high.toNat) : (portsSetI random prange i).Ok := by
  have hrange := range_toNat h
  unfold portsSetI
  split
  · rename_i hi
    exact ⟨(UInt16.lt_iff_toNat_lt.1 hi.2.1).le, (UInt16.lt_iff_toNat_lt.1 hi.2.2).le⟩
  · cases random with
    | none => exact ⟨le_rfl, h⟩
    | some r =>
      dsimp only
      split
      · have := prange.high.toNat_lt
        have hfits : prange.low.toNat + (UInt16.ofInt prange.range).toNat < 2 ^ 16 := by omega
        have hdrawn := drawnPort_toNat hfits r
        exact ⟨hdrawn.1, by dsimp only; omega⟩
      · exact ⟨le_rfl, h⟩

/-! ## Reading a range -/

/-- `BWL_MAX_TOOLNAME`, which is `PATH_MAX`. -/
def BWL_MAX_TOOLNAME : Nat := 4096

/-- The sign `strtol` takes. -/
def takeSign : List Char → Bool × List Char
  | '-' :: s => (true, s)
  | '+' :: s => (false, s)
  | s => (false, s)

def digitsValue (digits : List Char) : Nat :=
  digits.foldl (fun n c => 10 * n + (c.toNat - '0'.toNat)) 0

/-- `strtol` in base ten on a 64-bit `long`: the number and the text behind it, nothing where no
number begins. -/
def strtol (s : List Char) : Option (Int × List Char) :=
  let (negative, s) := takeSign (s.dropWhile isspace)
  let digits := s.takeWhile Char.isDigit
  let n : Int := digitsValue digits
  if digits.isEmpty then none
  else some (if negative then max (-(2 ^ 63)) (-n) else min (2 ^ 63 - 1) n, s.dropWhile Char.isDigit)

/-- One end of a range: a port and the text behind it. -/
def portEnd (s : List Char) : Option (UInt16 × List Char) :=
  match strtol (s.dropWhile isspace) with
  | none => none
  | some (tint, endptr) =>
    if tint < 0 ∨ tint > 0xffff then none else some (UInt16.ofInt tint, endptr)

/-- `BWLPortsParse`. -/
def portsParse (random : Option UInt32) (pspec : Option (List Char)) : Option PortRange :=
  match pspec with
  | none => none
  | some pspec =>
    if pspec.length ≥ BWL_MAX_TOOLNAME then none
    else
      match portEnd pspec with
      | none => none
      | some (low, endptr) =>
        match endptr.dropWhile isspace with
        | [] => some (portsSetI random ⟨low, low, 0⟩ 0)
        | '-' :: tstr =>
          match portEnd tstr with
          | none => none
          | some (high, _) =>
            if high < low then none else some (portsSetI random ⟨low, high, 0⟩ 0)
        | _ => none

/-- **A range that is accepted** is ordered and its position lies in it. -/
theorem portsParse_ok {random : Option UInt32} {pspec : Option (List Char)} {prange : PortRange}
    (h : portsParse random pspec = some prange) : prange.Ok := by
  unfold portsParse at h
  split at h
  · cases h
  split at h
  · cases h
  split at h
  · cases h
  rename_i low endptr _
  split at h
  · cases h
    exact portsSetI_ok random 0 le_rfl
  · split at h
    · cases h
    rename_i high _ _
    split at h
    · cases h
    rename_i hle
    cases h
    exact portsSetI_ok random 0 (UInt16.le_iff_toNat_le.1 (UInt16.not_lt.1 hle))
  · cases h

/-! ## The next port -/

/-- `BWLPortsNext`: the port and the range behind the call. -/
def portsNext (prange : PortRange) : UInt16 × PortRange :=
  if prange.range = 0 then (prange.i, prange)
  else
    let offset := prange.i - prange.low
    let offset := UInt16.ofInt (((offset.toNat : Int) + 1).tmod prange.range)
    (prange.i, { prange with i := offset + prange.low })

@[simp] theorem portsNext_fst (prange : PortRange) : (portsNext prange).1 = prange.i := by
  unfold portsNext
  split <;> rfl

@[simp] theorem portsNext_low (prange : PortRange) : (portsNext prange).2.low = prange.low := by
  unfold portsNext
  split <;> rfl

@[simp] theorem portsNext_high (prange : PortRange) :
    (portsNext prange).2.high = prange.high := by
  unfold portsNext
  split <;> rfl

@[simp] theorem portsNext_range (prange : PortRange) :
    (portsNext prange).2.range = prange.range := by
  unfold PortRange.range
  rw [portsNext_low, portsNext_high]

/-- A single port has `BWLPortsRange` zero. -/
theorem range_eq_zero_iff (prange : PortRange) : prange.range = 0 ↔ prange.low = prange.high := by
  unfold PortRange.range
  rw [← UInt16.toNat_inj]
  omega

theorem portsNext_single {prange : PortRange} (h : prange.low = prange.high) :
    portsNext prange = (prange.i, prange) := if_pos ((range_eq_zero_iff prange).2 h)

/-- **The next position of a proper range**: one further, modulo the difference of the ends. -/
theorem portsNext_i {prange : PortRange} (h : prange.Ok)
    (hlt : prange.low.toNat < prange.high.toNat) :
    (portsNext prange).2.i.toNat = prange.low.toNat +
      (prange.i.toNat - prange.low.toNat + 1) % (prange.high.toNat - prange.low.toNat) := by
  obtain ⟨hlow, hhigh⟩ := h
  have hhigh' := prange.high.toNat_lt
  have hne : prange.range ≠ 0 := by
    unfold PortRange.range
    omega
  have hoffset : (prange.i - prange.low).toNat = prange.i.toNat - prange.low.toNat :=
    UInt16.toNat_sub_of_le _ _ (UInt16.le_iff_toNat_le.2 hlow)
  have hspan : prange.range = ((prange.high.toNat - prange.low.toNat : Nat) : Int) := by
    unfold PortRange.range
    omega
  have hmod : (prange.i.toNat - prange.low.toNat + 1) % (prange.high.toNat - prange.low.toNat) <
      prange.high.toNat - prange.low.toNat := Nat.mod_lt _ (by omega)
  unfold portsNext
  rw [if_neg hne]
  dsimp only
  rw [hoffset, hspan, ← Nat.cast_succ, ← Int.ofNat_tmod, UInt16.toNat_add, Nat.succ_eq_add_one]
  unfold UInt16.ofInt
  rw [UInt16.toNat_ofNat']
  omega

theorem portsNext_lt {prange : PortRange} (h : prange.Ok)
    (hlt : prange.low.toNat < prange.high.toNat) :
    (portsNext prange).2.i.toNat < prange.high.toNat := by
  have := Nat.mod_lt (prange.i.toNat - prange.low.toNat + 1)
    (show prange.high.toNat - prange.low.toNat > 0 by omega)
  rw [portsNext_i h hlt]
  omega

/-- **Every position** a call leaves lies in the range. -/
theorem portsNext_ok {prange : PortRange} (h : prange.Ok) : (portsNext prange).2.Ok := by
  obtain heq | hlt := h.ordered.eq_or_lt
  · rw [portsNext_single (UInt16.toNat_inj.1 heq)]
    exact h
  · have hi := portsNext_i h hlt
    have := portsNext_lt h hlt
    exact ⟨by rw [portsNext_low]; omega, by rw [portsNext_high]; omega⟩

/-! ## Successive calls -/

/-- The range behind `k` calls. -/
def portsAfter (prange : PortRange) : Nat → PortRange
  | 0 => prange
  | k + 1 => (portsNext (portsAfter prange k)).2

/-- What call number `k` returns. -/
def portsCall (prange : PortRange) (k : Nat) : UInt16 := (portsNext (portsAfter prange k)).1

theorem portsAfter_low (prange : PortRange) (k : Nat) :
    (portsAfter prange k).low = prange.low := by
  induction k with
  | zero => rfl
  | succ k ih => rw [portsAfter, portsNext_low, ih]

theorem portsAfter_high (prange : PortRange) (k : Nat) :
    (portsAfter prange k).high = prange.high := by
  induction k with
  | zero => rfl
  | succ k ih => rw [portsAfter, portsNext_high, ih]

theorem portsAfter_ok {prange : PortRange} (h : prange.Ok) (k : Nat) :
    (portsAfter prange k).Ok := by
  induction k with
  | zero => exact h
  | succ k ih => exact portsNext_ok ih

theorem portsCall_bounds {prange : PortRange} (h : prange.Ok) (k : Nat) :
    prange.low ≤ portsCall prange k ∧ portsCall prange k ≤ prange.high := by
  have hk := portsAfter_ok h k
  unfold portsCall
  rw [portsNext_fst, UInt16.le_iff_toNat_le, UInt16.le_iff_toNat_le]
  rw [← portsAfter_low prange k, ← portsAfter_high prange k]
  exact ⟨hk.low_le, hk.le_high⟩

/-- **The upper end of a proper range** is returned by no call but the first. -/
theorem portsCall_succ_lt {prange : PortRange} (h : prange.Ok)
    (hlt : prange.low.toNat < prange.high.toNat) (k : Nat) :
    portsCall prange (k + 1) < prange.high := by
  have hk := portsAfter_ok h k
  have := portsNext_lt hk (by rw [portsAfter_low, portsAfter_high]; exact hlt)
  unfold portsCall
  rw [portsNext_fst, UInt16.lt_iff_toNat_lt, ← portsAfter_high prange k]
  exact this

theorem portsAfter_single {prange : PortRange} (h : prange.low = prange.high) (k : Nat) :
    portsAfter prange k = prange := by
  induction k with
  | zero => rfl
  | succ k ih => rw [portsAfter, ih, portsNext_single h]

end Bwctl
