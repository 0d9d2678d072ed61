import Bwctl.Lib.Radix
import Bwctl.Time

/-!
# Times in nanoseconds and microseconds (`bwlib/arithm64.c`)

A `timespec` and a `timeval` count the fraction of a second in decimal units, a `BWLNum64` in
units of `2 ^ -32` seconds.  All conversions truncate.

* `secondsToNum64_toNat` — the value of a normalised time.
* `secondsToNum64_lt` — the order of normalised times is kept.
* `num64ToTimespec_eq`, `num64ToTimeval_eq` — the way back.
-/

set_option autoImplicit false

namespace Bwctl

open Radix

/-! ## Conversions -/

def MILLION : UInt64 := 1000000

structure Timeval where
  tv_sec : Nat
  tv_usec : Nat
  deriving DecidableEq, Repr

/-- The loop that carries whole seconds out of a fraction; `units` make a second. -/
def carrySeconds (units : UInt32) : Nat → UInt32 → UInt32 → UInt32 × UInt32
  | 0, sec, frac => (sec, frac)
  | fuel + 1, sec, frac =>
    if units ≤ frac then carrySeconds units fuel (sec + 1) (frac - units) else (sec, frac)

/-- The body of `BWLTimespecToNum64` and `BWLTimevalToNum64`. -/
def secondsToNum64 (units sec frac : UInt32) : Num64 :=
  let (sec, frac) := carrySeconds units frac.toNat sec frac
  (mask32 sec.toUInt64 <<< 32) ||| mask32 ((frac.toUInt64 <<< 32) / units.toUInt64)

/-- `BWLTimespecToNum64`. -/
def timespecToNum64 (frm : Timespec) : Num64 :=
  secondsToNum64 1000000000 (UInt32.ofNat frm.tv_sec) (UInt32.ofNat frm.tv_nsec)

/-- `BWLTimevalToNum64`. -/
def timevalToNum64 (frm : Timeval) : Num64 :=
  secondsToNum64 1000000 (UInt32.ofNat frm.tv_sec) (UInt32.ofNat frm.tv_usec)

/-- The carry loop of `BWLNum64ToTimeval`; a 32-bit count of microseconds holds at most 4294 whole
seconds. -/
def carryUsec : Nat → Timeval → Timeval
  | 0, tv => tv
  | fuel + 1, tv =>
    if tv.tv_usec ≥ 1000000 then carryUsec fuel ⟨tv.tv_sec + 1, tv.tv_usec - 1000000⟩ else tv

/-- `BWLNum64ToTimeval`. -/
def num64ToTimeval (frm : Num64) : Timeval :=
  carryUsec 4294
    ⟨(mask32 (frm >>> 32)).toNat, (mask32 ((mask32 frm * MILLION) >>> 32)).toNat⟩

/-! ## To the binary fraction -/

/-- A second that fits 32 bits and a fraction below one second. -/
structure Timespec.Normal (t : Timespec) : Prop where
  sec_lt : t.tv_sec < 2 ^ 32
  nsec_lt : t.tv_nsec < 1000000000

@[inherit_doc Timespec.Normal]
structure Timeval.Normal (t : Timeval) : Prop where
  sec_lt : t.tv_sec < 2 ^ 32
  usec_lt : t.tv_usec < 1000000

theorem carrySeconds_of_lt {units frac : UInt32} (h : frac < units) (fuel : Nat) (sec : UInt32) :
    carrySeconds units fuel sec frac = (sec, frac) := by
  cases fuel with
  | zero => rfl
  | succ fuel => exact if_neg (UInt32.not_le.2 h)

/-- **The value of a normalised time.** -/
theorem secondsToNum64_toNat {units frac : UInt32} (sec : UInt32) (h : frac < units) :
    (secondsToNum64 units sec frac).toNat =
      sec.toNat * 2 ^ 32 + rescale units.toNat (2 ^ 32) frac.toNat := by
  have hlt := UInt32.lt_iff_toNat_lt.1 h
  have hsec := sec.toNat_lt
  have hfrac := frac.toNat_lt
  have hquot := rescale_lt (b := 2 ^ 32) (by norm_num) hlt
  have hlow : (mask32 ((frac.toUInt64 <<< 32) / units.toUInt64)).toNat =
      rescale units.toNat (2 ^ 32) frac.toNat := by
    have hshift : (frac.toUInt64 <<< 32).toNat = frac.toNat * 2 ^ 32 := by
      rw [UInt64.toNat_shiftLeft, Nat.shiftLeft_eq]
      simp
      omega
    rw [mask32_toNat, UInt64.toNat_div, hshift, UInt32.toNat_toUInt64]
    exact Nat.mod_eq_of_lt hquot
  have hhigh : (mask32 sec.toUInt64 <<< 32).toNat = sec.toNat * 2 ^ 32 := by
    rw [UInt64.toNat_shiftLeft, Nat.shiftLeft_eq, mask32_toNat]
    simp
    omega
  unfold secondsToNum64
  rw [carrySeconds_of_lt h]
  dsimp only
  rw [UInt64.toNat_or, hlow, hhigh, ← Nat.shiftLeft_eq, ← Nat.shiftLeft_add_eq_or_of_lt hquot]

/-- **The order of normalised times** is kept. -/
theorem secondsToNum64_lt {units sec sec' frac frac' : UInt32} (h : frac < units)
    (h' : frac' < units) (hlt : sec < sec' ∨ sec = sec' ∧ frac < frac') :
    secondsToNum64 units sec frac < secondsToNum64 units sec' frac' := by
  have hunits : 0 < units.toNat := by
    have := UInt32.lt_iff_toNat_lt.1 h
    omega
  have hfrac := rescale_lt (b := 2 ^ 32) (by norm_num) (UInt32.lt_iff_toNat_lt.1 h)
  rw [UInt64.lt_iff_toNat_lt, secondsToNum64_toNat sec h, secondsToNum64_toNat sec' h']
  obtain hsec | ⟨rfl, hfrac'⟩ := hlt
  · have := UInt32.lt_iff_toNat_lt.1 hsec
    omega
  · have := rescale_strictMono hunits (show units.toNat ≤ 2 ^ 32 from units.toNat_lt.le)
      (UInt32.lt_iff_toNat_lt.1 hfrac')
    omega

/-- The order of times. -/
def Timespec.Before (s t : Timespec) : Prop :=
  s.tv_sec < t.tv_sec ∨ s.tv_sec = t.tv_sec ∧ s.tv_nsec < t.tv_nsec

@[inherit_doc Timespec.Before]
def Timeval.Before (s t : Timeval) : Prop :=
  s.tv_sec < t.tv_sec ∨ s.tv_sec = t.tv_sec ∧ s.tv_usec < t.tv_usec

theorem ofNat_lt {n m : Nat} (hm : m < 2 ^ 32) (h : n < m) : UInt32.ofNat n < UInt32.ofNat m := by
  rw [UInt32.lt_iff_toNat_lt, UInt32.toNat_ofNat', UInt32.toNat_ofNat',
    Nat.mod_eq_of_lt (h.trans hm), Nat.mod_eq_of_lt hm]
  exact h

theorem timespecToNum64_lt {s t : Timespec} (hs : s.Normal) (ht : t.Normal) (h : s.Before t) :
    timespecToNum64 s < timespecToNum64 t := by
  refine secondsToNum64_lt (ofNat_lt (by norm_num) hs.nsec_lt)
    (ofNat_lt (by norm_num) ht.nsec_lt) ?_
  obtain hsec | ⟨hsec, hnsec⟩ := h
  · exact .inl (ofNat_lt ht.sec_lt hsec)
  · exact .inr ⟨by rw [hsec], ofNat_lt (ht.nsec_lt.trans (by norm_num)) hnsec⟩

theorem timevalToNum64_lt {s t : Timeval} (hs : s.Normal) (ht : t.Normal) (h : s.Before t) :
    timevalToNum64 s < timevalToNum64 t := by
  refine secondsToNum64_lt (ofNat_lt (by norm_num) hs.usec_lt)
    (ofNat_lt (by norm_num) ht.usec_lt) ?_
  obtain hsec | ⟨hsec, husec⟩ := h
  · exact .inl (ofNat_lt ht.sec_lt hsec)
  · exact .inr ⟨by rw [hsec], ofNat_lt (ht.usec_lt.trans (by norm_num)) husec⟩

theorem timespecToNum64_toNat {t : Timespec} (h : t.Normal) :
    (timespecToNum64 t).toNat = t.tv_sec * 2 ^ 32 + rescale 1000000000 (2 ^ 32) t.tv_nsec := by
  have hnsec : t.tv_nsec < 2 ^ 32 := h.nsec_lt.trans (by norm_num)
  have hlt : UInt32.ofNat t.tv_nsec < 1000000000 := ofNat_lt (by norm_num) h.nsec_lt
  unfold timespecToNum64
  rw [secondsToNum64_toNat _ hlt, UInt32.toNat_ofNat',
    UInt32.toNat_ofNat', Nat.mod_eq_of_lt h.sec_lt, Nat.mod_eq_of_lt hnsec]
  rfl

theorem timevalToNum64_toNat {t : Timeval} (h : t.Normal) :
    (timevalToNum64 t).toNat = t.tv_sec * 2 ^ 32 + rescale 1000000 (2 ^ 32) t.tv_usec := by
  have husec : t.tv_usec < 2 ^ 32 := h.usec_lt.trans (by norm_num)
  have hlt : UInt32.ofNat t.tv_usec < 1000000 := ofNat_lt (by norm_num) h.usec_lt
  unfold timevalToNum64
  rw [secondsToNum64_toNat _ hlt, UInt32.toNat_ofNat',
    UInt32.toNat_ofNat', Nat.mod_eq_of_lt h.sec_lt, Nat.mod_eq_of_lt husec]
  rfl

/-! ## And back -/

/-- The fraction of a `BWLNum64` in decimal units, of which a second has fewer than `2 ^ 32`. -/
theorem decimalFraction_toNat {units : UInt64} (h0 : 0 < units.toNat)
    (h : units.toNat ≤ 2 ^ 32) (x : Num64) :
    (mask32 ((units * mask32 x) >>> 32)).toNat =
      rescale (2 ^ 32) units.toNat (x.toNat % 2 ^ 32) := by
  have hx := Nat.mod_lt x.toNat (show 2 ^ 32 > 0 by norm_num)
  have hproduct : x.toNat % 2 ^ 32 * units.toNat < 2 ^ 64 :=
    calc x.toNat % 2 ^ 32 * units.toNat < 2 ^ 32 * units.toNat := Nat.mul_lt_mul_of_pos_right hx h0
      _ ≤ 2 ^ 32 * 2 ^ 32 := Nat.mul_le_mul_left _ h
  have hquot := rescale_lt h0 hx
  rw [mask32_toNat, shiftRight32_toNat, UInt64.toNat_mul, mask32_toNat, Nat.mul_comm,
    Nat.mod_eq_of_lt hproduct]
  exact Nat.mod_eq_of_lt (hquot.trans_le h)

theorem num64ToTimespec_eq (x : Num64) :
    num64ToTimespec x =
      ⟨x.toNat / 2 ^ 32, rescale (2 ^ 32) 1000000000 (x.toNat % 2 ^ 32)⟩ := by
  have hx := x.toNat_lt
  have hfrac : (mask32 ((BILLION * mask32 x) >>> 32)).toNat =
      rescale (2 ^ 32) 1000000000 (x.toNat % 2 ^ 32) :=
    decimalFraction_toNat (by decide) (by decide) x
  have hsec : (mask32 (x >>> 32)).toNat = x.toNat / 2 ^ 32 := by
    rw [mask32_toNat, shiftRight32_toNat, Nat.mod_eq_of_lt (by omega)]
  have hlt : rescale (2 ^ 32) 1000000000 (x.toNat % 2 ^ 32) < 1000000000 :=
    rescale_lt (by norm_num) (Nat.mod_lt _ (by norm_num))
  unfold num64ToTimespec
  rw [hsec, hfrac]
  exact carryNsec_of_lt 4 hlt

theorem num64ToTimeval_eq (x : Num64) :
    num64ToTimeval x = ⟨x.toNat / 2 ^ 32, rescale (2 ^ 32) 1000000 (x.toNat % 2 ^ 32)⟩ := by
  have hx := x.toNat_lt
  have hfrac : (mask32 ((mask32 x * MILLION) >>> 32)).toNat =
      rescale (2 ^ 32) 1000000 (x.toNat % 2 ^ 32) := by
    rw [UInt64.mul_comm]
    exact decimalFraction_toNat (by decide) (by decide) x
  have hsec : (mask32 (x >>> 32)).toNat = x.toNat / 2 ^ 32 := by
    rw [mask32_toNat, shiftRight32_toNat, Nat.mod_eq_of_lt (by omega)]
  have hlt : rescale (2 ^ 32) 1000000 (x.toNat % 2 ^ 32) < 1000000 :=
    rescale_lt (by norm_num) (Nat.mod_lt _ (by norm_num))
  unfold num64ToTimeval
  rw [hsec, hfrac, carryUsec, if_neg (by dsimp only; omega)]

end Bwctl
