import Mathlib.Tactic

/-!
# 32.32 fixed-point times (`bwlib/arithm64.c`, `bwlib/time.c`)

`BWLNum64` is an unsigned 64-bit integer read as 32 bits of seconds since 1900 and 32 bits of
fraction; every operation wraps.  The broker keeps its schedule in whole seconds since 1970
(`time_t`), so the two conversions `num64ToTimestamp` / `timestampToNum64` and the epoch
shift between them decide where a reservation lies.

* `num64ToTimestamp_toNat` — the second of a time, the epoch shift taken modulo `2 ^ 64`.
* `num64ToTimestamp_of_le` — from 1970 on no shift wraps and the second is the exact quotient.
* `timestampToNum64_toNat` — the start of a second, the second taken modulo `2 ^ 32`.
-/

set_option autoImplicit false

namespace Bwctl

abbrev Num64 := UInt64

/-- `BWLJAN_1970`: seconds between the two epochs. -/
def BWLJAN_1970 : UInt32 := 0x83aa7e80

def BILLION : UInt64 := 1000000000

def num64Add (x y : Num64) : Num64 := x + y

def num64Sub (x y : Num64) : Num64 := x - y

def num64Cmp (x y : Num64) : Int := if x < y then -1 else if x > y then 1 else 0

def num64Min (x y : Num64) : Num64 := if x < y then x else y

def mask32 (x : UInt64) : UInt64 := x &&& 0xFFFFFFFF

/-- `BWLNum64Mult`. -/
def num64Mult (x y : Num64) : Num64 :=
  let xlo := mask32 x
  let xhi := mask32 (x >>> 32)
  let ylo := mask32 y
  let yhi := mask32 (y >>> 32)
  ((xlo * ylo) >>> 32) + (xhi * ylo) + (xlo * yhi) + ((xhi * yhi) <<< 32)

/-- `BWLULongToNum64`. -/
def uLongToNum64 (a : UInt32) : Num64 := a.toUInt64 <<< 32

/-- `BWLI2numTToNum64`. -/
def i2numTToNum64 (a : UInt64) : Num64 := a <<< 32

structure Timespec where
  tv_sec : Nat
  tv_nsec : Nat
  deriving DecidableEq, Repr

/-- The carry loop of `BWLNum64ToTimespec`; a 32-bit count of nanoseconds holds at most four
    whole seconds, so the loop body runs at most four times. -/
def carryNsec : Nat → Timespec → Timespec
  | 0, ts => ts
  | fuel + 1, ts =>
    if ts.tv_nsec ≥ 1000000000 then
      carryNsec fuel ⟨ts.tv_sec + 1, ts.tv_nsec - 1000000000⟩
    else ts

/-- `BWLNum64ToTimespec`. -/
def num64ToTimespec (frm : Num64) : Timespec :=
  carryNsec 4
    ⟨(mask32 (frm >>> 32)).toNat, (mask32 ((BILLION * mask32 frm) >>> 32)).toNat⟩

/-- `BWLNum64ToTimestamp`. -/
def num64ToTimestamp (tstamp : Num64) : Int :=
  ((num64ToTimespec (num64Sub tstamp (uLongToNum64 BWLJAN_1970))).tv_sec : Nat)

/-- `BWLTimestampToNum64`: the argument of `BWLULongToNum64` is truncated to 32 bits. -/
def timestampToNum64 (ts : Int) : Num64 :=
  uLongToNum64 (UInt32.ofNat ((ts + BWLJAN_1970.toNat) % 2 ^ 32).toNat)

/-! ## Reading the operations off as arithmetic -/

theorem num64Add_toNat (x y : Num64) : (num64Add x y).toNat = (x.toNat + y.toNat) % 2 ^ 64 :=
  UInt64.toNat_add x y

theorem num64Add_toNat_of_lt {x y : Num64} (h : x.toNat + y.toNat < 2 ^ 64) :
    (num64Add x y).toNat = x.toNat + y.toNat := by
  rw [num64Add_toNat, Nat.mod_eq_of_lt h]

theorem num64Sub_toNat (x y : Num64) :
    (num64Sub x y).toNat = (2 ^ 64 - y.toNat + x.toNat) % 2 ^ 64 :=
  UInt64.toNat_sub x y

theorem num64Sub_toNat_of_le {x y : Num64} (h : y.toNat ≤ x.toNat) :
    (num64Sub x y).toNat = x.toNat - y.toNat :=
  UInt64.toNat_sub_of_le x y h

theorem num64Cmp_pos {x y : Num64} : num64Cmp x y > 0 ↔ y.toNat < x.toNat := by
  simp only [num64Cmp, gt_iff_lt, UInt64.lt_iff_toNat_lt]
  split
  · rename_i h; constructor <;> intro h' <;> omega
  · split
    · rename_i h; simp [h]
    · rename_i h; constructor <;> intro h' <;> omega

theorem num64Cmp_neg {x y : Num64} : num64Cmp x y < 0 ↔ x.toNat < y.toNat := by
  simp only [num64Cmp, gt_iff_lt, UInt64.lt_iff_toNat_lt]
  split
  · rename_i h; simp [h]
  · split
    · rename_i h; constructor <;> intro h' <;> omega
    · rename_i h; constructor <;> intro h' <;> omega

theorem num64Min_toNat (x y : Num64) : (num64Min x y).toNat = min x.toNat y.toNat := by
  simp only [num64Min, UInt64.lt_iff_toNat_lt]
  split <;> omega

theorem uLongToNum64_toNat (a : UInt32) : (uLongToNum64 a).toNat = a.toNat * 2 ^ 32 := by
  have ha := a.toNat_lt
  unfold uLongToNum64
  rw [UInt64.toNat_shiftLeft, Nat.shiftLeft_eq]
  simp
  omega

theorem i2numTToNum64_toNat (a : UInt64) :
    (i2numTToNum64 a).toNat = a.toNat * 2 ^ 32 % 2 ^ 64 := by
  unfold i2numTToNum64
  rw [UInt64.toNat_shiftLeft, Nat.shiftLeft_eq]
  rfl

theorem mask32_toNat (x : UInt64) : (mask32 x).toNat = x.toNat % 2 ^ 32 := by
  unfold mask32
  rw [UInt64.toNat_and]
  exact Nat.and_two_pow_sub_one_eq_mod x.toNat 32

theorem shiftRight32_toNat (x : UInt64) : (x >>> 32).toNat = x.toNat / 2 ^ 32 := by
  rw [UInt64.toNat_shiftRight, Nat.shiftRight_eq_div_pow]
  rfl

/-- Doubling a round-trip time: the fraction bits of the factor are zero. -/
theorem num64Mult_two_toNat (x : Num64) :
    (num64Mult x (uLongToNum64 2)).toNat = 2 * x.toNat % 2 ^ 64 := by
  have hx := x.toNat_lt
  have hlo : mask32 (uLongToNum64 2) = 0 := by decide
  have hhi : mask32 (uLongToNum64 2 >>> 32) = 2 := by decide
  simp only [num64Mult, hlo, hhi, UInt64.toNat_add, UInt64.toNat_mul, UInt64.toNat_shiftLeft,
    mask32_toNat, shiftRight32_toNat, Nat.shiftLeft_eq, UInt64.reduceToNat, Nat.mul_zero,
    Nat.zero_mod, Nat.zero_div, Nat.reduceMod, Nat.reducePow]
  omega

theorem jan1970_toNat : BWLJAN_1970.toNat = 2208988800 := rfl

theorem carryNsec_of_lt (fuel : Nat) {ts : Timespec} (h : ts.tv_nsec < 1000000000) :
    carryNsec fuel ts = ts := by
  cases fuel with
  | zero => rfl
  | succ n => unfold carryNsec; rw [if_neg (by omega)]

/-- The fraction of a second is less than a billion nanoseconds, so nothing is carried. -/
theorem num64ToTimespec_tv_sec (x : Num64) :
    (num64ToTimespec x).tv_sec = x.toNat / 2 ^ 32 := by
  have hx := x.toNat_lt
  have hnsec : (mask32 ((BILLION * mask32 x) >>> 32)).toNat < 1000000000 := by
    have hm : (mask32 x).toNat < 2 ^ 32 := by rw [mask32_toNat]; omega
    have hb : BILLION.toNat = 1000000000 := rfl
    have hq : 1000000000 * (mask32 x).toNat / 2 ^ 32 < 1000000000 := by
      rw [Nat.div_lt_iff_lt_mul (by norm_num)]; omega
    rw [mask32_toNat, shiftRight32_toNat, UInt64.toNat_mul, hb,
      Nat.mod_eq_of_lt (show 1000000000 * (mask32 x).toNat < 2 ^ 64 by omega),
      Nat.mod_eq_of_lt (by omega)]
    exact hq
  unfold num64ToTimespec
  rw [carryNsec_of_lt 4 hnsec]
  show (mask32 (x >>> 32)).toNat = _
  rw [mask32_toNat, shiftRight32_toNat, Nat.mod_eq_of_lt (by omega)]

theorem epochShift_toNat : (uLongToNum64 BWLJAN_1970).toNat = 9487534653230284800 := by
  rw [uLongToNum64_toNat, jan1970_toNat]; norm_num

/-- The epoch shift wraps exactly for the times before 1970. -/
theorem num64ToTimestamp_toNat (x : Num64) :
    num64ToTimestamp x = (((8959209420479266816 + x.toNat) % 2 ^ 64 / 2 ^ 32 : Nat) : Int) := by
  rw [num64ToTimestamp, num64ToTimespec_tv_sec, num64Sub_toNat, epochShift_toNat]; norm_num

theorem num64ToTimestamp_of_le {x : Num64} (h : 2208988800 * 2 ^ 32 ≤ x.toNat) :
    num64ToTimestamp x = (x.toNat / 2 ^ 32 : Nat) - (2208988800 : Int) := by
  have hx := x.toNat_lt
  rw [num64ToTimestamp_toNat]
  omega

theorem timestampToNum64_toNat (ts : Int) :
    (timestampToNum64 ts).toNat = ((ts + 2208988800) % 2 ^ 32).toNat * 2 ^ 32 := by
  have hlt : ((ts + 2208988800) % 2 ^ 32).toNat < 2 ^ 32 := by omega
  unfold timestampToNum64
  rw [uLongToNum64_toNat, UInt32.toNat_ofNat', jan1970_toNat]
  rw [Nat.cast_ofNat, Nat.mod_eq_of_lt hlt]

theorem timestampToNum64_of_lt {ts : Int} (h0 : 0 ≤ ts) (h : ts + 2208988800 < 2 ^ 32) :
    (timestampToNum64 ts).toNat = (ts.toNat + 2208988800) * 2 ^ 32 := by
  rw [timestampToNum64_toNat]
  omega

end Bwctl
