import Bwctl.Protocol.Connection
import Bwctl.TimeConversions

/-!
# Time stamps with an error estimate (`bwlib/time.c`)

A time stamp is a time since 1900 with an estimate of its error: a multiplier of eight bits and a
scale, which counts the places the multiplier is shifted.

* `setTimeStampError`, `timespecToTimeStamp` — the estimate is rounded up to eight bits.
* `shiftError_spec` — the shifts, and that none was taken too many.
* `error_estimate_survives` — the estimate comes through the wire and is not understated.
* `time_conversions_faithful` — what the conversions of times keep.
-/

set_option autoImplicit false

namespace Bwctl

open Octets Radix

/-! ## Setting the error -/

/-- The loop of `BWLSetTimeStampError`; an error of 64 bits is shifted at most 57 times. -/
def shiftError : Nat → UInt64 → UInt8 → UInt64 × UInt8
  | 0, err, scale => (err, scale)
  | fuel + 1, err, scale =>
    if 0xFF ≤ err then shiftError fuel (err >>> 1) (scale + 1) else (err, scale)

/-- `BWLSetTimeStampError`. -/
def setTimeStampError (t : BWLTimeStamp) (val : Num64) : BWLTimeStamp :=
  let (err, scale) := shiftError 64 val 0
  { t with scale := scale, multiplier := (0xFF &&& (err + 1)).toUInt8 }

/-- `BWLUsecToNum64`. -/
def usecToNum64 (usec : UInt32) : Num64 := (usec.toUInt64 <<< 32) / MILLION

/-- `BWLTimespecToTimeStamp` for a record and a time that are there. -/
def timespecToTimeStamp (tstamp : BWLTimeStamp) (tval : Timespec)
    (errest lastErrest : Option UInt32) : BWLTimeStamp :=
  let tstamp := { tstamp with tstamp := num64Add (timespecToNum64 tval) (uLongToNum64 BWLJAN_1970) }
  match errest with
  | some errest =>
    if errest ≠ 0 then
      if lastErrest = some errest then tstamp
      else setTimeStampError tstamp (usecToNum64 errest)
    else { tstamp with sync := false, scale := 0, multiplier := 0 }
  | none => { tstamp with sync := false, scale := 0, multiplier := 0 }

/-- `BWLTimeStampToTimespec`. -/
def timeStampToTimespec (tstamp : BWLTimeStamp) : Timespec :=
  num64ToTimespec (num64Sub tstamp.tstamp (uLongToNum64 BWLJAN_1970))

/-- `BWLTimevalToTimeStamp`. -/
def timevalToTimeStamp (tstamp : BWLTimeStamp) (tval : Timeval) : BWLTimeStamp :=
  { tstamp with tstamp := num64Add (timevalToNum64 tval) (uLongToNum64 BWLJAN_1970) }

/-- `BWLTimeStampToTimeval`. -/
def timeStampToTimeval (tstamp : BWLTimeStamp) : Timeval :=
  num64ToTimeval (num64Sub tstamp.tstamp (uLongToNum64 BWLJAN_1970))

/-! ## The estimate -/

/-- The error an estimate states, in units of `2 ^ -32` seconds. -/
def BWLTimeStamp.error (t : BWLTimeStamp) : Nat := t.multiplier.toNat * 2 ^ (t.scale.toNat % 64)

/-- The bits shifted out of the error are lost. -/
theorem timeStampError_toNat (t : BWLTimeStamp) : (timeStampError t).toNat = t.error % 2 ^ 64 := by
  have hscale : (t.scale &&& 0x3f).toNat = t.scale.toNat % 64 := by
    rw [UInt8.toNat_and]
    exact Nat.and_two_pow_sub_one_eq_mod t.scale.toNat 6
  unfold timeStampError BWLTimeStamp.error
  rw [UInt64.toNat_shiftLeft, Nat.shiftLeft_eq, UInt8.toNat_toUInt64, UInt8.toNat_toUInt64, hscale,
    Nat.mod_mod]

theorem halved_toNat (err : UInt64) : (err >>> 1).toNat = err.toNat / 2 := by
  rw [UInt64.toNat_shiftRight, Nat.shiftRight_eq_div_pow]
  rfl

/-- **The shifts of an error**: as many as bring it under 255, and the last one had a reason. -/
theorem shiftError_spec (fuel : Nat) : ∀ (err : UInt64) (scale : UInt8),
    err.toNat < 255 * 2 ^ fuel →
    ∃ k ≤ fuel, (shiftError fuel err scale).2 = scale + UInt8.ofNat k ∧
      (shiftError fuel err scale).1.toNat = err.toNat / 2 ^ k ∧ err.toNat / 2 ^ k < 255 ∧
      (k ≠ 0 → 255 * 2 ^ k ≤ 2 * err.toNat) := by
  induction fuel with
  | zero =>
    intro err scale h
    exact ⟨0, le_rfl, by simp [shiftError], by simp [shiftError], by simpa using h, by simp⟩
  | succ fuel ih =>
    intro err scale h
    unfold shiftError
    split
    · rename_i hbig
      have hbig : 255 ≤ err.toNat := UInt64.le_iff_toNat_le.1 hbig
      have hhalf := halved_toNat err
      obtain ⟨k, hk, hscale, herr, hlt, hreason⟩ :=
        ih (err >>> 1) (scale + 1) (by rw [Nat.pow_succ] at h; omega)
      rw [hhalf, Nat.div_div_eq_div_mul, ← Nat.pow_succ'] at herr hlt
      refine ⟨k + 1, by omega, ?_, herr, hlt, fun _ => ?_⟩
      · rw [hscale, UInt8.ofNat_add, UInt8.add_assoc, UInt8.add_comm 1]
        rfl
      · rw [Nat.pow_succ]
        by_cases hk0 : k = 0
        · subst hk0
          omega
        · have := hreason hk0
          omega
    · rename_i hsmall
      have hsmall : err.toNat < 255 := UInt64.lt_iff_toNat_lt.1 (UInt64.not_le.1 hsmall)
      exact ⟨0, by omega, by simp, by simp, by simpa using hsmall, by simp⟩

/-- **The estimate of an error**: it exceeds the error, and by no more than the last place. -/
theorem setTimeStampError_spec (t : BWLTimeStamp) (val : Num64) :
    let r := setTimeStampError t val
    r.multiplier ≠ 0 ∧ r.scale.toNat ≤ 57 ∧ val.toNat + 1 ≤ r.error ∧
      255 * r.error ≤ 257 * val.toNat + 255 := by
  have hval := val.toNat_lt
  obtain ⟨k, -, hscale, herr, hlt, hreason⟩ := shiftError_spec 64 val 0 (by omega)
  have hk : k ≤ 57 := by
    by_contra hk
    have := Nat.pow_le_pow_right (show 2 > 0 by norm_num) (show 58 ≤ k by omega)
    have := hreason (by omega)
    omega
  have hs : (setTimeStampError t val).scale.toNat = k := by
    show (shiftError 64 val 0).2.toNat = k
    rw [hscale, UInt8.zero_add, UInt8.toNat_ofNat', Nat.mod_eq_of_lt (by omega)]
  have hm : (setTimeStampError t val).multiplier.toNat = val.toNat / 2 ^ k + 1 := by
    have hsum : ((shiftError 64 val 0).1 + 1).toNat = val.toNat / 2 ^ k + 1 := by
      rw [UInt64.toNat_add, herr]
      exact Nat.mod_eq_of_lt (by show val.toNat / 2 ^ k + 1 < 2 ^ 64; omega)
    show (0xFF &&& ((shiftError 64 val 0).1 + 1)).toUInt8.toNat = _
    rw [UInt64.toNat_toUInt8, UInt64.toNat_and, hsum, Nat.and_comm]
    show ((val.toNat / 2 ^ k + 1) &&& (2 ^ 8 - 1)) % 2 ^ 8 = _
    rw [Nat.and_two_pow_sub_one_eq_mod]
    omega
  have hpos := Nat.two_pow_pos k
  have hdiv := Nat.div_add_mod val.toNat (2 ^ k)
  have hmod := Nat.mod_lt val.toNat hpos
  have herror : (setTimeStampError t val).error = 2 ^ k * (val.toNat / 2 ^ k) + 2 ^ k := by
    unfold BWLTimeStamp.error
    rw [hm, hs, Nat.mod_eq_of_lt (by omega), Nat.succ_mul, Nat.mul_comm]
  refine ⟨fun h0 => ?_, by omega, by omega, ?_⟩
  · rw [h0] at hm
    exact absurd hm (by simp)
  · rw [herror]
    by_cases hk0 : k = 0
    · subst hk0
      omega
    · have := hreason hk0
      omega

/-! ## On the wire -/

theorem errest_bits (b : UInt8) :
    ((b &&& 0x3f ||| 0x80) &&& 0x80 ≠ 0 ∧ (b &&& 0x3f ||| 0x80) &&& 0x3f = b &&& 0x3f) ∧
      (b &&& 0x3f) &&& 0x80 = 0 ∧ (b &&& 0x3f) &&& 0x3f = b &&& 0x3f := by
  obtain ⟨b⟩ := b
  revert b
  decide +kernel

/-- The error estimate comes back, with the scale cut to six bits. -/
theorem decodeErrEstimate_encode {buf : Msg} {off : Nat} {t : BWLTimeStamp} {errest : List UInt8}
    (h : encodeErrEstimate t = some errest) (hload : load buf off 2 = errest) :
    decodeErrEstimate buf off t.tstamp = some { t with scale := t.scale &&& 0x3f } := by
  have htwo : load buf off 2 = [byte buf off, byte buf (off + 1)] := rfl
  rw [htwo] at hload
  unfold encodeErrEstimate at h
  split at h
  · cases h
  rename_i hmult
  cases h
  obtain ⟨hfirst, hsecond⟩ := List.cons_eq_cons.1 hload
  obtain ⟨hsecond, -⟩ := List.cons_eq_cons.1 hsecond
  obtain ⟨⟨hsync, hscale⟩, hsync', hscale'⟩ := errest_bits t.scale
  unfold decodeErrEstimate
  rw [hsecond, hfirst, if_neg hmult]
  cases hs : t.sync
  · simp [hsync', hscale']
  · simp [hsync, hscale]

/-- Six bits hold a scale up to 63. -/
theorem scale_mask {b : UInt8} (h : b.toNat ≤ 63) : b &&& 0x3f = b := by
  rw [← UInt8.toNat_inj, UInt8.toNat_and]
  show b.toNat &&& (2 ^ 6 - 1) = b.toNat
  rw [Nat.and_two_pow_sub_one_eq_mod]
  exact Nat.mod_eq_of_lt (by omega)

theorem usecToNum64_toNat (usec : UInt32) :
    (usecToNum64 usec).toNat = rescale 1000000 (2 ^ 32) usec.toNat := by
  have hlt := usec.toNat_lt
  have hshift : (usec.toUInt64 <<< 32).toNat = usec.toNat * 2 ^ 32 := by
    rw [UInt64.toNat_shiftLeft, Nat.shiftLeft_eq]
    simp
    omega
  unfold usecToNum64 rescale
  rw [UInt64.toNat_div, hshift]
  rfl

/-- The estimate of a time stamp was set for an error of so many microseconds. -/
def EstimateOf (t : BWLTimeStamp) (errest : UInt32) : Prop :=
  ∃ t₀, t.multiplier = (setTimeStampError t₀ (usecToNum64 errest)).multiplier ∧
    t.scale = (setTimeStampError t₀ (usecToNum64 errest)).scale

/-- **The estimate of a converted time** is the one of its error, set by this call or by the earlier
one that the caller says was for the same error. -/
theorem timespecToTimeStamp_estimate {tstamp : BWLTimeStamp} (tval : Timespec) {errest : UInt32}
    {lastErrest : Option UInt32} (hne : errest ≠ 0)
    (hlast : lastErrest = some errest → EstimateOf tstamp errest) :
    EstimateOf (timespecToTimeStamp tstamp tval (some errest) lastErrest) errest := by
  unfold timespecToTimeStamp
  dsimp only
  rw [if_pos hne]
  split
  · rename_i hsame
    obtain ⟨t₀, hmult, hscale⟩ := hlast hsame
    exact ⟨t₀, hmult, hscale⟩
  · exact ⟨_, rfl, rfl⟩

/-- An error in microseconds, in units of `2 ^ -32` seconds. -/
def trueError (errest : UInt32) : ℚ := errest.toNat * 2 ^ 32 / 10 ^ 6

/-- **An estimate bounds the error it was set for**, and is not much larger. -/
theorem EstimateOf.bounds {t : BWLTimeStamp} {errest : UInt32} (h : EstimateOf t errest) :
    t.multiplier ≠ 0 ∧ t.scale.toNat ≤ 57 ∧ trueError errest ≤ (timeStampError t).toNat ∧
      (timeStampError t).toNat ≤ (1 + 2 / 255) * trueError errest + 1 := by
  obtain ⟨t₀, hsame, hsame'⟩ := h
  obtain ⟨hmult, hscale, hlow, hhigh⟩ := setTimeStampError_spec t₀ (usecToNum64 errest)
  have herror : t.error = (setTimeStampError t₀ (usecToNum64 errest)).error := by
    unfold BWLTimeStamp.error
    rw [← hsame, ← hsame']
  obtain ⟨hfloor, hceil⟩ := rescale_bounds (a := 1000000) (b := 2 ^ 32) (by norm_num) errest.toNat
  rw [← usecToNum64_toNat] at hfloor hceil
  rw [← hsame] at hmult
  rw [← hsame'] at hscale
  rw [← herror] at hlow hhigh
  have hvalue : (timeStampError t).toNat = t.error := by
    have := errest.toNat_lt
    rw [timeStampError_toNat]
    exact Nat.mod_eq_of_lt (by omega)
  refine ⟨hmult, hscale, ?_, ?_⟩
  · -- the rounding to eight bits goes up, past what the conversion cut off
    have : errest.toNat * 2 ^ 32 ≤ t.error * 1000000 :=
      hceil.le.trans (Nat.mul_le_mul_right _ hlow)
    have : (errest.toNat * 2 ^ 32 : ℚ) ≤ t.error * 10 ^ 6 := by exact_mod_cast this
    rw [hvalue]
    unfold trueError
    rwa [div_le_iff₀ (by norm_num)]
  · have : ((usecToNum64 errest).toNat : ℚ) * 10 ^ 6 ≤ errest.toNat * 2 ^ 32 := by
      exact_mod_cast hfloor
    have hval : ((usecToNum64 errest).toNat : ℚ) ≤ trueError errest := by
      unfold trueError
      rwa [le_div_iff₀ (by norm_num)]
    have : (255 : ℚ) * t.error ≤ 257 * (usecToNum64 errest).toNat + 255 := by exact_mod_cast hhigh
    rw [hvalue]
    linarith

/-- **Error estimates survive the wire and are not understated.**  Whatever the record held, a time
converted with a non-zero error can be encoded, is decoded as it was, and its error is at least the
true one and at most `1 + 2 / 255` of it and one unit. -/
theorem error_estimate_survives (tstamp : BWLTimeStamp) (tval : Timespec) (errest : UInt32)
    (lastErrest : Option UInt32) (hne : errest ≠ 0)
    (hlast : lastErrest = some errest → EstimateOf tstamp errest) (msg : Msg) (off off' : Nat)
    (hoff : off + 8 ≤ 128) (hoff' : off' + 2 ≤ 128) (hapart : off + 8 ≤ off' ∨ off' + 2 ≤ off) :
    let t := timespecToTimeStamp tstamp tval (some errest) lastErrest
    (t.multiplier ≠ 0 ∧ t.scale.toNat ≤ 63) ∧
      (∃ octets, encodeErrEstimate t = some octets ∧
        let buf := store (store msg off (encodeTimeStamp t.tstamp)) off' octets
        decodeErrEstimate buf off' (decodeTimeStamp buf off) = some t) ∧
      trueError errest ≤ (timeStampError t).toNat ∧
      (timeStampError t).toNat ≤ (1 + 2 / 255) * trueError errest + 1 := by
  have hestimate := timespecToTimeStamp_estimate tval hne hlast
  obtain ⟨hmult, hscale, hlow, hhigh⟩ := hestimate.bounds
  generalize timespecToTimeStamp tstamp tval (some errest) lastErrest = t at *
  obtain ⟨octets, henc⟩ : ∃ octets, encodeErrEstimate t = some octets := ⟨_, if_neg hmult⟩
  have hlength : octets.length = 2 := by
    unfold encodeErrEstimate at henc
    rw [if_neg hmult] at henc
    cases henc
    rfl
  refine ⟨⟨hmult, by omega⟩, ⟨octets, henc, ?_⟩, hlow, hhigh⟩
  dsimp only
  have htime : decodeTimeStamp (store (store msg off (encodeTimeStamp t.tstamp)) off' octets) off =
      t.tstamp := by
    unfold decodeTimeStamp encodeTimeStamp
    rw [load64_store_of_disjoint (by omega), load64_store hoff]
  have hload : load (store (store msg off (encodeTimeStamp t.tstamp)) off' octets) off' 2 =
      octets := by
    rw [← hlength]
    exact load_store (by omega)
  rw [htime, decodeErrEstimate_encode henc hload, scale_mask (by omega)]

/-- An error of 1000 microseconds, in a TestRequest. -/
theorem error_estimate_survives_millisecond :
    let t := timespecToTimeStamp ⟨0, true, 0, 0⟩ ⟨1500000000, 250000000⟩ (some 1000) none
    (t.multiplier ≠ 0 ∧ t.scale.toNat ≤ 63) ∧
      (∃ octets, encodeErrEstimate t = some octets ∧
        let buf := store (store (Vector.replicate 128 0) 8 (encodeTimeStamp t.tstamp)) 24 octets
        decodeErrEstimate buf 24 (decodeTimeStamp buf 8) = some t) ∧
      trueError 1000 ≤ (timeStampError t).toNat ∧
      (timeStampError t).toNat ≤ (1 + 2 / 255) * trueError 1000 + 1 :=
  error_estimate_survives _ _ 1000 none (by decide) (by simp) _ 8 24 (by norm_num) (by norm_num)
    (by norm_num)

/-! ## Conversions of times -/

theorem epochShift_cancels (x : Num64) :
    num64Sub (num64Add x (uLongToNum64 BWLJAN_1970)) (uLongToNum64 BWLJAN_1970) = x := by
  unfold num64Sub num64Add
  rw [UInt64.add_sub_cancel]

/-- A time comes back from the binary fraction: the second, and the fraction but for one unit. -/
theorem timespec_round_trip {t : Timespec} (h : t.Normal) (tstamp : BWLTimeStamp)
    (errest lastErrest : Option UInt32) :
    let r := timeStampToTimespec (timespecToTimeStamp tstamp t errest lastErrest)
    r.tv_sec = t.tv_sec ∧ r.tv_nsec ≤ t.tv_nsec ∧ t.tv_nsec ≤ r.tv_nsec + 1 := by
  have htime : (timespecToTimeStamp tstamp t errest lastErrest).tstamp =
      num64Add (timespecToNum64 t) (uLongToNum64 BWLJAN_1970) := by
    unfold timespecToTimeStamp
    cases errest with
    | none => rfl
    | some errest =>
      dsimp only
      split
      · split <;> rfl
      · rfl
  have hvalue := timespecToNum64_toNat h
  have hlt := rescale_lt (b := 2 ^ 32) (by norm_num) h.nsec_lt
  have hsec : (timespecToNum64 t).toNat / 2 ^ 32 = t.tv_sec := by omega
  have hfrac : (timespecToNum64 t).toNat % 2 ^ 32 = rescale 1000000000 (2 ^ 32) t.tv_nsec := by omega
  dsimp only
  unfold timeStampToTimespec
  rw [htime, epochShift_cancels, num64ToTimespec_eq, hsec, hfrac]
  exact ⟨rfl, rescale_rescale_le (by norm_num) _,
    le_rescale_rescale (by norm_num) (by norm_num) _⟩

@[inherit_doc timespec_round_trip]
theorem timeval_round_trip {t : Timeval} (h : t.Normal) (tstamp : BWLTimeStamp) :
    let r := timeStampToTimeval (timevalToTimeStamp tstamp t)
    r.tv_sec = t.tv_sec ∧ r.tv_usec ≤ t.tv_usec ∧ t.tv_usec ≤ r.tv_usec + 1 := by
  have hvalue := timevalToNum64_toNat h
  have hlt := rescale_lt (b := 2 ^ 32) (by norm_num) h.usec_lt
  have hsec : (timevalToNum64 t).toNat / 2 ^ 32 = t.tv_sec := by omega
  have hfrac : (timevalToNum64 t).toNat % 2 ^ 32 = rescale 1000000 (2 ^ 32) t.tv_usec := by omega
  dsimp only
  unfold timeStampToTimeval timevalToTimeStamp
  rw [epochShift_cancels, num64ToTimeval_eq, hsec, hfrac]
  exact ⟨rfl, rescale_rescale_le (by norm_num) _,
    le_rescale_rescale (by norm_num) (by norm_num) _⟩

/-- Whole seconds come back exactly: the shift of the epoch wraps twice. -/
theorem timestamp_round_trip {ts : Nat} (h : ts < 2 ^ 32) :
    num64ToTimestamp (timestampToNum64 ts) = ts := by
  rw [num64ToTimestamp_toNat, timestampToNum64_toNat]
  omega

/-- **Time conversions are faithful**: the order of normalised times is kept, a time comes back
from a time stamp without its last nanosecond or microsecond at the worst, and a whole second comes
back exactly. -/
theorem time_conversions_faithful :
    (∀ s t : Timespec, s.Normal → t.Normal → s.Before t → timespecToNum64 s < timespecToNum64 t) ∧
    (∀ s t : Timeval, s.Normal → t.Normal → s.Before t → timevalToNum64 s < timevalToNum64 t) ∧
    (∀ t : Timespec, t.Normal → ∀ tstamp errest lastErrest,
      let r := timeStampToTimespec (timespecToTimeStamp tstamp t errest lastErrest)
      r.tv_sec = t.tv_sec ∧ r.tv_nsec ≤ t.tv_nsec ∧ t.tv_nsec ≤ r.tv_nsec + 1) ∧
    (∀ t : Timeval, t.Normal → ∀ tstamp,
      let r := timeStampToTimeval (timevalToTimeStamp tstamp t)
      r.tv_sec = t.tv_sec ∧ r.tv_usec ≤ t.tv_usec ∧ t.tv_usec ≤ r.tv_usec + 1) ∧
    ∀ ts : Nat, ts < 2 ^ 32 → num64ToTimestamp (timestampToNum64 ts) = ts :=
  ⟨fun _ _ => timespecToNum64_lt, fun _ _ => timevalToNum64_lt, fun _ => timespec_round_trip,
    fun _ => timeval_round_trip, fun _ => timestamp_round_trip⟩

theorem time_conversions_faithful_end_of_era :
    let r := timeStampToTimespec
      (timespecToTimeStamp ⟨0, false, 0, 0⟩ ⟨2 ^ 32 - 1, 999999999⟩ none none)
    r.tv_sec = 2 ^ 32 - 1 ∧ r.tv_nsec ≤ 999999999 ∧ 999999999 ≤ r.tv_nsec + 1 :=
  time_conversions_faithful.2.2.1 ⟨2 ^ 32 - 1, 999999999⟩ ⟨by norm_num, by norm_num⟩ _ none none

end Bwctl
