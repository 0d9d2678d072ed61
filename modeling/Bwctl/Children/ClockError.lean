import Bwctl.Broker.SlotList
import Bwctl.Children.AdmittedRequest
import Bwctl.Protocol.Server
import Bwctl.Protocol.TimeStamps

/-!
# The clock error of a peer

The error estimate of a time is a number of eight bits shifted by up to 63 places, and the fuzz of a
request is the sum of two such errors and a second and a half.  Neither the shift nor the sum is
checked, so a large stated error can leave a small fuzz, which is what the limit on the time error
is compared with.

* `statedError` — the stated total error in exact arithmetic.
* `prepareTest_fuzz` — the fuzz of a request.
* `HiddenError` — an error over a limit that the roundings of the comparison hide.
* `clock_error_iff` — when the fuzz and the limits bound the stated error.
* `clock_error_hidden` — an error of a century that is admitted under a limit of two seconds.
-/

set_option autoImplicit false

namespace Bwctl

open GuardedRuns Significand

/-- The errors of both clocks and the second and a half for the tool, in exact arithmetic. -/
def statedError (reqTime localtime : BWLTimeStamp) : Nat :=
  reqTime.error + localtime.error + 3 * 2 ^ 31

/-- `(BWLDLimitT)ceil(BWLNum64ToDouble(fuzz))` for an error that fits 64 bits. -/
def roundedSeconds (error : Nat) : Nat := (roundSig 53 error + (2 ^ 32 - 1)) / 2 ^ 32

/-- The error is over the limit, and the conversion to a `double` and the comparison of two
    `float`s hide it. -/
def HiddenError (error : Nat) (limit : BWLDLimitT) : Prop :=
  limit.toNat * 2 ^ 32 < error ∧ roundSig 24 (roundedSeconds error) ≤ roundSig 24 limit.toNat

/-- The fuzz is at least the stated error, and so is each non-zero limit on the time error. -/
structure ErrorBounded (node : PolicyNode) (fuzz : Num64) (error : Nat) : Prop where
  fuzz : error ≤ fuzz.toNat
  limits : ∀ a ∈ node.path, ∀ limit, a.limit? BWLDLimMaxTimeError = some limit → limit ≠ 0 →
    error ≤ limit.toNat * 2 ^ 32

/-! ## The fuzz -/

section Fuzz

variable {env : TestRequestEnv} {update : Bool} {s s' : TestSession} {localtime : BWLTimeStamp}

/-- **The fuzz of a request**, new or an update, is the stated error modulo `2 ^ 64`. -/
theorem prepareTest_fuzz (h : prepareTest env update s = .ok s')
    (hnow : env.timeStamp = some localtime) :
    s'.fuzz.toNat = statedError s.testSpec.reqTime localtime % 2 ^ 64 := by
  have hfuzz : s'.fuzz = timeStampError s.testSpec.reqTime + timeStampError localtime + iperfFuzz := by
    unfold prepareTest at h
    rw [hnow] at h
    dsimp only at h
    split at h
    · split at h
      · cases h
      · cases h
        rfl
    · split at h
      · cases h
      · split at h
        · cases h
        · cases h
          rfl
  have hiperf : iperfFuzz.toNat = 3 * 2 ^ 31 := by decide
  rw [hfuzz, UInt64.toNat_add, UInt64.toNat_add, timeStampError_toNat, timeStampError_toNat, hiperf]
  unfold statedError
  omega

end Fuzz

/-! ## The limit -/

section Limit

variable {policy : Policy} {node : PolicyNode} {used : Used}

theorem ceilSeconds_toNat (fuzz : Num64) : (ceilSeconds fuzz).toNat = roundedSeconds fuzz.toNat := by
  have hfuzz := fuzz.toNat_lt
  have hround : roundSig 53 fuzz.toNat ≤ 2 ^ 64 := by
    by_cases h : fuzz.toNat < 2 ^ 53
    · rw [roundSig_of_lt h]
      omega
    · refine (roundSig_upper (by omega)).trans (Nat.pow_le_pow_right (by norm_num) ?_)
      exact Nat.log_lt_of_lt_pow (by omega) hfuzz
  unfold ceilSeconds roundedSeconds
  rw [UInt64.toNat_ofNat_of_lt']
  show (roundSig 53 fuzz.toNat + (2 ^ 32 - 1)) / 2 ^ 32 < 2 ^ 64
  omega

/-- Below 24 days nothing is hidden. -/
theorem not_hiddenError {error : Nat} {limit : BWLDLimitT} (h : limit.toNat < 2 ^ 21) :
    ¬ HiddenError error limit := by
  rintro ⟨hlt, hround⟩
  have hseconds := le_of_roundSig_le (by norm_num) (show limit.toNat < 2 ^ 24 by omega) hround
  have hsig : roundSig 53 error ≤ limit.toNat * 2 ^ 32 := by
    unfold roundedSeconds at hseconds
    omega
  have hexact : limit.toNat * 2 ^ 32 < 2 ^ 53 := by omega
  rw [← roundSig_of_lt hexact] at hsig
  have := le_of_roundSig_le (by norm_num) hexact hsig
  omega

/-- **When fuzz and limits bound the stated error**: for a fuzz that passed the check, exactly when
    the error fits 64 bits and no limit is exceeded behind the roundings of the comparison. -/
theorem errorBounded_iff (hp : PolicyInv policy) (hn : node ∈ policy.nodes)
    (hused : FixedUnused used) {fuzz : Num64} {error : Nat} (hfuzz : fuzz.toNat = error % 2 ^ 64)
    (hpass : demandFixed node used BWLDLimMaxTimeError (ceilSeconds fuzz) = true) :
    ErrorBounded node fuzz error ↔ error < 2 ^ 64 ∧
      ∀ a ∈ node.path, ∀ limit, a.limit? BWLDLimMaxTimeError = some limit → limit ≠ 0 →
        ¬ HiddenError error limit := by
  have hlt := fuzz.toNat_lt
  rw [demandFixed_iff hp hn hused rfl, ceilSeconds_toNat] at hpass
  constructor
  · rintro ⟨hle, hlimits⟩
    refine ⟨by omega, fun a ha limit hl h0 hhidden => ?_⟩
    have h1 := hlimits a ha limit hl h0
    have h2 := hhidden.1
    omega
  · rintro ⟨hfits, hnone⟩
    rw [Nat.mod_eq_of_lt hfits] at hfuzz
    refine ⟨hfuzz.ge, fun a ha limit hl h0 => ?_⟩
    by_contra hover
    refine hnone a ha limit hl h0 ⟨by omega, ?_⟩
    rw [← hfuzz]
    exact hpass a ha limit hl h0

end Limit

section Request

variable {lib : I2Util} {ctx : Context} {policy : Policy} {sys : System} {p : Proc}
  {env : TestRequestEnv} {update : Bool} {s s' : TestSession} {localtime : BWLTimeStamp}

/-- **The fuzz of a request is at least the stated error exactly when that fits 64 bits; and a new
    request that is admitted with this fuzz states an error within every limit of its class exactly
    when it fits and no limit is exceeded behind the roundings of the comparison.** -/
theorem clock_error_iff (hb : PolicyBuilt lib policy)
    (hreach : Reach (System.step ctx policy) anyEvent System.start sys) (hmem : p ∈ sys.procs)
    (hprepare : prepareTest env update s = .ok s') (hnow : env.timeStamp = some localtime)
    {error : Nat} (herror : error = statedError s.testSpec.reqTime localtime) :
    (error ≤ s'.fuzz.toNat ↔ error < 2 ^ 64) ∧
      ∀ host r t, r.fuzzTime = s'.fuzz → admitRequest host p.node p.used r = some t →
        (ErrorBounded p.node s'.fuzz error ↔ error < 2 ^ 64 ∧
          ∀ a ∈ p.node.path, ∀ limit, a.limit? BWLDLimMaxTimeError = some limit → limit ≠ 0 →
            ¬ HiddenError error limit) := by
  have hfuzz := prepareTest_fuzz hprepare hnow
  rw [← herror] at hfuzz
  refine ⟨⟨fun hle => ?_, fun hfits => ?_⟩, fun host r t hr hadmitted => ?_⟩
  · have := s'.fuzz.toNat_lt
    omega
  · rw [hfuzz, Nat.mod_eq_of_lt hfits]
  · obtain ⟨hn, hused⟩ := fixedUnused_of_reach hb.inv hreach p hmem
    obtain ⟨-, hpass, -⟩ := admitRequest_checks hadmitted
    rw [hr] at hpass
    exact errorBounded_iff hb.inv hn hused hfuzz hpass

end Request

/-! ## A class with two seconds of error -/

def twoSecondsRoot : PolicyNode := .root "root" [⟨BWLDLimMaxTimeError, 2⟩]

/-- A server with all tools and a clock of a small error. -/
def exactServer : TestRequestEnv where
  tools := fullTable
  allocOk := true
  timeStamp := some ⟨campusTime 0, true, 1, 0⟩
  randomBytes := none
  checkTestPolicy := fun s => ⟨true, .ok, s.testSpec, 0, 0⟩
  validateTest := fun _ => true
  answerSent := true

/-- A client that states an error of `multiplier * 2 ^ scale`. -/
def skewedSession (multiplier scale : UInt8) : TestSession :=
  testSessionAlloc true (.inet (Vector.replicate 4 10)) (.inet (Vector.replicate 4 20)) 5001
    { BWLTestSpec.zero with
      reqTime := ⟨campusTime 100, true, multiplier, scale⟩, toolId := BWL_TOOL_IPERF, duration := 10 }

/-- The request of the session for the policy. -/
def skewedRequest (s : TestSession) : TestRequest :=
  ⟨s.sid, true, ⟨"", "", s.testSpec.reqTime.tstamp, 0, false, false, 10, BWL_TOOL_IPERF, false, 0, 0,
    0⟩, s.fuzz, 0, 5001⟩

/-- Whether the request of a session is admitted under a limit of two seconds. -/
def admittedUnderTwo (s : TestSession) : Bool :=
  match prepareTest exactServer false s with
  | .ok s' => (admitRequest ⟨true, true, false⟩ twoSecondsRoot Used.zero (skewedRequest s')).isSome
  | .error _ => false

/-- A quarter of a second is admitted and stays within the limit. -/
theorem clock_error_iff_quarter : ∃ s' t,
    prepareTest exactServer false (skewedSession 1 30) = .ok s' ∧
      admitRequest ⟨true, true, false⟩ twoSecondsRoot Used.zero (skewedRequest s') = some t ∧
      ErrorBounded twoSecondsRoot s'.fuzz
        (statedError (skewedSession 1 30).testSpec.reqTime ⟨campusTime 0, true, 1, 0⟩) := by
  obtain ⟨sys, p, hreach, hmem, hnode, hused⟩ := connected_child campusContext
    (show twoSecondsRoot ∈ (⟨[twoSecondsRoot]⟩ : Policy).nodes from List.mem_singleton_self _)
  have hbuilt : PolicyBuilt plainI2Util ⟨[twoSecondsRoot]⟩ :=
    ⟨["root with max_time_error=2"], by decide⟩
  obtain ⟨s', hprepare⟩ : ∃ s', prepareTest exactServer false (skewedSession 1 30) = .ok s' :=
    ⟨_, rfl⟩
  have hadmitted : admittedUnderTwo (skewedSession 1 30) = true := by decide +kernel
  unfold admittedUnderTwo at hadmitted
  rw [hprepare] at hadmitted
  obtain ⟨t, hadmitted⟩ := Option.isSome_iff_exists.1 hadmitted
  refine ⟨s', t, hprepare, hadmitted, ?_⟩
  rw [← hnode, ← hused] at hadmitted
  rw [← hnode]
  refine ((clock_error_iff hbuilt hreach hmem hprepare rfl rfl).2 _ _ t rfl hadmitted).2
    ⟨by decide, fun a ha limit hl h0 => not_hiddenError ?_⟩
  rw [hnode] at ha
  obtain rfl : a = twoSecondsRoot := by simpa [twoSecondsRoot] using ha
  obtain rfl : 2 = limit := Option.some.inj hl
  decide

/-- An error of `2 * 2 ^ 63`, more than a century, is shifted out of the 64 bits: the fuzz is a second
    and a half, and the request is admitted under a limit of two seconds. -/
theorem clock_error_hidden : ∃ s' t,
    prepareTest exactServer false (skewedSession 2 63) = .ok s' ∧ s'.fuzz.toNat = 3 * 2 ^ 31 + 1 ∧
      admitRequest ⟨true, true, false⟩ twoSecondsRoot Used.zero (skewedRequest s') = some t ∧
      ¬ ErrorBounded twoSecondsRoot s'.fuzz
        (statedError (skewedSession 2 63).testSpec.reqTime ⟨campusTime 0, true, 1, 0⟩) := by
  obtain ⟨s', hprepare⟩ : ∃ s', prepareTest exactServer false (skewedSession 2 63) = .ok s' :=
    ⟨_, rfl⟩
  have hfuzz : s'.fuzz.toNat = 3 * 2 ^ 31 + 1 := by
    rw [prepareTest_fuzz hprepare rfl]
    decide
  have hadmitted : admittedUnderTwo (skewedSession 2 63) = true := by decide +kernel
  unfold admittedUnderTwo at hadmitted
  rw [hprepare] at hadmitted
  obtain ⟨t, hadmitted⟩ := Option.isSome_iff_exists.1 hadmitted
  refine ⟨s', t, hprepare, hfuzz, hadmitted, fun h => ?_⟩
  have hle := h.fuzz
  rw [hfuzz] at hle
  exact absurd hle (by decide)

end Bwctl
