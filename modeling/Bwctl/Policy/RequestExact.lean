import Bwctl.Policy.Demand
import Bwctl.Policy.FixedLimits

/-!
# How exact the `float` comparison of a request is

The integer rule asks `amount + used <= limit` at every limited class of the path.  The code
adds modulo `2 ^ 64` and compares after rounding both sides to 24 significant bits.  Rounding
is monotone, so a request the rule allows is never refused; a request the rule refuses gets
through when the wrap or the rounding hides the excess at every class that is exceeded.

* `overLimit_of_le` — within the limit the comparison passes.
* `hidden_small` — nothing is hidden at a limit below `2 ^ 24` when the sum does not wrap.
* `request_exact_iff` — the exact condition for the decision to be the integer rule.
* `request_exact_of_small` — for limits below `2 ^ 24` the decision is the integer rule.
-/

set_option autoImplicit false

namespace Bwctl

open Significand

/-- The four integer limits a test request is checked against. -/
def demandedLimits : List BWLDMesgT :=
  [BWLDLimBandwidth, BWLDLimDuration, BWLDLimMaxTimeError, BWLDLimPending]

/-- `amount + used <= limit` in exact arithmetic at every limited class of the path. -/
def WithinLimits (n : PolicyNode) (lim : BWLDMesgT) (used : Used) (amount : BWLDLimitT) : Prop :=
  ForLimited n.path lim used fun limit u => amount.toNat + u.toNat ≤ limit.toNat

/-- The exact sum is over the limit, but not the wrapped sum after rounding. -/
def HiddenExcess (amount used limit : BWLDLimitT) : Prop :=
  limit.toNat < amount.toNat + used.toNat ∧
    roundSig 24 ((amount.toNat + used.toNat) % 2 ^ 64) ≤ roundSig 24 limit.toNat

/-- Some limited class of the path is exceeded, and at each one that is the excess is hidden. -/
def ExcessAllHidden (n : PolicyNode) (lim : BWLDMesgT) (used : Used) (amount : BWLDLimitT) : Prop :=
  ¬ WithinLimits n lim used amount ∧
    ForLimited n.path lim used fun limit u =>
      limit.toNat < amount.toNat + u.toNat → HiddenExcess amount u limit

theorem requestOk_iff (amount used limit : BWLDLimitT) (lim : BWLDMesgT) :
    RequestOk ⟨lim, amount⟩ limit used ↔
      roundSig 24 ((amount.toNat + used.toNat) % 2 ^ 64) ≤ roundSig 24 limit.toNat := by
  unfold RequestOk overLimit uint64ToFloat
  rw [UInt64.toNat_add, decide_eq_false_iff_not, not_lt]

theorem requestOk_of_le {amount used limit : BWLDLimitT} (lim : BWLDMesgT)
    (h : amount.toNat + used.toNat ≤ limit.toNat) : RequestOk ⟨lim, amount⟩ limit used := by
  have hl := limit.toNat_lt
  rw [requestOk_iff, Nat.mod_eq_of_lt (by omega)]
  exact roundSig_mono (by norm_num) h

/-- At one node the comparison passes within the limit and where the excess is hidden. -/
theorem requestOk_iff_hidden (amount used limit : BWLDLimitT) (lim : BWLDMesgT) :
    RequestOk ⟨lim, amount⟩ limit used ↔
      (limit.toNat < amount.toNat + used.toNat → HiddenExcess amount used limit) := by
  constructor
  · exact fun h hlt => ⟨hlt, (requestOk_iff amount used limit lim).1 h⟩
  · intro h
    by_cases hle : amount.toNat + used.toNat ≤ limit.toNat
    · exact requestOk_of_le lim hle
    · exact (requestOk_iff amount used limit lim).2 (h (by omega)).2

/-- Below `2 ^ 24` the rounding is exact, so only a wrap hides an excess. -/
theorem hidden_small {amount used limit : BWLDLimitT} (hl : limit.toNat < 2 ^ 24)
    (hs : amount.toNat + used.toNat < 2 ^ 64) : ¬ HiddenExcess amount used limit := by
  rintro ⟨hlt, hr⟩
  rw [Nat.mod_eq_of_lt hs] at hr
  have := le_of_roundSig_le (by norm_num) hl hr
  omega

theorem limKind_demandedLimits {lim : BWLDMesgT} (h : lim ∈ demandedLimits) :
    limKind lim = .limInt ∨ limKind lim = .limFixedInt := by
  simp only [demandedLimits, List.mem_cons, List.not_mem_nil, or_false] at h
  rcases h with rfl | rfl | rfl | rfl <;> decide

/-- For an integer limit the outcome of a request is the outcome of the walk. -/
theorem resourceDemand_request {policy : Policy} (hp : PolicyInv policy) {n : PolicyNode}
    (hn : n ∈ policy.nodes) {lim : LimRec}
    (hk : limKind lim.limit = .limInt ∨ limKind lim.limit = .limFixedInt) (used : Used) :
    WalkSpec n.path lim used (RequestOk lim) (bookRequest lim (limKind lim.limit))
      (resourceDemand n BWLDMESGREQUEST lim used) := by
  unfold resourceDemand
  rcases hk with h | h <;> rw [h] <;> exact integerResourceDemand_request hp used hn

theorem resourceDemand_request_iff {policy : Policy} (hp : PolicyInv policy) {n : PolicyNode}
    (hn : n ∈ policy.nodes) {lim : BWLDMesgT} (hlim : lim ∈ demandedLimits) (used : Used)
    (amount : BWLDLimitT) :
    (resourceDemand n BWLDMESGREQUEST ⟨lim, amount⟩ used).1 = true ↔
      WithinLimits n lim used amount ∨ ExcessAllHidden n lim used amount := by
  rw [(resourceDemand_request hp hn (limKind_demandedLimits hlim) used).1]
  have hiff : ForLimited n.path lim used (RequestOk ⟨lim, amount⟩) ↔
      ForLimited n.path lim used fun limit u =>
        limit.toNat < amount.toNat + u.toNat → HiddenExcess amount u limit :=
    forall₂_congr fun a _ => forall₃_congr fun limit _ _ =>
      requestOk_iff_hidden amount (used a.nodename lim) limit lim
  rw [hiff]
  unfold ExcessAllHidden
  constructor
  · intro h
    by_cases hw : WithinLimits n lim used amount
    · exact Or.inl hw
    · exact Or.inr ⟨hw, h⟩
  · rintro (hw | ⟨-, h⟩)
    · intro a ha limit hl h0 hlt
      have := hw a ha limit hl h0
      omega
    · exact h

/-- For limits below `2 ^ 24` and sums that do not wrap the decision is the integer rule. -/
theorem request_exact_of_small {policy : Policy} (hp : PolicyInv policy) {n : PolicyNode}
    (hn : n ∈ policy.nodes) {lim : BWLDMesgT} (hlim : lim ∈ demandedLimits) {used : Used}
    {amount : BWLDLimitT}
    (hsmall : ForLimited n.path lim used fun limit u =>
      limit.toNat < 2 ^ 24 ∧ amount.toNat + u.toNat < 2 ^ 64) :
    (resourceDemand n BWLDMESGREQUEST ⟨lim, amount⟩ used).1 = true ↔
      WithinLimits n lim used amount := by
  rw [resourceDemand_request_iff hp hn hlim used amount]
  refine ⟨fun h => h.resolve_right fun ⟨hw, hh⟩ => hw ?_, Or.inl⟩
  intro a ha limit hl h0
  by_contra hlt
  have hs := hsmall a ha limit hl h0
  exact hidden_small hs.1 hs.2 (hh a ha limit hl h0 (by omega))

/-- **The decision of a request is the exact integer rule at every level, unless some limit is
    exceeded and every exceeded limit is exceeded by no more than the wrap of the sum or the
    rounding to 24 bits hides.** -/
theorem request_exact_iff {lib : I2Util} {policy : Policy} (hb : PolicyBuilt lib policy)
    {n : PolicyNode} (hn : n ∈ policy.nodes) {lim : BWLDMesgT} (hlim : lim ∈ demandedLimits)
    (used : Used) (amount : BWLDLimitT) :
    ((resourceDemand n BWLDMESGREQUEST ⟨lim, amount⟩ used).1 = true ↔
      WithinLimits n lim used amount) ↔ ¬ ExcessAllHidden n lim used amount := by
  rw [resourceDemand_request_iff hb.inv hn hlim used amount]
  constructor
  · exact fun h hh => hh.1 (h.1 (Or.inr hh))
  · exact fun h => ⟨fun h' => h'.resolve_right h, Or.inl⟩

theorem request_exact_iff_campus :
    ((resourceDemand (.child "campus" (.root "root" [⟨1, 900⟩]) [⟨1, 300⟩]) BWLDMESGREQUEST
        ⟨BWLDLimBandwidth, 200⟩ Used.zero).1 = true ↔
      WithinLimits (.child "campus" (.root "root" [⟨1, 900⟩]) [⟨1, 300⟩]) BWLDLimBandwidth
        Used.zero 200) ↔
    ¬ ExcessAllHidden (.child "campus" (.root "root" [⟨1, 900⟩]) [⟨1, 300⟩]) BWLDLimBandwidth
      Used.zero 200 :=
  have hbuilt : PolicyBuilt plainI2Util
      ⟨[.root "root" [⟨1, 900⟩], .child "campus" (.root "root" [⟨1, 900⟩]) [⟨1, 300⟩]]⟩ :=
    ⟨["root with bandwidth=900", "campus with parent=root, bandwidth=300"], by decide⟩
  request_exact_iff hbuilt (by decide) (by decide) Used.zero 200

/-- A bandwidth limit of `2 ^ 24` lets a request of `2 ^ 24 + 1` through. -/
theorem request_over_limit_granted :
    ∃ policy n, PolicyBuilt plainI2Util policy ∧ n ∈ policy.nodes ∧
      (resourceDemand n BWLDMESGREQUEST ⟨BWLDLimBandwidth, 16777217⟩ Used.zero).1 = true ∧
      ¬ WithinLimits n BWLDLimBandwidth Used.zero 16777217 := by
  refine ⟨⟨[.root "root" [⟨1, 16777216⟩]]⟩, .root "root" [⟨1, 16777216⟩],
    ⟨["root with bandwidth=16777216"], by decide⟩, by decide, by decide +kernel, fun h => ?_⟩
  have := h _ (PolicyNode.self_mem_path _) 16777216 rfl (by decide)
  exact absurd this (by decide)

end Bwctl
