import Bwctl.Policy.Inherit
import Bwctl.Lib.Significand

/-!
# Resource demands (`IntegerResourceDemand`, `BWLDResourceDemand`)

A demand walks from the class to the root.  On the way up it checks each limited node; on
the way back it books the amount.  The check compares a wrapping 64-bit sum with the product
of the limit and the `float` constant `1.0`, so both sides are rounded to 24 significant bits.

* `integerResourceDemand_request` — a request succeeds exactly when every limited node of the
  path passes the `float` comparison; then it books the amount at exactly these nodes, and a
  refused request changes nothing.
* `integerResourceDemand_release` — a release succeeds exactly when every limited node of the
  path holds the amount, and takes it back there.
-/

set_option autoImplicit false

namespace Bwctl

open Significand

def BWLDMESGREQUEST : BWLDMesgT := 0xfeed
def BWLDMESGRELEASE : BWLDMesgT := 0xdead
def BWLDMESGCLAIM : BWLDMesgT := 0x1feed1

/-- The `used` values, by class name and limit. -/
abbrev Used := String → BWLDMesgT → BWLDLimitT

def Used.zero : Used := fun _ _ => 0

def Used.set (used : Used) (name : String) (lim : BWLDMesgT) (v : BWLDLimitT) : Used :=
  fun name' lim' => if name' = name ∧ lim' = lim then v else used name' lim'

/-- `uint64_t` to `float`. -/
def uint64ToFloat (x : BWLDLimitT) : Nat := roundSig 24 x.toNat

/-- `(lim.value + node->used[i].value) > (node->limits[i].value * fudge)` with `fudge = 1.0`. -/
def overLimit (sum limit : BWLDLimitT) : Bool := decide (uint64ToFloat sum > uint64ToFloat limit)

/-- `if(!IntegerResourceDemand(node->parent,...)) return False;`, the update of the node's own
    counter, `return True`. -/
def afterParent (r : Bool × Used) (book : Used → Used) : Bool × Used :=
  if r.1 = true then (true, book r.2) else (false, r.2)

/-- The body of `IntegerResourceDemand` at one node; `up` is the call for the parent, which is
    `True` for the parent of the root. -/
def demandAt (query : BWLDMesgT) (lim : LimRec) (limkind : LimType) (node : PolicyNode)
    (up : Used → Bool × Used) (used : Used) : Bool × Used :=
  match node.limit? lim.limit with
  | none => (true, used)
  | some limit =>
    if limit = 0 then up used
    else if query = BWLDMESGRELEASE then
      if limkind = .limFixedInt then (true, used)
      else if lim.value > used node.nodename lim.limit then (false, used)
      else
        afterParent (up used) (fun used =>
          used.set node.nodename lim.limit (used node.nodename lim.limit - lim.value))
    else if query = BWLDMESGCLAIM then (false, used)
    else if query ≠ BWLDMESGREQUEST then (false, used)
    else if overLimit (lim.value + used node.nodename lim.limit) limit then (false, used)
    else
      afterParent (up used) (fun used =>
        if limkind = .limInt then
          used.set node.nodename lim.limit (used node.nodename lim.limit + lim.value)
        else used)

/-- `IntegerResourceDemand`. -/
def integerResourceDemand (query : BWLDMesgT) (lim : LimRec) (limkind : LimType) :
    PolicyNode → Used → Bool × Used
  | .root name limits, used =>
    demandAt query lim limkind (.root name limits) (fun used => (true, used)) used
  | .child name parent limits, used =>
    demandAt query lim limkind (.child name parent limits)
      (integerResourceDemand query lim limkind parent) used

/-- `BWLDResourceDemand`. -/
def resourceDemand (node : PolicyNode) (query : BWLDMesgT) (lim : LimRec) (used : Used) :
    Bool × Used :=
  match limKind lim.limit with
  | .limNot => (false, used)
  | .limBool => (getLimit node lim.limit == lim.value, used)
  | .limFixedInt => integerResourceDemand query lim .limFixedInt node used
  | .limInt => integerResourceDemand query lim .limInt node used

/-! ## Effect of a walk on the counters -/

/-- The class of that name lies on the path and the limit holds there. -/
def OnPath (path : List PolicyNode) (lim : BWLDMesgT) (name : String) : Prop :=
  ∃ a ∈ path, a.Limited lim ∧ a.nodename = name

instance (path : List PolicyNode) (lim : BWLDMesgT) (name : String) :
    Decidable (OnPath path lim name) :=
  inferInstanceAs (Decidable (∃ a ∈ path, a.Limited lim ∧ a.nodename = name))

/-- The counters after `f` was applied at every limited class of a path. -/
def Used.mapPath (used : Used) (path : List PolicyNode) (lim : BWLDMesgT)
    (f : BWLDLimitT → BWLDLimitT) : Used :=
  fun name l => if l = lim ∧ OnPath path lim name then f (used name l) else used name l

theorem Used.mapPath_of_not_limited (used : Used) {path : List PolicyNode} {lim : BWLDMesgT}
    (f : BWLDLimitT → BWLDLimitT) (h : ∀ a ∈ path, ¬ a.Limited lim) :
    used.mapPath path lim f = used := by
  funext name l
  unfold Used.mapPath
  rw [if_neg]
  rintro ⟨-, a, ha, hl, -⟩
  exact h a ha hl

/-- Skipping a node without the limit. -/
theorem Used.mapPath_cons_of_not_limited (used : Used) {n : PolicyNode} (path : List PolicyNode)
    {lim : BWLDMesgT} (f : BWLDLimitT → BWLDLimitT) (h : ¬ n.Limited lim) :
    used.mapPath (n :: path) lim f = used.mapPath path lim f := by
  funext name l
  have : OnPath (n :: path) lim name ↔ OnPath path lim name := by
    unfold OnPath
    simp [h]
  unfold Used.mapPath
  simp only [this]

/-- Booking at a node after its ancestors. -/
theorem Used.mapPath_cons (used : Used) {n : PolicyNode} {path : List PolicyNode}
    {lim : BWLDMesgT} (f : BWLDLimitT → BWLDLimitT) (hl : n.Limited lim)
    (hname : ∀ a ∈ path, a.nodename ≠ n.nodename) :
    (used.mapPath path lim f).set n.nodename lim
      (f (used.mapPath path lim f n.nodename lim)) = used.mapPath (n :: path) lim f := by
  have hoff : ¬ OnPath path lim n.nodename := fun ⟨a, ha, _, hn⟩ => hname a ha hn
  funext name l
  unfold Used.set Used.mapPath
  by_cases hkey : name = n.nodename ∧ l = lim
  · obtain ⟨rfl, rfl⟩ := hkey
    rw [if_pos ⟨rfl, rfl⟩, if_neg (fun h => hoff h.2),
      if_pos ⟨rfl, n, List.mem_cons_self, hl, rfl⟩]
  · rw [if_neg hkey]
    have : (l = lim ∧ OnPath path lim name) ↔ (l = lim ∧ OnPath (n :: path) lim name) := by
      refine and_congr_right fun hlim => ⟨fun ⟨a, ha, h⟩ => ⟨a, List.mem_cons_of_mem _ ha, h⟩, ?_⟩
      rintro ⟨a, ha, hal, hn⟩
      rcases List.mem_cons.1 ha with rfl | ha
      · exact absurd ⟨hn.symm, hlim⟩ hkey
      · exact ⟨a, ha, hal, hn⟩
    simp only [this]

/-- The limited nodes of a path satisfy `P limit used`. -/
def ForLimited (path : List PolicyNode) (lim : BWLDMesgT) (used : Used)
    (P : BWLDLimitT → BWLDLimitT → Prop) : Prop :=
  ∀ a ∈ path, ∀ limit, a.limit? lim = some limit → limit ≠ 0 → P limit (used a.nodename lim)

theorem ForLimited.cons {n : PolicyNode} {path : List PolicyNode} {lim : BWLDMesgT} {used : Used}
    {P : BWLDLimitT → BWLDLimitT → Prop} :
    ForLimited (n :: path) lim used P ↔
      (∀ limit, n.limit? lim = some limit → limit ≠ 0 → P limit (used n.nodename lim)) ∧
        ForLimited path lim used P := by
  simp [ForLimited]

theorem not_limited_of_eq_zero {n : PolicyNode} {lim : BWLDMesgT} (h : n.limit? lim = some 0) :
    ¬ n.Limited lim := by
  rintro ⟨v, hv, h0⟩; rw [h] at hv; cases hv; exact h0 rfl

theorem not_limited_of_none {n : PolicyNode} {lim : BWLDMesgT} (h : n.limit? lim = none) :
    ¬ n.Limited lim := by
  rintro ⟨v, hv, -⟩; rw [h] at hv; cases hv

section Walk

variable {policy : Policy} {lim : LimRec} {limkind : LimType}

/-- What one call of the recursion does, when the call for the parent does the same. -/
def WalkSpec (path : List PolicyNode) (lim : LimRec) (used : Used)
    (P : BWLDLimitT → BWLDLimitT → Prop) (f : BWLDLimitT → BWLDLimitT) (r : Bool × Used) : Prop :=
  (r.1 = true ↔ ForLimited path lim.limit used P) ∧ (r.1 = false → r.2 = used) ∧
    (r.1 = true → r.2 = used.mapPath path lim.limit f)

theorem WalkSpec.of_unlimited {path : List PolicyNode} {used : Used}
    {P : BWLDLimitT → BWLDLimitT → Prop} {f : BWLDLimitT → BWLDLimitT}
    (h : ∀ a ∈ path, ¬ a.Limited lim.limit) : WalkSpec path lim used P f (true, used) := by
  refine ⟨⟨fun _ a ha v hv h0 => absurd ⟨v, hv, h0⟩ (h a ha), fun _ => rfl⟩, by simp, fun _ => ?_⟩
  rw [Used.mapPath_of_not_limited used f h]

theorem WalkSpec.skip {n : PolicyNode} {path : List PolicyNode} {used : Used}
    {P : BWLDLimitT → BWLDLimitT → Prop} {f : BWLDLimitT → BWLDLimitT} {r : Bool × Used}
    (hn : n.limit? lim.limit = some 0) (h : WalkSpec path lim used P f r) :
    WalkSpec (n :: path) lim used P f r := by
  obtain ⟨h1, h2, h3⟩ := h
  refine ⟨?_, h2, fun hr => ?_⟩
  · rw [h1, ForLimited.cons]
    exact ⟨fun h => ⟨fun v hv h0 => by rw [hn] at hv; cases hv; exact absurd rfl h0, h⟩, fun h => h.2⟩
  · rw [h3 hr, Used.mapPath_cons_of_not_limited used path f (not_limited_of_eq_zero hn)]

theorem WalkSpec.refused {n : PolicyNode} {path : List PolicyNode} {used : Used}
    {P : BWLDLimitT → BWLDLimitT → Prop} {f : BWLDLimitT → BWLDLimitT} {limit : BWLDLimitT}
    (hn : n.limit? lim.limit = some limit) (h0 : limit ≠ 0)
    (hP : ¬ P limit (used n.nodename lim.limit)) : WalkSpec (n :: path) lim used P f (false, used) := by
  refine ⟨⟨by simp, fun h => ?_⟩, fun _ => rfl, by simp⟩
  exact absurd (h n List.mem_cons_self limit hn h0) hP

/-- A limited node that passes its own check follows its parent and then books. -/
theorem WalkSpec.booked {n : PolicyNode} {path : List PolicyNode} {used : Used}
    {P : BWLDLimitT → BWLDLimitT → Prop} {f : BWLDLimitT → BWLDLimitT} {limit : BWLDLimitT}
    {r : Bool × Used} (hn : n.limit? lim.limit = some limit) (h0 : limit ≠ 0)
    (hname : ∀ a ∈ path, a.nodename ≠ n.nodename) (hP : P limit (used n.nodename lim.limit))
    (h : WalkSpec path lim used P f r) :
    WalkSpec (n :: path) lim used P f
      (afterParent r (fun used => used.set n.nodename lim.limit (f (used n.nodename lim.limit)))) := by
  obtain ⟨h1, h2, h3⟩ := h
  have hown : ∀ v, n.limit? lim.limit = some v → v ≠ 0 → P v (used n.nodename lim.limit) :=
    fun v hv _ => by rw [hn] at hv; cases hv; exact hP
  obtain ⟨b, used'⟩ := r
  cases b with
  | false =>
    refine ⟨⟨by simp [afterParent], fun h => ?_⟩, h2, by simp [afterParent]⟩
    have := h1.2 (ForLimited.cons.1 h).2
    exact absurd this (by simp)
  | true =>
    refine ⟨⟨fun _ => ForLimited.cons.2 ⟨hown, h1.1 rfl⟩, fun _ => rfl⟩, by simp [afterParent],
      fun _ => ?_⟩
    have hu : used' = used.mapPath path lim.limit f := h3 rfl
    show used'.set _ _ _ = _
    rw [hu]
    exact Used.mapPath_cons used f ⟨limit, hn, h0⟩ hname

/-- The class names on the path above a class of a policy differ from its own. -/
theorem PolicyInv.nodename_ne (hp : PolicyInv policy) {name : String} {p : PolicyNode}
    {limits : List LimRec} (hn : PolicyNode.child name p limits ∈ policy.nodes) :
    ∀ a ∈ p.path, a.nodename ≠ (PolicyNode.child name p limits).nodename := by
  intro a ha hname
  have ham := hp.path_mem hn a (by simp [ha])
  rw [hp.eq_of_nodename ham hn hname] at ha
  exact PolicyNode.notMem_parent_path name p limits ha

/-- The check of a request at one node. -/
def RequestOk (lim : LimRec) (limit used : BWLDLimitT) : Prop := overLimit (lim.value + used) limit = false

/-- What a granted request books: the amount for a consumable limit, nothing for a fixed one. -/
def bookRequest (lim : LimRec) (limkind : LimType) (used : BWLDLimitT) : BWLDLimitT :=
  if limkind = .limInt then used + lim.value else used

theorem Used.set_self (used : Used) (name : String) (lim : BWLDMesgT) :
    used.set name lim (used name lim) = used := by
  funext name' lim'
  unfold Used.set
  split
  · rename_i h; rw [h.1, h.2]
  · rfl

theorem demandAt_request {n : PolicyNode} {path : List PolicyNode} {used : Used}
    {up : Used → Bool × Used} (hname : ∀ a ∈ path, a.nodename ≠ n.nodename)
    (habove : n.limit? lim.limit = none → ∀ a ∈ path, a.limit? lim.limit = none)
    (hup : WalkSpec path lim used (RequestOk lim) (bookRequest lim limkind) (up used)) :
    WalkSpec (n :: path) lim used (RequestOk lim) (bookRequest lim limkind)
      (demandAt BWLDMESGREQUEST lim limkind n up used) := by
  unfold demandAt
  split
  · rename_i hn
    refine WalkSpec.of_unlimited fun a ha => not_limited_of_none ?_
    rcases List.mem_cons.1 ha with rfl | ha
    · exact hn
    · exact habove hn a ha
  · rename_i limit hn
    split
    · rename_i h0; subst h0; exact hup.skip hn
    rename_i h0
    rw [if_neg (by decide), if_neg (by decide), if_neg (by simp)]
    split
    · rename_i hover
      exact WalkSpec.refused hn h0 (by unfold RequestOk; rw [hover]; simp)
    · rename_i hover
      have heq : (fun used : Used => if limkind = .limInt then
            used.set n.nodename lim.limit (used n.nodename lim.limit + lim.value) else used) =
          fun used => used.set n.nodename lim.limit
            (bookRequest lim limkind (used n.nodename lim.limit)) := by
        funext used
        unfold bookRequest
        split
        · rfl
        · rw [Used.set_self]
      rw [heq]
      exact WalkSpec.booked hn h0 hname (by unfold RequestOk; simpa using hover) hup

/-- **A request**: granted exactly when every limited node of the path passes the comparison;
    granted it books at exactly these nodes, refused it changes nothing. -/
theorem integerResourceDemand_request (hp : PolicyInv policy) (used : Used) :
    ∀ {n : PolicyNode}, n ∈ policy.nodes →
      WalkSpec n.path lim used (RequestOk lim) (bookRequest lim limkind)
        (integerResourceDemand BWLDMESGREQUEST lim limkind n used)
  | .root _ _, _ =>
    demandAt_request (List.forall_mem_nil _) (fun _ => List.forall_mem_nil _)
      (WalkSpec.of_unlimited (List.forall_mem_nil _))
  | .child _ p _, hn =>
    demandAt_request (hp.nodename_ne hn)
      (fun hnone a ha => hp.limit?_path hn hnone a (List.mem_cons_of_mem _ ha))
      (integerResourceDemand_request hp used (hp.closed _ hn p rfl))

/-- The check of a release at one node. -/
def ReleaseOk (lim : LimRec) (_limit used : BWLDLimitT) : Prop := lim.value ≤ used

theorem demandAt_release {n : PolicyNode} {path : List PolicyNode} {used : Used}
    {up : Used → Bool × Used} (hname : ∀ a ∈ path, a.nodename ≠ n.nodename)
    (habove : n.limit? lim.limit = none → ∀ a ∈ path, a.limit? lim.limit = none)
    (hup : WalkSpec path lim used (ReleaseOk lim) (· - lim.value) (up used)) :
    WalkSpec (n :: path) lim used (ReleaseOk lim) (· - lim.value)
      (demandAt BWLDMESGRELEASE lim .limInt n up used) := by
  unfold demandAt
  split
  · rename_i hn
    refine WalkSpec.of_unlimited fun a ha => not_limited_of_none ?_
    rcases List.mem_cons.1 ha with rfl | ha
    · exact hn
    · exact habove hn a ha
  · rename_i limit hn
    split
    · rename_i h0; subst h0; exact hup.skip hn
    rename_i h0
    rw [if_pos rfl, if_neg (by decide)]
    split
    · rename_i hover
      exact WalkSpec.refused hn h0 (fun hle => UInt64.lt_irrefl _ (UInt64.lt_of_lt_of_le hover hle))
    · rename_i hover
      exact WalkSpec.booked (P := ReleaseOk lim) hn h0 hname (UInt64.not_lt.1 hover) hup

/-- **A release** of a consumable limit: it succeeds exactly when every limited node of the path
    holds the amount; then it takes it back at exactly these nodes, else it changes nothing. -/
theorem integerResourceDemand_release (hp : PolicyInv policy) (used : Used) :
    ∀ {n : PolicyNode}, n ∈ policy.nodes →
      WalkSpec n.path lim used (ReleaseOk lim) (· - lim.value)
        (integerResourceDemand BWLDMESGRELEASE lim .limInt n used)
  | .root _ _, _ =>
    demandAt_release (List.forall_mem_nil _) (fun _ => List.forall_mem_nil _)
      (WalkSpec.of_unlimited (List.forall_mem_nil _))
  | .child _ p _, hn =>
    demandAt_release (hp.nodename_ne hn)
      (fun hnone a ha => hp.limit?_path hn hnone a (List.mem_cons_of_mem _ ha))
      (integerResourceDemand_release hp used (hp.closed _ hn p rfl))

end Walk

end Bwctl
