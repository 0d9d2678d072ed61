import Bwctl.Policy.RequestExact
import Bwctl.Lib.GuardedRuns

/-!
# Accounting of the consumable limit `pending` along the hierarchy

The broker serves requests and releases of one `pending` unit for the class of each child
(`CheckFD`).  A `Ledger` keeps the counters together with the classes whose grants are still
held, so that "used" can be compared with what is really outstanding.

* `Ledger.step` — one request or release.
* `LedgerInv.step` — counters and grants stay equal as long as no counter is full.
* `pending_accounting` — in every run: a refusal changes nothing, a grant adds one exactly at
  the limited classes of its path, a held grant can always be released, which takes exactly
  that back, and every counter is the number of grants outstanding below it.
* `pending_counter_wraps` — with `2 ^ 64` grants outstanding a counter is back at zero.
-/

set_option autoImplicit false

namespace Bwctl

open GuardedRuns Significand

/-- One unit of `pending`, the amount `BWLDCheckTestPolicy` asks for. -/
def pendingUnit : LimRec := ⟨BWLDLimPending, 1⟩

/-- The counters and the classes of the grants still held. -/
structure Ledger where
  used : Used
  held : List PolicyNode

inductive LedgerEvent where
  | request (c : PolicyNode)
  | release (c : PolicyNode)

namespace Ledger

def start : Ledger := ⟨Used.zero, []⟩

/-- A request by a class of the policy, or the release of a grant that is still held. -/
def step (policy : Policy) (s : Ledger) : LedgerEvent → Option Ledger
  | .request c =>
    if c ∈ policy.nodes then
      let r := resourceDemand c BWLDMESGREQUEST pendingUnit s.used
      some ⟨r.2, if r.1 then c :: s.held else s.held⟩
    else none
  | .release c =>
    if c ∈ s.held then
      let r := resourceDemand c BWLDMESGRELEASE pendingUnit s.used
      some ⟨r.2, if r.1 then s.held.erase c else s.held⟩
    else none

/-- Grants outstanding for classes at or below a class. -/
def outstanding (s : Ledger) (n : PolicyNode) : Nat := s.held.countP (fun c => decide (n ∈ c.path))

/-- One more grant of the class does not fill a 64-bit counter. -/
def RoomFor (s : Ledger) (c : PolicyNode) : Prop :=
  ∀ a ∈ c.path, a.Limited BWLDLimPending → s.outstanding a + 1 < 2 ^ 64

/-- While the grants are few, every class has room for one more. -/
theorem roomFor_of_length (s : Ledger) (h : s.held.length + 1 < 2 ^ 64) (c : PolicyNode) :
    s.RoomFor c :=
  fun _ _ _ => lt_of_le_of_lt (Nat.add_le_add_right List.countP_le_length 1) h

/-- The guard of the runs: a request finds room. -/
def Room (s : Ledger) : LedgerEvent → Prop
  | .request c => s.RoomFor c
  | .release _ => True

end Ledger

/-- The counters are the numbers of grants outstanding, up to the rounding within the limits. -/
structure LedgerInv (policy : Policy) (s : Ledger) : Prop where
  held_mem : ∀ c ∈ s.held, c ∈ policy.nodes
  exact : ∀ n ∈ policy.nodes, n.Limited BWLDLimPending →
    (s.used n.nodename BWLDLimPending).toNat = s.outstanding n
  rounded : ∀ n ∈ policy.nodes, ∀ limit, n.limit? BWLDLimPending = some limit → limit ≠ 0 →
    uint64ToFloat (s.used n.nodename BWLDLimPending) ≤ uint64ToFloat limit

theorem LedgerInv.start (policy : Policy) : LedgerInv policy Ledger.start := by
  refine ⟨by simp [Ledger.start], fun n _ _ => rfl, fun n _ limit _ _ => ?_⟩
  exact roundSig_mono (by norm_num) (Nat.zero_le _)

section Step

variable {policy : Policy} {s : Ledger} {c : PolicyNode}

theorem pending_request (hp : PolicyInv policy) (hc : c ∈ policy.nodes) (used : Used) :
    WalkSpec c.path pendingUnit used (RequestOk pendingUnit) (· + 1)
      (resourceDemand c BWLDMESGREQUEST pendingUnit used) :=
  resourceDemand_request hp hc (Or.inl rfl) used

theorem pending_release (hp : PolicyInv policy) (hc : c ∈ policy.nodes) (used : Used) :
    WalkSpec c.path pendingUnit used (ReleaseOk pendingUnit) (· - 1)
      (resourceDemand c BWLDMESGRELEASE pendingUnit used) :=
  integerResourceDemand_release hp used hc

/-- A limited class of the policy is named on a path exactly when it lies on the path. -/
theorem onPath_iff (hp : PolicyInv policy) (hc : c ∈ policy.nodes) {n : PolicyNode}
    (hn : n ∈ policy.nodes) (hl : n.Limited BWLDLimPending) :
    OnPath c.path BWLDLimPending n.nodename ↔ n ∈ c.path := by
  constructor
  · rintro ⟨a, ha, -, hname⟩
    rwa [hp.eq_of_nodename (hp.path_mem hc a ha) hn hname] at ha
  · exact fun h => ⟨n, h, hl, rfl⟩

theorem mapPath_pending (hp : PolicyInv policy) (hc : c ∈ policy.nodes) {n : PolicyNode}
    (hn : n ∈ policy.nodes) (hl : n.Limited BWLDLimPending) (used : Used)
    (f : BWLDLimitT → BWLDLimitT) :
    used.mapPath c.path BWLDLimPending f n.nodename BWLDLimPending =
      if n ∈ c.path then f (used n.nodename BWLDLimPending)
      else used n.nodename BWLDLimPending := by
  unfold Used.mapPath
  simp only [true_and, onPath_iff hp hc hn hl]

/-- On the path of a class the counters below its outstanding grants are not full. -/
theorem succ_toNat_of_room (hi : LedgerInv policy s) (hp : PolicyInv policy) (hc : c ∈ policy.nodes)
    (hroom : s.RoomFor c) {a : PolicyNode} (ha : a ∈ c.path) (hl : a.Limited BWLDLimPending) :
    (s.used a.nodename BWLDLimPending + 1).toNat = (s.used a.nodename BWLDLimPending).toNat + 1 := by
  have hr := hroom a ha hl
  rw [← hi.exact a (hp.path_mem hc a ha) hl] at hr
  rw [UInt64.toNat_add]
  exact Nat.mod_eq_of_lt hr

theorem LedgerInv.request (hp : PolicyInv policy) (hi : LedgerInv policy s) (hc : c ∈ policy.nodes)
    (hroom : s.RoomFor c) (hr : (resourceDemand c BWLDMESGREQUEST pendingUnit s.used).1 = true) :
    LedgerInv policy ⟨(resourceDemand c BWLDMESGREQUEST pendingUnit s.used).2, c :: s.held⟩ := by
  obtain ⟨hok, -, hmap⟩ := pending_request hp hc s.used
  rw [hmap hr]
  refine ⟨?_, ?_, ?_⟩
  · intro c' hc'
    rcases List.mem_cons.1 hc' with rfl | hc'
    · exact hc
    · exact hi.held_mem c' hc'
  · intro n hn hl
    show (s.used.mapPath c.path BWLDLimPending (· + 1) n.nodename BWLDLimPending).toNat = List.countP _ (c :: s.held)
    rw [List.countP_cons, mapPath_pending hp hc hn hl]
    by_cases hmem : n ∈ c.path
    · rw [if_pos hmem, succ_toNat_of_room hi hp hc hroom hmem hl, hi.exact n hn hl]
      simp [Ledger.outstanding, hmem]
    · rw [if_neg hmem, hi.exact n hn hl]
      simp [Ledger.outstanding, hmem]
  · intro n hn limit hlim h0
    show uint64ToFloat (s.used.mapPath c.path BWLDLimPending (· + 1) n.nodename BWLDLimPending) ≤ _
    rw [mapPath_pending hp hc hn ⟨limit, hlim, h0⟩]
    by_cases hmem : n ∈ c.path
    · have hgrant := hok.1 hr n hmem limit hlim h0
      rw [if_pos hmem]
      unfold RequestOk overLimit at hgrant
      rw [decide_eq_false_iff_not, not_lt, UInt64.add_comm] at hgrant
      exact hgrant
    · rw [if_neg hmem]; exact hi.rounded n hn limit hlim h0

/-- A held grant has left its unit in every counter of its path. -/
theorem used_pos (hp : PolicyInv policy) (hi : LedgerInv policy s) (hc : c ∈ s.held)
    {a : PolicyNode} (ha : a ∈ c.path) (hl : a.Limited BWLDLimPending) :
    0 < (s.used a.nodename BWLDLimPending).toNat := by
  rw [hi.exact a (hp.path_mem (hi.held_mem c hc) a ha) hl]
  exact List.countP_pos_iff.2 ⟨c, hc, by simpa using ha⟩

/-- A grant that is held can be released. -/
theorem release_ok (hp : PolicyInv policy) (hi : LedgerInv policy s) (hc : c ∈ s.held) :
    (resourceDemand c BWLDMESGRELEASE pendingUnit s.used).1 = true := by
  rw [(pending_release hp (hi.held_mem c hc) s.used).1]
  intro a ha limit hlim h0
  show (1 : UInt64) ≤ s.used a.nodename BWLDLimPending
  rw [UInt64.le_iff_toNat_le]
  exact used_pos hp hi hc ha ⟨limit, hlim, h0⟩

theorem pred_toNat {u : UInt64} (h : 0 < u.toNat) : (u - 1).toNat = u.toNat - 1 :=
  UInt64.toNat_sub_of_le u 1 (UInt64.le_iff_toNat_le.2 h)

theorem LedgerInv.release (hp : PolicyInv policy) (hi : LedgerInv policy s) (hc : c ∈ s.held) :
    LedgerInv policy ⟨(resourceDemand c BWLDMESGRELEASE pendingUnit s.used).2, s.held.erase c⟩ := by
  have hcn := hi.held_mem c hc
  rw [(pending_release hp hcn s.used).2.2 (release_ok hp hi hc)]
  refine ⟨fun c' hc' => hi.held_mem c' (List.mem_of_mem_erase hc'), ?_, ?_⟩
  · intro n hn hl
    show (s.used.mapPath c.path BWLDLimPending (· - 1) n.nodename BWLDLimPending).toNat = List.countP _ (s.held.erase c)
    rw [List.countP_erase, mapPath_pending hp hcn hn hl]
    by_cases hmem : n ∈ c.path
    · rw [if_pos hmem, pred_toNat (used_pos hp hi hc hmem hl), hi.exact n hn hl]
      simp [Ledger.outstanding, hmem, hc]
    · rw [if_neg hmem, hi.exact n hn hl]
      simp [Ledger.outstanding, hmem]
  · intro n hn limit hlim h0
    show uint64ToFloat (s.used.mapPath c.path BWLDLimPending (· - 1) n.nodename BWLDLimPending) ≤ _
    rw [mapPath_pending hp hcn hn ⟨limit, hlim, h0⟩]
    refine le_trans ?_ (hi.rounded n hn limit hlim h0)
    split
    · rename_i hmem
      refine roundSig_mono (by norm_num) ?_
      rw [pred_toNat (used_pos hp hi hc hmem ⟨limit, hlim, h0⟩)]
      exact Nat.sub_le _ _
    · exact le_rfl

/-- **One step** keeps the counters equal to the grants outstanding. -/
theorem LedgerInv.step (hp : PolicyInv policy) (hi : LedgerInv policy s) {e : LedgerEvent}
    (hroom : s.Room e) {s' : Ledger} (h : s.step policy e = some s') : LedgerInv policy s' := by
  cases e with
  | request c =>
    simp only [Ledger.step] at h
    split at h
    · rename_i hc
      cases h
      split
      · rename_i hr; exact hi.request hp hc hroom hr
      · rename_i hr
        rw [(pending_request hp hc s.used).2.1 (by simpa using hr)]
        exact hi
    · cases h
  | release c =>
    simp only [Ledger.step] at h
    split at h
    · rename_i hc
      cases h
      rw [if_pos (release_ok hp hi hc)]
      exact hi.release hp hc
    · cases h

end Step

/-! ## Whole runs -/

/-- From `used` to `used'` one unit was booked: one more at the limited classes of the path,
    everything else as before. -/
def OneMore (path : List PolicyNode) (used used' : Used) : Prop :=
  ∀ name l, (used' name l).toNat =
    (used name l).toNat + if l = BWLDLimPending ∧ OnPath path BWLDLimPending name then 1 else 0

/-- What the claims of the accounting amount to in one state. -/
structure PendingExact (policy : Policy) (s : Ledger) : Prop where
  denied : ∀ c ∈ policy.nodes,
    (resourceDemand c BWLDMESGREQUEST pendingUnit s.used).1 = false →
      (resourceDemand c BWLDMESGREQUEST pendingUnit s.used).2 = s.used
  granted : ∀ c ∈ policy.nodes, s.RoomFor c →
    (resourceDemand c BWLDMESGREQUEST pendingUnit s.used).1 = true →
      OneMore c.path s.used (resourceDemand c BWLDMESGREQUEST pendingUnit s.used).2
  undone : ∀ c ∈ policy.nodes, s.RoomFor c →
    (resourceDemand c BWLDMESGREQUEST pendingUnit s.used).1 = true →
      resourceDemand c BWLDMESGRELEASE pendingUnit
        (resourceDemand c BWLDMESGREQUEST pendingUnit s.used).2 = (true, s.used)
  released : ∀ c ∈ s.held, (resourceDemand c BWLDMESGRELEASE pendingUnit s.used).1 = true ∧
    OneMore c.path (resourceDemand c BWLDMESGRELEASE pendingUnit s.used).2 s.used
  used_eq : ∀ n ∈ policy.nodes, n.Limited BWLDLimPending →
    (s.used n.nodename BWLDLimPending).toNat = s.outstanding n
  bounded : ∀ n ∈ policy.nodes, ∀ limit, n.limit? BWLDLimPending = some limit → limit ≠ 0 →
    2 * s.outstanding n ≤
      2 * limit.toNat + 2 ^ excess 24 limit.toNat + 2 ^ excess 24 (s.outstanding n)

section Run

variable {policy : Policy} {s : Ledger} {c : PolicyNode}

theorem oneMore_granted (hp : PolicyInv policy) (hi : LedgerInv policy s) (hc : c ∈ policy.nodes)
    (hroom : s.RoomFor c) (hr : (resourceDemand c BWLDMESGREQUEST pendingUnit s.used).1 = true) :
    OneMore c.path s.used (resourceDemand c BWLDMESGREQUEST pendingUnit s.used).2 := by
  rw [(pending_request hp hc s.used).2.2 hr]
  intro name l
  show (s.used.mapPath c.path BWLDLimPending (· + 1) name l).toNat = _
  unfold Used.mapPath
  by_cases h : l = BWLDLimPending ∧ OnPath c.path BWLDLimPending name
  · obtain ⟨rfl, a, ha, hl, rfl⟩ := id h
    rw [if_pos h, if_pos h]
    exact succ_toNat_of_room hi hp hc hroom ha hl
  · rw [if_neg h, if_neg h, Nat.add_zero]

theorem oneMore_released (hp : PolicyInv policy) (hi : LedgerInv policy s) (hc : c ∈ s.held) :
    OneMore c.path (resourceDemand c BWLDMESGRELEASE pendingUnit s.used).2 s.used := by
  rw [(pending_release hp (hi.held_mem c hc) s.used).2.2 (release_ok hp hi hc)]
  intro name l
  show _ = (s.used.mapPath c.path BWLDLimPending (· - 1) name l).toNat + _
  unfold Used.mapPath
  by_cases h : l = BWLDLimPending ∧ OnPath c.path BWLDLimPending name
  · obtain ⟨rfl, a, ha, hl, rfl⟩ := id h
    have hpos := used_pos hp hi hc ha hl
    rw [if_pos h, if_pos h, pred_toNat hpos]
    omega
  · rw [if_neg h, if_neg h, Nat.add_zero]

theorem LedgerInv.pendingExact (hp : PolicyInv policy) (hi : LedgerInv policy s) :
    PendingExact policy s where
  denied c hc hr := (pending_request hp hc s.used).2.1 hr
  granted c hc hroom hr := oneMore_granted hp hi hc hroom hr
  undone c hc hroom hr := by
    have hi' := hi.request hp hc hroom hr
    have hok := release_ok hp hi' List.mem_cons_self
    refine Prod.ext hok ?_
    have hone := oneMore_granted hp hi hc hroom hr
    have hback := oneMore_released hp hi' List.mem_cons_self
    funext name l
    have h1 := hone name l
    have h2 := hback name l
    dsimp only at h2
    refine UInt64.toNat_inj.1 ?_
    show _ = (s.used name l).toNat
    omega
  released c hc := ⟨release_ok hp hi hc, oneMore_released hp hi hc⟩
  used_eq := hi.exact
  bounded n hn limit hlim h0 := by
    rw [← hi.exact n hn ⟨limit, hlim, h0⟩]
    exact le_add_of_roundSig_le (hi.rounded n hn limit hlim h0)

/-- **In every run in which a granted request never brings the outstanding grants of a limited
    class to `2 ^ 64`, the accounting is exact and atomic in every state reached.** -/
theorem pending_accounting {lib : I2Util} (hb : PolicyBuilt lib policy)
    (h : Reach (Ledger.step policy) Ledger.Room Ledger.start s) : PendingExact policy s :=
  (h.invariant (LedgerInv.start policy)
    fun _ _ _ _ hi hok he => hi.step hb.inv hok he).pendingExact hb.inv

/-- A root with three units, and a class below it with one of them. -/
def campusPending : Policy :=
  ⟨[.root "root" [⟨2, 3⟩], .child "campus" (.root "root" [⟨2, 3⟩]) [⟨2, 1⟩]]⟩

/-- The class is granted its unit and refused another, the root is granted one, the class releases
    its own, and the root is granted a second one. -/
theorem pending_accounting_campus : ∃ s,
    (s.held.length, s.used "root" BWLDLimPending, s.used "campus" BWLDLimPending) = (2, 2, 0) ∧
      PendingExact campusPending s := by
  let campus : PolicyNode := .child "campus" (.root "root" [⟨2, 3⟩]) [⟨2, 1⟩]
  let root : PolicyNode := .root "root" [⟨2, 3⟩]
  have hrun : (replay (Ledger.step campusPending) (fun s _ => s.held.length < 100) Ledger.start
      [.request campus, .request campus, .request root, .release campus, .request root]).map
      (fun s => (s.held.length, s.used "root" BWLDLimPending, s.used "campus" BWLDLimPending)) =
        some (2, 2, 0) := by
    decide +kernel
  obtain ⟨s, hs, hfinal⟩ := Option.map_eq_some_iff.1 hrun
  refine ⟨s, hfinal, @pending_accounting _ _ plainI2Util
    ⟨["root with pending=3", "campus with parent=root, pending=1"], by decide +kernel⟩
    (Reach.of_replay (fun s e hlen => ?_) Reach.start hs)⟩
  have hroom := s.roomFor_of_length (lt_trans (Nat.add_lt_add_right (of_decide_eq_true hlen) 1)
    (by norm_num))
  cases e with
  | request c => exact hroom c
  | release c => trivial

end Run

/-! ## A counter that is full -/

/-- A root whose limit is the largest 64-bit value. -/
def fullRoot : PolicyNode := .root "root" [⟨BWLDLimPending, 18446744073709551615⟩]

/-- The ledger after `k` granted requests of the root class. -/
def fullLedger (k : Nat) : Ledger :=
  ⟨Used.zero.set "root" BWLDLimPending (UInt64.ofNat k), List.replicate k fullRoot⟩

theorem fullRoot_request (used : Used) :
    resourceDemand fullRoot BWLDMESGREQUEST pendingUnit used =
      (true, used.set "root" BWLDLimPending (used "root" BWLDLimPending + 1)) := by
  have hover : overLimit (1 + used "root" BWLDLimPending) 18446744073709551615 = false := by
    unfold overLimit uint64ToFloat
    rw [decide_eq_false_iff_not, not_lt]
    refine roundSig_mono (by norm_num) ?_
    have := (1 + used "root" BWLDLimPending).toNat_lt
    exact Nat.le_of_lt_succ this
  show demandAt BWLDMESGREQUEST pendingUnit .limInt fullRoot (fun used => (true, used)) used = _
  simp [demandAt, fullRoot, PolicyNode.limit?, PolicyNode.limits, PolicyNode.nodename, findLim,
    pendingUnit, hover, afterParent, BWLDMESGREQUEST, BWLDMESGRELEASE, BWLDMESGCLAIM]

theorem fullLedger_step (k : Nat) :
    Ledger.step ⟨[fullRoot]⟩ (fullLedger k) (.request fullRoot) = some (fullLedger (k + 1)) := by
  have hset : (Used.zero.set "root" BWLDLimPending (UInt64.ofNat k)).set "root" BWLDLimPending
      (UInt64.ofNat k + 1) = Used.zero.set "root" BWLDLimPending (UInt64.ofNat (k + 1)) := by
    funext name l
    unfold Used.set
    split
    · rw [UInt64.ofNat_add]; rfl
    · rfl
  have hval : (fullLedger k).used "root" BWLDLimPending = UInt64.ofNat k := by
    simp [fullLedger, Used.set]
  simp only [Ledger.step, List.mem_singleton, if_true, fullRoot_request, hval]
  simp only [fullLedger, hset, List.replicate_succ]

/-- With `2 ^ 64` grants outstanding the counter is zero and a held grant is refused its
    release. -/
theorem pending_counter_wraps :
    ∃ policy s n, PolicyBuilt plainI2Util policy ∧
      Reach (Ledger.step policy) anyEvent Ledger.start s ∧ n ∈ policy.nodes ∧
      n.Limited BWLDLimPending ∧ s.outstanding n = 18446744073709551616 ∧
      s.used n.nodename BWLDLimPending = 0 ∧ n ∈ s.held ∧
      (resourceDemand n BWLDMESGRELEASE pendingUnit s.used).1 = false := by
  have hzero : (fullLedger 18446744073709551616).used =
      Used.zero.set "root" BWLDLimPending 0 := rfl
  refine ⟨⟨[fullRoot]⟩, fullLedger 18446744073709551616, fullRoot,
    ⟨["root with pending=18446744073709551615"], by decide⟩,
    Reach.iterate _ ?_ (fun k _ => ⟨trivial, fullLedger_step k⟩), by decide, by decide, ?_, ?_, ?_,
    ?_⟩
  · show Ledger.mk _ _ = _
    congr 1
    funext name l
    unfold Used.set Used.zero
    split <;> rfl
  · unfold Ledger.outstanding fullLedger
    rw [List.countP_replicate, if_pos (by decide)]
  · rw [hzero]; rfl
  · unfold fullLedger
    rw [List.mem_replicate]
    exact ⟨by norm_num, rfl⟩
  · rw [hzero]; decide

end Bwctl
