import Bwctl.Tools.Ports

/-!
# The port of the peer socket (`epssock` in `bwlib/endpoint.c`)

The listening socket for the peer is bound to a port of the configured range: the range starts at
a random position, and as long as the port is in use the loop takes the next one, until the first
port comes round again.

* `single_usedFairly` — a range of one port is used as it should be.
* `ports_fair_iff` — and no other range is: the upper end is left out of every later round.
-/

set_option autoImplicit false

namespace Bwctl

/-! ## The retry loop -/

/-- What `bind` says: the socket is bound, `EADDRINUSE`, or another error. -/
inductive BindResult where
  | bound
  | inUse
  | failed
  deriving DecidableEq, Repr

/-- How the loop ends: with a port, or behind the ports that were tried. -/
inductive RetryEnd where
  | bound (port : UInt16)
  | failed (why : BindResult) (tried : List UInt16)
  deriving DecidableEq, Repr

/-- The loop, which started at `port` and is about to try `p`; `bind` sees the ports that were
tried before.  Without fuel it is still running. -/
def retryPorts (bind : List UInt16 → UInt16 → BindResult) (port : UInt16) :
    Nat → List UInt16 → UInt16 → PortRange → Option RetryEnd
  | 0, _, _, _ => none
  | fuel + 1, tried, p, portrange =>
    match bind tried p with
    | .bound => some (.bound p)
    | .failed => some (.failed .failed (tried ++ [p]))
    | .inUse =>
      if portrange.range = 0 then some (.failed .inUse (tried ++ [p]))
      else
        let next := portsNext portrange
        if next.1 = port then some (.failed .inUse (tried ++ [p]))
        else retryPorts bind port fuel (tried ++ [p]) next.1 next.2

/-- The binding of the socket in `epssock`. -/
def bindPeerSocket (random : Option UInt32) (portrange : Option PortRange)
    (bind : List UInt16 → UInt16 → BindResult) (fuel : Nat) : Option RetryEnd :=
  match portrange with
  | none =>
    match bind [] 0 with
    | .bound => some (.bound 0)
    | why => some (.failed why [0])
  | some portrange =>
    let first := portsNext (portsSetI random portrange 0)
    retryPorts bind first.1 fuel [] first.1 first.2

/-! ## Complete and fair use -/

/-- All values lie in the range, as many successive calls as the range has ports return every
port exactly once, and a peer socket that finds the ports in use has tried all of them. -/
structure UsedFairly (prange : PortRange) : Prop where
  inRange : ∀ k, prange.low ≤ portsCall prange k ∧ portsCall prange k ≤ prange.high
  cycle : ∀ k p, prange.low ≤ p → p ≤ prange.high →
    ((List.range (prange.high.toNat - prange.low.toNat + 1)).map
      fun j => portsCall prange (k + j)).count p = 1
  retried : ∀ random bind fuel tried,
    bindPeerSocket random (some prange) bind fuel = some (.failed .inUse tried) →
    ∀ p, prange.low ≤ p → p ≤ prange.high → p ∈ tried

theorem portsSetI_single (random : Option UInt32) {prange : PortRange}
    (h : prange.low = prange.high) (i : UInt16) : (portsSetI random prange i).i = prange.low := by
  have hok : (portsSetI random prange i).Ok := portsSetI_ok random i (by rw [h])
  have hlow := hok.low_le
  have hhigh := hok.le_high
  rw [portsSetI_low] at hlow
  rw [portsSetI_high, ← h] at hhigh
  exact UInt16.toNat_inj.1 (le_antisymm hhigh hlow)

/-- **A range of one port** is used completely. -/
theorem single_usedFairly {prange : PortRange} (hok : prange.Ok) (h : prange.low = prange.high) :
    UsedFairly prange := by
  have only : ∀ p, prange.low ≤ p → p ≤ prange.high → p = prange.low := fun p hlow hhigh =>
    UInt16.le_antisymm (h ▸ hhigh) hlow
  have call (k : Nat) : portsCall prange k = prange.low := by
    have hk := portsCall_bounds hok k
    exact only _ hk.1 hk.2
  refine ⟨portsCall_bounds hok, fun k p hlow hhigh => ?_, ?_⟩
  · rw [only p hlow hhigh, show prange.high.toNat - prange.low.toNat = 0 by rw [h]; omega]
    simp [call]
  · intro random bind fuel tried htried p hlow hhigh
    have hset := portsSetI_single random h 0
    have hsingle : (portsSetI random prange 0).low = (portsSetI random prange 0).high := by
      rw [portsSetI_low, portsSetI_high, h]
    -- the first port that is in use ends the loop
    unfold bindPeerSocket at htried
    dsimp only at htried
    rw [portsNext_single hsingle, hset] at htried
    cases fuel with
    | zero => cases htried
    | succ fuel =>
      unfold retryPorts at htried
      rw [if_pos ((range_eq_zero_iff _).2 hsingle)] at htried
      cases hbind : bind [] prange.low with
      | bound => rw [hbind] at htried; cases htried
      | failed => rw [hbind] at htried; cases htried
      | inUse =>
        rw [hbind] at htried
        cases htried
        simp [only p hlow hhigh]

/-- **Port ranges are used completely exactly if they are single ports.**  From two ports on the
calls behind the first one never return the upper end. -/
theorem ports_fair_iff (random random' : Option UInt32) (pspec : Option (List Char))
    (prange : PortRange) (h : portsParse random pspec = some prange) (i : UInt16) :
    UsedFairly (portsSetI random' prange i) ↔ prange.low = prange.high := by
  have hok := portsSetI_ok random' i (portsParse_ok h).ordered
  constructor
  · intro hfair
    by_contra hne
    have hlt : (portsSetI random' prange i).low.toNat < (portsSetI random' prange i).high.toNat := by
      rw [portsSetI_low, portsSetI_high]
      exact (portsParse_ok h).ordered.lt_of_ne fun heq => hne (UInt16.toNat_inj.1 heq)
    have hmem := hfair.cycle 1 (portsSetI random' prange i).high
      (UInt16.le_iff_toNat_le.2 hok.ordered) UInt16.le_rfl
    have hnone : (portsSetI random' prange i).high ∉
        (List.range ((portsSetI random' prange i).high.toNat -
          (portsSetI random' prange i).low.toNat + 1)).map
            fun j => portsCall (portsSetI random' prange i) (1 + j) := by
      intro hin
      obtain ⟨j, -, hj⟩ := List.mem_map.1 hin
      have := portsCall_succ_lt hok hlt j
      rw [Nat.add_comm, hj] at this
      exact UInt16.lt_irrefl _ this
    rw [List.count_eq_zero.2 hnone] at hmem
    cases hmem
  · intro heq
    exact single_usedFairly hok (by rw [portsSetI_low, portsSetI_high, heq])

theorem ports_fair_iff_two_hundred :
    portsParse none (some "6001-6200".toList) = some ⟨6001, 6200, 6001⟩ ∧
      (UsedFairly (portsSetI none ⟨6001, 6200, 6001⟩ 6100) ↔ (6001 : UInt16) = 6200) :=
  ⟨by decide +kernel, ports_fair_iff none none (some "6001-6200".toList) ⟨6001, 6200, 6001⟩
    (by decide +kernel) 6100⟩

/-- The range of `bwctld.conf` as it is shipped. -/
theorem upper_end_unused :
    ¬ ∀ (random random' : Option UInt32) (pspec : Option (List Char)) (prange : PortRange),
      portsParse random pspec = some prange →
      ∀ i, UsedFairly (portsSetI random' prange i) := by
  intro h
  have hfair := h none none (some "6001-6200".toList) ⟨6001, 6200, 6001⟩ (by decide +kernel) 0
  have hcount := hfair.cycle 0 6200 (by decide +kernel) (by decide +kernel)
  exact absurd hcount (by decide +kernel)

end Bwctl
