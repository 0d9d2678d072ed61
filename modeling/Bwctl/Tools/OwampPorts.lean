import Bwctl.Tools.Config

/-!
# The ports of an owamp test (`bwlib/owamp.c`, `bwlib/tools.c`)

A reservation for a test names one port of the range of the tool.  `owamp` needs the two ports
behind it as well, and passes on only the first one: `OwampInitTest` takes ports until three in
succession are consecutive.

* `endsWell_of_span` — from four ports on the window comes to rest at three consecutive ports.
* `owampFrom_stuck` — with fewer ports it never does.
* `owamp_ports_iff` — the ports are three of the range if and only if it has at least four.
-/

set_option autoImplicit false

namespace Bwctl

/-! ## `OwampInitTest` -/

/-- The key of the range that every tool shares. -/
def testPortKey : List Char := "V.test_port".toList

def toolPortKey (name : List Char) : List Char := valuePrefix ++ name ++ "_port".toList

/-- What a tool meets when it sets up its ports: whether there is memory for a range of its own,
and random bytes for its first position. -/
structure InitEnv where
  memory : Bool
  random : Option UInt32

/-- The key under which a tool finds its range: its own key, or the shared one. -/
def portKey (config : Config) (name : List Char) : List Char :=
  if (config.range? (toolPortKey name)).isSome then toolPortKey name else testPortKey

/-- `BWLPortsNext` on the range a key leads to. -/
def Config.nextPort (config : Config) (key : List Char) (prange : PortRange) : UInt16 × Config :=
  ((portsNext prange).1, config.store key (.ports (portsNext prange).2))

/-- `_BWLToolGenericInitTest`: the port of the tool. -/
def toolGenericInitTest (env : InitEnv) (config : Config) (name : List Char) (defPort : UInt16) :
    UInt16 × Config :=
  match config.range? (portKey config name) with
  | some prange => config.nextPort (portKey config name) prange
  | none =>
    if env.memory then config.nextPort testPortKey (portsSetI env.random ⟨5001, 5900, 0⟩ 5001)
    else (defPort, config)

/-- The loop of `OwampInitTest`, in which the ports are promoted to `int` before they are compared.
Without fuel it is still running. -/
def owampWindow (fuel : Nat) (toolport minPort maxPort : UInt16) (prange : PortRange) :
    Option (UInt16 × PortRange) :=
  if minPort.toNat ≠ toolport.toNat + 1 ∨ maxPort.toNat ≠ minPort.toNat + 1 then
    match fuel with
    | 0 => none
    | fuel + 1 => owampWindow fuel minPort maxPort (portsNext prange).1 (portsNext prange).2
  else some (toolport, prange)

def owampName : List Char := "owamp".toList

/-- The three calls of `BWLPortsNext` before the loop, and the loop. -/
def owampPorts (fuel : Nat) (prange : PortRange) : Option (UInt16 × PortRange) :=
  let toolport := portsNext prange
  let minPort := portsNext toolport.2
  let maxPort := portsNext minPort.2
  owampWindow fuel toolport.1 minPort.1 maxPort.1 maxPort.2

/-- `OwampInitTest`, which only ever returns `BWLErrOK`: the port it returns. -/
def owampInitTest (env : InitEnv) (fuel : Nat) (config : Config) : Option (UInt16 × Config) :=
  let (toolport, config) := toolGenericInitTest env config owampName 4000
  match config.range? (portKey config owampName) with
  | none => some (toolport, config)
  | some prange =>
    match owampPorts fuel prange with
    | none => none
    | some (toolport, prange) =>
      some (toolport, config.store (portKey config owampName) (.ports prange))

/-! ## The window -/

/-- The loop stands at a range whose next call would have returned `toolport`. -/
def owampFrom (fuel : Nat) (prange : PortRange) : Option (UInt16 × PortRange) :=
  owampWindow fuel (portsCall prange 0) (portsCall prange 1) (portsCall prange 2)
    (portsAfter prange 3)

theorem owampPorts_eq (fuel : Nat) (prange : PortRange) :
    owampPorts fuel prange = owampFrom fuel prange := rfl

/-- The three next calls return consecutive ports. -/
def Consecutive (prange : PortRange) : Prop :=
  (portsCall prange 1).toNat = (portsCall prange 0).toNat + 1 ∧
    (portsCall prange 2).toNat = (portsCall prange 1).toNat + 1

theorem owampFrom_of_consecutive (fuel : Nat) {prange : PortRange} (h : Consecutive prange) :
    owampFrom fuel prange = some (portsCall prange 0, portsAfter prange 3) := by
  obtain ⟨hone, htwo⟩ := h
  unfold owampFrom owampWindow
  rw [if_neg (by omega)]

theorem owampFrom_of_not_consecutive {prange : PortRange} (h : ¬ Consecutive prange) :
    owampFrom 0 prange = none ∧
      ∀ fuel, owampFrom (fuel + 1) prange = owampFrom fuel (portsNext prange).2 := by
  have hgo : (portsCall prange 1).toNat ≠ (portsCall prange 0).toNat + 1 ∨
      (portsCall prange 2).toNat ≠ (portsCall prange 1).toNat + 1 := by
    unfold Consecutive at h
    omega
  unfold owampFrom
  refine ⟨?_, fun fuel => ?_⟩
  · unfold owampWindow
    rw [if_pos hgo]
  · rw [owampWindow, if_pos hgo]
    rfl

/-- The offset of the position in the range. -/
def PortRange.offset (prange : PortRange) : Nat := prange.i.toNat - prange.low.toNat

def PortRange.span (prange : PortRange) : Nat := prange.high.toNat - prange.low.toNat

@[simp] theorem portsNext_span (prange : PortRange) :
    (portsNext prange).2.span = prange.span := by
  unfold PortRange.span
  rw [portsNext_low, portsNext_high]

theorem portsNext_offset {prange : PortRange} (h : prange.Ok) (hspan : 0 < prange.span) :
    (portsNext prange).2.offset = (prange.offset + 1) % prange.span := by
  have := portsNext_i h (by unfold PortRange.span at hspan; omega)
  unfold PortRange.offset PortRange.span at *
  rw [portsNext_low, this]
  omega

theorem PortRange.Ok.i_eq {prange : PortRange} (h : prange.Ok) :
    prange.i.toNat = prange.low.toNat + prange.offset := by
  have := h.low_le
  unfold PortRange.offset
  omega

/-- The three next calls, by their offsets. -/
theorem consecutive_iff {prange : PortRange} (h : prange.Ok) (hspan : 0 < prange.span) :
    Consecutive prange ↔
      (prange.offset + 1) % prange.span = prange.offset + 1 ∧
        ((prange.offset + 1) % prange.span + 1) % prange.span =
          (prange.offset + 1) % prange.span + 1 := by
  have hone := portsNext_ok h
  have htwo := portsNext_ok hone
  have hspan' : 0 < (portsNext prange).2.span := by rwa [portsNext_span]
  have hcall₀ : (portsCall prange 0).toNat = prange.low.toNat + prange.offset := by
    unfold portsCall portsAfter
    rw [portsNext_fst, h.i_eq]
  have hcall₁ : (portsCall prange 1).toNat =
      prange.low.toNat + (prange.offset + 1) % prange.span := by
    simp only [portsCall, portsAfter, portsNext_fst]
    rw [hone.i_eq, portsNext_low, portsNext_offset h hspan]
  have hcall₂ : (portsCall prange 2).toNat =
      prange.low.toNat + ((prange.offset + 1) % prange.span + 1) % prange.span := by
    simp only [portsCall, portsAfter, portsNext_fst]
    rw [htwo.i_eq, portsNext_low, portsNext_low, portsNext_offset hone hspan', portsNext_span,
      portsNext_offset h hspan]
  unfold Consecutive
  omega

/-- **Fewer than four ports** hold no window. -/
theorem not_consecutive {prange : PortRange} (h : prange.Ok) (hspan : prange.span < 3) :
    ¬ Consecutive prange := by
  rcases Nat.eq_zero_or_pos prange.span with hzero | hpos
  · -- a single port is returned again and again
    have hsingle : prange.low = prange.high := by
      have := h.ordered
      rw [← UInt16.toNat_inj]
      unfold PortRange.span at hzero
      omega
    unfold Consecutive portsCall
    rw [portsAfter_single hsingle, portsAfter_single hsingle]
    omega
  · rw [consecutive_iff h hpos]
    have hone := Nat.mod_lt (prange.offset + 1) hpos
    have htwo := Nat.mod_lt ((prange.offset + 1) % prange.span + 1) hpos
    omega

/-- **With fewer than four ports** the loop does not end. -/
theorem owampFrom_stuck (fuel : Nat) : ∀ {prange : PortRange}, prange.Ok → prange.span < 3 →
    owampFrom fuel prange = none := by
  induction fuel with
  | zero =>
    intro prange h hspan
    exact (owampFrom_of_not_consecutive (not_consecutive h hspan)).1
  | succ fuel ih =>
    intro prange h hspan
    rw [(owampFrom_of_not_consecutive (not_consecutive h hspan)).2]
    exact ih (portsNext_ok h) (by rwa [portsNext_span])

/-- A port of which the two behind it lie in the range as well. -/
def ThreePorts (prange : PortRange) (port : UInt16) : Prop :=
  prange.low.toNat ≤ port.toNat ∧ port.toNat + 2 ≤ prange.high.toNat

/-- The loop ends at three ports of the range. -/
def EndsWell (prange : PortRange) : Prop :=
  ∃ fuel port prange', owampFrom fuel prange = some (port, prange') ∧ ThreePorts prange port

theorem endsWell_of_consecutive {prange : PortRange} (h : prange.Ok) (hc : Consecutive prange) :
    EndsWell prange := by
  have hfirst := portsCall_bounds h 0
  have hlast := portsCall_bounds h 2
  rw [UInt16.le_iff_toNat_le, UInt16.le_iff_toNat_le] at hfirst hlast
  refine ⟨0, _, _, owampFrom_of_consecutive 0 hc, hfirst.1, ?_⟩
  have := hc.1
  have := hc.2
  omega

theorem endsWell_of_next {prange : PortRange} (h : prange.Ok)
    (hnext : EndsWell (portsNext prange).2) : EndsWell prange := by
  by_cases hc : Consecutive prange
  · exact endsWell_of_consecutive h hc
  · obtain ⟨fuel, port, prange', hrun, hports⟩ := hnext
    refine ⟨fuel + 1, port, prange', ?_, ?_⟩
    · rw [(owampFrom_of_not_consecutive hc).2, hrun]
    · unfold ThreePorts at hports ⊢
      rwa [portsNext_low, portsNext_high] at hports

theorem endsWell_early {prange : PortRange} (h : prange.Ok)
    (hroom : prange.offset + 3 ≤ prange.span) : EndsWell prange := by
  refine endsWell_of_consecutive h ((consecutive_iff h (by omega)).2 ?_)
  rw [Nat.mod_eq_of_lt (show prange.offset + 1 < prange.span by omega)]
  exact ⟨rfl, Nat.mod_eq_of_lt (by omega)⟩

/-- **From four ports on** the loop ends, from every position: behind the wrap-around at the
latest the ports are consecutive. -/
theorem endsWell_of_span {prange : PortRange} (h : prange.Ok) (hspan : 3 ≤ prange.span) :
    EndsWell prange := by
  have last {p : PortRange} (hp : p.Ok) (hs : 3 ≤ p.span) (ho : p.offset + 1 = p.span) :
      EndsWell p := by
    refine endsWell_of_next hp (endsWell_early (portsNext_ok hp) ?_)
    rw [portsNext_span, portsNext_offset hp (by omega), ho, Nat.mod_self]
    omega
  have below {p : PortRange} (hp : p.Ok) (hs : 3 ≤ p.span) (ho : p.offset + 1 ≤ p.span) :
      EndsWell p := by
    by_cases hearly : p.offset + 3 ≤ p.span
    · exact endsWell_early hp hearly
    by_cases hlast : p.offset + 1 = p.span
    · exact last hp hs hlast
    · refine endsWell_of_next hp (last (portsNext_ok hp) (by rwa [portsNext_span]) ?_)
      rw [portsNext_span, portsNext_offset hp (by omega), Nat.mod_eq_of_lt (by omega)]
      omega
  by_cases hhigh : prange.offset + 1 ≤ prange.span
  · exact below h hspan hhigh
  · -- only a random draw stands at the upper end itself
    refine endsWell_of_next h (below (portsNext_ok h) (by rwa [portsNext_span]) ?_)
    have := Nat.mod_lt (prange.offset + 1) (show prange.span > 0 by omega)
    rw [portsNext_span, portsNext_offset h (by omega)]
    omega

theorem endsWell_iff {prange : PortRange} (h : prange.Ok) : EndsWell prange ↔ 3 ≤ prange.span := by
  refine ⟨fun ⟨fuel, port, prange', hrun, _⟩ => ?_, endsWell_of_span h⟩
  by_contra hspan
  rw [owampFrom_stuck fuel h (by omega)] at hrun
  cases hrun

/-! ## The whole call -/

theorem Config.range?_store_self (config : Config) (key : List Char) (prange : PortRange)
    (htype : key.take 2 = valuePrefix) (hlen : key.length < CONTEXT_MAX_KEYLEN) :
    (config.store key (.ports prange)).range? key = some prange := by
  unfold range?
  rw [getV_store_self config _ htype hlen]

theorem Config.range?_store_of_ne (config : Config) (key key' : List Char) (prange : PortRange)
    (h : key'.take CONTEXT_MAX_KEYLEN ≠ key) :
    (config.store key (.ports prange)).range? key' = config.range? key' := by
  unfold range?
  rw [getV_store_of_ne config _ h]

/-- A range that is stored under the key of the tool is the one the tool finds. -/
theorem range?_portKey_store (config : Config) (prange : PortRange) :
    (config.store (portKey config owampName) (.ports prange)).range?
      (portKey (config.store (portKey config owampName) (.ports prange)) owampName) =
        some prange := by
  by_cases howamp : (config.range? (toolPortKey owampName)).isSome = true
  · have hkey : portKey config owampName = toolPortKey owampName := if_pos howamp
    have hself := config.range?_store_self (toolPortKey owampName) prange (by decide)
      (by decide)
    rw [hkey]
    unfold portKey
    rw [hself]
    simpa using hself
  · have hkey : portKey config owampName = testPortKey := if_neg howamp
    have hself := config.range?_store_self testPortKey prange (by decide) (by decide)
    have hother := config.range?_store_of_ne testPortKey (toolPortKey owampName) prange
      (by decide)
    rw [hkey]
    unfold portKey
    rw [hother, if_neg howamp]
    exact hself

theorem owampInitTest_eq (env : InitEnv) (fuel : Nat) {config : Config} {prange : PortRange}
    (h : config.range? (portKey config owampName) = some prange) :
    (∃ port config', owampInitTest env fuel config = some (port, config') ∧
      ThreePorts prange port) ↔
      ∃ port prange', owampFrom fuel (portsNext prange).2 = some (port, prange') ∧
        ThreePorts prange port := by
  unfold owampInitTest toolGenericInitTest Config.nextPort
  rw [h]
  dsimp only
  rw [range?_portKey_store]
  dsimp only
  rw [owampPorts_eq]
  cases owampFrom fuel (portsNext prange).2 with
  | none => simp
  | some r =>
    obtain ⟨port, prange'⟩ := r
    simp

/-- **The ports of an owamp reservation.**  At every position of a range, `OwampInitTest` ends
with three consecutive ports of the range if and only if the range has at least four ports;
otherwise it never returns. -/
theorem owamp_ports_iff (prange : PortRange) (i : UInt16) (hlow : prange.low ≤ i)
    (hhigh : i ≤ prange.high) (env : InitEnv) (config : Config)
    (hfound : config.range? (portKey config owampName) = some { prange with i := i }) :
    (∃ fuel port config', owampInitTest env fuel config = some (port, config') ∧
      ThreePorts prange port) ↔ prange.low.toNat + 3 ≤ prange.high.toNat := by
  have hok : PortRange.Ok { prange with i := i } :=
    ⟨UInt16.le_iff_toNat_le.1 hlow, UInt16.le_iff_toNat_le.1 hhigh⟩
  have hnext := portsNext_ok hok
  have hends := endsWell_iff hnext
  have hspan : (portsNext { prange with i := i }).2.span =
      prange.high.toNat - prange.low.toNat := portsNext_span _
  have hthree (port : UInt16) : ThreePorts (portsNext { prange with i := i }).2 port ↔
      ThreePorts prange port := by
    unfold ThreePorts
    rw [portsNext_low, portsNext_high]
  have hordered := hok.ordered
  dsimp only at hordered
  calc (∃ fuel port config', owampInitTest env fuel config = some (port, config') ∧
        ThreePorts prange port)
      ↔ EndsWell (portsNext { prange with i := i }).2 := by
        unfold EndsWell
        refine exists_congr fun fuel => ?_
        simp only [hthree]
        exact owampInitTest_eq env fuel hfound
    _ ↔ prange.low.toNat + 3 ≤ prange.high.toNat := by
        rw [hends, hspan]
        omega

theorem owamp_ports_iff_four :
    let config : Config := [(testPortKey, .ports ⟨5001, 5004, 5003⟩)]
    portsParse none (some "5001 - 5004".toList) = some ⟨5001, 5004, 5001⟩ ∧
      ((∃ fuel port config', owampInitTest ⟨true, none⟩ fuel config = some (port, config') ∧
        ThreePorts ⟨5001, 5004, 5001⟩ port) ↔ 5001 + 3 ≤ 5004) :=
  ⟨by decide +kernel, owamp_ports_iff ⟨5001, 5004, 5001⟩ 5003 (by decide) (by decide)
    ⟨true, none⟩ _ (by decide +kernel)⟩

/-- With the three ports 5001 to 5003, which are just enough, the daemon is stuck. -/
theorem three_ports_stuck :
    ¬ ∀ (random : Option UInt32) (pspec : Option (List Char)) (prange : PortRange),
      portsParse random pspec = some prange → ∀ i : UInt16, prange.low ≤ i → i ≤ prange.high →
      ∀ (env : InitEnv) (config : Config),
      config.range? (portKey config owampName) = some { prange with i := i } →
      ∃ fuel port config', owampInitTest env fuel config = some (port, config') ∧
        ThreePorts prange port := by
  intro h
  have hfound : Config.range? [(testPortKey, .ports ⟨5001, 5003, 5001⟩)]
      (portKey [(testPortKey, .ports ⟨5001, 5003, 5001⟩)] owampName) =
        some ⟨5001, 5003, 5001⟩ := by decide +kernel
  obtain ⟨fuel, hends⟩ := h none (some "5001-5003".toList) ⟨5001, 5003, 5001⟩ (by decide +kernel)
    5001 (by decide) (by decide) ⟨true, none⟩ _ hfound
  rw [owampInitTest_eq _ fuel hfound] at hends
  obtain ⟨port, prange', hrun, -⟩ := hends
  rw [owampFrom_stuck fuel (portsNext_ok ⟨by decide, by decide⟩) (by decide)] at hrun
  cases hrun

end Bwctl
