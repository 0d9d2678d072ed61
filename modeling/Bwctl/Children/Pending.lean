import Bwctl.Children.System
import Bwctl.Broker.SlotList

/-!
# Units of `pending` held by the sessions of the children

A child holds a unit from the moment the broker grants it until the broker takes the release
in; its session shows the unit through its closure, set when `BWLDCheckTestPolicy` returns and
gone when the session is freed.  A denied reservation drops the closure without a release.

* `System.ledger` — the counters with the units the children hold.
* `Proc.receive_unit` — only a refused reservation loses a unit.
* `System.ledger_step` — one event keeps the counters equal to the units held.
* `pending_never_leaks` — in every run without a refused reservation the counters are the live
  sessions, up to the calls under way, and zero when every session has ended.
* `refused_reservation_leaks` — a refused reservation leaves one unit with nobody.
* `leaked_unit` — a quiet system whose only session was refused, with one unit in use.
-/

set_option autoImplicit false

namespace Bwctl

open GuardedRuns Population

/-- The broker has a unit booked for a child at that point. -/
def Pc.holdsUnit (pipe : Pipe) (closure : Option TestInfo) : Pc → Bool
  | checking _ _ =>
    match pipe with
    | .reply reply => reply.read = BWLDMESGOK
    | _ => false
  | reserving _ _ => true
  | ready => closure.isSome
  | releasing _ =>
    match pipe with
    | .query _ => true
    | _ => false
  | _ => false

namespace Proc

/-- The broker has a unit booked for the child. -/
def holdsUnit (p : Proc) : Bool := p.pc.holdsUnit p.pipe p.closure

/-- The class of the unit a child holds. -/
def unit? (p : Proc) : Option PolicyNode := if p.holdsUnit then some p.node else none

/-- The child is inside `BWLDCheckTestPolicy` or `BWLDTestComplete`. -/
def inCall (p : Proc) : Bool :=
  match p.pc with
  | .checking _ _ => true
  | .reserving _ _ => true
  | .releasing _ => true
  | .completing _ => true
  | _ => false

theorem unit?_of_not {p : Proc} (h : p.holdsUnit = false) : p.unit? = none := by
  unfold unit?
  rw [h]
  rfl

theorem unit?_of_holds {p : Proc} (h : p.holdsUnit = true) : p.unit? = some p.node := by
  unfold unit?
  rw [h]
  rfl

theorem unit?_congr {p p' : Proc} (h : p'.holdsUnit = p.holdsUnit) (hn : p'.node = p.node) :
    p'.unit? = p.unit? := by
  unfold unit?
  rw [h, hn]

theorem askReservation_holds (p : Proc) (tinfo : TestInfo) (r : TestRequest) :
    (p.askReservation tinfo r).holdsUnit = true := rfl

theorem done_holds (p : Proc) : p.done.holdsUnit = false := rfl

theorem ready_holds {p : Proc} (h : p.pc = .ready) : p.holdsUnit = p.closure.isSome := by
  unfold holdsUnit
  rw [h]
  rfl

/-- A request keeps the unit of a session, and asks for one otherwise. -/
theorem checkTestPolicy_unit {p : Proc} (hr : p.pc = .ready) (host : HostState) (r : TestRequest) :
    (p.checkTestPolicy host r).unit? = p.unit? := by
  refine unit?_congr ?_ (p.checkTestPolicy_ident host r).1
  rw [ready_holds hr]
  unfold checkTestPolicy
  split
  · rename_i tinfo hc
    rw [askReservation_holds, hc]
    rfl
  · rename_i hc
    rw [hc]
    split <;> rfl

theorem testComplete_unit {p : Proc} (hp : p.Ok) (hr : p.pc = .ready) {tinfo : TestInfo}
    (hc : p.closure = some tinfo) : (p.testComplete tinfo).unit? = p.unit? := by
  refine unit?_congr ?_ (p.testComplete_ident tinfo).1
  rw [ready_holds hr, hc]
  unfold testComplete
  rw [hp.res tinfo hc, if_neg (by decide)]
  rfl

/-- **Reading an answer** keeps the unit of a child, unless a reservation was refused. -/
theorem receive_unit {p : Proc} (hp : p.Ok) {reply : ChldReply} (hr : p.pipe = .reply reply)
    (hok : ∀ tinfo r, p.pc = .reserving tinfo r → reply.read = BWLDMESGOK) :
    (p.receive reply).unit? = p.unit? := by
  refine unit?_congr ?_ (p.receive_ident reply).1
  have hw := hp.answered reply hr
  have hc := hp.closure
  unfold receive
  cases hpc : p.pc with
  | classing =>
    rw [hpc] at hc
    have hnone : p.closure = none := hc
    have hold : p.holdsUnit = false := by
      unfold holdsUnit
      rw [hpc]
      rfl
    rw [hold]
    dsimp only
    by_cases hread : reply.read = BWLDMESGOK
    · rw [if_pos hread, ready_holds rfl, hnone]
      rfl
    · rw [if_neg hread]
      rfl
  | checking tinfo r =>
    have hold : p.holdsUnit = decide (reply.read = BWLDMESGOK) := by
      unfold holdsUnit
      rw [hpc, hr]
      rfl
    rw [hold]
    dsimp only
    split
    · rename_i h
      rw [askReservation_holds, decide_eq_true h]
    · rename_i h
      rw [done_holds, decide_eq_false h]
  | reserving tinfo r =>
    have hold : p.holdsUnit = true := by
      unfold holdsUnit
      rw [hpc]
      rfl
    dsimp only
    rw [if_pos (hok tinfo r hpc), hold]
    rfl
  | releasing tinfo =>
    have hold : p.holdsUnit = false := by
      unfold holdsUnit
      rw [hpc, hr]
      rfl
    rw [hold]
    rfl
  | completing tinfo =>
    have hold : p.holdsUnit = false := by
      unfold holdsUnit
      rw [hpc]
      rfl
    rw [hold]
    rfl
  | ready => exact absurd hw (by rw [hpc]; exact id)
  | refused => exact absurd hw (by rw [hpc]; exact id)

end Proc

/-! ## The ledger of the system -/

/-- The classes of the units the children hold. -/
def System.units (s : System) : List PolicyNode := s.procs.filterMap Proc.unit?

/-- The counters of the broker with the units the children hold. -/
def System.ledger (s : System) : Ledger := ⟨s.broker.used, s.units⟩

theorem LedgerInv.of_perm {policy : Policy} {used : Used} {held held' : List PolicyNode}
    (hi : LedgerInv policy ⟨used, held⟩) (h : held'.Perm held) : LedgerInv policy ⟨used, held'⟩ where
  held_mem c hc := hi.held_mem c (h.mem_iff.1 hc)
  exact n hn hl := (hi.exact n hn hl).trans (h.countP_eq _).symm
  rounded := hi.rounded

theorem length_le_of_nodup {l : List UInt32} (h : l.Nodup) : l.length ≤ 2 ^ 32 := by
  have hcard : (l.map UInt32.toNat).toFinset.card ≤ (Finset.range (2 ^ 32)).card := by
    refine Finset.card_le_card fun x hx => ?_
    obtain ⟨u, -, rfl⟩ := List.mem_map.1 (List.mem_toFinset.1 hx)
    exact Finset.mem_range.2 u.toNat_lt
  rw [List.toFinset_card_of_nodup (h.map fun _ _ => UInt32.toNat_inj.1), List.length_map,
    Finset.card_range] at hcard
  exact hcard

section Step

variable {ctx : Context} {policy : Policy} {s s' : System} {i : Nat} {p p' : Proc} {c : ChldState}

/-- There are fewer processes than a 64-bit counter counts. -/
theorem System.Linked.room (hs : s.Linked policy) (n : PolicyNode) : s.ledger.RoomFor n := by
  intro a _ _
  have hcount : s.ledger.outstanding a ≤ s.units.length := List.countP_le_length
  have hunits : s.units.length ≤ s.procs.length := List.length_filterMap_le _ _
  have hprocs := length_le_of_nodup hs.pids
  rw [List.length_map] at hprocs
  omega

/-- One child moves by itself and keeps its unit. -/
theorem units_setProc (hp : s.procs[i]? = some p) (hu : p'.unit? = p.unit?) :
    (s.setProc i p').ledger = s.ledger := by
  unfold System.ledger System.units System.setProc
  rw [eq_of_same hp hu]

/-- Serving a question keeps the counters equal to the units held. -/
theorem ledger_serve (hp : PolicyInv policy) (hs : s.Linked policy) (hi : LedgerInv policy s.ledger)
    (hpi : s.procs[i]? = some p) {mesg : PipeMesg} (hm : p.pipe = .query mesg) {reply : ChldReply}
    {used' : Used} (hserved : ServedUsed p s.broker.used used' reply) :
    LedgerInv policy ⟨used', (s.procs.set i (p.answer reply)).filterMap Proc.unit?⟩ := by
  obtain ⟨c, -, hlink⟩ := hs.paired.partner hpi
  have hask := hlink.ok.asked mesg hm
  have hnode : p.node ∈ policy.nodes := hlink.mem
  have hused : LedgerInv policy ⟨s.broker.used, s.units⟩ := hi
  -- a child at one of the other points keeps its unit, and the counters stay
  have hsame : used' = s.broker.used → (p.answer reply).holdsUnit = p.holdsUnit →
      LedgerInv policy ⟨used', (s.procs.set i (p.answer reply)).filterMap Proc.unit?⟩ := by
    intro hu hh
    rw [hu, eq_of_same hpi (Proc.unit?_congr hh rfl)]
    exact hi
  have hanswer : (p.answer reply).holdsUnit = p.pc.holdsUnit (.reply reply) p.closure := rfl
  have hbefore : p.holdsUnit = p.pc.holdsUnit (.query mesg) p.closure := by
    unfold Proc.holdsUnit
    rw [hm]
  unfold ServedUsed at hserved
  cases hpc : p.pc with
  | checking tinfo r =>
    rw [hpc] at hserved hanswer hbefore
    obtain ⟨rfl, rfl⟩ := hserved
    cases hgrant : (resourceDemand p.node BWLDMESGREQUEST pendingUnit s.broker.used).1 with
    | true =>
      rw [hgrant] at hanswer
      have hgain := perm_of_gain (b := p.answer (.response (okOrDenied true))) hpi
        (Proc.unit?_of_not hbefore) (Proc.unit?_of_holds (p := p.answer _) hanswer)
      exact (hused.request hp hnode (hs.room p.node) hgrant).of_perm hgain
    | false =>
      have hkeep := (pending_request hp hnode s.broker.used).2.1 hgrant
      rw [hgrant] at hsame hanswer
      refine hsame hkeep ?_
      rw [hanswer, hbefore]
      rfl
  | releasing tinfo =>
    rw [hpc] at hserved hanswer hbefore
    subst hserved
    have hloss := perm_of_loss (b := p.answer reply) hpi (Proc.unit?_of_holds hbefore)
      (Proc.unit?_of_not hanswer)
    have hheld : p.node ∈ s.units := by
      refine List.mem_filterMap.2 ⟨p, ?_, Proc.unit?_of_holds hbefore⟩
      exact List.mem_of_getElem? hpi
    exact (hused.release hp hheld).of_perm hloss
  | classing =>
    rw [hpc] at hserved hanswer hbefore
    exact hsame hserved (hanswer.trans hbefore.symm)
  | reserving tinfo r =>
    rw [hpc] at hserved hanswer hbefore
    exact hsame hserved (hanswer.trans hbefore.symm)
  | completing tinfo =>
    rw [hpc] at hserved hanswer hbefore
    exact hsame hserved (hanswer.trans hbefore.symm)
  | ready =>
    rw [hpc] at hask
    exact hask.elim
  | refused =>
    rw [hpc] at hask
    exact hask.elim

/-- Not an answer that refuses a reservation. -/
def Proc.readsGrant (p : Proc) : Bool :=
  match p.pc, p.pipe with
  | .reserving _ _, .reply reply => reply.read = BWLDMESGOK
  | _, _ => true

/-- The guard of the runs: no child reads that its reservation was refused. -/
def ReservationGranted (s : System) : SystemEvent → Prop
  | .receive i => (s.procs[i]?).all Proc.readsGrant = true
  | _ => True

instance (s : System) (e : SystemEvent) : Decidable (ReservationGranted s e) := by
  cases e <;> unfold ReservationGranted <;> infer_instance

/-- **Every event without a refused reservation** keeps the counters equal to the units held. -/
theorem System.ledger_step (hp : PolicyInv policy) (hs : s.Linked policy)
    (hi : LedgerInv policy s.ledger) {e : SystemEvent} (hok : ReservationGranted s e)
    (h : s.step ctx policy e = some s') : LedgerInv policy s'.ledger := by
  cases e with
  | connect pid node =>
    simp only [System.step] at h
    split at h
    · cases h
      refine hi.of_perm ?_
      show ((s.procs ++ [Proc.start pid node s.broker.used]).filterMap Proc.unit?).Perm _
      rw [List.filterMap_append, List.filterMap_cons_none rfl, List.filterMap_nil, List.append_nil]
      exact List.Perm.refl _
    · cases h
  | serve i env =>
    obtain ⟨p, hpi, h⟩ := Option.bind_eq_some_iff.1 h
    split at h
    · rename_i mesg hm
      obtain ⟨c, hc, rfl⟩ := Option.map_eq_some_iff.1 h
      obtain ⟨-, -, -, hserved⟩ := (hs.paired.related i c p hc hpi).serve ctx i hp hc
        hm env
      exact ledger_serve hp hs hi hpi hm hserved
    · cases h
  | receive i =>
    obtain ⟨p, hpi, h⟩ := Option.bind_eq_some_iff.1 h
    split at h
    · rename_i reply hr
      cases h
      obtain ⟨c, -, hlink⟩ := hs.paired.partner hpi
      have hgrant : ∀ tinfo r, p.pc = .reserving tinfo r → reply.read = BWLDMESGOK := by
        intro tinfo r hpc
        have hreads : (s.procs[i]?).all Proc.readsGrant = true := hok
        rw [hpi] at hreads
        simpa [Proc.readsGrant, hpc, hr] using hreads
      rw [units_setProc hpi (Proc.receive_unit hlink.ok hr hgrant)]
      exact hi
    · cases h
  | request i host r =>
    obtain ⟨p, hpi, h⟩ := Option.bind_eq_some_iff.1 h
    split at h
    · rename_i hready
      cases h
      rw [units_setProc hpi (Proc.checkTestPolicy_unit hready host r)]
      exact hi
    · cases h
  | free i =>
    obtain ⟨p, hpi, h⟩ := Option.bind_eq_some_iff.1 h
    split at h
    · rename_i hready
      obtain ⟨tinfo, hc, rfl⟩ := Option.map_eq_some_iff.1 h
      obtain ⟨c, -, hlink⟩ := hs.paired.partner hpi
      rw [units_setProc hpi (Proc.testComplete_unit hlink.ok hready hc)]
      exact hi
    · cases h
  | exit i =>
    obtain ⟨p, hpi, h⟩ := Option.bind_eq_some_iff.1 h
    split at h
    · rename_i hleave
      obtain ⟨b, hb, rfl⟩ := Option.map_eq_some_iff.1 h
      obtain ⟨c, -, rfl⟩ := Option.map_eq_some_iff.1 hb
      have hnone : p.holdsUnit = false := by
        unfold Proc.holdsUnit
        rcases hleave.1 with hpc | hpc
        · rw [hpc, hleave.2]; rfl
        · rw [hpc]; rfl
      refine hi.of_perm ?_
      show ((s.procs.eraseIdx i).filterMap Proc.unit?).Perm s.units
      rw [eraseIdx_of_none hpi (Proc.unit?_of_not hnone)]
      exact List.Perm.refl _
    · cases h

end Step

/-! ## Sessions -/

namespace System

/-- The sessions of classes at or below `n` that have a closure. -/
def liveSessions (s : System) (n : PolicyNode) : Nat :=
  s.procs.countP fun p => p.closure.isSome && decide (n ∈ p.node.path)

/-- The calls that have been granted a unit and have not set the closure yet. -/
def grantsUnderWay (s : System) (n : PolicyNode) : Nat :=
  s.procs.countP fun p => (p.holdsUnit && decide (n ∈ p.node.path)) &&
    !(p.closure.isSome && decide (n ∈ p.node.path))

/-- The sessions whose unit the broker has taken back and that are not freed yet. -/
def releasesUnderWay (s : System) (n : PolicyNode) : Nat :=
  s.procs.countP fun p => !(p.holdsUnit && decide (n ∈ p.node.path)) &&
    (p.closure.isSome && decide (n ∈ p.node.path))

/-- No child is inside `BWLDCheckTestPolicy` or `BWLDTestComplete`. -/
def Settled (s : System) : Prop := ∀ p ∈ s.procs, p.inCall = false

/-- Every child has ended its sessions. -/
def Ended (s : System) : Prop := s.Settled ∧ ∀ p ∈ s.procs, p.closure = none

theorem outstanding_eq (s : System) (n : PolicyNode) :
    s.ledger.outstanding n =
      s.procs.countP fun p => p.holdsUnit && decide (n ∈ p.node.path) := by
  show (s.procs.filterMap Proc.unit?).countP _ = _
  rw [List.countP_filterMap]
  refine List.countP_congr fun p _ => ?_
  unfold Proc.unit?
  cases p.holdsUnit <;> simp

/-- Units held against live sessions. -/
theorem outstanding_exchange (s : System) (n : PolicyNode) :
    s.ledger.outstanding n + s.releasesUnderWay n = s.liveSessions n + s.grantsUnderWay n := by
  rw [outstanding_eq]
  exact countP_exchange _ _ s.procs

/-- Outside the calls the unit of a child shows in its closure. -/
theorem holdsUnit_of_settled {p : Proc} (hp : p.Ok) (h : p.inCall = false) :
    p.holdsUnit = p.closure.isSome := by
  have hc := hp.closure
  unfold Proc.inCall at h
  unfold Proc.holdsUnit
  cases hpc : p.pc with
  | classing =>
    rw [hpc] at hc
    have hnone : p.closure = none := hc
    rw [hnone]
    rfl
  | refused =>
    rw [hpc] at hc
    have hnone : p.closure = none := hc
    rw [hnone]
    rfl
  | ready => rfl
  | checking tinfo r => rw [hpc] at h; cases h
  | reserving tinfo r => rw [hpc] at h; cases h
  | releasing tinfo => rw [hpc] at h; cases h
  | completing tinfo => rw [hpc] at h; cases h

theorem outstanding_of_settled {policy : Policy} {s : System} (hs : s.Linked policy)
    (h : s.Settled) (n : PolicyNode) : s.ledger.outstanding n = s.liveSessions n := by
  rw [outstanding_eq]
  refine List.countP_congr fun p hp => ?_
  obtain ⟨i, hi⟩ := List.mem_iff_getElem?.1 hp
  obtain ⟨c, -, hlink⟩ := hs.paired.partner hi
  rw [holdsUnit_of_settled hlink.ok (h p hp)]

end System

/-- The counter of every limited class is the number of live sessions at or below it: up to the
    grants and releases under way in general, exactly when no call is under way, and zero when
    every session has ended. -/
structure PendingMatches (policy : Policy) (s : System) : Prop where
  moving : ∀ n ∈ policy.nodes, n.Limited BWLDLimPending →
    (s.broker.used n.nodename BWLDLimPending).toNat + s.releasesUnderWay n =
      s.liveSessions n + s.grantsUnderWay n
  settled : s.Settled → ∀ n ∈ policy.nodes, n.Limited BWLDLimPending →
    (s.broker.used n.nodename BWLDLimPending).toNat = s.liveSessions n
  ended : s.Ended → ∀ n ∈ policy.nodes, n.Limited BWLDLimPending →
    s.broker.used n.nodename BWLDLimPending = 0

section Run

variable {ctx : Context} {policy : Policy} {s s' : System} {i : Nat} {p : Proc}

theorem LedgerInv.pendingMatches (hs : s.Linked policy) (hi : LedgerInv policy s.ledger) :
    PendingMatches policy s where
  moving n hn hl := by
    rw [← s.outstanding_exchange n]
    exact congrArg (· + s.releasesUnderWay n) (hi.exact n hn hl)
  settled h n hn hl := (hi.exact n hn hl).trans (System.outstanding_of_settled hs h n)
  ended h n hn hl := by
    have hlive : s.liveSessions n = 0 := by
      refine List.countP_eq_zero.2 fun p hp => ?_
      rw [h.2 p hp]
      simp
    rw [← UInt64.toNat_inj]
    exact ((hi.exact n hn hl).trans (System.outstanding_of_settled hs h.1 n)).trans hlive

/-- **In every run in which no reservation is refused, the counter of every limited class is the
    number of live sessions at or below it, and zero when every session has ended.** -/
theorem pending_never_leaks {lib : I2Util} (hb : PolicyBuilt lib policy)
    (h : Reach (System.step ctx policy) ReservationGranted System.start s) :
    PendingMatches policy s := by
  have hinv : s.Linked policy ∧ LedgerInv policy s.ledger :=
    h.invariant (I := fun s => s.Linked policy ∧ LedgerInv policy s.ledger)
      ⟨System.Linked.start policy, LedgerInv.start policy⟩
      fun t e t' _ hi hok he => ⟨hi.1.step hb.inv he, System.ledger_step hb.inv hi.1 hi.2 hok he⟩
  exact hinv.2.pendingMatches hinv.1

/-- **A refused reservation** leaves the counters as they are and takes the unit off the child:
    afterwards one unit of every limited class on its path belongs to nobody. -/
theorem refused_reservation_leaks (hi : LedgerInv policy s.ledger)
    (hpi : s.procs[i]? = some p) {tinfo : TestInfo} {r : TestRequest} {reply : ChldReply}
    (hpc : p.pc = .reserving tinfo r) (hr : p.pipe = .reply reply) (hno : reply.read ≠ BWLDMESGOK)
    (h : s.step ctx policy (.receive i) = some s') {n : PolicyNode} (hn : n ∈ policy.nodes)
    (hl : n.Limited BWLDLimPending) :
    (s'.broker.used n.nodename BWLDLimPending).toNat + s'.releasesUnderWay n =
      s'.liveSessions n + s'.grantsUnderWay n + if n ∈ p.node.path then 1 else 0 := by
  obtain ⟨p', hpi', h⟩ := Option.bind_eq_some_iff.1 h
  rw [hpi] at hpi'
  cases hpi'
  rw [hr] at h
  cases h
  have hold : p.holdsUnit = true := by
    unfold Proc.holdsUnit
    rw [hpc]
    rfl
  have hnow : (p.receive reply).holdsUnit = false := by
    unfold Proc.receive
    rw [hpc]
    dsimp only
    rw [if_neg hno]
    rfl
  have hperm : ((s.procs.set i (p.receive reply)).filterMap Proc.unit?).Perm
      (s.units.erase p.node) :=
    perm_of_loss hpi (Proc.unit?_of_holds hold) (Proc.unit?_of_not hnow)
  have hheld : p.node ∈ s.units :=
    List.mem_filterMap.2 ⟨p, List.mem_of_getElem? hpi, Proc.unit?_of_holds hold⟩
  have hcount : s.ledger.outstanding n =
      (s.setProc i (p.receive reply)).ledger.outstanding n + if n ∈ p.node.path then 1 else 0 := by
    show s.units.countP _ = ((s.procs.set i (p.receive reply)).filterMap Proc.unit?).countP _ + _
    rw [hperm.countP_eq, List.countP_erase]
    by_cases hmem : n ∈ p.node.path
    · have hpos : 0 < s.units.countP (fun c => decide (n ∈ c.path)) :=
        List.countP_pos_iff.2 ⟨p.node, hheld, by simpa using hmem⟩
      rw [if_pos ⟨hheld, by simpa using hmem⟩, if_pos hmem]
      omega
    · rw [if_neg (by simp [hmem]), if_neg hmem, Nat.sub_zero, Nat.add_zero]
  have hused : (s.broker.used n.nodename BWLDLimPending).toNat = s.ledger.outstanding n :=
    hi.exact n hn hl
  have hex := (s.setProc i (p.receive reply)).outstanding_exchange n
  show (s.broker.used n.nodename BWLDLimPending).toNat + _ = _
  omega

end Run

/-! ## A child of a class with three units -/

def campusRoot : PolicyNode := .root "root" [⟨BWLDLimPending, 3⟩]

/-- A request for ten seconds of `iperf` at second 100, with a latest time. -/
def campusRequest (latestTime : Num64) : SystemEvent :=
  .request 0 ⟨true, true, false⟩
    ⟨Vector.replicate 16 0, false, ⟨"", "", campusTime 100, latestTime, false, false, 10, 0x01, false,
      0, 0, 0⟩, 0, 0, 0⟩

/-- The child's question is served and its answer read. -/
def campusExchange : List SystemEvent := [.serve 0 ⟨some (campusTime 0), some 5001⟩, .receive 0]

/-- A child connects and names its class; then come some more events. -/
def campusChild (okb : System → SystemEvent → Bool) (es : List SystemEvent) : Option System :=
  replay (System.step campusContext ⟨[campusRoot]⟩) okb System.start
    (.connect 7 campusRoot :: campusExchange ++ es)

theorem pending_never_leaks_campus :
    ∃ s, Reach (System.step campusContext ⟨[campusRoot]⟩) ReservationGranted System.start s ∧
      s.broker.used "root" BWLDLimPending = 1 ∧ PendingMatches ⟨[campusRoot]⟩ s := by
  have hrun : (campusChild (fun s e => decide (ReservationGranted s e))
      (campusRequest 0 :: campusExchange ++ campusExchange)).map
        (fun s => s.broker.used "root" BWLDLimPending) = some 1 := by decide +kernel
  obtain ⟨s, hs, hused⟩ := Option.map_eq_some_iff.1 hrun
  have hreach : Reach (System.step campusContext ⟨[campusRoot]⟩) ReservationGranted System.start s :=
    Reach.of_replay (fun _ _ => of_decide_eq_true) Reach.start hs
  exact ⟨s, hreach, hused,
    @pending_never_leaks _ _ _ plainI2Util ⟨["root with pending=3"], by decide⟩ hreach⟩

/-- One child, out of its calls and without a session, and a unit in use. -/
def campusLeak (s : System) : Bool :=
  s.broker.used "root" BWLDLimPending == 1 &&
    (s.procs.map fun p => (p.inCall, p.closure)) == [(false, none)]

theorem not_pendingMatches_of_leak {s : System} (h : campusLeak s = true) :
    ¬ PendingMatches ⟨[campusRoot]⟩ s := by
  unfold campusLeak at h
  rw [Bool.and_eq_true, beq_iff_eq, beq_iff_eq] at h
  obtain ⟨hused, hprocs⟩ := h
  have hall : ∀ p ∈ s.procs, (p.inCall, p.closure) = (false, none) := fun p hp => by
    have hmem := List.mem_map_of_mem (f := fun p : Proc => (p.inCall, p.closure)) hp
    rw [hprocs, List.mem_singleton] at hmem
    exact hmem
  intro hm
  have hzero := hm.ended ⟨fun p hp => (Prod.mk.inj (hall p hp)).1,
    fun p hp => (Prod.mk.inj (hall p hp)).2⟩ campusRoot (by simp) ⟨3, rfl, by decide⟩
  have hname : campusRoot.nodename = "root" := rfl
  rw [hname, hused] at hzero
  exact absurd hzero (by decide)

/-- Two runs of one child of a class with a limit on `pending`: its first request is granted a unit
    and refused a reservation; or its session is granted and the update of it is refused.  In both
    the child ends without a session and the broker keeps a unit booked. -/
theorem leaked_unit :
    PolicyBuilt plainI2Util ⟨[campusRoot]⟩ ∧
      (∃ s, campusChild (fun _ _ => true)
          (campusRequest (campusTime 50) :: campusExchange ++ campusExchange) = some s ∧
        Reach (System.step campusContext ⟨[campusRoot]⟩) anyEvent System.start s ∧
        ¬ PendingMatches ⟨[campusRoot]⟩ s) ∧
      ∃ s, campusChild (fun _ _ => true) (campusRequest 0 :: campusExchange ++ campusExchange ++
          campusRequest (campusTime 50) :: campusExchange) = some s ∧
        Reach (System.step campusContext ⟨[campusRoot]⟩) anyEvent System.start s ∧
        ¬ PendingMatches ⟨[campusRoot]⟩ s := by
  refine ⟨⟨["root with pending=3"], by decide⟩, ?_, ?_⟩
  · have hrun : (campusChild (fun _ _ => true)
        (campusRequest (campusTime 50) :: campusExchange ++ campusExchange)).map campusLeak =
          some true := by decide +kernel
    obtain ⟨s, hs, hleak⟩ := Option.map_eq_some_iff.1 hrun
    exact ⟨s, hs, Reach.of_replay (fun _ _ _ => trivial) Reach.start hs,
      not_pendingMatches_of_leak hleak⟩
  · have hrun : (campusChild (fun _ _ => true) (campusRequest 0 :: campusExchange ++ campusExchange ++
        campusRequest (campusTime 50) :: campusExchange)).map campusLeak = some true := by
      decide +kernel
    obtain ⟨s, hs, hleak⟩ := Option.map_eq_some_iff.1 hrun
    exact ⟨s, hs, Reach.of_replay (fun _ _ _ => trivial) Reach.start hs,
      not_pendingMatches_of_leak hleak⟩

end Bwctl
