import Bwctl.Children.TestPolicy
import Bwctl.Lib.Population

/-!
# The broker with its children

Each child has a pipe to the broker and one message on it at most.  The events of the system
are the connection of a new child, the service of a question by the broker, the reading of an
answer, the start of a test request or of the end of a session, and the exit of a child that
has no session.  Any interleaving of the children is a run.

* `System.step` — one event.
* `System.broker_reach` — the broker of a run is a run of the broker by itself.
* `Link` — what a child and the broker's record of it have in common.
* `System.linked` — broker and children stay linked in every run.
-/

set_option autoImplicit false

namespace Bwctl

open GuardedRuns Population

structure System where
  broker : Broker
  procs : List Proc

inductive SystemEvent where
  | connect (pid : UInt32) (node : PolicyNode)
  | serve (i : Nat) (env : DemandEnv)
  | receive (i : Nat)
  | request (i : Nat) (host : HostState) (r : TestRequest)
  | free (i : Nat)
  | exit (i : Nat)

namespace System

def start : System := ⟨.start, []⟩

/-- The state of one child replaced. -/
def setProc (s : System) (i : Nat) (p : Proc) : System := { s with procs := s.procs.set i p }

/-- `CheckFD` for a child with a question in its pipe. -/
def serveProc (ctx : Context) (policy : Policy) (s : System) (i : Nat) (p : Proc) (c : ChldState)
    (mesg : ChldMesg) : System :=
  let r := s.broker.checkFD ctx policy i c mesg
  ⟨r.1, s.procs.set i (p.answer r.2)⟩

/-- One event; the process id of a new child is not in use, and its class is one of the policy. -/
def step (ctx : Context) (policy : Policy) (s : System) : SystemEvent → Option System
  | .connect pid node =>
    if node ∈ policy.nodes ∧ pid ∉ s.procs.map (·.pid) then
      (s.broker.step ctx policy .connect).map fun b =>
        ⟨b, s.procs ++ [.start pid node s.broker.used]⟩
    else none
  | .serve i env =>
    s.procs[i]?.bind fun p =>
      match p.pipe with
      | .query mesg => s.broker.children[i]?.map fun c => s.serveProc ctx policy i p c (mesg.read env)
      | _ => none
  | .receive i =>
    s.procs[i]?.bind fun p =>
      match p.pipe with
      | .reply reply => some (s.setProc i (p.receive reply))
      | _ => none
  | .request i host r =>
    s.procs[i]?.bind fun p =>
      if p.pc = .ready then some (s.setProc i (p.checkTestPolicy host r)) else none
  | .free i =>
    s.procs[i]?.bind fun p =>
      if p.pc = .ready then p.closure.map fun tinfo => s.setProc i (p.testComplete tinfo) else none
  | .exit i =>
    s.procs[i]?.bind fun p =>
      if (p.pc = .ready ∨ p.pc = .refused) ∧ p.closure = none then
        (s.broker.step ctx policy (.exit i)).map fun b => ⟨b, s.procs.eraseIdx i⟩
      else none

end System

/-! ## What a child waits for -/

namespace Pc

/-- The child has asked the broker. -/
def Waits : Pc → Prop
  | ready => False
  | refused => False
  | _ => True

/-- The question a child of that class has asked. -/
def Asks (node : PolicyNode) : Pc → PipeMesg → Prop
  | classing, mesg => mesg = .className node.nodename
  | checking _ _, mesg => mesg = .resource BWLDMESGREQUEST pendingUnit
  | reserving _ _, mesg => ∃ q, mesg = .reservation q
  | releasing _, mesg => mesg = .resource BWLDMESGRELEASE pendingUnit
  | completing _, mesg => ∃ sid, mesg = .complete sid
  | ready, _ => False
  | refused, _ => False

/-- The closure of the session at that point. -/
def ClosureOk : Pc → Option TestInfo → Prop
  | classing, closure => closure = none
  | ready, _ => True
  | checking tinfo _, closure => closure = none ∧ tinfo.res = pendingUnit
  | reserving tinfo _, _ => tinfo.res = pendingUnit
  | releasing tinfo, closure => closure = some tinfo
  | completing tinfo, closure => closure = some tinfo
  | refused, closure => closure = none

end Pc

/-- A child is at one of its points, with the pipe and the closure that belong to it. -/
structure Proc.Ok (p : Proc) : Prop where
  res : ∀ tinfo, p.closure = some tinfo → tinfo.res = pendingUnit
  closure : p.pc.ClosureOk p.closure
  idle : p.pipe = .empty → ¬ p.pc.Waits
  asked : ∀ mesg, p.pipe = .query mesg → p.pc.Asks p.node mesg
  answered : ∀ reply, p.pipe = .reply reply → p.pc.Waits

namespace Proc

theorem start_ok (pid : UInt32) (node : PolicyNode) (used : Used) : (start pid node used).Ok where
  res := by simp [start]
  closure := rfl
  idle h := by cases h
  asked mesg h := by cases h; rfl
  answered reply h := by cases h

/-- A child that asks a question that belongs to the point it goes to. -/
theorem Ok.ask {p : Proc} (hp : p.Ok) {pc : Pc} {mesg : PipeMesg} (hc : pc.ClosureOk p.closure)
    (ha : pc.Asks p.node mesg) : (p.ask pc mesg).Ok where
  res := hp.res
  closure := hc
  idle h := by cases h
  asked mesg' h := by cases h; exact ha
  answered reply h := by cases h

/-- A child with nothing in its pipe. -/
theorem ok_of_empty {p : Proc} (hres : ∀ tinfo, p.closure = some tinfo → tinfo.res = pendingUnit)
    (hc : p.pc.ClosureOk p.closure) (hw : ¬ p.pc.Waits) (he : p.pipe = .empty) : p.Ok where
  res := hres
  closure := hc
  idle _ := hw
  asked mesg h := by rw [he] at h; cases h
  answered reply h := by rw [he] at h; cases h

theorem done_ok (p : Proc) : p.done.Ok :=
  ok_of_empty (fun tinfo h => by cases h) trivial id rfl

theorem Ok.setReservation {p : Proc} (hp : p.Ok) (r : TestRequest) (reply : ChldReply) :
    (p.setReservation r reply).Ok := by
  unfold Proc.setReservation
  repeat' split
  all_goals exact ⟨hp.res, hp.closure, hp.idle, hp.asked, hp.answered⟩

theorem Ok.checkTestPolicy {p : Proc} (hp : p.Ok) (host : HostState) (r : TestRequest) :
    (p.checkTestPolicy host r).Ok := by
  unfold Proc.checkTestPolicy
  split
  · rename_i tinfo hc
    exact hp.ask (hp.res tinfo hc) ⟨_, rfl⟩
  · rename_i hc
    split
    · exact p.done_ok
    · exact hp.ask ⟨hc, rfl⟩ rfl

theorem Ok.testComplete {p : Proc} (hp : p.Ok) {tinfo : TestInfo} (hc : p.closure = some tinfo) :
    (p.testComplete tinfo).Ok := by
  unfold Proc.testComplete
  have hres := hp.res tinfo hc
  split
  · exact hp.ask hc ⟨_, rfl⟩
  · refine hp.ask hc ?_
    rw [hres]
    rfl

theorem Ok.receive {p : Proc} (hp : p.Ok) (reply : ChldReply) : (p.receive reply).Ok := by
  have hc := hp.closure
  unfold Proc.receive
  split <;> rename_i hpc <;> rw [hpc] at hc
  · have hnone : p.closure = none := hc
    refine ok_of_empty (fun tinfo h => ?_) ?_ ?_ rfl
    · rw [hnone] at h
      cases h
    · dsimp only
      split
      · trivial
      · exact hnone
    · dsimp only
      split <;> exact id
  · split
    · exact hp.ask hc.2 ⟨_, rfl⟩
    · exact p.done_ok
  · dsimp only
    split
    · refine ok_of_empty (fun tinfo' h => ?_) trivial id rfl
      cases h
      exact hc
    · exact done_ok _
  · exact hp.ask hc ⟨_, rfl⟩
  · exact p.done_ok
  · exact hp
  · exact hp

end Proc

/-! ## A child and the broker's record of it -/

theorem Policy.fetch_nodename {policy : Policy} (hp : PolicyInv policy) {node : PolicyNode}
    (hn : node ∈ policy.nodes) : policy.fetch node.nodename = some node := by
  cases hf : policy.fetch node.nodename with
  | none =>
    have hnone := List.find?_eq_none.1 hf node hn
    simp at hnone
  | some n =>
    obtain ⟨hmem, hname⟩ := Policy.fetch_mem hf
    rw [hp.eq_of_nodename hmem hn hname]

/-- The broker knows the class of a child from the moment the child reads that it was accepted. -/
structure Link (policy : Policy) (c : ChldState) (p : Proc) : Prop where
  mem : p.node ∈ policy.nodes
  ok : p.Ok
  unclassed : p.pc = .classing → ∀ mesg, p.pipe = .query mesg → c.node = none
  accepted : p.pc = .classing → ∀ reply, p.pipe = .reply reply → reply.read = BWLDMESGOK →
    c.node = some p.node
  classed : p.pc ≠ .classing → p.pc ≠ .refused → c.node = some p.node

namespace Broker

variable {ctx : Context} {policy : Policy} {b : Broker} {i : Nat} {c : ChldState}
  {node : PolicyNode}

/-- The class of a child that is not known yet. -/
theorem checkFD_className (hp : PolicyInv policy) (hc : c.node = none) (hn : node ∈ policy.nodes) :
    b.checkFD ctx policy i c (.className node.nodename) =
      (b.setChild i { c with node := some node }, .response BWLDMESGOK) := by
  unfold checkFD
  rw [hc]
  dsimp only
  rw [Policy.fetch_nodename hp hn]

theorem checkFD_request (hc : c.node = some node) (lim : LimRec) :
    b.checkFD ctx policy i c (.resource BWLDMESGREQUEST lim) =
      ({ b with used := (resourceDemand node BWLDMESGREQUEST lim b.used).2 },
        .response (okOrDenied (resourceDemand node BWLDMESGREQUEST lim b.used).1)) := by
  unfold checkFD
  rw [hc]
  rfl

theorem checkFD_release (hc : c.node = some node) (lim : LimRec) :
    b.checkFD ctx policy i c (.resource BWLDMESGRELEASE lim) =
      ({ b with used := (resourceDemand node BWLDMESGRELEASE lim b.used).2 },
        .response (okOrDenied (resourceDemand node BWLDMESGRELEASE lim b.used).1)) := by
  unfold checkFD
  rw [hc]
  rfl

variable (b ctx policy i) in
/-- Reservations and completed tests leave the counters and the class of the child alone. -/
theorem checkFD_schedule (hc : c.node = some node) {mesg : ChldMesg}
    (hm : (∃ q env, mesg = .reservation q env) ∨ ∃ sid, mesg = .complete sid) :
    (b.checkFD ctx policy i c mesg).1.used = b.used ∧ ∃ c',
      (b.checkFD ctx policy i c mesg).1.children = b.children.set i c' ∧ c'.node = some node := by
  unfold checkFD
  rw [hc]
  rcases hm with ⟨q, env, rfl⟩ | ⟨sid, rfl⟩
  · exact ⟨rfl, _, rfl, hc⟩
  · exact ⟨rfl, _, rfl, hc⟩

end Broker

/-- What serving a question does to the counters, by the point the child is at. -/
def ServedUsed (p : Proc) (used used' : Used) (reply : ChldReply) : Prop :=
  match p.pc with
  | .checking _ _ =>
    let r := resourceDemand p.node BWLDMESGREQUEST pendingUnit used
    used' = r.2 ∧ reply = .response (okOrDenied r.1)
  | .releasing _ => used' = (resourceDemand p.node BWLDMESGRELEASE pendingUnit used).2
  | _ => used' = used

section Served

variable {ctx : Context} {policy : Policy} {b : Broker} {i : Nat} {c : ChldState} {p : Proc}
  {mesg : PipeMesg}

theorem Proc.Ok.reply {p : Proc} (hp : p.Ok) {mesg : PipeMesg} (hm : p.pipe = .query mesg)
    (reply : ChldReply) : (p.answer reply).Ok where
  res := hp.res
  closure := hp.closure
  idle h := by cases h
  asked mesg h := by cases h
  answered _ _ := by
    have ha := hp.asked mesg hm
    show p.pc.Waits
    cases hpc : p.pc <;> rw [hpc] at ha <;> trivial

variable (ctx i) in
/-- **Serving a question** keeps the child linked and changes the counters as its point says. -/
theorem Link.serve (hp : PolicyInv policy) (hl : Link policy c p) (hc : b.children[i]? = some c)
    (hm : p.pipe = .query mesg) (env : DemandEnv) :
    ∃ c', (b.checkFD ctx policy i c (mesg.read env)).1.children = b.children.set i c' ∧
      Link policy c' (p.answer (b.checkFD ctx policy i c (mesg.read env)).2) ∧
      ServedUsed p b.used (b.checkFD ctx policy i c (mesg.read env)).1.used
        (b.checkFD ctx policy i c (mesg.read env)).2 := by
  have hask := hl.ok.asked mesg hm
  have hsame : b.children = b.children.set i c := by
    obtain ⟨hi, hget⟩ := List.getElem?_eq_some_iff.1 hc
    rw [← hget, List.set_getElem_self]
  -- a child past its class keeps its record's class
  have hpast : ∀ (c' : ChldState) (reply : ChldReply), p.pc ≠ .classing →
      c'.node = some p.node → Link policy c' (p.answer reply) := by
    intro c' reply hpc hc'
    exact ⟨hl.mem, hl.ok.reply hm reply, fun h => absurd h hpc, fun h => absurd h hpc, fun _ _ => hc'⟩
  unfold ServedUsed
  cases hpc : p.pc with
  | classing =>
    rw [hpc] at hask
    cases hask
    rw [show (PipeMesg.className p.node.nodename).read env = .className p.node.nodename from rfl,
      Broker.checkFD_className hp (hl.unclassed hpc _ hm) hl.mem]
    refine ⟨_, rfl, ⟨hl.mem, hl.ok.reply hm _, fun _ mesg h => ?_, fun _ _ _ _ => rfl,
      fun h => absurd hpc h⟩, rfl⟩
    cases h
  | checking tinfo r =>
    rw [hpc] at hask
    cases hask
    have hnode := hl.classed (by rw [hpc]; simp) (by rw [hpc]; simp)
    rw [show (PipeMesg.resource BWLDMESGREQUEST pendingUnit).read env =
      .resource BWLDMESGREQUEST pendingUnit from rfl, Broker.checkFD_request hnode]
    exact ⟨c, hsame, hpast c _ (by rw [hpc]; simp) hnode, rfl, rfl⟩
  | reserving tinfo r =>
    rw [hpc] at hask
    obtain ⟨q, rfl⟩ := hask
    have hnode := hl.classed (by rw [hpc]; simp) (by rw [hpc]; simp)
    obtain ⟨hused, c', hch, hc'⟩ := b.checkFD_schedule ctx policy i hnode
      (Or.inl ⟨q, env, rfl⟩)
    exact ⟨c', hch, hpast c' _ (by rw [hpc]; simp) hc', hused⟩
  | releasing tinfo =>
    rw [hpc] at hask
    cases hask
    have hnode := hl.classed (by rw [hpc]; simp) (by rw [hpc]; simp)
    rw [show (PipeMesg.resource BWLDMESGRELEASE pendingUnit).read env =
      .resource BWLDMESGRELEASE pendingUnit from rfl, Broker.checkFD_release hnode]
    exact ⟨c, hsame, hpast c _ (by rw [hpc]; simp) hnode, rfl⟩
  | completing tinfo =>
    rw [hpc] at hask
    obtain ⟨sid, rfl⟩ := hask
    have hnode := hl.classed (by rw [hpc]; simp) (by rw [hpc]; simp)
    obtain ⟨hused, c', hch, hc'⟩ := b.checkFD_schedule ctx policy i hnode
      (Or.inr ⟨sid, rfl⟩)
    exact ⟨c', hch, hpast c' _ (by rw [hpc]; simp) hc', hused⟩
  | ready => rw [hpc] at hask; exact hask.elim
  | refused => rw [hpc] at hask; exact hask.elim

theorem Link.start {policy : Policy} (pid : UInt32) {node : PolicyNode} (hn : node ∈ policy.nodes)
    (used : Used) : Link policy ⟨none, none⟩ (Proc.start pid node used) where
  mem := hn
  ok := Proc.start_ok pid node used
  unclassed _ _ _ := rfl
  accepted _ reply h := by cases h
  classed h := absurd rfl h

/-- Reading an answer moves on from a point; the class is known behind the first one. -/
theorem Link.receive (hl : Link policy c p) {reply : ChldReply} (hr : p.pipe = .reply reply) :
    Link policy c (p.receive reply) := by
  have hnode := (p.receive_ident reply).1
  have hpc : (p.receive reply).pc ≠ .classing := by
    have hw := hl.ok.answered reply hr
    unfold Proc.receive
    split <;> rename_i hpc
    · dsimp only
      split <;> simp
    · split <;> simp [Proc.askReservation, Proc.ask, Proc.done]
    · dsimp only
      split <;> simp [Proc.done]
    · simp [Proc.ask]
    · simp [Proc.done]
    · rw [hpc] at hw; exact hw.elim
    · rw [hpc] at hw; exact hw.elim
  refine ⟨hnode ▸ hl.mem, hl.ok.receive reply, fun h => absurd h hpc, fun h => absurd h hpc, ?_⟩
  intro _ href
  rw [hnode]
  by_cases hclass : p.pc = .classing
  · refine hl.accepted hclass reply hr ?_
    by_contra hno
    refine href ?_
    unfold Proc.receive
    rw [hclass]
    dsimp only
    rw [if_neg hno]
  · refine hl.classed hclass fun h => ?_
    have hw := hl.ok.answered reply hr
    rw [h] at hw
    exact hw

/-- A child that is ready and asks a question or drops its session. -/
theorem Link.of_ready (hl : Link policy c p) (hr : p.pc = .ready) {p' : Proc} (hok : p'.Ok)
    (hnode : p'.node = p.node) (hpc : p'.pc ≠ .classing) : Link policy c p' where
  mem := hnode ▸ hl.mem
  ok := hok
  unclassed h := absurd h hpc
  accepted h := absurd h hpc
  classed _ _ := by
    rw [hnode]
    exact hl.classed (by rw [hr]; simp) (by rw [hr]; simp)

theorem checkTestPolicy_pc (p : Proc) (host : HostState) (r : TestRequest) :
    (p.checkTestPolicy host r).pc ≠ .classing := by
  unfold Proc.checkTestPolicy
  split
  · simp [Proc.askReservation, Proc.ask]
  · split <;> simp [Proc.ask, Proc.done]

theorem testComplete_pc (p : Proc) (tinfo : TestInfo) : (p.testComplete tinfo).pc ≠ .classing := by
  unfold Proc.testComplete
  split <;> simp [Proc.ask]

end Served

/-! ## Runs -/

/-- Broker and children are linked, and the process ids are those of different processes. -/
structure System.Linked (policy : Policy) (s : System) : Prop where
  paired : Paired (Link policy) s.broker.children s.procs
  pids : (s.procs.map (·.pid)).Nodup

theorem System.Linked.start (policy : Policy) : System.start.Linked policy :=
  ⟨Paired.nil, List.nodup_nil⟩

section Step

variable {ctx : Context} {policy : Policy} {s s' : System} {i : Nat} {p p' : Proc} {c : ChldState}

/-- The process ids when one child moves. -/
theorem map_pid_set (hp : s.procs[i]? = some p) (hpid : p'.pid = p.pid) :
    (s.procs.set i p').map (·.pid) = s.procs.map (·.pid) := by
  obtain ⟨front, back, hsplit, hlen⟩ := split_at hp
  rw [hsplit, set_split hlen, List.map_append, List.map_append, List.map_cons, List.map_cons, hpid]

/-- One child moves by itself. -/
theorem System.Linked.setProc (hs : s.Linked policy) (hp : s.procs[i]? = some p)
    (hpid : p'.pid = p.pid) (hl : ∀ c, Link policy c p → Link policy c p') :
    (s.setProc i p').Linked policy := by
  obtain ⟨c, hc, hlink⟩ := hs.paired.partner hp
  refine ⟨hs.paired.set_right hc (hl c hlink), ?_⟩
  show ((s.procs.set i p').map (·.pid)).Nodup
  rw [map_pid_set hp hpid]
  exact hs.pids

/-- **Every event** keeps broker and children linked. -/
theorem System.Linked.step (hp : PolicyInv policy) (hs : s.Linked policy) {e : SystemEvent}
    (h : s.step ctx policy e = some s') : s'.Linked policy := by
  cases e with
  | connect pid node =>
    simp only [System.step] at h
    split at h
    · rename_i hnew
      cases h
      refine ⟨hs.paired.concat (Link.start pid hnew.1 _), ?_⟩
      show ((s.procs ++ [Proc.start pid node s.broker.used]).map (·.pid)).Nodup
      rw [List.map_append, List.nodup_append]
      refine ⟨hs.pids, List.nodup_singleton _, ?_⟩
      intro a ha b hb
      cases List.mem_singleton.1 hb
      intro hab
      rw [hab] at ha
      exact hnew.2 ha
    · cases h
  | serve i env =>
    obtain ⟨p, hpi, h⟩ := Option.bind_eq_some_iff.1 h
    split at h
    · rename_i mesg hm
      obtain ⟨c, hc, rfl⟩ := Option.map_eq_some_iff.1 h
      have hlink := hs.paired.related i c p hc hpi
      obtain ⟨c', hch, hlink', -⟩ := hlink.serve ctx i hp hc hm env
      refine ⟨?_, ?_⟩
      · show Paired _ (s.broker.checkFD ctx policy i c (mesg.read env)).1.children _
        rw [hch]
        exact hs.paired.set hlink'
      · show ((s.procs.set i (p.answer _)).map (·.pid)).Nodup
        rw [map_pid_set hpi (show (p.answer _).pid = p.pid from rfl)]
        exact hs.pids
    · cases h
  | receive i =>
    obtain ⟨p, hpi, h⟩ := Option.bind_eq_some_iff.1 h
    split at h
    · rename_i reply hr
      cases h
      exact hs.setProc hpi (p.receive_ident reply).2 fun c hl => hl.receive hr
    · cases h
  | request i host r =>
    obtain ⟨p, hpi, h⟩ := Option.bind_eq_some_iff.1 h
    split at h
    · rename_i hready
      cases h
      exact hs.setProc hpi (p.checkTestPolicy_ident host r).2 fun c hl =>
        hl.of_ready hready (hl.ok.checkTestPolicy host r) (p.checkTestPolicy_ident host r).1
          (checkTestPolicy_pc p host r)
    · cases h
  | free i =>
    obtain ⟨p, hpi, h⟩ := Option.bind_eq_some_iff.1 h
    split at h
    · rename_i hready
      obtain ⟨tinfo, hc, rfl⟩ := Option.map_eq_some_iff.1 h
      exact hs.setProc hpi (p.testComplete_ident tinfo).2 fun c hl =>
        hl.of_ready hready (hl.ok.testComplete hc) (p.testComplete_ident tinfo).1
          (testComplete_pc p tinfo)
    · cases h
  | exit i =>
    obtain ⟨p, hpi, h⟩ := Option.bind_eq_some_iff.1 h
    split at h
    · obtain ⟨b, hb, rfl⟩ := Option.map_eq_some_iff.1 h
      obtain ⟨c, -, rfl⟩ := Option.map_eq_some_iff.1 hb
      refine ⟨hs.paired.eraseIdx i, hs.pids.sublist ?_⟩
      exact (List.eraseIdx_sublist s.procs i).map _
    · cases h

/-- The broker moves with the system, or stays. -/
theorem System.step_broker {e : SystemEvent} (h : s.step ctx policy e = some s') :
    s'.broker = s.broker ∨ ∃ e', s.broker.step ctx policy e' = some s'.broker := by
  cases e with
  | connect pid node =>
    simp only [System.step] at h
    split at h
    · cases h; exact Or.inr ⟨.connect, rfl⟩
    · cases h
  | serve i env =>
    obtain ⟨p, hpi, h⟩ := Option.bind_eq_some_iff.1 h
    split at h
    · rename_i mesg hm
      obtain ⟨c, hc, rfl⟩ := Option.map_eq_some_iff.1 h
      exact Or.inr ⟨.mesg i (mesg.read env), Option.map_eq_some_iff.2 ⟨c, hc, rfl⟩⟩
    · cases h
  | receive i =>
    obtain ⟨p, hpi, h⟩ := Option.bind_eq_some_iff.1 h
    split at h
    · cases h; exact Or.inl rfl
    · cases h
  | request i host r =>
    obtain ⟨p, hpi, h⟩ := Option.bind_eq_some_iff.1 h
    split at h
    · cases h; exact Or.inl rfl
    · cases h
  | free i =>
    obtain ⟨p, hpi, h⟩ := Option.bind_eq_some_iff.1 h
    split at h
    · obtain ⟨tinfo, -, rfl⟩ := Option.map_eq_some_iff.1 h
      exact Or.inl rfl
    · cases h
  | exit i =>
    obtain ⟨p, hpi, h⟩ := Option.bind_eq_some_iff.1 h
    split at h
    · obtain ⟨b, hb, rfl⟩ := Option.map_eq_some_iff.1 h
      exact Or.inr ⟨.exit i, hb⟩
    · cases h

/-- **The broker of a run with children** is reached by a run of the broker by itself. -/
theorem System.broker_reach
    (h : Reach (System.step ctx policy) anyEvent System.start s) :
    Reach (Broker.step ctx policy) anyEvent Broker.start s.broker := by
  refine h.invariant (I := fun s => Reach (Broker.step ctx policy) anyEvent Broker.start s.broker)
    Reach.start fun t e t' _ hi _ he => ?_
  rcases System.step_broker he with h | ⟨e', h⟩
  · rw [h]; exact hi
  · exact Reach.step hi trivial h

end Step

end Bwctl
