import Bwctl.Broker.MainLoopTables

/-!
# What a step of the main loop is made of

Every event is a sequence of moves: a child that exits, a pipe that is served, a child that is
waited for, a connection, the end of the loop.  What every move keeps holds in every state reached.

* `step_moves` — an event and its moves.
* `reach_invariant` — the induction over runs.
* `Ok.move` — the tables stay consistent.
-/

set_option autoImplicit false

namespace Bwctl

open GuardedRuns

namespace Daemon

variable {ctx : Context} {policy : Policy} {listenfd : Nat} {base : Finset Nat} {d d' : Daemon}

/-- The process ids when children exit. -/
theorem pids_map (d : Daemon) (f : Nat × Bool → Bool) :
    (d.procs.map fun p => (p.1, f p)).map Prod.fst = d.pids := by
  rw [List.map_map]
  rfl

/-- The message of a child, if there is one, is allowed. -/
def MesgOk (ok : Broker → BrokerEvent → Prop) (d : Daemon) (pid : Nat) (mesg? : Option ChldMesg) :
    Prop :=
  ∀ i ∈ d.pidtable.findIdx? (·.pid == pid), ∀ mesg ∈ mesg?, ok d.broker (.mesg i mesg)

/-- The messages of a pass are allowed, each when it is served. -/
def PipesOk (ctx : Context) (policy : Policy) (ok : Broker → BrokerEvent → Prop) (avail : Finset Nat)
    (mesgs : Nat → Option ChldMesg) : List (Nat × Nat) → Daemon → Prop
  | [], _ => True
  | (fd, pid) :: rest, d =>
    if fd ∈ avail then
      d.MesgOk ok pid (mesgs fd) ∧
        PipesOk ctx policy ok avail mesgs rest (d.checkFD ctx policy pid (mesgs fd))
    else PipesOk ctx policy ok avail mesgs rest d

/-- An event is allowed: the outcome of its connection, or the messages of its pass. -/
def Allowed (ctx : Context) (policy : Policy) (listenfd : Nat) (A : AcceptOutcome → Prop)
    (ok : Broker → BrokerEvent → Prop) (d : Daemon) : DaemonEvent → Prop
  | .connection _ _ outcome _ _ => A outcome
  | .pipes avail order mesgs _ _ =>
    PipesOk ctx policy ok avail mesgs order (d.computeMaxFD listenfd)
  | _ => True

/-- What a step is made of. -/
inductive Move (ctx : Context) (policy : Policy) (listenfd : Nat) (A : AcceptOutcome → Prop)
    (ok : Broker → BrokerEvent → Prop) : Daemon → Daemon → Prop
  | childExits {d : Daemon} (pids : List Nat) : Move ctx policy listenfd A ok d (d.childExits pids)
  | exitSignal {d : Daemon} : Move ctx policy listenfd A ok d { d with ipfd_exit := true }
  | maxfd {d : Daemon} : d.serving = true → Move ctx policy listenfd A ok d (d.computeMaxFD listenfd)
  | serve {d : Daemon} {fd pid : Nat} (mesg? : Option ChldMesg) : (fd, pid) ∈ d.fdtable →
      d.MesgOk ok pid mesg? → Move ctx policy listenfd A ok d (d.checkFD ctx policy pid mesg?)
  | reap {d : Daemon} {child : Nat} : child ∈ d.pids → Move ctx policy listenfd A ok d (d.reap child)
  | late {d : Daemon} (late : List Nat) : (∀ p ∈ d.procs, p.2 = false) →
      Move ctx policy listenfd A ok d { d with
        procs := d.procs.map fun p => (p.1, p.2 || p.1 ∈ late)
        ipfd_chld := false
        missed := late }
  | connect {d d' : Daemon} {outcome : AcceptOutcome} : A outcome → d.serving = true →
      d.accepted outcome = some d' → Move ctx policy listenfd A ok d d'
  | stop {d : Daemon} {order : List (Nat × Nat)} : d.serving = true → order.Perm d.fdtable →
      Move ctx policy listenfd A ok d ((d.leave listenfd).closePipes order)

variable {A : AcceptOutcome → Prop} {ok : Broker → BrokerEvent → Prop}

/-- Several moves within one phase. -/
def Moves (ctx : Context) (policy : Policy) (listenfd : Nat) (A : AcceptOutcome → Prop)
    (ok : Broker → BrokerEvent → Prop) (d d' : Daemon) : Prop :=
  Relation.ReflTransGen (Move ctx policy listenfd A ok) d d' ∧ d'.serving = d.serving

theorem Moves.refl (d : Daemon) : Moves ctx policy listenfd A ok d d := ⟨.refl, rfl⟩

theorem Moves.one (h : Move ctx policy listenfd A ok d d') (hserving : d'.serving = d.serving) :
    Moves ctx policy listenfd A ok d d' := ⟨.single h, hserving⟩

theorem Moves.trans {d'' : Daemon} (h : Moves ctx policy listenfd A ok d d')
    (h' : Moves ctx policy listenfd A ok d' d'') : Moves ctx policy listenfd A ok d d'' :=
  ⟨h.1.trans h'.1, h'.2.trans h.2⟩

/-- The moves of both parts of a call. -/
theorem andThen_moves {d₀ : Daemon} {d? : Option Daemon} {f : Daemon → Option Daemon}
    (h : andThen d? f = some d') (h? : ∀ d, d? = some d → Moves ctx policy listenfd A ok d₀ d)
    (hf : ∀ d, d? = some d → d.crashed = false → f d = some d' → Moves ctx policy listenfd A ok d d') :
    Moves ctx policy listenfd A ok d₀ d' := by
  unfold andThen at h
  split at h
  · cases h
  · rename_i d₁
    split at h
    · cases h
      exact h? _ rfl
    · rename_i hcrashed
      exact (h? d₁ rfl).trans (hf d₁ rfl (by simpa using hcrashed) h)

theorem reap_serving (d : Daemon) (child : Nat) : (d.reap child).serving = d.serving := by
  unfold Daemon.reap Daemon.freeChldState Daemon.closeFd
  dsimp only
  split
  · rfl
  · split <;> split <;> rfl

theorem waitLoop_moves (reaped : List Nat) : ∀ {d d' : Daemon}, waitLoop reaped d = some d' →
    Moves ctx policy listenfd A ok d d' := by
  induction reaped with
  | nil =>
    intro d d' h
    unfold waitLoop at h
    split at h
    · cases h
    · cases h
      exact Moves.refl d
  | cons child rest ih =>
    intro d d' h
    unfold waitLoop at h
    split at h
    · rename_i hchild
      refine andThen_moves h (fun d₁ h₁ => ?_) fun d₁ _ _ h₂ => ih h₂
      cases h₁
      exact Moves.one (.reap hchild) (reap_serving d child)
    · cases h

/-- `waitpid` is called until no child is left that has exited. -/
theorem waitLoop_done (reaped : List Nat) : ∀ {d d' : Daemon}, waitLoop reaped d = some d' →
    d'.crashed = false → ∀ p ∈ d'.procs, p.2 = false := by
  induction reaped with
  | nil =>
    intro d d' h _ p hp
    unfold waitLoop at h
    split at h
    · cases h
    · rename_i hnone
      cases h
      rw [List.any_eq_true, not_exists] at hnone
      simpa [hp] using hnone p
  | cons child rest ih =>
    intro d d' h hnot
    unfold waitLoop at h
    split at h
    · unfold andThen at h
      dsimp only at h
      split at h
      · rename_i hcrashed
        cases h
        rw [hcrashed] at hnot
        cases hnot
      · exact ih h hnot
    · cases h

theorem reapChildren_moves {r : Reap} (h : d.reapChildren r = some d') :
    Moves ctx policy listenfd A ok d d' := by
  have hearly : Moves ctx policy listenfd A ok d (d.childExits r.early) :=
    Moves.one (.childExits r.early) rfl
  unfold Daemon.reapChildren at h
  dsimp only at h
  split at h
  · cases h
    exact hearly
  · refine hearly.trans (andThen_moves h (fun d₁ h₁ => waitLoop_moves r.reaped h₁) ?_)
    intro d₁ h₁ hcrashed h₂
    cases h₂
    exact Moves.one (.late r.late (waitLoop_done r.reaped h₁ hcrashed)) rfl

theorem accepted_serving {outcome : AcceptOutcome} (h : d.accepted outcome = some d') :
    d'.serving = d.serving := by
  obtain rfl | ⟨pid, -, -, rfl⟩ | ⟨pid, fd, -, -, -, rfl⟩ := accepted_cases h <;> rfl

theorem newConnection_moves (interrupts : List Reap) {outcome : AcceptOutcome} (hA : A outcome) :
    ∀ {d d' : Daemon}, d.serving = true → d.newConnection interrupts outcome = some d' →
      Moves ctx policy listenfd A ok d d' := by
  induction interrupts with
  | nil => exact fun hserves h => Moves.one (.connect hA hserves h) (accepted_serving h)
  | cons r interrupts ih =>
    intro d d' hserves h
    rw [Daemon.newConnection] at h
    refine andThen_moves h (fun d₁ h₁ => reapChildren_moves h₁) fun d₁ h₁ _ h₂ => ih ?_ h₂
    have hmoves : Moves ctx policy listenfd A ok d d₁ := reapChildren_moves h₁
    exact hmoves.2.trans hserves

theorem checkFD_frame (ctx : Context) (policy : Policy) (d : Daemon) (pid : Nat)
    (mesg? : Option ChldMesg) : (d.checkFD ctx policy pid mesg?).fdtable = d.fdtable ∧
      (d.checkFD ctx policy pid mesg?).serving = d.serving := by
  obtain heq | ⟨-, heq⟩ | ⟨i, c, mesg, -, -, -, heq⟩ := checkFD_cases ctx policy d pid mesg? <;> rw [heq]
  · exact ⟨rfl, rfl⟩
  · exact ⟨rfl, rfl⟩
  · exact ⟨rfl, rfl⟩

theorem cleanPipes_moves (avail : Finset Nat) (mesgs : Nat → Option ChldMesg)
    (order : List (Nat × Nat)) : ∀ {d : Daemon} (nready : Int), (∀ e ∈ order, e ∈ d.fdtable) →
      PipesOk ctx policy ok avail mesgs order d →
      Moves ctx policy listenfd A ok d (d.cleanPipes ctx policy avail mesgs order nready) := by
  induction order with
  | nil => exact fun _ _ _ => Moves.refl _
  | cons entry rest ih =>
    obtain ⟨fd, pid⟩ := entry
    intro d nready horder hok
    obtain ⟨htable, hserving⟩ := checkFD_frame ctx policy d pid (mesgs fd)
    have hrest : ∀ e ∈ rest, e ∈ d.fdtable := fun e he => horder e (List.mem_cons_of_mem _ he)
    unfold PipesOk at hok
    unfold Daemon.cleanPipes
    dsimp only at hok ⊢
    split at hok
    · rename_i hready
      have hone : Moves ctx policy listenfd A ok d (d.checkFD ctx policy pid (mesgs fd)) :=
        Moves.one (.serve (mesgs fd) (horder _ List.mem_cons_self) hok.1) hserving
      rw [if_pos hready]
      split
      · exact hone.trans (ih _ (htable ▸ hrest) hok.2)
      · exact hone
    · rename_i hready
      rw [if_neg hready]
      exact ih _ hrest hok

theorem endPass_moves {exit : Bool} {r : Reap} (h : d.endPass exit r = some d') :
    Moves ctx policy listenfd A ok d d' := by
  unfold Daemon.endPass at h
  split at h
  · cases h
    exact Moves.one .exitSignal rfl
  · exact reapChildren_moves h

/-- **An event and its moves.** -/
theorem step_moves {e : DaemonEvent} (hallowed : d.Allowed ctx policy listenfd A ok e)
    (h : d.step ctx policy listenfd e = some d') :
    Relation.ReflTransGen (Move ctx policy listenfd A ok) d d' := by
  have hmax (hserves : d.serving = true) :
      Moves ctx policy listenfd A ok d (d.computeMaxFD listenfd) :=
    Moves.one (.maxfd hserves) (computeMaxFD_serving listenfd d)
  have hstart (hserves : (d.computeMaxFD listenfd).Serves) : d.serving = true :=
    (computeMaxFD_serving listenfd d).symm.trans hserves.2.1
  cases e with
  | childExits pids =>
    cases h
    exact .single (.childExits pids)
  | exitSignal =>
    cases h
    exact .single .exitSignal
  | interrupted r =>
    unfold Daemon.step at h
    dsimp only at h
    split at h
    · rename_i hserves
      exact ((hmax hserves.2.1).trans (reapChildren_moves h)).1
    · cases h
  | connection avail interrupts outcome exit r =>
    unfold Daemon.step at h
    dsimp only at h
    split at h
    · rename_i hguard
      have hserves := hguard.1
      refine ((hmax (hstart hserves)).trans (andThen_moves h (fun d₁ h₁ => ?_) fun d₁ _ _ h₂ => ?_)).1
      · exact newConnection_moves interrupts hallowed hserves.2.1 h₁
      · exact endPass_moves h₂
    · cases h
  | pipes avail order mesgs exit r =>
    unfold Daemon.step at h
    dsimp only at h
    split at h
    · rename_i hguard
      obtain ⟨hserves, -, -, -, horder⟩ := hguard
      refine ((hmax (hstart hserves)).trans (andThen_moves h (fun d₁ h₁ => ?_) fun d₁ _ _ h₂ => ?_)).1
      · cases h₁
        exact cleanPipes_moves avail mesgs order _ (fun e he => horder.mem_iff.1 he) hallowed
      · exact endPass_moves h₂
    · cases h
  | stop order =>
    unfold Daemon.step at h
    dsimp only at h
    split at h
    · rename_i hguard
      cases h
      exact .single (.stop hguard.2.1 hguard.2.2.2)
    · cases h
  | wait r =>
    unfold Daemon.step at h
    dsimp only at h
    split at h
    · exact (reapChildren_moves h).1
    · cases h

/-- **The induction over runs**: what every move keeps holds in every state reached. -/
theorem reach_invariant {I : Daemon → Prop} (h0 : I (start listenfd base))
    (hmove : ∀ d d', I d → Move ctx policy listenfd A ok d d' → I d')
    (h : Reach (Daemon.step ctx policy listenfd) (Allowed ctx policy listenfd A ok)
      (start listenfd base) d) :
    I d := by
  refine h.invariant h0 fun s e s' _ hs hallowed hstep => ?_
  have hmoves := step_moves hallowed hstep
  clear hstep
  induction hmoves with
  | refl => exact hs
  | tail _ hlast ih => exact hmove _ _ ih hlast

/-- Every move keeps the tables. -/
theorem Ok.move (hlisten : listenfd ∉ base) (h : Ok listenfd base d)
    (hmove : Move ctx policy listenfd A ok d d') : Ok listenfd base d' := by
  cases hmove with
  | childExits pids => exact h.frame rfl rfl (pids_map d _) rfl rfl rfl h.maxfd
  | exitSignal => exact h.frame rfl rfl rfl rfl rfl rfl h.maxfd
  | maxfd hserves => exact (h.computeMaxFD hserves).1
  | serve mesg? _ _ => exact h.checkFD ctx policy _ mesg?
  | reap _ => exact h.reap _
  | late late _ => exact h.frame rfl rfl (pids_map d _) rfl rfl rfl h.maxfd
  | connect _ hserves hacc => exact h.accepted hserves hacc
  | stop hserves horder => exact h.stop hserves hlisten horder

end Daemon

end Bwctl
