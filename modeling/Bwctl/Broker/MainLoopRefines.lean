import Bwctl.Broker.MainLoopSteps
import Bwctl.Broker.SlotList

/-!
# What the main loop guarantees

* `daemon_tables` — the tables, the mask and the open descriptors agree in every state reached.
* `daemon_refines_broker` — the loop with its tables is a run of the broker.
* `ready_pipes_served` — a pass serves every pipe that is ready, and none twice.
* `daemon_records_children` — the records are the children that have not been waited for.
* `exited_child_flagged` — a child that has exited is waited for, unless its signal came too late.
* `shutdown_leaves_nothing` — the last pass leaves no record, no child and no pipe.
-/

set_option autoImplicit false

namespace Bwctl

open GuardedRuns

namespace Daemon

variable {ctx : Context} {policy : Policy} {listenfd : Nat} {base : Finset Nat} {d d' : Daemon}
  {A : AcceptOutcome → Prop} {ok : Broker → BrokerEvent → Prop}

/-! ## The broker of the loop -/

/-- A child that is waited for leaves the broker, where it has a record. -/
theorem reap_broker (hkeyed : (d.pidtable.map (·.pid)).Nodup) (child : Nat) :
    (d.reap child).broker = d.broker ∨
      ∃ i c, d.broker.children[i]? = some c ∧ (d.reap child).broker = d.broker.freeChldState i c := by
  unfold reap
  dsimp only
  split
  · exact .inl rfl
  · rename_i c hfind
    obtain ⟨i, hi⟩ := List.mem_iff_getElem?.1 (find_pid hfind).1
    refine .inr ⟨i, c.state, by simp [broker, hi], ?_⟩
    have herase : (d.pidtable.filter (·.pid ≠ c.pid)).map (·.state) =
        (d.pidtable.map (·.state)).eraseIdx i := by
      rw [Registry.filter_eq_eraseIdx hkeyed hi, List.eraseIdx_map]
    unfold freeChldState closeFd broker Broker.freeChldState
    split <;> split <;> simpa using herase

theorem accepted_broker {outcome : AcceptOutcome} (h : d.accepted outcome = some d') :
    d'.broker = d.broker ∨ d.broker.step ctx policy .connect = some d'.broker := by
  obtain rfl | ⟨pid, -, -, rfl⟩ | ⟨pid, fd, -, -, -, rfl⟩ := accepted_cases h
  · exact .inl rfl
  · exact .inl rfl
  · exact .inr (by simp [Broker.step, withChild, broker])

theorem closePipes_broker (order : List (Nat × Nat)) : ∀ d : Daemon,
    (d.closePipes order).broker = d.broker := by
  induction order with
  | nil => exact fun _ => rfl
  | cons entry order ih =>
    obtain ⟨fd, pid⟩ := entry
    intro d
    rw [closePipes, ih]
    unfold broker
    congr 1
    rw [List.map_map]
    refine List.map_congr_left fun c _ => ?_
    dsimp only [Function.comp_apply]
    split <;> rfl

/-- A move is a step of the broker, or none. -/
theorem move_broker (h : Ok listenfd base d) (hconnect : ∀ b, ok b .connect)
    (hexit : ∀ b i, ok b (.exit i)) (hmove : Move ctx policy listenfd A ok d d') :
    d'.broker = d.broker ∨ ∃ e, ok d.broker e ∧ d.broker.step ctx policy e = some d'.broker := by
  cases hmove with
  | childExits pids => exact .inl rfl
  | exitSignal => exact .inl rfl
  | maxfd _ =>
    left
    rw [computeMaxFD_eq]
    rfl
  | @serve fd pid mesg? _ hok =>
    obtain heq | ⟨-, heq⟩ | ⟨i, c, mesg, rfl, hi, hc, heq⟩ := checkFD_cases ctx policy d pid mesg?
    · exact .inl (by rw [heq])
    · exact .inl (by rw [heq]; rfl)
    · have hlen := (length_checkFD ctx policy d.broker i c mesg).trans d.length_children
      refine .inr ⟨.mesg i mesg, hok i hi mesg rfl, ?_⟩
      rw [heq, broker_withBroker hlen, Broker.step, hc]
      rfl
  | @reap child _ =>
    have hkeyed : (d.pidtable.map (·.pid)).Nodup := by
      have hfirst := h.keyed.first
      rw [keys, List.map_map] at hfirst
      exact hfirst
    obtain heq | ⟨i, c, hc, heq⟩ := reap_broker hkeyed child
    · exact .inl heq
    · refine .inr ⟨.exit i, hexit _ i, ?_⟩
      rw [heq, Broker.step, hc]
      rfl
  | late late _ => exact .inl rfl
  | connect _ _ hacc =>
    have hor : d'.broker = d.broker ∨ d.broker.step ctx policy .connect = some d'.broker :=
      accepted_broker hacc
    rcases hor with heq | hstep
    · exact .inl heq
    · exact .inr ⟨.connect, hconnect _, hstep⟩
  | stop _ _ => exact .inl (closePipes_broker _ _)

/-- Every event is allowed. -/
theorem allowed_any (e : DaemonEvent) :
    d.Allowed ctx policy listenfd (fun _ => True) anyEvent e := by
  have hpipes (avail : Finset Nat) (mesgs : Nat → Option ChldMesg) (order : List (Nat × Nat)) :
      ∀ d : Daemon, PipesOk ctx policy anyEvent avail mesgs order d := by
    induction order with
    | nil => exact fun _ => trivial
    | cons entry rest ih =>
      intro d
      unfold PipesOk
      split
      · exact ⟨fun _ _ _ _ => trivial, ih _⟩
      · exact ih d
  cases e <;> first | trivial | exact hpipes _ _ _ _

/-- The run starts the same when the listening socket is not counted twice. -/
theorem start_erase (listenfd : Nat) (base : Finset Nat) :
    start listenfd (base.erase listenfd) = start listenfd base := by
  have hinsert : insert listenfd (base.erase listenfd) = insert listenfd base := by grind
  unfold start
  rw [hinsert]

/-- The induction over runs, with the tables known to be consistent. -/
theorem reach_invariant_ok {I : Daemon → Prop} (h0 : I (start listenfd base))
    (hmove : ∀ d d', Ok listenfd (base.erase listenfd) d → I d →
      Move ctx policy listenfd A ok d d' → I d')
    (h : Reach (Daemon.step ctx policy listenfd) (Allowed ctx policy listenfd A ok)
      (start listenfd base) d) : Ok listenfd (base.erase listenfd) d ∧ I d := by
  refine reach_invariant (I := fun d => Ok listenfd (base.erase listenfd) d ∧ I d) ⟨?_, h0⟩ ?_ h
  · exact start_erase listenfd base ▸ start_ok listenfd _
  · rintro d d' ⟨hok, hI⟩ hone
    exact ⟨hok.move (Finset.notMem_erase listenfd base) hone, hmove d d' hok hI hone⟩

theorem reach_ok (h : Reach (Daemon.step ctx policy listenfd) (Allowed ctx policy listenfd A ok)
    (start listenfd base) d) : Ok listenfd (base.erase listenfd) d :=
  (reach_invariant_ok (I := fun _ => True) trivial (fun _ _ _ _ _ => trivial) h).1

/-! ## Runs -/

/-- A new child gets its record, if there is one. -/
def keepsRecord : DaemonEvent → Bool
  | .connection _ _ (.forked _ _ _ pidStored fdStored) _ _ => pidStored && fdStored
  | _ => true

theorem allowed_keepsRecord (d : Daemon) {e : DaemonEvent} (h : keepsRecord e = true) :
    d.Allowed ctx policy listenfd Stored anyEvent e := by
  cases e with
  | connection avail interrupts outcome exit r =>
    cases outcome with
    | forked connfd newPipe pid pidStored fdStored => exact Bool.and_eq_true_iff.1 h
    | _ => trivial
  | pipes avail order mesgs exit r => exact allowed_any (.pipes avail order mesgs exit r)
  | _ => trivial

/-- A run with the listening socket 3. -/
def campusLoop (events : List DaemonEvent) : Option Daemon :=
  replay (Daemon.step campusContext campusPolicy 3) (fun _ e => keepsRecord e) (start 3 {0, 1, 2})
    events

theorem reach_campusLoop {events : List DaemonEvent} {d : Daemon} (h : campusLoop events = some d) :
    Reach (Daemon.step campusContext campusPolicy 3) (Allowed campusContext campusPolicy 3 Stored anyEvent)
      (start 3 {0, 1, 2}) d :=
  Reach.of_replay (fun d _ => allowed_keepsRecord d) Reach.start h

/-- No child exits. -/
def quiet : Reap := ⟨[], [], []⟩

/-- A child connects. -/
def campusChild (pid fd : Nat) : DaemonEvent :=
  .connection {3} [] (.forked 10 (fd, 11) pid true true) false quiet

/-- A child names its class. -/
def campusClass (pid fd : Nat) : DaemonEvent :=
  .pipes {fd} [(fd, pid)] (fun _ => some (.className "root")) false quiet

/-! ## The run of the broker -/

/-- **The loop is a run of the broker**: with its tables, its waiting and its interrupts it takes the
    broker only to states that the broker reaches by itself, by messages that the run allows. -/
theorem daemon_refines_broker (hconnect : ∀ b, ok b .connect) (hexit : ∀ b i, ok b (.exit i))
    (h : Reach (Daemon.step ctx policy listenfd) (Allowed ctx policy listenfd A ok)
      (start listenfd base) d) :
    Reach (Broker.step ctx policy) ok Broker.start d.broker := by
  refine (reach_invariant_ok (I := fun d => Reach (Broker.step ctx policy) ok Broker.start d.broker)
    Reach.start (fun d d' hok hreach hmove => ?_) h).2
  obtain heq | ⟨e, he, hstep⟩ := move_broker hok hconnect hexit hmove
  · rwa [heq]
  · exact hreach.step he hstep

theorem daemon_refines_broker_campus : ∃ d,
    campusLoop [campusChild 100 5, campusClass 100 5] = some d ∧ d.broker.children.length = 1 ∧
      Reach (Broker.step campusContext campusPolicy) anyEvent Broker.start d.broker := by
  have hrun : (campusLoop [campusChild 100 5, campusClass 100 5]).map
      (fun d => d.broker.children.length) = some 1 := by decide
  obtain ⟨d, hd, hlen⟩ := Option.map_eq_some_iff.1 hrun
  exact ⟨d, hd, hlen,
    daemon_refines_broker (fun _ => trivial) (fun _ _ => trivial) (reach_campusLoop hd)⟩

/-! ## The tables -/

/-- No pipe is left once the loop was left. -/
theorem Ok.left (h : Ok listenfd base d) (hleft : d.serving = false) :
    d.fdtable = [] ∧ d.openfds = base := by
  have hindex : Registry.index d.keys = [] := by
    refine List.filterMap_eq_nil_iff.2 fun k hk => ?_
    have hphase := h.phase k hk
    rw [hleft, Option.isSome_eq_false_iff, Option.isNone_iff_eq_none] at hphase
    rw [hphase]
    rfl
  refine ⟨h.fdtable.trans hindex, ?_⟩
  rw [h.opened, openBase, hleft, fds, hindex]
  simp

/-- **The tables, the mask and the open descriptors agree** in every state reached: while the loop
    runs `select` looks at the listening socket and at the pipe of every record, and afterwards no
    pipe is left open. -/
theorem daemon_tables
    (h : Reach (Daemon.step ctx policy listenfd) anyEvent (start listenfd base) d) :
    Ok listenfd (base.erase listenfd) d ∧
      (d.serving = true → (d.computeMaxFD listenfd).watched = insert listenfd d.fds.toFinset) ∧
      (d.serving = false → d.fdtable = [] ∧ d.openfds = base.erase listenfd) := by
  have hok := reach_ok (h.mono fun _ e _ => allowed_any e)
  exact ⟨hok, hok.watched, hok.left⟩

theorem daemon_tables_campus : ∃ d,
    campusLoop [campusChild 100 5, .exitSignal, .stop [(5, 100)]] = some d ∧
      d.pidtable.map (·.pid) = [100] ∧ Ok 3 (({0, 1, 2} : Finset Nat).erase 3) d := by
  have hrun : (campusLoop [campusChild 100 5, .exitSignal, .stop [(5, 100)]]).map
      (fun d => d.pidtable.map (·.pid)) = some [100] := by decide
  obtain ⟨d, hd, hpids⟩ := Option.map_eq_some_iff.1 hrun
  have hreach := (reach_campusLoop hd).mono fun _ _ _ => trivial
  exact ⟨d, hd, hpids, (daemon_tables hreach).1⟩

/-! ## The pipes that are ready -/

/-- The table is gone through up to the last pipe that is ready. -/
theorem cleanPipes_foldl (avail : Finset Nat) (mesgs : Nat → Option ChldMesg)
    (order : List (Nat × Nat)) : ∀ (d : Daemon) (nready : Int),
      nready = (order.filter (·.1 ∈ avail)).length →
      d.cleanPipes ctx policy avail mesgs order nready =
        (order.filter (·.1 ∈ avail)).foldl (fun d e => d.checkFD ctx policy e.2 (mesgs e.1)) d := by
  induction order with
  | nil => exact fun _ _ _ => rfl
  | cons entry rest ih =>
    obtain ⟨fd, pid⟩ := entry
    intro d nready hready
    unfold cleanPipes
    dsimp only
    split
    · rename_i hfd
      rw [List.filter_cons_of_pos (by simpa using hfd)] at hready ⊢
      rw [List.length_cons] at hready
      rw [List.foldl_cons]
      split
      · exact ih _ _ (by omega)
      · have hnil : rest.filter (·.1 ∈ avail) = [] := List.eq_nil_of_length_eq_zero (by omega)
        rw [hnil, List.foldl_nil]
    · rename_i hfd
      rw [List.filter_cons_of_neg (by simpa using hfd)] at hready ⊢
      exact ih d nready hready

/-- **A pass serves every pipe that is ready, and none twice**, in the order of the table. -/
theorem ready_pipes_served
    (h : Reach (Daemon.step ctx policy listenfd) anyEvent (start listenfd base) d)
    (hserves : d.serving = true) {avail : Finset Nat} {order : List (Nat × Nat)}
    (havail : avail ⊆ (d.computeMaxFD listenfd).watched) (hlisten : listenfd ∉ avail)
    (horder : order.Perm d.fdtable) (mesgs : Nat → Option ChldMesg) :
    ((order.filter (·.1 ∈ avail)).map Prod.fst).Nodup ∧
      ((order.filter (·.1 ∈ avail)).map Prod.fst).toFinset = avail ∧
      (d.computeMaxFD listenfd).cleanPipes ctx policy avail mesgs order avail.card =
        (order.filter (·.1 ∈ avail)).foldl (fun d e => d.checkFD ctx policy e.2 (mesgs e.1))
          (d.computeMaxFD listenfd) := by
  have hok := reach_ok (h.mono fun _ e _ => allowed_any e)
  have hfds : (order.map Prod.fst).Perm d.fds := by
    rw [fds, ← hok.fdtable]
    exact horder.map _
  have hnodup : ((order.filter (·.1 ∈ avail)).map Prod.fst).Nodup :=
    (hfds.nodup_iff.2 hok.keyed.second).sublist (List.filter_sublist.map _)
  have hset : ((order.filter (·.1 ∈ avail)).map Prod.fst).toFinset = avail := by
    ext fd
    rw [List.mem_toFinset, List.mem_map]
    constructor
    · rintro ⟨e, he, rfl⟩
      simpa using List.of_mem_filter he
    · intro hfd
      have hmem := havail hfd
      rw [hok.watched hserves, Finset.mem_insert, List.mem_toFinset] at hmem
      rcases hmem with rfl | hmem
      · exact absurd hfd hlisten
      · obtain ⟨e, he, rfl⟩ := List.mem_map.1 (hfds.mem_iff.2 hmem)
        exact ⟨e, List.mem_filter.2 ⟨he, by simpa using hfd⟩, rfl⟩
  refine ⟨hnodup, hset, cleanPipes_foldl avail mesgs order _ _ ?_⟩
  rw [← List.length_map (f := Prod.fst), ← List.toFinset_card_of_nodup hnodup, hset]

theorem ready_pipes_served_campus : ∃ d,
    campusLoop [campusChild 100 5, campusChild 101 6] = some d ∧
      ((([(6, 101), (5, 100)] : List (Nat × Nat)).filter (·.1 ∈ ({5} : Finset Nat))).map
        Prod.fst).toFinset = {5} := by
  have hrun : (campusLoop [campusChild 100 5, campusChild 101 6]).map (fun d => decide
      (d.serving = true ∧ {5} ⊆ (d.computeMaxFD 3).watched ∧ [(6, 101), (5, 100)].Perm d.fdtable)) =
        some true := by decide
  obtain ⟨d, hd, hall⟩ := Option.map_eq_some_iff.1 hrun
  obtain ⟨hserves, havail, horder⟩ := of_decide_eq_true hall
  have hreach := (reach_campusLoop hd).mono fun _ _ _ => trivial
  exact ⟨d, hd, (ready_pipes_served hreach hserves havail (by decide) horder fun _ => none).2.1⟩

/-! ## Records and children -/

/-- What waiting for a child leaves alone. -/
theorem reap_frame (d : Daemon) (child : Nat) :
    (d.reap child).procs = d.procs.filter (·.1 ≠ child) ∧
      (d.reap child).ipfd_chld = d.ipfd_chld ∧ (d.reap child).missed = d.missed := by
  unfold reap freeChldState closeFd
  dsimp only
  split
  · exact ⟨rfl, rfl, rfl⟩
  · split <;> split <;> exact ⟨rfl, rfl, rfl⟩

theorem reap_records {child : Nat} (hchild : child ∈ d.pidtable.map (·.pid)) :
    (d.reap child).crashed = d.crashed ∧
      (d.reap child).pidtable.map (·.pid) = (d.pidtable.map (·.pid)).filter (· ≠ child) := by
  have hmap (l : List ChldRec) (pid : Nat) :
      (l.filter (·.pid ≠ pid)).map (·.pid) = (l.map (·.pid)).filter (· ≠ pid) := by
    rw [List.filter_map]
    rfl
  unfold reap freeChldState closeFd
  dsimp only
  split
  · rename_i hfind
    obtain ⟨c, hc, rfl⟩ := List.mem_map.1 hchild
    have hne := List.find?_eq_none.1 hfind c hc
    simp at hne
  · rename_i c hfind
    obtain ⟨hc, rfl⟩ := find_pid hfind
    split <;> split <;> exact ⟨rfl, hmap _ _⟩

/-- What closing the pipes leaves alone. -/
theorem closePipes_frame (order : List (Nat × Nat)) : ∀ d : Daemon,
    (d.closePipes order).procs = d.procs ∧ (d.closePipes order).ipfd_chld = d.ipfd_chld ∧
      (d.closePipes order).missed = d.missed ∧ (d.closePipes order).crashed = d.crashed := by
  induction order with
  | nil => exact fun _ => ⟨rfl, rfl, rfl, rfl⟩
  | cons entry order ih => exact fun d => ih _

/-- The records are the children that have not been waited for. -/
def Recorded (d : Daemon) : Prop := d.crashed = false ∧ d.pidtable.map (·.pid) = d.pids

/-- A move keeps the records, where both tables take the record of a new child. -/
theorem Recorded.move (hok : Ok listenfd base d) (h : d.Recorded)
    (hmove : Move ctx policy listenfd Stored ok d d') : d'.Recorded := by
  have hkeys (d : Daemon) : d.pidtable.map (·.pid) = d.keys.map Prod.fst := by
    rw [keys, List.map_map]
    rfl
  cases hmove with
  | childExits pids => exact ⟨h.1, h.2.trans (pids_map d _).symm⟩
  | exitSignal => exact h
  | maxfd _ =>
    rw [computeMaxFD_eq]
    exact h
  | @serve fd pid mesg? hentry _ =>
    obtain heq | ⟨hpid, -⟩ | ⟨i, c, mesg, -, -, -, heq⟩ := checkFD_cases ctx policy d pid mesg?
    · rwa [heq]
    · rw [hok.fdtable, Registry.mem_index] at hentry
      exact absurd (List.mem_map_of_mem hentry) hpid
    · have hlen := (length_checkFD ctx policy d.broker i c mesg).trans d.length_children
      rw [heq]
      refine ⟨h.1, ?_⟩
      rw [hkeys, keys_withBroker hlen, ← hkeys]
      exact h.2
  | @reap child hchild =>
    obtain ⟨hcrashed, hrecords⟩ := reap_records (h.2 ▸ hchild)
    refine ⟨hcrashed.trans h.1, ?_⟩
    rw [hrecords, h.2, pids, pids, (reap_frame d child).1, pids_filter]
  | late late _ => exact ⟨h.1, h.2.trans (pids_map d _).symm⟩
  | connect hstored _ hacc =>
    obtain rfl | ⟨pid, hnot, -, -⟩ | ⟨pid, fd, -, -, -, rfl⟩ := accepted_cases hacc
    · exact h
    · exact absurd hstored hnot
    · refine ⟨h.1, ?_⟩
      simp only [withChild, pids, List.map_append]
      rw [h.2, pids]
      rfl
  | @stop order _ _ =>
    obtain ⟨-, -, hkeys', hpids, -⟩ := closePipes_spec order (d.leave listenfd)
    refine ⟨(closePipes_frame order _).2.2.2.trans h.1, ?_⟩
    rw [hkeys, hkeys', hpids, List.map_map]
    have hfirst : ∀ k ∈ (d.leave listenfd).keys,
        (Prod.fst ∘ fun k => if k.1 ∈ order.map Prod.snd then (k.1, none) else k) k = k.1 := by
      intro k _
      dsimp only [Function.comp_apply]
      split <;> rfl
    rw [List.map_congr_left hfirst]
    exact (hkeys d).symm.trans h.2

theorem reach_recorded
    (h : Reach (Daemon.step ctx policy listenfd) (Allowed ctx policy listenfd Stored ok)
      (start listenfd base) d) : d.Recorded :=
  (reach_invariant_ok ⟨rfl, rfl⟩ (fun _ _ hok hrec hmove => hrec.move hok hmove) h).2

/-- **The records are the children**: as long as both tables take every new record, the process is
    not lost, and it has a record for each child that has not been waited for, in the order of the
    connections. -/
theorem daemon_records_children
    (h : Reach (Daemon.step ctx policy listenfd) (Allowed ctx policy listenfd Stored ok)
      (start listenfd base) d) : d.crashed = false ∧ d.pidtable.map (·.pid) = d.pids :=
  reach_recorded h

theorem daemon_records_children_campus : ∃ d,
    campusLoop [campusChild 100 5, campusChild 101 6, .childExits [100],
      .interrupted ⟨[], [100], []⟩] = some d ∧ d.pids = [101] ∧ d.pidtable.map (·.pid) = d.pids := by
  have hrun : (campusLoop [campusChild 100 5, campusChild 101 6, .childExits [100],
      .interrupted ⟨[], [100], []⟩]).map (·.pids) = some [101] := by decide
  obtain ⟨d, hd, hpids⟩ := Option.map_eq_some_iff.1 hrun
  exact ⟨d, hd, hpids, (daemon_records_children (reach_campusLoop hd)).2⟩

/-! ## Signals -/

/-- A child that has exited will be waited for, or its signal came too late. -/
def Flagged (d : Daemon) : Prop := ∀ p ∈ d.procs, p.2 = true → d.ipfd_chld = true ∨ p.1 ∈ d.missed

theorem Flagged.move (h : d.Flagged) (hmove : Move ctx policy listenfd A ok d d') : d'.Flagged := by
  cases hmove with
  | childExits pids =>
    intro p hp hexited
    obtain ⟨p, hin, rfl⟩ := List.mem_map.1 hp
    dsimp only [childExits] at hexited ⊢
    rw [Bool.or_eq_true, decide_eq_true_eq] at hexited
    rcases hexited with hexited | hexited
    · rcases h p hin hexited with hflag | hmissed
      · exact .inl (by rw [hflag, Bool.true_or])
      · exact .inr hmissed
    · left
      cases pids with
      | nil => cases hexited
      | cons pid pids => exact Bool.or_true _
  | exitSignal => exact h
  | maxfd _ =>
    rw [computeMaxFD_eq]
    exact h
  | @serve fd pid mesg? _ _ =>
    obtain heq | ⟨-, heq⟩ | ⟨i, c, mesg, -, -, -, heq⟩ := checkFD_cases ctx policy d pid mesg? <;>
      rw [heq] <;> exact h
  | @reap child _ =>
    obtain ⟨hprocs, hflag, hmissed⟩ := reap_frame d child
    intro p hp hexited
    rw [hprocs] at hp
    rw [hflag, hmissed]
    exact h p (List.mem_of_mem_filter hp) hexited
  | late late hdone =>
    intro p hp hexited
    obtain ⟨p, hin, rfl⟩ := List.mem_map.1 hp
    dsimp only at hexited
    rw [hdone p hin] at hexited
    exact .inr (by simpa using hexited)
  | connect _ _ hacc =>
    obtain rfl | ⟨pid, -, -, rfl⟩ | ⟨pid, fd, -, -, -, rfl⟩ := accepted_cases hacc
    · exact h
    all_goals
      intro p hp hexited
      rcases List.mem_append.1 hp with hp | hp
      · exact h p hp hexited
      · rw [List.mem_singleton.1 hp] at hexited
        cases hexited
  | @stop order _ _ =>
    obtain ⟨hprocs, hflag, hmissed, -⟩ := closePipes_frame order (d.leave listenfd)
    unfold Flagged
    rw [hprocs, hflag, hmissed]
    exact h

theorem reach_flagged
    (h : Reach (Daemon.step ctx policy listenfd) (Allowed ctx policy listenfd A ok)
      (start listenfd base) d) : d.Flagged :=
  reach_invariant (fun _ hp => by cases hp) (fun _ _ hflagged hmove => hflagged.move hmove) h

/-- **A child that has exited is waited for**: its signal is still flagged, or it is one of those
    that came between the last `waitpid` and the reset of the flag. -/
theorem exited_child_flagged
    (h : Reach (Daemon.step ctx policy listenfd) anyEvent (start listenfd base) d) :
    ∀ p ∈ d.procs, p.2 = true → d.ipfd_chld = true ∨ p.1 ∈ d.missed :=
  reach_flagged (h.mono fun _ e _ => allowed_any e)

/-- The second child exits when the first has been waited for, and its signal is forgotten. -/
theorem exited_child_flagged_campus : ∃ d,
    campusLoop [campusChild 100 5, campusChild 101 6, .childExits [100],
      .interrupted ⟨[], [100], [101]⟩] = some d ∧ (d.procs, d.ipfd_chld) = ([(101, true)], false) ∧
      ∀ p ∈ d.procs, p.2 = true → d.ipfd_chld = true ∨ p.1 ∈ d.missed := by
  have hrun : (campusLoop [campusChild 100 5, campusChild 101 6, .childExits [100],
      .interrupted ⟨[], [100], [101]⟩]).map (fun d => (d.procs, d.ipfd_chld)) =
        some ([(101, true)], false) := by decide
  obtain ⟨d, hd, hprocs⟩ := Option.map_eq_some_iff.1 hrun
  have hreach := (reach_campusLoop hd).mono fun _ _ _ => trivial
  exact ⟨d, hd, hprocs, exited_child_flagged hreach⟩

/-! ## The end of the process -/

theorem waitLoop_procs (reaped : List Nat) : ∀ {d d' : Daemon}, waitLoop reaped d = some d' →
    ∀ p ∈ d'.procs, p ∈ d.procs := by
  induction reaped with
  | nil =>
    intro d d' h p hp
    unfold waitLoop at h
    split at h
    · cases h
    · cases h
      exact hp
  | cons child rest ih =>
    intro d d' h p hp
    have hback : ∀ p ∈ (d.reap child).procs, p ∈ d.procs := by
      rw [(reap_frame d child).1]
      exact fun p hp => List.mem_of_mem_filter hp
    unfold waitLoop at h
    split at h
    · unfold andThen at h
      dsimp only at h
      split at h
      · cases h
        exact hback p hp
      · exact hback p (ih h p hp)
    · cases h

/-- The children that are left were there, and had not exited. -/
theorem reapChildren_procs {r : Reap} (h : d.reapChildren r = some d') (hcrashed : d'.crashed = false)
    (hflag : d.ipfd_chld = true) :
    ∀ p ∈ d'.procs, ∃ q ∈ d.procs, q.1 = p.1 ∧ q.2 = false := by
  unfold Daemon.reapChildren andThen at h
  have hchld : (d.childExits r.early).ipfd_chld = true := by simp [childExits, hflag]
  dsimp only at h
  rw [hchld, Bool.not_true, if_neg Bool.false_ne_true] at h
  split at h
  · cases h
  rename_i d₁ hwait
  split at h
  · rename_i hlost
    cases h
    rw [hlost] at hcrashed
    cases hcrashed
  cases h
  intro p hp
  obtain ⟨p₁, hp₁, rfl⟩ := List.mem_map.1 hp
  have hnot := waitLoop_done r.reaped hwait hcrashed p₁ hp₁
  obtain ⟨q, hq, rfl⟩ := List.mem_map.1 (waitLoop_procs r.reaped hwait p₁ hp₁)
  exact ⟨q, hq, rfl, (Bool.or_eq_false_iff.1 hnot).1⟩

/-- **The last pass**: when every child has exited and no signal came too late, a pass that waits for
    the children leaves no record, no child and no pipe, and the process can end. -/
theorem shutdown_leaves_nothing
    (h : Reach (Daemon.step ctx policy listenfd) (Allowed ctx policy listenfd Stored anyEvent)
      (start listenfd base) d)
    (hexited : ∀ p ∈ d.procs, p.2 = true) (hmissed : d.missed = []) {r : Reap}
    (hwait : d.step ctx policy listenfd (.wait r) = some d') :
    d'.pidtable = [] ∧ d'.procs = [] ∧ d'.crashed = false ∧ d'.openfds = base.erase listenfd := by
  have hallowed : d.Allowed ctx policy listenfd Stored anyEvent (.wait r) := trivial
  have hnext := h.step hallowed hwait
  obtain ⟨hcrashed, hrecords⟩ := reach_recorded hnext
  unfold Daemon.step at hwait
  dsimp only at hwait
  split at hwait
  case isFalse => cases hwait
  rename_i hguard
  obtain ⟨-, hleft, hsome⟩ := hguard
  have hflag : d.ipfd_chld = true := by
    have hpids : d.pids ≠ [] := by
      rw [← (reach_recorded h).2]
      simpa using hsome
    obtain ⟨p, hp⟩ := List.exists_mem_of_ne_nil d.procs (by simpa [pids] using hpids)
    rcases reach_flagged h p hp (hexited p hp) with hflag | hlate
    · exact hflag
    · rw [hmissed] at hlate
      cases hlate
  have hprocs : d'.procs = [] := by
    refine List.eq_nil_iff_forall_not_mem.2 fun p hp => ?_
    obtain ⟨q, hq, -, hnot⟩ := reapChildren_procs hwait hcrashed hflag p hp
    rw [hexited q hq] at hnot
    cases hnot
  have hserving : d'.serving = false := by
    have hmoves : Moves ctx policy listenfd Stored anyEvent d d' := reapChildren_moves hwait
    exact hmoves.2.trans hleft
  refine ⟨?_, hprocs, hcrashed, ((reach_ok hnext).left hserving).2⟩
  rw [← List.map_eq_nil_iff, hrecords, pids, hprocs, List.map_nil]

theorem shutdown_leaves_nothing_campus : ∃ d d',
    campusLoop [campusChild 100 5, .exitSignal, .stop [(5, 100)], .childExits [100]] = some d ∧
      d.step campusContext campusPolicy 3 (.wait ⟨[], [100], []⟩) = some d' ∧ d'.pidtable = [] ∧
        d'.openfds = ({0, 1, 2} : Finset Nat).erase 3 := by
  have hrun : (campusLoop [campusChild 100 5, .exitSignal, .stop [(5, 100)], .childExits [100]]).map
      (fun d => decide ((∀ p ∈ d.procs, p.2 = true) ∧ d.missed = [] ∧
        (d.step campusContext campusPolicy 3 (.wait ⟨[], [100], []⟩)).isSome)) = some true := by
    decide
  obtain ⟨d, hd, hall⟩ := Option.map_eq_some_iff.1 hrun
  obtain ⟨hexited, hmissed, hsome⟩ := of_decide_eq_true hall
  obtain ⟨d', hwait⟩ := Option.isSome_iff_exists.1 hsome
  obtain ⟨hnone, -, -, hopen⟩ :=
    shutdown_leaves_nothing (reach_campusLoop hd) hexited hmissed hwait
  exact ⟨d, d', hd, hwait, hnone, hopen⟩

end Daemon

end Bwctl
