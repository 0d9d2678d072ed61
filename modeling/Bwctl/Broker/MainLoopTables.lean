import Bwctl.Broker.MainLoop
import Bwctl.Lib.Registry

/-!
# What the functions of the main loop keep

* `Daemon.Ok` — the two tables are indexes of the same records, the mask is the listening socket and
  the pipes, and nothing else is open.
* `checkFD_cases`, `accepted_cases`, `findMaxFD_spec`, `closePipes_spec` — all the functions can do.
* `Ok.checkFD`, `Ok.reap`, `Ok.accepted`, `Ok.computeMaxFD`, `Ok.stop` — each of them keeps it.
-/

set_option autoImplicit false

namespace Bwctl

open GuardedRuns

namespace Daemon

variable {ctx : Context} {policy : Policy} {listenfd : Nat} {base : Finset Nat} {d d' : Daemon}

/-- The keys of the records. -/
def keys (d : Daemon) : List (Nat × Option Nat) := d.pidtable.map fun c => (c.pid, c.fd)

/-- The descriptors in the table. -/
def fds (d : Daemon) : List Nat := (Registry.index d.keys).map Prod.fst

/-- The process ids of the children. -/
def pids (d : Daemon) : List Nat := d.procs.map Prod.fst

/-- What is open besides the pipes. -/
def openBase (listenfd : Nat) (base : Finset Nat) (d : Daemon) : Finset Nat :=
  if d.serving then insert listenfd base else base

/-- The tables, the mask and the descriptors are consistent. -/
structure Ok (listenfd : Nat) (base : Finset Nat) (d : Daemon) : Prop where
  keyed : Registry.WellKeyed d.keys
  fdtable : d.fdtable = Registry.index d.keys
  procs : d.pids.Nodup
  known : ∀ k ∈ d.keys, k.1 ∈ d.pids
  phase : ∀ k ∈ d.keys, k.2.isSome = d.serving
  apart : ∀ fd ∈ d.fds, fd ∉ insert listenfd base
  mask : d.readfds = if d.serving then insert listenfd d.fds.toFinset else ∅
  opened : d.openfds = d.openBase listenfd base ∪ d.fds.toFinset
  maxfd : ∀ m ∈ d.maxfd, IsGreatest (d.readfds : Set Nat) m

/-- Only these fields matter. -/
theorem Ok.frame (h : Ok listenfd base d) (hkeys : d'.keys = d.keys) (hfdtable : d'.fdtable = d.fdtable)
    (hprocs : d'.pids = d.pids) (hmask : d'.readfds = d.readfds) (hopen : d'.openfds = d.openfds)
    (hserving : d'.serving = d.serving) (hmax : ∀ m ∈ d'.maxfd, IsGreatest (d.readfds : Set Nat) m) :
    Ok listenfd base d' := by
  have hfds : d'.fds = d.fds := by rw [fds, hkeys, fds]
  refine ⟨hkeys ▸ h.keyed, ?_, hprocs ▸ h.procs, ?_, ?_, hfds ▸ h.apart, ?_, ?_, ?_⟩
  · rw [hfdtable, hkeys, h.fdtable]
  · rw [hkeys, hprocs]
    exact h.known
  · rw [hkeys, hserving]
    exact h.phase
  · rw [hmask, hserving, hfds, h.mask]
  · rw [hopen, openBase, hserving, hfds, h.opened, openBase]
  · rw [hmask]
    exact hmax

/-! ## Serving the pipes -/

@[simp] theorem length_children (d : Daemon) : d.broker.children.length = d.pidtable.length := by
  simp [broker]

/-- A call keeps the number of the children. -/
theorem length_checkFD (ctx : Context) (policy : Policy) (b : Broker) (i : Nat) (c : ChldState)
    (mesg : ChldMesg) : (b.checkFD ctx policy i c mesg).1.children.length = b.children.length := by
  unfold Broker.checkFD Broker.serve Broker.setChild
  repeat' split
  all_goals simp

theorem keys_withBroker {b : Broker} (h : b.children.length = d.pidtable.length) :
    (d.withBroker b).keys = d.keys := by
  unfold keys withBroker
  apply List.ext_getElem
  · simp [h]
  · intro i h1 h2
    simp

theorem broker_withBroker {b : Broker} (h : b.children.length = d.pidtable.length) :
    (d.withBroker b).broker = b := by
  obtain ⟨used, slots, children⟩ := b
  unfold broker withBroker
  congr 1
  apply List.ext_getElem
  · simp at h
    simp [h]
  · intro i h1 h2
    simp

/-- All `CheckFD` can do: a call of the broker for a child that is there. -/
theorem checkFD_cases (ctx : Context) (policy : Policy) (d : Daemon) (pid : Nat)
    (mesg? : Option ChldMesg) :
    d.checkFD ctx policy pid mesg? = d ∨
      (pid ∉ d.keys.map Prod.fst ∧ d.checkFD ctx policy pid mesg? = { d with crashed := true }) ∨
      ∃ i c mesg, mesg? = some mesg ∧ d.pidtable.findIdx? (·.pid == pid) = some i ∧
        d.broker.children[i]? = some c ∧
        d.checkFD ctx policy pid mesg? = d.withBroker (d.broker.checkFD ctx policy i c mesg).1 := by
  unfold checkFD
  split
  · exact .inl rfl
  · rename_i mesg
    split
    · rename_i hfind
      refine .inr (.inl ⟨?_, rfl⟩)
      rw [List.findIdx?_eq_none_iff] at hfind
      intro hpid
      obtain ⟨k, hk, rfl⟩ := List.mem_map.1 hpid
      obtain ⟨c, hc, rfl⟩ := List.mem_map.1 hk
      simpa using hfind c hc
    · rename_i i hfind
      split
      · exact .inl rfl
      · rename_i c hc
        exact .inr (.inr ⟨i, c, mesg, rfl, hfind, hc, rfl⟩)

theorem Ok.checkFD (h : Ok listenfd base d) (ctx : Context) (policy : Policy) (pid : Nat)
    (mesg? : Option ChldMesg) : Ok listenfd base (d.checkFD ctx policy pid mesg?) := by
  obtain heq | ⟨-, heq⟩ | ⟨i, c, mesg, -, -, -, heq⟩ := checkFD_cases ctx policy d pid mesg?
  · rwa [heq]
  · rw [heq]
    exact h.frame rfl rfl rfl rfl rfl rfl h.maxfd
  · rw [heq]
    have hlen := (length_checkFD ctx policy d.broker i c mesg).trans d.length_children
    exact h.frame (keys_withBroker hlen) rfl rfl rfl rfl rfl h.maxfd

/-! ## Waiting for the children -/

theorem keys_filter (l : List ChldRec) (pid : Nat) :
    ((l.filter (·.pid ≠ pid)).map fun c => (c.pid, c.fd)) =
      (l.map fun c => (c.pid, c.fd)).filter (·.1 ≠ pid) := by
  rw [List.filter_map]
  rfl

theorem pids_filter (l : List (Nat × Bool)) (pid : Nat) :
    (l.filter (·.1 ≠ pid)).map Prod.fst = (l.map Prod.fst).filter (· ≠ pid) := by
  rw [List.filter_map]
  rfl

/-- The record of a child in the table. -/
theorem find_pid {l : List ChldRec} {pid : Nat} {c : ChldRec}
    (h : l.find? (·.pid == pid) = some c) : c ∈ l ∧ c.pid = pid :=
  ⟨List.mem_of_find?_eq_some h, by simpa using List.find?_some h⟩

/-- The descriptors without the one of a record. -/
theorem mem_fds_filter {K : List (Nat × Option Nat)} (hK : Registry.WellKeyed K) {pid fd : Nat}
    (hmem : (pid, some fd) ∈ K) (x : Nat) :
    x ∈ (Registry.index (K.filter (·.1 ≠ pid))).map Prod.fst ↔
      x ∈ (Registry.index K).map Prod.fst ∧ x ≠ fd := by
  rw [Registry.index_remove hK hmem]
  simp only [List.mem_map, List.mem_filter, decide_eq_true_eq]
  constructor
  · rintro ⟨e, ⟨he, hne⟩, rfl⟩
    exact ⟨⟨e, he, rfl⟩, hne⟩
  · rintro ⟨⟨e, he, rfl⟩, hne⟩
    exact ⟨e, ⟨he, hne⟩, rfl⟩

/-- The keys, the mask and the descriptors after `FreeChldState`. -/
theorem Ok.freeChldState {d₁ : Daemon} (h : Ok listenfd base d) {c : ChldRec}
    (hmem : (c.pid, c.fd) ∈ d.keys) (hkeys : d₁.keys = d.keys) (hfdtable : d₁.fdtable = d.fdtable)
    (hprocs : d₁.pids.Nodup) (hknown : ∀ k ∈ d.keys, k.1 ≠ c.pid → k.1 ∈ d₁.pids)
    (hmask : d₁.readfds = d.readfds) (hopen : d₁.openfds = d.openfds)
    (hserving : d₁.serving = d.serving) (hmax : ∀ m ∈ d₁.maxfd, m ∈ d.maxfd ∧ c.fd ≠ some m) :
    Ok listenfd base (d₁.freeChldState c) := by
  have hkeys' : (d₁.freeChldState c).keys = d.keys.filter (·.1 ≠ c.pid) := by
    rw [← hkeys]
    unfold Daemon.freeChldState Daemon.closeFd
    split <;> exact keys_filter d₁.pidtable c.pid
  have hphase : ∀ k ∈ d.keys.filter (·.1 ≠ c.pid), k.2.isSome = d.serving := fun k hk =>
    h.phase k (List.mem_of_mem_filter hk)
  have hknown' : ∀ k ∈ d.keys.filter (·.1 ≠ c.pid), k.1 ∈ d₁.pids := fun k hk =>
    hknown k (List.mem_of_mem_filter hk) (by simpa using List.of_mem_filter hk)
  cases hfd : c.fd with
  | none =>
    rw [hfd] at hmem
    have hindex := Registry.index_remove_none h.keyed hmem
    have hfds : (d₁.freeChldState c).fds = d.fds := by rw [fds, hkeys', hindex, fds]
    have hclose : d₁.closeFd c.fd = d₁ := by rw [hfd]; rfl
    unfold Daemon.freeChldState at hkeys' hfds ⊢
    rw [hclose] at hkeys' hfds ⊢
    dsimp only at hkeys' hfds ⊢
    refine ⟨hkeys' ▸ h.keyed.filter _, ?_, hprocs, hkeys' ▸ hknown', ?_, hfds ▸ h.apart, ?_, ?_,
      fun m hm => ?_⟩
    · rw [hkeys', hindex, hfdtable, h.fdtable]
    · rw [hkeys']
      exact fun k hk => (hphase k hk).trans hserving.symm
    · rw [hfds, hmask, hserving, h.mask]
    · rw [hfds, hopen, h.opened]
      unfold openBase
      rw [hserving]
    · rw [hmask]
      exact h.maxfd m (hmax m hm).1
  | some fd =>
    rw [hfd] at hmem hmax
    have hserves : d.serving = true := (h.phase _ hmem).symm
    have hin : fd ∈ d.fds := List.mem_map.2 ⟨(fd, c.pid), Registry.mem_index.2 hmem, rfl⟩
    have hout := h.apart fd hin
    have hlisten : listenfd ≠ fd := fun heq => hout (heq ▸ Finset.mem_insert_self _ _)
    have hfds (x : Nat) : x ∈ (d₁.freeChldState c).fds ↔ x ∈ d.fds ∧ x ≠ fd := by
      rw [fds, hkeys', fds]
      exact mem_fds_filter h.keyed hmem x
    have hclose : d₁.closeFd c.fd = { d₁ with
        openfds := d₁.openfds.erase fd
        readfds := d₁.readfds.erase fd
        fdtable := d₁.fdtable.filter (·.1 ≠ fd) } := by
      rw [hfd]
      rfl
    have htable : (d₁.freeChldState c).fdtable = d.fdtable.filter (·.1 ≠ fd) := by
      rw [← hfdtable, Daemon.freeChldState, hclose]
    have hread : (d₁.freeChldState c).readfds = d.readfds.erase fd := by
      rw [← hmask, Daemon.freeChldState, hclose]
    have hopenfds : (d₁.freeChldState c).openfds = d.openfds.erase fd := by
      rw [← hopen, Daemon.freeChldState, hclose]
    have hserving' : (d₁.freeChldState c).serving = true := by
      rw [← hserves, ← hserving, Daemon.freeChldState, hclose]
    have hpids : (d₁.freeChldState c).pids = d₁.pids := by
      rw [Daemon.freeChldState, hclose]
      rfl
    have hmaxfd : (d₁.freeChldState c).maxfd = d₁.maxfd := by
      rw [Daemon.freeChldState, hclose]
    refine ⟨hkeys' ▸ h.keyed.filter _, ?_, hpids ▸ hprocs, ?_, ?_, fun x hx => ?_, ?_, ?_,
      fun m hm => ?_⟩
    · rw [htable, hkeys', Registry.index_remove h.keyed hmem, h.fdtable]
    · rw [hkeys', hpids]
      exact hknown'
    · rw [hkeys', hserving', ← hserves]
      exact hphase
    · exact h.apart x ((hfds x).1 hx).1
    · rw [hread, hserving', h.mask, hserves, if_pos rfl, if_pos rfl]
      ext x
      simp only [Finset.mem_erase, Finset.mem_insert, List.mem_toFinset, hfds]
      grind
    · rw [hopenfds, h.opened, openBase, openBase, hserving', hserves, if_pos rfl]
      ext x
      simp only [Finset.mem_erase, Finset.mem_union, List.mem_toFinset, hfds]
      grind
    · rw [hmaxfd] at hm
      obtain ⟨hold, hne⟩ := hmax m hm
      obtain ⟨hmem', hle⟩ := h.maxfd m hold
      rw [hread]
      refine ⟨Finset.mem_coe.2 (Finset.mem_erase.2 ⟨fun heq => hne (heq ▸ rfl), hmem'⟩), ?_⟩
      exact fun x hx => hle (Finset.mem_coe.2 (Finset.mem_of_mem_erase (Finset.mem_coe.1 hx)))

/-- **A child that is waited for** takes its keys and its pipe with it. -/
theorem Ok.reap (h : Ok listenfd base d) (child : Nat) : Ok listenfd base (d.reap child) := by
  have hprocs : (d.pids.filter (· ≠ child)).Nodup := h.procs.filter _
  have hknown : ∀ k ∈ d.keys, k.1 ≠ child → k.1 ∈ d.pids.filter (· ≠ child) := fun k hk hne =>
    List.mem_filter.2 ⟨h.known k hk, by simpa using hne⟩
  unfold Daemon.reap
  dsimp only
  split
  · rename_i hfind
    have hne : ∀ k ∈ d.keys, k.1 ≠ child := by
      rintro k hk rfl
      obtain ⟨c, hc, rfl⟩ := List.mem_map.1 hk
      have := List.find?_eq_none.1 hfind c hc
      simp at this
    have hpids : ({ d with procs := d.procs.filter (·.1 ≠ child), crashed := true } : Daemon).pids =
        d.pids.filter (· ≠ child) := pids_filter d.procs child
    exact ⟨h.keyed, h.fdtable, hpids ▸ hprocs, fun k hk => hpids ▸ hknown k hk (hne k hk), h.phase,
      h.apart, h.mask, h.opened, h.maxfd⟩
  · rename_i c hfind
    obtain ⟨hc, hpid⟩ := find_pid hfind
    have hmem : (c.pid, c.fd) ∈ d.keys := List.mem_map.2 ⟨c, hc, rfl⟩
    rw [← hpid] at hprocs hknown ⊢
    have hprocs' : ((d.procs.filter (·.1 ≠ c.pid)).map Prod.fst).Nodup := by
      rw [pids_filter]
      exact hprocs
    have hknown' : ∀ k ∈ d.keys, k.1 ≠ c.pid →
        k.1 ∈ (d.procs.filter (·.1 ≠ c.pid)).map Prod.fst := by
      rw [pids_filter]
      exact hknown
    split
    · exact h.freeChldState hmem rfl rfl hprocs' hknown' rfl rfl rfl fun m hm => by cases hm
    · rename_i hne
      exact h.freeChldState hmem rfl rfl hprocs' hknown' rfl rfl rfl
        fun m hm => ⟨hm, fun heq => hne (heq.trans (Option.mem_def.1 hm).symm)⟩

/-! ## Connections -/

/-- A process more, without a record. -/
theorem Ok.fork (h : Ok listenfd base d) {pid : Nat} (hpid : pid ∉ d.pids) :
    Ok listenfd base { d with procs := d.procs ++ [(pid, false)] } := by
  have hpids : ({ d with procs := d.procs ++ [(pid, false)] } : Daemon).pids = d.pids ++ [pid] := by
    simp [pids]
  exact ⟨h.keyed, h.fdtable, hpids ▸ Registry.nodup_concat h.procs hpid,
    fun k hk => hpids ▸ List.mem_append_left _ (h.known k hk), h.phase, h.apart, h.mask, h.opened,
    h.maxfd⟩

/-- A new record, with its pipe in the mask. -/
theorem Ok.record (h : Ok listenfd base d) (hserves : d.serving = true) {pid fd : Nat}
    (hpid : pid ∈ d.pids) (hnew : pid ∉ d.keys.map Prod.fst) (hfresh : fd ∉ d.openfds)
    {m? : Option Nat} (hmax : m? = if ∃ m ∈ d.maxfd, m < fd then some fd else d.maxfd) :
    Ok listenfd base { d with
      pidtable := d.pidtable ++ [⟨pid, some fd, ⟨none, none⟩⟩]
      fdtable := d.fdtable ++ [(fd, pid)]
      openfds := insert fd d.openfds
      readfds := insert fd d.readfds
      maxfd := m? } := by
  rw [h.opened, Finset.mem_union, List.mem_toFinset, not_or] at hfresh
  obtain ⟨hbase, hfds⟩ := hfresh
  rw [openBase, hserves, if_pos rfl] at hbase
  have hkeys : (d.pidtable ++ [(⟨pid, some fd, ⟨none, none⟩⟩ : ChldRec)]).map
      (fun c => (c.pid, c.fd)) = d.keys ++ [(pid, some fd)] := by
    simp [keys]
  have hindex : (Registry.index (d.keys ++ [(pid, some fd)])).map Prod.fst = d.fds ++ [fd] := by
    rw [Registry.index_append, List.map_append]
    rfl
  refine ⟨?_, ?_, h.procs, ?_, ?_, ?_, ?_, ?_, ?_⟩
  · unfold keys
    rw [hkeys]
    exact h.keyed.append hnew hfds
  · unfold keys
    rw [hkeys, Registry.index_append, h.fdtable]
    rfl
  · unfold keys
    rw [hkeys]
    intro k hk
    rcases List.mem_append.1 hk with hk | hk
    · exact h.known k hk
    · rw [List.mem_singleton.1 hk]
      exact hpid
  · unfold keys
    rw [hkeys]
    intro k hk
    rcases List.mem_append.1 hk with hk | hk
    · exact h.phase k hk
    · rw [List.mem_singleton.1 hk, hserves]
      rfl
  · unfold fds keys
    rw [hkeys, hindex]
    intro x hx
    rcases List.mem_append.1 hx with hx | hx
    · exact h.apart x hx
    · rw [List.mem_singleton.1 hx]
      exact hbase
  · unfold fds keys
    dsimp only
    rw [hkeys, hindex, h.mask, hserves, if_pos rfl, if_pos rfl]
    ext x
    simp only [Finset.mem_insert, List.mem_toFinset, List.mem_append, List.mem_singleton]
    grind
  · unfold fds keys openBase
    dsimp only
    rw [hkeys, hindex, h.opened, openBase, hserves, if_pos rfl]
    ext x
    simp only [Finset.mem_insert, Finset.mem_union, List.mem_toFinset, List.mem_append,
      List.mem_singleton]
    grind
  · intro m hm
    dsimp only at hm ⊢
    rw [hmax] at hm
    split at hm
    · rename_i hlt
      obtain ⟨m₀, hm₀, hlt⟩ := hlt
      cases hm
      refine ⟨Finset.mem_coe.2 (Finset.mem_insert_self _ _), fun x hx => ?_⟩
      rcases Finset.mem_insert.1 (Finset.mem_coe.1 hx) with rfl | hx
      · exact le_rfl
      · exact ((h.maxfd m₀ hm₀).2 (Finset.mem_coe.2 hx)).trans hlt.le
    · rename_i hlt
      obtain ⟨hin, hle⟩ := h.maxfd m hm
      refine ⟨Finset.mem_coe.2 (Finset.mem_insert_of_mem hin), fun x hx => ?_⟩
      rcases Finset.mem_insert.1 (Finset.mem_coe.1 hx) with rfl | hx
      · exact not_lt.1 fun hlt' => hlt ⟨m, hm, hlt'⟩
      · exact hle (Finset.mem_coe.2 hx)

/-- The descriptors that are opened and closed again. -/
theorem open_close_three {s : Finset Nat} {a b c : Nat} (h : [a, b, c].Nodup)
    (hs : ∀ x ∈ [a, b, c], x ∉ s) :
    (((insert c (insert b (insert a s))).erase c).erase a) = insert b s := by
  simp only [List.nodup_cons, List.mem_cons, List.not_mem_nil, or_false, not_or, List.nodup_nil,
    and_true, not_false_eq_true, forall_eq_or_imp, forall_eq] at h hs
  ext x
  simp only [Finset.mem_erase, Finset.mem_insert]
  grind

/-- Both tables have taken the record of the child, if there is one. -/
def Stored : AcceptOutcome → Prop
  | .forked _ _ _ pidStored fdStored => pidStored = true ∧ fdStored = true
  | _ => True

/-- The process after a connection with a record. -/
def withChild (d : Daemon) (pid fd : Nat) : Daemon :=
  { d with
    procs := d.procs ++ [(pid, false)]
    pidtable := d.pidtable ++ [⟨pid, some fd, ⟨none, none⟩⟩]
    fdtable := d.fdtable ++ [(fd, pid)]
    openfds := insert fd d.openfds
    readfds := insert fd d.readfds
    maxfd := if ∃ m ∈ d.maxfd, m < fd then some fd else d.maxfd }

/-- **All a connection can do**: nothing, a child without a record, or a child with one. -/
theorem accepted_cases {outcome : AcceptOutcome} (h : d.accepted outcome = some d') :
    d' = d ∨
      (∃ pid, ¬ Stored outcome ∧ pid ∉ d.pids ∧ d' = { d with procs := d.procs ++ [(pid, false)] }) ∨
      ∃ pid fd, Stored outcome ∧ pid ∉ d.pids ∧ fd ∉ d.openfds ∧ d' = d.withChild pid fd := by
  cases outcome with
  | returned =>
    cases h
    exact .inl rfl
  | socketpairFailed connfd =>
    unfold Daemon.accepted at h
    dsimp only at h
    split at h
    · rename_i hfresh
      rw [Finset.erase_insert (hfresh.2 _ List.mem_cons_self)] at h
      cases h
      exact .inl rfl
    · cases h
  | forkFailed connfd newPipe =>
    unfold Daemon.accepted at h
    dsimp only at h
    split at h
    · rename_i hfresh
      have hp := hfresh.2 newPipe.1 (by simp)
      rw [Finset.erase_right_comm (a := newPipe.1), Finset.erase_right_comm (a := newPipe.1),
        open_close_three hfresh.1 hfresh.2, Finset.erase_insert hp] at h
      cases h
      exact .inl rfl
    · cases h
  | forked connfd newPipe pid pidStored fdStored =>
    unfold Daemon.accepted at h
    dsimp only at h
    split at h
    · rename_i hguard
      obtain ⟨hfresh, hpid⟩ := hguard
      have hp := hfresh.2 newPipe.1 (by simp)
      rw [open_close_three hfresh.1 hfresh.2] at h
      cases pidStored <;> cases fdStored
      case true.true =>
        refine .inr (.inr ⟨pid, newPipe.1, ⟨rfl, rfl⟩, hpid, hp, ?_⟩)
        cases h
        unfold withChild
        dsimp only
        split <;> rfl
      all_goals
        refine .inr (.inl ⟨pid, by simp [Stored], hpid, ?_⟩)
        cases h
        rw [Finset.erase_insert hp]
    · cases h

/-- **A connection** is refused without a trace, or becomes a child with a record. -/
theorem Ok.accepted (h : Ok listenfd base d) (hserves : d.serving = true)
    {outcome : AcceptOutcome} (hacc : d.accepted outcome = some d') : Ok listenfd base d' := by
  obtain rfl | ⟨pid, -, hpid, rfl⟩ | ⟨pid, fd, -, hpid, hfd, rfl⟩ := accepted_cases hacc
  · exact h
  · exact h.fork hpid
  · have hin : pid ∈ ({ d with procs := d.procs ++ [(pid, false)] } : Daemon).pids := by simp [pids]
    have hnew : pid ∉ d.keys.map Prod.fst := by
      intro hmem
      obtain ⟨k, hk, rfl⟩ := List.mem_map.1 hmem
      exact hpid (h.known k hk)
    exact (h.fork hpid).record hserves hin hnew hfd rfl

/-! ## The largest descriptor -/

/-- `FindMaxFD` finds the largest key. -/
theorem findMaxFD_spec (table : List (Nat × Nat)) : ∀ m? : Option Nat,
    (findMaxFD m? table = none → m? = none ∧ table = []) ∧
      ∀ m, findMaxFD m? table = some m →
        (m? = some m ∨ m ∈ table.map Prod.fst) ∧ (∀ x ∈ m?, x ≤ m) ∧
          ∀ x ∈ table.map Prod.fst, x ≤ m := by
  induction table with
  | nil =>
    intro m?
    refine ⟨fun h => ⟨h, rfl⟩, fun m h => ⟨.inl h, fun x hx => ?_, fun x hx => by cases hx⟩⟩
    rw [findMaxFD] at h
    rw [h] at hx
    cases hx
    exact le_rfl
  | cons entry table ih =>
    obtain ⟨fd, pid⟩ := entry
    intro m?
    have hnext : ∃ m₁, (fd ≤ m₁ ∧ (∀ x ∈ m?, x ≤ m₁) ∧ (m₁ = fd ∨ m? = some m₁)) ∧
        findMaxFD m? ((fd, pid) :: table) = findMaxFD (some m₁) table := by
      rw [findMaxFD.eq_def]
      dsimp only
      split
      · exact ⟨fd, ⟨le_rfl, fun x hx => (by cases hx), .inl rfl⟩, rfl⟩
      · rename_i m
        split
        · rename_i hlt
          exact ⟨fd, ⟨le_rfl, fun x hx => by cases hx; exact hlt.le, .inl rfl⟩, rfl⟩
        · rename_i hle
          exact ⟨m, ⟨not_lt.1 hle, fun x hx => by cases hx; exact le_rfl, .inr rfl⟩, rfl⟩
    obtain ⟨m₁, ⟨hfd, hall, hfrom⟩, heq⟩ := hnext
    rw [heq]
    obtain ⟨hnone, hsome⟩ := ih (some m₁)
    refine ⟨fun h => absurd (hnone h).1 (Option.some_ne_none _), fun m h => ?_⟩
    obtain ⟨hmem, hle, htable⟩ := hsome m h
    have hm₁ : m₁ ≤ m := hle m₁ rfl
    refine ⟨?_, fun x hx => (hall x hx).trans hm₁, fun x hx => ?_⟩
    · rcases hmem with hmem | hmem
      · cases hmem
        rcases hfrom with rfl | hfrom
        · exact .inr (by simp)
        · exact .inl hfrom
      · exact .inr (List.mem_cons_of_mem _ hmem)
    · rcases List.mem_cons.1 hx with rfl | hx
      · exact hfd.trans hm₁
      · exact htable x hx

theorem computeMaxFD_eq (listenfd : Nat) (d : Daemon) :
    d.computeMaxFD listenfd = { d with maxfd := (d.computeMaxFD listenfd).maxfd } := by
  unfold computeMaxFD
  split
  · rfl
  · split <;> rfl

/-- The start of a pass: the largest descriptor is known. -/
theorem Ok.computeMaxFD (h : Ok listenfd base d) (hserves : d.serving = true) :
    Ok listenfd base (d.computeMaxFD listenfd) ∧
      ∃ m ∈ (d.computeMaxFD listenfd).maxfd, IsGreatest (d.readfds : Set Nat) m := by
  have hfdtable : d.fdtable.map Prod.fst = d.fds := by rw [h.fdtable, fds]
  have hmask : d.readfds = insert listenfd d.fds.toFinset := by rw [h.mask, hserves, if_pos rfl]
  have hgreatest : ∃ m, (d.computeMaxFD listenfd).maxfd = some m ∧
      IsGreatest (d.readfds : Set Nat) m := by
    unfold Daemon.computeMaxFD
    obtain ⟨hnone, hsome⟩ := findMaxFD_spec d.fdtable none
    split
    · rename_i m hm
      exact ⟨m, hm, h.maxfd m hm⟩
    · split
      · rename_i hfind
        refine ⟨listenfd, rfl, ?_⟩
        rw [hmask, ← hfdtable, (hnone hfind).2]
        simp
      · rename_i m hfind
        obtain ⟨hmem, -, hle⟩ := hsome m hfind
        have hm : m ∈ d.fds := by
          rcases hmem with hmem | hmem
          · cases hmem
          · exact hfdtable ▸ hmem
        refine ⟨max m listenfd, rfl, ?_, fun x hx => ?_⟩
        · rw [hmask, Finset.mem_coe, Finset.mem_insert, List.mem_toFinset]
          rcases max_choice m listenfd with heq | heq <;> rw [heq]
          · exact .inr hm
          · exact .inl rfl
        · rw [hmask, Finset.mem_coe, Finset.mem_insert, List.mem_toFinset] at hx
          rcases hx with rfl | hx
          · exact le_max_right _ _
          · exact (hle x (hfdtable ▸ hx)).trans (le_max_left _ _)
  obtain ⟨m, hm, hmax⟩ := hgreatest
  refine ⟨?_, m, hm, hmax⟩
  rw [computeMaxFD_eq]
  refine h.frame rfl rfl rfl rfl rfl rfl fun m' hm' => ?_
  dsimp only at hm'
  rw [hm] at hm'
  cases hm'
  exact hmax

theorem computeMaxFD_readfds (listenfd : Nat) (d : Daemon) :
    (d.computeMaxFD listenfd).readfds = d.readfds := by
  rw [computeMaxFD_eq]

theorem computeMaxFD_serving (listenfd : Nat) (d : Daemon) :
    (d.computeMaxFD listenfd).serving = d.serving := by
  rw [computeMaxFD_eq]

/-- **`select` looks at the whole mask.** -/
theorem Ok.watched (h : Ok listenfd base d) (hserves : d.serving = true) :
    (d.computeMaxFD listenfd).watched = insert listenfd d.fds.toFinset := by
  obtain ⟨-, m, hm, hmax⟩ := h.computeMaxFD hserves
  have hmask : d.readfds = insert listenfd d.fds.toFinset := by rw [h.mask, hserves, if_pos rfl]
  unfold Daemon.watched
  rw [computeMaxFD_readfds, ← hmask, Finset.filter_eq_self]
  exact fun fd hfd => ⟨m, hm, hmax.2 (Finset.mem_coe.2 hfd)⟩

/-! ## The end of the loop -/

/-- What `ClosePipes` leaves. -/
theorem closePipes_spec (order : List (Nat × Nat)) : ∀ d : Daemon,
    (d.closePipes order).openfds = d.openfds \ (order.map Prod.fst).toFinset ∧
    (d.closePipes order).fdtable = d.fdtable.filter (fun e => e.1 ∉ order.map Prod.fst) ∧
    (d.closePipes order).keys =
      d.keys.map (fun k => if k.1 ∈ order.map Prod.snd then (k.1, none) else k) ∧
    (d.closePipes order).pids = d.pids ∧ (d.closePipes order).readfds = d.readfds ∧
    (d.closePipes order).maxfd = d.maxfd ∧ (d.closePipes order).serving = d.serving := by
  induction order with
  | nil => intro d; simp [closePipes]
  | cons entry order ih =>
    obtain ⟨fd, pid⟩ := entry
    intro d
    obtain ⟨hopen, htable, hkeys, hpids, hread, hmax, hserving⟩ := ih { d with
      openfds := d.openfds.erase fd
      fdtable := d.fdtable.filter (·.1 ≠ fd)
      pidtable := d.pidtable.map fun c => if c.pid = pid then { c with fd := none } else c }
    rw [closePipes]
    refine ⟨?_, ?_, ?_, hpids, hread, hmax, hserving⟩
    · rw [hopen]
      ext x
      simp only [Finset.mem_sdiff, Finset.mem_erase, List.mem_toFinset, List.map_cons, List.mem_cons]
      grind
    · rw [htable, List.filter_filter]
      refine List.filter_congr fun e _ => ?_
      simp only [List.map_cons, List.mem_cons]
      grind
    · rw [hkeys]
      unfold keys
      simp only [List.map_map]
      refine List.map_congr_left fun c _ => ?_
      simp only [Function.comp_apply, List.map_cons, List.mem_cons]
      split <;> grind

/-- **The pipes are closed** when the loop is left, and nothing of them is kept. -/
theorem Ok.stop (h : Ok listenfd base d) (hserves : d.serving = true) (hlisten : listenfd ∉ base)
    {order : List (Nat × Nat)} (horder : order.Perm d.fdtable) :
    Ok listenfd base ((d.leave listenfd).closePipes order) := by
  obtain ⟨hopen, htable, hkeys, hpids, hread, hmax, hserving⟩ :=
    closePipes_spec order (d.leave listenfd)
  have hleave : (d.leave listenfd).keys = d.keys := rfl
  rw [hleave] at hkeys
  generalize (d.leave listenfd).closePipes order = d' at *
  dsimp only [leave] at hopen htable hread hmax hserving
  have hfst : (order.map Prod.fst).toFinset = d.fds.toFinset := by
    rw [fds, ← h.fdtable]
    exact List.toFinset_eq_of_perm _ _ (horder.map _)
  -- every record has a pipe, so none keeps its descriptor
  have hkeys' : d'.keys = d.keys.map fun k => (k.1, none) := by
    rw [hkeys]
    refine List.map_congr_left fun k hk => if_pos ?_
    obtain ⟨fd, hfd⟩ := Option.isSome_iff_exists.1 ((h.phase k hk).trans hserves)
    have hin : (fd, k.1) ∈ d.fdtable := by
      rw [h.fdtable, Registry.mem_index, ← hfd]
      exact hk
    exact List.mem_map.2 ⟨_, horder.mem_iff.2 hin, rfl⟩
  have hindex : Registry.index d'.keys = [] := by
    rw [hkeys']
    unfold Registry.index
    rw [List.filterMap_map]
    exact List.filterMap_eq_nil_iff.2 fun _ _ => rfl
  have hfds : d'.fds = [] := by rw [fds, hindex, List.map_nil]
  have hfirst : d'.keys.map Prod.fst = d.keys.map Prod.fst := by
    rw [hkeys', List.map_map]
    rfl
  have hbase : ∀ x ∈ base, x ∉ d.fds := fun x hx hfd =>
    h.apart x hfd (Finset.mem_insert_of_mem hx)
  refine ⟨⟨hfirst ▸ h.keyed.first, hindex ▸ List.nodup_nil⟩, ?_, hpids ▸ h.procs, ?_, ?_, ?_, ?_, ?_, ?_⟩
  · rw [htable, hindex, List.filter_eq_nil_iff]
    intro e he
    have hmem : e.1 ∈ order.map Prod.fst := List.mem_map_of_mem (horder.mem_iff.2 he)
    simpa using hmem
  · intro k hk
    have hk' : k.1 ∈ d.keys.map Prod.fst := hfirst ▸ List.mem_map_of_mem hk
    obtain ⟨k', hk', heq⟩ := List.mem_map.1 hk'
    rw [hpids, ← heq]
    exact h.known k' hk'
  · rw [hkeys', hserving]
    intro k hk
    obtain ⟨k', -, rfl⟩ := List.mem_map.1 hk
    rfl
  · rw [hfds]
    intro fd hfd
    cases hfd
  · rw [hread, hserving]
    rfl
  · rw [hopen, hfst, hfds, openBase, hserving, h.opened, openBase, hserves, if_pos rfl]
    ext x
    simp only [Finset.mem_sdiff, Finset.mem_erase, Finset.mem_union, Finset.mem_insert,
      List.mem_toFinset]
    grind
  · rw [hmax]
    intro m hm
    cases hm

theorem start_ok (listenfd : Nat) (base : Finset Nat) : Ok listenfd base (start listenfd base) where
  keyed := Registry.wellKeyed_nil
  fdtable := rfl
  procs := List.nodup_nil
  known k hk := by cases hk
  phase k hk := by cases hk
  apart fd hfd := by cases hfd
  mask := rfl
  opened := by simp [start, openBase, fds, keys]
  maxfd m hm := by
    cases hm
    simp [start]

end Daemon

end Bwctl
