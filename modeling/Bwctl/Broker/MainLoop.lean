import Bwctl.Broker.Daemon
import Bwctl.Lib.GuardedRuns

/-!
# The main loop of the daemon (`bwctld/bwctld.c`)

The parent process keeps a record for each child, in one table by the process id and in another by
the descriptor of the pipe.  A pass of the loop waits for the pipes and the listening socket, and
either takes one connection or serves the pipes that are ready; the children that have exited are
waited for and lose their records.  Around it stands the kernel, with the processes that have not
been waited for and the descriptors that are open.

* `allocChldState`, `freeChldState`, `reapChildren`, `cleanPipes`, `newConnection`, `closePipes` —
  the functions of the source on the state of the process.
* `Daemon.step` — an exit of a child, a pass of the loop, or a part of the shutdown.
-/

set_option autoImplicit false

namespace Bwctl

/-- `ChldStateRec`, with its keys; without a descriptor the field `fd` is `-1`. -/
structure ChldRec where
  pid : Nat
  fd : Option Nat
  state : ChldState
  deriving DecidableEq

/-- The state of the parent process, and of the kernel: the descriptors that are open, and the
children that have not been waited for, with those marked that have exited. -/
structure Daemon where
  used : Used
  slots : List TimeSlot
  pidtable : List ChldRec
  /-- The process id stands for the pointer to the record. -/
  fdtable : List (Nat × Nat)
  /-- An `fd_set`: descriptors below `FD_SETSIZE`, the bound on what the process may have open. -/
  readfds : Finset Nat
  /-- `none` is `-1`: to be computed again. -/
  maxfd : Option Nat
  ipfd_chld : Bool
  ipfd_exit : Bool
  openfds : Finset Nat
  procs : List (Nat × Bool)
  /-- The children whose signal came after the last `waitpid` and before the flag was reset. -/
  missed : List Nat
  serving : Bool
  /-- A record was read that is not there. -/
  crashed : Bool

namespace Daemon

/-- What the broker keeps, in the order of the connections. -/
def broker (d : Daemon) : Broker := ⟨d.used, d.slots, d.pidtable.map (·.state)⟩

/-- What a call has made of it. -/
def withBroker (d : Daemon) (b : Broker) : Daemon :=
  { d with
    used := b.used
    slots := b.slots
    pidtable := List.zipWith (fun c s => { c with state := s }) d.pidtable b.children }

/-- `AllocChldState`, and whether each table has taken the record. -/
def allocChldState (d : Daemon) (pid fd : Nat) (pidStored fdStored : Bool) : Option Daemon :=
  if !pidStored then none
  else if !fdStored then none
  else
    some { d with
      pidtable := d.pidtable ++ [⟨pid, some fd, ⟨none, none⟩⟩]
      fdtable := d.fdtable ++ [(fd, pid)] }

/-- The pipe of a record closed and taken out of the table and the mask. -/
def closeFd (d : Daemon) : Option Nat → Daemon
  | none => d
  | some fd =>
    { d with
      openfds := d.openfds.erase fd
      readfds := d.readfds.erase fd
      fdtable := d.fdtable.filter (·.1 ≠ fd) }

/-- `FreeChldState`. -/
def freeChldState (d : Daemon) (cstate : ChldRec) : Daemon :=
  let d := d.closeFd cstate.fd
  { d with
    pidtable := d.pidtable.filter (·.pid ≠ cstate.pid)
    slots := slotsWithout d.slots cstate.state.res }

/-- A child that `waitpid` has returned. -/
def reap (d : Daemon) (child : Nat) : Daemon :=
  let d := { d with procs := d.procs.filter (·.1 ≠ child) }
  match d.pidtable.find? (·.pid == child) with
  | none => { d with crashed := true }
  | some cstate =>
    let d := if cstate.fd = d.maxfd then { d with maxfd := none } else d
    d.freeChldState cstate

/-- The rest of a function, unless the process is lost. -/
def andThen (d? : Option Daemon) (f : Daemon → Option Daemon) : Option Daemon :=
  match d? with
  | none => none
  | some d => if d.crashed then some d else f d

/-- The loop of `ReapChildren`: the children in the order in which `waitpid` returns them, until none
is left that has exited. -/
def waitLoop : List Nat → Daemon → Option Daemon
  | [], d => if d.procs.any (·.2) then none else some d
  | child :: rest, d =>
    if child ∈ d.procs.map (·.1) then andThen (some (d.reap child)) (waitLoop rest) else none

/-- Children that exit, and whose signals are caught. -/
def childExits (pids : List Nat) (d : Daemon) : Daemon :=
  { d with
    procs := d.procs.map fun p => (p.1, p.2 || p.1 ∈ pids)
    ipfd_chld := d.ipfd_chld || !pids.isEmpty }

/-- What the kernel does around a call of `ReapChildren`: the children that exit before it, those
that it returns, and those that exit after the last of them. -/
structure Reap where
  early : List Nat
  reaped : List Nat
  late : List Nat

/-- `ReapChildren`. -/
def reapChildren (r : Reap) (d : Daemon) : Option Daemon :=
  let d := d.childExits r.early
  if !d.ipfd_chld then some d
  else andThen (waitLoop r.reaped d) fun d =>
    some { d with
      procs := d.procs.map fun p => (p.1, p.2 || p.1 ∈ r.late)
      ipfd_chld := false
      missed := r.late }

/-- `CheckFD` for a pipe that is ready, with the message on it; one that cannot be read changes
nothing here. -/
def checkFD (ctx : Context) (policy : Policy) (d : Daemon) (pid : Nat) : Option ChldMesg → Daemon
  | none => d
  | some mesg =>
    match d.pidtable.findIdx? (·.pid == pid) with
    | none => { d with crashed := true }
    | some i =>
      match d.broker.children[i]? with
      | none => d
      | some c => d.withBroker (d.broker.checkFD ctx policy i c mesg).1

/-- `CleanPipes`: the table is gone through until as many pipes are served as are ready. -/
def cleanPipes (ctx : Context) (policy : Policy) (avail : Finset Nat)
    (mesgs : Nat → Option ChldMesg) : List (Nat × Nat) → Int → Daemon → Daemon
  | [], _, d => d
  | (fd, pid) :: rest, nready, d =>
    if fd ∈ avail then
      let d := d.checkFD ctx policy pid (mesgs fd)
      if nready - 1 > 0 then cleanPipes ctx policy avail mesgs rest (nready - 1) d else d
    else cleanPipes ctx policy avail mesgs rest nready d

/-- What `accept`, `socketpair`, `fork` and the two tables do. -/
inductive AcceptOutcome where
  | returned
  | socketpairFailed (connfd : Nat)
  | forkFailed (connfd : Nat) (newPipe : Nat × Nat)
  | forked (connfd : Nat) (newPipe : Nat × Nat) (pid : Nat) (pidStored fdStored : Bool)

/-- Descriptors that are not in use. -/
def fresh (d : Daemon) (fds : List Nat) : Prop := fds.Nodup ∧ ∀ fd ∈ fds, fd ∉ d.openfds

instance (d : Daemon) (fds : List Nat) : Decidable (d.fresh fds) :=
  inferInstanceAs (Decidable (_ ∧ _))

/-- The parent's side of `NewConnection`, once `accept` is not interrupted. -/
def accepted (d : Daemon) : AcceptOutcome → Option Daemon
  | .returned => some d
  | .socketpairFailed connfd =>
    if d.fresh [connfd] then
      let d := { d with openfds := insert connfd d.openfds }
      some { d with openfds := d.openfds.erase connfd }
    else none
  | .forkFailed connfd newPipe =>
    if d.fresh [connfd, newPipe.1, newPipe.2] then
      let d := { d with openfds := insert newPipe.2 (insert newPipe.1 (insert connfd d.openfds)) }
      some { d with openfds := ((d.openfds.erase newPipe.1).erase newPipe.2).erase connfd }
    else none
  | .forked connfd newPipe pid pidStored fdStored =>
    if d.fresh [connfd, newPipe.1, newPipe.2] ∧ pid ∉ d.procs.map (·.1) then
      let d := { d with
        openfds := insert newPipe.2 (insert newPipe.1 (insert connfd d.openfds))
        procs := d.procs ++ [(pid, false)] }
      let d := { d with openfds := (d.openfds.erase newPipe.2).erase connfd }
      match d.allocChldState pid newPipe.1 pidStored fdStored with
      | none => some { d with openfds := d.openfds.erase newPipe.1 }
      | some d =>
        let d := { d with readfds := insert newPipe.1 d.readfds }
        some (if ∃ m ∈ d.maxfd, m < newPipe.1 then { d with maxfd := some newPipe.1 } else d)
    else none

/-- `NewConnection`: every time `accept` is interrupted the children are waited for. -/
def newConnection : List Reap → AcceptOutcome → Daemon → Option Daemon
  | [], outcome, d => d.accepted outcome
  | r :: interrupts, outcome, d => andThen (d.reapChildren r) (newConnection interrupts outcome)

/-- `FindMaxFD` over the table. -/
def findMaxFD (maxfd : Option Nat) : List (Nat × Nat) → Option Nat
  | [] => maxfd
  | (fd, _) :: rest =>
    findMaxFD (match maxfd with
      | none => some fd
      | some m => if fd > m then some fd else some m) rest

/-- The start of a pass: the largest descriptor, when it has to be computed again. -/
def computeMaxFD (listenfd : Nat) (d : Daemon) : Daemon :=
  match d.maxfd with
  | some _ => d
  | none =>
    match findMaxFD none d.fdtable with
    | none => { d with maxfd := some listenfd }
    | some m => { d with maxfd := some (max m listenfd) }

/-- The descriptors that `select` looks at. -/
def watched (d : Daemon) : Finset Nat := d.readfds.filter fun fd => ∃ m ∈ d.maxfd, fd ≤ m

/-- The listening socket is closed, and the mask is reset. -/
def leave (listenfd : Nat) (d : Daemon) : Daemon :=
  { d with
    openfds := d.openfds.erase listenfd
    readfds := ∅
    maxfd := none
    serving := false }

/-- `ClosePipes` over the table. -/
def closePipes : List (Nat × Nat) → Daemon → Daemon
  | [], d => d
  | (fd, pid) :: rest, d =>
    closePipes rest { d with
      openfds := d.openfds.erase fd
      fdtable := d.fdtable.filter (·.1 ≠ fd)
      pidtable := d.pidtable.map fun c => if c.pid = pid then { c with fd := none } else c }

end Daemon

/-- What happens to the process.  A signal to exit during a pass is seen at its end. -/
inductive DaemonEvent where
  /-- Children exit. -/
  | childExits (pids : List Nat)
  /-- A signal to exit between two passes. -/
  | exitSignal
  /-- `select` is interrupted. -/
  | interrupted (r : Daemon.Reap)
  /-- `select` finds the listening socket ready. -/
  | connection (avail : Finset Nat) (interrupts : List Daemon.Reap) (outcome : Daemon.AcceptOutcome)
    (exit : Bool) (r : Daemon.Reap)
  /-- `select` finds pipes ready; the order of the table, and the messages on the pipes. -/
  | pipes (avail : Finset Nat) (order : List (Nat × Nat)) (mesgs : Nat → Option ChldMesg)
    (exit : Bool) (r : Daemon.Reap)
  /-- The loop is left, and the pipes are closed. -/
  | stop (order : List (Nat × Nat))
  /-- A pass of the loop that waits for the children. -/
  | wait (r : Daemon.Reap)

/-- The start of the loop, with the descriptors that are open then. -/
def Daemon.start (listenfd : Nat) (base : Finset Nat) : Daemon where
  used := Used.zero
  slots := []
  pidtable := []
  fdtable := []
  readfds := {listenfd}
  maxfd := some listenfd
  ipfd_chld := false
  ipfd_exit := false
  openfds := insert listenfd base
  procs := []
  missed := []
  serving := true
  crashed := false

/-- The end of a pass: the loop is left, or the children are waited for. -/
def Daemon.endPass (exit : Bool) (r : Reap) (d : Daemon) : Option Daemon :=
  if exit then some { d with ipfd_exit := true } else d.reapChildren r

/-- The process can make a pass. -/
def Daemon.Serves (d : Daemon) : Prop := d.crashed = false ∧ d.serving = true ∧ d.ipfd_exit = false

instance (d : Daemon) : Decidable d.Serves := inferInstanceAs (Decidable (_ ∧ _))

/-- One event. -/
def Daemon.step (ctx : Context) (policy : Policy) (listenfd : Nat) (d : Daemon) :
    DaemonEvent → Option Daemon
  | .childExits pids => some (d.childExits pids)
  | .exitSignal => some { d with ipfd_exit := true }
  | .interrupted r => if d.Serves then (d.computeMaxFD listenfd).reapChildren r else none
  | .connection avail interrupts outcome exit r =>
    let d := d.computeMaxFD listenfd
    if d.Serves ∧ avail ⊆ d.watched ∧ listenfd ∈ avail then
      andThen (d.newConnection interrupts outcome) (endPass exit r)
    else none
  | .pipes avail order mesgs exit r =>
    let d := d.computeMaxFD listenfd
    if d.Serves ∧ avail ⊆ d.watched ∧ listenfd ∉ avail ∧ avail.Nonempty ∧ order.Perm d.fdtable then
      andThen (some (d.cleanPipes ctx policy avail mesgs order avail.card)) (endPass exit r)
    else none
  | .stop order =>
    if d.crashed = false ∧ d.serving = true ∧ d.ipfd_exit = true ∧ order.Perm d.fdtable then
      some ((d.leave listenfd).closePipes order)
    else none
  | .wait r =>
    if d.crashed = false ∧ d.serving = false ∧ d.pidtable ≠ [] then d.reapChildren r else none

end Bwctl
