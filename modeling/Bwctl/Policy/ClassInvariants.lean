import Bwctl.Policy.UserClass

/-!
# The limit classes in memory

The arrays of a class are allocated for `maxlim` records and filled without a check: first the
records of the line, then those of the parent that the line does not override.  The broker relies
on every limit of an ancestor being found at a class.

* `PolicyShape` — only limits of the table, and one tree under the first class.
* `ClassInv` — what the readers of a class rely on.
* `readConfLines` — the classes in memory at the point where the reading stops.
* `limit_classes_sound` — the invariant after every line, and what a refused line leaves.
-/

set_option autoImplicit false

namespace Bwctl

/-! ## The invariant -/

/-- The limits a line can declare. -/
def declarableLims : List BWLDMesgT :=
  (limkeys.filter (fun k => k.ltype != .limNot)).map (·.limit)

theorem length_declarableLims : declarableLims.length = maxlim := by
  unfold declarableLims maxlim
  rw [List.length_map]

/-- A record for a limit each class can have at most once fits the arrays. -/
theorem length_le_maxlim {ls : List LimRec} (hnodup : (ls.map (·.limit)).Nodup)
    (hknown : ∀ l ∈ ls, l.limit ∈ declarableLims) : ls.length ≤ maxlim := by
  have hsub : ls.map (·.limit) ⊆ declarableLims := by
    intro lim hlim
    obtain ⟨l, hl, rfl⟩ := List.mem_map.1 hlim
    exact hknown l hl
  have := (hnodup.subperm hsub).length_le
  rwa [List.length_map, length_declarableLims] at this

/-- Only limits of the table, and one tree under the first class. -/
structure PolicyShape (policy : Policy) : Prop where
  known : ∀ n ∈ policy.nodes, ∀ l ∈ n.limits, l.limit ∈ declarableLims
  root : ∀ r, policy.root? = some r → r.parent? = none
  only : ∀ n ∈ policy.nodes, n.parent? = none → policy.root? = some n
  reaches : ∀ n ∈ policy.nodes, n.path.getLast? = policy.root?

/-- What the readers of the classes rely on. -/
structure ClassInv (policy : Policy) : Prop where
  once : ∀ n ∈ policy.nodes, (n.limits.map (·.limit)).Nodup
  fits : ∀ n ∈ policy.nodes, n.limits.length ≤ maxlim
  inherits : ∀ n ∈ policy.nodes, ∀ p, n.parent? = some p →
    ∀ lim ∈ p.limits.map (·.limit), lim ∈ n.limits.map (·.limit)
  root : ∀ n ∈ policy.nodes, n.parent? = none ↔ policy.root? = some n
  reaches : ∀ n ∈ policy.nodes, ∃ r, policy.root? = some r ∧ n.path.getLast? = some r

theorem ClassInv.of_shape {policy : Policy} (hinv : PolicyInv policy) (hshape : PolicyShape policy) :
    ClassInv policy where
  once := hinv.nodup
  fits n hn := length_le_maxlim (hinv.nodup n hn) (hshape.known n hn)
  inherits n hn p hp lim hlim := by
    by_contra hnone
    have hparent := hinv.inherits n hn p hp lim (findLim_eq_none.2 hnone)
    exact findLim_eq_none.1 hparent hlim
  root n hn := ⟨hshape.only n hn, hshape.root n⟩
  reaches n hn := by
    have hlast := hshape.reaches n hn
    cases hroot : policy.root? with
    | none =>
      rw [hroot, List.getLast?_eq_none_iff] at hlast
      have := n.self_mem_path
      rw [hlast] at this
      cases this
    | some r => exact ⟨r, rfl, by rw [hlast, hroot]⟩

/-! ## One line -/

/-- The limits of a line, before and after it takes those of its parent. -/
def Known (ls : List LimRec) : Prop := ∀ l ∈ ls, l.limit ∈ declarableLims

theorem declare_known {lib : I2Util} {policy : Policy} {st st' : LineState}
    {limname limval : List Char} (hst : Known st.limtemp)
    (h : declare lib policy st limname limval = .ok st') : Known st'.limtemp := by
  unfold declare at h
  split at h
  · split at h
    · cases h
    split at h
    · cases h
    split at h
    · cases h
    · cases h
      exact hst
  · split at h
    · cases h
    rename_i k hk
    split at h
    · cases h
    split at h
    · cases h
    · cases h
      intro l hl
      obtain hl | hl := List.mem_append.1 hl
      · exact hst l hl
      · obtain rfl := List.mem_singleton.1 hl
        have hkind := List.find?_some hk
        rw [Bool.and_eq_true] at hkind
        exact List.mem_map.2
          ⟨k, List.mem_filter.2 ⟨List.mem_of_find?_eq_some hk, hkind.1⟩, rfl⟩

theorem parseLine_known {lib : I2Util} {policy : Policy} {line cname : String} {st : LineState}
    (h : parseLine lib maxlim policy line = .ok (cname, st)) : Known st.limtemp := by
  obtain ⟨items, -, hitems⟩ := parseLine_ok h
  refine parseItems_keeps (Q := fun st => Known st.limtemp) (fun _ _ _ _ => declare_known) _ ?_
    hitems
  intro l hl
  cases hl

theorem overrideLim_known {p : LimRec} : ∀ {ls ms : List LimRec}, Known ls →
    overrideLim p ls = some ms → Known ms := by
  intro ls ms hls h l hl
  have hsame := overrideLim_limits h
  have : l.limit ∈ ls.map (·.limit) := hsame ▸ List.mem_map_of_mem hl
  obtain ⟨l', hl', heq⟩ := List.mem_map.1 this
  exact heq ▸ hls l' hl'

theorem inheritLims_known (ps : List LimRec) : ∀ {ls : List LimRec}, Known ps → Known ls →
    Known (inheritLims ps ls) := by
  induction ps with
  | nil => exact fun _ hls => hls
  | cons p ps ih =>
    intro ls hps hls
    refine ih (fun l hl => hps l (List.mem_cons_of_mem _ hl)) ?_
    unfold inheritLim
    cases hover : overrideLim p ls with
    | some ms => exact overrideLim_known hls hover
    | none =>
      intro l hl
      obtain hl | hl := List.mem_append.1 hl
      · exact hls l hl
      · obtain rfl := List.mem_singleton.1 hl
        exact hps l List.mem_cons_self

theorem PolicyShape.empty : PolicyShape Policy.empty where
  known _ h := (List.not_mem_nil h).elim
  root _ h := by cases h
  only _ h := (List.not_mem_nil h).elim
  reaches _ h := (List.not_mem_nil h).elim

/-- A class under a class of the policy hangs in the same tree. -/
theorem PolicyShape.store_child {policy : Policy} (h : PolicyShape policy) {p : PolicyNode}
    (hp : p ∈ policy.nodes) (name : String) {limits : List LimRec} (hlims : Known limits) :
    PolicyShape (policy.store (.child name p limits)) := by
  obtain ⟨first, rest, hnodes⟩ := List.exists_cons_of_ne_nil (List.ne_nil_of_mem hp)
  have hroot : (policy.store (.child name p limits)).root? = policy.root? := by
    unfold Policy.store Policy.root?
    rw [hnodes]
    rfl
  have hmem {n : PolicyNode} (hn : n ∈ (policy.store (.child name p limits)).nodes) :
      n ∈ policy.nodes ∨ n = .child name p limits := by
    simpa [Policy.store] using hn
  constructor
  · intro n hn
    obtain hn | rfl := hmem hn
    · exact h.known n hn
    · exact hlims
  · intro r hr
    exact h.root r (hroot ▸ hr)
  · intro n hn hnone
    obtain hn | rfl := hmem hn
    · rw [hroot]
      exact h.only n hn hnone
    · cases hnone
  · intro n hn
    rw [hroot]
    obtain hn | rfl := hmem hn
    · exact h.reaches n hn
    · have hne : p.path ≠ [] := List.ne_nil_of_mem p.self_mem_path
      rw [PolicyNode.path_child, List.getLast?_cons_of_ne_nil hne]
      exact h.reaches p hp

theorem PolicyShape.store_root {policy : Policy} (hnil : policy.nodes = []) (name : String)
    {limits : List LimRec} (hlims : Known limits) :
    PolicyShape (policy.store (.root name limits)) := by
  have hnodes : (policy.store (.root name limits)).nodes = [.root name limits] := by
    unfold Policy.store
    rw [hnil]
    rfl
  have hroot : (policy.store (.root name limits)).root? = some (.root name limits) := by
    unfold Policy.root?
    rw [hnodes]
    rfl
  have hmem {n : PolicyNode} (hn : n ∈ (policy.store (.root name limits)).nodes) :
      n = .root name limits := by
    rw [hnodes] at hn
    exact List.mem_singleton.1 hn
  refine ⟨fun n hn => ?_, fun r hr => ?_, fun n hn _ => ?_, fun n hn => ?_⟩
  · rw [hmem hn]
    exact hlims
  · rw [hroot] at hr
    cases hr
    rfl
  · rw [hmem hn, hroot]
  · rw [hmem hn, hroot]
    rfl

theorem PolicyShape.line {lib : I2Util} {policy policy' : Policy} {line : String}
    (h : PolicyShape policy) (hline : parselimitline lib maxlim policy line = .ok policy') :
    PolicyShape policy' := by
  obtain ⟨cname, st, hparse, -, -, ⟨p, hp, -, rfl⟩ | ⟨-, hnil, rfl⟩⟩ := parselimitline_cases hline
  · exact h.store_child hp cname (inheritLims_known _ (h.known p hp) (parseLine_known hparse))
  · exact PolicyShape.store_root hnil cname (parseLine_known hparse)

/-! ## A file -/

/-- Both invariants of the classes. -/
def PolicySound (policy : Policy) : Prop := PolicyInv policy ∧ PolicyShape policy

theorem PolicySound.line {lib : I2Util} {policy policy' : Policy} {line : String}
    (h : PolicySound policy) (hline : parselimitline lib maxlim policy line = .ok policy') :
    PolicySound policy' := ⟨h.1.line hline, h.2.line hline⟩

section Files

variable {hi : I2Hash BWLDPid PolicyNode} {hk : I2Hash (List UInt8) Block}
variable (lib : I2Util) (getaddrinfo : List Char → Except String (Option SockAddr))

/-- The tables when the loop of `parselimits` ends, and why it ended before the last line: a refused
line is the last one that is looked at. -/
def readConfLines (t : PolicyTables hi hk) :
    List String → PolicyTables hi hk × Option Refusal
  | [] => (t, none)
  | line :: lines =>
    match parseConfLine lib getaddrinfo t line with
    | .error e => (t, some e)
    | .ok t' => readConfLines t' lines

variable {lib getaddrinfo}

/-- **An accepted line** of the file adds a class at the end or leaves the classes alone. -/
theorem parseConfLine_policy {t t' : PolicyTables hi hk} {line : String}
    (h : parseConfLine lib getaddrinfo t line = .ok t') (hsound : PolicySound t.policy) :
    PolicySound t'.policy ∧ t.policy.nodes <+: t'.policy.nodes := by
  unfold parseConfLine at h
  split at h
  · split at h
    · cases h
    · rename_i hline
      cases h
      refine ⟨hsound.line hline, ?_⟩
      obtain ⟨-, -, -, -, -, ⟨p, -, -, rfl⟩ | ⟨-, -, rfl⟩⟩ := parselimitline_cases hline
      · exact List.prefix_append _ _
      · exact List.prefix_append _ _
  · unfold parseassignline at h
    split at h
    · cases h
    split at h
    · cases h
    split at h
    · cases h
    split at h
    · cases h
    · cases h
      exact ⟨hsound, List.prefix_rfl⟩
  · cases h

theorem readConfLines_sound (lines : List String) : ∀ {t : PolicyTables hi hk},
    PolicySound t.policy → PolicySound (readConfLines lib getaddrinfo t lines).1.policy := by
  induction lines with
  | nil => exact fun h => h
  | cons line lines ih =>
    intro t h
    unfold readConfLines
    split
    · exact h
    · rename_i hline
      exact ih (parseConfLine_policy hline h).1

/-- Lines that are all accepted are all read. -/
theorem readConfLines_ok (lines : List String) : ∀ {t t' : PolicyTables hi hk},
    parseConfLines lib getaddrinfo t lines = .ok t' →
    readConfLines lib getaddrinfo t lines = (t', none) := by
  induction lines with
  | nil =>
    intro t t' h
    cases h
    rfl
  | cons line lines ih =>
    intro t t' h
    simp only [parseConfLines, readConfLines] at h ⊢
    cases hline : parseConfLine lib getaddrinfo t line with
    | error e =>
      rw [hline] at h
      cases h
    | ok t₁ =>
      rw [hline] at h
      exact ih h

/-- One more line: nothing happens behind a refused line, and a line that is refused itself leaves
the tables as they were. -/
theorem readConfLines_concat (line : String) (lines : List String) :
    ∀ (t : PolicyTables hi hk), readConfLines lib getaddrinfo t (lines ++ [line]) =
      match readConfLines lib getaddrinfo t lines with
      | (t', some e) => (t', some e)
      | (t', none) =>
        match parseConfLine lib getaddrinfo t' line with
        | .error e => (t', some e)
        | .ok t'' => (t'', none) := by
  induction lines with
  | nil =>
    intro t
    simp only [List.nil_append, readConfLines]
  | cons first lines ih =>
    intro t
    simp only [List.cons_append, readConfLines]
    cases parseConfLine lib getaddrinfo t first with
    | error e => rfl
    | ok t' => exact ih t'

/-- **The limit classes are sound.**  After every line of a file, whatever the lines before it
were, each class has each limit once and no more than its arrays hold, has every limit of its
parent, and hangs in the one tree under the first class; the line leaves all earlier classes as they
were, and a refused line leaves everything as it was.  The class for everybody keeps the invariant
as well. -/
theorem limit_classes_sound (t : PolicyTables hi hk) (hstart : t.policy = .empty)
    (lines : List String) :
    ClassInv (readConfLines lib getaddrinfo t lines).1.policy ∧
      (∀ line, (readConfLines lib getaddrinfo t lines).1.policy.nodes <+:
        (readConfLines lib getaddrinfo t (lines ++ [line])).1.policy.nodes) ∧
      (∀ line e, (readConfLines lib getaddrinfo t (lines ++ [line])).2 = some e →
        (readConfLines lib getaddrinfo t (lines ++ [line])).1 =
          (readConfLines lib getaddrinfo t lines).1) ∧
      ∀ t', parselimits lib getaddrinfo t lines = .ok t' → ClassInv t'.policy := by
  have hsound : PolicySound (readConfLines lib getaddrinfo t lines).1.policy := by
    refine readConfLines_sound lines ?_
    rw [hstart]
    exact ⟨PolicyInv.empty, PolicyShape.empty⟩
  refine ⟨.of_shape hsound.1 hsound.2, fun line => ?_, fun line e he => ?_, fun t' ht' => ?_⟩
  · rw [readConfLines_concat]
    generalize readConfLines lib getaddrinfo t lines = r at hsound ⊢
    obtain ⟨t', _ | e⟩ := r
    · dsimp only
      split
      · exact List.prefix_rfl
      · rename_i hline
        exact (parseConfLine_policy hline hsound).2
    · exact List.prefix_rfl
  · rw [readConfLines_concat] at he ⊢
    generalize readConfLines lib getaddrinfo t lines = r at he ⊢
    obtain ⟨t', _ | e'⟩ := r
    · dsimp only at he ⊢
      split at he
      · rfl
      · cases he
    · rfl
  · unfold parselimits at ht'
    split at ht'
    · cases ht'
    rename_i t₁ hlines
    have hsound₁ : PolicySound t₁.policy := by
      rwa [readConfLines_ok lines hlines] at hsound
    split at ht'
    · cases ht'
      exact .of_shape hsound₁.1 hsound₁.2
    · split at ht'
      · cases ht'
      · rename_i hline
        cases ht'
        have hdefault := hsound₁.line hline
        exact .of_shape hdefault.1 hdefault.2

theorem limit_classes_sound_campus :
    let lines := ["limit root with bandwidth=900, allow_udp=on",
      "assign default root", "limit leaf with parent=root, bandwidth=1000, pending=5",
      "limit leaf with parent=root"]
    let t : PolicyTables identHash keyHash := .start identHash keyHash
    ClassInv (readConfLines plainI2Util (fun _ => .ok none) t lines).1.policy ∧
      (∀ line, (readConfLines plainI2Util (fun _ => .ok none) t lines).1.policy.nodes <+:
        (readConfLines plainI2Util (fun _ => .ok none) t (lines ++ [line])).1.policy.nodes) ∧
      (∀ line e, (readConfLines plainI2Util (fun _ => .ok none) t (lines ++ [line])).2 = some e →
        (readConfLines plainI2Util (fun _ => .ok none) t (lines ++ [line])).1 =
          (readConfLines plainI2Util (fun _ => .ok none) t lines).1) ∧
      ∀ t', parselimits plainI2Util (fun _ => .ok none) t lines = .ok t' → ClassInv t'.policy :=
  limit_classes_sound _ rfl _

end Files

end Bwctl
