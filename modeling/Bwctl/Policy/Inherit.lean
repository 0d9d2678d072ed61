import Bwctl.Policy.Parse

/-!
# What a class inherits from its parent

The records a class ends up with, limit by limit, and the invariant every accepted sequence
of `limit` lines maintains.

* `findLim_inheritLims` — the record of a limit after the copy loop: the record of the line
  clamped by the parent's, or the parent's own.
* `PolicyInv` — class names are unique, parents are classes of the policy, a class has every
  record its parent has.
* `PolicyBuilt.inv` — the invariant holds for every policy built from accepted lines.
* `PolicyInv.limit?_path` — a limit missing at a class is missing at all its ancestors.
-/

set_option autoImplicit false

namespace Bwctl

/-! ## The copy loop -/

@[simp] theorem findLim_nil (lim : BWLDMesgT) : findLim [] lim = none := rfl

theorem findLim_cons (l : LimRec) (ls : List LimRec) (lim : BWLDMesgT) :
    findLim (l :: ls) lim = if lim = l.limit then some l.value else findLim ls lim := by
  unfold findLim
  rw [List.find?_cons]
  by_cases h : lim = l.limit
  · simp [h]
  · have hb : (lim == l.limit) = false := by simpa using h
    simp [h, hb]

theorem findLim_append (ls ms : List LimRec) (lim : BWLDMesgT) :
    findLim (ls ++ ms) lim = (findLim ls lim).or (findLim ms lim) := by
  unfold findLim
  rw [List.find?_append]
  cases ls.find? (fun l => lim == l.limit) <;> simp

theorem findLim_eq_none {ls : List LimRec} {lim : BWLDMesgT} :
    findLim ls lim = none ↔ lim ∉ ls.map (·.limit) := by
  unfold findLim
  rw [Option.map_eq_none_iff, List.find?_eq_none, List.mem_map]
  constructor
  · rintro h ⟨l, hl, rfl⟩; exact h l hl (by simp)
  · intro h l hl heq; exact h ⟨l, hl, (beq_iff_eq.1 heq).symm⟩

theorem overrideLim_eq_none {p : LimRec} : ∀ {ls : List LimRec},
    overrideLim p ls = none ↔ findLim ls p.limit = none
  | [] => by simp [overrideLim]
  | l :: ls => by
    simp only [overrideLim, findLim_cons]
    split
    · simp
    · rw [Option.map_eq_none_iff]; exact overrideLim_eq_none

theorem overrideLim_limits {p : LimRec} : ∀ {ls ms : List LimRec},
    overrideLim p ls = some ms → ms.map (·.limit) = ls.map (·.limit)
  | [], _, h => by simp [overrideLim] at h
  | l :: ls, ms, h => by
    simp only [overrideLim] at h
    split at h
    · cases h; rfl
    · obtain ⟨ns, hns, rfl⟩ := Option.map_eq_some_iff.1 h
      simp [overrideLim_limits hns]

theorem findLim_overrideLim {p : LimRec} (lim : BWLDMesgT) : ∀ {ls ms : List LimRec},
    overrideLim p ls = some ms →
      findLim ms lim =
        if lim = p.limit then (findLim ls lim).map (overrideValue p) else findLim ls lim
  | [], _, h => by simp [overrideLim] at h
  | l :: ls, ms, h => by
    simp only [overrideLim] at h
    split at h
    · rename_i hl
      cases h
      rw [findLim_cons, findLim_cons]
      by_cases hlim : lim = l.limit
      · simp [hlim, hl]
      · simp [hlim, show ¬ lim = p.limit by rw [hl]; exact hlim]
    · rename_i hl
      obtain ⟨ns, hns, rfl⟩ := Option.map_eq_some_iff.1 h
      have ih := findLim_overrideLim lim hns
      rw [findLim_cons, findLim_cons]
      by_cases hlim : lim = l.limit
      · have : ¬ lim = p.limit := fun h' => hl (h'.symm.trans hlim)
        simp [hlim, show ¬ l.limit = p.limit by rw [← hlim]; exact this]
      · rw [if_neg hlim, if_neg hlim]; exact ih

/-- One record of the parent settles its own limit and no other. -/
theorem findLim_inheritLim (ls : List LimRec) (p : LimRec) (lim : BWLDMesgT) :
    findLim (inheritLim ls p) lim =
      if lim = p.limit then some (((findLim ls lim).map (overrideValue p)).getD p.value)
      else findLim ls lim := by
  unfold inheritLim
  cases ho : overrideLim p ls with
  | some ms =>
    show findLim ms lim = _
    rw [findLim_overrideLim lim ho]
    by_cases hlim : lim = p.limit
    · subst hlim
      cases hf : findLim ls p.limit with
      | none => rw [overrideLim_eq_none.2 hf] at ho; cases ho
      | some v => simp
    · rw [if_neg hlim, if_neg hlim]
  | none =>
    have hf := overrideLim_eq_none.1 ho
    show findLim (ls ++ [p]) lim = _
    rw [findLim_append, findLim_cons]
    by_cases hlim : lim = p.limit
    · subst hlim; simp [hf]
    · simp [hlim]

/-- **The records of a class**, limit by limit. -/
theorem findLim_inheritLims (lim : BWLDMesgT) : ∀ (ps ls : List LimRec), (ps.map (·.limit)).Nodup →
    findLim (inheritLims ps ls) lim =
      match findLim ps lim with
      | none => findLim ls lim
      | some pv => some (((findLim ls lim).map (overrideValue ⟨lim, pv⟩)).getD pv)
  | [], _, _ => rfl
  | p :: ps, ls, hnd => by
    simp only [List.map_cons, List.nodup_cons] at hnd
    show findLim (inheritLims ps (inheritLim ls p)) lim = _
    rw [findLim_inheritLims lim ps _ hnd.2, findLim_inheritLim, findLim_cons]
    by_cases hlim : lim = p.limit
    · have hps : findLim ps lim = none := findLim_eq_none.2 (by rw [hlim]; exact hnd.1)
      rw [hps, if_pos hlim, if_pos hlim, hlim]
    · rw [if_neg hlim, if_neg hlim]

theorem inheritLim_nodup {ls : List LimRec} (p : LimRec) (h : (ls.map (·.limit)).Nodup) :
    ((inheritLim ls p).map (·.limit)).Nodup := by
  unfold inheritLim
  cases ho : overrideLim p ls with
  | some ms => show (ms.map (·.limit)).Nodup; rw [overrideLim_limits ho]; exact h
  | none =>
    have hf := findLim_eq_none.1 (overrideLim_eq_none.1 ho)
    show ((ls ++ [p]).map (·.limit)).Nodup
    rw [List.map_append, List.nodup_append]
    exact ⟨h, by simp, fun a ha b hb hab => hf (by simp at hb; rw [← hb, ← hab]; exact ha)⟩

theorem inheritLims_nodup : ∀ (ps : List LimRec) {ls : List LimRec}, (ls.map (·.limit)).Nodup →
    ((inheritLims ps ls).map (·.limit)).Nodup
  | [], _, h => h
  | p :: ps, _, h => inheritLims_nodup ps (inheritLim_nodup p h)

/-! ## The invariant of a policy -/

structure PolicyInv (policy : Policy) : Prop where
  names : (policy.nodes.map (·.nodename)).Nodup
  closed : ∀ n ∈ policy.nodes, ∀ p, n.parent? = some p → p ∈ policy.nodes
  nodup : ∀ n ∈ policy.nodes, (n.limits.map (·.limit)).Nodup
  inherits : ∀ n ∈ policy.nodes, ∀ p, n.parent? = some p →
    ∀ lim, n.limit? lim = none → p.limit? lim = none

theorem PolicyInv.empty : PolicyInv Policy.empty :=
  ⟨List.nodup_nil, fun _ h => (List.not_mem_nil h).elim, fun _ h => (List.not_mem_nil h).elim,
   fun _ h => (List.not_mem_nil h).elim⟩

/-- A new class keeps the invariant when its own records are unique and cover its parent's. -/
theorem PolicyInv.store {policy : Policy} (hp : PolicyInv policy) {node : PolicyNode}
    (hname : policy.fetch node.nodename = none) (hnd : (node.limits.map (·.limit)).Nodup)
    (hpar : ∀ p, node.parent? = some p →
      p ∈ policy.nodes ∧ ∀ lim, node.limit? lim = none → p.limit? lim = none) :
    PolicyInv (policy.store node) := by
  have hmem : ∀ n, n ∈ (policy.store node).nodes ↔ n ∈ policy.nodes ∨ n = node := fun n => by
    show n ∈ policy.nodes ++ [node] ↔ _
    rw [List.mem_append, List.mem_singleton]
  refine ⟨?_, ?_, ?_, ?_⟩
  · show ((policy.nodes ++ [node]).map (·.nodename)).Nodup
    rw [List.map_append, List.nodup_append]
    refine ⟨hp.names, by simp, fun a ha b hb hab => ?_⟩
    obtain ⟨n, hn, rfl⟩ := List.mem_map.1 ha
    simp only [List.map_cons, List.map_nil, List.mem_singleton] at hb
    have := List.find?_eq_none.1 hname n hn
    exact this (by simp [hab, hb])
  · intro n hn p hnp
    rcases (hmem n).1 hn with hn | rfl
    · exact (hmem p).2 (Or.inl (hp.closed n hn p hnp))
    · exact (hmem p).2 (Or.inl (hpar p hnp).1)
  · intro n hn
    rcases (hmem n).1 hn with hn | rfl
    · exact hp.nodup n hn
    · exact hnd
  · intro n hn p hnp
    rcases (hmem n).1 hn with hn | rfl
    · exact hp.inherits n hn p hnp
    · exact (hpar p hnp).2

theorem PolicyInv.line {lib : I2Util} {policy policy' : Policy} {line : String}
    (hp : PolicyInv policy) (h : parselimitline lib maxlim policy line = .ok policy') :
    PolicyInv policy' := by
  obtain ⟨cname, st, -, hst, hfresh, ⟨p, hpm, -, rfl⟩ | ⟨-, -, rfl⟩⟩ := parselimitline_cases h
  · refine hp.store hfresh (inheritLims_nodup _ hst.nodup) fun q hq => ?_
    cases hq
    refine ⟨hpm, fun lim hl => ?_⟩
    change findLim (inheritLims p.limits st.limtemp) lim = none at hl
    rw [findLim_inheritLims lim _ _ (hp.nodup p hpm)] at hl
    cases hf : findLim p.limits lim with
    | none => exact hf
    | some v => rw [hf] at hl; cases hl
  · exact hp.store hfresh hst.nodup fun q hq => by cases hq

theorem parselimitlines_inv {lib : I2Util} : ∀ {lines : List String} {policy policy' : Policy},
    PolicyInv policy → parselimitlines lib policy lines = .ok policy' → PolicyInv policy'
  | [], _, _, hp, h => by cases h; exact hp
  | line :: lines, policy, policy', hp, h => by
    simp only [parselimitlines] at h
    split at h
    · cases h
    · rename_i hl
      exact parselimitlines_inv (hp.line hl) h

/-- **Every policy built from accepted lines satisfies the invariant.** -/
theorem PolicyBuilt.inv {lib : I2Util} {policy : Policy} (h : PolicyBuilt lib policy) :
    PolicyInv policy :=
  let ⟨_, hl⟩ := h
  parselimitlines_inv PolicyInv.empty hl

namespace PolicyInv

variable {policy : Policy}

/-- The ancestors of a class are classes of the policy. -/
theorem path_mem (hp : PolicyInv policy) : ∀ {n : PolicyNode}, n ∈ policy.nodes →
    ∀ a ∈ n.path, a ∈ policy.nodes
  | .root _ _, hn, a, ha => by simp at ha; rwa [ha]
  | .child _ p _, hn, a, ha => by
    simp only [PolicyNode.path_child, List.mem_cons] at ha
    rcases ha with rfl | ha
    · exact hn
    · exact path_mem hp (hp.closed _ hn p rfl) a ha

/-- A limit missing at a class is missing at all its ancestors. -/
theorem limit?_path (hp : PolicyInv policy) {lim : BWLDMesgT} : ∀ {n : PolicyNode},
    n ∈ policy.nodes → n.limit? lim = none → ∀ a ∈ n.path, a.limit? lim = none
  | .root _ _, _, hl, a, ha => by simp at ha; rwa [ha]
  | .child _ p _, hn, hl, a, ha => by
    simp only [PolicyNode.path_child, List.mem_cons] at ha
    rcases ha with rfl | ha
    · exact hl
    · exact limit?_path hp (hp.closed _ hn p rfl) (hp.inherits _ hn p rfl lim hl) a ha

theorem eq_of_nodename (hp : PolicyInv policy) {n m : PolicyNode} (hn : n ∈ policy.nodes)
    (hm : m ∈ policy.nodes) (h : n.nodename = m.nodename) : n = m :=
  List.inj_on_of_nodup_map hp.names hn hm h

end PolicyInv

/-- The chain of a class gets shorter towards the root. -/
theorem PolicyNode.length_path_lt : ∀ {n : PolicyNode} {a : PolicyNode}, a ∈ n.path → a ≠ n →
    a.path.length < n.path.length
  | .root _ _, a, ha, hne => by simp at ha; exact absurd ha hne
  | .child _ p _, a, ha, hne => by
    simp only [PolicyNode.path_child, List.mem_cons, List.length_cons] at ha ⊢
    rcases ha with rfl | ha
    · exact absurd rfl hne
    · by_cases hap : a = p
      · rw [hap]; omega
      · have := PolicyNode.length_path_lt ha hap; omega

theorem PolicyNode.notMem_parent_path (name : String) (p : PolicyNode) (limits : List LimRec) :
    PolicyNode.child name p limits ∉ p.path := by
  intro h
  by_cases hne : PolicyNode.child name p limits = p
  · have := congrArg (fun n => n.path.length) hne
    simp at this
  · have := PolicyNode.length_path_lt h hne
    simp at this

end Bwctl
