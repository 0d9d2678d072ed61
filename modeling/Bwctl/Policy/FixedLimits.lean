import Bwctl.Policy.Inherit

/-!
# Fixed integer limits along the class hierarchy

`event_horizon` and `minimum_ttl` are read from the node of the class alone
(`BWLDGetFixedLimit`), so "a connection must pass the limit restrictions of the given
userclass as well as all parent classes" rests on the clamping done while parsing.  The
clamp compares values with `>=`: it lets `event_horizon=0` (unlimited) through under a
limited parent, and it lets a smaller, that is weaker, `minimum_ttl` through.

* `getLimit_child` — the value of an integer limit at a child.
* `child_strict_iff` — when the node of one line is at least as strict as its parent.
* `fixed_limits_strict_iff` — a policy is monotone along the hierarchy exactly when no line
  declares one of these two weaker values.
-/

set_option autoImplicit false

namespace Bwctl

/-- A horizon is at least as strict as another: `0` is unlimited, smaller is stricter. -/
def HorizonAsStrict (v w : BWLDLimitT) : Prop := w = 0 ∨ (v ≠ 0 ∧ v ≤ w)

/-- A minimum TTL is at least as strict as another: `0` is none, larger is stricter. -/
def TTLAsStrict (v w : BWLDLimitT) : Prop := w ≤ v

/-- What `BWLDGetFixedLimit` returns for the class is at least as strict as for the ancestor. -/
structure AsStrictAs (n a : PolicyNode) : Prop where
  horizon : ∀ v w, getFixedLimit n BWLDLimEventHorizon = some v →
    getFixedLimit a BWLDLimEventHorizon = some w → HorizonAsStrict v w
  ttl : ∀ v w, getFixedLimit n BWLDLimMinimumTTL = some v →
    getFixedLimit a BWLDLimMinimumTTL = some w → TTLAsStrict v w

/-- Every class of the policy is at least as strict as each of its ancestors. -/
def StrictAlongPaths (policy : Policy) : Prop :=
  ∀ n ∈ policy.nodes, ∀ a ∈ n.path, AsStrictAs n a

/-- The limits a line declares do not weaken the two limits of its parent: it does not lift a
    non-zero event horizon to `0` and does not lower the minimum TTL. -/
def LimitsKept (p : PolicyNode) (limtemp : List LimRec) : Prop :=
  (findLim limtemp BWLDLimEventHorizon = some 0 → getLimit p BWLDLimEventHorizon = 0) ∧
    ∀ v, findLim limtemp BWLDLimMinimumTTL = some v → getLimit p BWLDLimMinimumTTL ≤ v

def LineKeepsLimits (lib : I2Util) (policy : Policy) (line : String) : Prop :=
  ∀ cname st p, parseLine lib maxlim policy line = .ok (cname, st) → st.parent = some p →
    LimitsKept p st.limtemp

/-- Every line of a file keeps the limits of its parent. -/
def LinesKeepLimits (lib : I2Util) : Policy → List String → Prop
  | _, [] => True
  | policy, line :: lines =>
    LineKeepsLimits lib policy line ∧
      ∀ policy', parselimitline lib maxlim policy line = .ok policy' →
        LinesKeepLimits lib policy' lines

/-! ## One class against its parent -/

theorem HorizonAsStrict.trans {u v w : BWLDLimitT} (h₁ : HorizonAsStrict u v)
    (h₂ : HorizonAsStrict v w) : HorizonAsStrict u w := by
  rcases h₂ with rfl | ⟨hv, hvw⟩
  · exact Or.inl rfl
  · rcases h₁ with rfl | ⟨hu, huv⟩
    · exact absurd rfl hv
    · exact Or.inr ⟨hu, UInt64.le_trans huv hvw⟩

theorem AsStrictAs.refl (n : PolicyNode) : AsStrictAs n n := by
  refine ⟨fun v w hv hw => ?_, fun v w hv hw => ?_⟩ <;> rw [hv] at hw <;> cases hw
  · by_cases h : v = 0
    · exact Or.inl h
    · exact Or.inr ⟨h, UInt64.le_refl v⟩
  · exact UInt64.le_refl v

theorem AsStrictAs.trans {n p a : PolicyNode} (h₁ : AsStrictAs n p) (h₂ : AsStrictAs p a) :
    AsStrictAs n a :=
  ⟨fun _ _ hv hw => (h₁.horizon _ _ hv rfl).trans (h₂.horizon _ _ rfl hw),
   fun _ _ hv hw => UInt64.le_trans (h₂.ttl _ _ rfl hw) (h₁.ttl _ _ hv rfl)⟩

/-- The value of an integer limit at a child: the parent's, unless the line declares one, which
    is then clamped to a non-zero limit of the parent. -/
theorem getLimit_child {lim : BWLDMesgT} (hk : limKind lim = .limFixedInt) (cname : String)
    {p : PolicyNode} (hp : (p.limits.map (·.limit)).Nodup) (limtemp : List LimRec) :
    getLimit (.child cname p (inheritLims p.limits limtemp)) lim =
      match findLim limtemp lim with
      | none => getLimit p lim
      | some v => if getLimit p lim = 0 ∨ v ≤ getLimit p lim then v else getLimit p lim := by
  have hdef := getDefLimit_integer (Or.inr hk)
  have hchild : (PolicyNode.child cname p (inheritLims p.limits limtemp)).limit? lim =
      findLim (inheritLims p.limits limtemp) lim := rfl
  have hparent : p.limit? lim = findLim p.limits lim := rfl
  unfold getLimit
  rw [hchild, hparent, findLim_inheritLims lim _ _ hp, hdef]
  cases findLim p.limits lim with
  | none => cases findLim limtemp lim <;> simp
  | some pv =>
    cases findLim limtemp lim with
    | none => rfl
    | some v =>
      simp only [Option.map_some, Option.getD_some, overrideValue, hk]
      by_cases h0 : pv = 0
      · simp [h0]
      · simp [h0, ge_iff_le]

/-- **One line**: its class is at least as strict as the parent exactly when the line keeps the
    two limits. -/
theorem child_strict_iff (cname : String) {p : PolicyNode} (hp : (p.limits.map (·.limit)).Nodup)
    (limtemp : List LimRec) :
    AsStrictAs (.child cname p (inheritLims p.limits limtemp)) p ↔ LimitsKept p limtemp := by
  have hh := getLimit_child (show limKind BWLDLimEventHorizon = .limFixedInt from rfl) cname hp limtemp
  have ht := getLimit_child (show limKind BWLDLimMinimumTTL = .limFixedInt from rfl) cname hp limtemp
  have hiff : AsStrictAs (.child cname p (inheritLims p.limits limtemp)) p ↔
      HorizonAsStrict (getLimit (.child cname p (inheritLims p.limits limtemp)) BWLDLimEventHorizon)
        (getLimit p BWLDLimEventHorizon) ∧
      TTLAsStrict (getLimit (.child cname p (inheritLims p.limits limtemp)) BWLDLimMinimumTTL)
        (getLimit p BWLDLimMinimumTTL) :=
    ⟨fun h => ⟨h.horizon _ _ rfl rfl, h.ttl _ _ rfl rfl⟩,
     fun h => ⟨fun _ _ hv hw => by cases hv; cases hw; exact h.1,
       fun _ _ hv hw => by cases hv; cases hw; exact h.2⟩⟩
  rw [hiff, hh, ht]
  unfold LimitsKept HorizonAsStrict TTLAsStrict
  generalize getLimit p BWLDLimEventHorizon = eh
  generalize getLimit p BWLDLimMinimumTTL = mt
  refine and_congr ?_ ?_
  · cases findLim limtemp BWLDLimEventHorizon with
    | none =>
      simp only [reduceCtorEq, false_imp_iff, iff_true]
      by_cases h : eh = 0
      · exact Or.inl h
      · exact Or.inr ⟨h, UInt64.le_refl eh⟩
    | some v =>
      simp only [Option.some.injEq]
      by_cases h0 : eh = 0
      · simp [h0]
      · by_cases hle : v ≤ eh
        · simp [h0, hle]
        · have hv : v ≠ 0 := fun hv => hle (by
            rw [hv]; exact UInt64.le_iff_toNat_le.2 (Nat.zero_le _))
          simp [h0, hle, hv]
  · cases findLim limtemp BWLDLimMinimumTTL with
    | none => simp
    | some v =>
      simp only [Option.some.injEq, forall_eq']
      by_cases h0 : mt = 0
      · simp [h0]
      · by_cases hle : v ≤ mt
        · simp [hle]
        · simp [h0, hle, (UInt64.le_total mt v).resolve_right hle]

/-! ## Whole policies -/

/-- Adding one class: the policy stays monotone exactly when the line keeps the limits. -/
theorem strictAlongPaths_line {lib : I2Util} {policy policy' : Policy} {line : String}
    (hp : PolicyInv policy) (h : parselimitline lib maxlim policy line = .ok policy') :
    StrictAlongPaths policy' ↔ StrictAlongPaths policy ∧ LineKeepsLimits lib policy line := by
  obtain ⟨cname, st, hline, -, -, ⟨p, hpm, hpar, rfl⟩ | ⟨hpar, -, rfl⟩⟩ := parselimitline_cases h
  · have hkeep : LineKeepsLimits lib policy line ↔ LimitsKept p st.limtemp :=
      ⟨fun hl => hl cname st p hline hpar, fun hl c' st' p' hl' hp' => by
        rw [hline] at hl'; cases hl'; rw [hpar] at hp'; cases hp'; exact hl⟩
    rw [hkeep, ← child_strict_iff cname (hp.nodup p hpm)]
    constructor
    · intro hs
      exact ⟨fun n hn => hs n (List.mem_append_left _ hn),
        hs _ (by simp [Policy.store]) p (by simp [PolicyNode.self_mem_path])⟩
    · rintro ⟨hs, hc⟩ n hn a ha
      rcases List.mem_append.1 hn with hn | hn
      · exact hs n hn a ha
      · rw [List.mem_singleton] at hn
        subst hn
        simp only [PolicyNode.path_child, List.mem_cons] at ha
        rcases ha with rfl | ha
        · exact AsStrictAs.refl _
        · exact hc.trans (hs p hpm a ha)
  · have hkeep : LineKeepsLimits lib policy line := fun c' st' p' hl' hp' => by
      rw [hline] at hl'; cases hl'; rw [hpar] at hp'; cases hp'
    constructor
    · exact fun hs => ⟨fun n hn => hs n (List.mem_append_left _ hn), hkeep⟩
    · rintro ⟨hs, -⟩ n hn a ha
      rcases List.mem_append.1 hn with hn | hn
      · exact hs n hn a ha
      · rw [List.mem_singleton] at hn
        subst hn
        simp only [PolicyNode.path_root, List.mem_singleton] at ha
        rw [ha]; exact AsStrictAs.refl _

theorem strictAlongPaths_lines {lib : I2Util} : ∀ {lines : List String} {policy policy' : Policy},
    PolicyInv policy → parselimitlines lib policy lines = .ok policy' →
      (StrictAlongPaths policy' ↔ StrictAlongPaths policy ∧ LinesKeepLimits lib policy lines)
  | [], _, _, _, h => by cases h; simp [LinesKeepLimits]
  | line :: lines, policy, policy', hp, h => by
    simp only [parselimitlines] at h
    split at h
    · cases h
    · rename_i policy₁ hl
      rw [strictAlongPaths_lines (hp.line hl) h, strictAlongPaths_line hp hl]
      rw [LinesKeepLimits]
      constructor
      · rintro ⟨⟨hs, hk⟩, hr⟩
        exact ⟨hs, hk, fun q hq => by rw [hl] at hq; cases hq; exact hr⟩
      · rintro ⟨hs, hk, hr⟩
        exact ⟨⟨hs, hk⟩, hr _ hl⟩

/-- **A file of accepted lines is monotone along the hierarchy exactly when no line lifts a
    non-zero event horizon to `0` or lowers the minimum TTL of its parent.** -/
theorem fixed_limits_strict_iff {lib : I2Util} {lines : List String} {policy : Policy}
    (h : parselimitlines lib Policy.empty lines = .ok policy) :
    StrictAlongPaths policy ↔ LinesKeepLimits lib Policy.empty lines := by
  rw [strictAlongPaths_lines PolicyInv.empty h]
  exact and_iff_right fun n hn => (List.not_mem_nil hn).elim

/-- `I2StrToNum` on plain decimal digits, with blanks and tabs as the white-space set. -/
def plainI2Util : I2Util where
  wspaceset := fun c => c == ' ' || c == '\t'
  strToNum := fun s =>
    if s ≠ "" ∧ s.toList.all Char.isDigit then
      some (UInt64.ofNat (s.toList.foldl (fun n c => 10 * n + (c.toNat - 48)) 0))
    else none
  behind := fun _ => []

theorem fixed_limits_strict_iff_campus :
    (∃ policy, parselimitlines plainI2Util Policy.empty
        ["root with event_horizon=300, minimum_ttl=2",
         "campus with parent=root, event_horizon=60, minimum_ttl=2"] = .ok policy ∧
      (StrictAlongPaths policy ↔ LinesKeepLimits plainI2Util Policy.empty
        ["root with event_horizon=300, minimum_ttl=2",
         "campus with parent=root, event_horizon=60, minimum_ttl=2"])) :=
  ⟨⟨[.root "root" [⟨3, 300⟩, ⟨9, 2⟩],
     .child "campus" (.root "root" [⟨3, 300⟩, ⟨9, 2⟩]) [⟨3, 60⟩, ⟨9, 2⟩]]⟩,
   by decide, fixed_limits_strict_iff (by decide)⟩

/-- A child that declares `event_horizon=0` is unlimited although its parent is limited, and a
    child that declares a smaller `minimum_ttl` keeps it. -/
theorem child_weaker_than_parent :
    ∃ policy root child, parselimitlines plainI2Util Policy.empty
        ["root with event_horizon=300, minimum_ttl=5",
         "guest with parent=root, event_horizon=0, minimum_ttl=1"] = .ok policy ∧
      child ∈ policy.nodes ∧ root ∈ child.path ∧
      getFixedLimit root BWLDLimEventHorizon = some 300 ∧
      getFixedLimit child BWLDLimEventHorizon = some 0 ∧
      getFixedLimit root BWLDLimMinimumTTL = some 5 ∧
      getFixedLimit child BWLDLimMinimumTTL = some 1 ∧ ¬ AsStrictAs child root := by
  refine ⟨⟨[.root "root" [⟨3, 300⟩, ⟨9, 5⟩],
      .child "guest" (.root "root" [⟨3, 300⟩, ⟨9, 5⟩]) [⟨3, 0⟩, ⟨9, 1⟩]]⟩,
    .root "root" [⟨3, 300⟩, ⟨9, 5⟩],
    .child "guest" (.root "root" [⟨3, 300⟩, ⟨9, 5⟩]) [⟨3, 0⟩, ⟨9, 1⟩],
    by decide, by decide, by decide, by decide, by decide, by decide, by decide, fun h => ?_⟩
  rcases h.horizon 0 300 rfl rfl with h0 | ⟨h0, -⟩
  · exact absurd h0 (by decide)
  · exact absurd rfl h0

end Bwctl
