import Bwctl.Policy.FixedLimits
import Bwctl.Lib.Spans
import Mathlib.Data.List.Forall2

/-!
# The grammar of a limit line

A limit line is a class name, the word `with` and items between commas.  The loops over an item
take white space and any number of `=` for the separator of name and value, and they stop at the
end of the item if there is such a separator; an item that is a bare word has none.

* `isToken_iff` — what one call of `strtok` finds.
* `nextItem_cases` — the loop over the line takes the pieces between the commas.
* `splitItem_item` — an item that is not a bare word is read without a look at what follows it.
* `limit_line_grammar` — the lines that are accepted, and the records they declare.
* `space_separated_accepted` — a separator needs no `=`.
-/

set_option autoImplicit false

namespace Bwctl

open Spans

/-! ## The grammar -/

/-- `t` is the first word of `s` between delimiters, and `r` what follows the delimiter behind it. -/
def IsToken (delim : Char → Bool) (s t r : List Char) : Prop :=
  ∃ before rest, s = before ++ t ++ rest ∧ (∀ c ∈ before, delim c = true) ∧ t ≠ [] ∧
    (∀ c ∈ t, delim c = false) ∧ (rest = [] ∧ r = [] ∨ ∃ d, delim d = true ∧ rest = d :: r)

/-- The items of a text: its pieces between commas, but for the empty ones. -/
def limitItems (items : List Char) : List (List Char) :=
  (items.splitOn ',').filter fun item => !item.isEmpty

/-- A class name, the word `with` and the text of the items. -/
def LimitWords (lib : I2Util) (text cname items : List Char) : Prop :=
  ∃ line word, IsToken lib.wspaceset text cname line ∧ IsToken lib.wspaceset line word items ∧
    eqIgnoreCase word "with".toList = true

/-- A name, a separator of white space and `=`, and a value, with white space around them. -/
def ItemForm (item name value : List Char) : Prop :=
  ∃ lead sep trail, item = lead ++ name ++ sep ++ value ++ trail ∧
    (∀ c ∈ lead, isspace c = true) ∧ (∀ c ∈ name, inName c = true) ∧
    sep ≠ [] ∧ (∀ c ∈ sep, inSep c = true) ∧
    value ≠ [] ∧ (∀ c ∈ value, isspace c = false) ∧ (∀ c ∈ trail, isspace c = true)

/-- An item without a separator behind its first word. -/
def bareItem (item : List Char) : Bool := (item.dropWhile isspace).all inName

def isParentPair (p : List Char × List Char) : Bool := eqIgnoreCase p.1 "parent".toList

/-- The record of a pair with a known name and a valid value. -/
def declaredLim (lib : I2Util) (p : List Char × List Char) : Option LimRec :=
  match limkeys.find? (fun k => k.ltype != .limNot && eqIgnoreCase p.1 k.lname.toList) with
  | none => none
  | some k => (parseLimval lib k.ltype p.1 p.2).toOption.map fun v => ⟨k.limit, v⟩

/-- The records and the parent that pairs declare: one record for each pair with a known name and a
valid value, and at most one pair that names a class as the parent. -/
structure Declares (lib : I2Util) (policy : Policy) (pairs : List (List Char × List Char))
    (st : LineState) : Prop where
  limits : (pairs.filter fun p => !isParentPair p).map (declaredLim lib) = st.limtemp.map some
  parent : (pairs.filter isParentPair).map (fun p => policy.fetch (String.ofList p.2)) =
    st.parent.toList.map some

/-! ## Words -/

/-- **One call of `strtok`** finds the first word. -/
theorem isToken_iff {delim : Char → Bool} {s t r : List Char} :
    IsToken delim s t r ↔ strtok delim s = some (t, r) := by
  constructor
  · rintro ⟨before, rest, rfl, hbefore, hne, ht, hrest⟩
    obtain ⟨c, t, rfl⟩ := List.exists_cons_of_ne_nil hne
    have ht' : ∀ x ∈ c :: t, (!delim x) = true := by simpa using ht
    have hstops : Stops (fun x => !delim x) rest := by
      obtain ⟨rfl, -⟩ | ⟨d, hd, rfl⟩ := hrest
      · simp
      · simp [hd]
    have hdrop : (before ++ (c :: t) ++ rest).dropWhile delim = c :: t ++ rest := by
      rw [List.append_assoc]
      exact dropWhile_of_stops hbefore (by simpa using ht c List.mem_cons_self)
    have htake := takeWhile_of_stops ht' hstops
    have hbehind := dropWhile_of_stops ht' hstops
    unfold strtok
    rw [hdrop]
    rw [List.cons_append] at htake hbehind ⊢
    dsimp only
    rw [htake, hbehind]
    obtain ⟨rfl, rfl⟩ | ⟨d, -, rfl⟩ := hrest
    · rfl
    · rfl
  · intro h
    obtain ⟨before, u, rfl, hbefore, hu, -, hdrop⟩ := exists_cut delim s
    unfold strtok at h
    rw [hdrop] at h
    cases u with
    | nil => cases h
    | cons c u =>
      have hc : (!delim c) = true := by simpa using stops_cons.1 hu
      obtain ⟨t', rest, hcut, ht, hrest, htake, hbehind⟩ := exists_cut (fun c => !delim c) (c :: u)
      dsimp only at h
      rw [htake, hbehind] at h
      cases h
      refine ⟨before, rest, by rw [hcut, List.append_assoc], hbefore, ?_, by simpa using ht, ?_⟩
      · rintro rfl
        rw [List.nil_append] at hcut
        subst hcut
        rw [stops_cons.1 hrest] at hc
        cases hc
      · cases rest with
        | nil => exact .inl ⟨rfl, rfl⟩
        | cons d rest => exact .inr ⟨d, by simpa using stops_cons.1 hrest, rfl⟩

/-- The words of a line, and its items. -/
theorem parseHeader_words {lib : I2Util} {policy : Policy} {text cname : String}
    {items : List Char} (h : parseHeader lib policy text = .ok (cname, items)) :
    LimitWords lib text.toList cname.toList items := by
  unfold parseHeader at h
  split at h
  · cases h
  rename_i c line hname
  split at h
  · cases h
  split at h
  · cases h
  split at h
  · cases h
  rename_i word rest hword
  split at h
  · rename_i hwith
    cases h
    rw [String.toList_ofList]
    exact ⟨line, word, isToken_iff.2 hname, isToken_iff.2 hword, hwith⟩
  · cases h

/-- A line has one class name and one text of items. -/
theorem LimitWords.unique {lib : I2Util} {text cname cname' items items' : List Char}
    (h : LimitWords lib text cname items) (h' : LimitWords lib text cname' items') :
    cname = cname' ∧ items = items' := by
  obtain ⟨line, word, hname, hword, -⟩ := h
  obtain ⟨line', word', hname', hword', -⟩ := h'
  rw [isToken_iff] at hname hword hname' hword'
  rw [hname] at hname'
  cases hname'
  rw [hword] at hword'
  cases hword'
  exact ⟨rfl, rfl⟩

/-! ## Items -/

theorem limitItems_comma (items : List Char) : limitItems (',' :: items) = limitItems items := by
  have := List.splitOn_append_cons_self_of_not_mem (a := ',') (List.not_mem_nil) items
  unfold limitItems
  rw [List.nil_append] at this
  rw [this]
  rfl

theorem limitItems_cons {item : List Char} (hne : item ≠ []) (hcomma : ',' ∉ item)
    (items : List Char) : limitItems (item ++ ',' :: items) = item :: limitItems items := by
  unfold limitItems
  rw [List.splitOn_append_cons_self_of_not_mem hcomma]
  simp [hne]

theorem limitItems_single {item : List Char} (hne : item ≠ []) (hcomma : ',' ∉ item) :
    limitItems item = [item] := by
  unfold limitItems
  rw [List.splitOn_eq_singleton hcomma]
  simp [hne]

theorem limitItems_commas {commas : List Char} (items : List Char)
    (h : ∀ c ∈ commas, (c == ',') = true) : limitItems (commas ++ items) = limitItems items := by
  induction commas with
  | nil => rfl
  | cons c commas ih =>
    obtain rfl := beq_iff_eq.1 (h c List.mem_cons_self)
    rw [List.cons_append, limitItems_comma]
    exact ih fun x hx => h x (List.mem_cons_of_mem _ hx)

/-- **The loop over the line** takes the items in turn: it ends where there is none, and the next
call stands at the rest of the text. -/
theorem nextItem_cases {items : List Char} (hnul : NUL ∉ items) (behind : List Char) :
    limitItems items = [] ∧ nextItem (items ++ NUL :: behind) = none ∨
      ∃ item rest, limitItems items = item :: limitItems rest ∧ NUL ∉ item ∧ NUL ∉ rest ∧
        rest.length < items.length ∧ ∃ mem ahead,
          nextItem (items ++ NUL :: behind) = some (item ++ NUL :: mem, ahead) ∧
          ∀ item', item'.length = item.length →
            (item' ++ NUL :: mem).drop ahead = rest ++ NUL :: behind := by
  obtain ⟨commas, items, rfl, hcommas, hstops, -, -⟩ := exists_cut (fun c => c == ',') items
  rw [limitItems_commas items hcommas]
  have hskip : ((commas ++ items) ++ NUL :: behind).dropWhile (fun c => c == ',') =
      items ++ NUL :: behind := by
    rw [List.append_assoc]
    refine dropWhile_of_stops hcommas fun c rest h => ?_
    cases items with
    | nil =>
      cases h
      decide
    | cons d items =>
      cases h
      exact hstops _ _ rfl
  obtain ⟨item, rest, rfl, hitem, hrest, -, -⟩ := exists_cut (fun c => c != ',') items
  have hcomma : ',' ∉ item := fun h => by simpa using hitem _ h
  have hnul' : NUL ∉ item ∧ NUL ∉ rest := by simp_all
  have hin : ∀ c ∈ item, (c != ',' && c != NUL) = true := fun c hc => by
    have hne : c ≠ NUL := fun h => hnul'.1 (h ▸ hc)
    have := hitem c hc
    simp_all
  have hends : Stops (fun c => c != ',' && c != NUL) (rest ++ NUL :: behind) := by
    cases rest with
    | nil => simp
    | cons c rest =>
      have hc := stops_cons.1 hrest
      simp_all
  have htake := takeWhile_of_stops hin hends
  have hdrop := dropWhile_of_stops hin hends
  rw [← List.append_assoc] at htake hdrop
  unfold nextItem
  rw [hskip]
  dsimp only
  rw [htake, hdrop]
  cases rest with
  | cons c rest =>
    obtain rfl : c = ',' := by simpa using hrest c rest rfl
    have hne : item ≠ [] := by
      rintro rfl
      simpa using hstops ',' rest rfl
    refine .inr ⟨item, rest, limitItems_cons hne hcomma rest, hnul'.1, by simp_all, ?_,
      rest ++ NUL :: behind, item.length + 1, by simp, fun item' hlen => ?_⟩
    · simp only [List.length_append, List.length_cons]
      omega
    · rw [← hlen, ← List.drop_drop, List.drop_left]
      rfl
  | nil =>
    rw [List.append_nil, List.nil_append]
    by_cases hne : item = []
    · subst hne
      exact .inl ⟨rfl, by simp [NUL]⟩
    · refine .inr ⟨item, [], by rw [limitItems_single hne hcomma]; rfl, hnul'.1, by simp, ?_,
        behind, item.length, by simp [hne, NUL], fun item' hlen => ?_⟩
      · have := List.length_pos_iff.2 hne
        simp only [List.length_append, List.length_nil]
        omega
      · rw [← hlen, List.drop_left]
        rfl

theorem untilNul_eq {name : List Char} (h : NUL ∉ name) : untilNul name = name := by
  unfold untilNul
  rw [List.takeWhile_eq_self_iff]
  intro c hc
  have hne : c ≠ NUL := fun heq => h (heq ▸ hc)
  simpa using hne

/-- The scans over an item stop where its parts end. -/
theorem splitItem_of_parts {lead name sep value tail : List Char} {e : Char}
    (hlead : ∀ c ∈ lead, isspace c = true) (hfirst : Stops isspace (name ++ [e]))
    (hname : ∀ c ∈ name, inName c = true) (he : inName e = false)
    (hsep : ∀ c ∈ sep, inSep c = true) (hmiddle : Stops inSep (value ++ tail))
    (hvalue : ∀ c ∈ value, inVal c = true) (htail : Stops inVal tail) :
    splitItem (lead ++ (name ++ e :: (sep ++ (value ++ tail)))) =
      splitTrail (lead ++ name ++ NUL :: (sep ++ value)) (untilNul name) value tail := by
  have hfirst' : Stops isspace (name ++ e :: (sep ++ (value ++ tail))) := by
    cases name with
    | nil => exact stops_cons.2 (hfirst _ _ rfl)
    | cons c name => exact stops_cons.2 (hfirst _ _ rfl)
  unfold splitItem
  dsimp only
  rw [takeWhile_of_stops hlead hfirst', dropWhile_of_stops hlead hfirst',
    takeWhile_of_stops hname (stops_cons.2 he), dropWhile_of_stops hname (stops_cons.2 he)]
  dsimp only
  rw [takeWhile_of_stops hsep hmiddle, dropWhile_of_stops hsep hmiddle,
    takeWhile_of_stops hvalue htail, dropWhile_of_stops hvalue htail]

/-- **An item that is not a bare word** is cut, or refused, without a look at what stands behind
its NUL, and only the item itself is overwritten. -/
theorem splitItem_item {item : List Char} (hnul : NUL ∉ item) (hbare : bareItem item = false) :
    (∃ name value item', item'.length = item.length ∧ (value ≠ [] → ItemForm item name value) ∧
      ∀ rest, splitItem (item ++ NUL :: rest) = .ok (name, value, item' ++ NUL :: rest)) ∨
    ∃ e, ∀ rest, splitItem (item ++ NUL :: rest) = .error e := by
  obtain ⟨lead, u, rfl, hlead, hu, -, hdrop⟩ := exists_cut isspace item
  unfold bareItem at hbare
  rw [hdrop] at hbare
  obtain ⟨name, line, rfl, hname, hline, -, -⟩ := exists_cut inName u
  obtain ⟨e, line, rfl⟩ : ∃ e line', line = e :: line' := by
    cases line with
    | nil =>
      rw [List.append_nil, List.all_eq_false] at hbare
      obtain ⟨c, hc, hne⟩ := hbare
      exact absurd (hname c hc) hne
    | cons e line => exact ⟨e, line, rfl⟩
  have he : inName e = false := hline e line rfl
  have hfirst : Stops isspace (name ++ [e]) := by
    cases name with
    | nil => exact stops_cons.2 (hu _ _ rfl)
    | cons c name => exact stops_cons.2 (hu _ _ rfl)
  obtain ⟨sep, v, rfl, hsep, hv, -, -⟩ := exists_cut inSep line
  obtain ⟨value, trail, rfl, hvalue, htrail, -, -⟩ := exists_cut (fun c => !isspace c) v
  simp only [List.mem_append, List.mem_cons, not_or] at hnul
  obtain ⟨-, hnulName, -, -, hnulValue, hnulTrail⟩ := hnul
  have hin : ∀ c ∈ value, inVal c = true := fun c hc => by
    have hne : c ≠ NUL := fun h => hnulValue (h ▸ hc)
    have := hvalue c hc
    simp_all [inVal]
  have hmiddle (rest : List Char) : Stops inSep (value ++ (trail ++ NUL :: rest)) := by
    rw [← List.append_assoc]
    cases hvt : value ++ trail with
    | nil => exact stops_cons.2 (by decide)
    | cons c w => exact stops_cons.2 (hv c w hvt)
  have htail (rest : List Char) : Stops inVal (trail ++ NUL :: rest) := by
    cases trail with
    | nil => exact stops_cons.2 (by decide)
    | cons c w =>
      have := htrail c w rfl
      exact stops_cons.2 (by simp_all [inVal])
  have hsplit (rest : List Char) := splitItem_of_parts hlead hfirst hname he hsep (hmiddle rest) hin
    (htail rest)
  have hform (htrail' : ∀ c ∈ trail, isspace c = true) (hne : value ≠ []) :
      ItemForm (lead ++ (name ++ e :: (sep ++ (value ++ trail)))) name value := by
    refine ⟨lead, e :: sep, trail, by simp, hlead, hname, by simp, fun c hc => ?_, hne,
      by simpa using hvalue, htrail'⟩
    obtain rfl | hc := List.mem_cons.1 hc
    · revert he
      unfold inName inSep
      cases isspace c <;> simp
    · exact hsep c hc
  have hmem (rest : List Char) : lead ++ (name ++ e :: (sep ++ (value ++ trail))) ++ NUL :: rest =
      lead ++ (name ++ e :: (sep ++ (value ++ (trail ++ NUL :: rest)))) := by simp
  simp only [untilNul_eq hnulName] at hsplit
  cases trail with
  | nil =>
    refine .inl ⟨name, value, lead ++ name ++ NUL :: (sep ++ value), ?_, hform (by simp),
      fun rest => ?_⟩
    · simp only [List.length_append, List.length_cons, List.length_nil]
      omega
    · rw [hmem, hsplit, List.nil_append, splitTrail, if_pos rfl]
  | cons s trail =>
    have hs : isspace s = true := by simpa using htrail s trail rfl
    have hsnul : s ≠ NUL := by
      rintro rfl
      revert hs
      decide
    obtain ⟨spaces, bogus, rfl, hspaces, hbogus, -, -⟩ := exists_cut isspace trail
    cases bogus with
    | nil =>
      refine .inl ⟨name, value, lead ++ name ++ NUL :: (sep ++ value ++ NUL :: spaces), ?_,
        hform (by simpa [hs] using hspaces), fun rest => ?_⟩
      · simp only [List.length_append, List.length_cons, List.length_nil]
        omega
      · have hdrop : (spaces ++ [] ++ NUL :: rest).dropWhile isspace = NUL :: rest := by
          rw [List.append_nil]
          exact dropWhile_of_stops hspaces (stops_cons.2 (by decide))
        rw [hmem, hsplit, List.cons_append, splitTrail, if_neg hsnul, hdrop]
        dsimp only
        rw [if_pos rfl]
        simp
    | cons d bogus =>
      have hd : isspace d = false := hbogus d bogus rfl
      have hdnul : d ≠ NUL := by
        rintro rfl
        simp at hnulTrail
      refine .inr ⟨some ("\"" ++ String.ofList name ++ "\" value can not contain white-space."),
        fun rest => ?_⟩
      have hdrop : (spaces ++ d :: bogus ++ NUL :: rest).dropWhile isspace =
          d :: (bogus ++ NUL :: rest) := by
        rw [List.append_assoc]
        exact dropWhile_of_stops hspaces (stops_cons.2 hd)
      rw [hmem, hsplit, List.cons_append, splitTrail, if_neg hsnul, hdrop]
      dsimp only
      rw [if_neg hdnul]

/-! ## Pairs -/

/-- A class cannot have the empty name. -/
def Named (policy : Policy) : Prop := ∀ n ∈ policy.nodes, n.nodename ≠ ""

theorem LimitWords.cname_ne {lib : I2Util} {text items : List Char} {cname : String}
    (h : LimitWords lib text cname.toList items) : cname ≠ "" := by
  obtain ⟨line, word, ⟨before, rest, -, -, hne, -⟩, -⟩ := h
  rintro rfl
  exact hne rfl

theorem Named.line {lib : I2Util} {policy policy' : Policy} {line : String} (h : Named policy)
    (hline : parselimitline lib maxlim policy line = .ok policy') : Named policy' := by
  obtain ⟨cname, st, hparse, -, -, hstore⟩ := parselimitline_cases hline
  obtain ⟨items, hheader, -⟩ := parseLine_ok hparse
  have hcname := (parseHeader_words hheader).cname_ne
  intro n hn
  obtain ⟨p, -, -, rfl⟩ | ⟨-, -, rfl⟩ := hstore
  · obtain hn | hn := List.mem_append.1 hn
    · exact h n hn
    · rw [List.mem_singleton.1 hn]
      exact hcname
  · obtain hn | hn := List.mem_append.1 hn
    · exact h n hn
    · rw [List.mem_singleton.1 hn]
      exact hcname

theorem parselimitlines_named {lib : I2Util} (lines : List String) : ∀ {policy policy' : Policy},
    Named policy → parselimitlines lib policy lines = .ok policy' → Named policy' := by
  induction lines with
  | nil =>
    intro policy policy' h hlines
    cases hlines
    exact h
  | cons line lines ih =>
    intro policy policy' h hlines
    simp only [parselimitlines] at hlines
    split at hlines
    · cases hlines
    · rename_i hline
      exact ih (h.line hline) hlines

theorem PolicyBuilt.fetch_empty {lib : I2Util} {policy : Policy} (h : PolicyBuilt lib policy) :
    policy.fetch "" = none := by
  obtain ⟨lines, hlines⟩ := h
  have hnamed := parselimitlines_named lines (fun n hn => (List.not_mem_nil hn).elim) hlines
  unfold Policy.fetch
  rw [List.find?_eq_none]
  intro n hn
  simpa using hnamed n hn

section Pairs

variable {lib : I2Util} {policy : Policy} {st st' : LineState} {name value : List Char}

/-- **A pair that is accepted** names the parent or declares one record. -/
theorem declare_cases (h : declare lib policy st name value = .ok st') :
    (isParentPair (name, value) = true ∧ st.parent = none ∧
      ∃ p, policy.fetch (String.ofList value) = some p ∧ st' = { st with parent := some p }) ∨
    (isParentPair (name, value) = false ∧
      ∃ l, declaredLim lib (name, value) = some l ∧
        st' = { st with limtemp := st.limtemp ++ [l] }) := by
  unfold declare at h
  split at h
  · rename_i hparent
    split at h
    · cases h
    split at h
    · cases h
    rename_i hfirst
    split at h
    · cases h
    · rename_i p hp
      cases h
      exact .inl ⟨hparent, by simpa using hfirst, p, hp, rfl⟩
  · rename_i hparent
    split at h
    · cases h
    rename_i k hk
    split at h
    · cases h
    split at h
    · cases h
    rename_i v hv
    cases h
    have hlimit : isParentPair (name, value) = false := by
      unfold isParentPair
      exact Bool.eq_false_iff.2 hparent
    refine .inr ⟨hlimit, ⟨k.limit, v⟩, ?_, rfl⟩
    unfold declaredLim
    rw [hk]
    dsimp only
    rw [hv]
    rfl

/-- An accepted pair has a value, if the empty text is no number and no class. -/
theorem declare_value_ne (hempty : lib.strToNum "" = none) (hfetch : policy.fetch "" = none)
    (h : declare lib policy st name value = .ok st') : value ≠ [] := by
  rintro rfl
  obtain ⟨-, -, p, hp, -⟩ | ⟨-, l, hl, -⟩ := declare_cases h
  · rw [show String.ofList [] = "" from rfl, hfetch] at hp
    cases hp
  · unfold declaredLim at hl
    split at hl
    · cases hl
    rename_i k hk
    have hkind := List.find?_some hk
    rw [Bool.and_eq_true] at hkind
    have hnone : parseLimval lib k.ltype name [] =
        .error (some ("Invalid value specified for \"" ++ String.ofList name ++ "\".")) := by
      unfold parseLimval
      cases hlt : k.ltype with
      | limInt => rw [show String.ofList [] = "" from rfl, hempty]
      | limFixedInt => rw [show String.ofList [] = "" from rfl, hempty]
      | limBool => rfl
      | limNot => simp [hlt] at hkind
    rw [hnone] at hl
    cases hl

/-- What pairs add to the records and the parent read so far. -/
structure DeclaresAfter (lib : I2Util) (policy : Policy) (st : LineState)
    (pairs : List (List Char × List Char)) (st' : LineState) : Prop where
  limits : st.limtemp.map some ++ (pairs.filter fun p => !isParentPair p).map (declaredLim lib) =
    st'.limtemp.map some
  parent : st.parent.toList.map some ++
    (pairs.filter isParentPair).map (fun p => policy.fetch (String.ofList p.2)) =
      st'.parent.toList.map some

/-- Every item has its pair. -/
theorem exists_form {items : List (List Char)} {pairs : List (List Char × List Char)}
    (h : List.Forall₂ (fun item p => ItemForm item p.1 p.2) items pairs) {item : List Char}
    (hitem : item ∈ items) : ∃ name value, ItemForm item name value := by
  induction h with
  | nil => cases hitem
  | cons hform _ ih =>
    obtain rfl | hitem := List.mem_cons.1 hitem
    · exact ⟨_, _, hform⟩
    · exact ih hitem

theorem DeclaresAfter.nil (st : LineState) : DeclaresAfter lib policy st [] st :=
  ⟨by simp, by simp⟩

theorem DeclaresAfter.cons {st₁ : LineState} {pairs : List (List Char × List Char)}
    (hfirst : declare lib policy st name value = .ok st₁)
    (h : DeclaresAfter lib policy st₁ pairs st') :
    DeclaresAfter lib policy st ((name, value) :: pairs) st' := by
  obtain ⟨hparent, hnone, p, hp, rfl⟩ | ⟨hlimit, l, hl, rfl⟩ := declare_cases hfirst
  · refine ⟨?_, ?_⟩
    · rw [← h.limits]
      simp [hparent]
    · rw [← h.parent]
      simp [hparent, hnone, hp]
  · refine ⟨?_, ?_⟩
    · rw [← h.limits]
      simp [hlimit, hl]
    · rw [← h.parent]
      simp [hlimit]

/-- **The loop over the items** reads the pairs that stand there. -/
theorem parseItems_items (hempty : lib.strToNum "" = none) (hfetch : policy.fetch "" = none)
    (behind : List Char) (fuel : Nat) : ∀ {items : List Char} {st : LineState}, NUL ∉ items →
    items.length < fuel → (∀ item ∈ limitItems items, bareItem item = false) →
    parseItems lib maxlim policy fuel st (items ++ NUL :: behind) = .ok st' →
    ∃ pairs, List.Forall₂ (fun item p => ItemForm item p.1 p.2) (limitItems items) pairs ∧
      DeclaresAfter lib policy st pairs st' := by
  induction fuel with
  | zero =>
    intro items st _ hlt
    omega
  | succ fuel ih =>
    intro items st hnul hlt hbare h
    rw [parseItems] at h
    obtain ⟨hnone, hnext⟩ | ⟨item, rest, hitems, hnulItem, hnulRest, hshort, mem, ahead, hnext,
      hdrop⟩ := nextItem_cases hnul behind
    · rw [hnext] at h
      cases h
      rw [hnone]
      exact ⟨[], .nil, .nil _⟩
    · rw [hnext] at h
      rw [hitems] at hbare ⊢
      dsimp only at h
      split at h
      · cases h
      rename_i st₁ mem₁ hitem
      obtain ⟨name, value, hsplit, hdeclare⟩ := parseItem_ok hitem
      obtain ⟨name', value', item', hlen, hform, hread⟩ | ⟨e, hread⟩ :=
        splitItem_item hnulItem (hbare item List.mem_cons_self)
      · rw [hread] at hsplit
        cases hsplit
        rw [hdrop item' hlen] at h
        obtain ⟨pairs, hpairs, hdeclares⟩ := ih hnulRest (by omega)
          (fun x hx => hbare x (List.mem_cons_of_mem _ hx)) h
        exact ⟨(name, value) :: pairs,
          .cons (hform (declare_value_ne hempty hfetch hdeclare)) hpairs,
          .cons hdeclare hdeclares⟩
      · rw [hread] at hsplit
        cases hsplit

end Pairs

/-! ## Lines -/

/-- The items of a line, behind its two words. -/
def lineItems (lib : I2Util) (text : List Char) : List (List Char) :=
  match strtok lib.wspaceset text with
  | none => []
  | some (_, line) =>
    match strtok lib.wspaceset line with
    | none => []
    | some (_, items) => limitItems items

theorem LimitWords.items {lib : I2Util} {text cname items : List Char}
    (h : LimitWords lib text cname items) : lineItems lib text = limitItems items := by
  obtain ⟨line, word, hname, hword, -⟩ := h
  unfold lineItems
  rw [isToken_iff.1 hname]
  dsimp only
  rw [isToken_iff.1 hword]

theorem IsToken.rest_subset {delim : Char → Bool} {s t r : List Char} (h : IsToken delim s t r) :
    ∀ c ∈ r, c ∈ s := by
  obtain ⟨before, rest, rfl, -, -, -, hrest⟩ := h
  intro c hc
  obtain ⟨-, rfl⟩ | ⟨d, -, rfl⟩ := hrest
  · cases hc
  · simp [hc]

theorem mem_intercalate {α : Type} (sep : List α) {x : List α} {xs : List (List α)} (hx : x ∈ xs) :
    ∀ c ∈ x, c ∈ sep.intercalate xs := by
  induction xs with
  | nil => cases hx
  | cons y ys ih =>
    intro c hc
    cases ys with
    | nil =>
      obtain rfl := List.mem_singleton.1 hx
      rwa [List.intercalate_singleton]
    | cons z zs =>
      rw [List.intercalate_cons_cons, List.mem_append, List.mem_append]
      obtain rfl | hx := List.mem_cons.1 hx
      · exact .inl (.inl hc)
      · exact .inr (ih hx c hc)

/-- The characters of an item are characters of the line. -/
theorem mem_lineItems {lib : I2Util} {text item : List Char} (h : item ∈ lineItems lib text) :
    ∀ c ∈ item, c ∈ text := by
  unfold lineItems at h
  split at h
  · cases h
  rename_i line hname
  split at h
  · cases h
  rename_i items hword
  intro c hc
  have hpiece := mem_intercalate [','] (List.mem_filter.1 h).1 c hc
  rw [List.intercalate_splitOn] at hpiece
  exact (isToken_iff.2 hname).rest_subset c ((isToken_iff.2 hword).rest_subset c hpiece)

/-- The class a line stores: with a parent its records are completed and clamped. -/
def lineNode (cname : String) (st : LineState) : PolicyNode :=
  match st.parent with
  | some p => .child cname p (inheritLims p.limits st.limtemp)
  | none => .root cname st.limtemp

/-- A line that is accepted, if no item is a bare word. -/
theorem parselimitline_items {lib : I2Util} (hempty : lib.strToNum "" = none)
    {policy policy' : Policy} (hbuilt : PolicyBuilt lib policy) {text : String}
    (hnul : NUL ∉ text.toList) (hbare : ∀ item ∈ lineItems lib text.toList, bareItem item = false)
    (h : parselimitline lib maxlim policy text = .ok policy') :
    ∃ cname items pairs st, LimitWords lib text.toList cname.toList items ∧
      List.Forall₂ (fun item p => ItemForm item p.1 p.2) (limitItems items) pairs ∧
      Declares lib policy pairs st ∧ policy' = policy.store (lineNode cname st) := by
  obtain ⟨cname, st, hparse, -, -, hstore⟩ := parselimitline_cases h
  obtain ⟨items, hheader, hitems⟩ := parseLine_ok hparse
  have hwords := parseHeader_words hheader
  have hnul' : NUL ∉ items := by
    obtain ⟨line, word, hname, hword, -⟩ := hwords
    exact fun hin => hnul (hname.rest_subset _ (hword.rest_subset _ hin))
  rw [hwords.items] at hbare
  obtain ⟨pairs, hpairs, hdeclares⟩ := parseItems_items hempty hbuilt.fetch_empty _ _ hnul'
    (by simp only [List.length_append, List.length_cons]; omega) hbare hitems
  refine ⟨cname, items, pairs, st, hwords, hpairs, ?_, ?_⟩
  · exact ⟨by simpa [LineState.start] using hdeclares.limits,
      by simpa [LineState.start] using hdeclares.parent⟩
  · unfold lineNode
    obtain ⟨p, -, hp, rfl⟩ | ⟨hp, -, rfl⟩ := hstore
    · rw [hp]
    · rw [hp]

/-- **The grammar of a limit line.**  If every item has a separator behind its first word, an
accepted line is a class name, the word `with` and items that are a name, a separator of white space
and `=`, and a value, and the records before the clamping are those of the items; and a line with an
item without a value is refused.  An item with a separator is read without a look at what stands
behind it. -/
theorem limit_line_grammar {lib : I2Util} (hempty : lib.strToNum "" = none) {policy : Policy}
    (hbuilt : PolicyBuilt lib policy) (text : String) (hnul : NUL ∉ text.toList) :
    ((∀ item ∈ lineItems lib text.toList, bareItem item = false) →
      (∀ policy', parselimitline lib maxlim policy text = .ok policy' →
        ∃ cname items pairs st, LimitWords lib text.toList cname.toList items ∧
          List.Forall₂ (fun item p => ItemForm item p.1 p.2) (limitItems items) pairs ∧
          Declares lib policy pairs st ∧ policy' = policy.store (lineNode cname st)) ∧
      ∀ item ∈ lineItems lib text.toList, (∀ name value, ¬ ItemForm item name value) →
        ∀ policy', parselimitline lib maxlim policy text ≠ .ok policy') ∧
    ∀ item ∈ lineItems lib text.toList, bareItem item = false →
      (∃ name value item', item'.length = item.length ∧
        ∀ rest, splitItem (item ++ NUL :: rest) = .ok (name, value, item' ++ NUL :: rest)) ∨
      ∃ e, ∀ rest, splitItem (item ++ NUL :: rest) = .error e := by
  refine ⟨fun hbare => ?_, fun item hitem hbare => ?_⟩
  · refine ⟨fun policy' h => parselimitline_items hempty hbuilt hnul hbare h,
      fun item hitem hform policy' h => ?_⟩
    obtain ⟨cname, items, pairs, st, hwords, hpairs, -⟩ :=
      parselimitline_items hempty hbuilt hnul hbare h
    rw [hwords.items] at hitem
    obtain ⟨name, value, hpair⟩ := exists_form hpairs hitem
    exact hform name value hpair
  · obtain ⟨name, value, item', hlen, -, hread⟩ | hread :=
      splitItem_item (fun hin => hnul (mem_lineItems hitem _ hin)) hbare
    · exact .inl ⟨name, value, item', hlen, hread⟩
    · exact .inr hread

theorem limit_line_grammar_root :
    (∃ cname items pairs st,
      LimitWords plainI2Util "root with bandwidth = 900, allow_udp on".toList cname.toList items ∧
      List.Forall₂ (fun item p => ItemForm item p.1 p.2) (limitItems items) pairs ∧
      Declares plainI2Util .empty pairs st ∧
      ⟨[.root "root" [⟨1, 900⟩, ⟨7, 1⟩]]⟩ = Policy.empty.store (lineNode cname st)) ∧
    ∀ item ∈ lineItems plainI2Util "root with bandwidth = 900, allow_udp on".toList,
      ∃ name value, ItemForm item name value := by
  have hempty : plainI2Util.strToNum "" = none := rfl
  have hgrammar := limit_line_grammar hempty ⟨[], rfl⟩ "root with bandwidth = 900, allow_udp on"
    (by decide)
  have hbare : ∀ item ∈ lineItems plainI2Util "root with bandwidth = 900, allow_udp on".toList,
      bareItem item = false := by
    decide +kernel
  have haccepted : parselimitline plainI2Util maxlim .empty
      "root with bandwidth = 900, allow_udp on" = .ok ⟨[.root "root" [⟨1, 900⟩, ⟨7, 1⟩]]⟩ := by
    decide +kernel
  refine ⟨(hgrammar.1 hbare).1 _ haccepted, fun item hitem => ?_⟩
  by_contra hform
  push Not at hform
  exact (hgrammar.1 hbare).2 item hitem hform _ haccepted

/-- White space alone separates a name from its value. -/
theorem space_separated_accepted :
    ¬ ∀ (text : String) (policy' : Policy),
      parselimitline plainI2Util maxlim .empty text = .ok policy' →
      ∀ item ∈ lineItems plainI2Util text.toList, '=' ∈ item := by
  intro h
  have hitem := h "root with bandwidth 100" ⟨[.root "root" [⟨1, 100⟩]]⟩ (by decide +kernel)
    "bandwidth 100".toList (by decide +kernel)
  revert hitem
  decide

/-- The name of a bare word ends behind its item, in the next one. -/
example : parselimitline plainI2Util maxlim .empty "root with allow_tcp, on" =
    .ok ⟨[.root "root" [⟨6, 1⟩]]⟩ := by
  decide +kernel

end Bwctl
