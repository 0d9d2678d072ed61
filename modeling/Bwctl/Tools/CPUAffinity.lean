import Mathlib.Data.List.Basic

/-!
# CPU affinity strings (`bwlib/util.c`)

`BWLParseCPUAffinityString` walks over the characters with one bit of state, `next_number`: the
case of a separator falls through into the case of a digit, which resets the bit it has just set.

* `parseCPUAffinityString_iff` — what the loop accepts: every non-empty text over its alphabet.
* `isCPUList_iff_scan` — the grammar of CPU lists, decided by an automaton with two bits.
* `cpuAffinity_exact_iff` — the loop decides the grammar but for misplaced separators.
-/

set_option autoImplicit false

namespace Bwctl

/-! ## The loop -/

/-- `retval` and `next_number`. -/
structure AffinityLoop where
  retval : Bool
  nextNumber : Bool
  deriving DecidableEq, Repr

/-- The cases `'0'` to `'9'`. -/
def AffinityLoop.digit (l : AffinityLoop) : AffinityLoop :=
  { l with nextNumber := if l.nextNumber then false else l.nextNumber }

/-- The cases `'-'` and `','`, which have no `break` of their own. -/
def AffinityLoop.separator (l : AffinityLoop) : AffinityLoop :=
  AffinityLoop.digit ⟨if l.nextNumber then false else l.retval, true⟩

def isSeparator (c : Char) : Bool := c == '-' || c == ','

def AffinityLoop.step (l : AffinityLoop) (c : Char) : AffinityLoop :=
  if isSeparator c then l.separator
  else if c.isDigit then l.digit
  else { l with retval := false }

/-- `BWLParseCPUAffinityString`. -/
def parseCPUAffinityString (cpuAffinity : List Char) : Bool :=
  (cpuAffinity.foldl AffinityLoop.step ⟨!cpuAffinity.isEmpty, false⟩).retval

/-- The alphabet of the `switch`. -/
def affinityChar (c : Char) : Bool := isSeparator c || c.isDigit

/-- No character ever finds `next_number` set. -/
theorem AffinityLoop.step_of_reset (l : AffinityLoop) (c : Char) (h : l.nextNumber = false) :
    l.step c = ⟨l.retval && affinityChar c, false⟩ := by
  unfold step separator digit affinityChar
  cases hs : isSeparator c <;> cases hd : c.isDigit <;> simp [h]

theorem AffinityLoop.foldl_step (s : List Char) (l : AffinityLoop) (h : l.nextNumber = false) :
    s.foldl step l = ⟨l.retval && s.all affinityChar, false⟩ := by
  induction s generalizing l with
  | nil =>
    cases l
    simp_all
  | cons c s ih =>
    rw [List.foldl_cons, step_of_reset l c h, ih _ rfl]
    simp [Bool.and_assoc]

/-- **The strings the loop accepts are the non-empty ones over its alphabet.** -/
theorem parseCPUAffinityString_iff (s : List Char) :
    parseCPUAffinityString s = true ↔ s ≠ [] ∧ ∀ c ∈ s, affinityChar c = true := by
  unfold parseCPUAffinityString
  rw [AffinityLoop.foldl_step s _ rfl]
  cases s <;> simp

/-! ## The grammar -/

def IsNumber (s : List Char) : Prop := s ≠ [] ∧ ∀ c ∈ s, c.isDigit = true

/-- A decimal number, or two of them joined by `-`. -/
inductive IsCPUItem : List Char → Prop
  | number {n : List Char} : IsNumber n → IsCPUItem n
  | range {a b : List Char} : IsNumber a → IsNumber b → IsCPUItem (a ++ '-' :: b)

/-- A non-empty list of items with commas between them. -/
inductive IsCPUList : List Char → Prop
  | item {i : List Char} : IsCPUItem i → IsCPUList i
  | cons {i l : List Char} : IsCPUItem i → IsCPUList l → IsCPUList (i ++ ',' :: l)

/-- The automaton of the grammar: `range` after a `-` in the item, `number` after a digit since
the last separator. -/
def scanCPUList (range number : Bool) : List Char → Bool
  | [] => number
  | c :: s =>
    if c.isDigit then scanCPUList range true s
    else if c = ',' then number && scanCPUList false false s
    else if c = '-' then number && !range && scanCPUList true false s
    else false

@[simp] theorem scanCPUList_nil (range number : Bool) : scanCPUList range number [] = number := rfl

theorem scanCPUList_digit (range number : Bool) {c : Char} (s : List Char)
    (h : c.isDigit = true) :
    scanCPUList range number (c :: s) = scanCPUList range true s := by
  simp [scanCPUList, h]

@[simp] theorem scanCPUList_comma (range number : Bool) (s : List Char) :
    scanCPUList range number (',' :: s) = (number && scanCPUList false false s) := by
  simp [scanCPUList, show Char.isDigit ',' = false by decide]

@[simp] theorem scanCPUList_dash (range number : Bool) (s : List Char) :
    scanCPUList range number ('-' :: s) = (number && !range && scanCPUList true false s) := by
  simp [scanCPUList, show Char.isDigit '-' = false by decide]

theorem isSeparator_cases {c : Char} (h : isSeparator c = true) : c = '-' ∨ c = ',' := by
  simpa [isSeparator] using h

theorem affinityChar_cases {c : Char} (h : affinityChar c = true) :
    c.isDigit = true ∨ c = '-' ∨ c = ',' := by
  unfold affinityChar at h
  rw [Bool.or_eq_true] at h
  exact h.elim (fun hs => .inr (isSeparator_cases hs)) .inl

theorem scanCPUList_digits (range : Bool) {n : List Char} (s : List Char)
    (h : ∀ c ∈ n, c.isDigit = true) :
    scanCPUList range true (n ++ s) = scanCPUList range true s := by
  induction n with
  | nil => rfl
  | cons c n ih =>
    rw [List.cons_append, scanCPUList_digit _ _ _ (h c (by simp))]
    exact ih fun x hx => h x (by simp [hx])

theorem scanCPUList_number (range number : Bool) {n : List Char} (s : List Char)
    (h : IsNumber n) : scanCPUList range number (n ++ s) = scanCPUList range true s := by
  obtain ⟨hne, hd⟩ := h
  cases n with
  | nil => exact absurd rfl hne
  | cons c n =>
    rw [List.cons_append, scanCPUList_digit _ _ _ (hd c (by simp))]
    exact scanCPUList_digits range s fun x hx => hd x (by simp [hx])

theorem IsCPUItem.scan {i : List Char} (h : IsCPUItem i) (s : List Char) :
    ∃ range, scanCPUList false false (i ++ s) = scanCPUList range true s := by
  cases h with
  | number hn => exact ⟨false, scanCPUList_number _ _ s hn⟩
  | @range a b ha hb =>
    refine ⟨true, ?_⟩
    rw [List.append_assoc, scanCPUList_number _ _ _ ha, List.cons_append, scanCPUList_dash]
    simpa using scanCPUList_number true false s hb

theorem IsCPUList.scan {s : List Char} (h : IsCPUList s) : scanCPUList false false s = true := by
  induction h with
  | @item i hi =>
    obtain ⟨range, h⟩ := hi.scan []
    simpa using h
  | @cons i l hi hl ih =>
    obtain ⟨range, h⟩ := hi.scan (',' :: l)
    rw [h, scanCPUList_comma, ih]
    rfl

/-- What the automaton has read of the item when it stands at `s`: `m`, and before it a number and
a `-` if `range` is set. -/
theorem isCPUList_of_scan (s : List Char) : ∀ (m : List Char) (number : Bool),
    (∀ c ∈ m, c.isDigit = true) → (number = true → m ≠ []) →
    (scanCPUList false number s = true → IsCPUList (m ++ s)) ∧
    (scanCPUList true number s = true → ∀ a, IsNumber a → IsCPUList (a ++ '-' :: (m ++ s))) := by
  induction s with
  | nil =>
    intro m number hm hne
    simp only [scanCPUList_nil, List.append_nil]
    exact ⟨fun h => .item (.number ⟨hne h, hm⟩),
      fun h a ha => .item (.range ha ⟨hne h, hm⟩)⟩
  | cons c s ih =>
    intro m number hm hne
    have next := (ih [] false (by simp) (by simp))
    by_cases hd : c.isDigit = true
    · have grown := ih (m ++ [c]) true
        (by simpa [or_imp, forall_and] using ⟨hm, hd⟩) (by simp)
      simpa [scanCPUList_digit _ _ _ hd] using grown
    · by_cases hc : c = ','
      · subst hc
        simp only [scanCPUList_comma, Bool.and_eq_true]
        refine ⟨fun ⟨hn, h⟩ => .cons (.number ⟨hne hn, hm⟩) (next.1 h), fun ⟨hn, h⟩ a ha => ?_⟩
        simpa using IsCPUList.cons (.range ha ⟨hne hn, hm⟩) (next.1 h)
      · by_cases hc' : c = '-'
        · subst hc'
          simp only [scanCPUList_dash, Bool.and_eq_true]
          refine ⟨fun ⟨⟨hn, _⟩, h⟩ => next.2 h m ⟨hne hn, hm⟩, fun ⟨⟨_, hr⟩, _⟩ => ?_⟩
          cases hr
        · simp [scanCPUList, hd, hc, hc']

/-- **The automaton decides the grammar.** -/
theorem isCPUList_iff_scan (s : List Char) : IsCPUList s ↔ scanCPUList false false s = true :=
  ⟨IsCPUList.scan, (isCPUList_of_scan s [] false (by simp) (by simp)).1⟩

instance (s : List Char) : Decidable (IsCPUList s) :=
  decidable_of_iff _ (isCPUList_iff_scan s).symm

/-! ## Misplaced separators -/

/-- A separator stands first, last or next to another one, or two `-` have only digits between
them. -/
inductive MisplacedSeparator : List Char → Prop
  | first {c : Char} (s : List Char) : isSeparator c = true → MisplacedSeparator (c :: s)
  | last {c : Char} (s : List Char) : isSeparator c = true → MisplacedSeparator (s ++ [c])
  | doubled {c d : Char} (s t : List Char) : isSeparator c = true → isSeparator d = true →
      MisplacedSeparator (s ++ c :: d :: t)
  | twoDashes (s : List Char) {n : List Char} (t : List Char) :
      (∀ c ∈ n, c.isDigit = true) → MisplacedSeparator (s ++ '-' :: (n ++ '-' :: t))

/-- What stops the automaton at `t` stops it wherever it started. -/
theorem scanCPUList_append (t : List Char) (h : ∀ range number, scanCPUList range number t = false)
    (s : List Char) (range number : Bool) : scanCPUList range number (s ++ t) = false := by
  induction s generalizing range number with
  | nil => exact h range number
  | cons c s ih => simp [scanCPUList, ih]

theorem scanCPUList_separator {c : Char} (hc : isSeparator c = true) (range : Bool)
    (s : List Char) : scanCPUList range false (c :: s) = false := by
  obtain rfl | rfl := isSeparator_cases hc
  · simp
  · simp

theorem scanCPUList_secondDash (number : Bool) {n : List Char} (t : List Char)
    (hn : ∀ c ∈ n, c.isDigit = true) : scanCPUList true number (n ++ '-' :: t) = false := by
  cases n with
  | nil => simp
  | cons c n =>
    rw [scanCPUList_number _ _ _ ⟨by simp, hn⟩]
    simp

theorem MisplacedSeparator.scan {s : List Char} (h : MisplacedSeparator s) :
    scanCPUList false false s = false := by
  cases h with
  | first s hc => exact scanCPUList_separator hc _ s
  | last s hc =>
    refine scanCPUList_append _ (fun range number => ?_) s _ _
    obtain rfl | rfl := isSeparator_cases hc
    · simp
    · simp
  | doubled s t hc hd =>
    refine scanCPUList_append _ (fun range number => ?_) s _ _
    obtain rfl | rfl := isSeparator_cases hc
    · simp [scanCPUList_separator hd]
    · simp [scanCPUList_separator hd]
  | twoDashes s t hn =>
    refine scanCPUList_append _ (fun range number => ?_) s _ _
    simp [scanCPUList_secondDash _ t hn]

/-- `p` is what the automaton has read: without a digit since the last separator `p` is empty or
ends with that separator, and in a range it ends with a `-` and digits. -/
theorem misplacedSeparator_of_scan (s : List Char) : ∀ (p : List Char) (range number : Bool),
    (number = false → p = [] ∨ ∃ q c, isSeparator c = true ∧ p = q ++ [c]) →
    (range = true → ∃ q n, (∀ c ∈ n, c.isDigit = true) ∧ p = q ++ '-' :: n) →
    (∀ c ∈ s, affinityChar c = true) → p ++ s ≠ [] →
    scanCPUList range number s = false → MisplacedSeparator (p ++ s) := by
  induction s with
  | nil =>
    intro p range number hnum hrange hs hne h
    obtain rfl | ⟨q, c, hc, rfl⟩ := hnum h
    · exact absurd rfl hne
    · simpa using MisplacedSeparator.last q hc
  | cons c s ih =>
    intro p range number hnum hrange hs hne h
    have hs' : ∀ x ∈ s, affinityChar x = true := fun x hx => hs x (by simp [hx])
    -- a separator where a number has to begin
    have early : isSeparator c = true → number = false → MisplacedSeparator (p ++ c :: s) := by
      intro hc hn
      obtain rfl | ⟨q, d, hd, rfl⟩ := hnum hn
      · exact .first s hc
      · simpa using MisplacedSeparator.doubled q s hd hc
    -- the rest of the text after a separator in its place
    have later : isSeparator c = true → ∀ range',
        (range' = true → c = '-') → scanCPUList range' false s = false →
        MisplacedSeparator (p ++ c :: s) := by
      intro hc range' hr' h'
      have := ih (p ++ [c]) range' false (fun _ => .inr ⟨p, c, hc, rfl⟩)
        (fun hr => ⟨p, [], by simp, by rw [hr' hr]⟩) hs' (by simp) h'
      simpa using this
    obtain hd | rfl | rfl := affinityChar_cases (hs c (by simp))
    · rw [scanCPUList_digit _ _ _ hd] at h
      have := ih (p ++ [c]) range true (by simp) ?_ hs' (by simp) h
      · simpa using this
      · intro hr
        obtain ⟨q, n, hn, rfl⟩ := hrange hr
        exact ⟨q, n ++ [c], by simpa [or_imp, forall_and] using ⟨hn, hd⟩, by simp⟩
    · cases number with
      | false => exact early (by decide) rfl
      | true =>
        cases range with
        | false => exact later (by decide) true (by simp) (by simpa using h)
        | true =>
          obtain ⟨q, n, hn, rfl⟩ := hrange rfl
          simpa using MisplacedSeparator.twoDashes q s hn
    · cases number with
      | false => exact early (by decide) rfl
      | true => exact later (by decide) false (by simp) (by simpa using h)

/-- Over the alphabet of the loop, a text outside the grammar has a misplaced separator. -/
theorem misplacedSeparator_iff {s : List Char} (hne : s ≠ [])
    (hs : ∀ c ∈ s, affinityChar c = true) : MisplacedSeparator s ↔ ¬ IsCPUList s := by
  rw [isCPUList_iff_scan, Bool.not_eq_true]
  exact ⟨MisplacedSeparator.scan,
    misplacedSeparator_of_scan s [] false false (by simp) (by simp) hs hne⟩

theorem IsCPUList.affinityChars {s : List Char} (h : IsCPUList s) :
    s ≠ [] ∧ ∀ c ∈ s, affinityChar c = true := by
  have digits {n : List Char} (hn : IsNumber n) : ∀ c ∈ n, affinityChar c = true :=
    fun c hc => by simp [affinityChar, hn.2 c hc]
  have item {i : List Char} (hi : IsCPUItem i) : i ≠ [] ∧ ∀ c ∈ i, affinityChar c = true := by
    cases hi with
    | number hn => exact ⟨hn.1, digits hn⟩
    | range ha hb =>
      exact ⟨by simp, by simpa [or_imp, forall_and] using ⟨digits ha, by decide, digits hb⟩⟩
  induction h with
  | item hi => exact item hi
  | cons hi hl ih =>
    exact ⟨by simp, by simpa [or_imp, forall_and] using ⟨(item hi).2, by decide, ih.2⟩⟩

/-- **The recogniser is exact but for misplaced separators.**  `BWLParseCPUAffinityString` agrees
with the grammar on a string unless the string is a non-empty text over digits, `-` and `,` in
which a separator stands in a wrong place. -/
theorem cpuAffinity_exact_iff (s : List Char) :
    (parseCPUAffinityString s = true ↔ IsCPUList s) ↔
      ¬ (s ≠ [] ∧ (∀ c ∈ s, affinityChar c = true) ∧ MisplacedSeparator s) := by
  rw [parseCPUAffinityString_iff]
  by_cases h : s ≠ [] ∧ ∀ c ∈ s, affinityChar c = true
  · have hm := misplacedSeparator_iff h.1 h.2
    tauto
  · have hl : ¬ IsCPUList s := fun hl => h hl.affinityChars
    tauto

/-- `1,,2` is accepted. -/
theorem cpuAffinity_doubled_comma :
    ¬ ∀ s : List Char, parseCPUAffinityString s = true ↔ IsCPUList s :=
  fun h => absurd ((h "1,,2".toList).1 (by decide)) (by decide)

end Bwctl
