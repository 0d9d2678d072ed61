import Bwctl.Policy.Limits

/-!
# Parsing `limit` lines (`parselimitline`)

A `limit` line is `classname with key=value, key=value, ...`.  The parser reads the pairs
into `limtemp`, then copies every limit of the parent that the line does not override and
clamps the integer limits it does override.  The line is cut up in place, so the loops over the
pairs work on the memory of the line buffer, the line and what an earlier one left behind it.
`I2StrToNum`, the white-space set of the `I2util` library and the rest of the buffer are parameters.

* `splitItem` — the loops that cut one pair, which may leave the pair.
* `parselimitline` — one line against the classes defined so far.
* `PolicyBuilt` — the policies some sequence of accepted lines leads to.
* `parseItems_fuel` — the loop over the pairs ends by itself.
* `parselimitline_cases` — everything an accepted line can do.
-/

set_option autoImplicit false

namespace Bwctl

/-- What the parser uses of `I2util`: the set `I2WSPACESET`, `I2StrToNum`, and the buffer of
    `I2GetConfLine`: what stands `behind` the NUL of the line that comes after so many classes. -/
structure I2Util where
  wspaceset : Char → Bool
  strToNum : String → Option BWLDLimitT
  behind : Nat → List Char

def NUL : Char := '\x00'

/-- `isspace` in the C locale. -/
def isspace (c : Char) : Bool :=
  c == ' ' || c == '\t' || c == '\n' || c == '\x0b' || c == '\x0c' || c == '\r'

/-- One call of `strtok`: the token and the text after its delimiter. -/
def strtok (delim : Char → Bool) (s : List Char) : Option (List Char × List Char) :=
  match s.dropWhile delim with
  | [] => none
  | t => some (t.takeWhile (fun c => !delim c), (t.dropWhile (fun c => !delim c)).drop 1)

/-- `strncasecmp` over the terminating NUL as well. -/
def eqIgnoreCase (s t : List Char) : Bool := s.map Char.toLower == t.map Char.toLower

/-- The message logged for a refused line, `none` when the parser returns silently. -/
abbrev Refusal := Option String

/-- The C string at the front of the memory. -/
def untilNul (mem : List Char) : List Char := mem.takeWhile (fun c => c != NUL)

/-- `strtok(NULL, ",")` on the memory from where the last call stopped: the memory from the token
    on, with the delimiter overwritten, and how far ahead of it the next call starts. -/
def nextItem (mem : List Char) : Option (List Char × Nat) :=
  let mem := mem.dropWhile (fun c => c == ',')
  let inItem := fun c => c != ',' && c != NUL
  let item := mem.takeWhile inItem
  match mem.dropWhile inItem with
  | [] => none
  | c :: rest =>
    if c = ',' then some (item ++ NUL :: rest, item.length + 1)
    else if item.isEmpty then none
    else some (mem, item.length)

def inName (c : Char) : Bool := !isspace c && c != '='

def inSep (c : Char) : Bool := isspace c || c == '='

def inVal (c : Char) : Bool := !isspace c && c != NUL

/-- "Look for bogus trailing stuff...": what stands behind the value in memory, and `before` what
    stands in front of that. -/
def splitTrail (before limname limval tail : List Char) :
    Except Refusal (List Char × List Char × List Char) :=
  match tail with
  | [] => .error none
  | c :: rest =>
    if c = NUL then .ok (limname, limval, before ++ NUL :: rest)
    else
      match rest.dropWhile isspace with
      | [] => .error none
      | d :: _ =>
        if d = NUL then .ok (limname, limval, before ++ NUL :: rest)
        else .error (some
          ("\"" ++ String.ofList limname ++ "\" value can not contain white-space."))

/-- The loops that cut one `key=value` pair: the name, the value and the memory they leave.  The
    loop over the name looks for white space or `=` only, so it runs over the NUL of a pair that
    has neither; no policy comes out of memory behind the buffer. -/
def splitItem (mem : List Char) : Except Refusal (List Char × List Char × List Char) :=
  let lead := mem.takeWhile isspace
  let s := mem.dropWhile isspace
  let name := s.takeWhile inName
  match s.dropWhile inName with
  | [] => .error none
  | _ :: line =>
    let sep := line.takeWhile inSep
    let v := line.dropWhile inSep
    let limval := v.takeWhile inVal
    splitTrail (lead ++ name ++ NUL :: (sep ++ limval)) (untilNul name) limval (v.dropWhile inVal)

/-- `BWLDPolicyRec`: the classes in the order of their lines; the first one is the root. -/
structure Policy where
  nodes : List PolicyNode
  deriving DecidableEq

namespace Policy

def empty : Policy := ⟨[]⟩

/-- `I2HashFetch(policy->limits, ...)`. -/
def fetch (policy : Policy) (name : String) : Option PolicyNode :=
  policy.nodes.find? (fun n => n.nodename == name)

def root? (policy : Policy) : Option PolicyNode := policy.nodes.head?

def store (policy : Policy) (node : PolicyNode) : Policy := ⟨policy.nodes ++ [node]⟩

end Policy

/-- `tnode.parent` and `limtemp` while a line is read. -/
structure LineState where
  parent : Option PolicyNode
  limtemp : List LimRec
  deriving DecidableEq

def LineState.start : LineState := ⟨none, []⟩

/-- The `LIMINT` / `LIMFIXEDINT` / `LIMBOOL` switch. -/
def parseLimval (lib : I2Util) (ltype : LimType) (limname limval : List Char) :
    Except Refusal BWLDLimitT :=
  match ltype with
  | .limInt | .limFixedInt =>
    match lib.strToNum (String.ofList limval) with
    | some v => .ok v
    | none => .error (some ("Invalid value specified for \"" ++ String.ofList limname ++ "\"."))
  | .limBool =>
    if eqIgnoreCase limval "on".toList then .ok 1
    else if eqIgnoreCase limval "off".toList then .ok 0
    else .error (some ("Invalid value specified for \"" ++ String.ofList limname ++ "\"."))
  | .limNot => .ok 0

/-- A pair that was cut, taken into `tnode.parent` or `limtemp`. -/
def declare (lib : I2Util) (policy : Policy) (st : LineState) (limname limval : List Char) :
    Except Refusal LineState :=
  if eqIgnoreCase limname "parent".toList then
    if policy.root?.isNone then .error (some "\"parent\" specified for root node.")
    else if st.parent.isSome then .error (some "multiple parents specified.")
    else
      match policy.fetch (String.ofList limval) with
      | none => .error (some ("parent \"" ++ String.ofList limval ++ "\" undefined"))
      | some p => .ok { st with parent := some p }
  else
    match limkeys.find? (fun k => k.ltype != .limNot && eqIgnoreCase limname k.lname.toList) with
    | none => .error (some ("Unknown limit name \"" ++ String.ofList limname ++ "\"."))
    | some k =>
      if st.limtemp.any (fun l => l.limit == k.limit) then
        .error (some ("multiple " ++ String.ofList limname ++ " values specified."))
      else
        match parseLimval lib k.ltype limname limval with
        | .error e => .error e
        | .ok v => .ok { st with limtemp := st.limtemp ++ [⟨k.limit, v⟩] }

/-- The body of the loop over the `key=value` pairs, with the memory it leaves. -/
def parseItem (lib : I2Util) (maxlim : Nat) (policy : Policy) (st : LineState) (mem : List Char) :
    Except Refusal (LineState × List Char) :=
  if st.limtemp.length ≥ maxlim then .error (some "Too many limit declarations") else
  match splitItem mem with
  | .error e => .error e
  | .ok (limname, limval, mem) =>
    match declare lib policy st limname limval with
    | .error e => .error e
    | .ok st => .ok (st, mem)

/-- The loop over the pairs of a line; `fuel` bounds the number of commas. -/
def parseItems (lib : I2Util) (maxlim : Nat) (policy : Policy) :
    Nat → LineState → List Char → Except Refusal LineState
  | 0, st, _ => .ok st
  | fuel + 1, st, mem =>
    match nextItem mem with
    | none => .ok st
    | some (mem, ahead) =>
      match parseItem lib maxlim policy st mem with
      | .error e => .error e
      | .ok (st', mem) => parseItems lib maxlim policy fuel st' (mem.drop ahead)

/-- "For integer limits, only allowed to override with smaller values": the value an override
    keeps, given the record of the parent. -/
def overrideValue (p : LimRec) (value : BWLDLimitT) : BWLDLimitT :=
  if limKind p.limit ≠ .limFixedInt ∧ limKind p.limit ≠ .limInt then value
  else if p.value = 0 then value
  else if p.value ≥ value then value
  else p.value

/-- The `override:` branch: the first record of the same limit is clamped. -/
def overrideLim (p : LimRec) : List LimRec → Option (List LimRec)
  | [] => none
  | l :: ls =>
    if p.limit = l.limit then some ({ l with value := overrideValue p l.value } :: ls)
    else (overrideLim p ls).map (l :: ·)

/-- One round of the loop over the records of the parent. -/
def inheritLim (limtemp : List LimRec) (p : LimRec) : List LimRec :=
  match overrideLim p limtemp with
  | some limtemp' => limtemp'
  | none => limtemp ++ [p]

/-- "Now copy the parent parameters that were not overridden." -/
def inheritLims (parent limtemp : List LimRec) : List LimRec := parent.foldl inheritLim limtemp

/-- `parselimitline`, up to the pairs: the class name and the pairs of a line. -/
def parseHeader (lib : I2Util) (policy : Policy) (line : String) :
    Except Refusal (String × List Char) :=
  match strtok lib.wspaceset line.toList with
  | none => .error none
  | some (cname, line) =>
    if cname.length > BWLDMAXCLASSLEN then
      .error (some ("classname \"" ++ String.ofList cname ++ "\" too long - max length = 80"))
    else if (policy.fetch (String.ofList cname)).isSome then
      .error (some ("classname \"" ++ String.ofList cname ++ "\" duplicated"))
    else
      match strtok lib.wspaceset line with
      | none => .error none
      | some (w, line) =>
        if eqIgnoreCase w "with".toList then .ok (String.ofList cname, line) else .error none

/-- `parselimitline`, up to the end of the loop over the pairs: the class name, the parent and
    the limits the line itself declares. -/
def parseLine (lib : I2Util) (maxlim : Nat) (policy : Policy) (line : String) :
    Except Refusal (String × LineState) :=
  match parseHeader lib policy line with
  | .error e => .error e
  | .ok (cname, items) =>
    let mem := items ++ NUL :: lib.behind policy.nodes.length
    match parseItems lib maxlim policy mem.length LineState.start mem with
    | .error e => .error e
    | .ok st => .ok (cname, st)

/-- `parselimitline`. -/
def parselimitline (lib : I2Util) (maxlim : Nat) (policy : Policy) (line : String) :
    Except Refusal Policy :=
  match parseLine lib maxlim policy line with
  | .error e => .error e
  | .ok (cname, st) =>
    match st.parent with
    | some p => .ok (policy.store (.child cname p (inheritLims p.limits st.limtemp)))
    | none =>
      if policy.root?.isSome then
        .error (some "\"parent\" must be specified for non-root node")
      else .ok (policy.store (.root cname st.limtemp))

/-- `maxlim` as `parselimits` counts it. -/
def maxlim : Nat := (limkeys.filter (fun k => k.ltype != .limNot)).length

/-- The `limit` lines of a file, in order; the first refused line ends the parse. -/
def parselimitlines (lib : I2Util) (policy : Policy) : List String → Except Refusal Policy
  | [] => .ok policy
  | line :: lines =>
    match parselimitline lib maxlim policy line with
    | .error e => .error e
    | .ok policy' => parselimitlines lib policy' lines

/-- The policies a sequence of accepted `limit` lines leads to. -/
def PolicyBuilt (lib : I2Util) (policy : Policy) : Prop :=
  ∃ lines, parselimitlines lib Policy.empty lines = .ok policy

/-! ## What one line can do -/

theorem splitTrail_ok {before limname limval tail limname' limval' mem : List Char}
    (h : splitTrail before limname limval tail = .ok (limname', limval', mem)) :
    limname' = limname ∧ limval' = limval ∧ mem.length = before.length + tail.length := by
  unfold splitTrail at h
  split at h
  · cases h
  split at h
  · cases h
    simp
  split at h
  · cases h
  split at h
  · cases h
    simp
  · cases h

/-- Only characters of the memory are overwritten. -/
theorem splitItem_length {mem limname limval mem' : List Char}
    (h : splitItem mem = .ok (limname, limval, mem')) : mem'.length = mem.length := by
  have hlead := congrArg List.length (List.takeWhile_append_dropWhile (p := isspace) (l := mem))
  unfold splitItem at h
  dsimp only at h
  generalize mem.dropWhile isspace = s at h hlead
  have hname := congrArg List.length (List.takeWhile_append_dropWhile (p := inName) (l := s))
  split at h
  · cases h
  rename_i e line hs
  have hsep := congrArg List.length (List.takeWhile_append_dropWhile (p := inSep) (l := line))
  generalize line.dropWhile inSep = v at h hsep
  have hval := congrArg List.length (List.takeWhile_append_dropWhile (p := inVal) (l := v))
  have hmem := (splitTrail_ok h).2.2
  rw [hs] at hname
  simp only [List.length_append, List.length_cons] at hlead hname hsep hval hmem
  omega

/-- A token has a character, and the next call starts behind it. -/
theorem nextItem_length {mem mem' : List Char} {ahead : Nat}
    (h : nextItem mem = some (mem', ahead)) :
    mem'.length ≤ mem.length ∧ 0 < ahead ∧ 0 < mem'.length := by
  have hdrop := (List.dropWhile_suffix (l := mem) (fun c => c == ',')).length_le
  unfold nextItem at h
  dsimp only at h
  generalize mem.dropWhile (fun c => c == ',') = s at h hdrop
  have hitem := congrArg List.length
    (List.takeWhile_append_dropWhile (p := fun c => c != ',' && c != NUL) (l := s))
  split at h
  · cases h
  rename_i c rest hs
  rw [hs] at hitem
  simp only [List.length_append, List.length_cons] at hitem
  split at h
  · cases h
    simp only [List.length_append, List.length_cons]
    omega
  split at h
  · cases h
  · rename_i hne
    cases h
    have := List.length_pos_iff.2 (mt List.isEmpty_iff.2 hne)
    omega

theorem parseItem_length {lib : I2Util} {maxlim : Nat} {policy : Policy} {st st' : LineState}
    {mem mem' : List Char} (h : parseItem lib maxlim policy st mem = .ok (st', mem')) :
    mem'.length = mem.length := by
  unfold parseItem at h
  split at h
  · cases h
  split at h
  · cases h
  rename_i hsplit
  split at h
  · cases h
  · cases h
    exact splitItem_length hsplit

/-- The fuel of the loop over the pairs is never what ends it. -/
theorem parseItems_fuel (lib : I2Util) (maxlim : Nat) (policy : Policy) :
    ∀ (fuel : Nat) (st : LineState) (mem : List Char), mem.length ≤ fuel →
      parseItems lib maxlim policy fuel st mem =
        parseItems lib maxlim policy mem.length st mem := by
  suffices ∀ (n fuel : Nat) (st : LineState) (mem : List Char), mem.length ≤ n → n ≤ fuel →
      parseItems lib maxlim policy fuel st mem = parseItems lib maxlim policy n st mem from
    fun fuel st mem h => this _ fuel st mem le_rfl h
  intro n
  induction n with
  | zero =>
    intro fuel st mem hl _
    obtain rfl : mem = [] := List.eq_nil_of_length_eq_zero (by omega)
    cases fuel <;> simp [parseItems, nextItem]
  | succ n ih =>
    intro fuel st mem hl hf
    obtain ⟨fuel, rfl⟩ : ∃ k, fuel = k + 1 := ⟨fuel - 1, by omega⟩
    simp only [parseItems]
    cases hs : nextItem mem with
    | none => rfl
    | some r =>
      obtain ⟨mem₁, ahead⟩ := r
      have hnext := nextItem_length hs
      cases hi : parseItem lib maxlim policy st mem₁ with
      | error e => simp only [hi]
      | ok r =>
        obtain ⟨st', mem₂⟩ := r
        have hlen := parseItem_length hi
        simp only [hi]
        exact ih fuel st' (mem₂.drop ahead) (by rw [List.length_drop]; omega) (by omega)

/-- What a line may have declared: a defined parent, each limit once and no special limit. -/
structure LineState.Ok (policy : Policy) (st : LineState) : Prop where
  parent_mem : ∀ p, st.parent = some p → p ∈ policy.nodes
  nodup : (st.limtemp.map (·.limit)).Nodup

theorem Policy.fetch_mem {policy : Policy} {name : String} {n : PolicyNode}
    (h : policy.fetch name = some n) : n ∈ policy.nodes ∧ n.nodename = name :=
  ⟨List.mem_of_find?_eq_some h, by simpa using List.find?_some h⟩

theorem declare_ok {lib : I2Util} {policy : Policy} {st st' : LineState}
    {limname limval : List Char} (hst : st.Ok policy)
    (h : declare lib policy st limname limval = .ok st') : st'.Ok policy := by
  unfold declare at h
  split at h
  · -- `parent=`
    split at h
    · cases h
    split at h
    · cases h
    split at h
    · cases h
    · rename_i p hp
      cases h
      exact ⟨fun q hq => by cases hq; exact (Policy.fetch_mem hp).1, hst.nodup⟩
  · -- a limit of the table
    split at h
    · cases h
    rename_i k _
    split at h
    · cases h
    rename_i hfresh
    split at h
    · cases h
    · cases h
      refine ⟨hst.parent_mem, ?_⟩
      rw [List.map_append, List.nodup_append]
      refine ⟨hst.nodup, by simp, ?_⟩
      intro a ha b hb hab
      obtain ⟨l, hl, rfl⟩ := List.mem_map.1 ha
      simp only [List.map_cons, List.map_nil, List.mem_singleton] at hb
      exact hfresh (List.any_eq_true.2 ⟨l, hl, by simp [hab, hb]⟩)

theorem parseItem_ok {lib : I2Util} {maxlim : Nat} {policy : Policy} {st st' : LineState}
    {mem mem' : List Char} (h : parseItem lib maxlim policy st mem = .ok (st', mem')) :
    ∃ limname limval, splitItem mem = .ok (limname, limval, mem') ∧
      declare lib policy st limname limval = .ok st' := by
  unfold parseItem at h
  split at h
  · cases h
  split at h
  · cases h
  rename_i limname limval _ hsplit
  split at h
  · cases h
  · rename_i hdeclare
    cases h
    exact ⟨limname, limval, hsplit, hdeclare⟩

/-- What every accepted pair keeps, every accepted list of pairs keeps. -/
theorem parseItems_keeps {lib : I2Util} {maxlim : Nat} {policy : Policy} {Q : LineState → Prop}
    (hstep : ∀ st st' limname limval, Q st →
      declare lib policy st limname limval = .ok st' → Q st') :
    ∀ (fuel : Nat) {st st' : LineState} {mem : List Char}, Q st →
      parseItems lib maxlim policy fuel st mem = .ok st' → Q st'
  | 0, _, _, _, hst, h => by cases h; exact hst
  | fuel + 1, st, st', mem, hst, h => by
    simp only [parseItems] at h
    split at h
    · cases h; exact hst
    · split at h
      · cases h
      · rename_i hi
        obtain ⟨limname, limval, -, hdeclare⟩ := parseItem_ok hi
        exact parseItems_keeps hstep fuel (hstep _ _ _ _ hst hdeclare) h

theorem parseItems_ok {lib : I2Util} {maxlim : Nat} {policy : Policy} (fuel : Nat)
    {st st' : LineState} {mem : List Char} (hst : st.Ok policy)
    (h : parseItems lib maxlim policy fuel st mem = .ok st') : st'.Ok policy :=
  parseItems_keeps (fun _ _ _ _ => declare_ok) fuel hst h

theorem parseHeader_fresh {lib : I2Util} {policy : Policy} {line cname : String}
    {items : List Char} (h : parseHeader lib policy line = .ok (cname, items)) :
    policy.fetch cname = none := by
  unfold parseHeader at h
  split at h
  · cases h
  split at h
  · cases h
  split at h
  · cases h
  rename_i hdup
  split at h
  · cases h
  split at h
  · cases h
    simpa using hdup
  · cases h

theorem parseLine_ok {lib : I2Util} {maxlim : Nat} {policy : Policy} {line cname : String}
    {st : LineState} (h : parseLine lib maxlim policy line = .ok (cname, st)) :
    ∃ items, parseHeader lib policy line = .ok (cname, items) ∧
      parseItems lib maxlim policy (items ++ NUL :: lib.behind policy.nodes.length).length
        LineState.start (items ++ NUL :: lib.behind policy.nodes.length) = .ok st := by
  unfold parseLine at h
  split at h
  · cases h
  rename_i hheader
  dsimp only at h
  split at h
  · cases h
  rename_i hitems
  cases h
  exact ⟨_, hheader, hitems⟩

/-- **An accepted line** names a new class and adds exactly its node. -/
theorem parselimitline_cases {lib : I2Util} {maxlim : Nat} {policy policy' : Policy} {line : String}
    (h : parselimitline lib maxlim policy line = .ok policy') :
    ∃ cname st, parseLine lib maxlim policy line = .ok (cname, st) ∧ st.Ok policy ∧
      policy.fetch cname = none ∧
      ((∃ p ∈ policy.nodes, st.parent = some p ∧
          policy' = policy.store (.child cname p (inheritLims p.limits st.limtemp))) ∨
        (st.parent = none ∧ policy.nodes = [] ∧ policy' = policy.store (.root cname st.limtemp))) := by
  unfold parselimitline at h
  split at h
  · cases h
  rename_i cname st hline
  obtain ⟨items, hheader, hitems⟩ := parseLine_ok hline
  have hok : st.Ok policy :=
    parseItems_ok _ ⟨by simp [LineState.start], by simp [LineState.start]⟩ hitems
  refine ⟨cname, st, hline, hok, parseHeader_fresh hheader, ?_⟩
  split at h
  · rename_i p hp
    cases h
    exact Or.inl ⟨p, hok.parent_mem p hp, hp, rfl⟩
  · rename_i hp
    split at h
    · cases h
    · rename_i hroot
      cases h
      refine Or.inr ⟨hp, ?_, rfl⟩
      simpa [Policy.root?] using hroot

end Bwctl
