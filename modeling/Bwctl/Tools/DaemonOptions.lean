import Bwctl.Tools.OptionEffects

/-!
# The configuration file of the client (`BWLDaemonParseArg`, `LoadConfig`)

Each line is offered to the tools and then compared with the names of the options that every daemon
has, but for case.  The first line that is not accepted ends the reading, and the file is refused.

* `daemonParseArg_accepted` — what a line that is accepted has done.
* `file_acceptance` — whether a file is accepted is not a matter of the order of its lines.
* `loaded_settings` — every setting has the value of its last line, and the options of the tools are
  those that the tools make of the file by themselves.
-/

set_option autoImplicit false

namespace Bwctl

/-! ## The options -/

/-- How the libraries read a value: `I2ErrLogSyslogPriority`, `I2StrToNum`, `strtod` and the test of
its result. -/
structure ValueLib (δ : Type) where
  syslogPriority : List Char → Int
  strToNum : List Char → Option UInt64
  strtod : List Char → Option δ
  negative : δ → Bool

/-- The keys of the context under which the options are stored. -/
inductive SettingKey where
  | accessPriority
  | peerPortRange
  | controlTimeout
  | bottleNeckCapacity
  | syncFuzz
  | allowUnsync
  deriving DecidableEq

inductive Setting (δ : Type) where
  | u32 (v : UInt32)
  | u64 (v : UInt64)
  | dbl (v : δ)
  | ports (prange : PortRange)
  | flag
  deriving DecidableEq

/-- The context: the table of the options of the tools, and the settings, which no line of a tool is
stored over (`settings_apart`). -/
structure DaemonConfig (δ : Type) where
  table : Config
  settings : SettingKey → Option (Setting δ)

def DaemonConfig.set {δ : Type} (d : DaemonConfig δ) (key : SettingKey) (v : Setting δ) :
    DaemonConfig δ :=
  { d with settings := Function.update d.settings key (some v) }

/-- The tests of the function, in their order. -/
inductive DaemonOption where
  | accessPriority
  | peerPort
  | testPort
  | controlTimeout
  | bottleneckCapacity
  | syncFuzz
  | allowUnsync
  deriving DecidableEq

def daemonOptions : List DaemonOption :=
  [.accessPriority, .peerPort, .testPort, .controlTimeout, .bottleneckCapacity, .syncFuzz,
   .allowUnsync]

namespace DaemonOption

def name : DaemonOption → List Char
  | accessPriority => "access_priority".toList
  | peerPort => "peer_port".toList
  | testPort => "test_port".toList
  | controlTimeout => "control_timeout".toList
  | bottleneckCapacity => "bottleneck_capacity".toList
  | syncFuzz => "sync_fuzz".toList
  | allowUnsync => "allow_unsync".toList

/-- Where the value is stored; the range for tests goes to the one for peers. -/
def key : DaemonOption → SettingKey
  | accessPriority => .accessPriority
  | peerPort => .peerPortRange
  | testPort => .peerPortRange
  | controlTimeout => .controlTimeout
  | bottleneckCapacity => .bottleNeckCapacity
  | syncFuzz => .syncFuzz
  | allowUnsync => .allowUnsync

end DaemonOption

/-- `strtoul` in base ten with its errors: nothing where no number begins or where it is out of
range. -/
def strtoulChecked (s : List Char) : Option UInt64 :=
  let signed := takeSign (s.dropWhile isspace)
  let digits := signed.2.takeWhile Char.isDigit
  if digits.isEmpty then none
  else if digitsValue digits ≥ 2 ^ 64 then none
  else some (if signed.1 then 0 - UInt64.ofNat (digitsValue digits)
    else UInt64.ofNat (digitsValue digits))

/-- The value that is stored, nothing where it is refused. -/
def DaemonOption.value {δ : Type} (lib : ValueLib δ) (random : Option UInt32) (val : List Char) :
    DaemonOption → Option (Setting δ)
  | accessPriority =>
    let prio := lib.syslogPriority val
    if prio < 0 then none else some (.u32 (UInt32.ofInt prio))
  | peerPort => (portsParse random (some val)).map .ports
  | testPort => (portsParse random (some val)).map .ports
  | controlTimeout => (strtoulChecked val).map fun tlng => .u32 tlng.toUInt32
  | bottleneckCapacity => (lib.strToNum val).map .u64
  | syncFuzz =>
    match lib.strtod val with
    | none => none
    | some tdbl => if lib.negative tdbl then none else some (.dbl tdbl)
  | allowUnsync => some .flag

section Parse

variable {δ : Type} (lib : ValueLib δ) (ctx : ToolContext)

/-- `BWLDaemonParseArg`; the comparisons go over the NUL at the end of the name. -/
def daemonParseArg (env : InitEnv) (d : DaemonConfig δ) (key val : List Char) :
    Option (Int × DaemonConfig δ) :=
  match toolParseArg ctx env d.table key val with
  | none => none
  | some (tc, table) =>
    let d := { d with table := table }
    if tc ≠ 0 then some (tc, d)
    else
      match daemonOptions.find? fun o => strncasecmp key o.name (o.name.length + 1) with
      | none => some (0, d)
      | some o =>
        match o.value lib env.random val with
        | none => some (-1, d)
        | some v => if env.memory then some (1, d.set o.key v) else some (-1, d)

/-- `LoadConfig` of the client, on the lines of the file: whether they are all accepted, and the
context. -/
def loadConfig : List ConfigLine → DaemonConfig δ → Option (Bool × DaemonConfig δ)
  | [], d => some (true, d)
  | line :: lines, d =>
    match daemonParseArg lib ctx line.env d line.key line.val with
    | none => none
    | some (dc, d) => if dc ≤ 0 then some (false, d) else loadConfig lines d

end Parse

/-! ## Names -/

theorem strncasecmp_name (key name : List Char) :
    strncasecmp key name (name.length + 1) = eqIgnoreCase key name := by
  unfold strncasecmp eqIgnoreCase
  rw [List.take_of_length_le (Nat.le_succ name.length), Bool.eq_iff_iff, beq_iff_eq, beq_iff_eq]
  by_cases hlen : key.length ≤ name.length + 1
  · rw [List.take_of_length_le hlen]
  · constructor <;> intro h <;> have hlength := congrArg List.length h <;> simp at hlength <;> omega

/-- Keys that differ in case only are taken alike. -/
theorem takenFor_ignoreCase {key key' : List Char} (h : eqIgnoreCase key key' = true)
    (tool : ToolDefinition) : tool.takenFor key = tool.takenFor key' := by
  have hlower : key.map Char.toLower = key'.map Char.toLower := beq_iff_eq.1 h
  have hlen : key.length = key'.length := by simpa using congrArg List.length hlower
  have hcmp (t : List Char) (n : Nat) : strncasecmp key t n = strncasecmp key' t n := by
    unfold strncasecmp eqIgnoreCase
    rw [List.map_take, List.map_take (l := key'), hlower]
  unfold ToolDefinition.takenFor
  simp only [hcmp, hlen]

/-- The names are different, and no tool takes one, but for the range for tests. -/
theorem daemonOptions_names : ∀ o ∈ daemonOptions, (∀ o' ∈ daemonOptions,
    eqIgnoreCase o.name o'.name = true → o = o') ∧
      (o ≠ .testPort → ∀ tool ∈ toolDefinitions, tool.takenFor o.name = none) := by
  decide +kernel

/-- No tool takes the name of a setting that is a pointer, as those of the tools are. -/
theorem settings_apart : ∀ tool ∈ toolDefinitions,
    tool.takenFor "BWLPeerPortRange".toList = none ∧ tool.takenFor "BWLAllowUnsync".toList = none := by
  decide +kernel

theorem mem_daemonOptions (o : DaemonOption) : o ∈ daemonOptions := by cases o <;> decide

/-- Every tool takes the range for tests. -/
theorem takenFor_testPort {key : List Char} (h : eqIgnoreCase key DaemonOption.testPort.name = true)
    (tool : ToolDefinition) : tool.takenFor key ≠ none := by
  rw [takenFor_ignoreCase h]
  unfold ToolDefinition.takenFor
  split
  · exact Option.some_ne_none _
  · rw [Ne, Option.map_eq_none_iff, List.find?_eq_none]
    intro hnone
    have hlast := hnone ("test_port".toList, .ports) (by simp [confkeys])
    exact hlast (by decide)

/-! ## One line -/

section Line

variable {δ : Type} {lib : ValueLib δ} {ctx : ToolContext} {env : InitEnv} {d d' : DaemonConfig δ}
  {key val : List Char} {a : OptionAction} {o : DaemonOption}

theorem find_daemonOption (h : eqIgnoreCase key o.name = true) :
    (daemonOptions.find? fun o => strncasecmp key o.name (o.name.length + 1)) = some o := by
  simp only [strncasecmp_name]
  cases hfind : daemonOptions.find? fun o => eqIgnoreCase key o.name with
  | none => exact absurd h (List.find?_eq_none.1 hfind o (mem_daemonOptions o))
  | some o' =>
    have hkey : eqIgnoreCase key o'.name = true := by simpa using List.find?_some hfind
    have hsame : eqIgnoreCase o.name o'.name = true := by
      unfold eqIgnoreCase at h hkey ⊢
      rw [beq_iff_eq] at h hkey ⊢
      exact h.symm.trans hkey
    rw [(daemonOptions_names o (mem_daemonOptions o)).1 o' (mem_daemonOptions o') hsame]

/-- A key that a tool takes is left to the tools. -/
theorem daemonParseArg_tool (h : ctx.takenFor key = some a) :
    daemonParseArg lib ctx env d key val =
      (a.perform env d.table key val).map fun r => (r.1, { d with table := r.2 }) := by
  unfold daemonParseArg
  rw [toolParseArg_eq, h]
  dsimp only
  cases hperform : a.perform env d.table key val with
  | none => rfl
  | some r =>
    obtain ⟨ret, table⟩ := r
    have hne : ret ≠ 0 := by
      obtain rfl | ⟨rfl, -⟩ := OptionAction.perform_cases hperform <;> decide
    dsimp only
    rw [if_pos hne]
    rfl

/-- A key that no tool takes is one of the daemon's own, or unknown. -/
theorem daemonParseArg_own (h : ctx.takenFor key = none) (ho : eqIgnoreCase key o.name = true) :
    daemonParseArg lib ctx env d key val =
      (o.value lib env.random val).elim (some (-1, d)) fun v =>
        if env.memory then some (1, d.set o.key v) else some (-1, d) := by
  unfold daemonParseArg
  rw [toolParseArg_eq, h]
  dsimp only
  rw [if_neg (by decide), find_daemonOption ho]
  dsimp only
  cases o.value lib env.random val <;> rfl

theorem daemonParseArg_unknown (h : ctx.takenFor key = none)
    (hno : ∀ o : DaemonOption, eqIgnoreCase key o.name ≠ true) :
    daemonParseArg lib ctx env d key val = some (0, d) := by
  have hnone : (daemonOptions.find? fun o => strncasecmp key o.name (o.name.length + 1)) = none := by
    simp only [strncasecmp_name]
    exact List.find?_eq_none.2 fun o _ => hno o
  unfold daemonParseArg
  rw [toolParseArg_eq, h]
  dsimp only
  rw [if_neg (by decide), hnone]

/-- **What a line that is accepted has done**: a tool has taken it, or it has set one of the
settings. -/
theorem daemonParseArg_accepted {dc : Int} (h : daemonParseArg lib ctx env d key val = some (dc, d'))
    (hdc : ¬ dc ≤ 0) :
    (∃ a, ctx.takenFor key = some a ∧ a.perform env d.table key val = some (1, d'.table) ∧
      d'.settings = d.settings) ∨
    (ctx.takenFor key = none ∧ ∃ (o : DaemonOption) (v : Setting δ), eqIgnoreCase key o.name = true ∧
      o.value lib env.random val = some v ∧ env.memory = true ∧ d' = d.set o.key v) := by
  cases htaken : ctx.takenFor key with
  | some a =>
    rw [daemonParseArg_tool htaken] at h
    obtain ⟨⟨ret, table⟩, hperform, heq⟩ := Option.map_eq_some_iff.1 h
    cases heq
    obtain rfl | ⟨rfl, -⟩ := OptionAction.perform_cases hperform
    · exact .inl ⟨a, rfl, hperform, rfl⟩
    · exact absurd (show (-1 : Int) ≤ 0 by decide) hdc
  | none =>
    refine .inr ⟨rfl, ?_⟩
    by_cases hown : ∃ o : DaemonOption, eqIgnoreCase key o.name = true
    · obtain ⟨o, ho⟩ := hown
      rw [daemonParseArg_own htaken ho] at h
      cases hvalue : o.value lib env.random val with
      | none =>
        rw [hvalue] at h
        cases h
        exact absurd (show (-1 : Int) ≤ 0 by decide) hdc
      | some v =>
        rw [hvalue, Option.elim_some] at h
        split at h
        · rename_i hmemory
          cases h
          exact ⟨o, v, ho, hvalue, hmemory, rfl⟩
        · cases h
          exact absurd (show (-1 : Int) ≤ 0 by decide) hdc
    · rw [daemonParseArg_unknown htaken (not_exists.1 hown)] at h
      cases h
      exact absurd le_rfl hdc

/-- The options of a line have room in the table, and the values are read. -/
def ConfigLine.Accepted (lib : ValueLib δ) (ctx : ToolContext) (line : ConfigLine) : Prop :=
  (∃ a, ctx.takenFor line.key = some a ∧ (a = .acknowledge ∨ line.env.memory = true ∧
    (optname line.key).length < CONTEXT_MAX_KEYLEN ∧
    (a.value line.env.random line.val).isSome = true)) ∨
  (ctx.takenFor line.key = none ∧ line.env.memory = true ∧ ∃ o : DaemonOption,
    eqIgnoreCase line.key o.name = true ∧ (o.value lib line.env.random line.val).isSome = true)

theorem saveValue_iff (config : Config) (v : ConfigValue) :
    (∃ config', saveValue env config key v = some (1, config')) ↔
      env.memory = true ∧ (optname key).length < CONTEXT_MAX_KEYLEN := by
  have htype : (optname key).take 2 = valuePrefix := rfl
  unfold saveValue Config.setV
  rw [if_neg (not_not.2 htype)]
  cases env.memory <;> by_cases hlen : (optname key).length < CONTEXT_MAX_KEYLEN <;> simp [hlen]

theorem perform_iff (config : Config) :
    (∃ config', a.perform env config key val = some (1, config')) ↔
      a = .acknowledge ∨ env.memory = true ∧ (optname key).length < CONTEXT_MAX_KEYLEN ∧
        (a.value env.random val).isSome = true := by
  rw [OptionAction.perform_eq]
  by_cases hack : a = .acknowledge
  · simp [hack]
  · rw [if_neg hack]
    cases a.value env.random val with
    | none => simp [hack]
    | some v => simp [hack, saveValue_iff]

/-- Whether a line is accepted is not a matter of the context. -/
theorem daemonParseArg_iff (line : ConfigLine) (d : DaemonConfig δ) :
    (∃ dc d', daemonParseArg lib ctx line.env d line.key line.val = some (dc, d') ∧ ¬ dc ≤ 0) ↔
      line.Accepted lib ctx := by
  constructor
  · rintro ⟨dc, d', h, hdc⟩
    obtain ⟨a, htaken, hperform, -⟩ | ⟨htaken, o, v, ho, hvalue, hmemory, -⟩ :=
      daemonParseArg_accepted h hdc
    · exact .inl ⟨a, htaken, (perform_iff d.table).1 ⟨_, hperform⟩⟩
    · exact .inr ⟨htaken, hmemory, o, ho, by rw [hvalue]; rfl⟩
  · rintro (⟨a, htaken, haccepted⟩ | ⟨htaken, hmemory, o, ho, hvalue⟩)
    · obtain ⟨table, hperform⟩ := (perform_iff d.table).2 haccepted
      refine ⟨1, { d with table := table }, ?_, by decide⟩
      rw [daemonParseArg_tool htaken, hperform]
      rfl
    · obtain ⟨v, hv⟩ := Option.isSome_iff_exists.1 hvalue
      refine ⟨1, d.set o.key v, ?_, by decide⟩
      rw [daemonParseArg_own htaken ho, hv, Option.elim_some, if_pos hmemory]

end Line

/-! ## The file -/

section File

variable {δ : Type} {lib : ValueLib δ} {ctx : ToolContext} {d d' : DaemonConfig δ}

theorem loadConfig_cons {line : ConfigLine} {lines : List ConfigLine}
    (h : loadConfig lib ctx (line :: lines) d = some (true, d')) :
    ∃ dc d₁, daemonParseArg lib ctx line.env d line.key line.val = some (dc, d₁) ∧ ¬ dc ≤ 0 ∧
      loadConfig lib ctx lines d₁ = some (true, d') := by
  unfold loadConfig at h
  split at h
  · cases h
  · rename_i dc d₁ hparse
    split at h
    · cases h
    · rename_i hdc
      exact ⟨dc, d₁, hparse, hdc, h⟩

theorem loadConfig_iff (lines : List ConfigLine) : ∀ d : DaemonConfig δ,
    (∃ d', loadConfig lib ctx lines d = some (true, d')) ↔
      ∀ line ∈ lines, line.Accepted lib ctx := by
  induction lines with
  | nil => exact fun d => ⟨fun _ _ h => (List.not_mem_nil h).elim, fun _ => ⟨d, rfl⟩⟩
  | cons line lines ih =>
    intro d
    rw [List.forall_mem_cons]
    constructor
    · rintro ⟨d', h⟩
      obtain ⟨dc, d₁, hparse, hdc, hrest⟩ := loadConfig_cons h
      exact ⟨(daemonParseArg_iff line d).1 ⟨dc, d₁, hparse, hdc⟩, (ih d₁).1 ⟨d', hrest⟩⟩
    · rintro ⟨hline, hlines⟩
      obtain ⟨dc, d₁, hparse, hdc⟩ := (daemonParseArg_iff line d).2 hline
      obtain ⟨d', hrest⟩ := (ih d₁).2 hlines
      refine ⟨d', ?_⟩
      rw [loadConfig, hparse]
      dsimp only
      rw [if_neg hdc, hrest]

/-- **Whether a file is accepted** is decided line by line: not by their order, nor by what the
context holds. -/
theorem file_acceptance (lib : ValueLib δ) (ctx : ToolContext) (lines : List ConfigLine)
    (d d₀ : DaemonConfig δ) :
    (∃ d', loadConfig lib ctx lines d = some (true, d')) ↔
      ∀ line ∈ lines, ∃ d', loadConfig lib ctx [line] d₀ = some (true, d') := by
  rw [loadConfig_iff]
  refine forall₂_congr fun line _ => ?_
  rw [loadConfig_iff, List.forall_mem_singleton]

/-- What a line stores under a key. -/
theorem accepted_setting (htools : ctx.tools ≠ []) {line : ConfigLine} {dc : Int}
    (h : daemonParseArg lib ctx line.env d line.key line.val = some (dc, d')) (hdc : ¬ dc ≤ 0)
    {o : DaemonOption} (ho : o ≠ .testPort) :
    d'.settings o.key = if eqIgnoreCase line.key o.name = true
      then o.value lib line.env.random line.val else d.settings o.key := by
  have hnot {a : OptionAction} {p : DaemonOption} (hp : p ≠ .testPort)
      (htaken : ctx.takenFor line.key = some a) : eqIgnoreCase line.key p.name ≠ true := by
    intro hname
    obtain ⟨tool, htool, htakes⟩ := List.exists_of_findSome?_eq_some htaken
    rw [takenFor_ignoreCase hname,
      (daemonOptions_names p (mem_daemonOptions p)).2 hp tool (ctx.compiled htool)] at htakes
    cases htakes
  obtain ⟨a, htaken, -, hsame⟩ | ⟨htaken, p, v, hp, hvalue, -, rfl⟩ :=
    daemonParseArg_accepted h hdc
  · rw [if_neg (hnot ho htaken), hsame]
  · have hp' : p ≠ .testPort := by
      rintro rfl
      obtain ⟨tool, htool⟩ := List.exists_mem_of_ne_nil ctx.tools htools
      exact takenFor_testPort hp tool (List.findSome?_eq_none_iff.1 htaken tool htool)
    by_cases hsame : p = o
    · subst hsame
      rw [if_pos hp, hvalue]
      exact Function.update_self ..
    · have hother : eqIgnoreCase line.key o.name ≠ true := by
        intro hname
        have hfirst := find_daemonOption hp
        rw [find_daemonOption hname] at hfirst
        exact hsame (Option.some_inj.1 hfirst).symm
      rw [if_neg hother]
      refine Function.update_of_ne (fun hkey => hsame ?_) ..
      revert hkey
      cases o <;> cases p <;> simp_all [DaemonOption.key]

theorem loadConfig_settings (htools : ctx.tools ≠ []) {o : DaemonOption} (ho : o ≠ .testPort)
    (lines : List ConfigLine) : ∀ {d : DaemonConfig δ},
      loadConfig lib ctx lines d = some (true, d') →
      d'.settings o.key = (lines.reverse.find? fun line => eqIgnoreCase line.key o.name).elim
        (d.settings o.key) fun line => o.value lib line.env.random line.val := by
  induction lines with
  | nil =>
    intro d h
    cases h
    rfl
  | cons line lines ih =>
    intro d h
    obtain ⟨dc, d₁, hparse, hdc, hrest⟩ := loadConfig_cons h
    rw [ih hrest, List.reverse_cons, List.find?_append]
    cases lines.reverse.find? fun line => eqIgnoreCase line.key o.name with
    | some last => rfl
    | none =>
      rw [Option.none_or, List.find?_singleton, Option.elim_none, accepted_setting htools hparse hdc ho]
      split <;> rfl

/-- The tools see their lines as if they were alone. -/
theorem loadConfig_table (lines : List ConfigLine) : ∀ {d : DaemonConfig δ}
    (accepted : List ConfigLine), loadConfig lib ctx lines d = some (true, d') →
      ∃ run, ConfigRun.offers ctx ⟨d.table, accepted⟩ lines = some run ∧ run.config = d'.table := by
  induction lines with
  | nil =>
    intro d accepted h
    cases h
    exact ⟨_, rfl, rfl⟩
  | cons line lines ih =>
    intro d accepted h
    obtain ⟨dc, d₁, hparse, hdc, hrest⟩ := loadConfig_cons h
    obtain ⟨a, htaken, hperform, -⟩ | ⟨htaken, o, v, -, -, -, rfl⟩ :=
      daemonParseArg_accepted hparse hdc
    · obtain ⟨run, hrun, hconfig⟩ := ih (line :: accepted) hrest
      refine ⟨run, ?_, hconfig⟩
      rw [offers_cons lines (offer_accepted ?_), hrun]
      rw [toolParseArg_eq, htaken]
      exact hperform
    · obtain ⟨run, hrun, hconfig⟩ := ih accepted hrest
      refine ⟨run, ?_, hconfig⟩
      have hoffer : ConfigRun.offer ctx ⟨d.table, accepted⟩ line = some ⟨d.table, accepted⟩ := by
        unfold ConfigRun.offer
        rw [toolParseArg_eq, htaken]
        rfl
      rw [offers_cons lines hoffer]
      exact hrun

/-- **A file that is accepted** leaves in every setting the value of its last line, and the options
of the tools as the tools make them of the file by themselves. -/
theorem loaded_settings (htools : ctx.tools ≠ []) {lines : List ConfigLine}
    (h : loadConfig lib ctx lines d = some (true, d')) :
    (∀ o : DaemonOption, o ≠ .testPort →
      d'.settings o.key = (lines.reverse.find? fun line => eqIgnoreCase line.key o.name).elim
        (d.settings o.key) fun line => o.value lib line.env.random line.val) ∧
      ∃ run, ConfigRun.offers ctx ⟨d.table, []⟩ lines = some run ∧ run.config = d'.table :=
  ⟨fun _ ho => loadConfig_settings htools ho lines h, loadConfig_table lines [] h⟩

/-- Libraries that read no value. -/
def plainLib : ValueLib Unit := ⟨fun _ => -1, fun _ => none, fun _ => none, fun _ => false⟩

/-- Ranges for peers, the second one in upper case, and one for tests between them. -/
def portLines : List ConfigLine :=
  [plainLine "peer_port" "6001-6010", plainLine "test_port" "5001-5010",
   plainLine "PEER_PORT" "7001-7010"]

theorem loaded_settings_ports : ∃ d',
    loadConfig plainLib allTools portLines ⟨[], fun _ => none⟩ = some (true, d') ∧
      d'.settings .peerPortRange = some (.ports ⟨7001, 7010, 7001⟩) := by
  have hrun : (loadConfig plainLib allTools portLines ⟨[], fun _ => none⟩).map (·.1) = some true := by
    decide +kernel
  obtain ⟨⟨accepted, d'⟩, h, haccepted⟩ := Option.map_eq_some_iff.1 hrun
  obtain rfl : accepted = true := haccepted
  have hlast := (loaded_settings (by decide) h).1 .peerPort (by decide)
  exact ⟨d', h, hlast.trans (by decide +kernel)⟩

end File

end Bwctl
