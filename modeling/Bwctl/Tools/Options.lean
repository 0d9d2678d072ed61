import Bwctl.Tools.OwampPorts
import Bwctl.Tools.CPUAffinity
import Bwctl.Client.Tools

/-!
# The options of the tools (`BWLToolParseArg`)

Each line of a configuration file is offered to the tools in turn, and the first one that knows the
key takes it.  A tool knows a key that begins with the name of one of its options, and four tools
know every key that is a beginning of the name of one of their commands, both but for case.  The
value is stored under the key as it was typed.

* `toolParseArg` — the line before the tools.
* `toolParseArg_eq` — the key decides what is done, the value whether it is.
* `toolParseArg_accepted` — what a line that is accepted has done.
-/

set_option autoImplicit false

namespace Bwctl

/-- `strncasecmp`, `true` where it returns zero. -/
def strncasecmp (s t : List Char) (n : Nat) : Bool := eqIgnoreCase (s.take n) (t.take n)

/-- What a parse function returns and leaves, nothing where an assertion of it has failed. -/
abbrev Parsed := Option (Int × Config)

/-! ## Saving a value -/

/-- The buffer `optname`. -/
def optname (key : List Char) : List Char := valuePrefix ++ key.take (BWL_MAX_TOOLNAME + 9)

/-- The end of `save_path` and of `save_ports`. -/
def saveValue (env : InitEnv) (config : Config) (key : List Char) (val : ConfigValue) : Parsed :=
  if env.memory then
    match config.setV (optname key) val with
    | .ok config' => some (1, config')
    | .error .unknownType => some (-1, config)
    | .error .keyTooLong => none
  else some (-1, config)

/-- `save_path`. -/
def savePath (env : InitEnv) (config : Config) (key val : List Char) : Parsed :=
  saveValue env config key (.text val)

/-- `save_ports`. -/
def savePorts (env : InitEnv) (config : Config) (key : List Char) (portrange : PortRange) : Parsed :=
  saveValue env config key (.ports portrange)

/-- What is done with the value of an option. -/
inductive OptionAction where
  | path
  | ports
  | affinity
  | acknowledge
  deriving DecidableEq, Repr

/-- The bodies of the tests for an option. -/
def OptionAction.perform (env : InitEnv) (config : Config) (key val : List Char) :
    OptionAction → Parsed
  | .path => savePath env config key val
  | .ports =>
    match portsParse env.random (some val) with
    | none => some (-1, config)
    | some portrange => savePorts env config key portrange
  | .affinity =>
    if parseCPUAffinityString val then savePath env config key val else some (-1, config)
  | .acknowledge => some (1, config)

/-! ## The parse functions -/

/-- The values of `confkey` in turn, and what is done for each. -/
def confkeys (name : List Char) : List (List Char × OptionAction) :=
  [(name ++ "_cmd".toList, .path),
   (name ++ "_server_cmd".toList, .path),
   (name ++ "_port".toList, .ports),
   ("disable_".toList ++ name, .path),
   ("!disable_".toList ++ name, .acknowledge),
   (name ++ "_cpu_affinity".toList, .affinity),
   ("test_cpu_affinity".toList, .affinity),
   ("test_port".toList, .ports)]

/-- `_BWLToolGenericParse`: the key has to begin with the `confkey`. -/
def toolGenericParse (env : InitEnv) (config : Config) (name key val : List Char) : Parsed :=
  match (confkeys name).find? fun confkey => strncasecmp key confkey.1 confkey.1.length with
  | some confkey => confkey.2.perform env config key val
  | none => some (0, config)

/-- A parse function with commands of its own: the command has to begin with the key. -/
def cmdParse (cmds : List (List Char)) (env : InitEnv) (config : Config) (name key val : List Char) :
    Parsed :=
  if cmds.any fun cmd => strncasecmp key cmd key.length then savePath env config key val
  else toolGenericParse env config name key val

def tracepathCmds : List (List Char) := ["tracepath_cmd".toList, "tracepath6_cmd".toList]

/-- `TracepathParse`. -/
def tracepathParse : InitEnv → Config → List Char → List Char → List Char → Parsed :=
  cmdParse tracepathCmds

def tracerouteCmds : List (List Char) := ["traceroute_cmd".toList, "traceroute6_cmd".toList]

/-- `TracerouteParse`. -/
def tracerouteParse : InitEnv → Config → List Char → List Char → List Char → Parsed :=
  cmdParse tracerouteCmds

def parisTracerouteCmds : List (List Char) := ["paris_traceroute_cmd".toList]

/-- `ParisTracerouteParse`. -/
def parisTracerouteParse : InitEnv → Config → List Char → List Char → List Char → Parsed :=
  cmdParse parisTracerouteCmds

def pingCmds : List (List Char) := ["ping_cmd".toList, "ping6_cmd".toList]

/-- `PingParse`. -/
def pingParse : InitEnv → Config → List Char → List Char → List Char → Parsed :=
  cmdParse pingCmds

/-- The member `parse` of the definition of a tool. -/
def ToolDefinition.parse (tool : ToolDefinition) :
    InitEnv → Config → List Char → List Char → List Char → Parsed :=
  if tool.id = BWL_TOOL_TRACEPATH then tracepathParse
  else if tool.id = BWL_TOOL_TRACEROUTE then tracerouteParse
  else if tool.id = BWL_TOOL_PARIS_TRACEROUTE then parisTracerouteParse
  else if tool.id = BWL_TOOL_PING then pingParse
  else toolGenericParse

/-- The loop of `BWLToolParseArg`: the first answer other than zero is returned. -/
def parseArgLoop (env : InitEnv) (config : Config) (key val : List Char) :
    List ToolDefinition → Parsed
  | [] => some (0, config)
  | tool :: tools =>
    match tool.parse env config tool.name.toList key val with
    | none => none
    | some (err, config') =>
      if err ≠ 0 then some (err, config') else parseArgLoop env config' key val tools

/-- `BWLToolParseArg`. -/
def toolParseArg (ctx : ToolContext) (env : InitEnv) (config : Config) (key val : List Char) :
    Parsed :=
  parseArgLoop env config key val ctx.tools

/-! ## What a key is taken for -/

/-- The commands a tool tests a key for before the options every tool has. -/
def ToolDefinition.cmds (tool : ToolDefinition) : List (List Char) :=
  if tool.id = BWL_TOOL_TRACEPATH then tracepathCmds
  else if tool.id = BWL_TOOL_TRACEROUTE then tracerouteCmds
  else if tool.id = BWL_TOOL_PARIS_TRACEROUTE then parisTracerouteCmds
  else if tool.id = BWL_TOOL_PING then pingCmds
  else []

/-- The test a key passes first. -/
def ToolDefinition.takenFor (tool : ToolDefinition) (key : List Char) : Option OptionAction :=
  if tool.cmds.any fun cmd => strncasecmp key cmd key.length then some .path
  else ((confkeys tool.name.toList).find? fun confkey =>
    strncasecmp key confkey.1 confkey.1.length).map (·.2)

def ToolContext.takenFor (ctx : ToolContext) (key : List Char) : Option OptionAction :=
  ctx.tools.findSome? fun tool => tool.takenFor key

/-- The value that is saved, nothing where it is refused. -/
def OptionAction.value (random : Option UInt32) (val : List Char) :
    OptionAction → Option ConfigValue
  | .path => some (.text val)
  | .ports => (portsParse random (some val)).map .ports
  | .affinity => if parseCPUAffinityString val then some (.text val) else none
  | .acknowledge => none

section Parse

variable {env : InitEnv} {config config' : Config} {key val : List Char}

theorem saveValue_accepted {v : ConfigValue}
    (h : saveValue env config key v = some (1, config')) :
    (valuePrefix ++ key).length < CONTEXT_MAX_KEYLEN ∧
      config' = config.store (valuePrefix ++ key) v := by
  unfold saveValue at h
  split at h
  · split at h
    · rename_i hset
      cases h
      obtain ⟨-, hlen, rfl⟩ := Config.setV_ok hset
      have hshort : key.length ≤ BWL_MAX_TOOLNAME + 9 := by
        unfold optname at hlen
        simp only [List.length_append, List.length_take, CONTEXT_MAX_KEYLEN] at hlen
        unfold BWL_MAX_TOOLNAME at hlen ⊢
        omega
      unfold optname at hlen ⊢
      rw [List.take_of_length_le hshort] at hlen ⊢
      exact ⟨hlen, rfl⟩
    · cases h
    · cases h
  · cases h

theorem saveValue_cases {v : ConfigValue} {ret : Int}
    (h : saveValue env config key v = some (ret, config')) :
    ret = 1 ∨ ret = -1 ∧ config' = config := by
  unfold saveValue at h
  split at h
  · split at h
    · cases h
      exact .inl rfl
    · cases h
      exact .inr ⟨rfl, rfl⟩
    · cases h
  · cases h
    exact .inr ⟨rfl, rfl⟩

/-- The value is saved if it is not refused, and a key that is only acknowledged saves nothing. -/
theorem OptionAction.perform_eq (env : InitEnv) (config : Config) (key val : List Char)
    (a : OptionAction) :
    a.perform env config key val =
      if a = .acknowledge then some (1, config)
      else match a.value env.random val with
        | none => some (-1, config)
        | some v => saveValue env config key v := by
  cases a with
  | path => rfl
  | ports =>
    rw [if_neg (by decide)]
    unfold perform value
    cases portsParse env.random (some val) <;> rfl
  | affinity =>
    rw [if_neg (by decide)]
    unfold perform value
    cases parseCPUAffinityString val <;> rfl
  | acknowledge => rfl

/-- An option that is taken is answered, and only an option that is accepted changes the table. -/
theorem OptionAction.perform_cases {a : OptionAction} {ret : Int}
    (h : a.perform env config key val = some (ret, config')) :
    ret = 1 ∨ ret = -1 ∧ config' = config := by
  rw [perform_eq] at h
  split at h
  · cases h
    exact .inl rfl
  split at h
  · cases h
    exact .inr ⟨rfl, rfl⟩
  · exact saveValue_cases h

theorem OptionAction.perform_accepted {a : OptionAction}
    (h : a.perform env config key val = some (1, config')) :
    a = .acknowledge ∧ config' = config ∨
      ∃ v, a.value env.random val = some v ∧
        (valuePrefix ++ key).length < CONTEXT_MAX_KEYLEN ∧
        config' = config.store (valuePrefix ++ key) v := by
  rw [perform_eq] at h
  split at h
  · rename_i ha
    cases h
    exact .inl ⟨ha, rfl⟩
  split at h
  · cases h
  · rename_i v hv
    exact .inr ⟨v, hv, saveValue_accepted h⟩

/-- A tool does what the first test says that the key passes. -/
theorem ToolDefinition.parse_eq (tool : ToolDefinition) (env : InitEnv) (config : Config)
    (key val : List Char) :
    tool.parse env config tool.name.toList key val =
      match tool.takenFor key with
      | none => some (0, config)
      | some a => a.perform env config key val := by
  have hcmds : tool.parse env config tool.name.toList key val =
      cmdParse tool.cmds env config tool.name.toList key val := by
    unfold parse cmds
    split
    · rfl
    split
    · rfl
    split
    · rfl
    split
    · rfl
    · rfl
  rw [hcmds]
  unfold cmdParse takenFor
  split
  · rfl
  · unfold toolGenericParse
    cases (confkeys tool.name.toList).find? fun confkey =>
      strncasecmp key confkey.1 confkey.1.length <;> rfl

/-- **The line before the tools**: the first tool that takes the key decides. -/
theorem toolParseArg_eq (ctx : ToolContext) (env : InitEnv) (config : Config)
    (key val : List Char) :
    toolParseArg ctx env config key val =
      match ctx.takenFor key with
      | none => some (0, config)
      | some a => a.perform env config key val := by
  unfold toolParseArg ToolContext.takenFor
  induction ctx.tools with
  | nil => rfl
  | cons tool tools ih =>
    rw [parseArgLoop, tool.parse_eq, List.findSome?_cons]
    cases tool.takenFor key with
    | none => exact ih
    | some a =>
      dsimp only
      cases hperform : a.perform env config key val with
      | none => rfl
      | some answer =>
        obtain ⟨ret, config'⟩ := answer
        have hne : ret ≠ 0 := by
          obtain rfl | ⟨rfl, -⟩ := OptionAction.perform_cases hperform
          · decide
          · decide
        dsimp only
        rw [if_pos hne]

theorem toolParseArg_unchanged {ctx : ToolContext} {ret : Int}
    (h : toolParseArg ctx env config key val = some (ret, config')) (hret : ret ≠ 1) :
    config' = config := by
  rw [toolParseArg_eq] at h
  split at h
  · cases h
    rfl
  · obtain hone | ⟨-, hsame⟩ := OptionAction.perform_cases h
    · exact absurd hone hret
    · exact hsame

/-- **A line that is accepted** was taken for an option, and its value stands in the table under
the key as it was typed; or it was only acknowledged. -/
theorem toolParseArg_accepted {ctx : ToolContext}
    (h : toolParseArg ctx env config key val = some (1, config')) :
    ∃ a, ctx.takenFor key = some a ∧ (a = .acknowledge ∧ config' = config ∨
      ∃ v, a.value env.random val = some v ∧
        (valuePrefix ++ key).length < CONTEXT_MAX_KEYLEN ∧
        config' = config.store (valuePrefix ++ key) v) := by
  rw [toolParseArg_eq] at h
  split at h
  · cases h
  · rename_i a htaken
    exact ⟨a, htaken, OptionAction.perform_accepted h⟩

end Parse

end Bwctl
