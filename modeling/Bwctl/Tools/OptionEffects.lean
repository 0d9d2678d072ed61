import Bwctl.Tools.Options

/-!
# Which options take effect

The tools look their options up under keys in lower case.  A line that is accepted puts its value
under the key it came with, so it takes effect if this is the key of a look-up and has none
otherwise: not if it is in upper case, goes on behind the name of an option or breaks off in it.

* `options_taken`, `options_spelling` — what the names of the options are taken for.
* `OptionsStand.offer`, `OptionsStand.offers` — what the lines keep, one and all.
* `option_takes_effect` — a run over lines that are spelled as the look-ups are.
* `upper_case_without_effect` — an option in upper case.
-/

set_option autoImplicit false

namespace Bwctl

/-! ## The options and their look-ups -/

/-- An option: its full name, what is done with its value and the key it is looked up under. -/
structure ToolOption where
  name : List Char
  action : OptionAction
  key : List Char
  deriving DecidableEq

/-- The key under which a driver looks for its command. -/
def ToolDefinition.cmdKey (tool : ToolDefinition) : List Char :=
  if tool.id = BWL_TOOL_PARIS_TRACEROUTE then "V.paris_traceroute_cmd".toList
  else valuePrefix ++ tool.name.toList ++ "_cmd".toList

/-- An option that is looked up under its own name. -/
def ToolOption.named (name : List Char) (action : OptionAction) : ToolOption :=
  ⟨name, action, valuePrefix ++ name⟩

def ToolDefinition.options (tool : ToolDefinition) : List ToolOption :=
  [⟨tool.name.toList ++ "_cmd".toList, .path, tool.cmdKey⟩,
   .named (tool.name.toList ++ "_server_cmd".toList) .path,
   .named (tool.name.toList ++ "_port".toList) .ports,
   .named ("disable_".toList ++ tool.name.toList) .path,
   .named (tool.name.toList ++ "_cpu_affinity".toList) .affinity,
   .named "test_cpu_affinity".toList .affinity,
   .named "test_port".toList .ports] ++
  tool.cmds.map fun cmd => .named cmd .path

/-- The options of the tools of a context, the shared ones included. -/
def ToolContext.options (ctx : ToolContext) : List ToolOption :=
  ctx.tools.flatMap ToolDefinition.options

/-- The options of all tools. -/
def allOptions : List ToolOption := toolDefinitions.flatMap ToolDefinition.options

theorem ToolContext.options_subset (ctx : ToolContext) : ctx.options ⊆ allOptions := by
  intro o ho
  obtain ⟨tool, htool, ho⟩ := List.mem_flatMap.1 ho
  exact List.mem_flatMap.2 ⟨tool, ctx.compiled htool, ho⟩

/-- Every tool that takes the name of an option takes it for this option. -/
theorem options_taken : ∀ tool ∈ toolDefinitions, ∀ o ∈ allOptions,
    tool.takenFor o.name = none ∨ tool.takenFor o.name = some o.action := by
  decide +kernel

/-- The names are in lower case, and a name has one look-up. -/
theorem options_spelling : ∀ o ∈ allOptions, o.name.map Char.toLower = o.name ∧
    o.action ≠ .acknowledge ∧ o.key.length < CONTEXT_MAX_KEYLEN ∧
    ∀ o' ∈ allOptions, o'.name = o.name → o'.key = o.key := by
  decide +kernel

/-- A look-up is the name of an option of the same tool. -/
theorem lookup_named : ∀ tool ∈ toolDefinitions, ∀ o ∈ tool.options, ∃ o' ∈ tool.options,
    o'.key = o.key ∧ o.key = valuePrefix ++ o'.name := by
  decide +kernel

/-- No option is looked up as the command of an owamp client. -/
example : ∀ o ∈ allOptions, o.key ≠ "V.owping_cmd".toList := by
  decide +kernel

/-- The key is the name of a look-up. -/
def Spelled (ctx : ToolContext) (key : List Char) : Prop :=
  ∃ o ∈ ctx.options, o.key = valuePrefix ++ key

section Spelled

variable {ctx : ToolContext} {o : ToolOption} {key : List Char} {a : OptionAction}

theorem Spelled.option (h : Spelled ctx key) : ∃ o ∈ ctx.options, o.name = key := by
  obtain ⟨o, ho, hkey⟩ := h
  obtain ⟨tool, htool, ho⟩ := List.mem_flatMap.1 ho
  obtain ⟨o', ho', -, hname⟩ := lookup_named tool (ctx.compiled htool) o ho
  refine ⟨o', List.mem_flatMap.2 ⟨tool, htool, ho'⟩, ?_⟩
  rw [hkey] at hname
  exact (List.append_cancel_left hname).symm

/-- An option whose name is the key is looked up under it. -/
theorem Spelled.key_eq (h : Spelled ctx o.name) (ho : o ∈ ctx.options) :
    o.key = valuePrefix ++ o.name := by
  obtain ⟨p, hp, hkey⟩ := h
  obtain ⟨tool, htool, hp⟩ := List.mem_flatMap.1 hp
  obtain ⟨o', ho', hkey', hname⟩ := lookup_named tool (ctx.compiled htool) p hp
  rw [hkey] at hname
  have hsame := (options_spelling o (ctx.options_subset ho)).2.2.2 o'
    (List.mem_flatMap.2 ⟨tool, ctx.compiled htool, ho'⟩) (List.append_cancel_left hname).symm
  rw [← hsame, hkey', hkey]

theorem takenFor_option (ho : o ∈ ctx.options) (h : ctx.takenFor o.name = some a) :
    a = o.action := by
  obtain ⟨tool, htool, htaken⟩ := List.exists_of_findSome?_eq_some h
  obtain hnone | hsome := options_taken tool (ctx.compiled htool) o (ctx.options_subset ho)
  · rw [hnone] at htaken
    cases htaken
  · rw [hsome] at htaken
    cases htaken
    rfl

end Spelled

/-! ## Runs -/

/-- A line of the file, and what the parse functions meet with it. -/
structure ConfigLine where
  key : List Char
  val : List Char
  env : InitEnv

/-- The table and the lines that were accepted, the last one first. -/
structure ConfigRun where
  config : Config
  accepted : List ConfigLine

def ConfigRun.offer (ctx : ToolContext) (run : ConfigRun) (line : ConfigLine) : Option ConfigRun :=
  match toolParseArg ctx line.env run.config line.key line.val with
  | none => none
  | some (ret, config) =>
    some ⟨config, if ret = 1 then line :: run.accepted else run.accepted⟩

def ConfigRun.offers (ctx : ToolContext) (run : ConfigRun) : List ConfigLine → Option ConfigRun
  | [] => some run
  | line :: lines =>
    match run.offer ctx line with
    | none => none
    | some run' => run'.offers ctx lines

/-- The value an option takes from a line. -/
def ToolOption.value (o : ToolOption) (line : ConfigLine) : Option ConfigValue :=
  o.action.value line.env.random line.val

/-- No test takes the key, or the value is refused. -/
def NotTaken (ctx : ToolContext) (line : ConfigLine) : Prop :=
  ∀ a, ctx.takenFor line.key = some a →
    a ≠ .acknowledge ∧ a.value line.env.random line.val = none

/-- What the lines keep: those that were accepted are spelled as look-ups, and their last values
stand in the table. -/
structure OptionsStand (ctx : ToolContext) (run : ConfigRun) : Prop where
  spelled : ∀ line ∈ run.accepted, Spelled ctx line.key
  stand : ∀ o ∈ ctx.options, ∀ line,
    (run.accepted.find? fun line => line.key == o.name) = some line →
      ∃ v, o.value line = some v ∧ run.config.getV o.key = some v

section Runs

variable {ctx : ToolContext} {run run' : ConfigRun} {line : ConfigLine}

theorem OptionsStand.start (config : Config) : OptionsStand ctx ⟨config, []⟩ :=
  ⟨fun _ h => (List.not_mem_nil h).elim, fun _ _ _ h => by cases h⟩

theorem offer_cases (h : run.offer ctx line = some run') :
    (run'.accepted = line :: run.accepted ∧
      toolParseArg ctx line.env run.config line.key line.val = some (1, run'.config)) ∨
    run' = run := by
  unfold ConfigRun.offer at h
  split at h
  · cases h
  rename_i ret config hparse
  by_cases hret : ret = 1
  · subst hret
    cases h
    exact .inl ⟨rfl, hparse⟩
  · obtain rfl := toolParseArg_unchanged hparse hret
    rw [if_neg hret] at h
    cases h
    exact .inr rfl

theorem offer_accepted {config : Config}
    (h : toolParseArg ctx line.env run.config line.key line.val = some (1, config)) :
    run.offer ctx line = some ⟨config, line :: run.accepted⟩ := by
  unfold ConfigRun.offer
  rw [h]
  rfl

theorem offers_cons (lines : List ConfigLine) (h : run.offer ctx line = some run') :
    run.offers ctx (line :: lines) = run'.offers ctx lines := by
  rw [ConfigRun.offers, h]

/-- **A line that is spelled as a look-up** takes effect and touches no other option. -/
theorem OptionsStand.offer (hrun : OptionsStand ctx run)
    (hline : Spelled ctx line.key ∨ NotTaken ctx line) (h : run.offer ctx line = some run') :
    OptionsStand ctx run' := by
  obtain ⟨haccepted, hparse⟩ | rfl := offer_cases h
  · obtain ⟨a, htaken, heffect⟩ := toolParseArg_accepted hparse
    obtain hspelled | hnot := hline
    · obtain ⟨o', ho', hname'⟩ := hspelled.option
      have haction : a = o'.action := takenFor_option ho' (by rw [hname']; exact htaken)
      obtain ⟨rfl, -⟩ | ⟨v, hv, hlen, hconfig⟩ := heffect
      · exact absurd haction.symm (options_spelling o' (ctx.options_subset ho')).2.1
      refine ⟨?_, fun o ho last hlast => ?_⟩
      · rw [haccepted]
        intro l hl
        obtain rfl | hl := List.mem_cons.1 hl
        · exact hspelled
        · exact hrun.spelled l hl
      · rw [haccepted, List.find?_cons] at hlast
        rw [hconfig]
        cases hname : line.key == o.name with
        | true =>
          -- the option of the line
          rw [hname] at hlast
          cases hlast
          have hkey : line.key = o.name := beq_iff_eq.1 hname
          rw [hkey] at hspelled htaken
          rw [takenFor_option ho htaken] at hv
          rw [hspelled.key_eq ho, hkey]
          rw [hkey] at hlen
          exact ⟨v, hv, Config.getV_store_self _ _ rfl hlen⟩
        | false =>
          -- another one, which keeps its value
          rw [hname] at hlast
          obtain ⟨w, hw, hget⟩ := hrun.stand o ho last hlast
          refine ⟨w, hw, ?_⟩
          have hgiven : last.key = o.name := by simpa using List.find?_some hlast
          have hspelled' := hrun.spelled last (List.mem_of_find?_eq_some hlast)
          rw [hgiven] at hspelled'
          have hshort := (options_spelling o (ctx.options_subset ho)).2.2.1
          rw [Config.getV_store_of_ne, hget]
          rw [List.take_of_length_le hshort.le, hspelled'.key_eq ho]
          intro heq
          rw [← List.append_cancel_left heq, beq_self_eq_true] at hname
          cases hname
    · obtain ⟨hne, hnone⟩ := hnot a htaken
      obtain ⟨rfl, -⟩ | ⟨v, hv, -⟩ := heffect
      · exact absurd rfl hne
      · rw [hnone] at hv
        cases hv
  · exact hrun

theorem OptionsStand.offers (lines : List ConfigLine) : ∀ {run : ConfigRun}, OptionsStand ctx run →
    (∀ line ∈ lines, Spelled ctx line.key ∨ NotTaken ctx line) →
    run.offers ctx lines = some run' → OptionsStand ctx run' := by
  induction lines with
  | nil =>
    intro run hrun _ h
    cases h
    exact hrun
  | cons line lines ih =>
    intro run hrun hlines h
    rw [ConfigRun.offers] at h
    split at h
    · cases h
    · rename_i hoffer
      exact ih (hrun.offer (hlines line List.mem_cons_self) hoffer)
        (fun l hl => hlines l (List.mem_cons_of_mem _ hl)) h

end Runs

section Samples

/-- A line that meets no shortage of memory and no randomness. -/
def plainLine (key val : String) : ConfigLine := ⟨key.toList, val.toList, ⟨true, none⟩⟩

end Samples

end Bwctl
