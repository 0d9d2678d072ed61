import Bwctl.Client.Tools

/-!
# The tool of a test (`negotiate_test`, `bwctl/bwctl.c`)

The tests of a series share one record of options.  Each negotiation first picks a tool: without a
list the first common one that takes the options, with one the first of the list.  A throughput test
without a `-T` option has the list of `main`.  Neither loop tells that it has run out of tools: the
first leaves the tool 0 and the second the tool of an earlier test, and the negotiation goes on.

* `pickTool_spec`, `pickListed_spec` — what the two loops pick.
* `pickedTool_of_not_fits` — what is left in the record when they run out.
* `tool_choice_iff` — a tool is chosen exactly when one of the candidates fits.
* `no_tool_chosen` — a test that is requested without a tool, and one with a tool that is gone.
-/

set_option autoImplicit false

namespace Bwctl

/-! ## The choice -/

/-- `app.opt`, what the choice of a tool reads of it. -/
structure ToolOptions where
  toolIds : List BWLToolType
  parsable : Bool
  outformat : UInt8

section Choice

variable (ctx : ToolContext) (testType : BWLTestType) (opt : ToolOptions)

/-- "Pick the first common tool to use": after the last bit `tid` is 0. -/
def pickTool (commonTools : UInt32) (testSpec : BWLTestSpec) : List UInt32 → BWLToolType
  | [] => 0
  | tid :: tids =>
    if tid &&& commonTools = 0 then pickTool commonTools testSpec tids
    else if !ctx.toolValidateTest tid testSpec then pickTool commonTools testSpec tids
    else tid

/-- The loop over `app.opt.tool_ids`; `none` leaves `tool_id` as it was. -/
def pickListed (testSpec : BWLTestSpec) : UInt32 → List BWLToolType → Option BWLToolType
  | _, [] => none
  | commonTools, id :: ids =>
    if id &&& commonTools = 0 then pickListed testSpec commonTools ids
    else if !ctx.toolValidateTest id testSpec then pickListed testSpec (commonTools &&& ~~~id) ids
    else some id

/-- "now that the tool has been selected". -/
def selectFormat (testSpec : BWLTestSpec) : BWLTestSpec :=
  { testSpec with
    outformat := if opt.parsable then ctx.toolGetParsableFormatByID testSpec.toolId
      else opt.outformat }

/-- "Pick tool": whether the negotiation goes on, and the record it leaves. -/
def selectTool (clientTools serverTools : UInt32) (testSpec : BWLTestSpec) : Bool × BWLTestSpec :=
  let commonTools := ctx.toolGetCommonTools clientTools serverTools testType
  if commonTools = 0 then (false, testSpec)
  else if opt.toolIds = [] then
    (true, selectFormat ctx opt
      { testSpec with toolId := pickTool ctx commonTools testSpec toolBits })
  else
    let testSpec := { testSpec with
      toolId := (pickListed ctx testSpec commonTools opt.toolIds).getD testSpec.toolId }
    if testSpec.toolId = 0 then (false, testSpec) else (true, selectFormat ctx opt testSpec)

/-- What one negotiation of a series finds: the addresses and tools of its two ends, and the latest
    time it computes from the clock. -/
structure TestEnds where
  client : Option SockAddr
  server : Option SockAddr
  clientTools : UInt32
  serverTools : UInt32
  latestTime : Option Num64

/-- The record the tool is picked for. -/
def TestEnds.address (ends : TestEnds) (testSpec : BWLTestSpec) : BWLTestSpec :=
  { testSpec with client := ends.client, server := ends.server }

/-- `negotiate_test` up to the requests: whether it gets there, and the record it leaves. -/
def prepareOptions (ends : TestEnds) (testSpec : BWLTestSpec) : Bool × BWLTestSpec :=
  let testSpec := ends.address testSpec
  if ends.client = none ∨ ends.server = none then (false, testSpec)
  else
    match selectTool ctx testType opt ends.clientTools ends.serverTools testSpec with
    | (false, testSpec) => (false, testSpec)
    | (true, testSpec) =>
      match ends.latestTime with
      | none => (false, testSpec)
      | some latestTime => (true, { testSpec with latestTime := latestTime })

/-- The record after the negotiations of a series. -/
def seriesRecord (start : BWLTestSpec) (series : List TestEnds) : BWLTestSpec :=
  series.foldl (fun testSpec ends => (prepareOptions ctx testType opt ends testSpec).2) start

/-! ## What is chosen -/

/-- A tool for a test: available at both ends, of the test type, and it takes the options. -/
structure ToolFits (ends : TestEnds) (testSpec : BWLTestSpec) (tid : BWLToolType) : Prop where
  client : tid &&& ends.clientTools ≠ 0
  server : tid &&& ends.serverTools ≠ 0
  testTypes : ctx.toolGetTestTypesByID tid = testType
  validated : ctx.toolValidateTest tid testSpec = true

/-- One tool that fits, with a list the first such of the list. -/
structure ToolChosen (ends : TestEnds) (testSpec : BWLTestSpec) (tid : BWLToolType) : Prop where
  tool : ∃ tool ∈ ctx.tools, tool.id = tid
  single : tid ∈ toolBits
  fits : ToolFits ctx testType ends testSpec tid
  first : opt.toolIds ≠ [] → ∃ before after, opt.toolIds = before ++ tid :: after ∧
    ∀ id ∈ before, ¬ ToolFits ctx testType ends testSpec id

/-- The tool the loops leave in the record. -/
def pickedTool (ends : TestEnds) (testSpec : BWLTestSpec) : BWLToolType :=
  let commonTools := ctx.toolGetCommonTools ends.clientTools ends.serverTools testType
  if opt.toolIds = [] then pickTool ctx commonTools testSpec toolBits
  else (pickListed ctx testSpec commonTools opt.toolIds).getD testSpec.toolId

/-- The tools the negotiation may pick from. -/
def candidates : List BWLToolType := if opt.toolIds = [] then toolBits else opt.toolIds

end Choice

section Spec

variable {ctx : ToolContext} {testType : BWLTestType} {opt : ToolOptions} {testSpec : BWLTestSpec}

/-- The first loop finds a tool of the common mask that takes the options, or none is left. -/
theorem pickTool_spec {commonTools : UInt32} (tids : List UInt32) :
    (pickTool ctx commonTools testSpec tids ∈ tids ∧
        pickTool ctx commonTools testSpec tids &&& commonTools ≠ 0 ∧
        ctx.toolValidateTest (pickTool ctx commonTools testSpec tids) testSpec = true) ∨
      pickTool ctx commonTools testSpec tids = 0 ∧
        ∀ tid ∈ tids, tid &&& commonTools ≠ 0 → ctx.toolValidateTest tid testSpec = false := by
  induction tids with
  | nil =>
    right
    simp [pickTool]
  | cons tid tids ih =>
    simp only [pickTool]
    by_cases hmask : tid &&& commonTools = 0
    · rw [if_pos hmask]
      rcases ih with ⟨hmem, h⟩ | ⟨hzero, h⟩
      · exact Or.inl ⟨List.mem_cons_of_mem _ hmem, h⟩
      · exact Or.inr ⟨hzero, List.forall_mem_cons.2 ⟨fun hset => absurd hmask hset, h⟩⟩
    rw [if_neg hmask]
    cases hvalid : ctx.toolValidateTest tid testSpec with
    | true => exact Or.inl ⟨by simp, by simpa using hmask, by simpa using hvalid⟩
    | false =>
      rcases ih with ⟨hmem, h⟩ | ⟨hzero, h⟩
      · exact Or.inl ⟨List.mem_cons_of_mem _ hmem, h⟩
      · exact Or.inr ⟨hzero, List.forall_mem_cons.2 ⟨fun _ => hvalid, h⟩⟩

/-- The second loop finds the first tool of the list that is common and takes the options. -/
theorem pickListed_spec {ids : List BWLToolType} (hids : ∀ id ∈ ids, id ∈ toolBits)
    (commonTools : UInt32) :
    (∃ before id after, pickListed ctx testSpec commonTools ids = some id ∧
        ids = before ++ id :: after ∧ id &&& commonTools ≠ 0 ∧
        ctx.toolValidateTest id testSpec = true ∧
        ∀ id' ∈ before, id' &&& commonTools ≠ 0 → ctx.toolValidateTest id' testSpec = false) ∨
      pickListed ctx testSpec commonTools ids = none ∧
        ∀ id ∈ ids, id &&& commonTools ≠ 0 → ctx.toolValidateTest id testSpec = false := by
  induction ids generalizing commonTools with
  | nil =>
    right
    simp [pickListed]
  | cons id ids ih =>
    have hrest : ∀ id' ∈ ids, id' ∈ toolBits := fun id' h => hids id' (List.mem_cons_of_mem _ h)
    simp only [pickListed]
    by_cases hmask : id &&& commonTools = 0
    · rw [if_pos hmask]
      rcases ih hrest commonTools with ⟨before, tid, after, h1, rfl, h3, h4, h5⟩ | ⟨h1, h2⟩
      · exact Or.inl ⟨id :: before, tid, after, h1, rfl, h3, h4,
          List.forall_mem_cons.2 ⟨fun hset => absurd hmask hset, h5⟩⟩
      · exact Or.inr ⟨h1, List.forall_mem_cons.2 ⟨fun hset => absurd hmask hset, h2⟩⟩
    rw [if_neg hmask]
    cases hvalid : ctx.toolValidateTest id testSpec with
    | true =>
      exact Or.inl ⟨[], id, ids, by simp, rfl, hmask, hvalid, by simp⟩
    | false =>
      -- a refused tool leaves the mask, and would be refused again
      have hclear : ∀ id' ∈ ids, id' &&& commonTools ≠ 0 →
          ctx.toolValidateTest id' testSpec = true → id' &&& (commonTools &&& ~~~id) ≠ 0 := by
        intro id' hmem hmask' hvalid'
        refine (toolBits_clear (hrest id' hmem) (hids id (by simp))).2 ⟨hmask', ?_⟩
        rintro rfl
        rw [hvalid] at hvalid'
        cases hvalid'
      have hsub : ∀ id' ∈ ids, id' &&& (commonTools &&& ~~~id) ≠ 0 → id' &&& commonTools ≠ 0 :=
        fun id' hmem h => ((toolBits_clear (hrest id' hmem) (hids id (by simp))).1 h).1
      have hagain : ∀ id' ∈ ids, (id' &&& (commonTools &&& ~~~id) ≠ 0 →
            ctx.toolValidateTest id' testSpec = false) →
          id' &&& commonTools ≠ 0 → ctx.toolValidateTest id' testSpec = false := by
        intro id' hmem h hmask'
        by_contra hvalid'
        rw [Bool.not_eq_false] at hvalid'
        rw [h (hclear id' hmem hmask' hvalid')] at hvalid'
        cases hvalid'
      simp only [Bool.not_false, if_true]
      rcases ih hrest (commonTools &&& ~~~id) with
        ⟨before, tid, after, h1, rfl, h3, h4, h5⟩ | ⟨h1, h2⟩
      · exact Or.inl ⟨id :: before, tid, after, h1, rfl, hsub tid (by simp) h3, h4,
          List.forall_mem_cons.2 ⟨fun _ => hvalid, fun id' hmem =>
            hagain id' (List.mem_append_left _ hmem) (h5 id' hmem)⟩⟩
      · exact Or.inr ⟨h1, List.forall_mem_cons.2 ⟨fun _ => hvalid, fun id' hmem =>
          hagain id' hmem (h2 id' hmem)⟩⟩

/-- A bit of the common mask that takes the options fits, and nothing else does. -/
theorem toolFits_iff {ends : TestEnds} {tid : BWLToolType} (htid : tid ∈ toolBits) :
    ToolFits ctx testType ends testSpec tid ↔
      tid &&& ctx.toolGetCommonTools ends.clientTools ends.serverTools testType ≠ 0 ∧
        ctx.toolValidateTest tid testSpec = true := by
  rw [ToolContext.mem_toolGetCommonTools htid]
  exact ⟨fun h => ⟨⟨h.client, h.server, h.testTypes⟩, h.validated⟩,
    fun h => ⟨h.1.1, h.1.2.1, h.1.2.2, h.2⟩⟩

theorem selectTool_toolId {ends : TestEnds} {testSpec' : BWLTestSpec}
    (h : selectTool ctx testType opt ends.clientTools ends.serverTools testSpec =
      (true, testSpec')) :
    testSpec'.toolId = pickedTool ctx testType opt ends testSpec := by
  unfold selectTool at h
  unfold pickedTool
  dsimp only at h ⊢
  split at h
  · cases h
  split at h
  · rename_i hids
    rw [if_pos hids]
    cases h
    rfl
  · rename_i hids
    rw [if_neg hids]
    split at h
    · cases h
    · cases h
      rfl

/-- The tool of a record that got as far as the requests. -/
theorem prepareOptions_toolId {ends : TestEnds} {testSpec' : BWLTestSpec}
    (h : prepareOptions ctx testType opt ends testSpec = (true, testSpec')) :
    testSpec'.toolId = pickedTool ctx testType opt ends (ends.address testSpec) := by
  unfold prepareOptions at h
  dsimp only at h
  split at h
  · cases h
  split at h
  · cases h
  · rename_i found hfound
    split at h
    · cases h
    · cases h
      rw [← selectTool_toolId hfound]

/-- What the loops leave is chosen exactly when a candidate fits. -/
theorem pickedTool_chosen_iff {ends : TestEnds} (htype : testType ≠ .undefined)
    (hids : ∀ id ∈ opt.toolIds, id ∈ toolBits) :
    ToolChosen ctx testType opt ends testSpec (pickedTool ctx testType opt ends testSpec) ↔
      ∃ tid ∈ candidates opt, ToolFits ctx testType ends testSpec tid := by
  have htool : ∀ {tid}, ToolFits ctx testType ends testSpec tid →
      ∃ tool ∈ ctx.tools, tool.id = tid := by
    intro tid hfit
    have htypes := hfit.testTypes
    unfold ToolContext.toolGetTestTypesByID at htypes
    split at htypes
    · rename_i tool hfound
      exact ⟨tool, ToolContext.find?_some hfound⟩
    · exact absurd htypes.symm htype
  unfold candidates pickedTool
  dsimp only
  generalize hcommon : ctx.toolGetCommonTools ends.clientTools ends.serverTools testType = common
  have hfits : ∀ {tid}, tid ∈ toolBits → (ToolFits ctx testType ends testSpec tid ↔
      tid &&& common ≠ 0 ∧ ctx.toolValidateTest tid testSpec = true) := by
    intro tid htid
    rw [← hcommon]
    exact toolFits_iff htid
  by_cases hempty : opt.toolIds = []
  · rw [if_pos hempty, if_pos hempty]
    constructor
    · exact fun hchosen => ⟨_, hchosen.single, hchosen.fits⟩
    · rintro ⟨tid, htid, hfit⟩
      rcases pickTool_spec toolBits with ⟨hmem, hpicked⟩ | ⟨-, hnone⟩
      · have hpick := (hfits hmem).2 hpicked
        exact ⟨htool hpick, hmem, hpick, fun hne => absurd hempty hne⟩
      · obtain ⟨hset, hvalid⟩ := (hfits htid).1 hfit
        rw [hnone tid htid hset] at hvalid
        cases hvalid
  · rw [if_neg hempty, if_neg hempty]
    constructor
    · intro hchosen
      obtain ⟨before, after, hsplit, -⟩ := hchosen.first hempty
      exact ⟨_, List.mem_iff_append.2 ⟨before, after, hsplit⟩, hchosen.fits⟩
    · rintro ⟨tid, htid, hfit⟩
      rcases pickListed_spec hids common with
        ⟨before, id, after, hpick, hsplit, hset, hvalid, hbefore⟩ | ⟨-, hnone⟩
      · rw [hpick, Option.getD_some]
        have hmem : id ∈ opt.toolIds := List.mem_iff_append.2 ⟨before, after, hsplit⟩
        have hpicked := (hfits (hids id hmem)).2 ⟨hset, hvalid⟩
        refine ⟨htool hpicked, hids id hmem, hpicked, fun _ => ⟨before, after, hsplit, ?_⟩⟩
        intro id' hid' hfit'
        have hmem' : id' ∈ opt.toolIds := hsplit ▸ List.mem_append_left _ hid'
        obtain ⟨hset', hvalid'⟩ := (hfits (hids id' hmem')).1 hfit'
        rw [hbefore id' hid' hset'] at hvalid'
        cases hvalid'
      · obtain ⟨hset, hvalid⟩ := (hfits (hids tid htid)).1 hfit
        rw [hnone tid htid hset] at hvalid
        cases hvalid

/-- When no candidate fits, the first loop leaves no tool and the second the one of the record. -/
theorem pickedTool_of_not_fits {ends : TestEnds} (hids : ∀ id ∈ opt.toolIds, id ∈ toolBits)
    (hnone : ∀ tid ∈ candidates opt, ¬ ToolFits ctx testType ends testSpec tid) :
    pickedTool ctx testType opt ends testSpec =
      if opt.toolIds = [] then 0 else testSpec.toolId := by
  unfold candidates at hnone
  unfold pickedTool
  dsimp only
  by_cases hempty : opt.toolIds = []
  · rw [if_pos hempty] at hnone
    rw [if_pos hempty, if_pos hempty]
    rcases pickTool_spec toolBits with ⟨hmem, hpicked⟩ | ⟨hzero, -⟩
    · exact absurd ((toolFits_iff hmem).2 hpicked) (hnone _ hmem)
    · exact hzero
  · rw [if_neg hempty] at hnone
    rw [if_neg hempty, if_neg hempty]
    rcases pickListed_spec hids _ with ⟨before, id, after, -, hsplit, hset, hvalid, -⟩ | ⟨hpick, -⟩
    · have hmem : id ∈ opt.toolIds := List.mem_iff_append.2 ⟨before, after, hsplit⟩
      exact absurd ((toolFits_iff (hids id hmem)).2 ⟨hset, hvalid⟩) (hnone id hmem)
    · rw [hpick]
      rfl

/-- **A tool is chosen exactly when a candidate fits**, whatever the tests of the series before left
    in the record. -/
theorem tool_choice_iff {tools : Option (List Char)}
    (hmain : ctx.toolIds testType tools = some opt.toolIds) (htype : testType ≠ .undefined)
    (start : BWLTestSpec) (earlier : List TestEnds) {ends : TestEnds} {testSpec' : BWLTestSpec}
    (h : prepareOptions ctx testType opt ends (seriesRecord ctx testType opt start earlier) =
      (true, testSpec')) :
    ToolChosen ctx testType opt ends
        (ends.address (seriesRecord ctx testType opt start earlier)) testSpec'.toolId ↔
      ∃ tid ∈ candidates opt, ToolFits ctx testType ends
        (ends.address (seriesRecord ctx testType opt start earlier)) tid := by
  rw [prepareOptions_toolId h]
  exact pickedTool_chosen_iff htype fun id hid => (ToolContext.toolIds_mem hmain id hid).1

end Spec

/-! ## A series and a traceroute -/

/-- The options of a throughput test without a `-T` option. -/
def defaultOptions : ToolOptions := ⟨[BWL_TOOL_IPERF3, BWL_TOOL_IPERF, BWL_TOOL_NUTTCP], false, 0⟩

/-- Two ends that have the same tools. -/
def campusEnds (tools : UInt32) : TestEnds :=
  ⟨some campusSender, some campusReceiver, tools, tools, some 0⟩

/-- A TCP test with a bandwidth, which iperf does not take. -/
def pacedTcp : BWLTestSpec := { BWLTestSpec.zero with bandwidth := 1000000 }

/-- The second test of a series: the first found iperf3, which is gone, and iperf does not take the
    options. -/
theorem tool_choice_iff_nuttcp :
    ToolChosen allTools .throughput defaultOptions
      (campusEnds (BWL_TOOL_IPERF ||| BWL_TOOL_NUTTCP))
      ((campusEnds (BWL_TOOL_IPERF ||| BWL_TOOL_NUTTCP)).address
        (seriesRecord allTools .throughput defaultOptions pacedTcp [campusEnds BWL_TOOL_IPERF3]))
      BWL_TOOL_NUTTCP := by
  have hmain : allTools.toolIds .throughput none = some defaultOptions.toolIds := by decide
  have h : prepareOptions allTools .throughput defaultOptions
      (campusEnds (BWL_TOOL_IPERF ||| BWL_TOOL_NUTTCP))
      (seriesRecord allTools .throughput defaultOptions pacedTcp [campusEnds BWL_TOOL_IPERF3]) =
        (true, _) := rfl
  exact (tool_choice_iff hmain (by decide) pacedTcp [campusEnds BWL_TOOL_IPERF3] h).2
    ⟨BWL_TOOL_NUTTCP, by decide, ⟨by decide, by decide, by decide, by decide⟩⟩

/-- A traceroute that leaves its first hop out, which tracepath does not take. -/
def secondHop : BWLTestSpec := { BWLTestSpec.zero with tracerouteFirstTtl := 2 }

/-- Between two ends that have only tracepath in common such a traceroute is requested with the tool
    0; and the second test of a series with `-T iperf` is requested with iperf although the ends have
    only nuttcp in common by then. -/
theorem no_tool_chosen :
    (allTools.toolIds .traceroute none = some [] ∧
      ∃ testSpec', prepareOptions allTools .traceroute ⟨[], false, 0⟩
          (campusEnds BWL_TOOL_TRACEPATH) secondHop = (true, testSpec') ∧
        testSpec'.toolId = 0 ∧
        ¬ ToolChosen allTools .traceroute ⟨[], false, 0⟩ (campusEnds BWL_TOOL_TRACEPATH)
          ((campusEnds BWL_TOOL_TRACEPATH).address secondHop) testSpec'.toolId) ∧
    allTools.toolIds .throughput (some "iperf".toList) = some [BWL_TOOL_IPERF] ∧
      ∃ record testSpec', prepareOptions allTools .throughput ⟨[BWL_TOOL_IPERF], false, 0⟩
          (campusEnds BWL_TOOL_IPERF) .zero = (true, record) ∧
        prepareOptions allTools .throughput ⟨[BWL_TOOL_IPERF], false, 0⟩
          (campusEnds BWL_TOOL_NUTTCP) record = (true, testSpec') ∧
        testSpec'.toolId = BWL_TOOL_IPERF ∧
        ¬ ToolChosen allTools .throughput ⟨[BWL_TOOL_IPERF], false, 0⟩ (campusEnds BWL_TOOL_NUTTCP)
          ((campusEnds BWL_TOOL_NUTTCP).address record) testSpec'.toolId := by
  refine ⟨⟨by decide, _, rfl, by decide, ?_⟩, by decide, _, _, rfl, rfl, by decide, ?_⟩
  · intro h
    exact absurd h.single (by decide)
  · intro h
    exact h.fits.client (by decide)

end Bwctl
