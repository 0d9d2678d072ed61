import Bwctl.Policy.Parse
import Bwctl.Protocol.TestRequest
import Mathlib.Data.Nat.Bitwise

/-!
# The tools (`bwlib/tools.c` and the tool drivers)

A tool is a bit of a mask, with a test type and a function that looks at the options of a test.

* `toolValidateTest` — whether a tool takes the options of a test.
* `mem_toolGetCommonTools` — the bits of the common mask: the tools of both ends with one test type.
* `toolIds_mem` — the list `main` makes of a `-T` option, or of its own default.
-/

set_option autoImplicit false

namespace Bwctl

/-! ## Definitions of tools -/

/-- `BWLTestType`. -/
inductive BWLTestType where
  | undefined
  | throughput
  | latency
  | traceroute
  deriving DecidableEq, Repr

/-- What a tool says of itself and its validation looks at. -/
structure ToolSupport where
  serverSends : Bool
  endpointless : Bool

/-- `BWLToolDefinitionRec`, what the client uses of it. -/
structure ToolDefinition where
  id : BWLToolType
  name : String
  validateTest : ToolSupport → BWLTestSpec → Bool
  testTypes : BWLTestType
  support : ToolSupport
  standardTesterPort : UInt16
  parsableFormat : UInt8

/-- `_BWLToolGenericValidateTest`. -/
def toolGenericValidateTest (tool : ToolSupport) (testSpec : BWLTestSpec) : Bool :=
  if testSpec.serverSends && !tool.serverSends then false
  else if testSpec.noServerEndpoint && !tool.endpointless then false
  else true

/-- A `switch` over a character that is only looked at when it is set. -/
def charAllowed (allowed : List Char) (c : UInt8) : Bool :=
  c == 0 || allowed.any fun a => a.toNat == c.toNat

def unitChars : List Char := ['b', 'B', 'k', 'K', 'm', 'M', 'g', 'G', 'a', 'A']

/-- `IperfValidateTest`. -/
def iperfValidateTest (tool : ToolSupport) (testSpec : BWLTestSpec) : Bool :=
  if !charAllowed unitChars testSpec.units then false
  else if !charAllowed ['c'] testSpec.outformat then false
  else if !testSpec.udp && testSpec.bandwidth != 0 then false
  else toolGenericValidateTest tool testSpec

/-- `Iperf3ValidateTest`. -/
def iperf3ValidateTest (tool : ToolSupport) (testSpec : BWLTestSpec) : Bool :=
  if !charAllowed unitChars testSpec.units then false
  else if !charAllowed ['c', 'J'] testSpec.outformat then false
  else toolGenericValidateTest tool testSpec

/-- `NuttcpValidateTest`: a UDP test is only warned about. -/
def nuttcpValidateTest (tool : ToolSupport) (testSpec : BWLTestSpec) : Bool :=
  toolGenericValidateTest tool testSpec

/-- `TracepathValidateTest`. -/
def tracepathValidateTest (tool : ToolSupport) (testSpec : BWLTestSpec) : Bool :=
  if testSpec.tracerouteFirstTtl != 0 then false
  else if testSpec.tracerouteLastTtl != 0 then false
  else if !charAllowed ['a'] testSpec.outformat then false
  else toolGenericValidateTest tool testSpec

/-- `tool_list`.  The definition of thrulay lacks its `kill` function: its test type is taken for
    one, and the fields from the test type on are zero. -/
def toolDefinitions : List ToolDefinition :=
  [⟨BWL_TOOL_OWAMP, "owamp", toolGenericValidateTest, .latency, ⟨true, true⟩, 861, 0⟩,
   ⟨BWL_TOOL_TRACEPATH, "tracepath", tracepathValidateTest, .traceroute, ⟨true, true⟩, 0, 0⟩,
   ⟨BWL_TOOL_TRACEROUTE, "traceroute", toolGenericValidateTest, .traceroute, ⟨true, true⟩, 0, 0⟩,
   ⟨BWL_TOOL_PARIS_TRACEROUTE, "paris-traceroute", toolGenericValidateTest, .traceroute,
     ⟨true, true⟩, 0, 0⟩,
   ⟨BWL_TOOL_PING, "ping", toolGenericValidateTest, .latency, ⟨true, true⟩, 0, 0⟩,
   ⟨BWL_TOOL_IPERF, "iperf", iperfValidateTest, .throughput, ⟨false, true⟩, 5001, 0⟩,
   ⟨BWL_TOOL_IPERF3, "iperf3", iperf3ValidateTest, .throughput, ⟨true, true⟩, 5201, 0x4a⟩,
   ⟨BWL_TOOL_NUTTCP, "nuttcp", nuttcpValidateTest, .throughput, ⟨true, true⟩, 5001, 0⟩,
   ⟨BWL_TOOL_THRULAY, "thrulay", toolGenericValidateTest, .undefined, ⟨false, false⟩, 0, 0⟩]

/-- The tools of a context: those of `tool_list` that are compiled in. -/
structure ToolContext where
  tools : List ToolDefinition
  compiled : tools ⊆ toolDefinitions

/-- A program with every tool compiled in. -/
def allTools : ToolContext := ⟨toolDefinitions, List.Subset.refl _⟩

namespace ToolContext

variable (ctx : ToolContext)

/-- The loop over `ctx->tool_list`. -/
def find? (id : BWLToolType) : Option ToolDefinition := ctx.tools.find? fun tool => tool.id == id

/-- `BWLToolGetID`; `BWL_TOOL_UNDEFINED` is `none`. -/
def toolGetID (name : List Char) : Option BWLToolType :=
  (ctx.tools.find? fun tool => eqIgnoreCase tool.name.toList name).map (·.id)

/-- `BWLToolGetTestTypesByID`. -/
def toolGetTestTypesByID (id : BWLToolType) : BWLTestType :=
  match ctx.find? id with
  | some tool => tool.testTypes
  | none => .undefined

/-- `BWLToolValidateTest`. -/
def toolValidateTest (id : BWLToolType) (testSpec : BWLTestSpec) : Bool :=
  match ctx.find? id with
  | some tool => tool.validateTest tool.support testSpec
  | none => false

/-- `BWLToolGetParsableFormatByID`. -/
def toolGetParsableFormatByID (id : BWLToolType) : UInt8 :=
  match ctx.find? id with
  | some tool => tool.parsableFormat
  | none => 0

/-- `BWLToolStandardTesterPortByID`. -/
def toolStandardTesterPortByID (id : BWLToolType) : UInt16 :=
  match ctx.find? id with
  | some tool => tool.standardTesterPort
  | none => 0

end ToolContext

/-- The values of `tid` in `for(tid = 1; tid > 0; tid <<= 1)`. -/
def toolBits : List UInt32 := (List.range 32).map fun i => 1 <<< UInt32.ofNat i

namespace ToolContext

/-- `BWLToolGetCommonTools`. -/
def toolGetCommonTools (ctx : ToolContext) (tools1 tools2 : UInt32) (testType : BWLTestType) :
    UInt32 :=
  toolBits.foldl (fun commonTools tid =>
    if ctx.toolGetTestTypesByID tid = testType then commonTools else commonTools &&& ~~~tid)
    (tools1 &&& tools2)

/-- The loop over the names of a `-T` option; `none` is the end of the program. -/
def parseTools (ctx : ToolContext) (testType : BWLTestType) :
    List (List Char) → Option (List BWLToolType)
  | [] => some []
  | name :: names =>
    match ctx.toolGetID name with
    | none => none
    | some id =>
      if testType ≠ ctx.toolGetTestTypesByID id then none
      else (parseTools ctx testType names).map (id :: ·)

/-- `app.opt.tools` behind the defaults of `main`: a throughput test has a list of its own. -/
def toolsOption (testType : BWLTestType) (tools : Option (List Char)) : Option (List Char) :=
  match testType with
  | .traceroute => tools
  | .latency => tools
  | _ => some (tools.getD "iperf3,iperf,nuttcp".toList)

/-- `app.opt.tool_ids`: the tools of the words `strtok` finds between the commas. -/
def toolIds (ctx : ToolContext) (testType : BWLTestType) (tools : Option (List Char)) :
    Option (List BWLToolType) :=
  match toolsOption testType tools with
  | none => some []
  | some text =>
    ctx.parseTools testType ((text.splitOn ',').filter fun name => !name.isEmpty)

end ToolContext

/-! ## Masks of tools -/

/-- Two bits are the same or disjoint. -/
theorem toolBits_and_not {a b : UInt32} (ha : a ∈ toolBits) (hb : b ∈ toolBits) :
    a &&& ~~~b = if a = b then 0 else a := by
  have h : (toolBits.all fun a => toolBits.all fun b =>
      a &&& ~~~b == if a = b then 0 else a) = true := by
    decide +kernel
  exact beq_iff_eq.1 (List.all_eq_true.1 (List.all_eq_true.1 h a ha) b hb)

/-- A bit of a mask that another bit is taken out of. -/
theorem toolBits_clear {a b mask : UInt32} (ha : a ∈ toolBits) (hb : b ∈ toolBits) :
    a &&& (mask &&& ~~~b) ≠ 0 ↔ a &&& mask ≠ 0 ∧ a ≠ b := by
  have hassoc : a &&& (mask &&& ~~~b) = mask &&& (a &&& ~~~b) := by
    rw [← UInt32.and_assoc, UInt32.and_comm a mask, UInt32.and_assoc]
  rw [hassoc, toolBits_and_not ha hb, UInt32.and_comm a mask]
  by_cases hab : a = b
  · simp [hab]
  · simp [hab]

/-- A bit meets a mask when it is set there. -/
theorem toolBits_and_ne {a : UInt32} (ha : a ∈ toolBits) :
    ∃ i, ∀ mask : UInt32, a &&& mask ≠ 0 ↔ mask.toNat.testBit i = true := by
  obtain ⟨i, hi, rfl⟩ := List.mem_map.1 ha
  rw [List.mem_range] at hi
  refine ⟨i, fun mask => ?_⟩
  have hpow : 2 ^ i < 2 ^ 32 := Nat.pow_lt_pow_right (by omega) hi
  have hto : ((1 <<< UInt32.ofNat i : UInt32)).toNat = 2 ^ i := by
    rw [UInt32.toNat_shiftLeft, UInt32.toNat_ofNat_of_lt' (by simp [UInt32.size]; omega),
      Nat.mod_eq_of_lt hi, Nat.shiftLeft_eq]
    simp only [UInt32.reduceToNat, Nat.one_mul]
    exact Nat.mod_eq_of_lt hpow
  rw [Ne, ← UInt32.toNat_inj, UInt32.toNat_and, hto, Nat.two_pow_and]
  cases mask.toNat.testBit i with
  | false => simp
  | true => simp

theorem toolBits_and {a tools1 tools2 : UInt32} (ha : a ∈ toolBits) :
    a &&& (tools1 &&& tools2) ≠ 0 ↔ a &&& tools1 ≠ 0 ∧ a &&& tools2 ≠ 0 := by
  obtain ⟨i, hmask⟩ := toolBits_and_ne ha
  rw [hmask, hmask, hmask, UInt32.toNat_and, Nat.testBit_and, Bool.and_eq_true]

namespace ToolContext

variable {ctx : ToolContext}

theorem find?_some {id : BWLToolType} {tool : ToolDefinition} (h : ctx.find? id = some tool) :
    tool ∈ ctx.tools ∧ tool.id = id :=
  ⟨List.mem_of_find?_eq_some h, by simpa using List.find?_some h⟩

/-- **The common tools** are those of both ends with the test type. -/
theorem mem_toolGetCommonTools {a tools1 tools2 : UInt32} {testType : BWLTestType}
    (ha : a ∈ toolBits) :
    a &&& ctx.toolGetCommonTools tools1 tools2 testType ≠ 0 ↔
      a &&& tools1 ≠ 0 ∧ a &&& tools2 ≠ 0 ∧ ctx.toolGetTestTypesByID a = testType := by
  -- the loop takes out every bit whose tool has another type
  have hloop : ∀ bits mask, bits ⊆ toolBits →
      (a &&& bits.foldl (fun commonTools tid =>
          if ctx.toolGetTestTypesByID tid = testType then commonTools
          else commonTools &&& ~~~tid) mask ≠ 0 ↔
        a &&& mask ≠ 0 ∧ (a ∈ bits → ctx.toolGetTestTypesByID a = testType)) := by
    intro bits
    induction bits with
    | nil =>
      intro mask _
      simp
    | cons b bits ih =>
      intro mask hbits
      obtain ⟨hb, hbits⟩ := List.cons_subset.1 hbits
      rw [List.foldl_cons, ih _ hbits]
      by_cases htype : ctx.toolGetTestTypesByID b = testType
      · rw [if_pos htype, List.mem_cons]
        constructor
        · rintro ⟨hmask, h⟩
          refine ⟨hmask, ?_⟩
          rintro (rfl | hmem)
          · exact htype
          · exact h hmem
        · exact fun h => ⟨h.1, fun hmem => h.2 (Or.inr hmem)⟩
      · rw [if_neg htype, toolBits_clear ha hb, List.mem_cons]
        constructor
        · rintro ⟨⟨hmask, hne⟩, h⟩
          exact ⟨hmask, fun hmem => h (hmem.resolve_left hne)⟩
        · rintro ⟨hmask, h⟩
          refine ⟨⟨hmask, ?_⟩, fun hmem => h (Or.inr hmem)⟩
          rintro rfl
          exact htype (h (Or.inl rfl))
  unfold toolGetCommonTools
  rw [hloop _ _ (List.Subset.refl _), toolBits_and ha, and_assoc]
  simp [ha]

/-- The tools of a `-T` option are tools of the program with its test type. -/
theorem parseTools_mem {testType : BWLTestType} {names : List (List Char)}
    {ids : List BWLToolType} (h : ctx.parseTools testType names = some ids) :
    ∀ id ∈ ids, id ∈ toolBits ∧ ctx.toolGetTestTypesByID id = testType := by
  have hbits : ∀ tool ∈ toolDefinitions, tool.id ∈ toolBits := by
    have hids : (toolDefinitions.all fun tool => toolBits.contains tool.id) = true := by
      decide +kernel
    exact fun tool htool => List.contains_iff_mem.1 (List.all_eq_true.1 hids tool htool)
  induction names generalizing ids with
  | nil =>
    cases h
    simp
  | cons name names ih =>
    simp only [parseTools] at h
    split at h
    · cases h
    rename_i id hid
    split at h
    · cases h
    rename_i htype
    obtain ⟨rest, hrest, rfl⟩ := Option.map_eq_some_iff.1 h
    intro id' hid'
    rcases List.mem_cons.1 hid' with rfl | hmem
    · obtain ⟨tool, htool, rfl⟩ := Option.map_eq_some_iff.1 hid
      exact ⟨hbits _ (ctx.compiled (List.mem_of_find?_eq_some htool)),
        (not_not.1 htype).symm⟩
    · exact ih hrest id' hmem

/-- The list of a run holds tools of the program with its test type. -/
theorem toolIds_mem {testType : BWLTestType} {tools : Option (List Char)} {ids : List BWLToolType}
    (h : ctx.toolIds testType tools = some ids) :
    ∀ id ∈ ids, id ∈ toolBits ∧ ctx.toolGetTestTypesByID id = testType := by
  unfold toolIds at h
  split at h
  · cases h
    simp
  · exact parseTools_mem h

end ToolContext

end Bwctl
