import Mathlib.Computability.RegularExpressions
import MarketSupport.Planning.Compiler

/-!
# Direct send commands

A message that is one of a closed set of send commands is planned without the planner.
-/

namespace MarketSupport

/-! ## Messages -/

/-- The functions of Python on texts that depend on the tables of Unicode. -/
structure TextFunctions where
  /-- `unicodedata.normalize("NFKC", ·)`. -/
  nfkc : String → String
  /-- `str.lower`. -/
  lower : String → String

/-- `_TRAILING_PUNCTUATION`. -/
def trailingPunctuation : List Char :=
  [' ', ',', '，', '.', '。', '!', '！', '?', '？', '~', '～', ';', '；']

def normalizeCompactMessage (text : TextFunctions) (message : String) : String :=
  let compact := (text.nfkc message).toList.filter (!isPySpace ·)
  let isPunctuation (c : Char) : Bool := c ∈ trailingPunctuation
  String.ofList ((compact.dropWhile isPunctuation).reverse.dropWhile isPunctuation).reverse

/-! ## Commands -/

/-- The text of a type of artifacts, as a pattern id has it. -/
def AvailableArtifactType.text : AvailableArtifactType → String
  | .materialPack => "material_pack"
  | .weeklyReport => "weekly_report"
  | .monthlyReport => "monthly_report"

/-- The capability that sends a type of artifacts: its text, followed by `.send`. -/
def AvailableArtifactType.sendManifest : AvailableArtifactType → CapabilityManifestIdV2
  | .materialPack => .materialPackSend
  | .weeklyReport => .weeklyReportSend
  | .monthlyReport => .monthlyReportSend

structure ArtifactCommand where
  resolveType : AvailableArtifactType
  actionType : OutboundActionType
  userNeed : String
  deriving DecidableEq, Repr

/-- A word of a pattern, with `re.IGNORECASE`. -/
def word (s : String) : RegularExpression Char :=
  (s.toList.map fun c => .char c.toLower + .char c.toUpper).prod

/-- `(?:…|…)`. -/
def oneOf (words : List String) : RegularExpression Char := (words.map word).sum

/-- `(?:…)?`. -/
def maybe (pattern : RegularExpression Char) : RegularExpression Char := 1 + pattern

/-- One word of `_COMMAND_PREFIX`. -/
def courtesy : RegularExpression Char :=
  oneOf ["老师", "请", "麻烦", "烦请", "辛苦", "劳驾", "帮忙", "帮我"] *
    maybe (oneOf [",", "，", ":", "："])

/-- `_COMMAND_PREFIX`. -/
def commandPrefix : RegularExpression Char := maybe courtesy * maybe courtesy

/-- `_SEND_VERB`. -/
def sendVerb : RegularExpression Char :=
  oneOf ["给我发", "发给我", "发我", "发送", "转发", "发"] + word "来" * maybe (oneOf ["个", "一份", "一下"])

/-- `_FILLER`. -/
def filler : RegularExpression Char :=
  (oneOf ["一下", "下", "一份", "一个", "个", "最新", "本期", "当前", "这份", "这个", "一版", "版"]).star

/-- `_pattern_for_aliases`. -/
def patternForAliases (aliases bareAliases : List String) : RegularExpression Char :=
  commandPrefix * sendVerb * filler * oneOf aliases * filler * maybe (word "给我") +
    oneOf bareAliases

/-- `_ARTIFACTS`. -/
def directSendArtifacts : List (ArtifactCommand × RegularExpression Char) :=
  [(⟨.weeklyReport, .sendWeeklyReport, "direct send weekly report command"⟩,
      patternForAliases ["周报", "周度报告"] ["周报"]),
    (⟨.monthlyReport, .sendMonthlyReport, "direct send monthly report command"⟩,
      patternForAliases ["月报", "月度报告"] ["月报"]),
    (⟨.materialPack, .sendMaterialPack, "direct send material pack command"⟩,
      patternForAliases ["材料包", "推介材料", "产品材料", "路演材料", "一页通", "开放日历", "ppt"]
        ["材料包", "一页通", "开放日历"])]

/-- `_match_direct_artifact`. -/
def matchDirectArtifact (normalizedMessage : String) : Option ArtifactCommand :=
  (directSendArtifacts.find? fun artifact => artifact.2.rmatch normalizedMessage.toList).map (·.1)

/-! ## Plans -/

inductive DirectSendStatus where
  | noMatch
  | directAction
  | needsMaterialPackOption
  deriving DecidableEq, Repr

structure DirectSendCommandResult where
  status : DirectSendStatus
  plan : Option ExecutionPlanV2 := none
  reasonCode : String := ""
  patternId : String := ""
  deriving DecidableEq, Repr

/-- The unit that sends the artifact of a command. -/
def actionUnit (command : ArtifactCommand) : DeterministicPlanUnitV1 where
  unitId := "direct-send-" ++ command.resolveType.text
  manifestId := command.resolveType.sendManifest
  answerabilityPolicy := .send

/-- The unit that asks which material pack is meant. -/
def confirmationUnit : DeterministicPlanUnitV1 where
  unitId := "direct-send-material-pack-confirmation"
  manifestId := .generalClarification
  answerabilityPolicy := .clarify
  ambiguitySlots := ["material_pack_option"]

variable (text : TextFunctions) (encoding : PlanEncoding) (request : KernelReplyRequestV1)
  (policy : PolicyManifestV2) (authority : BusinessScopeAuthorityV1)

/-- `_action_plan`. -/
def actionPlan (command : ArtifactCommand) : Except PlanningException ExecutionPlanV2 :=
  finalizeExecutionPlanV2 policy authority encoding
    (.deterministic ⟨command.userNeed, [actionUnit command], "compliant_product_request"⟩)
    .directSend

/-- `_confirmation_plan`. -/
def confirmationPlan : Except PlanningException ExecutionPlanV2 :=
  finalizeExecutionPlanV2 policy authority encoding
    (.deterministic ⟨"confirm material pack option before direct send", [confirmationUnit],
      "compliant_product_request"⟩) .directSend

def matchDirectSendCommand : Except PlanningException DirectSendCommandResult :=
  let normalized := normalizeCompactMessage text request.message
  if normalized = "" then .ok { status := .noMatch, reasonCode := "empty_message" }
  else match matchDirectArtifact normalized with
    | none => .ok { status := .noMatch, reasonCode := "no_match" }
    | some command =>
      let patternId := "direct_send." ++ command.resolveType.text
      if command.actionType ∉ policy.allowedOutboundActions then
        .ok { status := .noMatch, reasonCode := "action_not_allowed_by_policy", patternId }
      else if command.actionType = .sendMaterialPack ∧ policy.materialPackOptions ≠ [] then do
        let plan ← confirmationPlan encoding policy authority
        return {
          status := .needsMaterialPackOption
          plan := some plan
          reasonCode := "material_pack_option_confirmation_required"
          patternId }
      else do
        let plan ← actionPlan encoding policy authority command
        return {
          status := .directAction
          plan := some plan
          reasonCode := "direct_send_command_matched"
          patternId }

/-- No match, or a plan that the validator accepts. -/
def DirectSendCommandResult.Accepted (policy : PolicyManifestV2)
    (result : DirectSendCommandResult) : Prop :=
  result.status = .noMatch ∧ result.plan = none ∨
    ∃ plan, result.plan = some plan ∧ validateExecutionPlanV2 plan policy = []

/-! ## Units of commands -/

variable {text encoding request policy authority}

/-- Every command is one of the closed set. -/
theorem mem_of_matchDirectArtifact {normalized : String} {command : ArtifactCommand}
    (h : matchDirectArtifact normalized = some command) :
    command ∈ directSendArtifacts.map (·.1) := by
  obtain ⟨artifact, hfound, rfl⟩ := Option.map_eq_some_iff.mp h
  exact List.mem_map_of_mem (List.mem_of_find?_eq_some hfound)

/-- The parts of a command fit each other. -/
theorem command_of_mem {command : ArtifactCommand} (h : command ∈ directSendArtifacts.map (·.1)) :
    (actionUnit command).Plain ∧
      (command.resolveType.sendManifest.runtimeCapability.bind (·.outboundActionType) =
        some command.actionType) ∧
      1 ≤ command.userNeed.length ∧ command.userNeed.length ≤ 500 := by
  simp only [directSendArtifacts, List.map_cons, List.map_nil, List.mem_cons, List.not_mem_nil,
    or_false] at h
  rcases h with rfl | rfl | rfl <;> exact ⟨⟨by decide, rfl, rfl⟩, rfl, by decide⟩

theorem confirmationUnit_general : confirmationUnit.General :=
  ⟨rfl, nofun, by decide, rfl, rfl⟩

end MarketSupport
