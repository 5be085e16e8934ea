import MarketSupport.Evidence.Executor
import MarketSupport.Library.Programs
import MarketSupport.Planning.Compiler
import MarketSupport.Validation.Alignment

/-!
# Candidates from plans

`build_candidate_from_plan_v2` collects the evidence of a plan, lets the material pack
resolution replace the plan, and renders a reply.
-/

namespace MarketSupport

open Library Program

/-! ## Services -/

inductive PlannerRetryPhase where
  | schemaRepair
  | alignmentReplan
  deriving DecidableEq, Repr

/-- `PlannerRetryOverlayV1`; the message of its one issue is its feedback. -/
structure PlannerRetryOverlayV1 where
  attempt : ℕ
  phase : PlannerRetryPhase
  phaseAttempt : ℕ
  feedback : String
  deriving DecidableEq, Repr

structure ComposerRetryOverlayV1 where
  attempt : ℕ
  feedback : String
  deriving DecidableEq, Repr

/-- What the composer ends with when it does not fail. -/
inductive ComposerOutcome where
  | output (response : ReplyResponse)
  | unavailable
  | outputRejected
  deriving DecidableEq, Repr

/-- What the evidence of a plan is made from: the results of the adapter, if its client did not
fail, and the facts of the other sources. -/
structure EvidenceSources where
  resolved : Option (List AdapterResolveResult)
  collected : List CanonicalEvidenceFactV1
  deriving DecidableEq

/-- The calls of the runtime to the language models, to the sources of evidence, and for new
objects and identifiers. -/
inductive RuntimeCall where
  | verify (candidate : V2AttemptResult) (attempt : ℕ)
  | plannerRound (overlay : Option PlannerRetryOverlayV1)
  | collect (plan : ExecutionPlanV2) (refetch : Option AlignmentRefetchRequestV1)
  | compose (plan : ExecutionPlanV2) (evidence : CanonicalEvidenceExecutionResultV1)
      (overlay : Option ComposerRetryOverlayV1)
  | newObject
  | uuid

/-- A planner round returns a compiled plan, or the summary of an error in it. -/
def RuntimeCall.Answer : RuntimeCall → Type
  | .verify .. => Except AlignmentException ReplyAlignmentVerdict
  | .plannerRound .. => Except AlignmentException (String ⊕ Object ExecutionPlanV2)
  | .collect .. => Except EvidenceException EvidenceSources
  | .compose .. => Except AlignmentException ComposerOutcome
  | .newObject => ℕ
  | .uuid => UuidHex

abbrev RuntimeProgram := Program RuntimeCall RuntimeCall.Answer AlignmentException

abbrev RuntimeExchange := Exchange RuntimeCall RuntimeCall.Answer

/-- The class of an exception that the executor raises. -/
def EvidenceException.name : EvidenceException → String
  | .businessFactsContractError _ => "BusinessFactsContractError"
  | .canonicalGroundingContractError _ => "CanonicalGroundingContractError"
  | .validationError => "ValidationError"
  | .otherError name => name

/-- What raises in the executor is no `AgentRuntimeError`. -/
def ofEvidence {α : Type} (x : Except EvidenceException α) : RuntimeProgram α :=
  ofExcept (x.mapError (.otherError ·.name))

def compose (plan : ExecutionPlanV2) (evidence : CanonicalEvidenceExecutionResultV1)
    (overlay : Option ComposerRetryOverlayV1) : RuntimeProgram ComposerOutcome :=
  call (.compose plan evidence overlay) (fun answer => ofExcept answer)

/-- A new object with the value. -/
def newObject {α : Type} (value : α) : RuntimeProgram (Object α) :=
  call .newObject (fun (address : ℕ) => done (.ok ⟨address, value⟩))

/-! ## The runtime -/

/-- The runtime and the request of a turn. `inputBlock` is the text and the reason code of the
input decision that blocks a plan, when it has a handoff text. -/
structure CandidateRuntime where
  encoding : PlanEncoding
  hashes : EvidenceHashes
  policy : PolicyManifestV2
  authority : BusinessScopeAuthorityV1
  scene : Scene
  refusalTextForReason : String → String
  inputBlock : ExecutionPlanV2 → Option (String × String)
  imageMarkerFilenames : String → List String

variable (runtime : CandidateRuntime)

/-! ## Evidence -/

/-- `execute_v2` in a turn, for a plan whose refetch request was validated: the scope of the
request is that of the authority. -/
def execute (plan : ExecutionPlanV2) (refetch : Option AlignmentRefetchRequestV1) :
    RuntimeProgram (Object CanonicalEvidenceExecutionResultV1) :=
  call (.collect plan refetch) fun answer => do
    let sources ← ofEvidence answer
    let evidence ← ofEvidence (executeV2 plan runtime.policy runtime.hashes
      runtime.authority.scope runtime.authority (fun _ => sources.resolved) sources.collected)
    newObject evidence

/-! ## Replies -/

/-- `_reply`. -/
def plainReply (kind : ReplyKind) (text : String) : ReplyResponse := ⟨"", ⟨kind, text, []⟩, []⟩

def unableText : String := "老师，这个信息我这边暂时无法确认，先不回答避免信息不准确。"

def clarificationText (plan : ExecutionPlanV2) : String :=
  if "material_pack_option" ∈ plan.units.flatMap (·.ambiguitySlots) then
    "老师，麻烦确认一下需要哪一类材料，我再继续处理。"
  else "老师，麻烦补充一下具体需求，我再继续处理。"

def handoffReply (groundings : List ExecutionUnitGroundingV1) : ReplyResponse × String :=
  if runtime.scene = .direct then
    (plainReply .humanHandoff "如需人工协助，请联系您的客户经理或人工客服继续处理。", "direct_human_handoff")
  else if groundings.any (·.businessFacts.salesMention.availability = .available) then
    (⟨"", ⟨.humanHandoff, "这个问题我帮你请销售/支持同事确认。",
      [⟨.sales, some "handoff_requested"⟩]⟩, []⟩, "handoff_requested")
  else (plainReply .unableToAnswer unableText, "sales_mention_unavailable")

/-- The period and the date of an available report. -/
def reportArtifact (state : CanonicalReportStateV1) : Option (String × String × String) :=
  if state.availability ≠ .available then none
  else do
    let resolveRef ← state.resolveRef
    let period ← state.period
    let reportDate ← state.reportDate
    return (resolveRef, period, reportDate.isoformat)

/-- `_action_from_grounding`. The results of the adapter have been checked for raw locators, so the
references are what the actions accept. -/
def actionFromGrounding (intent : CanonicalActionIntentV1) (facts : UnitBusinessFactsV1) :
    Option OutboundAction :=
  match intent.actionType with
  | .sendMaterialPack =>
    if facts.materialPack.availability ≠ .available then none
    else facts.materialPack.resolveRef.map fun resolveRef =>
      .sendMaterialPack "" resolveRef (match intent.materialPackOption with
        | none | some "" => facts.materialPack.materialPackOption
        | some option => some option)
  | .sendWeeklyReport => (reportArtifact facts.weeklyReport).map fun (resolveRef, period, date) =>
      .sendWeeklyReport "" resolveRef period date
  | .sendMonthlyReport => (reportArtifact facts.monthlyReport).map fun (resolveRef, period, date) =>
      .sendMonthlyReport "" resolveRef period date

/-- `_action_reply`; its `zip` is strict. -/
def actionReply (plan : ExecutionPlanV2) (groundings : List ExecutionUnitGroundingV1) :
    Except AlignmentException (ReplyResponse × String) :=
  if plan.units.length ≠ groundings.length then .error (.otherError "ValueError")
  else
    let actions := (plan.units.zip groundings).flatMap fun (unit, grounding) =>
      if grounding.businessFacts.userPermission ≠ .allowed then []
      else unit.actionIntents.filterMap (actionFromGrounding · grounding.businessFacts)
    if actions = [] then .ok (plainReply .unableToAnswer unableText, "action_evidence_missing")
    else .ok (⟨"", ⟨.answer, "", []⟩, actions⟩, "action_ready")

/-- `_product_list_evidence_is_missing`. -/
def productListEvidenceIsMissing (plan : ExecutionPlanV2)
    (groundings : List ExecutionUnitGroundingV1) : Bool :=
  plan.units.any fun unit =>
    (unit.manifestRef.manifestId ∈ [.weeklyReportProductList, .monthlyReportProductList] : Bool) &&
      match groundings.reverse.find? (·.unitId = unit.unitId) with
      | none => true
      | some grounding => grounding.allowedEvidence.isEmpty

/-- `_compose_v2_response`. -/
def composeV2Response (plan : ExecutionPlanV2) (evidence : CanonicalEvidenceExecutionResultV1)
    (overlay : Option ComposerRetryOverlayV1) : RuntimeProgram (ReplyResponse × String) :=
  if productListEvidenceIsMissing plan evidence.groundings then
    return (plainReply .unableToAnswer unableText, "product_list_evidence_missing")
  else do
    match ← compose plan evidence overlay with
    | .unavailable => return (plainReply .unableToAnswer unableText, "composer_not_available")
    | .outputRejected => return (plainReply .unableToAnswer unableText, "composer_output_rejected")
    | .output response =>
      if plan.responseMode = .knowledgeAnswer then return (response, "knowledge_answer_composer")
      else if plan.responseMode = .smalltalk then return (response, "smalltalk_composer")
      else raise (.agentRuntimeError "composer_response_mode_not_supported")

/-- `_render_v2_response`. -/
def renderV2Response (plan : ExecutionPlanV2) (evidence : CanonicalEvidenceExecutionResultV1)
    (overlay : Option ComposerRetryOverlayV1) : RuntimeProgram (ReplyResponse × String) :=
  match plan.responseMode with
  | .refusal =>
    let reason := plan.complianceReasonCode
    return (plainReply .unableToAnswer (runtime.refusalTextForReason reason), reason)
  | .clarification =>
    return (plainReply .clarification (clarificationText plan), "ambiguous_request")
  | .handoff => return handoffReply runtime evidence.groundings
  | .noReply => return (plainReply .noReply "", "no_reply")
  | .action => ofExcept (actionReply plan evidence.groundings)
  | .knowledgeAnswer | .smalltalk => composeV2Response plan evidence overlay
  | .unable =>
    let unable := (plainReply .unableToAnswer unableText, "insufficient_evidence")
    if runtime.scene = .group ∧ plan.origin = .inputPolicy then
      match runtime.inputBlock plan with
      | some (text, reason) => return (plainReply .unableToAnswer text, reason)
      | none => return unable
    else return unable

/-- `_validate_v2_reply`. -/
def validateV2Reply (plan : ExecutionPlanV2) (response : ReplyResponse) : V2ReplyValidationResult :=
  let direct : Bool := runtime.scene = .direct
  let issues :=
    (if direct && (!response.actions.isEmpty || !response.reply.mentions.isEmpty) then
      ["direct_reply_has_actions_or_mentions"] else []) ++
    (if direct && !(runtime.imageMarkerFilenames response.reply.text).isEmpty then
      ["direct_reply_has_image_marker"] else []) ++
    (if plan.responseMode = .action ∧ response.actions = [] then
      ["action_plan_without_validated_action"] else []) ++
    (if response.actions ≠ [] ∧ runtime.policy.actionsAllowed = false then
      ["reply_actions_outside_policy"] else []) ++
    (if response.reply.mentions ≠ [] ∧ runtime.policy.mentionsAllowed = false then
      ["reply_mentions_outside_policy"] else [])
  ⟨issues.isEmpty, issues⟩

/-! ## The material pack resolution -/

/-- The status of the first item for a resolve type; `none` without a result. -/
def preflightStatus (preflight : List AdapterPreflightItem) (resolveType : AdapterResolveType) :
    Option AdapterResolveStatus :=
  (preflight.find? (·.resolveType = resolveType)).bind (·.status)

/-- The unit that takes the place of an action that sends a material pack. -/
def materialPackResolution (plan : ExecutionPlanV2) (preflight : List AdapterPreflightItem) :
    Option DeterministicPlanUnitV1 :=
  if plan.actionIntents.map (·.actionType) ≠ [.sendMaterialPack] then none
  else match preflightStatus preflight .materialPack with
    | none | some .resolved => none
    | some .ambiguous => some {
        unitId := "material-pack-resolution"
        manifestId := .generalClarification
        answerabilityPolicy := .clarify
        ambiguitySlots := ["material_pack_option"] }
    | some _ =>
      if preflightStatus preflight .salesMention = some .resolved then
        some ⟨"material-pack-resolution", .salesHandoff, .handoff, none, none, []⟩
      else some ⟨"material-pack-resolution", .generalAbstention, .abstain, none, none, []⟩

/-- An error of the compiler or of the grounding is no `AgentRuntimeError`. -/
def uncaught {ε α : Type} (name : String) (x : Except ε α) : RuntimeProgram α :=
  ofExcept (x.mapError fun _ => .otherError name)

/-- The plan and the evidence after the material pack resolution. -/
def resolveMaterialPack (plan : Object ExecutionPlanV2)
    (evidence : Object CanonicalEvidenceExecutionResultV1) :
    RuntimeProgram (Object ExecutionPlanV2 × Object CanonicalEvidenceExecutionResultV1) :=
  match materialPackResolution plan.value evidence.value.preflight with
  | none => return (plan, evidence)
  | some unit => do
    let resolution ← uncaught "ExecutionPlanCompilationError" (finalizeExecutionPlanV2
      runtime.policy runtime.authority runtime.encoding
      (.deterministic ⟨plan.value.userNeed, [unit], plan.value.complianceReasonCode⟩)
      .deterministic)
    let plan' ← newObject resolution
    let groundings ← uncaught "CanonicalGroundingContractError" (groundExecutionPlanV2 resolution
      runtime.policy evidence.value.canonicalFacts evidence.value.resolveBindings none)
    let evidence' ← newObject { evidence.value with groundings }
    return (plan', evidence')

/-! ## Candidates -/

/-- The candidate of a rendered response. -/
def candidateOf (plan : Object ExecutionPlanV2)
    (evidence : Object CanonicalEvidenceExecutionResultV1)
    (recallState : Option (Object RecallTurnStateV1)) (rendered : ReplyResponse × String) :
    RuntimeProgram V2AttemptResult :=
  call .uuid (fun (uuid : UuidHex) =>
    let response := ensureResponseIds uuid rendered.1
    done (.ok {
      plan
      evidence
      response
      replyValidation := validateV2Reply runtime plan.value response
      reasonCode := rendered.2
      recallState }))

/-- The executor first checks the refetch request, if there is one. -/
def validateRefetch (plan : ExecutionPlanV2) :
    Option AlignmentRefetchRequestV1 → Except AlignmentException Unit
  | none => .ok ()
  | some request => validateAlignmentRefetchRequestV1 plan request

/-- `build_candidate_from_plan_v2`. -/
def buildCandidateFromPlanV2 (plan : Object ExecutionPlanV2)
    (recallState : Option (Object RecallTurnStateV1))
    (refetch : Option AlignmentRefetchRequestV1) : RuntimeProgram V2AttemptResult :=
  if validateExecutionPlanV2 plan.value runtime.policy ≠ [] then
    raise (.agentRuntimeError "execution_plan_v2_invalid")
  else do
    ofExcept (validateRefetch plan.value refetch)
    let evidence ← execute runtime plan.value refetch
    let (plan', evidence') ← resolveMaterialPack runtime plan evidence
    let rendered ← renderV2Response runtime plan'.value evidence'.value none
    candidateOf runtime plan' evidence' recallState rendered

/-- `recompose_candidate_v2`. -/
def recomposeCandidateV2 (candidate : V2AttemptResult) (overlay : ComposerRetryOverlayV1) :
    RuntimeProgram V2AttemptResult :=
  if candidate.plan.value.responseMode ∉ [.knowledgeAnswer, .smalltalk] then
    raise (.agentRuntimeError "alignment_recompose_mode_not_supported")
  else do
    let rendered ← renderV2Response runtime candidate.plan.value candidate.evidence.value
      (some overlay)
    candidateOf runtime candidate.plan candidate.evidence candidate.recallState rendered

end MarketSupport
