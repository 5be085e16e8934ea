import Mathlib.Data.Int.Order.Basic
import MarketSupport.Planning.Attempt
import MarketSupport.Rendering.ResponseIds

/-!
# Alignment verdicts and postconditions

The verdict of the verifier, the limits of the remediations that it may ask for, and what a
remediated candidate has to keep.
-/

namespace MarketSupport

/-! ## Verdicts -/

inductive AlignmentRemediation where
  | none
  | replan
  | refetchDocumentContext
  | refetchReportScope
  | recompose
  | returnClarification
  | returnUnable
  deriving DecidableEq, Repr

/-- The fields of `ReplyAlignmentVerdict` that the alignment loop and its remediator read. -/
structure ReplyAlignmentVerdict where
  aligned : Bool
  safeToReturn : Bool
  failureCode : String
  rationale : String
  remediation : AlignmentRemediation
  refinedEvidenceQuery : Option String
  plannerFeedback : Option String
  composerFeedback : Option String
  deriving DecidableEq, Repr

/-- `AlignmentFailureCode`. -/
def alignmentFailureCodes : List String :=
  ["none", "wrong_intent", "wrong_artifact", "wrong_action", "wrong_material_pack_option",
    "wrong_report_scope", "missing_answer", "missing_evidence", "unsupported_claim",
    "policy_or_compliance_mismatch", "unsafe_action", "composer_drift", "ambiguous_request"]

/-- What the schema of a verdict checks. -/
structure ReplyAlignmentVerdict.SchemaValid (verdict : ReplyAlignmentVerdict) : Prop where
  failureCode : verdict.failureCode ∈ alignmentFailureCodes
  rationale : verdict.rationale.length ≤ 400
  query_bound : ∀ query ∈ verdict.refinedEvidenceQuery, query.length ≤ 200
  plannerFeedback : ∀ feedback ∈ verdict.plannerFeedback, feedback.length ≤ 300
  composerFeedback : ∀ feedback ∈ verdict.composerFeedback, feedback.length ≤ 300
  aligned : verdict.aligned = true → verdict.safeToReturn = true ∧ verdict.failureCode = "none" ∧
    verdict.remediation = .none
  refetch : verdict.remediation ∈ [.refetchDocumentContext, .refetchReportScope] →
    strip (verdict.refinedEvidenceQuery.getD "") ≠ ""
  reportScope : verdict.remediation = .refetchReportScope →
    verdict.refinedEvidenceQuery ∈ [some "report_scope_products", some "report_scope_summary"]

/-! ## Exceptions and limits -/

/-- What the loop and its remediator raise. -/
inductive AlignmentException where
  | agentRuntimeError (code : String)
  | timeoutError
  | otherError (name : String)
  deriving DecidableEq, Repr

/-- `except (AgentRuntimeError, TimeoutError)`. -/
def AlignmentException.caught : AlignmentException → Bool
  | .agentRuntimeError _ | .timeoutError => true
  | .otherError _ => false

/-- `AlignmentRemediationLimitsV1`, with what its constructor checks. -/
structure AlignmentRemediationLimitsV1 where
  maxReplans : ℤ
  maxRefetches : ℤ
  maxRecomposes : ℤ
  maxTotal : ℤ
  inRange : ∀ value ∈ [maxReplans, maxRefetches, maxRecomposes, maxTotal], 0 ≤ value ∧ value ≤ 2
  covered : ∀ value ∈ [maxReplans, maxRefetches, maxRecomposes], value ≤ maxTotal

/-! ## Refetches -/

structure AlignmentRefetchRequestV1 where
  unitId : String
  manifestRef : ManifestRefV1
  refinedEvidenceQuery : String
  attempt : ℕ
  deriving DecidableEq, Repr

structure AlignmentRefetchOutcomeV1 where
  request : AlignmentRefetchRequestV1
  candidate : V2AttemptResult
  deriving DecidableEq, Repr

/-- `_unit_supports_refetch`. -/
def unitSupportsRefetch (manifestRef : ManifestRefV1) (remediation : AlignmentRemediation) : Bool :=
  match findManifest manifestRef.manifestId with
  | none => false
  | some manifest => (manifest.manifestVersion = manifestRef.manifestVersion : Bool) &&
    match remediation with
    | .refetchDocumentContext => .documentContext ∈ manifest.evidenceContract.allowedFactTypes
    | .refetchReportScope => [.reportScopeSummary, .reportScopeMatch, .reportScopeProducts].any
        (· ∈ manifest.evidenceContract.allowedFactTypes)
    | _ => false

/-- `build_alignment_refetch_request_v1`. -/
def buildAlignmentRefetchRequestV1 (plan : ExecutionPlanV2) (verdict : ReplyAlignmentVerdict)
    (attempt : ℕ) : Except AlignmentException AlignmentRefetchRequestV1 :=
  match verdict.refinedEvidenceQuery with
  | none => .error (.otherError "alignment_refetch_query_required")
  | some query =>
    match plan.units.filter (unitSupportsRefetch ·.manifestRef verdict.remediation) with
    | [unit] =>
      if 1 ≤ query.length ∧ query.length ≤ 200 then
        .ok ⟨unit.unitId, unit.manifestRef, query, attempt⟩
      else .error (.otherError "ValidationError")
    | _ => .error (.otherError "alignment_refetch_unit_not_unique")

/-- `validate_alignment_refetch_request_v1`. -/
def validateAlignmentRefetchRequestV1 (plan : ExecutionPlanV2)
    (request : AlignmentRefetchRequestV1) : Except AlignmentException Unit :=
  if (plan.units.filter fun unit =>
      unit.unitId = request.unitId ∧ unit.manifestRef = request.manifestRef).length ≠ 1 then
    .error (.otherError "alignment_refetch_plan_binding_mismatch")
  else .ok ()

inductive AlignmentFallbackV1 where
  | returnClarification
  | returnUnable
  deriving DecidableEq, Repr

/-! ## Postconditions -/

variable (encoding : PlanEncoding)

def requireSameRecallState (candidate : V2AttemptResult) (expected : Object RecallTurnStateV1) :
    Except AlignmentException Unit :=
  match candidate.recallState with
  | none => .error (.agentRuntimeError "alignment_replaced_recall_turn_state")
  | some actual =>
    if ¬ actual.Is expected ∨ ¬ actual.value.outcome.Is expected.value.outcome ∨
        actual.value.outcome.value.traceHash ≠ expected.value.outcome.value.traceHash then
      .error (.agentRuntimeError "alignment_replaced_recall_turn_state")
    else .ok ()

def requireReplanAuthority (before after : V2AttemptResult) : Except AlignmentException Unit :=
  if after.plan.Is before.plan ∨ after.plan.value.origin ≠ .planner ∨
      after.plan.value.hasPlanSpec = false ∨
      after.plan.value.executionPlanId ≠ encoding.executionPlanIdV2 after.plan.value then
    .error (.agentRuntimeError "alignment_replan_invalid_plan_authority")
  else .ok ()

def requireRefetchAuthority (before : V2AttemptResult) (outcome : AlignmentRefetchOutcomeV1)
    (verdict : ReplyAlignmentVerdict) : Except AlignmentException Unit :=
  if some outcome.request.refinedEvidenceQuery ≠ verdict.refinedEvidenceQuery ∨
      outcome.request.unitId ∉ before.plan.value.units.map (·.unitId) ∨
      ¬ before.plan.Is outcome.candidate.plan ∨
      encoding.planBytes before.plan.value ≠ encoding.planBytes outcome.candidate.plan.value ∨
      before.evidence.Is outcome.candidate.evidence then
    .error (.agentRuntimeError "alignment_refetch_changed_plan_authority")
  else .ok ()

def requireRecomposeResponseOnly (before after : V2AttemptResult) :
    Except AlignmentException Unit :=
  if ¬ before.plan.Is after.plan ∨ ¬ before.evidence.Is after.evidence then
    .error (.agentRuntimeError "alignment_recompose_changed_plan_or_evidence")
  else .ok ()

/-- The response mode of a replacement. -/
def AlignmentFallbackV1.mode : AlignmentFallbackV1 → ResponseMode
  | .returnClarification => .clarification
  | .returnUnable => .unable

/-- The manifest of a replacement. -/
def AlignmentFallbackV1.manifestId : AlignmentFallbackV1 → CapabilityManifestIdV2
  | .returnClarification => .generalClarification
  | .returnUnable => .generalAbstention

def requireReplacementAuthority (before after : V2AttemptResult)
    (remediation : AlignmentFallbackV1) : Except AlignmentException Unit :=
  if after.plan.value.origin ≠ .remediation ∨ after.plan.value.hasPlanSpec = true ∨
      after.plan.value.responseMode ≠ remediation.mode ∨
      after.plan.value.selectedManifestRefs.map (·.manifestId) ≠ [remediation.manifestId] ∨
      after.plan.value.executionPlanId = before.plan.value.executionPlanId ∨
      after.plan.value.executionPlanId ≠ encoding.executionPlanIdV2 after.plan.value then
    .error (.agentRuntimeError "alignment_replacement_invalid_plan_authority")
  else .ok ()

/-- What passes `require_same_recall_state` has the recall state that was expected. -/
theorem requireSameRecallState_ok {candidate : V2AttemptResult}
    {expected : Object RecallTurnStateV1} (h : requireSameRecallState candidate expected = .ok ()) :
    ∃ actual, candidate.recallState = some actual ∧ actual.Is expected := by
  unfold requireSameRecallState at h
  split at h
  · cases h
  · next actual hactual =>
    split_ifs at h with hsame
    push Not at hsame
    exact ⟨actual, hactual, hsame.1⟩

end MarketSupport
