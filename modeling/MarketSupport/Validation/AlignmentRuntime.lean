import MarketSupport.Lifecycle.PlanningFlow
import MarketSupport.Validation.AlignmentLoop

/-!
# The production remediator

`RuntimeAlignmentRemediatorV1`: what the calls of the alignment loop do in production.
-/

namespace MarketSupport

open Library Program

namespace RuntimeAlignmentRemediatorV1

variable (runtime : CandidateRuntime)

/-- `verdict_for`. -/
def verdictFor (candidate : V2AttemptResult) (attempt : ℕ) :
    RuntimeProgram ReplyAlignmentVerdict :=
  call (.verify candidate attempt) (fun answer => ofExcept answer)

def replan (candidate : V2AttemptResult) (verdict : ReplyAlignmentVerdict) (attempt : ℕ) :
    RuntimeProgram V2AttemptResult :=
  match candidate.recallState with
  | none => raise (.agentRuntimeError "alignment_replan_missing_recall_state")
  | some recallState => do
    let overlay ← ofExcept (plannerAlignmentReplanOverlay verdict attempt)
    buildCandidateViaPlanner runtime (some overlay) recallState

def refetch (candidate : V2AttemptResult) (verdict : ReplyAlignmentVerdict) (attempt : ℕ) :
    RuntimeProgram AlignmentRefetchOutcomeV1 := do
  let request ← ofExcept (buildAlignmentRefetchRequestV1 candidate.plan.value verdict attempt)
  let refreshed ← buildCandidateFromPlanV2 runtime candidate.plan candidate.recallState
      (some request)
  return ⟨request, refreshed⟩

/-- The feedback that a verdict has for the composer. -/
def composerFeedback (verdict : ReplyAlignmentVerdict) : String :=
  truncate 300 (normalizeSpaces (orElseText verdict.composerFeedback
    (orElseText (some verdict.rationale) verdict.failureCode)))

/-- The constructor of `ComposerRetryOverlayV1`. -/
def composerRetryOverlayV1 (attempt : ℕ) (feedback : String) :
    Except AlignmentException ComposerRetryOverlayV1 :=
  if feedback = "" then .error (.otherError "ValidationError")
  else if hasControlCharacter feedback then
    .error (.otherError "composer_retry_feedback_control_character")
  else .ok ⟨attempt, feedback⟩

def recompose (candidate : V2AttemptResult) (verdict : ReplyAlignmentVerdict) (attempt : ℕ) :
    RuntimeProgram V2AttemptResult := do
  let overlay ← ofExcept (composerRetryOverlayV1 attempt (composerFeedback verdict))
  recomposeCandidateV2 runtime candidate overlay

/-- The unit of a replacement. -/
def replacementUnit (remediation : AlignmentFallbackV1) : DeterministicPlanUnitV1 where
  unitId := "alignment-remediation"
  manifestId := remediation.manifestId
  answerabilityPolicy := match remediation with
    | .returnClarification => .clarify
    | .returnUnable => .abstain

def replace (candidate : V2AttemptResult) (remediation : AlignmentFallbackV1) :
    RuntimeProgram V2AttemptResult := do
  let plan ← uncaught "ExecutionPlanCompilationError" (finalizeExecutionPlanV2 runtime.policy
    runtime.authority runtime.encoding (.deterministic ⟨candidate.plan.value.userNeed,
      [replacementUnit remediation], candidate.plan.value.complianceReasonCode⟩) .remediation)
  let plan' ← newObject plan
  buildCandidateFromPlanV2 runtime plan' candidate.recallState none

/-- What a call of the alignment loop does. -/
def remediate : (c : AlignmentCall) → RuntimeProgram c.Value
  | .verdictFor candidate attempt => verdictFor candidate attempt
  | .replan candidate verdict attempt => replan runtime candidate verdict attempt
  | .refetch candidate verdict attempt => refetch runtime candidate verdict attempt
  | .recompose candidate verdict attempt => recompose runtime candidate verdict attempt
  | .replace candidate _ remediation => replace runtime candidate remediation

end RuntimeAlignmentRemediatorV1

end MarketSupport
