import MarketSupport.Library.Programs
import MarketSupport.Validation.Alignment

/-!
# The alignment loop

`ensure_aligned_v2_response` asks the verifier about a candidate and lets a remediator mend
it, until a verdict lets the candidate pass or a budget is used up.
-/

namespace MarketSupport

open Library Program

/-! ## Calls to the remediator -/

inductive AlignmentCall where
  | verdictFor (candidate : V2AttemptResult) (attempt : ℕ)
  | replan (candidate : V2AttemptResult) (verdict : ReplyAlignmentVerdict) (attempt : ℕ)
  | refetch (candidate : V2AttemptResult) (verdict : ReplyAlignmentVerdict) (attempt : ℕ)
  | recompose (candidate : V2AttemptResult) (verdict : ReplyAlignmentVerdict) (attempt : ℕ)
  | replace (candidate : V2AttemptResult) (verdict : Option ReplyAlignmentVerdict)
      (remediation : AlignmentFallbackV1)

/-- What a call to the remediator returns when it does not raise. -/
def AlignmentCall.Value : AlignmentCall → Type
  | .verdictFor .. => ReplyAlignmentVerdict
  | .refetch .. => AlignmentRefetchOutcomeV1
  | .replan .. | .recompose .. | .replace .. => V2AttemptResult

def AlignmentCall.Answer (c : AlignmentCall) : Type := Except AlignmentException c.Value

abbrev AlignmentProgram := Program AlignmentCall AlignmentCall.Answer AlignmentException

/-- Await a call to the remediator. -/
def remediator (c : AlignmentCall) : AlignmentProgram c.Value :=
  call c (fun answer => ofExcept answer)

/-! ## The loop -/

def alignmentAttempt (value : ℤ) : Except AlignmentException ℕ :=
  if value < 0 ∨ value > 2 then .error (.agentRuntimeError "alignment_attempt_out_of_range")
  else .ok value.toNat

def actionAttempt (value : ℤ) : Except AlignmentException ℕ :=
  if value < 1 ∨ value > 2 then .error (.agentRuntimeError "alignment_action_attempt_out_of_range")
  else .ok value.toNat

inductive AlignmentAction where
  | replan
  | refetch
  | recompose
  deriving DecidableEq, Repr

/-- The counters of the loop. -/
structure AlignmentCounts where
  replans : ℕ := 0
  refetches : ℕ := 0
  recomposes : ℕ := 0
  total : ℕ := 0

/-- Count an action. -/
def AlignmentCounts.add (counts : AlignmentCounts) : AlignmentAction → AlignmentCounts
  | .replan => { counts with replans := counts.replans + 1, total := counts.total + 1 }
  | .refetch => { counts with refetches := counts.refetches + 1, total := counts.total + 1 }
  | .recompose => { counts with recomposes := counts.recomposes + 1, total := counts.total + 1 }

/-- The counter of an action. -/
def AlignmentCounts.of (counts : AlignmentCounts) : AlignmentAction → ℕ
  | .replan => counts.replans
  | .refetch => counts.refetches
  | .recompose => counts.recomposes

/-- The limit of an action. -/
def AlignmentRemediationLimitsV1.of (limits : AlignmentRemediationLimitsV1) : AlignmentAction → ℤ
  | .replan => limits.maxReplans
  | .refetch => limits.maxRefetches
  | .recompose => limits.maxRecomposes

/-- The cases of `match verdict.remediation`: an action within its limit, or a fallback. -/
def selectRemediation (limits : AlignmentRemediationLimitsV1) (counts : AlignmentCounts) :
    AlignmentRemediation → AlignmentAction ⊕ AlignmentFallbackV1
  | .replan => if counts.replans < limits.maxReplans then .inl .replan else .inr .returnUnable
  | .refetchDocumentContext | .refetchReportScope =>
    if counts.refetches < limits.maxRefetches then .inl .refetch else .inr .returnUnable
  | .recompose =>
    if counts.recomposes < limits.maxRecomposes then .inl .recompose else .inr .returnUnable
  | .returnClarification => .inr .returnClarification
  | .none | .returnUnable => .inr .returnUnable

variable (encoding : PlanEncoding)

/-- `_replace`. -/
def replaceCandidate (recallState : Object RecallTurnStateV1) (candidate : V2AttemptResult)
    (verdict : Option ReplyAlignmentVerdict) (remediation : AlignmentFallbackV1) :
    AlignmentProgram V2AttemptResult := do
  let replacement ← remediator (.replace candidate verdict remediation)
  ofExcept (requireReplacementAuthority encoding candidate replacement remediation)
  ofExcept (requireSameRecallState replacement recallState)
  return replacement

/-- What the verifier failing leads to. -/
def verifierFailed (recallState : Object RecallTurnStateV1) (candidate : V2AttemptResult) :
    AlignmentProgram V2AttemptResult :=
  if candidate.plan.value.responseMode = .refusal then return candidate
  else replaceCandidate encoding recallState candidate none .returnUnable

/-- The `replan` case: a replan that fails is replaced, and ends the loop. -/
def replanCandidate (recallState : Object RecallTurnStateV1) (previous : V2AttemptResult)
    (verdict : ReplyAlignmentVerdict) (count : ℕ) :
    AlignmentProgram (V2AttemptResult ⊕ V2AttemptResult) :=
  let replanned : AlignmentProgram V2AttemptResult := do
    let attempt ← ofExcept (actionAttempt count)
    remediator (.replan previous verdict attempt)
  replanned.handle (fun
    | .ok candidate => do
      ofExcept (requireReplanAuthority encoding previous candidate)
      return .inr candidate
    | .error e =>
      if e.caught then do
        let replacement ← replaceCandidate encoding recallState previous
            (some verdict) .returnUnable
        return .inl replacement
      else raise e)

/-- The case of an action: `inl` is a candidate to return, `inr` one to go on with. -/
def runAction (recallState : Object RecallTurnStateV1) (previous : V2AttemptResult)
    (verdict : ReplyAlignmentVerdict) (counts : AlignmentCounts) :
    AlignmentAction → AlignmentProgram (V2AttemptResult ⊕ V2AttemptResult)
  | .replan => replanCandidate encoding recallState previous verdict counts.replans
  | .refetch => do
    let attempt ← ofExcept (actionAttempt counts.refetches)
    let outcome ← remediator (.refetch previous verdict attempt)
    ofExcept (requireRefetchAuthority encoding previous outcome verdict)
    return .inr outcome.candidate
  | .recompose => do
    let attempt ← ofExcept (actionAttempt counts.recomposes)
    let candidate ← remediator (.recompose previous verdict attempt)
    ofExcept (requireRecomposeResponseOnly previous candidate)
    return .inr candidate

theorem AlignmentCounts.total_add (counts : AlignmentCounts) (action : AlignmentAction) :
    (counts.add action).total = counts.total + 1 := by
  cases action <;> rfl

/-- The `while True` loop. -/
def alignmentLoop (limits : AlignmentRemediationLimitsV1) (recallState : Object RecallTurnStateV1)
    (candidate : V2AttemptResult) (counts : AlignmentCounts) :
    AlignmentProgram V2AttemptResult := do
  let attempt ← ofExcept (alignmentAttempt counts.total)
  call (.verdictFor candidate attempt) (fun
    | .error e =>
      if e.caught then verifierFailed encoding recallState candidate else raise e
    | .ok (verdict : ReplyAlignmentVerdict) =>
      if verdict.aligned && verdict.safeToReturn then return candidate
      else if _h : limits.maxTotal ≤ counts.total then
        replaceCandidate encoding recallState candidate (some verdict) .returnUnable
      else match selectRemediation limits counts verdict.remediation with
        | .inr fallback =>
          replaceCandidate encoding recallState candidate (some verdict) fallback
        | .inl action => do
          match ← runAction encoding recallState candidate verdict (counts.add action) action with
          | .inl returned => return returned
          | .inr next =>
            ofExcept (requireSameRecallState next recallState)
            if next.replyValidation.valid then
              alignmentLoop limits recallState next (counts.add action)
            else return next)
termination_by (limits.maxTotal - counts.total).toNat
decreasing_by
  rw [AlignmentCounts.total_add]
  omega

/-- `ensure_aligned_v2_response`. -/
def ensureAlignedV2Response (limits : AlignmentRemediationLimitsV1) (candidate : V2AttemptResult) :
    AlignmentProgram V2AttemptResult :=
  match candidate.recallState with
  | none => return candidate
  | some recallState => alignmentLoop encoding limits recallState candidate {}

end MarketSupport
