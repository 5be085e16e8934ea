import MarketSupport.Rendering.V2Attempt

/-!
# The planner

`build_candidate_via_planner` asks the planner for a plan, once more when the first answer
breaks the contract, and builds a candidate from it.
-/

namespace MarketSupport

open Library Program

/-! ## Retry overlays -/

/-- `" ".join(text.split())`. -/
def normalizeSpaces (text : String) : String :=
  String.ofList (List.intercalate [' '] ((text.toList.splitOnP isPySpace).filter (· ≠ [])))

def truncate (n : ℕ) (text : String) : String := String.ofList (text.toList.take n)

/-- `any(ord(character) < 32 for character in value)`. -/
def hasControlCharacter (text : String) : Bool := text.toList.any (·.toNat < 32)

/-- `first or second`, of an optional and a plain text. -/
def orElseText (first : Option String) (second : String) : String :=
  match first with
  | none | some "" => second
  | some text => text

/-- `_retry_text`. -/
def retryText (value fallback : String) : String :=
  truncate 300 (if normalizeSpaces value = "" then fallback else normalizeSpaces value)

/-- The constructors of an overlay and of its issue. -/
def plannerRetryOverlayV1 (overlay : PlannerRetryOverlayV1) :
    Except AlignmentException PlannerRetryOverlayV1 :=
  if hasControlCharacter overlay.feedback then
    .error (.otherError "plan_validation_message_control_character")
  else .ok overlay

def plannerSchemaRepairOverlay (errorSummary : String) :
    Except AlignmentException PlannerRetryOverlayV1 :=
  plannerRetryOverlayV1 ⟨1, .schemaRepair, 1, retryText errorSummary "plan_spec_schema_invalid"⟩

/-- The feedback that a verdict has for the planner. -/
def plannerFeedback (verdict : ReplyAlignmentVerdict) : String :=
  retryText (orElseText verdict.plannerFeedback verdict.rationale) "alignment_requested_replan"

/-- `planner_alignment_replan_overlay` with a verdict. -/
def plannerAlignmentReplanOverlay (verdict : ReplyAlignmentVerdict) (phaseAttempt : ℕ) :
    Except AlignmentException PlannerRetryOverlayV1 :=
  if verdict.remediation ≠ .replan ∨ phaseAttempt ∉ [1, 2] then
    .error (.otherError "planner_alignment_replan_mapping_invalid")
  else plannerRetryOverlayV1
    ⟨phaseAttempt + 1, .alignmentReplan, phaseAttempt, plannerFeedback verdict⟩

/-! ## The flow -/

variable (runtime : CandidateRuntime)

def plannerRound (overlay : Option PlannerRetryOverlayV1) :
    RuntimeProgram (String ⊕ Object ExecutionPlanV2) :=
  call (.plannerRound overlay) (fun answer => ofExcept answer)

def invalidPlanSpec {α : Type} (errorSummary : String) : RuntimeProgram α :=
  raise (.agentRuntimeError
    ("CrewAI planner returned an invalid PlanSpec contract: " ++ errorSummary))

/-- `build_candidate_via_planner`; `overlay` is what the alignment loop asked for. -/
def buildCandidateViaPlanner (overlay : Option PlannerRetryOverlayV1)
    (recallState : Object RecallTurnStateV1) : RuntimeProgram V2AttemptResult := do
  match ← plannerRound overlay with
  | .inr plan => buildCandidateFromPlanV2 runtime plan (some recallState) none
  | .inl errorSummary =>
    if overlay.isSome then invalidPlanSpec errorSummary
    else do
      let repair ← ofExcept (plannerSchemaRepairOverlay errorSummary)
      match ← plannerRound (some repair) with
      | .inr plan => buildCandidateFromPlanV2 runtime plan (some recallState) none
      | .inl errorSummary => invalidPlanSpec errorSummary

end MarketSupport
