import MarketSupport.Evidence.Grounding
import MarketSupport.Schemas.Reply

/-!
# Candidates

What one attempt at a reply produces. Objects that the code compares with `is` carry their
address.
-/

namespace MarketSupport

/-- An object of the heap. -/
structure Object (α : Type) where
  address : ℕ
  value : α
  deriving DecidableEq, Repr

/-- `a is b`. -/
def Object.Is {α : Type} (a b : Object α) : Prop := a.address = b.address

instance {α : Type} (a b : Object α) : Decidable (a.Is b) :=
  inferInstanceAs (Decidable (a.address = b.address))

structure RecallOutcomeV1 where
  traceHash : String
  deriving DecidableEq, Repr

structure RecallTurnStateV1 where
  outcome : Object RecallOutcomeV1
  deriving DecidableEq, Repr

structure V2ReplyValidationResult where
  valid : Bool
  issues : List String
  deriving DecidableEq, Repr

structure V2AttemptResult where
  plan : Object ExecutionPlanV2
  evidence : Object CanonicalEvidenceExecutionResultV1
  response : ReplyResponse
  replyValidation : V2ReplyValidationResult
  reasonCode : String
  recallState : Option (Object RecallTurnStateV1)
  deriving DecidableEq, Repr

/-- `reply_validation_error_summary`. -/
def replyValidationErrorSummary (validation : V2ReplyValidationResult) : String :=
  let summary := "; ".intercalate validation.issues
  if summary = "" then "unknown" else summary

end MarketSupport
