import MarketSupport.Schemas.Reply
import MarketSupport.Identity.StateKey

/-!
# Feedback schema

What an adapter reports about the execution of an issued response. The sanitised
`adapter_result` only enters the feedback hash.
-/

namespace MarketSupport

inductive JsonValue where
  | null
  | bool (value : Bool)
  | number (literal : String)
  | string (text : String)
  | array (items : List JsonValue)
  | object (members : List (String × JsonValue))

/-- `ActionFeedbackArtifact`, discriminated by its `type`. -/
inductive ActionFeedbackArtifact where
  | materialPack (resolveRef artifactRef option : Option String)
  | weeklyReport (resolveRef artifactRef period reportDate : Option String)
  | monthlyReport (resolveRef artifactRef period reportDate : Option String)

def ActionFeedbackArtifact.artifactRef : ActionFeedbackArtifact → Option String
  | materialPack _ a _ | weeklyReport _ a _ _ | monthlyReport _ a _ _ => a

structure ActionExecutionFeedbackV2 where
  actionType : ActionExecutionType
  status : ActionExecutionStatus
  actionId : Option String
  artifact : Option ActionFeedbackArtifact
  adapterResult : List (String × JsonValue)

/-- `ConversationIdentityV1`; `subjectRef` is the `group_ref` or the `direct_thread_ref`. -/
structure ConversationIdentityV1 where
  scene : Scene
  tenantRef : String
  subjectRef : String
  principalRef : String

structure ActionFeedbackRequestV2 where
  feedbackId : String
  requestId : String
  responseId : String
  identity : ConversationIdentityV1
  executions : List ActionExecutionFeedbackV2

end MarketSupport
