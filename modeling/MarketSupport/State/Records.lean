import MarketSupport.Schemas.Feedback
import MarketSupport.State.AuditRecords

/-!
# Records of the coordinator

Conversation turns, pending clarifications, issued responses with their effects, feedback
preparations and receipts, ledger rows, and the values that callers exchange with the
coordinator.
-/

namespace MarketSupport

/-! ## Conversation records -/

structure StateRevisionRecordV1 where
  revisionEpoch : Bytes
  revision : ℕ
  createdAtMonotonicNs : ℤ
  updatedAtMonotonicNs : ℤ
  expiresAtMonotonicNs : ℤ
  deriving DecidableEq, Repr

inductive TurnRole where
  | user
  | assistant
  deriving DecidableEq, Repr

structure ConversationTurnRecordV2 where
  role : TurnRole
  text : String
  ordinal : ℕ
  createdAtEpochMs : ℤ
  pol1 : String
  par1 : String
  grh1 : String
  bsh1 : String
  replyKind : Option ReplyKind
  clarificationRef : Option String
  deriving DecidableEq, Repr

inductive ClarificationKind where
  | materialPackOption
  | reportScope
  | destination
  | other
  deriving DecidableEq, Repr

inductive ClarificationTopic where
  | materialPack
  | weeklyReport
  | monthlyReport
  deriving DecidableEq, Repr

structure PendingClarificationRecordV1 where
  clarificationRef : String
  kind : ClarificationKind
  slots : List String
  question : String
  topic : Option ClarificationTopic
  originatingTurnOrdinal : ℕ
  createdAtEpochMs : ℤ
  pol1 : String
  par1 : String
  grh1 : String
  bsh1 : String
  deriving DecidableEq, Repr

structure UserTurnProposalV1 where
  text : String
  deriving DecidableEq, Repr

structure AssistantTurnProposalV1 where
  text : String
  replyKind : ReplyKind
  clarificationRequested : Bool
  deriving DecidableEq, Repr

structure PendingClarificationProposalV1 where
  kind : ClarificationKind
  slots : List String
  question : String
  topic : Option ClarificationTopic
  deriving DecidableEq, Repr

/-! ## Issued responses and effects -/

structure PendingIssuedResponseRecordV1 where
  stateKey : ConversationStateKey
  requestId : String
  requestHash : String
  replayEligible : Bool
  ownerToken : Bytes
  revisionEpoch : Bytes
  reservedStateRevision : ℕ
  createdAtEpochMs : ℤ
  createdAtMonotonicNs : ℤ
  expiresAtMonotonicNs : ℤ
  deriving DecidableEq, Repr

structure IssuedEffectV1 where
  effectKey : String
  effectType : ActionExecutionType
  actionId : Option String
  resolveRef : Option String
  materialPackOption : Option String
  period : Option String
  reportDate : Option String
  status : Option ActionExecutionStatus
  artifactRef : Option String
  statusHistory : List ActionExecutionStatus
  deriving DecidableEq, Repr

structure FeedbackReceiptV1 where
  receiptId : String
  stateKey : ConversationStateKey
  feedbackId : String
  feedbackHash : String
  responseId : String
  issuedRecordRevision : ℕ
  stored : ℕ
  createdAtEpochMs : ℤ
  createdAtMonotonicNs : ℤ
  expiresAtMonotonicNs : ℤ
  deriving DecidableEq, Repr

structure CompleteIssuedResponseRecordV1 where
  stateKey : ConversationStateKey
  requestId : String
  requestHash : String
  replayEligible : Bool
  revisionEpoch : Bytes
  committedStateRevision : ℕ
  recordRevision : ℕ
  response : ReplyResponse
  effects : List IssuedEffectV1
  receipts : List FeedbackReceiptV1
  issuedAtEpochMs : ℤ
  completedAtMonotonicNs : ℤ
  expiresAtMonotonicNs : ℤ
  pol1 : String
  par1 : String
  grh1 : String
  bsh1 : String
  deriving DecidableEq, Repr

inductive IssuedResponseRecordV1 where
  | pending (record : PendingIssuedResponseRecordV1)
  | complete (record : CompleteIssuedResponseRecordV1)
  deriving DecidableEq, Repr

namespace IssuedResponseRecordV1

def stateKey : IssuedResponseRecordV1 → ConversationStateKey
  | pending r => r.stateKey
  | complete r => r.stateKey

def requestId : IssuedResponseRecordV1 → String
  | pending r => r.requestId
  | complete r => r.requestId

def requestHash : IssuedResponseRecordV1 → String
  | pending r => r.requestHash
  | complete r => r.requestHash

def replayEligible : IssuedResponseRecordV1 → Bool
  | pending r => r.replayEligible
  | complete r => r.replayEligible

def expiresAtMonotonicNs : IssuedResponseRecordV1 → ℤ
  | pending r => r.expiresAtMonotonicNs
  | complete r => r.expiresAtMonotonicNs

/-- The record when its phase is `complete`. -/
def complete? : IssuedResponseRecordV1 → Option CompleteIssuedResponseRecordV1
  | pending _ => none
  | complete r => some r

/-- The record when its phase is `pending`. -/
def pending? : IssuedResponseRecordV1 → Option PendingIssuedResponseRecordV1
  | pending r => some r
  | complete _ => none

@[simp] theorem complete?_eq_some {r : IssuedResponseRecordV1}
    {c : CompleteIssuedResponseRecordV1} :
    r.complete? = some c ↔ r = complete c := by cases r <;> simp [complete?]

@[simp] theorem pending?_eq_some {r : IssuedResponseRecordV1} {p : PendingIssuedResponseRecordV1} :
    r.pending? = some p ↔ r = pending p := by cases r <;> simp [pending?]

end IssuedResponseRecordV1

structure PreparedEffectTransitionV1 where
  effectKey : String
  effectType : ActionExecutionType
  expectedStatus : Option ActionExecutionStatus
  requestedStatus : ActionExecutionStatus
  expectedArtifactRef : Option String
  requestedArtifactRef : Option String
  isNoop : Bool
  deriving DecidableEq, Repr

structure PreparedFeedbackV1 where
  stateKey : ConversationStateKey
  feedbackId : String
  feedbackHash : String
  requestId : String
  responseId : String
  commitToken : Bytes
  revisionEpoch : Bytes
  expectedStateRevision : ℕ
  expectedIssuedRecordRevision : ℕ
  transitions : List PreparedEffectTransitionV1
  expiresAtMonotonicNs : ℤ
  deriving DecidableEq, Repr

structure FeedbackReceiptReplayV1 where
  stateKey : ConversationStateKey
  feedbackId : String
  feedbackHash : String
  requestId : String
  responseId : String
  receiptId : String
  issuedRecordRevision : ℕ
  deriving DecidableEq, Repr

/-- `FeedbackPreparationV1`. -/
inductive FeedbackPreparationV1 where
  | prepared (value : PreparedFeedbackV1)
  | replay (value : FeedbackReceiptReplayV1)
  deriving DecidableEq, Repr

structure PreparedFeedbackTokenRecordV1 where
  preparation : PreparedFeedbackV1
  createdAtMonotonicNs : ℤ
  deriving DecidableEq, Repr

inductive IssuedResponseLookupV1 where
  | found (record : CompleteIssuedResponseRecordV1)
  | notFound
  | identityMismatch
  deriving DecidableEq, Repr

structure FeedbackCommitResultV1 where
  receiptId : String
  stored : ℕ
  replayed : Bool
  deriving DecidableEq, Repr

structure ActionLedgerRecordV2 where
  stateKey : ConversationStateKey
  responseId : String
  actionId : String
  actionType : ActionExecutionType
  status : ActionExecutionStatus
  artifactRef : Option String
  statusRevision : ℕ
  receivedAtEpochMs : ℤ
  expiresAtMonotonicNs : ℤ
  pol1 : String
  par1 : String
  grh1 : String
  bsh1 : String
  deriving DecidableEq, Repr

/-! ## Values exchanged with callers -/

structure TurnAdmissionSnapshotV1 where
  stateKey : ConversationStateKey
  par1 : String
  grh1 : String
  bsh1 : String
  ledgerRows : List ActionLedgerRecordV2
  turns : List ConversationTurnRecordV2
  pendingClarification : Option PendingClarificationRecordV1
  revisionEpoch : Bytes
  stateRevision : ℕ
  snapshotAtEpochMs : ℤ
  snapshotAtMonotonicNs : ℤ
  pendingReply : Bool
  deriving DecidableEq, Repr

structure NewReplyReservationV1 where
  stateKey : ConversationStateKey
  requestId : String
  requestHash : String
  replayEligible : Bool
  ownerToken : Bytes
  revisionEpoch : Bytes
  stateRevision : ℕ
  deriving DecidableEq, Repr

structure CompletedReplyReplayV1 where
  stateKey : ConversationStateKey
  requestId : String
  requestHash : String
  response : ReplyResponse
  issuedAtEpochMs : ℤ
  issuedRecordRevision : ℕ
  deriving DecidableEq, Repr

inductive ReservationResultV1 where
  | new (reservation : NewReplyReservationV1)
  | replay (reply : CompletedReplyReplayV1)
  deriving DecidableEq, Repr

/-- `ReplyCommitProposalV1`; its constructor checks the scene of the audit proposal. -/
structure ReplyCommitProposalV1 where
  stateKey : ConversationStateKey
  requestId : String
  requestHash : String
  replayEligible : Bool
  ownerToken : Bytes
  expectedRevisionEpoch : Bytes
  expectedStateRevision : ℕ
  response : ReplyResponse
  pol1 : String
  par1 : String
  grh1 : String
  bsh1 : String
  userTurn : UserTurnProposalV1
  assistantTurn : AssistantTurnProposalV1
  clarification : Option PendingClarificationProposalV1
  audit : SanitizedAuditCommitProposalV1
  audit_scene : stateKey.scene = audit.kind

end MarketSupport
