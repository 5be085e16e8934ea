import MarketSupport.Lifecycle.JournalAudit
import MarketSupport.Observability.DirectAudit
import MarketSupport.Policy.Capabilities

/-!
# The audit proposal of a turn

`audit_commit_proposal` describes a finished turn for its audit: a group turn by its reason, its
manifests and its model calls, a direct turn by keyed digests and counts only.
-/

namespace MarketSupport

/-- What the audit reads of a finished turn. The reply and the plan stand as their sorted JSON. -/
structure AuditedTurn where
  reasonCode : ReasonCodeV1
  selectedManifestRefs : List ManifestRefV1
  requestId : String
  message : String
  replyText : String
  replyPayload : String
  planPayload : String
  evidenceIds : List String
  groundings : ℕ

/-- `_direct_audit_reason_code`. -/
def directAuditReasonCode : ReasonCodeV1 → Except CoordinatorException DirectAuditReasonCodeV1
  | .compliantProductRequest => .ok .compliantProductRequest
  | .customerServiceRequest => .ok .customerServiceRequest
  | .expectedOrTargetReturn => .ok .expectedOrTargetReturn
  | .principalOrRiskGuarantee => .ok .principalOrRiskGuarantee
  | .peerOrCompetitorComparison => .ok .peerOrCompetitorComparison
  | .privateContactRequest => .ok .privateContactRequest
  | .contractOrRestrictedDocument => .ok .contractOrRestrictedDocument
  | .restrictedInternalDocument => .ok .restrictedInternalDocument
  | .feeWaiverRequest => .ok .feeWaiverRequest
  | .qualifiedInvestorOrThreshold => .ok .qualifiedInvestorOrThreshold
  | .unrelatedRequest => .ok .unrelatedRequest
  | .unknown => .ok .unknown
  | .ambiguousRequest => .ok .ambiguousRequest
  | .directHumanHandoff => .ok .directHumanHandoff
  | .noReply => .ok .noReply
  | .knowledgeAnswerComposer => .ok .knowledgeAnswerComposer
  | .smalltalkComposer => .ok .smalltalkComposer
  | .composerNotAvailable => .ok .composerNotAvailable
  | .composerOutputRejected => .ok .composerOutputRejected
  | .insufficientEvidence => .ok .insufficientEvidence
  | _ => .error (.coordinatorError "direct_audit_reason_code_forbidden")

/-- `GroupAuditCommitProposalV1.__post_init__`; the reason is registered by its type. -/
def GroupAuditCommitProposalV1.construct (proposal : GroupAuditCommitProposalV1) :
    Except CoordinatorException GroupAuditCommitProposalV1 := do
  validateAuditManifestRefs proposal.manifestRefs
  require (proposal.programAttempts.length ≤ 18)
    "group audit proposal accepts at most 18 program attempts"
  return proposal

/-- `DirectAuditCommitProposalV1.__post_init__`; reason and purposes are registered by their
types. -/
def DirectAuditCommitProposalV1.construct (proposal : DirectAuditCommitProposalV1) :
    Except CoordinatorException DirectAuditCommitProposalV1 := do
  validateDirectAuditDigest proposal.stateKeyDigest
  validateDirectAuditDigest proposal.requestIdDigest
  validateAuditManifestRefs proposal.manifestRefs
  require (proposal.programAttempts.length ≤ 18)
    "direct audit proposal accepts at most 18 program attempts"
  require (proposal.contentDigests.length ≤ 36)
    "direct audit proposal accepts at most 36 content digests"
  require (proposal.lengths.length ≤ 7) "direct audit proposal accepts at most 7 lengths"
  require (proposal.dependencyCounts.length ≤ 12)
    "direct audit proposal accepts at most 12 dependency counts"
  proposal.contentDigests.forM fun content => validateDirectAuditDigest content.2
  return proposal

/-- `audit_commit_proposal`. -/
def auditCommitProposal (hmac : Bytes → Bytes → Digest "dah1") (turn : AuditedTurn)
    (stateKey : ConversationStateKey) (directAuditHmacKey : Option String)
    (journal : TurnLlmInvocationJournalV1) :
    Except CoordinatorException SanitizedAuditCommitProposalV1 :=
  let manifestRefs := turn.selectedManifestRefs.map ManifestRefV1.text
  match stateKey.scene, directAuditHmacKey with
  | .group, _ => do
    let programAttempts ← journalAuditAttempts journal .group none
    return .group (← GroupAuditCommitProposalV1.construct {
      reasonCode := turn.reasonCode
      manifestRefs := manifestRefs
      programAttempts := programAttempts })
  | .direct, none => .error (.coordinatorError "direct_audit_hmac_key_required")
  | .direct, some encodedKey => do
    let key ← decodeDirectAuditHmacKey encodedKey
    let digest purpose content := directAuditDigest hmac key purpose stateKey content
    let programAttempts ← journalAuditAttempts journal .direct (some digest)
    let reasonCode ← directAuditReasonCode turn.reasonCode
    return .direct (← DirectAuditCommitProposalV1.construct {
      stateKeyDigest := (digest .request "state").text
      requestIdDigest := (digest .requestId turn.requestId).text
      reasonCode := reasonCode
      manifestRefs := manifestRefs
      contentDigests := [
        (.message, (digest .message turn.message).text),
        (.reply, (digest .reply turn.replyPayload).text),
        (.plan, (digest .plan turn.planPayload).text),
        (.evidence, (digest .evidence (",".intercalate turn.evidenceIds)).text)]
      lengths := [
        (.messageChars, turn.message.length),
        (.messageBytes, turn.message.utf8ByteSize),
        (.replyChars, turn.replyText.length),
        (.replyBytes, turn.replyText.utf8ByteSize),
        (.evidenceCount, turn.evidenceIds.length),
        (.manifestCount, manifestRefs.length),
        (.invocationCount, programAttempts.length)]
      dependencyCounts := [(.evidence, turn.groundings)]
      staticRegistryId := "capability-registry.v2"
      staticRegistryVersion := "2026-07-18.1"
      programAttempts := programAttempts })

end MarketSupport
