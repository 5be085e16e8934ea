import MarketSupport.Schemas.Reply
import MarketSupport.Identity.StateKey
import MarketSupport.State.Errors

/-!
# Audit records

A committed reply leaves one audit record. `buildAuditRecord` completes the proposal of the
turn for its scene and refuses a proposal whose program attempts are incomplete or do not
pass the checks of the record constructors.
-/

namespace MarketSupport

/-! ## Registered labels -/

inductive ReasonCodeV1 where
  | actionNotAllowedByPolicy | actionReady | actionReadyAnswerEvidenceMissing
  | actionEvidenceMissing | actionReadyWithClarification | actionReadyWithDeterministicAnswer
  | actionReadyWithKnowledgeEvidence | actionResolveUnavailable
  | actionUnavailableWithKnowledgeEvidence | adapterReportScopeError
  | adapterReportScopeMatchError | adapterReportScopeProductsError | alignmentRemediationLimit
  | alignmentReplanFailed | alignmentReturnClarification | alignmentReturnClarificationFailed
  | alignmentReturnUnable | alignmentVerifierFailed | ambiguousActionResolve | ambiguousRequest
  | answerabilityMissingEvidence | compliantProductRequest | customerServiceRequest
  | directHumanHandoff | directSendCommandMatched | documentContextEmptyAfterSanitization
  | documentContextMissing | documentContextNotFound | documentMcpChannelForbidden
  | documentMcpDisabled | documentMcpError | documentMcpPolicyForbidden | emptyMessage
  | emptyQuery | handoffRequested | insufficientEvidence | intentGateNotKnowledgeLike
  | internalError | knowledgeAnswerComposer | knowledgeEvidenceAvailable
  | materialPackOptionConfirmationRequired | missingActionIntent | missingResolveRef
  | noCandidateQuestionOverlap | noMatch | noReply | productListEvidenceMissing
  | qaEntryCorpusEmpty | qaEntryCorpusInvalid | qaEntryParseError | questionRecallHit
  | reportPeriodMetadataAvailable | salesMentionUnavailable | sendScopeConflict
  | smalltalkComposer | smalltalkRequiresComposer | t0HumanSupportRequired | composerNotAvailable
  | composerOutputRejected | expectedOrTargetReturn | principalOrRiskGuarantee
  | peerOrCompetitorComparison | privateContactRequest | contractOrRestrictedDocument
  | restrictedInternalDocument | feeWaiverRequest | qualifiedInvestorOrThreshold
  | unrelatedRequest | unknown | unsupportedActionIntent
  deriving DecidableEq, Repr

inductive DirectAuditReasonCodeV1 where
  | compliantProductRequest | customerServiceRequest | expectedOrTargetReturn
  | principalOrRiskGuarantee | peerOrCompetitorComparison | privateContactRequest
  | contractOrRestrictedDocument | restrictedInternalDocument | feeWaiverRequest
  | qualifiedInvestorOrThreshold | unrelatedRequest | unknown | ambiguousRequest
  | directHumanHandoff | noReply | knowledgeAnswerComposer | smalltalkComposer
  | composerNotAvailable | composerOutputRejected | insufficientEvidence
  deriving DecidableEq, Repr

inductive AuditStageV1 where
  | plannerIntent | knowledgeComposer | smalltalkComposer | alignmentVerifier
  | approvedKnowledgeSelector | documentProductSelector
  deriving DecidableEq, Repr

inductive AuditTargetSlotV1 where
  | planner | composer | selector
  deriving DecidableEq, Repr

inductive AuditInvocationStatusV1 where
  | success | validationError | outputContractError | transportError
  deriving DecidableEq, Repr

inductive AuditErrorCodeV1 where
  | plannerPlanValidationFailed | knowledgeComposerReplyValidationFailed
  | smalltalkComposerReplyValidationFailed | alignmentVerifierVerdictValidationFailed
  | approvedSelectorValidationFailed | documentSelectorValidationFailed | providerOutputMissing
  | providerOutputType | providerOutputEncoding | providerOutputTooLarge | providerOutputContract
  | providerTimeout | providerAuthFailed | providerRateLimited | providerHttpError
  | providerTransportUnavailable | providerInternalError | directProviderStdioViolation
  deriving DecidableEq, Repr

inductive DirectAuditPurposeV1 where
  | message | requestId | request | reply | evidence | directive | plan | plannerInput
  | plannerOutput | composerInput | composerOutput | verifierInput | verifierOutput
  | approvedSelectorInput | approvedSelectorOutput | documentSelectorInput
  | documentSelectorOutput
  deriving DecidableEq, Repr

inductive DirectAuditLengthPurposeV1 where
  | messageChars | messageBytes | replyChars | replyBytes | evidenceCount | manifestCount
  | invocationCount
  deriving DecidableEq, Repr

inductive DirectDependencyNameV1 where
  | adapterCapability | adapterReadiness | adapterBusiness | recallStatic | recallDocument
  | evidence | planner | knowledgeComposer | smalltalkComposer | alignmentVerifier
  | approvedSelector | documentSelector
  deriving DecidableEq, Repr

inductive AuditSceneKey where
  | wecomGroupV1 | wecomDirectV1 | sceneNeutralV1
  deriving DecidableEq, Repr

namespace AuditStageV1

/-- `VALIDATION_ERROR_BY_STAGE`. -/
def validationError : AuditStageV1 → AuditErrorCodeV1
  | .plannerIntent => .plannerPlanValidationFailed
  | .knowledgeComposer => .knowledgeComposerReplyValidationFailed
  | .smalltalkComposer => .smalltalkComposerReplyValidationFailed
  | .alignmentVerifier => .alignmentVerifierVerdictValidationFailed
  | .approvedKnowledgeSelector => .approvedSelectorValidationFailed
  | .documentProductSelector => .documentSelectorValidationFailed

/-- The only target slot that a stage may use. -/
def targetSlot : AuditStageV1 → AuditTargetSlotV1
  | .plannerIntent => .planner
  | .approvedKnowledgeSelector | .documentProductSelector => .selector
  | .knowledgeComposer | .smalltalkComposer | .alignmentVerifier => .composer

end AuditStageV1

/-- `OUTPUT_CONTRACT_ERRORS`. -/
def AuditErrorCodeV1.isOutputContract : AuditErrorCodeV1 → Bool
  | .providerOutputMissing | .providerOutputType | .providerOutputEncoding
  | .providerOutputTooLarge | .providerOutputContract => true
  | _ => false

/-- `TRANSPORT_ERRORS`. -/
def AuditErrorCodeV1.isTransport : AuditErrorCodeV1 → Bool
  | .providerTimeout | .providerAuthFailed | .providerRateLimited | .providerHttpError
  | .providerTransportUnavailable | .providerInternalError | .directProviderStdioViolation => true
  | _ => false

/-- `PROGRAM_STAGE_BY_ID`, with the scene that a program id belongs to. -/
def programRegistry : List (String × AuditSceneKey × AuditStageV1) :=
  [("planner_intent.wecom_group.v1@1", .wecomGroupV1, .plannerIntent),
   ("knowledge_composer.wecom_group.v1@1", .wecomGroupV1, .knowledgeComposer),
   ("smalltalk_composer.wecom_group.v1@1", .wecomGroupV1, .smalltalkComposer),
   ("alignment_verifier.wecom_group.v1@1", .wecomGroupV1, .alignmentVerifier),
   ("planner_intent.wecom_direct.v1@1", .wecomDirectV1, .plannerIntent),
   ("knowledge_composer.wecom_direct.v1@1", .wecomDirectV1, .knowledgeComposer),
   ("smalltalk_composer.wecom_direct.v1@1", .wecomDirectV1, .smalltalkComposer),
   ("alignment_verifier.wecom_direct.v1@1", .wecomDirectV1, .alignmentVerifier),
   ("approved_knowledge_selector.scene_neutral.v1@1", .sceneNeutralV1, .approvedKnowledgeSelector),
   ("document_product_selector.scene_neutral.v1@1", .sceneNeutralV1, .documentProductSelector)]

def programStage (programId : String) : Option AuditStageV1 :=
  (programRegistry.lookup programId).map (·.2)

/-- `GROUP_AUDIT_PROGRAM_IDS` and `DIRECT_AUDIT_PROGRAM_IDS`: the scene's own programs and the
scene-neutral ones. -/
def auditProgramAllowed (scene : AuditSceneKey) (programId : String) : Bool :=
  match programRegistry.lookup programId with
  | some (s, _) => s == scene || s == .sceneNeutralV1
  | none => false

/-! ## Proposals and records -/

structure LlmInvocationAuditProposalV1 where
  ordinal : ℤ
  stage : AuditStageV1
  programId : String
  targetSlot : AuditTargetSlotV1
  status : AuditInvocationStatusV1
  latencyMs : ℤ
  inputBytes : ℤ
  outputBytes : Option ℤ
  errorCode : Option AuditErrorCodeV1
  logicalAttempt : ℤ
  transportAttempt : ℤ
  programVersion : Option String
  sceneKey : Option AuditSceneKey
  sceneContractRef : Option String
  modelFamily : Option String
  providerId : Option String
  transportId : Option String
  inputSchemaVersion : Option String
  outputSchemaVersion : Option String
  osh1 : Option String
  poh1 : Option String
  hph1 : Option String
  prh1 : Option String
  inputDigest : Option String
  outputDigest : Option String
  deriving DecidableEq, Repr

structure GroupAuditCommitProposalV1 where
  reasonCode : ReasonCodeV1
  manifestRefs : List String
  programAttempts : List LlmInvocationAuditProposalV1
  deriving DecidableEq, Repr

structure DirectAuditCommitProposalV1 where
  stateKeyDigest : String
  requestIdDigest : String
  reasonCode : DirectAuditReasonCodeV1
  manifestRefs : List String
  contentDigests : List (DirectAuditPurposeV1 × String)
  lengths : List (DirectAuditLengthPurposeV1 × ℤ)
  dependencyCounts : List (DirectDependencyNameV1 × ℤ)
  staticRegistryId : String
  staticRegistryVersion : String
  programAttempts : List LlmInvocationAuditProposalV1
  deriving DecidableEq, Repr

inductive SanitizedAuditCommitProposalV1 where
  | group (proposal : GroupAuditCommitProposalV1)
  | direct (proposal : DirectAuditCommitProposalV1)
  deriving DecidableEq, Repr

/-- `proposal.kind`. -/
def SanitizedAuditCommitProposalV1.kind : SanitizedAuditCommitProposalV1 → Scene
  | .group _ => .group
  | .direct _ => .direct

/-- The fields that `GroupProgramAuditV2` and `DirectProgramAuditV2` share. -/
structure ProgramAudit where
  ordinal : ℤ
  stage : AuditStageV1
  programId : String
  programVersion : String
  targetSlot : AuditTargetSlotV1
  sceneKey : AuditSceneKey
  sceneContractRef : Option String
  modelFamily : String
  providerId : String
  transportId : String
  inputSchemaVersion : String
  outputSchemaVersion : String
  status : AuditInvocationStatusV1
  latencyMs : ℤ
  inputBytes : ℤ
  outputBytes : Option ℤ
  errorCode : Option AuditErrorCodeV1
  inputDigest : String
  outputDigest : Option String
  logicalAttempt : ℤ
  transportAttempt : ℤ
  deriving DecidableEq, Repr

structure GroupProgramAuditV2 extends ProgramAudit where
  osh1 : String
  poh1 : String
  hph1 : String
  prh1 : String
  deriving DecidableEq, Repr

structure DirectProgramAuditV2 extends ProgramAudit
  deriving DecidableEq, Repr

structure GroupAuditRecordV1 where
  stateKey : ConversationStateKey
  responseId : String
  requestId : String
  replyKind : ReplyKind
  reasonCode : ReasonCodeV1
  manifestRefs : List String
  programs : List GroupProgramAuditV2
  createdAtEpochMs : ℤ
  expiresAtMonotonicNs : ℤ
  deriving DecidableEq, Repr

structure DirectAuditRecordV1 where
  stateKeyDigest : String
  responseId : String
  requestIdDigest : String
  replyKind : ReplyKind
  reasonCode : DirectAuditReasonCodeV1
  programs : List DirectProgramAuditV2
  contentDigests : List (DirectAuditPurposeV1 × String)
  lengths : List (DirectAuditLengthPurposeV1 × ℤ)
  manifestRefs : List String
  dependencyCounts : List (DirectDependencyNameV1 × ℤ)
  staticRegistryId : String
  staticRegistryVersion : String
  createdAtEpochMs : ℤ
  expiresAtMonotonicNs : ℤ
  deriving DecidableEq, Repr

inductive AuditRecordV1 where
  | group (record : GroupAuditRecordV1)
  | direct (record : DirectAuditRecordV1)
  deriving DecidableEq, Repr

def AuditRecordV1.createdAtEpochMs : AuditRecordV1 → ℤ
  | .group r => r.createdAtEpochMs
  | .direct r => r.createdAtEpochMs

def AuditRecordV1.expiresAtMonotonicNs : AuditRecordV1 → ℤ
  | .group r => r.expiresAtMonotonicNs
  | .direct r => r.expiresAtMonotonicNs

/-! ## Checks of the record constructors -/

/-- Raise a `ValueError` when the check fails. -/
def require (ok : Bool) (reason : String) : Except CoordinatorException Unit :=
  if ok then .ok () else .error (.valueError reason)

/-- `validate_program_audit_labels`; stage, slot and status are registered by their types. -/
def validateProgramAuditLabels (ordinal : ℤ) (stage : AuditStageV1) (programId : String)
    (targetSlot : AuditTargetSlotV1) (status : AuditInvocationStatusV1)
    (latencyMs inputBytes : ℤ) (outputBytes : Option ℤ) (errorCode : Option AuditErrorCodeV1) :
    Except CoordinatorException Unit := do
  require (1 ≤ ordinal) "audit ordinal must be positive"
  require (programStage programId == some stage)
    "audit program_id does not match a registered stage"
  require (targetSlot == stage.targetSlot) "audit target_slot is not allowed for stage"
  require (0 ≤ latencyMs && 0 ≤ inputBytes && outputBytes.all (0 ≤ ·))
    "audit counts must be non-negative"
  match status with
  | .success => require errorCode.isNone "successful audit invocation cannot have an error_code"
  | .validationError =>
    require (errorCode == some stage.validationError)
      "audit validation error_code does not match stage"
  | .outputContractError =>
    require (errorCode.any (·.isOutputContract))
      "audit output contract error_code is not registered"
  | .transportError =>
    require (errorCode.any (·.isTransport)) "audit transport error_code is not registered"

def validateAuditManifestRefs (refs : List String) : Except CoordinatorException Unit := do
  require (refs.length ≤ 4 && decide refs.Nodup) "audit manifest refs are not canonical"
  require (refs.all (fun r => 0 < r.length && r.length ≤ 160)) "audit manifest ref is invalid"

/-- `tag:` followed by sixty-four characters. -/
def hasDigestShape (tag value : String) : Bool :=
  let head := tag.toList ++ [':']
  head.isPrefixOf value.toList && value.toList.length == head.length + 64

/-- The characters after `tag:` are lowercase hexadecimal digits. -/
def hasDigestEncoding (tag value : String) : Bool :=
  (value.toList.drop (tag.toList.length + 1)).all isLowerHex

def validateDirectAuditDigest (value : String) : Except CoordinatorException Unit :=
  require (hasDigestShape "dah1" value && hasDigestEncoding "dah1" value)
    "direct audit digest must be dah1"

def validatePrefixedDigest (tag value : String) : Except CoordinatorException Unit := do
  require (hasDigestShape tag value) "group audit digest prefix is invalid"
  require (hasDigestEncoding tag value) "group audit digest encoding is invalid"

/-- An attempt has its output digest and count exactly when it produced an output. -/
def validateOutputPresence (owner : String) (item : ProgramAudit) :
    Except CoordinatorException Unit :=
  match item.status with
  | .success | .validationError =>
    require (item.outputDigest.isSome && item.outputBytes.isSome)
      (owner ++ " successful audit requires output digest and count")
  | .outputContractError | .transportError =>
    require (item.outputDigest.isNone && item.outputBytes.isNone)
      (owner ++ " failed audit forbids output digest and count")

/-- `GroupProgramAuditV2.__post_init__`. -/
def GroupProgramAuditV2.validate (item : GroupProgramAuditV2) :
    Except CoordinatorException Unit := do
  validateProgramAuditLabels item.ordinal item.stage item.programId item.targetSlot item.status
    item.latencyMs item.inputBytes item.outputBytes item.errorCode
  require (1 ≤ item.logicalAttempt && item.transportAttempt == 1)
    "group program audit attempts are invalid"
  require (!(item.sceneKey == .wecomGroupV1 && item.sceneContractRef.isNone))
    "group user-facing program requires scene contract ref"
  require (!(item.sceneKey == .sceneNeutralV1 && item.sceneContractRef.isSome))
    "group neutral program forbids scene contract ref"
  validatePrefixedDigest "osh1" item.osh1
  validatePrefixedDigest "poh1" item.poh1
  validatePrefixedDigest "hph1" item.hph1
  validatePrefixedDigest "prh1" item.prh1
  validatePrefixedDigest "mch1" item.inputDigest
  item.outputDigest.forM (validatePrefixedDigest "out1")
  validateOutputPresence "group" item.toProgramAudit

/-- `DirectProgramAuditV2.__post_init__`. -/
def DirectProgramAuditV2.validate (item : DirectProgramAuditV2) :
    Except CoordinatorException Unit := do
  validateProgramAuditLabels item.ordinal item.stage item.programId item.targetSlot item.status
    item.latencyMs item.inputBytes (some (item.outputBytes.getD 0)) item.errorCode
  require (1 ≤ item.logicalAttempt && 1 ≤ item.transportAttempt)
    "direct program audit attempts must be positive"
  require (!(item.sceneKey == .wecomDirectV1 && item.sceneContractRef.isNone))
    "direct user-facing program requires scene contract ref"
  require (!(item.sceneKey == .sceneNeutralV1 && item.sceneContractRef.isSome))
    "neutral direct program forbids scene contract ref"
  validateDirectAuditDigest item.inputDigest
  item.outputDigest.forM validateDirectAuditDigest
  validateOutputPresence "direct" item.toProgramAudit

def GroupAuditRecordV1.validate (r : GroupAuditRecordV1) : Except CoordinatorException Unit := do
  validateAuditManifestRefs r.manifestRefs
  require (r.programs.length ≤ 18) "group audit accepts at most 18 program records"
  require (r.programs.all (fun p => auditProgramAllowed .wecomGroupV1 p.programId))
    "audit program_id is not registered for the audit scene"

def DirectAuditRecordV1.validate (r : DirectAuditRecordV1) : Except CoordinatorException Unit := do
  validateDirectAuditDigest r.stateKeyDigest
  require (isServerResponseId r.responseId) "direct audit response_id must be server-issued"
  require (r.programs.length ≤ 18) "direct audit accepts at most 18 program records"
  require (r.contentDigests.length ≤ 36) "direct audit accepts at most 36 content digests"
  require (r.lengths.length ≤ 7) "direct audit accepts at most 7 lengths"
  require (r.manifestRefs.length ≤ 4) "direct audit accepts at most 4 manifest refs"
  require (r.dependencyCounts.length ≤ 12) "direct audit accepts at most 12 dependency counts"
  require (r.programs.all (fun p => auditProgramAllowed .wecomDirectV1 p.programId))
    "audit program_id is not registered for the audit scene"
  validateDirectAuditDigest r.requestIdDigest
  r.contentDigests.forM (fun d => validateDirectAuditDigest d.2)

/-! ## Building a record -/

/-- `_required_group_field`. -/
def requiredGroupField (value : Option String) (fieldName : String) :
    Except CoordinatorException String :=
  match value with
  | some v => .ok v
  | none => .error (.coordinatorError ("group_audit_" ++ fieldName ++ "_required"))

/-- `_required_direct_field`. -/
def requiredDirectField (value : Option String) : Except CoordinatorException String :=
  match value with
  | some v => .ok v
  | none => .error (.coordinatorError "direct_audit_program_metadata_required")

/-- `_required_group_scene`. -/
def requiredGroupScene : Option AuditSceneKey → Except CoordinatorException AuditSceneKey
  | some .wecomGroupV1 => .ok .wecomGroupV1
  | some .sceneNeutralV1 => .ok .sceneNeutralV1
  | some .wecomDirectV1 | none => .error (.coordinatorError "group_audit_program_scene_invalid")

/-- `_required_direct_scene`. -/
def requiredDirectScene : Option AuditSceneKey → Except CoordinatorException AuditSceneKey
  | some .wecomDirectV1 => .ok .wecomDirectV1
  | some .sceneNeutralV1 => .ok .sceneNeutralV1
  | some .wecomGroupV1 | none => .error (.coordinatorError "direct_audit_program_scene_invalid")

def groupProgramAudit (item : LlmInvocationAuditProposalV1) :
    Except CoordinatorException GroupProgramAuditV2 := do
  let program : GroupProgramAuditV2 := {
    ordinal := item.ordinal
    stage := item.stage
    programId := item.programId
    programVersion := ← requiredGroupField item.programVersion "program_version"
    targetSlot := item.targetSlot
    sceneKey := ← requiredGroupScene item.sceneKey
    sceneContractRef := item.sceneContractRef
    modelFamily := ← requiredGroupField item.modelFamily "model_family"
    providerId := ← requiredGroupField item.providerId "provider_id"
    transportId := ← requiredGroupField item.transportId "transport_id"
    inputSchemaVersion := ← requiredGroupField item.inputSchemaVersion "input_schema_version"
    outputSchemaVersion := ← requiredGroupField item.outputSchemaVersion "output_schema_version"
    status := item.status
    latencyMs := item.latencyMs
    inputBytes := item.inputBytes
    outputBytes := item.outputBytes
    errorCode := item.errorCode
    osh1 := ← requiredGroupField item.osh1 "osh1"
    poh1 := ← requiredGroupField item.poh1 "poh1"
    hph1 := ← requiredGroupField item.hph1 "hph1"
    prh1 := ← requiredGroupField item.prh1 "prh1"
    inputDigest := ← requiredGroupField item.inputDigest "input_digest"
    outputDigest := item.outputDigest
    logicalAttempt := item.logicalAttempt
    transportAttempt := item.transportAttempt }
  program.validate
  return program

/-- `_direct_program_audit`: the output count of a failed attempt is dropped. -/
def directProgramAudit (item : LlmInvocationAuditProposalV1) :
    Except CoordinatorException DirectProgramAuditV2 := do
  let program : DirectProgramAuditV2 := {
    ordinal := item.ordinal
    logicalAttempt := item.logicalAttempt
    transportAttempt := item.transportAttempt
    stage := item.stage
    programId := item.programId
    programVersion := ← requiredDirectField item.programVersion
    targetSlot := item.targetSlot
    sceneKey := ← requiredDirectScene item.sceneKey
    sceneContractRef := item.sceneContractRef
    modelFamily := ← requiredDirectField item.modelFamily
    providerId := ← requiredDirectField item.providerId
    transportId := ← requiredDirectField item.transportId
    inputSchemaVersion := ← requiredDirectField item.inputSchemaVersion
    outputSchemaVersion := ← requiredDirectField item.outputSchemaVersion
    status := item.status
    latencyMs := item.latencyMs
    inputBytes := item.inputBytes
    outputBytes :=
      if item.status = .success ∨ item.status = .validationError then item.outputBytes else none
    errorCode := item.errorCode
    inputDigest := ← requiredDirectField item.inputDigest
    outputDigest := item.outputDigest }
  program.validate
  return program

/-- `build_audit_record`. -/
def buildAuditRecord (proposal : SanitizedAuditCommitProposalV1) (stateKey : ConversationStateKey)
    (responseId requestId : String) (replyKind : ReplyKind)
    (createdAtEpochMs expiresAtMonotonicNs : ℤ) : Except CoordinatorException AuditRecordV1 :=
  match proposal with
  | .group p => do
    let programs ← p.programAttempts.mapM groupProgramAudit
    let record : GroupAuditRecordV1 := {
      stateKey, responseId, requestId, replyKind, programs, createdAtEpochMs
      expiresAtMonotonicNs
      reasonCode := p.reasonCode
      manifestRefs := p.manifestRefs }
    record.validate
    return .group record
  | .direct p => do
    let programs ← p.programAttempts.mapM directProgramAudit
    let record : DirectAuditRecordV1 := {
      responseId, replyKind, programs, createdAtEpochMs, expiresAtMonotonicNs
      stateKeyDigest := p.stateKeyDigest
      requestIdDigest := p.requestIdDigest
      reasonCode := p.reasonCode
      contentDigests := p.contentDigests
      lengths := p.lengths
      manifestRefs := p.manifestRefs
      dependencyCounts := p.dependencyCounts
      staticRegistryId := p.staticRegistryId
      staticRegistryVersion := p.staticRegistryVersion }
    record.validate
    return .direct record

end MarketSupport
