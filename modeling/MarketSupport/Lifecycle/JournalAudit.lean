import MarketSupport.Prompts.InvocationJournal
import MarketSupport.Prompts.ProviderErrors

/-!
# The audit of a turn's journal

`journal_audit_attempts` turns the rows of the journal into the program attempts of the audit
proposal. It refuses a row that is still open, and one whose program is not the active program
of its stage in the scene of the turn.
-/

namespace MarketSupport

/-! ## Tables -/

/-- `_AUDIT_ERROR_CODES`. -/
def auditErrorCodes : List (String × AuditErrorCodeV1) :=
  [("planner_plan_validation_failed", .plannerPlanValidationFailed),
   ("knowledge_composer_reply_validation_failed", .knowledgeComposerReplyValidationFailed),
   ("smalltalk_composer_reply_validation_failed", .smalltalkComposerReplyValidationFailed),
   ("alignment_verifier_verdict_validation_failed", .alignmentVerifierVerdictValidationFailed),
   ("approved_selector_validation_failed", .approvedSelectorValidationFailed),
   ("document_selector_validation_failed", .documentSelectorValidationFailed),
   ("provider_output_missing", .providerOutputMissing),
   ("provider_output_type", .providerOutputType),
   ("provider_output_encoding", .providerOutputEncoding),
   ("provider_output_too_large", .providerOutputTooLarge),
   ("provider_output_contract", .providerOutputContract),
   ("provider_timeout", .providerTimeout),
   ("provider_auth_failed", .providerAuthFailed),
   ("provider_rate_limited", .providerRateLimited),
   ("provider_http_error", .providerHttpError),
   ("provider_transport_unavailable", .providerTransportUnavailable),
   ("provider_internal_error", .providerInternalError),
   ("direct_provider_stdio_violation", .directProviderStdioViolation)]

/-- `_audit_error_code`. -/
def auditErrorCode (errorCode : Option String) : Except CoordinatorException AuditErrorCodeV1 :=
  match errorCode with
  | none => .error (.coordinatorError "llm_invocation_error_code_required")
  | some code =>
    match auditErrorCodes.lookup code with
    | some audit => .ok audit
    | none => .error (.coordinatorError "llm_invocation_error_code_unregistered")

/-- Every failure code of a provider is registered. -/
theorem auditErrorCode_text (code : ProviderFailureCodeV1) :
    auditErrorCode (some code.text) = .ok code.audit := by
  cases code <;> rfl

/-- `_audit_target_slot`. -/
def auditTargetSlot : TargetSlotV1 → Except CoordinatorException AuditTargetSlotV1
  | .planner => .ok .planner
  | .composer => .ok .composer
  | .selector => .ok .selector
  | .health => .error (.coordinatorError "llm_invocation_audit_target_slot_forbidden")

/-- `_audit_status`. -/
def auditStatus (row : TurnLlmInvocationRowV1) :
    Except CoordinatorException (AuditInvocationStatusV1 × Option AuditErrorCodeV1) :=
  match row.status with
  | .success => .ok (.success, none)
  | .outputContractError => do return (.outputContractError, some (← auditErrorCode row.errorCode))
  | .transportError | .uncapturedNetworkError => do
    return (.transportError, some (← auditErrorCode row.errorCode))
  | .reserved => .error (.coordinatorError "llm_invocation_journal_row_unclosed")

/-- `_direct_attempt_purposes`. -/
def directAttemptPurposes : AuditStageV1 → DirectAuditPurposeV1 × DirectAuditPurposeV1
  | .plannerIntent => (.plannerInput, .plannerOutput)
  | .knowledgeComposer | .smalltalkComposer => (.composerInput, .composerOutput)
  | .alignmentVerifier => (.verifierInput, .verifierOutput)
  | .approvedKnowledgeSelector => (.approvedSelectorInput, .approvedSelectorOutput)
  | .documentProductSelector => (.documentSelectorInput, .documentSelectorOutput)

/-- The scene under which the program of a stage is registered for a turn. -/
def auditSceneKey (scene : Scene) : StageKindV1 → AuditSceneKey
  | .approvedKnowledgeSelector | .documentProductSelector => .sceneNeutralV1
  | _ => match scene with
    | .group => .wecomGroupV1
    | .direct => .wecomDirectV1

/-! ## Attempts -/

/-- The keyed digest of a direct turn: a purpose and a content. -/
abbrev DirectDigest := DirectAuditPurposeV1 → String → Digest "dah1"

/-- The `__post_init__` of a proposal. -/
def LlmInvocationAuditProposalV1.construct (item : LlmInvocationAuditProposalV1) :
    Except CoordinatorException LlmInvocationAuditProposalV1 := do
  validateProgramAuditLabels item.ordinal item.stage item.programId item.targetSlot item.status
    item.latencyMs item.inputBytes item.outputBytes item.errorCode
  require (1 ≤ item.logicalAttempt && item.transportAttempt == 1)
    "audit invocation attempts are invalid"
  return item

/-- The digests of a row as its scene records them: those of the row, or two keyed ones. -/
structure AttemptDigests where
  osh1 : Option String
  poh1 : Option String
  hph1 : Option String
  prh1 : Option String
  inputDigest : Option String
  outputDigest : Option String

def attemptDigests (digest : Option DirectDigest) (stage : AuditStageV1)
    (row : TurnLlmInvocationRowV1)
    (status : AuditInvocationStatusV1) : Except CoordinatorException AttemptDigests :=
  match digest with
  | none => .ok ⟨row.osh1, row.poh1, row.hph1, row.prh1, row.inputDigest, row.outputDigest⟩
  | some digest =>
    let keyed purpose (hash : String) :=
      (digest purpose (toString row.invocationOrdinal ++ ":" ++ hash)).text
    match (row.prh1.or row.poh1).or row.osh1 with
    | none => .error (.coordinatorError "direct_audit_program_input_hash_required")
    | some inputHash =>
      let input := keyed (directAttemptPurposes stage).1 inputHash
      if status = .success then
        match row.outputDigest with
        | none => .error (.coordinatorError "direct_audit_program_output_hash_required")
        | some outputHash =>
          .ok ⟨none, none, none, none, some input,
            some (keyed (directAttemptPurposes stage).2 outputHash)⟩
      else .ok ⟨none, none, none, none, some input, none⟩

/-- One round of the loop. -/
def auditAttempt (scene : Scene) (digest : Option DirectDigest) (stage : AuditStageV1)
    (row : TurnLlmInvocationRowV1) : Except CoordinatorException LlmInvocationAuditProposalV1 :=
  if row.status = .reserved then
    .error (.coordinatorError "llm_invocation_journal_row_unclosed")
  else match resolveActivePromptProgramV2 row.stageKind (auditSceneKey scene row.stageKind) with
    | none => .error (.valueError "prompt_program_v2_authority_missing")
    | some program =>
      if program.programId ≠ row.programId then
        .error (.coordinatorError "llm_invocation_program_registry_mismatch")
      else if row.programVersion ≠ some program.programVersion ∨
          row.sceneKey ≠ some program.sceneKey ∨ row.sceneContractRef ≠ program.contractRef then
        .error (.coordinatorError "llm_invocation_journal_program_metadata_mismatch")
      else do
        let (status, errorCode) ← auditStatus row
        -- `_journal_transport_metadata`
        if row.modelFamily.isNone ∨ row.providerId.isNone ∨ row.transportId.isNone ∨
            row.inputSchemaVersion.isNone ∨ row.outputSchemaVersion.isNone then
          throw (.coordinatorError "llm_invocation_transport_metadata_required")
        let digests ← attemptDigests digest stage row status
        let targetSlot ← auditTargetSlot row.targetSlot
        LlmInvocationAuditProposalV1.construct {
          ordinal := row.invocationOrdinal
          logicalAttempt := row.logicalAttempt
          transportAttempt := 1
          stage := stage
          programId := row.programId
          programVersion := some program.programVersion
          targetSlot := targetSlot
          sceneKey := some program.sceneKey
          sceneContractRef := program.contractRef
          modelFamily := row.modelFamily
          providerId := row.providerId
          transportId := row.transportId
          inputSchemaVersion := row.inputSchemaVersion
          outputSchemaVersion := row.outputSchemaVersion
          osh1 := digests.osh1
          poh1 := digests.poh1
          hph1 := digests.hph1
          prh1 := digests.prh1
          status := status
          latencyMs := row.latencyMs
          inputBytes := row.inputBytes
          outputBytes := row.outputBytes.map (↑)
          errorCode := errorCode
          inputDigest := digests.inputDigest
          outputDigest := digests.outputDigest }

/-- `journal_audit_attempts`: the rows of the health probe are passed over. -/
def journalAuditAttempts (journal : TurnLlmInvocationJournalV1) (scene : Scene)
    (digest : Option DirectDigest) :
    Except CoordinatorException (List LlmInvocationAuditProposalV1) :=
  (journal.rows.filterMap fun row => row.stageKind.audit?.map fun stage => (stage, row)).mapM
    fun (stage, row) => auditAttempt scene digest stage row

end MarketSupport
