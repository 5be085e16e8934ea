import MarketSupport.Prompts.InvocationJournal
import MarketSupport.Prompts.ProviderErrors

/-!
# Model calls

`run_crewai_kickoff` and `run_direct_provider_text` reserve a journal row, call the provider
and close the row, whatever the call does. What the provider does is an ending: a text, or the
exception with which the guarded part stops.
-/

namespace MarketSupport

/-! ## Captured output -/

/-- The raw output of a provider, as far as it is told apart: bytes are decoded or not, a
string may hold a lone surrogate. -/
inductive ProviderRaw where
  | missing
  | bytes (decoded : Option String) (size : ℕ)
  | text (value : Option String)
  | number

inductive RejectedOutputStatusV1 where
  | missingText | nonStringText | invalidUtf8 | oversizeText | outputContractError
  deriving DecidableEq, Repr

/-- The error code of a rejected output. -/
def RejectedOutputStatusV1.code : RejectedOutputStatusV1 → ProviderFailureCodeV1
  | .missingText => .providerOutputMissing
  | .nonStringText => .providerOutputType
  | .invalidUtf8 => .providerOutputEncoding
  | .oversizeText => .providerOutputTooLarge
  | .outputContractError => .providerOutputContract

inductive ProviderOutputCaptureV1 where
  | available (text : String) (out1 : Digest "out1") (byteCount : ℕ)
  | rejected (status : RejectedOutputStatusV1) (byteCount : ℕ)

/-- A response model: its name, its schema version, and which texts it accepts. -/
structure ResponseModel where
  name : ResponseModelName
  schemaVersion : ResponseModelName
  accepts : String → Bool

section Capture

variable (out1 : String → Digest "out1") (model : ResponseModel)

/-- `AGGREGATE_PROVIDER_INPUT_LIMIT_BYTES`. -/
def aggregateProviderInputLimitBytes : ℕ := 2000000

/-- `_capture_string`. -/
def captureString (value : Option String) : ProviderOutputCaptureV1 :=
  match value with
  | none => .rejected .invalidUtf8 0
  | some text =>
    if text.utf8ByteSize > aggregateProviderInputLimitBytes then
      .rejected .oversizeText text.utf8ByteSize
    else if !model.accepts text then .rejected .outputContractError text.utf8ByteSize
    else .available text (out1 text) text.utf8ByteSize

/-- `capture_provider_text_output`. -/
def captureProviderTextOutput (raw : ProviderRaw) : ProviderOutputCaptureV1 :=
  match raw with
  | .missing => .rejected .missingText 0
  | .bytes none size => .rejected .invalidUtf8 size
  | .bytes (some text) _ => captureString out1 model (some text)
  | .text value => captureString out1 model value
  | .number => .rejected .nonStringText 0

end Capture

/-! ## Exceptions -/

/-- What a call raises: a `ProviderInvocationError`, a cancellation, another exception, one of
the journal, or a `CrewAITransportInvariantError` outside the guarded part. -/
inductive CallException where
  | provider (code : ProviderFailureCodeV1)
  | cancelled
  | raised (e : RaisedException)
  | journal (e : JournalException)
  | invariant (code : String)

/-- How the guarded part of a CrewAI call stops. -/
inductive ProviderFault where
  | ioCapture
  | timeout
  | invocation (code : ProviderFailureCodeV1)
  | cancelled
  | raised (e : RaisedException)

namespace ProviderFault

/-- The code under which a handler closes the row. An exception that is no `RuntimeError`,
`ValueError`, `TypeError`, `AttributeError` or `KeyError` has no handler. -/
def code? : ProviderFault → Option ProviderFailureCodeV1
  | ioCapture => some .directProviderStdioViolation
  | timeout => some .providerTimeout
  | invocation code => some code
  | cancelled => some .providerTransportUnavailable
  | raised e => if e.base = .other then none else some (providerFailureCodeFromException e)

/-- What the call raises once the row is closed under a code. -/
def surfaced (fault : ProviderFault) (code : ProviderFailureCodeV1) : CallException :=
  match fault with
  | cancelled => .cancelled
  | _ => .provider code

/-- The exception itself, for a fault that no handler catches. -/
def exception : ProviderFault → CallException
  | raised e => .raised e
  | invocation code => .provider code
  | ioCapture => .provider .directProviderStdioViolation
  | timeout => .provider .providerTimeout
  | cancelled => .cancelled

end ProviderFault

/-! ## The CrewAI call -/

/-- What the provider does with a CrewAI call: the requests that were captured, and a raw
output or a fault. -/
structure KickoffEnding where
  captures : List ProviderMessageEnvelopeV1
  result : Except ProviderFault ProviderRaw

/-- The guarded part: `require_request_capture` needs one captured request. -/
def KickoffEnding.guarded (ending : KickoffEnding) :
    Except ProviderFault (ProviderRaw × ProviderMessageEnvelopeV1) :=
  match ending.result, ending.captures with
  | .error fault, _ => .error fault
  | .ok raw, [capture] => .ok (raw, capture)
  | .ok _, _ => .error (.raised ⟨.valueError, "CrewAITransportInvariantError", none⟩)

/-- `optional_request_capture`. -/
def optionalRequestCapture (captures : List ProviderMessageEnvelopeV1) :
    Option ProviderMessageEnvelopeV1 :=
  match captures with
  | [capture] => some capture
  | _ => none

/-- What a CrewAI call is made with, and what comes of it. -/
structure KickoffCall where
  prompt : PromptProgram
  model : ResponseModel
  model_name : model.name = prompt.responseModel
  healthLogContext : Bool
  /-- The transport envelope, unless its target or schema is refused. -/
  envelope : Except RaisedException ProviderTransportEnvelopeV1
  ending : KickoffEnding
  out1 : String → Digest "out1"
  latencyMs : ℕ

/-- `reject_invalid_dispatch`: the prompt is one of the active program of its stage and scene, and
only the health probe has a health context. -/
def rejectInvalidDispatch (prompt : PromptProgram) (healthLogContext : Bool) : Except String Unit :=
  if prompt.program.sceneKey = .wecomDirectV1 then .error "crewai_direct_scene_forbidden"
  else match resolveActivePromptProgramV2 prompt.program.stage prompt.program.sceneKey with
    | none => .error "prompt_program_v2_authority_missing"
    | some active =>
      if active.programId ≠ prompt.program.programId ∨
          active.sceneContractId ≠ prompt.program.sceneContractId ∨
          active.sceneContractVersion ≠ prompt.program.sceneContractVersion then
        .error "prompt_program_v2_dispatch_mismatch"
      else if (decide (prompt.program.stage = .llmHealthProbe)) != healthLogContext then
        .error "health_log_context_mismatch"
      else .ok ()

section Close

variable (prompt : PromptProgram) (reserved : TurnLlmInvocationRowV1)
  (envelope : ProviderTransportEnvelopeV1) (mch1 : Digest "mch1") (latencyMs : ℕ)

/-- The fields that both ways to close a CrewAI row share. -/
def kickoffRow (status : JournalStatusV1) (prh1 outputDigest errorCode : Option String)
    (transportId : String) (inputBytes : ℕ) (outputBytes : Option ℕ) : TurnLlmInvocationRowV1 where
  invocationOrdinal := reserved.invocationOrdinal
  logicalAttempt := reserved.logicalAttempt
  stageKind := reserved.stageKind
  programId := reserved.programId
  programVersion := some prompt.program.programVersion
  targetSlot := reserved.targetSlot
  sceneKey := some prompt.program.sceneKey
  sceneContractRef := prompt.program.contractRef
  purpose := reserved.purpose
  status := status
  osh1 := some envelope.osh1.text
  poh1 := some envelope.poh1.text
  hph1 := some prompt.hph1.text
  prh1 := prh1
  inputDigest := some mch1.text
  outputDigest := outputDigest
  errorCode := errorCode
  modelFamily := some prompt.modelFamily.text
  providerId := some envelope.providerId.text
  transportId := some transportId
  inputSchemaVersion := some (inputSchemaVersion reserved.stageKind)
  outputSchemaVersion := some prompt.responseModel.text
  latencyMs := latencyMs
  inputBytes := inputBytes
  outputBytes := outputBytes

/-- The row that `close_journal_row` builds. -/
def answeredKickoffRow (capture : ProviderMessageEnvelopeV1) (output : ProviderOutputCaptureV1) :
    TurnLlmInvocationRowV1 :=
  match output with
  | .available _ out1 byteCount =>
    kickoffRow prompt reserved envelope mch1 latencyMs .success (some capture.prh1.text)
      (some out1.text) none capture.transportId capture.byteCount (some byteCount)
  | .rejected status _ =>
    kickoffRow prompt reserved envelope mch1 latencyMs .outputContractError
      (some capture.prh1.text) none (some status.code.text) capture.transportId capture.byteCount
      none

/-- The row that `close_journal_transport_error` builds. -/
def failedKickoffRow (capture : Option ProviderMessageEnvelopeV1) (code : ProviderFailureCodeV1) :
    TurnLlmInvocationRowV1 :=
  kickoffRow prompt reserved envelope mch1 latencyMs .transportError (capture.map (·.prh1.text))
    none (some code.text)
    ((capture.map (·.transportId)).getD envelope.variant.text)
    ((capture.map (·.byteCount)).getD prompt.promptBytes) none

end Close

/-- Build a closed row and put it in the place of the reserved one. -/
def closeRow (journal : TurnLlmInvocationJournalV1) (reserved row : TurnLlmInvocationRowV1) :
    Except CallException TurnLlmInvocationJournalV1 :=
  ((row.construct).bind fun row => journal.replaceReserved reserved.invocationOrdinal row).mapError
    .journal

/-- `required_mch1`. -/
def requiredMch1 (prompt : PromptProgram) : Except CallException (Digest "mch1") :=
  match prompt.mch1 with
  | some mch1 => .ok mch1
  | none => .error (.invariant "model_visible_context_hash_missing")

namespace KickoffCall

/-- The end of the call, once its row is reserved. -/
def finish (call : KickoffCall) (envelope : ProviderTransportEnvelopeV1)
    (reserved : TurnLlmInvocationRowV1) (journal : TurnLlmInvocationJournalV1) :
    Except CallException ProviderRaw × TurnLlmInvocationJournalV1 :=
  match call.ending.guarded with
  | .ok (raw, capture) =>
    match (requiredMch1 call.prompt).bind fun mch1 => closeRow journal reserved
        (answeredKickoffRow call.prompt reserved envelope mch1 call.latencyMs capture
          (captureProviderTextOutput call.out1 call.model raw)) with
    | .error e => (.error e, journal)
    | .ok closed => (.ok raw, closed)
  | .error fault =>
    match fault.code? with
    | none => (.error fault.exception, journal)
    | some code =>
      match (requiredMch1 call.prompt).bind fun mch1 => closeRow journal reserved
          (failedKickoffRow call.prompt reserved envelope mch1 call.latencyMs
            (optionalRequestCapture call.ending.captures) code) with
      | .error e => (.error e, journal)
      | .ok closed => (.error (fault.surfaced code), closed)

/-- What a call without a journal returns. -/
def unrecorded (call : KickoffCall) : Except CallException ProviderRaw :=
  match call.ending.guarded with
  | .ok (raw, _) => .ok raw
  | .error fault =>
    match fault.code? with
    | none => .error fault.exception
    | some code => .error (fault.surfaced code)

/-- `run_crewai_kickoff`, with the journal that it resolves. -/
def run (call : KickoffCall) (journal : Option TurnLlmInvocationJournalV1) :
    Except CallException ProviderRaw × Option TurnLlmInvocationJournalV1 :=
  match rejectInvalidDispatch call.prompt call.healthLogContext, call.envelope, journal with
  | .error code, _, journal => (.error (.invariant code), journal)
  | .ok _, .error e, journal => (.error (.raised e), journal)
  | .ok _, .ok _, none => (call.unrecorded, none)
  | .ok _, .ok envelope, some journal =>
    match journal.reserve call.prompt.program.stage call.prompt.program.programId
        (targetSlotForStage call.prompt.program.stage) "crewai_kickoff" none with
    | .error e => (.error (.journal e), some journal)
    | .ok (reserved, journal) => (call.finish envelope reserved journal).map id some

end KickoffCall

/-! ## The direct call -/

/-- How the guarded part of a direct call stops. -/
inductive DirectFault where
  | ioCapture
  | status (statusCode : ℤ)
  | timeout
  | request
  | invocation (code : ProviderFailureCodeV1)
  | validation
  | cancelled
  | raised (e : RaisedException)

/-- The code under which a handler closes the row; other exceptions have no handler. -/
def DirectFault.code? : DirectFault → Option ProviderFailureCodeV1
  | .ioCapture => some .directProviderStdioViolation
  | .status statusCode => some (providerHttpFailureCode statusCode)
  | .timeout => some .providerTimeout
  | .request => some .providerTransportUnavailable
  | .invocation code => some code
  | .validation => some .providerInternalError
  | .cancelled => some .providerTransportUnavailable
  | .raised _ => none

/-- What the call raises after a fault. -/
def DirectFault.exception (fault : DirectFault) : CallException :=
  match fault with
  | .cancelled => .cancelled
  | .raised e => .raised e
  | .ioCapture => .provider .directProviderStdioViolation
  | .status statusCode => .provider (providerHttpFailureCode statusCode)
  | .timeout => .provider .providerTimeout
  | .request => .provider .providerTransportUnavailable
  | .invocation code => .provider code
  | .validation => .provider .providerInternalError

/-- What the journal reads of a `DirectProviderSynthesisV1`. -/
structure DirectProviderSynthesisV1 where
  stage : StageKindV1
  programId : String
  osh1 : Digest "osh1"
  mch1 : Digest "mch1"
  hph1 : Digest "hph1"

/-- What a direct call is made with, and what comes of it. Its callers take the target slot of
the stage: the selectors their own, `direct_target_from_settings` the planner's or composer's. -/
structure DirectCall where
  synthesis : DirectProviderSynthesisV1
  modelFamily : ModelFamily
  internalEndpoint : Bool
  sceneKey : AuditSceneKey
  model : ResponseModel
  purpose : String
  purpose_bound : boundedText 1 80 purpose = true
  /-- The transport envelope, unless it exceeds the aggregate budget. -/
  envelope : Except RaisedException ProviderTransportEnvelopeV1
  ending : Except DirectFault (Option String)
  out1 : String → Digest "out1"
  latencyMs : ℕ

/-- `_closed_direct_row`. -/
def closedDirectRow (call : DirectCall) (program : PromptProgramV2)
    (reserved : TurnLlmInvocationRowV1)
    (envelope : ProviderTransportEnvelopeV1) (status : JournalStatusV1)
    (errorCode out1 : Option String) (outputBytes : Option ℕ) : TurnLlmInvocationRowV1 where
  invocationOrdinal := reserved.invocationOrdinal
  logicalAttempt := reserved.logicalAttempt
  stageKind := reserved.stageKind
  programId := reserved.programId
  programVersion := some program.programVersion
  targetSlot := reserved.targetSlot
  sceneKey := some program.sceneKey
  sceneContractRef := program.contractRef
  purpose := reserved.purpose
  status := status
  osh1 := some call.synthesis.osh1.text
  poh1 := some envelope.poh1.text
  hph1 := some call.synthesis.hph1.text
  prh1 := some envelope.prh1.text
  inputDigest := some call.synthesis.mch1.text
  outputDigest := out1
  errorCode := errorCode
  modelFamily := some call.modelFamily.text
  providerId := some envelope.providerId.text
  transportId := some envelope.variant.text
  inputSchemaVersion := some (directInputSchemaVersion call.synthesis.stage)
  outputSchemaVersion := some call.model.schemaVersion.text
  latencyMs := call.latencyMs
  inputBytes := envelope.byteCount
  outputBytes := outputBytes

/-- The row of `close_direct_journal_error`: an output failure has its own status. -/
def failedDirectRow (call : DirectCall) (program : PromptProgramV2)
    (reserved : TurnLlmInvocationRowV1)
    (envelope : ProviderTransportEnvelopeV1) (code : ProviderFailureCodeV1) :
    TurnLlmInvocationRowV1 :=
  closedDirectRow call program reserved envelope
    (if code.isOutputFailure then .outputContractError else .transportError) (some code.text) none
    none

/-- The row of `close_direct_journal_success`. -/
def answeredDirectRow (call : DirectCall) (program : PromptProgramV2)
    (reserved : TurnLlmInvocationRowV1) (envelope : ProviderTransportEnvelopeV1)
    (out1 : Digest "out1") (byteCount : ℕ) : TurnLlmInvocationRowV1 :=
  closedDirectRow call program reserved envelope .success none (some out1.text) (some byteCount)

namespace DirectCall

/-- The guarded part: a rejected output is a fault. -/
def guarded (call : DirectCall) : Except DirectFault (String × Digest "out1" × ℕ) :=
  match call.ending with
  | .error fault => .error fault
  | .ok value =>
    match captureProviderTextOutput call.out1 call.model (.text value) with
    | .available text out1 byteCount => .ok (text, out1, byteCount)
    | .rejected status _ => .error (.invocation status.code)

/-- The end of the call, once its row is reserved. -/
def finish (call : DirectCall) (program : PromptProgramV2) (envelope : ProviderTransportEnvelopeV1)
    (reserved : TurnLlmInvocationRowV1) (journal : TurnLlmInvocationJournalV1) :
    Except CallException String × TurnLlmInvocationJournalV1 :=
  match call.guarded with
  | .ok (text, out1, byteCount) =>
    match closeRow journal reserved
        (answeredDirectRow call program reserved envelope out1 byteCount) with
    | .error e => (.error e, journal)
    | .ok closed => (.ok text, closed)
  | .error fault =>
    match fault.code? with
    | none => (.error fault.exception, journal)
    | some code =>
      match closeRow journal reserved (failedDirectRow call program reserved envelope code) with
      | .error e => (.error e, journal)
      | .ok closed => (.error fault.exception, closed)

/-- What a call without a row returns. -/
def unrecorded (call : DirectCall) : Except CallException String :=
  match call.guarded with
  | .ok (text, _) => .ok text
  | .error fault => .error fault.exception

/-- `run_direct_provider_text`, with the journal that it resolves. -/
def run (call : DirectCall) (journal : Option TurnLlmInvocationJournalV1) :
    Except CallException String × Option TurnLlmInvocationJournalV1 :=
  if call.internalEndpoint then
    (.error (.raised ⟨.valueError, "DirectProviderTransportError", none⟩), journal)
  else match resolveActivePromptProgramV2 call.synthesis.stage call.sceneKey,
    call.envelope, journal with
    | none, _, journal => (.error (.raised ⟨.valueError, "PromptGovernanceError", none⟩), journal)
    | some program, envelope, journal =>
      if program.programId ≠ call.synthesis.programId then
        (.error (.raised ⟨.valueError, "DirectProviderTransportError", none⟩), journal)
      else match envelope, journal with
        | .error e, journal => (.error (.raised e), journal)
        | .ok _, none => (call.unrecorded, none)
        | .ok envelope, some journal =>
          if call.synthesis.stage = .llmHealthProbe then (call.unrecorded, some journal)
          else match journal.reserve call.synthesis.stage call.synthesis.programId
              (targetSlotForStage call.synthesis.stage) call.purpose none with
            | .error e => (.error (.journal e), some journal)
            | .ok (reserved, journal) => (call.finish program envelope reserved journal).map id some

end DirectCall

end MarketSupport
