import MarketSupport.Lifecycle.JournalAudit

/-!
# Closed rows

The audit of a turn takes a closed row of a program when the status of the row fits the code of
its failure. A direct turn then records it; a group turn also asks for the captured request.

## Main results

* `ClosedRow.auditAttempt_eq` — what the audit makes of a closed row.
* `ClosedRow.construct_ok_iff`, `ClosedRow.group_ok_iff`, `ClosedRow.direct_ok` — whether the audit
  and its record take it.
-/

namespace MarketSupport

open Library

/-! ## Registered programs -/

section Registry

variable {program : PromptProgramV2}

theorem boundedText_ofList {least most : ℕ} {chars : List Char}
    (h : least ≤ chars.length ∧ chars.length ≤ most) :
    boundedText least most (String.ofList chars) = true := by
  simp [boundedText, h]

theorem boundedText_sceneContractRef {id version : List Char}
    (h : id.length + 1 + version.length ≤ 240) :
    (sceneContractRef (some (String.ofList id)) (some (String.ofList version))).all
      (boundedText 0 240) = true := by
  have hat : "@".length = 1 := String.length_ofList
  simp only [sceneContractRef, Option.all_some, boundedText, String.length_append,
    String.length_ofList, hat]
  simpa using h

def PromptProgramV2.Bounded (program : PromptProgramV2) : Prop :=
  boundedText 1 180 program.programId = true ∧ boundedText 1 40 program.programVersion = true ∧
    program.contractRef.all (boundedText 0 240) = true

theorem userFacingProgram_bounded {id contractId : List Char} {stage : StageKindV1}
    {sceneKey : AuditSceneKey} (hid : 1 ≤ id.length ∧ id.length ≤ 180)
    (hcontract : contractId.length ≤ 200) :
    (userFacingProgram (String.ofList id) stage sceneKey (String.ofList contractId)).Bounded := by
  refine ⟨boundedText_ofList hid, boundedText_ofList (by decide),
    boundedText_sceneContractRef ?_⟩
  simp only [List.length_cons, List.length_nil]
  omega

theorem neutralProgram_bounded {id : List Char} {stage : StageKindV1}
    (hid : 1 ≤ id.length ∧ id.length ≤ 180) :
    (neutralProgram (String.ofList id) stage).Bounded :=
  ⟨boundedText_ofList hid, boundedText_ofList (by decide), rfl⟩

theorem registered_bounds : ∀ program ∈ promptProgramRegistryV2, program.Bounded := by
  simp only [promptProgramRegistryV2, List.forall_mem_cons, List.not_mem_nil, false_implies,
    implies_true, and_true]
  refine ⟨?_, ?_, ?_, ?_, ?_, ?_, ?_, ?_, ?_, ?_, ?_⟩
  all_goals
    first
    | exact userFacingProgram_bounded (by decide) (by decide)
    | exact neutralProgram_bounded (by decide)

/-- Exactly the programs of a scene have a scene contract. -/
theorem registered_contract : ∀ program ∈ promptProgramRegistryV2,
    program.contractRef.isSome = !decide (program.sceneKey = .sceneNeutralV1) := by
  decide +kernel

theorem registered_resolves : ∀ program ∈ promptProgramRegistryV2,
    resolveActivePromptProgramV2 program.stage program.sceneKey = some program := by
  simp [promptProgramRegistryV2, resolveActivePromptProgramV2, userFacingProgram, neutralProgram]

theorem registered_stage : ∀ program ∈ promptProgramRegistryV2,
    programStage program.programId = program.stage.audit? := by
  simp [promptProgramRegistryV2, programStage, programRegistry, List.lookup_cons,
    userFacingProgram, neutralProgram, StageKindV1.audit?]

/-- A program of an audited stage is allowed in its scene; a neutral one in both. -/
theorem registered_allowed : ∀ program ∈ promptProgramRegistryV2,
    program.stage.audit?.isSome = true →
    ∀ scene ∈ [AuditSceneKey.wecomGroupV1, .wecomDirectV1],
      program.sceneKey = scene ∨ program.sceneKey = .sceneNeutralV1 →
        auditProgramAllowed scene program.programId = true := by
  simp [promptProgramRegistryV2, auditProgramAllowed, programRegistry, List.lookup_cons,
    userFacingProgram, neutralProgram, StageKindV1.audit?]

/-- A program of the group scene is the one of its stage there. -/
theorem registered_group : ∀ program ∈ promptProgramRegistryV2, program.sceneKey = .wecomGroupV1 →
    program.stage.audit?.isSome = true ∧ auditSceneKey .group program.stage = program.sceneKey := by
  decide +kernel

/-- A program that is active under the key of a stage is audited in that stage. -/
theorem registered_active : ∀ program ∈ promptProgramRegistryV2, ∀ scene ∈ [Scene.group, .direct],
    auditSceneKey scene program.stage = program.sceneKey → program.stage.audit?.isSome = true := by
  decide +kernel

theorem registered_of_resolve {stage : StageKindV1} {sceneKey : AuditSceneKey}
    (h : resolveActivePromptProgramV2 stage sceneKey = some program) :
    program ∈ promptProgramRegistryV2 ∧ program.stage = stage ∧ program.sceneKey = sceneKey := by
  unfold resolveActivePromptProgramV2 at h
  split at h
  · next only hfilter =>
    obtain rfl := Option.some.inj h
    have hmem : only ∈ promptProgramRegistryV2.filter fun p => p.stage = stage ∧ p.sceneKey =
      sceneKey := by
      rw [hfilter]
      exact List.mem_singleton_self _
    simpa using hmem
  · cases h

end Registry

/-! ## Closed rows -/

/-- A closed row of a program, with all that the audit of a group or a direct turn reads. -/
structure ClosedRow (program : PromptProgramV2) (row : TurnLlmInvocationRowV1) : Prop where
  registered : program ∈ promptProgramRegistryV2
  valid : row.Valid
  closed : row.status ≠ .reserved
  stage : row.stageKind = program.stage
  programId : row.programId = program.programId
  programVersion : row.programVersion = some program.programVersion
  sceneKey : row.sceneKey = some program.sceneKey
  contractRef : row.sceneContractRef = program.contractRef
  slot : row.targetSlot = targetSlotForStage program.stage
  schemas : row.osh1.isSome = true ∧ row.poh1.isSome = true
  code : row.status ≠ .success → ∃ code : ProviderFailureCodeV1, row.errorCode = some code.text

/-- The status under which the audit records a row. -/
def JournalStatusV1.audit : JournalStatusV1 → AuditInvocationStatusV1
  | .success => .success
  | .outputContractError => .outputContractError
  | .transportError | .uncapturedNetworkError | .reserved => .transportError

/-- The status of a row fits the code of its failure. -/
def Coded (row : TurnLlmInvocationRowV1) : Prop :=
  ∀ code : ProviderFailureCodeV1, row.errorCode = some code.text →
    (row.status = .outputContractError ↔ code.isOutputFailure = true)

section Attempt

variable {program : PromptProgramV2} {row : TurnLlmInvocationRowV1} {scene : Scene}
  {digest : Option DirectDigest} {stage : AuditStageV1}

/-- What the constructor of a row asks of its fields. -/
theorem TurnLlmInvocationRowV1.Valid.fields (h : row.Valid) :
    (1 ≤ row.invocationOrdinal ∧ 1 ≤ row.logicalAttempt) ∧ row.osh1.all (isDigest "osh1") = true ∧
      row.poh1.all (isDigest "poh1") = true ∧ row.hph1.all (isDigest "hph1") = true ∧
      row.prh1.all (isDigest "prh1") = true ∧ row.inputDigest.all (isDigest "mch1") = true ∧
      row.outputDigest.all (isDigest "out1") = true := by
  have hchecks := h.1
  simp only [TurnLlmInvocationRowV1.fieldChecks, List.forall_mem_cons, Bool.and_eq_true,
    decide_eq_true_eq] at hchecks
  obtain ⟨⟨hordinal, -⟩, ⟨hattempt, -⟩, -, -, -, -, hosh1, hpoh1, hhph1, hprh1, hinput,
    houtput, -⟩ :=
    hchecks
  exact ⟨⟨hordinal, hattempt⟩, hosh1, hpoh1, hhph1, hprh1, hinput, houtput⟩

/-- What the constructor of a closed row asks of its status. -/
theorem TurnLlmInvocationRowV1.Valid.status (h : row.Valid) (hclosed : row.status ≠ .reserved) :
    (row.hph1.isSome = true ∧ row.inputDigest.isSome = true ∧ row.modelFamily.isSome = true ∧
      row.providerId.isSome = true ∧ row.transportId.isSome = true ∧
      row.inputSchemaVersion.isSome = true ∧ row.outputSchemaVersion.isSome = true) ∧
    (row.status = .success → row.outputDigest.isSome = true ∧ row.outputBytes.isSome = true ∧
      row.errorCode = none) ∧
    (row.status ≠ .success → row.outputDigest = none ∧ row.outputBytes = none) := by
  have hstatus := h.2
  unfold TurnLlmInvocationRowV1.validateStatusFields at hstatus
  simp only [Option.isNone_iff_eq_none, Option.isSome_iff_ne_none] at hstatus ⊢
  split_ifs at hstatus <;> grind

/-- The digest fields of an attempt. -/
structure AttemptDigests.Full (digests : AttemptDigests) (digest : Option DirectDigest)
    (row : TurnLlmInvocationRowV1) : Prop where
  input : digests.inputDigest.isSome = true
  output : digests.outputDigest.isSome = decide (row.status = .success)
  group : digest = none → digests =
    ⟨row.osh1, row.poh1, row.hph1, row.prh1, row.inputDigest, row.outputDigest⟩
  direct : ∀ keyed, digest = some keyed →
    digests.inputDigest.all (isDigest "dah1") = true ∧ digests.outputDigest.all
      (isDigest "dah1") = true

theorem ClosedRow.attemptDigests (h : ClosedRow program row) (digest : Option DirectDigest)
    (stage : AuditStageV1) : ∃ digests, MarketSupport.attemptDigests digest stage row
    row.status.audit =
      .ok digests ∧ digests.Full digest row := by
  obtain ⟨⟨-, hinput, -⟩, hsuccess, hfailed⟩ := h.valid.status h.closed
  have houtput : row.outputDigest.isSome = decide (row.status = .success) := by
    by_cases hs : row.status = .success
    · rw [(hsuccess hs).1, decide_eq_true hs]
    · rw [(hfailed hs).1, decide_eq_false hs]
      rfl
  cases digest with
  | none => exact ⟨_, rfl, hinput, houtput, fun _ => rfl, fun _ hkeyed => by cases hkeyed⟩
  | some keyed =>
    obtain ⟨osh1, hosh1⟩ := Option.isSome_iff_exists.mp h.schemas.1
    obtain ⟨inputHash, hhash⟩ : ∃ hash, (row.prh1.or row.poh1).or row.osh1 = some hash := by
      rw [← Option.isSome_iff_exists, Option.isSome_or, hosh1]
      simp
    unfold MarketSupport.attemptDigests
    simp only [hhash]
    by_cases hs : row.status = .success
    · obtain ⟨outputHash, hout⟩ := Option.isSome_iff_exists.mp (hsuccess hs).1
      simp only [hs, JournalStatusV1.audit, hout, if_true]
      refine ⟨_, rfl, rfl, by simp [hs], by simp, fun _ _ => ⟨?_, ?_⟩⟩
      · exact Digest.shape _
      · exact Digest.shape _
    · have haudit : row.status.audit ≠ .success := by
        cases hstatus : row.status <;> simp_all [JournalStatusV1.audit]
      simp only [if_neg haudit]
      refine ⟨_, rfl, rfl, by simp [hs], by simp, fun _ _ => ⟨?_, rfl⟩⟩
      exact Digest.shape _

/-- The proposal of a closed row. -/
def attemptProposal (program : PromptProgramV2) (stage : AuditStageV1)
    (row : TurnLlmInvocationRowV1)
    (errorCode : Option AuditErrorCodeV1) (digests : AttemptDigests) :
    LlmInvocationAuditProposalV1 where
  ordinal := row.invocationOrdinal
  logicalAttempt := row.logicalAttempt
  transportAttempt := 1
  stage := stage
  programId := row.programId
  programVersion := some program.programVersion
  targetSlot := stage.targetSlot
  sceneKey := some program.sceneKey
  sceneContractRef := program.contractRef
  modelFamily := row.modelFamily
  providerId := row.providerId
  transportId := row.transportId
  inputSchemaVersion := row.inputSchemaVersion
  outputSchemaVersion := row.outputSchemaVersion
  osh1 := digests.osh1
  poh1 := digests.poh1
  hph1 := digests.hph1
  prh1 := digests.prh1
  status := row.status.audit
  latencyMs := row.latencyMs
  inputBytes := row.inputBytes
  outputBytes := row.outputBytes.map (↑)
  errorCode := errorCode
  inputDigest := digests.inputDigest
  outputDigest := digests.outputDigest

theorem auditTargetSlot_stage (hstage : program.stage.audit? = some stage) :
    auditTargetSlot (targetSlotForStage program.stage) = .ok stage.targetSlot := by
  cases hs : program.stage <;> rw [hs] at hstage <;> cases hstage <;> rfl

theorem ClosedRow.auditStatus (h : ClosedRow program row) :
    ∃ errorCode, MarketSupport.auditStatus row = .ok (row.status.audit, errorCode) ∧
      (row.status = .success → errorCode = none) ∧
      ∀ code : ProviderFailureCodeV1, row.errorCode = some code.text → row.status ≠ .success →
        errorCode = some code.audit := by
  by_cases hs : row.status = .success
  · refine ⟨none, ?_, fun _ => rfl, fun code _ hne => absurd hs hne⟩
    simp only [MarketSupport.auditStatus, hs, JournalStatusV1.audit]
  · obtain ⟨code, hcode⟩ := h.code hs
    refine ⟨some code.audit, ?_, fun hs' => absurd hs' hs, fun code' hcode' _ => ?_⟩
    · have hclosed := h.closed
      unfold MarketSupport.auditStatus
      rw [hcode, auditErrorCode_text]
      cases hstatus : row.status <;> simp_all [JournalStatusV1.audit]
    · have hok := auditErrorCode_text code
      have hok' := auditErrorCode_text code'
      rw [← hcode] at hok
      rw [← hcode'] at hok'
      exact congrArg some (Except.ok.inj (hok.symm.trans hok'))

/-- The loop builds the proposal of a closed row whose program is active in the scene. -/
theorem ClosedRow.auditAttempt_eq (h : ClosedRow program row)
    (digest : Option DirectDigest) (hscene : auditSceneKey scene program.stage = program.sceneKey)
    (hstage : program.stage.audit? = some stage) :
    ∃ errorCode digests, auditAttempt scene digest stage row =
        (attemptProposal program stage row errorCode digests).construct ∧
      digests.Full digest row ∧ (row.status = .success → errorCode = none) ∧
      ∀ code : ProviderFailureCodeV1, row.errorCode = some code.text → row.status ≠ .success →
        errorCode = some code.audit := by
  obtain ⟨errorCode, hstatus, hcodes⟩ := h.auditStatus
  obtain ⟨digests, hdigests, hfull⟩ := h.attemptDigests digest stage
  refine ⟨errorCode, digests, ?_, hfull, hcodes⟩
  have hmeta : ¬(row.modelFamily.isNone = true ∨ row.providerId.isNone = true ∨
      row.transportId.isNone = true ∨ row.inputSchemaVersion.isNone = true ∨
      row.outputSchemaVersion.isNone = true) := by
    obtain ⟨-, -, hfamily, hprovider, htransport, hinput, houtput⟩ := (h.valid.status h.closed).1
    simp only [Option.isNone_iff_eq_none, Option.isSome_iff_ne_none] at *
    simp [hfamily, hprovider, htransport, hinput, houtput]
  unfold auditAttempt
  rw [if_neg h.closed, h.stage, hscene, registered_resolves program h.registered]
  simp only [h.programId, h.programVersion, h.sceneKey, h.contractRef, ne_eq, not_true_eq_false,
    or_self, if_false, hstatus, hmeta, h.slot, auditTargetSlot_stage hstage]
  simp only [Library.ok_bind, hdigests, attemptProposal, h.programId]

theorem require_eq_ok_iff {ok : Bool} {reason : String} {u : Unit} :
    require ok reason = .ok u ↔ ok = true := by
  cases ok <;> simp [require]

theorem require_bind_eq_ok_iff {α : Type} {ok : Bool} {reason : String}
    {f : Unit → Except CoordinatorException α} {a : α} :
    (require ok reason >>= f) = .ok a ↔ ok = true ∧ f () = .ok a := by
  rw [Library.bind_eq_ok_iff]
  constructor
  · intro ⟨u, hu, hf⟩
    exact ⟨require_eq_ok_iff.mp hu, hf⟩
  · intro ⟨hok, hf⟩
    exact ⟨(), require_eq_ok_iff.mpr hok, hf⟩

/-- The error code that an attempt of a stage must have under a status. -/
def codeFits (stage : AuditStageV1) (errorCode : Option AuditErrorCodeV1) :
    AuditInvocationStatusV1 → Bool
  | .success => errorCode.isNone
  | .validationError => errorCode == some stage.validationError
  | .outputContractError => errorCode.any AuditErrorCodeV1.isOutputContract
  | .transportError => errorCode.any AuditErrorCodeV1.isTransport

theorem validateProgramAuditLabels_ok_iff {ordinal latencyMs inputBytes : ℤ} {programId : String}
    {targetSlot : AuditTargetSlotV1} {status : AuditInvocationStatusV1} {outputBytes : Option ℤ}
    {errorCode : Option AuditErrorCodeV1} {u : Unit} :
    validateProgramAuditLabels ordinal stage programId targetSlot status latencyMs inputBytes
        outputBytes errorCode = .ok u ↔
      1 ≤ ordinal ∧ programStage programId = some stage ∧ targetSlot = stage.targetSlot ∧
        (0 ≤ latencyMs ∧ 0 ≤ inputBytes ∧ outputBytes.all (0 ≤ ·) = true) ∧
        codeFits stage errorCode status = true := by
  unfold validateProgramAuditLabels
  simp only [require_bind_eq_ok_iff, decide_eq_true_eq, beq_iff_eq, Bool.and_eq_true, and_assoc]
  cases status <;> simp only [require_eq_ok_iff, codeFits]

/-- The labels of a closed row pass when its status fits its code. -/
theorem ClosedRow.labels_ok_iff (h : ClosedRow program row)
    (hstage : program.stage.audit? = some stage)
    (errorCode : Option AuditErrorCodeV1) {outputBytes : Option ℤ}
    (hbytes : outputBytes.all (0 ≤ ·) = true) {u : Unit} :
    validateProgramAuditLabels row.invocationOrdinal stage row.programId stage.targetSlot
        row.status.audit row.latencyMs row.inputBytes outputBytes errorCode = .ok u ↔
      codeFits stage errorCode row.status.audit = true := by
  obtain ⟨⟨hordinal, -⟩, -⟩ := h.valid.fields
  have hprogram : programStage row.programId = some stage := by
    rw [h.programId, registered_stage program h.registered, hstage]
  rw [validateProgramAuditLabels_ok_iff]
  constructor
  · intro ⟨_, _, _, _, hfits⟩
    exact hfits
  · intro hfits
    exact ⟨by omega, hprogram, rfl, ⟨by omega, by omega, hbytes⟩, hfits⟩

theorem rowBytes_nonneg (row : TurnLlmInvocationRowV1) :
    (row.outputBytes.map (fun n : ℕ => (n : ℤ))).all (0 ≤ ·) = true := by
  cases row.outputBytes <;> simp

theorem ClosedRow.attempts (h : ClosedRow program row) :
    (decide (1 ≤ (row.logicalAttempt : ℤ)) && (1 : ℤ) == 1) = true := by
  have hattempt := h.valid.fields.1.2
  simp only [beq_self_eq_true, Bool.and_true, decide_eq_true_eq]
  omega

/-- The audit's constructor takes every closed row whose status fits its code. -/
theorem ClosedRow.construct_ok_iff (h : ClosedRow program row)
    (hstage : program.stage.audit? = some stage)
    {errorCode : Option AuditErrorCodeV1} {digests : AttemptDigests}
    {item : LlmInvocationAuditProposalV1} :
    (attemptProposal program stage row errorCode digests).construct = .ok item ↔
      item = attemptProposal program stage row errorCode digests ∧
        codeFits stage errorCode row.status.audit = true := by
  have hlabels := h.labels_ok_iff hstage errorCode (rowBytes_nonneg row) (u := ())
  unfold LlmInvocationAuditProposalV1.construct
  constructor
  · intro hitem
    obtain ⟨u, hu, hitem⟩ := Library.bind_eq_ok_iff.mp hitem
    obtain ⟨-, hitem⟩ := require_bind_eq_ok_iff.mp hitem
    exact ⟨(Except.ok.inj hitem).symm, hlabels.mp hu⟩
  · intro ⟨hitem, hfits⟩
    exact Library.bind_eq_ok_iff.mpr ⟨(), hlabels.mpr hfits,
      require_bind_eq_ok_iff.mpr ⟨h.attempts, congrArg Except.ok hitem.symm⟩⟩

/-- Which code a closed row needs. -/
theorem ClosedRow.codeFits_iff (h : ClosedRow program row) {errorCode : Option AuditErrorCodeV1}
    (hsuccess : row.status = .success → errorCode = none)
    (hcode : ∀ code : ProviderFailureCodeV1, row.errorCode = some code.text →
    row.status ≠ .success →
      errorCode = some code.audit) :
    codeFits stage errorCode row.status.audit = true ↔ (row.status ≠ .success → Coded row) := by
  by_cases hs : row.status = .success
  · simp [hs, JournalStatusV1.audit, hsuccess hs, codeFits]
  obtain ⟨code, hrow⟩ := h.code hs
  have hcoded : Coded row ↔ (row.status = .outputContractError ↔ code.isOutputFailure = true) := by
    constructor
    · intro hall
      exact hall code hrow
    · intro hone code' hrow'
      have hsame : code'.audit = code.audit :=
        Option.some.inj ((hcode code' hrow' hs).symm.trans (hcode code hrow hs))
      rw [← code'.isOutputContract_audit, hsame, code.isOutputContract_audit]
      exact hone
  rw [hcode code hrow hs, hcoded]
  have hclosed := h.closed
  have htransport := code.isTransport_audit
  have houtput := code.isOutputContract_audit
  cases hstatus : row.status <;> simp_all [JournalStatusV1.audit, codeFits]

/-! ## Records of attempts -/

theorem validatePrefixedDigest_ok {tag value : String} (h : isDigest tag value = true) :
    validatePrefixedDigest tag value = .ok () := by
  obtain ⟨hshape, hencoding⟩ := Bool.and_eq_true_iff.mp h
  exact require_bind_eq_ok_iff.mpr ⟨hshape, require_eq_ok_iff.mpr hencoding⟩

theorem validateDirectAuditDigest_ok {value : String} (h : isDigest "dah1" value = true) :
    validateDirectAuditDigest value = .ok () :=
  require_eq_ok_iff.mpr h

/-- A closed row has an output exactly when it is a success. -/
theorem ClosedRow.output (h : ClosedRow program row) :
    row.outputBytes.isSome = decide (row.status = .success) := by
  obtain ⟨-, hsuccess, hfailed⟩ := h.valid.status h.closed
  by_cases hs : row.status = .success
  · rw [(hsuccess hs).2.1, decide_eq_true hs]
  · rw [(hfailed hs).2, decide_eq_false hs]
    rfl

theorem validateOutputPresence_ok (owner : String) {item : ProgramAudit}
    (hnever : item.status ≠ .validationError)
    (hdigest : item.outputDigest.isSome = decide (item.status = .success))
    (hbytes : item.outputBytes.isSome = decide (item.status = .success)) :
    validateOutputPresence owner item = .ok () := by
  unfold validateOutputPresence
  cases hs : item.status <;> simp_all [require]

theorem JournalStatusV1.audit_ne (status : JournalStatusV1) : status.audit ≠ .validationError := by
  cases status <;> simp [JournalStatusV1.audit]

theorem JournalStatusV1.audit_eq_success (status : JournalStatusV1) :
    status.audit = .success ↔ status = .success := by
  cases status <;> simp [JournalStatusV1.audit]

/-- A user-facing program has a contract. -/
theorem ClosedRow.userFacing (h : ClosedRow program row) {sceneKey : AuditSceneKey}
    (hkey : sceneKey ≠ .sceneNeutralV1) :
    (!(program.sceneKey == sceneKey && program.contractRef.isNone)) = true := by
  have hcontract := registered_contract program h.registered
  by_cases hs : program.sceneKey = .sceneNeutralV1
  · have hne : program.sceneKey ≠ sceneKey := by
      intro hsame
      exact hkey (hsame.symm.trans hs)
    simp [hne]
  · rw [decide_eq_false hs, Bool.not_false] at hcontract
    simp [hcontract]

/-- A neutral program has no contract. -/
theorem ClosedRow.neutral (h : ClosedRow program row) :
    (!(program.sceneKey == .sceneNeutralV1 && program.contractRef.isSome)) = true := by
  have hcontract := registered_contract program h.registered
  cases hs : program.sceneKey <;> cases hc : program.contractRef <;> simp_all

/-- The fields that every closed row has. -/
theorem ClosedRow.metadata (h : ClosedRow program row) :
    ∃ hph1 inputDigest family provider transport inVersion outVersion osh1 poh1,
      row.hph1 = some hph1 ∧ row.inputDigest = some inputDigest ∧ row.modelFamily = some family ∧
      row.providerId = some provider ∧ row.transportId = some transport ∧
      row.inputSchemaVersion = some inVersion ∧ row.outputSchemaVersion = some outVersion ∧
      row.osh1 = some osh1 ∧ row.poh1 = some poh1 := by
  obtain ⟨⟨hhph1, hinput, hfamily, hprovider, htransport, hin, hout⟩, -⟩ := h.valid.status h.closed
  obtain ⟨hph1, ehph1⟩ := Option.isSome_iff_exists.mp hhph1
  obtain ⟨inputDigest, einput⟩ := Option.isSome_iff_exists.mp hinput
  obtain ⟨family, efamily⟩ := Option.isSome_iff_exists.mp hfamily
  obtain ⟨provider, eprovider⟩ := Option.isSome_iff_exists.mp hprovider
  obtain ⟨transport, etransport⟩ := Option.isSome_iff_exists.mp htransport
  obtain ⟨inVersion, ein⟩ := Option.isSome_iff_exists.mp hin
  obtain ⟨outVersion, eout⟩ := Option.isSome_iff_exists.mp hout
  obtain ⟨osh1, eosh1⟩ := Option.isSome_iff_exists.mp h.schemas.1
  obtain ⟨poh1, epoh1⟩ := Option.isSome_iff_exists.mp h.schemas.2
  exact ⟨hph1, inputDigest, family, provider, transport, inVersion, outVersion, osh1, poh1, ehph1,
    einput, efamily, eprovider, etransport, ein, eout, eosh1, epoh1⟩

section Records

variable {errorCode : Option AuditErrorCodeV1} {digests : AttemptDigests}

/-- A group turn records a closed row when its request was captured. -/
theorem ClosedRow.group_ok_iff (h : ClosedRow program row)
    (hstage : program.stage.audit? = some stage)
    (hscene : program.sceneKey ≠ .wecomDirectV1) (hfull : digests.Full none row)
    (hfits : codeFits stage errorCode row.status.audit = true) :
    (∃ audit, groupProgramAudit (attemptProposal program stage row errorCode digests) = .ok audit) ↔
      row.prh1.isSome = true := by
  obtain ⟨hph1, inputDigest, family, provider, transport, inVersion, outVersion, osh1, poh1, ehph1,
    einput, efamily, eprovider, etransport, ein, eout, eosh1, epoh1⟩ := h.metadata
  have hkey : requiredGroupScene (some program.sceneKey) = .ok program.sceneKey := by
    cases hs : program.sceneKey <;> first | rfl | exact absurd hs hscene
  have hdigests := hfull.group rfl
  cases eprh1 : row.prh1 with
  | none =>
    constructor
    · intro ⟨audit, haudit⟩
      simp only [groupProgramAudit, attemptProposal, hdigests, requiredGroupField,
        efamily, eprovider,
        etransport, ein, eout, eosh1, epoh1, ehph1, eprh1, hkey, Library.ok_bind] at haudit
      cases haudit
    · intro hcaptured
      cases hcaptured
  | some prh1 =>
    refine iff_of_true ?_ rfl
    simp only [groupProgramAudit, attemptProposal, hdigests, requiredGroupField, efamily, eprovider,
      etransport, ein, eout, eosh1, epoh1, ehph1, eprh1, einput, hkey, Library.ok_bind]
    refine ⟨_, Library.bind_eq_ok_iff.mpr ⟨(), ?_, rfl⟩⟩
    obtain ⟨-, hosh1, hpoh1, hhph1, hprh1, hinput, houtput⟩ := h.valid.fields
    rw [eosh1] at hosh1
    rw [epoh1] at hpoh1
    rw [ehph1] at hhph1
    rw [eprh1] at hprh1
    rw [einput] at hinput
    have hlabels := (h.labels_ok_iff hstage errorCode (rowBytes_nonneg row) (u := ())).mpr hfits
    have hout1 : row.outputDigest.forM (validatePrefixedDigest "out1") = .ok () := by
      cases ho : row.outputDigest with
      | none => rfl
      | some out1 => exact validatePrefixedDigest_ok (by simpa [ho] using houtput)
    simp only [GroupProgramAuditV2.validate, hlabels, h.attempts, h.neutral, require, if_true,
      h.userFacing (show AuditSceneKey.wecomGroupV1 ≠ .sceneNeutralV1 by decide), Library.ok_bind,
      hout1, validatePrefixedDigest_ok hosh1, validatePrefixedDigest_ok hpoh1,
      validatePrefixedDigest_ok hhph1, validatePrefixedDigest_ok hprh1,
        validatePrefixedDigest_ok hinput]
    refine validateOutputPresence_ok "group" row.status.audit_ne ?_ ?_
    · have houtput' := hfull.output
      rw [hdigests] at houtput'
      simp only [houtput', row.status.audit_eq_success]
    · simp only [Option.isSome_map, h.output, row.status.audit_eq_success]

/-- A direct turn records every closed row. -/
theorem ClosedRow.direct_ok (h : ClosedRow program row) (hstage : program.stage.audit? = some stage)
    (hscene : program.sceneKey ≠ .wecomGroupV1) {keyed : DirectDigest}
    (hfull : digests.Full (some keyed) row)
    (hfits : codeFits stage errorCode row.status.audit = true) :
    ∃ audit, directProgramAudit (attemptProposal program stage row errorCode digests) =
      .ok audit := by
  obtain ⟨hph1, inputDigest, family, provider, transport, inVersion, outVersion, osh1, poh1, -, -,
    efamily, eprovider, etransport, ein, eout, -, -⟩ := h.metadata
  have hkey : requiredDirectScene (some program.sceneKey) = .ok program.sceneKey := by
    cases hs : program.sceneKey <;> first | rfl | exact absurd hs hscene
  obtain ⟨input, einput⟩ := Option.isSome_iff_exists.mp hfull.input
  obtain ⟨hinput, houtput⟩ := hfull.direct keyed rfl
  rw [einput] at hinput
  simp only [directProgramAudit, attemptProposal, requiredDirectField, efamily,
    eprovider, etransport,
    ein, eout, einput, hkey, Library.ok_bind]
  refine ⟨_, Library.bind_eq_ok_iff.mpr ⟨(), ?_, rfl⟩⟩
  have hout : digests.outputDigest.forM validateDirectAuditDigest = .ok () := by
    cases ho : digests.outputDigest with
    | none => rfl
    | some out => exact validateDirectAuditDigest_ok (by simpa [ho] using houtput)
  have hkept : ∀ kept : Option ℤ,
      kept = (if row.status.audit = .success ∨ row.status.audit = .validationError then
        row.outputBytes.map (fun n : ℕ => (n : ℤ)) else none) →
      (some (kept.getD 0)).all (0 ≤ ·) = true ∧ kept.isSome = decide
        (row.status.audit = .success) := by
    intro kept hk
    by_cases hs : row.status = .success
    · have haudit := row.status.audit_eq_success.mpr hs
      rw [if_pos (Or.inl haudit)] at hk
      have hbytes := h.output
      rw [decide_eq_true hs] at hbytes
      obtain ⟨n, hn⟩ := Option.isSome_iff_exists.mp hbytes
      rw [hn] at hk
      subst hk
      simp [haudit]
    · have haudit : row.status.audit ≠ .success := fun ha => hs (row.status.audit_eq_success.mp ha)
      rw [if_neg (not_or.mpr ⟨haudit, row.status.audit_ne⟩)] at hk
      subst hk
      simp [haudit]
  obtain ⟨hbytes, hpresent⟩ := hkept _ rfl
  have hlabels := (h.labels_ok_iff hstage errorCode hbytes (u := ())).mpr hfits
  have hattempts : (decide (1 ≤ (row.logicalAttempt : ℤ)) && decide ((1 : ℤ) ≤ 1)) = true := by
    have hattempt := h.valid.fields.1.2
    simp only [le_refl, decide_true, Bool.and_true, decide_eq_true_eq]
    omega
  simp only [DirectProgramAuditV2.validate, hlabels, hattempts, h.neutral, require, if_true,
    h.userFacing (show AuditSceneKey.wecomDirectV1 ≠ .sceneNeutralV1 by decide), Library.ok_bind,
    validateDirectAuditDigest_ok hinput, hout]
  refine validateOutputPresence_ok "direct" row.status.audit_ne ?_ hpresent
  simp only [hfull.output, row.status.audit_eq_success]

end Records

end Attempt

end MarketSupport
