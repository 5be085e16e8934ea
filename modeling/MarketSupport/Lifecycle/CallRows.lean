import MarketSupport.Lifecycle.ClosedRows
import MarketSupport.Prompts.ProviderCalls

/-!
# The rows of model calls

A call that reserves a row leaves it at the end of the journal: closed under the code of the
call's end, or open when no handler closed it.

## Main results

* `LlmCall.run_leaves` — a call leaves the journal as it is, or one row at its end.
-/

namespace MarketSupport

open Library

/-! ## Rows of calls -/

theorem ProviderFailureCodeV1.text_injective : Function.Injective ProviderFailureCodeV1.text := by
  intro a b h
  cases a <;> cases b <;> first | rfl | exact absurd h (by decide)

theorem coded_of_text {row : TurnLlmInvocationRowV1} (code : ProviderFailureCodeV1)
    (h : row.errorCode = some code.text) :
    Coded row ↔ (row.status = .outputContractError ↔ code.isOutputFailure = true) := by
  constructor
  · intro hcoded
    exact hcoded code h
  · intro hone code' h'
    have hsame : code'.text = code.text := Option.some.inj (h'.symm.trans h)
    rw [ProviderFailureCodeV1.text_injective hsame]
    exact hone

/-- A closed row fits the program and the reserved row that it replaces. -/
structure Closes (program : PromptProgramV2) (reserved row : TurnLlmInvocationRowV1) : Prop where
  kept : row.invocationOrdinal = reserved.invocationOrdinal ∧
    row.logicalAttempt = reserved.logicalAttempt ∧ row.programId = reserved.programId ∧
    row.purpose = reserved.purpose ∧ row.stageKind = reserved.stageKind ∧
    row.targetSlot = reserved.targetSlot
  program : row.programVersion = some program.programVersion ∧
    row.sceneKey = some program.sceneKey ∧ row.sceneContractRef = program.contractRef
  digests : (∃ osh1 : Digest "osh1", row.osh1 = some osh1.text) ∧
    (∃ poh1 : Digest "poh1", row.poh1 = some poh1.text) ∧
    (∃ hph1 : Digest "hph1", row.hph1 = some hph1.text) ∧
    (∃ prh1 : Option (Digest "prh1"), row.prh1 = prh1.map (·.text)) ∧
    (∃ mch1 : Digest "mch1", row.inputDigest = some mch1.text)
  metadata : (∃ family : ModelFamily, row.modelFamily = some family.text) ∧
    (∃ provider : ProviderIdV1, row.providerId = some provider.text) ∧
    (∃ transport, row.transportId = some transport ∧ transport.length ≤ 80) ∧
    (∃ version, row.inputSchemaVersion = some version ∧ version.length ≤ 160) ∧
    (∃ version, row.outputSchemaVersion = some version ∧ version.length ≤ 160)
  /-- An output, or the code of a failure. -/
  outcome :
    (row.status = .success ∧ (∃ out1 : Digest "out1", row.outputDigest = some out1.text) ∧
      row.outputBytes.isSome = true ∧ row.errorCode = none) ∨
    ((row.status = .outputContractError ∨ row.status = .transportError) ∧
      row.outputDigest = none ∧ row.outputBytes = none ∧
      ∃ code : ProviderFailureCodeV1, row.errorCode = some code.text)

theorem ModelFamily.length_text_le (family : ModelFamily) : family.text.length ≤ 80 := by
  cases family <;> decide

theorem ProviderIdV1.length_text_le (provider : ProviderIdV1) : provider.text.length ≤ 80 := by
  cases provider <;> decide

section Closed

variable {program : PromptProgramV2} {reserved row : TurnLlmInvocationRowV1}

theorem Closes.valid (h : Closes program reserved row) (hreg : program ∈ promptProgramRegistryV2)
    (hreserved : reserved.Valid) : row.Valid := by
  obtain ⟨hordinal, hattempt, hprogram, hpurpose, -, -⟩ := h.kept
  obtain ⟨hversion, hscene, hcontract⟩ := h.program
  obtain ⟨⟨osh1, hosh1⟩, ⟨poh1, hpoh1⟩, ⟨hph1, hhph1⟩, ⟨prh1, hprh1⟩, ⟨mch1, hmch1⟩⟩ := h.digests
  obtain ⟨⟨family, hfamily⟩, ⟨provider, hprovider⟩, ⟨transport, htransport, htransport'⟩,
    ⟨inVersion, hin, hin'⟩, ⟨outVersion, hout, hout'⟩⟩ := h.metadata
  obtain ⟨-, hversion', hcontract'⟩ := registered_bounds program hreg
  have hneutral := registered_contract program hreg
  have hprh1' : row.prh1.all (isDigest "prh1") = true := by
    rw [hprh1]
    cases prh1 with
    | none => rfl
    | some prh1 => exact prh1.shape
  have houtcome : row.outputDigest.all (isDigest "out1") = true ∧
      row.errorCode.all (boundedText 0 80) = true := by
    obtain ⟨-, ⟨out1, hout1⟩, -, herror⟩ | ⟨-, hout1, -, code, herror⟩ := h.outcome
    · rw [hout1, herror]
      exact ⟨out1.shape, rfl⟩
    · rw [hout1, herror]
      refine ⟨rfl, ?_⟩
      simp [boundedText, code.length_text_le]
  constructor
  · have hchecks := hreserved.1
    simp only [TurnLlmInvocationRowV1.fieldChecks, List.forall_mem_cons] at hchecks ⊢
    obtain ⟨h1, h2, h3, -, -, h6, -⟩ := hchecks
    rw [hordinal, hattempt, hprogram, hpurpose, hversion, hcontract, hosh1, hpoh1, hhph1, hmch1,
      hfamily, hprovider, htransport, hin, hout]
    refine ⟨h1, h2, h3, hversion', hcontract', h6, osh1.shape, poh1.shape, hph1.shape, hprh1',
      mch1.shape, houtcome.1, houtcome.2, ?_, ?_, ?_, ?_, ?_, by simp⟩
    · simp [boundedText, family.length_text_le]
    · simp [boundedText, provider.length_text_le]
    · simp [boundedText, htransport']
    · simp [boundedText, hin']
    · simp [boundedText, hout']
  · unfold TurnLlmInvocationRowV1.validateStatusFields
    rw [hversion, hscene, hcontract, hhph1, hmch1, hfamily, hprovider, htransport, hin, hout]
    have hcontracts : program.sceneKey = .sceneNeutralV1 ∧ program.contractRef = none ∨
        program.sceneKey ≠ .sceneNeutralV1 ∧ ∃ contract, program.contractRef = some contract := by
      by_cases hn : program.sceneKey = .sceneNeutralV1
      · exact .inl ⟨hn, by simpa [hn] using hneutral⟩
      · exact .inr ⟨hn, Option.isSome_iff_exists.mp (by simpa [hn] using hneutral)⟩
    obtain ⟨hs, ⟨out1, hout1⟩, hbytes, herror⟩ | ⟨hs, hout1, hbytes, code, herror⟩ := h.outcome
    · obtain ⟨count, hcount⟩ := Option.isSome_iff_exists.mp hbytes
      rw [hs, hout1, herror, hcount]
      obtain ⟨hn, hc⟩ | ⟨hn, contract, hc⟩ := hcontracts <;> simp [hn, hc]
    · rw [hout1, hbytes, herror]
      obtain hs | hs := hs <;> obtain ⟨hn, hc⟩ | ⟨hn, contract, hc⟩ :=
        hcontracts <;> simp [hs, hn, hc]

theorem Closes.closedRow (h : Closes program reserved row)
    (hreg : program ∈ promptProgramRegistryV2)
    (hreserved : reserved.Valid) (hstage : reserved.stageKind = program.stage)
    (hprogram : reserved.programId = program.programId)
    (hslot : reserved.targetSlot = targetSlotForStage program.stage) : ClosedRow program row := by
  obtain ⟨-, -, hprogram', -, hstage', hslot'⟩ := h.kept
  obtain ⟨⟨osh1, hosh1⟩, ⟨poh1, hpoh1⟩, -⟩ := h.digests
  refine ⟨hreg, h.valid hreg hreserved, ?_, hstage'.trans hstage, hprogram'.trans hprogram,
    h.program.1, h.program.2.1, h.program.2.2, hslot'.trans hslot, ?_, ?_⟩
  · obtain ⟨hs, -⟩ | ⟨hs | hs, -⟩ := h.outcome <;> rw [hs] <;> simp
  · rw [hosh1, hpoh1]
    exact ⟨rfl, rfl⟩
  · intro hne
    obtain ⟨hs, -⟩ | ⟨-, -, -, code, hcode⟩ := h.outcome
    · exact absurd hs hne
    · exact ⟨code, hcode⟩

end Closed

/-! ## Closed rows of the two transports -/

theorem ProviderMessageEnvelopeV1.length_transportId_le (capture : ProviderMessageEnvelopeV1) :
    capture.transportId.length ≤ 80 := by
  unfold ProviderMessageEnvelopeV1.transportId
  cases capture.transportVariant <;> decide

theorem TransportVariantV1.length_text_le (variant : TransportVariantV1) :
    variant.text.length ≤ 80 := by
  cases variant <;> decide

theorem length_inputSchemaVersion_le (stage : StageKindV1) :
    (inputSchemaVersion stage).length ≤ 160 := by
  cases stage <;> decide

theorem length_directInputSchemaVersion_le (stage : StageKindV1) :
    (directInputSchemaVersion stage).length ≤ 160 := by
  cases stage <;> decide +kernel

theorem RejectedOutputStatusV1.isOutputFailure_code (status : RejectedOutputStatusV1) :
    status.code.isOutputFailure = true := by
  cases status <;> rfl

section Kickoff

variable (prompt : PromptProgram) (reserved : TurnLlmInvocationRowV1)
  (envelope : ProviderTransportEnvelopeV1) (mch1 : Digest "mch1") (latencyMs : ℕ)

theorem answeredKickoffRow_closes (capture : ProviderMessageEnvelopeV1)
    (output : ProviderOutputCaptureV1) : Closes prompt.program reserved
      (answeredKickoffRow prompt reserved envelope mch1 latencyMs capture output) := by
  cases output with
  | available text out1 byteCount =>
    exact ⟨⟨rfl, rfl, rfl, rfl, rfl, rfl⟩, ⟨rfl, rfl, rfl⟩,
      ⟨⟨_, rfl⟩, ⟨_, rfl⟩, ⟨_, rfl⟩, ⟨some capture.prh1, rfl⟩, ⟨_, rfl⟩⟩,
      ⟨⟨_, rfl⟩, ⟨_, rfl⟩, ⟨_, rfl, capture.length_transportId_le⟩,
        ⟨_, rfl, length_inputSchemaVersion_le _⟩, ⟨_, rfl, prompt.responseModel.bound⟩⟩,
      .inl ⟨rfl, ⟨_, rfl⟩, rfl, rfl⟩⟩
  | rejected status byteCount =>
    exact ⟨⟨rfl, rfl, rfl, rfl, rfl, rfl⟩, ⟨rfl, rfl, rfl⟩,
      ⟨⟨_, rfl⟩, ⟨_, rfl⟩, ⟨_, rfl⟩, ⟨some capture.prh1, rfl⟩, ⟨_, rfl⟩⟩,
      ⟨⟨_, rfl⟩, ⟨_, rfl⟩, ⟨_, rfl, capture.length_transportId_le⟩,
        ⟨_, rfl, length_inputSchemaVersion_le _⟩, ⟨_, rfl, prompt.responseModel.bound⟩⟩,
      .inr ⟨.inl rfl, rfl, rfl, _, rfl⟩⟩

theorem failedKickoffRow_closes (capture : Option ProviderMessageEnvelopeV1)
    (code : ProviderFailureCodeV1) : Closes prompt.program reserved
      (failedKickoffRow prompt reserved envelope mch1 latencyMs capture code) := by
  refine ⟨⟨rfl, rfl, rfl, rfl, rfl, rfl⟩, ⟨rfl, rfl, rfl⟩,
    ⟨⟨_, rfl⟩, ⟨_, rfl⟩, ⟨_, rfl⟩, ⟨capture.map (·.prh1), ?_⟩, ⟨_, rfl⟩⟩,
    ⟨⟨_, rfl⟩, ⟨_, rfl⟩, ⟨_, rfl, ?_⟩,
      ⟨_, rfl, length_inputSchemaVersion_le _⟩, ⟨_, rfl, prompt.responseModel.bound⟩⟩,
    .inr ⟨.inr rfl, rfl, rfl, code, rfl⟩⟩
  · simp [failedKickoffRow, kickoffRow, Option.map_map, Function.comp_def]
  · cases capture with
    | none => exact envelope.variant.length_text_le
    | some capture => exact capture.length_transportId_le

end Kickoff

section Direct

variable (call : DirectCall) (program : PromptProgramV2) (reserved : TurnLlmInvocationRowV1)
  (envelope : ProviderTransportEnvelopeV1)

theorem answeredDirectRow_closes (out1 : Digest "out1") (byteCount : ℕ) :
    Closes program reserved (answeredDirectRow call program reserved envelope out1 byteCount) :=
  ⟨⟨rfl, rfl, rfl, rfl, rfl, rfl⟩, ⟨rfl, rfl, rfl⟩,
    ⟨⟨_, rfl⟩, ⟨_, rfl⟩, ⟨_, rfl⟩, ⟨some envelope.prh1, rfl⟩, ⟨_, rfl⟩⟩,
    ⟨⟨_, rfl⟩, ⟨_, rfl⟩, ⟨_, rfl, envelope.variant.length_text_le⟩,
      ⟨_, rfl, length_directInputSchemaVersion_le _⟩, ⟨_, rfl, call.model.schemaVersion.bound⟩⟩,
    .inl ⟨rfl, ⟨_, rfl⟩, rfl, rfl⟩⟩

theorem failedDirectRow_closes (code : ProviderFailureCodeV1) :
    Closes program reserved (failedDirectRow call program reserved envelope code) := by
  refine ⟨⟨rfl, rfl, rfl, rfl, rfl, rfl⟩, ⟨rfl, rfl, rfl⟩,
    ⟨⟨_, rfl⟩, ⟨_, rfl⟩, ⟨_, rfl⟩, ⟨some envelope.prh1, rfl⟩, ⟨_, rfl⟩⟩,
    ⟨⟨_, rfl⟩, ⟨_, rfl⟩, ⟨_, rfl, envelope.variant.length_text_le⟩,
      ⟨_, rfl, length_directInputSchemaVersion_le _⟩, ⟨_, rfl, call.model.schemaVersion.bound⟩⟩,
    .inr ⟨?_, rfl, rfl, code, rfl⟩⟩
  dsimp only [failedDirectRow, closedDirectRow]
  split_ifs <;> simp

end Direct

/-! ## One call -/

/-- A call of a turn to a language model. -/
inductive LlmCall where
  | kickoff (call : KickoffCall)
  | direct (call : DirectCall)

namespace LlmCall

/-- The call with the journal of the turn. -/
def run (call : LlmCall) (journal : TurnLlmInvocationJournalV1) :
    Except CallException Unit × TurnLlmInvocationJournalV1 :=
  match call with
  | kickoff call =>
    ((call.run (some journal)).1.map fun _ => (), (call.run (some journal)).2.getD journal)
  | direct call =>
    ((call.run (some journal)).1.map fun _ => (), (call.run (some journal)).2.getD journal)

/-- A turn calls the programs of its scene: through CrewAI those of a group, and through the
direct client those of a direct turn and the neutral selectors. -/
def MadeIn (scene : Scene) : LlmCall → Prop
  | kickoff call => scene = .group ∧ call.prompt.program.sceneKey = .wecomGroupV1
  | direct call => call.sceneKey = auditSceneKey scene call.synthesis.stage

def programId : LlmCall → String
  | kickoff call => call.prompt.program.programId
  | direct call => call.synthesis.programId

/-- The call ends in a way that the audit of its turn accepts. -/
def auditable : LlmCall → Bool
  | kickoff call =>
    match call.ending.guarded with
    | .ok _ => true
    | .error fault => (fault.code?.any fun code => !code.isOutputFailure) &&
      (optionalRequestCapture call.ending.captures).isSome
  | direct call =>
    match call.guarded with
    | .ok _ => true
    | .error fault => fault.code?.isSome

end LlmCall

/-- A row that a call left, as the audit of the turn sees it. -/
structure RowOf (scene : Scene) (call : LlmCall) (row : TurnLlmInvocationRowV1) : Prop where
  stage : ∃ stage, row.stageKind.audit? = some stage
  programId : row.programId = call.programId
  closed : row.status ≠ .reserved →
    ∃ program, ClosedRow program row ∧ auditSceneKey scene program.stage = program.sceneKey
  auditable : call.auditable = true ↔
    row.status ≠ .reserved ∧ Coded row ∧ (scene = .group → row.prh1.isSome = true)

section Step

variable {journal journal' : TurnLlmInvocationJournalV1} {reserved row : TurnLlmInvocationRowV1}
  {stageKind : StageKindV1} {programId purpose : String} {scene : Scene}

/-- A valid row takes the place of the row that was just reserved. -/
theorem closeRow_reserved
    (hreserve : journal.reserve stageKind programId (targetSlotForStage stageKind) purpose none =
      .ok (reserved, journal'))
    (hvalid : row.Valid) (hordinal : row.invocationOrdinal = reserved.invocationOrdinal) :
    closeRow journal' reserved row = .ok { journal with rows := journal.rows ++ [row] } := by
  obtain ⟨-, hreserved, -, rfl⟩ := TurnLlmInvocationJournalV1.reserve_spec hreserve
  have hplace : reserved.invocationOrdinal = journal.rows.length + 1 := by rw [hreserved]; rfl
  have hopen : reserved.status = .reserved := by rw [hreserved]; rfl
  have hbound : ¬(journal.rows.length + 1 < 1 ∨
      journal.rows.length + 1 > (journal.rows ++ [reserved]).length) := by simp
  have hget : (journal.rows ++ [reserved])[journal.rows.length + 1 - 1]? = some reserved := by simp
  have hreplace : TurnLlmInvocationJournalV1.replaceReserved
      { journal with rows := journal.rows ++ [reserved] } reserved.invocationOrdinal row =
        .ok { journal with rows := journal.rows ++ [row] } := by
    unfold TurnLlmInvocationJournalV1.replaceReserved
    rw [hplace, if_neg hbound]
    simp only [hget, hopen, ne_eq, not_true_eq_false, if_false, hordinal, hplace]
    simp
  unfold closeRow
  rw [TurnLlmInvocationRowV1.construct_of_valid hvalid]
  exact congrArg (Except.mapError CallException.journal) hreplace

/-- What a reservation says of its row. -/
theorem reserved_fields
    (hreserve : journal.reserve stageKind programId (targetSlotForStage stageKind) purpose none =
      .ok (reserved, journal')) :
    journal.rows.length < journal.maxRows ∧ reserved.Valid ∧ reserved.stageKind = stageKind ∧
      reserved.programId = programId ∧
      reserved.targetSlot = targetSlotForStage stageKind ∧ reserved.status = .reserved ∧
      reserved.invocationOrdinal = journal.rows.length + 1 ∧
      journal' = { journal with rows := journal.rows ++ [reserved] } := by
  obtain ⟨hroom, hreserved, hvalid, hjournal⟩ := TurnLlmInvocationJournalV1.reserve_spec hreserve
  refine ⟨hroom, hvalid, ?_, ?_, ?_, ?_, ?_, hjournal⟩ <;> rw [hreserved] <;> rfl

/-- The row that a recorded call leaves at the end of the journal. -/
structure Leaves (scene : Scene) (call : LlmCall) (journal after : TurnLlmInvocationJournalV1)
    (row : TurnLlmInvocationRowV1) : Prop where
  rowOf : RowOf scene call row
  room : journal.rows.length < journal.maxRows
  valid : row.Valid
  ordinal : row.invocationOrdinal = journal.rows.length + 1
  after : after = { journal with rows := journal.rows ++ [row] }

theorem KickoffCall.finish_leaves {call : KickoffCall} (envelope : ProviderTransportEnvelopeV1)
    (hscene : call.prompt.program.sceneKey = .wecomGroupV1)
    (hreserve : journal.reserve call.prompt.program.stage call.prompt.program.programId
      (targetSlotForStage call.prompt.program.stage) "crewai_kickoff" none = .ok
        (reserved, journal')) :
    ∃ row, Leaves .group (.kickoff call) journal
      (call.finish envelope reserved journal').2 row := by
  obtain ⟨hroom, hvalid, hstage, hprogram, hslot, hopen, hordinal, hjournal⟩ :=
    reserved_fields hreserve
  have hreg := call.prompt.registered
  obtain ⟨mch1, hmch1⟩ := Option.isSome_iff_exists.mp
    (call.prompt.mch1_isSome (by rw [hscene]; decide))
  have hrequired : requiredMch1 call.prompt = .ok mch1 := by rw [requiredMch1, hmch1]
  obtain ⟨stage, haudit, hkey⟩ : ∃ stage, call.prompt.program.stage.audit? = some stage ∧
      auditSceneKey .group call.prompt.program.stage = call.prompt.program.sceneKey := by
    obtain ⟨haudit, hkey⟩ := registered_group _ hreg hscene
    obtain ⟨stage, hstage⟩ := Option.isSome_iff_exists.mp haudit
    exact ⟨stage, hstage, hkey⟩
  -- a closed row is one of the program of the prompt
  have hclose : ∀ row, Closes call.prompt.program reserved row →
      closeRow journal' reserved row = .ok { journal with rows := journal.rows ++ [row] } ∧
      (((LlmCall.kickoff call).auditable = true ↔ Coded row ∧ row.prh1.isSome = true) →
        Leaves .group (.kickoff call) journal
          { journal with rows := journal.rows ++ [row] } row) := by
    intro row hrow
    have hrowValid := hrow.valid hreg hvalid
    have hclosed := hrow.closedRow hreg hvalid hstage hprogram hslot
    refine ⟨closeRow_reserved hreserve hrowValid hrow.kept.1, fun hiff => ?_⟩
    refine ⟨⟨⟨stage, by rw [hclosed.stage, haudit]⟩, hclosed.programId, fun _ =>
      ⟨_, hclosed, hkey⟩, ?_⟩,
      hroom, hrowValid, hrow.kept.1.trans hordinal, rfl⟩
    rw [hiff]
    constructor
    · intro ⟨hcoded, hprh1⟩
      exact ⟨hclosed.closed, hcoded, fun _ => hprh1⟩
    · intro ⟨_, hcoded, hprh1⟩
      exact ⟨hcoded, hprh1 rfl⟩
  unfold KickoffCall.finish
  cases hguarded : call.ending.guarded with
  | ok answer =>
    obtain ⟨raw, capture⟩ := answer
    obtain ⟨hrow, hleaves⟩ := hclose _ (answeredKickoffRow_closes call.prompt reserved envelope mch1
      call.latencyMs capture (captureProviderTextOutput call.out1 call.model raw))
    simp only [hrequired, Except.bind, hrow]
    refine ⟨_, hleaves ?_⟩
    refine iff_of_true (by simp [LlmCall.auditable, hguarded]) ?_
    cases houtput : captureProviderTextOutput call.out1 call.model raw with
    | available text out1 byteCount =>
      refine ⟨fun code hcode => ?_, rfl⟩
      cases hcode
    | rejected status byteCount =>
      refine ⟨(coded_of_text status.code rfl).mpr ?_, rfl⟩
      exact iff_of_true rfl status.isOutputFailure_code
  | error fault =>
    cases hcode : fault.code? with
    | none =>
      simp only [hcode]
      refine ⟨reserved, ⟨⟨stage, by rw [hstage, haudit]⟩, hprogram, fun hne =>
        absurd hopen hne, ?_⟩,
        hroom, hvalid, hordinal, hjournal⟩
      refine iff_of_false ?_ (fun hclosed => hclosed.1 hopen)
      simp [LlmCall.auditable, hguarded, hcode]
    | some code =>
      obtain ⟨hrow, hleaves⟩ := hclose _ (failedKickoffRow_closes call.prompt reserved envelope mch1
        call.latencyMs (optionalRequestCapture call.ending.captures) code)
      simp only [hcode, hrequired, Except.bind, hrow]
      refine ⟨_, hleaves ?_⟩
      have hauditable : (LlmCall.kickoff call).auditable = (!code.isOutputFailure &&
          (optionalRequestCapture call.ending.captures).isSome) := by
        simp [LlmCall.auditable, hguarded, hcode]
      rw [hauditable, coded_of_text code rfl]
      cases optionalRequestCapture call.ending.captures <;>
        simp [failedKickoffRow, kickoffRow]

theorem DirectCall.finish_leaves {call : DirectCall} {program : PromptProgramV2}
    (envelope : ProviderTransportEnvelopeV1) (hmade : (LlmCall.direct call).MadeIn scene)
    (hresolve : resolveActivePromptProgramV2 call.synthesis.stage call.sceneKey = some program)
    (hprogramId : program.programId = call.synthesis.programId)
    (hreserve : journal.reserve call.synthesis.stage call.synthesis.programId
      (targetSlotForStage call.synthesis.stage) call.purpose none = .ok (reserved, journal')) :
    ∃ row, Leaves scene (.direct call) journal (call.finish program envelope reserved journal').2
      row := by
  obtain ⟨hroom, hvalid, hstage, hprogram, hslot, hopen, hordinal, hjournal⟩ :=
    reserved_fields hreserve
  obtain ⟨hreg, hstage', hkey'⟩ := registered_of_resolve hresolve
  have hkey : auditSceneKey scene program.stage = program.sceneKey := by
    rw [hstage', hkey']
    exact hmade.symm
  obtain ⟨stage, haudit⟩ := Option.isSome_iff_exists.mp
    (registered_active program hreg scene (by cases scene <;> simp) hkey)
  have hrowStage : reserved.stageKind = program.stage := hstage.trans hstage'.symm
  have hclose : ∀ row, Closes program reserved row →
      closeRow journal' reserved row = .ok { journal with rows := journal.rows ++ [row] } ∧
      (Coded row ∧ row.prh1.isSome = true → (LlmCall.direct call).auditable = true →
        Leaves scene (.direct call) journal
          { journal with rows := journal.rows ++ [row] } row) := by
    intro row hrow
    have hrowValid := hrow.valid hreg hvalid
    have hclosed := hrow.closedRow hreg hvalid hrowStage (hprogram.trans hprogramId.symm)
      (by rw [hslot, hstage'])
    refine ⟨closeRow_reserved hreserve hrowValid hrow.kept.1, fun ⟨hcoded, hprh1⟩ hauditable => ?_⟩
    exact ⟨⟨⟨stage, by rw [hclosed.stage, haudit]⟩, hclosed.programId.trans hprogramId,
      fun _ => ⟨_, hclosed, hkey⟩, iff_of_true hauditable ⟨hclosed.closed, hcoded, fun _ => hprh1⟩⟩,
      hroom, hrowValid, hrow.kept.1.trans hordinal, rfl⟩
  unfold DirectCall.finish
  cases hguarded : call.guarded with
  | ok answer =>
    obtain ⟨text, out1, byteCount⟩ := answer
    obtain ⟨hrow, hleaves⟩ :=
      hclose _ (answeredDirectRow_closes call program reserved envelope out1 byteCount)
    simp only [hrow]
    refine ⟨_, hleaves ⟨fun code hcode => ?_, rfl⟩ (by simp [LlmCall.auditable, hguarded])⟩
    cases hcode
  | error fault =>
    cases hcode : fault.code? with
    | none =>
      simp only [hcode]
      refine ⟨reserved, ⟨⟨stage, by rw [hrowStage, haudit]⟩, hprogram, fun hne =>
        absurd hopen hne, ?_⟩,
        hroom, hvalid, hordinal, hjournal⟩
      refine iff_of_false ?_ (fun hclosed => hclosed.1 hopen)
      simp [LlmCall.auditable, hguarded, hcode]
    | some code =>
      obtain ⟨hrow, hleaves⟩ :=
        hclose _ (failedDirectRow_closes call program reserved envelope code)
      simp only [hcode, hrow]
      refine ⟨_, hleaves ⟨(coded_of_text code rfl).mpr ?_, rfl⟩
        (by simp [LlmCall.auditable, hguarded, hcode])⟩
      by_cases houtput : code.isOutputFailure = true <;> simp
        [failedDirectRow, closedDirectRow, houtput]

/-- A call leaves the journal as it is, or one row at its end. -/
theorem LlmCall.run_leaves (call : LlmCall) (journal : TurnLlmInvocationJournalV1)
    (hmade : call.MadeIn scene) :
    (call.run journal).2 = journal ∨ ∃ row, Leaves scene call journal (call.run journal).2 row := by
  cases call with
  | kickoff call =>
    obtain ⟨rfl, hscene⟩ := hmade
    dsimp only [LlmCall.run]
    unfold KickoffCall.run
    cases rejectInvalidDispatch call.prompt call.healthLogContext with
    | error code => exact .inl rfl
    | ok _ =>
      cases call.envelope with
      | error e => exact .inl rfl
      | ok envelope =>
        cases hreserve : journal.reserve call.prompt.program.stage call.prompt.program.programId
            (targetSlotForStage call.prompt.program.stage) "crewai_kickoff" none with
        | error e =>
          simp only [hreserve]
          exact .inl rfl
        | ok reservation =>
          obtain ⟨reserved, journal'⟩ := reservation
          simp only [hreserve]
          exact .inr (call.finish_leaves envelope hscene hreserve)
  | direct call =>
    dsimp only [LlmCall.run]
    unfold DirectCall.run
    by_cases hinternal : call.internalEndpoint = true
    · rw [if_pos hinternal]
      exact .inl rfl
    rw [if_neg hinternal]
    cases hresolve : resolveActivePromptProgramV2 call.synthesis.stage call.sceneKey with
    | none => exact .inl rfl
    | some program =>
      by_cases hprogram : program.programId = call.synthesis.programId
      · simp only [hprogram, ne_eq, not_true_eq_false, if_false]
        cases call.envelope with
        | error e => exact .inl rfl
        | ok envelope =>
          by_cases hhealth : call.synthesis.stage = .llmHealthProbe
          · simp only [hhealth, if_true]
            exact .inl rfl
          simp only [hhealth, if_false]
          cases hreserve : journal.reserve call.synthesis.stage call.synthesis.programId
              (targetSlotForStage call.synthesis.stage) call.purpose none with
          | error e =>
            exact .inl rfl
          | ok reservation =>
            obtain ⟨reserved, journal'⟩ := reservation
            exact .inr (call.finish_leaves envelope hmade hresolve hprogram hreserve)
      · simp only [ne_eq, hprogram, not_false_eq_true, if_true]
        exact .inl rfl

theorem Leaves.wellFormed {call : LlmCall} (h : Leaves scene call journal journal' row)
    (wf : journal.WellFormed) : journal'.WellFormed := by
  rw [h.after]
  have hroom := h.room
  refine ⟨wf.limit, by simp; omega, fun i r hr => ?_, fun r hr => ?_⟩
  · obtain hlt | rfl := (show i < journal.rows.length ∨ i = journal.rows.length by grind)
    · exact wf.ordinal i r (by grind)
    · obtain rfl : row = r := by simpa using hr
      exact h.ordinal
  · obtain hr | hr := List.mem_append.mp hr
    · exact wf.valid r hr
    · rw [List.mem_singleton.mp hr]
      exact h.valid

end Step

end MarketSupport
