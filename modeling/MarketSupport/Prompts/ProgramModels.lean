import MarketSupport.State.AuditRecords

/-!
# Prompt programs

The registered prompt programs, one for each stage and scene, and what a language model call
reads of its program, its transport envelope and the request that was captured.
-/

namespace MarketSupport

/-! ## Stages and targets -/

inductive StageKindV1 where
  | plannerIntent | knowledgeComposer | smalltalkComposer | alignmentVerifier
  | approvedKnowledgeSelector | documentProductSelector | llmHealthProbe
  deriving DecidableEq, Repr

inductive TargetSlotV1 where
  | planner | composer | selector | health
  deriving DecidableEq, Repr

/-- The literal of a stage. -/
def StageKindV1.text : StageKindV1 → String
  | .plannerIntent => "planner_intent"
  | .knowledgeComposer => "knowledge_composer"
  | .smalltalkComposer => "smalltalk_composer"
  | .alignmentVerifier => "alignment_verifier"
  | .approvedKnowledgeSelector => "approved_knowledge_selector"
  | .documentProductSelector => "document_product_selector"
  | .llmHealthProbe => "llm_health_probe"

/-- The audit has no stage for the health probe. -/
def StageKindV1.audit? : StageKindV1 → Option AuditStageV1
  | .plannerIntent => some .plannerIntent
  | .knowledgeComposer => some .knowledgeComposer
  | .smalltalkComposer => some .smalltalkComposer
  | .alignmentVerifier => some .alignmentVerifier
  | .approvedKnowledgeSelector => some .approvedKnowledgeSelector
  | .documentProductSelector => some .documentProductSelector
  | .llmHealthProbe => none

/-- `target_slot_for_stage`. -/
def targetSlotForStage : StageKindV1 → TargetSlotV1
  | .plannerIntent => .planner
  | .approvedKnowledgeSelector | .documentProductSelector => .selector
  | .llmHealthProbe => .health
  | .knowledgeComposer | .smalltalkComposer | .alignmentVerifier => .composer

/-- `input_schema_version` of the CrewAI transport. -/
def inputSchemaVersion : StageKindV1 → String
  | .plannerIntent => "planner-prompt-input.v1"
  | .knowledgeComposer => "knowledge-composer-input.v1"
  | .smalltalkComposer => "smalltalk-composer-input.v1"
  | .alignmentVerifier => "alignment-verifier-input.v1"
  | .approvedKnowledgeSelector => "approved-knowledge-selector-input.v1"
  | .documentProductSelector => "document-product-selector-input.v1"
  | .llmHealthProbe => "llm-health-probe-input.v1"

/-- The direct transport derives its version from the stage: the hyphenated literal. -/
def directInputSchemaVersion (stage : StageKindV1) : String :=
  String.ofList (stage.text.toList.map fun c => if c = '_' then '-' else c) ++ "-input.v1"

/-! ## Registered programs -/

/-- What a call and its audit read of a `PromptProgramV2`. -/
structure PromptProgramV2 where
  programId : String
  programVersion : String
  stage : StageKindV1
  sceneKey : AuditSceneKey
  sceneContractId : Option String
  sceneContractVersion : Option String
  deriving DecidableEq, Repr

/-- A program of a user-facing stage. -/
def userFacingProgram (programId : String) (stage : StageKindV1) (sceneKey : AuditSceneKey)
    (sceneContractId : String) : PromptProgramV2 :=
  ⟨programId, "1", stage, sceneKey, some sceneContractId, some "2026-07-15.1"⟩

/-- A program without a scene contract. -/
def neutralProgram (programId : String) (stage : StageKindV1) : PromptProgramV2 :=
  ⟨programId, "1", stage, .sceneNeutralV1, none, none⟩

/-- `load_prompt_program_registry_v2`: the rows of the packaged resource. -/
def promptProgramRegistryV2 : List PromptProgramV2 :=
  [userFacingProgram "planner_intent.wecom_group.v1@1" .plannerIntent .wecomGroupV1
      "scene.wecom_group.planner_intent.v1",
   userFacingProgram "knowledge_composer.wecom_group.v1@1" .knowledgeComposer .wecomGroupV1
      "scene.wecom_group.knowledge_composer.v1",
   userFacingProgram "smalltalk_composer.wecom_group.v1@1" .smalltalkComposer .wecomGroupV1
      "scene.wecom_group.smalltalk_composer.v1",
   userFacingProgram "alignment_verifier.wecom_group.v1@1" .alignmentVerifier .wecomGroupV1
      "scene.wecom_group.alignment_verifier.v1",
   userFacingProgram "planner_intent.wecom_direct.v1@1" .plannerIntent .wecomDirectV1
      "scene.wecom_direct.planner_intent.v1",
   userFacingProgram "knowledge_composer.wecom_direct.v1@1" .knowledgeComposer .wecomDirectV1
      "scene.wecom_direct.knowledge_composer.v1",
   userFacingProgram "smalltalk_composer.wecom_direct.v1@1" .smalltalkComposer .wecomDirectV1
      "scene.wecom_direct.smalltalk_composer.v1",
   userFacingProgram "alignment_verifier.wecom_direct.v1@1" .alignmentVerifier .wecomDirectV1
      "scene.wecom_direct.alignment_verifier.v1",
   neutralProgram "approved_knowledge_selector.scene_neutral.v1@1" .approvedKnowledgeSelector,
   neutralProgram "document_product_selector.scene_neutral.v1@1" .documentProductSelector,
   neutralProgram "llm_health_probe.scene_neutral.v1@1" .llmHealthProbe]

/-- `resolve_active_prompt_program_v2`: the only program of a stage and a scene. Every program
has one execution spec, so that the lookup of the spec does not fail. -/
def resolveActivePromptProgramV2 (stage : StageKindV1) (sceneKey : AuditSceneKey) :
    Option PromptProgramV2 :=
  match promptProgramRegistryV2.filter fun p => p.stage = stage ∧ p.sceneKey = sceneKey with
  | [program] => some program
  | _ => none

/-- `scene_contract_ref`. -/
def sceneContractRef (contractId contractVersion : Option String) : Option String :=
  match contractId, contractVersion with
  | some id, some version => some (id ++ "@" ++ version)
  | _, _ => none

def PromptProgramV2.contractRef (program : PromptProgramV2) : Option String :=
  sceneContractRef program.sceneContractId program.sceneContractVersion

/-! ## Digests -/

/-- The pattern of a digest with a tag. -/
def isDigest (tag value : String) : Bool :=
  hasDigestShape tag value && hasDigestEncoding tag value

/-- What a hash function with a tag returns. -/
structure Digest (tag : String) where
  text : String
  shape : isDigest tag text = true
  deriving DecidableEq

/-- The digest of nothing but zeros. -/
theorem isDigest_zeros (tag : String) :
    isDigest tag (tag ++ ":" ++ String.ofList (List.replicate 64 '0')) = true := by
  have hlist : (tag ++ ":" ++ String.ofList (List.replicate 64 '0')).toList =
      (tag.toList ++ [':']) ++ List.replicate 64 '0' := by
    simp
  unfold isDigest hasDigestShape hasDigestEncoding
  rw [hlist]
  simp only [Bool.and_eq_true, beq_iff_eq]
  refine ⟨⟨?_, by simp⟩, ?_⟩
  · exact List.isPrefixOf_iff_prefix.mpr (List.prefix_append _ _)
  · have hdrop : ((tag.toList ++ [':']) ++ List.replicate 64 '0').drop (tag.toList.length + 1) =
        List.replicate 64 '0' := List.drop_left' (by simp)
    rw [hdrop]
    decide

instance (tag : String) : Inhabited (Digest tag) := ⟨⟨_, isDigest_zeros tag⟩⟩

/-! ## Transport -/

inductive ProviderIdV1 where
  | openaiCompatible | gemini
  deriving DecidableEq, Repr

def ProviderIdV1.text : ProviderIdV1 → String
  | .openaiCompatible => "openai_compatible"
  | .gemini => "gemini"

inductive TransportVariantV1 where
  | openaiChatCompletions | geminiGenerateContent
  deriving DecidableEq, Repr

def TransportVariantV1.text : TransportVariantV1 → String
  | .openaiChatCompletions => "openai_chat_completions"
  | .geminiGenerateContent => "gemini_generate_content"

inductive ModelFamily where
  | dsV4pro | deepseek | gpt | claude | generic
  deriving DecidableEq, Repr

def ModelFamily.text : ModelFamily → String
  | .dsV4pro => "ds_v4pro"
  | .deepseek => "deepseek"
  | .gpt => "gpt"
  | .claude => "claude"
  | .generic => "generic"

/-- What the journal reads of a `ProviderTransportEnvelopeV1`. -/
structure ProviderTransportEnvelopeV1 where
  variant : TransportVariantV1
  providerId : ProviderIdV1
  osh1 : Digest "osh1"
  poh1 : Digest "poh1"
  prh1 : Digest "prh1"
  /-- The length of the serialised envelope. -/
  byteCount : ℕ

/-- What the journal reads of a captured request, a `ProviderMessageEnvelopeV1`. -/
structure ProviderMessageEnvelopeV1 where
  transportVariant : TransportVariantV1
  prh1 : Digest "prh1"
  byteCount : ℕ

/-- `transport_variant` of the CrewAI and of the Gemini message envelope. -/
def ProviderMessageEnvelopeV1.transportId (capture : ProviderMessageEnvelopeV1) : String :=
  match capture.transportVariant with
  | .openaiChatCompletions => "crewai_openai_compatible.v1"
  | .geminiGenerateContent => "gemini_generate_content.v1"

/-- The name of a response model, which stands for its schema version. -/
structure ResponseModelName where
  text : String
  bound : text.length ≤ 160

/-- What a call reads of its assembled prompt. The assembler copies the identity of a registered
program, and hashes the input of a stage that has a scene. -/
structure PromptProgram where
  program : PromptProgramV2
  registered : program ∈ promptProgramRegistryV2
  modelFamily : ModelFamily
  responseModel : ResponseModelName
  hph1 : Digest "hph1"
  mch1 : Option (Digest "mch1")
  mch1_isSome : program.sceneKey ≠ .sceneNeutralV1 → mch1.isSome = true
  /-- The length of the prompt in UTF-8. -/
  promptBytes : ℕ

end MarketSupport
