import MarketSupport.Evidence.KnowledgeGateway
import MarketSupport.Identity.Request
import MarketSupport.Validation.ImageMarkers

/-!
# The composer

The composer writes the reply to a knowledge question or to smalltalk. Its output is checked
against the groundings of the plan before it is used.
-/

namespace MarketSupport

open Library

/-! ## Inputs and outputs -/

/-- The fields of `ComposerReplyOutput` that are checked or used. -/
structure ComposerReplyOutput where
  responseId : String
  evidenceIds : List String
  reply : PrimaryReply
  actions : List OutboundAction
  deriving DecidableEq, Repr

/-- `to_reply_response`. -/
def ComposerReplyOutput.toReplyResponse (output : ComposerReplyOutput) : ReplyResponse :=
  ⟨output.responseId, output.reply, []⟩

/-- `ComposerInvocationV1`, without the fields that only its views read. -/
structure ComposerInvocationV1 where
  request : KernelReplyRequestV1
  policy : PolicyManifestV2
  scopeAuthority : BusinessScopeAuthorityV1
  plan : ExecutionPlanV2
  groundings : List ExecutionUnitGroundingV1
  mediaBindings : List RegisteredMediaBindingV1

structure EffectiveOutputCeilingsViewV1 where
  allowedReplyKinds : List ReplyKind
  maxReplyChars : ℕ
  deriving DecidableEq, Repr

structure UnitGroundingViewV1 where
  unitId : String
  manifestRef : ManifestRefV1
  allowedEvidenceIds : List String
  deriving DecidableEq, Repr

/-- `ComposerPromptInputV1`; `manifestRefs` are those of the selected capabilities. -/
inductive ComposerPromptInputV1 where
  | knowledge (outputCeilings : EffectiveOutputCeilingsViewV1) (manifestRefs : List ManifestRefV1)
      (unitGroundings : List UnitGroundingViewV1)
  | smalltalk (outputCeilings : EffectiveOutputCeilingsViewV1) (manifestRefs : List ManifestRefV1)
  deriving DecidableEq, Repr

def ComposerPromptInputV1.outputCeilings : ComposerPromptInputV1 → EffectiveOutputCeilingsViewV1
  | knowledge outputCeilings .. | smalltalk outputCeilings _ => outputCeilings

inductive ComposerException where
  | v2ComposerUnavailable
  | v2ComposerOutputRejected (code : String)
  | contextViewInvariantError (code : String)
  | capabilityViewProjectionError (code : String)
  | otherError (name : String)
  deriving DecidableEq, Repr

/-! ## The input of the composer -/

/-- The parts of the source that are not embedded: the characters that `\w` matches outside
ASCII, the approved images, and the views without authority, whose models may reject the values
that they are made of. -/
structure ComposerEnvironment where
  word : Char → Bool
  catalog : ApprovedCatalog
  views : ComposerInvocationV1 → Except ComposerException Unit

variable (env : ComposerEnvironment)

/-- The error of the first check that fails. -/
def firstFailure (error : String → ComposerException) (checks : List (Bool × String)) :
    Except ComposerException Unit :=
  match checks.find? (!·.1) with
  | some (_, code) => .error (error code)
  | none => .ok ()

/-- `_validate_invocation_authority`. -/
def validateInvocationAuthority (source : ComposerInvocationV1) : Except ComposerException Unit :=
  firstFailure .contextViewInvariantError [
    (source.request.scene = source.policy.scene, "composer_request_policy_scene_mismatch"),
    (source.request.businessScope = source.scopeAuthority.scope,
      "composer_business_scope_authority_mismatch"),
    (source.policy.businessScopeHash = source.scopeAuthority.businessScopeHash,
      "composer_policy_scope_hash_mismatch")]

/-- The checks of `_resolve_refs` for one reference; `seen` are the ids of those before it. -/
def resolveRef (seen : List CapabilityManifestIdV2) (ref : ManifestRefV1) :
    Except ComposerException Unit :=
  if ref.manifestId ∈ seen then .error (.capabilityViewProjectionError "duplicate_manifest_ref")
  else match findManifest ref.manifestId with
    | none => .error (.capabilityViewProjectionError "manifest_ref_unknown")
    | some manifest =>
      if manifest.manifestVersion ≠ ref.manifestVersion then
        .error (.capabilityViewProjectionError "manifest_ref_version_mismatch")
      else .ok ()

/-- `_resolve_refs`. -/
def resolveRefs : List CapabilityManifestIdV2 → List ManifestRefV1 → Except ComposerException Unit
  | _, [] => .ok ()
  | seen, ref :: refs => do
    resolveRef seen ref
    resolveRefs (ref.manifestId :: seen) refs

/-- `_selected_capability_views`: the references of the view. -/
def selectedCapabilityViews (source : ComposerInvocationV1) :
    Except ComposerException (List ManifestRefV1) :=
  let eligible := source.policy.eligibleCapabilities
  let selected := source.plan.selectedManifestRefs
  if 32 < eligible.length ∨ 4 < selected.length then .error (.otherError "ValidationError")
  else do
    resolveRefs [] eligible
    resolveRefs [] selected
    if selected = [] then .error (.capabilityViewProjectionError "selected_manifest_refs_required")
    else if ∃ ref ∈ selected, ref ∉ eligible then
      .error (.capabilityViewProjectionError "selected_manifest_ref_not_eligible")
    else .ok selected

/-- `_project_grounding`. -/
def projectGrounding (unit : ExecutionPlanUnitV2) (grounding : ExecutionUnitGroundingV1) :
    Except ComposerException UnitGroundingViewV1 := do
  let evidenceIds := grounding.allowedEvidence.map (·.evidenceId)
  firstFailure .contextViewInvariantError [
    (grounding.unitId = unit.unitId, "unit_grounding_unit_mismatch"),
    (grounding.manifestRef = unit.manifestRef, "unit_grounding_manifest_ref_mismatch"),
    (grounding.scope = unit.scope, "unit_grounding_scope_mismatch"),
    (grounding.evidenceQuery = unit.evidenceQuery, "unit_grounding_query_mismatch"),
    (grounding.actionIntents = unit.actionIntents, "unit_grounding_action_intents_mismatch"),
    (grounding.answerability = unit.answerabilityPolicy, "unit_grounding_answerability_mismatch"),
    (grounding.allowedEvidenceIds = evidenceIds, "unit_grounding_evidence_binding_mismatch"),
    (evidenceIds.Nodup, "unit_grounding_duplicate_evidence_id")]
  return ⟨grounding.unitId, grounding.manifestRef, grounding.allowedEvidenceIds⟩

/-- `project_unit_grounding_views_v1`. -/
def projectUnitGroundingViewsV1 (plan : ExecutionPlanV2)
    (groundings : List ExecutionUnitGroundingV1) :
    Except ComposerException (List UnitGroundingViewV1) :=
  if plan.units.length ≠ groundings.length then
    .error (.contextViewInvariantError "unit_grounding_count_mismatch")
  else (plan.units.zip groundings).mapM fun (unit, grounding) => projectGrounding unit grounding

/-- `_output_ceilings`. -/
def outputCeilings : EffectiveOutputCeilingsViewV1 :=
  ⟨[.answer, .clarification, .unableToAnswer], 4000⟩

/-- `_knowledge_input`; the view models are last. -/
def knowledgeInput (source : ComposerInvocationV1) :
    Except ComposerException ComposerPromptInputV1 := do
  let selected ← selectedCapabilityViews source
  let groundings ← projectUnitGroundingViewsV1 source.plan source.groundings
  if groundings = [] ∨ 4 < groundings.length then .error (.otherError "ValidationError")
  else do
    env.views source
    return .knowledge outputCeilings selected groundings

/-- `_smalltalk_input`. -/
def smalltalkInput (source : ComposerInvocationV1) :
    Except ComposerException ComposerPromptInputV1 := do
  let selected ← selectedCapabilityViews source
  env.views source
  return .smalltalk outputCeilings selected

/-- `build_composer_prompt_input_v1`. -/
def buildComposerPromptInputV1 (source : ComposerInvocationV1) :
    Except ComposerException ComposerPromptInputV1 := do
  validateInvocationAuthority source
  match source.plan.responseMode with
  | .knowledgeAnswer => knowledgeInput env source
  | .smalltalk => smalltalkInput env source
  | _ => .error (.contextViewInvariantError
      "composer_requires_knowledge_or_smalltalk_response_mode")

/-! ## The check of the output -/

/-- `_grounding_evidence_sets`. -/
def groundingEvidenceSets : ComposerPromptInputV1 → List (List String)
  | .knowledge _ _ unitGroundings => unitGroundings.map (·.allowedEvidenceIds)
  | .smalltalk .. => [[]]

/-- `marker.removeprefix("%%").removesuffix("%%")`. -/
def markerFilenameOf (marker : String) : String :=
  let chars := marker.toList
  let chars := if ['%', '%'] <+: chars then chars.drop 2 else chars
  String.ofList (if ['%', '%'] <:+ chars then chars.take (chars.length - 2) else chars)

/-- `approved_image_asset_by_marker`; of two assets with a filename the map keeps the last. -/
def ApprovedCatalog.assetByMarker? (catalog : ApprovedCatalog) (filename : String) :
    Option ApprovedImageAsset :=
  catalog.assets.reverse.find? (·.markerFilename = filename)

/-- The image of a binding is the approved image of its marker. -/
def bindsApprovedImage (binding : RegisteredMediaBindingV1) : Bool :=
  match env.catalog.assetByMarker? (markerFilenameOf binding.marker) with
  | none => false
  | some asset => asset.assetId = binding.assetId

def selectsCompanyKnowledge : ComposerPromptInputV1 → Bool
  | .knowledge _ manifestRefs _ => .answerInternalCompanyKnowledge ∈ manifestRefs.map (·.manifestId)
  | .smalltalk .. => false

/-- The input may use the media bindings of its source. -/
def mediaAllowed (input : ComposerPromptInputV1) (source : ComposerInvocationV1) : Bool :=
  source.request.scene ≠ .direct ∧ source.policy.internalCompanyKnowledgeEnabled ∧
    selectsCompanyKnowledge input

/-- `_media_binding_evidence_ids`: the pairs of a filename and of an evidence id behind it. -/
def mediaBindingEvidenceIds (input : ComposerPromptInputV1) (source : ComposerInvocationV1) :
    List (String × String) :=
  if mediaAllowed input source then
    (source.mediaBindings.filter fun binding =>
      (binding.evidenceId ∈ (groundingEvidenceSets input).flatten : Bool) &&
        bindsApprovedImage env binding).map fun binding =>
      (markerFilenameOf binding.marker, binding.evidenceId)
  else []

/-- The evidence ids that the output cites, directly or behind a marker of its text. -/
def referencedIds (output : ComposerReplyOutput) (input : ComposerPromptInputV1)
    (source : ComposerInvocationV1) : List String :=
  output.evidenceIds ++ ((mediaBindingEvidenceIds env input source).filter
    (·.1 ∈ imageMarkerFilenames env.word output.reply.text)).map (·.2)

/-- `_validate_v2_composer_output`. -/
def validateV2ComposerOutput (output : ComposerReplyOutput) (input : ComposerPromptInputV1)
    (source : ComposerInvocationV1) : Except ComposerException Unit :=
  let groundingEvidence := groundingEvidenceSets input
  let markers := imageMarkerFilenames env.word output.reply.text
  let referenced := referencedIds env output input source
  firstFailure .v2ComposerOutputRejected [
    (output.responseId = "", "v2_composer_response_id_forbidden"),
    (output.actions = [], "v2_composer_actions_forbidden"),
    (output.reply.mentions = [], "v2_composer_mentions_forbidden"),
    (output.reply.kind ∈ input.outputCeilings.allowedReplyKinds,
      "v2_composer_reply_kind_forbidden"),
    (output.reply.text.length ≤ input.outputCeilings.maxReplyChars,
      "v2_composer_reply_text_too_long"),
    (∀ evidenceId ∈ output.evidenceIds, evidenceId ∈ groundingEvidence.flatten,
      "v2_composer_unselected_evidence"),
    (∀ marker ∈ markers, marker ∈ (mediaBindingEvidenceIds env input source).map (·.1),
      "v2_composer_media_forbidden"),
    (referenced = [] ∨ ∃ allowed ∈ groundingEvidence, ∀ evidenceId ∈ referenced,
      evidenceId ∈ allowed, "v2_composer_cross_unit_authority_forbidden")]

/-- `compose_v2_reply`; the composer answers for an input, or fails. -/
def composeV2Reply
    (composer : Option (ComposerPromptInputV1 → Except ComposerException ComposerReplyOutput))
    (source : ComposerInvocationV1) : Except ComposerException ComposerReplyOutput :=
  match composer with
  | none => .error .v2ComposerUnavailable
  | some compose => do
    let input ← buildComposerPromptInputV1 env source
    let output ← compose input
    validateV2ComposerOutput env output input source
    return output

/-! ## What the checks accept -/

theorem firstFailure_eq_ok_iff {error : String → ComposerException}
    {checks : List (Bool × String)} :
    firstFailure error checks = .ok () ↔ ∀ check ∈ checks, check.1 = true := by
  unfold firstFailure
  cases hfind : checks.find? (!·.1) with
  | none => simpa using hfind
  | some check =>
    have hfailed := List.find?_some hfind
    have hmem := List.mem_of_find?_eq_some hfind
    refine ⟨nofun, fun h => ?_⟩
    simp [h check hmem] at hfailed

/-- A check that fails is an error of its kind. -/
theorem firstFailure_eq_ok_or {error : String → ComposerException}
    {checks : List (Bool × String)} :
    firstFailure error checks = .ok () ∨ ∃ code, firstFailure error checks =
      .error (error code) := by
  unfold firstFailure
  cases checks.find? (!·.1) with
  | none => exact .inl rfl
  | some check => exact .inr ⟨check.2, rfl⟩

end MarketSupport
