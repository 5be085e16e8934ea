import MarketSupport.Evidence.Grounding
import MarketSupport.Integrations.DocumentCache
import MarketSupport.Library.Except
import MarketSupport.Library.KeyedList
import MarketSupport.Library.Programs
import MarketSupport.Rendering.ResponseIds
import MarketSupport.Validation.Alignment

/-!
# The internal company knowledge gateway

For every unit of a plan that may use company knowledge, the gateway asks the document store
and the static catalog, and turns what they return into facts.
-/

namespace MarketSupport

open Library Program

/-! ## Contexts -/

/-- `GatewayDocumentContextV1`, with the bounds of its fields. -/
structure GatewayDocumentContextV1 where
  documentId : String
  title : String
  text : String
  clientContractVersion : String := "document-mcp-client.v1"
  corpusVersion : String := "unknown"
  documentId_bounds : 1 ≤ documentId.length ∧ documentId.length ≤ 160
  title_bound : title.length ≤ 160
  text_bounds : 1 ≤ text.length ∧ text.length ≤ 1000000
  deriving DecidableEq

structure GatewayStaticContextV1 where
  entryId : String
  manifestRef : ManifestRefV1
  text : String
  selectedAssetIds : List String
  deriving DecidableEq, Repr

structure RegisteredMediaBindingV1 where
  evidenceId : String
  assetId : String
  marker : String
  deriving DecidableEq, Repr

structure InternalCompanyKnowledgeResultV1 where
  facts : List CanonicalEvidenceFactV1
  mediaBindings : List RegisteredMediaBindingV1
  deriving DecidableEq, Repr

/-! ## The static catalog -/

structure ApprovedImageAsset where
  assetId : String
  markerFilename : String
  deriving DecidableEq, Repr

def ApprovedImageAsset.marker (asset : ApprovedImageAsset) : String :=
  "%%" ++ asset.markerFilename ++ "%%"

/-- `APPROVED_IMAGE_ASSETS`. -/
def approvedImageAssets : List ApprovedImageAsset :=
  [⟨"company_public_account_qr", "comp_wx_qr_code.png"⟩,
    ⟨"alpha_beta_comparison_chart", "alpha_beta_comparison.png"⟩,
    ⟨"quant_difference_chart", "quant_difference.png"⟩,
    ⟨"company_shareholders_chart", "company_shareholders.png"⟩,
    ⟨"sh000985_weights_chart", "SH000985_weights.png"⟩,
    ⟨"sh000985_features_chart", "SH000985_features.png"⟩,
    ⟨"sh000985_constituents_chart", "SH000985_constituents.png"⟩,
    ⟨"company_historical_aum_chart", "company_historical_aum.png"⟩,
    ⟨"indice_comparison_chart", "indice_comparison.png"⟩]

structure ApprovedKnowledgeEntry where
  entryId : String
  manifestRef : ManifestRefV1
  title : String
  approvedAnswer : String
  imageAssetIds : List String
  deriving DecidableEq, Repr

/-- `APPROVED_KNOWLEDGE` and `APPROVED_IMAGE_ASSETS`. -/
structure ApprovedCatalog where
  entries : List ApprovedKnowledgeEntry
  assets : List ApprovedImageAsset

def ApprovedCatalog.entry? (catalog : ApprovedCatalog) (entryId : String) :
    Option ApprovedKnowledgeEntry := catalog.entries.find? (·.entryId = entryId)

def ApprovedCatalog.asset? (catalog : ApprovedCatalog) (assetId : String) :
    Option ApprovedImageAsset := catalog.assets.find? (·.assetId = assetId)

def approvedStaticManifestRef : ManifestRefV1 := ⟨.answerInternalCompanyKnowledge, .v20260718n1⟩

/-! ## Targets -/

/-- A manifest with the evidence of a knowledge unit. -/
def usesCompanyKnowledge (contract : CapabilityEvidenceContractV2) : Bool :=
  .documentContext ∈ contract.allowedFactTypes ∧ .documentContext ∈ contract.allowedArtifactTypes ∧
    .documentMcp ∈ contract.allowedSourceTypes ∧
    .approvedStaticKnowledge ∈ contract.allowedSourceTypes

/-- `knowledge_targets`: the units that may use company knowledge. -/
def knowledgeTargets (plan : ExecutionPlanV2) (policy : PolicyManifestV2) :
    List ExecutionPlanUnitV2 :=
  plan.units.filter fun unit => (unit.manifestRef ∈ policy.eligibleCapabilities : Bool) &&
    match findManifest unit.manifestRef.manifestId with
    | none => false
    | some manifest => (manifest.manifestVersion = unit.manifestRef.manifestVersion : Bool) &&
      usesCompanyKnowledge manifest.evidenceContract

/-- The one capability of the registry that uses company knowledge. -/
@[simp] theorem usesCompanyKnowledge_iff {manifestId : CapabilityManifestIdV2} :
    usesCompanyKnowledge manifestId.contract = true ↔
      manifestId = .answerInternalCompanyKnowledge := by
  cases manifestId <;> decide

/-- `evidence_query_for_unit`. -/
def evidenceQueryForUnit (unit : ExecutionPlanUnitV2)
    (alignmentRefetchRequest : Option AlignmentRefetchRequestV1) : Option String :=
  let query := match alignmentRefetchRequest with
    | some request => if request.unitId = unit.unitId ∧ request.manifestRef = unit.manifestRef then
        some request.refinedEvidenceQuery else unit.evidenceQuery
    | none => unit.evidenceQuery
  query.filter (strip · ≠ "")

/-! ## Facts -/

/-- The functions of the source that are not embedded: the hashes of the evidence models and
the redaction of document texts. -/
structure EvidenceFunctions extends EvidenceHashes where
  sanitizeDocumentText : String → String

variable (fns : EvidenceFunctions) (catalog : ApprovedCatalog)

/-- `_document_scope`. -/
def documentScope (unit : ExecutionPlanUnitV2) : EvidenceScopeIdentityV1 :=
  match unit.scope with
  | .distribution scope => .distribution scope.businessScopeRef scope.channelKind scope.productIds
      .documentContext scope.materialPackOption (scope.timeRange.bind (·.period)) none
  | .unscoped => .unscoped .documentContext none none none

/-- The fact of a text that a knowledge source returned for a unit; `none` when nothing is
left of it. -/
def knowledgeFact (sourceType : EvidenceSourceType) (sourceClass retrievalOperation : String)
    (source : EvidenceSourceRecordKeyV1) (text : String) (unit : ExecutionPlanUnitV2) :
    Except EvidenceException CanonicalEvidenceFactV1 :=
  let scope := documentScope unit
  if 1000000 < text.length then .error .validationError
  else (buildCanonicalEvidenceFactV1 fns.toEvidenceHashes .documentContext sourceType
    .documentContext none (.content .textMarkdown text) scope {
      sourceClass
      sourceRecordRef := fns.sourceRecordRef source
      producerContractVersion := "internal-company-knowledge-gateway.v1"
      retrievalOperation
      scopeRef := fns.scopeRef scope
      asOfEpochSeconds := none
      publicUrlHashes := [] } none).mapError .otherError

/-- `document_fact`. -/
def documentFact (context : GatewayDocumentContextV1) (unit : ExecutionPlanUnitV2) :
    Except EvidenceException (Option CanonicalEvidenceFactV1) :=
  let text := fns.sanitizeDocumentText context.text
  if text = "" then .ok none
  else (knowledgeFact fns .documentMcp "document_mcp" "document_query"
    (.documentMcp context.clientContractVersion context.corpusVersion context.documentId
      context.documentId) text unit).map some

/-- The markers of a text, from the left: `none` when one of them is malformed, touches
another `%`, or is not selected. `before` is the character in front. -/
def scanMarkers (selected : List (List Char)) (before : Option Char) (text : List Char)
    (observed : List (List Char)) : Option (List (List Char)) :=
  match text with
  | '%' :: '%' :: rest =>
    let name := rest.takeWhile (· ∉ ['%', '\r', '\n'])
    match _hrest : rest.drop name.length with
    | '%' :: '%' :: rest' =>
      let marker := '%' :: '%' :: name ++ ['%', '%']
      if name.length < 1 ∨ 160 < name.length ∨ before = some '%' ∨ rest'.head? = some '%' ∨
          marker ∉ selected then none
      else scanMarkers selected (some '%') rest' (observed ++ [marker])
    | _ => none
  | c :: rest => scanMarkers selected (some c) rest observed
  | [] => some observed
termination_by text.length
decreasing_by
  · have hlength := congrArg List.length _hrest
    simp only [List.length_drop, List.length_cons] at hlength ⊢
    omega
  · simp

/-- `_selected_markers(..) is not None`: exactly the markers of the selected assets occur. -/
def selectedMarkers (text : String) (selectedAssetIds : List String) : Bool :=
  let selected := selectedAssetIds.filterMap fun assetId =>
    (catalog.asset? assetId).map (·.marker.toList)
  match scanMarkers selected none text.toList [] with
  | none => false
  | some observed => selected.all (· ∈ observed)

/-- `_static_manifest_is_admitted`. -/
def staticManifestIsAdmitted (context : GatewayStaticContextV1) (entry : ApprovedKnowledgeEntry)
    (unit : ExecutionPlanUnitV2) : Bool :=
  context.manifestRef = approvedStaticManifestRef ∧ entry.manifestRef = approvedStaticManifestRef ∧
    unit.manifestRef = context.manifestRef ∧
    .documentContext ∈ context.manifestRef.manifestId.contract.allowedFactTypes ∧
    .documentContext ∈ context.manifestRef.manifestId.contract.allowedArtifactTypes ∧
    .approvedStaticKnowledge ∈ context.manifestRef.manifestId.contract.allowedSourceTypes

/-- `_static_assets_are_selected`. -/
def staticAssetsAreSelected (context : GatewayStaticContextV1) (entryAssetIds : List String) :
    Bool :=
  context.selectedAssetIds.Nodup ∧ (∀ assetId ∈ context.selectedAssetIds, assetId ∈ entryAssetIds) ∧
    ∀ assetId ∈ context.selectedAssetIds, (catalog.asset? assetId).isSome

/-- The characters `%%` occur in the text. -/
def hasMarkerDelimiter (text : String) : Bool :=
  text.toList.tails.any (['%', '%'].isPrefixOf ·)

/-- `static_fact`. -/
def staticFact (context : GatewayStaticContextV1) (unit : ExecutionPlanUnitV2)
    (mediaAllowed : Bool) : Except EvidenceException
      (Option CanonicalEvidenceFactV1 × List RegisteredMediaBindingV1) :=
  if !mediaAllowed && (!context.selectedAssetIds.isEmpty || hasMarkerDelimiter context.text) then
    .ok (none, [])
  else match catalog.entry? context.entryId with
    | none => .ok (none, [])
    | some entry =>
      let sanitized := fns.sanitizeDocumentText context.text
      if staticManifestIsAdmitted context entry unit &&
          staticAssetsAreSelected catalog context entry.imageAssetIds &&
          selectedMarkers catalog context.text context.selectedAssetIds &&
          sanitized ≠ "" && selectedMarkers catalog sanitized context.selectedAssetIds then do
        let fact ← knowledgeFact fns .approvedStaticKnowledge "approved_static"
          "approved_static_query" (.approvedStatic "approved-static-catalog.v1" context.entryId)
          sanitized unit
        return (some fact, context.selectedAssetIds.filterMap fun assetId =>
          (catalog.asset? assetId).map fun asset => ⟨fact.evidenceId, assetId, asset.marker⟩)
      else .ok (none, [])

/-! ## Collecting -/

/-- A full match of `csk1:[0-9a-f]{64}`. -/
def isStateKeyRef (s : String) : Bool :=
  match s.toList with
  | 'c' :: 's' :: 'k' :: '1' :: ':' :: rest => rest.length == 64 && rest.all isLowerHex
  | _ => false

/-- `document_cache_authority`. -/
def documentCacheAuthority (stateKeyRef : Option String)
    (documentCacheConfig : Option DocumentMcpCacheConfigV1) (policy : PolicyManifestV2)
    (manifestRef : String) : Option DocumentMcpCacheAuthorityV1 :=
  match stateKeyRef.filter isStateKeyRef, documentCacheConfig with
  | some stateKeyRef, some sourceCacheConfig =>
    some ⟨stateKeyRef, policy.policyId, manifestRef, policy.businessScopeHash, sourceCacheConfig⟩
  | _, _ => none

/-- The calls of the gateway to its two providers. -/
inductive KnowledgeCall where
  | documents (evidenceQuery : String) (cacheAuthority : Option DocumentMcpCacheAuthorityV1)
  | statics (evidenceQuery : String)
  deriving DecidableEq

def KnowledgeCall.Value : KnowledgeCall → Type
  | .documents .. => List GatewayDocumentContextV1
  | .statics .. => List GatewayStaticContextV1

def KnowledgeCall.Answer (c : KnowledgeCall) : Type := Except EvidenceException c.Value

abbrev KnowledgeProgram := Program KnowledgeCall KnowledgeCall.Answer EvidenceException

def provider (c : KnowledgeCall) : KnowledgeProgram c.Value :=
  call c (fun answer => ofExcept answer)

/-- `deduplicate_knowledge_result`. -/
def deduplicateKnowledgeResult (facts : List CanonicalEvidenceFactV1)
    (bindings : List RegisteredMediaBindingV1) : InternalCompanyKnowledgeResultV1 :=
  let facts' := KeyedList.ofEntries (·.evidenceId) facts
  ⟨facts', KeyedList.ofEntries (fun binding => (binding.evidenceId, binding.assetId))
    (bindings.filter (·.evidenceId ∈ facts'.map (·.evidenceId)))⟩

/-- The body of the loop of `collect`, for one unit. -/
def collectUnit (policy : PolicyManifestV2) (scene : Scene) (stateKeyRef : Option String)
    (documentCacheConfig : Option DocumentMcpCacheConfigV1)
    (alignmentRefetchRequest : Option AlignmentRefetchRequestV1) (unit : ExecutionPlanUnitV2) :
    KnowledgeProgram (List CanonicalEvidenceFactV1 × List RegisteredMediaBindingV1) :=
  match evidenceQueryForUnit unit alignmentRefetchRequest with
  | none => return ([], [])
  | some query => do
    let documents ← provider (.documents query
      (documentCacheAuthority stateKeyRef documentCacheConfig policy unit.manifestRef.text))
    let documentFacts ← ofExcept (documents.mapM (documentFact fns · unit))
    let contexts ← provider (.statics query)
    let staticFacts ← ofExcept (contexts.mapM (staticFact fns catalog · unit (scene = .group)))
    return (documentFacts.filterMap id ++ staticFacts.filterMap (·.1), staticFacts.flatMap (·.2))

/-- The loop of `collect`, from what was collected so far. -/
def collectUnits (policy : PolicyManifestV2) (scene : Scene) (stateKeyRef : Option String)
    (documentCacheConfig : Option DocumentMcpCacheConfigV1)
    (alignmentRefetchRequest : Option AlignmentRefetchRequestV1) :
    List ExecutionPlanUnitV2 → List CanonicalEvidenceFactV1 → List RegisteredMediaBindingV1 →
      KnowledgeProgram InternalCompanyKnowledgeResultV1
  | [], facts, bindings => return deduplicateKnowledgeResult facts bindings
  | unit :: units, facts, bindings => do
    let (facts', bindings') ← collectUnit fns catalog policy scene stateKeyRef documentCacheConfig
      alignmentRefetchRequest unit
    collectUnits policy scene stateKeyRef documentCacheConfig alignmentRefetchRequest units
      (facts ++ facts') (bindings ++ bindings')

/-- `InternalCompanyKnowledgeGatewayV1.collect`. -/
def collectKnowledge (plan : ExecutionPlanV2) (policy : PolicyManifestV2) (scene : Scene)
    (stateKeyRef : Option String) (documentCacheConfig : Option DocumentMcpCacheConfigV1)
    (alignmentRefetchRequest : Option AlignmentRefetchRequestV1) :
    KnowledgeProgram InternalCompanyKnowledgeResultV1 :=
  if !policy.internalCompanyKnowledgeEnabled then return ⟨[], []⟩
  else collectUnits fns catalog policy scene stateKeyRef documentCacheConfig
    alignmentRefetchRequest (knowledgeTargets plan policy) [] []

/-! ## What is collected -/

/-- A document context, with the hash of its identity as its id. -/
structure KnowledgeFact (hashes : EvidenceHashes) (fact : CanonicalEvidenceFactV1) : Prop where
  sourceType : fact.sourceType ∈ [.documentMcp, .approvedStaticKnowledge]
  factType : fact.factType = .documentContext
  hashed : ∃ identity, identity.factType = .documentContext ∧
    hashes.factId identity = fact.evidenceId

variable {fns catalog}

theorem knowledgeFact_spec {sourceType : EvidenceSourceType}
    {sourceClass retrievalOperation text : String} {source : EvidenceSourceRecordKeyV1}
    {unit : ExecutionPlanUnitV2} {fact : CanonicalEvidenceFactV1}
    (known : sourceType ∈ [.documentMcp, .approvedStaticKnowledge])
    (h : knowledgeFact fns sourceType sourceClass retrievalOperation source text unit = .ok fact) :
    KnowledgeFact fns.toEvidenceHashes fact := by
  simp only [knowledgeFact, buildCanonicalEvidenceFactV1] at h
  split_ifs at h
  all_goals cases h
  exact ⟨known, rfl, _, rfl, rfl⟩

theorem documentFact_spec {context : GatewayDocumentContextV1} {unit : ExecutionPlanUnitV2}
    {fact : CanonicalEvidenceFactV1} (h : documentFact fns context unit = .ok (some fact)) :
    KnowledgeFact fns.toEvidenceHashes fact := by
  unfold documentFact at h
  dsimp only at h
  split_ifs at h
  · cases h
  · cases hfact : knowledgeFact fns .documentMcp "document_mcp" "document_query"
        (.documentMcp context.clientContractVersion context.corpusVersion context.documentId
          context.documentId) (fns.sanitizeDocumentText context.text) unit with
    | error e =>
      rw [hfact] at h
      cases h
    | ok built =>
      rw [hfact] at h
      cases h
      exact knowledgeFact_spec (by simp) hfact

theorem staticFact_spec {context : GatewayStaticContextV1} {unit : ExecutionPlanUnitV2}
    {mediaAllowed : Bool} {fact : CanonicalEvidenceFactV1} {media : List RegisteredMediaBindingV1}
    (h : staticFact fns catalog context unit mediaAllowed = .ok (some fact, media)) :
    KnowledgeFact fns.toEvidenceHashes fact := by
  unfold staticFact at h
  split at h
  · cases h
  · split at h
    · cases h
    · dsimp only at h
      split at h
      · obtain ⟨built, hfact, h⟩ := bind_eq_ok_iff.mp h
        cases h
        exact knowledgeFact_spec (by simp) hfact
      · cases h

variable {policy : PolicyManifestV2} {scene : Scene} {stateKeyRef : Option String}
  {documentCacheConfig : Option DocumentMcpCacheConfigV1}
  {alignmentRefetchRequest : Option AlignmentRefetchRequestV1}

theorem collectUnit_spec (unit : ExecutionPlanUnitV2) :
    (collectUnit fns catalog policy scene stateKeyRef documentCacheConfig alignmentRefetchRequest
      unit).Returns fun collected =>
        ∀ fact ∈ collected.1, KnowledgeFact fns.toEvidenceHashes fact := by
  unfold collectUnit
  split
  · exact returns_pure (by simp)
  · refine returns_bind returns_true fun documents _ => ?_
    refine returns_bind (returns_ofExcept fun _ h => h) fun documentFacts hdocuments => ?_
    refine returns_bind returns_true fun contexts _ => ?_
    refine returns_bind (returns_ofExcept fun _ h => h) fun staticFacts hstatics => ?_
    refine returns_pure fun fact hfact => ?_
    rcases List.mem_append.mp hfact with hfact | hfact
    · obtain ⟨_, hmem, rfl⟩ := List.mem_filterMap.mp hfact
      obtain ⟨context, _, h⟩ := exists_of_mem_mapM hdocuments hmem
      exact documentFact_spec h
    · obtain ⟨⟨_, media⟩, hmem, rfl⟩ := List.mem_filterMap.mp hfact
      obtain ⟨context, _, h⟩ := exists_of_mem_mapM hstatics hmem
      exact staticFact_spec h

/-- What the gateway returns: document contexts with distinct ids. -/
structure KnowledgeResult (hashes : EvidenceHashes) (result : InternalCompanyKnowledgeResultV1) :
    Prop where
  nodup : (result.facts.map (·.evidenceId)).Nodup
  facts : ∀ fact ∈ result.facts, KnowledgeFact hashes fact

theorem collectUnits_spec (units : List ExecutionPlanUnitV2) (facts : List CanonicalEvidenceFactV1)
    (bindings : List RegisteredMediaBindingV1)
    (hfacts : ∀ fact ∈ facts, KnowledgeFact fns.toEvidenceHashes fact) :
    (collectUnits fns catalog policy scene stateKeyRef documentCacheConfig alignmentRefetchRequest
      units facts bindings).Returns (KnowledgeResult fns.toEvidenceHashes) := by
  induction units generalizing facts bindings with
  | nil =>
    exact returns_pure ⟨KeyedList.nodup_ofEntries facts, fun fact hfact =>
      hfacts fact (KeyedList.mem_of_mem_ofEntries hfact)⟩
  | cons unit units ih =>
    refine returns_bind (collectUnit_spec unit) fun (facts', bindings') hfacts' => ih _ _ ?_
    intro fact hfact
    rcases List.mem_append.mp hfact with hfact | hfact
    · exact hfacts fact hfact
    · exact hfacts' fact hfact

theorem collectKnowledge_spec {plan : ExecutionPlanV2} :
    (collectKnowledge fns catalog plan policy scene stateKeyRef documentCacheConfig
      alignmentRefetchRequest).Returns (KnowledgeResult fns.toEvidenceHashes) := by
  unfold collectKnowledge
  split
  · exact returns_pure ⟨List.nodup_nil, by simp⟩
  · exact collectUnits_spec _ [] [] (by simp)

end MarketSupport
