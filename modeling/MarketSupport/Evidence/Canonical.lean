import MarketSupport.Planning.Models

/-!
# Canonical evidence

The facts that ground a plan, with the identity that their evidence ids are hashes of.
-/

namespace MarketSupport

/-! ## Scopes and provenance -/

inductive EvidenceScopeIdentityV1 where
  | distribution (businessScopeRef : String) (channelKind : ChannelType) (productIds : List String)
      (artifactType : EvidenceArtifactType) (materialOption period reportDate : Option String)
  | unscoped (artifactType : EvidenceArtifactType)
      (materialOption period reportDate : Option String)
  deriving DecidableEq, Repr

def EvidenceScopeIdentityV1.artifactType : EvidenceScopeIdentityV1 → EvidenceArtifactType
  | .distribution _ _ _ a _ _ _ | .unscoped a _ _ _ => a

def EvidenceScopeIdentityV1.materialOption : EvidenceScopeIdentityV1 → Option String
  | .distribution _ _ _ _ o _ _ | .unscoped _ o _ _ => o

inductive EvidenceSourceRecordKeyV1 where
  | documentMcp (clientContractVersion corpusVersion documentId entryId : String)
  | approvedStatic (catalogVersion canonicalId : String)
  | adapter (adapterServiceId adapterContractVersion : String) (resolveType : AdapterResolveType)
      (opaqueResolveRef : String)
  deriving DecidableEq, Repr

structure EvidenceProvenanceCanonicalV1 where
  sourceClass : String
  sourceRecordRef : String
  producerContractVersion : String
  retrievalOperation : String
  scopeRef : String
  asOfEpochSeconds : Option ℕ
  publicUrlHashes : List String
  deriving DecidableEq, Repr

/-! ## Values -/

inductive ContentMediaType where
  | textPlain
  | textMarkdown
  | applicationJson
  deriving DecidableEq, Repr

inductive EvidenceValueCanonicalV1 where
  | null
  | boolean (value : Bool)
  | integer (value : ℤ)
  | number (value : String)
  | string (value : String)
  | content (mediaType : ContentMediaType) (text : String)
  deriving DecidableEq, Repr

inductive ReportMaterialType where
  | weekly
  | monthly
  deriving DecidableEq, Repr

structure ReportScopeSectionCanonicalV1 where
  name : String
  sourcePdfCount : ℕ
  finalReportCount : ℕ
  missingProductCount : ℕ
  deriving DecidableEq, Repr

structure ReportScopeSummaryCanonicalV1 where
  materialType : ReportMaterialType
  period : Option String
  reportDate : Option String
  periodStart : Option String
  periodEnd : Option String
  periodLabel : Option String
  available : Bool
  reasonCode : String
  scopeComplete : Option Bool
  expectedProductCount : Option ℕ
  generatedProductCount : Option ℕ
  missingProductCount : Option ℕ
  sections : List ReportScopeSectionCanonicalV1
  deriving DecidableEq, Repr

inductive SourcePdfStatus where
  | found
  | missing
  deriving DecidableEq, Repr

inductive FinalReportStatus where
  | generated
  | notGenerated
  deriving DecidableEq, Repr

structure ReportScopeProductCanonicalV1 where
  productName : String
  portfolioType : Option String
  reportSection : String
  sourcePdfStatus : SourcePdfStatus
  finalReportStatus : FinalReportStatus
  deriving DecidableEq, Repr

inductive ReportScopeMatchStatus where
  | matched
  | notFound
  | ambiguous
  deriving DecidableEq, Repr

inductive ReportScopeMatchType where
  | section
  | product
  deriving DecidableEq, Repr

structure ReportScopeMatchCanonicalV1 where
  status : ReportScopeMatchStatus
  query : String
  matchType : Option ReportScopeMatchType
  matchedSection : Option String
  candidateCount : ℕ
  products : List ReportScopeProductCanonicalV1
  page : ℕ
  pageSize : ℕ
  deriving DecidableEq, Repr

structure ReportScopeProductsCanonicalV1 where
  available : Bool
  reasonCode : String
  period : Option String
  reportDate : Option String
  products : List ReportScopeProductCanonicalV1
  page : ℕ
  pageSize : ℕ
  totalCount : ℕ
  returnedCount : ℕ
  fullProductListInProjection : Bool
  deriving DecidableEq, Repr

inductive CanonicalEvidenceReportPayloadV1 where
  | summary (payload : ReportScopeSummaryCanonicalV1)
  | match (payload : ReportScopeMatchCanonicalV1)
  | products (payload : ReportScopeProductsCanonicalV1)
  deriving DecidableEq, Repr

/-- The type of the facts that have the payload. -/
def CanonicalEvidenceReportPayloadV1.factType : CanonicalEvidenceReportPayloadV1 → EvidenceFactType
  | .summary _ => .reportScopeSummary
  | .match _ => .reportScopeMatch
  | .products _ => .reportScopeProducts

structure RecentExecutedActionEvidencePayloadCanonicalV1 where
  actionType : OutboundActionType
  artifactType : EvidenceArtifactType
  artifactRef : Option String
  materialOption : Option String
  period : Option String
  reportDate : Option String
  statusRevision : ℕ
  responseId : String
  actionId : String
  receivedAtEpochSeconds : ℕ
  deriving DecidableEq, Repr

/-! ## Facts -/

structure CanonicalEvidenceFactV1 where
  evidenceId : String
  factType : EvidenceFactType
  sourceType : EvidenceSourceType
  artifactType : EvidenceArtifactType
  resolveType : Option AdapterResolveType
  value : EvidenceValueCanonicalV1
  scope : EvidenceScopeIdentityV1
  provenance : EvidenceProvenanceCanonicalV1
  observedAtEpochSeconds : Option ℕ
  publicUrls : List String
  reportPayload : Option CanonicalEvidenceReportPayloadV1
  recentExecutedAction : Option RecentExecutedActionEvidencePayloadCanonicalV1
  deriving DecidableEq, Repr

structure CanonicalResolveBindingV1 where
  evidenceId : String
  resolveType : AdapterResolveType
  sourceRecordRef : String
  scopeRef : String
  resolveRef : String
  period : Option String
  reportDate : Option String
  deriving DecidableEq, Repr

structure EvidenceFactIdentityV1 where
  sourceClass : String
  sourceRecordRef : String
  factType : EvidenceFactType
  artifactType : EvidenceArtifactType
  scopeRef : String
  asOfEpochSeconds : Option ℕ
  valueHash : String
  provenanceHash : String
  deriving DecidableEq, Repr

/-- The hashes of `hashing.py` over the evidence models; the hash of a payload is that of its
value, or of its report. -/
structure EvidenceHashes where
  scopeRef : EvidenceScopeIdentityV1 → String
  sourceRecordRef : EvidenceSourceRecordKeyV1 → String
  valueHash : EvidenceValueCanonicalV1 → String
  reportHash : CanonicalEvidenceReportPayloadV1 → String
  provenanceHash : EvidenceProvenanceCanonicalV1 → String
  factId : EvidenceFactIdentityV1 → String

/-- `build_canonical_evidence_fact_v1` for a scalar payload without public urls, of a fact type
that has no payload model of its own. -/
def buildCanonicalEvidenceFactV1 (hashes : EvidenceHashes) (factType : EvidenceFactType)
    (sourceType : EvidenceSourceType) (artifactType : EvidenceArtifactType)
    (resolveType : Option AdapterResolveType) (value : EvidenceValueCanonicalV1)
    (scope : EvidenceScopeIdentityV1) (provenance : EvidenceProvenanceCanonicalV1)
    (observedAtEpochSeconds : Option ℕ) : Except String CanonicalEvidenceFactV1 :=
  if provenance.scopeRef ≠ hashes.scopeRef scope then
    .error "canonical_evidence_provenance_scope_mismatch"
  else if observedAtEpochSeconds ≠ provenance.asOfEpochSeconds then
    .error "canonical_evidence_observed_at_mismatch"
  else if provenance.publicUrlHashes ≠ [] then
    .error "canonical_evidence_provenance_public_urls_mismatch"
  else if artifactType ≠ scope.artifactType then
    .error "canonical_evidence_artifact_scope_mismatch"
  else .ok {
    evidenceId := hashes.factId {
      sourceClass := provenance.sourceClass
      sourceRecordRef := provenance.sourceRecordRef
      factType
      artifactType
      scopeRef := hashes.scopeRef scope
      asOfEpochSeconds := provenance.asOfEpochSeconds
      valueHash := hashes.valueHash value
      provenanceHash := hashes.provenanceHash provenance }
    factType
    sourceType
    artifactType
    resolveType
    value
    scope
    provenance
    observedAtEpochSeconds
    publicUrls := []
    reportPayload := none
    recentExecutedAction := none }

end MarketSupport
