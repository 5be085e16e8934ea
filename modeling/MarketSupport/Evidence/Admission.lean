import MarketSupport.Evidence.Canonical

/-!
# Admission of evidence

Which facts a unit may use, and when they satisfy the evidence contract of its manifest.
-/

namespace MarketSupport

/-! ## Scopes -/

/-- `required_distribution_scope_matches_v1`, for one field. -/
def requiredFieldMatches (scope : DistributionExecutionDomainScopeV2)
    (factProductIds : List String) (factMaterialOption factPeriod : Option String)
    (factArtifactType : EvidenceArtifactType) (unitArtifactType : Option EvidenceArtifactType) :
    EvidenceScopeMatchField → Bool
  | .channelId | .channelKind | .productIds => true
  | .productId => scope.productIds.length = 1 ∧ scope.productIds = factProductIds
  | .materialPackOption => scope.materialPackOption = factMaterialOption
  | .timeRange => match scope.timeRange with
    | none => false
    | some timeRange => timeRange.period = factPeriod
  | .artifactType => unitArtifactType = some factArtifactType

/-- The artifact type that the name of an artifact kind is also the name of. -/
def ArtifactKind.artifactType? : ArtifactKind → Option EvidenceArtifactType
  | .materialPack => some .materialPack
  | .weeklyReport => some .weeklyReport
  | .monthlyReport => some .monthlyReport
  | .multiAction | .knowledgeAnswer | .humanSupport | .refusal | .unclear | .smalltalk => none

def canonicalScopeMatchesUnitV1 (fact : CanonicalEvidenceFactV1) (unit : ExecutionPlanUnitV2)
    (requiredScopeMatch : List EvidenceScopeMatchField) : Bool :=
  match unit.scope, fact.scope with
  | .distribution scope, .distribution ref channel productIds artifact option period _ =>
    (scope.businessScopeRef = ref ∧ scope.channelKind = channel ∧ scope.productIds = productIds) &&
      requiredScopeMatch.all (requiredFieldMatches scope productIds option period artifact
        unit.artifactKind.artifactType?)
  | .unscoped, .unscoped artifact _ _ _ => requiredScopeMatch = [] ∧ fact.artifactType = artifact
  | .distribution _, .unscoped .. | .unscoped, .distribution .. => false

/-! ## Facts -/

def canonicalFactHasProvenanceV1 (fact : CanonicalEvidenceFactV1) : Bool :=
  fact.provenance.sourceClass ≠ "" ∧ fact.provenance.sourceRecordRef ≠ "" ∧
    fact.provenance.producerContractVersion ≠ "" ∧ fact.provenance.retrievalOperation ≠ "" ∧
    fact.provenance.scopeRef ≠ ""

/-- The facts that come from the conversation. -/
def EvidenceSourceType.isHistory : EvidenceSourceType → Bool
  | .conversationHistory | .userMessage | .assistantMessage | .historySummary => true
  | _ => false

/-- `role_by_source`. -/
def EvidenceSourceType.role? : EvidenceSourceType → Option HistoryRoleV1
  | .userMessage => some .user
  | .assistantMessage => some .assistant
  | _ => none

/-- `age <= limit`, where a missing time is too old. -/
def withinAge (evaluationEpochSeconds observedAt : Option ℕ) (limit : ℕ) : Bool :=
  match evaluationEpochSeconds, observedAt with
  | some now, some observed => ((now : ℤ) - observed ≤ limit : Bool)
  | _, _ => false

def canonicalHistoryAllowedV1 (fact : CanonicalEvidenceFactV1)
    (contract : CapabilityEvidenceContractV2) (evaluationEpochSeconds : Option ℕ) : Bool :=
  !fact.sourceType.isHistory || (contract.allowHistory &&
    match fact.sourceType.role? with
    | none => false
    | some role => (role ∈ contract.historyConstraints.allowedRoles : Bool) &&
      contract.historyConstraints.maxTurns.isNone &&
      match contract.historyConstraints.maxAgeSeconds with
      | none => true
      | some limit => withinAge evaluationEpochSeconds fact.observedAtEpochSeconds limit)

def canonicalStalenessAllowedV1 (fact : CanonicalEvidenceFactV1)
    (contract : CapabilityEvidenceContractV2) (evaluationEpochSeconds : Option ℕ) : Bool :=
  !(contract.staleDataPolicy.requireObservedAt && fact.observedAtEpochSeconds.isNone) &&
    match contract.staleDataPolicy.maxAgeSeconds with
    | none => true
    | some limit => evaluationEpochSeconds.isSome && fact.observedAtEpochSeconds.isSome &&
      (withinAge evaluationEpochSeconds fact.observedAtEpochSeconds limit ||
        contract.staleDataPolicy.onStale = .allow)

/-- `canonical_fact_admitted_for_unit_v1`. -/
def canonicalFactAdmittedForUnitV1 (fact : CanonicalEvidenceFactV1) (unit : ExecutionPlanUnitV2)
    (contract : CapabilityEvidenceContractV2) (evaluationEpochSeconds : Option ℕ) : Bool :=
  (fact.factType ∈ contract.allowedFactTypes : Bool) &&
  (fact.factType ∉ contract.forbiddenFactTypes : Bool) &&
  (!contract.provenanceRequired || canonicalFactHasProvenanceV1 fact) &&
  (contract.allowedSourceTypes = [] ∨ fact.sourceType ∈ contract.allowedSourceTypes : Bool) &&
  (fact.sourceType ∉ contract.forbiddenSourceTypes : Bool) &&
  (contract.allowedArtifactTypes = [] ∨ fact.artifactType ∈ contract.allowedArtifactTypes : Bool) &&
  canonicalScopeMatchesUnitV1 fact unit contract.requiredScopeMatch &&
  canonicalHistoryAllowedV1 fact contract evaluationEpochSeconds &&
  canonicalStalenessAllowedV1 fact contract evaluationEpochSeconds &&
  (!contract.citationRequired || !fact.publicUrls.isEmpty)

/-- A unit only admits facts of the types that its contract allows. -/
theorem factType_mem_of_admitted {fact : CanonicalEvidenceFactV1} {unit : ExecutionPlanUnitV2}
    {contract : CapabilityEvidenceContractV2} {evaluationEpochSeconds : Option ℕ}
    (h : canonicalFactAdmittedForUnitV1 fact unit contract evaluationEpochSeconds = true) :
    fact.factType ∈ contract.allowedFactTypes := by
  unfold canonicalFactAdmittedForUnitV1 at h
  grind

theorem artifactType_mem_of_admitted {fact : CanonicalEvidenceFactV1} {unit : ExecutionPlanUnitV2}
    {contract : CapabilityEvidenceContractV2} {evaluationEpochSeconds : Option ℕ}
    (h : canonicalFactAdmittedForUnitV1 fact unit contract evaluationEpochSeconds = true) :
    contract.allowedArtifactTypes = [] ∨ fact.artifactType ∈ contract.allowedArtifactTypes := by
  unfold canonicalFactAdmittedForUnitV1 at h
  grind

/-! ## Requirements -/

/-- `canonical_evidence_requirements_satisfied_v1`. -/
def canonicalEvidenceRequirementsSatisfiedV1 (facts : List CanonicalEvidenceFactV1)
    (contract : CapabilityEvidenceContractV2) : Bool :=
  contract.requiredFactTypes.all (· ∈ facts.map (·.factType)) &&
  (contract.anyOfFactTypes = [] ∨ ∃ t ∈ contract.anyOfFactTypes,
    t ∈ facts.map (·.factType) : Bool) &&
  contract.requiredArtifactTypes.all (· ∈ facts.map (·.artifactType)) &&
  (contract.minFacts ≤ facts.length : Bool)

/-- One admitted fact is all that a capability asks for. -/
theorem requirementsSatisfied_of_admitted {facts : List CanonicalEvidenceFactV1}
    {unit : ExecutionPlanUnitV2} {manifestId : CapabilityManifestIdV2}
    {evaluationEpochSeconds : Option ℕ} (hne : facts ≠ [])
    (h : ∀ fact ∈ facts, canonicalFactAdmittedForUnitV1 fact unit manifestId.contract
      evaluationEpochSeconds = true) :
    canonicalEvidenceRequirementsSatisfiedV1 facts manifestId.contract = true := by
  obtain ⟨fact, facts, rfl⟩ := List.exists_cons_of_ne_nil hne
  have hfact := h fact List.mem_cons_self
  have htype := factType_mem_of_admitted hfact
  have hartifact := artifactType_mem_of_admitted hfact
  obtain hempty | ⟨t, a, hallowed, hrequired, hallowed', hrequired', hany, hmin⟩ :=
    contract_facts manifestId
  · simp [hempty] at htype
  · simp only [hallowed, hallowed', List.mem_singleton, List.cons_ne_nil, false_or]
      at htype hartifact
    simp [canonicalEvidenceRequirementsSatisfiedV1, hrequired, hrequired', hany, hmin, htype,
      hartifact]

end MarketSupport
