import Mathlib.Data.List.Basic

/-!
# Capability manifests

The sealed registry of capabilities, with the part of a manifest that the runtime reads: which
evidence a unit of the capability may use.
-/

namespace MarketSupport

/-! ## Vocabulary -/

inductive CapabilityManifestIdV2 where
  | materialPackSend
  | weeklyReportSend
  | monthlyReportSend
  | salesHandoff
  | generalClarification
  | generalAbstention
  | generalRefusal
  | generalSmalltalk
  | generalNoReply
  | weeklyReportProductList
  | monthlyReportProductList
  | answerInternalCompanyKnowledge
  | generalHandoff
  deriving DecidableEq, Repr

/-- The only version is `2026-07-18.1`. -/
inductive ManifestVersionV2 where
  | v20260718n1
  deriving DecidableEq, Repr

structure ManifestRefV1 where
  manifestId : CapabilityManifestIdV2
  manifestVersion : ManifestVersionV2
  deriving DecidableEq, Repr

inductive EvidenceFactType where
  | materialPackResolvable
  | weeklyReportResolvable
  | monthlyReportResolvable
  | salesMentionResolvable
  | reportPeriod
  | reportScopeSummary
  | reportScopeMatch
  | reportScopeProducts
  | reportScopeUnavailable
  | recentExecutedAction
  | documentContext
  | documentContextUnavailable
  deriving DecidableEq, Repr

inductive EvidenceSourceType where
  | adapterResolve
  | adapterReportScope
  | actionLedger
  | documentMcp
  | approvedStaticKnowledge
  | conversationHistory
  | userUpload
  | currentArtifact
  | adapterContext
  | userMessage
  | assistantMessage
  | historySummary
  | retrievedDoc
  | toolResult
  deriving DecidableEq, Repr

inductive EvidenceArtifactType where
  | materialPack
  | weeklyReport
  | monthlyReport
  | documentContext
  | adapterContext
  | history
  | userUpload
  | unknown
  deriving DecidableEq, Repr

inductive EvidenceScopeMatchField where
  | channelId
  | channelKind
  | materialPackOption
  | timeRange
  | productId
  | productIds
  | artifactType
  deriving DecidableEq, Repr

inductive HistoryRoleV1 where
  | user
  | assistant
  deriving DecidableEq, Repr

inductive StaleDataAction where
  | allow
  | abstain
  | refresh
  deriving DecidableEq, Repr

/-! ## Evidence contracts -/

structure HistoryConstraintsV1 where
  maxTurns : Option ℕ := none
  maxAgeSeconds : Option ℕ := none
  allowedRoles : List HistoryRoleV1 := []
  deriving DecidableEq, Repr

structure StaleDataPolicyV1 where
  maxAgeSeconds : Option ℕ := none
  onStale : StaleDataAction := .allow
  requireObservedAt : Bool := false
  deriving DecidableEq, Repr

structure CapabilityEvidenceContractV2 where
  requiredFactTypes : List EvidenceFactType := []
  anyOfFactTypes : List EvidenceFactType := []
  allowedFactTypes : List EvidenceFactType := []
  forbiddenFactTypes : List EvidenceFactType := []
  allowedSourceTypes : List EvidenceSourceType := []
  forbiddenSourceTypes : List EvidenceSourceType := []
  requiredArtifactTypes : List EvidenceArtifactType := []
  allowedArtifactTypes : List EvidenceArtifactType := []
  requiredScopeMatch : List EvidenceScopeMatchField := []
  minFacts : ℕ := 0
  allowHistory : Bool := false
  historyConstraints : HistoryConstraintsV1 := {}
  citationRequired : Bool := false
  provenanceRequired : Bool := true
  staleDataPolicy : StaleDataPolicyV1 := {}
  deriving DecidableEq, Repr

structure CapabilityManifestV2 where
  manifestId : CapabilityManifestIdV2
  manifestVersion : ManifestVersionV2
  evidenceContract : CapabilityEvidenceContractV2
  deriving DecidableEq, Repr

/-! ## The sealed registry -/

/-- The contract of a capability that sends one artifact. -/
def sendContract (fact : EvidenceFactType) (artifact : EvidenceArtifactType) :
    CapabilityEvidenceContractV2 where
  requiredFactTypes := [fact]
  allowedFactTypes := [fact]
  allowedSourceTypes := [.adapterResolve]
  forbiddenSourceTypes := [.adapterReportScope, .conversationHistory, .documentMcp]
  requiredArtifactTypes := [artifact]
  allowedArtifactTypes := [artifact]
  minFacts := 1

/-- The contract of a capability that lists the products of a report. -/
def productListContract (artifact : EvidenceArtifactType) : CapabilityEvidenceContractV2 where
  requiredFactTypes := [.reportScopeProducts]
  allowedFactTypes := [.reportScopeProducts]
  allowedSourceTypes := [.adapterReportScope]
  forbiddenSourceTypes := [.adapterResolve, .documentMcp]
  requiredArtifactTypes := [artifact]
  allowedArtifactTypes := [artifact]
  minFacts := 1

/-- The evidence contracts of `capability_registry.v2.json`. -/
def CapabilityManifestIdV2.contract : CapabilityManifestIdV2 → CapabilityEvidenceContractV2
  | .materialPackSend => sendContract .materialPackResolvable .materialPack
  | .weeklyReportSend => sendContract .weeklyReportResolvable .weeklyReport
  | .monthlyReportSend => sendContract .monthlyReportResolvable .monthlyReport
  | .salesHandoff => {
      requiredFactTypes := [.salesMentionResolvable]
      allowedFactTypes := [.salesMentionResolvable]
      allowedSourceTypes := [.adapterResolve]
      requiredArtifactTypes := [.adapterContext]
      allowedArtifactTypes := [.adapterContext]
      minFacts := 1 }
  | .weeklyReportProductList => productListContract .weeklyReport
  | .monthlyReportProductList => productListContract .monthlyReport
  | .answerInternalCompanyKnowledge => {
      requiredFactTypes := [.documentContext]
      allowedFactTypes := [.documentContext]
      allowedSourceTypes := [.approvedStaticKnowledge, .documentMcp]
      requiredArtifactTypes := [.documentContext]
      allowedArtifactTypes := [.documentContext]
      minFacts := 1 }
  | .generalClarification | .generalAbstention | .generalRefusal | .generalSmalltalk
  | .generalNoReply | .generalHandoff => {}

/-- `CAPABILITY_MANIFEST_REGISTRY.list()`. -/
def capabilityManifestRegistry : List CapabilityManifestV2 :=
  [.materialPackSend, .weeklyReportSend, .monthlyReportSend, .salesHandoff, .generalClarification,
    .generalAbstention, .generalRefusal, .generalSmalltalk, .generalNoReply,
    .weeklyReportProductList, .monthlyReportProductList, .answerInternalCompanyKnowledge,
    .generalHandoff].map fun manifestId => ⟨manifestId, .v20260718n1, manifestId.contract⟩

/-- `CAPABILITY_MANIFEST_REGISTRY.find`. -/
def findManifest (manifestId : CapabilityManifestIdV2) : Option CapabilityManifestV2 :=
  capabilityManifestRegistry.find? (·.manifestId = manifestId)

/-- The registry has a manifest for every id. -/
@[simp] theorem findManifest_eq (manifestId : CapabilityManifestIdV2) : findManifest manifestId =
    some ⟨manifestId, .v20260718n1, manifestId.contract⟩ := by
  cases manifestId <;> rfl

/-- The texts of `CapabilityManifestIdV2`. -/
def CapabilityManifestIdV2.text : CapabilityManifestIdV2 → String
  | .materialPackSend => "material_pack.send"
  | .weeklyReportSend => "weekly_report.send"
  | .monthlyReportSend => "monthly_report.send"
  | .salesHandoff => "sales.handoff"
  | .generalClarification => "general.clarification"
  | .generalAbstention => "general.abstention"
  | .generalRefusal => "general.refusal"
  | .generalSmalltalk => "general.smalltalk"
  | .generalNoReply => "general.no_reply"
  | .weeklyReportProductList => "weekly_report.product_list"
  | .monthlyReportProductList => "monthly_report.product_list"
  | .answerInternalCompanyKnowledge => "answer_internal_company_knowledge"
  | .generalHandoff => "general.handoff"

theorem CapabilityManifestIdV2.text_injective :
    Function.Injective CapabilityManifestIdV2.text := by
  intro a b
  cases a <;> cases b <;> decide

def ManifestVersionV2.text : ManifestVersionV2 → String
  | .v20260718n1 => "2026-07-18.1"

/-- The text that names a manifest and its version. -/
def ManifestRefV1.text (ref : ManifestRefV1) : String :=
  ref.manifestId.text ++ "@" ++ ref.manifestVersion.text

theorem ManifestRefV1.text_injective : Function.Injective ManifestRefV1.text := by
  rintro ⟨a, ⟨⟩⟩ ⟨b, ⟨⟩⟩ h
  unfold ManifestRefV1.text at h
  rw [String.append_left_inj, String.append_left_inj] at h
  obtain rfl : a = b := CapabilityManifestIdV2.text_injective h
  rfl

theorem ManifestRefV1.length_text (ref : ManifestRefV1) :
    0 < ref.text.length ∧ ref.text.length ≤ 160 := by
  obtain ⟨manifestId, ⟨⟩⟩ := ref
  cases manifestId <;> decide

/-- The manifest id with the text. -/
def manifestIdOfText (text : String) : Option CapabilityManifestIdV2 :=
  (capabilityManifestRegistry.map (·.manifestId)).find? (·.text = text)

theorem text_of_manifestIdOfText {text : String} {manifestId : CapabilityManifestIdV2}
    (h : manifestIdOfText text = some manifestId) : manifestId.text = text := by
  unfold manifestIdOfText at h
  simpa using List.find?_some h

inductive OutboundIntentV1 where
  | required
  | forbidden
  deriving DecidableEq, Repr

/-- `selection_contract.outbound_intent` of `capability_registry.v2.json`. -/
def CapabilityManifestIdV2.outboundIntent : CapabilityManifestIdV2 → OutboundIntentV1
  | .materialPackSend | .weeklyReportSend | .monthlyReportSend => .required
  | .salesHandoff | .generalClarification | .generalAbstention | .generalRefusal
  | .generalSmalltalk | .generalNoReply | .weeklyReportProductList | .monthlyReportProductList
  | .answerInternalCompanyKnowledge | .generalHandoff => .forbidden

/-- A capability uses one kind of evidence, of which it requires one fact, or none. -/
theorem contract_facts (manifestId : CapabilityManifestIdV2) :
    manifestId.contract.allowedFactTypes = [] ∨ ∃ factType artifactType,
      manifestId.contract.allowedFactTypes = [factType] ∧
      manifestId.contract.requiredFactTypes = [factType] ∧
      manifestId.contract.allowedArtifactTypes = [artifactType] ∧
      manifestId.contract.requiredArtifactTypes = [artifactType] ∧
      manifestId.contract.anyOfFactTypes = [] ∧ manifestId.contract.minFacts = 1 := by
  cases manifestId <;> simp [CapabilityManifestIdV2.contract, sendContract, productListContract]

/-- No capability uses report summaries or recent actions. -/
theorem allowedFactTypes_not_mem (manifestId : CapabilityManifestIdV2) :
    .reportScopeSummary ∉ manifestId.contract.allowedFactTypes ∧
      .recentExecutedAction ∉ manifestId.contract.allowedFactTypes := by
  cases manifestId <;> decide

theorem ManifestVersionV2.eq (v w : ManifestVersionV2) : v = w := by
  cases v
  cases w
  rfl

end MarketSupport
