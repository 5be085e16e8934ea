import MarketSupport.Identity.Request
import MarketSupport.Planning.Compiler

/-!
# The compiler of policies

`compile_policy_manifest_v2` turns the grants and the business scope of a request into the
policy of its turn.

## Main results

* `compilePolicyManifestV2_ok` — the fields of a compiled policy.
* `PolicyManifestV2.Compiled` — what every compiled policy satisfies.
-/

namespace MarketSupport

/-! ## Sets of grants -/

section Sets

variable {α : Type} [DecidableEq α]

/-- `tuple(sorted(set(values)))`; `order` lists the type in the order of its texts. -/
def canonicalSet (order values : List α) : List α := order.filter (· ∈ values)

theorem mem_canonicalSet {order values : List α} {a : α} :
    a ∈ canonicalSet order values ↔ a ∈ order ∧ a ∈ values := by
  simp [canonicalSet]

end Sets

def readCapabilityOrder : List ReadCapability :=
  [.queryInternalCompanyInfo, .queryMonthlyReportProductList, .queryWeeklyReportProductList,
    .resolveMaterialPack, .resolveMonthlyReport, .resolveSalesMention, .resolveWeeklyReport]

def outboundActionOrder : List OutboundActionType :=
  [.sendMaterialPack, .sendMonthlyReport, .sendWeeklyReport]

def adapterResolveOrder : List AdapterResolveType :=
  [.materialPack, .monthlyReport, .salesMention, .weeklyReport]

def responseModeOrder : List ResponseMode :=
  [.action, .clarification, .handoff, .knowledgeAnswer, .noReply, .refusal, .smalltalk, .unable]

/-! ## Requirements -/

/-- `_MANIFEST_READ_REQUIREMENTS`. -/
def CapabilityManifestIdV2.manifestReadRequirement : CapabilityManifestIdV2 → Option ReadCapability
  | .materialPackSend => some .resolveMaterialPack
  | .weeklyReportSend => some .resolveWeeklyReport
  | .monthlyReportSend => some .resolveMonthlyReport
  | .salesHandoff => some .resolveSalesMention
  | .answerInternalCompanyKnowledge => some .queryInternalCompanyInfo
  | .weeklyReportProductList => some .queryWeeklyReportProductList
  | .monthlyReportProductList => some .queryMonthlyReportProductList
  | _ => none

/-- `_MANIFEST_ACTION_REQUIREMENTS`. -/
def CapabilityManifestIdV2.manifestActionRequirement :
    CapabilityManifestIdV2 → Option OutboundActionType
  | .materialPackSend => some .sendMaterialPack
  | .weeklyReportSend => some .sendWeeklyReport
  | .monthlyReportSend => some .sendMonthlyReport
  | _ => none

/-- `_MANIFEST_RESOLVE_REQUIREMENTS`. -/
def CapabilityManifestIdV2.resolveRequirement : CapabilityManifestIdV2 → Option AdapterResolveType
  | .materialPackSend => some .materialPack
  | .weeklyReportSend | .weeklyReportProductList => some .weeklyReport
  | .monthlyReportSend | .monthlyReportProductList => some .monthlyReport
  | .salesHandoff => some .salesMention
  | _ => none

/-- `_artifact_is_missing`. -/
def artifactIsMissing (manifestId : CapabilityManifestIdV2)
    (artifactTypes : List AvailableArtifactType) : Bool :=
  (manifestId = .materialPackSend ∧ .materialPack ∉ artifactTypes : Bool) ||
    (manifestId ∈ [.weeklyReportSend, .weeklyReportProductList] ∧
      .weeklyReport ∉ artifactTypes : Bool) ||
    (manifestId ∈ [.monthlyReportSend, .monthlyReportProductList] ∧
      .monthlyReport ∉ artifactTypes : Bool)

/-- The capabilities that the direct scene never has. -/
def groupOnlyManifests : List CapabilityManifestIdV2 :=
  [.materialPackSend, .weeklyReportSend, .monthlyReportSend, .salesHandoff,
    .weeklyReportProductList, .monthlyReportProductList]

variable (request : KernelReplyRequestV1)

/-- What `_eligible_manifest_refs` asks of a manifest. -/
def manifestEligible (internalCompanyKnowledgeEnabled : Bool)
    (manifestId : CapabilityManifestIdV2) : Bool :=
  (manifestId.manifestReadRequirement.all fun capability =>
    (capability ∈ request.grants.readCapabilities : Bool) &&
      (decide (capability ≠ .queryInternalCompanyInfo) || internalCompanyKnowledgeEnabled)) &&
  (manifestId.manifestActionRequirement.all fun action =>
    (action ∈ request.grants.outboundActions : Bool)) &&
  (manifestId ≠ .salesHandoff ∨ .sales ∈ request.grants.mentionTypes : Bool) &&
  !artifactIsMissing manifestId ((kernelAvailableArtifacts request).map (·.type)) &&
  (manifestId ≠ .generalHandoff ∨ request.scene = .direct : Bool) &&
  (request.scene ≠ .direct ∨ manifestId ∉ groupOnlyManifests : Bool)

/-- `_eligible_manifest_refs`. -/
def eligibleManifestRefs (internalCompanyKnowledgeEnabled : Bool) : List ManifestRefV1 :=
  (capabilityManifestRegistry.filter fun manifest =>
    manifestEligible request internalCompanyKnowledgeEnabled manifest.manifestId).map
      fun manifest =>
      ⟨manifest.manifestId, manifest.manifestVersion⟩

/-- `_allowed_resolves`. -/
def allowedResolves (refs : List ManifestRefV1) (scene : Scene) : List AdapterResolveType :=
  if scene = .direct then []
  else canonicalSet adapterResolveOrder (refs.filterMap (·.manifestId.resolveRequirement))

/-- `_policy_reply_modes`. -/
def policyReplyModes (refs : List ManifestRefV1) : List ResponseMode :=
  let manifestIds := refs.map (·.manifestId)
  canonicalSet responseModeOrder
    ([.clarification, .handoff, .noReply, .refusal, .smalltalk, .unable] ++
      (if manifestIds.any (· ∈ [.materialPackSend, .weeklyReportSend, .monthlyReportSend]) then
        [.action] else []) ++
      (if manifestIds.any (· ∈ [.answerInternalCompanyKnowledge, .weeklyReportProductList,
        .monthlyReportProductList]) then [.knowledgeAnswer] else []))

/-- `_canonical_material_options`. -/
def canonicalMaterialOptions : List String :=
  (((kernelAvailableArtifacts request).find? (·.type = .materialPack)).map (·.options)).getD []

/-- The read capabilities that the scene leaves. -/
def sceneReadCapabilities : List ReadCapability :=
  let granted := canonicalSet readCapabilityOrder request.grants.readCapabilities
  if request.scene = .direct then
    granted.filter fun capability =>
      capability = .queryInternalCompanyInfo ∧ request.businessScope = .unscoped
  else granted

/-! ## Policies -/

structure PolicyLedgerSummaryV1 where
  recentExecutedCount : ℕ
  recentArtifactTypes : List String
  hasRecentExecutedActions : Bool
  deriving DecidableEq, Repr

inductive PolicyException where
  | policyManifestCompilationError (code : String)
  | directPolicyCeilingError
  deriving DecidableEq, Repr

/-- `business_scope_hash_v1`, and the id of a draft of a policy. -/
structure PolicyHashes where
  businessScopeHashV1 : BusinessScopeV1 → String
  policyManifestIdV2 : PolicyManifestV2 → String

/-- `_DIRECT_GENERAL_MANIFEST_REFS`, or with knowledge `_DIRECT_KNOWLEDGE_MANIFEST_REFS`. -/
def directManifestRefs (internalCompanyKnowledgeEnabled : Bool) : List ManifestRefV1 :=
  let manifestIds : List CapabilityManifestIdV2 :=
    [.generalClarification, .generalAbstention, .generalRefusal, .generalSmalltalk,
      .generalNoReply] ++
    (if internalCompanyKnowledgeEnabled then [.answerInternalCompanyKnowledge] else []) ++
    [.generalHandoff]
  manifestIds.map fun manifestId => ⟨manifestId, .v20260718n1⟩

/-- `_DIRECT_GENERAL_REPLY_MODES`, or with knowledge `_DIRECT_KNOWLEDGE_REPLY_MODES`. -/
def directReplyModes (internalCompanyKnowledgeEnabled : Bool) : List ResponseMode :=
  [.clarification, .handoff] ++
    (if internalCompanyKnowledgeEnabled then [.knowledgeAnswer] else []) ++
    [.noReply, .refusal, .smalltalk, .unable]

variable (hashes : PolicyHashes) (authority : BusinessScopeAuthorityV1)

/-- `validate_direct_policy_authority` and `validate_direct_policy_ledger`. -/
def withinDirectCeilings (policy : PolicyManifestV2) (ledgerSummary : PolicyLedgerSummaryV1) :
    Bool :=
  policy.allowedReplyModes = directReplyModes policy.internalCompanyKnowledgeEnabled ∧
    policy.eligibleCapabilities = directManifestRefs policy.internalCompanyKnowledgeEnabled ∧
    policy.allowedReadCapabilities =
      (if policy.internalCompanyKnowledgeEnabled then [.queryInternalCompanyInfo] else []) ∧
    policy.allowedOutboundActions = [] ∧ policy.allowedMentionTypes = [] ∧
    policy.allowedAdapterResolves = [] ∧ policy.actionsAllowed = false ∧
    policy.mentionsAllowed = false ∧ policy.materialPackOptions = [] ∧
    policy.businessScopeHash = hashes.businessScopeHashV1 .unscoped ∧
    ledgerSummary.recentExecutedCount = 0 ∧ ledgerSummary.recentArtifactTypes = [] ∧
    ledgerSummary.hasRecentExecutedActions = false

/-- The draft that the grants of the request make. -/
def policyDraft : PolicyManifestV2 :=
  let allowedReadCapabilities := sceneReadCapabilities request
  let internalCompanyKnowledgeEnabled : Bool := .queryInternalCompanyInfo ∈ allowedReadCapabilities
  let eligibleCapabilities := eligibleManifestRefs request internalCompanyKnowledgeEnabled
  let allowedOutboundActions := if request.scene = .direct then []
    else canonicalSet outboundActionOrder request.grants.outboundActions
  let allowedMentionTypes := if request.scene = .direct then []
    else canonicalSet [.sales] request.grants.mentionTypes
  { policyId := ""
    scene := request.scene
    allowedReplyModes := policyReplyModes eligibleCapabilities
    eligibleCapabilities
    allowedReadCapabilities
    allowedOutboundActions
    allowedMentionTypes
    allowedAdapterResolves := allowedResolves eligibleCapabilities request.scene
    internalCompanyKnowledgeEnabled
    actionsAllowed := !allowedOutboundActions.isEmpty
    mentionsAllowed := !allowedMentionTypes.isEmpty
    materialPackOptions := canonicalMaterialOptions request
    businessScopeHash := authority.businessScopeHash }

/-- `compile_policy_manifest_v2`. -/
def compilePolicyManifestV2 (ledgerSummary : PolicyLedgerSummaryV1) :
    Except PolicyException PolicyManifestV2 :=
  if request.businessScope ≠ authority.scope then
    .error (.policyManifestCompilationError "business_scope_authority_mismatch")
  else
    let draft := policyDraft request authority
    if draft.scene = .direct ∧ ¬ withinDirectCeilings hashes draft ledgerSummary then
      .error .directPolicyCeilingError
    else .ok { draft with policyId := hashes.policyManifestIdV2 draft }

variable {request hashes authority} {policy : PolicyManifestV2}
  {ledgerSummary : PolicyLedgerSummaryV1}

/-- The policy is the draft of its request, with an id. -/
theorem compilePolicyManifestV2_ok
    (h : compilePolicyManifestV2 request hashes authority ledgerSummary = .ok policy) :
    ∃ policyId, policy = { policyDraft request authority with policyId } := by
  unfold compilePolicyManifestV2 at h
  dsimp only at h
  split_ifs at h
  cases h
  exact ⟨_, rfl⟩

/-! ## What compiled policies satisfy -/

/-- What a plan for the policy relies on. -/
structure PolicyManifestV2.Compiled (policy : PolicyManifestV2) : Prop where
  /-- A capability has one reference. -/
  nodup : (policy.eligibleCapabilities.map (·.manifestId)).Nodup
  /-- The resolve of an eligible capability is allowed. -/
  resolves : ∀ ref ∈ policy.eligibleCapabilities, ∀ resolveType,
    ref.manifestId.runtimeCapability.bind (·.resolveType) = some resolveType →
      resolveType ∈ policy.allowedAdapterResolves
  /-- The direct scene has neither resolves nor actions. -/
  direct : policy.scene = .direct →
    policy.allowedAdapterResolves = [] ∧ policy.allowedOutboundActions = []
  /-- The general capabilities are always there, with their modes. -/
  general : ∀ manifestId ∈ [.generalClarification, .generalAbstention, .generalRefusal,
    .generalSmalltalk, .generalNoReply],
      ⟨manifestId, .v20260718n1⟩ ∈ policy.eligibleCapabilities
  modes : ∀ mode ∈ [.clarification, .handoff, .noReply, .refusal, .smalltalk, .unable],
    mode ∈ policy.allowedReplyModes

theorem resolveRequirement_eq (manifestId : CapabilityManifestIdV2) :
    manifestId.runtimeCapability.bind (·.resolveType) = manifestId.resolveRequirement := by
  cases manifestId <;> rfl

theorem mem_eligibleManifestRefs {enabled : Bool} {ref : ManifestRefV1} :
    ref ∈ eligibleManifestRefs request enabled ↔
      manifestEligible request enabled ref.manifestId = true := by
  simp only [eligibleManifestRefs, List.mem_map, List.mem_filter]
  constructor
  · rintro ⟨manifest, ⟨_, h⟩, rfl⟩
    exact h
  · intro h
    have hfound : findManifest ref.manifestId = _ := findManifest_eq ref.manifestId
    refine ⟨_, ⟨List.mem_of_find?_eq_some hfound, h⟩, ?_⟩
    rw [ManifestVersionV2.eq .v20260718n1 ref.manifestVersion]

theorem nodup_eligibleManifestRefs {enabled : Bool} :
    ((eligibleManifestRefs request enabled).map (·.manifestId)).Nodup := by
  have hall : (capabilityManifestRegistry.map (·.manifestId)).Nodup := by decide
  rw [eligibleManifestRefs, List.map_map]
  exact hall.sublist (List.filter_sublist.map _)

/-- Capabilities that group chats only have are not eligible in the direct scene. -/
theorem resolveRequirement_of_direct (hscene : request.scene = .direct) {enabled : Bool}
    {manifestId : CapabilityManifestIdV2} (h : manifestEligible request enabled manifestId = true) :
    manifestId.resolveRequirement = none := by
  have hnot : manifestId ∉ groupOnlyManifests := by
    simpa [manifestEligible, hscene] using (Bool.and_eq_true_iff.mp h).2
  revert hnot
  cases manifestId <;> decide

theorem mem_adapterResolveOrder (resolveType : AdapterResolveType) :
    resolveType ∈ adapterResolveOrder := by
  cases resolveType <;> decide

/-- Every compiled policy is one that plans can rely on. -/
theorem PolicyManifestV2.Compiled.of_compile
    (h : compilePolicyManifestV2 request hashes authority ledgerSummary = .ok policy) :
    policy.Compiled := by
  obtain ⟨policyId, rfl⟩ := compilePolicyManifestV2_ok h
  constructor
  case nodup => exact nodup_eligibleManifestRefs
  case resolves =>
    intro ref href resolveType hresolve
    have heligible := mem_eligibleManifestRefs.mp href
    rw [resolveRequirement_eq] at hresolve
    change _ ∈ allowedResolves (eligibleManifestRefs request _) request.scene
    unfold allowedResolves
    split_ifs with hscene
    · rw [resolveRequirement_of_direct hscene heligible] at hresolve
      cases hresolve
    · exact mem_canonicalSet.mpr ⟨mem_adapterResolveOrder resolveType,
        List.mem_filterMap.mpr ⟨ref, href, hresolve⟩⟩
  case direct =>
    intro hscene
    have hscene : request.scene = .direct := hscene
    simp [policyDraft, allowedResolves, hscene]
  case general =>
    intro manifestId hmem
    refine mem_eligibleManifestRefs.mpr ?_
    simp only [List.mem_cons, List.not_mem_nil, or_false] at hmem
    rcases hmem with rfl | rfl | rfl | rfl | rfl <;>
      simp [manifestEligible, CapabilityManifestIdV2.manifestReadRequirement,
        CapabilityManifestIdV2.manifestActionRequirement, artifactIsMissing, groupOnlyManifests]
  case modes =>
    intro mode hmem
    refine mem_canonicalSet.mpr ⟨?_, ?_⟩
    · revert mode
      decide
    · simp only [List.mem_append]
      exact .inl (.inl hmem)

end MarketSupport
