import MarketSupport.Identity.Request
import MarketSupport.Library.Except
import MarketSupport.Library.FirstByKey
import MarketSupport.Planning.PlanSpec
import MarketSupport.Rendering.ResponseIds

/-!
# The compiler of plans

`finalize_execution_plan_v2` turns what the planner returned, or what the runtime made without
it, into an execution plan within the policy.

## Main results

* `finalizeExecutionPlanV2_eq_ok` — when the compiler returns a plan, and which.
* `finalizeExecutionPlanV2_unit` — the plan of one eligible unit.
-/

namespace MarketSupport

open Library

/-! ## Sources -/

/-- A unit that the runtime makes; also the arguments of `_finalize_execution_unit_v2` that do
not come with the turn. -/
structure DeterministicPlanUnitV1 where
  unitId : String
  manifestId : CapabilityManifestIdV2
  answerabilityPolicy : AnswerabilityPolicy
  materialPackOption : Option String := none
  evidenceQuery : Option String := none
  ambiguitySlots : List String := []
  deriving DecidableEq, Repr

structure DeterministicPlanOriginInputV1 where
  userNeed : String
  units : List DeterministicPlanUnitV1
  complianceReasonCode : String := "unknown"
  deriving DecidableEq, Repr

/-- `PlanSpec | DeterministicPlanOriginInputV1`. -/
inductive PlanSourceV1 where
  | planSpec (spec : PlanSpec)
  | deterministic (source : DeterministicPlanOriginInputV1)
  deriving DecidableEq, Repr

inductive PlanningException where
  | executionPlanCompilationError (code : String)
  | validationError
  deriving DecidableEq, Repr

/-! ## Derivations -/

/-- `RUNTIME_CAPABILITY_BY_MANIFEST_ID`. -/
def CapabilityManifestIdV2.runtimeCapability : CapabilityManifestIdV2 → Option CapabilityName
  | .materialPackSend => some .materialPack
  | .weeklyReportSend | .weeklyReportProductList => some .weeklyReport
  | .monthlyReportSend | .monthlyReportProductList => some .monthlyReport
  | .salesHandoff => some .salesMention
  | .answerInternalCompanyKnowledge => some .documentContext
  | _ => none

/-- `capability_by_name(name).artifact_kind`. -/
def CapabilityName.artifactKind : CapabilityName → ArtifactKind
  | .materialPack => .materialPack
  | .weeklyReport => .weeklyReport
  | .monthlyReport => .monthlyReport
  | .salesMention => .humanSupport
  | .documentContext => .knowledgeAnswer

/-- `capability_by_name(name).resolve_type`. -/
def CapabilityName.resolveType : CapabilityName → Option AdapterResolveType
  | .materialPack => some .materialPack
  | .weeklyReport => some .weeklyReport
  | .monthlyReport => some .monthlyReport
  | .salesMention => some .salesMention
  | .documentContext => none

/-- `capability_by_name(name).outbound_action_type`. -/
def CapabilityName.outboundActionType : CapabilityName → Option OutboundActionType
  | .materialPack => some .sendMaterialPack
  | .weeklyReport => some .sendWeeklyReport
  | .monthlyReport => some .sendMonthlyReport
  | .salesMention | .documentContext => none

/-- The option of a capability that supports material pack options. -/
def CapabilityName.materialPackOption (name : CapabilityName) (option : Option String) :
    Option String :=
  if name = .materialPack then option else none

def artifactKindForAnswerability : AnswerabilityPolicy → ArtifactKind
  | .answer => .knowledgeAnswer
  | .send => .multiAction
  | .clarify | .abstain => .unclear
  | .refuse => .refusal
  | .handoff => .humanSupport
  | .smalltalk | .noReply => .smalltalk

def responseModeForAnswerabilityPolicies (policies : List AnswerabilityPolicy) : ResponseMode :=
  if .refuse ∈ policies then .refusal
  else if .send ∈ policies then .action
  else if .clarify ∈ policies then .clarification
  else if .answer ∈ policies then .knowledgeAnswer
  else if .handoff ∈ policies then .handoff
  else if .smalltalk ∈ policies then .smalltalk
  else if .noReply ∈ policies then .noReply
  else .unable

def supportedClarificationSlots (values : List String) : List String :=
  values.foldl (fun output value =>
    if strip value ∈ ["artifact", "material_pack_option"] ∧ strip value ∉ output then
      output ++ [strip value]
    else output) []

/-! ## Units -/

def planningError {α : Type} (code : String) : Except PlanningException α :=
  .error (.executionPlanCompilationError code)

@[simp] theorem planningError_ne_ok {α : Type} {code : String} {a : α} :
    planningError code ≠ .ok a := nofun

/-- The scope of a unit that has no scope of the planner. -/
def unplannedScope (authority : BusinessScopeAuthorityV1) (materialPackOption : Option String) :
    ExecutionDomainScopeV2 :=
  match authority.scope with
  | .distribution scope => .distribution {
      businessScopeRef := authority.businessScopeRef
      channelKind := scope.channelType
      materialPackOption
      productIds := []
      timeRange := none }
  | .unscoped => .unscoped

/-- `_execution_scope`. -/
def executionScope (authority : BusinessScopeAuthorityV1) (planScope : Option PlanDomainScopeV2)
    (materialPackOption : Option String) : Except PlanningException ExecutionDomainScopeV2 :=
  match planScope with
  | none => .ok (unplannedScope authority materialPackOption)
  | some planScope => match authority.scope, planScope with
    | .distribution scope, .distribution planned =>
      if planned.businessScopeRef ≠ authority.businessScopeRef then
        planningError "plan_spec_business_scope_mismatch"
      else .ok (.distribution {
        businessScopeRef := authority.businessScopeRef
        channelKind := scope.channelType
        materialPackOption
        productIds := planned.productIds
        timeRange := none })
    | .unscoped, .unscoped => .ok .unscoped
    | .distribution _, .unscoped | .unscoped, .distribution _ =>
      planningError "plan_spec_business_scope_mismatch"

variable (policy : PolicyManifestV2) (authority : BusinessScopeAuthorityV1)

/-- `_action_intents`. -/
def unitActionIntents (unit : DeterministicPlanUnitV1) :
    Except PlanningException (List CanonicalActionIntentV1) :=
  match unit.manifestId.runtimeCapability with
  | none => .ok []
  | some name => match name.outboundActionType with
    | none => .ok []
    | some actionType =>
      if unit.answerabilityPolicy ≠ .send then .ok []
      else if actionType ∉ policy.allowedOutboundActions then
        planningError "execution_plan_action_not_allowed"
      else .ok [⟨actionType, name, name.materialPackOption unit.materialPackOption⟩]

/-- `_sales_fallback_is_allowed`. -/
def salesFallbackIsAllowed : Bool :=
  .salesMention ∈ policy.allowedAdapterResolves ∧ .sales ∈ policy.allowedMentionTypes

/-- The resolve of the runtime capability of a unit. -/
def capabilityResolves (unit : DeterministicPlanUnitV1) : List CanonicalAdapterResolveV1 :=
  match unit.manifestId.runtimeCapability with
  | none => []
  | some name => name.resolveType.toList.map fun resolveType =>
    ⟨resolveType, name.materialPackOption unit.materialPackOption, none⟩

/-- The resolves of a unit. -/
def unitAdapterResolves (unit : DeterministicPlanUnitV1) : List CanonicalAdapterResolveV1 :=
  if unit.answerabilityPolicy = .send ∧ salesFallbackIsAllowed policy then
    capabilityResolves unit ++ [⟨.salesMention, none, none⟩]
  else capabilityResolves unit

/-- What the constructor of a scope checks. -/
def scopeWithinBounds : ExecutionDomainScopeV2 → Bool
  | .unscoped => true
  | .distribution scope => scope.materialPackOption.all (·.length ≤ 80) &&
      decide (scope.productIds.length ≤ 1000) && decide scope.productIds.Nodup &&
      scope.productIds.all fun productId => 1 ≤ productId.length && productId.length ≤ 160

/-- What the constructors of a unit and of its parts check. -/
def unitWithinBounds (unit : ExecutionPlanUnitV2) : Bool :=
  decide (1 ≤ unit.unitId.length ∧ unit.unitId.length ≤ 120) &&
    unit.evidenceQuery.all (·.length ≤ 200) && scopeWithinBounds unit.scope &&
    (unit.adapterResolves.all fun resolve => resolve.materialPackOption.all (·.length ≤ 80)) &&
    unit.actionIntents.all fun intent => intent.materialPackOption.all (·.length ≤ 80)

/-- The unit of a reference, with its scope and its intents. -/
def executionUnit (unit : DeterministicPlanUnitV1) (ref : ManifestRefV1)
    (scope : ExecutionDomainScopeV2) (actionIntents : List CanonicalActionIntentV1) :
    ExecutionPlanUnitV2 where
  unitId := unit.unitId
  manifestRef := ref
  answerabilityPolicy := unit.answerabilityPolicy
  artifactKind := match unit.manifestId.runtimeCapability with
    | some name => name.artifactKind
    | none => artifactKindForAnswerability unit.answerabilityPolicy
  runtimeCapabilities := unit.manifestId.runtimeCapability.toList
  answerCapabilities :=
    if unit.answerabilityPolicy = .answer then unit.manifestId.runtimeCapability.toList else []
  adapterResolves := unitAdapterResolves policy unit
  actionIntents
  scope
  evidenceQuery := unit.evidenceQuery
  ambiguitySlots := supportedClarificationSlots unit.ambiguitySlots

/-- `_finalize_execution_unit_v2`. -/
def finalizeExecutionUnitV2 (unit : DeterministicPlanUnitV1)
    (planScope : Option PlanDomainScopeV2) : Except PlanningException ExecutionPlanUnitV2 :=
  match policy.eligibleCapabilities.find? (·.manifestId = unit.manifestId) with
  | none => planningError "plan_spec_capability_not_policy_eligible"
  | some ref => match findManifest unit.manifestId with
    | none => planningError "plan_spec_manifest_ref_unknown"
    | some manifest =>
      if manifest.manifestVersion ≠ ref.manifestVersion then
        planningError "plan_spec_manifest_ref_unknown"
      else do
        let scope ← executionScope authority planScope unit.materialPackOption
        let actionIntents ← unitActionIntents policy unit
        if unit.answerabilityPolicy = .send ∧ policy.scene = .direct then
          planningError "execution_plan_direct_send_forbidden"
        else
          let finalized := executionUnit policy unit ref scope actionIntents
          if unitWithinBounds finalized then .ok finalized else .error .validationError

def finalizeDeterministicUnitV2 (unit : DeterministicPlanUnitV1) :
    Except PlanningException ExecutionPlanUnitV2 :=
  finalizeExecutionUnitV2 policy authority unit none

/-! ### Units of a plan spec -/

/-- `_single_unit_evidence_query`. -/
def singleUnitEvidenceQuery (unit : PlanUnit) : Except PlanningException (Option String) :=
  match unit.steps.filterMap (·.evidenceQuery) with
  | [] => .ok none
  | [query] => .ok (some query)
  | _ => planningError "plan_spec_multiple_evidence_queries"

/-- `_plan_scope_material_pack_option`. -/
def PlanDomainScopeV2.materialPackOption : PlanDomainScopeV2 → Option String
  | .distribution scope => scope.materialPackOption
  | .unscoped => none

/-- The arguments that a unit of a plan spec has for `_finalize_execution_unit_v2`. -/
def PlanUnit.arguments (unit : PlanUnit) (manifestId : CapabilityManifestIdV2)
    (evidenceQuery : Option String) : DeterministicPlanUnitV1 where
  unitId := unit.unitId
  manifestId
  answerabilityPolicy := unit.answerabilityPolicy
  materialPackOption := unit.domainScope.materialPackOption
  evidenceQuery
  ambiguitySlots := supportedClarificationSlots (unit.riskFlags ++ unit.abstentionCases)

def finalizePlanSpecUnitV2 (unit : PlanUnit) : Except PlanningException ExecutionPlanUnitV2 := do
  let evidenceQuery ← singleUnitEvidenceQuery unit
  if unit.selectedCapabilityId ∈ ["weekly_report.product_list", "monthly_report.product_list"] ∧
      strip (evidenceQuery.getD "") ≠ "" then
    planningError "product_list_evidence_query_forbidden"
  else match manifestIdOfText unit.selectedCapabilityId with
    | none => planningError "plan_spec_capability_not_policy_eligible"
    | some manifestId =>
      let arguments := unit.arguments manifestId evidenceQuery
      finalizeExecutionUnitV2 policy authority arguments (some unit.domainScope)

/-! ## Plans -/

/-- `_COMPLIANCE_REASON_CODE_BY_VALUE`. -/
def complianceReasonCodes : List String :=
  ["compliant_product_request", "customer_service_request", "expected_or_target_return",
    "principal_or_risk_guarantee", "peer_or_competitor_comparison", "private_contact_request",
    "contract_or_restricted_document", "restricted_internal_document", "fee_waiver_request",
    "qualified_investor_or_threshold", "unrelated_request", "unknown"]

def complianceReasonCodeForPlanSpec (spec : PlanSpec) : String :=
  if spec.planUnits.all (·.answerabilityPolicy ≠ .refuse) then "compliant_product_request"
  else ((spec.riskFlags ++ spec.planUnits.flatMap (·.riskFlags)).find?
    (· ∈ complianceReasonCodes)).getD "unknown"

namespace PlanSourceV1

def isPlanSpec : PlanSourceV1 → Bool
  | .planSpec _ => true
  | .deterministic _ => false

def userNeed : PlanSourceV1 → String
  | .planSpec spec => spec.userIntentSummary
  | .deterministic source => source.userNeed

def answerabilityPolicies : PlanSourceV1 → List AnswerabilityPolicy
  | .planSpec spec => spec.planUnits.map (·.answerabilityPolicy)
  | .deterministic source => source.units.map (·.answerabilityPolicy)

def complianceReasonCode : PlanSourceV1 → String
  | .planSpec spec => complianceReasonCodeForPlanSpec spec
  | .deterministic source => source.complianceReasonCode

def finalizeUnits : PlanSourceV1 → Except PlanningException (List ExecutionPlanUnitV2)
  | .planSpec spec => spec.planUnits.mapM (finalizePlanSpecUnitV2 policy authority)
  | .deterministic source => source.units.mapM (finalizeDeterministicUnitV2 policy authority)

end PlanSourceV1

variable (encoding : PlanEncoding)

instance instDecidableChecked (plan : ExecutionPlanV2) : Decidable (plan.Checked encoding) :=
  decidable_of_iff
    ((1 ≤ plan.userNeed.length ∧ plan.userNeed.length ≤ 500) ∧
      (1 ≤ plan.units.length ∧ plan.units.length ≤ 4) ∧ (plan.units.map (·.unitId)).Nodup ∧
      plan.selectedManifestRefs = selectedRefsV2 plan.units ∧
      plan.adapterResolves = unitResolvesV2 plan.units ∧ plan.adapterResolves.length ≤ 8 ∧
      plan.actionIntents = plan.units.flatMap (·.actionIntents) ∧ plan.actionIntents.length ≤ 3 ∧
      (plan.hasPlanSpec = true ↔ plan.origin = .planner) ∧
      plan.executionPlanId = encoding.executionPlanIdV2 plan)
    ⟨fun ⟨a, b, c, d, e, f, g, h, i, j⟩ => ⟨a, b, c, d, e, f, g, h, i, j⟩,
      fun ⟨a, b, c, d, e, f, g, h, i, j⟩ => ⟨a, b, c, d, e, f, g, h, i, j⟩⟩

/-- The plan of the units, with the id of its draft. -/
def executionPlan (source : PlanSourceV1) (origin : ExecutionPlanOriginV1)
    (units : List ExecutionPlanUnitV2) : ExecutionPlanV2 :=
  let draft : ExecutionPlanV2 := {
    executionPlanId := ""
    origin
    userNeed := source.userNeed
    responseMode := responseModeForAnswerabilityPolicies source.answerabilityPolicies
    complianceReasonCode := source.complianceReasonCode
    units
    selectedManifestRefs := selectedRefsV2 units
    adapterResolves := unitResolvesV2 units
    actionIntents := units.flatMap (·.actionIntents)
    hasPlanSpec := source.isPlanSpec }
  { draft with executionPlanId := encoding.executionPlanIdV2 draft }

def finalizeExecutionPlanV2 (source : PlanSourceV1) (origin : ExecutionPlanOriginV1) :
    Except PlanningException ExecutionPlanV2 :=
  if decide (origin = .planner) ≠ source.isPlanSpec then
    planningError "execution_plan_v2_origin_source_mismatch"
  else do
    let units ← source.finalizeUnits policy authority
    let plan := executionPlan encoding source origin units
    if plan.Checked encoding then .ok plan else .error .validationError

/-! ## What the compiler returns -/

variable {policy authority encoding} {unit : DeterministicPlanUnitV1} {ref : ManifestRefV1}

theorem finalizeExecutionUnitV2_eq_ok {planScope : Option PlanDomainScopeV2}
    {finalized : ExecutionPlanUnitV2} :
    finalizeExecutionUnitV2 policy authority unit planScope = .ok finalized ↔
      ∃ ref scope actionIntents,
        policy.eligibleCapabilities.find? (·.manifestId = unit.manifestId) = some ref ∧
        executionScope authority planScope unit.materialPackOption = .ok scope ∧
        unitActionIntents policy unit = .ok actionIntents ∧
        ¬ (unit.answerabilityPolicy = .send ∧ policy.scene = .direct) ∧
        finalized = executionUnit policy unit ref scope actionIntents ∧
        unitWithinBounds finalized = true := by
  unfold finalizeExecutionUnitV2
  cases href : policy.eligibleCapabilities.find? (·.manifestId = unit.manifestId) with
  | none => simp
  | some ref =>
    have hversion := ManifestVersionV2.eq .v20260718n1 ref.manifestVersion
    simp only [findManifest_eq, hversion, ne_eq, not_true_eq_false, ↓reduceIte, bind_eq_ok_iff]
    constructor
    · rintro ⟨scope, hscope, actionIntents, hintents, h⟩
      split_ifs at h with hdirect hbounds
      · exact absurd h planningError_ne_ok
      · cases h
        exact ⟨ref, scope, actionIntents, rfl, hscope, hintents, hdirect, rfl, hbounds⟩
    · rintro ⟨_, scope, actionIntents, ⟨⟩, hscope, hintents, hdirect, rfl, hbounds⟩
      exact ⟨scope, hscope, actionIntents, hintents, by rw [if_neg hdirect, if_pos hbounds]⟩

theorem finalizeExecutionPlanV2_eq_ok {source : PlanSourceV1} {origin : ExecutionPlanOriginV1}
    {plan : ExecutionPlanV2} :
    finalizeExecutionPlanV2 policy authority encoding source origin = .ok plan ↔
      decide (origin = .planner) = source.isPlanSpec ∧
      ∃ units, source.finalizeUnits policy authority = .ok units ∧
        plan = executionPlan encoding source origin units ∧ plan.Checked encoding := by
  unfold finalizeExecutionPlanV2
  by_cases horigin : decide (origin = .planner) = source.isPlanSpec
  · simp only [horigin, ne_eq, not_true_eq_false, ↓reduceIte, bind_eq_ok_iff, true_and]
    refine exists_congr fun units => and_congr_right fun _ => ?_
    split_ifs with hchecked
    · exact ⟨fun h => by cases h; exact ⟨rfl, hchecked⟩, fun h => by rw [h.1]⟩
    · exact ⟨nofun, fun h => absurd (h.1 ▸ h.2) hchecked⟩
  · simp [horigin]

theorem finalizePlanSpecUnitV2_eq_ok {planUnit : PlanUnit} {finalized : ExecutionPlanUnitV2}
    (h : finalizePlanSpecUnitV2 policy authority planUnit = .ok finalized) :
    ∃ manifestId evidenceQuery, manifestIdOfText planUnit.selectedCapabilityId = some manifestId ∧
      finalizeExecutionUnitV2 policy authority (planUnit.arguments manifestId evidenceQuery)
        (some planUnit.domainScope) = .ok finalized := by
  obtain ⟨evidenceQuery, _, h⟩ := bind_eq_ok_iff.mp h
  split_ifs at h
  · exact absurd h planningError_ne_ok
  split at h
  · exact absurd h planningError_ne_ok
  · next manifestId hid => exact ⟨manifestId, evidenceQuery, hid, h⟩

/-! ## Units and their sources -/

/-- The capabilities that the units of a source select, with their answerabilities. -/
def PlanSourceV1.capabilities : PlanSourceV1 → List (String × AnswerabilityPolicy)
  | .planSpec spec => spec.planUnits.map fun unit =>
      (unit.selectedCapabilityId, unit.answerabilityPolicy)
  | .deterministic source => source.units.map fun unit =>
      (unit.manifestId.text, unit.answerabilityPolicy)

/-- The capability that a finalized unit has. -/
def ExecutionPlanUnitV2.capability (unit : ExecutionPlanUnitV2) : String × AnswerabilityPolicy :=
  (unit.manifestRef.manifestId.text, unit.answerabilityPolicy)

theorem capability_finalized {planScope : Option PlanDomainScopeV2}
    {finalized : ExecutionPlanUnitV2}
    (h : finalizeExecutionUnitV2 policy authority unit planScope = .ok finalized) :
    finalized.capability = (unit.manifestId.text, unit.answerabilityPolicy) := by
  obtain ⟨ref, scope, actionIntents, href, _, _, _, rfl, _⟩ := finalizeExecutionUnitV2_eq_ok.mp h
  have hid : ref.manifestId = unit.manifestId := by simpa using List.find?_some href
  simp [ExecutionPlanUnitV2.capability, executionUnit, hid]

/-- The units have the capabilities of their source, in its order. -/
theorem capabilities_finalizeUnits {source : PlanSourceV1} {units : List ExecutionPlanUnitV2}
    (h : source.finalizeUnits policy authority = .ok units) :
    units.map (·.capability) = source.capabilities := by
  cases source with
  | planSpec spec =>
    refine map_of_mapM h fun planUnit finalized hunit => ?_
    obtain ⟨manifestId, evidenceQuery, hid, hunit⟩ := finalizePlanSpecUnitV2_eq_ok hunit
    rw [capability_finalized hunit, PlanUnit.arguments, text_of_manifestIdOfText hid]
  | deterministic source => exact map_of_mapM h fun unit finalized => capability_finalized

/-- Every unit of a plan is a finalized one. -/
theorem finalized_of_mem {source : PlanSourceV1} {units : List ExecutionPlanUnitV2}
    (h : source.finalizeUnits policy authority = .ok units) {finalized : ExecutionPlanUnitV2}
    (hmem : finalized ∈ units) : ∃ unit planScope,
      finalizeExecutionUnitV2 policy authority unit planScope = .ok finalized := by
  cases source with
  | planSpec spec =>
    obtain ⟨planUnit, _, hunit⟩ := exists_of_mem_mapM h hmem
    obtain ⟨manifestId, evidenceQuery, _, hunit⟩ := finalizePlanSpecUnitV2_eq_ok hunit
    exact ⟨_, _, hunit⟩
  | deterministic source =>
    obtain ⟨unit, _, hunit⟩ := exists_of_mem_mapM h hmem
    exact ⟨unit, none, hunit⟩

/-- The intents of a unit: one when the unit sends and its capability has an action. -/
theorem unitActionIntents_eq_ok {actionIntents : List CanonicalActionIntentV1}
    (h : unitActionIntents policy unit = .ok actionIntents) :
    (∀ intent ∈ actionIntents, intent.actionType ∈ policy.allowedOutboundActions) ∧
      (actionIntents ≠ [] ↔ unit.answerabilityPolicy = .send ∧
        (unit.manifestId.runtimeCapability.bind (·.outboundActionType)).isSome) := by
  unfold unitActionIntents at h
  cases hname : unit.manifestId.runtimeCapability with
  | none =>
    rw [hname] at h
    cases h
    simp
  | some name =>
    rw [hname] at h
    dsimp only at h
    cases haction : name.outboundActionType with
    | none =>
      rw [haction] at h
      cases h
      simp [haction]
    | some actionType =>
      rw [haction] at h
      dsimp only at h
      split_ifs at h with hsend hallowed
      · cases h
        simp [hsend]
      · cases h
        simpa [haction, not_not.mp hsend] using hallowed
      · exact absurd h planningError_ne_ok

/-- A unit whose capability has no action has no intents. -/
theorem unitActionIntents_of_eq_none
    (h : unit.manifestId.runtimeCapability.bind (·.outboundActionType) = none) :
    unitActionIntents policy unit = .ok [] := by
  unfold unitActionIntents
  cases hname : unit.manifestId.runtimeCapability with
  | none => rfl
  | some name =>
    rw [hname, Option.bind_some] at h
    simp only [h]

/-- A unit has intents when its action is allowed. -/
theorem exists_unitActionIntents {actionType : OutboundActionType}
    (h : unit.manifestId.runtimeCapability.bind (·.outboundActionType) = some actionType)
    (hallowed : actionType ∈ policy.allowedOutboundActions) :
    ∃ actionIntents, unitActionIntents policy unit = .ok actionIntents := by
  unfold unitActionIntents
  obtain ⟨name, hname, haction⟩ := Option.bind_eq_some_iff.mp h
  simp only [hname, haction]
  split_ifs
  · exact ⟨_, rfl⟩
  · exact ⟨_, rfl⟩

/-! ## Aggregates -/

theorem selectedRefsV2_eq (units : List ExecutionPlanUnitV2) :
    selectedRefsV2 units = firstByKey (·.manifestId) (units.map (·.manifestRef)) := by
  rw [firstByKey, List.foldl_map]
  rfl

theorem unitResolvesV2_eq (units : List ExecutionPlanUnitV2) :
    unitResolvesV2 units = firstByKey id (units.flatMap (·.adapterResolves)) := by
  have hstep : addFirst (id : CanonicalAdapterResolveV1 → _) = fun resolves resolve =>
      if resolve ∈ resolves then resolves else resolves ++ [resolve] := by
    funext resolves resolve
    simp [addFirst]
  rw [firstByKey, hstep]
  rfl

/-! ## Plans of one unit -/

/-- Plans of different origins have different ids. -/
structure PlanEncoding.Faithful (encoding : PlanEncoding) : Prop where
  origin : ∀ plan plan', encoding.executionPlanIdV2 plan = encoding.executionPlanIdV2 plan' →
    plan.origin = plan'.origin

/-- A unit without a query and an option. -/
structure DeterministicPlanUnitV1.Plain (unit : DeterministicPlanUnitV1) : Prop where
  unitId : 1 ≤ unit.unitId.length ∧ unit.unitId.length ≤ 120
  evidenceQuery : unit.evidenceQuery = none
  materialPackOption : unit.materialPackOption = none

theorem scopeWithinBounds_unplanned :
    scopeWithinBounds (unplannedScope authority none) = true := by
  unfold unplannedScope
  split <;> simp [scopeWithinBounds]

theorem length_capabilityResolves_le : (capabilityResolves unit).length ≤ 1 := by
  unfold capabilityResolves
  split
  · exact Nat.zero_le 1
  · next name _ => cases name <;> simp [CapabilityName.resolveType]

theorem length_unitAdapterResolves_le : (unitAdapterResolves policy unit).length ≤ 2 := by
  have hle : (capabilityResolves unit).length ≤ 1 := length_capabilityResolves_le
  unfold unitAdapterResolves
  split_ifs
  · rw [List.length_append, List.length_singleton]
    omega
  · omega

theorem option_of_mem_unitAdapterResolves (hoption : unit.materialPackOption = none)
    {resolve : CanonicalAdapterResolveV1} (h : resolve ∈ unitAdapterResolves policy unit) :
    resolve.materialPackOption = none := by
  have hcapability : ∀ resolve ∈ capabilityResolves unit, resolve.materialPackOption = none := by
    unfold capabilityResolves
    split
    · nofun
    · simp [hoption, CapabilityName.materialPackOption]
  unfold unitAdapterResolves at h
  split_ifs at h
  · obtain h | h := List.mem_append.mp h
    · exact hcapability resolve h
    · rw [List.mem_singleton.mp h]
  · exact hcapability resolve h

/-- The intents of a unit without an option. -/
theorem unitActionIntents_plain (hoption : unit.materialPackOption = none)
    {actionIntents : List CanonicalActionIntentV1}
    (h : unitActionIntents policy unit = .ok actionIntents) :
    actionIntents.length ≤ 1 ∧ ∀ intent ∈ actionIntents, intent.materialPackOption = none := by
  unfold unitActionIntents at h
  split at h
  · cases h
    simp
  split at h
  · cases h
    simp
  split_ifs at h
  · cases h
    simp
  · cases h
    simp [CapabilityName.materialPackOption, hoption]
  · exact absurd h planningError_ne_ok

/-- The unit of an eligible capability. -/
theorem finalizeDeterministicUnitV2_plain (plain : unit.Plain)
    (eligible : policy.eligibleCapabilities.find? (·.manifestId = unit.manifestId) = some ref)
    {actionIntents : List CanonicalActionIntentV1}
    (hintents : unitActionIntents policy unit = .ok actionIntents)
    (hscene : ¬ (unit.answerabilityPolicy = .send ∧ policy.scene = .direct)) :
    finalizeDeterministicUnitV2 policy authority unit =
      .ok (executionUnit policy unit ref (unplannedScope authority none) actionIntents) := by
  obtain ⟨hid, hquery, hoption⟩ := plain
  refine finalizeExecutionUnitV2_eq_ok.mpr
    ⟨ref, _, actionIntents, eligible, by rw [hoption]; rfl, hintents, hscene, rfl, ?_⟩
  have hresolves : ∀ resolve ∈ unitAdapterResolves policy unit, resolve.materialPackOption = none :=
    fun resolve h => option_of_mem_unitAdapterResolves hoption h
  have hactions := (unitActionIntents_plain hoption hintents).2
  simp only [unitWithinBounds, executionUnit, hid, hquery, Bool.and_eq_true, List.all_eq_true,
    scopeWithinBounds_unplanned, Option.all_none, and_self, decide_true, true_and]
  exact ⟨fun resolve h => by rw [hresolves resolve h]; rfl,
    fun intent h => by rw [hactions intent h]; rfl⟩

/-- The plan of one unit. -/
theorem finalizeExecutionPlanV2_unit (plain : unit.Plain)
    (eligible : policy.eligibleCapabilities.find? (·.manifestId = unit.manifestId) = some ref)
    {actionIntents : List CanonicalActionIntentV1}
    (hintents : unitActionIntents policy unit = .ok actionIntents)
    (hscene : ¬ (unit.answerabilityPolicy = .send ∧ policy.scene = .direct))
    {origin : ExecutionPlanOriginV1} (horigin : origin ≠ .planner) {userNeed reasonCode : String}
    (hneed : 1 ≤ userNeed.length ∧ userNeed.length ≤ 500) :
    let source := PlanSourceV1.deterministic ⟨userNeed, [unit], reasonCode⟩
    let plan := executionPlan encoding source origin
      [executionUnit policy unit ref (unplannedScope authority none) actionIntents]
    finalizeExecutionPlanV2 policy authority encoding source origin = .ok plan ∧
      plan.Checked encoding := by
  intro source plan
  have hunit : finalizeDeterministicUnitV2 policy authority unit = .ok _ :=
    finalizeDeterministicUnitV2_plain plain eligible hintents hscene
  have hresolves : plan.adapterResolves.length ≤ 8 := by
    have hle : (unitAdapterResolves policy unit).length ≤ 2 := length_unitAdapterResolves_le
    have hfirst : plan.adapterResolves.length ≤ _ :=
      (congrArg List.length (unitResolvesV2_eq plan.units)).trans_le length_firstByKey_le
    simp only [plan, executionPlan, List.flatMap_cons, List.flatMap_nil, List.append_nil] at hfirst
    exact hfirst.trans (hle.trans (by decide))
  have hactions : plan.actionIntents.length ≤ 3 := by
    have hle := (unitActionIntents_plain plain.materialPackOption hintents).1
    simp only [plan, executionPlan, List.flatMap_cons, List.flatMap_nil, List.append_nil]
    exact hle.trans (by decide)
  have hchecked : plan.Checked encoding := by
    constructor
    case userNeed => exact hneed
    case executionPlanId => rfl
    case planSpec => simp [plan, executionPlan, horigin, source, PlanSourceV1.isPlanSpec]
    case adapterResolves_bound => exact hresolves
    case actionIntents_bound => exact hactions
    all_goals simp [plan, executionPlan]
  refine ⟨finalizeExecutionPlanV2_eq_ok.mpr
    ⟨by simp [horigin, source, PlanSourceV1.isPlanSpec], _, ?_, rfl, hchecked⟩, hchecked⟩
  simp only [source, PlanSourceV1.finalizeUnits, List.mapM_cons, List.mapM_nil, hunit]
  rfl

/-! ### General capabilities -/

/-- A unit of a capability without evidence, resolves and actions. -/
structure DeterministicPlanUnitV1.General (unit : DeterministicPlanUnitV1) : Prop where
  capability : unit.manifestId.runtimeCapability = none
  notSend : unit.answerabilityPolicy ≠ .send
  unitId : 1 ≤ unit.unitId.length ∧ unit.unitId.length ≤ 120
  evidenceQuery : unit.evidenceQuery = none
  materialPackOption : unit.materialPackOption = none

theorem DeterministicPlanUnitV1.General.plain (general : unit.General) : unit.Plain :=
  ⟨general.unitId, general.evidenceQuery, general.materialPackOption⟩

theorem DeterministicPlanUnitV1.General.adapterResolves (general : unit.General) :
    unitAdapterResolves policy unit = [] := by
  simp [unitAdapterResolves, capabilityResolves, general.capability, general.notSend]

/-- The plan of one general capability. -/
theorem finalizeExecutionPlanV2_single (general : unit.General)
    (eligible : policy.eligibleCapabilities.find? (·.manifestId = unit.manifestId) = some ref)
    {origin : ExecutionPlanOriginV1} (horigin : origin ≠ .planner) {userNeed reasonCode : String}
    (hneed : 1 ≤ userNeed.length ∧ userNeed.length ≤ 500) :
    let source := PlanSourceV1.deterministic ⟨userNeed, [unit], reasonCode⟩
    let plan := executionPlan encoding source origin
      [executionUnit policy unit ref (unplannedScope authority none) []]
    finalizeExecutionPlanV2 policy authority encoding source origin = .ok plan ∧
      plan.Checked encoding := by
  have hintents : unitActionIntents policy unit = .ok [] :=
    unitActionIntents_of_eq_none (by rw [general.capability]; rfl)
  exact finalizeExecutionPlanV2_unit general.plain eligible hintents
    (fun h => general.notSend h.1) horigin hneed

/-- The plan of one general capability is within a policy that has the capability and the mode. -/
theorem validateExecutionPlanV2_single (general : unit.General)
    (eligible : ref ∈ policy.eligibleCapabilities) {origin : ExecutionPlanOriginV1}
    {userNeed reasonCode : String} {scope : ExecutionDomainScopeV2}
    (mode : responseModeForAnswerabilityPolicies [unit.answerabilityPolicy] ∈
      policy.allowedReplyModes) :
    validateExecutionPlanV2 (executionPlan encoding (.deterministic ⟨userNeed, [unit], reasonCode⟩)
      origin [executionUnit policy unit ref scope []]) policy = [] := by
  have hresolves : (executionUnit policy unit ref scope []).adapterResolves = [] :=
    general.adapterResolves
  have hissues : unitIssues policy (executionUnit policy unit ref scope []) = [] := by
    simp only [unitIssues, hresolves]
    simp [executionUnit, eligible]
  simp [validateExecutionPlanV2, executionPlan, PlanSourceV1.answerabilityPolicies, mode, hissues]

end MarketSupport
