import MarketSupport.Policy.Compiler

/-!
# The authority of plans

What a plan may do comes from its policy: the compiler of plans and the validator agree on it.

## Main results

* `finalizeExecutionPlanV2_authorized` — a plan is within the policy that it was compiled for.
* `intents_required_iff` — when the manifests of a plan require its intents.
-/

namespace MarketSupport

open Library

section Plans

variable {policy : PolicyManifestV2} {authority : BusinessScopeAuthorityV1}
  {encoding : PlanEncoding} {source : PlanSourceV1} {origin : ExecutionPlanOriginV1}
  {plan : ExecutionPlanV2}

/-! ## Aggregates -/

/-- The lists of a plan are those of its units, in the order of the units. -/
structure ExecutionPlanV2.Aggregated (plan : ExecutionPlanV2) : Prop where
  selectedManifestRefs :
    plan.selectedManifestRefs = (plan.units.map (·.manifestRef)).eraseDups
  nodup_selectedManifestRefs : (plan.selectedManifestRefs.map (·.manifestId)).Nodup
  adapterResolves : plan.adapterResolves = (plan.units.flatMap (·.adapterResolves)).eraseDups
  nodup_adapterResolves : plan.adapterResolves.Nodup
  actionIntents : plan.actionIntents = plan.units.flatMap (·.actionIntents)

theorem ManifestRefV1.manifestId_injective : Function.Injective ManifestRefV1.manifestId := by
  rintro ⟨manifestId, version⟩ ⟨_, version'⟩ rfl
  rw [ManifestVersionV2.eq version version']

/-- The constructor of plans makes sure of the aggregates. -/
theorem ExecutionPlanV2.Checked.aggregated (checked : plan.Checked encoding) :
    plan.Aggregated where
  selectedManifestRefs := by
    rw [checked.selectedManifestRefs, selectedRefsV2_eq,
      firstByKey_eq_eraseDups ManifestRefV1.manifestId_injective]
  nodup_selectedManifestRefs := by
    rw [checked.selectedManifestRefs, selectedRefsV2_eq]
    exact nodup_firstByKey
  adapterResolves := by
    rw [checked.adapterResolves, unitResolvesV2_eq,
      firstByKey_eq_eraseDups Function.injective_id]
  nodup_adapterResolves := by
    rw [checked.adapterResolves, unitResolvesV2_eq, ← List.map_id (firstByKey _ _)]
    exact nodup_firstByKey
  actionIntents := checked.actionIntents

/-! ## Units within a policy -/

/-- What a unit may be, resolve and send is in the policy. -/
structure ExecutionPlanUnitV2.Authorized (policy : PolicyManifestV2)
    (unit : ExecutionPlanUnitV2) : Prop where
  manifestRef : unit.manifestRef ∈ policy.eligibleCapabilities
  adapterResolves : ∀ resolve ∈ unit.adapterResolves,
    resolve.resolveType ∈ policy.allowedAdapterResolves
  actionIntents : ∀ intent ∈ unit.actionIntents,
    intent.actionType ∈ policy.allowedOutboundActions

/-- The validator has no issue with such a unit. -/
theorem unitIssues_eq_nil_iff {unit : ExecutionPlanUnitV2} :
    unitIssues policy unit = [] ↔ unit.Authorized policy := by
  simp only [unitIssues, List.append_eq_nil_iff, List.map_eq_nil_iff, List.filter_eq_nil_iff,
    decide_eq_true_eq, not_not]
  constructor
  · rintro ⟨⟨href, hresolves⟩, hintents⟩
    exact ⟨by_contra fun hnot => by simp [hnot] at href, hresolves, hintents⟩
  · rintro ⟨href, hresolves, hintents⟩
    exact ⟨⟨if_pos href, hresolves⟩, hintents⟩

theorem capabilityResolves_authorized (compiled : policy.Compiled) {unit : DeterministicPlanUnitV1}
    {ref : ManifestRefV1} (href : ref ∈ policy.eligibleCapabilities)
    (hid : ref.manifestId = unit.manifestId) {resolve : CanonicalAdapterResolveV1}
    (h : resolve ∈ capabilityResolves unit) :
    resolve.resolveType ∈ policy.allowedAdapterResolves := by
  unfold capabilityResolves at h
  split at h
  · cases h
  · next name hname =>
    obtain ⟨resolveType, htype, rfl⟩ := List.mem_map.mp h
    refine compiled.resolves ref href resolveType ?_
    rw [hid, hname]
    exact Option.mem_toList.mp htype

/-- A finalized unit is within the policy. -/
theorem finalized_authorized (compiled : policy.Compiled) {unit : DeterministicPlanUnitV1}
    {planScope : Option PlanDomainScopeV2} {finalized : ExecutionPlanUnitV2}
    (h : finalizeExecutionUnitV2 policy authority unit planScope = .ok finalized) :
    finalized.Authorized policy := by
  obtain ⟨ref, scope, actionIntents, href, _, hintents, _, rfl, _⟩ :=
    finalizeExecutionUnitV2_eq_ok.mp h
  have hid : ref.manifestId = unit.manifestId := by simpa using List.find?_some href
  have hmem : ref ∈ policy.eligibleCapabilities := List.mem_of_find?_eq_some href
  refine ⟨hmem, fun resolve hresolve => ?_, (unitActionIntents_eq_ok hintents).1⟩
  change resolve ∈ unitAdapterResolves policy unit at hresolve
  unfold unitAdapterResolves at hresolve
  split_ifs at hresolve with hfallback
  · obtain hresolve | hsales := List.mem_append.mp hresolve
    · exact capabilityResolves_authorized compiled hmem hid hresolve
    · obtain rfl := List.mem_singleton.mp hsales
      exact (of_decide_eq_true hfallback.2).1
  · exact capabilityResolves_authorized compiled hmem hid hresolve

/-! ## Plans within a policy -/

/-- What a plan may do is in the policy. -/
structure ExecutionPlanV2.Authorized (policy : PolicyManifestV2) (plan : ExecutionPlanV2) :
    Prop where
  units : ∀ unit ∈ plan.units, unit.Authorized policy
  issues : ∀ code ∈ validateExecutionPlanV2 plan policy, code = .responseModeNotAllowed
  selectedManifestRefs : ∀ ref ∈ plan.selectedManifestRefs, ref ∈ policy.eligibleCapabilities
  adapterResolves : ∀ resolve ∈ plan.adapterResolves,
    resolve.resolveType ∈ policy.allowedAdapterResolves
  actionIntents : ∀ intent ∈ plan.actionIntents,
    intent.actionType ∈ policy.allowedOutboundActions
  direct : policy.scene = .direct → plan.adapterResolves = [] ∧ plan.actionIntents = []

/-- Units within a policy make a plan within it. -/
theorem ExecutionPlanV2.Aggregated.authorized (aggregated : plan.Aggregated)
    (compiled : policy.Compiled) (hunits : ∀ unit ∈ plan.units, unit.Authorized policy) :
    plan.Authorized policy := by
  have hrefs : ∀ ref ∈ plan.selectedManifestRefs, ref ∈ policy.eligibleCapabilities := by
    intro ref href
    rw [aggregated.selectedManifestRefs, List.mem_eraseDups] at href
    obtain ⟨unit, hunit, rfl⟩ := List.mem_map.mp href
    exact (hunits unit hunit).manifestRef
  have hresolves : ∀ resolve ∈ plan.adapterResolves,
      resolve.resolveType ∈ policy.allowedAdapterResolves := by
    intro resolve hresolve
    rw [aggregated.adapterResolves, List.mem_eraseDups] at hresolve
    obtain ⟨unit, hunit, hresolve⟩ := List.mem_flatMap.mp hresolve
    exact (hunits unit hunit).adapterResolves resolve hresolve
  have hintents : ∀ intent ∈ plan.actionIntents,
      intent.actionType ∈ policy.allowedOutboundActions := by
    intro intent hintent
    rw [aggregated.actionIntents] at hintent
    obtain ⟨unit, hunit, hintent⟩ := List.mem_flatMap.mp hintent
    exact (hunits unit hunit).actionIntents intent hintent
  refine ⟨hunits, fun code hcode => ?_, hrefs, hresolves, hintents, fun hscene => ?_⟩
  · obtain hmode | hissue := List.mem_append.mp hcode
    · split_ifs at hmode
      · cases hmode
      · exact List.mem_singleton.mp hmode
    · obtain ⟨unit, hunit, hissue⟩ := List.mem_flatMap.mp hissue
      rw [unitIssues_eq_nil_iff.mpr (hunits unit hunit)] at hissue
      cases hissue
  · obtain ⟨hnoResolves, hnoActions⟩ := compiled.direct hscene
    rw [hnoResolves] at hresolves
    rw [hnoActions] at hintents
    exact ⟨List.eq_nil_iff_forall_not_mem.mpr fun resolve h =>
      List.not_mem_nil (hresolves resolve h),
      List.eq_nil_iff_forall_not_mem.mpr fun intent h => List.not_mem_nil (hintents intent h)⟩

/-- A plan is within the policy that it was compiled for, and its lists are those of its
units. -/
theorem finalizeExecutionPlanV2_authorized {request : KernelReplyRequestV1}
    {hashes : PolicyHashes} {policyAuthority : BusinessScopeAuthorityV1}
    {ledgerSummary : PolicyLedgerSummaryV1}
    (hpolicy : compilePolicyManifestV2 request hashes policyAuthority ledgerSummary = .ok policy)
    (hplan : finalizeExecutionPlanV2 policy authority encoding source origin = .ok plan) :
    plan.Authorized policy ∧ plan.Aggregated := by
  have compiled := PolicyManifestV2.Compiled.of_compile hpolicy
  obtain ⟨_, units, hunits, rfl, checked⟩ := finalizeExecutionPlanV2_eq_ok.mp hplan
  have aggregated := checked.aggregated
  refine ⟨aggregated.authorized compiled fun finalized hmem => ?_, aggregated⟩
  obtain ⟨unit, planScope, hunit⟩ := finalized_of_mem hunits hmem
  exact finalized_authorized compiled hunit

/-! ## Intents and manifests -/

/-- The manifests of the plan's units require its intents. -/
structure ExecutionPlanV2.IntentsRequired (policy : PolicyManifestV2) (plan : ExecutionPlanV2) :
    Prop where
  required : ∀ intent ∈ plan.actionIntents, ∃ unit ∈ plan.units, intent ∈ unit.actionIntents ∧
    unit.manifestRef.manifestId.outboundIntent = .required ∧
    unit.manifestRef ∈ policy.eligibleCapabilities
  forbidden : ∀ unit ∈ plan.units,
    unit.manifestRef.manifestId.outboundIntent = .forbidden → unit.actionIntents = []

/-- The capabilities whose runtime capability sends although their manifests forbid it. -/
def productListManifests : List CapabilityManifestIdV2 :=
  [.weeklyReportProductList, .monthlyReportProductList]

theorem outboundIntent_eq_required_iff (manifestId : CapabilityManifestIdV2) :
    manifestId.outboundIntent = .required ↔ manifestId ∉ productListManifests ∧
      (manifestId.runtimeCapability.bind (·.outboundActionType)).isSome := by
  cases manifestId <;> decide

/-- Which units have intents, of a finalized source. -/
theorem actionIntents_ne_nil_iff {unit : DeterministicPlanUnitV1}
    {planScope : Option PlanDomainScopeV2} {finalized : ExecutionPlanUnitV2}
    (h : finalizeExecutionUnitV2 policy authority unit planScope = .ok finalized) :
    finalized.actionIntents ≠ [] ↔ finalized.answerabilityPolicy = .send ∧
      (finalized.manifestRef.manifestId.runtimeCapability.bind (·.outboundActionType)).isSome := by
  obtain ⟨ref, scope, actionIntents, href, _, hintents, _, rfl, _⟩ :=
    finalizeExecutionUnitV2_eq_ok.mp h
  have hid : ref.manifestId = unit.manifestId := by simpa using List.find?_some href
  simpa only [executionUnit, hid] using (unitActionIntents_eq_ok hintents).2

/-- The manifests of a plan require its intents, unless a product list is to be sent. -/
theorem intents_required_iff
    (h : finalizeExecutionPlanV2 policy authority encoding source origin = .ok plan) :
    plan.IntentsRequired policy ↔
      ∀ manifestId ∈ productListManifests, (manifestId.text, .send) ∉ source.capabilities := by
  obtain ⟨_, units, hunits, rfl, checked⟩ := finalizeExecutionPlanV2_eq_ok.mp h
  rw [← capabilities_finalizeUnits hunits]
  constructor
  · intro required manifestId hlist hmem
    obtain ⟨finalized, hfinalized, hcapability⟩ := List.mem_map.mp hmem
    obtain ⟨htext, hsend⟩ := Prod.mk.inj hcapability
    have hid := CapabilityManifestIdV2.text_injective htext
    obtain ⟨unit, planScope, hunit⟩ := finalized_of_mem hunits hfinalized
    refine (actionIntents_ne_nil_iff hunit).mpr ⟨hsend, ?_⟩ (required.forbidden _ hfinalized ?_)
    all_goals
      rw [hid]
      revert hlist
      cases manifestId <;> decide
  · intro hnone
    have hrequired : ∀ finalized ∈ units, finalized.actionIntents ≠ [] →
        finalized.manifestRef.manifestId.outboundIntent = .required := by
      intro finalized hmem hintents
      obtain ⟨unit, planScope, hunit⟩ := finalized_of_mem hunits hmem
      obtain ⟨hsend, hsome⟩ := (actionIntents_ne_nil_iff hunit).mp hintents
      refine (outboundIntent_eq_required_iff _).mpr ⟨fun hlist => ?_, hsome⟩
      exact hnone _ hlist (List.mem_map.mpr ⟨finalized, hmem, by rw [← hsend]; rfl⟩)
    constructor
    case required =>
      intro intent hintent
      obtain ⟨finalized, hmem, hintent⟩ := List.mem_flatMap.mp hintent
      obtain ⟨unit, planScope, hunit⟩ := finalized_of_mem hunits hmem
      obtain ⟨ref, _, _, href, _, _, _, rfl, _⟩ := finalizeExecutionUnitV2_eq_ok.mp hunit
      exact ⟨_, hmem, hintent, hrequired _ hmem (List.ne_nil_of_mem hintent),
        List.mem_of_find?_eq_some href⟩
    case forbidden =>
      intro finalized hmem hforbidden
      by_contra hintents
      rw [hrequired finalized hmem hintents] at hforbidden
      cases hforbidden

end Plans

/-! ## Samples -/

namespace ProductList

/-- A group may ask for the products of the weekly report, and may have weekly reports sent. -/
def request : KernelReplyRequestV1 where
  message := "products"
  scene := .group
  businessScope := .distribution ⟨"Example Bank", .bank, [⟨.weeklyReport, []⟩]⟩
  grants := ⟨[.queryWeeklyReportProductList], [.sendWeeklyReport], []⟩

def authority : BusinessScopeAuthorityV1 :=
  ⟨request.businessScope, "bsh1:0", "bsr:00000000000000000000000000000000"⟩

def hashes : PolicyHashes where
  businessScopeHashV1 _ := "bsh1:0"
  policyManifestIdV2 _ := "pm:0"

def policy : PolicyManifestV2 := { policyDraft request authority with policyId := "pm:0" }

def ledgerSummary : PolicyLedgerSummaryV1 := ⟨0, [], false⟩

theorem policy_compiled :
    compilePolicyManifestV2 request hashes authority ledgerSummary = .ok policy := rfl

def encoding : PlanEncoding where
  planHash _ := "epv:0"
  planBytes _ := []

/-- A unit that the planner plans without steps. -/
def planUnit (unitId capabilityId : String) (answerability : AnswerabilityPolicy) : PlanUnit where
  unitId
  selectedCapabilityId := capabilityId
  domainScope := .distribution ⟨"bsr:00000000000000000000000000000000", .bank, none, []⟩
  answerabilityPolicy := answerability
  steps := []
  abstentionCases := []
  riskFlags := []

/-- The planner selects the product list with an answerability. -/
def source (answerability : AnswerabilityPolicy) : PlanSourceV1 :=
  .planSpec {
    userIntentSummary := "products"
    planUnits := [planUnit "unit-1" "weekly_report.product_list" answerability]
    riskFlags := [] }

def finalized (answerability : AnswerabilityPolicy) : Except PlanningException ExecutionPlanV2 :=
  finalizeExecutionPlanV2 policy authority encoding (source answerability) .planner

end ProductList

open ProductList in
/-- The plan that answers with the product list. -/
theorem intents_required_answer : ∃ plan, finalized .answer = .ok plan ∧
    plan.IntentsRequired policy := by
  obtain ⟨plan, h⟩ : ∃ plan, finalized .answer = .ok plan := ⟨_, rfl⟩
  exact ⟨plan, h, (intents_required_iff h).mpr (by decide)⟩

open ProductList in
/-- The plan that sends the product list has an intent that its manifest forbids. -/
theorem intents_not_required_send :
    compilePolicyManifestV2 request hashes authority ledgerSummary = .ok policy ∧
      ∃ plan, finalized .send = .ok plan ∧ ¬ plan.IntentsRequired policy := by
  obtain ⟨plan, h, hunits⟩ : ∃ plan, finalized .send = .ok plan ∧ ∃ unit ∈ plan.units,
    unit.manifestRef.manifestId.outboundIntent = .forbidden ∧ unit.actionIntents ≠ [] :=
      ⟨_, rfl, _, List.mem_cons_self, rfl, nofun⟩
  obtain ⟨unit, hmem, hforbidden, hintents⟩ := hunits
  exact ⟨policy_compiled, plan, h, fun required =>
    hintents (required.forbidden unit hmem hforbidden)⟩

namespace ProductsAndReport

open ProductList (hashes ledgerSummary encoding planUnit)

/-- A group that may also read the weekly report. -/
def request : KernelReplyRequestV1 :=
  { ProductList.request with
    grants := ⟨[.queryWeeklyReportProductList, .resolveWeeklyReport], [.sendWeeklyReport], []⟩ }

def policy : PolicyManifestV2 :=
  { policyDraft request ProductList.authority with policyId := "pm:0" }

theorem policy_compiled :
    compilePolicyManifestV2 request hashes ProductList.authority ledgerSummary = .ok policy := rfl

/-- Two questions about the product list, and the report itself. -/
def source : PlanSourceV1 :=
  .planSpec {
    userIntentSummary := "products and the report"
    planUnits := [planUnit "unit-1" "weekly_report.product_list" .answer,
      planUnit "unit-2" "weekly_report.product_list" .answer,
      planUnit "unit-3" "weekly_report.send" .send]
    riskFlags := [] }

end ProductsAndReport

open ProductsAndReport in
/-- Two units share a manifest, which is selected once, and the third unit sends. -/
theorem finalizeExecutionPlanV2_authorized_products : ∃ plan,
    finalizeExecutionPlanV2 policy ProductList.authority ProductList.encoding source .planner =
      .ok plan ∧
    (plan.units.length = 3 ∧ plan.selectedManifestRefs.length = 2 ∧
      plan.adapterResolves.length = 1 ∧ plan.actionIntents.length = 1) ∧
    plan.Authorized policy ∧ plan.Aggregated := by
  obtain ⟨plan, h, hlengths⟩ : ∃ plan,
      finalizeExecutionPlanV2 policy ProductList.authority ProductList.encoding source .planner =
        .ok plan ∧
      plan.units.length = 3 ∧ plan.selectedManifestRefs.length = 2 ∧
        plan.adapterResolves.length = 1 ∧ plan.actionIntents.length = 1 :=
    ⟨_, rfl, by decide⟩
  exact ⟨plan, h, hlengths, finalizeExecutionPlanV2_authorized policy_compiled h⟩

end MarketSupport
