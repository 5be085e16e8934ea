import MarketSupport.Evidence.AdapterFacts

/-!
# The executor of evidence

`execute_v2` collects the evidence of a plan: it asks the adapter to resolve what the plan needs,
adds the facts of the other sources, and grounds the plan on them.
-/

namespace MarketSupport

/-- `kernel_distribution_name`. -/
def kernelDistributionName : BusinessScopeV1 → String
  | .distribution scope => scope.distChannelName
  | .unscoped => "未指定渠道"

variable (plan : ExecutionPlanV2) (policy : PolicyManifestV2)

/-- `_resolve_types_for_plan_v2`. -/
def resolveTypesForPlanV2 : List AdapterResolveType :=
  orderedResolveTypes ((plan.adapterResolves.filter
    (·.resolveType ∈ policy.allowedAdapterResolves)).map (·.resolveType))

/-- `_resolve_material_pack_options_for_plan_v2`, by the items of the dictionary. -/
def resolveMaterialPackOptionsForPlanV2 : List (AdapterResolveType × String) :=
  plan.adapterResolves.filterMap fun resolve =>
    resolve.materialPackOption.map (resolve.resolveType, ·)

/-- The requests of a plan to the adapter. -/
def resolveRequests (scope : BusinessScopeV1) : List AdapterResolveRequest :=
  buildResolveRequests (kernelDistributionName scope) (resolveTypesForPlanV2 plan policy)
    (resolveMaterialPackOptionsForPlanV2 plan)

/-- `execute_v2`, for a plan whose refetch request was validated. The client answers the requests
to the adapter, or fails; `collected` are the facts of the report scopes and of the knowledge
gateway. -/
def executeV2 (hashes : EvidenceHashes) (scope : BusinessScopeV1)
    (authority : BusinessScopeAuthorityV1)
    (resolveMany : List AdapterResolveRequest → Option (List AdapterResolveResult))
    (collected : List CanonicalEvidenceFactV1) :
    Except EvidenceException CanonicalEvidenceExecutionResultV1 :=
  if scope ≠ authority.scope then .error (.otherError "business_scope_authority_mismatch")
  else if policy.businessScopeHash ≠ authority.businessScopeHash then
    .error (.otherError "policy_business_scope_hash_mismatch")
  else do
    let requests := resolveRequests plan policy scope
    let preflight := collectPreflight requests
      (if requests = [] then none else resolveMany requests)
    let (facts, resolveBindings) ← canonicalAdapterFactsV1 hashes plan preflight
    let canonicalFacts := facts ++ collected
    let groundings ← groundExecutionPlanV2 plan policy canonicalFacts resolveBindings none
    return ⟨preflight.map (·.item), canonicalFacts, resolveBindings, groundings⟩

/-! ## What is executed -/

/-- The snapshot of the adapter that the evidence of a plan is made from. -/
def planPreflight (scope : BusinessScopeV1)
    (resolveMany : List AdapterResolveRequest → Option (List AdapterResolveResult)) :
    List AdapterPreflightRecord :=
  let requests := resolveRequests plan policy scope
  collectPreflight requests (if requests = [] then none else resolveMany requests)

variable {plan policy} {hashes : EvidenceHashes} {scope : BusinessScopeV1}
  {authority : BusinessScopeAuthorityV1}
  {resolveMany : List AdapterResolveRequest → Option (List AdapterResolveResult)}
  {collected : List CanonicalEvidenceFactV1}

/-- A plan is executed when the facts of its resolves can be built and ground it together with
the collected ones. -/
theorem exists_executeV2_iff (hscope : scope = authority.scope)
    (hhash : policy.businessScopeHash = authority.businessScopeHash) :
    (∃ evidence, executeV2 plan policy hashes scope authority resolveMany collected =
        .ok evidence) ↔
      ∃ facts bindings groundings, canonicalAdapterFactsV1 hashes plan
          (planPreflight plan policy scope resolveMany) = .ok (facts, bindings) ∧
        groundExecutionPlanV2 plan policy (facts ++ collected) bindings none = .ok groundings := by
  unfold executeV2
  rw [if_neg (not_not.mpr hscope), if_neg (not_not.mpr hhash)]
  simp only [Library.bind_eq_ok_iff]
  constructor
  · rintro ⟨_, ⟨facts, bindings⟩, hbuilt, groundings, hground, _⟩
    exact ⟨facts, bindings, groundings, hbuilt, hground⟩
  · rintro ⟨facts, bindings, groundings, hbuilt, hground⟩
    exact ⟨_, (facts, bindings), hbuilt, groundings, hground, rfl⟩

/-- The evidence of a plan has its snapshot and one grounding for every unit. -/
theorem executeV2_spec {evidence : CanonicalEvidenceExecutionResultV1}
    (h : executeV2 plan policy hashes scope authority resolveMany collected = .ok evidence) :
    evidence.preflight = (planPreflight plan policy scope resolveMany).map (·.item) ∧
      evidence.groundings.length = plan.units.length := by
  unfold executeV2 at h
  split_ifs at h
  obtain ⟨_, _, h⟩ := Library.bind_eq_ok_iff.mp h
  obtain ⟨groundings, hground, h⟩ := Library.bind_eq_ok_iff.mp h
  cases h
  refine ⟨rfl, ?_⟩
  unfold groundExecutionPlanV2 at hground
  split_ifs at hground
  obtain ⟨_, hmap, hground⟩ := Library.bind_eq_ok_iff.mp hground
  obtain ⟨_, _, hground⟩ := Library.bind_eq_ok_iff.mp hground
  cases hground
  exact (Library.mapM_eq_ok_iff.mp hmap).length_eq.symm

end MarketSupport
