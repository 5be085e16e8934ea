import MarketSupport.Decisions.BusinessFacts

/-!
# Grounding of a plan

Every unit of a plan is grounded on the facts that it admits, when they satisfy its contract.

## Main results

* `groundExecutionPlanV2_ok_iff` — a plan is grounded exactly when all of its units are.
-/

namespace MarketSupport

open Library

structure ExecutionUnitGroundingV1 where
  unitId : String
  manifestRef : ManifestRefV1
  answerability : AnswerabilityPolicy
  scope : ExecutionDomainScopeV2
  evidenceQuery : Option String
  actionIntents : List CanonicalActionIntentV1
  allowedEvidenceIds : List String
  allowedEvidence : List CanonicalEvidenceFactV1
  businessFacts : UnitBusinessFactsV1
  deriving DecidableEq, Repr

/-- The checks of the constructor of a grounding. -/
def executionUnitGroundingV1 (grounding : ExecutionUnitGroundingV1) :
    Except EvidenceException ExecutionUnitGroundingV1 :=
  if 32 < grounding.allowedEvidenceIds.length ∨ 32 < grounding.allowedEvidence.length then
    .error .validationError
  else if grounding.allowedEvidenceIds ≠ grounding.allowedEvidence.map (·.evidenceId) then
    .error (.canonicalGroundingContractError "execution_grounding_evidence_id_binding_mismatch")
  else if ¬ (grounding.allowedEvidence.map (·.evidenceId)).Nodup then
    .error (.canonicalGroundingContractError "execution_grounding_duplicate_evidence_id")
  else if grounding.businessFacts.evidenceFactCount ≠ grounding.allowedEvidence.length then
    .error (.canonicalGroundingContractError "execution_grounding_business_fact_count_mismatch")
  else .ok grounding

variable (plan : ExecutionPlanV2) (policy : PolicyManifestV2)
  (canonicalFacts : List CanonicalEvidenceFactV1)
  (resolveBindings : List CanonicalResolveBindingV1) (evaluationEpochSeconds : Option ℕ)

/-- The facts that a unit admits. -/
def candidateFacts (unit : ExecutionPlanUnitV2) : List CanonicalEvidenceFactV1 :=
  canonicalFacts.filter fun fact => canonicalFactAdmittedForUnitV1 fact unit
    unit.manifestRef.manifestId.contract evaluationEpochSeconds

/-- The facts that a unit is grounded on: those that it admits, when they satisfy its contract. -/
def admittedFacts (unit : ExecutionPlanUnitV2) : List CanonicalEvidenceFactV1 :=
  let candidates := candidateFacts canonicalFacts evaluationEpochSeconds unit
  if canonicalEvidenceRequirementsSatisfiedV1 candidates unit.manifestRef.manifestId.contract then
    candidates
  else []

/-- `_ground_execution_unit_v2`. -/
def groundExecutionUnitV2 (unit : ExecutionPlanUnitV2) :
    Except EvidenceException ExecutionUnitGroundingV1 :=
  if unit.manifestRef ∉ policy.eligibleCapabilities then
    .error (.canonicalGroundingContractError "execution_grounding_manifest_not_policy_eligible")
  else match findManifest unit.manifestRef.manifestId with
    | none => .error (.otherError "KeyError")
    | some manifest =>
      if manifest.manifestVersion ≠ unit.manifestRef.manifestVersion then
        .error (.canonicalGroundingContractError "execution_grounding_manifest_version_mismatch")
      else do
        let admitted := admittedFacts canonicalFacts evaluationEpochSeconds unit
        let businessFacts ← deriveUnitBusinessFactsV1 unit admitted manifest policy
          (resolveBindings.filter (·.evidenceId ∈ admitted.map (·.evidenceId)))
        executionUnitGroundingV1 {
          unitId := unit.unitId
          manifestRef := unit.manifestRef
          answerability := unit.answerabilityPolicy
          scope := unit.scope
          evidenceQuery := unit.evidenceQuery
          actionIntents := unit.actionIntents
          allowedEvidenceIds := admitted.map (·.evidenceId)
          allowedEvidence := admitted
          businessFacts }

/-- The binding of a grounding to its unit. -/
def groundingBound (unit : ExecutionPlanUnitV2) (grounding : ExecutionUnitGroundingV1) : Bool :=
  grounding.unitId = unit.unitId ∧ grounding.manifestRef = unit.manifestRef ∧
    grounding.answerability = unit.answerabilityPolicy ∧ grounding.scope = unit.scope ∧
    grounding.evidenceQuery = unit.evidenceQuery ∧ grounding.actionIntents = unit.actionIntents

def validateGroundingPlanBindingV1 (groundings : List ExecutionUnitGroundingV1) :
    Except EvidenceException Unit :=
  if plan.units.length ≠ groundings.length then
    .error (.canonicalGroundingContractError "execution_grounding_unit_count_mismatch")
  else if (plan.units.zip groundings).all (fun (unit, grounding) =>
      groundingBound unit grounding) then
    .ok ()
  else .error (.canonicalGroundingContractError "execution_grounding_plan_binding_mismatch")

/-- `ground_execution_plan_v2`. -/
def groundExecutionPlanV2 : Except EvidenceException (List ExecutionUnitGroundingV1) :=
  if ¬ (canonicalFacts.map (·.evidenceId)).Nodup then
    .error (.canonicalGroundingContractError "execution_grounding_duplicate_canonical_evidence_id")
  else do
    let groundings ← plan.units.mapM (groundExecutionUnitV2 policy canonicalFacts resolveBindings
      evaluationEpochSeconds)
    validateGroundingPlanBindingV1 plan groundings
    return groundings

/-! ## Results of the executor -/

inductive AdapterResolveStatus where
  | resolved
  | missing
  | ambiguous
  | forbidden
  | temporarilyUnavailable
  deriving DecidableEq, Repr

/-- `AdapterPreflightItem`; of its result only the status is read. -/
structure AdapterPreflightItem where
  resolveType : AdapterResolveType
  status : Option AdapterResolveStatus
  deriving DecidableEq, Repr

/-- The fields of `CanonicalEvidenceExecutionResultV1` that candidates are built from. -/
structure CanonicalEvidenceExecutionResultV1 where
  preflight : List AdapterPreflightItem
  canonicalFacts : List CanonicalEvidenceFactV1
  resolveBindings : List CanonicalResolveBindingV1
  groundings : List ExecutionUnitGroundingV1
  deriving DecidableEq, Repr

/-! ## When a plan is grounded -/

variable {plan policy canonicalFacts resolveBindings evaluationEpochSeconds}
  {unit : ExecutionPlanUnitV2}

/-- The bindings of the facts that a unit is grounded on. -/
def admittedBindings (canonicalFacts : List CanonicalEvidenceFactV1)
    (resolveBindings : List CanonicalResolveBindingV1) (evaluationEpochSeconds : Option ℕ)
    (unit : ExecutionPlanUnitV2) : List CanonicalResolveBindingV1 :=
  resolveBindings.filter
    (·.evidenceId ∈ (admittedFacts canonicalFacts evaluationEpochSeconds unit).map (·.evidenceId))

/-- The business facts of a unit, from what it is grounded on. -/
def groundedBusinessFacts (policy : PolicyManifestV2)
    (canonicalFacts : List CanonicalEvidenceFactV1)
    (resolveBindings : List CanonicalResolveBindingV1) (evaluationEpochSeconds : Option ℕ)
    (unit : ExecutionPlanUnitV2) : Except EvidenceException UnitBusinessFactsV1 :=
  deriveUnitBusinessFactsV1 unit (admittedFacts canonicalFacts evaluationEpochSeconds unit)
    ⟨unit.manifestRef.manifestId, .v20260718n1, unit.manifestRef.manifestId.contract⟩ policy
    (admittedBindings canonicalFacts resolveBindings evaluationEpochSeconds unit)

/-- The contracts of the registry ask for no more than one of the facts that they admit. -/
theorem admittedFacts_eq (unit : ExecutionPlanUnitV2) :
    admittedFacts canonicalFacts evaluationEpochSeconds unit =
      candidateFacts canonicalFacts evaluationEpochSeconds unit := by
  unfold admittedFacts
  dsimp only
  split_ifs with h
  · rfl
  · by_contra hne
    exact h (requirementsSatisfied_of_admitted (Ne.symm hne) fun fact hfact =>
      (List.mem_filter.mp hfact).2)

theorem nodup_admittedFacts (h : (canonicalFacts.map (·.evidenceId)).Nodup) :
    ((admittedFacts canonicalFacts evaluationEpochSeconds unit).map (·.evidenceId)).Nodup := by
  rw [admittedFacts_eq]
  exact h.sublist (List.filter_sublist.map _)

/-- No capability uses report summaries. -/
theorem firstReportSummary_none {resolveType : AdapterResolveType}
    {materialType : ReportMaterialType} :
    firstReportSummaryV1 (admittedFacts canonicalFacts evaluationEpochSeconds unit) resolveType
      materialType = none := by
  refine List.findSome?_eq_none_iff.mpr fun fact hfact => ?_
  rw [admittedFacts_eq] at hfact
  have hadmitted := factType_mem_of_admitted (List.mem_filter.mp hfact).2
  have htype : fact.factType ≠ .reportScopeSummary := fun h =>
    (allowedFactTypes_not_mem unit.manifestRef.manifestId).1 (h ▸ hadmitted)
  split <;> simp [htype]

/-- Deriving fails on more than 32 facts, and counts them. -/
theorem bounds_of_derive {facts : List CanonicalEvidenceFactV1} {manifest : CapabilityManifestV2}
    {bindings : List CanonicalResolveBindingV1} {businessFacts : UnitBusinessFactsV1}
    (h : deriveUnitBusinessFactsV1 unit facts manifest policy bindings = .ok businessFacts) :
    facts.length ≤ 32 ∧ businessFacts.evidenceFactCount = facts.length := by
  unfold deriveUnitBusinessFactsV1 at h
  split_ifs at h with hlimit
  refine ⟨not_lt.mp hlimit, ?_⟩
  simp only [bind_eq_ok_iff] at h
  obtain ⟨_, _, _, _, _, _, _, _, _, _, _, _, h⟩ := h
  rw [← Except.ok.inj h]

/-- An eligible unit is grounded exactly when its business facts can be derived. -/
theorem groundExecutionUnitV2_ok_iff (eligible : unit.manifestRef ∈ policy.eligibleCapabilities)
    (hnodup : (canonicalFacts.map (·.evidenceId)).Nodup) {grounding : ExecutionUnitGroundingV1} :
    groundExecutionUnitV2 policy canonicalFacts resolveBindings evaluationEpochSeconds unit =
        .ok grounding ↔
      ∃ businessFacts, groundedBusinessFacts policy canonicalFacts resolveBindings
          evaluationEpochSeconds unit = .ok businessFacts ∧
        grounding = {
          unitId := unit.unitId
          manifestRef := unit.manifestRef
          answerability := unit.answerabilityPolicy
          scope := unit.scope
          evidenceQuery := unit.evidenceQuery
          actionIntents := unit.actionIntents
          allowedEvidenceIds := (admittedFacts canonicalFacts evaluationEpochSeconds unit).map
            (·.evidenceId)
          allowedEvidence := admittedFacts canonicalFacts evaluationEpochSeconds unit
          businessFacts } := by
  have hversion := ManifestVersionV2.eq .v20260718n1 unit.manifestRef.manifestVersion
  have hids : ((admittedFacts canonicalFacts evaluationEpochSeconds unit).map
      (·.evidenceId)).Nodup := nodup_admittedFacts hnodup
  simp only [groundExecutionUnitV2, eligible, not_true_eq_false, ↓reduceIte, findManifest_eq,
    hversion, ne_eq, bind_eq_ok_iff]
  refine exists_congr fun businessFacts => and_congr_right fun hderive => ?_
  obtain ⟨hlimit, hcount⟩ := bounds_of_derive hderive
  have hlimit' := not_lt.mpr hlimit
  simp [executionUnitGroundingV1, hids, hcount, hlimit', eq_comm]

/-- A grounding is bound to the unit that it was made for. -/
theorem groundingBound_of_ok {grounding : ExecutionUnitGroundingV1}
    (hnodup : (canonicalFacts.map (·.evidenceId)).Nodup)
    (h : groundExecutionUnitV2 policy canonicalFacts resolveBindings evaluationEpochSeconds unit =
      .ok grounding) : groundingBound unit grounding = true := by
  by_cases eligible : unit.manifestRef ∈ policy.eligibleCapabilities
  · obtain ⟨businessFacts, _, rfl⟩ := (groundExecutionUnitV2_ok_iff eligible hnodup).mp h
    simp [groundingBound]
  · simp [groundExecutionUnitV2, eligible] at h

theorem validateGroundingPlanBindingV1_eq_ok {groundings : List ExecutionUnitGroundingV1}
    (h : List.Forall₂ (fun unit grounding => groundingBound unit grounding = true)
      plan.units groundings) : validateGroundingPlanBindingV1 plan groundings = .ok () := by
  have hall : (plan.units.zip groundings).all (fun (unit, grounding) =>
      groundingBound unit grounding) = true := by
    refine List.all_eq_true.mpr fun ⟨unit, grounding⟩ hmem => ?_
    exact List.forall₂_iff_zip.mp h |>.2 hmem
  simp [validateGroundingPlanBindingV1, h.length_eq, hall]

/-- A plan within the policy is grounded exactly when the business facts of all of its units can
be derived; it then has one grounding for each unit. -/
theorem groundExecutionPlanV2_ok_iff (valid : validateExecutionPlanV2 plan policy = [])
    (hnodup : (canonicalFacts.map (·.evidenceId)).Nodup) :
    (∃ groundings, groundExecutionPlanV2 plan policy canonicalFacts resolveBindings
        evaluationEpochSeconds = .ok groundings ∧ groundings.length = plan.units.length) ↔
      ∀ unit ∈ plan.units, ∃ businessFacts, groundedBusinessFacts policy canonicalFacts
        resolveBindings evaluationEpochSeconds unit = .ok businessFacts := by
  have hground : ∀ unit ∈ plan.units, ((∃ grounding, groundExecutionUnitV2 policy canonicalFacts
        resolveBindings evaluationEpochSeconds unit = .ok grounding) ↔
      ∃ businessFacts, groundedBusinessFacts policy canonicalFacts resolveBindings
        evaluationEpochSeconds unit = .ok businessFacts) := by
    intro unit hunit
    simp only [groundExecutionUnitV2_ok_iff (eligible_of_valid valid hunit) hnodup]
    exact ⟨fun ⟨_, b, h, _⟩ => ⟨b, h⟩, fun ⟨b, h⟩ => ⟨_, b, h, rfl⟩⟩
  rw [← forall₂_congr hground, ← exists_mapM_eq_ok_iff]
  simp only [groundExecutionPlanV2, hnodup, not_true_eq_false, ↓reduceIte, bind_eq_ok_iff]
  constructor
  · rintro ⟨_, ⟨groundings, hmap, _⟩, _⟩
    exact ⟨groundings, hmap⟩
  · rintro ⟨groundings, hmap⟩
    have hall := mapM_eq_ok_iff.mp hmap
    have hbound := hall.imp fun _ _ h => groundingBound_of_ok hnodup h
    exact ⟨groundings, ⟨groundings, hmap, (), validateGroundingPlanBindingV1_eq_ok hbound, rfl⟩,
      hall.length_eq.symm⟩

end MarketSupport
