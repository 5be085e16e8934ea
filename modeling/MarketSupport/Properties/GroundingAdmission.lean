import MarketSupport.Evidence.Grounding
import MarketSupport.Library.FirstByKey

/-!
# Admission of evidence to units

A unit is grounded on exactly the facts that its contract allows, and what its business facts say
comes from them. Of several facts for one artifact the first one counts.

## Main results

* `groundExecutionPlanV2_admission` — admission is sound, follows the facts through permutations,
  and does not depend on the facts of other scopes.
-/

namespace MarketSupport

open Library

/-! ## What a contract allows -/

/-- A contract allows a fact for a unit. -/
structure CapabilityEvidenceContractV2.Allows (contract : CapabilityEvidenceContractV2)
    (unit : ExecutionPlanUnitV2) (epoch : Option ℕ) (fact : CanonicalEvidenceFactV1) : Prop where
  factType : fact.factType ∈ contract.allowedFactTypes ∧
    fact.factType ∉ contract.forbiddenFactTypes
  sourceType : (contract.allowedSourceTypes = [] ∨
    fact.sourceType ∈ contract.allowedSourceTypes) ∧
      fact.sourceType ∉ contract.forbiddenSourceTypes
  artifactType : contract.allowedArtifactTypes = [] ∨
    fact.artifactType ∈ contract.allowedArtifactTypes
  provenance : contract.provenanceRequired = true → canonicalFactHasProvenanceV1 fact = true
  scope : canonicalScopeMatchesUnitV1 fact unit contract.requiredScopeMatch = true
  history : canonicalHistoryAllowedV1 fact contract epoch = true
  staleness : canonicalStalenessAllowedV1 fact contract epoch = true
  citation : contract.citationRequired = true → fact.publicUrls ≠ []

/-- The facts have what a contract requires. -/
structure CapabilityEvidenceContractV2.Satisfied (contract : CapabilityEvidenceContractV2)
    (facts : List CanonicalEvidenceFactV1) : Prop where
  required : ∀ factType ∈ contract.requiredFactTypes, ∃ fact ∈ facts, fact.factType = factType
  anyOf : contract.anyOfFactTypes = [] ∨
    ∃ fact ∈ facts, fact.factType ∈ contract.anyOfFactTypes
  artifacts : ∀ artifactType ∈ contract.requiredArtifactTypes,
    ∃ fact ∈ facts, fact.artifactType = artifactType
  minFacts : contract.minFacts ≤ facts.length

theorem admitted_iff_allows {contract : CapabilityEvidenceContractV2} {unit : ExecutionPlanUnitV2}
    {epoch : Option ℕ} {fact : CanonicalEvidenceFactV1} :
    canonicalFactAdmittedForUnitV1 fact unit contract epoch = true ↔
      contract.Allows unit epoch fact := by
  unfold canonicalFactAdmittedForUnitV1
  simp only [Bool.and_eq_true, decide_eq_true_eq, Bool.or_eq_true, Bool.not_eq_true',
    List.isEmpty_eq_false_iff]
  constructor
  · rintro ⟨⟨⟨⟨⟨⟨⟨⟨⟨h1, h2⟩, h3⟩, h4⟩, h5⟩, h6⟩, h7⟩, h8⟩, h9⟩, h10⟩
    exact ⟨⟨h1, h2⟩, ⟨h4, h5⟩, h6, fun h => h3.resolve_left (by simp [h]), h7, h8, h9,
      fun h => h10.resolve_left (by simp [h])⟩
  · rintro ⟨⟨h1, h2⟩, ⟨h4, h5⟩, h6, h3, h7, h8, h9, h10⟩
    refine ⟨⟨⟨⟨⟨⟨⟨⟨⟨h1, h2⟩, ?_⟩, h4⟩, h5⟩, h6⟩, h7⟩, h8⟩, h9⟩, ?_⟩
    · cases hp : contract.provenanceRequired with
      | false => exact .inl rfl
      | true => exact .inr (h3 hp)
    · cases hc : contract.citationRequired with
      | false => exact .inl rfl
      | true => exact .inr (h10 hc)

theorem satisfied_of_requirements {contract : CapabilityEvidenceContractV2}
    {facts : List CanonicalEvidenceFactV1}
    (h : canonicalEvidenceRequirementsSatisfiedV1 facts contract = true) :
    contract.Satisfied facts := by
  simp only [canonicalEvidenceRequirementsSatisfiedV1, Bool.and_eq_true, List.all_eq_true,
    decide_eq_true_eq, List.mem_map] at h
  obtain ⟨⟨⟨hrequired, hany⟩, hartifacts⟩, hmin⟩ := h
  refine ⟨hrequired, hany.imp id ?_, hartifacts, hmin⟩
  rintro ⟨_, htype, fact, hfact, rfl⟩
  exact ⟨fact, hfact, htype⟩

/-! ## Where business facts come from -/

/-- What is known of the artifact of a resolve. -/
def UnitBusinessFactsV1.state (facts : UnitBusinessFactsV1) :
    AdapterResolveType → CanonicalResolvableStateV1
  | .materialPack => facts.materialPack
  | .weeklyReport => facts.weeklyReport.toCanonicalResolvableStateV1
  | .monthlyReport => facts.monthlyReport.toCanonicalResolvableStateV1
  | .salesMention => facts.salesMention

def ReportMaterialType.resolveType : ReportMaterialType → AdapterResolveType
  | .weekly => .weeklyReport
  | .monthly => .monthlyReport

def UnitBusinessFactsV1.report (facts : UnitBusinessFactsV1) :
    ReportMaterialType → CanonicalReportStateV1
  | .weekly => facts.weeklyReport
  | .monthly => facts.monthlyReport

/-- The binding of an admitted fact of the resolve type satisfies the property. -/
def FromBinding (evidence : List CanonicalEvidenceFactV1)
    (bindings : List CanonicalResolveBindingV1) (resolveType : AdapterResolveType)
    (property : CanonicalResolveBindingV1 → Prop) : Prop :=
  ∃ fact ∈ evidence, fact.factType = resolveType.factType ∧ fact.resolveType = some resolveType ∧
    ∃ binding ∈ bindings, binding.evidenceId = fact.evidenceId ∧
      binding.resolveType = resolveType ∧ property binding

/-- An admitted report summary satisfies the property. -/
def FromSummary (evidence : List CanonicalEvidenceFactV1)
    (property : ReportScopeSummaryCanonicalV1 → Prop) : Prop :=
  ∃ fact ∈ evidence, fact.factType = .reportScopeSummary ∧
    ∃ payload, fact.reportPayload = some (.summary payload) ∧ property payload

/-- The grounding of a unit is what its contract makes of the facts. -/
structure AdmissionSound (canonicalFacts : List CanonicalEvidenceFactV1)
    (bindings : List CanonicalResolveBindingV1) (epoch : Option ℕ) (unit : ExecutionPlanUnitV2)
    (grounding : ExecutionUnitGroundingV1) : Prop where
  evidence : grounding.allowedEvidence = [] ∨
    (grounding.allowedEvidence.Sublist canonicalFacts ∧
      (∀ fact, fact ∈ grounding.allowedEvidence ↔ fact ∈ canonicalFacts ∧
        unit.manifestRef.manifestId.contract.Allows unit epoch fact) ∧
      unit.manifestRef.manifestId.contract.Satisfied grounding.allowedEvidence)
  ids : grounding.allowedEvidenceIds = grounding.allowedEvidence.map (·.evidenceId) ∧
    grounding.allowedEvidenceIds.Nodup
  resolveRef : ∀ resolveType, ∀ ref ∈ (grounding.businessFacts.state resolveType).resolveRef,
    FromBinding grounding.allowedEvidence bindings resolveType (·.resolveRef = ref)
  period : ∀ materialType, ∀ period ∈ (grounding.businessFacts.report materialType).period,
    FromBinding grounding.allowedEvidence bindings materialType.resolveType
        (·.period = some period) ∨
      FromSummary grounding.allowedEvidence (·.period = some period)
  reportDate : ∀ materialType, ∀ date ∈ (grounding.businessFacts.report materialType).reportDate,
    FromBinding grounding.allowedEvidence bindings materialType.resolveType
        (fun binding => binding.reportDate.bind Date.fromIsoformat = some date) ∨
      FromSummary grounding.allowedEvidence
        (fun payload => payload.reportDate.bind Date.fromIsoformat = some date)

section States

variable {unit : ExecutionPlanUnitV2} {contract : CapabilityEvidenceContractV2}
  {facts : List CanonicalEvidenceFactV1} {bindings bindings' : List CanonicalResolveBindingV1}
  {resolveType : AdapterResolveType}

theorem FromBinding.mono {property : CanonicalResolveBindingV1 → Prop}
    (h : FromBinding facts bindings resolveType property) (hsub : bindings ⊆ bindings') :
    FromBinding facts bindings' resolveType property := by
  obtain ⟨fact, hfact, htype, hresolve, binding, hbinding, hrest⟩ := h
  exact ⟨fact, hfact, htype, hresolve, binding, hsub hbinding, hrest⟩

/-- What is read of the binding of the first fact of a resolve type. -/
theorem fromBinding_of_first {fact : CanonicalEvidenceFactV1} {binding : CanonicalResolveBindingV1}
    (hfirst : firstResolvableFactV1 facts resolveType = some fact)
    (hbinding : (bindingOf bindings fact.evidenceId).filter (·.resolveType = resolveType) =
      some binding) : FromBinding facts bindings resolveType (· = binding) := by
  have hfact := List.find?_some hfirst
  simp only [decide_eq_true_eq] at hfact
  obtain ⟨hfound, htype⟩ := Option.filter_eq_some_iff.mp hbinding
  have hid := List.find?_some hfound
  exact ⟨fact, List.mem_of_find?_eq_some hfirst, hfact.1, hfact.2, binding,
    List.mem_of_find?_eq_some hfound, of_decide_eq_true hid, of_decide_eq_true htype, rfl⟩

theorem FromBinding.imp {property property' : CanonicalResolveBindingV1 → Prop}
    (h : FromBinding facts bindings resolveType property)
    (himp : ∀ binding, property binding → property' binding) :
    FromBinding facts bindings resolveType property' := by
  obtain ⟨fact, hfact, htype, hresolve, binding, hbinding, hid, hbtype, hproperty⟩ := h
  exact ⟨fact, hfact, htype, hresolve, binding, hbinding, hid, hbtype, himp _ hproperty⟩

theorem resolveRef_of_state {state : CanonicalResolvableStateV1} {ref : String}
    (h : unitResolvableStateV1 unit contract facts bindings resolveType = .ok state)
    (href : state.resolveRef = some ref) :
    FromBinding facts bindings resolveType (·.resolveRef = ref) := by
  unfold unitResolvableStateV1 at h
  split at h
  · split at h
    · cases h
      cases href
    · rename_i fact hfirst
      by_cases hempty : (if resolveType = .materialPack then fact.scope.materialOption else none) =
          some ""
      · rw [if_pos hempty] at h
        cases h
      · rw [if_neg hempty] at h
        cases h
        obtain ⟨binding, hbinding, rfl⟩ := Option.map_eq_some_iff.mp href
        exact (fromBinding_of_first hfirst hbinding).imp fun _ h => congrArg _ h
  · cases h
    cases href

theorem binding_of_report {binding : CanonicalResolveBindingV1}
    (h : bindingForResolveFactV1 facts bindings resolveType = some binding) :
    FromBinding facts bindings resolveType (· = binding) := by
  obtain ⟨fact, hfirst, hbinding⟩ := Option.bind_eq_some_iff.mp h
  exact fromBinding_of_first hfirst hbinding

theorem summary_of_first {materialType : ReportMaterialType}
    {payload : ReportScopeSummaryCanonicalV1}
    (h : firstReportSummaryV1 facts resolveType materialType = some payload) :
    FromSummary facts (· = payload) := by
  obtain ⟨fact, hfact, h⟩ := List.exists_of_findSome?_eq_some h
  split at h
  · rename_i payload' hpayload
    split_ifs at h with hmatches
    obtain rfl := Option.some.inj h
    exact ⟨fact, hfact, hmatches.1, payload', hpayload, rfl⟩
  · cases h

/-- A report has its reference from a binding, and its period and its date from a binding or from
a summary. -/
theorem report_of_state {state : CanonicalReportStateV1} {materialType : ReportMaterialType}
    (h : unitReportStateV1 unit contract facts bindings resolveType materialType = .ok state) :
    (∀ ref, state.resolveRef = some ref →
        FromBinding facts bindings resolveType (·.resolveRef = ref)) ∧
      (∀ period, state.period = some period →
        FromBinding facts bindings resolveType (·.period = some period) ∨
          FromSummary facts (·.period = some period)) ∧
      ∀ date, state.reportDate = some date →
        FromBinding facts bindings resolveType
            (fun binding => binding.reportDate.bind Date.fromIsoformat = some date) ∨
          FromSummary facts
            (fun payload => payload.reportDate.bind Date.fromIsoformat = some date) := by
  unfold unitReportStateV1 at h
  obtain ⟨base, hbase, h⟩ := bind_eq_ok_iff.mp h
  split at h
  · split at h
    · obtain ⟨date, hdate, h⟩ := bind_eq_ok_iff.mp h
      cases h
      have hdate := strictIsoDateV1_ok hdate
      refine ⟨fun ref href => resolveRef_of_state hbase href, fun period hperiod => .inl ?_,
        fun date hreport => .inl ?_⟩
      · obtain ⟨binding, hbinding, hperiod⟩ := Option.bind_eq_some_iff.mp hperiod
        exact (binding_of_report hbinding).imp fun _ h => h ▸ hperiod
      · rw [hdate] at hreport
        obtain ⟨text, htext, hreport⟩ := Option.bind_eq_some_iff.mp hreport
        obtain ⟨binding, hbinding, htext⟩ := Option.bind_eq_some_iff.mp htext
        exact (binding_of_report hbinding).imp fun _ h => by rw [h, htext]; exact hreport
    · rename_i payload hpayload
      obtain ⟨date, hdate, h⟩ := bind_eq_ok_iff.mp h
      obtain ⟨_, _, h⟩ := bind_eq_ok_iff.mp h
      obtain ⟨_, _, h⟩ := bind_eq_ok_iff.mp h
      cases h
      have hsummary := summary_of_first hpayload
      obtain ⟨fact, hfact, htype, payload', hfound, hsame⟩ := hsummary
      subst hsame
      have hdate := strictIsoDateV1_ok hdate
      exact ⟨fun ref href => resolveRef_of_state hbase href,
        fun period hperiod => .inr ⟨fact, hfact, htype, _, hfound, hperiod⟩,
        fun date hreport => .inr ⟨fact, hfact, htype, _, hfound, hdate.symm.trans hreport⟩⟩
  · cases h
    exact ⟨nofun, nofun, nofun⟩

end States

section Soundness

variable {plan : ExecutionPlanV2} {policy : PolicyManifestV2}
  {canonicalFacts : List CanonicalEvidenceFactV1} {bindings : List CanonicalResolveBindingV1}
  {epoch : Option ℕ} {unit : ExecutionPlanUnitV2} {grounding : ExecutionUnitGroundingV1}
  {groundings : List ExecutionUnitGroundingV1}

/-- Grounding a unit that returns: what was derived, and of which facts. -/
theorem ground_unit_ok (hnodup : (canonicalFacts.map (·.evidenceId)).Nodup)
    (h : groundExecutionUnitV2 policy canonicalFacts bindings epoch unit = .ok grounding) :
    unit.manifestRef ∈ policy.eligibleCapabilities ∧
      grounding.allowedEvidence = admittedFacts canonicalFacts epoch unit ∧
      grounding.allowedEvidenceIds = grounding.allowedEvidence.map (·.evidenceId) ∧
      groundedBusinessFacts policy canonicalFacts bindings epoch unit =
        .ok grounding.businessFacts := by
  have eligible : unit.manifestRef ∈ policy.eligibleCapabilities := by
    by_contra hnot
    simp [groundExecutionUnitV2, hnot] at h
  obtain ⟨businessFacts, hderive, rfl⟩ := (groundExecutionUnitV2_ok_iff eligible hnodup).mp h
  exact ⟨eligible, rfl, rfl, hderive⟩

/-- A plan is grounded unit by unit. -/
theorem ground_plan_ok
    (h : groundExecutionPlanV2 plan policy canonicalFacts bindings epoch = .ok groundings) :
    (canonicalFacts.map (·.evidenceId)).Nodup ∧
      List.Forall₂ (fun unit grounding =>
        groundExecutionUnitV2 policy canonicalFacts bindings epoch unit = .ok grounding)
        plan.units groundings := by
  unfold groundExecutionPlanV2 at h
  split_ifs at h with hnodup
  obtain ⟨_, hmap, h⟩ := bind_eq_ok_iff.mp h
  obtain ⟨_, _, h⟩ := bind_eq_ok_iff.mp h
  obtain rfl := Except.ok.inj h
  exact ⟨hnodup, mapM_eq_ok_iff.mp hmap⟩

theorem admissionSound_of_ok (hnodup : (canonicalFacts.map (·.evidenceId)).Nodup)
    (h : groundExecutionUnitV2 policy canonicalFacts bindings epoch unit = .ok grounding) :
    AdmissionSound canonicalFacts bindings epoch unit grounding := by
  obtain ⟨eligible, hevidence, hids, hderive⟩ := ground_unit_ok hnodup h
  obtain ⟨_, hpack, hweekly, hmonthly, hsales⟩ := derive_states hderive
  rw [← hevidence] at hpack hweekly hmonthly hsales
  have hsub : admittedBindings canonicalFacts bindings epoch unit ⊆ bindings :=
    fun _ hbinding => (List.mem_filter.mp hbinding).1
  obtain ⟨hweeklyRef, hweeklyPeriod, hweeklyDate⟩ := report_of_state hweekly
  obtain ⟨hmonthlyRef, hmonthlyPeriod, hmonthlyDate⟩ := report_of_state hmonthly
  constructor
  case evidence =>
    rw [hevidence, admittedFacts]
    split_ifs with hsatisfied
    · refine .inr ⟨List.filter_sublist, fun fact => ?_, satisfied_of_requirements hsatisfied⟩
      rw [candidateFacts, List.mem_filter, admitted_iff_allows]
    · exact .inl rfl
  case ids =>
    refine ⟨hids, ?_⟩
    rw [hids, hevidence]
    exact nodup_admittedFacts hnodup
  case resolveRef =>
    intro resolveType ref href
    cases resolveType with
    | materialPack => exact (resolveRef_of_state hpack href).mono hsub
    | weeklyReport => exact (hweeklyRef ref href).mono hsub
    | monthlyReport => exact (hmonthlyRef ref href).mono hsub
    | salesMention => exact (resolveRef_of_state hsales href).mono hsub
  case period =>
    intro materialType period hperiod
    cases materialType with
    | weekly => exact (hweeklyPeriod period hperiod).imp_left (·.mono hsub)
    | monthly => exact (hmonthlyPeriod period hperiod).imp_left (·.mono hsub)
  case reportDate =>
    intro materialType date hdate
    cases materialType with
    | weekly => exact (hweeklyDate date hdate).imp_left (·.mono hsub)
    | monthly => exact (hmonthlyDate date hdate).imp_left (·.mono hsub)

end Soundness

/-! ## The order of the facts -/

/-- For every artifact, the first of the admitted facts is the same. -/
def KeepsFirst (facts facts' : List CanonicalEvidenceFactV1) (epoch : Option ℕ)
    (unit : ExecutionPlanUnitV2) : Prop :=
  ∀ resolveType, firstResolvableFactV1 (admittedFacts facts epoch unit) resolveType =
    firstResolvableFactV1 (admittedFacts facts' epoch unit) resolveType

section Permutations

variable {unit : ExecutionPlanUnitV2} {facts facts' : List CanonicalEvidenceFactV1}
  {bindings bindings' : List CanonicalResolveBindingV1} {epoch : Option ℕ}
  {policy : PolicyManifestV2}

/-- Bindings that are validated name facts, each a different one. -/
theorem bound_of_validated {output : List CanonicalResolveBindingV1}
    (h : validatedResolveBindingsV1 facts bindings = .ok output) :
    (bindings.map (·.evidenceId)).Nodup ∧
      ∀ binding ∈ bindings, ∃ fact ∈ facts, fact.evidenceId = binding.evidenceId ∧
        fact.resolveType = some binding.resolveType ∧
        fact.provenance.sourceRecordRef = binding.sourceRecordRef ∧
        fact.provenance.scopeRef = binding.scopeRef := by
  suffices hfold : ∀ start, (start.map (·.evidenceId)).Nodup →
      bindings.foldlM (validateResolveBinding facts) start = .ok output →
      ((start ++ bindings).map (·.evidenceId)).Nodup ∧
        ∀ binding ∈ bindings, ∃ fact ∈ facts, fact.evidenceId = binding.evidenceId ∧
          fact.resolveType = some binding.resolveType ∧
          fact.provenance.sourceRecordRef = binding.sourceRecordRef ∧
          fact.provenance.scopeRef = binding.scopeRef from hfold [] List.nodup_nil h
  clear h
  induction bindings with
  | nil => exact fun start hstart _ => ⟨by simpa using hstart, nofun⟩
  | cons binding bindings ih =>
    intro start hstart h
    obtain ⟨next, hnext, h⟩ := bind_eq_ok_iff.mp (List.foldlM_cons.symm.trans h)
    unfold validateResolveBinding at hnext
    split at hnext
    · cases hnext
    · rename_i fact hfact
      split_ifs at hnext with hdup hmismatch
      obtain rfl := Except.ok.inj hnext
      simp only [not_or, not_not] at hmismatch
      have hid : fact.evidenceId = binding.evidenceId := by simpa using List.find?_some hfact
      have hnodup : ((start ++ [binding]).map (·.evidenceId)).Nodup := by
        rw [List.map_append, List.nodup_append]
        refine ⟨hstart, List.nodup_singleton _, fun a ha b hb heq => hdup ?_⟩
        have hsame : a = binding.evidenceId := heq.trans (List.mem_singleton.mp hb)
        exact hsame ▸ ha
      obtain ⟨hall, hrest⟩ := ih _ hnodup h
      rw [List.append_assoc, List.singleton_append] at hall
      refine ⟨hall, fun b hb => ?_⟩
      rcases List.mem_cons.mp hb with rfl | hb
      · exact ⟨fact, List.mem_of_find?_eq_some hfact, hid, hmismatch.1.symm,
          hmismatch.2.1.symm, hmismatch.2.2.symm⟩
      · exact hrest b hb

theorem admittedFacts_perm (hperm : facts.Perm facts') :
    (admittedFacts facts epoch unit).Perm (admittedFacts facts' epoch unit) := by
  rw [admittedFacts_eq, admittedFacts_eq]
  exact hperm.filter _

theorem admittedBindings_perm (hfacts : facts.Perm facts') (hbindings : bindings.Perm bindings') :
    (admittedBindings facts bindings epoch unit).Perm
      (admittedBindings facts' bindings' epoch unit) := by
  have hsame : admittedBindings facts' bindings' epoch unit =
      admittedBindings facts bindings' epoch unit := by
    refine List.filter_congr fun binding _ => ?_
    rw [decide_eq_decide]
    exact (((admittedFacts_perm hfacts).map _).mem_iff).symm
  rw [hsame]
  exact hbindings.filter _

/-- The facts of a unit only depend on which fact is the first for each artifact. -/
theorem groundedBusinessFacts_perm (hnodup : (facts.map (·.evidenceId)).Nodup)
    (hfacts : facts.Perm facts') (hbindings : bindings.Perm bindings')
    (hfirst : KeepsFirst facts facts' epoch unit) {businessFacts : UnitBusinessFactsV1}
    (h : groundedBusinessFacts policy facts bindings epoch unit = .ok businessFacts) :
    groundedBusinessFacts policy facts' bindings' epoch unit = .ok businessFacts := by
  have hadmitted : (admittedFacts facts epoch unit).Perm (admittedFacts facts' epoch unit) :=
    admittedFacts_perm hfacts
  have hbound : (admittedBindings facts bindings epoch unit).Perm
      (admittedBindings facts' bindings' epoch unit) := admittedBindings_perm hfacts hbindings
  have hvalid : validatedResolveBindingsV1 (admittedFacts facts epoch unit)
      (admittedBindings facts bindings epoch unit) =
        .ok (admittedBindings facts bindings epoch unit) := by
    unfold groundedBusinessFacts deriveUnitBusinessFactsV1 at h
    split_ifs at h
    obtain ⟨output, houtput, _⟩ := bind_eq_ok_iff.mp h
    rwa [validatedResolveBindingsV1_ok houtput] at houtput
  obtain ⟨hids, hnamed⟩ := bound_of_validated hvalid
  have hvalid' : validatedResolveBindingsV1 (admittedFacts facts' epoch unit)
      (admittedBindings facts' bindings' epoch unit) =
        .ok (admittedBindings facts' bindings' epoch unit) := by
    refine validatedResolveBindingsV1_eq_ok
      (nodup_admittedFacts ((hfacts.map _).nodup_iff.mp hnodup)) ((hbound.map _).nodup_iff.mp hids)
      fun binding hbinding => ?_
    obtain ⟨fact, hfact, hrest⟩ := hnamed binding (hbound.mem_iff.mpr hbinding)
    exact ⟨fact, hadmitted.mem_iff.mp hfact, hrest⟩
  have hlookup : ∀ evidenceId, bindingOf (admittedBindings facts' bindings' epoch unit) evidenceId =
      bindingOf (admittedBindings facts bindings epoch unit) evidenceId := fun evidenceId =>
    (find?_perm hbound hids evidenceId).symm
  have hstate : ∀ resolveType, unitResolvableStateV1 unit unit.manifestRef.manifestId.contract
      (admittedFacts facts' epoch unit) (admittedBindings facts' bindings' epoch unit) resolveType =
      unitResolvableStateV1 unit unit.manifestRef.manifestId.contract
        (admittedFacts facts epoch unit) (admittedBindings facts bindings epoch unit)
        resolveType := by
    intro resolveType
    simp only [unitResolvableStateV1, hfirst resolveType, hlookup]
  have hreport : ∀ resolveType materialType, unitReportStateV1 unit
      unit.manifestRef.manifestId.contract (admittedFacts facts' epoch unit)
      (admittedBindings facts' bindings' epoch unit) resolveType materialType =
      unitReportStateV1 unit unit.manifestRef.manifestId.contract (admittedFacts facts epoch unit)
        (admittedBindings facts bindings epoch unit) resolveType materialType := by
    intro resolveType materialType
    have hbinding : bindingForResolveFactV1 (admittedFacts facts' epoch unit)
        (admittedBindings facts' bindings' epoch unit) resolveType =
        bindingForResolveFactV1 (admittedFacts facts epoch unit)
          (admittedBindings facts bindings epoch unit) resolveType := by
      simp only [bindingForResolveFactV1, hfirst resolveType, hlookup]
    simp only [unitReportStateV1, hstate, firstReportSummary_none, hbinding]
  have hrecent : ∀ admitted,
      unitRecentActionsV1 unit unit.manifestRef.manifestId.contract admitted =
      .ok [] := fun admitted => by
    simp [unitRecentActionsV1, (allowedFactTypes_not_mem unit.manifestRef.manifestId).2]
  rw [← h]
  unfold groundedBusinessFacts deriveUnitBusinessFactsV1
  have hbind : ∀ {α β : Type} (a : α) (f : α → Except EvidenceException β),
      (Except.ok a >>= f) = f a := fun _ _ => rfl
  simp only [hadmitted.length_eq, hvalid, hvalid', hbind, hstate, hreport, hrecent]

end Permutations

/-! ## The facts of other scopes -/

section Locality

variable {unit : ExecutionPlanUnitV2} {facts facts' : List CanonicalEvidenceFactV1}
  {bindings : List CanonicalResolveBindingV1} {epoch : Option ℕ} {policy : PolicyManifestV2}

theorem factScopeMatches_of_admitted {contract : CapabilityEvidenceContractV2}
    {fact : CanonicalEvidenceFactV1}
    (h : canonicalFactAdmittedForUnitV1 fact unit contract epoch = true) :
    factScopeMatchesUnitV1 unit fact = true := by
  have hscope := (admitted_iff_allows.mp h).scope
  unfold canonicalScopeMatchesUnitV1 at hscope
  unfold factScopeMatchesUnitV1
  revert hscope
  cases unit.scope with
  | distribution scope =>
    cases fact.scope with
    | distribution =>
      simp only [Bool.and_eq_true, decide_eq_true_eq]
      exact fun hscope => hscope.1
    | unscoped => exact nofun
  | unscoped =>
    cases fact.scope with
    | distribution => exact nofun
    | unscoped => exact fun _ => rfl

/-- Facts of another business scope, channel or products are not admitted. -/
theorem admittedFacts_local
    (h : facts.filter (factScopeMatchesUnitV1 unit) = facts'.filter (factScopeMatchesUnitV1 unit)) :
    admittedFacts facts epoch unit = admittedFacts facts' epoch unit := by
  have hlocal : ∀ l : List CanonicalEvidenceFactV1, admittedFacts l epoch unit =
      (l.filter (factScopeMatchesUnitV1 unit)).filter fun fact =>
        canonicalFactAdmittedForUnitV1 fact unit unit.manifestRef.manifestId.contract epoch := by
    intro l
    rw [admittedFacts_eq, candidateFacts, List.filter_filter]
    refine List.filter_congr fun fact _ => ?_
    cases hfact : canonicalFactAdmittedForUnitV1 fact unit
      unit.manifestRef.manifestId.contract epoch
    · rfl
    · exact (factScopeMatches_of_admitted hfact).symm
  rw [hlocal, hlocal, h]

theorem groundExecutionUnitV2_local
    (h : facts.filter (factScopeMatchesUnitV1 unit) = facts'.filter (factScopeMatchesUnitV1 unit)) :
    groundExecutionUnitV2 policy facts bindings epoch unit =
      groundExecutionUnitV2 policy facts' bindings epoch unit := by
  unfold groundExecutionUnitV2
  rw [admittedFacts_local h]

end Locality

/-! ## Plans -/

/-- What is grounded from other facts and bindings, for the same units. -/
def GroundingsRelated (plan : ExecutionPlanV2)
    (groundings groundings' : List ExecutionUnitGroundingV1)
    (relation : ExecutionPlanUnitV2 → ExecutionUnitGroundingV1 → ExecutionUnitGroundingV1 → Prop) :
    Prop :=
  ∀ unit grounding grounding', (unit, grounding) ∈ plan.units.zip groundings →
    (unit, grounding') ∈ plan.units.zip groundings' → relation unit grounding grounding'

/-- Admission is sound. Reordering the facts and the bindings reorders the admitted evidence, and
keeps the business facts of the units whose first facts stay first; when they all do, the plan is
grounded again. What is added or removed outside the scope of a unit changes nothing for it. -/
theorem groundExecutionPlanV2_admission {plan : ExecutionPlanV2} {policy : PolicyManifestV2}
    {facts : List CanonicalEvidenceFactV1} {bindings : List CanonicalResolveBindingV1}
    {epoch : Option ℕ} {groundings : List ExecutionUnitGroundingV1}
    (h : groundExecutionPlanV2 plan policy facts bindings epoch = .ok groundings) :
    List.Forall₂ (AdmissionSound facts bindings epoch) plan.units groundings ∧
      (∀ facts' bindings', facts.Perm facts' → bindings.Perm bindings' →
        (∀ groundings', groundExecutionPlanV2 plan policy facts' bindings' epoch = .ok groundings' →
          GroundingsRelated plan groundings groundings' fun unit grounding grounding' =>
            grounding.allowedEvidence.Perm grounding'.allowedEvidence ∧
              (KeepsFirst facts facts' epoch unit →
                grounding.businessFacts = grounding'.businessFacts)) ∧
        ((∀ unit ∈ plan.units, KeepsFirst facts facts' epoch unit) →
          ∃ groundings', groundExecutionPlanV2 plan policy facts' bindings' epoch =
            .ok groundings')) ∧
      ∀ facts' groundings', groundExecutionPlanV2 plan policy facts' bindings epoch =
          .ok groundings' →
        GroundingsRelated plan groundings groundings' fun unit grounding grounding' =>
          facts.filter (factScopeMatchesUnitV1 unit) = facts'.filter (factScopeMatchesUnitV1 unit) →
            grounding = grounding' := by
  obtain ⟨hnodup, hunits⟩ := ground_plan_ok h
  refine ⟨hunits.imp fun _ _ hunit => admissionSound_of_ok hnodup hunit, ?_, ?_⟩
  · intro facts' bindings' hfacts hbindings
    have hnodup' := (hfacts.map (·.evidenceId)).nodup_iff.mp hnodup
    constructor
    · intro groundings' h' unit grounding grounding' hmem hmem'
      have hground := (List.forall₂_iff_zip.mp hunits).2 hmem
      have hground' := (List.forall₂_iff_zip.mp (ground_plan_ok h').2).2 hmem'
      obtain ⟨-, hevidence, -, hderive⟩ := ground_unit_ok hnodup hground
      obtain ⟨-, hevidence', -, hderive'⟩ := ground_unit_ok hnodup' hground'
      refine ⟨?_, fun hfirst => ?_⟩
      · rw [hevidence, hevidence']
        exact admittedFacts_perm hfacts
      · have hsame := groundedBusinessFacts_perm hnodup hfacts hbindings hfirst hderive
        exact Except.ok.inj (hsame.symm.trans hderive')
    · intro hfirst
      have hall : ∀ unit ∈ plan.units, ∃ grounding,
          groundExecutionUnitV2 policy facts' bindings' epoch unit = .ok grounding := by
        intro unit hunit
        obtain ⟨grounding, -, hground⟩ := exists_mem_zip hunits hunit
        obtain ⟨eligible, -, -, hderive⟩ := ground_unit_ok hnodup hground
        have hderive' :=
          groundedBusinessFacts_perm hnodup hfacts hbindings (hfirst unit hunit) hderive
        exact ⟨_, (groundExecutionUnitV2_ok_iff eligible hnodup').mpr ⟨_, hderive', rfl⟩⟩
      obtain ⟨groundings', hmap⟩ := exists_mapM_eq_ok_iff.mpr hall
      have hbound := (mapM_eq_ok_iff.mp hmap).imp fun _ _ hunit =>
          groundingBound_of_ok hnodup' hunit
      refine ⟨groundings', ?_⟩
      rw [groundExecutionPlanV2, if_neg (not_not.mpr hnodup')]
      exact bind_eq_ok_iff.mpr ⟨_, hmap,
        bind_eq_ok_iff.mpr ⟨_, validateGroundingPlanBindingV1_eq_ok hbound, rfl⟩⟩
  · intro facts' groundings' h' unit grounding grounding' hmem hmem' hlocal
    have hground := (List.forall₂_iff_zip.mp hunits).2 hmem
    have hground' := (List.forall₂_iff_zip.mp (ground_plan_ok h').2).2 hmem'
    rw [groundExecutionUnitV2_local hlocal] at hground
    exact Except.ok.inj (hground.symm.trans hground')

/-! ## Two reports for one unit -/

namespace TwoReports

/-- A unit that sends the weekly report. -/
def unit : ExecutionPlanUnitV2 where
  unitId := "u1"
  manifestRef := ⟨.weeklyReportSend, .v20260718n1⟩
  answerabilityPolicy := .send
  artifactKind := .weeklyReport
  runtimeCapabilities := [.weeklyReport]
  answerCapabilities := []
  adapterResolves := [⟨.weeklyReport, none, none⟩]
  actionIntents := [⟨.sendWeeklyReport, .weeklyReport, none⟩]
  scope := .distribution ⟨"bsr:0", .bank, none, [], none⟩
  evidenceQuery := none
  ambiguitySlots := []

def plan : ExecutionPlanV2 where
  executionPlanId := "epv:0"
  origin := .directSend
  userNeed := "Send the weekly report"
  responseMode := .action
  complianceReasonCode := "compliant_product_request"
  units := [unit]
  selectedManifestRefs := [unit.manifestRef]
  adapterResolves := unit.adapterResolves
  actionIntents := unit.actionIntents
  hasPlanSpec := false

def policy : PolicyManifestV2 where
  policyId := "pm:0"
  scene := .group
  allowedReplyModes := [.action]
  eligibleCapabilities := [unit.manifestRef]
  allowedReadCapabilities := [.resolveWeeklyReport]
  allowedOutboundActions := [.sendWeeklyReport]
  allowedMentionTypes := []
  allowedAdapterResolves := [.weeklyReport]
  internalCompanyKnowledgeEnabled := false
  actionsAllowed := true
  mentionsAllowed := false
  materialPackOptions := []
  businessScopeHash := "bsh1:0"

/-- A report that the adapter resolved. -/
def fact (evidenceId : String) : CanonicalEvidenceFactV1 where
  evidenceId
  factType := .weeklyReportResolvable
  sourceType := .adapterResolve
  artifactType := .weeklyReport
  resolveType := some .weeklyReport
  value := .boolean true
  scope := .distribution "bsr:0" .bank [] .weeklyReport none none none
  provenance := ⟨"adapter", "record:0", "adapter-resolve", "adapter_resolve", "scope:0", some 1, []⟩
  observedAtEpochSeconds := some 1
  publicUrls := []
  reportPayload := none
  recentExecutedAction := none

def binding (evidenceId resolveRef : String) : CanonicalResolveBindingV1 where
  evidenceId
  resolveType := .weeklyReport
  sourceRecordRef := "record:0"
  scopeRef := "scope:0"
  resolveRef
  period := some "2026W29"
  reportDate := some "2026-07-17"

def bindings : List CanonicalResolveBindingV1 := [binding "e1" "ref-1", binding "e2" "ref-2"]

/-- The references to the weekly report in what is grounded. -/
def references (facts : List CanonicalEvidenceFactV1) :
    Except EvidenceException (List (Option String)) :=
  (groundExecutionPlanV2 plan policy facts bindings none).map
    (·.map (·.businessFacts.weeklyReport.resolveRef))

end TwoReports

open TwoReports in
theorem groundExecutionPlanV2_admission_two : ∃ groundings,
    groundExecutionPlanV2 plan policy [fact "e1", fact "e2"] bindings none = .ok groundings ∧
      List.Forall₂ (AdmissionSound [fact "e1", fact "e2"] bindings none) plan.units groundings :=
  (exists_of_isOk (by decide +kernel)).imp fun _ h => ⟨h, (groundExecutionPlanV2_admission h).1⟩

open TwoReports in
/-- With the facts in the other order, the other report is sent. -/
theorem swappedFacts_differ : [fact "e1", fact "e2"].Perm [fact "e2", fact "e1"] ∧
    references [fact "e1", fact "e2"] = .ok [some "ref-1"] ∧
    references [fact "e2", fact "e1"] = .ok [some "ref-2"] :=
  ⟨.swap _ _ _, by decide +kernel, by decide +kernel⟩

end MarketSupport
