import MarketSupport.Evidence.KnowledgeGateway
import MarketSupport.Integrations.ReportScope

/-!
# What the executor collects

The executor adds the facts of the report scopes and of company knowledge to those of the
adapter's resolves. Every fact has the hash of its identity as its id, and facts of different
sources have different types.

## Main results

* `sourceType_of_collected` — no other source has facts of the adapter's resolves.
* `adapterEvidence` — the facts and the bindings that the adapter gives.
-/

namespace MarketSupport

open Library Program

/-! ## The sources -/

/-- How the report scope service ends for a plan: it has no facts where there is no such service
and for a plan that is not compliant. -/
def ReportsAnswered (hashes : EvidenceHashes) (plan : ExecutionPlanV2) (policy : PolicyManifestV2)
    (preflight : List AdapterPreflightRecord) (refetch : Option AlignmentRefetchRequestV1)
    (result : Except EvidenceException (List CanonicalEvidenceFactV1)) : Prop :=
  result = .ok [] ∨ ∃ distName ready l, Trace (collectReportScope hashes distName
    (reportTargets plan policy preflight refetch) ready) l result

/-- How the knowledge gateway ends for a plan: it has no facts where there is no gateway. -/
def KnowledgeAnswered (fns : EvidenceFunctions) (catalog : ApprovedCatalog)
    (plan : ExecutionPlanV2) (policy : PolicyManifestV2)
    (refetch : Option AlignmentRefetchRequestV1)
    (result : Except EvidenceException (List CanonicalEvidenceFactV1)) : Prop :=
  result = .ok [] ∨ ∃ scene stateKeyRef documentCacheConfig l knowledge,
    Trace (collectKnowledge fns catalog plan policy scene stateKeyRef documentCacheConfig refetch)
      l knowledge ∧ result = knowledge.map (·.facts)

/-- How both of them end, one after the other. -/
def SourcesAnswered (fns : EvidenceFunctions) (catalog : ApprovedCatalog) (plan : ExecutionPlanV2)
    (policy : PolicyManifestV2) (preflight : List AdapterPreflightRecord)
    (refetch : Option AlignmentRefetchRequestV1)
    (result : Except EvidenceException (List CanonicalEvidenceFactV1)) : Prop :=
  ∃ reports knowledge, ReportsAnswered fns.toEvidenceHashes plan policy preflight refetch reports ∧
    KnowledgeAnswered fns catalog plan policy refetch knowledge ∧
    result = reports.bind fun facts => knowledge.map (facts ++ ·)

section

variable {fns : EvidenceFunctions} {catalog : ApprovedCatalog} {plan : ExecutionPlanV2}
  {policy : PolicyManifestV2} {preflight : List AdapterPreflightRecord}
  {refetch : Option AlignmentRefetchRequestV1} {facts : List CanonicalEvidenceFactV1}

theorem ReportsAnswered.spec {hashes : EvidenceHashes}
    (h : ReportsAnswered hashes plan policy preflight refetch (.ok facts)) :
    ReportScopeFacts hashes facts := by
  obtain hnone | ⟨_, _, _, trace⟩ := h
  · cases hnone
    exact ⟨List.nodup_nil, by simp⟩
  · exact trace.returns collectReportScope_spec

theorem KnowledgeAnswered.spec (h : KnowledgeAnswered fns catalog plan policy refetch (.ok facts)) :
    KnowledgeResult fns.toEvidenceHashes ⟨facts, []⟩ := by
  obtain hnone | ⟨_, _, _, _, knowledge, trace, hfacts⟩ := h
  · cases hnone
    exact ⟨List.nodup_nil, by simp⟩
  · cases knowledge with
    | error e => cases hfacts
    | ok knowledge =>
      cases hfacts
      obtain ⟨nodup, hspec⟩ := trace.returns collectKnowledge_spec
      exact ⟨nodup, hspec⟩

theorem SourcesAnswered.eq_append
    (h : SourcesAnswered fns catalog plan policy preflight refetch (.ok facts)) :
    ∃ reports knowledge, facts = reports ++ knowledge ∧
      ReportsAnswered fns.toEvidenceHashes plan policy preflight refetch (.ok reports) ∧
      KnowledgeAnswered fns catalog plan policy refetch (.ok knowledge) := by
  obtain ⟨reports, knowledge, hreports, hknowledge, hfacts⟩ := h
  cases reports with
  | error e => cases hfacts
  | ok reports =>
    cases knowledge with
    | error e => cases hfacts
    | ok knowledge =>
      cases hfacts
      exact ⟨reports, knowledge, rfl, hreports, hknowledge⟩

/-- No other source has facts of the adapter's resolves. -/
theorem sourceType_of_collected
    (h : SourcesAnswered fns catalog plan policy preflight refetch (.ok facts)) :
    ∀ fact ∈ facts, fact.sourceType ≠ .adapterResolve := by
  obtain ⟨reports, knowledge, rfl, hreports, hknowledge⟩ := h.eq_append
  intro fact hfact htype
  rcases List.mem_append.mp hfact with hfact | hfact
  · have hreport := (hreports.spec.facts fact hfact).sourceType
    simp [htype] at hreport
  · have hknown := (hknowledge.spec.facts fact hfact).sourceType
    simp [htype] at hknown

end

/-! ## The evidence of the adapter -/

/-- Facts of different types have different ids. -/
def FactIdsSeparate (hashes : EvidenceHashes) : Prop :=
  ∀ i j, hashes.factId i = hashes.factId j → i.factType = j.factType

/-- Facts with distinct ids, none of them a document context, and bindings that agree with the
facts they name. -/
structure AdapterEvidence (hashes : EvidenceHashes) (facts : List CanonicalEvidenceFactV1)
    (bindings : List CanonicalResolveBindingV1) : Prop where
  nodup : (facts.map (·.evidenceId)).Nodup
  notDocument : ∀ fact ∈ facts, fact.factType ≠ .documentContext
  hashed : ∀ fact ∈ facts, ∃ identity : EvidenceFactIdentityV1,
    identity.factType = fact.factType ∧ hashes.factId identity = fact.evidenceId
  nodup_bindings : (bindings.map (·.evidenceId)).Nodup
  bound : ∀ binding ∈ bindings, ∃ fact ∈ facts, fact.evidenceId = binding.evidenceId ∧
    fact.resolveType = some binding.resolveType ∧
    fact.provenance.sourceRecordRef = binding.sourceRecordRef ∧
    fact.provenance.scopeRef = binding.scopeRef

section

variable {hashes : EvidenceHashes} {plan : ExecutionPlanV2} {policy : PolicyManifestV2}
  {preflight : List AdapterPreflightRecord} {facts : List CanonicalEvidenceFactV1}
  {bindings : List CanonicalResolveBindingV1}

/-- The facts of the adapter's resolves. -/
theorem adapterEvidence_resolves
    (built : canonicalAdapterFactsV1 hashes plan preflight = .ok (facts, bindings)) :
    AdapterEvidence hashes facts bindings ∧
      ∀ fact ∈ facts, ∃ resolveType : AdapterResolveType, fact.factType = resolveType.factType := by
  obtain ⟨rfl, rfl⟩ := canonicalAdapterFactsV1_eq_ok built
  have hfact : ∀ fact ∈ dictValues (·.evidenceId) ((servedResolves plan preflight).map
      (·.fact hashes)), ∃ served : ServedResolve, served.fact hashes = fact := by
    intro fact hfact
    obtain ⟨served, _, heq⟩ := List.mem_map.mp (mem_of_mem_dictValues hfact)
    exact ⟨served, heq⟩
  refine ⟨⟨nodup_dictValues, fun fact hmem => ?_, fun fact hmem => ?_, nodup_dictValues,
    fun binding hmem => ?_⟩, fun fact hmem => ?_⟩
  · obtain ⟨served, rfl⟩ := hfact fact hmem
    cases h : served.resolveType <;>
      simp [ServedResolve.fact, resolvedFact, h, AdapterResolveType.factType]
  · obtain ⟨served, rfl⟩ := hfact fact hmem
    exact ⟨_, rfl, rfl⟩
  · -- facts and bindings have the same ids, so the same resolves are kept of both
    rw [dictValues_map] at hmem ⊢
    obtain ⟨served, hserved, rfl⟩ := List.mem_map.mp hmem
    exact ⟨served.fact hashes, List.mem_map_of_mem hserved, rfl, rfl, rfl, rfl⟩
  · obtain ⟨served, rfl⟩ := hfact fact hmem
    exact ⟨served.resolveType, rfl⟩

/-- What the adapter's resolves and the report scopes give together. -/
theorem adapterEvidence (separate : FactIdsSeparate hashes)
    (built : canonicalAdapterFactsV1 hashes plan preflight = .ok (facts, bindings))
    {reports : List CanonicalEvidenceFactV1} {refetch : Option AlignmentRefetchRequestV1}
    (reported : ReportsAnswered hashes plan policy preflight refetch (.ok reports)) :
    AdapterEvidence hashes (facts ++ reports) bindings := by
  obtain ⟨evidence, hresolves⟩ := adapterEvidence_resolves built
  obtain ⟨nodup, hreports⟩ := reported.spec
  have hne : ∀ fact ∈ facts, ∀ report ∈ reports, fact.evidenceId ≠ report.evidenceId := by
    intro fact hfact report hreport heq
    obtain ⟨i, hi, hid⟩ := evidence.hashed fact hfact
    obtain ⟨j, hj, hid'⟩ := (hreports report hreport).hashed
    have htype : fact.factType = report.factType :=
      hi.symm.trans ((separate i j (hid.trans (heq.trans hid'.symm))).trans hj)
    obtain ⟨resolveType, hresolve⟩ := hresolves fact hfact
    have hmem := (hreports report hreport).factType
    rw [← htype, hresolve] at hmem
    cases resolveType <;> simp [AdapterResolveType.factType] at hmem
  constructor
  · rw [List.map_append, List.nodup_append]
    refine ⟨evidence.nodup, nodup, ?_⟩
    simpa using hne
  · refine fun fact hfact htype => ?_
    rcases List.mem_append.mp hfact with hfact | hfact
    · exact evidence.notDocument fact hfact htype
    · have hmem := (hreports fact hfact).factType
      simp [htype] at hmem
  · intro fact hfact
    rcases List.mem_append.mp hfact with hfact | hfact
    · exact evidence.hashed fact hfact
    · exact (hreports fact hfact).hashed
  · exact evidence.nodup_bindings
  · intro binding hbinding
    obtain ⟨fact, hfact, hbound⟩ := evidence.bound binding hbinding
    exact ⟨fact, List.mem_append_left _ hfact, hbound⟩

end

end MarketSupport
