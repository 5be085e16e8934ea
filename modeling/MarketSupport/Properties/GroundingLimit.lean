import MarketSupport.Evidence.Collected

/-!
# Grounding and the size of the corpus

A unit is grounded on at most 32 facts, while the document store may return 50 documents for
each unit. The collected documents ground a plan exactly when no unit admits more than 32.

## Main results

* `groundExecutionPlanV2_corpus` — when the facts of a turn can be grounded.
-/

namespace MarketSupport

open Library Program

/-- What the adapter reported for a unit is well-formed: not too many facts, no empty material
pack option, and ISO dates. -/
structure AdapterUsable (facts : List CanonicalEvidenceFactV1)
    (bindings : List CanonicalResolveBindingV1) (evaluationEpochSeconds : Option ℕ)
    (unit : ExecutionPlanUnitV2) : Prop where
  limit : (candidateFacts facts evaluationEpochSeconds unit).length ≤ 32
  option : MaterialOptionUsable unit unit.manifestRef.manifestId.contract
    (candidateFacts facts evaluationEpochSeconds unit)
  date : ∀ resolveType ∈ [.weeklyReport, .monthlyReport],
    ReportDateUsable unit unit.manifestRef.manifestId.contract
      (candidateFacts facts evaluationEpochSeconds unit)
      (bindings.filter (·.evidenceId ∈
        (candidateFacts facts evaluationEpochSeconds unit).map (·.evidenceId))) resolveType

section

variable {fns : EvidenceFunctions} {catalog : ApprovedCatalog} {plan : ExecutionPlanV2}
  {policy : PolicyManifestV2} {scene : Scene} {stateKeyRef : Option String}
  {documentCacheConfig : Option DocumentMcpCacheConfigV1}
  {alignmentRefetchRequest : Option AlignmentRefetchRequestV1}
  {adapterFacts : List CanonicalEvidenceFactV1} {bindings : List CanonicalResolveBindingV1}
  {evaluationEpochSeconds : Option ℕ} {knowledge : InternalCompanyKnowledgeResultV1}
  {unit : ExecutionPlanUnitV2}

/-! ## The facts of one unit -/

theorem mem_knowledgeTargets_iff (valid : validateExecutionPlanV2 plan policy = [])
    (hunit : unit ∈ plan.units) : unit ∈ knowledgeTargets plan policy ↔
      unit.manifestRef.manifestId = .answerInternalCompanyKnowledge := by
  have hversion := ManifestVersionV2.eq .v20260718n1 unit.manifestRef.manifestVersion
  simp [knowledgeTargets, hunit, eligible_of_valid valid hunit, hversion]

/-- A knowledge unit is grounded on what the gateway returned. -/
theorem candidateFacts_knowledge
    (adapter : AdapterEvidence fns.toEvidenceHashes adapterFacts bindings)
    (hunit : unit.manifestRef.manifestId = .answerInternalCompanyKnowledge) :
    candidateFacts (adapterFacts ++ knowledge.facts) evaluationEpochSeconds unit =
      candidateFacts knowledge.facts evaluationEpochSeconds unit := by
  have hnone : candidateFacts adapterFacts evaluationEpochSeconds unit = [] := by
    refine List.filter_eq_nil_iff.mpr fun fact hfact hadmitted => ?_
    have htype := factType_mem_of_admitted hadmitted
    rw [hunit] at htype
    exact adapter.notDocument fact hfact (List.mem_singleton.mp htype)
  exact (List.filter_append ..).trans (by rw [← candidateFacts, hnone]; rfl)

/-- Any other unit is grounded on what the adapter reported. -/
theorem candidateFacts_adapter (result : KnowledgeResult fns.toEvidenceHashes knowledge)
    (hunit : unit.manifestRef.manifestId ≠ .answerInternalCompanyKnowledge) :
    candidateFacts (adapterFacts ++ knowledge.facts) evaluationEpochSeconds unit =
      candidateFacts adapterFacts evaluationEpochSeconds unit := by
  have hnot : .documentContext ∉ unit.manifestRef.manifestId.contract.allowedFactTypes := by
    cases h : unit.manifestRef.manifestId <;> simp_all <;> decide
  have hnone : candidateFacts knowledge.facts evaluationEpochSeconds unit = [] := by
    refine List.filter_eq_nil_iff.mpr fun fact hfact hadmitted => hnot ?_
    exact (result.facts fact hfact).factType ▸ factType_mem_of_admitted hadmitted
  exact (List.filter_append ..).trans
    (by rw [← candidateFacts, ← candidateFacts, hnone, List.append_nil])

/-- The ids of the adapter and of the gateway do not meet. -/
theorem adapterId_ne (separate : FactIdsSeparate fns.toEvidenceHashes)
    (adapter : AdapterEvidence fns.toEvidenceHashes adapterFacts bindings)
    (result : KnowledgeResult fns.toEvidenceHashes knowledge) :
    ∀ fact ∈ adapterFacts, ∀ fact' ∈ knowledge.facts, fact.evidenceId ≠ fact'.evidenceId := by
  intro fact hfact fact' hfact' heq
  obtain ⟨i, hi, hid⟩ := adapter.hashed fact hfact
  obtain ⟨j, hj, hid'⟩ := (result.facts fact' hfact').hashed
  have htype : i.factType = j.factType := separate i j (hid.trans (heq.trans hid'.symm))
  exact adapter.notDocument fact hfact (hi.symm.trans (htype.trans hj))

theorem exists_groundedBusinessFacts_knowledge (separate : FactIdsSeparate fns.toEvidenceHashes)
    (adapter : AdapterEvidence fns.toEvidenceHashes adapterFacts bindings)
    (result : KnowledgeResult fns.toEvidenceHashes knowledge)
    (hunit : unit.manifestRef.manifestId = .answerInternalCompanyKnowledge) :
    (∃ businessFacts, groundedBusinessFacts policy (adapterFacts ++ knowledge.facts) bindings
        evaluationEpochSeconds unit = .ok businessFacts) ↔
      (candidateFacts knowledge.facts evaluationEpochSeconds unit).length ≤ 32 := by
  have hfacts : admittedFacts (adapterFacts ++ knowledge.facts) evaluationEpochSeconds unit =
      candidateFacts knowledge.facts evaluationEpochSeconds unit := by
    rw [admittedFacts_eq, candidateFacts_knowledge adapter hunit]
  have htype : ∀ fact ∈ candidateFacts knowledge.facts evaluationEpochSeconds unit,
      fact.factType = .documentContext := fun fact hfact =>
    (result.facts fact (List.mem_filter.mp hfact).1).factType
  have hfirst : ∀ resolveType, firstResolvableFactV1
      (candidateFacts knowledge.facts evaluationEpochSeconds unit) resolveType = none := by
    refine fun resolveType => List.find?_eq_none.mpr fun fact hfact => ?_
    cases resolveType <;> simp [htype fact hfact, AdapterResolveType.factType]
  have hbindings : admittedBindings (adapterFacts ++ knowledge.facts) bindings
      evaluationEpochSeconds unit = [] := by
    refine List.filter_eq_nil_iff.mpr fun binding hbinding hmem => ?_
    obtain ⟨fact, hfact, hid, _⟩ := adapter.bound binding hbinding
    obtain ⟨fact', hfact', hid'⟩ := List.mem_map.mp (of_decide_eq_true hmem)
    rw [hfacts] at hfact'
    exact adapterId_ne separate adapter result fact hfact fact' (List.mem_filter.mp hfact').1
      (hid.trans hid'.symm)
  unfold groundedBusinessFacts
  rw [hfacts, hbindings, exists_deriveUnitBusinessFactsV1_iff rfl
    (fun fact hfact => by rw [htype fact hfact]; decide)
    (allowedFactTypes_not_mem _).2 rfl]
  simp [MaterialOptionUsable, ReportDateUsable, bindingForResolveFactV1, hfirst]

theorem exists_groundedBusinessFacts_adapter
    (adapter : AdapterEvidence fns.toEvidenceHashes adapterFacts bindings)
    (result : KnowledgeResult fns.toEvidenceHashes knowledge)
    (hunit : unit.manifestRef.manifestId ≠ .answerInternalCompanyKnowledge) :
    (∃ businessFacts, groundedBusinessFacts policy (adapterFacts ++ knowledge.facts) bindings
        evaluationEpochSeconds unit = .ok businessFacts) ↔
      AdapterUsable adapterFacts bindings evaluationEpochSeconds unit := by
  have hfacts : admittedFacts (adapterFacts ++ knowledge.facts) evaluationEpochSeconds unit =
      candidateFacts adapterFacts evaluationEpochSeconds unit := by
    rw [admittedFacts_eq, candidateFacts_adapter result hunit]
  have htype : ∀ fact ∈ candidateFacts adapterFacts evaluationEpochSeconds unit,
      fact.factType ∈ unit.manifestRef.manifestId.contract.allowedFactTypes := fun fact hfact =>
    factType_mem_of_admitted (List.mem_filter.mp hfact).2
  have hbound : validatedResolveBindingsV1 (candidateFacts adapterFacts evaluationEpochSeconds unit)
      (admittedBindings (adapterFacts ++ knowledge.facts) bindings evaluationEpochSeconds unit) =
      .ok (admittedBindings (adapterFacts ++ knowledge.facts) bindings evaluationEpochSeconds
        unit) := by
    refine validatedResolveBindingsV1_eq_ok
      (adapter.nodup.sublist (List.filter_sublist.map _))
      (adapter.nodup_bindings.sublist (List.filter_sublist.map _)) fun binding hbinding => ?_
    obtain ⟨hmem, hid⟩ := List.mem_filter.mp hbinding
    obtain ⟨fact, hfact, hbind, hrest⟩ := adapter.bound binding hmem
    obtain ⟨fact', hfact', hid'⟩ := List.mem_map.mp (of_decide_eq_true hid)
    rw [hfacts] at hfact'
    have heq : fact' = fact := List.inj_on_of_nodup_map adapter.nodup
      (List.mem_filter.mp hfact').1 hfact (hid'.trans hbind.symm)
    exact ⟨fact, heq ▸ hfact', hbind, hrest⟩
  unfold groundedBusinessFacts
  rw [hfacts, exists_deriveUnitBusinessFactsV1_iff rfl
    (fun fact hfact heq => (allowedFactTypes_not_mem _).1 (heq ▸ htype fact hfact))
    (allowedFactTypes_not_mem _).2 hbound]
  rw [admittedBindings, hfacts]
  constructor
  · rintro ⟨limit, option, weekly, monthly⟩
    exact ⟨limit, option, List.forall_mem_cons.mpr ⟨weekly, List.forall_mem_singleton.mpr monthly⟩⟩
  · rintro ⟨limit, option, date⟩
    exact ⟨limit, option, date _ (by simp), date _ (by simp)⟩

/-! ## The facts of a plan -/

/-- A plan within the policy is grounded on what the executor collects exactly when no knowledge
unit admits more than 32 of the facts of the corpus, and what the adapter reported is usable for
the other units. -/
theorem groundExecutionPlanV2_corpus (valid : validateExecutionPlanV2 plan policy = [])
    (separate : FactIdsSeparate fns.toEvidenceHashes)
    {preflight : List AdapterPreflightRecord} {resolved reports : List CanonicalEvidenceFactV1}
    (built : canonicalAdapterFactsV1 fns.toEvidenceHashes plan preflight = .ok (resolved, bindings))
    (reported : ReportsAnswered fns.toEvidenceHashes plan policy preflight alignmentRefetchRequest
      (.ok reports))
    {l : List (Exchange KnowledgeCall KnowledgeCall.Answer)}
    (trace : Trace (collectKnowledge fns catalog plan policy scene stateKeyRef documentCacheConfig
      alignmentRefetchRequest) l (.ok knowledge)) :
    (∃ groundings, groundExecutionPlanV2 plan policy (resolved ++ (reports ++ knowledge.facts))
        bindings evaluationEpochSeconds = .ok groundings ∧
          groundings.length = plan.units.length) ↔
      (∀ unit ∈ knowledgeTargets plan policy,
        (candidateFacts knowledge.facts evaluationEpochSeconds unit).length ≤ 32) ∧
      ∀ unit ∈ plan.units, unit ∉ knowledgeTargets plan policy →
        AdapterUsable (resolved ++ reports) bindings evaluationEpochSeconds unit := by
  have adapter := adapterEvidence separate built reported
  have result : KnowledgeResult fns.toEvidenceHashes knowledge :=
    trace.returns collectKnowledge_spec
  rw [← List.append_assoc]
  generalize resolved ++ reports = adapterFacts at adapter ⊢
  have hnodup : ((adapterFacts ++ knowledge.facts).map (·.evidenceId)).Nodup := by
    rw [List.map_append, List.nodup_append]
    refine ⟨adapter.nodup, result.nodup, ?_⟩
    simpa using adapterId_ne separate adapter result
  rw [groundExecutionPlanV2_ok_iff valid hnodup]
  constructor
  · refine fun h => ⟨fun unit hunit => ?_, fun unit hunit hnot => ?_⟩
    · have hmem : unit ∈ plan.units := (List.mem_filter.mp hunit).1
      exact (exists_groundedBusinessFacts_knowledge separate adapter result
        ((mem_knowledgeTargets_iff valid hmem).mp hunit)).mp (h unit hmem)
    · rw [mem_knowledgeTargets_iff valid hunit] at hnot
      exact (exists_groundedBusinessFacts_adapter adapter result hnot).mp (h unit hunit)
  · rintro ⟨hknowledge, hadapter⟩ unit hunit
    by_cases htarget : unit ∈ knowledgeTargets plan policy
    · exact (exists_groundedBusinessFacts_knowledge separate adapter result
        ((mem_knowledgeTargets_iff valid hunit).mp htarget)).mpr (hknowledge unit htarget)
    · have hnot := (mem_knowledgeTargets_iff valid hunit).not.mp htarget
      exact (exists_groundedBusinessFacts_adapter adapter result hnot).mpr
        (hadapter unit hunit htarget)

end

/-! ## A large corpus -/

namespace Corpus

/-- Hashes that keep the source record and the fact type apart. -/
def functions : EvidenceFunctions where
  scopeRef _ := "escope1:0"
  sourceRecordRef
    | .documentMcp _ _ documentId _ => documentId
    | .approvedStatic _ canonicalId => canonicalId
    | .adapter _ _ _ ref => ref
  valueHash _ := "evh1:0"
  reportHash _ := "report:0"
  provenanceHash _ := "eph1:0"
  factId identity := String.singleton (Char.ofNat (97 + identity.factType.ctorIdx)) ++
    identity.sourceRecordRef
  sanitizeDocumentText text := text

def catalog : ApprovedCatalog := ⟨[], []⟩

def manifestRef : ManifestRefV1 := approvedStaticManifestRef

/-- A unit that asks the corpus. -/
def unit (unitId query : String) : ExecutionPlanUnitV2 where
  unitId
  manifestRef
  answerabilityPolicy := .answer
  artifactKind := .knowledgeAnswer
  runtimeCapabilities := []
  answerCapabilities := [.documentContext]
  adapterResolves := []
  actionIntents := []
  scope := .unscoped
  evidenceQuery := some query
  ambiguitySlots := []

/-- A question about the company. -/
def plan (units : List ExecutionPlanUnitV2) : ExecutionPlanV2 where
  executionPlanId := "epl1:0"
  origin := .planner
  userNeed := "How are redemptions settled?"
  responseMode := .knowledgeAnswer
  complianceReasonCode := "unknown"
  units
  selectedManifestRefs := [manifestRef]
  adapterResolves := []
  actionIntents := []
  hasPlanSpec := true

/-- A plan with one knowledge unit. -/
def onePlan : ExecutionPlanV2 := plan [unit "unit-1" "redemption settlement"]

/-- A plan with two of them. -/
def twoPlan : ExecutionPlanV2 :=
  plan [unit "unit-1" "redemption settlement", unit "unit-2" "subscription fees"]

def policy : PolicyManifestV2 where
  policyId := "policy"
  scene := .direct
  allowedReplyModes := [.knowledgeAnswer]
  eligibleCapabilities := [manifestRef]
  allowedReadCapabilities := [.queryInternalCompanyInfo]
  allowedOutboundActions := []
  allowedMentionTypes := []
  allowedAdapterResolves := []
  internalCompanyKnowledgeEnabled := true
  actionsAllowed := false
  mentionsAllowed := false
  materialPackOptions := []
  businessScopeHash := "bsh1:0"

/-- A document of the corpus; the store returns at most 50 of them. -/
def document (n : Fin 50) : GatewayDocumentContextV1 where
  documentId := String.singleton (Char.ofNat (65 + n))
  title := "FAQ"
  text := "T+1"
  documentId_bounds := by simp
  title_bound := by decide
  text_bounds := by decide

def documents (start count : ℕ) : List GatewayDocumentContextV1 :=
  (((List.finRange 50).drop start).take count).map document

/-- The store returns a part of the corpus for every query, and the catalog nothing. -/
def answer (found : String → List GatewayDocumentContextV1) :
    (c : KnowledgeCall) → KnowledgeCall.Answer c
  | .documents query _ => .ok (found query)
  | .statics .. => .ok []

/-- What is collected for a plan. -/
def collected (plan : ExecutionPlanV2) (found : String → List GatewayDocumentContextV1) :
    List (Exchange KnowledgeCall KnowledgeCall.Answer) ×
      Except EvidenceException InternalCompanyKnowledgeResultV1 :=
  (collectKnowledge functions catalog plan policy .direct none none none).run (answer found)

theorem trace_collected (plan : ExecutionPlanV2)
    (found : String → List GatewayDocumentContextV1) : Trace
    (collectKnowledge functions catalog plan policy .direct none none none)
    (collected plan found).1 (collected plan found).2 := trace_run (answer found) _

/-- Twenty documents for each of two queries, eight of them for both. -/
def overlapping (query : String) : List GatewayDocumentContextV1 :=
  if query = "redemption settlement" then documents 0 20 else documents 12 20

theorem factIdsSeparate : FactIdsSeparate functions.toEvidenceHashes := by
  intro i j h
  have hhead : Char.ofNat (97 + i.factType.ctorIdx) = Char.ofNat (97 + j.factType.ctorIdx) := by
    have hlist := congrArg (·.toList.head?) h
    simpa [functions] using hlist
  revert hhead
  generalize i.factType = s
  generalize j.factType = t
  cases s <;> cases t <;> decide

end Corpus

open Corpus in
/-- With twenty documents for each of two units, eight of them the same, both are grounded on the
32 documents. -/
theorem groundExecutionPlanV2_corpus_two : ∃ knowledge groundings,
    (collected twoPlan overlapping).2 = .ok knowledge ∧ knowledge.facts.length = 32 ∧
      groundExecutionPlanV2 twoPlan policy knowledge.facts [] none = .ok groundings ∧
      groundings.length = 2 := by
  have hlength : (collected twoPlan overlapping).2.map (·.facts.length) = .ok 32 := by
    decide +kernel
  cases hok : (collected twoPlan overlapping).2 with
  | error e =>
    rw [hok] at hlength
    cases hlength
  | ok knowledge =>
    rw [hok] at hlength
    have hfacts : knowledge.facts.length = 32 := Except.ok.inj hlength
    have trace := trace_collected twoPlan overlapping
    rw [hok] at trace
    have valid : validateExecutionPlanV2 twoPlan policy = [] := by decide
    have built : canonicalAdapterFactsV1 functions.toEvidenceHashes twoPlan [] = .ok ([], []) := rfl
    obtain ⟨groundings, hground, hunits⟩ : ∃ groundings, groundExecutionPlanV2 twoPlan policy
        ([] ++ ([] ++ knowledge.facts)) [] none = .ok groundings ∧
          groundings.length = twoPlan.units.length :=
      (groundExecutionPlanV2_corpus valid factIdsSeparate built (.inl rfl) trace).mpr
      ⟨fun unit _ => (List.length_filter_le _ _).trans hfacts.le, fun unit hunit hnot => by
        rw [mem_knowledgeTargets_iff valid hunit] at hnot
        simp only [twoPlan, plan, List.mem_cons, List.not_mem_nil, or_false] at hunit
        obtain rfl | rfl := hunit <;> exact absurd rfl hnot⟩
    exact ⟨knowledge, groundings, rfl, hfacts, hground, hunits⟩

open Corpus in
/-- With 33 documents for one unit, grounding raises. -/
theorem groundExecutionPlanV2_overflow : validateExecutionPlanV2 onePlan policy = [] ∧
    ∃ knowledge, Trace (collectKnowledge functions catalog onePlan policy .direct none none none)
        [⟨.documents "redemption settlement" none, .ok (documents 0 33)⟩,
          ⟨.statics "redemption settlement", .ok []⟩] (.ok knowledge) ∧
      groundExecutionPlanV2 onePlan policy knowledge.facts [] none =
        .error (.businessFactsContractError "unit_business_facts_evidence_limit_exceeded") := by
  have hcollected : ((collected onePlan fun _ => documents 0 33).2 >>= fun knowledge =>
      (.ok (groundExecutionPlanV2 onePlan policy knowledge.facts [] none) :
        Except EvidenceException _)) = .ok (.error
          (.businessFactsContractError "unit_business_facts_evidence_limit_exceeded")) := by
    decide +kernel
  obtain ⟨knowledge, hok, hground⟩ := bind_eq_ok_iff.mp hcollected
  refine ⟨by decide, knowledge, ?_, Except.ok.inj hground⟩
  rw [← hok]
  exact trace_collected onePlan fun _ => documents 0 33

end MarketSupport
