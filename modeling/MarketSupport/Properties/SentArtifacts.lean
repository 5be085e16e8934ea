import MarketSupport.Evidence.Executor
import MarketSupport.Rendering.V2Attempt

/-!
# Sent artifacts

What an action of a plan sends: the one result that the adapter gave for the type of the action,
with the options of the unit and of the first unit whose evidence it may use.

## Main results

* `firstResolvable_send` — the evidence of an artifact that a unit is grounded on.
* `actionFromGrounding_eq` — the action of an intent, from the plan and the adapter's results.
-/

namespace MarketSupport

open Library

/-! ## Types of actions -/

/-- The capability that sends what an action sends. -/
def OutboundActionType.sendManifest : OutboundActionType → CapabilityManifestIdV2
  | .sendMaterialPack => .materialPackSend
  | .sendWeeklyReport => .weeklyReportSend
  | .sendMonthlyReport => .monthlyReportSend

/-- `resolve_type_for_action`. -/
def OutboundActionType.resolveType : OutboundActionType → AdapterResolveType
  | .sendMaterialPack => .materialPack
  | .sendWeeklyReport => .weeklyReport
  | .sendMonthlyReport => .monthlyReport

/-- The type that an action has in a reply. -/
def OutboundActionType.executionType : OutboundActionType → ActionExecutionType
  | .sendMaterialPack => .sendMaterialPack
  | .sendWeeklyReport => .sendWeeklyReport
  | .sendMonthlyReport => .sendMonthlyReport

theorem contract_sendManifest (a : OutboundActionType) : a.sendManifest.contract =
    sendContract a.resolveType.factType a.resolveType.artifactType := by
  cases a <;> rfl

/-- Only the capability that sends an artifact uses evidence of the artifact. -/
theorem factType_mem_allowed_iff (a : OutboundActionType) (manifestId : CapabilityManifestIdV2) :
    a.resolveType.factType ∈ manifestId.contract.allowedFactTypes ↔
      manifestId = a.sendManifest := by
  cases a <;> cases manifestId <;> decide

theorem AdapterResolveType.factType_injective : Function.Injective AdapterResolveType.factType := by
  intro a b h
  cases a <;> cases b <;> simp_all [AdapterResolveType.factType]

/-! ## Evidence of the adapter -/

/-- The references that the hashes give are not empty. -/
structure EvidenceHashes.Nonempty (hashes : EvidenceHashes) : Prop where
  scopeRef : ∀ scope, hashes.scopeRef scope ≠ ""
  sourceRecordRef : ∀ key, hashes.sourceRecordRef key ≠ ""

/-- The units have the same evidence scope, which leaves out the option and the time range. -/
def sameEvidenceScope (unit other : ExecutionPlanUnitV2) : Bool :=
  match unit.scope, other.scope with
  | .distribution scope, .distribution scope' => scope.businessScopeRef = scope'.businessScopeRef ∧
      scope.channelKind = scope'.channelKind ∧ scope.productIds = scope'.productIds
  | .unscoped, .unscoped => true
  | .distribution _, .unscoped | .unscoped, .distribution _ => false

/-- The first unit that asks for the type within the evidence scope of a unit. -/
def resolveSource (plan : ExecutionPlanV2) (resolveType : AdapterResolveType)
    (unit : ExecutionPlanUnitV2) : Option ExecutionPlanUnitV2 :=
  plan.units.find? fun source =>
    source.adapterResolves.any (·.resolveType = resolveType) && sameEvidenceScope unit source

section Evidence

variable {hashes : EvidenceHashes} {plan : ExecutionPlanV2}
  {preflight : List AdapterPreflightRecord} {facts collected : List CanonicalEvidenceFactV1}
  {bindings : List CanonicalResolveBindingV1} {unit : ExecutionPlanUnitV2}
  {a : OutboundActionType}

/-- A unit that sends an artifact admits the facts of its type within its evidence scope. -/
theorem admitted_resolvedFact (nonempty : hashes.Nonempty)
    (hunit : unit.manifestRef.manifestId = a.sendManifest) (served : ServedResolve) :
    canonicalFactAdmittedForUnitV1 (served.fact hashes) unit unit.manifestRef.manifestId.contract
        none =
      (decide (served.resolveType = a.resolveType) && sameEvidenceScope unit served.unit) := by
  have hfactType : (served.fact hashes).factType = served.resolveType.factType := rfl
  have hartifactType : (served.fact hashes).artifactType = served.resolveType.artifactType := rfl
  have hsourceType : (served.fact hashes).sourceType = .adapterResolve := rfl
  have hscope : canonicalScopeMatchesUnitV1 (served.fact hashes) unit [] =
      sameEvidenceScope unit served.unit := by
    have hfactScope : (served.fact hashes).scope =
      canonicalScopeForUnitV1 served.unit served.resolveType.artifactType := rfl
    unfold canonicalScopeMatchesUnitV1 sameEvidenceScope
    rw [hfactScope, hartifactType]
    unfold canonicalScopeForUnitV1
    cases unit.scope <;> cases served.unit.scope <;> simp
  have hprovenance : canonicalFactHasProvenanceV1 (served.fact hashes) = true := by
    simp [canonicalFactHasProvenanceV1, ServedResolve.fact, resolvedFact, adapterProvenance,
      nonempty.scopeRef, nonempty.sourceRecordRef]
  rw [hunit, contract_sendManifest]
  by_cases htype : served.resolveType = a.resolveType
  · simp [canonicalFactAdmittedForUnitV1, sendContract, hfactType, hartifactType, hsourceType,
      htype, hprovenance, hscope, canonicalHistoryAllowedV1, EvidenceSourceType.isHistory,
      canonicalStalenessAllowedV1]
  · have hnot : served.resolveType.factType ≠ a.resolveType.factType := fun h =>
      htype (AdapterResolveType.factType_injective h)
    simp [canonicalFactAdmittedForUnitV1, sendContract, hfactType, htype, hnot]

/-- The artifact that a unit sends: the result of the adapter for the type, with the unit whose
evidence it is. -/
def sentArtifact (plan : ExecutionPlanV2) (preflight : List AdapterPreflightRecord)
    (resolveType : AdapterResolveType) (unit : ExecutionPlanUnitV2) : Option ServedResolve :=
  (resolvedResult preflight resolveType).bind fun (result, ref) =>
    (resolveSource plan resolveType unit).map fun source => ⟨source, resolveType, result, ref⟩

/-- A fact is the evidence of an artifact that a unit admits. -/
def admitsArtifact (unit : ExecutionPlanUnitV2) (resolveType : AdapterResolveType)
    (fact : CanonicalEvidenceFactV1) : Bool :=
  canonicalFactAdmittedForUnitV1 fact unit unit.manifestRef.manifestId.contract none &&
    decide (fact.factType = resolveType.factType ∧ fact.resolveType = some resolveType)

theorem firstResolvable_admitted (resolveType : AdapterResolveType) :
    firstResolvableFactV1 (admittedFacts facts none unit) resolveType =
      facts.find? (admitsArtifact unit resolveType) := by
  rw [admittedFacts_eq, firstResolvableFactV1, candidateFacts, List.find?_filter]
  congr 1
  funext fact
  simp [admitsArtifact]

theorem admitsArtifact_fact (nonempty : hashes.Nonempty)
    (hunit : unit.manifestRef.manifestId = a.sendManifest) (served : ServedResolve) :
    admitsArtifact unit a.resolveType (served.fact hashes) =
      (decide (served.resolveType = a.resolveType) && sameEvidenceScope unit served.unit) := by
  have hfactType : (served.fact hashes).factType = served.resolveType.factType := rfl
  have hresolveType : (served.fact hashes).resolveType = some served.resolveType := rfl
  rw [admitsArtifact, admitted_resolvedFact nonempty hunit, hfactType, hresolveType]
  by_cases htype : served.resolveType = a.resolveType <;> simp [htype]

/-- The evidence of the artifact that a unit sends is what the adapter resolved. -/
theorem firstResolvable_send (nonempty : hashes.Nonempty)
    (separates : Separates (·.evidenceId) ((servedResolves plan preflight).map (·.fact hashes)))
    (built : canonicalAdapterFactsV1 hashes plan preflight = .ok (facts, bindings))
    (hcollected : ∀ fact ∈ collected, fact.sourceType ≠ .adapterResolve)
    (hunit : unit.manifestRef.manifestId = a.sendManifest) :
    firstResolvableFactV1 (admittedFacts (facts ++ collected) none unit) a.resolveType =
      (sentArtifact plan preflight a.resolveType unit).map (·.fact hashes) := by
  have hnone : collected.find? (admitsArtifact unit a.resolveType) = none := by
    refine List.find?_eq_none.mpr fun fact hfact h => ?_
    have hsource := hcollected fact hfact
    rw [admitsArtifact, hunit, contract_sendManifest] at h
    simp [canonicalFactAdmittedForUnitV1, sendContract, hsource] at h
  have hserved : admitsArtifact unit a.resolveType ∘ (fun served : ServedResolve =>
      served.fact hashes) = fun served =>
        decide (served.resolveType = a.resolveType) && sameEvidenceScope unit served.unit :=
    funext (admitsArtifact_fact nonempty hunit)
  rw [firstResolvable_admitted, List.find?_append, hnone, Option.or_none,
    (canonicalAdapterFactsV1_eq_ok built).1, find?_dictValues separates, List.find?_map, hserved,
    find?_servedResolves]
  rfl

theorem firstResolvable_of_ne (hunit : unit.manifestRef.manifestId ≠ a.sendManifest) :
    firstResolvableFactV1 (admittedFacts facts none unit) a.resolveType = none := by
  rw [firstResolvable_admitted]
  refine List.find?_eq_none.mpr fun fact _ h => ?_
  simp only [admitsArtifact, Bool.and_eq_true, decide_eq_true_eq] at h
  have htype := factType_mem_of_admitted h.1
  rw [h.2.1, factType_mem_allowed_iff] at htype
  exact hunit htype

/-! ## Bindings -/

/-- The fact of a resolve that was served is bound to what the adapter returned. -/
theorem bindingOf_fact
    (separates : Separates (·.evidenceId) ((servedResolves plan preflight).map (·.fact hashes)))
    (built : canonicalAdapterFactsV1 hashes plan preflight = .ok (facts, bindings))
    {served : ServedResolve} (hserved : served ∈ servedResolves plan preflight) {ids : List String}
    (hid : (served.fact hashes).evidenceId ∈ ids) :
    bindingOf (bindings.filter (·.evidenceId ∈ ids)) (served.fact hashes).evidenceId =
      some (served.binding hashes) := by
  have hbindings := separates_binding separates
  have hmem : served.binding hashes ∈ (servedResolves plan preflight).map (·.binding hashes) :=
    List.mem_map_of_mem hserved
  have hfind : bindingOf (bindings.filter (·.evidenceId ∈ ids)) (served.fact hashes).evidenceId =
      ((servedResolves plan preflight).map (·.binding hashes)).find?
        (·.evidenceId = (served.fact hashes).evidenceId) := by
    rw [bindingOf, List.find?_filter, (canonicalAdapterFactsV1_eq_ok built).2,
      find?_dictValues hbindings]
    congr 1
    funext binding
    by_cases h : binding.evidenceId = (served.fact hashes).evidenceId <;> simp [h, hid]
  rw [hfind]
  cases hbinding : ((servedResolves plan preflight).map (·.binding hashes)).find?
      (·.evidenceId = (served.fact hashes).evidenceId) with
  | none =>
    have hid' : (served.binding hashes).evidenceId = (served.fact hashes).evidenceId := rfl
    exact absurd hid' (by simpa using List.find?_eq_none.mp hbinding _ hmem)
  | some binding =>
    have hid' : binding.evidenceId = (served.fact hashes).evidenceId := by
      simpa using List.find?_some hbinding
    rw [hbindings _ (List.mem_of_find?_eq_some hbinding) _ hmem hid']

theorem mem_servedResolves_of_sentArtifact {resolveType : AdapterResolveType}
    {served : ServedResolve} (h : sentArtifact plan preflight resolveType unit = some served) :
    served ∈ servedResolves plan preflight := by
  obtain ⟨⟨result, ref⟩, hresult, h⟩ := Option.bind_eq_some_iff.mp h
  obtain ⟨source, hsource, rfl⟩ := Option.map_eq_some_iff.mp h
  have hasks := List.find?_some hsource
  simp only [Bool.and_eq_true, List.any_eq_true, decide_eq_true_eq] at hasks
  exact mem_servedResolves.mpr ⟨List.mem_of_find?_eq_some hsource, hasks.1, hresult⟩

/-! ## Actions -/

/-- The option of an action: the one that is asked for, or else that of the evidence. -/
def sentOption (intent : CanonicalActionIntentV1) (source : ExecutionPlanUnitV2) : Option String :=
  match intent.materialPackOption with
  | none | some "" => (canonicalScopeForUnitV1 source .materialPack).materialOption
  | some option => some option

/-- The period and the date of a report, as an action has them. -/
def AdapterResolveResult.report? (result : AdapterResolveResult) : Option (String × String) := do
  let period ← result.period
  let date ← result.reportDate.bind Date.fromIsoformat
  return (period, date.isoformat)

/-- The action of an intent that sends what the adapter resolved. -/
def sentAction (intent : CanonicalActionIntentV1) (served : ServedResolve) :
    Option OutboundAction :=
  match intent.actionType with
  | .sendMaterialPack => some (.sendMaterialPack "" served.ref (sentOption intent served.unit))
  | .sendWeeklyReport => served.result.report?.map fun (period, date) =>
      .sendWeeklyReport "" served.ref period date
  | .sendMonthlyReport => served.result.report?.map fun (period, date) =>
      .sendMonthlyReport "" served.ref period date

theorem of_sentAction {intent : CanonicalActionIntentV1} {served : ServedResolve}
    {action : OutboundAction} (h : sentAction intent served = some action) :
    action.type = intent.actionType.executionType ∧ action.resolveRef = served.ref ∧
      action.materialPackOption =
        (if intent.actionType = .sendMaterialPack then sentOption intent served.unit
          else none) := by
  unfold sentAction at h
  cases htype : intent.actionType <;> simp only [htype] at h
  case sendMaterialPack =>
    cases h
    exact ⟨rfl, rfl, rfl⟩
  all_goals
    obtain ⟨⟨period, date⟩, _, h⟩ := Option.map_eq_some_iff.mp h
    cases h
    exact ⟨rfl, rfl, rfl⟩

/-! ## States -/

/-- Without evidence nothing is known of an artifact. -/
theorem unitResolvableState_none {contract : CapabilityEvidenceContractV2}
    {resolveType : AdapterResolveType} (h : firstResolvableFactV1 facts resolveType = none) :
    unitResolvableStateV1 unit contract facts bindings resolveType = .ok {} := by
  unfold unitResolvableStateV1
  rw [h]
  exact ite_id _

theorem unitReportState_none {contract : CapabilityEvidenceContractV2}
    {resolveType : AdapterResolveType} {materialType : ReportMaterialType}
    (hsummary : firstReportSummaryV1 facts resolveType materialType = none)
    (h : firstResolvableFactV1 facts resolveType = none) :
    unitReportStateV1 unit contract facts bindings resolveType materialType = .ok {} := by
  unfold unitReportStateV1
  rw [unitResolvableState_none h, hsummary, bindingForResolveFactV1, h]
  exact ite_id _

/-- What is known of an artifact that the adapter resolved. -/
theorem unitResolvableState_served {contract : CapabilityEvidenceContractV2}
    {served : ServedResolve} {state : CanonicalResolvableStateV1}
    (declared : resolveDeclaredOrAdmittedV1 unit contract served.resolveType = true)
    (h : firstResolvableFactV1 facts served.resolveType = some (served.fact hashes))
    (hbinding : bindingOf bindings (served.fact hashes).evidenceId = some (served.binding hashes))
    (hstate : unitResolvableStateV1 unit contract facts bindings served.resolveType = .ok state) :
    state.availability = .available ∧ state.resolveRef = some served.ref ∧
      (served.resolveType = .materialPack → state.materialPackOption =
        (canonicalScopeForUnitV1 served.unit .materialPack).materialOption) := by
  have hbound : (bindingOf bindings (served.fact hashes).evidenceId).filter
      (·.resolveType = served.resolveType) = some (served.binding hashes) := by
    simp [hbinding, ServedResolve.binding]
  unfold unitResolvableStateV1 at hstate
  simp only [declared, ↓reduceIte, h, hbound] at hstate
  split_ifs at hstate with hpack
  · cases hstate
    refine ⟨rfl, rfl, fun _ => ?_⟩
    rw [ServedResolve.fact, hpack]
    rfl
  · cases hstate
    exact ⟨rfl, rfl, fun h => absurd h hpack⟩

/-- What is known of a report that the adapter resolved. -/
theorem reportArtifact_served {contract : CapabilityEvidenceContractV2} {served : ServedResolve}
    {materialType : ReportMaterialType} {state : CanonicalReportStateV1}
    (hsummary : firstReportSummaryV1 facts served.resolveType materialType = none)
    (declared : resolveDeclaredOrAdmittedV1 unit contract served.resolveType = true)
    (h : firstResolvableFactV1 facts served.resolveType = some (served.fact hashes))
    (hbinding : bindingOf bindings (served.fact hashes).evidenceId = some (served.binding hashes))
    (hstate : unitReportStateV1 unit contract facts bindings served.resolveType materialType =
      .ok state) :
    reportArtifact state = served.result.report?.map fun (period, date) =>
      (served.ref, period, date) := by
  have hbound : bindingForResolveFactV1 facts bindings served.resolveType =
      some (served.binding hashes) := by
    simp [bindingForResolveFactV1, h, hbinding, ServedResolve.binding]
  obtain ⟨base, hbase, hstate⟩ := bind_eq_ok_iff.mp hstate
  obtain ⟨havailable, href, _⟩ := unitResolvableState_served declared h hbinding hbase
  simp only [declared, ↓reduceIte, hsummary, hbound, Option.bind_some] at hstate
  obtain ⟨date, hdate, hstate⟩ := bind_eq_ok_iff.mp hstate
  obtain rfl := strictIsoDateV1_ok hdate
  cases hstate
  have hperiod : (served.binding hashes).period = served.result.period := rfl
  have hreportDate : (served.binding hashes).reportDate = served.result.reportDate := rfl
  simp only [reportArtifact, havailable, ne_eq, not_true_eq_false, ↓reduceIte, href, hperiod,
    hreportDate, AdapterResolveResult.report?]
  cases served.result.period with
  | none => rfl
  | some period => cases served.result.reportDate.bind Date.fromIsoformat <;> rfl

theorem declared_send (hunit : unit.manifestRef.manifestId = a.sendManifest) :
    resolveDeclaredOrAdmittedV1 unit unit.manifestRef.manifestId.contract a.resolveType = true := by
  rw [hunit, contract_sendManifest]
  simp [resolveDeclaredOrAdmittedV1, sendContract]

section Grounded

variable {policy : PolicyManifestV2} {businessFacts : UnitBusinessFactsV1}
  {canonicalFacts : List CanonicalEvidenceFactV1} {intent : CanonicalActionIntentV1}

/-- Without evidence nothing is sent. -/
theorem actionFromGrounding_none
    (hderive : groundedBusinessFacts policy canonicalFacts bindings none unit = .ok businessFacts)
    (h : firstResolvableFactV1 (admittedFacts canonicalFacts none unit)
      intent.actionType.resolveType = none) :
    actionFromGrounding intent businessFacts = none := by
  obtain ⟨_, hpack, hweekly, hmonthly, _⟩ := derive_states hderive
  unfold actionFromGrounding
  cases hintent : intent.actionType with
  | sendMaterialPack =>
    rw [hintent] at h
    obtain hstate := Except.ok.inj (hpack.symm.trans (unitResolvableState_none h))
    rw [hstate]
    rfl
  | sendWeeklyReport =>
    rw [hintent] at h
    obtain hstate := Except.ok.inj
      (hweekly.symm.trans (unitReportState_none firstReportSummary_none h))
    rw [hstate]
    rfl
  | sendMonthlyReport =>
    rw [hintent] at h
    obtain hstate := Except.ok.inj
      (hmonthly.symm.trans (unitReportState_none firstReportSummary_none h))
    rw [hstate]
    rfl

/-- What the adapter resolved is sent. -/
theorem actionFromGrounding_served {served : ServedResolve}
    (hderive : groundedBusinessFacts policy canonicalFacts bindings none unit = .ok businessFacts)
    (hunit : unit.manifestRef.manifestId = intent.actionType.sendManifest)
    (htype : served.resolveType = intent.actionType.resolveType)
    (h : firstResolvableFactV1 (admittedFacts canonicalFacts none unit) served.resolveType =
      some (served.fact hashes))
    (hbinding : bindingOf (admittedBindings canonicalFacts bindings none unit)
      (served.fact hashes).evidenceId = some (served.binding hashes)) :
    actionFromGrounding intent businessFacts = sentAction intent served := by
  have declared := declared_send hunit
  obtain ⟨_, hpack, hweekly, hmonthly, _⟩ := derive_states hderive
  rw [← htype] at declared
  unfold actionFromGrounding sentAction
  cases hintent : intent.actionType with
  | sendMaterialPack =>
    have hresolve : served.resolveType = .materialPack := by rw [htype, hintent]; rfl
    rw [← hresolve] at hpack
    obtain ⟨havailable, href, hoption⟩ := unitResolvableState_served declared h hbinding hpack
    simp only [havailable, href, hoption hresolve, ne_eq, not_true_eq_false, ↓reduceIte]
    rfl
  | sendWeeklyReport =>
    have hresolve : served.resolveType = .weeklyReport := by rw [htype, hintent]; rfl
    rw [← hresolve] at hweekly
    have hartifact := reportArtifact_served firstReportSummary_none declared h hbinding hweekly
    simp only [hartifact, Option.map_map]
    rfl
  | sendMonthlyReport =>
    have hresolve : served.resolveType = .monthlyReport := by rw [htype, hintent]; rfl
    rw [← hresolve] at hmonthly
    have hartifact := reportArtifact_served firstReportSummary_none declared h hbinding hmonthly
    simp only [hartifact, Option.map_map]
    rfl

/-- The action of an intent: what the adapter resolved, sent by a unit of its own capability. -/
theorem actionFromGrounding_eq (nonempty : hashes.Nonempty)
    (separates : Separates (·.evidenceId) ((servedResolves plan preflight).map (·.fact hashes)))
    (built : canonicalAdapterFactsV1 hashes plan preflight = .ok (facts, bindings))
    (hcollected : ∀ fact ∈ collected, fact.sourceType ≠ .adapterResolve)
    (hderive : groundedBusinessFacts policy (facts ++ collected) bindings none unit =
      .ok businessFacts) :
    actionFromGrounding intent businessFacts =
      if unit.manifestRef.manifestId = intent.actionType.sendManifest then
        (sentArtifact plan preflight intent.actionType.resolveType unit).bind (sentAction intent)
      else none := by
  split_ifs with hunit
  case neg => exact actionFromGrounding_none hderive (firstResolvable_of_ne hunit)
  have hfirst : firstResolvableFactV1 (admittedFacts (facts ++ collected) none unit)
      intent.actionType.resolveType = _ :=
    firstResolvable_send nonempty separates built hcollected hunit
  cases hsent : sentArtifact plan preflight intent.actionType.resolveType unit with
  | none =>
    rw [hsent] at hfirst
    exact actionFromGrounding_none hderive hfirst
  | some served =>
    rw [hsent, Option.map_some] at hfirst
    have hserved := mem_servedResolves_of_sentArtifact hsent
    have htype : served.resolveType = intent.actionType.resolveType := by
      obtain ⟨_, _, h⟩ := Option.bind_eq_some_iff.mp hsent
      obtain ⟨_, _, rfl⟩ := Option.map_eq_some_iff.mp h
      rfl
    have hmem : served.fact hashes ∈ admittedFacts (facts ++ collected) none unit :=
      List.mem_of_find?_eq_some hfirst
    exact actionFromGrounding_served hderive hunit htype (htype ▸ hfirst)
      (bindingOf_fact separates built hserved (List.mem_map_of_mem hmem))

end Grounded

end Evidence

end MarketSupport
