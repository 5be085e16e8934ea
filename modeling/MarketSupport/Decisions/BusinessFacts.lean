import Mathlib.Data.List.Sort
import MarketSupport.Decisions.IsoDate
import MarketSupport.Evidence.Admission
import MarketSupport.Library.Except
import MarketSupport.Policy.Manifest

/-!
# Business facts of a unit

What the admitted evidence of a unit says about its artifacts: which are available, under
which reference, and what the user may do with them.
-/

namespace MarketSupport

open Library

/-- What collecting and grounding evidence raise. -/
inductive EvidenceException where
  | businessFactsContractError (reasonCode : String)
  | canonicalGroundingContractError (reasonCode : String)
  | validationError
  | otherError (name : String)
  deriving DecidableEq, Repr

/-! ## States -/

inductive AvailabilityStatus where
  | available
  | ambiguous
  | unavailable
  | unknown
  deriving DecidableEq, Repr

inductive UserPermissionStatus where
  | allowed
  | denied
  | unknown
  deriving DecidableEq, Repr

structure CanonicalResolvableStateV1 where
  availability : AvailabilityStatus := .unknown
  candidateLabels : List String := []
  reasonCode : String := ""
  resolveRef : Option String := none
  materialPackOption : Option String := none
  sourceRecordRef : Option String := none
  deriving DecidableEq, Repr

structure CanonicalReportStateV1 extends CanonicalResolvableStateV1 where
  period : Option String := none
  reportDate : Option Date := none
  periodStart : Option Date := none
  periodEnd : Option Date := none
  periodLabel : Option String := none
  scopeComplete : Option Bool := none
  expectedProductCount : Option ℕ := none
  generatedProductCount : Option ℕ := none
  missingProductCount : Option ℕ := none
  reportSections : List ReportScopeSectionCanonicalV1 := []
  deriving DecidableEq, Repr

structure CanonicalExecutedActionStateV1 where
  actionType : OutboundActionType
  artifactType : EvidenceArtifactType
  artifactRef : Option String
  materialPackOption : Option String
  period : Option String
  reportDate : Option Date
  statusRevision : ℕ
  receivedAtEpochSeconds : ℕ
  responseId : String
  actionId : String
  sourceRecordRef : String
  deriving DecidableEq, Repr

structure UnitBusinessFactsV1 where
  materialPack : CanonicalResolvableStateV1
  weeklyReport : CanonicalReportStateV1
  monthlyReport : CanonicalReportStateV1
  salesMention : CanonicalResolvableStateV1
  recentExecutedActions : List CanonicalExecutedActionStateV1
  requestedMaterialPackOptionStatus : AvailabilityStatus
  userPermission : UserPermissionStatus
  evidenceFactCount : ℕ
  deriving DecidableEq, Repr

def strictIsoDateV1 : Option String → Except EvidenceException (Option Date)
  | none => .ok none
  | some value => match Date.fromIsoformat value with
    | none => .error (.businessFactsContractError "invalid_strict_iso_date")
    | some date => .ok (some date)

/-! ## Resolvable artifacts -/

/-- `_RESOLVE_FACT_TYPES_V1`. -/
def AdapterResolveType.factType : AdapterResolveType → EvidenceFactType
  | .materialPack => .materialPackResolvable
  | .weeklyReport => .weeklyReportResolvable
  | .monthlyReport => .monthlyReportResolvable
  | .salesMention => .salesMentionResolvable

/-- One step of the loop of `validated_resolve_bindings_v1`. -/
def validateResolveBinding (facts : List CanonicalEvidenceFactV1)
    (output : List CanonicalResolveBindingV1) (binding : CanonicalResolveBindingV1) :
    Except EvidenceException (List CanonicalResolveBindingV1) :=
  match facts.find? (·.evidenceId = binding.evidenceId) with
  | none => .error (.businessFactsContractError "canonical_resolve_binding_evidence_not_admitted")
  | some fact =>
    if binding.evidenceId ∈ output.map (·.evidenceId) then
      .error (.businessFactsContractError "canonical_resolve_binding_duplicate_evidence")
    else if some binding.resolveType ≠ fact.resolveType ∨
        binding.sourceRecordRef ≠ fact.provenance.sourceRecordRef ∨
        binding.scopeRef ≠ fact.provenance.scopeRef then
      .error (.businessFactsContractError "canonical_resolve_binding_provenance_mismatch")
    else .ok (output ++ [binding])

/-- `validated_resolve_bindings_v1`; the bindings have distinct evidence ids. -/
def validatedResolveBindingsV1 (facts : List CanonicalEvidenceFactV1)
    (bindings : List CanonicalResolveBindingV1) :
    Except EvidenceException (List CanonicalResolveBindingV1) :=
  bindings.foldlM (validateResolveBinding facts) []

variable (unit : ExecutionPlanUnitV2) (contract : CapabilityEvidenceContractV2)
  (facts : List CanonicalEvidenceFactV1) (bindings : List CanonicalResolveBindingV1)
  (resolveType : AdapterResolveType)

def resolveDeclaredOrAdmittedV1 : Bool :=
  unit.adapterResolves.any (·.resolveType = resolveType) ||
    (resolveType.factType ∈ contract.requiredFactTypes ∨
      resolveType.factType ∈ contract.anyOfFactTypes : Bool)

/-- `_first_resolvable_fact_v1`. -/
def firstResolvableFactV1 : Option CanonicalEvidenceFactV1 :=
  facts.find? fun fact => fact.factType = resolveType.factType ∧ fact.resolveType = some resolveType

/-- `_availability_from_canonical_fact_v1`. -/
def availabilityFromCanonicalFactV1 (fact : CanonicalEvidenceFactV1) : AvailabilityStatus :=
  match fact.value with
  | .boolean true => .available
  | .boolean false => .unavailable
  | _ => .unknown

/-- `bindings.get(evidence_id)`. -/
def bindingOf (evidenceId : String) : Option CanonicalResolveBindingV1 :=
  bindings.find? (·.evidenceId = evidenceId)

/-- `unit_resolvable_state_v1`; the option of a material pack may not be the empty text. -/
def unitResolvableStateV1 : Except EvidenceException CanonicalResolvableStateV1 :=
  if resolveDeclaredOrAdmittedV1 unit contract resolveType then
    match firstResolvableFactV1 facts resolveType with
    | none => .ok {}
    | some fact =>
      let materialPackOption :=
        if resolveType = .materialPack then fact.scope.materialOption else none
      if materialPackOption = some "" then .error .validationError
      else .ok {
        availability := availabilityFromCanonicalFactV1 fact
        materialPackOption
        sourceRecordRef := some fact.provenance.sourceRecordRef
        resolveRef := ((bindingOf bindings fact.evidenceId).filter
          (·.resolveType = resolveType)).map (·.resolveRef) }
  else .ok {}

/-- `_binding_for_resolve_fact_v1`. -/
def bindingForResolveFactV1 : Option CanonicalResolveBindingV1 :=
  (firstResolvableFactV1 facts resolveType).bind fun fact =>
    (bindingOf bindings fact.evidenceId).filter (·.resolveType = resolveType)

/-- `_first_report_summary_v1`. -/
def firstReportSummaryV1 (materialType : ReportMaterialType) :
    Option ReportScopeSummaryCanonicalV1 :=
  facts.findSome? fun fact =>
    match fact.reportPayload with
    | some (.summary payload) =>
      if fact.factType = .reportScopeSummary ∧ fact.resolveType = some resolveType ∧
        payload.materialType = materialType then some payload else none
    | _ => none

/-- `unit_report_state_v1`, for a report and its material type. -/
def unitReportStateV1 (materialType : ReportMaterialType) :
    Except EvidenceException CanonicalReportStateV1 := do
  let base ← unitResolvableStateV1 unit contract facts bindings resolveType
  if resolveDeclaredOrAdmittedV1 unit contract resolveType then
    match firstReportSummaryV1 facts resolveType materialType with
    | none =>
      let binding := bindingForResolveFactV1 facts bindings resolveType
      let reportDate ← strictIsoDateV1 (binding.bind (·.reportDate))
      return { base with period := binding.bind (·.period), reportDate }
    | some payload =>
      let reportDate ← strictIsoDateV1 payload.reportDate
      let periodStart ← strictIsoDateV1 payload.periodStart
      let periodEnd ← strictIsoDateV1 payload.periodEnd
      return {
        availability := if payload.available then .available else base.availability
        candidateLabels := base.candidateLabels
        reasonCode := payload.reasonCode
        resolveRef := base.resolveRef
        sourceRecordRef := base.sourceRecordRef
        period := payload.period
        reportDate, periodStart, periodEnd
        periodLabel := payload.periodLabel
        scopeComplete := payload.scopeComplete
        expectedProductCount := payload.expectedProductCount
        generatedProductCount := payload.generatedProductCount
        missingProductCount := payload.missingProductCount
        reportSections := payload.sections }
  else return {}

/-! ## Recent actions -/

/-- `_fact_scope_matches_unit_v1`. -/
def factScopeMatchesUnitV1 (fact : CanonicalEvidenceFactV1) : Bool :=
  match unit.scope, fact.scope with
  | .distribution scope, .distribution ref channel productIds _ _ _ _ =>
    scope.businessScopeRef = ref ∧ scope.channelKind = channel ∧ scope.productIds = productIds
  | .unscoped, .unscoped .. => true
  | .distribution _, .unscoped .. | .unscoped, .distribution .. => false

/-- Newest first, then by evidence id, both descending. -/
def newerAction (a b : CanonicalEvidenceFactV1 × RecentExecutedActionEvidencePayloadCanonicalV1) :
    Bool :=
  b.2.receivedAtEpochSeconds < a.2.receivedAtEpochSeconds ∨
    (b.2.receivedAtEpochSeconds = a.2.receivedAtEpochSeconds ∧
      b.1.evidenceId ≤ a.1.evidenceId)

def unitRecentActionsV1 : Except EvidenceException (List CanonicalExecutedActionStateV1) :=
  if .recentExecutedAction ∈ contract.allowedFactTypes ∧
      .recentExecutedAction ∉ contract.forbiddenFactTypes then
    let actions := facts.filterMap fun fact =>
      if fact.factType = .recentExecutedAction ∧ factScopeMatchesUnitV1 unit fact then
        fact.recentExecutedAction.map (fact, ·)
      else none
    ((actions.mergeSort newerAction).take 20).mapM fun (fact, payload) => do
      let reportDate ← strictIsoDateV1 payload.reportDate
      return {
        actionType := payload.actionType
        artifactType := payload.artifactType
        artifactRef := payload.artifactRef
        materialPackOption := payload.materialOption
        period := payload.period
        reportDate
        statusRevision := payload.statusRevision
        receivedAtEpochSeconds := payload.receivedAtEpochSeconds
        responseId := payload.responseId
        actionId := payload.actionId
        sourceRecordRef := fact.provenance.sourceRecordRef }
  else .ok []

/-! ## Permissions -/

/-- `_MANIFEST_READ_REQUIREMENTS_V1`. -/
def CapabilityManifestIdV2.readRequirement : CapabilityManifestIdV2 → Option ReadCapability
  | .materialPackSend => some .resolveMaterialPack
  | .weeklyReportSend => some .resolveWeeklyReport
  | .monthlyReportSend => some .resolveMonthlyReport
  | .salesHandoff => some .resolveSalesMention
  | .weeklyReportProductList => some .queryWeeklyReportProductList
  | .monthlyReportProductList => some .queryMonthlyReportProductList
  | .answerInternalCompanyKnowledge => some .queryInternalCompanyInfo
  | _ => none

/-- `_MANIFEST_ACTION_REQUIREMENTS_V1`. -/
def CapabilityManifestIdV2.actionRequirement : CapabilityManifestIdV2 → Option OutboundActionType
  | .materialPackSend => some .sendMaterialPack
  | .weeklyReportSend => some .sendWeeklyReport
  | .monthlyReportSend => some .sendMonthlyReport
  | _ => none

def unitPermissionV1 (policy : PolicyManifestV2) : UserPermissionStatus :=
  if unit.runtimeCapabilities = [] ∧ unit.answerCapabilities = [] ∧ unit.adapterResolves = [] ∧
      unit.actionIntents = [] then .unknown
  else if unit.manifestRef ∈ policy.eligibleCapabilities ∧
      unit.manifestRef.manifestId.readRequirement.all (· ∈ policy.allowedReadCapabilities) ∧
      unit.manifestRef.manifestId.actionRequirement.all (· ∈ policy.allowedOutboundActions) ∧
      (unit.manifestRef.manifestId ≠ .salesHandoff ∨
        policy.mentionsAllowed = true ∧ .sales ∈ policy.allowedMentionTypes) ∧
      (∀ resolve ∈ unit.adapterResolves, resolve.resolveType ∈ policy.allowedAdapterResolves) ∧
      ∀ intent ∈ unit.actionIntents, intent.actionType ∈ policy.allowedOutboundActions
  then .allowed
  else .denied

/-! ## The facts of a unit -/

/-- `derive_unit_business_facts_v1`. -/
def deriveUnitBusinessFactsV1 (manifest : CapabilityManifestV2) (policy : PolicyManifestV2)
    (resolveBindings : List CanonicalResolveBindingV1) :
    Except EvidenceException UnitBusinessFactsV1 :=
  if 32 < facts.length then
    .error (.businessFactsContractError "unit_business_facts_evidence_limit_exceeded")
  else if unit.manifestRef.manifestId ≠ manifest.manifestId then
    .error (.businessFactsContractError "unit_business_facts_manifest_mismatch")
  else if unit.manifestRef.manifestVersion ≠ manifest.manifestVersion then
    .error (.businessFactsContractError "unit_business_facts_manifest_version_mismatch")
  else do
    let contract := manifest.evidenceContract
    let bindings ← validatedResolveBindingsV1 facts resolveBindings
    let materialPack ← unitResolvableStateV1 unit contract facts bindings .materialPack
    let weeklyReport ← unitReportStateV1 unit contract facts bindings .weeklyReport .weekly
    let monthlyReport ← unitReportStateV1 unit contract facts bindings .monthlyReport .monthly
    let salesMention ← unitResolvableStateV1 unit contract facts bindings .salesMention
    let recentExecutedActions ← unitRecentActionsV1 unit contract facts
    return {
      materialPack, weeklyReport, monthlyReport, salesMention, recentExecutedActions
      requestedMaterialPackOptionStatus :=
        if resolveDeclaredOrAdmittedV1 unit contract .materialPack ∧
          materialPack.sourceRecordRef.isSome then materialPack.availability else .unknown
      userPermission := unitPermissionV1 unit policy
      evidenceFactCount := facts.length }

/-! ## When the facts can be derived -/

variable {unit contract facts bindings resolveType}

/-- The option of the material pack is not the empty text. -/
def MaterialOptionUsable (unit : ExecutionPlanUnitV2) (contract : CapabilityEvidenceContractV2)
    (facts : List CanonicalEvidenceFactV1) : Prop :=
  resolveDeclaredOrAdmittedV1 unit contract .materialPack = true →
    ∀ fact ∈ firstResolvableFactV1 facts .materialPack, fact.scope.materialOption ≠ some ""

/-- The date that the adapter gave a report is an ISO date. -/
def ReportDateUsable (unit : ExecutionPlanUnitV2) (contract : CapabilityEvidenceContractV2)
    (facts : List CanonicalEvidenceFactV1) (bindings : List CanonicalResolveBindingV1)
    (resolveType : AdapterResolveType) : Prop :=
  resolveDeclaredOrAdmittedV1 unit contract resolveType = true →
    ∀ binding ∈ bindingForResolveFactV1 facts bindings resolveType,
      ∀ date ∈ binding.reportDate, (Date.fromIsoformat date).isSome

theorem materialPackState_ok_iff :
    (∃ state, unitResolvableStateV1 unit contract facts bindings .materialPack = .ok state) ↔
      MaterialOptionUsable unit contract facts := by
  unfold unitResolvableStateV1 MaterialOptionUsable
  cases resolveDeclaredOrAdmittedV1 unit contract .materialPack
  · simp
  · cases firstResolvableFactV1 facts .materialPack with
    | none => simp
    | some fact =>
      by_cases h : fact.scope.materialOption = some "" <;> simp [h]

theorem exists_unitResolvableState (h : resolveType ≠ .materialPack) :
    ∃ state, unitResolvableStateV1 unit contract facts bindings resolveType = .ok state := by
  unfold unitResolvableStateV1
  cases resolveDeclaredOrAdmittedV1 unit contract resolveType
  · simp
  · cases firstResolvableFactV1 facts resolveType <;> simp [h]

theorem exists_strictIsoDateV1 {value : Option String} :
    (∃ date, strictIsoDateV1 value = .ok date) ↔
      ∀ date ∈ value, (Date.fromIsoformat date).isSome := by
  cases value with
  | none => simp [strictIsoDateV1]
  | some value =>
    simp only [strictIsoDateV1, Option.mem_def, Option.some.injEq, forall_eq']
    cases Date.fromIsoformat value <;> simp

/-- Without a report summary, a report only depends on the date of its binding. -/
theorem unitReportState_ok_iff {materialType : ReportMaterialType}
    (hresolve : resolveType ≠ .materialPack)
    (hsummary : ∀ fact ∈ facts, fact.factType ≠ .reportScopeSummary) :
    (∃ state, unitReportStateV1 unit contract facts bindings resolveType materialType =
        .ok state) ↔ ReportDateUsable unit contract facts bindings resolveType := by
  obtain ⟨base, hbase⟩ : ∃ base, unitResolvableStateV1 unit contract facts bindings resolveType =
      .ok base := exists_unitResolvableState hresolve
  have hnone : firstReportSummaryV1 facts resolveType materialType = none := by
    refine List.findSome?_eq_none_iff.mpr fun fact hfact => ?_
    have htype := hsummary fact hfact
    split <;> simp [htype]
  unfold unitReportStateV1 ReportDateUsable
  simp only [hbase, hnone, bind_eq_ok_iff, Except.ok.injEq, exists_eq_left']
  cases resolveDeclaredOrAdmittedV1 unit contract resolveType
  · simp [pure, Except.pure]
  · have hdate : (∃ date, strictIsoDateV1 ((bindingForResolveFactV1 facts bindings
        resolveType).bind (·.reportDate)) = .ok date) ↔ _ := exists_strictIsoDateV1
    cases hbinding : bindingForResolveFactV1 facts bindings resolveType with
    | none => exact iff_of_true ⟨_, rfl⟩ (by simp)
    | some binding =>
      rw [hbinding, Option.bind_some] at hdate
      simp only [↓reduceIte, Option.bind_some, true_imp_iff, Option.mem_def, Option.some.injEq,
        forall_eq'] at hdate ⊢
      rw [← hdate]
      exact exists_bind_pure_eq_ok_iff

theorem strictIsoDateV1_ok {text : Option String} {date : Option Date}
    (h : strictIsoDateV1 text = .ok date) : date = text.bind Date.fromIsoformat := by
  cases text with
  | none => exact (Except.ok.inj h).symm
  | some text =>
    simp only [strictIsoDateV1] at h
    cases hdate : Date.fromIsoformat text with
    | none => simp [hdate] at h
    | some _ => simpa [hdate, eq_comm] using h

/-- Validation returns the bindings as they are. -/
theorem validatedResolveBindingsV1_ok {output : List CanonicalResolveBindingV1}
    (h : validatedResolveBindingsV1 facts bindings = .ok output) : output = bindings := by
  suffices hfold : ∀ start, bindings.foldlM (validateResolveBinding facts) start = .ok output →
      output = start ++ bindings from hfold [] h
  clear h
  induction bindings with
  | nil => exact fun start h => (Except.ok.inj h).symm.trans start.append_nil.symm
  | cons binding bindings ih =>
    intro start h
    obtain ⟨next, hnext, h⟩ := bind_eq_ok_iff.mp (List.foldlM_cons.symm.trans h)
    obtain rfl : next = start ++ [binding] := by
      unfold validateResolveBinding at hnext
      split at hnext
      · cases hnext
      · split_ifs at hnext
        exact (Except.ok.inj hnext).symm
    rw [ih _ h, List.append_assoc, List.singleton_append]

/-- The states that are derived. -/
theorem derive_states {manifest : CapabilityManifestV2} {policy : PolicyManifestV2}
    {businessFacts : UnitBusinessFactsV1}
    (h : deriveUnitBusinessFactsV1 unit facts manifest policy bindings = .ok businessFacts) :
    businessFacts.userPermission = unitPermissionV1 unit policy ∧
      unitResolvableStateV1 unit manifest.evidenceContract facts bindings .materialPack =
        .ok businessFacts.materialPack ∧
      unitReportStateV1 unit manifest.evidenceContract facts bindings .weeklyReport .weekly =
        .ok businessFacts.weeklyReport ∧
      unitReportStateV1 unit manifest.evidenceContract facts bindings .monthlyReport .monthly =
        .ok businessFacts.monthlyReport ∧
      unitResolvableStateV1 unit manifest.evidenceContract facts bindings .salesMention =
        .ok businessFacts.salesMention := by
  unfold deriveUnitBusinessFactsV1 at h
  split_ifs at h
  simp only [bind_eq_ok_iff] at h
  obtain ⟨bound, hbound, pack, hpack, weekly, hweekly, monthly, hmonthly,
    sales, hsales, _, _, h⟩ := h
  obtain rfl := validatedResolveBindingsV1_ok hbound
  cases h
  exact ⟨rfl, hpack, hweekly, hmonthly, hsales⟩

/-- Bindings that agree with the facts they name are accepted as they are. -/
theorem validatedResolveBindingsV1_eq_ok (hfacts : (facts.map (·.evidenceId)).Nodup)
    (hbindings : (bindings.map (·.evidenceId)).Nodup)
    (hbound : ∀ binding ∈ bindings, ∃ fact ∈ facts, fact.evidenceId = binding.evidenceId ∧
      fact.resolveType = some binding.resolveType ∧
      fact.provenance.sourceRecordRef = binding.sourceRecordRef ∧
      fact.provenance.scopeRef = binding.scopeRef) :
    validatedResolveBindingsV1 facts bindings = .ok bindings := by
  suffices h : ∀ output, ((output ++ bindings).map (·.evidenceId)).Nodup →
      bindings.foldlM (validateResolveBinding facts) output = .ok (output ++ bindings) from
    h [] hbindings
  intro output hnodup
  clear hbindings
  induction bindings generalizing output with
  | nil => simp [pure, Except.pure]
  | cons binding bindings ih =>
    obtain ⟨fact, hmem, hid, htype, hsource, hscope⟩ := hbound binding List.mem_cons_self
    have hfind : facts.find? (·.evidenceId = binding.evidenceId) = some fact := by
      cases hfound : facts.find? (·.evidenceId = binding.evidenceId) with
      | none => simpa [hid] using List.find?_eq_none.mp hfound fact hmem
      | some other =>
        have hother : other.evidenceId = binding.evidenceId := by simpa using List.find?_some hfound
        rw [List.inj_on_of_nodup_map hfacts (List.mem_of_find?_eq_some hfound) hmem
          (hother.trans hid.symm)]
    have hnew : binding.evidenceId ∉ output.map (·.evidenceId) := by
      rw [List.map_append, List.nodup_append] at hnodup
      exact fun hold => hnodup.2.2 _ hold _ (by simp) rfl
    have hstep : validateResolveBinding facts output binding = .ok (output ++ [binding]) := by
      simp [validateResolveBinding, hfind, hnew, htype, hsource, hscope]
    have hrest := ih (fun b hb => hbound b (List.mem_cons_of_mem _ hb)) (output ++ [binding])
      (by simpa using hnodup)
    rw [List.append_assoc, List.singleton_append] at hrest
    exact List.foldlM_cons.trans (bind_eq_ok_iff.mpr ⟨_, hstep, hrest⟩)

/-- When the evidence contract has neither report summaries nor recent actions, the facts of a
unit can be derived exactly when there are few enough of them, and those that the adapter gave
are well-formed. -/
theorem exists_deriveUnitBusinessFactsV1_iff {manifest : CapabilityManifestV2}
    {policy : PolicyManifestV2} (hid : unit.manifestRef.manifestId = manifest.manifestId)
    (hsummary : ∀ fact ∈ facts, fact.factType ≠ .reportScopeSummary)
    (hrecent : .recentExecutedAction ∉ manifest.evidenceContract.allowedFactTypes)
    (hbindings : validatedResolveBindingsV1 facts bindings = .ok bindings) :
    (∃ businessFacts, deriveUnitBusinessFactsV1 unit facts manifest policy bindings =
        .ok businessFacts) ↔
      facts.length ≤ 32 ∧ MaterialOptionUsable unit manifest.evidenceContract facts ∧
        ReportDateUsable unit manifest.evidenceContract facts bindings .weeklyReport ∧
        ReportDateUsable unit manifest.evidenceContract facts bindings .monthlyReport := by
  have hversion := ManifestVersionV2.eq unit.manifestRef.manifestVersion manifest.manifestVersion
  obtain ⟨sales, hsales⟩ : ∃ sales, unitResolvableStateV1 unit manifest.evidenceContract facts
      bindings .salesMention = .ok sales := exists_unitResolvableState (by decide)
  have hactions : unitRecentActionsV1 unit manifest.evidenceContract facts = .ok [] := by
    simp [unitRecentActionsV1, hrecent]
  have hpack : (∃ state, unitResolvableStateV1 unit manifest.evidenceContract facts bindings
      .materialPack = .ok state) ↔ _ := materialPackState_ok_iff
  have hweekly : (∃ state, unitReportStateV1 unit manifest.evidenceContract facts bindings
      .weeklyReport .weekly = .ok state) ↔ _ := unitReportState_ok_iff (by decide) hsummary
  have hmonthly : (∃ state, unitReportStateV1 unit manifest.evidenceContract facts bindings
      .monthlyReport .monthly = .ok state) ↔ _ := unitReportState_ok_iff (by decide) hsummary
  rw [← hpack, ← hweekly, ← hmonthly]
  unfold deriveUnitBusinessFactsV1
  by_cases hlimit : 32 < facts.length
  · simp [hlimit]
  · simp only [hlimit, hid, hversion, ne_eq, not_true_eq_false, ↓reduceIte, hbindings, hsales,
      hactions, bind_eq_ok_iff, Except.ok.injEq, exists_eq_left', not_lt.mp hlimit, true_and]
    constructor
    · rintro ⟨_, pack, hpack, weekly, hweekly, monthly, hmonthly, _⟩
      exact ⟨⟨pack, hpack⟩, ⟨weekly, hweekly⟩, monthly, hmonthly⟩
    · rintro ⟨⟨pack, hpack⟩, ⟨weekly, hweekly⟩, monthly, hmonthly⟩
      exact ⟨_, pack, hpack, weekly, hweekly, monthly, hmonthly, rfl⟩

end MarketSupport
