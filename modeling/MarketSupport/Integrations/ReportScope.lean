import MarketSupport.Evidence.Executor
import MarketSupport.Library.Programs
import MarketSupport.Validation.Alignment

/-!
# Report scopes

The adapter describes the scope of a report: its summary, the products that match a query, and the
list of its products, which it delivers in pages. Every target of a plan gives facts of what the
adapter answered, or a fact that names the reason why there is none.
-/

namespace MarketSupport

open Library Program

/-! ## Requests and results -/

inductive ReportCommand where
  | summary
  | match
  | listProducts
  deriving DecidableEq, Repr

structure AdapterReportScopeRequest where
  materialType : ReportMaterialType
  distName : String
  command : ReportCommand
  period : Option String
  query : Option String
  page : Option ℕ
  pageSize : Option ℕ
  deriving DecidableEq, Repr

structure ReportScopeSection where
  name : String
  expectedProductCount : ℕ
  generatedProductCount : ℕ
  missingProductCount : ℕ
  name_nonempty : name ≠ ""
  deriving DecidableEq

structure ReportScopeProduct where
  productName : String
  portfolioType : Option String
  reportSection : String
  sourcePdfStatus : SourcePdfStatus
  finalReportStatus : FinalReportStatus
  productName_nonempty : productName ≠ ""
  reportSection_nonempty : reportSection ≠ ""
  deriving DecidableEq

structure AdapterReportScopeMatch where
  status : ReportScopeMatchStatus
  query : String
  matchType : Option ReportScopeMatchType
  matchedSection : Option String
  candidateCount : ℕ
  products : List ReportScopeProduct
  productPage : ℕ
  productPageSize : ℕ
  products_bound : products.length ≤ 50
  productPage_pos : 1 ≤ productPage
  productPageSize_bounds : 1 ≤ productPageSize ∧ productPageSize ≤ 50
  deriving DecidableEq

/-- The fields of `AdapterReportScopeResult` that facts are built from, and the number of the page
that a list of products says it is. -/
structure AdapterReportScopeResult where
  materialType : ReportMaterialType
  distName : String
  period : String
  status : AdapterResolveStatus
  reasonCode : String
  reportDate : Option String := none
  periodStart : Option String := none
  periodEnd : Option String := none
  periodLabel : Option String := none
  scopeComplete : Option Bool := none
  expectedProductCount : Option ℕ := none
  generatedProductCount : Option ℕ := none
  missingProductCount : Option ℕ := none
  reportSections : List ReportScopeSection := []
  matchResult : Option AdapterReportScopeMatch := none
  products : List ReportScopeProduct := []
  productPage : Option ℕ := none
  productTotalCount : Option ℕ := none
  reportSections_bound : reportSections.length ≤ 64
  products_bound : products.length ≤ 50
  productPage_pos : productPage.all (1 ≤ ·) = true
  deriving DecidableEq

/-- What the client of the adapter is called with, and its result; without one it raised an
`AdapterClientError`. -/
abbrev ReportScopeProgram :=
  Program AdapterReportScopeRequest fun _ => Option AdapterReportScopeResult

/-! ## Targets -/

/-- `ReportArtifactType`. -/
inductive ReportArtifactType where
  | weeklyReport
  | monthlyReport
  deriving DecidableEq, Repr

namespace ReportArtifactType

def resolveType : ReportArtifactType → AdapterResolveType
  | weeklyReport => .weeklyReport
  | monthlyReport => .monthlyReport

def artifactType : ReportArtifactType → EvidenceArtifactType
  | weeklyReport => .weeklyReport
  | monthlyReport => .monthlyReport

def text : ReportArtifactType → String
  | weeklyReport => "weekly_report"
  | monthlyReport => "monthly_report"

/-- `_material_type`. -/
def materialType : ReportArtifactType → ReportMaterialType
  | weeklyReport => .weekly
  | monthlyReport => .monthly

end ReportArtifactType

structure ReportTarget where
  unit : ExecutionPlanUnitV2
  resolveType : ReportArtifactType
  materialType : ReportMaterialType
  command : ReportCommand
  query : Option String
  period : Option String
  preflightResult : Option AdapterResolveResult
  deriving DecidableEq, Repr

/-- `_report_artifact_type`. -/
def reportArtifactType (unit : ExecutionPlanUnitV2) : Option ReportArtifactType :=
  match unit.artifactKind with
  | .weeklyReport => some .weeklyReport
  | .monthlyReport => some .monthlyReport
  | _ => none

/-- `_target_query`. -/
def targetQuery (unit : ExecutionPlanUnitV2) (refetch : Option AlignmentRefetchRequestV1) :
    Option String :=
  match refetch.filter fun refetch =>
      refetch.unitId = unit.unitId ∧ refetch.manifestRef = unit.manifestRef with
  | some refetch => some (strip refetch.refinedEvidenceQuery)
  | none => unit.evidenceQuery.map strip

/-- `_target_command`. -/
def targetCommand (query : Option String) (allowed : List EvidenceFactType) :
    Option ReportCommand :=
  if query = some "report_scope_products" ∧ .reportScopeProducts ∈ allowed then some .listProducts
  else if query = some "report_scope_summary" ∧ .reportScopeSummary ∈ allowed then some .summary
  else if query.any (· ≠ "") ∧ .reportScopeMatch ∈ allowed then some .match
  else if .reportScopeProducts ∈ allowed then some .listProducts
  else if .reportScopeSummary ∈ allowed then some .summary
  else none

/-- `report_targets`. -/
def reportTargets (plan : ExecutionPlanV2) (policy : PolicyManifestV2)
    (preflight : List AdapterPreflightRecord) (refetch : Option AlignmentRefetchRequestV1) :
    List ReportTarget :=
  plan.units.filterMap fun unit => do
    guard (unit.answerabilityPolicy = .answer ∧ unit.manifestRef ∈ policy.eligibleCapabilities)
    let manifest ← findManifest unit.manifestRef.manifestId
    guard (manifest.manifestVersion = unit.manifestRef.manifestVersion)
    guard (.adapterReportScope ∈ manifest.evidenceContract.allowedSourceTypes)
    let resolveType ← reportArtifactType unit
    guard (resolveType.resolveType ∈ policy.allowedAdapterResolves)
    let query := targetQuery unit refetch
    let command ← targetCommand query manifest.evidenceContract.allowedFactTypes
    let result := preflight.reverse.findSome? fun item =>
      if item.resolveType = resolveType.resolveType then item.result else none
    return {
      unit
      resolveType
      materialType := resolveType.materialType
      command
      query := if command = .match then query else none
      period := result.bind (·.period)
      preflightResult := result }

/-- `report_request`; the distribution has a name. -/
def reportRequest (distName : String) (target : ReportTarget) (command : ReportCommand)
    (page : Option ℕ) : AdapterReportScopeRequest where
  materialType := target.materialType
  distName
  command
  period := target.period
  query := if command = .match then target.query else none
  page := if command = .listProducts then page else none
  pageSize := if command = .listProducts then some 50 else none

/-- `report_scope_binding_error`. -/
def reportScopeBindingError (request : AdapterReportScopeRequest)
    (result : AdapterReportScopeResult) : Option String :=
  if result.materialType ≠ request.materialType then
    some "adapter_report_scope_material_type_mismatch"
  else if result.distName ≠ request.distName then
    some "adapter_report_scope_distribution_mismatch"
  else if request.period.any (result.period ≠ ·) then
    some "adapter_report_scope_period_mismatch"
  else none

/-! ## Facts -/

section Facts

variable (hashes : EvidenceHashes) (target : ReportTarget)

/-- The scope of a fact of the target. -/
def reportFactScope (period reportDate : Option String) : EvidenceScopeIdentityV1 :=
  match target.unit.scope with
  | .distribution scope => .distribution scope.businessScopeRef scope.channelKind scope.productIds
      target.resolveType.artifactType none period reportDate
  | .unscoped => .unscoped target.resolveType.artifactType none period reportDate

/-- `_fact_scope`. -/
def factScope (result : Option AdapterReportScopeResult) : EvidenceScopeIdentityV1 :=
  match result with
  | some result => reportFactScope target (some result.period) result.reportDate
  | none => reportFactScope target target.period none

/-- The reference of the record that the facts of the target come from. -/
def ReportTarget.opaqueResolveRef : String :=
  ((target.preflightResult.bind (·.resolveRef)).getD
    ("report-scope:" ++ target.resolveType.text ++ ":unresolved"))

def ReportCommand.operation : ReportCommand → String
  | summary => "adapter_report_scope.summary"
  | .match => "adapter_report_scope.match"
  | listProducts => "adapter_report_scope.list_products"

/-- `_observed_at`, of a time that is not negative. -/
def observedAt : Option ℕ := target.preflightResult.map (·.resolvedAt.toNat)

/-- `_provenance`. -/
def reportProvenance (operation : ReportCommand) (scope : EvidenceScopeIdentityV1) :
    EvidenceProvenanceCanonicalV1 where
  sourceClass := "adapter"
  sourceRecordRef := hashes.sourceRecordRef (.adapter "assistant-adapter" "adapter-report-scope"
    target.resolveType.resolveType target.opaqueResolveRef)
  producerContractVersion := "adapter-report-scope"
  retrievalOperation := operation.operation
  scopeRef := hashes.scopeRef scope
  asOfEpochSeconds := observedAt target
  publicUrlHashes := []

/-- What the constructors of the scope and of the provenance check. -/
def provenanceAccepted (scope : EvidenceScopeIdentityV1) : Bool :=
  scopeIdentityAccepted scope && 1 ≤ target.opaqueResolveRef.length &&
    target.opaqueResolveRef.length ≤ 160 && target.preflightResult.all (0 ≤ ·.resolvedAt)

/-- `build_canonical_evidence_fact_v1` for a report of the target, in a scope of the target. -/
def buildReportFact (payload : CanonicalEvidenceReportPayloadV1) (operation : ReportCommand)
    (scope : EvidenceScopeIdentityV1) : CanonicalEvidenceFactV1 :=
  let provenance := reportProvenance hashes target operation scope
  { evidenceId := hashes.factId {
      sourceClass := provenance.sourceClass
      sourceRecordRef := provenance.sourceRecordRef
      factType := payload.factType
      artifactType := target.resolveType.artifactType
      scopeRef := hashes.scopeRef scope
      asOfEpochSeconds := provenance.asOfEpochSeconds
      valueHash := hashes.reportHash payload
      provenanceHash := hashes.provenanceHash provenance }
    factType := payload.factType
    sourceType := .adapterReportScope
    artifactType := target.resolveType.artifactType
    resolveType := some target.resolveType.resolveType
    value := .null
    scope
    provenance
    observedAtEpochSeconds := provenance.asOfEpochSeconds
    publicUrls := []
    reportPayload := some payload
    recentExecutedAction := none }

/-- `_canonical_product`. -/
def canonicalProduct (product : ReportScopeProduct) : ReportScopeProductCanonicalV1 where
  productName := product.productName
  portfolioType := product.portfolioType
  reportSection := product.reportSection
  sourcePdfStatus := product.sourcePdfStatus
  finalReportStatus := product.finalReportStatus

/-- What the constructor of `ReportScopeProductCanonicalV1` checks. -/
def productAccepted (product : ReportScopeProductCanonicalV1) : Bool :=
  1 ≤ product.productName.length && product.productName.length ≤ 160 &&
    product.portfolioType.all (fun text => 1 ≤ text.length && text.length ≤ 120) &&
    1 ≤ product.reportSection.length && product.reportSection.length ≤ 160

/-- What the constructor of `ReportScopeSectionCanonicalV1` checks. -/
def sectionAccepted (s : ReportScopeSectionCanonicalV1) : Bool :=
  1 ≤ s.name.length && s.name.length ≤ 160

/-- What the constructors of the report payloads check. -/
def reportPayloadAccepted : CanonicalEvidenceReportPayloadV1 → Bool
  | .summary payload => payload.period.all (·.length ≤ 40) &&
      payload.reportDate.all (·.length ≤ 40) &&
      payload.periodStart.all (·.length ≤ 40) && payload.periodEnd.all (·.length ≤ 40) &&
      payload.periodLabel.all (·.length ≤ 80) && payload.reasonCode.length ≤ 120 &&
      payload.sections.all sectionAccepted && payload.sections.length ≤ 64
  | .match payload => 1 ≤ payload.query.length && payload.query.length ≤ 200 &&
      payload.matchedSection.all (fun text => 1 ≤ text.length && text.length ≤ 160) &&
      payload.products.all productAccepted && payload.products.length ≤ 50 &&
      1 ≤ payload.page && payload.page ≤ 65535 && 1 ≤ payload.pageSize && payload.pageSize ≤ 50
  | .products payload => payload.reasonCode.length ≤ 120 && payload.period.all (·.length ≤ 40) &&
      payload.reportDate.all (·.length ≤ 40) && payload.products.all productAccepted &&
      payload.products.length ≤ 200 && 1 ≤ payload.page && payload.page ≤ 65535 &&
      1 ≤ payload.pageSize && payload.pageSize ≤ 50 &&
      payload.returnedCount = payload.products.length &&
      payload.fullProductListInProjection = decide (payload.totalCount ≤ payload.returnedCount)

/-- A fact of a report that its target and its payload are accepted for. -/
def reportFact (payload : CanonicalEvidenceReportPayloadV1) (operation : ReportCommand)
    (scope : EvidenceScopeIdentityV1) : Except EvidenceException CanonicalEvidenceFactV1 :=
  if reportPayloadAccepted payload && provenanceAccepted target scope then
    .ok (buildReportFact hashes target payload operation scope)
  else .error .validationError

/-- `summary_fact`. -/
def summaryFact (result : AdapterReportScopeResult) :
    Except EvidenceException CanonicalEvidenceFactV1 :=
  reportFact hashes target (.summary {
    materialType := result.materialType
    period := some result.period
    reportDate := result.reportDate
    periodStart := result.periodStart
    periodEnd := result.periodEnd
    periodLabel := result.periodLabel
    available := result.status = .resolved
    reasonCode := result.reasonCode
    scopeComplete := result.scopeComplete
    expectedProductCount := result.expectedProductCount
    generatedProductCount := result.generatedProductCount
    missingProductCount := result.missingProductCount
    sections := result.reportSections.map fun s =>
      ⟨s.name, s.expectedProductCount, s.generatedProductCount, s.missingProductCount⟩ })
    .summary (factScope target (some result))

/-- `(match_result.query if match_result is not None else target.query) or "unknown"`. -/
def matchQuery (result : AdapterReportScopeResult) : String :=
  let query := (result.matchResult.elim target.query fun m => some m.query).getD ""
  if query = "" then "unknown" else query

/-- `match_fact`. -/
def matchFact (result : AdapterReportScopeResult) :
    Except EvidenceException CanonicalEvidenceFactV1 :=
  let m := result.matchResult
  reportFact hashes target (.match {
    status := m.elim .notFound (·.status)
    query := matchQuery target result
    matchType := m.bind (·.matchType)
    matchedSection := m.bind (·.matchedSection)
    candidateCount := m.elim 0 (·.candidateCount)
    products := m.elim [] fun m => m.products.map canonicalProduct
    page := m.elim 1 (·.productPage)
    pageSize := m.elim 10 (·.productPageSize) }) .match (factScope target (some result))

/-- The payload of `products_fact`. -/
def productsPayload (result : AdapterReportScopeResult) (products : List ReportScopeProduct)
    (totalCount : ℕ) : ReportScopeProductsCanonicalV1 where
  available := true
  reasonCode := result.reasonCode
  period := some result.period
  reportDate := result.reportDate
  products := products.map canonicalProduct
  page := 1
  pageSize := 50
  totalCount
  returnedCount := products.length
  fullProductListInProjection := totalCount ≤ products.length

/-- `products_fact`. -/
def productsFact (result : AdapterReportScopeResult) (products : List ReportScopeProduct)
    (totalCount : ℕ) : Except EvidenceException CanonicalEvidenceFactV1 :=
  reportFact hashes target (.products (productsPayload result products totalCount)) .listProducts
    (factScope target (some result))

/-- `unavailable_fact`. -/
def unavailableFact (reasonCode : String) : Except EvidenceException CanonicalEvidenceFactV1 :=
  let scope := factScope target none
  if provenanceAccepted target scope then
    (buildCanonicalEvidenceFactV1 hashes .reportScopeUnavailable .adapterReportScope
      target.resolveType.artifactType (some target.resolveType.resolveType)
        (.string reasonCode) scope
      (reportProvenance hashes target target.command scope)
        (observedAt target)).mapError .otherError
  else .error .validationError

end Facts

/-! ## The service -/

section Service

variable (hashes : EvidenceHashes) (distName : String) (target : ReportTarget)

/-- The check of an answer; `errorCode` is the reason for a client that raised. -/
def boundResult (request : AdapterReportScopeRequest) (errorCode : String) :
    Option AdapterReportScopeResult → Except String AdapterReportScopeResult
  | none => .error errorCode
  | some result => (reportScopeBindingError request result).elim (.ok result) .error

/-- A call of the client and its check; a reason code is raised for the fact that says so. -/
def boundReport (command : ReportCommand) (page : Option ℕ) (errorCode : String) :
    ReportScopeProgram String AdapterReportScopeResult := do
  let request := reportRequest distName target command page
  let answer ← perform request
  ofExcept (boundResult request errorCode answer)

/-- The pages after the first one. -/
def extendProducts : List ℕ → List ReportScopeProduct →
    ReportScopeProgram String (List ReportScopeProduct)
  | [], products => return products
  | page :: pages, products => do
    let result ← boundReport distName target .listProducts (some page)
      "adapter_report_scope_products_error"
    extendProducts pages (products ++ result.products)

/-- `range(2, ceil(target_count / PAGE_SIZE) + 1)`, where `MAX_PRODUCTS_IN_PROJECTION` bounds the
count. -/
def laterPages (totalCount : ℕ) : List ℕ := List.range' 2 ((min totalCount 200 + 49) / 50 - 1)

/-- The first page, the products of all pages and their announced number. -/
def collectProducts : ReportScopeProgram String
    (AdapterReportScopeResult × List ReportScopeProduct × ℕ) := do
  let result ← boundReport distName target .listProducts
      (some 1) "adapter_report_scope_products_error"
  match result.status, result.productTotalCount with
  | .resolved, some totalCount =>
    let products ← extendProducts distName target (laterPages totalCount) result.products
    return (result, products, totalCount)
  | _, _ => raise "adapter_report_scope_products_invalid"

/-- `_collect_products_fact`. -/
def collectProductsFact : ReportScopeProgram EvidenceException CanonicalEvidenceFactV1 :=
  (collectProducts distName target).handle fun
    | .ok (result, products, totalCount) =>
        ofExcept (productsFact hashes target result products totalCount)
    | .error reasonCode => ofExcept (unavailableFact hashes target reasonCode)

/-- The fact after the summary of a target that asks for a match. -/
def collectMatchFact : ReportScopeProgram EvidenceException CanonicalEvidenceFactV1 :=
  (boundReport distName target .match none "adapter_report_scope_match_error").handle fun
    | .ok result => ofExcept (matchFact hashes target result)
    | .error reasonCode => ofExcept (unavailableFact hashes target reasonCode)

/-- The facts of one target. -/
def collectTarget : ReportScopeProgram EvidenceException (List CanonicalEvidenceFactV1) :=
  (boundReport distName target .summary none "adapter_report_scope_error").handle fun
    | .error reasonCode => do
      let fact ← ofExcept (unavailableFact hashes target reasonCode)
      return [fact]
    | .ok summary => do
      let fact ← ofExcept (summaryFact hashes target summary)
      match target.command with
      | .summary => return [fact]
      | .match => return [fact, ← collectMatchFact hashes distName target]
      | .listProducts => return [fact, ← collectProductsFact hashes distName target]

/-- `ReportScopeEvidenceService.collect` for the targets of a compliant plan; `ready` says whether
the adapter serves the tenant. -/
def collectReportScope (targets : List ReportTarget) (ready : Bool) :
    ReportScopeProgram EvidenceException (List CanonicalEvidenceFactV1) := do
  let facts ←
    if ready then targets.mapM (collectTarget hashes distName)
    else targets.mapM fun target => do
      let fact ← ofExcept (unavailableFact hashes target "adapter_report_scope_error")
      return [fact]
  return dictValues (·.evidenceId) facts.flatten

end Service

/-! ## What is collected -/

section Collected

variable {hashes : EvidenceHashes} {distName : String} {target : ReportTarget}
  {fact : CanonicalEvidenceFactV1}

/-- A fact of a report scope, with the hash of its identity as its id. -/
structure ReportScopeFact (hashes : EvidenceHashes) (fact : CanonicalEvidenceFactV1) : Prop where
  sourceType : fact.sourceType = .adapterReportScope
  factType : fact.factType ∈
    [.reportScopeSummary, .reportScopeMatch, .reportScopeProducts, .reportScopeUnavailable]
  hashed : ∃ identity, identity.factType = fact.factType ∧ hashes.factId identity = fact.evidenceId

theorem CanonicalEvidenceReportPayloadV1.factType_mem
    (payload : CanonicalEvidenceReportPayloadV1) : payload.factType ∈
      [.reportScopeSummary, .reportScopeMatch, .reportScopeProducts, .reportScopeUnavailable] := by
  cases payload <;> simp [CanonicalEvidenceReportPayloadV1.factType]

theorem reportFact_spec {payload : CanonicalEvidenceReportPayloadV1} {operation : ReportCommand}
    {scope : EvidenceScopeIdentityV1}
    (h : reportFact hashes target payload operation scope = .ok fact) :
    ReportScopeFact hashes fact := by
  unfold reportFact at h
  split_ifs at h
  cases h
  exact ⟨rfl, payload.factType_mem, _, rfl, rfl⟩

theorem unavailableFact_spec {reasonCode : String}
    (h : unavailableFact hashes target reasonCode = .ok fact) : ReportScopeFact hashes fact := by
  simp only [unavailableFact, buildCanonicalEvidenceFactV1] at h
  split_ifs at h
  all_goals cases h
  exact ⟨rfl, by simp, _, rfl, rfl⟩

theorem collectMatchFact_spec :
    (collectMatchFact hashes distName target).Returns (ReportScopeFact hashes) := by
  refine returns_handle fun result => ?_
  cases result with
  | ok result => exact returns_ofExcept fun _ h => reportFact_spec h
  | error reasonCode => exact returns_ofExcept fun _ h => unavailableFact_spec h

theorem collectProductsFact_spec :
    (collectProductsFact hashes distName target).Returns (ReportScopeFact hashes) := by
  refine returns_handle fun result => ?_
  cases result with
  | ok result => exact returns_ofExcept fun _ h => reportFact_spec h
  | error reasonCode => exact returns_ofExcept fun _ h => unavailableFact_spec h

theorem collectTarget_spec : (collectTarget hashes distName target).Returns fun facts =>
    ∀ fact ∈ facts, ReportScopeFact hashes fact := by
  refine returns_handle fun result => ?_
  cases result with
  | error reasonCode =>
    refine returns_bind (returns_ofExcept fun _ h => unavailableFact_spec h) fun fact hfact => ?_
    exact returns_pure (List.forall_mem_singleton.mpr hfact)
  | ok summary =>
    refine returns_bind (returns_ofExcept fun _ h => reportFact_spec h) fun fact hfact => ?_
    cases target.command with
    | summary => exact returns_pure (List.forall_mem_singleton.mpr hfact)
    | «match» =>
      refine returns_bind collectMatchFact_spec fun fact' hfact' => ?_
      exact returns_pure (List.forall_mem_cons.mpr ⟨hfact, List.forall_mem_singleton.mpr hfact'⟩)
    | listProducts =>
      refine returns_bind collectProductsFact_spec fun fact' hfact' => ?_
      exact returns_pure (List.forall_mem_cons.mpr ⟨hfact, List.forall_mem_singleton.mpr hfact'⟩)

/-- What the service returns: facts of report scopes with distinct ids. -/
structure ReportScopeFacts (hashes : EvidenceHashes) (facts : List CanonicalEvidenceFactV1) :
    Prop where
  nodup : (facts.map (·.evidenceId)).Nodup
  facts : ∀ fact ∈ facts, ReportScopeFact hashes fact

theorem collectReportScope_spec {targets : List ReportTarget} {ready : Bool} :
    (collectReportScope hashes distName targets ready).Returns (ReportScopeFacts hashes) := by
  have hvalues : ∀ facts : List (List CanonicalEvidenceFactV1),
      (∀ fs ∈ facts, ∀ fact ∈ fs, ReportScopeFact hashes fact) →
      ReportScopeFacts hashes (dictValues (·.evidenceId) facts.flatten) := by
    refine fun facts hfacts => ⟨nodup_dictValues, fun fact hfact => ?_⟩
    obtain ⟨fs, hfs, hmem⟩ := List.mem_flatten.mp (mem_of_mem_dictValues hfact)
    exact hfacts fs hfs fact hmem
  unfold collectReportScope
  split_ifs
  · have hcollected := returns_mapM (l := targets) fun target _ =>
      show (collectTarget hashes distName target).Returns _ from collectTarget_spec
    exact returns_bind hcollected fun facts hfacts => returns_pure (hvalues facts hfacts)
  · refine returns_bind (returns_mapM fun target _ => ?_) fun facts hfacts =>
      returns_pure (hvalues facts hfacts)
    refine returns_bind (returns_ofExcept fun _ h => unavailableFact_spec h) fun fact hfact => ?_
    exact returns_pure (List.forall_mem_singleton.mpr hfact)

end Collected

end MarketSupport
