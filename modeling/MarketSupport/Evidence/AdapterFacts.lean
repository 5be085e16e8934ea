import MarketSupport.Integrations.Preflight
import MarketSupport.Library.FirstByKey

/-!
# Facts of the adapter

Every resolve of a unit whose type the adapter resolved gives one fact in the scope of the unit,
and the binding of the fact to the reference that the adapter returned.
-/

namespace MarketSupport

open Library

/-! ## Scopes -/

/-- `canonical_artifact_type_for_resolve`. -/
def AdapterResolveType.artifactType : AdapterResolveType → EvidenceArtifactType
  | .materialPack => .materialPack
  | .weeklyReport => .weeklyReport
  | .monthlyReport => .monthlyReport
  | .salesMention => .adapterContext

/-- `canonical_scope_for_unit_v1`. -/
def canonicalScopeForUnitV1 (unit : ExecutionPlanUnitV2) (artifactType : EvidenceArtifactType) :
    EvidenceScopeIdentityV1 :=
  match unit.scope with
  | .distribution scope => .distribution scope.businessScopeRef scope.channelKind scope.productIds
      artifactType scope.materialPackOption (scope.timeRange.bind (·.period)) none
  | .unscoped => .unscoped artifactType none none none

/-- What the constructor of a scope identity checks, of the fields that it shares with the scope
of a unit under other bounds. -/
def scopeIdentityAccepted : EvidenceScopeIdentityV1 → Bool
  | .distribution _ _ productIds _ option period reportDate =>
    decide (productIds.length ≤ 1000) && option.all (·.length ≤ 80) &&
      period.all (·.length ≤ 40) && reportDate.all (·.length ≤ 40)
  | .unscoped _ option period reportDate => option.all (·.length ≤ 80) &&
      period.all (·.length ≤ 40) && reportDate.all (·.length ≤ 40)

/-! ## Bindings -/

/-- `^[A-Za-z0-9][A-Za-z0-9._:~-]{0,159}$`. -/
def isOpaqueRef (ref : String) : Bool :=
  match ref.toList with
  | [] => false
  | c :: cs => c.isAlphanum && decide (cs.length ≤ 159) &&
      cs.all fun c => c.isAlphanum || (c ∈ ['.', '_', ':', '~', '-'] : Bool)

/-- `".." in value`. -/
def hasDoubleDot : List Char → Bool
  | '.' :: '.' :: _ => true
  | _ :: cs => hasDoubleDot cs
  | [] => false

/-- The text of a report binding is not empty and has at most 40 characters. -/
def reportTextAccepted (text : Option String) : Bool :=
  text.all fun text => 1 ≤ text.length && text.length ≤ 40

/-- What the constructor of `CanonicalResolveBindingV1` checks. -/
def bindingAccepted (binding : CanonicalResolveBindingV1) : Bool :=
  isOpaqueRef binding.resolveRef && !hasDoubleDot binding.resolveRef.toList &&
    reportTextAccepted binding.period && reportTextAccepted binding.reportDate &&
    (binding.resolveType ∉ [.materialPack, .salesMention] ∨
      binding.period = none ∧ binding.reportDate = none : Bool)

/-! ## Facts -/

variable (hashes : EvidenceHashes)

/-- The provenance of what the adapter resolved for a scope. -/
def adapterProvenance (resolveType : AdapterResolveType) (ref : String)
    (scope : EvidenceScopeIdentityV1) (resolvedAt : ℕ) : EvidenceProvenanceCanonicalV1 where
  sourceClass := "adapter"
  sourceRecordRef :=
    hashes.sourceRecordRef (.adapter "assistant-adapter" "adapter-resolve" resolveType ref)
  producerContractVersion := "adapter-resolve"
  retrievalOperation := "adapter_resolve"
  scopeRef := hashes.scopeRef scope
  asOfEpochSeconds := some resolvedAt
  publicUrlHashes := []

/-- The fact of one resolve of a unit. -/
def resolvedFact (unit : ExecutionPlanUnitV2) (resolveType : AdapterResolveType)
    (result : AdapterResolveResult) (ref : String) : CanonicalEvidenceFactV1 :=
  let scope := canonicalScopeForUnitV1 unit resolveType.artifactType
  let provenance := adapterProvenance hashes resolveType ref scope result.resolvedAt.toNat
  { evidenceId := hashes.factId {
      sourceClass := provenance.sourceClass
      sourceRecordRef := provenance.sourceRecordRef
      factType := resolveType.factType
      artifactType := resolveType.artifactType
      scopeRef := provenance.scopeRef
      asOfEpochSeconds := provenance.asOfEpochSeconds
      valueHash := hashes.valueHash (.boolean true)
      provenanceHash := hashes.provenanceHash provenance }
    factType := resolveType.factType
    sourceType := .adapterResolve
    artifactType := resolveType.artifactType
    resolveType := some resolveType
    value := .boolean true
    scope
    provenance
    observedAtEpochSeconds := provenance.asOfEpochSeconds
    publicUrls := []
    reportPayload := none
    recentExecutedAction := none }

/-- The fact and the binding of one resolve of a unit. -/
def adapterFact (unit : ExecutionPlanUnitV2) (resolveType : AdapterResolveType)
    (result : AdapterResolveResult) (ref : String) :
    Except EvidenceException (CanonicalEvidenceFactV1 × CanonicalResolveBindingV1) :=
  let scope := canonicalScopeForUnitV1 unit resolveType.artifactType
  if ¬ scopeIdentityAccepted scope ∨ 160 < ref.length ∨ result.resolvedAt < 0 then
    .error .validationError
  else do
    let provenance := adapterProvenance hashes resolveType ref scope result.resolvedAt.toNat
    let fact ← (buildCanonicalEvidenceFactV1 hashes resolveType.factType .adapterResolve
      resolveType.artifactType (some resolveType) (.boolean true) scope provenance
      (some result.resolvedAt.toNat)).mapError .otherError
    let binding : CanonicalResolveBindingV1 := {
      evidenceId := fact.evidenceId
      resolveType
      sourceRecordRef := provenance.sourceRecordRef
      scopeRef := provenance.scopeRef
      resolveRef := ref
      period := result.period
      reportDate := result.reportDate }
    if bindingAccepted binding then .ok (fact, binding) else .error .validationError

/-- A resolve of a unit, with the result that the adapter gave for its type. -/
structure ServedResolve where
  unit : ExecutionPlanUnitV2
  resolveType : AdapterResolveType
  result : AdapterResolveResult
  ref : String
  deriving DecidableEq, Repr

/-- The resolves of the units that the adapter resolved, in order. -/
def servedResolves (plan : ExecutionPlanV2) (preflight : List AdapterPreflightRecord) :
    List ServedResolve :=
  plan.units.flatMap fun unit => unit.adapterResolves.filterMap fun resolve =>
    (resolvedResult preflight resolve.resolveType).map fun (result, ref) =>
      ⟨unit, resolve.resolveType, result, ref⟩

/-- `canonical_adapter_facts_v1`. -/
def canonicalAdapterFactsV1 (plan : ExecutionPlanV2) (preflight : List AdapterPreflightRecord) :
    Except EvidenceException (List CanonicalEvidenceFactV1 × List CanonicalResolveBindingV1) := do
  let built ← (servedResolves plan preflight).mapM fun served =>
    adapterFact hashes served.unit served.resolveType served.result served.ref
  return (dictValues (·.evidenceId) (built.map (·.1)), dictValues (·.evidenceId) (built.map (·.2)))

/-! ## What is built -/

variable {hashes} {plan : ExecutionPlanV2} {preflight : List AdapterPreflightRecord}
  {served : ServedResolve}

def ServedResolve.fact (hashes : EvidenceHashes) (served : ServedResolve) :
    CanonicalEvidenceFactV1 :=
  resolvedFact hashes served.unit served.resolveType served.result served.ref

def ServedResolve.binding (hashes : EvidenceHashes) (served : ServedResolve) :
    CanonicalResolveBindingV1 where
  evidenceId := (served.fact hashes).evidenceId
  resolveType := served.resolveType
  sourceRecordRef := (served.fact hashes).provenance.sourceRecordRef
  scopeRef := (served.fact hashes).provenance.scopeRef
  resolveRef := served.ref
  period := served.result.period
  reportDate := served.result.reportDate

theorem artifactType_canonicalScopeForUnitV1 (unit : ExecutionPlanUnitV2)
    (artifactType : EvidenceArtifactType) :
    (canonicalScopeForUnitV1 unit artifactType).artifactType = artifactType := by
  unfold canonicalScopeForUnitV1
  split <;> rfl

/-- The fact of a resolve passes the checks of `build_canonical_evidence_fact_v1`. -/
theorem buildCanonicalEvidenceFactV1_resolved (hashes : EvidenceHashes)
    (unit : ExecutionPlanUnitV2) (resolveType : AdapterResolveType)
    (result : AdapterResolveResult) (ref : String) :
    buildCanonicalEvidenceFactV1 hashes resolveType.factType .adapterResolve
      resolveType.artifactType (some resolveType) (.boolean true)
      (canonicalScopeForUnitV1 unit resolveType.artifactType)
      (adapterProvenance hashes resolveType ref
        (canonicalScopeForUnitV1 unit resolveType.artifactType) result.resolvedAt.toNat)
      (some result.resolvedAt.toNat) = .ok (resolvedFact hashes unit resolveType result ref) := by
  have hartifact := artifactType_canonicalScopeForUnitV1 unit resolveType.artifactType
  simp [buildCanonicalEvidenceFactV1, adapterProvenance, hartifact, resolvedFact]

/-- A resolve that is accepted gives its fact and its binding. -/
theorem adapterFact_eq_ok {built : CanonicalEvidenceFactV1 × CanonicalResolveBindingV1}
    (h : adapterFact hashes served.unit served.resolveType served.result served.ref = .ok built) :
    built = (served.fact hashes, served.binding hashes) := by
  unfold adapterFact at h
  simp only [buildCanonicalEvidenceFactV1_resolved] at h
  split_ifs at h
  obtain ⟨fact, hfact, h⟩ := bind_eq_ok_iff.mp h
  obtain rfl := Except.ok.inj hfact
  split_ifs at h
  exact (Except.ok.inj h).symm

/-- The facts and the bindings of a plan are those of its resolves. -/
theorem canonicalAdapterFactsV1_eq_ok {facts : List CanonicalEvidenceFactV1}
    {bindings : List CanonicalResolveBindingV1}
    (h : canonicalAdapterFactsV1 hashes plan preflight = .ok (facts, bindings)) :
    facts = dictValues (·.evidenceId) ((servedResolves plan preflight).map (·.fact hashes)) ∧
      bindings =
        dictValues (·.evidenceId) ((servedResolves plan preflight).map (·.binding hashes)) := by
  obtain ⟨built, hbuilt, h⟩ := bind_eq_ok_iff.mp h
  have hmap : built = (servedResolves plan preflight).map fun served =>
      (served.fact hashes, served.binding hashes) :=
    (List.forall₂_eq_eq_eq ▸ List.forall₂_map_left_iff.mpr
      ((mapM_eq_ok_iff.mp hbuilt).imp fun _ _ h => (adapterFact_eq_ok h).symm)).symm
  cases h
  rw [hmap, List.map_map, List.map_map]
  exact ⟨rfl, rfl⟩

theorem mem_servedResolves : served ∈ servedResolves plan preflight ↔
    served.unit ∈ plan.units ∧ (∃ resolve ∈ served.unit.adapterResolves,
      resolve.resolveType = served.resolveType) ∧
    resolvedResult preflight served.resolveType = some (served.result, served.ref) := by
  simp only [servedResolves, List.mem_flatMap, List.mem_filterMap, Option.map_eq_some_iff]
  constructor
  · rintro ⟨unit, hunit, resolve, hresolve, ⟨result, ref⟩, hresult, rfl⟩
    exact ⟨hunit, ⟨resolve, hresolve, rfl⟩, hresult⟩
  · rintro ⟨hunit, ⟨resolve, hresolve, htype⟩, hresult⟩
    exact ⟨served.unit, hunit, resolve, hresolve, _, htype ▸ hresult, by rw [htype]⟩

/-- The first served resolve of a type is that of the first unit which asks for the type. -/
theorem find?_servedResolves (resolveType : AdapterResolveType) (p : ExecutionPlanUnitV2 → Bool) :
    (servedResolves plan preflight).find? (fun served =>
        decide (served.resolveType = resolveType) && p served.unit) =
      (resolvedResult preflight resolveType).bind fun (result, ref) =>
        (plan.units.find? fun unit =>
          unit.adapterResolves.any (·.resolveType = resolveType) && p unit).map
            fun unit => ⟨unit, resolveType, result, ref⟩ := by
  have hunit : ∀ unit : ExecutionPlanUnitV2, ∀ resolves : List CanonicalAdapterResolveV1,
      (resolves.filterMap fun resolve => (resolvedResult preflight resolve.resolveType).map
        fun (result, ref) => ServedResolve.mk unit resolve.resolveType result ref).find?
          (fun served => decide (served.resolveType = resolveType) && p served.unit) =
      (resolvedResult preflight resolveType).bind fun (result, ref) =>
        if resolves.any (·.resolveType = resolveType) && p unit then
          some ⟨unit, resolveType, result, ref⟩
        else none := by
    intro unit resolves
    induction resolves with
    | nil => cases resolvedResult preflight resolveType <;> simp
    | cons resolve resolves ih =>
      by_cases htype : resolve.resolveType = resolveType
      · cases hresult : resolvedResult preflight resolveType with
        | none => simpa [List.filterMap_cons, htype, hresult] using ih
        | some result => cases hp : p unit <;> simp_all
      · cases hresult : resolvedResult preflight resolve.resolveType with
        | none => simpa [List.filterMap_cons, htype, hresult] using ih
        | some result => simpa [List.filterMap_cons, htype, hresult] using ih
  unfold servedResolves
  induction plan.units with
  | nil => cases resolvedResult preflight resolveType <;> simp
  | cons unit units ih =>
    rw [List.flatMap_cons, List.find?_append, hunit, ih, List.find?_cons]
    cases resolvedResult preflight resolveType with
    | none => rfl
    | some result => cases unit.adapterResolves.any (·.resolveType = resolveType) && p unit <;> simp

/-- Facts that have the same id are the same, and so are their bindings. -/
theorem separates_binding
    (h : Separates (·.evidenceId) ((servedResolves plan preflight).map (·.fact hashes))) :
    Separates (·.evidenceId) ((servedResolves plan preflight).map (·.binding hashes)) := by
  intro a ha b hb hid
  obtain ⟨s, hs, rfl⟩ := List.mem_map.mp ha
  obtain ⟨t, ht, rfl⟩ := List.mem_map.mp hb
  have hfact : s.fact hashes = t.fact hashes :=
    h _ (List.mem_map_of_mem hs) _ (List.mem_map_of_mem ht) hid
  have htype : s.resolveType = t.resolveType :=
    Option.some.inj (congrArg CanonicalEvidenceFactV1.resolveType hfact)
  have hresult := (mem_servedResolves.mp hs).2.2
  rw [htype, (mem_servedResolves.mp ht).2.2] at hresult
  obtain ⟨hresult, href⟩ := Prod.mk.inj (Option.some.inj hresult)
  simp only [ServedResolve.binding, hfact, htype, hresult, href]

end MarketSupport
