import MarketSupport.Properties.ArtifactTurns
import MarketSupport.Schemas.FeedbackSanitization

/-!
# Evidence from adapter results

The schema of an adapter result leaves its reference, its time and the texts of a report free,
where the canonical models of a fact and its binding do not, and the dates of a report are read
by a parser. Facts are built and derived exactly for the results that fit both.

## Main results

* `adapterEvidence_iff` — when the results of a preflight give facts and business facts.
-/

namespace MarketSupport

open Library

/-! ## What the models of a fact accept -/

/-- The canonical models accept the result of a resolve: its reference is opaque, its time not
negative, and only a report has the texts of one. -/
structure ServedResolve.Fits (served : ServedResolve) : Prop where
  scope : scopeIdentityAccepted
    (canonicalScopeForUnitV1 served.unit served.resolveType.artifactType) = true
  resolvedAt : 0 ≤ served.result.resolvedAt
  ref : isOpaqueRef served.ref = true ∧ hasDoubleDot served.ref.toList = false
  report : reportTextAccepted served.result.period = true ∧
    reportTextAccepted served.result.reportDate = true
  notReport : served.resolveType ∈ [.materialPack, .salesMention] →
    served.result.period = none ∧ served.result.reportDate = none

instance (served : ServedResolve) : Decidable served.Fits :=
  decidable_of_iff (_ ∧ _ ∧ (_ ∧ _) ∧ (_ ∧ _) ∧ (_ → _ ∧ _))
    ⟨fun ⟨scope, resolvedAt, ref, report, notReport⟩ => ⟨scope, resolvedAt, ref, report, notReport⟩,
      fun ⟨scope, resolvedAt, ref, report, notReport⟩ =>
        ⟨scope, resolvedAt, ref, report, notReport⟩⟩

theorem length_of_isOpaqueRef {ref : String} (h : isOpaqueRef ref = true) : ref.length ≤ 160 := by
  rw [← String.length_toList]
  unfold isOpaqueRef at h
  split at h
  · cases h
  · next c cs hcs =>
    simp only [Bool.and_eq_true, decide_eq_true_eq] at h
    rw [hcs, List.length_cons]
    omega

theorem adapterFact_ok_iff {hashes : EvidenceHashes} {served : ServedResolve} :
    (∃ built, adapterFact hashes served.unit served.resolveType served.result served.ref =
      .ok built) ↔ served.Fits := by
  unfold adapterFact
  simp only [buildCanonicalEvidenceFactV1_resolved]
  constructor
  · rintro ⟨built, h⟩
    split_ifs at h with hbounds
    obtain ⟨fact, -, h⟩ := bind_eq_ok_iff.mp h
    split_ifs at h with hbinding
    simp only [not_or, not_not, not_lt] at hbounds
    simp only [bindingAccepted, Bool.and_eq_true, Bool.not_eq_true', decide_eq_true_eq]
      at hbinding
    obtain ⟨⟨⟨⟨hform, hdots⟩, hperiod⟩, hdate⟩, hreport⟩ := hbinding
    exact ⟨hbounds.1, hbounds.2.2, ⟨hform, hdots⟩, ⟨hperiod, hdate⟩, fun h =>
      hreport.resolve_left (not_not.mpr h)⟩
  · rintro ⟨hscope, hresolvedAt, ⟨hform, hdots⟩, ⟨hperiod, hdate⟩, hreport⟩
    have hlength := not_lt.mpr (length_of_isOpaqueRef hform)
    have hkind : served.resolveType ∉ [.materialPack, .salesMention] ∨
        served.result.period = none ∧ served.result.reportDate = none :=
      (em _).symm.imp_right hreport
    refine ⟨(served.fact hashes, served.binding hashes), ?_⟩
    rw [if_neg (by simp [hscope, hlength, hresolvedAt])]
    refine bind_eq_ok_iff.mpr ⟨served.fact hashes, rfl, ?_⟩
    rw [if_pos (by
      simp only [bindingAccepted, hform, hdots, hperiod, hdate, Bool.not_false, Bool.and_self,
        Bool.true_and, decide_eq_true_eq]
      exact hkind)]
    rfl

/-! ## What a unit reads -/

section Reading

variable {hashes : EvidenceHashes} {plan : ExecutionPlanV2} {policy : PolicyManifestV2}
  {preflight : List AdapterPreflightRecord} {facts : List CanonicalEvidenceFactV1}
  {bindings : List CanonicalResolveBindingV1} {epoch : Option ℕ} {unit : ExecutionPlanUnitV2}
  {resolveType : AdapterResolveType}

/-- The resolves that were served, one for every evidence id. -/
def distinctResolves (hashes : EvidenceHashes) (plan : ExecutionPlanV2)
    (preflight : List AdapterPreflightRecord) : List ServedResolve :=
  dictValues (fun served => (served.fact hashes).evidenceId) (servedResolves plan preflight)

/-- The unit admits the fact of a resolve. -/
def admitsResolve (hashes : EvidenceHashes) (epoch : Option ℕ) (unit : ExecutionPlanUnitV2)
    (served : ServedResolve) : Bool :=
  canonicalFactAdmittedForUnitV1 (served.fact hashes) unit unit.manifestRef.manifestId.contract
    epoch

/-- The resolve of a type that a unit reads: the first whose fact it admits. -/
def readResolve (hashes : EvidenceHashes) (plan : ExecutionPlanV2)
    (preflight : List AdapterPreflightRecord) (epoch : Option ℕ) (unit : ExecutionPlanUnitV2)
    (resolveType : AdapterResolveType) : Option ServedResolve :=
  (distinctResolves hashes plan preflight).find? fun served =>
    admitsResolve hashes epoch unit served && decide (served.resolveType = resolveType)

/-- What a unit reads can be read: its material pack has no empty option, and the date of its
report is an ISO date. -/
structure ReadsFit (hashes : EvidenceHashes) (plan : ExecutionPlanV2)
    (preflight : List AdapterPreflightRecord) (epoch : Option ℕ) (unit : ExecutionPlanUnitV2) :
    Prop where
  option : ∀ served ∈ readResolve hashes plan preflight epoch unit .materialPack,
    (canonicalScopeForUnitV1 served.unit served.resolveType.artifactType).materialOption ≠ some ""
  date : ∀ resolveType ∈ [.weeklyReport, .monthlyReport],
    ∀ served ∈ readResolve hashes plan preflight epoch unit resolveType,
      ∀ date ∈ served.result.reportDate, (Date.fromIsoformat date).isSome

instance : Decidable (ReadsFit hashes plan preflight epoch unit) :=
  decidable_of_iff (_ ∧ _) ⟨fun ⟨option, date⟩ => ⟨option, date⟩, fun ⟨option, date⟩ =>
    ⟨option, date⟩⟩

theorem evidence_of_distinct (built : canonicalAdapterFactsV1 hashes plan preflight =
      .ok (facts, bindings)) :
    facts = (distinctResolves hashes plan preflight).map (·.fact hashes) ∧
      bindings = (distinctResolves hashes plan preflight).map (·.binding hashes) := by
  obtain ⟨rfl, rfl⟩ := canonicalAdapterFactsV1_eq_ok built
  exact ⟨dictValues_map, dictValues_map⟩

/-- The resolves that a unit is grounded on. -/
def admittedResolves (hashes : EvidenceHashes) (plan : ExecutionPlanV2)
    (preflight : List AdapterPreflightRecord) (epoch : Option ℕ) (unit : ExecutionPlanUnitV2) :
    List ServedResolve :=
  (distinctResolves hashes plan preflight).filter (admitsResolve hashes epoch unit)

theorem nodup_admittedResolves : ((admittedResolves hashes plan preflight epoch unit).map
    fun served => (served.fact hashes).evidenceId).Nodup :=
  nodup_dictValues.sublist (List.filter_sublist.map _)

theorem admittedFacts_resolves (built : canonicalAdapterFactsV1 hashes plan preflight =
      .ok (facts, bindings)) : admittedFacts facts epoch unit =
      (admittedResolves hashes plan preflight epoch unit).map (·.fact hashes) := by
  rw [admittedFacts_eq, (evidence_of_distinct built).1, candidateFacts, List.filter_map]
  rfl

theorem admittedBindings_resolves (built : canonicalAdapterFactsV1 hashes plan preflight =
      .ok (facts, bindings)) : admittedBindings facts bindings epoch unit =
      (admittedResolves hashes plan preflight epoch unit).map (·.binding hashes) := by
  rw [admittedBindings, admittedFacts_resolves built, (evidence_of_distinct built).2,
    List.filter_map, List.map_map, admittedResolves]
  congr 1
  refine List.filter_congr fun served hserved => ?_
  have hid : (served.binding hashes).evidenceId = (served.fact hashes).evidenceId := rfl
  rw [Function.comp_apply, hid, Bool.eq_iff_iff, decide_eq_true_eq]
  constructor
  · intro hmem
    obtain ⟨other, hother, heq⟩ := List.mem_map.mp hmem
    obtain ⟨hdistinct, hadmits⟩ := List.mem_filter.mp hother
    rwa [← List.inj_on_of_nodup_map nodup_dictValues hdistinct hserved heq]
  · exact fun hadmits => List.mem_map.mpr ⟨served, List.mem_filter.mpr ⟨hserved, hadmits⟩, rfl⟩

theorem firstResolvable_resolves :
    firstResolvableFactV1 ((admittedResolves hashes plan preflight epoch unit).map (·.fact hashes))
        resolveType = (readResolve hashes plan preflight epoch unit resolveType).map
          (·.fact hashes) := by
  rw [firstResolvableFactV1, List.find?_map, admittedResolves, List.find?_filter, readResolve]
  congr 2
  funext served
  have htype : (served.fact hashes).factType = served.resolveType.factType := rfl
  have hresolve : (served.fact hashes).resolveType = some served.resolveType := rfl
  by_cases h : served.resolveType = resolveType <;> simp [htype, hresolve, h]

theorem mem_of_readResolve {served : ServedResolve}
    (h : readResolve hashes plan preflight epoch unit resolveType = some served) :
    served ∈ admittedResolves hashes plan preflight epoch unit ∧
      served.resolveType = resolveType := by
  have hread := List.find?_some h
  rw [Bool.and_eq_true, decide_eq_true_eq] at hread
  exact ⟨List.mem_filter.mpr ⟨List.mem_of_find?_eq_some h, hread.1⟩, hread.2⟩

/-- A unit reads the binding of the resolve that it reads. -/
theorem bindingForResolve_resolves :
    bindingForResolveFactV1
        ((admittedResolves hashes plan preflight epoch unit).map (·.fact hashes))
        ((admittedResolves hashes plan preflight epoch unit).map (·.binding hashes)) resolveType =
      (readResolve hashes plan preflight epoch unit resolveType).map (·.binding hashes) := by
  rw [bindingForResolveFactV1, firstResolvable_resolves]
  cases hread : readResolve hashes plan preflight epoch unit resolveType with
  | none => rfl
  | some served =>
    obtain ⟨hmem, htype⟩ := mem_of_readResolve hread
    have hfind : bindingOf ((admittedResolves hashes plan preflight epoch unit).map
        (·.binding hashes)) (served.binding hashes).evidenceId = some (served.binding hashes) :=
      find?_key (by rw [List.map_map]; exact nodup_admittedResolves) (List.mem_map_of_mem hmem)
    have hid : (served.fact hashes).evidenceId = (served.binding hashes).evidenceId := rfl
    have hbound : (served.binding hashes).resolveType = served.resolveType := rfl
    simp [hid, hfind, hbound, htype]

/-- A unit is told of what its contract admits. -/
theorem declared_of_readResolve {served : ServedResolve}
    (h : readResolve hashes plan preflight epoch unit resolveType = some served) :
    resolveDeclaredOrAdmittedV1 unit unit.manifestRef.manifestId.contract resolveType = true := by
  obtain ⟨hmem, rfl⟩ := mem_of_readResolve h
  have hallowed : served.resolveType.factType ∈
      unit.manifestRef.manifestId.contract.allowedFactTypes :=
    factType_mem_of_admitted (List.mem_filter.mp hmem).2
  obtain hempty | ⟨factType, _, hall, hrequired, _⟩ := contract_facts unit.manifestRef.manifestId
  · simp [hempty] at hallowed
  · rw [hall] at hallowed
    simp [resolveDeclaredOrAdmittedV1, hrequired, List.mem_singleton.mp hallowed]

/-- The bindings of what a unit is grounded on agree with its facts. -/
theorem validated_resolves : validatedResolveBindingsV1
    ((admittedResolves hashes plan preflight epoch unit).map (·.fact hashes))
    ((admittedResolves hashes plan preflight epoch unit).map (·.binding hashes)) =
      .ok ((admittedResolves hashes plan preflight epoch unit).map (·.binding hashes)) := by
  refine validatedResolveBindingsV1_eq_ok (by rw [List.map_map]; exact nodup_admittedResolves)
    (by rw [List.map_map]; exact nodup_admittedResolves) fun binding hbinding => ?_
  obtain ⟨served, hserved, rfl⟩ := List.mem_map.mp hbinding
  exact ⟨served.fact hashes, List.mem_map_of_mem hserved, rfl, rfl, rfl, rfl⟩

theorem length_flatMap_le {α β : Type*} {f : α → List β} {l : List α} {n : ℕ}
    (h : ∀ a ∈ l, (f a).length ≤ n) : (l.flatMap f).length ≤ l.length * n := by
  induction l with
  | nil => simp
  | cons a l ih =>
    obtain ⟨ha, hl⟩ := List.forall_mem_cons.mp h
    rw [List.flatMap_cons, List.length_append, List.length_cons, Nat.add_mul, one_mul, Nat.add_comm]
    exact Nat.add_le_add (ih hl) ha

/-- A plan within its bounds has at most 32 resolves. -/
theorem length_admittedResolves_le (hunits : plan.units.length ≤ 4)
    (hresolves : ∀ unit ∈ plan.units, unit.adapterResolves.length ≤ 8) :
    (admittedResolves hashes plan preflight epoch unit).length ≤ 32 := by
  have hserved : (servedResolves plan preflight).length ≤ plan.units.length * 8 :=
    length_flatMap_le fun source hsource =>
      (List.length_filterMap_le _ _).trans (hresolves source hsource)
  calc (admittedResolves hashes plan preflight epoch unit).length
      ≤ (distinctResolves hashes plan preflight).length := List.length_filter_le _ _
    _ ≤ (servedResolves plan preflight).length := length_dictValues_le
    _ ≤ plan.units.length * 8 := hserved
    _ ≤ 32 := Nat.mul_le_mul_right 8 hunits

/-- The business facts of a unit can be derived exactly when what it reads fits. -/
theorem groundedBusinessFacts_iff (hunits : plan.units.length ≤ 4)
    (hresolves : ∀ unit ∈ plan.units, unit.adapterResolves.length ≤ 8)
    (built : canonicalAdapterFactsV1 hashes plan preflight = .ok (facts, bindings)) :
    (∃ businessFacts, groundedBusinessFacts policy facts bindings epoch unit =
        .ok businessFacts) ↔ ReadsFit hashes plan preflight epoch unit := by
  have hsummary : ∀ fact ∈ (admittedResolves hashes plan preflight epoch unit).map (·.fact hashes),
      fact.factType ≠ .reportScopeSummary := by
    intro fact hfact
    obtain ⟨served, -, rfl⟩ := List.mem_map.mp hfact
    have htype : (served.fact hashes).factType = served.resolveType.factType := rfl
    rw [htype]
    cases served.resolveType <;> decide
  rw [groundedBusinessFacts, admittedFacts_resolves built, admittedBindings_resolves built,
    exists_deriveUnitBusinessFactsV1_iff rfl hsummary (allowedFactTypes_not_mem _).2
      validated_resolves, List.length_map]
  simp only [MaterialOptionUsable, ReportDateUsable, firstResolvable_resolves,
    bindingForResolve_resolves, Option.mem_def, Option.map_eq_some_iff, forall_exists_index,
    and_imp, forall_apply_eq_imp_iff₂]
  constructor
  · rintro ⟨-, hoption, hweekly, hmonthly⟩
    refine ⟨fun served hread => hoption (declared_of_readResolve hread) served hread, ?_⟩
    refine List.forall_mem_cons.mpr ⟨fun served hread => ?_, List.forall_mem_singleton.mpr
      fun served hread => ?_⟩
    · exact hweekly (declared_of_readResolve hread) served hread
    · exact hmonthly (declared_of_readResolve hread) served hread
  · rintro ⟨hoption, hdate⟩
    exact ⟨length_admittedResolves_le hunits hresolves, fun _ => hoption,
      fun _ => hdate _ (by simp), fun _ => hdate _ (by simp)⟩

/-- The facts of a preflight are built, and the business facts of all units derived, exactly when
the models of a fact accept every result that was served and the units can read what they admit. -/
theorem adapterEvidence_iff (hunits : plan.units.length ≤ 4)
    (hresolves : ∀ unit ∈ plan.units, unit.adapterResolves.length ≤ 8) :
    (∃ facts bindings, canonicalAdapterFactsV1 hashes plan preflight = .ok (facts, bindings) ∧
        ∀ unit ∈ plan.units, ∃ businessFacts,
          groundedBusinessFacts policy facts bindings epoch unit = .ok businessFacts) ↔
      (∀ served ∈ servedResolves plan preflight, served.Fits) ∧
        ∀ unit ∈ plan.units, ReadsFit hashes plan preflight epoch unit := by
  have hbuilt : (∃ facts bindings, canonicalAdapterFactsV1 hashes plan preflight =
      .ok (facts, bindings)) ↔ ∀ served ∈ servedResolves plan preflight, served.Fits := by
    rw [← forall₂_congr fun served _ => @adapterFact_ok_iff hashes served,
      ← exists_mapM_eq_ok_iff, ← exists_bind_pure_eq_ok_iff, Prod.exists]
    rfl
  rw [← hbuilt]
  constructor
  · rintro ⟨facts, bindings, built, hderive⟩
    exact ⟨⟨facts, bindings, built⟩, fun unit hunit =>
      (groundedBusinessFacts_iff hunits hresolves built).mp (hderive unit hunit)⟩
  · rintro ⟨⟨facts, bindings, built⟩, hreads⟩
    exact ⟨facts, bindings, built, fun unit hunit =>
      (groundedBusinessFacts_iff hunits hresolves built).mpr (hreads unit hunit)⟩

end Reading

/-! ## Samples -/

namespace WeeklyResult

/-- A result for the weekly report, with its reference and its date. -/
def result (resolveRef reportDate : String) (h : resolvedHasRef .resolved (some resolveRef)) :
    AdapterResolveResult where
  resolveType := .weeklyReport
  status := .resolved
  resolvedAt := 1
  resolveRef := some resolveRef
  period := some "2026W29"
  reportDate := some reportDate
  resolved_has_ref := h

def preflight (resolveRef reportDate : String)
    (h : resolvedHasRef .resolved (some resolveRef) := by decide) : List AdapterPreflightRecord :=
  [⟨.weeklyReport, some (result resolveRef reportDate h)⟩]

/-- Collect the evidence of two units that send the weekly report. -/
def collect (preflight : List AdapterPreflightRecord) :
    Except EvidenceException (List (Option Date)) := do
  let (facts, bindings) ← canonicalAdapterFactsV1 TwoArtifacts.hashes TwoArtifacts.reports preflight
  TwoArtifacts.reports.units.mapM fun unit => do
    let businessFacts ←
      groundedBusinessFacts TwoArtifacts.policy facts bindings none unit
    return businessFacts.weeklyReport.reportDate

end WeeklyResult

open TwoArtifacts WeeklyResult in
theorem adapterEvidence_two : ∃ facts bindings,
    canonicalAdapterFactsV1 hashes reports (preflight "ref-1" "2026-07-17") =
        .ok (facts, bindings) ∧
      ∀ unit ∈ reports.units, ∃ businessFacts,
        groundedBusinessFacts TwoArtifacts.policy facts bindings none unit = .ok businessFacts :=
  (adapterEvidence_iff (by decide +kernel) (by decide +kernel)).mpr
    ⟨by decide +kernel, by decide +kernel⟩

open WeeklyResult in
/-- References with a blank and dates that are no ISO dates pass the schema of the adapter, which
only rejects locators in the references. -/
theorem schemaResults_raise :
    isRawLocator "weekly report" = false ∧
      collect (preflight "weekly report" "2026-07-17") = .error .validationError ∧
      isRawLocator "ref-1" = false ∧
      collect (preflight "ref-1" "17 July") =
        .error (.businessFactsContractError "invalid_strict_iso_date") := by
  decide +kernel

end MarketSupport
