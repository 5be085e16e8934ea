import MarketSupport.Properties.ArtifactTurns
import MarketSupport.Properties.ComposerAuthority

/-!
# References of material packs

A plan asks the adapter for one material pack, whatever options its units ask for. Its actions
carry the reference of their own option exactly when all units agree on that of the request.

## Main results

* `materialPackRefs_iff` — when the material packs of a reply are those that were asked for.
-/

namespace MarketSupport

open Library Program

/-! ## Options -/

/-- The option that a plan asks the adapter for: the last one of its resolves, unless that is
empty. -/
def ExecutionPlanV2.requestedOption (plan : ExecutionPlanV2) : Option String :=
  ((plan.adapterResolves.filter (·.resolveType = .materialPack)).filterMap
    (·.materialPackOption)).getLast?.filter (· ≠ "")

theorem materialPackOption_requested (plan : ExecutionPlanV2) :
    materialPackOptionForResolveType (resolveMaterialPackOptionsForPlanV2 plan) .materialPack =
      plan.requestedOption := by
  have hoptions : ((resolveMaterialPackOptionsForPlanV2 plan).filter
      (·.1 = .materialPack)).map (·.2) =
        (plan.adapterResolves.filter (·.resolveType = .materialPack)).filterMap
          (·.materialPackOption) := by
    rw [resolveMaterialPackOptionsForPlanV2, List.filter_filterMap, List.map_filterMap,
      List.filterMap_filter]
    refine List.filterMap_congr fun resolve _ => ?_
    cases resolve.materialPackOption with
    | none => simp
    | some option => by_cases h : resolve.resolveType = .materialPack <;> simp [h]
  rw [materialPackOptionForResolveType, if_neg (by simp), optionForResolveType, ← List.head?_filter,
    List.filter_reverse, List.head?_reverse, ← List.getLast?_map, hoptions]
  rfl

namespace ArtifactTurn

variable (turn : ArtifactTurn)

/-- A material pack that an action sends is what the adapter returned to a request for its
option. -/
def OwnResolveRef (results : List AdapterResolveResult) (action : OutboundAction) : Prop :=
  action.type = .sendMaterialPack → ∃ request ∈ turn.requests,
    request.resolveType = .materialPack ∧
    request.materialPackOption = action.materialPackOption ∧
    ∃ result ∈ results, result.resolveType = .materialPack ∧ result.status = .resolved ∧
      result.resolveRef = some action.resolveRef

/-- Two units that ask for material packs of different options have one result. -/
def SharesResult : Prop :=
  ∃ u ∈ turn.plan.units, ∃ v ∈ turn.plan.units, u ≠ v ∧
    (∃ r ∈ u.adapterResolves, ∃ s ∈ v.adapterResolves, r.resolveType = .materialPack ∧
      s.resolveType = .materialPack ∧ r.materialPackOption ≠ s.materialPackOption) ∧
    ∃ result ref, ⟨u, .materialPack, result, ref⟩ ∈ servedResolves turn.plan turn.preflight ∧
      ⟨v, .materialPack, result, ref⟩ ∈ servedResolves turn.plan turn.preflight

/-- All units that ask for a material pack ask for the same option. -/
def OneOption : Prop :=
  ∀ u ∈ turn.plan.units, ∀ v ∈ turn.plan.units, u ≠ v →
    ∀ r ∈ u.adapterResolves, ∀ s ∈ v.adapterResolves, r.resolveType = .materialPack →
      s.resolveType = .materialPack → r.materialPackOption = s.materialPackOption

/-- Every material pack that the user may have sent is of the option that the plan asks for. -/
def SendsRequestedOption : Prop :=
  ∀ unit ∈ turn.plan.units, unitPermissionV1 unit turn.policy = .allowed →
    unit.manifestRef.manifestId = .materialPackSend → ∀ intent ∈ unit.actionIntents,
      intent.actionType = .sendMaterialPack →
        ∀ source ∈ resolveSource turn.plan .materialPack unit,
          sentOption intent source = turn.plan.requestedOption

variable {turn}

theorem sharesResult_iff : turn.SharesResult ↔ turn.delivered .materialPack ≠ none ∧
    ¬ turn.OneOption := by
  constructor
  · rintro ⟨u, hu, v, hv, hne, ⟨r, hr, s, hs, htype, htype', hoption⟩, result, ref, hserved, _⟩
    have hdelivered := (mem_servedResolves.mp hserved).2.2
    rw [resolvedResult_preflight (htype ▸ mem_resolveTypes hu hr)] at hdelivered
    exact ⟨by simp [hdelivered], fun h => hoption (h u hu v hv hne r hr s hs htype htype')⟩
  · rintro ⟨hdelivered, hone⟩
    unfold OneOption at hone
    push Not at hone
    obtain ⟨u, hu, v, hv, hne, r, hr, s, hs, htype, htype', hoption⟩ := hone
    obtain ⟨⟨result, ref⟩, hdelivered⟩ := Option.ne_none_iff_exists'.mp hdelivered
    rw [← resolvedResult_preflight (htype ▸ mem_resolveTypes hu hr)] at hdelivered
    exact ⟨u, hu, v, hv, hne, ⟨r, hr, s, hs, htype, htype', hoption⟩, result, ref,
      mem_servedResolves.mpr ⟨hu, ⟨r, hr, htype⟩, hdelivered⟩,
      mem_servedResolves.mpr ⟨hv, ⟨s, hs, htype'⟩, hdelivered⟩⟩

/-- The only request for a material pack is for the option that the plan asks for. -/
theorem exists_request_iff {unit : ExecutionPlanUnitV2} (hunit : unit ∈ turn.plan.units)
    {resolve : CanonicalAdapterResolveV1} (hresolve : resolve ∈ unit.adapterResolves)
    (htype : resolve.resolveType = .materialPack) {option : Option String} :
    (∃ request ∈ turn.requests, request.resolveType = .materialPack ∧
      request.materialPackOption = option) ↔ turn.plan.requestedOption = option := by
  have hmem : .materialPack ∈ resolveTypesForPlanV2 turn.plan turn.policy :=
    htype ▸ mem_resolveTypes hunit hresolve
  rw [← materialPackOption_requested]
  constructor
  · rintro ⟨request, hrequest, hpack, hoption⟩
    obtain ⟨resolveType, _, rfl⟩ := List.mem_map.mp hrequest
    obtain rfl : resolveType = .materialPack := hpack
    exact hoption
  · intro hoption
    exact ⟨_, List.mem_map.mpr ⟨.materialPack, mem_orderedResolveTypes.mpr hmem, rfl⟩, rfl, hoption⟩

/-- When every request has one result, a material pack is delivered when its result is resolved. -/
theorem delivered_iff {results : List AdapterResolveResult}
    (answered : turn.resolveMany turn.requests = some results)
    (answers : AnswersEach turn.requests results) {resolveType : AdapterResolveType} :
    (∃ result ∈ results, result.resolveType = resolveType ∧ result.status = .resolved) ↔
      turn.delivered resolveType ≠ none := by
  constructor
  · rintro ⟨result, hresult, htype, hstatus⟩
    have hnodup : (results.map (·.resolveType)).Nodup :=
      answers.nodup_iff.mpr nodup_requests
    obtain ⟨ref, href⟩ := AdapterResolveResult.exists_resolveRef hstatus
    have hfind : results.reverse.find? (·.resolveType = resolveType) = some result := by
      cases hfound : results.reverse.find? (·.resolveType = resolveType) with
      | none =>
        exact absurd htype (by
          simpa using List.find?_eq_none.mp hfound result (List.mem_reverse.mpr hresult))
      | some other =>
        have hother : other.resolveType = resolveType := by simpa using List.find?_some hfound
        rw [List.inj_on_of_nodup_map hnodup
          (List.mem_reverse.mp (List.mem_of_find?_eq_some hfound)) hresult
          (hother.trans htype.symm)]
    simp [delivered, answered, hfind, AdapterPreflightRecord.resolved?, hstatus, href]
  · intro hdelivered
    obtain ⟨⟨result, ref⟩, h⟩ := Option.ne_none_iff_exists'.mp hdelivered
    obtain ⟨results', hresults', hmem, htype, hstatus, _⟩ := of_delivered h
    cases answered.symm.trans hresults'
    exact ⟨result, hmem, htype, hstatus⟩

/-- The actions carry their own references exactly when what is delivered is what is sent. -/
theorem ownResolveRef_iff {results : List AdapterResolveResult}
    (answered : turn.resolveMany turn.requests = some results) :
    (∀ action ∈ turn.sentActions, turn.OwnResolveRef results action) ↔
      (turn.delivered .materialPack ≠ none → turn.SendsRequestedOption) := by
  constructor
  · intro hown hdelivered unit hunit hallowed hmanifest intent hintent htype source hsource
    obtain ⟨⟨result, ref⟩, hdelivered⟩ := Option.ne_none_iff_exists'.mp hdelivered
    obtain ⟨hsourceUnit, ⟨resolve, hresolve, hpack⟩, _⟩ := of_resolveSource hsource
    have haction : .sendMaterialPack "" ref (sentOption intent source) ∈ turn.sentActions := by
      refine mem_sentActions.mpr ⟨unit, intent, ⟨source, .materialPack, result, ref⟩,
        mem_permittedIntents.mpr ⟨hunit, hallowed, hintent⟩, intentArtifact_eq_some.mpr ?_, ?_⟩
      · rw [htype]
        exact ⟨hmanifest, rfl, hsource, hdelivered⟩
      · rw [sentAction, htype]
    obtain ⟨request, hrequest, hrequestType, hoption, _⟩ := hown _ haction rfl
    exact ((exists_request_iff hsourceUnit hresolve hpack).mp
      ⟨request, hrequest, hrequestType, hoption⟩).symm
  · intro hsends action haction htype
    obtain ⟨unit, intent, served, hpermitted, hartifact, haction⟩ := mem_sentActions.mp haction
    obtain ⟨hunit, hallowed, hintent⟩ := mem_permittedIntents.mp hpermitted
    obtain ⟨hmanifest, hresolveType, hsource, hdelivered⟩ := intentArtifact_eq_some.mp hartifact
    obtain ⟨hactionType, href, hoption⟩ := of_sentAction haction
    have hintentType : intent.actionType = .sendMaterialPack := by
      cases hintent : intent.actionType <;> simp_all [OutboundActionType.executionType]
    rw [hintentType] at hmanifest hresolveType
    change served.resolveType = .materialPack at hresolveType
    rw [hresolveType] at hsource hdelivered
    rw [if_pos hintentType] at hoption
    obtain ⟨hsourceUnit, ⟨resolve, hresolve, hpack⟩, _⟩ := of_resolveSource hsource
    have hsent := hsends (by simp [hdelivered]) unit hunit hallowed hmanifest intent hintent
      hintentType served.unit hsource
    obtain ⟨request, hrequest, hrequestType, hrequestOption⟩ :=
      (exists_request_iff hsourceUnit hresolve hpack).mpr hsent.symm
    obtain ⟨results', hresults', hresult, htype', hstatus, href'⟩ := of_delivered hdelivered
    cases answered.symm.trans hresults'
    exact ⟨request, hrequest, hrequestType, hrequestOption.trans hoption.symm, served.result,
      hresult, htype', hstatus, href ▸ href'⟩

/-- The replies of the composer are those of outputs that `composeV2Reply` accepts for the plan and
the groundings of its evidence. -/
def Composed (env : ComposerEnvironment) (l : List RuntimeExchange) : Prop :=
  ∀ plan evidence overlay response, ⟨.compose plan evidence overlay, .ok (.output response)⟩ ∈ l →
    ∃ compose source output, source.plan = plan ∧ source.groundings = evidence.groundings ∧
      composeV2Reply env (some compose) source = .ok output ∧ output.toReplyResponse = response

theorem actions_of_composed {env : ComposerEnvironment} {l : List RuntimeExchange}
    (composed : Composed env l) {plan : ExecutionPlanV2}
    {evidence : CanonicalEvidenceExecutionResultV1} {overlay : Option ComposerRetryOverlayV1}
    {response : ReplyResponse}
    (h : ⟨.compose plan evidence overlay, .ok (.output response)⟩ ∈ l) : response.actions = [] := by
  obtain ⟨compose, source, output, _, _, hok, rfl⟩ := composed _ _ _ _ h
  rw [toReplyResponse_of_ok hok]

/-- The material packs of a reply are those that were asked for, and units with different options
have different results, exactly when a delivered material pack is the only one asked for. -/
theorem materialPackRefs_iff {results : List AdapterResolveResult}
    (answered : turn.resolveMany turn.requests = some results)
    (answers : AnswersEach turn.requests results)
    {evidence : CanonicalEvidenceExecutionResultV1} (executed : turn.execute = .ok evidence)
    {runtime : CandidateRuntime} {overlay : Option ComposerRetryOverlayV1}
    {l : List RuntimeExchange} {rendered : ReplyResponse × String}
    (trace : Trace (renderV2Response runtime turn.plan evidence overlay) l (.ok rendered))
    {env : ComposerEnvironment} (composed : Composed env l) :
    ((∀ action ∈ rendered.1.actions, turn.OwnResolveRef results action) ∧ ¬ turn.SharesResult) ↔
      ((∃ result ∈ results, result.resolveType = .materialPack ∧ result.status = .resolved) →
        turn.OneOption ∧
          (turn.plan.responseMode = .action → turn.SendsRequestedOption)) := by
  have hactions : rendered.1.actions = _ :=
    trace.wp (actions_of_render executed) (fun _ _ _ _ => actions_of_composed composed)
      rendered rfl
  rw [hactions, delivered_iff answered answers, sharesResult_iff]
  by_cases hmode : turn.plan.responseMode = .action
  · rw [if_pos hmode, ownResolveRef_iff answered, not_and, not_not, ← forall_and]
    simp only [hmode, true_imp_iff, and_comm]
  · rw [if_neg hmode]
    simp [hmode]

end ArtifactTurn

/-! ## Samples -/

namespace TwoArtifacts

def samePacks : ArtifactTurn :=
  turn (packs (some "A") (some "A")) (by decide) (by decide) (by decide +kernel)

end TwoArtifacts

open TwoArtifacts in
/-- Two units that ask for the same option send the material pack of that option. -/
theorem materialPackRefs_same : ∃ evidence rendered, samePacks.execute = .ok evidence ∧
    Trace (renderV2Response runtime samePacks.plan evidence none) [] (.ok rendered) ∧
    (∀ action ∈ rendered.1.actions,
      samePacks.OwnResolveRef (samePacks.requests.map resolve) action) ∧
    ¬ samePacks.SharesResult := by
  obtain ⟨evidence, hexecute, _, htrace⟩ : ∃ evidence, samePacks.execute = .ok evidence ∧ _ ∧
      Trace (renderV2Response runtime samePacks.plan evidence none) [] (.ok (reply
        [.sendMaterialPack "" "ref-1" (some "A"), .sendMaterialPack "" "ref-1" (some "A")])) :=
    exists_trace rfl (by decide +kernel)
  refine ⟨evidence, _, hexecute, htrace, ?_⟩
  have composed : ArtifactTurn.Composed ComposedAnswer.environment [] :=
    fun _ _ _ _ h => absurd h List.not_mem_nil
  refine (ArtifactTurn.materialPackRefs_iff rfl ?_ hexecute htrace composed).mpr
    fun _ => ⟨?_, fun _ => ?_⟩
  · rw [AnswersEach, List.map_map]
    rfl
  · unfold ArtifactTurn.OneOption
    decide +kernel
  · unfold ArtifactTurn.SendsRequestedOption
    decide +kernel

open TwoArtifacts in
/-- Two units that ask for different options are served by one result, and the first of them
sends it under an option that was not asked for. -/
theorem materialPackRefs_shared : ∃ evidence rendered, differentPacks.execute = .ok evidence ∧
    Trace (renderV2Response runtime differentPacks.plan evidence none) [] (.ok rendered) ∧
    differentPacks.resolveMany differentPacks.requests =
      some (differentPacks.requests.map resolve) ∧
    AnswersEach differentPacks.requests (differentPacks.requests.map resolve) ∧
    .sendMaterialPack "" "ref-1" (some "A") ∈ rendered.1.actions ∧
    ¬ differentPacks.OwnResolveRef (differentPacks.requests.map resolve)
      (.sendMaterialPack "" "ref-1" (some "A")) ∧
    differentPacks.SharesResult := by
  obtain ⟨evidence, hexecute, _, htrace⟩ : ∃ evidence, differentPacks.execute = .ok evidence ∧ _ ∧
      Trace (renderV2Response runtime differentPacks.plan evidence none) [] (.ok (reply
        [.sendMaterialPack "" "ref-1" (some "A"), .sendMaterialPack "" "ref-1" (some "B")])) :=
    exists_trace rfl (by decide +kernel)
  refine ⟨evidence, _, hexecute, htrace, rfl, ?_, List.mem_cons_self, ?_, ?_⟩
  · rw [AnswersEach, List.map_map]
    rfl
  · unfold ArtifactTurn.OwnResolveRef
    decide +kernel
  · refine ArtifactTurn.sharesResult_iff.mpr ⟨by decide +kernel, ?_⟩
    unfold ArtifactTurn.OneOption
    decide +kernel

end MarketSupport
