import MarketSupport.Properties.ArtifactTurns

/-!
# Outbound actions

Every action of a reply is authorised by the policy, the plan and the evidence. Nothing keeps two
units of a plan from sending the same artifact.

## Main results

* `actionReply_authorised_iff` — when the actions of a reply are authorised and distinct.
-/

namespace MarketSupport

open Library Program

/-- What tells the artifacts of actions apart. -/
def OutboundAction.artifactKey (action : OutboundAction) :
    ActionExecutionType × Option String × Option String × Option String × String :=
  (action.type, action.materialPackOption, action.period, action.reportDate, action.resolveRef)

/-- The intents of a plan, with their units. -/
def ExecutionPlanV2.unitIntents (plan : ExecutionPlanV2) :
    List (ExecutionPlanUnitV2 × CanonicalActionIntentV1) :=
  plan.units.flatMap fun unit => unit.actionIntents.map (unit, ·)

namespace ArtifactTurn

variable (turn : ArtifactTurn) (evidence : CanonicalEvidenceExecutionResultV1)

/-- A result of the adapter that has the reference of an action, with the period and the date of
a report. -/
structure OfResult (actionType : OutboundActionType) (action : OutboundAction)
    (result : AdapterResolveResult) : Prop where
  resolveType : result.resolveType = actionType.resolveType
  status : result.status = .resolved
  resolveRef : result.resolveRef = some action.resolveRef
  report : actionType ≠ .sendMaterialPack → result.period = action.period ∧
    ∃ date, result.reportDate.bind Date.fromIsoformat = some date ∧
      action.reportDate = some date.isoformat

/-- An action is bound to evidence of the adapter within the scope of its unit. -/
structure OfEvidence (unit : ExecutionPlanUnitV2) (grounding : ExecutionUnitGroundingV1)
    (action : OutboundAction) (fact : CanonicalEvidenceFactV1) : Prop where
  admitted : fact ∈ grounding.allowedEvidence
  sourceType : fact.sourceType = .adapterResolve
  scope : factScopeMatchesUnitV1 unit fact = true
  bound : ∃ binding ∈ evidence.resolveBindings, binding.evidenceId = fact.evidenceId ∧
    some binding.resolveType = fact.resolveType ∧ binding.resolveRef = action.resolveRef

/-- An action of an intent of a unit is within the policy and comes from the adapter. -/
structure Authorised (origin : ExecutionPlanUnitV2 × CanonicalActionIntentV1)
    (action : OutboundAction) : Prop where
  type : action.type = origin.2.actionType.executionType
  actionType : origin.2.actionType ∈ turn.policy.allowedOutboundActions
  manifestRef : origin.1.manifestRef ∈ turn.policy.eligibleCapabilities
  evidence : ∃ grounding, (origin.1, grounding) ∈ turn.plan.units.zip evidence.groundings ∧
    grounding.businessFacts.userPermission = .allowed ∧
    ∃ fact, OfEvidence evidence origin.1 grounding action fact
  result : ∃ results, turn.resolveMany turn.requests = some results ∧
    ∃ result ∈ results, OfResult origin.2.actionType action result

/-- Every action comes from one intent of the plan that authorises it. -/
def ActionsAuthorised (actions : List OutboundAction) : Prop :=
  ∃ origins, origins.Sublist turn.plan.unitIntents ∧
    List.Forall₂ (turn.Authorised evidence) origins actions

/-- The adapter delivered what an action of the type needs. -/
def Delivers (actionType : OutboundActionType) : Bool :=
  match turn.delivered actionType.resolveType with
  | none => false
  | some (result, _) => actionType = .sendMaterialPack || result.report?.isSome

/-- The artifacts that the permitted units send, with the option of a material pack. -/
def sentArtifacts : List (OutboundActionType × Option String) :=
  turn.permittedIntents.filterMap fun (unit, intent) =>
    if unit.manifestRef.manifestId = intent.actionType.sendManifest ∧
        turn.Delivers intent.actionType then
      (resolveSource turn.plan intent.actionType.resolveType unit).map fun source =>
        (intent.actionType,
          if intent.actionType = .sendMaterialPack then sentOption intent source else none)
    else none

variable {turn evidence}

/-! ## Distinct artifacts -/

theorem intentArtifact_eq {unit : ExecutionPlanUnitV2} {intent : CanonicalActionIntentV1} :
    turn.intentArtifact unit intent =
      if unit.manifestRef.manifestId = intent.actionType.sendManifest then
        (turn.delivered intent.actionType.resolveType).bind fun resolved =>
          (resolveSource turn.plan intent.actionType.resolveType unit).map fun source =>
            ⟨source, intent.actionType.resolveType, resolved.1, resolved.2⟩
      else none := by
  ext served
  rw [intentArtifact_eq_some]
  split_ifs with hunit
  · simp only [Option.bind_eq_some_iff, Option.map_eq_some_iff, Prod.exists]
    constructor
    · obtain ⟨source, resolveType, result, ref⟩ := served
      rintro ⟨_, rfl, hsource, hresult⟩
      exact ⟨result, ref, hresult, source, hsource, rfl⟩
    · rintro ⟨result, ref, hresult, source, hsource, rfl⟩
      exact ⟨hunit, rfl, hsource, hresult⟩
  · exact iff_of_false (fun h => hunit h.1) not_false

variable (turn) in
/-- The key of the action that sends an artifact that was delivered. -/
def deliveredKey (artifact : OutboundActionType × Option String) :
    ActionExecutionType × Option String × Option String × Option String × String :=
  let delivered := turn.delivered artifact.1.resolveType
  let report := if artifact.1 = .sendMaterialPack then none else delivered.bind (·.1.report?)
  (artifact.1.executionType, artifact.2, report.map (·.1), report.map (·.2),
    (delivered.map (·.2)).getD "")

theorem executionType_injective : Function.Injective OutboundActionType.executionType := by
  intro a b h
  cases a <;> cases b <;> simp_all [OutboundActionType.executionType]

theorem deliveredKey_injective : Function.Injective turn.deliveredKey := by
  rintro ⟨a, option⟩ ⟨b, option'⟩ h
  obtain ⟨htype, hoption, _⟩ := Prod.mk.inj h |>.imp_right fun h => Prod.mk.inj h
  exact Prod.ext (executionType_injective htype) hoption

/-- An intent sends an action exactly when its artifact was delivered, and with its key. -/
theorem artifactKey_intent (unit : ExecutionPlanUnitV2) (intent : CanonicalActionIntentV1) :
    ((turn.intentArtifact unit intent).bind (sentAction intent)).map (·.artifactKey) =
      (if unit.manifestRef.manifestId = intent.actionType.sendManifest ∧
          turn.Delivers intent.actionType then
        (resolveSource turn.plan intent.actionType.resolveType unit).map fun source =>
          (intent.actionType,
            if intent.actionType = .sendMaterialPack then sentOption intent source else none)
      else none).map turn.deliveredKey := by
  rw [intentArtifact_eq]
  by_cases hunit : unit.manifestRef.manifestId = intent.actionType.sendManifest
  case neg => simp [hunit]
  cases hdelivered : turn.delivered intent.actionType.resolveType with
  | none => simp [Delivers, hdelivered]
  | some delivered =>
    obtain ⟨result, ref⟩ := delivered
    cases resolveSource turn.plan intent.actionType.resolveType unit with
    | none => simp
    | some source =>
      cases htype : intent.actionType <;> cases hreport : result.report? <;>
        simp_all [Delivers, deliveredKey, sentAction, OutboundAction.artifactKey,
          OutboundActionType.executionType, OutboundAction.type, OutboundAction.period,
          OutboundAction.reportDate, OutboundAction.resolveRef, OutboundAction.materialPackOption]

/-- The actions of a turn send distinct artifacts exactly when its permitted units do. -/
theorem nodup_artifactKey_iff :
    (turn.sentActions.map (·.artifactKey)).Nodup ↔ turn.sentArtifacts.Nodup := by
  have hkeys : turn.sentActions.map (·.artifactKey) = turn.sentArtifacts.map turn.deliveredKey := by
    rw [sentActions, sentArtifacts, List.map_filterMap, List.map_filterMap]
    exact List.filterMap_congr fun entry _ => artifactKey_intent entry.1 entry.2
  rw [hkeys, List.nodup_map_iff deliveredKey_injective]

/-! ## Authority -/

theorem permittedIntents_sublist : turn.permittedIntents.Sublist turn.plan.unitIntents := by
  have hfilter : turn.permittedIntents = turn.plan.unitIntents.filter
      fun (unit, _) => unitPermissionV1 unit turn.policy = .allowed := by
    rw [permittedIntents, ExecutionPlanV2.unitIntents, List.filter_flatMap]
    congr 1
    funext unit
    by_cases h : unitPermissionV1 unit turn.policy = .allowed <;>
      simp [h, List.filter_map, Function.comp_def]
  exact hfilter ▸ List.filter_sublist

/-- What was delivered to a unit is admitted evidence, with its binding. -/
theorem fact_of_intentArtifact (executed : turn.execute = .ok evidence)
    {unit : ExecutionPlanUnitV2} {intent : CanonicalActionIntentV1} {served : ServedResolve}
    (h : turn.intentArtifact unit intent = some served) :
    served.fact turn.hashes ∈ admittedFacts evidence.canonicalFacts none unit ∧
      served.binding turn.hashes ∈ evidence.resolveBindings ∧
      sameEvidenceScope unit served.unit = true := by
  obtain ⟨hunit, htype, hsource, _⟩ := intentArtifact_eq_some.mp h
  obtain ⟨facts, hbuilt, hfacts, _⟩ := exists_of_execute executed
  rw [intentArtifact, if_pos hunit] at h
  have hfirst : firstResolvableFactV1 (admittedFacts (facts ++ turn.collected) none unit)
      intent.actionType.resolveType = some (served.fact turn.hashes) :=
    (firstResolvable_send turn.nonempty turn.separates hbuilt
      (sourceType_of_collected turn.answered) hunit).trans
      (congrArg (Option.map _) h)
  rw [← hfacts] at hfirst
  have hbinding := bindingOf_fact turn.separates hbuilt (mem_servedResolves_of_sentArtifact h)
    (List.mem_singleton_self _)
  exact ⟨List.mem_of_find?_eq_some hfirst,
    (List.mem_filter.mp (List.mem_of_find?_eq_some hbinding)).1, (of_resolveSource hsource).2.2⟩

theorem factScopeMatches_fact {unit : ExecutionPlanUnitV2} {served : ServedResolve}
    (h : sameEvidenceScope unit served.unit = true) :
    factScopeMatchesUnitV1 unit (served.fact turn.hashes) = true := by
  have hscope : (served.fact turn.hashes).scope =
    canonicalScopeForUnitV1 served.unit served.resolveType.artifactType := rfl
  unfold sameEvidenceScope at h
  unfold factScopeMatchesUnitV1
  rw [hscope, canonicalScopeForUnitV1]
  cases hunit : unit.scope <;> cases hother : served.unit.scope <;> simp_all

/-- The action of a delivered artifact is that of a result of the adapter. -/
theorem ofResult_sentAction {intent : CanonicalActionIntentV1} {served : ServedResolve}
    {action : OutboundAction} (hresolveType : served.resolveType = intent.actionType.resolveType)
    (hdelivered : turn.delivered served.resolveType = some (served.result, served.ref))
    (haction : sentAction intent served = some action) :
    ∃ results, turn.resolveMany turn.requests = some results ∧
      ∃ result ∈ results, OfResult intent.actionType action result := by
  obtain ⟨results, hresults, hmem, htype, hstatus, href⟩ := of_delivered hdelivered
  refine ⟨results, hresults, served.result, hmem, htype.trans hresolveType, hstatus,
    (of_sentAction haction).2.1 ▸ href, fun hreport => ?_⟩
  have hreported : ∀ {period date}, served.result.report? = some (period, date) →
      served.result.period = some period ∧ ∃ day,
        served.result.reportDate.bind Date.fromIsoformat = some day ∧ date = day.isoformat := by
    intro period date h
    obtain ⟨_, hperiod, h⟩ := Option.bind_eq_some_iff.mp h
    obtain ⟨day, hday, h⟩ := Option.bind_eq_some_iff.mp h
    cases h
    exact ⟨hperiod, day, hday, rfl⟩
  unfold sentAction at haction
  cases hintent : intent.actionType <;> simp only [hintent] at haction
  case sendMaterialPack => exact absurd hintent hreport
  all_goals
    obtain ⟨⟨period, date⟩, hresult, haction⟩ := Option.map_eq_some_iff.mp haction
    obtain ⟨hperiod, day, hday, rfl⟩ := hreported hresult
    cases haction
    exact ⟨hperiod, day, hday, rfl⟩

/-- The actions of a turn are authorised, each by its own intent. -/
theorem sentActions_authorised (executed : turn.execute = .ok evidence) :
    turn.ActionsAuthorised evidence turn.sentActions := by
  refine ⟨_, List.filter_sublist.trans permittedIntents_sublist,
    ((List.forall₂_and_left _ _).mpr
      ⟨fun _ h => (List.mem_filter.mp h).1, forall₂_filterMap turn.permittedIntents⟩).imp ?_⟩
  rintro ⟨unit, intent⟩ action ⟨hpermitted, h⟩
  obtain ⟨served, hartifact, haction⟩ := Option.bind_eq_some_iff.mp h
  obtain ⟨hunit, hallowed, hintent⟩ := mem_permittedIntents.mp hpermitted
  obtain ⟨_, hresolveType, _, hdelivered⟩ := intentArtifact_eq_some.mp hartifact
  obtain ⟨hfact, hbinding, hscope⟩ := fact_of_intentArtifact executed hartifact
  obtain ⟨grounding, hzip, _, hadmitted, hderive⟩ :=
    exists_mem_zip (grounded_of_execute executed) hunit
  have hissues : unitIssues turn.policy unit = [] :=
    List.flatMap_eq_nil_iff.mp (List.append_eq_nil_iff.mp turn.valid).2 unit hunit
  have hauthorised := unitIssues_eq_nil_iff.mp hissues
  have hbound : OfEvidence evidence unit grounding action (served.fact turn.hashes) :=
    ⟨hadmitted ▸ hfact, rfl, factScopeMatches_fact hscope, _, hbinding, rfl, rfl,
      (of_sentAction haction).2.1.symm⟩
  exact ⟨(of_sentAction haction).1, hauthorised.actionIntents intent hintent,
    hauthorised.manifestRef, ⟨grounding, hzip, (derive_states hderive).1.trans hallowed, _, hbound⟩,
    ofResult_sentAction hresolveType hdelivered haction⟩

/-- The actions of a reply are authorised, and they are distinct exactly when the permitted units
send distinct artifacts. -/
theorem actionReply_authorised_iff (executed : turn.execute = .ok evidence)
    {rendered : ReplyResponse × String}
    (replied : actionReply turn.plan evidence.groundings = .ok rendered) :
    turn.ActionsAuthorised evidence rendered.1.actions ∧
        (rendered.1.actions.map (·.artifactKey)).Nodup ↔ turn.sentArtifacts.Nodup := by
  rw [actions_of_actionReply executed replied, nodup_artifactKey_iff]
  exact and_iff_right (sentActions_authorised executed)

end ArtifactTurn

/-! ## Samples -/

open TwoArtifacts in
/-- Two material packs of different options are two artifacts. -/
theorem actionReply_authorised_packs : ∃ evidence, differentPacks.execute = .ok evidence ∧
    actionReply differentPacks.plan evidence.groundings = .ok (reply
      [.sendMaterialPack "" "ref-1" (some "A"), .sendMaterialPack "" "ref-1" (some "B")]) ∧
    differentPacks.ActionsAuthorised evidence
      [.sendMaterialPack "" "ref-1" (some "A"), .sendMaterialPack "" "ref-1" (some "B")] := by
  obtain ⟨evidence, hexecute, hreply, _⟩ : ∃ evidence, differentPacks.execute = .ok evidence ∧
      actionReply differentPacks.plan evidence.groundings = .ok (reply
        [.sendMaterialPack "" "ref-1" (some "A"), .sendMaterialPack "" "ref-1" (some "B")]) ∧ _ :=
    exists_trace rfl (by decide +kernel)
  exact ⟨evidence, hexecute, hreply,
    ((ArtifactTurn.actionReply_authorised_iff hexecute hreply).mpr (by decide +kernel)).1⟩

open TwoArtifacts in
/-- Two units that send the weekly report send it twice. -/
theorem actionReply_repeated :
    finalizeExecutionPlanV2 policy authority encoding
      (source .weeklyReportSend none none) .planner =
      .ok reports ∧
    validateExecutionPlanV2 reports policy = [] ∧
    ∃ evidence rendered,
      executeV2 reports policy hashes authority.scope authority resolveMany [] = .ok evidence ∧
      actionReply reports evidence.groundings = .ok rendered ∧
      rendered.1.actions = [.sendWeeklyReport "" "ref-1" "2026W29" "2026-07-17",
        .sendWeeklyReport "" "ref-1" "2026W29" "2026-07-17"] ∧
      ¬ (rendered.1.actions.map (·.artifactKey)).Nodup := by
  refine ⟨by decide +kernel, by decide, ?_⟩
  have hrun : (executeV2 reports policy hashes authority.scope authority resolveMany [] >>=
      fun evidence => (.ok (actionReply reports evidence.groundings) :
        Except EvidenceException _)) = .ok (.ok (reply
          [.sendWeeklyReport "" "ref-1" "2026W29" "2026-07-17",
            .sendWeeklyReport "" "ref-1" "2026W29" "2026-07-17"])) := by decide +kernel
  obtain ⟨evidence, hexecute, hreply⟩ := bind_eq_ok_iff.mp hrun
  exact ⟨evidence, _, hexecute, Except.ok.inj hreply, rfl, by decide⟩

end MarketSupport
