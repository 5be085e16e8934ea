import MarketSupport.Evidence.Collected
import MarketSupport.Properties.PlanAuthority
import MarketSupport.Properties.SentArtifacts

/-!
# Turns that send artifacts

The actions of the reply to a plan, from the plan and what the adapter delivered.

## Main results

* `actions_of_actionReply` — the actions of a reply.
* `mem_sentActions`, `intentArtifact_eq_some` — what is sent, and where it comes from.
-/

namespace MarketSupport

open Library Program

/-- A plan within its policy, with what its evidence is collected from. The evidence ids tell the
facts of the adapter apart. -/
structure ArtifactTurn where
  encoding : PlanEncoding
  functions : EvidenceFunctions
  catalog : ApprovedCatalog
  plan : ExecutionPlanV2
  policy : PolicyManifestV2
  scope : BusinessScopeV1
  authority : BusinessScopeAuthorityV1
  refetch : Option AlignmentRefetchRequestV1
  resolveMany : List AdapterResolveRequest → Option (List AdapterResolveResult)
  collected : List CanonicalEvidenceFactV1
  valid : validateExecutionPlanV2 plan policy = []
  checked : plan.Checked encoding
  nonempty : functions.toEvidenceHashes.Nonempty
  separates : Separates (·.evidenceId) ((servedResolves plan
    (planPreflight plan policy scope resolveMany)).map (·.fact functions.toEvidenceHashes))
  answered : SourcesAnswered functions catalog plan policy
    (planPreflight plan policy scope resolveMany) refetch (.ok collected)

namespace ArtifactTurn

variable (turn : ArtifactTurn)

def hashes : EvidenceHashes := turn.functions.toEvidenceHashes

def requests : List AdapterResolveRequest := resolveRequests turn.plan turn.policy turn.scope

def preflight : List AdapterPreflightRecord :=
  planPreflight turn.plan turn.policy turn.scope turn.resolveMany

/-- `execute_v2` of the turn. -/
def execute : Except EvidenceException CanonicalEvidenceExecutionResultV1 :=
  executeV2 turn.plan turn.policy turn.hashes turn.scope turn.authority turn.resolveMany
    turn.collected

/-- The intents of the units that the user may have executed, in the order of the plan. -/
def permittedIntents : List (ExecutionPlanUnitV2 × CanonicalActionIntentV1) :=
  turn.plan.units.flatMap fun unit =>
    if unitPermissionV1 unit turn.policy = .allowed then unit.actionIntents.map (unit, ·) else []

/-- The artifact that an intent of a unit sends. -/
def intentArtifact (unit : ExecutionPlanUnitV2) (intent : CanonicalActionIntentV1) :
    Option ServedResolve :=
  if unit.manifestRef.manifestId = intent.actionType.sendManifest then
    sentArtifact turn.plan turn.preflight intent.actionType.resolveType unit
  else none

/-- The actions of a turn. -/
def sentActions : List OutboundAction :=
  turn.permittedIntents.filterMap fun (unit, intent) =>
    (turn.intentArtifact unit intent).bind (sentAction intent)

variable {turn} {evidence : CanonicalEvidenceExecutionResultV1}

/-- What a turn is grounded on. -/
theorem exists_of_execute (executed : turn.execute = .ok evidence) :
    ∃ facts, canonicalAdapterFactsV1 turn.hashes turn.plan turn.preflight =
        .ok (facts, evidence.resolveBindings) ∧
      evidence.canonicalFacts = facts ++ turn.collected ∧
      (evidence.canonicalFacts.map (·.evidenceId)).Nodup ∧
      List.Forall₂ (fun unit grounding => groundExecutionUnitV2 turn.policy evidence.canonicalFacts
        evidence.resolveBindings none unit = .ok grounding) turn.plan.units
          evidence.groundings := by
  unfold execute executeV2 at executed
  split_ifs at executed
  obtain ⟨⟨facts, bindings⟩, hbuilt, executed⟩ := bind_eq_ok_iff.mp executed
  obtain ⟨groundings, hground, executed⟩ := bind_eq_ok_iff.mp executed
  cases executed
  unfold groundExecutionPlanV2 at hground
  split_ifs at hground with hnodup
  obtain ⟨_, hmap, hground⟩ := bind_eq_ok_iff.mp hground
  obtain ⟨_, _, hground⟩ := bind_eq_ok_iff.mp hground
  cases hground
  exact ⟨facts, hbuilt, rfl, hnodup, mapM_eq_ok_iff.mp hmap⟩

/-- Every unit of a turn is grounded on the facts that it admits. -/
theorem grounded_of_execute (executed : turn.execute = .ok evidence) :
    List.Forall₂ (fun unit grounding => unit ∈ turn.plan.units ∧
        grounding.allowedEvidence = admittedFacts evidence.canonicalFacts none unit ∧
        groundedBusinessFacts turn.policy evidence.canonicalFacts evidence.resolveBindings none
          unit = .ok grounding.businessFacts)
      turn.plan.units evidence.groundings := by
  obtain ⟨_, _, _, hnodup, hgrounded⟩ := exists_of_execute executed
  refine ((List.forall₂_and_left _ _).mpr ⟨fun unit h => h, hgrounded⟩).imp ?_
  rintro unit grounding ⟨hunit, hground⟩
  obtain ⟨businessFacts, hderive, rfl⟩ :=
    (groundExecutionUnitV2_ok_iff (eligible_of_valid turn.valid hunit) hnodup).mp hground
  exact ⟨hunit, rfl, hderive⟩

/-- The actions of a grounded unit. -/
theorem unitActions_eq (executed : turn.execute = .ok evidence) {unit : ExecutionPlanUnitV2}
    {businessFacts : UnitBusinessFactsV1}
    (hderive : groundedBusinessFacts turn.policy evidence.canonicalFacts evidence.resolveBindings
      none unit = .ok businessFacts) :
    (if businessFacts.userPermission ≠ .allowed then []
      else unit.actionIntents.filterMap (actionFromGrounding · businessFacts)) =
      (if unitPermissionV1 unit turn.policy = .allowed then unit.actionIntents.map (unit, ·)
        else []).filterMap fun (unit, intent) =>
          (turn.intentArtifact unit intent).bind (sentAction intent) := by
  obtain ⟨facts, hbuilt, hfacts, _⟩ := exists_of_execute executed
  have hpermission : businessFacts.userPermission = unitPermissionV1 unit turn.policy :=
    (derive_states hderive).1
  have haction : ∀ intent, actionFromGrounding intent businessFacts =
      (turn.intentArtifact unit intent).bind (sentAction intent) := by
    intro intent
    rw [hfacts] at hderive
    rw [actionFromGrounding_eq turn.nonempty turn.separates hbuilt
      (sourceType_of_collected turn.answered) hderive,
      intentArtifact]
    split_ifs <;> rfl
  rw [hpermission]
  by_cases h : unitPermissionV1 unit turn.policy = .allowed
  · simp [h, haction, List.filterMap_map]
  · simp [h]

/-- The actions of the reply to a turn. -/
theorem actions_of_actionReply (executed : turn.execute = .ok evidence)
    {rendered : ReplyResponse × String}
    (h : actionReply turn.plan evidence.groundings = .ok rendered) :
    rendered.1.actions = turn.sentActions := by
  have hgrounded := grounded_of_execute executed
  have hactions : ∀ f : ExecutionPlanUnitV2 × ExecutionUnitGroundingV1 → List OutboundAction,
      (∀ unit grounding, f (unit, grounding) =
        if grounding.businessFacts.userPermission ≠ .allowed then []
        else unit.actionIntents.filterMap (actionFromGrounding · grounding.businessFacts)) →
      (turn.plan.units.zip evidence.groundings).flatMap f = turn.sentActions := by
    intro f hf
    rw [sentActions, permittedIntents, List.filterMap_flatMap]
    exact flatMap_zip hgrounded fun unit grounding h =>
      (hf unit grounding).trans (unitActions_eq executed h.2.2)
  unfold actionReply at h
  simp only [hgrounded.length_eq, ne_eq, not_true_eq_false, ↓reduceIte] at h
  rw [hactions _ fun _ _ => rfl] at h
  split_ifs at h with hempty
  · cases h
    exact hempty.symm
  · cases h
    rfl

/-- The composer writes no actions, so only the reply to an action plan has them. -/
theorem actions_of_render {runtime : CandidateRuntime} {overlay : Option ComposerRetryOverlayV1}
    (executed : turn.execute = .ok evidence) :
    (renderV2Response runtime turn.plan evidence overlay).wp fun l result =>
      (∀ plan' evidence' overlay' response,
        ⟨.compose plan' evidence' overlay', .ok (.output response)⟩ ∈ l → response.actions = []) →
      ∀ rendered, result = .ok rendered → rendered.1.actions =
        if turn.plan.responseMode = .action then turn.sentActions else [] := by
  have hcompose : turn.plan.responseMode ≠ .action →
      (composeV2Response turn.plan evidence overlay).wp fun l result =>
        (∀ plan' evidence' overlay' response,
          ⟨.compose plan' evidence' overlay', .ok (.output response)⟩ ∈ l →
            response.actions = []) →
        ∀ rendered, result = .ok rendered → rendered.1.actions = [] := by
    intro _
    unfold composeV2Response
    split
    · rintro _ _ ⟨⟩
      rfl
    · intro answer
      cases answer with
      | error e => exact fun _ _ => nofun
      | ok outcome =>
        cases outcome with
        | unavailable | outputRejected =>
          rintro _ _ ⟨⟩
          rfl
        | output response =>
          change (if _ then _ else _ : RuntimeProgram _).wp _
          split_ifs
          · rintro h _ ⟨⟩
            exact h _ _ _ _ (List.mem_singleton_self _)
          · rintro h _ ⟨⟩
            exact h _ _ _ _ (List.mem_singleton_self _)
          · exact fun _ _ => nofun
  unfold renderV2Response
  split
  case h_5 hmode =>
    intro _ rendered hrendered
    rw [if_pos hmode]
    exact actions_of_actionReply executed hrendered
  case h_6 hmode | h_7 hmode =>
    simpa [hmode] using hcompose (by simp [hmode])
  case h_3 hmode =>
    rintro _ _ ⟨⟩
    rw [if_neg (by simp [hmode]), handoffReply]
    split_ifs <;> rfl
  case h_8 hmode =>
    have hnone : (if turn.plan.responseMode = .action then turn.sentActions else []) = [] :=
      if_neg (by simp [hmode])
    rw [hnone]
    split
    · split <;>
      · rintro _ _ ⟨⟩
        rfl
    · rintro _ _ ⟨⟩
      rfl
  all_goals
    rintro _ _ ⟨⟩
    rw [if_neg (by simp [*])]
    rfl

/-! ## What the adapter delivered -/

variable (turn) in
/-- What the adapter delivered for a type: the last result for it, if that is resolved. -/
def delivered (resolveType : AdapterResolveType) : Option (AdapterResolveResult × String) :=
  AdapterPreflightRecord.resolved? ⟨resolveType,
    (turn.resolveMany turn.requests).bind (·.reverse.find? (·.resolveType = resolveType))⟩

theorem mem_adapterResolves {unit : ExecutionPlanUnitV2} (hunit : unit ∈ turn.plan.units)
    {resolve : CanonicalAdapterResolveV1} (hresolve : resolve ∈ unit.adapterResolves) :
    resolve ∈ turn.plan.adapterResolves := by
  rw [turn.checked.aggregated.adapterResolves, List.mem_eraseDups]
  exact List.mem_flatMap.mpr ⟨unit, hunit, hresolve⟩

/-- What a unit asks for is requested. -/
theorem mem_resolveTypes {unit : ExecutionPlanUnitV2} (hunit : unit ∈ turn.plan.units)
    {resolve : CanonicalAdapterResolveV1} (hresolve : resolve ∈ unit.adapterResolves) :
    resolve.resolveType ∈ resolveTypesForPlanV2 turn.plan turn.policy := by
  have hissues : unitIssues turn.policy unit = [] :=
    List.flatMap_eq_nil_iff.mp (List.append_eq_nil_iff.mp turn.valid).2 unit hunit
  have hallowed := (unitIssues_eq_nil_iff.mp hissues).adapterResolves resolve hresolve
  rw [resolveTypesForPlanV2, mem_orderedResolveTypes]
  exact List.mem_map_of_mem (List.mem_filter.mpr
    ⟨mem_adapterResolves hunit hresolve, decide_eq_true hallowed⟩)

theorem map_resolveType_requests : turn.requests.map (·.resolveType) =
    orderedResolveTypes (resolveTypesForPlanV2 turn.plan turn.policy) :=
  map_resolveType_buildResolveRequests

theorem nodup_requests : (turn.requests.map (·.resolveType)).Nodup :=
  map_resolveType_requests ▸ nodup_orderedResolveTypes

/-- The snapshot has what was delivered for a type that was requested. -/
theorem resolvedResult_preflight {resolveType : AdapterResolveType}
    (h : resolveType ∈ resolveTypesForPlanV2 turn.plan turn.policy) :
    resolvedResult turn.preflight resolveType = turn.delivered resolveType := by
  have hmem : resolveType ∈ turn.requests.map (·.resolveType) :=
    map_resolveType_requests ▸ mem_orderedResolveTypes.mpr h
  have hne : turn.requests ≠ [] := by
    rintro heq
    rw [heq] at hmem
    cases hmem
  have hpreflight : turn.preflight = collectPreflight turn.requests
      (turn.resolveMany turn.requests) :=
    congrArg (collectPreflight turn.requests) (if_neg hne)
  rw [hpreflight]
  exact resolvedResult_collectPreflight nodup_requests hmem _

/-- What was delivered is a resolved result of the adapter. -/
theorem of_delivered {resolveType : AdapterResolveType} {result : AdapterResolveResult}
    {ref : String} (h : turn.delivered resolveType = some (result, ref)) :
    ∃ results, turn.resolveMany turn.requests = some results ∧ result ∈ results ∧
      result.resolveType = resolveType ∧ result.status = .resolved ∧
      result.resolveRef = some ref := by
  obtain ⟨found, hfound, h⟩ := Option.bind_eq_some_iff.mp h
  obtain ⟨results, hresults, hfound⟩ := Option.bind_eq_some_iff.mp hfound
  split_ifs at h with hstatus
  obtain ⟨_, href, h⟩ := Option.map_eq_some_iff.mp h
  cases h
  exact ⟨results, hresults, List.mem_reverse.mp (List.mem_of_find?_eq_some hfound),
    by simpa using List.find?_some hfound, not_not.mp hstatus, href⟩

/-! ## What is sent -/

theorem mem_permittedIntents {unit : ExecutionPlanUnitV2} {intent : CanonicalActionIntentV1} :
    (unit, intent) ∈ turn.permittedIntents ↔ unit ∈ turn.plan.units ∧
      unitPermissionV1 unit turn.policy = .allowed ∧ intent ∈ unit.actionIntents := by
  simp only [permittedIntents, List.mem_flatMap]
  constructor
  · rintro ⟨other, hother, h⟩
    split_ifs at h with hallowed
    · obtain ⟨_, hintent, heq⟩ := List.mem_map.mp h
      cases heq
      exact ⟨hother, hallowed, hintent⟩
    · cases h
  · rintro ⟨hunit, hallowed, hintent⟩
    exact ⟨unit, hunit, by rw [if_pos hallowed]; exact List.mem_map_of_mem hintent⟩

/-- The unit whose evidence is used asks for the artifact. -/
theorem of_resolveSource {resolveType : AdapterResolveType} {unit source : ExecutionPlanUnitV2}
    (h : resolveSource turn.plan resolveType unit = some source) :
    source ∈ turn.plan.units ∧ (∃ resolve ∈ source.adapterResolves,
      resolve.resolveType = resolveType) ∧ sameEvidenceScope unit source = true := by
  have hasks := List.find?_some h
  simp only [Bool.and_eq_true, List.any_eq_true, decide_eq_true_eq] at hasks
  exact ⟨List.mem_of_find?_eq_some h, hasks⟩

theorem intentArtifact_eq_some {unit : ExecutionPlanUnitV2} {intent : CanonicalActionIntentV1}
    {served : ServedResolve} : turn.intentArtifact unit intent = some served ↔
      unit.manifestRef.manifestId = intent.actionType.sendManifest ∧
      served.resolveType = intent.actionType.resolveType ∧
      resolveSource turn.plan served.resolveType unit = some served.unit ∧
      turn.delivered served.resolveType = some (served.result, served.ref) := by
  have hdelivered : ∀ {resolveType source},
      resolveSource turn.plan resolveType unit = some source →
        resolvedResult turn.preflight resolveType = turn.delivered resolveType := by
    intro resolveType source h
    obtain ⟨hsource, ⟨resolve, hresolve, rfl⟩, _⟩ := of_resolveSource h
    exact resolvedResult_preflight (mem_resolveTypes hsource hresolve)
  unfold intentArtifact
  split_ifs with hunit
  · constructor
    · intro h
      obtain ⟨⟨result, ref⟩, hresult, h⟩ := Option.bind_eq_some_iff.mp h
      obtain ⟨source, hsource, rfl⟩ := Option.map_eq_some_iff.mp h
      exact ⟨hunit, rfl, hsource, (hdelivered hsource).symm.trans hresult⟩
    · obtain ⟨source, resolveType, result, ref⟩ := served
      rintro ⟨_, rfl, hsource, hresult⟩
      dsimp only at hsource hresult
      rw [sentArtifact, hdelivered hsource, hresult, Option.bind_some, hsource]
      rfl
  · exact ⟨nofun, fun h => absurd h.1 hunit⟩

theorem mem_sentActions {action : OutboundAction} : action ∈ turn.sentActions ↔
    ∃ unit intent served, (unit, intent) ∈ turn.permittedIntents ∧
      turn.intentArtifact unit intent = some served ∧
      sentAction intent served = some action := by
  simp only [sentActions, List.mem_filterMap, Prod.exists, Option.bind_eq_some_iff]
  exact ⟨fun ⟨unit, intent, h, served, h', h''⟩ => ⟨unit, intent, served, h, h', h''⟩,
    fun ⟨unit, intent, served, h, h', h''⟩ => ⟨unit, intent, h, served, h', h''⟩⟩

end ArtifactTurn

/-! ## Samples -/

/-! Plans of two units that send an artifact of the same type, which the adapter resolves. -/

namespace TwoArtifacts

def encoding : PlanEncoding where
  planHash _ := "epv:0"
  planBytes _ := []

/-- Hashes that tell the options of scopes apart. -/
def hashes : EvidenceHashes where
  scopeRef scope := "scope:" ++ scope.materialOption.getD ""
  sourceRecordRef _ := "record:0"
  valueHash _ := "value:0"
  reportHash _ := "report:0"
  provenanceHash _ := "provenance:0"
  factId identity := "evidence:" ++ identity.scopeRef

def functions : EvidenceFunctions := { hashes with sanitizeDocumentText := fun text => text }

def authority : BusinessScopeAuthorityV1 :=
  ⟨.distribution ⟨"Example Bank", .bank, [⟨.materialPack, ["A", "B"]⟩, ⟨.weeklyReport, []⟩]⟩,
    "bsh1:0", "bsr:0"⟩

def policy : PolicyManifestV2 where
  policyId := "pm:0"
  scene := .group
  allowedReplyModes := [.action]
  eligibleCapabilities := [⟨.materialPackSend, .v20260718n1⟩, ⟨.weeklyReportSend, .v20260718n1⟩]
  allowedReadCapabilities := [.resolveMaterialPack, .resolveWeeklyReport]
  allowedOutboundActions := [.sendMaterialPack, .sendWeeklyReport]
  allowedMentionTypes := []
  allowedAdapterResolves := [.materialPack, .weeklyReport]
  internalCompanyKnowledgeEnabled := false
  actionsAllowed := true
  mentionsAllowed := false
  materialPackOptions := ["A", "B"]
  businessScopeHash := "bsh1:0"

def planUnit (unitId : String) (manifestId : CapabilityManifestIdV2) (option : Option String) :
    PlanUnit where
  unitId
  selectedCapabilityId := manifestId.text
  domainScope := .distribution ⟨"bsr:0", .bank, option, []⟩
  answerabilityPolicy := .send
  steps := []
  abstentionCases := []
  riskFlags := []

/-- What the planner returned. -/
def source (manifestId : CapabilityManifestIdV2) (first second : Option String) : PlanSourceV1 :=
  .planSpec ⟨"Send it", [planUnit "u1" manifestId first, planUnit "u2" manifestId second], []⟩

def unit (unitId : String) (manifestId : CapabilityManifestIdV2) (option : Option String)
    (actionIntents : List CanonicalActionIntentV1) : ExecutionPlanUnitV2 :=
  executionUnit policy ⟨unitId, manifestId, .send, option, none, []⟩ ⟨manifestId, .v20260718n1⟩
    (.distribution ⟨"bsr:0", .bank, option, [], none⟩) actionIntents

/-- A plan that sends two material packs. -/
def packs (first second : Option String) : ExecutionPlanV2 :=
  executionPlan encoding (source .materialPackSend first second) .planner
    [unit "u1" .materialPackSend first [⟨.sendMaterialPack, .materialPack, first⟩],
      unit "u2" .materialPackSend second [⟨.sendMaterialPack, .materialPack, second⟩]]

/-- A plan that sends the weekly report twice. -/
def reports : ExecutionPlanV2 :=
  executionPlan encoding (source .weeklyReportSend none none) .planner
    [unit "u1" .weeklyReportSend none [⟨.sendWeeklyReport, .weeklyReport, none⟩],
      unit "u2" .weeklyReportSend none [⟨.sendWeeklyReport, .weeklyReport, none⟩]]

/-- The adapter resolves what it is asked for. -/
def resolve (request : AdapterResolveRequest) : AdapterResolveResult where
  resolveType := request.resolveType
  status := .resolved
  resolvedAt := 1
  resolveRef := some "ref-1"
  period := if request.resolveType = .materialPack then none else some "2026W29"
  reportDate := if request.resolveType = .materialPack then none else some "2026-07-17"
  resolved_has_ref := by decide

def resolveMany (requests : List AdapterResolveRequest) : Option (List AdapterResolveResult) :=
  some (requests.map resolve)

theorem hashes_nonempty : hashes.Nonempty where
  scopeRef scope h := by
    have hlength := congrArg String.length h
    simp [hashes, String.length_append] at hlength
  sourceRecordRef _ := by simp [hashes]

/-- The turn of a plan. -/
def turn (plan : ExecutionPlanV2) (valid : validateExecutionPlanV2 plan policy = [])
    (checked : plan.Checked encoding) (separates : Separates (·.evidenceId) ((servedResolves plan
      (planPreflight plan policy authority.scope resolveMany)).map
        (·.fact hashes))) : ArtifactTurn where
  encoding := encoding
  functions := functions
  catalog := ⟨[], []⟩
  plan := plan
  policy := policy
  scope := authority.scope
  authority := authority
  refetch := none
  resolveMany := resolveMany
  collected := []
  valid := valid
  checked := checked
  nonempty := hashes_nonempty
  separates := separates
  answered := ⟨.ok [], .ok [], .inl rfl, .inl rfl, rfl⟩

def runtime : CandidateRuntime where
  encoding := encoding
  hashes := hashes
  policy := policy
  authority := authority
  scene := .group
  refusalTextForReason := id
  inputBlock _ := none
  imageMarkerFilenames _ := []

/-- What is replied to an action plan. -/
def reply (actions : List OutboundAction) : ReplyResponse × String :=
  (⟨"", ⟨.answer, "", []⟩, actions⟩, "action_ready")

theorem exists_trace {turn : ArtifactTurn} {rendered : ReplyResponse × String}
    (hmode : turn.plan.responseMode = .action) (hrun : (turn.execute >>= fun evidence =>
      (.ok (actionReply turn.plan evidence.groundings) : Except EvidenceException _)) =
        .ok (.ok rendered)) :
    ∃ evidence, turn.execute = .ok evidence ∧
      actionReply turn.plan evidence.groundings = .ok rendered ∧
      Trace (renderV2Response runtime turn.plan evidence none) [] (.ok rendered) := by
  obtain ⟨evidence, hexecute, hreply⟩ := bind_eq_ok_iff.mp hrun
  have hrender : renderV2Response runtime turn.plan evidence none = ofExcept (.ok rendered) := by
    unfold renderV2Response
    rw [hmode, ← Except.ok.inj hreply]
  exact ⟨evidence, hexecute, Except.ok.inj hreply, hrender ▸ Trace.done _⟩

def differentPacks : ArtifactTurn :=
  turn (packs (some "A") (some "B")) (by decide) (by decide) (by decide +kernel)

end TwoArtifacts

end MarketSupport
