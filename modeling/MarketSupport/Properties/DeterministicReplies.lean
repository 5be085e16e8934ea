import MarketSupport.Policy.Compliance
import MarketSupport.Properties.PlanAuthority
import MarketSupport.Rendering.V2Attempt
import MarketSupport.Validation.ImageMarkers

/-!
# Replies that are not composed

The renderer builds a reply to every plan without a composer, and with a composer that fails. The
validator accepts it, except when an action plan has no action.

## Main results

* `deterministicReply_valid_iff` — when the validator accepts the reply of the renderer.
-/

namespace MarketSupport

open Library Program

/-- The runtime of a request, with its compiled policy. -/
structure CandidateRuntime.Serves (runtime : CandidateRuntime) (word : Char → Bool)
    (request : KernelReplyRequestV1) : Prop where
  compiled : ∃ hashes authority ledgerSummary,
    compilePolicyManifestV2 request hashes authority ledgerSummary = .ok runtime.policy
  scene : runtime.scene = request.scene
  refusalText : runtime.refusalTextForReason = MarketSupport.refusalTextForReason
  imageMarkers : runtime.imageMarkerFilenames = MarketSupport.imageMarkerFilenames word

/-- The composer gave no text. -/
def NoOutput (plan : ExecutionPlanV2) (evidence : CanonicalEvidenceExecutionResultV1)
    (overlay : Option ComposerRetryOverlayV1) (exchanges : List RuntimeExchange) : Prop :=
  ∀ response, ⟨.compose plan evidence overlay, .ok (.output response)⟩ ∉ exchanges

/-- A reply that the renderer builds without the output of a composer. -/
def RendersDeterministically (runtime : CandidateRuntime) (plan : ExecutionPlanV2)
    (evidence : CanonicalEvidenceExecutionResultV1) (overlay : Option ComposerRetryOverlayV1)
    (rendered : ReplyResponse × String) : Prop :=
  ∃ exchanges, Trace (renderV2Response runtime plan evidence overlay) exchanges (.ok rendered) ∧
    NoOutput plan evidence overlay exchanges

/-- The evidence of a report is complete. -/
def CanonicalReportStateV1.Deliverable (state : CanonicalReportStateV1) : Prop :=
  state.availability = .available ∧ state.resolveRef.isSome ∧ state.period.isSome ∧
    state.reportDate.isSome

/-- The evidence for an intent is complete. -/
def CanonicalActionIntentV1.Executable (intent : CanonicalActionIntentV1)
    (facts : UnitBusinessFactsV1) : Prop :=
  match intent.actionType with
  | .sendMaterialPack =>
    facts.materialPack.availability = .available ∧ facts.materialPack.resolveRef.isSome
  | .sendWeeklyReport => facts.weeklyReport.Deliverable
  | .sendMonthlyReport => facts.monthlyReport.Deliverable

/-- Some intent of a permitted unit has its evidence. -/
def SomeActionExecutable (plan : ExecutionPlanV2) (groundings : List ExecutionUnitGroundingV1) :
    Prop :=
  ∃ unit grounding, (unit, grounding) ∈ plan.units.zip groundings ∧
    grounding.businessFacts.userPermission = .allowed ∧
    ∃ intent ∈ unit.actionIntents, intent.Executable grounding.businessFacts

section Policies

variable {request : KernelReplyRequestV1} {hashes : PolicyHashes}
  {authority : BusinessScopeAuthorityV1} {ledgerSummary : PolicyLedgerSummaryV1}
  {policy : PolicyManifestV2} {plan : ExecutionPlanV2} {unit : ExecutionPlanUnitV2}

/-- A policy that allows an action allows actions. -/
theorem actionsAllowed_of_compile
    (h : compilePolicyManifestV2 request hashes authority ledgerSummary = .ok policy)
    {actionType : OutboundActionType} (hallowed : actionType ∈ policy.allowedOutboundActions) :
    policy.actionsAllowed = true := by
  obtain ⟨policyId, rfl⟩ := compilePolicyManifestV2_ok h
  have hne : (policyDraft request authority).allowedOutboundActions ≠ [] :=
    List.ne_nil_of_mem hallowed
  change (!(policyDraft request authority).allowedOutboundActions.isEmpty) = true
  simpa using hne

/-- In a group, a policy with the handoff to sales, or with its resolve, allows mentions. -/
theorem mentionsAllowed_of_compile
    (h : compilePolicyManifestV2 request hashes authority ledgerSummary = .ok policy)
    (hscene : request.scene ≠ .direct) (hsales : .salesMention ∈ policy.allowedAdapterResolves ∨
      .salesHandoff ∈ policy.eligibleCapabilities.map (·.manifestId)) :
    policy.mentionsAllowed = true := by
  obtain ⟨policyId, rfl⟩ := compilePolicyManifestV2_ok h
  set enabled := (policyDraft request authority).internalCompanyKnowledgeEnabled
  have heligible : manifestEligible request enabled .salesHandoff = true := by
    rcases hsales with hresolve | hmanifest
    · change _ ∈ allowedResolves (eligibleManifestRefs request enabled) request.scene at hresolve
      rw [allowedResolves, if_neg hscene, mem_canonicalSet] at hresolve
      obtain ⟨ref, href, hsales⟩ := List.mem_filterMap.mp hresolve.2
      have hid : ref.manifestId = .salesHandoff := by
        revert hsales
        cases ref.manifestId <;> decide
      exact hid ▸ mem_eligibleManifestRefs.mp href
    · obtain ⟨ref, href, hid⟩ := List.mem_map.mp hmanifest
      exact hid ▸ mem_eligibleManifestRefs.mp href
  have hgrant : ReplyMentionType.sales ∈ request.grants.mentionTypes := by
    simp only [manifestEligible, Bool.and_eq_true] at heligible
    simpa using heligible.1.1.1.2
  change (!(policyDraft request authority).allowedMentionTypes.isEmpty) = true
  have hmem : ReplyMentionType.sales ∈ (policyDraft request authority).allowedMentionTypes := by
    simp only [policyDraft, if_neg hscene]
    exact mem_canonicalSet.mpr ⟨by decide, hgrant⟩
  simpa using List.ne_nil_of_mem hmem

/-- The direct scene has no action plans. -/
theorem responseMode_of_direct
    (h : compilePolicyManifestV2 request hashes authority ledgerSummary = .ok policy)
    (hscene : request.scene = .direct) (valid : validateExecutionPlanV2 plan policy = []) :
    plan.responseMode ≠ .action := by
  intro hmode
  have hallowed : plan.responseMode ∈ policy.allowedReplyModes := by
    by_contra hnot
    simp [validateExecutionPlanV2, hnot] at valid
  obtain ⟨policyId, rfl⟩ := compilePolicyManifestV2_ok h
  rw [hmode] at hallowed
  change _ ∈ policyReplyModes (eligibleManifestRefs request _) at hallowed
  have hsend := (mem_canonicalSet.mp hallowed).2
  simp only [List.mem_append, List.mem_cons, List.not_mem_nil, or_false, reduceCtorEq, false_or,
    or_self, List.any_map, List.any_eq_true, Function.comp_apply, decide_eq_true_eq] at hsend
  rcases hsend with hsend | hsend
  · split_ifs at hsend with hany
    · obtain ⟨ref, href, hid⟩ := hany
      have hnone := resolveRequirement_of_direct hscene (mem_eligibleManifestRefs.mp href)
      revert hnone
      rcases hid with hid | hid | hid <;> rw [hid] <;> decide
    · exact absurd hsend List.not_mem_nil
  · split_ifs at hsend
    · exact absurd (List.mem_singleton.mp hsend) (by decide)
    · exact absurd hsend List.not_mem_nil

end Policies

section Replies

variable {runtime : CandidateRuntime} {plan : ExecutionPlanV2}
  {evidence : CanonicalEvidenceExecutionResultV1} {groundings : List ExecutionUnitGroundingV1}
  {overlay : Option ComposerRetryOverlayV1} {rendered : ReplyResponse × String}

theorem isSome_reportArtifact {state : CanonicalReportStateV1} :
    (reportArtifact state).isSome ↔ state.Deliverable := by
  unfold reportArtifact CanonicalReportStateV1.Deliverable
  by_cases havailable : state.availability = .available
  · cases state.resolveRef <;> cases state.period <;> cases state.reportDate <;>
      simp [havailable]
  · simp [havailable]

/-- An intent gives an action exactly when its evidence is complete. -/
theorem isSome_actionFromGrounding {intent : CanonicalActionIntentV1}
    {facts : UnitBusinessFactsV1} :
    (actionFromGrounding intent facts).isSome ↔ intent.Executable facts := by
  unfold actionFromGrounding CanonicalActionIntentV1.Executable
  cases intent.actionType with
  | sendMaterialPack =>
    by_cases havailable : facts.materialPack.availability = .available <;> simp [havailable]
  | sendWeeklyReport => simp only [Option.isSome_map, isSome_reportArtifact]
  | sendMonthlyReport => simp only [Option.isSome_map, isSome_reportArtifact]

theorem mem_actionReply {action : OutboundAction} :
    action ∈ ((plan.units.zip groundings).flatMap fun (unit, grounding) =>
        if grounding.businessFacts.userPermission ≠ .allowed then []
        else unit.actionIntents.filterMap (actionFromGrounding · grounding.businessFacts)) ↔
      ∃ unit grounding, (unit, grounding) ∈ plan.units.zip groundings ∧
        grounding.businessFacts.userPermission = .allowed ∧
        ∃ intent ∈ unit.actionIntents,
          actionFromGrounding intent grounding.businessFacts = some action := by
  simp only [List.mem_flatMap, Prod.exists]
  refine exists_congr fun unit => exists_congr fun grounding => and_congr_right fun _ => ?_
  by_cases hallowed : grounding.businessFacts.userPermission = .allowed <;> simp [hallowed]

/-- An action reply has actions exactly when some intent can be executed; else it is the reply
that nothing can be done. -/
theorem actionReply_cases (h : actionReply plan groundings = .ok rendered) :
    (∃ actions, rendered = (⟨"", ⟨.answer, "", []⟩, actions⟩, "action_ready") ∧ actions ≠ [] ∧
        SomeActionExecutable plan groundings) ∨
      (rendered = (plainReply .unableToAnswer unableText, "action_evidence_missing") ∧
        ¬ SomeActionExecutable plan groundings) := by
  simp only [actionReply] at h
  have hsome := fun action => @mem_actionReply plan groundings action
  split_ifs at h with hlength hempty
  · refine .inr ⟨(Except.ok.inj h).symm, ?_⟩
    rintro ⟨unit, grounding, hmem, hallowed, intent, hintent, hexecutable⟩
    obtain ⟨action, haction⟩ := Option.isSome_iff_exists.mp
      (isSome_actionFromGrounding.mpr hexecutable)
    have := (hsome action).mpr ⟨unit, grounding, hmem, hallowed, intent, hintent, haction⟩
    rw [hempty] at this
    exact absurd this List.not_mem_nil
  · refine .inl ⟨_, (Except.ok.inj h).symm, hempty, ?_⟩
    obtain ⟨action, haction⟩ := List.exists_mem_of_ne_nil _ hempty
    obtain ⟨unit, grounding, hmem, hallowed, intent, hintent, hfrom⟩ := (hsome action).mp haction
    exact ⟨unit, grounding, hmem, hallowed, intent, hintent,
      isSome_actionFromGrounding.mp (Option.isSome_iff_exists.mpr ⟨action, hfrom⟩)⟩

/-- What is not an action reply has no actions; it mentions sales in a group that may, and a text
in the direct scene has no `%`. -/
structure WithoutActions (runtime : CandidateRuntime) (groundings : List ExecutionUnitGroundingV1)
    (response : ReplyResponse) : Prop where
  actions : response.actions = []
  mentions : response.reply.mentions ≠ [] → runtime.scene ≠ .direct ∧
    groundings.any (·.businessFacts.salesMention.availability = .available)
  text : runtime.scene = .direct → '%' ∉ response.reply.text.toList

theorem withoutActions_plain {kind : ReplyKind} {text : String}
    (h : runtime.scene = .direct → '%' ∉ text.toList) :
    WithoutActions runtime groundings (plainReply kind text) :=
  ⟨rfl, fun hne => absurd rfl hne, h⟩

set_option maxRecDepth 2000 in
theorem percent_not_mem_unableText : '%' ∉ unableText.toList := percent_not_mem rfl

theorem percent_not_mem_clarificationText : '%' ∉ (clarificationText plan).toList := by
  unfold clarificationText
  split_ifs <;> exact percent_not_mem rfl

theorem handoffReply_withoutActions :
    WithoutActions runtime groundings (handoffReply runtime groundings).1 := by
  unfold handoffReply
  split_ifs with hscene hsales
  · exact withoutActions_plain fun _ => percent_not_mem rfl
  · exact ⟨rfl, fun _ => ⟨hscene, hsales⟩, fun h => absurd h hscene⟩
  · exact withoutActions_plain fun _ => percent_not_mem_unableText

/-- Without the text of a composer, its reply is that nothing can be said. -/
theorem composeV2Response_unable :
    (composeV2Response plan evidence overlay).wp fun exchanges result =>
      NoOutput plan evidence overlay exchanges → ∀ rendered, result = .ok rendered →
        rendered.1 = plainReply .unableToAnswer unableText := by
  unfold composeV2Response
  split
  · rintro - _ ⟨⟩
    rfl
  · intro answer
    cases answer with
    | error e => exact fun _ _ => nofun
    | ok outcome =>
      cases outcome with
      | unavailable | outputRejected =>
        rintro - _ ⟨⟩
        rfl
      | output response =>
        change (if _ then _ else _ : RuntimeProgram _).wp _
        split_ifs
        · exact fun h => absurd (List.mem_singleton_self _) (h response)
        · exact fun h => absurd (List.mem_singleton_self _) (h response)
        · exact fun _ _ => nofun

/-- The renderer, when no composer gives it a text. -/
theorem renderV2Response_cases
    (hrefusal : runtime.refusalTextForReason = MarketSupport.refusalTextForReason) :
    (renderV2Response runtime plan evidence overlay).wp fun exchanges result =>
      NoOutput plan evidence overlay exchanges → ∀ rendered, result = .ok rendered →
        (plan.responseMode = .action ∧ actionReply plan evidence.groundings = .ok rendered) ∨
          (plan.responseMode ≠ .action ∧
            WithoutActions runtime evidence.groundings rendered.1) := by
  have hcompose : plan.responseMode ≠ .action →
      (composeV2Response plan evidence overlay).wp fun exchanges result =>
        NoOutput plan evidence overlay exchanges → ∀ rendered, result = .ok rendered →
          (plan.responseMode = .action ∧ actionReply plan evidence.groundings = .ok rendered) ∨
            (plan.responseMode ≠ .action ∧
              WithoutActions runtime evidence.groundings rendered.1) := by
    intro hmode
    refine wp_mono composeV2Response_unable fun exchanges result h hnone rendered hrendered => ?_
    rw [h hnone rendered hrendered]
    exact .inr ⟨hmode, withoutActions_plain fun _ => percent_not_mem_unableText⟩
  unfold renderV2Response
  split
  case h_1 hmode =>
    rintro - _ ⟨⟩
    refine .inr ⟨by simp [hmode], withoutActions_plain fun _ => ?_⟩
    rw [hrefusal]
    exact percent_not_mem_refusalTextForReason _
  case h_2 hmode =>
    rintro - _ ⟨⟩
    exact .inr ⟨by simp [hmode], withoutActions_plain fun _ => percent_not_mem_clarificationText⟩
  case h_3 hmode =>
    rintro - _ ⟨⟩
    exact .inr ⟨by simp [hmode], handoffReply_withoutActions⟩
  case h_4 hmode =>
    rintro - _ ⟨⟩
    exact .inr ⟨by simp [hmode], withoutActions_plain fun _ => percent_not_mem rfl⟩
  case h_5 hmode => exact fun _ rendered h => .inl ⟨hmode, h⟩
  case h_6 hmode => exact hcompose (by simp [hmode])
  case h_7 hmode => exact hcompose (by simp [hmode])
  case h_8 hmode =>
    have hunable : WithoutActions runtime evidence.groundings
        (plainReply .unableToAnswer unableText) :=
      withoutActions_plain fun _ => percent_not_mem_unableText
    dsimp only
    split_ifs with hblocked
    · -- the text of the rule is for groups only
      split
      · rintro - _ ⟨⟩
        exact .inr ⟨by simp [hmode],
          withoutActions_plain fun h => absurd (h.symm.trans hblocked.1) (by decide)⟩
      · rintro - _ ⟨⟩
        exact .inr ⟨by simp [hmode], hunable⟩
    · rintro - _ ⟨⟩
      exact .inr ⟨by simp [hmode], hunable⟩

/-! ## Validation -/

theorem ensureResponseIds_mentions (uuid : UuidHex) (response : ReplyResponse) :
    (ensureResponseIds uuid response).reply.mentions = response.reply.mentions := by
  simp only [ensureResponseIds]

theorem ensureResponseIds_actions_eq_nil {uuid : UuidHex} {response : ReplyResponse} :
    (ensureResponseIds uuid response).actions = [] ↔ response.actions = [] := by
  simp [ensureResponseIds]

/-- Sales are available only where the unit asks for them. -/
theorem sales_of_available {policy : PolicyManifestV2}
    {canonicalFacts : List CanonicalEvidenceFactV1}
    {bindings : List CanonicalResolveBindingV1} {epoch : Option ℕ} {unit : ExecutionPlanUnitV2}
    {businessFacts : UnitBusinessFactsV1} (authorized : unit.Authorized policy)
    (hderive : groundedBusinessFacts policy canonicalFacts bindings epoch unit = .ok businessFacts)
    (havailable : businessFacts.salesMention.availability = .available) :
    .salesMention ∈ policy.allowedAdapterResolves ∨
      .salesHandoff ∈ policy.eligibleCapabilities.map (·.manifestId) := by
  have hdeclared : resolveDeclaredOrAdmittedV1 unit unit.manifestRef.manifestId.contract
      .salesMention = true := by
    by_contra hnot
    obtain ⟨_, _, _, _, hsales⟩ := derive_states hderive
    rw [unitResolvableStateV1, if_neg hnot] at hsales
    rw [← Except.ok.inj hsales] at havailable
    cases havailable
  rw [resolveDeclaredOrAdmittedV1, Bool.or_eq_true, List.any_eq_true,
    decide_eq_true_eq] at hdeclared
  rcases hdeclared with ⟨resolve, hresolve, htype⟩ | hcontract
  · exact .inl (of_decide_eq_true htype ▸ authorized.adapterResolves resolve hresolve)
  · refine .inr (List.mem_map.mpr ⟨unit.manifestRef, authorized.manifestRef, ?_⟩)
    revert hcontract
    cases unit.manifestRef.manifestId <;> decide

/-- A grounded plan has one grounding for each unit, with the business facts of the unit. -/
theorem groundings_of_ok {policy : PolicyManifestV2} {canonicalFacts : List CanonicalEvidenceFactV1}
    {bindings : List CanonicalResolveBindingV1} {epoch : Option ℕ}
    (valid : validateExecutionPlanV2 plan policy = [])
    (h : groundExecutionPlanV2 plan policy canonicalFacts bindings epoch = .ok groundings) :
    List.Forall₂ (fun unit grounding => unit.Authorized policy ∧
      groundedBusinessFacts policy canonicalFacts bindings epoch unit =
        .ok grounding.businessFacts) plan.units groundings := by
  unfold groundExecutionPlanV2 at h
  split_ifs at h with hnodup
  obtain ⟨_, hmap, h⟩ := bind_eq_ok_iff.mp h
  obtain ⟨_, _, h⟩ := bind_eq_ok_iff.mp h
  obtain rfl := Except.ok.inj h
  have hauthorized : ∀ unit ∈ plan.units, unit.Authorized policy := fun unit hunit =>
    unitIssues_eq_nil_iff.mp (List.flatMap_eq_nil_iff.mp (List.append_eq_nil_iff.mp valid).2
      unit hunit)
  refine ((List.forall₂_and_left _ _).mpr ⟨hauthorized, mapM_eq_ok_iff.mp hmap⟩).imp ?_
  rintro unit grounding ⟨authorized, hground⟩
  obtain ⟨businessFacts, hderive, rfl⟩ :=
    (groundExecutionUnitV2_ok_iff authorized.manifestRef hnodup).mp hground
  exact ⟨authorized, hderive⟩

end Replies

/-- A valid plan whose evidence was grounded has a reply that the validator accepts, unless it is
an action plan none of whose actions has its evidence. -/
theorem deterministicReply_valid_iff {runtime : CandidateRuntime} {word : Char → Bool}
    {request : KernelReplyRequestV1} {plan : ExecutionPlanV2}
    {evidence : CanonicalEvidenceExecutionResultV1} {epoch : Option ℕ}
    {overlay : Option ComposerRetryOverlayV1} {rendered : ReplyResponse × String}
    (serves : runtime.Serves word request)
    (valid : validateExecutionPlanV2 plan runtime.policy = [])
    (grounded : groundExecutionPlanV2 plan runtime.policy evidence.canonicalFacts
      evidence.resolveBindings epoch = .ok evidence.groundings)
    (renders : RendersDeterministically runtime plan evidence overlay rendered) (uuid : UuidHex) :
    (validateV2Reply runtime plan (ensureResponseIds uuid rendered.1)).valid = true ↔
      plan.responseMode ≠ .action ∨ SomeActionExecutable plan evidence.groundings := by
  obtain ⟨hashes, authority, ledgerSummary, hpolicy⟩ := serves.compiled
  have hgroundings := groundings_of_ok valid grounded
  obtain ⟨exchanges, trace, hnone⟩ := renders
  rcases trace.wp (renderV2Response_cases serves.refusalText) hnone rendered rfl with
    ⟨hmode, haction⟩ | ⟨hmode, hplain⟩
  · have hscene : runtime.scene ≠ .direct := fun hdirect =>
      responseMode_of_direct hpolicy (serves.scene ▸ hdirect) valid hmode
    rcases actionReply_cases haction with ⟨actions, rfl, hne, hsome⟩ | ⟨rfl, hnot⟩
    · refine iff_of_true ?_ (.inr hsome)
      obtain ⟨unit, grounding, hmem, _, intent, hintent, _⟩ := hsome
      have authorized := ((List.forall₂_iff_zip.mp hgroundings).2 hmem).1
      have hallowed := actionsAllowed_of_compile hpolicy (authorized.actionIntents intent hintent)
      have hmentions :
          (ensureResponseIds uuid ⟨"", ⟨.answer, "", []⟩, actions⟩).reply.mentions = [] :=
        rfl
      simp [validateV2Reply, hscene, hallowed, ensureResponseIds_actions_eq_nil, hne, hmentions]
    · refine iff_of_false ?_ (not_or.mpr ⟨not_not.mpr hmode, hnot⟩)
      have hactions :
          (ensureResponseIds uuid (plainReply .unableToAnswer unableText)).actions = [] :=
        rfl
      simp [validateV2Reply, hmode, hactions]
  · refine iff_of_true ?_ (.inl hmode)
    have hactions : (ensureResponseIds uuid rendered.1).actions = [] :=
      ensureResponseIds_actions_eq_nil.mpr hplain.actions
    have hmentions := ensureResponseIds_mentions uuid rendered.1
    by_cases hscene : runtime.scene = .direct
    · have hnoMentions : rendered.1.reply.mentions = [] :=
        by_contra fun hne => (hplain.mentions hne).1 hscene
      have htext : imageMarkerFilenames word (ensureResponseIds uuid rendered.1).reply.text = [] :=
        imageMarkerFilenames_of_not_mem fun hmem =>
          hplain.text hscene ((sanitizePlainText_sublist _).subset hmem)
      simp [validateV2Reply, hmode, hactions, hmentions, hnoMentions, serves.imageMarkers, htext]
    · have hallowed : rendered.1.reply.mentions = [] ∨ runtime.policy.mentionsAllowed = true := by
        rw [or_iff_not_imp_left]
        intro hne
        obtain ⟨grounding, hmem, havailable⟩ := List.any_eq_true.mp (hplain.mentions hne).2
        obtain ⟨unit, _, authorized, hderive⟩ := exists_mem_zip hgroundings.flip hmem
        exact mentionsAllowed_of_compile hpolicy (serves.scene ▸ hscene)
          (sales_of_available authorized hderive (of_decide_eq_true havailable))
      rcases hallowed with hallowed | hallowed <;>
        simp [validateV2Reply, hscene, hmode, hactions, hmentions, hallowed]

/-! ## A report that was not resolved -/

namespace MissingReport

def request : KernelReplyRequestV1 where
  message := "发周报"
  scene := .group
  businessScope := .distribution ⟨"Example Bank", .bank, [⟨.weeklyReport, []⟩]⟩
  grants := ⟨[.resolveWeeklyReport], [.sendWeeklyReport], []⟩

def authority : BusinessScopeAuthorityV1 := ⟨request.businessScope, "bsh1:0", "bsr:0"⟩

def policyHashes : PolicyHashes := ⟨fun _ => "bsh1:0", fun _ => "pm:0"⟩

def policy : PolicyManifestV2 := { policyDraft request authority with policyId := "pm:0" }

def encoding : PlanEncoding := ⟨fun _ => "epv:0", fun _ => []⟩

def hashes : EvidenceHashes :=
  ⟨fun _ => "scope:0", fun _ => "record:0", fun _ => "value:0", fun _ => "report:0",
    fun _ => "provenance:0", fun _ => "evidence:0"⟩

def runtime : CandidateRuntime where
  encoding := encoding
  hashes := hashes
  policy := policy
  authority := authority
  scene := .group
  refusalTextForReason := refusalTextForReason
  inputBlock _ := none
  imageMarkerFilenames := imageMarkerFilenames fun _ => true

theorem runtime_serves : runtime.Serves (fun _ => true) request where
  compiled := ⟨policyHashes, authority, ⟨0, [], false⟩, rfl⟩
  scene := rfl
  refusalText := rfl
  imageMarkers := rfl

/-- A plan that sends the weekly report. -/
def plan : ExecutionPlanV2 :=
  let unit : DeterministicPlanUnitV1 := ⟨"u1", .weeklyReportSend, .send, none, none, []⟩
  executionPlan encoding (.deterministic ⟨"Send the report", [unit], "compliant_product_request"⟩)
    .directSend [executionUnit policy unit ⟨.weeklyReportSend, .v20260718n1⟩
      (unplannedScope authority none) [⟨.sendWeeklyReport, .weeklyReport, none⟩]]

/-- Without facts, the unit is grounded on nothing. -/
def evidence : CanonicalEvidenceExecutionResultV1 where
  preflight := [⟨.weeklyReport, some .temporarilyUnavailable⟩]
  canonicalFacts := []
  resolveBindings := []
  groundings := ((groundExecutionPlanV2 plan policy [] [] none).toOption).getD []

theorem resolvedHasRef_ref : resolvedHasRef .resolved (some "ref-1") = true := by decide

/-- What the adapter answers when it has the report. -/
def resolvedReport : AdapterResolveResult where
  resolveType := .weeklyReport
  status := .resolved
  resolvedAt := 1
  resolveRef := some "ref-1"
  period := some "2026W29"
  reportDate := some "2026-07-17"
  resolved_has_ref := resolvedHasRef_ref

/-- With the report, the unit is grounded on its facts. -/
def resolvedEvidence : CanonicalEvidenceExecutionResultV1 :=
  let preflight := [⟨.weeklyReport, some resolvedReport⟩]
  let built := ((canonicalAdapterFactsV1 hashes plan preflight).toOption).getD ([], [])
  { preflight := [⟨.weeklyReport, some .resolved⟩]
    canonicalFacts := built.1
    resolveBindings := built.2
    groundings := ((groundExecutionPlanV2 plan policy built.1 built.2 none).toOption).getD [] }

theorem plan_valid : validateExecutionPlanV2 plan policy = [] := by decide +kernel

theorem plan_grounded : groundExecutionPlanV2 plan policy evidence.canonicalFacts
    evidence.resolveBindings none = .ok evidence.groundings := by decide +kernel

theorem plan_resolved : groundExecutionPlanV2 plan policy resolvedEvidence.canonicalFacts
    resolvedEvidence.resolveBindings none = .ok resolvedEvidence.groundings := by decide +kernel

def uuid : UuidHex := ⟨"00000000000000000000000000000000", UuidHex.zeros⟩

/-- The reply that is built without the report. -/
def rendered : ReplyResponse × String :=
  (plainReply .unableToAnswer unableText, "action_evidence_missing")

/-- An action plan is rendered from its groundings alone. -/
theorem renders_action {evidence : CanonicalEvidenceExecutionResultV1}
    {rendered : ReplyResponse × String} (h : actionReply plan evidence.groundings = .ok rendered) :
    RendersDeterministically runtime plan evidence none rendered := by
  refine ⟨[], ?_, fun _ => List.not_mem_nil⟩
  have hmode : plan.responseMode = .action := by decide
  have hrender : renderV2Response runtime plan evidence none =
      ofExcept (actionReply plan evidence.groundings) := by
    unfold renderV2Response
    rw [hmode]
  rw [hrender, h]
  exact .done _

theorem renders : RendersDeterministically runtime plan evidence none rendered :=
  renders_action (by decide +kernel)

end MissingReport

open MissingReport in
/-- The same plan is answered validly with the report, and not without it. -/
theorem deterministicReply_valid_iff_missing :
    (∃ rendered, RendersDeterministically runtime plan resolvedEvidence none rendered ∧
      SomeActionExecutable plan resolvedEvidence.groundings ∧
      (validateV2Reply runtime plan (ensureResponseIds uuid rendered.1)).valid = true) ∧
    ¬SomeActionExecutable plan evidence.groundings ∧
      (validateV2Reply runtime plan (ensureResponseIds uuid rendered.1)).valid = false := by
  have hmode : plan.responseMode = .action := by decide
  constructor
  · obtain ⟨rendered, haction, hvalid⟩ : ∃ rendered,
        actionReply plan resolvedEvidence.groundings = .ok rendered ∧
          (validateV2Reply runtime plan (ensureResponseIds uuid rendered.1)).valid = true :=
      ⟨(⟨"", ⟨.answer, "", []⟩, [.sendWeeklyReport "" "ref-1" "2026W29" "2026-07-17"]⟩,
        "action_ready"), by decide +kernel, by decide +kernel⟩
    have hrenders := renders_action haction
    have hiff := deterministicReply_valid_iff runtime_serves plan_valid plan_resolved hrenders uuid
    exact ⟨rendered, hrenders, (hiff.mp hvalid).resolve_left (not_not.mpr hmode), hvalid⟩
  · have hvalid : (validateV2Reply runtime plan (ensureResponseIds uuid rendered.1)).valid =
        false := by decide +kernel
    have hiff := deterministicReply_valid_iff runtime_serves plan_valid plan_grounded renders uuid
    refine ⟨fun hsome => ?_, hvalid⟩
    rw [hiff.mpr (.inr hsome)] at hvalid
    cases hvalid

open MissingReport in
/-- The reply to a valid plan whose report was not resolved is refused by the validator. -/
theorem missingReport_rejected : runtime.Serves (fun _ => true) request ∧
    validateExecutionPlanV2 plan runtime.policy = [] ∧
    groundExecutionPlanV2 plan runtime.policy evidence.canonicalFacts evidence.resolveBindings
      none = .ok evidence.groundings ∧
    RendersDeterministically runtime plan evidence none rendered ∧
    validateV2Reply runtime plan (ensureResponseIds uuid rendered.1) =
      ⟨false, ["action_plan_without_validated_action"]⟩ :=
  ⟨runtime_serves, plan_valid, plan_grounded, renders, by decide +kernel⟩

end MarketSupport
