import MarketSupport.Planning.InputPolicy
import MarketSupport.Properties.PlanAuthority

/-!
# Plans without the planner

When the matchers of direct send commands and of the input policy return, for every request.

## Main results

* `matchInputPolicy_accepted` — the input policy always has a plan.
* `deterministicPlanners_iff` — the matchers have a plan exactly when a command of the request
  has everything that its capability needs.
-/

namespace MarketSupport

open Library

section Matchers

variable {request : KernelReplyRequestV1} {hashes : PolicyHashes}
  {policyAuthority authority : BusinessScopeAuthorityV1} {ledgerSummary : PolicyLedgerSummaryV1}
  {policy : PolicyManifestV2} {text : TextFunctions} {encoding : PlanEncoding}

/-! ## Eligible capabilities -/

/-- A compiled policy has the capabilities that are eligible for its request. -/
theorem find?_eligibleCapabilities
    (hpolicy : compilePolicyManifestV2 request hashes policyAuthority ledgerSummary = .ok policy)
    (manifestId : CapabilityManifestIdV2) :
    policy.eligibleCapabilities.find? (·.manifestId = manifestId) =
      if manifestEligible request policy.internalCompanyKnowledgeEnabled manifestId then
        some ⟨manifestId, .v20260718n1⟩ else none := by
  obtain ⟨policyId, rfl⟩ := compilePolicyManifestV2_ok hpolicy
  set enabled := (policyDraft request policyAuthority).internalCompanyKnowledgeEnabled
  change (eligibleManifestRefs request enabled).find? (·.manifestId = manifestId) =
    if manifestEligible request enabled manifestId then _ else none
  split_ifs with heligible
  · cases hfound : (eligibleManifestRefs request enabled).find? (·.manifestId = manifestId) with
    | none =>
      have hmem : (⟨manifestId, .v20260718n1⟩ : ManifestRefV1) ∈ _ :=
        mem_eligibleManifestRefs.mpr heligible
      simpa using List.find?_eq_none.mp hfound _ hmem
    | some ref =>
      have hid : ref.manifestId = manifestId := by simpa using List.find?_some hfound
      rw [← hid, ManifestVersionV2.eq .v20260718n1 ref.manifestVersion]
  · refine List.find?_eq_none.mpr fun ref hmem hid => heligible ?_
    rw [← of_decide_eq_true hid]
    exact mem_eligibleManifestRefs.mp hmem

/-! ## Plans of one eligible unit -/

/-- One eligible unit makes a plan that the validator accepts, in a mode that the policy has. -/
theorem unit_accepted
    (hpolicy : compilePolicyManifestV2 request hashes policyAuthority ledgerSummary = .ok policy)
    {unit : DeterministicPlanUnitV1} (plain : unit.Plain)
    (eligible : manifestEligible request policy.internalCompanyKnowledgeEnabled unit.manifestId)
    {actionIntents : List CanonicalActionIntentV1}
    (hintents : unitActionIntents policy unit = .ok actionIntents)
    (hscene : ¬ (unit.answerabilityPolicy = .send ∧ policy.scene = .direct))
    (mode : responseModeForAnswerabilityPolicies [unit.answerabilityPolicy] ∈
      policy.allowedReplyModes)
    {origin : ExecutionPlanOriginV1} (horigin : origin ≠ .planner) {userNeed reasonCode : String}
    (hneed : 1 ≤ userNeed.length ∧ userNeed.length ≤ 500) :
    ∃ plan, finalizeExecutionPlanV2 policy authority encoding
        (.deterministic ⟨userNeed, [unit], reasonCode⟩) origin = .ok plan ∧
      validateExecutionPlanV2 plan policy = [] := by
  have hfound := find?_eligibleCapabilities hpolicy unit.manifestId
  rw [if_pos eligible] at hfound
  have hplan : finalizeExecutionPlanV2 policy authority encoding
      (.deterministic ⟨userNeed, [unit], reasonCode⟩) origin = .ok _ :=
    (finalizeExecutionPlanV2_unit plain hfound hintents hscene horigin hneed).1
  refine ⟨_, hplan, ?_⟩
  have authorized := (finalizeExecutionPlanV2_authorized hpolicy hplan).1
  rw [validateExecutionPlanV2, if_pos (by exact mode), List.nil_append]
  refine List.flatMap_eq_nil_iff.mpr fun finalized hmem => ?_
  exact unitIssues_eq_nil_iff.mpr (authorized.units finalized hmem)

/-! ## The input policy -/

/-- The rules are within the bounds of units and plans. -/
theorem rule_of_mem {rule : InputPolicyRule} (h : rule ∈ defaultInputPolicyRules) :
    (handoffUnit policy rule).Plain ∧ 1 ≤ rule.userNeed.length ∧ rule.userNeed.length ≤ 500 := by
  rw [List.mem_singleton.mp h]
  have hid : 1 ≤ "input-policy-t0_handoff".length ∧ "input-policy-t0_handoff".length ≤ 120 := by
    decide
  exact ⟨⟨hid, rfl, rfl⟩, by decide⟩

theorem handoffUnit_unitActionIntents (rule : InputPolicyRule) :
    unitActionIntents policy (handoffUnit policy rule) = .ok [] := by
  refine unitActionIntents_of_eq_none ?_
  change (handoffManifest policy).runtimeCapability.bind _ = none
  unfold handoffManifest
  split_ifs <;> rfl

/-- The handoff of a compiled policy is eligible. -/
theorem handoffManifest_eligible
    (hpolicy : compilePolicyManifestV2 request hashes policyAuthority ledgerSummary = .ok policy) :
    manifestEligible request policy.internalCompanyKnowledgeEnabled (handoffManifest policy) := by
  obtain ⟨policyId, heq⟩ := compilePolicyManifestV2_ok hpolicy
  have hscene : policy.scene = request.scene := by rw [heq]; rfl
  unfold handoffManifest
  split_ifs with hdirect hsales
  · simp [manifestEligible, CapabilityManifestIdV2.manifestReadRequirement,
      CapabilityManifestIdV2.manifestActionRequirement, artifactIsMissing, groupOnlyManifests,
      hscene ▸ hdirect]
  · obtain ⟨ref, href, hid⟩ := List.mem_map.mp (of_decide_eq_true hsales).1
    rw [← hid]
    rw [heq] at href ⊢
    exact mem_eligibleManifestRefs.mp href
  · simp [manifestEligible, CapabilityManifestIdV2.manifestReadRequirement,
      CapabilityManifestIdV2.manifestActionRequirement, artifactIsMissing, groupOnlyManifests]

/-- The input policy never fails, whatever its message is. -/
theorem matchInputPolicy_accepted
    (hpolicy : compilePolicyManifestV2 request hashes policyAuthority ledgerSummary = .ok policy) :
    ∃ result, matchInputPolicy text encoding request policy authority = .ok result ∧
      result.Accepted policy := by
  unfold matchInputPolicy
  dsimp only
  split_ifs
  · exact ⟨_, rfl, .inl ⟨rfl, rfl⟩⟩
  cases hrule : defaultInputPolicyRules.find? fun rule =>
      ruleMatches text rule (normalizeCompactMessage text request.message) with
  | none => exact ⟨_, rfl, .inl ⟨rfl, rfl⟩⟩
  | some rule =>
    obtain ⟨plain, hneed⟩ : (handoffUnit policy rule).Plain ∧ _ :=
      rule_of_mem (List.mem_of_find?_eq_some hrule)
    have hsend : (handoffUnit policy rule).answerabilityPolicy ≠ .send := by
      unfold handoffUnit
      dsimp only
      split_ifs <;> nofun
    have hmode : responseModeForAnswerabilityPolicies
        [(handoffUnit policy rule).answerabilityPolicy] ∈ policy.allowedReplyModes := by
      refine (PolicyManifestV2.Compiled.of_compile hpolicy).modes _ ?_
      unfold handoffUnit
      dsimp only
      split_ifs <;> decide
    obtain ⟨plan, hplan, hvalid⟩ : ∃ plan, finalizeExecutionPlanV2 policy authority encoding
        (.deterministic ⟨rule.userNeed, [handoffUnit policy rule], "customer_service_request"⟩)
        .inputPolicy = .ok plan ∧ validateExecutionPlanV2 plan policy = [] :=
      unit_accepted hpolicy plain (handoffManifest_eligible hpolicy)
        (handoffUnit_unitActionIntents rule) (fun h => hsend h.1) hmode (by decide) hneed
    refine ⟨⟨.guardrailHandoff, some plan, rule.reasonCode, rule.ruleId⟩, ?_,
      .inr ⟨plan, rfl, hvalid⟩⟩
    simp only [handoffResult]
    rw [hplan]
    rfl

/-! ## Direct send commands -/

/-- A command of the request has what its capability needs: a read grant and an artifact. It is
not asked of a command that the request may not send, nor of one that a question answers. -/
def KernelReplyRequestV1.SendComplete (request : KernelReplyRequestV1) (text : TextFunctions) :
    Prop :=
  ∀ command, matchDirectArtifact (normalizeCompactMessage text request.message) = some command →
    request.scene = .group → command.actionType ∈ request.grants.outboundActions →
    (command.actionType = .sendMaterialPack → canonicalMaterialOptions request = []) →
    (∀ capability, command.resolveType.sendManifest.manifestReadRequirement = some capability →
      capability ∈ request.grants.readCapabilities) ∧
    artifactIsMissing command.resolveType.sendManifest
      ((kernelAvailableArtifacts request).map (·.type)) = false

/-- When the capability of a command is eligible, for a request that grants its action. -/
theorem sendManifest_eligible_iff {command : ArtifactCommand}
    (hmem : command ∈ directSendArtifacts.map (·.1)) (hscene : request.scene = .group)
    (hgrant : command.actionType ∈ request.grants.outboundActions) {enabled : Bool} :
    manifestEligible request enabled command.resolveType.sendManifest = true ↔
      (∀ capability, command.resolveType.sendManifest.manifestReadRequirement = some capability →
        capability ∈ request.grants.readCapabilities) ∧
      artifactIsMissing command.resolveType.sendManifest
        ((kernelAvailableArtifacts request).map (·.type)) = false := by
  simp only [directSendArtifacts, List.map_cons, List.map_nil, List.mem_cons, List.not_mem_nil,
    or_false] at hmem
  rcases hmem with rfl | rfl | rfl <;>
    simp_all [manifestEligible, AvailableArtifactType.sendManifest,
      CapabilityManifestIdV2.manifestReadRequirement,
      CapabilityManifestIdV2.manifestActionRequirement]

/-- What the policy has of the grants of a request in a group. -/
theorem group_policy
    (hpolicy : compilePolicyManifestV2 request hashes policyAuthority ledgerSummary = .ok policy) :
    policy.scene = request.scene ∧
      policy.materialPackOptions = canonicalMaterialOptions request ∧
      ∀ actionType, actionType ∈ policy.allowedOutboundActions ↔
        request.scene = .group ∧ actionType ∈ request.grants.outboundActions := by
  obtain ⟨policyId, rfl⟩ := compilePolicyManifestV2_ok hpolicy
  refine ⟨rfl, rfl, fun actionType => ?_⟩
  change actionType ∈ (if request.scene = .direct then [] else _) ↔ _
  cases hscene : request.scene with
  | direct => simp
  | group =>
    have horder : actionType ∈ outboundActionOrder := by cases actionType <;> decide
    rw [if_neg nofun, mem_canonicalSet]
    simp [horder]

/-- A policy with a capability that sends has the mode of actions. -/
theorem action_mem_allowedReplyModes
    (hpolicy : compilePolicyManifestV2 request hashes policyAuthority ledgerSummary = .ok policy)
    {artifact : AvailableArtifactType}
    (h : manifestEligible request policy.internalCompanyKnowledgeEnabled artifact.sendManifest) :
    .action ∈ policy.allowedReplyModes := by
  obtain ⟨policyId, rfl⟩ := compilePolicyManifestV2_ok hpolicy
  set enabled := (policyDraft request policyAuthority).internalCompanyKnowledgeEnabled
  have hmem : (⟨artifact.sendManifest, .v20260718n1⟩ : ManifestRefV1) ∈
      eligibleManifestRefs request enabled := mem_eligibleManifestRefs.mpr h
  have hany : ((eligibleManifestRefs request enabled).map (·.manifestId)).any
      (· ∈ [.materialPackSend, .weeklyReportSend, .monthlyReportSend]) = true :=
    List.any_eq_true.mpr ⟨_, List.mem_map_of_mem hmem, by cases artifact <;> decide⟩
  change _ ∈ policyReplyModes (eligibleManifestRefs request enabled)
  refine mem_canonicalSet.mpr ⟨by decide, List.mem_append_left _ (List.mem_append_right _ ?_)⟩
  rw [if_pos hany]
  exact List.mem_singleton_self _

/-- The plan of a command. -/
theorem actionPlan_ok_iff
    (hpolicy : compilePolicyManifestV2 request hashes policyAuthority ledgerSummary = .ok policy)
    {command : ArtifactCommand} (hmem : command ∈ directSendArtifacts.map (·.1))
    (hallowed : command.actionType ∈ policy.allowedOutboundActions) :
    (∃ plan, actionPlan encoding policy authority command = .ok plan ∧
      validateExecutionPlanV2 plan policy = []) ↔
    manifestEligible request policy.internalCompanyKnowledgeEnabled
      command.resolveType.sendManifest = true := by
  obtain ⟨plain, haction, hneed⟩ := command_of_mem hmem
  obtain ⟨hscene, _, hgrants⟩ := group_policy hpolicy
  constructor
  · rintro ⟨plan, hplan, _⟩
    obtain ⟨_, units, hunits, _⟩ := finalizeExecutionPlanV2_eq_ok.mp hplan
    obtain ⟨finalized, hfinalized⟩ := exists_mapM_eq_ok_iff.mp ⟨units, hunits⟩ _ List.mem_cons_self
    obtain ⟨ref, _, _, hfound, _⟩ := finalizeExecutionUnitV2_eq_ok.mp hfinalized
    by_contra hnot
    change List.find? (·.manifestId = command.resolveType.sendManifest) _ = some ref at hfound
    rw [find?_eligibleCapabilities hpolicy, if_neg hnot] at hfound
    cases hfound
  · intro eligible
    obtain ⟨actionIntents, hintents⟩ : ∃ actionIntents,
      unitActionIntents policy (actionUnit command) = .ok actionIntents :=
        exists_unitActionIntents haction hallowed
    refine unit_accepted hpolicy plain eligible hintents (fun h => ?_)
      (action_mem_allowedReplyModes hpolicy eligible) (by decide) hneed
    rw [hscene, ((hgrants _).mp hallowed).1] at h
    exact absurd h.2 (by decide)

/-- The question which material pack is meant always has a plan. -/
theorem confirmationPlan_accepted
    (hpolicy : compilePolicyManifestV2 request hashes policyAuthority ledgerSummary = .ok policy) :
    ∃ plan, confirmationPlan encoding policy authority = .ok plan ∧
      validateExecutionPlanV2 plan policy = [] := by
  have compiled := PolicyManifestV2.Compiled.of_compile hpolicy
  have heligible : manifestEligible request policy.internalCompanyKnowledgeEnabled
      .generalClarification = true := by
    obtain ⟨policyId, rfl⟩ := compilePolicyManifestV2_ok hpolicy
    exact mem_eligibleManifestRefs.mp (compiled.general .generalClarification (by decide))
  exact unit_accepted hpolicy confirmationUnit_general.plain heligible
    (unitActionIntents_of_eq_none rfl) (fun h => absurd h.1 (by decide))
    (compiled.modes _ (by decide)) (by decide) (by decide)

/-- Matching a direct send command returns exactly when the command is complete. -/
theorem matchDirectSendCommand_iff
    (hpolicy : compilePolicyManifestV2 request hashes policyAuthority ledgerSummary = .ok policy) :
    (∃ result, matchDirectSendCommand text encoding request policy authority = .ok result ∧
      result.Accepted policy) ↔ request.SendComplete text := by
  obtain ⟨hscene, hoptions, hgrants⟩ := group_policy hpolicy
  have hempty : matchDirectArtifact "" = none := by decide +kernel
  unfold matchDirectSendCommand KernelReplyRequestV1.SendComplete
  generalize normalizeCompactMessage text request.message = normalized
  dsimp only
  cases hcommand : matchDirectArtifact normalized with
  | none =>
    refine iff_of_true ?_ nofun
    split_ifs
    · exact ⟨_, rfl, .inl ⟨rfl, rfl⟩⟩
    · exact ⟨_, rfl, .inl ⟨rfl, rfl⟩⟩
  | some command =>
    have hmem := mem_of_matchDirectArtifact hcommand
    have hnormalized : normalized ≠ "" := fun h => by
      rw [h, hempty] at hcommand
      cases hcommand
    rw [if_neg hnormalized]
    simp only [Option.some.injEq, forall_eq']
    by_cases hallowed : command.actionType ∈ policy.allowedOutboundActions
    case neg =>
      rw [if_pos hallowed]
      exact iff_of_true ⟨_, rfl, .inl ⟨rfl, rfl⟩⟩
        fun hgroup hgrant => absurd ((hgrants _).mpr ⟨hgroup, hgrant⟩) hallowed
    rw [if_neg (not_not.mpr hallowed)]
    obtain ⟨hgroup, hgrant⟩ := (hgrants _).mp hallowed
    split_ifs with hconfirm
    · refine iff_of_true ?_ fun _ _ hnone => absurd (hnone hconfirm.1) (hoptions ▸ hconfirm.2)
      obtain ⟨plan, hplan, hvalid⟩ : ∃ plan, confirmationPlan encoding policy authority = .ok plan ∧
          validateExecutionPlanV2 plan policy = [] := confirmationPlan_accepted hpolicy
      rw [hplan]
      exact ⟨_, rfl, .inr ⟨plan, rfl, hvalid⟩⟩
    · have hplain : command.actionType = .sendMaterialPack →
        canonicalMaterialOptions request = [] :=
        fun h => by_contra fun hne => hconfirm ⟨h, hoptions ▸ hne⟩
      have hiff : (∃ plan, actionPlan encoding policy authority command = .ok plan ∧
          validateExecutionPlanV2 plan policy = []) ↔ _ :=
        (actionPlan_ok_iff hpolicy hmem hallowed).trans
          (sendManifest_eligible_iff hmem hgroup hgrant)
      constructor
      · rintro ⟨result, hresult, haccepted⟩ _ _ _
        obtain ⟨plan, hplan, hresult⟩ := bind_eq_ok_iff.mp hresult
        cases hresult
        obtain ⟨hstatus, _⟩ | ⟨_, ⟨⟩, hvalid⟩ := haccepted
        · cases hstatus
        · exact hiff.mp ⟨plan, hplan, hvalid⟩
      · intro hcomplete
        obtain ⟨plan, hplan, hvalid⟩ := hiff.mpr (hcomplete hgroup hgrant hplain)
        rw [hplan]
        exact ⟨_, rfl, .inr ⟨plan, rfl, hvalid⟩⟩

/-- The matchers return no match or a plan within the policy exactly when the command of the
request has what its capability needs. -/
theorem deterministicPlanners_iff
    (hpolicy : compilePolicyManifestV2 request hashes policyAuthority ledgerSummary = .ok policy) :
    ((∃ result, matchDirectSendCommand text encoding request policy authority = .ok result ∧
        result.Accepted policy) ∧
      ∃ result, matchInputPolicy text encoding request policy authority = .ok result ∧
        result.Accepted policy) ↔ request.SendComplete text := by
  rw [and_iff_left (matchInputPolicy_accepted hpolicy)]
  exact matchDirectSendCommand_iff hpolicy

end Matchers

/-! ## Samples -/

namespace WeeklyCommand

/-- A command in a group that may have weekly reports sent, with some read grants. -/
def request (readCapabilities : List ReadCapability) : KernelReplyRequestV1 where
  message := "发周报。"
  scene := .group
  businessScope := .distribution ⟨"Example Bank", .bank, [⟨.weeklyReport, []⟩]⟩
  grants := ⟨readCapabilities, [.sendWeeklyReport], []⟩

def authority : BusinessScopeAuthorityV1 :=
  ⟨(request []).businessScope, "bsh1:0", "bsr:00000000000000000000000000000000"⟩

def hashes : PolicyHashes where
  businessScopeHashV1 _ := "bsh1:0"
  policyManifestIdV2 _ := "pm:0"

def policy (readCapabilities : List ReadCapability) : PolicyManifestV2 :=
  { policyDraft (request readCapabilities) authority with policyId := "pm:0" }

theorem policy_compiled (readCapabilities : List ReadCapability) :
    compilePolicyManifestV2 (request readCapabilities) hashes authority ⟨0, [], false⟩ =
      .ok (policy readCapabilities) := rfl

/-- On the message, the functions of Python change nothing. -/
def text : TextFunctions := ⟨id, id⟩

def encoding : PlanEncoding where
  planHash _ := "epv:0"
  planBytes _ := []

theorem command_eq : matchDirectArtifact (normalizeCompactMessage text "发周报。") = some
    ⟨.weeklyReport, .sendWeeklyReport, "direct send weekly report command"⟩ := by
  decide +kernel

theorem request_sendComplete : (request [.resolveWeeklyReport]).SendComplete text := by
  intro command hcommand _ _ _
  obtain rfl := Option.some.inj (command_eq.symm.trans hcommand)
  refine ⟨fun capability h => ?_, by decide⟩
  cases h
  exact List.mem_cons_self

end WeeklyCommand

open WeeklyCommand in
/-- With the read grant, the command is planned. -/
theorem deterministicPlanners_granted :
    (∃ result, matchDirectSendCommand text encoding (request [.resolveWeeklyReport])
        (policy [.resolveWeeklyReport]) authority = .ok result ∧
        result.Accepted (policy [.resolveWeeklyReport])) ∧
      ∃ result, matchInputPolicy text encoding (request [.resolveWeeklyReport])
        (policy [.resolveWeeklyReport]) authority = .ok result ∧
        result.Accepted (policy [.resolveWeeklyReport]) :=
  (deterministicPlanners_iff (policy_compiled _)).mpr request_sendComplete

open WeeklyCommand in
/-- Without the read grant, the command raises, although its action is granted. -/
theorem matchDirectSendCommand_raises :
    compilePolicyManifestV2 (request []) hashes authority ⟨0, [], false⟩ = .ok (policy []) ∧
      matchDirectSendCommand text encoding (request []) (policy []) authority =
        .error (.executionPlanCompilationError "plan_spec_capability_not_policy_eligible") :=
  ⟨policy_compiled [], by decide +kernel⟩

end MarketSupport
