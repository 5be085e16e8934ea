import MarketSupport.Recall.Flow

/-!
# What recall returns

Recall returns a transition, or raises, for every answer of its collectors.

## Main results

* `mergeRecallCandidates_eq_iff` — the merged candidates.
* `collectPreplannerRecall_sound` — what holds of every transition, and which collectors were
  asked for it.
* `collectPreplannerRecall_returns_iff` — when recall returns.
-/

namespace MarketSupport.Recall

open Library

/-- The merged candidates are the five first of the strongest candidates of all keys, the
strongest first. -/
theorem mergeRecallCandidates_eq_iff (static document merged : List RecallCandidateViewV1) :
    mergeRecallCandidates static document = merged ↔ Merges (static ++ document) merged := by
  constructor
  · rintro rfl
    exact merges_mergeRecallCandidates static document
  · exact (merges_mergeRecallCandidates static document).unique

variable {encoding : RecallEncoding} {digest : Sha256Hex} {planEncoding : PlanEncoding}
  {policy : PolicyManifestV2} {authority : BusinessScopeAuthorityV1} {mode : RecallModeV1}

/-! ## Constructors -/

@[simp] theorem create_eq_ok_iff {sourceClass : RecallSourceClassV1} {status : RecallBranchStatusV1}
    {accepted rejected : ℕ} {reason : RecallBranchReasonV1} {outcome : RecallBranchOutcomeV1} :
    RecallBranchOutcomeV1.create sourceClass status accepted rejected reason = .ok outcome ↔
      (accepted ≤ 5 ∧ rejected ≤ 5) ∧
        outcome = ⟨sourceClass, status, accepted, rejected, reason⟩ := by
  unfold RecallBranchOutcomeV1.create
  split_ifs with h
  · simp [h, eq_comm]
  · simp [h]

@[simp] theorem makeRecallOutcome_eq_ok_iff {decision : RecallDecisionV1}
    {candidates : List RecallCandidateViewV1}
    {branches : RecallBranchOutcomeV1 × RecallBranchOutcomeV1}
    {summary : Option RecallShortcutSummaryV1} {outcome : RecallOutcomeV1} :
    makeRecallOutcome encoding mode decision candidates branches summary = .ok outcome ↔
      (RecallOutcomePayload.mk mode decision candidates branches summary).Checked encoding ∧
        outcome = ⟨⟨mode, decision, candidates, branches, summary⟩,
          encoding.recallOutcomeHash ⟨mode, decision, candidates, branches, summary⟩⟩ := by
  dsimp only [makeRecallOutcome]
  split_ifs with h
  · simp [h, eq_comm]
  · simp [h]

theorem create_none {outcome : RecallOutcomeV1} (h : outcome.decision ≠ .shortcutMatch) :
    RecallTurnStateV1.create outcome none = .ok ⟨outcome, none⟩ := if_neg h

theorem create_some {outcome : RecallOutcomeV1} {payload : ApprovedStaticShortcutPayloadV1}
    (h : outcome.decision = .shortcutMatch)
    (hsummary : outcome.shortcutSummary = some payload.summary) :
    RecallTurnStateV1.create outcome (some payload) = .ok ⟨outcome, some payload⟩ := by
  simp [RecallTurnStateV1.create, h, hsummary]

/-- The counts that a branch outcome takes. -/
def RecallBranchCollectionV1.Counted (branch : RecallBranchCollectionV1) : Prop :=
  branch.unavailable = true ∨ branch.candidates.length ≤ 5 ∧ branch.rejectedCount ≤ 5

/-- An outcome names its branch, and lies about none of the counts. -/
theorem outcome_eq_ok {branch : RecallBranchCollectionV1} {outcome : RecallBranchOutcomeV1}
    (h : branch.outcome = .ok outcome) : outcome.sourceClass = branch.sourceClass ∧
      branch.Counted := by
  unfold RecallBranchCollectionV1.outcome at h
  split at h
  · next hunavailable =>
    obtain ⟨-, rfl⟩ := create_eq_ok_iff.mp h
    exact ⟨rfl, .inl hunavailable⟩
  · obtain ⟨hcounts, rfl⟩ := create_eq_ok_iff.mp h
    exact ⟨rfl, .inr hcounts⟩

theorem exists_outcome_iff {branch : RecallBranchCollectionV1} :
    (∃ outcome, branch.outcome = .ok outcome) ↔ branch.Counted := by
  constructor
  · rintro ⟨outcome, h⟩
    exact (outcome_eq_ok h).2
  · intro h
    unfold RecallBranchCollectionV1.outcome
    split
    · exact ⟨_, create_eq_ok_iff.mpr ⟨by omega, rfl⟩⟩
    · next hunavailable => exact ⟨_, create_eq_ok_iff.mpr ⟨h.resolve_left hunavailable, rfl⟩⟩

/-! ## Sound transitions -/

/-- The shortcut of a transition: its plan answers with its payload, and both are the outcome's. -/
structure SoundShortcut (planEncoding : PlanEncoding) (policy : PolicyManifestV2)
    (transition : PreplannerRecallTransitionV1) (plan : ExecutionPlanV2)
    (payload : ApprovedStaticShortcutPayloadV1) : Prop where
  shortcutPayload : transition.turnState.shortcutPayload = some payload
  summary : transition.turnState.outcome.shortcutSummary = some payload.summary
  confidence : hitThreshold ≤ payload.confidence
  candidate : ∃ candidate, transition.turnState.outcome.candidates = [candidate] ∧
    candidate.candidateId = payload.candidateId ∧ candidate.canonicalId = payload.canonicalId ∧
    candidate.confidence = payload.confidence ∧ candidate.reasonCode = .approvedRecallHit
  accepted : validateExecutionPlanV2 plan policy = []
  checked : plan.Checked planEncoding
  origin : plan.origin = .approvedStaticShortcut
  unit : ∃ unit, plan.units = [unit] ∧ unit.manifestRef = payload.selectedManifestRef ∧
    unit.answerabilityPolicy = .answer ∧ unit.evidenceQuery = some payload.question

/-- What every transition of recall satisfies. -/
structure PreplannerRecallTransitionV1.Sound (encoding : RecallEncoding)
    (planEncoding : PlanEncoding) (policy : PolicyManifestV2) (mode : RecallModeV1)
    (transition : PreplannerRecallTransitionV1) : Prop where
  outcomeMode : transition.turnState.outcome.mode = mode
  traceHash : transition.turnState.outcome.traceHash =
    encoding.recallOutcomeHash transition.turnState.outcome.toRecallOutcomePayload
  checked : transition.turnState.outcome.toRecallOutcomePayload.Checked encoding
  candidates : ∀ candidate ∈ transition.turnState.outcome.candidates,
    candidate.Checked encoding
  distinct : (transition.turnState.outcome.candidates.map (·.key)).Nodup
  ranked : transition.turnState.outcome.candidates.Pairwise fun a b => a.rank < b.rank
  disabled : transition.turnState.outcome.decision = .disabled ↔ mode = .off
  advisory : transition.turnState.outcome.decision = .advisoryCandidates ↔
    transition.turnState.outcome.candidates ≠ [] ∧ transition.shortcutPlan = none
  shortcutMatch : transition.turnState.outcome.decision = .shortcutMatch ↔
    transition.shortcutPlan.isSome
  shortcut : ∀ plan, transition.shortcutPlan = some plan →
    mode = .shortcut ∧ ∃ payload, SoundShortcut planEncoding policy transition plan payload
  payload : transition.shortcutPlan = none → transition.turnState.shortcutPayload = none ∧
    transition.turnState.outcome.shortcutSummary = none

/-- A branch that a collector's answer became. -/
structure RecallBranchCollectionV1.Collected (branch : RecallBranchCollectionV1)
    (sourceClass : RecallSourceClassV1) : Prop where
  sourceClass : branch.sourceClass = sourceClass
  candidates : ∀ candidate ∈ branch.candidates, candidate.WithinBounds

theorem collected_of_collectStatic
    {answer : Except RecallException ApprovedStaticRecallCollectionV1}
    {static : RecallBranchCollectionV1} {payload : Option ApprovedStaticShortcutPayloadV1}
    (h : collectStatic encoding answer = .ok (static, payload)) :
    static.Collected .approvedStatic := by
  cases answer with
  | ok collection =>
    cases h
    exact ⟨approvedStaticBranch_sourceClass _, fun _ => withinBounds_of_mem_approvedStaticBranch⟩
  | error e =>
    simp only [collectStatic] at h
    split_ifs at h
    cases h
    exact ⟨rfl, nofun⟩

theorem collected_of_collectDocument {answer : Except RecallException KnowledgeQaMatch}
    {document : RecallBranchCollectionV1}
    (h : collectDocument encoding digest answer = .ok document) :
    document.Collected .documentMcp := by
  cases answer with
  | ok recallMatch =>
    cases h
    exact ⟨documentRecallBranch_sourceClass _, fun _ => withinBounds_of_mem_documentRecallBranch⟩
  | error e =>
    simp only [collectDocument] at h
    split_ifs at h
    cases h
    exact ⟨rfl, nofun⟩

theorem mem_of_mem_mergeRecallCandidates {static document : List RecallCandidateViewV1}
    {candidate : RecallCandidateViewV1} (h : candidate ∈ mergeRecallCandidates static document) :
    candidate ∈ static ∨ candidate ∈ document := by
  have hmem := (merges_mergeRecallCandidates static document).mem_iff candidate
  exact List.mem_append.mp (mem_of_strongest (hmem.mp h).1)

theorem nodup_key_mergeRecallCandidates (static document : List RecallCandidateViewV1) :
    ((mergeRecallCandidates static document).map (·.key)).Nodup := by
  have hmerges := merges_mergeRecallCandidates static document
  have hmem (a : RecallCandidateViewV1) (ha : a ∈ mergeRecallCandidates static document) :
      Strongest (static ++ document) a := ((hmerges.mem_iff a).mp ha).1
  rw [List.Nodup, List.pairwise_map]
  refine hmerges.ranked.imp_of_mem fun {a b} ha hb hrank hkey => ?_
  obtain rfl := (hmem a ha).unique (hmem b hb) hkey
  exact lt_irrefl _ hrank

/-- With candidates or without, the transition that advises is sound. -/
theorem advisoryTransition_sound (planEncoding : PlanEncoding) (policy : PolicyManifestV2)
    {static document : RecallBranchCollectionV1}
    (hmode : mode ≠ .off) (hstatic : static.Collected .approvedStatic)
    (hdocument : document.Collected .documentMcp) {transition : PreplannerRecallTransitionV1}
    (h : advisoryTransition encoding mode static document = .ok transition) :
    transition.Sound encoding planEncoding policy mode ∧ transition.shortcutPlan = none := by
  obtain ⟨approved, happroved, h⟩ := bind_eq_ok_iff.mp h
  obtain ⟨documents, hdocuments, h⟩ := bind_eq_ok_iff.mp h
  obtain ⟨outcome, houtcome, h⟩ := bind_eq_ok_iff.mp h
  obtain ⟨hchecked, rfl⟩ := makeRecallOutcome_eq_ok_iff.mp houtcome
  have hmerges := merges_mergeRecallCandidates static.candidates document.candidates
  set candidates := mergeRecallCandidates static.candidates document.candidates
  have hdecision : advisoryDecision candidates (approved, documents) ≠ .shortcutMatch ∧
      advisoryDecision candidates (approved, documents) ≠ .disabled ∧
      (advisoryDecision candidates (approved, documents) = .advisoryCandidates ↔
        candidates ≠ []) := by
    unfold advisoryDecision
    split_ifs with hnil <;> simp_all
  obtain ⟨hshortcut, hdisabled, hadvisory⟩ := hdecision
  obtain ⟨turnState, hturnState, h⟩ := bind_eq_ok_iff.mp h
  rw [create_none hshortcut] at hturnState
  cases hturnState
  cases h
  refine ⟨?_, rfl⟩
  refine ⟨rfl, rfl, hchecked, ?_, nodup_key_mergeRecallCandidates _ _, hmerges.ranked,
    iff_of_false hdisabled hmode, by simpa using hadvisory, by simpa using hshortcut, nofun,
    fun _ => ⟨rfl, rfl⟩⟩
  intro candidate hcandidate
  refine (RecallCandidateViewV1.checked_iff encoding).mpr ?_
  obtain hmem | hmem := mem_of_mem_mergeRecallCandidates hcandidate
  · exact hstatic.candidates candidate hmem
  · exact hdocument.candidates candidate hmem

theorem shortcutPlan?_eq_some {payload : ApprovedStaticShortcutPayloadV1} {plan : ExecutionPlanV2}
    (h : shortcutPlan? planEncoding policy authority payload = some plan) :
    validateExecutionPlanV2 plan policy = [] ∧ plan.Checked planEncoding ∧
      plan.origin = .approvedStaticShortcut ∧
      ∃ unit, plan.units = [unit] ∧ unit.manifestRef = payload.selectedManifestRef ∧
        unit.answerabilityPolicy = .answer ∧ unit.evidenceQuery = some payload.question := by
  unfold shortcutPlan? at h
  split at h
  · exact absurd h nofun
  · next compiled hcompiled =>
    split_ifs at h with hvalid
    obtain rfl := Option.some.inj h
    obtain ⟨-, units, hunits, rfl, hchecked⟩ := finalizeExecutionPlanV2_eq_ok.mp hcompiled
    refine ⟨hvalid, hchecked, rfl, ?_⟩
    have hunits := mapM_eq_ok_iff.mp hunits
    obtain ⟨unit, rest, hunit, hrest, rfl⟩ := List.forall₂_cons_left_iff.mp hunits
    obtain rfl := List.forall₂_nil_left_iff.mp hrest
    obtain ⟨ref, scope, actionIntents, href, -, -, -, rfl, -⟩ :=
      finalizeExecutionUnitV2_eq_ok.mp hunit
    refine ⟨_, rfl, ?_, rfl, rfl⟩
    have hid : ref.manifestId = payload.selectedManifestRef.manifestId := by
      simpa using List.find?_some href
    have hversion := (ManifestVersionV2.eq ref.manifestVersion
      payload.selectedManifestRef.manifestVersion)
    cases ref
    cases hselected : payload.selectedManifestRef
    simp_all [executionUnit]

theorem shortcutEligible_iff {static : RecallBranchCollectionV1}
    {payload : ApprovedStaticShortcutPayloadV1} : shortcutEligible policy static payload = true ↔
      hitThreshold ≤ payload.confidence ∧
      (matchingCandidates static.candidates payload).length = 1 ∧ static.rejectedCount = 0 ∧
      policy.internalCompanyKnowledgeEnabled = true ∧
      payload.selectedManifestRef ∈ policy.eligibleCapabilities ∧
      manifestTakesApprovedStatic payload.selectedManifestRef = true := by
  simp [shortcutEligible, and_assoc]

/-- A shortcut comes from an eligible payload and a plan that the policy accepts. -/
theorem shortcutTransition_sound {static : RecallBranchCollectionV1}
    (hstatic : static.Collected .approvedStatic) {payload : ApprovedStaticShortcutPayloadV1}
    {transition : PreplannerRecallTransitionV1}
    (h : shortcutTransition encoding planEncoding policy authority static payload =
      .ok (some transition)) :
    transition.Sound encoding planEncoding policy .shortcut ∧
      transition.shortcutPlan.isSome := by
  unfold shortcutTransition at h
  split_ifs at h with heligible
  · obtain ⟨hconfidence, hlength, -⟩ := shortcutEligible_iff.mp heligible
    split at h
    · exact absurd h nofun
    · next plan hplan =>
      obtain ⟨summary, hsummary, h⟩ := bind_eq_ok_iff.mp h
      obtain ⟨approved, -, h⟩ := bind_eq_ok_iff.mp h
      obtain ⟨documents, -, h⟩ := bind_eq_ok_iff.mp h
      obtain ⟨outcome, houtcome, h⟩ := bind_eq_ok_iff.mp h
      obtain ⟨hchecked, rfl⟩ := makeRecallOutcome_eq_ok_iff.mp houtcome
      have hcreated : summary = payload.summary := by
        unfold RecallShortcutSummaryV1.create at hsummary
        split_ifs at hsummary
        exact (Except.ok.inj hsummary).symm
      subst hcreated
      obtain ⟨turnState, hturnState, h⟩ := bind_eq_ok_iff.mp h
      rw [create_some rfl rfl] at hturnState
      cases hturnState
      cases h
      obtain ⟨candidate, hcandidate⟩ := List.length_eq_one_iff.mp hlength
      have hmem : candidate ∈ matchingCandidates static.candidates payload := by simp [hcandidate]
      obtain ⟨hstaticMem, hmatch⟩ := List.mem_filter.mp hmem
      obtain ⟨hvalid, hplanChecked, horigin, hunit⟩ := shortcutPlan?_eq_some hplan
      refine ⟨?_, rfl⟩
      refine ⟨rfl, rfl, hchecked, ?_, ?_, ?_, iff_of_false nofun nofun,
        iff_of_false nofun fun h => absurd h.2 nofun, iff_of_true rfl rfl, ?_, nofun⟩
      · rw [hcandidate]
        simpa using (RecallCandidateViewV1.checked_iff encoding).mpr
          (hstatic.candidates candidate hstaticMem)
      · simp [hcandidate]
      · simp [hcandidate]
      · rintro _ ⟨⟩
        exact ⟨rfl, payload, rfl, rfl, hconfidence, ⟨candidate, hcandidate, by simpa using hmatch⟩,
          hvalid, hplanChecked, horigin, hunit⟩
  · exact absurd h nofun

theorem disabledRecallTransition_sound {transition : PreplannerRecallTransitionV1}
    (h : disabledRecallTransition encoding = .ok transition) :
    transition.Sound encoding planEncoding policy .off ∧ transition.shortcutPlan = none := by
  obtain ⟨approved, -, h⟩ := bind_eq_ok_iff.mp h
  obtain ⟨documents, -, h⟩ := bind_eq_ok_iff.mp h
  obtain ⟨outcome, houtcome, h⟩ := bind_eq_ok_iff.mp h
  obtain ⟨hchecked, rfl⟩ := makeRecallOutcome_eq_ok_iff.mp houtcome
  obtain ⟨turnState, hturnState, h⟩ := bind_eq_ok_iff.mp h
  rw [create_none (by simp)] at hturnState
  cases hturnState
  cases h
  exact ⟨⟨rfl, rfl, hchecked, nofun, List.nodup_nil, List.Pairwise.nil, iff_of_true rfl rfl,
    iff_of_false nofun fun h => h.1 rfl, iff_of_false nofun nofun, nofun, fun _ => ⟨rfl, rfl⟩⟩, rfl⟩

/-! ## When recall returns -/

theorem exists_disabledRecallTransition (encoding : RecallEncoding) :
    ∃ transition, disabledRecallTransition encoding = .ok transition := by
  have hchecked : (RecallOutcomePayload.mk .off .disabled []
      (⟨.approvedStatic, .notCalled, 0, 0, .disabled⟩, ⟨.documentMcp, .notCalled, 0, 0, .disabled⟩)
      none).Checked encoding := ⟨by simp, rfl, by simp [candidateListBytes]⟩
  exact ⟨_, bind_eq_ok_iff.mpr ⟨_, create_eq_ok_iff.mpr ⟨by omega, rfl⟩, bind_eq_ok_iff.mpr
    ⟨_, create_eq_ok_iff.mpr ⟨by omega, rfl⟩, bind_eq_ok_iff.mpr
      ⟨_, makeRecallOutcome_eq_ok_iff.mpr ⟨hchecked, rfl⟩, bind_eq_ok_iff.mpr
        ⟨_, create_none (by simp), rfl⟩⟩⟩⟩⟩

theorem length_mergeRecallCandidates_le (static document : List RecallCandidateViewV1) :
    (mergeRecallCandidates static document).length ≤ 5 := by
  rw [mergeRecallCandidates, length_firstByRank]
  exact Nat.min_le_left _ _

/-- The branches and the size of the list decide whether advice can be given. -/
theorem exists_advisoryTransition_iff (mode : RecallModeV1)
    {static document : RecallBranchCollectionV1}
    (hstatic : static.Collected .approvedStatic) (hdocument : document.Collected .documentMcp) :
    (∃ transition, advisoryTransition encoding mode static document = .ok transition) ↔
      static.Counted ∧ document.Counted ∧ candidateListBytes encoding
        (mergeRecallCandidates static.candidates document.candidates) ≤ 5120 := by
  constructor
  · rintro ⟨transition, h⟩
    obtain ⟨approved, happroved, h⟩ := bind_eq_ok_iff.mp h
    obtain ⟨documents, hdocuments, h⟩ := bind_eq_ok_iff.mp h
    obtain ⟨outcome, houtcome, -⟩ := bind_eq_ok_iff.mp h
    exact ⟨(outcome_eq_ok happroved).2, (outcome_eq_ok hdocuments).2,
      (makeRecallOutcome_eq_ok_iff.mp houtcome).1.bytes⟩
  · rintro ⟨hcounted, hcounted', hbytes⟩
    obtain ⟨approved, happroved⟩ := exists_outcome_iff.mpr hcounted
    obtain ⟨documents, hdocuments⟩ := exists_outcome_iff.mpr hcounted'
    set candidates := mergeRecallCandidates static.candidates document.candidates
    have hsources : (approved.sourceClass, documents.sourceClass) =
        (RecallSourceClassV1.approvedStatic, RecallSourceClassV1.documentMcp) := by
      rw [(outcome_eq_ok happroved).1, (outcome_eq_ok hdocuments).1, hstatic.sourceClass,
        hdocument.sourceClass]
    have hchecked : (RecallOutcomePayload.mk mode (advisoryDecision candidates
        (approved, documents)) candidates (approved, documents) none).Checked encoding :=
      ⟨length_mergeRecallCandidates_le _ _, hsources, hbytes⟩
    have hdecision : advisoryDecision candidates (approved, documents) ≠ .shortcutMatch := by
      unfold advisoryDecision
      split_ifs <;> simp
    exact ⟨_, bind_eq_ok_iff.mpr ⟨approved, happroved, bind_eq_ok_iff.mpr ⟨documents, hdocuments,
      bind_eq_ok_iff.mpr ⟨_, makeRecallOutcome_eq_ok_iff.mpr ⟨hchecked, rfl⟩,
        bind_eq_ok_iff.mpr ⟨_, create_none hdecision, rfl⟩⟩⟩⟩⟩

/-- Recall takes the shortcut of the payload. -/
def ShortcutTaken (planEncoding : PlanEncoding) (policy : PolicyManifestV2)
    (authority : BusinessScopeAuthorityV1) (mode : RecallModeV1)
    (static : RecallBranchCollectionV1) (payload : Option ApprovedStaticShortcutPayloadV1) : Prop :=
  mode = .shortcut ∧ ∃ shortcut, payload = some shortcut ∧
    shortcutEligible policy static shortcut = true ∧
    (shortcutPlan? planEncoding policy authority shortcut).isSome

/-- A checked payload never makes the shortcut raise. -/
theorem exists_shortcutTransition (planEncoding : PlanEncoding) (policy : PolicyManifestV2)
    (authority : BusinessScopeAuthorityV1) {static : RecallBranchCollectionV1}
    (hstatic : static.Collected .approvedStatic) {payload : ApprovedStaticShortcutPayloadV1}
    (hpayload : payload.Checked encoding) : ∃ shortcut,
      shortcutTransition encoding planEncoding policy authority static payload = .ok shortcut ∧
      (shortcut.isSome ↔ shortcutEligible policy static payload = true ∧
        (shortcutPlan? planEncoding policy authority payload).isSome) := by
  unfold shortcutTransition
  by_cases heligible : shortcutEligible policy static payload = true
  · rw [if_pos heligible]
    cases hplan : shortcutPlan? planEncoding policy authority payload with
    | none => exact ⟨none, rfl, by simp⟩
    | some plan =>
      obtain ⟨-, hlength, -⟩ := shortcutEligible_iff.mp heligible
      obtain ⟨candidate, hcandidate⟩ := List.length_eq_one_iff.mp hlength
      have hmem : candidate ∈ matchingCandidates static.candidates payload := by simp [hcandidate]
      have hbounds := hstatic.candidates candidate (List.mem_filter.mp hmem).1
      have hsummary : payload.summary.create = .ok payload.summary :=
        if_pos ⟨hpayload.candidateId, hpayload.canonicalId, hpayload.sourceId, hpayload.confidence⟩
      have hbytes := RecallCandidateViewV1.jsonBytes_le encoding hbounds
      have hquestion := jsonStringBytes_le candidate.question
      have hquestionLength := hbounds.question.2
      have hchecked : (RecallOutcomePayload.mk .shortcut .shortcutMatch
          (matchingCandidates static.candidates payload)
          (⟨.approvedStatic, .ok, 1, 0, .ok⟩, ⟨.documentMcp, .notCalled, 0, 0, .notNeeded⟩)
          (some payload.summary)).Checked encoding := by
        refine ⟨by simp [hcandidate], rfl, ?_⟩
        simp only [candidateListBytes, hcandidate, List.map_cons, List.map_nil, List.sum_cons,
          List.sum_nil, List.length_cons, List.length_nil]
        omega
      exact ⟨_, bind_eq_ok_iff.mpr ⟨_, hsummary, bind_eq_ok_iff.mpr
        ⟨_, create_eq_ok_iff.mpr ⟨by omega, rfl⟩, bind_eq_ok_iff.mpr
          ⟨_, create_eq_ok_iff.mpr ⟨by omega, rfl⟩, bind_eq_ok_iff.mpr
            ⟨_, makeRecallOutcome_eq_ok_iff.mpr ⟨hchecked, rfl⟩, bind_eq_ok_iff.mpr
              ⟨_, create_some rfl rfl, rfl⟩⟩⟩⟩⟩, by simp [heligible]⟩
  · rw [if_neg heligible]
    exact ⟨none, rfl, by simp [heligible]⟩

theorem exists_attemptShortcut (planEncoding : PlanEncoding) (policy : PolicyManifestV2)
    (authority : BusinessScopeAuthorityV1) (mode : RecallModeV1) {static : RecallBranchCollectionV1}
    (hstatic : static.Collected .approvedStatic) {payload : Option ApprovedStaticShortcutPayloadV1}
    (hpayload : ∀ shortcut, payload = some shortcut → shortcut.Checked encoding) :
    ∃ shortcut, attemptShortcut encoding planEncoding policy authority mode static payload =
        .ok shortcut ∧
      (shortcut.isSome ↔ ShortcutTaken planEncoding policy authority mode static payload) := by
  unfold attemptShortcut ShortcutTaken
  cases payload with
  | none => exact ⟨none, rfl, by simp⟩
  | some payload =>
    by_cases hmode : mode = .shortcut
    · obtain ⟨shortcut, h, hiff⟩ := exists_shortcutTransition planEncoding policy
        authority hstatic (hpayload payload rfl)
      exact ⟨shortcut, by simpa [hmode] using h, by simpa [hmode] using hiff⟩
    · exact ⟨none, by simp [hmode], by simp [hmode]⟩

/-- Only a collection has a payload. -/
theorem payload_of_collectStatic
    {answer : Except RecallException ApprovedStaticRecallCollectionV1}
    {static : RecallBranchCollectionV1} {payload : ApprovedStaticShortcutPayloadV1}
    (h : collectStatic encoding answer = .ok (static, some payload)) :
    ∃ collection, answer = .ok collection ∧ collection.shortcutPayload = some payload := by
  cases answer with
  | ok collection => exact ⟨collection, rfl, (Prod.mk.inj (Except.ok.inj h)).2⟩
  | error e =>
    simp only [collectStatic] at h
    split_ifs at h
    exact absurd (Prod.mk.inj (Except.ok.inj h)).2 nofun

/-- What recall needs of its second half to return. -/
def Advisable (encoding : RecallEncoding) (digest : Sha256Hex)
    (static : RecallBranchCollectionV1) (answer : Except RecallException KnowledgeQaMatch) : Prop :=
  ∃ document, collectDocument encoding digest answer = .ok document ∧
    static.Counted ∧ document.Counted ∧ candidateListBytes encoding
      (mergeRecallCandidates static.candidates document.candidates) ≤ 5120

/-- What recall needs of the answers of its collectors to return. -/
def Returnable (encoding : RecallEncoding) (digest : Sha256Hex) (planEncoding : PlanEncoding)
    (policy : PolicyManifestV2) (authority : BusinessScopeAuthorityV1) (mode : RecallModeV1)
    (answer : (c : RecallCall) → c.Answer) : Prop :=
  ∃ static payload, collectStatic encoding (answer .approvedStatic) = .ok (static, payload) ∧
    (ShortcutTaken planEncoding policy authority mode static payload ∨
      Advisable encoding digest static (answer .document))

/-- After the approved knowledge has answered, a shortcut or the documents decide. -/
theorem returns_iff_of_collectStatic {answer : (c : RecallCall) → c.Answer} (hmode : mode ≠ .off)
    (payloads : ∀ collection payload, answer .approvedStatic = .ok collection →
      collection.shortcutPayload = some payload → payload.Checked encoding)
    {static : RecallBranchCollectionV1} {payload : Option ApprovedStaticShortcutPayloadV1}
    (hstatic : collectStatic encoding (answer .approvedStatic) = .ok (static, payload)) :
    (∃ transition, ((collectPreplannerRecall encoding digest planEncoding policy authority
      mode).run answer).2 = .ok transition) ↔
        ShortcutTaken planEncoding policy authority mode static payload ∨
          Advisable encoding digest static (answer .document) := by
  have hcollected := collected_of_collectStatic hstatic
  have hpayload (shortcut : ApprovedStaticShortcutPayloadV1) (h : payload = some shortcut) :
      shortcut.Checked encoding := by
    obtain ⟨collection, hanswer, hshortcut⟩ := payload_of_collectStatic (h ▸ hstatic)
    exact payloads collection shortcut hanswer hshortcut
  obtain ⟨shortcut, hshortcut, htaken⟩ := exists_attemptShortcut planEncoding policy authority mode
    hcollected hpayload
  rw [collectPreplannerRecall, if_neg hmode, Program.run_bind]
  change (∃ transition, (Except.ok (answer .approvedStatic) >>= _) = .ok transition) ↔ _
  simp only [ok_bind, Program.run_bind]
  change (∃ transition, (collectStatic encoding (answer .approvedStatic) >>= _) =
    .ok transition) ↔ _
  rw [hstatic, ok_bind]
  change (∃ transition, (attemptShortcut encoding planEncoding policy authority mode static
    payload >>= _) = .ok transition) ↔ _
  rw [hshortcut, ok_bind]
  cases shortcut with
  | some transition => exact iff_of_true ⟨transition, rfl⟩ (.inl (htaken.mp rfl))
  | none =>
    rw [or_iff_right fun h => absurd (htaken.mpr h) nofun]
    simp only [Program.run_bind]
    change (∃ transition, (collectDocument encoding digest (answer .document) >>= fun document =>
      advisoryTransition encoding mode static document) = .ok transition) ↔ _
    constructor
    · rintro ⟨transition, h⟩
      obtain ⟨document, hdocument, h⟩ := bind_eq_ok_iff.mp h
      have hcounts := (exists_advisoryTransition_iff mode hcollected
        (collected_of_collectDocument hdocument)).mp ⟨transition, h⟩
      exact ⟨document, hdocument, hcounts⟩
    · rintro ⟨document, hdocument, hcounts⟩
      obtain ⟨transition, h⟩ := (exists_advisoryTransition_iff mode hcollected
        (collected_of_collectDocument hdocument)).mpr hcounts
      exact ⟨transition, bind_eq_ok_iff.mpr ⟨document, hdocument, h⟩⟩

/-! ### Modest branches -/

/-- A branch with few candidates, all of them short. -/
structure RecallBranchCollectionV1.Modest (branch : RecallBranchCollectionV1) : Prop where
  counted : branch.Counted
  short : ∀ candidate ∈ branch.candidates, jsonStringBytes candidate.question ≤ 627

theorem modest_of_collectStatic
    {answer : Except RecallException ApprovedStaticRecallCollectionV1}
    (failures : ∀ e, answer = .error e → e.FailsOpen = true)
    (modest : ∀ collection, answer = .ok collection →
      collection.recallMatch.candidates.length ≤ 5 ∧
      ∀ candidate ∈ collection.recallMatch.candidates, jsonStringBytes candidate.question ≤ 627) :
    ∃ static payload, collectStatic encoding answer = .ok (static, payload) ∧ static.Modest := by
  cases answer with
  | error e =>
    refine ⟨{ sourceClass := .approvedStatic, unavailable := true }, none, ?_, .inl rfl,
      fun _ hmem => absurd hmem List.not_mem_nil⟩
    exact if_pos (failures e rfl)
  | ok collection =>
    obtain ⟨hlength, hshort⟩ := modest collection rfl
    refine ⟨approvedStaticBranch encoding collection.recallMatch, _, rfl, ?_⟩
    by_cases hstatus : collection.recallMatch.status = .unavailable
    · rw [approvedStaticBranch, if_pos hstatus]
      exact ⟨.inl rfl, fun _ hmem => absurd hmem List.not_mem_nil⟩
    · have hcount := approvedStaticBranch_count encoding hstatus
      refine ⟨.inr (by omega), fun candidate hmem => ?_⟩
      rw [approvedStaticBranch_of_available hstatus] at hmem
      obtain ⟨question, hquestion, hview⟩ := List.mem_filterMap.mp hmem
      unfold approvedStaticView at hview
      dsimp only at hview
      split at hview
      · cases hview
      · rw [(checked_of_create? hview).1]
        exact hshort question hquestion

theorem modest_of_collectDocument (encoding : RecallEncoding) (digest : Sha256Hex)
    {answer : Except RecallException KnowledgeQaMatch}
    (failures : ∀ e, answer = .error e → e.FailsOpen = true)
    (modest : ∀ recallMatch, answer = .ok recallMatch → recallMatch.candidates.length ≤ 5 ∧
      ∀ candidate ∈ recallMatch.candidates, jsonStringBytes candidate.question ≤ 627) :
    ∃ document, collectDocument encoding digest answer = .ok document ∧ document.Modest := by
  cases answer with
  | error e =>
    refine ⟨{ sourceClass := .documentMcp, unavailable := true }, ?_, .inl rfl,
      fun _ hmem => absurd hmem List.not_mem_nil⟩
    exact if_pos (failures e rfl)
  | ok recallMatch =>
    obtain ⟨hlength, hshort⟩ := modest recallMatch rfl
    refine ⟨documentRecallBranch encoding digest recallMatch, rfl, ?_⟩
    by_cases hstatus : recallMatch.status = .unavailable
    · rw [documentRecallBranch, if_pos hstatus]
      exact ⟨.inl rfl, fun _ hmem => absurd hmem List.not_mem_nil⟩
    · rw [documentRecallBranch_of_available hstatus]
      refine ⟨.inr (by simpa using hlength), fun candidate hmem => ?_⟩
      obtain ⟨question, hquestion, rfl⟩ := List.mem_map.mp hmem
      exact hshort question hquestion

/-- Five short candidates fit into an outcome. -/
theorem candidateListBytes_le {candidates : List RecallCandidateViewV1}
    (hlength : candidates.length ≤ 5) (hbounds : ∀ candidate ∈ candidates, candidate.WithinBounds)
    (hshort : ∀ candidate ∈ candidates, jsonStringBytes candidate.question ≤ 627) :
    candidateListBytes encoding candidates ≤ 5120 := by
  have hsum : (candidates.map (·.jsonBytes encoding)).sum ≤
      (candidates.map (·.jsonBytes encoding)).length • 1022 := by
    refine List.sum_le_card_nsmul _ _ fun n hn => ?_
    obtain ⟨candidate, hmem, rfl⟩ := List.mem_map.mp hn
    have hbytes := RecallCandidateViewV1.jsonBytes_le encoding (hbounds candidate hmem)
    have hquestion := hshort candidate hmem
    omega
  rw [List.length_map, smul_eq_mul] at hsum
  unfold candidateListBytes
  omega

theorem advisable_of_modest {static document : RecallBranchCollectionV1}
    (hstatic : static.Collected .approvedStatic) (modest : static.Modest)
    {answer : Except RecallException KnowledgeQaMatch}
    (hdocument : collectDocument encoding digest answer = .ok document)
    (modest' : document.Modest) : Advisable encoding digest static answer := by
  refine ⟨document, hdocument, modest.counted, modest'.counted, ?_⟩
  refine candidateListBytes_le (length_mergeRecallCandidates_le _ _) ?_ ?_
  · intro candidate hmem
    obtain h | h := mem_of_mem_mergeRecallCandidates hmem
    · exact hstatic.candidates candidate h
    · exact (collected_of_collectDocument hdocument).candidates candidate h
  · intro candidate hmem
    obtain h | h := mem_of_mem_mergeRecallCandidates hmem
    · exact modest.short candidate h
    · exact modest'.short candidate h

/-! ### A turn with one document question -/

namespace OneDocumentQuestion

def questionDigest : Sha256Hex where
  hexdigest _ := String.ofList (List.replicate 64 '0')
  length _ := by simp
  digits _ := by decide

def recallEncoding : RecallEncoding where
  reprBytes _ := 3
  jsonFloatBytes _ := 3
  reprBytes_le _ := by omega
  jsonFloatBytes_le _ := by omega
  recallReplyTextHash _ := default
  recallEvidenceTextHash _ := default
  recallOutcomeHash _ := default

def plainEncoding : PlanEncoding := ⟨fun _ => "", fun _ => []⟩

/-- A policy with nothing in it. -/
def emptyPolicy : PolicyManifestV2 where
  policyId := "pm:0"
  scene := .group
  allowedReplyModes := []
  eligibleCapabilities := []
  allowedReadCapabilities := []
  allowedOutboundActions := []
  allowedMentionTypes := []
  allowedAdapterResolves := []
  internalCompanyKnowledgeEnabled := true
  actionsAllowed := false
  mentionsAllowed := false
  materialPackOptions := []
  businessScopeHash := "bsh1:0"

def unscopedAuthority : BusinessScopeAuthorityV1 := ⟨.unscoped, "bsh1:0", "bsr:0"⟩

theorem question_length : 1 ≤ "开放日".length ∧ "开放日".length ≤ 400 := by decide

theorem half_range : (0 : ℚ) ≤ 1 / 2 ∧ (1 / 2 : ℚ) ≤ 1 := by norm_num

/-- The documents know one question. -/
def recallMatch : KnowledgeQaMatch where
  status := .matched
  candidates := [⟨"开放日", question_length, 1 / 2, half_range⟩]
  candidates_length := by simp

/-- The approved knowledge takes too long. -/
def answer : (c : RecallCall) → c.Answer
  | .approvedStatic => .error .timeoutError
  | .document => .ok recallMatch

theorem payloads (collection : ApprovedStaticRecallCollectionV1)
    (payload : ApprovedStaticShortcutPayloadV1) (h : answer .approvedStatic = .ok collection) :
    collection.shortcutPayload = some payload → payload.Checked encoding := nomatch h

theorem modest (match' : KnowledgeQaMatch) (h : answer .document = .ok match') :
    match'.candidates.length ≤ 5 ∧
      ∀ candidate ∈ match'.candidates, jsonStringBytes candidate.question ≤ 627 := by
  cases h
  refine ⟨by decide, fun candidate hmem => ?_⟩
  obtain rfl := List.mem_singleton.mp hmem
  decide

/-- The transition of the turn. -/
theorem exists_transition : ∃ transition,
    ((collectPreplannerRecall recallEncoding questionDigest plainEncoding emptyPolicy
      unscopedAuthority .advisory).run answer).2 = .ok transition := by
  have hstatic : collectStatic recallEncoding (answer .approvedStatic) =
      .ok ({ sourceClass := .approvedStatic, unavailable := true }, none) := rfl
  have hfailures (e : RecallException) (h : answer .document = .error e) : e.FailsOpen = true :=
    nomatch h
  obtain ⟨document, hdocument, hmodest⟩ := modest_of_collectDocument recallEncoding
    questionDigest hfailures modest
  exact (returns_iff_of_collectStatic (by decide) payloads hstatic).mpr (.inr (advisable_of_modest
    (collected_of_collectStatic hstatic) ⟨.inl rfl, nofun⟩ hdocument hmodest))

end OneDocumentQuestion

/-! ### A turn that the approved knowledge answers -/

namespace ApprovedQuestion

open OneDocumentQuestion

/-- A policy for questions about the company. -/
def knowledgePolicy : PolicyManifestV2 :=
  { emptyPolicy with
    allowedReplyModes := [.knowledgeAnswer]
    eligibleCapabilities := [⟨.answerInternalCompanyKnowledge, .v20260718n1⟩] }

/-- The entry of the approved knowledge that answers the question. -/
def payload : ApprovedStaticShortcutPayloadV1 where
  candidateId := "open-day"
  canonicalId := "open-day"
  selectedManifestRef := ⟨.answerInternalCompanyKnowledge, .v20260718n1⟩
  selectedMediaAssetIds := []
  confidence := 1
  question := "开放日"
  replyText := "周五"
  evidenceText := "开放日是周五"
  sourceId := "open-day"
  replyTextHash := default
  evidenceTextHash := default

theorem confidence_range : (0 : ℚ) ≤ 1 ∧ (1 : ℚ) ≤ 1 := by norm_num

def collection : ApprovedStaticRecallCollectionV1 where
  recallMatch := {
    status := .matched
    decision := .recallHit
    candidates := [{
      entryId := "open-day"
      canonicalId := "open-day"
      question := "开放日"
      question_length
      sourceType := .approvedStaticKnowledge
      confidence := 1
      confidence_range
      answerAvailable := true }]
    candidates_length := by simp }
  shortcutPayload := some payload

/-- The approved knowledge has the answer, and the documents know the question too. -/
def approvedAnswer : (c : RecallCall) → c.Answer
  | .approvedStatic => .ok collection
  | .document => .ok recallMatch

def hasPlan : Except RecallException PreplannerRecallTransitionV1 → Bool
  | .ok transition => transition.shortcutPlan.isSome
  | .error _ => false

theorem exists_shortcut : ∃ transition,
    ((collectPreplannerRecall recallEncoding questionDigest plainEncoding knowledgePolicy
      unscopedAuthority .shortcut).run approvedAnswer).2 = .ok transition ∧
    transition.shortcutPlan.isSome := by
  have hplan : hasPlan ((collectPreplannerRecall recallEncoding questionDigest plainEncoding
      knowledgePolicy unscopedAuthority .shortcut).run approvedAnswer).2 = true := by
    decide +kernel
  revert hplan
  generalize ((collectPreplannerRecall recallEncoding questionDigest plainEncoding
    knowledgePolicy unscopedAuthority .shortcut).run approvedAnswer).2 = result
  intro hplan
  cases result with
  | error e => cases hplan
  | ok transition => exact ⟨transition, rfl, hplan⟩

end ApprovedQuestion

/-! ## The whole flow -/

/-- The collectors that were asked for a transition. -/
def askedFor (mode : RecallModeV1) (transition : PreplannerRecallTransitionV1) : List RecallCall :=
  if mode = .off then []
  else if transition.shortcutPlan.isSome then [.approvedStatic]
  else [.approvedStatic, .document]

/-- Every transition is sound, and no collector is asked that it does not need. -/
theorem collectPreplannerRecall_sound (encoding : RecallEncoding) (digest : Sha256Hex)
    (planEncoding : PlanEncoding) (policy : PolicyManifestV2)
    (authority : BusinessScopeAuthorityV1) (mode : RecallModeV1)
    {l : List (Exchange RecallCall RecallCall.Answer)} {transition : PreplannerRecallTransitionV1}
    (trace : Program.Trace
      (collectPreplannerRecall encoding digest planEncoding policy authority mode) l
      (.ok transition)) :
    transition.Sound encoding planEncoding policy mode ∧
      l.map (·.1) = askedFor mode transition := by
  refine trace.wp (Q := fun l result => ∀ transition, result = .ok transition →
    transition.Sound encoding planEncoding policy mode ∧
      l.map (·.1) = askedFor mode transition) ?_ transition rfl
  unfold collectPreplannerRecall
  split_ifs with hmode
  · rw [Program.wp_ofExcept]
    intro transition h
    rw [hmode]
    exact ⟨(disabledRecallTransition_sound h).1, rfl⟩
  · refine Program.wp_bind.mpr fun answer => Program.wp_ofExcept_bind ?_ fun _ _ _ h => nomatch h
    rintro ⟨static, payload⟩ hstatic
    have hcollected := collected_of_collectStatic hstatic
    refine Program.wp_ofExcept_bind ?_ fun _ _ _ h => nomatch h
    intro shortcut hshortcut
    cases shortcut with
    | some transition =>
      rintro _ ⟨⟩
      unfold attemptShortcut at hshortcut
      split at hshortcut
      · split_ifs at hshortcut with hmodeShortcut
        · subst hmodeShortcut
          obtain ⟨hsound, hplan⟩ := shortcutTransition_sound hcollected hshortcut
          exact ⟨hsound, by simp [askedFor, hplan]⟩
        · exact absurd hshortcut nofun
      · exact absurd hshortcut nofun
    | none =>
      refine Program.wp_bind.mpr fun answer => Program.wp_ofExcept_bind ?_ fun _ _ _ h => nomatch h
      intro document hdocument transition h
      obtain ⟨hsound, hplan⟩ := advisoryTransition_sound planEncoding policy hmode hcollected
          (collected_of_collectDocument hdocument) h
      exact ⟨hsound, by simp [askedFor, hmode, hplan]⟩

open OneDocumentQuestion ApprovedQuestion in
/-- A turn with advice from the documents, and one whose shortcut leaves them unasked. -/
theorem collectPreplannerRecall_sound_shortcut :
    (∃ transition, ((collectPreplannerRecall recallEncoding questionDigest plainEncoding emptyPolicy
        unscopedAuthority .advisory).run answer).2 = .ok transition ∧
      transition.Sound recallEncoding plainEncoding emptyPolicy .advisory ∧
      ((collectPreplannerRecall recallEncoding questionDigest plainEncoding emptyPolicy
        unscopedAuthority .advisory).run answer).1.map (·.1) = askedFor .advisory transition) ∧
    ∃ transition, ((collectPreplannerRecall recallEncoding questionDigest plainEncoding
        knowledgePolicy unscopedAuthority .shortcut).run approvedAnswer).2 = .ok transition ∧
      transition.shortcutPlan.isSome ∧
      transition.Sound recallEncoding plainEncoding knowledgePolicy .shortcut ∧
      ((collectPreplannerRecall recallEncoding questionDigest plainEncoding knowledgePolicy
        unscopedAuthority .shortcut).run approvedAnswer).1.map (·.1) = [.approvedStatic] := by
  constructor
  · obtain ⟨transition, h⟩ := exists_transition
    have trace := Program.trace_run answer (collectPreplannerRecall recallEncoding questionDigest
      plainEncoding emptyPolicy unscopedAuthority .advisory)
    rw [h] at trace
    exact ⟨transition, h, collectPreplannerRecall_sound _ _ _ _ _ _ trace⟩
  · obtain ⟨transition, h, hplan⟩ := exists_shortcut
    have trace := Program.trace_run approvedAnswer (collectPreplannerRecall recallEncoding
      questionDigest plainEncoding knowledgePolicy unscopedAuthority .shortcut)
    rw [h] at trace
    obtain ⟨hsound, hasked⟩ := collectPreplannerRecall_sound _ _ _ _ _ _ trace
    rw [askedFor, if_neg (by decide), if_pos hplan] at hasked
    exact ⟨transition, h, hplan, hsound, hasked⟩

/-- Recall returns exactly when it is off, or a failure that a collector raises is one that leaves
its branch unavailable, and a shortcut is taken or the counts of both branches and the size of
the merged candidates are within their bounds. -/
theorem collectPreplannerRecall_returns_iff (encoding : RecallEncoding) (digest : Sha256Hex)
    (planEncoding : PlanEncoding) (policy : PolicyManifestV2)
    (authority : BusinessScopeAuthorityV1) (mode : RecallModeV1)
    (answer : (c : RecallCall) → c.Answer)
    (payloads : ∀ collection payload, answer .approvedStatic = .ok collection →
      collection.shortcutPayload = some payload → payload.Checked encoding) :
    (∃ transition, ((collectPreplannerRecall encoding digest planEncoding policy authority
      mode).run answer).2 = .ok transition) ↔
        mode = .off ∨ Returnable encoding digest planEncoding policy authority mode answer := by
  by_cases hmode : mode = .off
  · rw [collectPreplannerRecall, if_pos hmode]
    exact iff_of_true (exists_disabledRecallTransition encoding) (.inl hmode)
  rw [or_iff_right hmode]
  constructor
  · rintro ⟨transition, h⟩
    cases hstatic : collectStatic encoding (answer .approvedStatic) with
    | error e =>
      rw [collectPreplannerRecall, if_neg hmode, Program.run_bind] at h
      change (Except.ok (answer .approvedStatic) >>= _) = _ at h
      simp only [ok_bind, Program.run_bind] at h
      change (collectStatic encoding (answer .approvedStatic) >>= _) = _ at h
      rw [hstatic] at h
      exact absurd h nofun
    | ok collected =>
      exact ⟨collected.1, collected.2, hstatic,
        (returns_iff_of_collectStatic hmode payloads hstatic).mp ⟨transition, h⟩⟩
  · rintro ⟨static, payload, hstatic, h⟩
    exact (returns_iff_of_collectStatic hmode payloads hstatic).mpr h

open OneDocumentQuestion in
theorem collectPreplannerRecall_returns_iff_document : Returnable recallEncoding questionDigest
    plainEncoding emptyPolicy unscopedAuthority .advisory answer :=
  ((collectPreplannerRecall_returns_iff recallEncoding questionDigest plainEncoding emptyPolicy
    unscopedAuthority .advisory answer payloads).mp exists_transition).resolve_left (by decide)

/-- Recall fails open when both collectors have at most five candidates with questions of at most
627 bytes, or fail as collectors do: it returns a transition. -/
theorem collectPreplannerRecall_fails_open (encoding : RecallEncoding) (digest : Sha256Hex)
    (planEncoding : PlanEncoding) (policy : PolicyManifestV2)
    (authority : BusinessScopeAuthorityV1) (mode : RecallModeV1)
    (answer : (c : RecallCall) → c.Answer)
    (payloads : ∀ collection payload, answer .approvedStatic = .ok collection →
      collection.shortcutPayload = some payload → payload.Checked encoding)
    (staticFailures : ∀ e, answer .approvedStatic = .error e → e.FailsOpen = true)
    (documentFailures : ∀ e, answer .document = .error e → e.FailsOpen = true)
    (static : ∀ collection, answer .approvedStatic = .ok collection →
      collection.recallMatch.candidates.length ≤ 5 ∧
      ∀ candidate ∈ collection.recallMatch.candidates, jsonStringBytes candidate.question ≤ 627)
    (document : ∀ recallMatch, answer .document = .ok recallMatch →
      recallMatch.candidates.length ≤ 5 ∧
      ∀ candidate ∈ recallMatch.candidates, jsonStringBytes candidate.question ≤ 627) :
    ∃ transition, ((collectPreplannerRecall encoding digest planEncoding policy authority
      mode).run answer).2 = .ok transition := by
  by_cases hmode : mode = .off
  · rw [collectPreplannerRecall, if_pos hmode]
    exact exists_disabledRecallTransition encoding
  obtain ⟨collected, payload, hstatic, modest⟩ := modest_of_collectStatic staticFailures static
  obtain ⟨documents, hdocument, modest'⟩ := modest_of_collectDocument encoding digest
    documentFailures document
  exact (returns_iff_of_collectStatic hmode payloads hstatic).mpr
    (.inr (advisable_of_modest (collected_of_collectStatic hstatic) modest hdocument modest'))

open OneDocumentQuestion in
theorem collectPreplannerRecall_fails_open_document : ∃ transition,
    ((collectPreplannerRecall recallEncoding questionDigest plainEncoding emptyPolicy
      unscopedAuthority .shortcut).run answer).2 = .ok transition :=
  collectPreplannerRecall_fails_open recallEncoding questionDigest plainEncoding emptyPolicy
    unscopedAuthority .shortcut answer payloads (fun e h => by cases h; rfl)
    (fun _ h => nomatch h) (fun _ h => nomatch h) modest

end MarketSupport.Recall
